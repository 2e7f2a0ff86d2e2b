import AlsaniaChain.Library.BigEndian

/-! # Twenty-byte addresses

`sp_core::H160` and the runtime's `AccountId` (`fp_account::AccountId20`) are both twenty bytes,
and the `From`/`Into` conversions between them and `[u8; 20]` copy the bytes; the model uses the
one type `H160` for all three.

* `H160`: the bytes with their length as a field, so that no address of another length exists.
* `H160.fromLowU64Be`: `H160::from_low_u64_be`, the big-endian value padded with twelve zero
  bytes, which reads back as the value it was built from (`ofBytes_fromLowU64Be`) and is therefore
  injective (`fromLowU64Be_injective`).
* `H160.copyFromSlice`: `data[lo..hi].copy_from_slice(src)` on a twenty-byte array, `none` where
  Rust panics.

It also holds frame_system's `RawOrigin`, which the token pallet and the XCM origin converter
both read.
-/

namespace AlsaniaChain
open BigEndian
set_option autoImplicit false

/-- A twenty-byte address. -/
structure H160 where
  bytes : List UInt8
  length_bytes : bytes.length = 20
  deriving DecidableEq, Repr

namespace H160

@[ext] theorem ext {a b : H160} (h : a.bytes = b.bytes) : a = b := by
  cases a
  cases b
  subst h
  rfl

def zero : H160 := ⟨List.replicate 20 0, rfl⟩

/-- `H160::from_low_u64_be(k)`: twelve zero bytes, then the eight big-endian bytes of `k`. -/
def fromLowU64Be (k : UInt64) : H160 :=
  ⟨List.replicate 12 0 ++ toBytes 8 k.toNat, by simp⟩

theorem ofBytes_fromLowU64Be (k : UInt64) : ofBytes (fromLowU64Be k).bytes = k.toNat := by
  have hk : k.toNat < 256 ^ 8 := k.toNat_lt
  simp only [fromLowU64Be]
  rw [ofBytes_replicate_zero_append, ofBytes_toBytes_of_lt hk]

theorem fromLowU64Be_injective {k k' : UInt64} (h : fromLowU64Be k = fromLowU64Be k') : k = k' := by
  have h' := congrArg (fun a => ofBytes a.bytes) h
  simp only [ofBytes_fromLowU64Be] at h'
  exact UInt64.toNat_inj.mp h'

/-- `data[lo..hi].copy_from_slice(src)`: the bytes of `src` replace those in `lo..hi`. Rust
panics, here `none`, unless the range lies in the array and `src` has its length. -/
def copyFromSlice (data : H160) (lo hi : ℕ) (src : List UInt8) : Option H160 :=
  if h : src.length = hi - lo ∧ lo ≤ hi ∧ hi ≤ 20 then
    some ⟨data.bytes.take lo ++ src ++ data.bytes.drop hi, by
      simp only [List.length_append, List.length_take, List.length_drop, data.length_bytes]
      omega⟩
  else none

theorem copyFromSlice_bytes (data : H160) (lo hi : ℕ) (src : List UInt8)
    (h : src.length = hi - lo) (hlo : lo ≤ hi) (hhi : hi ≤ 20) :
    ∃ d, copyFromSlice data lo hi src = some d ∧
      d.bytes = data.bytes.take lo ++ src ++ data.bytes.drop hi := by
  simp [copyFromSlice, h, hlo, hhi]

theorem copyFromSlice_eq_none (data : H160) (lo hi : ℕ) (src : List UInt8)
    (h : src.length ≠ hi - lo) : copyFromSlice data lo hi src = none := by
  simp [copyFromSlice, h]

end H160

/-- frame_system's `RawOrigin`: what a call is dispatched as. -/
inductive RawOrigin (AccountId : Type) where
  | root
  | signed (who : AccountId)
  | none
  deriving DecidableEq, Repr

end AlsaniaChain
