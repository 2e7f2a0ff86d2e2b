import Mathlib

/-! # Big-endian byte strings of naturals

What Rust's `to_be_bytes` and `from_be_bytes` on unsigned integers compute, and what
`from_low_u64_be` pads with: a natural number becomes `w` bytes, most significant first, and a
list of bytes reads back as a natural.

* `toBytes w n` and `ofBytes l`, with `length_toBytes` and `ofBytes_lt`;
* the round trips `ofBytes_toBytes` (as `n % 256 ^ w`, exact below `256 ^ w`) and
  `toBytes_ofBytes`, hence injectivity of `toBytes w` below `256 ^ w`;
* `ofBytes_append`, which reads a prefix of zero bytes as nothing (`ofBytes_replicate_zero_append`).
-/

namespace AlsaniaChain.BigEndian
set_option autoImplicit false

/-- The `w` big-endian bytes of `n`; bits above `8 * w` are dropped. -/
def toBytes : ℕ → ℕ → List UInt8
  | 0, _ => []
  | w + 1, n => toBytes w (n / 256) ++ [UInt8.ofNat (n % 256)]

/-- The natural number whose big-endian bytes are `l`. -/
def ofBytes (l : List UInt8) : ℕ :=
  l.foldl (fun acc b => 256 * acc + b.toNat) 0

@[simp] theorem toBytes_zero (n : ℕ) : toBytes 0 n = [] := rfl

theorem toBytes_succ (w n : ℕ) :
    toBytes (w + 1) n = toBytes w (n / 256) ++ [UInt8.ofNat (n % 256)] := rfl

@[simp] theorem length_toBytes (w n : ℕ) : (toBytes w n).length = w := by
  induction w generalizing n with
  | zero => rfl
  | succ w ih => simp [toBytes_succ, ih]

theorem foldl_ofBytes (acc : ℕ) (l : List UInt8) :
    l.foldl (fun acc b => 256 * acc + b.toNat) acc = acc * 256 ^ l.length + ofBytes l := by
  induction l generalizing acc with
  | nil => simp [ofBytes]
  | cons b l ih =>
    simp only [List.foldl_cons, ofBytes, List.length_cons]
    rw [ih, ih (256 * 0 + b.toNat)]
    ring

@[simp] theorem ofBytes_nil : ofBytes [] = 0 := rfl

theorem ofBytes_append (l₁ l₂ : List UInt8) :
    ofBytes (l₁ ++ l₂) = ofBytes l₁ * 256 ^ l₂.length + ofBytes l₂ := by
  unfold ofBytes
  rw [List.foldl_append]
  exact foldl_ofBytes _ l₂

theorem ofBytes_concat (l : List UInt8) (b : UInt8) :
    ofBytes (l ++ [b]) = 256 * ofBytes l + b.toNat := by
  rw [ofBytes_append]
  simp [ofBytes]
  ring

theorem ofBytes_lt (l : List UInt8) : ofBytes l < 256 ^ l.length := by
  induction l using List.reverseRec with
  | nil => simp
  | append_singleton l b ih =>
    have hb : b.toNat < 256 := b.toNat_lt
    rw [ofBytes_concat, List.length_append, List.length_singleton, pow_succ]
    omega

theorem ofBytes_toBytes (w n : ℕ) : ofBytes (toBytes w n) = n % 256 ^ w := by
  induction w generalizing n with
  | zero => simp [Nat.mod_one]
  | succ w ih =>
    have hlow : (UInt8.ofNat (n % 256)).toNat = n % 256 := by simp
    rw [toBytes_succ, ofBytes_concat, ih, hlow]
    rw [pow_succ, mul_comm (256 ^ w) 256, Nat.mod_mul]
    omega

theorem ofBytes_toBytes_of_lt {w n : ℕ} (h : n < 256 ^ w) : ofBytes (toBytes w n) = n := by
  rw [ofBytes_toBytes, Nat.mod_eq_of_lt h]

theorem toBytes_ofBytes (l : List UInt8) : toBytes l.length (ofBytes l) = l := by
  induction l using List.reverseRec with
  | nil => rfl
  | append_singleton l b ih =>
    have hb : b.toNat < 256 := b.toNat_lt
    rw [List.length_append, List.length_singleton, toBytes_succ, ofBytes_concat]
    have hdiv : (256 * ofBytes l + b.toNat) / 256 = ofBytes l := by omega
    have hmod : (256 * ofBytes l + b.toNat) % 256 = b.toNat := by omega
    rw [hdiv, hmod, ih, UInt8.ofNat_toNat]

theorem toBytes_inj_of_lt {w n m : ℕ} (hn : n < 256 ^ w) (hm : m < 256 ^ w)
    (h : toBytes w n = toBytes w m) : n = m := by
  have := congrArg ofBytes h
  rwa [ofBytes_toBytes_of_lt hn, ofBytes_toBytes_of_lt hm] at this

theorem ofBytes_replicate_zero_append (k : ℕ) (l : List UInt8) :
    ofBytes (List.replicate k 0 ++ l) = ofBytes l := by
  have hz : ofBytes (List.replicate k 0) = 0 := by
    induction k with
    | zero => rfl
    | succ k ih =>
      rw [List.replicate_succ', ofBytes_concat, ih]
      rfl
  rw [ofBytes_append, hz, Nat.zero_mul, Nat.zero_add]

end AlsaniaChain.BigEndian
