import AlsaniaChain.Primitives

/-! # The runtime's EVM precompile set

`OpenZeppelinPrecompiles` (`runtime/src/precompiles.rs`) writes its set of precompiles twice:
as the guarded arms of `execute`, which dispatch a code address to a precompile, and as the
array `used_addresses()`, which `is_precompile` and the genesis builder consult.

* `dispatch` is the match of `execute`; `execute` runs the dispatched precompile on the handle.
  The precompiles' own `execute` functions come from `pallet_evm_precompile_*` and are a
  parameter `runPrecompile`.
* `precompile_set_agreement`: for every address, `execute` answers exactly when `is_precompile`
  does, exactly for the seven used addresses, which are pairwise distinct and each dispatched to
  its own precompile.
-/

namespace AlsaniaChain.Precompiles
open BigEndian
set_option autoImplicit false

/-- The seven precompiles the set dispatches to. -/
inductive Precompile where
  | ecRecover
  | sha256
  | ripemd160
  | identity
  | modexp
  | sha3Fips256
  | ecRecoverPublicKey
  deriving DecidableEq, Repr

/-- `IsPrecompileResult::Answer`. -/
structure IsPrecompileResult where
  isPrecompile : Bool
  extraCost : UInt64
  deriving DecidableEq, Repr

def hash (a : UInt64) : H160 := H160.fromLowU64Be a

def usedAddresses : List H160 :=
  [hash 1, hash 2, hash 3, hash 4, hash 5, hash 1024, hash 1025]

/-- The guarded arms of `execute`, in their order. -/
def dispatch (a : H160) : Option Precompile :=
  if a = hash 1 then some .ecRecover
  else if a = hash 2 then some .sha256
  else if a = hash 3 then some .ripemd160
  else if a = hash 4 then some .identity
  else if a = hash 5 then some .modexp
  else if a = hash 1024 then some .sha3Fips256
  else if a = hash 1025 then some .ecRecoverPublicKey
  else none

section Execute
variable {Handle Result : Type} (codeAddress : Handle → H160)
  (runPrecompile : Precompile → Handle → Result)

/-- `PrecompileSet::execute`. -/
def execute (handle : Handle) : Option Result :=
  (dispatch (codeAddress handle)).map fun p => runPrecompile p handle

end Execute

/-- `PrecompileSet::is_precompile`; the gas is not read. -/
def isPrecompile (address : H160) (_gas : UInt64) : IsPrecompileResult :=
  ⟨usedAddresses.contains address, 0⟩

/-! ## The address table -/

theorem hash_injective {k k' : UInt64} (h : hash k = hash k') : k = k' :=
  H160.fromLowU64Be_injective h

theorem ofBytes_hash (k : UInt64) : ofBytes (hash k).bytes = k.toNat :=
  H160.ofBytes_fromLowU64Be k

theorem usedAddresses_eq_map :
    usedAddresses = [(1 : UInt64), 2, 3, 4, 5, 1024, 1025].map hash := rfl

theorem usedAddresses_nodup : usedAddresses.Nodup := by
  rw [usedAddresses_eq_map]
  apply List.Nodup.map (fun _ _ h => hash_injective h)
  decide

/-- The arms answer on an address exactly when it is one of the used addresses. -/
theorem dispatch_isSome_iff (a : H160) : (dispatch a).isSome ↔ a ∈ usedAddresses := by
  unfold dispatch
  split_ifs with h1 h2 h3 h4 h5 h6 h7 <;> simp [usedAddresses, *]

theorem dispatch_usedAddresses :
    usedAddresses.map dispatch =
      [some .ecRecover, some .sha256, some .ripemd160, some .identity, some .modexp,
        some .sha3Fips256, some .ecRecoverPublicKey] := by
  decide

theorem isPrecompile_iff (a : H160) (gas : UInt64) :
    (isPrecompile a gas).isPrecompile = true ↔ a ∈ usedAddresses := by
  unfold isPrecompile
  show usedAddresses.contains a = true ↔ _
  simp

/-- The two writings of the set agree on every address and every handle: `execute` answers
exactly when `is_precompile` says yes, for any gas, exactly on the used addresses; these are
seven distinct addresses, and each one runs its own precompile. -/
theorem precompile_set_agreement {Handle Result : Type} (codeAddress : Handle → H160)
    (runPrecompile : Precompile → Handle → Result) :
    (∀ (handle : Handle) (gas : UInt64),
      ((execute codeAddress runPrecompile handle).isSome ↔
          (isPrecompile (codeAddress handle) gas).isPrecompile = true) ∧
        ((isPrecompile (codeAddress handle) gas).isPrecompile = true ↔
          codeAddress handle ∈ usedAddresses)) ∧
      usedAddresses.Nodup ∧
      usedAddresses.map dispatch =
        [some .ecRecover, some .sha256, some .ripemd160, some .identity, some .modexp,
          some .sha3Fips256, some .ecRecoverPublicKey] ∧
      (∀ handle : Handle, ∀ p, dispatch (codeAddress handle) = some p →
        execute codeAddress runPrecompile handle = some (runPrecompile p handle)) := by
  refine ⟨?_, usedAddresses_nodup, dispatch_usedAddresses, ?_⟩
  · intro handle gas
    have hexec : (execute codeAddress runPrecompile handle).isSome =
        (dispatch (codeAddress handle)).isSome := by
      unfold execute
      cases dispatch (codeAddress handle) <;> rfl
    rw [hexec, dispatch_isSome_iff, isPrecompile_iff]
    exact ⟨Iff.rfl, Iff.rfl⟩
  · intro handle p hp
    unfold execute
    rw [hp]
    rfl

end AlsaniaChain.Precompiles
