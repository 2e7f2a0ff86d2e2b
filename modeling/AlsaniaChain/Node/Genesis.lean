import AlsaniaChain.Node.Contracts
import AlsaniaChain.Runtime.Precompiles
import AlsaniaChain.Library.FiniteMap

/-! # The genesis EVM accounts

`testnet_genesis` (`node/src/chain_spec.rs`) gives the EVM pallet one genesis account for each
contract `parse_contracts` loaded, holding the contract's bytecode, and one for each address of
`used_addresses()`, holding `PUSH1 0x00 PUSH1 0x00 REVERT`. The two iterators are chained, the
precompiles second, and collected into a `BTreeMap`, which keeps the last value of a key.

* `evmAccounts_spec`: the keys are the contracts' and the precompiles'; a precompile address
  holds the stub even when a contract was loaded there; every other contract keeps its bytecode;
  and every account has zero nonce, zero balance and empty storage.
* `testnetGenesisAccounts_dir`: since the loader loads nothing from a directory (for a reader
  with `Reader.Laws`), the genesis built from one holds exactly the seven precompile stubs.
-/

namespace AlsaniaChain.Genesis
open Serde FiniteMap Contracts Precompiles
set_option autoImplicit false

/-- `GenesisAccount`: the `U256` nonce and balance as naturals, the storage as its entries. -/
structure GenesisAccount where
  nonce : ℕ
  balance : ℕ
  storage : List (List UInt8 × List UInt8)
  code : List UInt8
  deriving DecidableEq, Repr

/-- `PUSH1 0x00 PUSH1 0x00 REVERT`: revert without returning data. -/
def revertStub : List UInt8 := [0x60, 0x00, 0x60, 0x00, 0xFD]

def precompileAccount : GenesisAccount := ⟨0, 0, [], revertStub⟩

def contractAccount (contract : Contract) : GenesisAccount := ⟨0, 0, [], contract.bytecode⟩

/-- `evm.accounts`: the loaded contracts, then the precompiles, collected into one map. -/
def evmAccounts (contracts : ContractMap) : AList (fun _ : H160 => GenesisAccount) :=
  insertAll (contracts.entries.map (fun e => (e.1, contractAccount e.2)) ++
    usedAddresses.map fun addr => (addr, precompileAccount)) ∅

/-- `parse_contracts(contracts_path).map_err(..).unwrap_or_default()`: an error is logged and
read as the empty map; a panic of the loader stops the builder (`none`). -/
def contractsOrDefault {ε : Type} : Outcome ε ContractMap → Option ContractMap
  | .ok m => some m
  | .error _ => some ∅
  | .panic => none

section Loader
variable {π : Type} (fs : String → Option String) (reader : Reader π)
  (parseH160 : String → Except String H160) (hexDecode : List UInt8 → Except String (List UInt8))
  (entrypointBytecode : List UInt8)

/-- The `evm.accounts` of `testnet_genesis(.., contracts_path)`. -/
def testnetGenesisAccounts (contractsPath : ContractsPath) :
    Option (AList (fun _ : H160 => GenesisAccount)) :=
  (contractsOrDefault
    (parseContracts fs reader parseH160 hexDecode entrypointBytecode contractsPath)).map evmAccounts

end Loader

/-! ## The collected map -/

theorem lookup_evmAccounts (contracts : ContractMap) (x : H160) :
    (evmAccounts contracts).lookup x =
      if x ∈ usedAddresses then some precompileAccount
      else (contracts.lookup x).map contractAccount := by
  have hpre : ((usedAddresses.map fun addr => (addr, precompileAccount)).map Prod.fst).Nodup := by
    rw [List.map_map]
    exact usedAddresses_nodup
  unfold evmAccounts
  rw [insertAll_append, lookup_insertAll_of_nodup _ hpre,
    lookup_insertAll_of_nodup _ (nodup_map_entries contracts contractAccount),
    lookup_map_const, lookup_map_entries]
  by_cases hx : x ∈ usedAddresses
  · simp [hx]
  · simp [hx]

theorem mem_evmAccounts (contracts : ContractMap) (x : H160) :
    x ∈ evmAccounts contracts ↔ x ∈ contracts ∨ x ∈ usedAddresses := by
  rw [← AList.lookup_isSome, lookup_evmAccounts]
  by_cases hx : x ∈ usedAddresses
  · simp [hx]
  · simp [hx, AList.lookup_isSome]

/-- For every map of loaded contracts: the accounts are those of the contracts and of the
precompiles; a precompile address holds the revert stub, also where a contract was loaded; every
other contract keeps its bytecode; and no account has a nonce, a balance or storage. -/
theorem evmAccounts_spec (contracts : ContractMap) :
    (∀ x, x ∈ evmAccounts contracts ↔ x ∈ contracts ∨ x ∈ usedAddresses) ∧
      (∀ p ∈ usedAddresses,
        ((evmAccounts contracts).lookup p).map GenesisAccount.code =
          some [0x60, 0x00, 0x60, 0x00, 0xFD]) ∧
      (∀ x ∈ contracts, x ∉ usedAddresses →
        ((evmAccounts contracts).lookup x).map GenesisAccount.code =
          (contracts.lookup x).map Contract.bytecode) ∧
      (∀ x acc, (evmAccounts contracts).lookup x = some acc →
        acc.nonce = 0 ∧ acc.balance = 0 ∧ acc.storage = []) := by
  refine ⟨mem_evmAccounts contracts, ?_, ?_, ?_⟩
  · intro p hp
    rw [lookup_evmAccounts, if_pos hp]
    rfl
  · intro x _ hx
    rw [lookup_evmAccounts, if_neg hx, Option.map_map]
    rfl
  · intro x acc h
    rw [lookup_evmAccounts] at h
    split_ifs at h
    · cases h
      exact ⟨rfl, rfl, rfl⟩
    · obtain ⟨c, -, rfl⟩ := Option.map_eq_some_iff.mp h
      exact ⟨rfl, rfl, rfl⟩

/-! ## Built from a directory -/

section Loader
variable {π : Type} (fs : String → Option String) {reader : Reader π}
  (parseH160 : String → Except String H160) (hexDecode : List UInt8 → Except String (List UInt8))
  (entrypointBytecode : List UInt8)

/-- A chain spec built from a contracts directory has exactly the seven precompile stubs as its
EVM accounts, whatever the directory holds. -/
theorem testnetGenesisAccounts_dir (hreader : reader.Laws) (path : String) :
    ∃ accounts,
      testnetGenesisAccounts fs reader parseH160 hexDecode entrypointBytecode (.some path) =
        some accounts ∧
      ∀ x, accounts.lookup x = if x ∈ usedAddresses then some precompileAccount else none := by
  have hempty : ∀ x, (evmAccounts ∅).lookup x =
      if x ∈ usedAddresses then some precompileAccount else none := by
    intro x
    rw [lookup_evmAccounts]
    split_ifs <;> simp
  refine ⟨evmAccounts ∅, ?_, hempty⟩
  unfold testnetGenesisAccounts
  rcases parseContracts_some_cases fs parseH160 hexDecode hreader entrypointBytecode path with
    h | ⟨e, h⟩ | h <;> rw [h] <;> rfl

end Loader

end AlsaniaChain.Genesis
