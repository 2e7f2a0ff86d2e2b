import AlsaniaChain.Node.Genesis
import AlsaniaChain.Runtime.AssetConversion

/-! # Which contracts a chain spec predeploys, by command line

`Cli::load_spec` (`node/src/command.rs`) builds the chain spec of every invocation of the node:
the node itself, with no sub-command, and each sub-command (`build-spec`, `export-genesis-head`,
`check-block`, ...). For the built-in chain ids it calls `development_config` or
`local_testnet_config` with a `ContractsPath`, which `testnet_genesis` hands to `parse_contracts`;
a spec read from a JSON file carries its own genesis. The path comes from
`Subcommand::contract_directory` (`node/src/cli.rs`): only `build-spec` reads its two flags,
every other sub-command gives `ContractsPath::None`, and without a sub-command
`unwrap_or_default` gives `ContractsPath::Default`, the EntryPoint contract.

* `genesisAccountsFor`: the EVM genesis accounts for each of the three paths.
* `loadSpec_evmAccounts`: for a built-in chain id the genesis holds the seven precompile stubs
  and, besides them, the EntryPoint contract exactly when the node runs without a sub-command or
  `build-spec` is given neither flag. So `export-genesis-head` and `export-genesis-wasm` describe
  a genesis without the EntryPoint account that the running node's genesis has.
-/

namespace AlsaniaChain.Command
open Serde Contracts Genesis Precompiles AssetConversion
set_option autoImplicit false

/-- The node's sub-commands. `build-spec` carries its `--no-predeployed-contracts` and
`--predeployed-contracts` flags; the options of the others play no part in the contracts. -/
inductive Subcommand where
  | buildSpec (noPredeployedContracts : Bool) (predeployedContracts : Option String)
  | checkBlock
  | exportBlocks
  | exportState
  | importBlocks
  | revert
  | purgeChain
  | exportGenesisHead
  | exportGenesisWasm
  | benchmark
  | tryRuntime
  deriving DecidableEq, Repr

/-- `Subcommand::contract_directory`. -/
def Subcommand.contractDirectory : Subcommand → ContractsPath
  | .buildSpec true _ => .none
  | .buildSpec false none => .default
  | .buildSpec false (some path) => .some path
  | _ => .none

/-- The part of `Cli` that `load_spec` reads. -/
structure Cli where
  subcommand : Option Subcommand

/-- The chain spec `load_spec` returns: a built-in configuration with the contracts path it is
given, or a spec read from a JSON file. -/
inductive ChainSpec where
  | development (contractsPath : ContractsPath)
  | localTestnet (contractsPath : ContractsPath)
  | fromJsonFile (path : String)

/-- The free function `load_spec(id, contracts_path)`. -/
def loadSpec (id : String) (contractsPath : ContractsPath) : ChainSpec :=
  match id with
  | "dev" => .development contractsPath
  | "template-paseo" => .localTestnet contractsPath
  | "" | "local" => .localTestnet contractsPath
  | path => .fromJsonFile path

/-- `SubstrateCli::load_spec` for `Cli`: `ContractsPath::Default`, the `#[default]` variant, when
there is no sub-command. -/
def Cli.loadSpec (cli : Cli) (id : String) : ChainSpec :=
  AlsaniaChain.Command.loadSpec id
    ((cli.subcommand.map Subcommand.contractDirectory).getD .default)

/-- The chain ids `load_spec` builds a configuration for. -/
def builtinIds : List String := ["dev", "template-paseo", "", "local"]

def isDefaultPath : ContractsPath → Bool
  | .default => true
  | _ => false

section Loader
variable {π : Type} (fs : String → Option String) (reader : Reader π)
  (parseH160 : String → Except String H160) (hexDecode : List UInt8 → Except String (List UInt8))
  (entrypointBytecode : List UInt8)

/-- The `evm.accounts` of a built-in spec's genesis; `none` for a spec read from a file, whose
genesis this model does not read, and for a builder that panicked. -/
def ChainSpec.evmAccounts : ChainSpec → Option (AList (fun _ : H160 => GenesisAccount))
  | .development p | .localTestnet p =>
    testnetGenesisAccounts fs reader parseH160 hexDecode entrypointBytecode p
  | .fromJsonFile _ => none

/-- What the genesis holds at `x` for a contracts path: the stub at a precompile address, the
EntryPoint contract at its address for `ContractsPath::Default`, and nothing elsewhere. -/
def genesisAccountsFor (p : ContractsPath) (x : H160) : Option GenesisAccount :=
  if x ∈ usedAddresses then some precompileAccount
  else if x = entrypointAddress ∧ isDefaultPath p then
    some (contractAccount (entrypointContract entrypointBytecode))
  else none

/-! ## The three paths -/

theorem entrypointAddress_not_mem_usedAddresses : entrypointAddress ∉ usedAddresses := by
  decide

theorem lookup_entrypoint_map (x : H160) :
    (((∅ : ContractMap).insert entrypointAddress (entrypointContract entrypointBytecode)).lookup
        x).map contractAccount =
      if x = entrypointAddress then some (contractAccount (entrypointContract entrypointBytecode))
      else none := by
  by_cases hx : x = entrypointAddress
  · subst hx
    rw [AList.lookup_insert, if_pos rfl]
    rfl
  · rw [AList.lookup_insert_ne hx, AList.lookup_empty, if_neg hx]
    rfl

theorem testnetGenesisAccounts_lookup (hreader : reader.Laws) (p : ContractsPath) :
    ∃ accounts, testnetGenesisAccounts fs reader parseH160 hexDecode entrypointBytecode p =
        some accounts ∧
      ∀ x, accounts.lookup x = genesisAccountsFor entrypointBytecode p x := by
  cases p with
  | none =>
    refine ⟨evmAccounts ∅, rfl, fun x => ?_⟩
    rw [lookup_evmAccounts]
    simp [genesisAccountsFor, isDefaultPath]
  | default =>
    refine ⟨_, rfl, fun x => ?_⟩
    rw [lookup_evmAccounts, lookup_entrypoint_map]
    by_cases hx : x ∈ usedAddresses
    · simp [genesisAccountsFor, hx]
    · simp [genesisAccountsFor, isDefaultPath, hx]
  | some path =>
    obtain ⟨accounts, hacc, hlookup⟩ :=
      testnetGenesisAccounts_dir fs parseH160 hexDecode entrypointBytecode hreader path
    refine ⟨accounts, hacc, fun x => ?_⟩
    rw [hlookup]
    simp [genesisAccountsFor, isDefaultPath]

/-! ## From the command line -/

theorem loadSpec_builtin {id : String} (hid : id ∈ builtinIds) (p : ContractsPath) :
    (loadSpec id p).evmAccounts fs reader parseH160 hexDecode entrypointBytecode =
      testnetGenesisAccounts fs reader parseH160 hexDecode entrypointBytecode p := by
  simp only [builtinIds, List.mem_cons, List.not_mem_nil, or_false] at hid
  rcases hid with rfl | rfl | rfl | rfl <;> rfl

theorem evmAccounts_loadSpec (hreader : reader.Laws) (cli : Cli) {id : String}
    (hid : id ∈ builtinIds) :
    ∃ accounts, (cli.loadSpec id).evmAccounts fs reader parseH160 hexDecode entrypointBytecode =
        some accounts ∧
      ∀ x, accounts.lookup x = genesisAccountsFor entrypointBytecode
        ((cli.subcommand.map Subcommand.contractDirectory).getD .default) x := by
  obtain ⟨accounts, hacc, hlookup⟩ := testnetGenesisAccounts_lookup fs reader parseH160
    hexDecode entrypointBytecode hreader
    ((cli.subcommand.map Subcommand.contractDirectory).getD .default)
  refine ⟨accounts, ?_, hlookup⟩
  rw [Cli.loadSpec, loadSpec_builtin fs reader parseH160 hexDecode entrypointBytecode hid, hacc]

theorem contractsPath_isDefault_iff (cli : Cli) :
    isDefaultPath ((cli.subcommand.map Subcommand.contractDirectory).getD .default) = true ↔
      cli.subcommand = none ∨ cli.subcommand = some (.buildSpec false none) := by
  rcases cli with ⟨_ | sub⟩
  · simp [isDefaultPath]
  · cases sub with
    | buildSpec no path =>
      cases no <;> cases path <;> simp [Subcommand.contractDirectory, isDefaultPath]
    | _ => simp [Subcommand.contractDirectory, isDefaultPath]

/-- For a built-in chain id, the EVM genesis of the spec holds the precompile stubs and, besides
them, the EntryPoint contract exactly when the node runs without a sub-command or `build-spec`
is given neither flag. -/
theorem loadSpec_evmAccounts (hreader : reader.Laws) (cli : Cli) {id : String}
    (hid : id ∈ builtinIds) :
    ∃ accounts, (cli.loadSpec id).evmAccounts fs reader parseH160 hexDecode entrypointBytecode =
        some accounts ∧
      ∀ x, accounts.lookup x =
        if x ∈ usedAddresses then some precompileAccount
        else if x = entrypointAddress ∧
            (cli.subcommand = none ∨ cli.subcommand = some (.buildSpec false none)) then
          some (contractAccount (entrypointContract entrypointBytecode))
        else none := by
  obtain ⟨accounts, hacc, hlookup⟩ :=
    evmAccounts_loadSpec fs reader parseH160 hexDecode entrypointBytecode hreader cli hid
  refine ⟨accounts, hacc, fun x => ?_⟩
  rw [hlookup, genesisAccountsFor]
  simp only [contractsPath_isDefault_iff]

/-! ## Foreign-asset addresses -/

theorem head_usedAddresses : ∀ p ∈ usedAddresses, p.bytes.head? = some 0 := by
  decide

theorem assetIdToAccount_head {n : BitVec 128} {a : H160}
    (ha : assetIdToAccount foreignAssetPrecompileAddressPrefix n = some a) :
    a.bytes.head? = some 255 := by
  have hpre : foreignAssetPrecompileAddressPrefix.length = 4 := rfl
  obtain ⟨a', ha', hbytes⟩ := assetIdToAccount_bytes hpre n
  rw [ha, Option.some.injEq] at ha'
  subst ha'
  rw [hbytes]
  rfl

/-- The address of a foreign asset answers no precompile, and no spec built from a built-in
chain id, by any command line, has a genesis account there. -/
theorem assetAddress_unserved (hreader : reader.Laws) (cli : Cli) {id : String}
    (hid : id ∈ builtinIds)
    (n : BitVec 128) {a : H160}
    (ha : assetIdToAccount foreignAssetPrecompileAddressPrefix n = some a) :
    (∀ gas, (isPrecompile a gas).isPrecompile = false) ∧ dispatch a = none ∧
      ∃ accounts, (cli.loadSpec id).evmAccounts fs reader parseH160 hexDecode entrypointBytecode =
          some accounts ∧ accounts.lookup a = none := by
  have hhead := assetIdToAccount_head ha
  have hused : a ∉ usedAddresses := fun hmem => by
    have := head_usedAddresses a hmem
    rw [hhead] at this
    cases this
  have hentry : a ≠ entrypointAddress := fun h => by
    rw [h] at hhead
    cases hhead
  obtain ⟨accounts, hacc, hlookup⟩ :=
    evmAccounts_loadSpec fs reader parseH160 hexDecode entrypointBytecode hreader cli hid
  refine ⟨fun gas => ?_, ?_, accounts, hacc, ?_⟩
  · cases h : (isPrecompile a gas).isPrecompile with
    | false => rfl
    | true => exact absurd ((isPrecompile_iff a gas).mp h) hused
  · cases h : dispatch a with
    | none => rfl
    | some p => exact absurd ((dispatch_isSome_iff a).mp (by rw [h]; rfl)) hused
  · rw [hlookup, genesisAccountsFor, if_neg hused, if_neg (fun h => hentry h.1)]

end Loader

/-- The first foreign asset's address on the node run on `dev`. -/
theorem assetAddress_unserved_first_asset :
    (Reader.ofParse fun _ => (.error () : Except Unit Json)).Laws ∧ "dev" ∈ builtinIds ∧
      assetIdToAccount foreignAssetPrecompileAddressPrefix 1 =
        some ⟨[255, 255, 255, 255, 0, 0, 0, 0, 0, 0, 0, 0, 0, 0, 0, 0, 0, 0, 0, 1], rfl⟩ ∧
      dispatch ⟨[255, 255, 255, 255, 0, 0, 0, 0, 0, 0, 0, 0, 0, 0, 0, 0, 0, 0, 0, 1], rfl⟩ =
        none := by
  have hlaws := Reader.ofParse_laws fun _ => (.error () : Except Unit Json)
  have hdev : "dev" ∈ builtinIds := by decide
  have ha : assetIdToAccount foreignAssetPrecompileAddressPrefix 1 =
      some ⟨[255, 255, 255, 255, 0, 0, 0, 0, 0, 0, 0, 0, 0, 0, 0, 0, 0, 0, 0, 1], rfl⟩ := by
    decide
  exact ⟨hlaws, hdev, ha, (assetAddress_unserved (fun _ => none) _ (fun _ => .error "")
    (fun _ => .error "") [] hlaws ⟨none⟩ hdev 1 ha).2.1⟩

/-- The node run on `dev` has the EntryPoint account in its genesis; `export-genesis-head` on
`dev` builds a genesis without it. -/
theorem loadSpec_evmAccounts_export_genesis_head :
    (Reader.ofParse fun _ => (.error () : Except Unit Json)).Laws ∧ "dev" ∈ builtinIds ∧
      (∃ accounts, (Cli.loadSpec ⟨none⟩ "dev").evmAccounts (fun _ => none)
          (Reader.ofParse fun _ => (.error () : Except Unit Json)) (fun _ => .error "")
          (fun _ => .error "") [0xfe] = some accounts ∧
        accounts.lookup entrypointAddress =
          some (contractAccount (entrypointContract [0xfe]))) ∧
      ∃ accounts, (Cli.loadSpec ⟨some .exportGenesisHead⟩ "dev").evmAccounts (fun _ => none)
          (Reader.ofParse fun _ => (.error () : Except Unit Json)) (fun _ => .error "")
          (fun _ => .error "") [0xfe] = some accounts ∧
        accounts.lookup entrypointAddress = none := by
  have hlaws := Reader.ofParse_laws fun _ => (.error () : Except Unit Json)
  have hdev : "dev" ∈ builtinIds := by decide
  obtain ⟨run, hrun, hrunx⟩ := loadSpec_evmAccounts (fun _ => none) _ (fun _ => .error "")
    (fun _ => .error "") [0xfe] hlaws ⟨none⟩ hdev
  obtain ⟨exported, hexport, hexportx⟩ := loadSpec_evmAccounts (fun _ => none) _
    (fun _ => .error "") (fun _ => .error "") [0xfe] hlaws ⟨some .exportGenesisHead⟩ hdev
  refine ⟨hlaws, hdev, ⟨run, hrun, ?_⟩, exported, hexport, ?_⟩
  · simp [hrunx, entrypointAddress_not_mem_usedAddresses]
  · simp [hexportx, entrypointAddress_not_mem_usedAddresses]

end AlsaniaChain.Command
