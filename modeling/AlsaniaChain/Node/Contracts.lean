import AlsaniaChain.Node.Abi
import AlsaniaChain.Library.Text
import AlsaniaChain.Primitives

/-! # The genesis contract loader

`parse_contracts` (`node/src/contracts/mod.rs`) reads `contracts.json` in a directory, a list of
`{address, filename}` entries, and for each entry reads the artifact in `filename` as a
`Contract`: an untagged enum trying a Hardhat artifact (`bytecode` a string) and then a Forge one
(`bytecode.object` a string). Both strings go through `deserialize_bytecode`, which takes a
`&str`, slices it at byte 2 and hex-decodes the rest. An entry whose file cannot be opened or
parsed is skipped.

The file system (`fs`), the `H160` hex decoding of `impl-serde` (`parseH160`), `hex::decode`
(`hexDecode`, with its error's `to_string`), the 16650-byte `ENTRYPOINT_BYTECODE`, and the reader
with its `&str` impl (`reader`, `Library/Serde`) are parameters. The results assume of the reader
only `Reader.Laws`: `from_reader` deserializes with transient strings, and `&str` accepts only
borrowed ones.

* `deserializeBytecode_transient_rejects`: handed a string by `from_reader`, as both of its
  callers are, `deserialize_bytecode` returns an error for `"0x00"`, the bytecode `[0x00]`, as for
  every other document, and never panics.
* `parseContracts_loads_nothing`: so no artifact deserializes, every entry is skipped, and the
  loader returns the empty map whenever `contracts.json` reads; it never panics.
-/

namespace AlsaniaChain.Contracts
open Serde Serde.Outcome Abi
set_option autoImplicit false

/-! ## Artifacts -/

structure HardhatContract where
  abi : List AbiItem
  bytecode : List UInt8
  deriving Repr

structure ForgeBytecode where
  object : List UInt8
  deriving Repr

structure ForgeContract where
  abi : List AbiItem
  bytecode : ForgeBytecode
  deriving Repr

inductive Contract where
  | hardhat (c : HardhatContract)
  | forge (c : ForgeContract)
  deriving Repr

/-- `Contract::bytecode`. -/
def Contract.bytecode : Contract → List UInt8
  | .hardhat c => c.bytecode
  | .forge c => c.bytecode.object

section Artifacts
variable (deStr : StrMode → Json → Outcome DeError String)
  (hexDecode : List UInt8 → Except String (List UInt8)) (mode : StrMode)

/-- `deserialize_bytecode`: `&s[2..]` hex-decoded; a decoding error becomes a custom error
carrying its text. -/
def deserializeBytecode (v : Json) : Outcome DeError (List UInt8) := do
  let s ← deStr mode v
  match Utf8.sliceFrom (Utf8.asBytes s) 2 with
  | none => .panic
  | some rest => (ofExcept (hexDecode rest)).mapError .custom

def hardhatContractVisitor :
    StructVisitor (Option (List AbiItem) × Option (List UInt8)) HardhatContract where
  name := "HardhatContract"
  fields := ["abi", "bytecode"]
  init := (none, none)
  has k acc := if k = "abi" then acc.1.isSome else acc.2.isSome
  put k v acc :=
    if k = "abi" then deSeq deAbiItem v >>= fun x => .ok (some x, acc.2)
    else deserializeBytecode deStr hexDecode mode v >>= fun x => .ok (acc.1, some x)
  finish
    | (none, _) => .error (.missingField "abi")
    | (some _, none) => .error (.missingField "bytecode")
    | (some abi, some bytecode) => .ok ⟨abi, bytecode⟩

def forgeBytecodeVisitor : StructVisitor (Option (List UInt8)) ForgeBytecode where
  name := "ForgeBytecode"
  fields := ["object"]
  init := none
  has _ acc := acc.isSome
  put _ v _ := deserializeBytecode deStr hexDecode mode v >>= fun x => .ok (some x)
  finish
    | none => .error (.missingField "object")
    | some object => .ok ⟨object⟩

def forgeContractVisitor :
    StructVisitor (Option (List AbiItem) × Option ForgeBytecode) ForgeContract where
  name := "ForgeContract"
  fields := ["abi", "bytecode"]
  init := (none, none)
  has k acc := if k = "abi" then acc.1.isSome else acc.2.isSome
  put k v acc :=
    if k = "abi" then deSeq deAbiItem v >>= fun x => .ok (some x, acc.2)
    else (forgeBytecodeVisitor deStr hexDecode mode).deStruct v >>= fun x => .ok (acc.1, some x)
  finish
    | (none, _) => .error (.missingField "abi")
    | (some _, none) => .error (.missingField "bytecode")
    | (some abi, some bytecode) => .ok ⟨abi, bytecode⟩

/-- `#[serde(untagged)]` on `Contract`: `Hardhat`, then `Forge`. -/
def deContract (v : Json) : Outcome DeError Contract :=
  untagged "Contract"
    [(hardhatContractVisitor deStr hexDecode mode).deStruct v >>= fun c => .ok (.hardhat c),
      (forgeContractVisitor deStr hexDecode mode).deStruct v >>= fun c => .ok (.forge c)]

end Artifacts

/-! ## The loader -/

structure ContractMetadata where
  address : H160
  filename : String

inductive ContractsPath where
  | none
  | default
  | some (path : String)

/-- `ContractParsingError`; the `io::Error` of a failed open is left out. -/
inductive ContractParsingError (π : Type) where
  | metadataReadError
  | metadataParseError (e : JsonError π)

/-- `Path::join` on Unix: an absolute `rel` replaces `base`; otherwise a separator goes between
them unless `base` is empty or already ends in one. -/
def pathJoin (base rel : String) : String :=
  if rel.toList.head? = some '/' then rel
  else if base.toList.getLast?.all (· == '/') then base ++ rel
  else base ++ "/" ++ rel

/-- `entrypoint_address()`, `0x81ead4918134AE386dbd04346216E20AB8F822C4`. -/
def entrypointAddress : H160 :=
  ⟨[0x81, 0xea, 0xd4, 0x91, 0x81, 0x34, 0xae, 0x38, 0x6d, 0xbd, 0x04, 0x34, 0x62, 0x16, 0xe2,
    0x0a, 0xb8, 0xf8, 0x22, 0xc4], rfl⟩

/-- `entrypoint_contract()`: a Hardhat contract with no ABI and `ENTRYPOINT_BYTECODE`. -/
def entrypointContract (entrypointBytecode : List UInt8) : Contract :=
  .hardhat ⟨[], entrypointBytecode⟩

/-- The `HashMap<H160, Contract>` the loader fills. -/
abbrev ContractMap := AList (fun _ : H160 => Contract)

section Loader
variable {π : Type} (fs : String → Option String) (reader : Reader π)
  (parseH160 : String → Except String H160) (hexDecode : List UInt8 → Except String (List UInt8))

/-- `H160`'s `Deserialize` from `impl-serde`: a string, decoded by `parseH160`. Its visitor takes
transient strings. -/
def deH160 : Json → Outcome DeError H160
  | .string s => (ofExcept (parseH160 s)).mapError .custom
  | v => .error (.invalidType v.unexpected
      "a (both 0x-prefixed or not) hex string or byte array containing 20 bytes")

def contractMetadataVisitor : StructVisitor (Option H160 × Option String) ContractMetadata where
  name := "ContractMetadata"
  fields := ["address", "filename"]
  init := (none, none)
  has k acc := if k = "address" then acc.1.isSome else acc.2.isSome
  put k v acc :=
    if k = "address" then deH160 parseH160 v >>= fun x => .ok (some x, acc.2)
    else deString v >>= fun x => .ok (acc.1, some x)
  finish
    | (none, _) => .error (.missingField "address")
    | (some _, none) => .error (.missingField "filename")
    | (some address, some filename) => .ok ⟨address, filename⟩

/-- The loop over the entries of `contracts.json`: an entry whose file cannot be opened or
parsed is skipped (after a message); a parsed contract is inserted under its address. -/
def parseContractsLoop (path : String) :
    ContractMap → List ContractMetadata → Outcome (ContractParsingError π) ContractMap
  | res, [] => .ok res
  | res, ⟨address, filename⟩ :: rest =>
    match fs (pathJoin path filename) with
    | none => parseContractsLoop path res rest
    | some text =>
      match reader.read (deContract reader.deStr hexDecode) text with
      | .ok contract => parseContractsLoop path (res.insert address contract) rest
      | .error _ => parseContractsLoop path res rest
      | .panic => .panic

/-- `parse_contracts`. -/
def parseContracts (entrypointBytecode : List UInt8) :
    ContractsPath → Outcome (ContractParsingError π) ContractMap
  | .none => .ok ∅
  | .default => .ok ((∅ : ContractMap).insert entrypointAddress
      (entrypointContract entrypointBytecode))
  | .some path =>
    match fs (pathJoin path "contracts.json") with
    | none => .error .metadataReadError
    | some text =>
      match reader.read (fun _ => deSeq (contractMetadataVisitor parseH160).deStruct) text with
      | .ok metadatas => parseContractsLoop fs reader hexDecode path ∅ metadatas
      | .error e => .error (.metadataParseError e)
      | .panic => .panic

end Loader

/-! ## Transient strings -/

section Transient
variable {deStr : StrMode → Json → Outcome DeError String}
  (hexDecode : List UInt8 → Except String (List UInt8))

theorem deserializeBytecode_transient_ne_ok (hstr : ∀ v s, deStr .transient v ≠ .ok s)
    (v : Json) (b : List UInt8) : deserializeBytecode deStr hexDecode .transient v ≠ .ok b := by
  intro h
  obtain ⟨s, hs, -⟩ := bind_eq_ok.mp h
  exact hstr v s hs

theorem deserializeBytecode_transient_noPanic (hstr : ∀ v s, deStr .transient v ≠ .ok s)
    (hpanic : NoPanic (deStr .transient)) :
    NoPanic (deserializeBytecode deStr hexDecode .transient) := by
  intro v
  refine bind_ne_panic (hpanic v) fun s hs => absurd hs (hstr v s)

theorem deserializeBytecode_transient_error (hstr : ∀ v s, deStr .transient v ≠ .ok s)
    (hpanic : NoPanic (deStr .transient)) (v : Json) :
    ∃ e, deserializeBytecode deStr hexDecode .transient v = .error e := by
  cases h : deserializeBytecode deStr hexDecode .transient v with
  | ok b => exact absurd h (deserializeBytecode_transient_ne_ok hexDecode hstr v b)
  | error e => exact ⟨e, rfl⟩
  | panic => exact absurd h (deserializeBytecode_transient_noPanic hexDecode hstr hpanic v)

/-- Handed a string by `from_reader`, `deserialize_bytecode` rejects `"0x00"`, the bytecode
`[0x00]`, with an error: the `&str` refuses the transient string before it is sliced. -/
theorem deserializeBytecode_transient_rejects {π : Type} (reader : Reader π)
    (hreader : reader.Laws) (hexDecode : List UInt8 → Except String (List UInt8)) :
    ∃ e, deserializeBytecode reader.deStr hexDecode .transient (.string "0x00") = .error e :=
  deserializeBytecode_transient_error hexDecode hreader.deStr_transient_ne_ok
    (hreader.deStr_noPanic .transient) _

/-- serde's `&str` and the `hex` crate: from a borrowed string `"0x00"` is the bytecode `[0x00]`,
from `from_reader` an error. -/
theorem deserializeBytecode_transient_rejects_serde :
    (Reader.ofParse fun _ => (.error () : Except Unit Json)).Laws ∧
      deserializeBytecode (Reader.ofParse fun _ => (.error () : Except Unit Json)).deStr
          (fun b => (Hex.decode b).mapError Hex.FromHexError.toString) .borrowed
          (.string "0x00") = .ok [0x00] ∧
      ∃ e, deserializeBytecode (Reader.ofParse fun _ => (.error () : Except Unit Json)).deStr
        (fun b => (Hex.decode b).mapError Hex.FromHexError.toString) .transient
        (.string "0x00") = .error e :=
  ⟨Reader.ofParse_laws _, rfl, deserializeBytecode_transient_rejects _ (Reader.ofParse_laws _)
    (fun b => (Hex.decode b).mapError Hex.FromHexError.toString)⟩

theorem deAbiItems_noPanic : NoPanic (deSeq deAbiItem) := deSeq_noPanic deAbiItem_noPanic

/-- With transient strings a Hardhat artifact never deserializes: its `bytecode` slot can never
be filled. -/
theorem hardhatContract_transient_ne_ok (hstr : ∀ v s, deStr .transient v ≠ .ok s) (v : Json)
    (c : HardhatContract) :
    (hardhatContractVisitor deStr hexDecode .transient).deStruct v ≠ .ok c := by
  refine StructVisitor.deStruct_ne_ok (fun acc => acc.2 = none) rfl ?_ ?_ v c
  · intro k w acc acc' hacc h
    dsimp only [hardhatContractVisitor] at h
    split_ifs at h
    · obtain ⟨x, -, hx⟩ := bind_eq_ok.mp h
      cases hx
      exact hacc
    · obtain ⟨x, hx, -⟩ := bind_eq_ok.mp h
      exact absurd hx (deserializeBytecode_transient_ne_ok hexDecode hstr w x)
  · intro acc a hacc
    obtain ⟨abi, bytecode⟩ := acc
    dsimp only at hacc
    subst hacc
    cases abi <;> simp [hardhatContractVisitor]

theorem forgeBytecode_transient_ne_ok (hstr : ∀ v s, deStr .transient v ≠ .ok s) (v : Json)
    (b : ForgeBytecode) : (forgeBytecodeVisitor deStr hexDecode .transient).deStruct v ≠ .ok b := by
  refine StructVisitor.deStruct_ne_ok (fun acc => acc = none) rfl ?_ ?_ v b
  · intro k w acc acc' _ h
    obtain ⟨x, hx, -⟩ := bind_eq_ok.mp h
    exact absurd hx (deserializeBytecode_transient_ne_ok hexDecode hstr w x)
  · intro acc a hacc
    subst hacc
    simp [forgeBytecodeVisitor]

theorem forgeContract_transient_ne_ok (hstr : ∀ v s, deStr .transient v ≠ .ok s) (v : Json)
    (c : ForgeContract) :
    (forgeContractVisitor deStr hexDecode .transient).deStruct v ≠ .ok c := by
  refine StructVisitor.deStruct_ne_ok (fun acc => acc.2 = none) rfl ?_ ?_ v c
  · intro k w acc acc' hacc h
    dsimp only [forgeContractVisitor] at h
    split_ifs at h
    · obtain ⟨x, -, hx⟩ := bind_eq_ok.mp h
      cases hx
      exact hacc
    · obtain ⟨x, hx, -⟩ := bind_eq_ok.mp h
      exact absurd hx (forgeBytecode_transient_ne_ok hexDecode hstr w x)
  · intro acc a hacc
    obtain ⟨abi, bytecode⟩ := acc
    dsimp only at hacc
    subst hacc
    cases abi <;> simp [forgeContractVisitor]

theorem forgeBytecode_transient_noPanic (hstr : ∀ v s, deStr .transient v ≠ .ok s)
    (hpanic : NoPanic (deStr .transient)) :
    NoPanic (forgeBytecodeVisitor deStr hexDecode .transient).deStruct := by
  refine StructVisitor.deStruct_noPanic ?_ ?_
  · intro k w acc
    exact bind_ne_panic (deserializeBytecode_transient_noPanic hexDecode hstr hpanic w)
      fun _ _ => by simp
  · intro acc
    cases acc <;> simp [forgeBytecodeVisitor]

/-- With transient strings an artifact is never a `Contract`, and reading it never panics. -/
theorem deContract_transient (hstr : ∀ v s, deStr .transient v ≠ .ok s)
    (hpanic : NoPanic (deStr .transient)) (v : Json) :
    (∀ c, deContract deStr hexDecode .transient v ≠ .ok c) ∧
      deContract deStr hexDecode .transient v ≠ .panic := by
  have hhardhat : (hardhatContractVisitor deStr hexDecode .transient).deStruct v ≠ .panic := by
    refine StructVisitor.deStruct_noPanic ?_ ?_ v
    · intro k w acc
      dsimp only [hardhatContractVisitor]
      split_ifs
      · exact bind_ne_panic (deAbiItems_noPanic w) fun _ _ => by simp
      · exact bind_ne_panic (deserializeBytecode_transient_noPanic hexDecode hstr hpanic w)
          fun _ _ => by simp
    · intro acc
      dsimp only [hardhatContractVisitor]
      split <;> simp
  have hforge : (forgeContractVisitor deStr hexDecode .transient).deStruct v ≠ .panic := by
    refine StructVisitor.deStruct_noPanic ?_ ?_ v
    · intro k w acc
      dsimp only [forgeContractVisitor]
      split_ifs
      · exact bind_ne_panic (deAbiItems_noPanic w) fun _ _ => by simp
      · exact bind_ne_panic (forgeBytecode_transient_noPanic hexDecode hstr hpanic w)
          fun _ _ => by simp
    · intro acc
      dsimp only [forgeContractVisitor]
      split <;> simp
  constructor
  · apply untagged_ne_ok
    intro o ho c h
    simp only [List.mem_cons, List.not_mem_nil, or_false] at ho
    rcases ho with rfl | rfl
    · obtain ⟨x, hx, -⟩ := bind_eq_ok.mp h
      exact hardhatContract_transient_ne_ok hexDecode hstr v x hx
    · obtain ⟨x, hx, -⟩ := bind_eq_ok.mp h
      exact forgeContract_transient_ne_ok hexDecode hstr v x hx
  · apply untagged_noPanic
    intro o ho
    simp only [List.mem_cons, List.not_mem_nil, or_false] at ho
    rcases ho with rfl | rfl
    · exact bind_ne_panic hhardhat fun _ _ => by simp
    · exact bind_ne_panic hforge fun _ _ => by simp

end Transient

/-! ## The loader from a directory -/

section Loader
variable {π : Type} (fs : String → Option String) {reader : Reader π}
  (parseH160 : String → Except String H160) (hexDecode : List UInt8 → Except String (List UInt8))

/-- `from_reader` never reads a `Contract`, and never panics on one. -/
theorem read_deContract (hreader : reader.Laws) (text : String) :
    ∃ e, reader.read (deContract reader.deStr hexDecode) text = .error e := by
  obtain ⟨hstr, hpanic⟩ := And.intro hreader.deStr_transient_ne_ok
    (hreader.deStr_noPanic .transient)
  cases h : reader.read (deContract reader.deStr hexDecode) text with
  | ok c =>
    obtain ⟨v, hv⟩ := hreader.read_ok _ text c h
    exact absurd hv ((deContract_transient hexDecode hstr hpanic v).1 c)
  | error e => exact ⟨e, rfl⟩
  | panic =>
    exact absurd h (hreader.read_noPanic _ text fun v => (deContract_transient hexDecode hstr
      hpanic v).2)

/-- Every entry is skipped: the loop returns the map it started with. -/
theorem parseContractsLoop_eq (hreader : reader.Laws) (path : String) :
    ∀ metadatas res, parseContractsLoop fs reader hexDecode path res metadatas = .ok res := by
  intro metadatas
  induction metadatas with
  | nil => intro res; rfl
  | cons m rest ih =>
    intro res
    obtain ⟨address, filename⟩ := m
    rw [parseContractsLoop]
    cases fs (pathJoin path filename) with
    | none => exact ih res
    | some text =>
      obtain ⟨e, he⟩ := read_deContract hexDecode hreader text
      simp only [he]
      exact ih res

theorem deH160_noPanic : NoPanic (deH160 parseH160) := by
  intro v
  cases v <;> simp [deH160]

theorem deContractMetadatas_noPanic :
    NoPanic (deSeq (contractMetadataVisitor parseH160).deStruct) := by
  refine deSeq_noPanic (StructVisitor.deStruct_noPanic ?_ ?_)
  · intro k w acc
    dsimp only [contractMetadataVisitor]
    split_ifs
    · exact bind_ne_panic (deH160_noPanic parseH160 w) fun _ _ => by simp
    · exact bind_ne_panic (deString_noPanic w) fun _ _ => by simp
  · intro acc
    dsimp only [contractMetadataVisitor]
    split <;> simp

/-- On a directory the loader ends in one of three ways: `contracts.json` cannot be read, it
does not parse, or the empty map. -/
theorem parseContracts_some_cases (hreader : reader.Laws) (entrypointBytecode : List UInt8)
    (path : String) :
    parseContracts fs reader parseH160 hexDecode entrypointBytecode (.some path) =
        .error .metadataReadError ∨
      (∃ e, parseContracts fs reader parseH160 hexDecode entrypointBytecode (.some path) =
        .error (.metadataParseError e)) ∨
      parseContracts fs reader parseH160 hexDecode entrypointBytecode (.some path) = .ok ∅ := by
  rw [parseContracts]
  cases fs (pathJoin path "contracts.json") with
  | none => exact .inl rfl
  | some text =>
    dsimp only
    cases h : reader.read (fun _ => deSeq (contractMetadataVisitor parseH160).deStruct) text with
    | ok metadatas =>
      exact .inr (.inr (parseContractsLoop_eq fs hexDecode hreader path metadatas ∅))
    | error e => exact .inr (.inl ⟨e, rfl⟩)
    | panic =>
      exact absurd h (hreader.read_noPanic _ text (deContractMetadatas_noPanic parseH160))

/-- `parse_contracts` on a directory loads no contract: whenever `contracts.json` can be read
and parsed as a list of entries, the result is the empty map, and the loader never panics. -/
theorem parseContracts_loads_nothing (hreader : reader.Laws) (entrypointBytecode : List UInt8)
    (path : String) :
    (∀ m, parseContracts fs reader parseH160 hexDecode entrypointBytecode (.some path) = .ok m →
        m = ∅) ∧
      parseContracts fs reader parseH160 hexDecode entrypointBytecode (.some path) ≠ .panic ∧
      (∀ text metadatas, fs (pathJoin path "contracts.json") = some text →
        reader.read (fun _ => deSeq (contractMetadataVisitor parseH160).deStruct) text =
          .ok metadatas →
        parseContracts fs reader parseH160 hexDecode entrypointBytecode (.some path) = .ok ∅) := by
  have hcases := parseContracts_some_cases fs parseH160 hexDecode hreader entrypointBytecode path
  refine ⟨?_, ?_, ?_⟩
  · intro m h
    rcases hcases with h' | ⟨e, h'⟩ | h' <;> rw [h'] at h <;> cases h
    rfl
  · rcases hcases with h' | ⟨e, h'⟩ | h' <;> rw [h'] <;> simp
  · intro text metadatas hfs hread
    rw [parseContracts, hfs]
    dsimp only
    rw [hread]
    exact parseContractsLoop_eq fs hexDecode hreader path metadatas ∅

end Loader

/-! ## One Hardhat artifact -/

/-- `D/contracts.json`: one entry, `0x…01` in `a.json`. -/
def oneArtifactListing : String :=
  "[\x7b\"address\": \"0x0000000000000000000000000000000000000001\", \"filename\": \"a.json\"\x7d]"

/-- `D/a.json`: a Hardhat artifact with no ABI and the bytecode `0x00`. -/
def oneArtifactText : String := "\x7b\"abi\": [], \"bytecode\": \"0x00\"\x7d"

/-- The directory `D`. -/
def oneArtifactFs (path : String) : Option String :=
  if path = "D/contracts.json" then some oneArtifactListing
  else if path = "D/a.json" then some oneArtifactText
  else none

/-- A JSON parser on the two files of `D`. -/
def oneArtifactParse (text : String) : Except Unit Json :=
  if text = oneArtifactListing then .ok (.array [.object [("address", .string "0x0000000000000000000000000000000000000001"),
    ("filename", .string "a.json")]])
  else if text = oneArtifactText then
    .ok (.object [("abi", .array []), ("bytecode", .string "0x00")])
  else .error ()

def oneArtifactH160 (s : String) : Except String H160 :=
  if s = "0x0000000000000000000000000000000000000001" then .ok (H160.fromLowU64Be 1)
  else .error "Invalid hex"

/-- `contracts.json` lists `0x…01` in `a.json`, which holds a Hardhat artifact (it reads as one
from a borrowed string), and still the loader returns the empty map. -/
theorem parseContracts_loads_nothing_one_artifact :
    (Reader.ofParse oneArtifactParse).Laws ∧
      (Reader.ofParse oneArtifactParse).read
          (fun _ => deSeq (contractMetadataVisitor oneArtifactH160).deStruct) oneArtifactListing =
        .ok [⟨H160.fromLowU64Be 1, "a.json"⟩] ∧
      oneArtifactFs (pathJoin "D" "a.json") = some oneArtifactText ∧
      deContract (Reader.ofParse oneArtifactParse).deStr
          (fun b => (Hex.decode b).mapError Hex.FromHexError.toString) .borrowed
          (.object [("abi", .array []), ("bytecode", .string "0x00")]) =
        .ok (.hardhat ⟨[], [0x00]⟩) ∧
      parseContracts oneArtifactFs (Reader.ofParse oneArtifactParse) oneArtifactH160
        (fun b => (Hex.decode b).mapError Hex.FromHexError.toString) [] (.some "D") = .ok ∅ := by
  have hread : (Reader.ofParse oneArtifactParse).read
      (fun _ => deSeq (contractMetadataVisitor oneArtifactH160).deStruct) oneArtifactListing =
        .ok [⟨H160.fromLowU64Be 1, "a.json"⟩] := rfl
  exact ⟨Reader.ofParse_laws _, hread, rfl, rfl,
    (parseContracts_loads_nothing oneArtifactFs oneArtifactH160
      (fun b => (Hex.decode b).mapError Hex.FromHexError.toString)
      (Reader.ofParse_laws _) [] "D").2.2 _ _ rfl hread⟩

end AlsaniaChain.Contracts
