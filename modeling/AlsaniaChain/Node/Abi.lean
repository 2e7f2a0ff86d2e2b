import AlsaniaChain.Library.Serde

/-! # The ABI entries of a contract artifact

`node/src/contracts/abi.rs` derives `Deserialize` for the entries of an artifact's `abi`:
`AbiItem` is internally tagged by `type` with its variants renamed to lower case, and its
variants hold the structs `Error`, `Function`, `Event` and `Receive`, whose `Input`s nest through
`components`. Each struct is a `StructVisitor` of `Library/Serde`.

`Input` is recursive, so its deserializer `deInput` is written out as a structural recursion over
the document; `deInput_eq` says it is the derived deserializer of `inputVisitor` with itself for
the nested inputs. No ABI field is a `&str`, so none of this depends on how the reader hands out
strings, and `deAbiItem_noPanic` says no document makes it panic.
-/

namespace AlsaniaChain.Abi
open Serde Serde.Outcome
set_option autoImplicit false

inductive StateMutability where
  | pure
  | view
  | nonpayable
  | payable
  deriving DecidableEq, Repr

structure Input where
  name : String
  type : String
  components : Option (List Input)
  indexed : Option Bool
  deriving Repr

structure Error where
  name : String
  inputs : List Input
  deriving Repr

structure Receive where
  stateMutability : StateMutability
  deriving Repr

structure Event where
  name : String
  inputs : List Input
  anonymous : Bool
  deriving Repr

structure Function where
  name : String
  inputs : List Input
  outputs : List Input
  stateMutability : StateMutability
  deriving Repr

inductive AbiItem where
  | error (e : Error)
  | function (f : Function)
  | constructor
  | event (e : Event)
  | receive (r : Receive)
  | default (f : Function)
  deriving Repr

/-! ## Field types -/

/-- `#[serde(rename_all = "lowercase")]` on `StateMutability`. -/
def deStateMutability : Json → Outcome DeError StateMutability :=
  deUnitVariant [("pure", .pure), ("view", .view), ("nonpayable", .nonpayable),
    ("payable", .payable)]

/-! ## `Input` -/

/-- The slots of `Input`'s visitor: `name`, `type`, `components`, `indexed`. -/
abbrev InputSlots :=
  Option String × Option String × Option (Option (List Input)) × Option (Option Bool)

def inputFields : List String := ["name", "type", "components", "indexed"]

/-- The derived visitor's read of one field of `Input`; `components` is the outcome of reading
the value as `Option<Vec<Input>>`. -/
def inputPut (components : Outcome DeError (Option (List Input))) (k : String) (v : Json)
    (acc : InputSlots) : Outcome DeError InputSlots :=
  if k = "name" then deString v >>= fun x => .ok (some x, acc.2)
  else if k = "type" then deString v >>= fun x => .ok (acc.1, some x, acc.2.2)
  else if k = "components" then components >>= fun x => .ok (acc.1, acc.2.1, some x, acc.2.2.2)
  else deOption deBool v >>= fun x => .ok (acc.1, acc.2.1, acc.2.2.1, some x)

/-- Missing `name` or `type` is an error; missing `Option` fields read as `None`. -/
def inputFinish : InputSlots → Outcome DeError Input
  | (none, _, _, _) => .error (.missingField "name")
  | (some _, none, _, _) => .error (.missingField "type")
  | (some name, some type, components, indexed) =>
    .ok ⟨name, type, components.getD none, indexed.getD none⟩

def inputHas (k : String) (acc : InputSlots) : Bool :=
  if k = "name" then acc.1.isSome
  else if k = "type" then acc.2.1.isSome
  else if k = "components" then acc.2.2.1.isSome
  else acc.2.2.2.isSome

/-- `Input`'s derived visitor, given the deserializer of the nested inputs. -/
def inputVisitor (deInputs : Json → Outcome DeError Input) : StructVisitor InputSlots Input where
  name := "Input"
  fields := inputFields
  init := (none, none, none, none)
  has := inputHas
  put k v acc := inputPut (deOption (deSeq deInputs) v) k v acc
  finish := inputFinish

mutual

/-- `<Input as Deserialize>::deserialize`. -/
def deInput : Json → Outcome DeError Input
  | .object entries => deInputEntries (none, none, none, none) entries >>= inputFinish
  | .array elems => do
    let (acc, rest) ← deInputElems (none, none, none, none) inputFields elems 0
    let a ← inputFinish acc
    match rest with
    | [] => return a
    | _ :: _ => .error (.invalidLength (4 + rest.length) (expectedInSeq 4))
  | v => .error (.invalidType v.unexpected "struct Input")

def deInputEntries : InputSlots → List (String × Json) → Outcome DeError InputSlots
  | acc, [] => .ok acc
  | acc, (k, v) :: rest =>
    if k ∈ inputFields then
      if inputHas k acc then .error (.duplicateField k)
      else inputPut (deComponents v) k v acc >>= fun acc' => deInputEntries acc' rest
    else deInputEntries acc rest

def deInputElems : InputSlots → List String → List Json → ℕ →
    Outcome DeError (InputSlots × List Json)
  | acc, [], rest, _ => .ok (acc, rest)
  | _, _ :: _, [], i => .error (.invalidLength i "struct Input with 4 elements")
  | acc, f :: fs, v :: vs, i =>
    inputPut (deComponents v) f v acc >>= fun acc' => deInputElems acc' fs vs (i + 1)

/-- `components: Option<Vec<Input>>`. -/
def deComponents : Json → Outcome DeError (Option (List Input))
  | .null => .ok none
  | .array elems => deInputList elems >>= fun l => .ok (some l)
  | v => .error (.invalidType v.unexpected "a sequence")

def deInputList : List Json → Outcome DeError (List Input)
  | [] => .ok []
  | v :: vs => do
    let a ← deInput v
    let as ← deInputList vs
    return a :: as

end

/-! ## The other structs -/

def errorVisitor :
    StructVisitor (Option String × Option (List Input)) Error where
  name := "Error"
  fields := ["name", "inputs"]
  init := (none, none)
  has k acc := if k = "name" then acc.1.isSome else acc.2.isSome
  put k v acc :=
    if k = "name" then deString v >>= fun x => .ok (some x, acc.2)
    else deSeq deInput v >>= fun x => .ok (acc.1, some x)
  finish
    | (none, _) => .error (.missingField "name")
    | (some _, none) => .error (.missingField "inputs")
    | (some name, some inputs) => .ok ⟨name, inputs⟩

def receiveVisitor : StructVisitor (Option StateMutability) Receive where
  name := "Receive"
  fields := ["stateMutability"]
  init := none
  has _ acc := acc.isSome
  put _ v _ := deStateMutability v >>= fun x => .ok (some x)
  finish
    | none => .error (.missingField "stateMutability")
    | some m => .ok ⟨m⟩

def eventVisitor :
    StructVisitor (Option String × Option (List Input) × Option Bool) Event where
  name := "Event"
  fields := ["name", "inputs", "anonymous"]
  init := (none, none, none)
  has k acc :=
    if k = "name" then acc.1.isSome else if k = "inputs" then acc.2.1.isSome else acc.2.2.isSome
  put k v acc :=
    if k = "name" then deString v >>= fun x => .ok (some x, acc.2)
    else if k = "inputs" then deSeq deInput v >>= fun x => .ok (acc.1, some x, acc.2.2)
    else deBool v >>= fun x => .ok (acc.1, acc.2.1, some x)
  finish
    | (none, _, _) => .error (.missingField "name")
    | (some _, none, _) => .error (.missingField "inputs")
    | (some _, some _, none) => .error (.missingField "anonymous")
    | (some name, some inputs, some anonymous) => .ok ⟨name, inputs, anonymous⟩

def functionVisitor :
    StructVisitor (Option String × Option (List Input) × Option (List Input) ×
      Option StateMutability) Function where
  name := "Function"
  fields := ["name", "inputs", "outputs", "stateMutability"]
  init := (none, none, none, none)
  has k acc :=
    if k = "name" then acc.1.isSome else if k = "inputs" then acc.2.1.isSome
    else if k = "outputs" then acc.2.2.1.isSome else acc.2.2.2.isSome
  put k v acc :=
    if k = "name" then deString v >>= fun x => .ok (some x, acc.2)
    else if k = "inputs" then deSeq deInput v >>= fun x => .ok (acc.1, some x, acc.2.2)
    else if k = "outputs" then deSeq deInput v >>= fun x => .ok (acc.1, acc.2.1, some x, acc.2.2.2)
    else deStateMutability v >>= fun x => .ok (acc.1, acc.2.1, acc.2.2.1, some x)
  finish
    | (none, _, _, _) => .error (.missingField "name")
    | (some _, none, _, _) => .error (.missingField "inputs")
    | (some _, some _, none, _) => .error (.missingField "outputs")
    | (some _, some _, some _, none) => .error (.missingField "stateMutability")
    | (some name, some inputs, some outputs, some m) => .ok ⟨name, inputs, outputs, m⟩

/-! ## `AbiItem` -/

/-- The variants of `AbiItem` as its tag names them. -/
inductive AbiItemTag where
  | error
  | function
  | constructor
  | event
  | receive
  | default
  deriving DecidableEq, Repr

def abiItemVariants : List (String × AbiItemTag) :=
  [("error", .error), ("function", .function), ("constructor", .constructor),
    ("event", .event), ("receive", .receive), ("default", .default)]

/-- `#[serde(tag = "type")]` on `AbiItem`: split off the tag, then read the variant from the rest
of the value. -/
def deAbiItem (v : Json) : Outcome DeError AbiItem := do
  let (tag, content) ← splitTag "type" "internally tagged enum AbiItem"
    (deVariantName abiItemVariants) v
  match tag with
  | .error => errorVisitor.deStruct content >>= fun e => .ok (.error e)
  | .function => functionVisitor.deStruct content >>= fun f => .ok (.function f)
  | .constructor => deTaggedUnit content >>= fun _ => .ok .constructor
  | .event => eventVisitor.deStruct content >>= fun e => .ok (.event e)
  | .receive => receiveVisitor.deStruct content >>= fun r => .ok (.receive r)
  | .default => functionVisitor.deStruct content >>= fun f => .ok (.default f)

/-! ## `deInput` is the derived deserializer -/

theorem deInputList_eq : ∀ elems, deInputList elems = deElems deInput elems
  | [] => rfl
  | v :: vs => by
    rw [deInputList, deElems, deInputList_eq vs]

theorem deComponents_eq (v : Json) : deComponents v = deOption (deSeq deInput) v := by
  cases v with
  | null => rfl
  | array elems =>
    rw [deComponents, deInputList_eq]
    rfl
  | _ => rfl

theorem deInputEntries_eq :
    ∀ entries acc, deInputEntries acc entries = (inputVisitor deInput).visitMap acc entries
  | [], _ => rfl
  | (k, v) :: rest, acc => by
    rw [deInputEntries, StructVisitor.visitMap, deComponents_eq]
    simp only [inputVisitor, deInputEntries_eq rest]
    rfl

theorem deInputElems_eq : ∀ fields elems acc i,
    deInputElems acc fields elems i = (inputVisitor deInput).visitSeq acc fields elems i
  | [], _, _, _ => by rw [deInputElems, StructVisitor.visitSeq]
  | _ :: _, [], _, _ => by rw [deInputElems, StructVisitor.visitSeq]; rfl
  | f :: fs, v :: vs, acc, i => by
    rw [deInputElems, StructVisitor.visitSeq, deComponents_eq]
    simp only [inputVisitor, deInputElems_eq fs vs]

/-- `deInput` is `Input`'s derived deserializer, reading nested inputs with itself. -/
theorem deInput_eq (v : Json) : deInput v = (inputVisitor deInput).deStruct v := by
  cases v with
  | object entries =>
    rw [deInput, deInputEntries_eq]
    rfl
  | array elems =>
    rw [deInput, deInputElems_eq]
    rfl
  | _ => rfl

/-! ## No ABI document panics -/

theorem inputPut_noPanic {components : Outcome DeError (Option (List Input))}
    (hc : components ≠ panic) (k : String) (v : Json) (acc : InputSlots) :
    inputPut components k v acc ≠ panic := by
  unfold inputPut
  split_ifs
  · exact bind_ne_panic (deString_noPanic v) fun _ _ => by simp
  · exact bind_ne_panic (deString_noPanic v) fun _ _ => by simp
  · exact bind_ne_panic hc fun _ _ => by simp
  · exact bind_ne_panic (deOption_noPanic deBool_noPanic v) fun _ _ => by simp

theorem inputFinish_noPanic (acc : InputSlots) : inputFinish acc ≠ panic := by
  unfold inputFinish
  split <;> simp

mutual

theorem deInput_noPanic : ∀ v, deInput v ≠ panic
  | .object entries => by
    rw [deInput]
    exact bind_ne_panic (deInputEntries_noPanic entries _) fun acc _ => inputFinish_noPanic acc
  | .array elems => by
    rw [deInput]
    refine bind_ne_panic (deInputElems_noPanic inputFields elems _ 0) fun ⟨acc, rest⟩ _ => ?_
    refine bind_ne_panic (inputFinish_noPanic acc) fun a _ => ?_
    cases rest <;> simp
  | .null | .bool _ | .number _ | .string _ => by simp [deInput]

theorem deInputEntries_noPanic : ∀ entries acc, deInputEntries acc entries ≠ panic
  | [], _ => by simp [deInputEntries]
  | (k, v) :: rest, acc => by
    rw [deInputEntries]
    split_ifs
    · simp
    · exact bind_ne_panic (inputPut_noPanic (deComponents_noPanic v) k v acc) fun acc' _ =>
        deInputEntries_noPanic rest acc'
    · exact deInputEntries_noPanic rest acc

theorem deInputElems_noPanic : ∀ fields elems acc i, deInputElems acc fields elems i ≠ panic
  | [], _, _, _ => by simp [deInputElems]
  | _ :: _, [], _, _ => by simp [deInputElems]
  | f :: fs, v :: vs, acc, i => by
    rw [deInputElems]
    exact bind_ne_panic (inputPut_noPanic (deComponents_noPanic v) f v acc) fun acc' _ =>
      deInputElems_noPanic fs vs acc' (i + 1)

theorem deComponents_noPanic : ∀ v, deComponents v ≠ panic
  | .null => by simp [deComponents]
  | .array elems => by
    rw [deComponents]
    exact bind_ne_panic (deInputList_noPanic elems) fun _ _ => by simp
  | .bool _ | .number _ | .string _ | .object _ => by simp [deComponents]

theorem deInputList_noPanic : ∀ elems, deInputList elems ≠ panic
  | [] => by simp [deInputList]
  | v :: vs => by
    rw [deInputList]
    exact bind_ne_panic (deInput_noPanic v) fun _ _ =>
      bind_ne_panic (deInputList_noPanic vs) fun _ _ => by simp

end

theorem deStateMutability_noPanic : NoPanic deStateMutability :=
  deUnitVariant_noPanic _

theorem deAbiItem_noPanic : NoPanic deAbiItem := by
  have hinputs : NoPanic (deSeq deInput) := deSeq_noPanic deInput_noPanic
  intro v
  unfold deAbiItem
  refine bind_ne_panic (splitTag_noPanic _ _ (deVariantName_noPanic _) v)
    fun ⟨tag, content⟩ _ => ?_
  cases tag with
  | error =>
    refine bind_ne_panic (StructVisitor.deStruct_noPanic ?_ ?_ content) fun _ _ => by simp
    · intro k w acc
      dsimp only [errorVisitor]
      split_ifs
      · exact bind_ne_panic (deString_noPanic w) fun _ _ => by simp
      · exact bind_ne_panic (hinputs w) fun _ _ => by simp
    · intro acc
      dsimp only [errorVisitor]
      split <;> simp
  | function | default =>
    refine bind_ne_panic (StructVisitor.deStruct_noPanic ?_ ?_ content) fun _ _ => by simp
    · intro k w acc
      dsimp only [functionVisitor]
      split_ifs
      · exact bind_ne_panic (deString_noPanic w) fun _ _ => by simp
      · exact bind_ne_panic (hinputs w) fun _ _ => by simp
      · exact bind_ne_panic (hinputs w) fun _ _ => by simp
      · exact bind_ne_panic (deStateMutability_noPanic w) fun _ _ => by simp
    · intro acc
      dsimp only [functionVisitor]
      split <;> simp
  | constructor => exact bind_ne_panic (deTaggedUnit_noPanic content) fun _ _ => by simp
  | event =>
    refine bind_ne_panic (StructVisitor.deStruct_noPanic ?_ ?_ content) fun _ _ => by simp
    · intro k w acc
      dsimp only [eventVisitor]
      split_ifs
      · exact bind_ne_panic (deString_noPanic w) fun _ _ => by simp
      · exact bind_ne_panic (hinputs w) fun _ _ => by simp
      · exact bind_ne_panic (deBool_noPanic w) fun _ _ => by simp
    · intro acc
      dsimp only [eventVisitor]
      split <;> simp
  | receive =>
    refine bind_ne_panic (StructVisitor.deStruct_noPanic ?_ ?_ content) fun _ _ => by simp
    · intro k w acc
      exact bind_ne_panic (deStateMutability_noPanic w) fun _ _ => by simp
    · intro acc
      dsimp only [receiveVisitor]
      split <;> simp

end AlsaniaChain.Abi
