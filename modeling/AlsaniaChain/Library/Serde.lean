import Mathlib

/-! # serde's derived deserializers over JSON

`serde_json` reads a document and hands its values to the visitors `#[derive(Deserialize)]`
generates; untagged and internally tagged enums first buffer the value (serde's `Content`) and
read their variants from the buffer, which keeps every string as the reader produced it. The
model reads the buffered value throughout.

* `Json` is a document; `StrMode` says whether the reader lends strings borrowed from its input
  (`from_slice`, `from_str`) or only hands out transient ones (`from_reader`). A `&str` accepts
  only the first (`deBorrowedStr`).
* `Outcome` is how a Rust call ends: a value, a returned error, or a panic.
* `deString`, `deBool`, `deUnit`, `deOption`, `deSeq` and `deUnitVariant` are the standard impls.
* `StructVisitor` is a derived struct: `deStruct` reads it from a map (fields in any order, a
  known field twice is `duplicate_field`, unknown keys are skipped, `finish` reports the first
  missing field) or from a sequence (fields by position, then no element may be left).
* `splitTag` is the buffering of an internally tagged enum; `untagged` tries an untagged enum's
  variants in order and catches their errors, never their panics.

* `Reader` bundles the two calls whose behaviour the loader's results rest on, `from_reader` and
  `<&str as Deserialize>`, as parameters; `Reader.Laws` names what is assumed of them, and the
  model of this file satisfies it (`Reader.ofParse_laws`).

The run rules are `StructVisitor.deStruct_noPanic` (no put panics, so the struct never panics)
and `StructVisitor.deStruct_ne_ok` (an invariant that every successful put keeps and that no
`finish` accepts rules out success).
-/

namespace AlsaniaChain.Serde
set_option autoImplicit false

/-! ## Outcomes -/

/-- How a Rust call ends: with a value, with an error it returns, or with a panic. -/
inductive Outcome (ε α : Type) where
  | ok (a : α)
  | error (e : ε)
  | panic
  deriving DecidableEq, Repr

namespace Outcome
variable {ε ε' α β : Type}

def bind : Outcome ε α → (α → Outcome ε β) → Outcome ε β
  | ok a, f => f a
  | error e, _ => error e
  | panic, _ => panic

instance : Monad (Outcome ε) where
  pure := ok
  bind := bind

/-- `Result::map_err`. -/
def mapError (f : ε → ε') : Outcome ε α → Outcome ε' α
  | ok a => ok a
  | error e => error (f e)
  | panic => panic

def ofExcept : Except ε α → Outcome ε α
  | .ok a => ok a
  | .error e => error e

/-- The call returns (a value or an error). -/
def NoPanic {γ : Type} (f : γ → Outcome ε α) : Prop := ∀ v, f v ≠ panic

@[simp] theorem pure_eq (a : α) : (pure a : Outcome ε α) = ok a := rfl

@[simp] theorem ok_bind (a : α) (f : α → Outcome ε β) : (ok a >>= f) = f a := rfl

@[simp] theorem error_bind (e : ε) (f : α → Outcome ε β) : (error e >>= f) = error e := rfl

@[simp] theorem panic_bind (f : α → Outcome ε β) : (panic >>= f) = panic := rfl

@[simp] theorem map_eq (f : α → β) (x : Outcome ε α) : f <$> x = x >>= fun a => ok (f a) := rfl

theorem bind_eq_ok {x : Outcome ε α} {f : α → Outcome ε β} {b : β} :
    x >>= f = ok b ↔ ∃ a, x = ok a ∧ f a = ok b := by
  cases x <;> simp

theorem bind_ne_panic {x : Outcome ε α} {f : α → Outcome ε β} (hx : x ≠ panic)
    (hf : ∀ a, x = ok a → f a ≠ panic) : x >>= f ≠ panic := by
  cases x with
  | ok a => exact hf a rfl
  | error e => simp
  | panic => exact absurd rfl hx

@[simp] theorem mapError_eq_panic (f : ε → ε') (x : Outcome ε α) :
    x.mapError f = panic ↔ x = panic := by
  cases x <;> simp [mapError]

@[simp] theorem mapError_eq_ok (f : ε → ε') (x : Outcome ε α) (a : α) :
    x.mapError f = ok a ↔ x = ok a := by
  cases x <;> simp [mapError]

@[simp] theorem ofExcept_ne_panic (x : Except ε α) : ofExcept x ≠ panic := by
  cases x <;> simp [ofExcept]

end Outcome

open Outcome

/-! ## Documents and errors -/

/-- A JSON document as serde buffers it. A number is an integer (`u64`/`i64`); no field here
reads a number except as a variant index. -/
inductive Json where
  | null
  | bool (b : Bool)
  | number (n : ℤ)
  | string (s : String)
  | array (elems : List Json)
  | object (entries : List (String × Json))
  deriving Repr

/-- Where the reader's strings live: borrowed from the input, or copied out of it. -/
inductive StrMode where
  | borrowed
  | transient
  deriving DecidableEq, Repr

/-- `serde::de::Unexpected`: what an error says was found. -/
inductive Unexpected where
  | bool (b : Bool)
  | unsigned (n : ℕ)
  | signed (n : ℤ)
  | str (s : String)
  | unit
  | seq
  | map
  deriving DecidableEq, Repr

def Json.unexpected : Json → Unexpected
  | .null => .unit
  | .bool b => .bool b
  | .number (.ofNat n) => .unsigned n
  | .number n => .signed n
  | .string s => .str s
  | .array _ => .seq
  | .object _ => .map

/-- The errors `serde::de::Error` builds, with what they name. -/
inductive DeError where
  | invalidType (unexp : Unexpected) (expected : String)
  | invalidValue (unexp : Unexpected) (expected : String)
  | invalidLength (len : ℕ) (expected : String)
  | unknownVariant (variant : String) (expected : List String)
  | missingField (field : String)
  | duplicateField (field : String)
  | custom (msg : String)
  deriving DecidableEq, Repr

/-! ## The standard impls -/

section Impls
variable {α β : Type}

/-- `<&str as Deserialize>`: its visitor takes only `visit_borrowed_str`. -/
def deBorrowedStr (mode : StrMode) : Json → Outcome DeError String
  | .string s =>
    match mode with
    | .borrowed => .ok s
    | .transient => .error (.invalidType (.str s) "a borrowed string")
  | v => .error (.invalidType v.unexpected "a borrowed string")

def deString : Json → Outcome DeError String
  | .string s => .ok s
  | v => .error (.invalidType v.unexpected "a string")

def deBool : Json → Outcome DeError Bool
  | .bool b => .ok b
  | v => .error (.invalidType v.unexpected "a boolean")

/-- `<()>` through `ContentDeserializer::deserialize_unit`: `null`, or an empty map or
sequence. -/
def deUnit : Json → Outcome DeError Unit
  | .null => .ok ()
  | .object [] => .ok ()
  | .array [] => .ok ()
  | v => .error (.invalidType v.unexpected "unit")

/-- `Option<T>`: `null` is `None`, anything else is read as `T`. -/
def deOption (f : Json → Outcome DeError α) : Json → Outcome DeError (Option α)
  | .null => .ok none
  | v => some <$> f v

/-- The elements of a sequence in order; the first failure ends it. -/
def deElems (f : Json → Outcome DeError α) : List Json → Outcome DeError (List α)
  | [] => .ok []
  | v :: vs => do
    let a ← f v
    let as ← deElems f vs
    return a :: as

/-- `Vec<T>`. -/
def deSeq (f : Json → Outcome DeError α) : Json → Outcome DeError (List α)
  | .array elems => deElems f elems
  | v => .error (.invalidType v.unexpected "a sequence")

/-- The derived variant identifier (`__Field`): a variant's name, or its index. -/
def deVariantName (variants : List (String × β)) : Json → Outcome DeError β
  | .string s =>
    match variants.lookup s with
    | some b => .ok b
    | none => .error (.unknownVariant s (variants.map Prod.fst))
  | .number (.ofNat n) =>
    match variants[n]? with
    | some (_, b) => .ok b
    | none => .error (.invalidValue (.unsigned n)
        ("variant index 0 <= i < " ++ Nat.repr variants.length))
  | v => .error (.invalidType v.unexpected "variant identifier")

/-- An externally tagged enum of unit variants (`ContentDeserializer::deserialize_enum`): the
variant's name, or a map whose one key is the name and whose value is a unit. -/
def deUnitVariant (variants : List (String × β)) : Json → Outcome DeError β
  | .string s => deVariantName variants (.string s)
  | .object [(k, v)] => do
    let b ← deVariantName variants (.string k)
    deUnit v
    return b
  | .object _ => .error (.invalidValue .map "map with a single key")
  | v => .error (.invalidType v.unexpected "string or map")

/-- An untagged enum: the first variant that does not return an error. -/
def untagged (name : String) : List (Outcome DeError α) → Outcome DeError α
  | [] => .error (.custom ("data did not match any variant of untagged enum " ++ name))
  | .ok a :: _ => .ok a
  | .panic :: _ => .panic
  | .error _ :: rest => untagged name rest

end Impls

/-! ## Derived structs -/

/-- `ExpectedInSeq(n)`. -/
def expectedInSeq (n : ℕ) : String :=
  if n = 1 then "1 element in sequence" else Nat.repr n ++ " elements in sequence"

/-- What `#[derive(Deserialize)]` generates for a struct: its name and fields, the slots of the
values seen so far (`init`, `has`, `put`, which reads a field's value into its slot), and
`finish`, which reports the first missing field in declaration order or builds the value. -/
structure StructVisitor (σ α : Type) where
  name : String
  fields : List String
  init : σ
  has : String → σ → Bool
  put : String → Json → σ → Outcome DeError σ
  finish : σ → Outcome DeError α

namespace StructVisitor
variable {σ α : Type} (sv : StructVisitor σ α)

/-- The struct's `expecting` text when it is read from a sequence. -/
def expectingSeq : String :=
  "struct " ++ sv.name ++ " with " ++
    (if sv.fields.length = 1 then "1 element" else Nat.repr sv.fields.length ++ " elements")

/-- The derived `visit_map` loop. -/
def visitMap : σ → List (String × Json) → Outcome DeError σ
  | acc, [] => .ok acc
  | acc, (k, v) :: rest =>
    if k ∈ sv.fields then
      if sv.has k acc then .error (.duplicateField k)
      else sv.put k v acc >>= fun acc' => visitMap acc' rest
    else visitMap acc rest

/-- The derived `visit_seq`: the fields from position `i` on; returns the elements left over. -/
def visitSeq : σ → List String → List Json → ℕ → Outcome DeError (σ × List Json)
  | acc, [], rest, _ => .ok (acc, rest)
  | _, _ :: _, [], i => .error (.invalidLength i sv.expectingSeq)
  | acc, f :: fs, v :: vs, i => sv.put f v acc >>= fun acc' => visitSeq acc' fs vs (i + 1)

/-- `deserialize_struct` on a buffered value. -/
def deStruct : Json → Outcome DeError α
  | .object entries => sv.visitMap sv.init entries >>= sv.finish
  | .array elems => do
    let (acc, rest) ← sv.visitSeq sv.init sv.fields elems 0
    let a ← sv.finish acc
    match rest with
    | [] => return a
    | _ :: _ =>
      .error (.invalidLength (sv.fields.length + rest.length) (expectedInSeq sv.fields.length))
  | v => .error (.invalidType v.unexpected ("struct " ++ sv.name))

/-! ### Run rules -/

section Rules
variable {sv}

theorem visitMap_noPanic (hput : ∀ k v acc, sv.put k v acc ≠ panic) :
    ∀ entries acc, sv.visitMap acc entries ≠ panic := by
  intro entries
  induction entries with
  | nil => intro acc; simp [visitMap]
  | cons e rest ih =>
    intro acc
    obtain ⟨k, v⟩ := e
    unfold visitMap
    split_ifs
    · simp
    · exact bind_ne_panic (hput k v acc) fun acc' _ => ih acc'
    · exact ih acc

theorem visitSeq_noPanic (hput : ∀ k v acc, sv.put k v acc ≠ panic) :
    ∀ fields elems acc i, sv.visitSeq acc fields elems i ≠ panic := by
  intro fields
  induction fields with
  | nil => intro elems acc i; simp [visitSeq]
  | cons f fs ih =>
    intro elems acc i
    cases elems with
    | nil => simp [visitSeq]
    | cons v vs => exact bind_ne_panic (hput f v acc) fun acc' _ => ih vs acc' (i + 1)

/-- A struct whose puts and `finish` never panic never panics. -/
theorem deStruct_noPanic (hput : ∀ k v acc, sv.put k v acc ≠ panic)
    (hfinish : ∀ acc, sv.finish acc ≠ panic) : NoPanic sv.deStruct := by
  intro v
  cases v with
  | object entries =>
    exact bind_ne_panic (visitMap_noPanic hput _ _) fun acc _ => hfinish acc
  | array elems =>
    refine bind_ne_panic (visitSeq_noPanic hput _ _ _ _) fun ⟨acc, rest⟩ _ => ?_
    refine bind_ne_panic (hfinish acc) fun a _ => ?_
    cases rest <;> simp
  | _ => simp [deStruct]

theorem visitMap_inv (P : σ → Prop)
    (hput : ∀ k v acc acc', P acc → sv.put k v acc = ok acc' → P acc') :
    ∀ entries acc acc', P acc → sv.visitMap acc entries = ok acc' → P acc' := by
  intro entries
  induction entries with
  | nil =>
    intro acc acc' hP h
    simp only [visitMap, ok.injEq] at h
    exact h ▸ hP
  | cons e rest ih =>
    intro acc acc' hP h
    obtain ⟨k, v⟩ := e
    unfold visitMap at h
    split_ifs at h
    · obtain ⟨acc₁, h₁, h₂⟩ := bind_eq_ok.mp h
      exact ih acc₁ acc' (hput k v acc acc₁ hP h₁) h₂
    · exact ih acc acc' hP h

theorem visitSeq_inv (P : σ → Prop)
    (hput : ∀ k v acc acc', P acc → sv.put k v acc = ok acc' → P acc') :
    ∀ fields elems acc i acc' rest, P acc → sv.visitSeq acc fields elems i = ok (acc', rest) →
      P acc' := by
  intro fields
  induction fields with
  | nil =>
    intro elems acc i acc' rest hP h
    simp only [visitSeq, ok.injEq, Prod.mk.injEq] at h
    exact h.1 ▸ hP
  | cons f fs ih =>
    intro elems acc i acc' rest hP h
    cases elems with
    | nil => simp [visitSeq] at h
    | cons v vs =>
      obtain ⟨acc₁, h₁, h₂⟩ := bind_eq_ok.mp h
      exact ih vs acc₁ (i + 1) acc' rest (hput f v acc acc₁ hP h₁) h₂

/-- An invariant of the slots that holds at the start, that every successful put keeps and
under which `finish` never succeeds rules out success from any document. -/
theorem deStruct_ne_ok (P : σ → Prop) (hinit : P sv.init)
    (hput : ∀ k v acc acc', P acc → sv.put k v acc = ok acc' → P acc')
    (hfinish : ∀ acc a, P acc → sv.finish acc ≠ ok a) : ∀ v a, sv.deStruct v ≠ ok a := by
  intro v a h
  cases v with
  | object entries =>
    obtain ⟨acc, h₁, h₂⟩ := bind_eq_ok.mp h
    exact hfinish acc a (visitMap_inv P hput entries _ acc hinit h₁) h₂
  | array elems =>
    obtain ⟨⟨acc, rest⟩, h₁, h₂⟩ := bind_eq_ok.mp h
    obtain ⟨b, h₃, -⟩ := bind_eq_ok.mp h₂
    exact hfinish acc b (visitSeq_inv P hput _ elems _ 0 acc rest hinit h₁) h₃
  | _ => simp [deStruct] at h

end Rules

end StructVisitor

/-! ## Tagged and untagged enums -/

section Enums
variable {α β : Type}

/-- `TaggedContentVisitor::visit_map`: read the tag where it stands, keep the other entries in
order. -/
def splitTagEntries (tag : String) (variant : Json → Outcome DeError β) :
    Option β → List (String × Json) → List (String × Json) → Outcome DeError (β × Json)
  | found, kept, [] =>
    match found with
    | none => .error (.missingField tag)
    | some b => .ok (b, .object kept.reverse)
  | found, kept, (k, v) :: rest =>
    if k = tag then
      match found with
      | some _ => .error (.duplicateField tag)
      | none => variant v >>= fun b => splitTagEntries tag variant (some b) kept rest
    else splitTagEntries tag variant found ((k, v) :: kept) rest

/-- An internally tagged enum's buffering: the variant named by field `tag` and the rest of the
value, from a map or from a sequence whose first element is the tag. -/
def splitTag (tag expecting : String) (variant : Json → Outcome DeError β) :
    Json → Outcome DeError (β × Json)
  | .object entries => splitTagEntries tag variant none [] entries
  | .array [] => .error (.missingField tag)
  | .array (t :: rest) => variant t >>= fun b => .ok (b, .array rest)
  | v => .error (.invalidType v.unexpected expecting)

/-- A unit variant of an internally tagged enum (`InternallyTaggedUnitVisitor`) reads the rest of
a map and ignores it; the rest of a sequence must be empty. -/
def deTaggedUnit : Json → Outcome DeError Unit
  | .array (_ :: _ :: _) | .array [_] => .error (.invalidLength 1 (expectedInSeq 0))
  | _ => .ok ()

end Enums

/-! ## Reading a document -/

/-- `serde_json::Error`: the text is not JSON, or the value is not what was asked for. -/
inductive JsonError (π : Type) where
  | parse (e : π)
  | data (e : DeError)
  deriving Repr

/-- `serde_json::from_reader`: parse the text, then deserialize with transient strings. -/
def fromReader {π α : Type} (parse : String → Except π Json)
    (de : StrMode → Json → Outcome DeError α) (text : String) : Outcome (JsonError π) α :=
  match parse text with
  | .error e => .error (.parse e)
  | .ok v => (de .transient v).mapError .data

/-! ## Which impls can panic -/

section NoPanic
variable {α β : Type}

theorem deBorrowedStr_noPanic (mode : StrMode) : NoPanic (deBorrowedStr mode) := by
  intro v
  cases v <;> cases mode <;> simp [deBorrowedStr]

theorem deString_noPanic : NoPanic deString := by
  intro v
  cases v <;> simp [deString]

theorem deBool_noPanic : NoPanic deBool := by
  intro v
  cases v <;> simp [deBool]

theorem deUnit_noPanic : NoPanic deUnit := by
  intro v
  unfold deUnit
  split <;> simp

theorem deOption_noPanic {f : Json → Outcome DeError α} (hf : NoPanic f) :
    NoPanic (deOption f) := by
  intro v
  unfold deOption
  split
  · simp
  · exact bind_ne_panic (hf v) fun _ _ => by simp

theorem deElems_noPanic {f : Json → Outcome DeError α} (hf : NoPanic f) :
    ∀ elems, deElems f elems ≠ panic := by
  intro elems
  induction elems with
  | nil => simp [deElems]
  | cons v vs ih =>
    exact bind_ne_panic (hf v) fun a _ => bind_ne_panic ih fun _ _ => by simp

theorem deSeq_noPanic {f : Json → Outcome DeError α} (hf : NoPanic f) : NoPanic (deSeq f) := by
  intro v
  cases v with
  | array elems => exact deElems_noPanic hf elems
  | _ => simp [deSeq]

theorem deVariantName_noPanic (variants : List (String × β)) :
    NoPanic (deVariantName variants) := by
  intro v
  unfold deVariantName
  split
  · split <;> simp
  · split <;> simp
  · simp

theorem deUnitVariant_noPanic (variants : List (String × β)) :
    NoPanic (deUnitVariant variants) := by
  intro v
  unfold deUnitVariant
  split
  · exact deVariantName_noPanic variants _
  · exact bind_ne_panic (deVariantName_noPanic variants _) fun b _ =>
      bind_ne_panic (deUnit_noPanic _) fun _ _ => by simp
  · simp
  · simp

theorem splitTagEntries_noPanic (tag : String) {variant : Json → Outcome DeError β}
    (hv : NoPanic variant) :
    ∀ entries found kept, splitTagEntries tag variant found kept entries ≠ panic := by
  intro entries
  induction entries with
  | nil =>
    intro found kept
    unfold splitTagEntries
    split <;> simp
  | cons e rest ih =>
    intro found kept
    obtain ⟨k, v⟩ := e
    unfold splitTagEntries
    split_ifs
    · split
      · simp
      · exact bind_ne_panic (hv v) fun b _ => ih _ _
    · exact ih _ _

theorem splitTag_noPanic (tag expecting : String) {variant : Json → Outcome DeError β}
    (hv : NoPanic variant) : NoPanic (splitTag tag expecting variant) := by
  intro v
  unfold splitTag
  split
  · exact splitTagEntries_noPanic tag hv _ _ _
  · simp
  · exact bind_ne_panic (hv _) fun _ _ => by simp
  · simp

theorem deTaggedUnit_noPanic : NoPanic deTaggedUnit := by
  intro v
  unfold deTaggedUnit
  split <;> simp

theorem untagged_noPanic (name : String) :
    ∀ alts : List (Outcome DeError α), (∀ o ∈ alts, o ≠ panic) → untagged name alts ≠ panic := by
  intro alts
  induction alts with
  | nil => intro _; simp [untagged]
  | cons o rest ih =>
    intro h
    cases o with
    | ok a => simp [untagged]
    | error e => exact ih fun o' ho' => h o' (List.mem_cons_of_mem _ ho')
    | panic => exact absurd rfl (h _ List.mem_cons_self)

/-- An untagged enum none of whose variants succeeds does not succeed. -/
theorem untagged_ne_ok (name : String) :
    ∀ alts : List (Outcome DeError α), (∀ o ∈ alts, ∀ a, o ≠ ok a) →
      ∀ a, untagged name alts ≠ ok a := by
  intro alts
  induction alts with
  | nil => intro _ a; simp [untagged]
  | cons o rest ih =>
    intro h a
    cases o with
    | ok b => exact absurd rfl (h _ List.mem_cons_self b)
    | error e => exact ih (fun o' ho' => h o' (List.mem_cons_of_mem _ ho')) a
    | panic => simp [untagged]

theorem deBorrowedStr_transient_ne_ok (v : Json) (s : String) :
    deBorrowedStr .transient v ≠ ok s := by
  cases v <;> simp [deBorrowedStr]

end NoPanic

/-! ## A reader and `&str` as parameters -/

/-- The two calls a loader makes of serde_json and serde for a `&str` field read from a file:
`read` is `serde_json::from_reader` with its JSON parser, `deStr` is `<&str as Deserialize>`. -/
structure Reader (π : Type) where
  read : {α : Type} → (StrMode → Json → Outcome DeError α) → String → Outcome (JsonError π) α
  deStr : StrMode → Json → Outcome DeError String

/-- What is assumed of them: `from_reader` deserializes the parsed document with transient
strings, and panics only where the deserializer does; `&str` accepts only borrowed strings, and
never panics. -/
structure Reader.Laws {π : Type} (r : Reader π) : Prop where
  read_ok : ∀ {α : Type} (de : StrMode → Json → Outcome DeError α) (text : String) (a : α),
    r.read de text = ok a → ∃ v, de .transient v = ok a
  read_noPanic : ∀ {α : Type} (de : StrMode → Json → Outcome DeError α) (text : String),
    NoPanic (de .transient) → r.read de text ≠ panic
  deStr_transient_ne_ok : ∀ v s, r.deStr .transient v ≠ ok s
  deStr_noPanic : ∀ mode, NoPanic (r.deStr mode)

/-- serde_json's `from_reader` over the JSON parser `parse`, with serde's `&str`. -/
def Reader.ofParse {π : Type} (parse : String → Except π Json) : Reader π where
  read de text := fromReader parse de text
  deStr := deBorrowedStr

theorem Reader.ofParse_laws {π : Type} (parse : String → Except π Json) :
    (Reader.ofParse parse).Laws where
  read_ok de text a h := by
    simp only [Reader.ofParse, fromReader] at h
    cases hparse : parse text with
    | error e => simp [hparse] at h
    | ok v =>
      rw [hparse] at h
      exact ⟨v, (mapError_eq_ok _ _ _).mp h⟩
  read_noPanic de text hde := by
    simp only [Reader.ofParse, fromReader]
    cases parse text with
    | error e => simp
    | ok v => simpa using hde v
  deStr_transient_ne_ok := deBorrowedStr_transient_ne_ok
  deStr_noPanic := deBorrowedStr_noPanic

end AlsaniaChain.Serde
