import AlsaniaChain.Primitives

/-! # The template pallet: one optional counter

`pallets/template/src/lib.rs` stores `Something: Option<u32>` and has two dispatchables, both for
signed origins only. `do_something(v)` stores `v` and deposits `SomethingStored { something: v,
who }`; `cause_error` fails with `NoneValue` when nothing is stored, and otherwise adds one with
`checked_add`, failing with `StorageOverflow` at `u32::MAX`. Every error is raised before the
first write, so a failed call leaves the storage as it was (`dispatch_outcome`). `frame_system`
records no event at block zero, the genesis block, so the state carries the block number.

Along any run of calls within a block:

* the events are exactly one `SomethingStored` per signed `do_something`, in order, and none at
  block zero (`run_events`);
* the final value is the one the last signed `do_something` stored, plus the number of signed
  `cause_error` calls after it, saturating at `u32::MAX` (`run_something_last_store`).
-/

namespace AlsaniaChain.Template
set_option autoImplicit false

/-! ## The pallet -/

inductive DispatchError where
  | badOrigin
  | noneValue
  | storageOverflow
  deriving DecidableEq, Repr

inductive Event (AccountId : Type) where
  | somethingStored (something : UInt32) (who : AccountId)
  deriving DecidableEq, Repr

inductive Call where
  | doSomething (something : UInt32)
  | causeError
  deriving DecidableEq, Repr

variable {AccountId : Type}

structure State (AccountId : Type) where
  something : Option UInt32
  events : List (Event AccountId)
  blockNumber : UInt32

def ensureSigned (origin : RawOrigin AccountId) : Except DispatchError AccountId :=
  match origin with
  | .signed who => .ok who
  | _ => .error .badOrigin

/-- `u32::checked_add`. -/
def checkedAdd (a b : UInt32) : Option UInt32 :=
  if a.toNat + b.toNat < 2 ^ 32 then some (a + b) else none

/-- `frame_system`'s `deposit_event`: an event is recorded unless the block number is zero. -/
def depositEvent (s : State AccountId) (event : Event AccountId) : State AccountId :=
  if s.blockNumber = 0 then s else { s with events := s.events ++ [event] }

def doSomething (s : State AccountId) (origin : RawOrigin AccountId) (something : UInt32) :
    Except DispatchError Unit × State AccountId :=
  match ensureSigned origin with
  | .error e => (.error e, s)
  | .ok who =>
    let s := { s with something := some something }
    (.ok (), depositEvent s (.somethingStored something who))

def causeError (s : State AccountId) (origin : RawOrigin AccountId) :
    Except DispatchError Unit × State AccountId :=
  match ensureSigned origin with
  | .error e => (.error e, s)
  | .ok _ =>
    match s.something with
    | none => (.error .noneValue, s)
    | some old =>
      match checkedAdd old 1 with
      | none => (.error .storageOverflow, s)
      | some new => (.ok (), { s with something := some new })

def dispatch (s : State AccountId) (origin : RawOrigin AccountId) :
    Call → Except DispatchError Unit × State AccountId
  | .doSomething something => doSomething s origin something
  | .causeError => causeError s origin

/-- The state after a run of calls, each dispatched on the state the previous one left. -/
def run (s : State AccountId) : List (RawOrigin AccountId × Call) → State AccountId
  | [] => s
  | (origin, call) :: rest => run (dispatch s origin call).2 rest

/-! ## What a run is specified by -/

/-- A signed `do_something`, the only call that overwrites the value. -/
def isStore : RawOrigin AccountId × Call → Bool
  | (.signed _, .doSomething _) => true
  | _ => false

/-- A signed `cause_error`, the only call that can add one. -/
def isIncrement : RawOrigin AccountId × Call → Bool
  | (.signed _, .causeError) => true
  | _ => false

/-- The event a call deposits when it succeeds. -/
def storedEvent : RawOrigin AccountId × Call → Option (Event AccountId)
  | (.signed who, .doSomething v) => some (.somethingStored v who)
  | _ => none

/-- The stored value as a number. -/
def value (s : State AccountId) : Option ℕ := s.something.map UInt32.toNat

/-- `n` incremented `k` times, saturating at `u32::MAX`. -/
def saturate (n k : ℕ) : ℕ := min (n + k) (2 ^ 32 - 1)

theorem saturate_saturate (n j k : ℕ) : saturate (saturate n j) k = saturate n (j + k) := by
  unfold saturate
  omega

theorem saturate_zero {n : ℕ} (hn : n < 2 ^ 32) : saturate n 0 = n := by
  unfold saturate
  omega

theorem value_map_saturate_zero (s : State AccountId) :
    (value s).map (fun n => saturate n 0) = value s := by
  cases hs : s.something with
  | none => simp [value, hs]
  | some v => simp [value, hs, saturate_zero v.toNat_lt]

@[simp] theorem depositEvent_something (s : State AccountId) (e : Event AccountId) :
    (depositEvent s e).something = s.something := by
  unfold depositEvent
  split <;> rfl

@[simp] theorem depositEvent_blockNumber (s : State AccountId) (e : Event AccountId) :
    (depositEvent s e).blockNumber = s.blockNumber := by
  unfold depositEvent
  split <;> rfl

@[simp] theorem depositEvent_events (s : State AccountId) (e : Event AccountId) :
    (depositEvent s e).events = s.events ++ if s.blockNumber = 0 then [] else [e] := by
  unfold depositEvent
  split <;> simp_all

theorem checkedAdd_of_lt {a b : UInt32} (h : a.toNat + b.toNat < 2 ^ 32) :
    checkedAdd a b = some (a + b) := if_pos h

theorem checkedAdd_of_not_lt {a b : UInt32} (h : ¬ a.toNat + b.toNat < 2 ^ 32) :
    checkedAdd a b = none := if_neg h

/-! ## One call -/

theorem dispatch_of_not_signed (s : State AccountId) (origin : RawOrigin AccountId) (call : Call)
    (h : ∀ who, origin ≠ .signed who) : dispatch s origin call = (.error .badOrigin, s) := by
  cases origin with
  | signed who => exact absurd rfl (h who)
  | root => cases call <;> rfl
  | none => cases call <;> rfl

theorem dispatch_doSomething (s : State AccountId) (who : AccountId) (v : UInt32) :
    dispatch s (.signed who) (.doSomething v) =
      (.ok (), depositEvent { s with something := some v } (.somethingStored v who)) := rfl

theorem dispatch_causeError_of_none {s : State AccountId} (who : AccountId)
    (h : s.something = none) : dispatch s (.signed who) .causeError = (.error .noneValue, s) := by
  simp [dispatch, causeError, ensureSigned, h]

theorem dispatch_causeError_of_lt {s : State AccountId} (who : AccountId) {old : UInt32}
    (h : s.something = some old) (hlt : old.toNat + 1 < 2 ^ 32) :
    dispatch s (.signed who) .causeError = (.ok (), { s with something := some (old + 1) }) := by
  have hfit : old.toNat + (1 : UInt32).toNat < 2 ^ 32 := by rw [UInt32.toNat_one]; exact hlt
  simp [dispatch, causeError, ensureSigned, h, checkedAdd_of_lt hfit]

theorem dispatch_causeError_of_max {s : State AccountId} (who : AccountId) {old : UInt32}
    (h : s.something = some old) (hmax : old.toNat = 2 ^ 32 - 1) :
    dispatch s (.signed who) .causeError = (.error .storageOverflow, s) := by
  have hover : ¬ old.toNat + (1 : UInt32).toNat < 2 ^ 32 := by rw [UInt32.toNat_one]; omega
  simp [dispatch, causeError, ensureSigned, h, checkedAdd_of_not_lt hover]

theorem dispatch_causeError_cases (s : State AccountId) (who : AccountId) :
    (s.something = none ∧ dispatch s (.signed who) .causeError = (.error .noneValue, s)) ∨
    (∃ old, s.something = some old ∧ old.toNat + 1 < 2 ^ 32 ∧
      dispatch s (.signed who) .causeError = (.ok (), { s with something := some (old + 1) })) ∨
    (∃ old, s.something = some old ∧ old.toNat = 2 ^ 32 - 1 ∧
      dispatch s (.signed who) .causeError = (.error .storageOverflow, s)) := by
  rcases hs : s.something with _ | old
  · exact .inl ⟨rfl, dispatch_causeError_of_none who hs⟩
  · by_cases hlt : old.toNat + 1 < 2 ^ 32
    · exact .inr (.inl ⟨old, rfl, hlt, dispatch_causeError_of_lt who hs hlt⟩)
    · have hmax : old.toNat = 2 ^ 32 - 1 := by have := old.toNat_lt; omega
      exact .inr (.inr ⟨old, rfl, hmax, dispatch_causeError_of_max who hs hmax⟩)

/-- A call either succeeds, or fails and leaves the storage, events included, as it was. -/
theorem dispatch_outcome (s : State AccountId) (origin : RawOrigin AccountId) (call : Call) :
    (dispatch s origin call).1 = .ok () ∨ (dispatch s origin call).2 = s := by
  cases origin with
  | root => exact .inr (by rw [dispatch_of_not_signed s _ call (by simp)])
  | none => exact .inr (by rw [dispatch_of_not_signed s _ call (by simp)])
  | signed who =>
    cases call with
    | doSomething v => exact .inl rfl
    | causeError =>
      rcases dispatch_causeError_cases s who with ⟨-, hd⟩ | ⟨old, -, -, hd⟩ | ⟨old, -, -, hd⟩ <;>
        simp [hd]

theorem dispatch_blockNumber (s : State AccountId) (origin : RawOrigin AccountId) (call : Call) :
    (dispatch s origin call).2.blockNumber = s.blockNumber := by
  cases origin with
  | root => simp [dispatch_of_not_signed s _ call]
  | none => simp [dispatch_of_not_signed s _ call]
  | signed who =>
    cases call with
    | doSomething v => simp [dispatch_doSomething]
    | causeError =>
      rcases dispatch_causeError_cases s who with ⟨-, hd⟩ | ⟨old, -, -, hd⟩ | ⟨old, -, -, hd⟩ <;>
        simp [hd]

theorem dispatch_events (s : State AccountId) (origin : RawOrigin AccountId) (call : Call) :
    (dispatch s origin call).2.events =
      s.events ++ if s.blockNumber = 0 then [] else (storedEvent (origin, call)).toList := by
  cases origin with
  | root => simp [dispatch_of_not_signed s _ call, storedEvent]
  | none => simp [dispatch_of_not_signed s _ call, storedEvent]
  | signed who =>
    cases call with
    | doSomething v => simp [dispatch_doSomething, storedEvent]
    | causeError =>
      rcases dispatch_causeError_cases s who with ⟨-, hd⟩ | ⟨old, -, -, hd⟩ | ⟨old, -, -, hd⟩ <;>
        simp [hd, storedEvent]

/-- A call that is not a signed `do_something` adds one to the value when it is a signed
`cause_error`, saturating, and leaves it as it was otherwise. -/
theorem value_dispatch_of_not_store (s : State AccountId) (origin : RawOrigin AccountId)
    (call : Call) (h : isStore (origin, call) = false) :
    value (dispatch s origin call).2 =
      (value s).map fun n => saturate n (if isIncrement (origin, call) then 1 else 0) := by
  cases origin with
  | root => simp [dispatch_of_not_signed s _ call, isIncrement, value_map_saturate_zero]
  | none => simp [dispatch_of_not_signed s _ call, isIncrement, value_map_saturate_zero]
  | signed who =>
    cases call with
    | doSomething v => simp [isStore] at h
    | causeError =>
      rcases dispatch_causeError_cases s who with
        ⟨hs, hd⟩ | ⟨old, hs, hlt, hd⟩ | ⟨old, hs, hmax, hd⟩
      · simp [hd, value, hs]
      · have hadd : (old + 1).toNat = old.toNat + 1 := by
          rw [UInt32.toNat_add, UInt32.toNat_one]
          omega
        simp only [hd, value, hs, isIncrement, saturate, hadd, Option.map_some, if_true]
        congr 1
        omega
      · simp [hd, value, hs, isIncrement, saturate, hmax]

/-! ## Runs -/

@[simp] theorem run_nil (s : State AccountId) : run s [] = s := rfl

theorem run_cons (s : State AccountId) (origin : RawOrigin AccountId) (call : Call)
    (rest : List (RawOrigin AccountId × Call)) :
    run s ((origin, call) :: rest) = run (dispatch s origin call).2 rest := rfl

theorem run_append (s : State AccountId) (pre post : List (RawOrigin AccountId × Call)) :
    run s (pre ++ post) = run (run s pre) post := by
  induction pre generalizing s with
  | nil => rfl
  | cons p rest ih =>
    obtain ⟨origin, call⟩ := p
    exact ih _

theorem run_blockNumber (s : State AccountId) (calls : List (RawOrigin AccountId × Call)) :
    (run s calls).blockNumber = s.blockNumber := by
  induction calls generalizing s with
  | nil => rfl
  | cons p rest ih =>
    obtain ⟨origin, call⟩ := p
    rw [run_cons, ih, dispatch_blockNumber]

/-- The events a run of calls within one block leaves: one `SomethingStored` per signed
`do_something`, in order, and none at block zero. -/
theorem run_events (s : State AccountId) (calls : List (RawOrigin AccountId × Call)) :
    (run s calls).events =
      s.events ++ if s.blockNumber = 0 then [] else calls.filterMap storedEvent := by
  induction calls generalizing s with
  | nil => simp
  | cons p rest ih =>
    obtain ⟨origin, call⟩ := p
    rw [run_cons, ih, dispatch_events, dispatch_blockNumber, List.filterMap_cons]
    by_cases h0 : s.blockNumber = 0
    · simp [h0]
    · cases storedEvent (origin, call) <;> simp [h0]

/-- Without a signed `do_something`, the value is only incremented, once per signed
`cause_error`. -/
theorem value_run_of_no_store (s : State AccountId) (calls : List (RawOrigin AccountId × Call))
    (hno : ∀ p ∈ calls, isStore p = false) :
    value (run s calls) = (value s).map fun n => saturate n (calls.countP isIncrement) := by
  induction calls generalizing s with
  | nil => simp [value_map_saturate_zero]
  | cons p rest ih =>
    obtain ⟨origin, call⟩ := p
    have hstep := value_dispatch_of_not_store s origin call (hno _ List.mem_cons_self)
    rw [run_cons, ih _ fun q hq => hno q (List.mem_cons_of_mem _ hq), hstep, Option.map_map]
    congr 1
    funext n
    simp only [Function.comp, saturate_saturate, List.countP_cons]
    split <;> simp [Nat.add_comm]

theorem run_something_last_store (s : State AccountId) (pre post : List (RawOrigin AccountId × Call))
    (who : AccountId) (v : UInt32) (hno : ∀ p ∈ post, isStore p = false) :
    value (run s (pre ++ (.signed who, .doSomething v) :: post)) =
      some (saturate v.toNat (post.countP isIncrement)) := by
  rw [run_append, run_cons, value_run_of_no_store _ post hno, dispatch_doSomething]
  simp [value]

theorem run_something_last_store_from_empty :
    (∀ p ∈ [((.signed 1 : RawOrigin ℕ), Call.causeError), (.root, .causeError)],
        isStore p = false) ∧
      value (run ⟨none, [], 1⟩ ([] ++ ((.signed 0 : RawOrigin ℕ), .doSomething 7) ::
        [(.signed 1, .causeError), (.root, .causeError)])) = some 8 :=
  ⟨by decide, run_something_last_store ⟨none, [], 1⟩ [] _ 0 7 (by decide)⟩

end AlsaniaChain.Template
