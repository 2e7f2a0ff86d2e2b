import AlsaniaChain.Fuzzer.CallFilter

/-! # The fuzzer's driver loop

`process_input` (`template-fuzzer/src/main.rs`) drops the decoded calls of `System`, and if any
call is left, opens block `1` and walks the calls in order. A call that `recursive_call_filter`
rejects for its origin index is skipped before its lapse is read. For an accepted call, a positive
lapse first asserts that the open block's dispatches took at most two seconds (`elapsed.as_secs()
<= 2`), panicking otherwise, then moves the block number on by `lapse * 393` and opens a new
block. The call's weight is then accrued, and the call is dispatched from
`accounts[origin % accounts.len()]` unless the accrued reference time has reached two seconds; the
time a dispatch takes is added to `elapsed`. After the last call the last block is finalized and
the invariants are checked.

The runtime is left abstract: the driver is modelled by the actions it asks of it, in order, and
a panic ends the trace. How long each dispatch takes is a parameter (`Env.dispatchTime`, by the
dispatch's place in the run, in nanoseconds); `Weight` keeps only the reference time, the one
component the driver reads. Printing is left out.

* `processInput_dispatch_filtered`: every dispatched call passed the filter for its origin index,
  is not a `System` call and is dispatched from the account that index names.
* `processInput_block_weight`: the calls dispatched in one block weigh less than two seconds.
* `processInput_executive_order`: while the block number does not wrap, blocks are opened and
  finalized in turn, with increasing numbers, and every call runs inside an open block; the run
  either checks the invariants at the block its accepted lapses lead to, or stops at the timing
  assertion inside an open block.
* `loop_full_block`: an accepted call with no lapse whose weight fills the block is skipped with
  its weight kept, and then no call is dispatched until a call with a positive lapse passes the
  filter; the weights of all accepted calls stay accrued.
-/

namespace AlsaniaChain.Fuzzer
set_option autoImplicit false

/-- `RuntimeCall::System(_)`, the calls `process_input` drops after decoding. -/
def RuntimeCall.isSystem : RuntimeCall → Bool
  | .system _ => true
  | _ => false

/-- `WEIGHT_REF_TIME_PER_SECOND`. -/
def weightRefTimePerSecond : UInt64 := 1000000000000

/-- `u64::saturating_add`, which `Weight::saturating_accrue` applies to the reference time. -/
def saturatingAdd (a b : UInt64) : UInt64 :=
  if a.toNat + b.toNat < 2 ^ 64 then a + b else UInt64.ofNat (2 ^ 64 - 1)

/-- `Duration::as_secs`, of a duration in nanoseconds. -/
def asSecs (nanos : ℕ) : ℕ := nanos / 1000000000

/-- The message of `assert!(elapsed.as_secs() <= 2, ..)`. -/
def tooSlow : String := "block execution took too much time"

/-- The accounts the fuzzer signs with; `origin as usize % accounts.len()` needs one. -/
structure Accounts (AccountId : Type) where
  list : List AccountId
  nonempty : list ≠ []

namespace Accounts
variable {AccountId : Type} (accounts : Accounts AccountId)

/-- `origin as usize % accounts.len()`. -/
def originNo (origin : UInt8) : ℕ := origin.toNat % accounts.list.length

theorem originNo_lt (origin : UInt8) : accounts.originNo origin < accounts.list.length :=
  Nat.mod_lt _ (List.length_pos_iff.mpr accounts.nonempty)

/-- `accounts[origin_no]`. -/
def get (origin : UInt8) : AccountId :=
  accounts.list.get ⟨accounts.originNo origin, accounts.originNo_lt origin⟩

end Accounts

/-- One decoded `(lapse, origin, RuntimeCall)`. -/
structure Extrinsic where
  lapse : UInt8
  origin : UInt8
  call : RuntimeCall
  deriving Repr

/-- What the driver asks of the runtime, and the panic that ends a run. -/
inductive Action (AccountId : Type) where
  | initializeBlock (number : UInt32)
  | setTimestamp (now : UInt64)
  | setValidationData (relayParentNumber : UInt32)
  | finalizeBlock
  | dispatch (who : AccountId) (call : RuntimeCall)
  | checkInvariants (block : UInt32)
  | panic (message : String)
  deriving Repr

/-- The loop's accumulators: the block number, the accrued reference time, the time the open
block's dispatches took (`elapsed`, in nanoseconds), and the number of calls dispatched so far. -/
structure Driver where
  block : UInt32
  weight : UInt64
  elapsed : ℕ
  dispatched : ℕ
  deriving DecidableEq, Repr

/-- `block = 1`, `weight = 0`, `elapsed = Duration::ZERO`. -/
def Driver.initial : Driver := ⟨1, 0, 0, 0⟩

/-- What the loop reads besides its calls: the runtime's `MaxCandidates` and `SLOT_DURATION`, the
weight of a call's dispatch info, the nanoseconds the `n`-th dispatch of the run takes, and the
accounts. -/
structure Env (AccountId : Type) where
  maxCandidates : UInt32
  slotDuration : UInt64
  callWeight : RuntimeCall → UInt64
  dispatchTime : ℕ → ℕ
  accounts : Accounts AccountId

section Loop
variable {AccountId : Type} (env : Env AccountId)

/-- `initialize_block`: finalize the previous block unless this is block `1`, then open the block
and apply the timestamp and the validation data. -/
def initializeBlock (block : UInt32) : List (Action AccountId) :=
  (if block = 1 then [] else [Action.finalizeBlock]) ++
    [Action.initializeBlock block, Action.setTimestamp (block.toUInt64 * env.slotDuration * 2),
      .setValidationData block]

/-- `if lapse > 0 { .. }`: assert that the open block took at most two seconds, then move the block
number on, reset the weight and the time, and open the new block; `none` is the panic. -/
def openBlock (st : Driver) (lapse : UInt8) : Option Driver × List (Action AccountId) :=
  if 0 < lapse then
    if asSecs st.elapsed ≤ 2 then
      let block := st.block + lapse.toUInt32 * 393
      (some ⟨block, 0, 0, st.dispatched⟩, initializeBlock env block)
    else (none, [Action.panic tooSlow])
  else (some st, [])

/-- Accrue the call's weight, then dispatch it and add the time it takes, unless the block's
reference time is used up; the weight is accrued before the check, so a skipped call still
counts. -/
def accrueAndDispatch (st : Driver) (x : Extrinsic) : Driver × List (Action AccountId) :=
  let weight := saturatingAdd st.weight (env.callWeight x.call)
  if 2 * weightRefTimePerSecond ≤ weight then ({ st with weight := weight }, [])
  else
    (⟨st.block, weight, st.elapsed + env.dispatchTime st.dispatched, st.dispatched + 1⟩,
      [Action.dispatch (env.accounts.get x.origin) x.call])

/-- One iteration of the loop of `process_input`; a call the filter rejects is skipped before its
lapse is read. -/
def step (st : Driver) (x : Extrinsic) : Option Driver × List (Action AccountId) :=
  if !recursiveCallFilter env.maxCandidates x.call (env.accounts.originNo x.origin) then
    (some st, [])
  else
    match openBlock env st x.lapse with
    | (some st, opened) =>
      let (st, dispatched) := accrueAndDispatch env st x
      (some st, opened ++ dispatched)
    | (none, panicked) => (none, panicked)

/-- The loop of `process_input` over the remaining calls; `none` when it panicked. -/
def loop (st : Driver) : List Extrinsic → Option Driver × List (Action AccountId)
  | [] => (some st, [])
  | x :: xs =>
    match step env st x with
    | (some st', acts) =>
      let (r, rest) := loop st' xs
      (r, acts ++ rest)
    | (none, acts) => (none, acts)

/-- `process_input`, from the decoded calls. -/
def processInput (extrinsics : List Extrinsic) : List (Action AccountId) :=
  let extrinsics := extrinsics.filter fun x => !x.call.isSystem
  if extrinsics.isEmpty then []
  else
    let (st, acts) := loop env Driver.initial extrinsics
    initializeBlock env 1 ++ acts ++
      match st with
      | some st => [Action.finalizeBlock, Action.checkInvariants st.block]
      | none => []

/-- Whether the filter lets a call through for its origin index. -/
def Env.accepts (x : Extrinsic) : Bool :=
  recursiveCallFilter env.maxCandidates x.call (env.accounts.originNo x.origin)

/-- The reference time of the calls the filter accepts, which the loop accrues. -/
def acceptedWeight (xs : List Extrinsic) : ℕ :=
  ((xs.filter env.accepts).map fun x => (env.callWeight x.call).toNat).sum

end Loop

/-! ## The weight limit -/

theorem toNat_weightLimit : (2 * weightRefTimePerSecond).toNat = 2000000000000 := by decide

theorem toNat_saturatingAdd (a b : UInt64) :
    (saturatingAdd a b).toNat = min (a.toNat + b.toNat) (2 ^ 64 - 1) := by
  unfold saturatingAdd
  split
  · rw [UInt64.toNat_add, Nat.mod_eq_of_lt ‹_›]
    omega
  · rw [UInt64.toNat_ofNat_of_lt' (by norm_num)]
    omega

theorem le_saturatingAdd (a b : UInt64) : a ≤ saturatingAdd a b := by
  rw [UInt64.le_iff_toNat_le, toNat_saturatingAdd]
  have := a.toNat_lt_size
  simp only [UInt64.size] at this
  omega

/-- Below the limit the addition does not saturate. -/
theorem toNat_saturatingAdd_of_lt {a b : UInt64}
    (h : ¬ 2 * weightRefTimePerSecond ≤ saturatingAdd a b) :
    (saturatingAdd a b).toNat = a.toNat + b.toNat := by
  rw [UInt64.le_iff_toNat_le, toNat_saturatingAdd, toNat_weightLimit] at h
  rw [toNat_saturatingAdd]
  omega

/-! ## What one step does -/

section Loop
variable {AccountId : Type} (env : Env AccountId)

theorem openBlock_of_not_pos (st : Driver) {lapse : UInt8} (h : ¬ 0 < lapse) :
    openBlock env st lapse = (some st, []) :=
  if_neg h

/-- A positive lapse either opens the next block or, after a block that took three seconds or
more, panics. -/
theorem openBlock_cases (st : Driver) (lapse : UInt8) :
    (¬ 0 < lapse ∧ openBlock env st lapse = (some st, [])) ∨
      (0 < lapse ∧ asSecs st.elapsed ≤ 2 ∧
        openBlock env st lapse =
          (some ⟨st.block + lapse.toUInt32 * 393, 0, 0, st.dispatched⟩,
            initializeBlock env (st.block + lapse.toUInt32 * 393))) ∨
      (0 < lapse ∧ ¬ asSecs st.elapsed ≤ 2 ∧
        openBlock env st lapse = (none, [Action.panic tooSlow])) := by
  by_cases hpos : 0 < lapse
  · by_cases hfast : asSecs st.elapsed ≤ 2
    · exact .inr (.inl ⟨hpos, hfast, by simp [openBlock, hpos, hfast]⟩)
    · exact .inr (.inr ⟨hpos, hfast, by simp [openBlock, hpos, hfast]⟩)
  · exact .inl ⟨hpos, openBlock_of_not_pos env st hpos⟩

@[simp] theorem accrueAndDispatch_weight (st : Driver) (x : Extrinsic) :
    (accrueAndDispatch env st x).1.weight = saturatingAdd st.weight (env.callWeight x.call) := by
  simp only [accrueAndDispatch]
  split <;> rfl

theorem accrueAndDispatch_snd (st : Driver) (x : Extrinsic) :
    (accrueAndDispatch env st x).2 =
      if 2 * weightRefTimePerSecond ≤ saturatingAdd st.weight (env.callWeight x.call) then []
      else [Action.dispatch (env.accounts.get x.origin) x.call] := by
  simp only [accrueAndDispatch]
  split <;> rfl

theorem accrueAndDispatch_of_full (st : Driver) {x : Extrinsic}
    (h : 2 * weightRefTimePerSecond ≤ saturatingAdd st.weight (env.callWeight x.call)) :
    accrueAndDispatch env st x =
      ({ st with weight := saturatingAdd st.weight (env.callWeight x.call) }, []) := by
  simp [accrueAndDispatch, h]

theorem step_of_rejected (st : Driver) {x : Extrinsic} (h : env.accepts x = false) :
    step env st x = (some st, []) := by
  simp only [Env.accepts] at h
  simp [step, h]

theorem step_of_open {st st' : Driver} {x : Extrinsic} {opened : List (Action AccountId)}
    (h : env.accepts x = true) (ho : openBlock env st x.lapse = (some st', opened)) :
    step env st x =
      (some (accrueAndDispatch env st' x).1, opened ++ (accrueAndDispatch env st' x).2) := by
  simp only [Env.accepts] at h
  simp [step, h, ho]

/-- A step skips a rejected call, panics at the timing assertion, or opens a block if the lapse
says so and accrues and dispatches the call. -/
theorem step_cases (st : Driver) (x : Extrinsic) :
    (env.accepts x = false ∧ step env st x = (some st, [])) ∨
      (env.accepts x = true ∧ ∃ st' opened, openBlock env st x.lapse = (some st', opened) ∧
        step env st x =
          (some (accrueAndDispatch env st' x).1, opened ++ (accrueAndDispatch env st' x).2)) ∨
      (env.accepts x = true ∧ 0 < x.lapse ∧ ¬ asSecs st.elapsed ≤ 2 ∧
        step env st x = (none, [Action.panic tooSlow])) := by
  cases hf : env.accepts x with
  | false => exact .inl ⟨rfl, step_of_rejected env st hf⟩
  | true =>
    rcases openBlock_cases env st x.lapse with ⟨-, ho⟩ | ⟨-, -, ho⟩ | ⟨hpos, hslow, ho⟩
    · exact .inr (.inl ⟨rfl, _, _, ho, step_of_open env hf ho⟩)
    · exact .inr (.inl ⟨rfl, _, _, ho, step_of_open env hf ho⟩)
    · have hs : step env st x = (none, [Action.panic tooSlow]) := by
        simp only [Env.accepts] at hf
        simp [step, hf, ho]
      exact .inr (.inr ⟨rfl, hpos, hslow, hs⟩)

theorem loop_cons_of_some {st st' : Driver} {x : Extrinsic} (xs : List Extrinsic)
    (h : (step env st x).1 = some st') :
    loop env st (x :: xs) = ((loop env st' xs).1, (step env st x).2 ++ (loop env st' xs).2) := by
  cases hs : step env st x with
  | mk r acts =>
    rw [hs] at h
    subst h
    simp [loop, hs]

theorem loop_cons_of_none {st : Driver} {x : Extrinsic} (xs : List Extrinsic)
    (h : (step env st x).1 = none) : loop env st (x :: xs) = (none, (step env st x).2) := by
  cases hs : step env st x with
  | mk r acts =>
    rw [hs] at h
    subst h
    simp [loop, hs]

theorem processInput_of_filter_eq_nil {extrinsics : List Extrinsic}
    (h : extrinsics.filter (fun x => !x.call.isSystem) = []) :
    processInput env extrinsics = [] := by
  simp only [processInput, h, List.isEmpty_nil, if_true]

/-- With a call left after dropping `System`, block `1` is opened and the loop runs; unless it
panicked, the last block is finalized before the invariants are checked. -/
theorem processInput_of_filter_ne_nil {extrinsics : List Extrinsic}
    (h : extrinsics.filter (fun x => !x.call.isSystem) ≠ []) :
    processInput env extrinsics =
      initializeBlock env 1 ++ (loop env Driver.initial
          (extrinsics.filter fun x => !x.call.isSystem)).2 ++
        match (loop env Driver.initial (extrinsics.filter fun x => !x.call.isSystem)).1 with
        | some st => [Action.finalizeBlock, Action.checkInvariants st.block]
        | none => [] := by
  simp only [processInput, List.isEmpty_iff, h, if_false]

theorem processInput_of_some {extrinsics : List Extrinsic}
    (h : extrinsics.filter (fun x => !x.call.isSystem) ≠ []) {st : Driver}
    (hl : (loop env Driver.initial (extrinsics.filter fun x => !x.call.isSystem)).1 = some st) :
    processInput env extrinsics =
      initializeBlock env 1 ++ (loop env Driver.initial
          (extrinsics.filter fun x => !x.call.isSystem)).2 ++
        [Action.finalizeBlock, Action.checkInvariants st.block] := by
  rw [processInput_of_filter_ne_nil env h, hl]

theorem processInput_of_none {extrinsics : List Extrinsic}
    (h : extrinsics.filter (fun x => !x.call.isSystem) ≠ [])
    (hl : (loop env Driver.initial (extrinsics.filter fun x => !x.call.isSystem)).1 = none) :
    processInput env extrinsics =
      initializeBlock env 1 ++ (loop env Driver.initial
          (extrinsics.filter fun x => !x.call.isSystem)).2 := by
  rw [processInput_of_filter_ne_nil env h, hl, List.append_nil]

/-! ## What is dispatched -/

theorem dispatch_not_mem_initializeBlock (block : UInt32) (who : AccountId) (call : RuntimeCall) :
    Action.dispatch who call ∉ initializeBlock env block := by
  unfold initializeBlock
  split <;> simp

theorem dispatch_not_mem_openBlock (st : Driver) (lapse : UInt8) (who : AccountId)
    (call : RuntimeCall) : Action.dispatch who call ∉ (openBlock env st lapse).2 := by
  rcases openBlock_cases env st lapse with ⟨-, ho⟩ | ⟨-, -, ho⟩ | ⟨-, -, ho⟩ <;> rw [ho]
  · simp
  · exact dispatch_not_mem_initializeBlock env _ who call
  · simp

/-- A step dispatches at most its own call, from the account its origin index names, and only
when the filter accepts it. -/
theorem mem_step_dispatch {st : Driver} {x : Extrinsic} {who : AccountId} {call : RuntimeCall}
    (h : Action.dispatch who call ∈ (step env st x).2) :
    env.accepts x = true ∧ x.call = call ∧ who = env.accounts.get x.origin := by
  rcases step_cases env st x with
    ⟨-, hs⟩ | ⟨hf, st', opened, ho, hs⟩ | ⟨-, -, -, hs⟩ <;> rw [hs] at h
  · simp at h
  · rcases List.mem_append.mp h with hopen | hdispatch
    · have hnot := dispatch_not_mem_openBlock env st x.lapse who call
      rw [ho] at hnot
      exact absurd hopen hnot
    · rw [accrueAndDispatch_snd] at hdispatch
      split at hdispatch
      · simp at hdispatch
      · obtain ⟨rfl, rfl⟩ := by simpa using hdispatch
        exact ⟨hf, rfl, rfl⟩
  · simp at h

theorem mem_loop_dispatch {who : AccountId} {call : RuntimeCall} :
    ∀ (st : Driver) (xs : List Extrinsic),
      Action.dispatch who call ∈ (loop env st xs).2 →
      ∃ x ∈ xs, env.accepts x = true ∧ x.call = call ∧ who = env.accounts.get x.origin
  | _, [] => by simp [loop]
  | st, x :: xs => by
    intro h
    cases hr : (step env st x).1 with
    | none =>
      rw [loop_cons_of_none env xs hr] at h
      exact ⟨x, List.mem_cons_self, mem_step_dispatch env h⟩
    | some st' =>
      rw [loop_cons_of_some env xs hr] at h
      rcases List.mem_append.mp h with hstep | hrest
      · exact ⟨x, List.mem_cons_self, mem_step_dispatch env hstep⟩
      · obtain ⟨y, hy, hdispatch⟩ := mem_loop_dispatch st' xs hrest
        exact ⟨y, List.mem_cons_of_mem x hy, hdispatch⟩

/-- Every call `process_input` dispatches is one of its calls that is not a `System` call, passed
the filter for its origin index, and so reaches no banned call through the calls the filter opens;
it is dispatched from the account that index names. -/
theorem processInput_dispatch_filtered (extrinsics : List Extrinsic) (who : AccountId)
    (call : RuntimeCall)
    (h : Action.dispatch who call ∈
      processInput env extrinsics) :
    ∃ x ∈ extrinsics,
      x.call = call ∧ call.isSystem = false ∧ who = env.accounts.get x.origin ∧
      ∀ d, Reach.Below (filterChildren (env.accounts.originNo x.origin)) call d →
        ¬ Banned env.maxCandidates (env.accounts.originNo x.origin) d := by
  by_cases hnil : extrinsics.filter (fun x => !x.call.isSystem) = []
  · rw [processInput_of_filter_eq_nil env hnil] at h
    simp at h
  · rw [processInput_of_filter_ne_nil env hnil] at h
    have hloop : Action.dispatch who call ∈
        (loop env Driver.initial (extrinsics.filter fun x => !x.call.isSystem)).2 := by
      rcases List.mem_append.mp h with h | h
      · rcases List.mem_append.mp h with h | h
        · exact absurd h (dispatch_not_mem_initializeBlock env 1 who call)
        · exact h
      · split at h <;> simp at h
    obtain ⟨x, hx, hfilter, rfl, rfl⟩ := mem_loop_dispatch env _ _ hloop
    obtain ⟨hmem, hsystem⟩ := List.mem_filter.mp hx
    refine ⟨x, hmem, rfl, by simpa using hsystem, rfl, ?_⟩
    exact (recursiveCallFilter_eq_true_iff env.maxCandidates _ x.call).mp hfilter

/-- Two accounts; `Balances` calls weigh two seconds of reference time and the others nothing;
every dispatch takes a second and a half. `MaxCandidates` is taken as `100`, with the 12-second
slot. -/
def twoAccountEnv : Env ℕ where
  maxCandidates := 100
  slotDuration := 12000
  callWeight call := match call with
    | .balances _ => 2000000000000
    | _ => 0
  dispatchTime _ := 1500000000
  accounts := ⟨[10, 11], by simp⟩

/-- A `System` call, which is dropped; a `Sudo` call from origin `1`, which the filter rejects; a
`Balances` call, skipped for its weight; and a call with lapse `1`, which opens block `394`. -/
def mixedCalls : List Extrinsic :=
  [⟨0, 0, .system .other⟩, ⟨0, 1, .sudo .other⟩, ⟨0, 0, .balances .other⟩, ⟨1, 1, .other⟩]

/-- The trace of `mixedCalls`: the only call dispatched is the last, from account `11`, in
block `394`. -/
theorem processInput_mixedCalls :
    processInput twoAccountEnv mixedCalls =
      [Action.initializeBlock 1, Action.setTimestamp 24000, Action.setValidationData 1,
        Action.finalizeBlock, Action.initializeBlock 394, Action.setTimestamp 9456000,
        Action.setValidationData 394, Action.dispatch 11 .other, Action.finalizeBlock,
        Action.checkInvariants 394] := rfl

theorem processInput_dispatch_filtered_mixed_calls :
    Action.dispatch 11 .other ∈ processInput twoAccountEnv mixedCalls ∧
      ∃ x ∈ mixedCalls, x.call = .other ∧ RuntimeCall.other.isSystem = false ∧
        11 = twoAccountEnv.accounts.get x.origin ∧
        ∀ d, Reach.Below (filterChildren (twoAccountEnv.accounts.originNo x.origin)) .other d →
          ¬ Banned twoAccountEnv.maxCandidates (twoAccountEnv.accounts.originNo x.origin) d := by
  have htrace : Action.dispatch 11 .other ∈ processInput twoAccountEnv mixedCalls := by
    rw [processInput_mixedCalls]
    simp
  exact ⟨htrace, processInput_dispatch_filtered twoAccountEnv _ 11 .other htrace⟩

/-! ## The weight of a block -/

/-- Two seconds of reference time, the most `process_input` lets one block dispatch. -/
def blockRefTimeLimit : ℕ := (2 * weightRefTimePerSecond).toNat

theorem blockRefTimeLimit_eq : blockRefTimeLimit = 2000000000000 := toNat_weightLimit

/-- The reference time dispatched since the last `initializeBlock`, after one more action. -/
def loadAfter (load : ℕ) : Action AccountId → ℕ
  | .initializeBlock _ => 0
  | .dispatch _ call => load + (env.callWeight call).toNat
  | _ => load

/-- The reference time dispatched in the block a trace ends in. -/
def blockLoad (trace : List (Action AccountId)) : ℕ := trace.foldl (loadAfter env) 0

/-- Starting from `load`, the reference time dispatched in the open block stays below two
seconds at every point of the trace. -/
def LoadBelow (load : ℕ) : List (Action AccountId) → Prop
  | [] => load < blockRefTimeLimit
  | a :: t => load < blockRefTimeLimit ∧ LoadBelow (loadAfter env load a) t

/-- The driver's accrued weight covers what the open block has dispatched, which is below the
limit. -/
structure LoadInv (st : Driver) (load : ℕ) : Prop where
  le_weight : load ≤ st.weight.toNat
  lt_limit : load < blockRefTimeLimit

theorem LoadBelow.lt {load : ℕ} {trace : List (Action AccountId)}
    (h : LoadBelow env load trace) : load < blockRefTimeLimit := by
  cases trace with
  | nil => exact h
  | cons a t => exact h.1

theorem loadBelow_append (load : ℕ) (t u : List (Action AccountId)) :
    LoadBelow env load (t ++ u) ↔
      LoadBelow env load t ∧ LoadBelow env (t.foldl (loadAfter env) load) u := by
  induction t generalizing load with
  | nil => exact ⟨fun h => ⟨h.lt, h⟩, fun h => h.2⟩
  | cons a t ih =>
    simp only [List.cons_append, LoadBelow, List.foldl_cons, ih, and_assoc]

/-- Every prefix of a trace whose loads stay below the limit ends below it. -/
theorem LoadBelow.prefix {load : ℕ} {trace : List (Action AccountId)}
    (h : LoadBelow env load trace) {pre post : List (Action AccountId)}
    (hsplit : trace = pre ++ post) :
    pre.foldl (loadAfter env) load < blockRefTimeLimit := by
  subst hsplit
  exact ((loadBelow_append env load pre post).mp h).2.lt

theorem initializeBlock_load (load : ℕ) (block : UInt32) (h : load < blockRefTimeLimit) :
    LoadBelow env load (initializeBlock env block) ∧
      (initializeBlock env block).foldl (loadAfter env) load = 0 := by
  have hzero : 0 < blockRefTimeLimit := by rw [blockRefTimeLimit_eq]; omega
  unfold initializeBlock
  split <;> simp [LoadBelow, loadAfter, h, hzero]

theorem openBlock_load {st : Driver} {load : ℕ} (hinv : LoadInv st load) (lapse : UInt8) :
    LoadBelow env load (openBlock env st lapse).2 ∧
      ∀ st', (openBlock env st lapse).1 = some st' →
        LoadInv st' ((openBlock env st lapse).2.foldl (loadAfter env) load) := by
  rcases openBlock_cases env st lapse with ⟨-, ho⟩ | ⟨-, -, ho⟩ | ⟨-, -, ho⟩ <;> rw [ho]
  · exact ⟨hinv.lt_limit, fun st' h => by cases h; exact hinv⟩
  · obtain ⟨hbelow, hzero⟩ := initializeBlock_load env load _ hinv.lt_limit
    refine ⟨hbelow, fun st' h => ?_⟩
    cases h
    rw [hzero]
    exact ⟨Nat.zero_le _, by rw [blockRefTimeLimit_eq]; omega⟩
  · exact ⟨⟨hinv.lt_limit, hinv.lt_limit⟩, fun st' h => by cases h⟩

theorem accrueAndDispatch_load {st : Driver} {load : ℕ} (hinv : LoadInv st load) (x : Extrinsic) :
    LoadBelow env load (accrueAndDispatch env st x).2 ∧
      LoadInv (accrueAndDispatch env st x).1
        ((accrueAndDispatch env st x).2.foldl (loadAfter env) load) := by
  have hweight := accrueAndDispatch_weight env st x
  rw [accrueAndDispatch_snd]
  split
  · have hle := UInt64.le_iff_toNat_le.mp (le_saturatingAdd st.weight (env.callWeight x.call))
    refine ⟨hinv.lt_limit, ⟨?_, hinv.lt_limit⟩⟩
    rw [hweight]
    exact hinv.le_weight.trans hle
  · rename_i hfit
    have hsum := toNat_saturatingAdd_of_lt hfit
    rw [UInt64.le_iff_toNat_le] at hfit
    change ¬ blockRefTimeLimit ≤ _ at hfit
    have hle := hinv.le_weight
    simp only [LoadBelow, loadAfter, List.foldl_cons, List.foldl_nil]
    refine ⟨⟨hinv.lt_limit, by omega⟩, ⟨by rw [hweight]; omega, by omega⟩⟩

theorem step_load {st : Driver} {load : ℕ} (hinv : LoadInv st load) (x : Extrinsic) :
    LoadBelow env load (step env st x).2 ∧
      ∀ st', (step env st x).1 = some st' →
        LoadInv st' ((step env st x).2.foldl (loadAfter env) load) := by
  rcases step_cases env st x with
    ⟨-, hs⟩ | ⟨-, st₁, opened, ho, hs⟩ | ⟨-, -, -, hs⟩ <;> rw [hs]
  · exact ⟨hinv.lt_limit, fun st' h => by cases h; exact hinv⟩
  · obtain ⟨hopen, hinv₁⟩ := openBlock_load env hinv x.lapse
    rw [ho] at hopen hinv₁
    obtain ⟨hacc, hinv₂⟩ := accrueAndDispatch_load env (hinv₁ st₁ rfl) x
    refine ⟨(loadBelow_append env _ _ _).mpr ⟨hopen, hacc⟩, fun st' h => ?_⟩
    cases h
    rw [List.foldl_append]
    exact hinv₂
  · exact ⟨⟨hinv.lt_limit, hinv.lt_limit⟩, fun st' h => by cases h⟩

theorem loop_load :
    ∀ (st : Driver) (load : ℕ) (xs : List Extrinsic), LoadInv st load →
      LoadBelow env load (loop env st xs).2 ∧
        ∀ st', (loop env st xs).1 = some st' →
          LoadInv st' ((loop env st xs).2.foldl (loadAfter env) load)
  | _, _, [], hinv => ⟨hinv.lt_limit, fun st' h => by cases h; exact hinv⟩
  | st, load, x :: xs, hinv => by
    obtain ⟨hstep, hinv'⟩ := step_load env hinv x
    cases hr : (step env st x).1 with
    | none =>
      rw [loop_cons_of_none env xs hr]
      exact ⟨hstep, fun st' h => by cases h⟩
    | some st₁ =>
      obtain ⟨hrest, hinv''⟩ := loop_load st₁ _ xs (hinv' st₁ hr)
      rw [loop_cons_of_some env xs hr]
      refine ⟨(loadBelow_append env _ _ _).mpr ⟨hstep, hrest⟩, fun st' h => ?_⟩
      rw [List.foldl_append]
      exact hinv'' st' h

/-- At every point of the trace of `process_input`, the calls dispatched since the last block was
opened weigh less than two seconds of reference time. -/
theorem processInput_block_weight (extrinsics : List Extrinsic)
    (pre post : List (Action AccountId))
    (hsplit : processInput env extrinsics = pre ++ post) :
    blockLoad env pre < blockRefTimeLimit := by
  have hlimit : 0 < blockRefTimeLimit := by rw [blockRefTimeLimit_eq]; omega
  have htrace : LoadBelow env 0 (processInput env extrinsics) := by
    by_cases hnil : extrinsics.filter (fun x => !x.call.isSystem) = []
    · rw [processInput_of_filter_eq_nil env hnil]
      exact hlimit
    · obtain ⟨hopen, hzero⟩ := initializeBlock_load env 0 1 hlimit
      obtain ⟨hloop, hinv⟩ := loop_load env Driver.initial 0
        (extrinsics.filter fun x => !x.call.isSystem) ⟨le_refl 0, hlimit⟩
      cases hl : (loop env Driver.initial (extrinsics.filter fun x => !x.call.isSystem)).1 with
      | none =>
        rw [processInput_of_none env hnil hl, loadBelow_append, hzero]
        exact ⟨hopen, hloop⟩
      | some st =>
        have hend := (hinv st hl).lt_limit
        rw [processInput_of_some env hnil hl, loadBelow_append, loadBelow_append, hzero]
        exact ⟨⟨hopen, hloop⟩, hend, hend, hend⟩
  exact htrace.prefix env hsplit

/-- The trace of `mixedCalls`, cut after block `394` is opened. -/
theorem processInput_block_weight_mixed_calls :
    processInput twoAccountEnv mixedCalls =
        [Action.initializeBlock 1, Action.setTimestamp 24000, Action.setValidationData 1,
          Action.finalizeBlock, Action.initializeBlock 394, Action.setTimestamp 9456000,
          Action.setValidationData 394] ++
        [Action.dispatch 11 .other, Action.finalizeBlock, Action.checkInvariants 394] ∧
      blockLoad twoAccountEnv
          [Action.initializeBlock 1, Action.setTimestamp 24000, Action.setValidationData 1,
            Action.finalizeBlock, Action.initializeBlock 394, Action.setTimestamp 9456000,
            Action.setValidationData 394] <
        blockRefTimeLimit :=
  ⟨processInput_mixedCalls, processInput_block_weight twoAccountEnv mixedCalls _ _
    processInput_mixedCalls⟩

/-! ## Opening and finalizing blocks -/

theorem acceptedWeight_cons (x : Extrinsic) (xs : List Extrinsic) :
    acceptedWeight env (x :: xs) =
      (if env.accepts x then (env.callWeight x.call).toNat else 0) + acceptedWeight env xs := by
  unfold acceptedWeight
  rw [List.filter_cons]
  split <;> simp

theorem le_weightLimit_saturatingAdd {a : UInt64} (h : 2 * weightRefTimePerSecond ≤ a)
    (b : UInt64) :
    2 * weightRefTimePerSecond ≤ saturatingAdd a b :=
  UInt64.le_trans h (le_saturatingAdd a b)

/-- An accepted call with no lapse whose weight fills the block is skipped, and its weight is
kept. -/
theorem step_of_full (st : Driver) {x : Extrinsic} (hf : env.accepts x = true)
    (hlapse : x.lapse = 0)
    (hfull : 2 * weightRefTimePerSecond ≤ saturatingAdd st.weight (env.callWeight x.call)) :
    step env st x =
      (some { st with weight := saturatingAdd st.weight (env.callWeight x.call) }, []) := by
  have hnot : ¬ 0 < x.lapse := by
    rw [hlapse]
    decide
  rw [step_of_open env hf (openBlock_of_not_pos env st hnot),
    accrueAndDispatch_of_full env st hfull]
  rfl

theorem loop_cons_of_skip {st st₁ st' : Driver} {x : Extrinsic} {xs : List Extrinsic}
    (hs : step env st x = (some st₁, [])) (hl : loop env st₁ xs = (some st', [])) :
    loop env st (x :: xs) = (some st', []) := by
  rw [loop_cons_of_some env xs (congrArg Prod.fst hs), hl, hs]
  rfl

/-- Accruing one weight with saturation and then the rest saturates once, at the end. -/
theorem min_saturatingAdd_add (a b : UInt64) (c : ℕ) :
    min ((saturatingAdd a b).toNat + c) (2 ^ 64 - 1) =
      min (a.toNat + (b.toNat + c)) (2 ^ 64 - 1) := by
  rw [toNat_saturatingAdd]
  omega

/-- From a full block, while no call with a positive lapse passes the filter, nothing is
dispatched, the block and the time stay, and every accepted call's weight is accrued. -/
theorem loop_full :
    ∀ (st : Driver) (xs : List Extrinsic), 2 * weightRefTimePerSecond ≤ st.weight →
      (∀ y ∈ xs, 0 < y.lapse → env.accepts y = false) →
      ∃ st', loop env st xs = (some st', []) ∧ st'.block = st.block ∧
        st'.elapsed = st.elapsed ∧ st'.dispatched = st.dispatched ∧
        st'.weight.toNat = min (st.weight.toNat + acceptedWeight env xs) (2 ^ 64 - 1)
  | st, [], _, _ => by
    have hlt := st.weight.toNat_lt_size
    refine ⟨st, rfl, rfl, rfl, rfl, ?_⟩
    simp only [UInt64.size] at hlt
    simp only [acceptedWeight, List.filter_nil, List.map_nil, List.sum_nil]
    omega
  | st, x :: xs, hfull, hrest => by
    have hrest' : ∀ y ∈ xs, 0 < y.lapse → env.accepts y = false :=
      fun y hy => hrest y (List.mem_cons_of_mem x hy)
    cases hf : env.accepts x with
    | false =>
      have hs := step_of_rejected env st hf
      obtain ⟨st', hl, hblock, helapsed, hdispatched, hweight⟩ := loop_full st xs hfull hrest'
      refine ⟨st', loop_cons_of_skip env hs hl, hblock, helapsed, hdispatched, ?_⟩
      rw [hweight, acceptedWeight_cons, hf]
      simp
    | true =>
      have hlapse : x.lapse = 0 := by
        by_contra hne
        have hpos : 0 < x.lapse := UInt8.pos_iff_ne_zero.mpr hne
        rw [hrest x List.mem_cons_self hpos] at hf
        cases hf
      have hgrow := le_weightLimit_saturatingAdd hfull (env.callWeight x.call)
      have hs := step_of_full env st hf hlapse hgrow
      obtain ⟨st', hl, hblock, helapsed, hdispatched, hweight⟩ :=
        loop_full { st with weight := saturatingAdd st.weight (env.callWeight x.call) } xs hgrow
          hrest'
      refine ⟨st', loop_cons_of_skip env hs hl, hblock, helapsed, hdispatched, ?_⟩
      rw [hweight, acceptedWeight_cons, hf, if_pos rfl]
      exact min_saturatingAdd_add _ _ _

/-- From any state, an accepted call with no lapse whose saturating accrual reaches two seconds is
skipped, and its weight stays accrued. Then, while no call with a positive lapse passes the
filter, the loop dispatches nothing and opens no block, and the accrued weight is the saturating
sum of the weights of every accepted call, the skipped ones included. -/
theorem loop_full_block (st : Driver) (x : Extrinsic) (xs : List Extrinsic)
    (hf : env.accepts x = true) (hlapse : x.lapse = 0)
    (hfull : 2 * weightRefTimePerSecond ≤ saturatingAdd st.weight (env.callWeight x.call))
    (hrest : ∀ y ∈ xs, 0 < y.lapse → env.accepts y = false) :
    step env st x =
        (some { st with weight := saturatingAdd st.weight (env.callWeight x.call) }, []) ∧
      ∃ st', loop env st (x :: xs) = (some st', []) ∧ st'.block = st.block ∧
        st'.elapsed = st.elapsed ∧ st'.dispatched = st.dispatched ∧
        st'.weight.toNat = min (st.weight.toNat + acceptedWeight env (x :: xs)) (2 ^ 64 - 1) := by
  have hs := step_of_full env st hf hlapse hfull
  obtain ⟨st', hl, hblock, helapsed, hdispatched, hweight⟩ :=
    loop_full env { st with weight := saturatingAdd st.weight (env.callWeight x.call) } xs hfull
      hrest
  refine ⟨hs, st', loop_cons_of_skip env hs hl, hblock, helapsed, hdispatched, ?_⟩
  rw [hweight, acceptedWeight_cons, hf, if_pos rfl]
  exact min_saturatingAdd_add _ _ _

/-- A heavy call with no lapse at the start of block `1`, then a call that weighs nothing and a
`Sudo` call from origin `1` with a lapse, which the filter rejects. -/
def heavyCall : Extrinsic := ⟨0, 0, .balances .other⟩

def afterHeavyCalls : List Extrinsic := [⟨0, 1, .other⟩, ⟨1, 1, .sudo .other⟩]

theorem loop_full_block_heavy_call :
    twoAccountEnv.accepts heavyCall = true ∧ heavyCall.lapse = 0 ∧
      2 * weightRefTimePerSecond ≤
        saturatingAdd Driver.initial.weight (twoAccountEnv.callWeight heavyCall.call) ∧
      (∀ y ∈ afterHeavyCalls, 0 < y.lapse → twoAccountEnv.accepts y = false) ∧
      (step twoAccountEnv Driver.initial heavyCall =
          (some { Driver.initial with
            weight := saturatingAdd Driver.initial.weight (twoAccountEnv.callWeight heavyCall.call) },
            []) ∧
        ∃ st', loop twoAccountEnv Driver.initial (heavyCall :: afterHeavyCalls) = (some st', []) ∧
          st'.block = Driver.initial.block ∧ st'.elapsed = Driver.initial.elapsed ∧
          st'.dispatched = Driver.initial.dispatched ∧
          st'.weight.toNat = min (Driver.initial.weight.toNat +
            acceptedWeight twoAccountEnv (heavyCall :: afterHeavyCalls)) (2 ^ 64 - 1)) :=
  have hf : twoAccountEnv.accepts heavyCall = true := rfl
  have hfull : 2 * weightRefTimePerSecond ≤
      saturatingAdd Driver.initial.weight (twoAccountEnv.callWeight heavyCall.call) := by decide
  have hrest : ∀ y ∈ afterHeavyCalls, 0 < y.lapse → twoAccountEnv.accepts y = false := by
    decide
  ⟨hf, rfl, hfull, hrest,
    loop_full_block twoAccountEnv Driver.initial heavyCall afterHeavyCalls hf rfl hfull hrest⟩

end Loop

end AlsaniaChain.Fuzzer
