import AlsaniaChain.Library.Reach

/-! # The fuzzer's call filter

`recursive_call_filter` (`template-fuzzer/src/main.rs`) decides which decoded calls the fuzzer
dispatches, and from which origin: it descends through the call-carrying calls it names and
rejects `System::set_code` and `kill_prefix`, `Balances::force_adjust_total_issuance`,
`CollatorSelection::set_desired_candidates` from `MaxCandidates` up, and any `Sudo` call from an
origin other than `0`.

`RuntimeCall` keeps the pallets the filter or its callers name; the pallet call types take the
runtime call as a parameter, as `Box<RuntimeCall>` does in the runtime. Fields the filter does not
read are left out, and `other` stands for the calls of a pallet that it treats alike.

* `recursiveCallFilter_eq_true_iff`: the filter accepts a call exactly when no banned call is
  reached through the constructors it descends into (`filterChildren`).
* `recursiveCallFilter_misses_proxy`: `Proxy::proxy` and, from origin `0`, `Sudo::sudo_as` carry
  a call the filter never looks at, so `set_code` passes inside them.
* `recursiveCallFilter_sound_of_no_proxy`: without those two wrappers every call reachable
  through any call-carrying constructor passes the bans.
-/

namespace AlsaniaChain.Fuzzer
open Reach
set_option autoImplicit false

inductive SystemCall where
  | setCode
  | killPrefix
  | other
  deriving DecidableEq, Repr

inductive BalancesCall where
  | forceAdjustTotalIssuance
  | other
  deriving DecidableEq, Repr

inductive CollatorSelectionCall where
  | setDesiredCandidates (max : UInt32)
  | other
  deriving DecidableEq, Repr

inductive SudoCall (Call : Type) where
  | sudo (call : Call)
  | sudoUncheckedWeight (call : Call)
  | sudoAs (call : Call)
  | other
  deriving Repr

inductive UtilityCall (Call : Type) where
  | batch (calls : List Call)
  | asDerivative (call : Call)
  | batchAll (calls : List Call)
  | dispatchAs (call : Call)
  | forceBatch (calls : List Call)
  | withWeight (call : Call)
  | other
  deriving Repr

inductive SchedulerCall (Call : Type) where
  | schedule (call : Call)
  | scheduleNamed (call : Call)
  | scheduleAfter (call : Call)
  | scheduleNamedAfter (call : Call)
  | other
  deriving Repr

inductive MultisigCall (Call : Type) where
  | asMultiThreshold1 (call : Call)
  | asMulti (call : Call)
  | other
  deriving Repr

inductive WhitelistCall (Call : Type) where
  | dispatchWhitelistedCallWithPreimage (call : Call)
  | other
  deriving Repr

inductive ProxyCall (Call : Type) where
  | proxy (call : Call)
  | proxyAnnounced (call : Call)
  | other
  deriving Repr

inductive RuntimeCall where
  | system (c : SystemCall)
  | balances (c : BalancesCall)
  | collatorSelection (c : CollatorSelectionCall)
  | sudo (c : SudoCall RuntimeCall)
  | utility (c : UtilityCall RuntimeCall)
  | scheduler (c : SchedulerCall RuntimeCall)
  | multisig (c : MultisigCall RuntimeCall)
  | whitelist (c : WhitelistCall RuntimeCall)
  | proxy (c : ProxyCall RuntimeCall)
  | other
  deriving Repr

section Filter
variable (maxCandidates : UInt32)

mutual

/-- `recursive_call_filter`, arm by arm; a guard that fails falls through to the later arms. -/
def recursiveCallFilter (call : RuntimeCall) (origin : ℕ) : Bool :=
  match call with
  | .sudo (.sudo call) | .sudo (.sudoUncheckedWeight call) =>
    -- the recursion arm is guarded by `origin == 0`; otherwise `Sudo(_) if origin != 0` rejects
    if origin = 0 then recursiveCallFilter call origin else false
  | .utility (.withWeight call) | .utility (.dispatchAs call) | .utility (.asDerivative call) =>
    recursiveCallFilter call origin
  | .utility (.forceBatch calls) | .utility (.batch calls) | .utility (.batchAll calls) =>
    recursiveCallFilterAll calls origin
  | .scheduler (.scheduleNamedAfter call) | .scheduler (.schedule call)
  | .scheduler (.scheduleNamed call) | .scheduler (.scheduleAfter call) =>
    recursiveCallFilter call origin
  | .multisig (.asMultiThreshold1 call) | .multisig (.asMulti call) =>
    recursiveCallFilter call origin
  | .whitelist (.dispatchWhitelistedCallWithPreimage call) => recursiveCallFilter call origin
  | .sudo _ => if origin ≠ 0 then false else true
  | .system .setCode | .system .killPrefix => false
  | .collatorSelection (.setDesiredCandidates max) => max < maxCandidates
  | .balances .forceAdjustTotalIssuance => false
  | _ => true

/-- `calls.iter().map(|call| recursive_call_filter(call, origin)).all(|e| e)`. -/
def recursiveCallFilterAll (calls : List RuntimeCall) (origin : ℕ) : Bool :=
  match calls with
  | [] => true
  | call :: rest => recursiveCallFilter call origin && recursiveCallFilterAll rest origin

end

end Filter

/-! ## Reachable and banned calls -/

/-- The calls a call carries, through every call-carrying constructor. -/
def RuntimeCall.children : RuntimeCall → List RuntimeCall
  | .sudo (.sudo call) | .sudo (.sudoUncheckedWeight call) | .sudo (.sudoAs call) => [call]
  | .utility (.withWeight call) | .utility (.dispatchAs call) | .utility (.asDerivative call) =>
    [call]
  | .utility (.forceBatch calls) | .utility (.batch calls) | .utility (.batchAll calls) => calls
  | .scheduler (.scheduleNamedAfter call) | .scheduler (.schedule call)
  | .scheduler (.scheduleNamed call) | .scheduler (.scheduleAfter call) => [call]
  | .multisig (.asMultiThreshold1 call) | .multisig (.asMulti call) => [call]
  | .whitelist (.dispatchWhitelistedCallWithPreimage call) => [call]
  | .proxy (.proxy call) | .proxy (.proxyAnnounced call) => [call]
  | _ => []

/-- The calls the filter descends into: no `Proxy` call, and `Sudo` only from origin `0` and
not through `sudo_as`. -/
def filterChildren (origin : ℕ) : RuntimeCall → List RuntimeCall
  | .sudo (.sudo call) | .sudo (.sudoUncheckedWeight call) => if origin = 0 then [call] else []
  | .utility (.withWeight call) | .utility (.dispatchAs call) | .utility (.asDerivative call) =>
    [call]
  | .utility (.forceBatch calls) | .utility (.batch calls) | .utility (.batchAll calls) => calls
  | .scheduler (.scheduleNamedAfter call) | .scheduler (.schedule call)
  | .scheduler (.scheduleNamed call) | .scheduler (.scheduleAfter call) => [call]
  | .multisig (.asMultiThreshold1 call) | .multisig (.asMulti call) => [call]
  | .whitelist (.dispatchWhitelistedCallWithPreimage call) => [call]
  | _ => []

/-- The calls the fuzzer must not dispatch from `origin`. -/
def Banned (maxCandidates : UInt32) (origin : ℕ) : RuntimeCall → Prop
  | .system .setCode | .system .killPrefix => True
  | .balances .forceAdjustTotalIssuance => True
  | .collatorSelection (.setDesiredCandidates max) => maxCandidates ≤ max
  | .sudo _ => origin ≠ 0
  | _ => False

instance (maxCandidates : UInt32) (origin : ℕ) : DecidablePred (Banned maxCandidates origin)
  | .system .setCode | .system .killPrefix => inferInstanceAs (Decidable True)
  | .balances .forceAdjustTotalIssuance => inferInstanceAs (Decidable True)
  | .collatorSelection (.setDesiredCandidates max) =>
    inferInstanceAs (Decidable (maxCandidates ≤ max))
  | .sudo _ => inferInstanceAs (Decidable (origin ≠ 0))
  | .system .other | .balances .other | .collatorSelection .other | .utility _ | .scheduler _
  | .multisig _ | .whitelist _ | .proxy _ | .other => inferInstanceAs (Decidable False)

/-- `d` is reached from `c` through call-carrying constructors. -/
def Reachable (c d : RuntimeCall) : Prop := Below RuntimeCall.children c d

def RuntimeCall.IsProxied : RuntimeCall → Prop
  | .proxy (.proxy _) | .proxy (.proxyAnnounced _) => True
  | _ => False

def RuntimeCall.IsSudoAs : RuntimeCall → Prop
  | .sudo (.sudoAs _) => True
  | _ => False

/-! ## What the filter computes -/

section Filter
variable (maxCandidates : UInt32)

theorem recursiveCallFilterAll_eq (origin : ℕ) :
    ∀ calls, recursiveCallFilterAll maxCandidates calls origin =
      calls.all fun call => recursiveCallFilter maxCandidates call origin
  | [] => by rw [recursiveCallFilterAll]; rfl
  | call :: rest => by
    rw [recursiveCallFilterAll, recursiveCallFilterAll_eq origin rest, List.all_cons]

theorem sizeOf_lt_of_mem_filterChildren (origin : ℕ) :
    ∀ c, ∀ d ∈ filterChildren origin c, sizeOf d < sizeOf c := by
  intro c d hd
  have hlist : ∀ calls : List RuntimeCall, d ∈ calls → sizeOf d < sizeOf calls :=
    fun calls h => List.sizeOf_lt_of_mem h
  unfold filterChildren at hd
  split at hd <;> simp_all <;> first | omega | exact (hlist _ hd).trans_le (by omega)

/-- One step of the filter: it accepts a call exactly when the call is not banned and every call
it descends into is accepted. -/
theorem recursiveCallFilter_step (origin : ℕ) (c : RuntimeCall) :
    recursiveCallFilter maxCandidates c origin = true ↔
      ¬ Banned maxCandidates origin c ∧
        ∀ d ∈ filterChildren origin c, recursiveCallFilter maxCandidates d origin = true := by
  match c with
  | .sudo c =>
    by_cases ho : origin = 0 <;>
      cases c <;> simp [recursiveCallFilter, filterChildren, Banned, ho]
  | .utility c =>
    cases c <;> simp [recursiveCallFilter, filterChildren, Banned, recursiveCallFilterAll_eq]
  | .collatorSelection c =>
    cases c <;> simp [recursiveCallFilter, filterChildren, Banned]
  | .system c | .balances c | .scheduler c | .multisig c | .whitelist c | .proxy c =>
    cases c <;> simp [recursiveCallFilter, filterChildren, Banned]
  | .other => simp [recursiveCallFilter, filterChildren, Banned]

/-- The filter accepts a call exactly when no banned call is reached through the constructors it
descends into. -/
theorem recursiveCallFilter_eq_true_iff (origin : ℕ) (c : RuntimeCall) :
    recursiveCallFilter maxCandidates c origin = true ↔
      ∀ d, Below (filterChildren origin) c d → ¬ Banned maxCandidates origin d :=
  check_iff (Banned maxCandidates origin) (fun c => recursiveCallFilter maxCandidates c origin)
    sizeOf (sizeOf_lt_of_mem_filterChildren origin)
    (recursiveCallFilter_step maxCandidates origin) c

/-! ## Wrappers the filter does not open -/

/-- `Proxy::proxy` carrying `System::set_code` passes the filter from every origin, and
`Sudo::sudo_as` carrying it passes from origin `0`; both reach `set_code`. -/
theorem recursiveCallFilter_misses_proxy :
    (∀ origin, recursiveCallFilter maxCandidates (.proxy (.proxy (.system .setCode))) origin =
        true ∧
      Reachable (.proxy (.proxy (.system .setCode))) (.system .setCode) ∧
      Banned maxCandidates origin (.system .setCode)) ∧
    (recursiveCallFilter maxCandidates (.sudo (.sudoAs (.system .setCode))) 0 = true ∧
      Reachable (.sudo (.sudoAs (.system .setCode))) (.system .setCode) ∧
      Banned maxCandidates 0 (.system .setCode)) := by
  refine ⟨fun origin => ⟨?_, ?_, trivial⟩, ?_, ?_, trivial⟩
  · simp [recursiveCallFilter]
  · exact Below.head (by simp [RuntimeCall.children]) (Below.refl _)
  · simp [recursiveCallFilter]
  · exact Below.head (by simp [RuntimeCall.children]) (Below.refl _)

/-- Where neither wrapper is, the filter descends into every call a call carries, unless the
call is itself banned. -/
theorem mem_filterChildren (origin : ℕ) {c d : RuntimeCall} (hd : d ∈ c.children)
    (hproxy : ¬ c.IsProxied) (hsudoAs : origin = 0 → ¬ c.IsSudoAs)
    (hbanned : ¬ Banned maxCandidates origin c) : d ∈ filterChildren origin c := by
  match c with
  | .sudo (.sudo call) | .sudo (.sudoUncheckedWeight call) =>
    have ho : origin = 0 := by simpa [Banned] using hbanned
    simpa [RuntimeCall.children, filterChildren, ho] using hd
  | .sudo (.sudoAs call) =>
    have ho : origin = 0 := by simpa [Banned] using hbanned
    exact absurd trivial (hsudoAs ho)
  | .proxy (.proxy call) | .proxy (.proxyAnnounced call) => exact absurd trivial hproxy
  | .utility c | .scheduler c | .multisig c | .whitelist c =>
    cases c <;> simp_all [RuntimeCall.children, filterChildren]
  | .sudo .other | .proxy .other | .system _ | .balances _ | .collatorSelection _ | .other =>
    simp [RuntimeCall.children] at hd

/-- A call the filter accepts reaches no banned call, through any call-carrying constructor, as
long as no `Proxy::proxy` or `proxy_announced` is reached and, from origin `0`, no
`Sudo::sudo_as`. -/
theorem recursiveCallFilter_sound_of_no_proxy (origin : ℕ) (c : RuntimeCall)
    (hfilter : recursiveCallFilter maxCandidates c origin = true)
    (hproxy : ∀ d, Reachable c d → ¬ d.IsProxied)
    (hsudoAs : origin = 0 → ∀ d, Reachable c d → ¬ d.IsSudoAs) :
    ∀ d, Reachable c d → ¬ Banned maxCandidates origin d := by
  rw [recursiveCallFilter_eq_true_iff] at hfilter
  intro d hd
  induction hd using Relation.ReflTransGen.head_induction_on with
  | refl => exact hfilter d (Below.refl d)
  | head hcx hxd ih =>
    rename_i c' x
    have hnot : ¬ Banned maxCandidates origin c' := hfilter c' (Below.refl c')
    have hx : x ∈ filterChildren origin c' :=
      mem_filterChildren maxCandidates origin hcx (hproxy c' (Below.refl c'))
        (fun ho => hsudoAs ho c' (Below.refl c')) hnot
    exact ih (fun e he => hfilter e (Below.head hx he))
      (fun e he => hproxy e (Below.head hcx he))
      (fun ho e he => hsudoAs ho e (Below.head hcx he))

/-- A batch of one plain system call, sent from origin `1`, passes the filter and reaches no
banned call. -/
theorem recursiveCallFilter_sound_of_no_proxy_batch :
    recursiveCallFilter 100 (.utility (.batch [.system .other])) 1 = true ∧
      (∀ d, Reachable (.utility (.batch [.system .other])) d → ¬ d.IsProxied) ∧
      ((1 : ℕ) = 0 → ∀ d, Reachable (.utility (.batch [.system .other])) d → ¬ d.IsSudoAs) ∧
      ∀ d, Reachable (.utility (.batch [.system .other])) d → ¬ Banned 100 1 d := by
  have hreach : ∀ d, Reachable (.utility (.batch [.system .other])) d →
      d = .utility (.batch [.system .other]) ∨ d = .system .other := by
    intro d hd
    rcases hd.cases_head with rfl | ⟨e, he, hed⟩
    · exact .inl rfl
    · have he' : e = .system .other := by simpa [RuntimeCall.children] using he
      subst he'
      exact .inr (Below.eq_of_kids_nil rfl hed)
  have hproxy : ∀ d, Reachable (.utility (.batch [.system .other])) d → ¬ d.IsProxied := by
    intro d hd
    rcases hreach d hd with rfl | rfl <;> simp [RuntimeCall.IsProxied]
  exact ⟨by decide, hproxy, by simp,
    recursiveCallFilter_sound_of_no_proxy 100 1 _ (by decide) hproxy (by simp)⟩

end Filter

end AlsaniaChain.Fuzzer
