import AlsaniaChain.Library.FiniteMap
import AlsaniaChain.Primitives

/-! # The ALSC token pallet: balances under `transfer`

`runtime/src/alsc_token.rs` keeps a `Balances` storage map from accounts to `u64`, read through
a `ValueQuery` getter (an account never written reads as `0`), and one dispatchable,
`transfer(origin, to, value)` (its `to` is `dest` here, `to` being a Lean keyword). Its body reads the sender's and the receiver's balance first,
checks `sender_balance >= value`, and then writes the two new balances one after the other.

* `transfer`, `dispatch` and `run`: one call, and a run of calls from a state.
* `transfer_outcome`: a call either fails and leaves the state as it was, or succeeds.
* Between two different accounts a call moves `value` with no overflow and keeps the supply
  (`transfer_moves`, `transfer_supply_of_ne`), so along a run in which nobody pays themselves the
  supply never changes (`run_supply`).
* When the sender is the receiver the second write wins over the first: the account ends with
  its old balance plus `value` (`transfer_self_balance`), and the supply grows by `value`
  (`transfer_self_supply`).
-/

namespace AlsaniaChain.AlscToken
open FiniteMap
set_option autoImplicit false

/-! ## The pallet -/

inductive DispatchError where
  | badOrigin
  | insufficientBalance
  deriving DecidableEq, Repr

inductive Event (AccountId : Type) where
  | transfer (sender dest : AccountId) (value : UInt64)
  deriving DecidableEq, Repr

inductive Call (AccountId : Type) where
  | transfer (dest : AccountId) (value : UInt64)
  deriving DecidableEq, Repr

variable {AccountId : Type} [DecidableEq AccountId]

/-- The storage `transfer` reads and writes: the `Balances` map, and the block's events. -/
structure State (AccountId : Type) [DecidableEq AccountId] where
  balances : AList (fun _ : AccountId => UInt64)
  events : List (Event AccountId)

def ensureSigned (origin : RawOrigin AccountId) : Except DispatchError AccountId :=
  match origin with
  | .signed who => .ok who
  | _ => .error .badOrigin

def balanceOf (s : State AccountId) (who : AccountId) : UInt64 :=
  (s.balances.lookup who).getD 0

def insertBalance (s : State AccountId) (who : AccountId) (v : UInt64) : State AccountId :=
  { s with balances := s.balances.insert who v }

def depositEvent (s : State AccountId) (e : Event AccountId) : State AccountId :=
  { s with events := s.events ++ [e] }

/-- `Module::transfer`: the dispatch result and the state after the call. The error paths return
before any write, so they return the state they were given. `u64` addition wraps, as in a
release build of the runtime. -/
def transfer (s : State AccountId) (origin : RawOrigin AccountId) (dest : AccountId)
    (value : UInt64) : Except DispatchError Unit × State AccountId :=
  match ensureSigned origin with
  | .error e => (.error e, s)
  | .ok sender =>
    let senderBalance := balanceOf s sender
    let receiverBalance := balanceOf s dest
    if senderBalance ≥ value then
      let s := insertBalance s sender (senderBalance - value)
      let s := insertBalance s dest (receiverBalance + value)
      (.ok (), depositEvent s (.transfer sender dest value))
    else
      (.error .insufficientBalance, s)

def dispatch (s : State AccountId) (origin : RawOrigin AccountId) :
    Call AccountId → Except DispatchError Unit × State AccountId
  | .transfer dest value => transfer s origin dest value

/-- The state after a run of calls, each dispatched on the state the previous one left. -/
def run (s : State AccountId) : List (RawOrigin AccountId × Call AccountId) → State AccountId
  | [] => s
  | (origin, call) :: rest => run (dispatch s origin call).2 rest

/-- The sum of all balances. -/
def supply (s : State AccountId) : ℕ :=
  total UInt64.toNat s.balances

/-! ## Storage lemmas -/

@[simp] theorem balanceOf_insertBalance (s : State AccountId) (a b : AccountId) (v : UInt64) :
    balanceOf (insertBalance s a v) b = if b = a then v else balanceOf s b := by
  by_cases h : b = a
  · subst h
    simp [balanceOf, insertBalance, AList.lookup_insert]
  · simp [balanceOf, insertBalance, AList.lookup_insert_ne h, h]

@[simp] theorem balanceOf_depositEvent (s : State AccountId) (e : Event AccountId) (b : AccountId) :
    balanceOf (depositEvent s e) b = balanceOf s b := rfl

@[simp] theorem supply_depositEvent (s : State AccountId) (e : Event AccountId) :
    supply (depositEvent s e) = supply s := rfl

theorem weightAt_balances (s : State AccountId) (a : AccountId) :
    weightAt UInt64.toNat a s.balances = (balanceOf s a).toNat := by
  unfold weightAt balanceOf
  cases s.balances.lookup a <;> rfl

theorem supply_insertBalance (s : State AccountId) (a : AccountId) (v : UInt64) :
    supply (insertBalance s a v) + (balanceOf s a).toNat = supply s + v.toNat := by
  rw [← weightAt_balances]
  exact total_insert UInt64.toNat a v s.balances

theorem balanceOf_add_balanceOf_le_supply (s : State AccountId) {a b : AccountId} (hne : a ≠ b) :
    (balanceOf s a).toNat + (balanceOf s b).toNat ≤ supply s := by
  rw [← weightAt_balances, ← weightAt_balances]
  exact weightAt_add_weightAt_le_total UInt64.toNat hne s.balances

/-! ## One call -/

theorem transfer_of_not_signed (s : State AccountId) (origin : RawOrigin AccountId)
    (dest : AccountId) (value : UInt64) (h : ∀ who, origin ≠ .signed who) :
    transfer s origin dest value = (.error .badOrigin, s) := by
  cases origin with
  | signed who => exact absurd rfl (h who)
  | root => rfl
  | none => rfl

theorem transfer_signed (s : State AccountId) (sender dest : AccountId) (value : UInt64) :
    transfer s (.signed sender) dest value =
      if value ≤ balanceOf s sender then
        (.ok (), depositEvent (insertBalance (insertBalance s sender (balanceOf s sender - value))
          dest (balanceOf s dest + value)) (.transfer sender dest value))
      else (.error .insufficientBalance, s) := rfl

theorem transfer_outcome (s : State AccountId) (sender dest : AccountId) (value : UInt64) :
    (transfer s (.signed sender) dest value = (.error .insufficientBalance, s) ∧
        (balanceOf s sender).toNat < value.toNat) ∨
      ((transfer s (.signed sender) dest value).1 = .ok () ∧
        value.toNat ≤ (balanceOf s sender).toNat) := by
  rw [transfer_signed]
  by_cases h : value ≤ balanceOf s sender
  · right
    rw [if_pos h]
    exact ⟨rfl, UInt64.le_iff_toNat_le.mp h⟩
  · left
    rw [if_neg h]
    exact ⟨rfl, by rw [UInt64.le_iff_toNat_le] at h; omega⟩

section Distinct
variable {s s' : State AccountId} {sender dest : AccountId} {value : UInt64}

/-- Between two different accounts, a call that succeeds lowers the sender by `value`, raises
the receiver by `value` and leaves every other balance alone; neither `u64` operation wraps
while the supply fits in a `u64`. -/
theorem transfer_moves (hne : sender ≠ dest) (hfit : supply s < 2 ^ 64)
    (h : transfer s (.signed sender) dest value = (.ok (), s')) :
    value.toNat ≤ (balanceOf s sender).toNat ∧
      (balanceOf s dest).toNat + value.toNat < 2 ^ 64 ∧
      (balanceOf s' sender).toNat = (balanceOf s sender).toNat - value.toNat ∧
      (balanceOf s' dest).toNat = (balanceOf s dest).toNat + value.toNat ∧
      ∀ c, c ≠ sender → c ≠ dest → balanceOf s' c = balanceOf s c := by
  rw [transfer_signed] at h
  split at h
  · rename_i hle
    obtain ⟨-, rfl⟩ := Prod.mk.inj h
    have hle' := UInt64.le_iff_toNat_le.mp hle
    have hsum := balanceOf_add_balanceOf_le_supply s hne
    have hfit' : (balanceOf s dest).toNat + value.toNat < 2 ^ 64 := by omega
    refine ⟨hle', hfit', ?_, ?_, ?_⟩
    · simp [hne, UInt64.toNat_sub_of_le _ _ hle]
    · simp only [balanceOf_depositEvent, balanceOf_insertBalance, if_true, UInt64.toNat_add]
      exact Nat.mod_eq_of_lt hfit'
    · intro c hcs hct
      simp [hcs, hct]
  · exact absurd (Prod.mk.inj h).1 (by simp)

theorem transfer_supply_of_ne (hne : sender ≠ dest) (hfit : supply s < 2 ^ 64)
    (h : transfer s (.signed sender) dest value = (.ok (), s')) : supply s' = supply s := by
  obtain ⟨hle, hnowrap, -⟩ := transfer_moves hne hfit h
  rw [transfer_signed] at h
  split at h
  · rename_i hle'
    obtain ⟨-, rfl⟩ := Prod.mk.inj h
    have h1 := supply_insertBalance s sender (balanceOf s sender - value)
    have h2 := supply_insertBalance (insertBalance s sender (balanceOf s sender - value)) dest
      (balanceOf s dest + value)
    rw [balanceOf_insertBalance, if_neg (Ne.symm hne)] at h2
    rw [UInt64.toNat_sub_of_le _ _ hle'] at h1
    rw [UInt64.toNat_add, Nat.mod_eq_of_lt hnowrap] at h2
    rw [supply_depositEvent]
    omega
  · exact absurd (Prod.mk.inj h).1 (by simp)

end Distinct

theorem transfer_error_state (s : State AccountId) (origin : RawOrigin AccountId) (dest : AccountId)
    (value : UInt64) (e : DispatchError) (h : (transfer s origin dest value).1 = .error e) :
    (transfer s origin dest value).2 = s := by
  cases origin with
  | signed sender =>
    rw [transfer_signed] at h ⊢
    split
    · rename_i hle
      rw [if_pos hle] at h
      exact absurd h (by simp)
    · rfl
  | root => rfl
  | none => rfl

/-! ## Paying oneself -/

/-- When the sender is the receiver, the write of `balance + value` comes last and wins: the
account gains `value` (modulo `2 ^ 64`) and every other balance is unchanged. -/
theorem transfer_self_balance (s : State AccountId) (a : AccountId) (value : UInt64)
    (hle : value ≤ balanceOf s a) :
    transfer s (.signed a) a value =
        (.ok (), depositEvent (insertBalance (insertBalance s a (balanceOf s a - value)) a
          (balanceOf s a + value)) (.transfer a a value)) ∧
      balanceOf (transfer s (.signed a) a value).2 a = balanceOf s a + value ∧
      ∀ c, c ≠ a → balanceOf (transfer s (.signed a) a value).2 c = balanceOf s c := by
  have h := transfer_signed s a a value
  rw [if_pos hle] at h
  refine ⟨h, ?_, ?_⟩
  · rw [h]
    simp
  · intro c hc
    rw [h]
    simp [hc]

theorem transfer_self_supply (s : State AccountId) (a : AccountId) (value : UInt64)
    (hle : value ≤ balanceOf s a) (hnowrap : (balanceOf s a).toNat + value.toNat < 2 ^ 64) :
    supply (transfer s (.signed a) a value).2 = supply s + value.toNat := by
  rw [(transfer_self_balance s a value hle).1]
  have h1 := supply_insertBalance s a (balanceOf s a - value)
  have h2 := supply_insertBalance (insertBalance s a (balanceOf s a - value)) a
    (balanceOf s a + value)
  rw [balanceOf_insertBalance, if_pos rfl, UInt64.toNat_sub_of_le _ _ hle] at h2
  rw [UInt64.toNat_add, Nat.mod_eq_of_lt hnowrap] at h2
  rw [UInt64.toNat_sub_of_le _ _ hle] at h1
  have hle' := UInt64.le_iff_toNat_le.mp hle
  rw [supply_depositEvent]
  omega

def selfPayState : State ℕ :=
  { balances := (∅ : AList (fun _ : ℕ => UInt64)).insert 1 10, events := [] }

theorem transfer_self_supply_five :
    (5 : UInt64) ≤ balanceOf selfPayState 1 ∧
      (balanceOf selfPayState 1).toNat + (5 : UInt64).toNat < 2 ^ 64 ∧
      supply (transfer selfPayState (.signed 1) 1 5).2 = supply selfPayState + (5 : UInt64).toNat :=
  ⟨by decide, by decide, transfer_self_supply selfPayState 1 5 (by decide) (by decide)⟩

/-- At that state, account `1` paying itself `5` succeeds and leaves it with `15`: the supply
goes from `10` to `15`. -/
theorem transfer_self_mints :
    (transfer selfPayState (.signed 1) 1 5).1 = .ok () ∧
      balanceOf (transfer selfPayState (.signed 1) 1 5).2 1 = 15 ∧
      supply selfPayState = 10 ∧ supply (transfer selfPayState (.signed 1) 1 5).2 = 15 := by
  decide

/-! ## Runs -/

def NoSelfTransfer (calls : List (RawOrigin AccountId × Call AccountId)) : Prop :=
  ∀ p ∈ calls, ∀ who, p.1 = .signed who → ∀ dest value, p.2 = .transfer dest value → dest ≠ who

theorem dispatch_supply (s : State AccountId) (origin : RawOrigin AccountId) (call : Call AccountId)
    (hfit : supply s < 2 ^ 64) (hself : ∀ who, origin = .signed who →
      ∀ dest value, call = .transfer dest value → dest ≠ who) :
    supply (dispatch s origin call).2 = supply s := by
  obtain ⟨dest, value⟩ := call
  simp only [dispatch]
  cases hr : (transfer s origin dest value).1 with
  | error e =>
    rw [transfer_error_state s origin dest value e hr]
  | ok u =>
    cases origin with
    | signed sender =>
      have hne : sender ≠ dest := Ne.symm (hself sender rfl dest value rfl)
      have hpair : transfer s (.signed sender) dest value =
          (.ok (), (transfer s (.signed sender) dest value).2) := by
        rw [← hr]
      exact transfer_supply_of_ne hne hfit hpair
    | root => simp [transfer_of_not_signed] at hr
    | none => simp [transfer_of_not_signed] at hr

/-- Along any run in which nobody pays themselves, the supply never changes. -/
theorem run_supply (s : State AccountId) (calls : List (RawOrigin AccountId × Call AccountId))
    (hfit : supply s < 2 ^ 64) (hself : NoSelfTransfer calls) :
    supply (run s calls) = supply s := by
  induction calls generalizing s with
  | nil => rfl
  | cons p rest ih =>
    obtain ⟨origin, call⟩ := p
    have hstep := dispatch_supply s origin call hfit
      (fun who ho dest value hc => hself _ List.mem_cons_self who ho dest value hc)
    have hrest : NoSelfTransfer rest := fun q hq => hself q (List.mem_cons_of_mem _ hq)
    simp only [run]
    rw [ih _ (by rw [hstep]; exact hfit) hrest, hstep]

/-- Account `1` pays account `2`; account `2` then tries to pay more than it has, and `Root`
tries a transfer, both failing; account `2` pays account `1` back. -/
def mixedTransfers : List (RawOrigin ℕ × Call ℕ) :=
  [(.signed 1, .transfer 2 5), (.signed 2, .transfer 3 7), (.root, .transfer 1 4),
    (.signed 2, .transfer 1 5)]

theorem run_supply_mixed_transfers :
    supply selfPayState < 2 ^ 64 ∧ NoSelfTransfer mixedTransfers ∧
      supply (run selfPayState mixedTransfers) = supply selfPayState := by
  have hself : NoSelfTransfer mixedTransfers := by
    intro p hp who hwho dest value hcall
    simp only [mixedTransfers, List.mem_cons, List.not_mem_nil, or_false] at hp
    rcases hp with rfl | rfl | rfl | rfl <;> cases hwho <;> cases hcall <;> decide
  exact ⟨by decide, hself, run_supply selfPayState _ (by decide) hself⟩

end AlsaniaChain.AlscToken
