import Mathlib

/-! # Finite maps as association lists: totals and collected maps

Two facts about Mathlib's `AList` that a storage map, a `HashMap` and a `BTreeMap` built by
`collect` rest on. Nothing here names the runtime or the node.

* `total f s`, the sum of `f` over the values of `s`. Inserting `b` at `a` adds `f b` and drops
  the weight of the value `a` held before (`total_insert`), stated additively so that no
  subtraction appears.
* `insertAll l s` inserts the pairs of `l` one after another, which is what collecting an iterator
  of pairs into a map computes. At a key it holds the value of the key's last pair in `l`, and
  elsewhere what `s` held (`lookup_insertAll`).
-/

namespace AlsaniaChain.FiniteMap
set_option autoImplicit false

variable {α β : Type}

/-! ## Totals -/

/-- The sum of `f` over the values of `s`. -/
def total (f : β → ℕ) (s : AList (fun _ : α => β)) : ℕ :=
  (s.entries.map fun e => f e.2).sum

@[simp] theorem total_empty (f : β → ℕ) : total f (∅ : AList (fun _ : α => β)) = 0 := rfl

variable [DecidableEq α]

/-- The weight of the value at `a` under `f`, with `0` for an absent key. -/
def weightAt (f : β → ℕ) (a : α) (s : AList (fun _ : α => β)) : ℕ :=
  ((s.lookup a).map f).getD 0

@[simp] theorem weightAt_empty (f : β → ℕ) (a : α) :
    weightAt f a (∅ : AList (fun _ : α => β)) = 0 := rfl

theorem weightAt_insert (f : β → ℕ) (a a' : α) (b : β) (s : AList (fun _ : α => β)) :
    weightAt f a' (s.insert a b) = if a' = a then f b else weightAt f a' s := by
  by_cases h : a' = a
  · subst h
    simp [weightAt, AList.lookup_insert]
  · simp [weightAt, AList.lookup_insert_ne h, h]

theorem sum_kerase (f : β → ℕ) (a : α) (l : List (Σ _ : α, β)) :
    ((l.kerase a).map fun e => f e.2).sum + ((l.dlookup a).map f).getD 0 =
      (l.map fun e => f e.2).sum := by
  induction l with
  | nil => simp
  | cons e l ih =>
    by_cases h : a = e.1
    · rw [List.kerase_cons_eq h]
      obtain ⟨a', b'⟩ := e
      simp only at h
      subst h
      simp only [List.dlookup_cons_eq, Option.map_some, Option.getD_some, List.map_cons,
        List.sum_cons]
      omega
    · rw [List.kerase_cons_ne h, List.dlookup_cons_ne l e h]
      simp only [List.map_cons, List.sum_cons]
      omega

theorem total_insert (f : β → ℕ) (a : α) (b : β) (s : AList (fun _ : α => β)) :
    total f (s.insert a b) + weightAt f a s = total f s + f b := by
  have h := sum_kerase f a s.entries
  simp only [total, weightAt, AList.entries_insert, List.map_cons, List.sum_cons]
  change _ + ((s.entries.dlookup a).map f).getD 0 = _
  omega

theorem weightAt_add_weightAt_le_total (f : β → ℕ) {a a' : α} (hne : a ≠ a')
    (s : AList (fun _ : α => β)) : weightAt f a s + weightAt f a' s ≤ total f s := by
  have h := sum_kerase f a s.entries
  have h' : weightAt f a' s ≤ ((s.entries.kerase a).map fun e => f e.2).sum := by
    have hl := sum_kerase f a' (s.entries.kerase a)
    rw [List.dlookup_kerase_ne (Ne.symm hne)] at hl
    simp only [weightAt]
    change ((s.entries.dlookup a').map f).getD 0 ≤ _
    omega
  simp only [total, weightAt] at h' ⊢
  change ((s.entries.dlookup a).map f).getD 0 + _ ≤ _
  omega

/-! ## Collected maps -/

/-- Insert the pairs of `l` into `s` from left to right. -/
def insertAll (l : List (α × β)) (s : AList (fun _ : α => β)) : AList (fun _ : α => β) :=
  l.foldl (fun m p => m.insert p.1 p.2) s

@[simp] theorem insertAll_nil (s : AList (fun _ : α => β)) : insertAll [] s = s := rfl

@[simp] theorem insertAll_cons (p : α × β) (l : List (α × β)) (s : AList (fun _ : α => β)) :
    insertAll (p :: l) s = insertAll l (s.insert p.1 p.2) := rfl

theorem insertAll_append (l₁ l₂ : List (α × β)) (s : AList (fun _ : α => β)) :
    insertAll (l₁ ++ l₂) s = insertAll l₂ (insertAll l₁ s) := by
  simp [insertAll, List.foldl_append]

theorem lookup_insertAll (l : List (α × β)) (s : AList (fun _ : α => β)) (a : α) :
    (insertAll l s).lookup a = (l.reverse.lookup a).or (s.lookup a) := by
  induction l generalizing s with
  | nil => simp
  | cons p l ih =>
    obtain ⟨k, v⟩ := p
    rw [insertAll_cons, ih, List.reverse_cons, List.lookup_append, Option.or_assoc]
    congr 1
    by_cases h : a = k
    · subst h
      simp [AList.lookup_insert]
    · have hb : (a == k) = false := beq_false_of_ne h
      simp [AList.lookup_insert_ne h, List.lookup_cons, hb]

theorem mem_insertAll (l : List (α × β)) (s : AList (fun _ : α => β)) (a : α) :
    a ∈ insertAll l s ↔ a ∈ l.map Prod.fst ∨ a ∈ s := by
  induction l generalizing s with
  | nil => simp
  | cons p l ih =>
    rw [insertAll_cons, ih, AList.mem_insert]
    simp only [List.map_cons, List.mem_cons]
    tauto

/-- Without repeated keys the order of insertion does not matter: a key holds its one value. -/
theorem lookup_insertAll_of_nodup (l : List (α × β)) (hl : (l.map Prod.fst).Nodup)
    (s : AList (fun _ : α => β)) (a : α) :
    (insertAll l s).lookup a = (l.lookup a).or (s.lookup a) := by
  induction l generalizing s with
  | nil => simp
  | cons p l ih =>
    obtain ⟨k, v⟩ := p
    simp only [List.map_cons, List.nodup_cons] at hl
    rw [insertAll_cons, ih hl.2]
    by_cases h : a = k
    · subst h
      have hnone : l.lookup a = none := by
        apply List.lookup_eq_none_iff.mpr
        intro p hp
        have hne : a ≠ p.1 := fun h => hl.1 (h ▸ List.mem_map_of_mem hp)
        simpa using hne
      simp [hnone, AList.lookup_insert]
    · have hb : (a == k) = false := beq_false_of_ne h
      simp [AList.lookup_insert_ne h, List.lookup_cons, hb]

theorem lookup_map_const (l : List α) (b : β) (a : α) :
    (l.map fun k => (k, b)).lookup a = if a ∈ l then some b else none := by
  induction l with
  | nil => simp
  | cons k l ih =>
    by_cases h : a = k
    · subst h
      simp
    · have hb : (a == k) = false := beq_false_of_ne h
      simp [List.lookup_cons, hb, ih, h]

theorem lookup_map_sigma {γ : Type} (l : List (Σ _ : α, β)) (f : β → γ) (a : α) :
    (l.map fun e => (e.1, f e.2)).lookup a = (l.dlookup a).map f := by
  induction l with
  | nil => simp
  | cons e l ih =>
    obtain ⟨k, v⟩ := e
    by_cases h : a = k
    · subst h
      simp
    · have hb : (a == k) = false := beq_false_of_ne h
      have hne : a ≠ (⟨k, v⟩ : Σ _ : α, β).1 := h
      simp [List.lookup_cons, hb, ih, List.dlookup_cons_ne l _ hne]

theorem lookup_map_entries {γ : Type} (s : AList (fun _ : α => β)) (f : β → γ) (a : α) :
    (s.entries.map fun e => (e.1, f e.2)).lookup a = (s.lookup a).map f :=
  lookup_map_sigma s.entries f a

omit [DecidableEq α] in
theorem nodup_map_entries {γ : Type} (s : AList (fun _ : α => β)) (f : β → γ) :
    ((s.entries.map fun e => (e.1, f e.2)).map Prod.fst).Nodup := by
  rw [List.map_map]
  exact s.nodupKeys

end AlsaniaChain.FiniteMap
