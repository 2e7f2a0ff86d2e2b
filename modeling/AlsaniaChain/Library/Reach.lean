import Mathlib

/-! # Checking every node of a finite tree

A tree is given by the children of each node, `kids`, and a measure `m` that every child is below.
`Below kids c d` says `d` is reached from `c` by following children. A recursive check that rejects
a bad node and otherwise checks all its children accepts exactly the trees with no bad node below
the root (`check_iff`). Following more children reaches more (`below_mono`).
-/

namespace AlsaniaChain.Reach
set_option autoImplicit false

variable {α : Type} (kids : α → List α)

/-- `d` is reached from `c` by following children zero or more times. -/
def Below (c d : α) : Prop := Relation.ReflTransGen (fun x y => y ∈ kids x) c d

variable {kids}

theorem Below.refl (c : α) : Below kids c c := Relation.ReflTransGen.refl

theorem Below.head {c d e : α} (hd : d ∈ kids c) (he : Below kids d e) : Below kids c e :=
  Relation.ReflTransGen.head hd he

theorem Below.cases_head {c e : α} (h : Below kids c e) :
    c = e ∨ ∃ d, d ∈ kids c ∧ Below kids d e :=
  Relation.ReflTransGen.cases_head h

/-- Nothing but the node itself is reached from a node without children. -/
theorem Below.eq_of_kids_nil {c e : α} (hc : kids c = []) (h : Below kids c e) : e = c := by
  rcases h.cases_head with rfl | ⟨d, hd, -⟩
  · rfl
  · simp [hc] at hd

theorem below_mono {kids' : α → List α} (hsub : ∀ c, ∀ d ∈ kids c, d ∈ kids' c) {c e : α}
    (h : Below kids c e) : Below kids' c e := by
  induction h with
  | refl => exact Relation.ReflTransGen.refl
  | tail _ hyz ih => exact ih.tail (hsub _ _ hyz)

/-- A check that holds exactly when the node is not bad and every child passes holds exactly when
no node below is bad. -/
theorem check_iff (bad : α → Prop) (f : α → Bool) (m : α → ℕ)
    (hm : ∀ c, ∀ d ∈ kids c, m d < m c)
    (hf : ∀ c, f c = true ↔ ¬ bad c ∧ ∀ d ∈ kids c, f d = true) :
    ∀ c, f c = true ↔ ∀ d, Below kids c d → ¬ bad d := by
  intro c
  induction hmc : m c using Nat.strong_induction_on generalizing c with
  | _ n ih =>
    have ihkid : ∀ d ∈ kids c, f d = true ↔ ∀ e, Below kids d e → ¬ bad e := fun d hd =>
      ih (m d) (hmc ▸ hm c d hd) d rfl
    rw [hf c]
    constructor
    · rintro ⟨hc, hkids⟩ e he
      rcases he.cases_head with rfl | ⟨d, hd, hde⟩
      · exact hc
      · exact (ihkid d hd).mp (hkids d hd) e hde
    · intro hall
      refine ⟨hall c (Below.refl c), fun d hd => ?_⟩
      exact (ihkid d hd).mpr fun e hde => hall e (Below.head hd hde)

end AlsaniaChain.Reach
