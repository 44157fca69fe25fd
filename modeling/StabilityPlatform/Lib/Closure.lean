import Mathlib

/-!
# Closing a set under references

Nodes refer to each other. A set of nodes is closed under references by following those of the
nodes that were added last, until there is nothing left to follow.

## Main results

* `closeUnder`: the nodes that are reached, found with a stack of pending nodes.
* `followed_closeUnder`: **the result is closed**.
* `closeUnder_subset`: **it is the least closed set** with the given nodes.
-/

namespace StabilityPlatform.Lib

variable {α : Type*} [DecidableEq α]

/-! ### The algorithm -/

/-- Add a node that is met for the first time, and put it on the stack. -/
def visit (nodes : Finset α) (st : Finset α × List α) (a : α) : Finset α × List α :=
  if a ∈ nodes ∧ a ∉ st.1 then (insert a st.1, a :: st.2) else st

/-- What is left to do: the nodes that may be added, and those on the stack. -/
def workload (nodes : Finset α) (st : Finset α × List α) : ℕ :=
  (nodes \ st.1).card + st.2.length

/-- A node that is added only moves to the stack. -/
theorem workload_visit (nodes : Finset α) (st : Finset α × List α) (a : α) :
    workload nodes (visit nodes st a) = workload nodes st := by
  rw [visit]
  split_ifs with h
  · have hmem : a ∈ nodes \ st.1 := Finset.mem_sdiff.mpr h
    have hpos : 0 < (nodes \ st.1).card := Finset.card_pos.mpr ⟨a, hmem⟩
    rw [workload, workload, List.length_cons, Finset.sdiff_insert, Finset.card_erase_of_mem hmem]
    omega
  · rfl

/-- So do several nodes. -/
theorem workload_foldl_visit (nodes : Finset α) (refs : List α) (st : Finset α × List α) :
    workload nodes (refs.foldl (visit nodes) st) = workload nodes st := by
  induction refs generalizing st with
  | nil => rfl
  | cons a rest ih => rw [List.foldl_cons, ih, workload_visit]

/-- The nodes that are reached from `keep`, when the references of the nodes on the stack are
still to follow. -/
def closeUnder (refs : α → List α) (nodes keep : Finset α) : List α → Finset α
  | [] => keep
  | a :: pending =>
    closeUnder refs nodes ((refs a).foldl (visit nodes) (keep, pending)).1
      ((refs a).foldl (visit nodes) (keep, pending)).2
termination_by pending => workload nodes (keep, pending)
decreasing_by
  show workload nodes ((refs a).foldl (visit nodes) (keep, pending)) < _
  rw [workload_foldl_visit]
  exact Nat.lt_succ_self _

/-! ### The references of one node -/

section Visit

variable {nodes : Finset α} {refs : List α} {st : Finset α × List α}

/-- Nothing is taken out. -/
theorem subset_foldl_visit : st.1 ⊆ (refs.foldl (visit nodes) st).1 ∧
    st.2 ⊆ (refs.foldl (visit nodes) st).2 := by
  induction refs generalizing st with
  | nil => exact ⟨Finset.Subset.refl _, List.Subset.refl _⟩
  | cons a rest ih =>
      have hone : st.1 ⊆ (visit nodes st a).1 ∧ st.2 ⊆ (visit nodes st a).2 := by
        rw [visit]
        split_ifs
        · exact ⟨Finset.subset_insert a st.1, List.subset_cons_self a st.2⟩
        · exact ⟨Finset.Subset.refl _, List.Subset.refl _⟩
      exact ⟨Finset.Subset.trans hone.1 ih.1, List.Subset.trans hone.2 ih.2⟩

/-- Every node that is referred to is in. -/
theorem mem_foldl_visit {a : α} (ha : a ∈ refs) (hnode : a ∈ nodes) :
    a ∈ (refs.foldl (visit nodes) st).1 := by
  induction refs generalizing st with
  | nil => cases ha
  | cons b rest ih =>
      rw [List.foldl_cons]
      rcases List.mem_cons.mp ha with rfl | ha
      · refine subset_foldl_visit.1 ?_
        rw [visit]
        split_ifs with h
        · exact Finset.mem_insert_self a st.1
        · by_contra hout
          exact h ⟨hnode, hout⟩
      · exact ih ha

/-- What is new is a node that is referred to, and it is on the stack. -/
theorem new_of_mem_foldl_visit {a : α} (h : a ∈ (refs.foldl (visit nodes) st).1) :
    a ∈ st.1 ∨ (a ∈ refs ∧ a ∈ nodes ∧ a ∈ (refs.foldl (visit nodes) st).2) := by
  induction refs generalizing st with
  | nil => exact .inl h
  | cons b rest ih =>
      rw [List.foldl_cons] at h ⊢
      rcases ih h with hin | ⟨hrest, hnode, hstack⟩
      · by_cases hb : b ∈ nodes ∧ b ∉ st.1
        · rw [visit, if_pos hb] at hin
          rcases Finset.mem_insert.mp hin with rfl | hin
          · refine .inr ⟨List.mem_cons_self, hb.1, subset_foldl_visit.2 ?_⟩
            rw [visit, if_pos hb]
            exact List.mem_cons_self
          · exact .inl hin
        · rw [visit, if_neg hb] at hin
          exact .inl hin
      · exact .inr ⟨List.mem_cons_of_mem b hrest, hnode, hstack⟩

/-- What is on the stack was there, or is a node that is referred to. -/
theorem pending_of_mem_foldl_visit {a : α} (h : a ∈ (refs.foldl (visit nodes) st).2) :
    a ∈ st.2 ∨ (a ∈ refs ∧ a ∈ nodes) := by
  induction refs generalizing st with
  | nil => exact .inl h
  | cons b rest ih =>
      rw [List.foldl_cons] at h
      rcases ih h with hin | ⟨hrest, hnode⟩
      · by_cases hb : b ∈ nodes ∧ b ∉ st.1
        · rw [visit, if_pos hb] at hin
          rcases List.mem_cons.mp hin with rfl | hin
          · exact .inr ⟨List.mem_cons_self, hb.1⟩
          · exact .inl hin
        · rw [visit, if_neg hb] at hin
          exact .inl hin
      · exact .inr ⟨List.mem_cons_of_mem b hrest, hnode⟩

end Visit

/-! ### The least closed set -/

/-- The references of all nodes of a set are followed, but for those on the stack. -/
def Followed (refs : α → List α) (nodes keep : Finset α) (pending : List α) : Prop :=
  ∀ a ∈ keep, a ∉ pending → ∀ b ∈ refs a, b ∈ nodes → b ∈ keep

section Close

variable {refs : α → List α} {nodes keep : Finset α} {pending : List α}

/-- Nothing is taken out. -/
theorem subset_closeUnder : keep ⊆ closeUnder refs nodes keep pending := by
  fun_induction closeUnder refs nodes keep pending with
  | case1 keep => exact Finset.Subset.refl keep
  | case2 keep a pending ih => exact Finset.Subset.trans (@subset_foldl_visit _ _ nodes (refs a) (keep, pending)).1 ih

/-- **The result is closed.** -/
theorem followed_closeUnder (h : Followed refs nodes keep pending) :
    Followed refs nodes (closeUnder refs nodes keep pending) [] := by
  fun_induction closeUnder refs nodes keep pending with
  | case1 keep => exact h
  | case2 keep a pending ih =>
      refine ih fun b hb hstack c hc hnode => ?_
      by_cases hab : b = a
      · subst hab
        exact mem_foldl_visit hc hnode
      · rcases new_of_mem_foldl_visit hb with hin | ⟨-, -, hpending⟩
        · refine subset_foldl_visit.1 (h b hin (fun hmem => ?_) c hc hnode)
          rcases List.mem_cons.mp hmem with heq | hmem
          · exact hab heq
          · exact hstack (subset_foldl_visit.2 hmem)
        · exact absurd hpending hstack

/-- **The result is the least closed set** with the given nodes. -/
theorem closeUnder_subset {T : Set α} (hclosed : ∀ a ∈ T, ∀ b ∈ refs a, b ∈ nodes → b ∈ T)
    (hkeep : ∀ a ∈ keep, a ∈ T) (hpending : ∀ a ∈ pending, a ∈ T) {a : α}
    (h : a ∈ closeUnder refs nodes keep pending) : a ∈ T := by
  fun_induction closeUnder refs nodes keep pending with
  | case1 keep => exact hkeep a h
  | case2 keep b pending ih =>
      refine ih (fun c hc => ?_) (fun c hc => ?_) h
      · rcases new_of_mem_foldl_visit hc with hin | ⟨hrefs, hnode, -⟩
        · exact hkeep c hin
        · exact hclosed b (hpending b List.mem_cons_self) c hrefs hnode
      · rcases pending_of_mem_foldl_visit hc with hin | ⟨hrefs, hnode⟩
        · exact hpending c (List.mem_cons_of_mem b hin)
        · exact hclosed b (hpending b List.mem_cons_self) c hrefs hnode

end Close

end StabilityPlatform.Lib
