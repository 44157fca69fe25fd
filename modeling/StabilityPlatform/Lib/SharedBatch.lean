import Mathlib

/-!
# A batch in one transaction

Items are handled one after the other in one transaction, which is committed at the end. An item
that is shaken rolls the transaction back, whoever wrote in it before. It may write afterwards,
unless it fails.

## Main results

* `keptOf`: the items whose writes are committed.
* `forall_mem_keptOf_iff`: **all items that do not fail are kept** if and only if no item is
  shaken after one that did not fail.
-/

namespace StabilityPlatform.Lib

variable {α : Type*} (fails shaken : α → Bool)

/-- One item: what was kept before is lost when it is shaken, and it is kept unless it fails. -/
def keepOne (kept : List α) (a : α) : List α :=
  if fails a then [] else if shaken a then [a] else kept ++ [a]

/-- The items that are kept. -/
def keptOf (items : List α) : List α := items.foldl (keepOne fails shaken) []

variable {fails shaken}

@[simp] theorem keptOf_nil : keptOf fails shaken [] = [] := rfl

/-- One more item. -/
theorem keptOf_concat (items : List α) (a : α) :
    keptOf fails shaken (items ++ [a]) = keepOne fails shaken (keptOf fails shaken items) a := by
  rw [keptOf, List.foldl_concat]
  rfl

/-- Only items are kept. -/
theorem mem_of_mem_keptOf {items : List α} {a : α} (h : a ∈ keptOf fails shaken items) :
    a ∈ items := by
  induction items using List.reverseRecOn with
  | nil => exact h
  | append_singleton rest b ih =>
      rw [keptOf_concat, keepOne] at h
      split_ifs at h
      · cases h
      · exact List.mem_append_right rest h
      · rcases List.mem_append.mp h with h | h
        · exact List.mem_append_left _ (ih h)
        · exact List.mem_append_right rest h

/-- **What is kept.** All items that do not fail are kept if and only if none is shaken after
one that did not fail. -/
theorem forall_mem_keptOf_iff (hfails : ∀ a, fails a = true → shaken a = true) {items : List α}
    (hnd : items.Nodup) :
    (∀ a ∈ items, fails a = false → a ∈ keptOf fails shaken items) ↔
      items.Pairwise fun a b => fails a = false → shaken b = false := by
  induction items using List.reverseRecOn with
  | nil => simp
  | append_singleton rest b ih =>
      rw [List.nodup_append] at hnd
      have hne : ∀ a ∈ rest, a ≠ b := fun a ha => hnd.2.2 a ha b List.mem_cons_self
      have hpair : (rest ++ [b]).Pairwise (fun a b => fails a = false → shaken b = false) ↔
          rest.Pairwise (fun a b => fails a = false → shaken b = false) ∧
            ∀ a ∈ rest, fails a = false → shaken b = false := by
        rw [List.pairwise_append]
        simp
      rw [hpair, ← ih hnd.1, keptOf_concat, keepOne]
      cases hb : shaken b with
      | false =>
          have hfb : fails b = false := by
            by_contra hf
            rw [hfails b (by simpa using hf)] at hb
            cases hb
          rw [hfb, if_neg Bool.false_ne_true, if_neg Bool.false_ne_true]
          constructor
          · intro h
            refine ⟨fun a ha hfa => ?_, fun _ _ _ => rfl⟩
            rcases List.mem_append.mp (h a (List.mem_append_left _ ha) hfa) with hmem | hmem
            · exact hmem
            · exact absurd (List.mem_singleton.mp hmem) (hne a ha)
          · rintro ⟨h, -⟩ a ha hfa
            rcases List.mem_append.mp ha with ha | ha
            · exact List.mem_append_left _ (h a ha hfa)
            · exact List.mem_append_right _ ha
      | true =>
          rw [if_pos rfl]
          have hlost : ∀ a ∈ rest, a ∉ (if fails b = true then [] else [b]) := by
            intro a ha hmem
            split_ifs at hmem
            · cases hmem
            · exact hne a ha (List.mem_singleton.mp hmem)
          constructor
          · intro h
            have hall : ∀ a ∈ rest, fails a = true := by
              intro a ha
              by_contra hfa
              exact hlost a ha (h a (List.mem_append_left _ ha) (by simpa using hfa))
            refine ⟨fun a ha hfa => ?_, fun a ha hfa => ?_⟩
            · rw [hall a ha] at hfa
              cases hfa
            · rw [hall a ha] at hfa
              cases hfa
          · rintro ⟨-, h⟩ a ha hfa
            rcases List.mem_append.mp ha with ha | ha
            · cases h a ha hfa
            · obtain rfl := List.mem_singleton.mp ha
              rw [hfa, if_neg Bool.false_ne_true]
              exact List.mem_cons_self

end StabilityPlatform.Lib
