import Mathlib

/-!
# A budget of attempts

Attempts that count are mixed with attempts that do not, in one counter. The budget is spent when
an attempt that counts comes while the counter, this attempt included, has reached the limit.

## Main results

* `Spent`: a budget that is spent.
* `spent_concat`: one more attempt.
* `count_of_not_spent`: **how many attempts counted** before the one that spends the budget.
-/

namespace StabilityPlatform.Lib

/-- The budget of `n` attempts is spent: some attempt that counts is the `n`-th one or a later
one. -/
def Spent (n : ℕ) (attempts : List Bool) : Prop :=
  ∃ before rest, attempts = before ++ true :: rest ∧ n ≤ before.length + 1

variable {n : ℕ} {attempts : List Bool}

/-- Without attempts nothing is spent. -/
theorem not_spent_nil : ¬ Spent n [] := by
  rintro ⟨before, rest, h, -⟩
  exact List.append_ne_nil_of_right_ne_nil before (List.cons_ne_nil true rest) h.symm

/-- One more attempt spends the budget if it counts and reaches the limit. -/
theorem spent_concat {b : Bool} :
    Spent n (attempts ++ [b]) ↔ Spent n attempts ∨ (b = true ∧ n ≤ attempts.length + 1) := by
  constructor
  · rintro ⟨before, rest, h, hn⟩
    induction rest using List.reverseRecOn with
    | nil =>
        obtain ⟨rfl, hb⟩ := List.append_inj' h rfl
        exact .inr ⟨List.head_eq_of_cons_eq hb, hn⟩
    | append_singleton rest c _ =>
        rw [← List.cons_append, ← List.append_assoc] at h
        obtain ⟨hinit, -⟩ := List.append_inj' h rfl
        exact .inl ⟨before, rest, hinit, hn⟩
  · rintro (⟨before, rest, rfl, hn⟩ | ⟨rfl, hn⟩)
    · exact ⟨before, rest ++ [b], by rw [List.append_assoc, List.cons_append], hn⟩
    · exact ⟨attempts, [], rfl, hn⟩

/-- **What counted.** While the budget is not spent, the attempts that counted are among the first
ones: they are as many as the limit leaves if and only if all of these count. -/
theorem count_of_not_spent (h : ¬ Spent (n + 1) attempts) (hn : n ≤ attempts.length) :
    n ≤ attempts.count true ↔ ∀ b ∈ attempts.take n, b = true := by
  have hlate : (attempts.drop n).count true = 0 := by
    rw [List.count_eq_zero]
    intro hmem
    obtain ⟨before, rest, hsplit⟩ := List.append_of_mem hmem
    refine h ⟨attempts.take n ++ before, rest, ?_, ?_⟩
    · rw [List.append_assoc, ← hsplit, List.take_append_drop]
    · rw [List.length_append, List.length_take, min_eq_left hn]
      omega
  have hcount : attempts.count true = (attempts.take n).count true := by
    conv_lhs => rw [← List.take_append_drop n attempts, List.count_append, hlate]
    rfl
  have hlen : (attempts.take n).length = n := by
    rw [List.length_take, min_eq_left hn]
  rw [hcount]
  constructor
  · intro hle b hb
    have heq : (attempts.take n).count true = (attempts.take n).length :=
      le_antisymm List.count_le_length (hlen.le.trans hle)
    exact (List.count_eq_length.mp heq b hb).symm
  · intro hall
    rw [List.count_eq_length.mpr fun b hb => (hall b hb).symm, hlen]

end StabilityPlatform.Lib
