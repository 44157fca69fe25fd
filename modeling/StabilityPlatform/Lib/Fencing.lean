import Mathlib

/-!
# Fencing

Each slot has a counter, and a grant of a slot carries a number. Grants are fenced by the
counters when none is ahead of its counter and each is ahead of the earlier grants of its
slot. A grant whose number is past the counter, and which the counter then reaches, keeps
this, whatever the other counters do as long as none goes back.

## Main results

* `Fenced.mono`: counters may advance on their own.
* `Fenced.grant`: a grant past the counter of its slot.
* `Fenced.ne`: no two grants have both slot and number in common.
-/

namespace StabilityPlatform.Lib

variable {κ β : Type*} {slot : β → κ} {number : β → ℕ} {counter counter' : κ → ℕ}
  {log : List β}

/-- Grants, oldest first, fenced by counters. -/
structure Fenced (slot : β → κ) (number : β → ℕ) (counter : κ → ℕ) (log : List β) : Prop where
  bounded : ∀ g ∈ log, number g ≤ counter (slot g)
  increasing : log.Pairwise fun a b => slot a = slot b → number a < number b

/-- No grants are fenced by any counters. -/
theorem Fenced.nil (counter : κ → ℕ) : Fenced slot number counter [] :=
  ⟨fun _ hg => absurd hg List.not_mem_nil, .nil⟩

/-- Counters that advance still fence. -/
theorem Fenced.mono (h : Fenced slot number counter log) (hle : ∀ k, counter k ≤ counter' k) :
    Fenced slot number counter' log :=
  ⟨fun g hg => (h.bounded g hg).trans (hle _), h.increasing⟩

/-- **A grant** past the counter of its slot. -/
theorem Fenced.grant (h : Fenced slot number counter log) {g : β}
    (hle : ∀ k, counter k ≤ counter' k) (hnew : counter (slot g) < number g)
    (hreach : number g ≤ counter' (slot g)) : Fenced slot number counter' (log ++ [g]) := by
  constructor
  · intro a ha
    rcases List.mem_append.mp ha with ha | ha
    · exact (h.bounded a ha).trans (hle _)
    · obtain rfl := List.mem_singleton.mp ha
      exact hreach
  · refine List.pairwise_append.mpr ⟨h.increasing, List.pairwise_singleton _ _, ?_⟩
    intro a ha b hb hslot
    obtain rfl := List.mem_singleton.mp hb
    have hbound := h.bounded a ha
    rw [hslot] at hbound
    omega

/-- **No two grants** have both slot and number in common. -/
theorem Fenced.ne (h : Fenced slot number counter log) :
    log.Pairwise fun a b => ¬ (slot a = slot b ∧ number a = number b) :=
  h.increasing.imp fun hlt hsame => (hlt hsame.1).ne hsame.2

end StabilityPlatform.Lib
