import Mathlib.Algebra.BigOperators.Group.Finset.Piecewise
import Mathlib.Algebra.Order.BigOperators.Group.Finset

/-!
# Assigning requests to slots

Requests are given slots one after the other. Each request may have some of the slots, and a
slot has room for some requests. Whoever is given a slot keeps it.

## Main results

* `Seated`: what was given out is allowed and fits.
* `Seated.exists_slot`: **a request finds a slot** where the requests before it that could be in
  its way are fewer than the room in its slots.
* `Uncrowded.of_nested`: this is so when all requests can be seated and, of two requests that
  share a slot, the second may have all slots of the first.
-/

namespace StabilityPlatform.Lib

variable {ι κ : Type*} [DecidableEq κ]

/-- How many requests were given a slot. -/
def taken (chosen : List (ι × κ)) (k : κ) : ℕ := chosen.countP (·.2 = k)

@[simp] theorem taken_nil (k : κ) : taken ([] : List (ι × κ)) k = 0 := rfl

/-- One more request. -/
theorem taken_concat (chosen : List (ι × κ)) (i : ι) (k k' : κ) :
    taken (chosen ++ [(i, k)]) k' = taken chosen k' + if k = k' then 1 else 0 := by
  rw [taken, List.countP_append, List.countP_singleton]
  simp [taken]

/-- The requests that were given one of some slots. -/
theorem sum_taken (chosen : List (ι × κ)) (s : Finset κ) :
    ∑ k ∈ s, taken chosen k = chosen.countP (·.2 ∈ s) := by
  induction chosen with
  | nil => simp
  | cons c rest ih =>
      simp only [taken, List.countP_cons, decide_eq_true_eq] at ih ⊢
      rw [Finset.sum_add_distrib, ih, Finset.sum_ite_eq]

/-- The slots given out are allowed, and no slot is given out more often than it has room. -/
structure Seated (allowed : ι → Finset κ) (room : κ → ℕ) (chosen : List (ι × κ)) : Prop where
  allowed : ∀ c ∈ chosen, c.2 ∈ allowed c.1
  room : ∀ k, taken chosen k ≤ room k

/-- Before anything is given out. -/
theorem Seated.nil (allowed : ι → Finset κ) (room : κ → ℕ) : Seated allowed room [] where
  allowed := by simp
  room := by simp

/-- A slot that has room is given out. -/
theorem Seated.concat {allowed : ι → Finset κ} {room : κ → ℕ} {chosen : List (ι × κ)} {i : ι}
    {k : κ} (h : Seated allowed room chosen) (hk : k ∈ allowed i) (hroom : taken chosen k < room k) :
    Seated allowed room (chosen ++ [(i, k)]) where
  allowed c hc := by
    rcases List.mem_append.mp hc with hc | hc
    · exact h.allowed c hc
    · obtain rfl := List.mem_singleton.mp hc
      exact hk
  room k' := by
    rw [taken_concat]
    have hle := h.room k'
    split_ifs with heq
    · subst heq
      omega
    · omega

/-- Where some slots are full, the requests that could have taken them are as many as their
room. -/
theorem Seated.sum_room_le {allowed : ι → Finset κ} {room : κ → ℕ} {chosen : List (ι × κ)}
    (h : Seated allowed room chosen) {s : Finset κ} (hfull : ∀ k ∈ s, room k ≤ taken chosen k) :
    ∑ k ∈ s, room k ≤ (chosen.map Prod.fst).countP (fun i => ¬ Disjoint (allowed i) s) := by
  calc ∑ k ∈ s, room k
      ≤ ∑ k ∈ s, taken chosen k := Finset.sum_le_sum hfull
    _ = chosen.countP (·.2 ∈ s) := sum_taken chosen s
    _ ≤ chosen.countP (fun c => ¬ Disjoint (allowed c.1) s) := by
        refine List.countP_mono_left fun c hc hs => ?_
        rw [decide_eq_true_eq] at hs ⊢
        exact Finset.not_disjoint_iff.mpr ⟨c.2, h.allowed c hc, hs⟩
    _ = (chosen.map Prod.fst).countP (fun i => ¬ Disjoint (allowed i) s) := by
        rw [List.countP_map]
        rfl

/-- **A request finds a slot** where those before it that could be in its way are fewer than the
room in its slots. -/
theorem Seated.exists_slot {allowed : ι → Finset κ} {room : κ → ℕ} {chosen : List (ι × κ)} {i : ι}
    (h : Seated allowed room chosen)
    (hfew : (chosen.map Prod.fst).countP (fun j => ¬ Disjoint (allowed j) (allowed i)) <
      ∑ k ∈ allowed i, room k) :
    ∃ k ∈ allowed i, taken chosen k < room k := by
  by_contra hnone
  push Not at hnone
  exact absurd (h.sum_room_le hnone) (by omega)

/-- For each request, those before it that could be in its way are fewer than the room in its
slots. -/
def Uncrowded (allowed : ι → Finset κ) (room : κ → ℕ) (requests : List ι) : Prop :=
  ∀ before i after, requests = before ++ i :: after →
    before.countP (fun j => ¬ Disjoint (allowed j) (allowed i)) < ∑ k ∈ allowed i, room k

/-- An assignment of all requests. -/
structure Seating (allowed : ι → Finset κ) (room : κ → ℕ) (requests : List ι) (slot : ι → κ) :
    Prop where
  allowed : ∀ i ∈ requests, slot i ∈ allowed i
  room : ∀ k, requests.countP (slot · = k) ≤ room k

/-- Requests that may have no other slots are no more than these have room for. -/
theorem Seating.countP_le {allowed : ι → Finset κ} {room : κ → ℕ} {requests : List ι}
    {slot : ι → κ} (h : Seating allowed room requests slot) (s : Finset κ) :
    requests.countP (allowed · ⊆ s) ≤ ∑ k ∈ s, room k := by
  calc requests.countP (allowed · ⊆ s)
      ≤ requests.countP (slot · ∈ s) := by
        refine List.countP_mono_left fun i hi hs => ?_
        rw [decide_eq_true_eq] at hs ⊢
        exact hs (h.allowed i hi)
    _ = (requests.map fun i => (i, slot i)).countP (·.2 ∈ s) := by
        rw [List.countP_map]
        rfl
    _ = ∑ k ∈ s, taken (requests.map fun i => (i, slot i)) k := (sum_taken _ s).symm
    _ ≤ ∑ k ∈ s, room k := by
        refine Finset.sum_le_sum fun k _ => ?_
        rw [taken, List.countP_map]
        exact h.room k

/-- **Nested requests are not crowded**, where all can be seated. -/
theorem Uncrowded.of_nested {allowed : ι → Finset κ} {room : κ → ℕ} {requests : List ι}
    {slot : ι → κ} (h : Seating allowed room requests slot)
    (hnested : requests.Pairwise fun i j =>
      ¬ Disjoint (allowed i) (allowed j) → allowed i ⊆ allowed j) :
    Uncrowded allowed room requests := by
  rintro before i after rfl
  have hle := h.countP_le (allowed i)
  rw [List.countP_append, List.countP_cons_of_pos (by simp)] at hle
  have hbefore : before.countP (fun j => ¬ Disjoint (allowed j) (allowed i)) ≤
      before.countP (allowed · ⊆ allowed i) := by
    refine List.countP_mono_left fun j hj hshare => ?_
    rw [decide_eq_true_eq] at hshare ⊢
    exact (List.pairwise_append.mp hnested).2.2 j hj i List.mem_cons_self hshare
  omega

end StabilityPlatform.Lib
