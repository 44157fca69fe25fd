import StabilityPlatform.Lib.StableSort

/-!
# Loops that query page by page

A loop queries a page, handles its members one by one and starts over, until a page is empty or
handling gives up. What it handles changes what is queried next. It ends when every turn handles
something new of a finite list.

## Main results

* `pageTurn_rule`: what handling one member keeps, a turn keeps.
* `pageLoop_total`: **a loop that handles something new every turn ends**, and keeps its invariant.
-/

namespace StabilityPlatform.Lib

variable {σ ι κ : Type*}

/-! ### Pages -/

/-- A sorted page of a query: at most as many members as the limit, with the smallest keys. -/
def pageOf [LinearOrder κ] (key : ι → κ) (limit : ℕ) (selected : List ι) : List ι :=
  (sortBy key selected).take limit

section Page

variable [LinearOrder κ] {key : ι → κ} {limit : ℕ} {selected : List ι}

/-- A page holds members of the selection. -/
theorem mem_of_mem_pageOf {a : ι} (h : a ∈ pageOf key limit selected) : a ∈ selected :=
  mem_sortBy.mp (List.mem_of_mem_take h)

/-- A page repeats no key that the selection does not repeat. -/
theorem nodup_pageOf (h : (selected.map key).Nodup) :
    ((pageOf key limit selected).map key).Nodup :=
  (((sortBy_perm key selected).map key).nodup_iff.mpr h).sublist ((List.take_sublist _ _).map key)

/-- No key of a page is larger than its last one. -/
theorem le_last_of_mem_pageOf {a b : ι} (ha : a ∈ pageOf key limit selected)
    (hb : (pageOf key limit selected).getLast? = some b) : key a ≤ key b := by
  have hsorted : (pageOf key limit selected).Pairwise fun a b => key a ≤ key b :=
    (pairwise_sortBy key selected).sublist (List.take_sublist _ _)
  obtain ⟨init, hinit⟩ := List.getLast?_eq_some_iff.mp hb
  rw [hinit] at ha hsorted
  rcases List.mem_append.mp ha with hmem | hmem
  · exact (List.pairwise_append.mp hsorted).2.2 a hmem b (List.mem_singleton_self b)
  · rw [List.mem_singleton.mp hmem]

end Page

/-! ### Turns -/

/-- How handling goes on. -/
inductive Flow where
  | next
  | leave
  | giveUp
  deriving DecidableEq

/-- One turn: the members of a page one by one. A member may make the turn leave the rest of the
page, or give up the loop. -/
def pageTurn (step : ι → σ → σ × Flow) : List ι → σ → σ × Bool
  | [], s => (s, true)
  | a :: rest, s =>
    match (step a s).2 with
    | .next => pageTurn step rest (step a s).1
    | .leave => ((step a s).1, true)
    | .giveUp => ((step a s).1, false)

/-- What handling one member keeps, of the state and of the members to come, a turn keeps. -/
theorem pageTurn_rule {step : ι → σ → σ × Flow} {J : List ι → σ → Prop}
    (hstep : ∀ a rest s, J (a :: rest) s → J rest (step a s).1) {batch : List ι} {s : σ}
    (h : J batch s) : ∃ rest, J rest (pageTurn step batch s).1 := by
  induction batch generalizing s with
  | nil => exact ⟨[], h⟩
  | cons a rest ih =>
      have ha := hstep a rest s h
      rw [pageTurn]
      cases (step a s).2 with
      | next => exact ih ha
      | leave => exact ⟨rest, ha⟩
      | giveUp => exact ⟨rest, ha⟩

/-- What every member that does not give up keeps, a turn that goes on keeps. -/
theorem pageTurn_of_go {step : ι → σ → σ × Flow} {P : σ → Prop}
    (hstep : ∀ a s, P s → (step a s).2 ≠ .giveUp → P (step a s).1) {batch : List ι} {s : σ}
    (hs : P s) (hgo : (pageTurn step batch s).2 = true) : P (pageTurn step batch s).1 := by
  induction batch generalizing s with
  | nil => exact hs
  | cons a rest ih =>
      have ha := hstep a s hs
      rw [pageTurn] at hgo ⊢
      cases hflow : (step a s).2 with
      | next =>
          rw [hflow] at hgo ha
          exact ih (ha (fun h => by cases h)) hgo
      | leave =>
          rw [hflow] at ha
          exact ha (fun h => by cases h)
      | giveUp =>
          rw [hflow] at hgo
          cases hgo

/-- What every member adds to, a turn adds to. -/
theorem lt_pageTurn {step : ι → σ → σ × Flow} {μ : σ → ℕ} (hstep : ∀ a s, μ s < μ (step a s).1)
    {batch : List ι} (hne : batch ≠ []) (s : σ) : μ s < μ (pageTurn step batch s).1 := by
  induction batch generalizing s with
  | nil => exact absurd rfl hne
  | cons a rest ih =>
      have ha := hstep a s
      rw [pageTurn]
      cases (step a s).2 with
      | leave => exact ha
      | giveUp => exact ha
      | next =>
          cases rest with
          | nil => exact ha
          | cons b rest => exact ha.trans (ih (List.cons_ne_nil b rest) _)

/-! ### Loops -/

/-- The loop, with a bound on its turns; none when the bound is reached. A turn that gives up ends
it. -/
def pageLoop (page : σ → List ι) (turn : List ι → σ → σ × Bool) : ℕ → σ → Option σ
  | 0, _ => none
  | fuel + 1, s =>
    if (page s).isEmpty then some s
    else if (turn (page s) s).2 then pageLoop page turn fuel (turn (page s) s).1
    else some (turn (page s) s).1

variable {page : σ → List ι} {turn : List ι → σ → σ × Bool}

/-- **A loop that handles something new every turn ends**: what it handled is a list without
repetition of members of a finite list, and every turn that goes on adds to it. With more fuel it
ends in the same state. -/
theorem pageLoop_total {I J : σ → Prop} (handled : σ → List κ) {ids : List κ}
    (hids : ∀ s, I s → (handled s).Nodup ∧ handled s ⊆ ids)
    (hgo : ∀ s, I s → page s ≠ [] → (turn (page s) s).2 = true → I (turn (page s) s).1 ∧
      (handled s).length < (handled (turn (page s) s).1).length)
    (hstop : ∀ s, I s → page s ≠ [] → J (turn (page s) s).1) (hend : ∀ s, I s → J s) {s : σ}
    (hs : I s) :
    ∃ t, J t ∧ ∀ fuel, ids.length < (handled s).length + fuel →
      pageLoop page turn fuel s = some t := by
  have hle : ∀ s, I s → (handled s).length ≤ ids.length := fun s hs =>
    ((hids s hs).1.subperm (hids s hs).2).length_le
  induction hroom : ids.length - (handled s).length using Nat.strong_induction_on generalizing s with
  | _ room ih =>
      have hs' := hle s hs
      by_cases hpage : page s = []
      · refine ⟨s, hend s hs, fun fuel hfuel => ?_⟩
        obtain ⟨fuel, rfl⟩ := Nat.exists_eq_succ_of_ne_zero (by omega : fuel ≠ 0)
        rw [pageLoop, hpage, List.isEmpty_nil, if_pos rfl]
      · have hne : ¬ (page s).isEmpty = true := by simpa using hpage
        cases hflow : (turn (page s) s).2 with
        | true =>
            obtain ⟨ht, hlt⟩ := hgo s hs hpage hflow
            have ht' := hle _ ht
            obtain ⟨t, htJ, hrun⟩ := ih _ (by omega) ht rfl
            refine ⟨t, htJ, fun fuel hfuel => ?_⟩
            obtain ⟨fuel, rfl⟩ := Nat.exists_eq_succ_of_ne_zero (by omega : fuel ≠ 0)
            rw [pageLoop, if_neg hne, if_pos hflow]
            exact hrun fuel (by omega)
        | false =>
            refine ⟨_, hstop s hs hpage, fun fuel hfuel => ?_⟩
            obtain ⟨fuel, rfl⟩ := Nat.exists_eq_succ_of_ne_zero (by omega : fuel ≠ 0)
            rw [pageLoop, if_neg hne, if_neg (by simp [hflow])]

end StabilityPlatform.Lib
