import Mathlib

/-!
# Timed histories and potentials

A state is changed by events that happen at given times, and between two events it stays
as it is. How long, in total, such a system spends in states of a certain kind is bounded
by a potential: a quantity each stretch of time pays for what it spends, and no event
raises.

## Main results

* `volume_le_potential`: the time spent is at most the initial potential.
-/

namespace StabilityPlatform.Lib

open MeasureTheory

variable {σ ε : Type*}

/-- The state in force at time `t`, when the given events happen to `s`; `step s τ e` is
what the event `e` makes of `s` at time `τ`. -/
noncomputable def stateAt (step : σ → ℝ → ε → σ) : σ → List (ℝ × ε) → ℝ → σ
  | s, [], _ => s
  | s, (τ, e) :: rest, t => if t < τ then s else stateAt step (step s τ e) rest t

/-- Times do not decrease from `start` on. -/
def Ordered : ℝ → List (ℝ × ε) → Prop
  | _, [] => True
  | start, (τ, _) :: rest => start ≤ τ ∧ Ordered τ rest

/-- Before its first event a history leaves the state. -/
theorem stateAt_of_lt {step : σ → ℝ → ε → σ} {s : σ} {τ t : ℝ} {e : ε} {rest : List (ℝ × ε)}
    (h : t < τ) : stateAt step s ((τ, e) :: rest) t = s :=
  if_pos h

/-- From its first event on a history is the rest of it. -/
theorem stateAt_of_le {step : σ → ℝ → ε → σ} {s : σ} {τ t : ℝ} {e : ε} {rest : List (ℝ × ε)}
    (h : τ ≤ t) : stateAt step s ((τ, e) :: rest) t = stateAt step (step s τ e) rest t :=
  if_neg (not_lt.mpr h)

/-- The state in force at any time is reached by a first part of the events. -/
theorem stateAt_eq_foldl (step : σ → ℝ → ε → σ) (s : σ) (events : List (ℝ × ε)) (t : ℝ) :
    ∃ past, past <+: events ∧
      stateAt step s events t = past.foldl (fun s p => step s p.1 p.2) s := by
  induction events generalizing s with
  | nil => exact ⟨[], List.nil_prefix, rfl⟩
  | cons p rest ih =>
      obtain ⟨τ, e⟩ := p
      rcases lt_or_ge t τ with h | h
      · exact ⟨[], List.nil_prefix, stateAt_of_lt h⟩
      · obtain ⟨past, hpast, heq⟩ := ih (step s τ e)
        refine ⟨(τ, e) :: past, (List.prefix_cons_inj _).mpr hpast, ?_⟩
        rw [stateAt_of_le h, heq]
        rfl

/-- **Potentials bound time.** Let `I` hold of a state at a time, and stay with the state
as time passes and across events. If the time a state spends in `P` during a stretch is at
most the potential it loses, a state left alone spends at most its potential, and no event
raises the potential, then every ordered history spends at most the initial potential
in `P`. -/
theorem volume_le_potential {step : σ → ℝ → ε → σ} {P : σ → ℝ → Prop} {I : σ → ℝ → Prop}
    {pot : σ → ℝ → ℝ}
    (hpass : ∀ {s a b}, I s a → a ≤ b → I s b)
    (hstep : ∀ {s a e}, I s a → I (step s a e) a ∧ pot (step s a e) a ≤ pot s a)
    (hstretch : ∀ {s a b}, I s a → a ≤ b → volume {t | a ≤ t ∧ t < b ∧ P s t} ≤
      ENNReal.ofReal (pot s a - pot s b))
    (halone : ∀ {s a}, I s a → volume {t | a ≤ t ∧ P s t} ≤ ENNReal.ofReal (pot s a))
    (hnonneg : ∀ {s a}, I s a → 0 ≤ pot s a)
    (hanti : ∀ {s a b}, I s a → a ≤ b → pot s b ≤ pot s a)
    {s : σ} {start : ℝ} {events : List (ℝ × ε)} (hs : I s start)
    (hord : Ordered start events) :
    volume {t | start ≤ t ∧ P (stateAt step s events t) t} ≤
      ENNReal.ofReal (pot s start) := by
  induction events generalizing s start with
  | nil => exact halone hs
  | cons p rest ih =>
      obtain ⟨τ, e⟩ := p
      obtain ⟨hle, hrest⟩ := hord
      have hτ : I s τ := hpass hs hle
      obtain ⟨hs', hpot⟩ := hstep (e := e) hτ
      have hsub : {t | start ≤ t ∧ P (stateAt step s ((τ, e) :: rest) t) t} ⊆
          {t | start ≤ t ∧ t < τ ∧ P s t} ∪
            {t | τ ≤ t ∧ P (stateAt step (step s τ e) rest t) t} := by
        rintro t ⟨hst, hP⟩
        rcases lt_or_ge t τ with h | h
        · rw [stateAt_of_lt h] at hP
          exact .inl ⟨hst, h, hP⟩
        · rw [stateAt_of_le h] at hP
          exact .inr ⟨h, hP⟩
      calc volume {t | start ≤ t ∧ P (stateAt step s ((τ, e) :: rest) t) t}
          ≤ volume {t | start ≤ t ∧ t < τ ∧ P s t} +
              volume {t | τ ≤ t ∧ P (stateAt step (step s τ e) rest t) t} :=
            (measure_mono hsub).trans (measure_union_le _ _)
        _ ≤ ENNReal.ofReal (pot s start - pot s τ) +
              ENNReal.ofReal (pot (step s τ e) τ) :=
            add_le_add (hstretch hs hle) (ih hs' hrest)
        _ ≤ ENNReal.ofReal (pot s start - pot s τ) + ENNReal.ofReal (pot s τ) :=
            add_le_add le_rfl (ENNReal.ofReal_le_ofReal hpot)
        _ = ENNReal.ofReal (pot s start) := by
            rw [← ENNReal.ofReal_add (sub_nonneg.mpr (hanti hs hle)) (hnonneg hτ),
              sub_add_cancel]

/-- What happens within an interval takes at most its length. -/
theorem volume_le_of_subset_Ico {S : Set ℝ} {a b : ℝ} (h : ∀ t ∈ S, a ≤ t ∧ t < b) :
    volume S ≤ ENNReal.ofReal (b - a) :=
  (measure_mono fun t ht => Set.mem_Ico.mpr (h t ht)).trans_eq Real.volume_Ico

end StabilityPlatform.Lib
