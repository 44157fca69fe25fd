import Mathlib

/-!
# Runs of a labelled transition relation

A transition relation `step s a s'` says that the label `a` may take the state `s` to
`s'`. A run records, for every step it takes, the state the step started from and its
label, so that a side condition on a step is a statement about the entries of the run,
and the states a run reaches are the recorded states together with the last one.

## Main results

* `Run.invariant`: what every step preserves holds of every state a run reaches.
* `Run.invariant_of_guard`: the same when a step preserves it under a side condition.
* `Run.invariant_iff_guard`: when the side condition is exactly what a step needs, the
  property holds of all states reached if and only if every step met the condition.
* `Run.rel`: a reflexive and transitive relation respected by each step relates the two
  ends of a run.
* `Run.pairwise_iff_guard`: the states of a run are related in order if and only if all its
  steps meet a side condition.
* `Run.invariant_log`: an invariant of the state together with what the steps emitted.
* `Run.of_foldlM`, `Run.of_foldl`: the labels a step function accepts are a run;
  `map_snd_traceOf`: of these labels.
-/

namespace StabilityPlatform.Lib

variable {σ α : Type*} {step : σ → α → σ → Prop}

/-- `Run step s tr t` leads from `s` to `t`; `tr` lists, in order, the state before each
step and the label taken there. -/
inductive Run (step : σ → α → σ → Prop) : σ → List (σ × α) → σ → Prop
  | nil (s : σ) : Run step s [] s
  | cons {s s' t : σ} {a : α} {tr : List (σ × α)} :
      step s a s' → Run step s' tr t → Run step s ((s, a) :: tr) t

/-- `P` holds of every state the run reaches: before each step, and at its end. -/
def Holds (P : σ → Prop) (tr : List (σ × α)) (t : σ) : Prop :=
  (∀ p ∈ tr, P p.1) ∧ P t

/-- Nothing but the start is reached by the empty run. -/
@[simp] theorem holds_nil {P : σ → Prop} {t : σ} : Holds P ([] : List (σ × α)) t ↔ P t := by
  simp [Holds]

/-- A longer run reaches its start and what the rest of it reaches. -/
@[simp] theorem holds_cons {P : σ → Prop} {p : σ × α} {tr : List (σ × α)} {t : σ} :
    Holds P (p :: tr) t ↔ P p.1 ∧ Holds P tr t := by
  simp [Holds, and_assoc]

/-- What follows from a property of all states reached holds of all of them. -/
theorem Holds.mono {P Q : σ → Prop} {tr : List (σ × α)} {t : σ} (h : Holds P tr t)
    (hPQ : ∀ s, P s → Q s) : Holds Q tr t :=
  ⟨fun p hp => hPQ p.1 (h.1 p hp), hPQ t h.2⟩

/-- The start of a run is one of the states it reaches. -/
theorem Run.holds_start {P : σ → Prop} {s t : σ} {tr : List (σ × α)}
    (h : Run step s tr t) (hP : Holds P tr t) : P s := by
  cases h with
  | nil => exact hP.2
  | cons _ _ => exact hP.1 _ (List.mem_cons_self ..)

/-- One run after another is a run. -/
theorem Run.append {s m t : σ} {tr tr' : List (σ × α)}
    (h : Run step s tr m) (h' : Run step m tr' t) : Run step s (tr ++ tr') t := by
  induction h with
  | nil => exact h'
  | cons hs _ ih => exact .cons hs (ih h')

/-- A single step is a run. -/
theorem Run.single {s s' : σ} {a : α} (h : step s a s') : Run step s [(s, a)] s' :=
  .cons h (.nil s')

/-- What follows a step of a run is a run. -/
theorem Run.after {s t : σ} {tr : List (σ × α)} {p : σ × α} (h : Run step s tr t) (hp : p ∈ tr) :
    ∃ s' post, step p.1 p.2 s' ∧ Run step s' post t := by
  induction h with
  | nil => cases hp
  | cons ha hrest ih =>
      rcases List.mem_cons.mp hp with rfl | hp
      · exact ⟨_, _, ha, hrest⟩
      · exact ih hp

/-- **Guarded invariants.** A property that a step preserves whenever its side condition
holds is true of every state of a run all of whose steps meet the condition. -/
theorem Run.invariant_of_guard {P : σ → Prop} (ok : σ → α → Prop)
    (hstep : ∀ {s a s'}, P s → ok s a → step s a s' → P s')
    {s t : σ} {tr : List (σ × α)} (h : Run step s tr t) (hs : P s)
    (hok : ∀ p ∈ tr, ok p.1 p.2) : Holds P tr t := by
  induction h with
  | nil => exact holds_nil.mpr hs
  | cons ha _ ih =>
      rw [List.forall_mem_cons] at hok
      exact holds_cons.mpr ⟨hs, ih (hstep hs hok.1 ha) hok.2⟩

/-- **Invariants.** What every step preserves holds of every state a run reaches. -/
theorem Run.invariant {P : σ → Prop}
    (hstep : ∀ {s a s'}, P s → step s a s' → P s')
    {s t : σ} {tr : List (σ × α)} (h : Run step s tr t) (hs : P s) : Holds P tr t :=
  h.invariant_of_guard (fun _ _ => True) (fun hP _ ha => hstep hP ha) hs
    fun _ _ => trivial

/-- **Exact guards.** Suppose that, from a state with the auxiliary invariant `A` and the
property `P`, a step leads to a state with `P` exactly when its side condition holds.
Then `P` holds of all states of a run if and only if all its steps meet the condition. -/
theorem Run.invariant_iff_guard {A P : σ → Prop} {ok : σ → α → Prop}
    (haux : ∀ {s a s'}, A s → P s → step s a s' → A s')
    (hstep : ∀ {s a s'}, A s → P s → step s a s' → (P s' ↔ ok s a))
    {s t : σ} {tr : List (σ × α)} (h : Run step s tr t) (hA : A s) (hs : P s) :
    Holds P tr t ↔ ∀ p ∈ tr, ok p.1 p.2 := by
  induction h with
  | nil => simp [hs]
  | cons ha hrest ih =>
      rw [holds_cons, List.forall_mem_cons]
      have hiff := hstep hA hs ha
      constructor
      · rintro ⟨-, hP⟩
        have hP' := hrest.holds_start hP
        exact ⟨hiff.mp hP', (ih (haux hA hs ha) hP').mp hP⟩
      · rintro ⟨hok, hrestok⟩
        exact ⟨hs, (ih (haux hA hs ha) (hiff.mpr hok)).mpr hrestok⟩

/-- A reflexive and transitive relation that every step respects relates both ends of a
run. -/
theorem Run.rel {R : σ → σ → Prop} (hrefl : ∀ s, R s s)
    (htrans : ∀ {s m t}, R s m → R m t → R s t)
    (hstep : ∀ {s a s'}, step s a s' → R s s')
    {s t : σ} {tr : List (σ × α)} (h : Run step s tr t) : R s t := by
  induction h with
  | nil s => exact hrefl s
  | cons ha _ ih => exact htrans (hstep ha) ih

/-! ### Pairs of states -/

/-- The states a run reaches, in order. -/
def reached (tr : List (σ × α)) (t : σ) : List σ := tr.map Prod.fst ++ [t]

/-- A reflexive and transitive relation that every step respects relates the start of a run to
every state it reaches. -/
theorem Run.rel_reached {R : σ → σ → Prop} (hrefl : ∀ s, R s s)
    (htrans : ∀ {s m t}, R s m → R m t → R s t) {s t : σ} {tr : List (σ × α)}
    (h : Run step s tr t) (hsteps : (reached tr t).IsChain R) : ∀ x ∈ reached tr t, R s x := by
  induction h with
  | nil s =>
      intro x hx
      rw [List.mem_singleton.mp hx]
      exact hrefl s
  | @cons s s' t a tr _ hrest ih =>
      intro x hx
      rcases List.mem_cons.mp hx with rfl | hx
      · exact hrefl _
      · have hstart : ∃ rest, reached tr t = s' :: rest := by
          cases hrest with
          | nil => exact ⟨[], rfl⟩
          | cons _ _ => exact ⟨_, rfl⟩
        obtain ⟨rest, hrest'⟩ := hstart
        have hchain : (s :: reached tr t).IsChain R := hsteps
        rw [hrest'] at hchain
        have hfirst : R s s' := (List.isChain_cons_cons.mp hchain).1
        have htail : (reached tr t).IsChain R := hrest' ▸ (List.isChain_cons_cons.mp hchain).2
        exact htrans hfirst (ih htail x hx)

/-- **Exact guards for pairs.** When a step respects a reflexive and transitive relation exactly
under a side condition, the states of a run are related in order if and only if all its steps
meet the condition. -/
theorem Run.pairwise_iff_guard {A : σ → Prop} {R : σ → σ → Prop} {ok : σ → α → Prop}
    (hrefl : ∀ s, R s s) (htrans : ∀ {s m t}, R s m → R m t → R s t)
    (haux : ∀ {s a s'}, A s → step s a s' → A s')
    (hstep : ∀ {s a s'}, A s → step s a s' → (R s s' ↔ ok s a))
    {s t : σ} {tr : List (σ × α)} (h : Run step s tr t) (hA : A s) :
    (reached tr t).Pairwise R ↔ ∀ p ∈ tr, ok p.1 p.2 := by
  induction h with
  | nil s => simp [reached]
  | @cons s s' t a tr ha hrest ih =>
      have hiff := hstep hA ha
      have hrestiff := ih (haux hA ha)
      change (s :: reached tr t).Pairwise R ↔ _
      rw [List.pairwise_cons, hrestiff, List.forall_mem_cons]
      constructor
      · rintro ⟨hall, hok⟩
        have hmem : s' ∈ reached tr t := by
          cases hrest with
          | nil => exact List.mem_cons_self ..
          | cons _ _ => exact List.mem_cons_self ..
        exact ⟨hiff.mp (hall s' hmem), hok⟩
      · rintro ⟨hok, hrestok⟩
        refine ⟨fun x hx => htrans (hiff.mpr hok) ?_, hrestok⟩
        exact hrest.rel_reached hrefl htrans (hrestiff.mpr hrestok).isChain x hx

/-! ### Logs -/

section Log

variable {β : Type*}

/-- What the steps of a run emit, in order. -/
def emitted (emit : σ → α → List β) (tr : List (σ × α)) : List β :=
  tr.flatMap fun p => emit p.1 p.2

/-- **Logged invariants.** An invariant of a log and a state, kept by every step when what
the step emits is put at the end of the log. -/
theorem Run.invariant_log {emit : σ → α → List β} (I : List β → σ → Prop)
    (hstep : ∀ {log s a s'}, I log s → step s a s' → I (log ++ emit s a) s')
    {s t : σ} {tr : List (σ × α)} (h : Run step s tr t) {log : List β} (hI : I log s) :
    I (log ++ emitted emit tr) t := by
  induction h generalizing log with
  | nil => simpa [emitted] using hI
  | @cons s s' t a tr ha _ ih =>
      have hrest := ih (hstep hI ha)
      rw [List.append_assoc] at hrest
      exact hrest

/-- **Two logs.** An invariant of two logs and a state, kept by every step when what the
step emits is put at the end of each log. -/
theorem Run.invariant_logs {γ : Type*} {emit : σ → α → List β} {emit' : σ → α → List γ}
    (I : List β → List γ → σ → Prop)
    (hstep : ∀ {log log' s a s'}, I log log' s → step s a s' →
      I (log ++ emit s a) (log' ++ emit' s a) s')
    {s t : σ} {tr : List (σ × α)} (h : Run step s tr t) {log : List β} {log' : List γ}
    (hI : I log log' s) : I (log ++ emitted emit tr) (log' ++ emitted emit' tr) t := by
  induction h generalizing log log' with
  | nil => simpa [emitted] using hI
  | @cons s s' t a tr ha _ ih =>
      have hrest := ih (hstep hI ha)
      rw [List.append_assoc, List.append_assoc] at hrest
      exact hrest

end Log

/-! ### Runs of a partial function -/

/-- The run a partial step function makes of a list of labels. -/
def traceOf (f : σ → α → Option σ) : σ → List α → List (σ × α)
  | _, [] => []
  | s, a :: rest => (s, a) :: match f s a with
    | some s' => traceOf f s' rest
    | none => []

/-- The labels that were taken are the ones that were given. -/
theorem map_snd_traceOf {f : σ → α → Option σ} {s t : σ} {labels : List α}
    (h : labels.foldlM f s = some t) : (traceOf f s labels).map Prod.snd = labels := by
  induction labels generalizing s with
  | nil => rfl
  | cons a rest ih =>
      rw [List.foldlM_cons] at h
      cases hs : f s a with
      | none =>
          rw [hs] at h
          cases h
      | some s' =>
          rw [hs] at h
          simp only [traceOf, hs, List.map_cons, ih h]

/-- Labels that can all be taken are a run. -/
theorem Run.of_foldlM {f : σ → α → Option σ} {s t : σ} {labels : List α}
    (h : labels.foldlM f s = some t) :
    Run (fun s a s' => f s a = some s') s (traceOf f s labels) t := by
  induction labels generalizing s with
  | nil =>
      cases h
      exact .nil _
  | cons a rest ih =>
      rw [List.foldlM_cons] at h
      obtain ⟨next, hnext, hrest⟩ := Option.bind_eq_some_iff.mp h
      simp only [traceOf, hnext]
      exact .cons hnext (ih hrest)

/-! ### Runs of a function -/

/-- The run a step function makes of a list of labels. -/
def pathOf (f : σ → α → σ) : σ → List α → List (σ × α)
  | _, [] => []
  | s, a :: rest => (s, a) :: pathOf f (f s a) rest

/-- Any labels are a run. -/
theorem Run.of_foldl (f : σ → α → σ) (s : σ) (labels : List α) :
    Run (fun s a s' => f s a = s') s (pathOf f s labels) (labels.foldl f s) := by
  induction labels generalizing s with
  | nil => exact .nil s
  | cons a rest ih => exact .cons rfl (ih (f s a))

end StabilityPlatform.Lib
