import StabilityPlatform.Agent.PlanRunHostView
import StabilityPlatform.Lib.Run

/-!
# The phase barrier

Job threads announce the number of jobs a phase waits for, arrive, and wait. The view only
counts arrivals, for whatever phase it is armed for. A barrier is the view together with
what the threads do at it: which job arrived for which phase, which total each phase was
announced with, who waits on which event, and whose wait has returned.

A barrier does what it is for when a wait has returned only for phases at which all jobs
arrived, nobody is left waiting for such a phase, and every arrival for the armed phase is
counted, once.

## Main results

* `barrierInvariant_step`: what an orderly step keeps.
* `barrier_of_orderly`: **the barrier** along every run of orderly steps.
* `early_release`: a job that arrives twice releases the others early.
-/

namespace StabilityPlatform

open Lib

/-- A thread that waits. -/
structure BarrierWaiter where
  thread : ℕ
  phase : String
  event : ℕ
  deriving DecidableEq

/-- A view and what job threads did at its barrier. -/
structure PhaseBarrier where
  view : PlanRunHostView
  arrivals : List (String × ℕ)
  totals : List (String × ℤ)
  waiting : List BarrierWaiter
  released : List (ℕ × String)
  deriving DecidableEq

namespace PhaseBarrier

/-- A new view nobody has used. -/
def init (id planRunId : ℕ) (hostId : String) : PhaseBarrier :=
  ⟨.new id planRunId hostId, [], [], [], []⟩

/-- What a thread does. -/
inductive Op where
  | setTotal (total : ℤ) (forPhase : Option String)
  | arrive (thread job : ℕ) (phase : String)
  | wait (thread : ℕ) (phase : String)
  | wake (w : BarrierWaiter)
  | expire (w : BarrierWaiter)
  | advancePhase (nextPhase : String)
  deriving DecidableEq

/-- A thread that announces a total, anew when that arms the barrier. -/
def stepSetTotal (b : PhaseBarrier) (total : ℤ) (forPhase : Option String) : PhaseBarrier :=
  let view := b.view.setBarrierTotal total forPhase
  if forPhase ≠ none ∧ b.view.armedForPhase = forPhase then { b with view }
  else { b with view, totals := (view.armedForPhase.map fun p => (p, total)).toList ++ b.totals }

/-- A thread that arrives with a job; the last one does not wait. -/
def stepArrive (b : PhaseBarrier) (thread job : ℕ) (phase : String) : PhaseBarrier :=
  let (last, view) := b.view.arriveAtBarrier
  { b with
    view
    arrivals := b.arrivals ++ [(phase, job)]
    released := if last then (thread, phase) :: b.released else b.released }

/-- A thread that waits for a phase. -/
def stepWait (b : PhaseBarrier) (thread : ℕ) (phase : String) : PhaseBarrier :=
  match b.view.waitBarrier with
  | none => { b with released := (thread, phase) :: b.released }
  | some event => { b with waiting := ⟨thread, phase, event⟩ :: b.waiting }

/-- One step of some thread; `none` when it cannot be taken. -/
def step (b : PhaseBarrier) : Op → Option PhaseBarrier
  | .setTotal total forPhase => some (b.stepSetTotal total forPhase)
  | .arrive thread job phase => some (b.stepArrive thread job phase)
  | .wait thread phase => some (b.stepWait thread phase)
  | .wake w =>
    if w ∈ b.waiting ∧ w.event ∈ b.view.eventsSet then
      some { b with
        waiting := b.waiting.erase w, released := (w.thread, w.phase) :: b.released }
    else none
  | .expire w => if w ∈ b.waiting then some { b with waiting := b.waiting.erase w } else none
  | .advancePhase nextPhase => some { b with view := b.view.advancePhase nextPhase }

/-! ### What a barrier is for -/

/-- The total a phase was announced with. -/
def total (b : PhaseBarrier) (phase : String) : Option ℤ := b.totals.lookup phase

/-- The jobs that arrived for a phase. -/
def arrivedFor (b : PhaseBarrier) (phase : String) : Finset ℕ :=
  ((b.arrivals.filter fun a => a.1 = phase).map Prod.snd).toFinset

/-- As many jobs have arrived for a phase as were announced. -/
def Satisfied (b : PhaseBarrier) (phase : String) : Prop :=
  ∃ n ∈ b.total phase, n ≤ ((b.arrivedFor phase).card : ℤ)

instance (b : PhaseBarrier) (phase : String) : Decidable (b.Satisfied phase) :=
  match h : b.total phase with
  | none => .isFalse (by simp [Satisfied, h])
  | some n => decidable_of_iff (n ≤ ((b.arrivedFor phase).card : ℤ)) (by simp [Satisfied, h])

/-- A thread is released for satisfied phases only; who waits for a satisfied phase has its
event set, and who comes later does not wait; and the arrivals for the armed phase are all
counted, once each. -/
structure Correct (b : PhaseBarrier) : Prop where
  released : ∀ r ∈ b.released, b.Satisfied r.2
  waiting : ∀ w ∈ b.waiting, b.Satisfied w.phase → w.event ∈ b.view.eventsSet
  later : ∀ p ∈ b.view.armedForPhase, b.Satisfied p → b.view.waitBarrier = none
  counted : ∀ p ∈ b.view.armedForPhase, b.view.barrierArrived = (b.arrivedFor p).card

/-- Whether a step keeps to the order the count relies on: a total repeats the phase the
barrier is armed for, or it is positive and arms the barrier for a phase at which no job
has arrived and for which nobody waits; a job arrives once for a phase, and it arrives, as
threads wait, while the barrier is armed for that phase. -/
def orderly (b : PhaseBarrier) : Op → Bool
  | .setTotal total forPhase =>
    (forPhase ≠ none && b.view.armedForPhase = forPhase) ||
      (0 < total && (forPhase.or b.view.armedForPhase).all fun p =>
        (b.arrivals.all fun a => a.1 != p) && b.waiting.all fun w => w.phase != p)
  | .arrive _ job phase =>
    b.view.armedForPhase = some phase && !b.arrivals.contains (phase, job)
  | .wait _ phase => b.view.armedForPhase = some phase
  | _ => true

/-! ### The invariant -/

/-- What orderly steps keep. The event of the armed phase is set once the count reaches the
total, a waiter has the event of its phase, and older events belong to phases that are no
longer armed. -/
structure BarrierInvariant (b : PhaseBarrier) : Prop where
  totals_pos : ∀ p n, b.total p = some n → 0 < n
  released : ∀ r ∈ b.released, b.Satisfied r.2
  events_le : ∀ e ∈ b.view.eventsSet, e ≤ b.view.barrierEvent
  armed : ∀ p, b.view.armedForPhase = some p →
    b.view.barrierArrived = (b.arrivedFor p).card ∧ b.total p = some b.view.barrierTotal ∧
      (b.view.barrierEvent ∈ b.view.eventsSet ↔
        b.view.barrierTotal ≤ (b.view.barrierArrived : ℤ))
  waiting : ∀ w ∈ b.waiting, w.event ≤ b.view.barrierEvent ∧
    (w.event ∈ b.view.eventsSet ↔ b.Satisfied w.phase) ∧
    (b.view.armedForPhase = some w.phase ↔ w.event = b.view.barrierEvent)

/-- A phase with a known total. -/
theorem satisfied_iff {b : PhaseBarrier} {p : String} {n : ℤ} (h : b.total p = some n) :
    b.Satisfied p ↔ n ≤ ((b.arrivedFor p).card : ℤ) := by
  simp [Satisfied, h]

/-- Being satisfied is a matter of the total and the arrivals of the phase. -/
theorem satisfied_congr {b b' : PhaseBarrier} {p : String} (htotal : b'.total p = b.total p)
    (harrived : b'.arrivedFor p = b.arrivedFor p) : b'.Satisfied p ↔ b.Satisfied p := by
  rw [Satisfied, Satisfied, htotal, harrived]

/-- A satisfied phase has had arrivals. -/
theorem BarrierInvariant.arrived_of_satisfied {b : PhaseBarrier} (h : BarrierInvariant b)
    {p : String} (hp : b.Satisfied p) : (b.arrivedFor p).Nonempty := by
  obtain ⟨n, hn, hle⟩ := hp
  have hpos := h.totals_pos p n hn
  rw [← Finset.card_pos]
  omega

/-- A phase at which nobody arrived has no arrivals. -/
theorem arrivedFor_eq_empty {b : PhaseBarrier} {p : String}
    (h : ∀ a ∈ b.arrivals, a.1 ≠ p) : b.arrivedFor p = ∅ := by
  have hnil : b.arrivals.filter (fun a => a.1 = p) = [] := by
    rw [List.filter_eq_nil_iff]
    intro a ha
    simpa using h a ha
  rw [arrivedFor, hnil]
  rfl

/-- An invariant barrier does what it is for. -/
theorem BarrierInvariant.correct {b : PhaseBarrier} (h : BarrierInvariant b) : Correct b := by
  refine ⟨h.released, fun w hw hs => (h.waiting w hw).2.1.mpr hs, fun p hp hs => ?_,
    fun p hp => (h.armed p hp).1⟩
  obtain ⟨harrived, htotal, -⟩ := h.armed p hp
  have hpos := h.totals_pos p _ htotal
  have hle := (satisfied_iff htotal).mp hs
  rw [← harrived] at hle
  have hsat : b.view.barrierSatisfied = true := by
    rw [PlanRunHostView.barrierSatisfied, Bool.and_eq_true, decide_eq_true_eq,
      decide_eq_true_eq]
    exact ⟨hpos, hle⟩
  rw [PlanRunHostView.waitBarrier, if_pos hsat]

/-- A new barrier. -/
theorem barrierInvariant_init (id planRunId : ℕ) (hostId : String) :
    BarrierInvariant (init id planRunId hostId) :=
  ⟨nofun, fun _ hr => absurd hr List.not_mem_nil, fun _ he => absurd he (Finset.notMem_empty _),
    nofun, fun _ hw => absurd hw List.not_mem_nil⟩

/-! ### One step -/

/-- A total that is announced for the armed phase changes nothing. -/
theorem stepSetTotal_armed {b : PhaseBarrier} {total : ℤ} {forPhase : Option String}
    (h : forPhase ≠ none ∧ b.view.armedForPhase = forPhase) :
    b.stepSetTotal total forPhase = b := by
  rw [stepSetTotal, PlanRunHostView.setBarrierTotal, if_pos h, if_pos h]

/-- The totals after one more was announced. -/
theorem lookup_announced (totals : List (String × ℤ)) (phase : Option String) (total : ℤ)
    (q : String) : ((phase.map fun p => (p, total)).toList ++ totals).lookup q =
      if phase = some q then some total else totals.lookup q := by
  cases phase with
  | none => rfl
  | some p =>
      simp only [Option.map_some, Option.toList_some, List.singleton_append, List.lookup_cons,
        Option.some.injEq]
      by_cases hp : p = q
      · subst hp
        simp
      · have hne : (q == p) = false := by simpa using Ne.symm hp
        rw [hne, if_neg hp]

/-- A total that arms the barrier. -/
theorem barrierInvariant_arm {b : PhaseBarrier} (h : BarrierInvariant b) {total : ℤ}
    {forPhase : Option String}
    (hnew : ¬ (forPhase ≠ none ∧ b.view.armedForPhase = forPhase)) (hpos : 0 < total)
    (hfresh : ∀ p ∈ forPhase.or b.view.armedForPhase,
      (∀ a ∈ b.arrivals, a.1 ≠ p) ∧ ∀ w ∈ b.waiting, w.phase ≠ p) :
    BarrierInvariant (b.stepSetTotal total forPhase) := by
  rw [stepSetTotal, PlanRunHostView.setBarrierTotal, if_neg hnew, if_neg hnew]
  dsimp only
  generalize forPhase.or b.view.armedForPhase = phase at hfresh ⊢
  set b' : PhaseBarrier := PhaseBarrier.mk _ _ _ _ _ with hb'
  have htotal : ∀ q, b'.total q = if phase = some q then some total else b.total q :=
    fun q => lookup_announced b.totals phase total q
  have hsame : ∀ q, phase ≠ some q → (b'.Satisfied q ↔ b.Satisfied q) :=
    fun q hq => satisfied_congr ((htotal q).trans (if_neg hq)) rfl
  have hevent : b.view.barrierEvent + 1 ∉ b.view.eventsSet := fun hmem => by
    have hle := h.events_le _ hmem
    omega
  refine ⟨fun q n hn => ?_, fun r hr => ?_, fun e he => ?_, fun q hq => ?_, fun w hw => ?_⟩
  · rw [htotal q] at hn
    split_ifs at hn
    · exact Option.some.inj hn ▸ hpos
    · exact h.totals_pos q n hn
  · have hr' := h.released r hr
    refine (hsame r.2 fun hq => ?_).mpr hr'
    have hsome := h.arrived_of_satisfied hr'
    rw [arrivedFor_eq_empty (hfresh r.2 hq).1] at hsome
    exact Finset.not_nonempty_empty hsome
  · exact (h.events_le e he).trans (Nat.le_succ _)
  · have hempty : b'.arrivedFor q = ∅ := arrivedFor_eq_empty (hfresh q hq).1
    refine ⟨by rw [hempty]; rfl, (htotal q).trans (if_pos hq), ?_⟩
    refine iff_of_false hevent fun hle => ?_
    change total ≤ ((0 : ℕ) : ℤ) at hle
    omega
  · obtain ⟨hle, hset, -⟩ := h.waiting w hw
    have hphase : phase ≠ some w.phase := fun hq => (hfresh w.phase hq).2 w hw rfl
    refine ⟨hle.trans (Nat.le_succ _), hset.trans (hsame w.phase hphase).symm, ?_⟩
    refine iff_of_false hphase fun heq => ?_
    change w.event = b.view.barrierEvent + 1 at heq
    omega

/-- The jobs that arrived, with one more. -/
theorem arrivedFor_arrive (b : PhaseBarrier) (thread job : ℕ) (phase q : String) :
    (b.stepArrive thread job phase).arrivedFor q =
      if q = phase then insert job (b.arrivedFor q) else b.arrivedFor q := by
  have harrivals : (b.stepArrive thread job phase).arrivals =
      b.arrivals ++ [(phase, job)] := rfl
  rw [arrivedFor, arrivedFor, harrivals, List.filter_append, List.map_append,
    List.toFinset_append]
  by_cases hq : q = phase
  · subst hq
    rw [if_pos rfl, Finset.union_comm, Finset.insert_eq]
    simp
  · rw [if_neg hq]
    simp [Ne.symm hq]

/-- The view after an arrival. -/
theorem arriveAtBarrier_spec (v : PlanRunHostView) :
    v.arriveAtBarrier.2.barrierArrived = v.barrierArrived + 1 ∧
      v.arriveAtBarrier.2.barrierTotal = v.barrierTotal ∧
      v.arriveAtBarrier.2.barrierEvent = v.barrierEvent ∧
      v.arriveAtBarrier.2.armedForPhase = v.armedForPhase ∧
      (v.arriveAtBarrier.1 = true ↔
        0 < v.barrierTotal ∧ v.barrierTotal ≤ ((v.barrierArrived + 1 : ℕ) : ℤ)) ∧
      v.arriveAtBarrier.2.eventsSet = if v.arriveAtBarrier.1 then
        insert v.barrierEvent v.eventsSet else v.eventsSet := by
  have hsat : ({ v with barrierArrived := v.barrierArrived + 1 } :
      PlanRunHostView).barrierSatisfied = true ↔
      0 < v.barrierTotal ∧ v.barrierTotal ≤ ((v.barrierArrived + 1 : ℕ) : ℤ) := by
    rw [PlanRunHostView.barrierSatisfied, Bool.and_eq_true, decide_eq_true_eq,
      decide_eq_true_eq]
  rw [PlanRunHostView.arriveAtBarrier]
  dsimp only
  by_cases h : 0 < v.barrierTotal ∧ v.barrierTotal ≤ ((v.barrierArrived + 1 : ℕ) : ℤ)
  · rw [if_pos (hsat.mpr h)]
    exact ⟨rfl, rfl, rfl, rfl, iff_of_true rfl h, rfl⟩
  · rw [if_neg (mt hsat.mp h)]
    exact ⟨rfl, rfl, rfl, rfl, iff_of_false Bool.false_ne_true h, rfl⟩

/-- A job that arrives for the first time, for the armed phase. -/
theorem barrierInvariant_arrive {b : PhaseBarrier} (h : BarrierInvariant b) (thread : ℕ)
    {job : ℕ} {phase : String} (harmed : b.view.armedForPhase = some phase)
    (hnew : (phase, job) ∉ b.arrivals) : BarrierInvariant (b.stepArrive thread job phase) := by
  obtain ⟨hcount, htotal, hset⟩ := h.armed phase harmed
  obtain ⟨harrived, htot, hevent, harm, hlast, hevents⟩ := arriveAtBarrier_spec b.view
  have hpos := h.totals_pos phase _ htotal
  set b' := b.stepArrive thread job phase with hb'
  have hview : b'.view = b.view.arriveAtBarrier.2 := rfl
  have hjob : job ∉ b.arrivedFor phase := by
    simpa [arrivedFor] using hnew
  have hcard : (b'.arrivedFor phase).card = b.view.barrierArrived + 1 := by
    rw [arrivedFor_arrive, if_pos rfl, Finset.card_insert_of_notMem hjob, hcount]
  have hother : ∀ q, q ≠ phase → (b'.Satisfied q ↔ b.Satisfied q) := fun q hq =>
    satisfied_congr rfl ((arrivedFor_arrive b thread job phase q).trans (if_neg hq))
  have hkeep : ∀ q, b.Satisfied q → b'.Satisfied q := by
    rintro q ⟨n, hn, hle⟩
    refine ⟨n, hn, hle.trans ?_⟩
    rw [arrivedFor_arrive]
    split_ifs
    · exact_mod_cast Finset.card_le_card (Finset.subset_insert ..)
    · exact le_refl _
  have hphase : b'.Satisfied phase ↔ b.view.arriveAtBarrier.1 = true := by
    rw [satisfied_iff (b := b') htotal, hcard, hlast]
    exact (and_iff_right hpos).symm
  have hset' : b.view.barrierEvent ∈ b'.view.eventsSet ↔ b'.Satisfied phase := by
    rw [hphase, hview, hevents]
    split_ifs with hl
    · exact iff_of_true (Finset.mem_insert_self ..) hl
    · refine iff_of_false (fun hmem => hl (hlast.mpr ⟨hpos, ?_⟩)) hl
      exact (hset.mp hmem).trans (by exact_mod_cast Nat.le_succ _)
  have hmem : ∀ e, e ≠ b.view.barrierEvent →
      (e ∈ b'.view.eventsSet ↔ e ∈ b.view.eventsSet) := by
    intro e he
    rw [hview, hevents]
    split_ifs
    · rw [Finset.mem_insert, or_iff_right he]
    · exact Iff.rfl
  refine ⟨h.totals_pos, fun r hr => ?_, fun e he => ?_, fun q hq => ?_, fun w hw => ?_⟩
  · have hrel : b'.released = if b.view.arriveAtBarrier.1 then
        (thread, phase) :: b.released else b.released := rfl
    rw [hrel] at hr
    split_ifs at hr with hl
    · rcases List.mem_cons.mp hr with rfl | hr
      · exact hphase.mpr hl
      · exact hkeep _ (h.released r hr)
    · exact hkeep _ (h.released r hr)
  · rw [hview, hevent]
    by_cases heq : e = b.view.barrierEvent
    · exact heq.le
    · exact h.events_le e ((hmem e heq).mp he)
  · rw [hview, harm, harmed] at hq
    obtain rfl := Option.some.inj hq
    refine ⟨by rw [hview, harrived, hcard], ?_, ?_⟩
    · rw [hview, htot]
      exact htotal
    · rw [hview, hevent, ← hview, hset', hview, htot, harrived, satisfied_iff (b := b') htotal,
        hcard]
  · obtain ⟨hle, hwset, hwarmed⟩ := h.waiting w hw
    rw [harmed] at hwarmed
    refine ⟨by rw [hview, hevent]; exact hle, ?_, by rw [hview, harm, harmed, hevent]; exact hwarmed⟩
    by_cases heq : w.event = b.view.barrierEvent
    · have hq := Option.some.inj (hwarmed.mpr heq)
      rw [heq, ← hq]
      exact hset'
    · have hq : w.phase ≠ phase := fun hq => heq (hwarmed.mp (congrArg some hq.symm))
      rw [hmem w.event heq, hwset, hother w.phase hq]

/-- A thread that waits while the barrier is armed for its phase. -/
theorem barrierInvariant_wait {b : PhaseBarrier} (h : BarrierInvariant b) (thread : ℕ)
    {phase : String} (harmed : b.view.armedForPhase = some phase) :
    BarrierInvariant (b.stepWait thread phase) := by
  obtain ⟨hcount, htotal, hset⟩ := h.armed phase harmed
  have hpos := h.totals_pos phase _ htotal
  have hsat : b.view.barrierSatisfied = true ↔ b.Satisfied phase := by
    rw [satisfied_iff htotal, ← hcount, PlanRunHostView.barrierSatisfied, Bool.and_eq_true,
      decide_eq_true_eq, decide_eq_true_eq, and_iff_right hpos]
  rw [stepWait, PlanRunHostView.waitBarrier]
  by_cases hs : b.Satisfied phase
  · rw [if_pos (hsat.mpr hs)]
    refine ⟨h.totals_pos, fun r hr => ?_, h.events_le, h.armed, h.waiting⟩
    rcases List.mem_cons.mp hr with rfl | hr
    · exact hs
    · exact h.released r hr
  · rw [if_neg (mt hsat.mp hs)]
    refine ⟨h.totals_pos, h.released, h.events_le, h.armed, fun w hw => ?_⟩
    rcases List.mem_cons.mp hw with rfl | hw
    · refine ⟨le_refl _, ?_, iff_of_true harmed rfl⟩
      exact hset.trans ((satisfied_iff htotal).trans (by rw [hcount])).symm
    · exact h.waiting w hw

/-- **One step** in order keeps the invariant. -/
theorem barrierInvariant_step {b b' : PhaseBarrier} {op : Op} (h : BarrierInvariant b)
    (hok : b.orderly op = true) (hstep : b.step op = some b') : BarrierInvariant b' := by
  cases op with
  | setTotal total forPhase =>
      cases hstep
      by_cases harmed : forPhase ≠ none ∧ b.view.armedForPhase = forPhase
      · rw [stepSetTotal_armed harmed]
        exact h
      · simp only [orderly, Bool.or_eq_true, Bool.and_eq_true, decide_eq_true_eq, harmed,
          false_or, Option.all_eq_true, List.all_eq_true, bne_iff_ne] at hok
        exact barrierInvariant_arm h harmed hok.1 hok.2
  | arrive thread job phase =>
      cases hstep
      rw [orderly, Bool.and_eq_true, decide_eq_true_eq] at hok
      exact barrierInvariant_arrive h thread hok.1 (by simpa using hok.2)
  | wait thread phase =>
      cases hstep
      exact barrierInvariant_wait h thread (of_decide_eq_true hok)
  | wake w =>
      simp only [step] at hstep
      split_ifs at hstep with hw
      cases hstep
      refine ⟨h.totals_pos, fun r hr => ?_, h.events_le, h.armed,
        fun w' hw' => h.waiting w' (List.mem_of_mem_erase hw')⟩
      rcases List.mem_cons.mp hr with rfl | hr
      · exact (h.waiting w hw.1).2.1.mp hw.2
      · exact h.released r hr
  | expire w =>
      simp only [step] at hstep
      split_ifs at hstep
      cases hstep
      exact ⟨h.totals_pos, h.released, h.events_le, h.armed,
        fun w' hw' => h.waiting w' (List.mem_of_mem_erase hw')⟩
  | advancePhase nextPhase =>
      cases hstep
      exact ⟨h.totals_pos, h.released, h.events_le, h.armed, h.waiting⟩

/-! ### Runs -/

/-- **The barrier.** Take any interleaving of announcements, arrivals and waits of any
number of threads in which a job arrives once for a phase, jobs arrive and threads wait for
a phase while the barrier is armed for it, and a barrier is armed with a positive total for
a phase that nobody has arrived at or waits for. Then in every state a wait has returned
only for phases with as many arrivals, of distinct jobs, as announced, whoever waits for
such a phase has its event set and who comes later does not wait, and no arrival for the
armed phase is lost or counted twice, however often its total is announced. -/
theorem barrier_of_orderly {id planRunId : ℕ} {hostId : String}
    {tr : List (PhaseBarrier × Op)} {b : PhaseBarrier}
    (hrun : Run (fun b op b' => b.step op = some b') (init id planRunId hostId) tr b)
    (hok : ∀ p ∈ tr, p.1.orderly p.2 = true) : Holds Correct tr b := by
  have hinv : Holds BarrierInvariant tr b :=
    hrun.invariant_of_guard (fun b op => b.orderly op = true)
      (fun h hok hstep => barrierInvariant_step h hok hstep)
      (barrierInvariant_init id planRunId hostId) hok
  exact ⟨fun p hp => (hinv.1 p hp).correct, hinv.2.correct⟩

/-- The theorem at work: two jobs announce different totals, the first one's counts; the
second thread waits until the job of the first has arrived. -/
theorem barrier_of_orderly_two :
    let ops : List Op := [.setTotal 2 (some "PATROL"), .arrive 1 11 "PATROL",
      .setTotal 3 (some "PATROL"), .wait 1 "PATROL", .arrive 2 12 "PATROL",
      .advancePhase "PATROL", .wake ⟨1, "PATROL", 1⟩]
    ∃ b, ops.foldlM step (init 7 3 "h1") = some b ∧
      b.released = [(1, "PATROL"), (2, "PATROL")] ∧
      Holds Correct (traceOf step (init 7 3 "h1") ops) b := by
  intro ops
  obtain ⟨b, hb⟩ : ∃ b, ops.foldlM step (init 7 3 "h1") = some b :=
    Option.isSome_iff_exists.mp (by decide)
  have h := barrier_of_orderly (Run.of_foldlM hb) (by decide)
  refine ⟨b, hb, ?_, h⟩
  have hend : (ops.foldlM step (init 7 3 "h1")).map released =
      some [(1, "PATROL"), (2, "PATROL")] := by decide
  rw [hb] at hend
  exact Option.some.inj hend

/-- **An early release.** Two jobs are announced. The thread of job 11 waits, and the job,
resumed before the patrol phase, arrives again: the second arrival counts as the last one,
and the waiting thread is released although job 12 never arrived. -/
theorem early_release :
    ∃ tr b, Run (fun b op b' => step b op = some b') (init 7 3 "h1") tr b ∧
      ¬ b.Correct ∧ (1, "PATROL") ∈ b.released ∧ b.total "PATROL" = some 2 ∧
      b.arrivedFor "PATROL" = {11} := by
  let ops : List Op := [.setTotal 2 (some "PATROL"), .arrive 1 11 "PATROL",
    .wait 1 "PATROL", .setTotal 2 (some "PATROL"), .arrive 2 11 "PATROL",
    .wake ⟨1, "PATROL", 1⟩]
  obtain ⟨b, hb⟩ : ∃ b, ops.foldlM step (init 7 3 "h1") = some b :=
    Option.isSome_iff_exists.mp (by decide)
  have hend : (ops.foldlM step (init 7 3 "h1")).map (fun b =>
      decide ((1, "PATROL") ∈ b.released ∧ b.total "PATROL" = some 2 ∧
        b.arrivedFor "PATROL" = {11} ∧ ¬ b.Satisfied "PATROL")) = some true := by
    decide
  rw [hb] at hend
  obtain ⟨hrel, htotal, harrived, hsat⟩ := of_decide_eq_true (Option.some.inj hend)
  exact ⟨_, b, Run.of_foldlM hb, fun hc => hsat (hc.released _ hrel), hrel, htotal, harrived⟩

end PhaseBarrier

end StabilityPlatform
