import StabilityPlatform.Contract.GuardHistory
import StabilityPlatform.Lib.Timed

/-!
# How long a guard protects

Evidence arrives at server times that do not decrease, and between two arrivals the guard
may be read at any moment, with any verdict on its owner and any execution heartbeat. The
time during which the guard protects the job while it waits in the queue is paid for by
what is left of the queue budget once the current wait is charged, whatever the order of
phases, steps and retries.

## Main results

* `volume_queue_le`: a guard protects queueing for at most its charged budget.
* `queue_protection_bounded`: **the total queue protection** of a frozen guard is at most
  the queue budget, and its total protection at most the frozen ceiling.
-/

namespace StabilityPlatform

open Lib MeasureTheory

/-! ### Timed histories of a guard -/

/-- What reaches a guard at some moment. -/
inductive Arrival where
  | evidence (evidence : PyDict) (viaCoordinator : Bool)
  | rebind (fencingToken agentInstanceId : String) (bootId : Option String)
  | read

/-- The event an arrival is at a given server time. -/
def Arrival.event {T : Type} (now : T) : Arrival → GuardEvent T
  | evidence e viaCoordinator => .receive e now viaCoordinator
  | rebind fencingToken agentInstanceId bootId => .rebind fencingToken agentInstanceId bootId
  | read => .read now

/-- The guard after an arrival. -/
noncomputable def arrive (guard : DisarmGuard ℝ) (now : ℝ) (arrival : Arrival) :
    DisarmGuard ℝ :=
  guardStep guard (arrival.event now)

/-- What the callers know of the owner at each moment. -/
structure OwnerFacts where
  valid : ℝ → Bool
  heartbeatAt : ℝ → Option ℝ
  heartbeatTimeout : ℝ → ℝ

/-- A read at time `t` finds the job protected. -/
def Protected (facts : OwnerFacts) (guard : DisarmGuard ℝ) (t : ℝ) : Prop :=
  ∃ d, disarmGuardDeadline (some guard) t (facts.valid t) (facts.heartbeatAt t)
    (facts.heartbeatTimeout t) = some d

/-- The guard is in the queue phase. -/
def InQueue (guard : DisarmGuard ℝ) : Prop :=
  ∃ accountedAt deadline seenAt, guard.phase = some (.queue accountedAt deadline seenAt)

/-! ### The potential -/

/-- A guard whose running wait was accounted before `t` and ends within the budget. -/
structure QueueOk (guard : DisarmGuard ℝ) (t : ℝ) : Prop where
  ok : GuardOk guard
  wait : ∀ {a d s}, guard.phase = some (.queue a d s) →
    a ≤ t ∧ d ≤ a + guard.queueRemaining

/-- Time passes over a wait. -/
theorem QueueOk.mono {guard : DisarmGuard ℝ} {a b : ℝ} (h : QueueOk guard a) (hab : a ≤ b) :
    QueueOk guard b :=
  ⟨h.ok, fun hp => ⟨(h.wait hp).1.trans hab, (h.wait hp).2⟩⟩

/-- The charged budget depends on phase and budget only. -/
theorem chargeQueue_congr {guard other : DisarmGuard ℝ} (hphase : other.phase = guard.phase)
    (hrem : other.queueRemaining = guard.queueRemaining) (t : ℝ) :
    chargeQueue other t = chargeQueue guard t := by
  unfold chargeQueue
  rw [hphase, hrem]

/-- The charged budget of a waiting guard. -/
theorem chargeQueue_queue {guard : DisarmGuard ℝ} {a d s : ℝ}
    (hp : guard.phase = some (.queue a d s)) {t : ℝ} (ht : a ≤ t) :
    chargeQueue guard t = max 0 (guard.queueRemaining - (t - a)) := by
  unfold chargeQueue
  rw [hp]
  dsimp only
  rw [max_eq_right (sub_nonneg.mpr ht)]

/-- Outside the queue nothing is charged. -/
theorem chargeQueue_of_not_inQueue {guard : DisarmGuard ℝ} (h : ¬ InQueue guard) (t : ℝ) :
    chargeQueue guard t = guard.queueRemaining := by
  unfold chargeQueue
  split
  · rename_i a d s hp
    exact absurd ⟨a, d, s, hp⟩ h
  · rfl

/-- Waiting lowers the charged budget. -/
theorem chargeQueue_anti {guard : DisarmGuard ℝ} {a b : ℝ} (h : QueueOk guard a)
    (hab : a ≤ b) : chargeQueue guard b ≤ chargeQueue guard a := by
  by_cases hq : InQueue guard
  · obtain ⟨c, d, s, hp⟩ := hq
    have hca := (h.wait hp).1
    rw [chargeQueue_queue hp hca, chargeQueue_queue hp (hca.trans hab)]
    exact max_le_max le_rfl (by linarith)
  · rw [chargeQueue_of_not_inQueue hq, chargeQueue_of_not_inQueue hq]

/-- A protected wait is within its deadline. -/
theorem lt_deadline_of_protected {facts : OwnerFacts} {guard : DisarmGuard ℝ} {a d s t : ℝ}
    (hp : guard.phase = some (.queue a d s)) (h : Protected facts guard t) : t < d := by
  obtain ⟨e, he⟩ := h
  obtain ⟨-, -, -, hlt, coord, seenAt, limit, -, hlimit, rfl⟩ := disarmGuardDeadline_eq_some he
  unfold phaseLimit at hlimit
  rw [hp] at hlimit
  simp only [Option.some.injEq, Prod.mk.injEq] at hlimit
  obtain ⟨rfl, rfl⟩ := hlimit
  calc t < _ := hlt
    _ ≤ min (stepCeiling guard) d := (min_le_left ..).trans (min_le_left ..)
    _ ≤ d := min_le_right ..

/-- A stretch of protected waiting costs what it lowers the charged budget by. -/
theorem volume_stretch_le (facts : OwnerFacts) {guard : DisarmGuard ℝ} {a b : ℝ}
    (h : QueueOk guard a) (hab : a ≤ b) :
    volume {t | a ≤ t ∧ t < b ∧ InQueue guard ∧ Protected facts guard t} ≤
      ENNReal.ofReal (chargeQueue guard a - chargeQueue guard b) := by
  by_cases hq : InQueue guard
  · obtain ⟨c, d, s, hp⟩ := hq
    obtain ⟨hca, hd⟩ := h.wait hp
    have hsub : ∀ t ∈ {t | a ≤ t ∧ t < b ∧ InQueue guard ∧ Protected facts guard t},
        a ≤ t ∧ t < min b (c + guard.queueRemaining) := by
      rintro t ⟨hat, htb, -, hprot⟩
      exact ⟨hat, lt_min htb ((lt_deadline_of_protected hp hprot).trans_le hd)⟩
    refine (volume_le_of_subset_Ico hsub).trans (ENNReal.ofReal_le_ofReal_iff'.mpr ?_)
    rw [chargeQueue_queue hp hca, chargeQueue_queue hp (hca.trans hab)]
    by_cases hover : c + guard.queueRemaining ≤ a
    · exact .inr (sub_nonpos.mpr ((min_le_right ..).trans hover))
    · refine .inl ?_
      rw [max_eq_right (by linarith : (0 : ℝ) ≤ guard.queueRemaining - (a - c))]
      rcases le_total b (c + guard.queueRemaining) with hb | hb
      · rw [min_eq_left hb, max_eq_right (by linarith)]
        linarith
      · rw [min_eq_right hb, max_eq_left (by linarith)]
        linarith
  · have hempty : {t | a ≤ t ∧ t < b ∧ InQueue guard ∧ Protected facts guard t} = ∅ :=
      Set.eq_empty_of_forall_notMem fun t ht => hq ht.2.2.1
    rw [hempty, measure_empty]
    exact zero_le

/-- A guard left alone protects its wait for at most its charged budget. -/
theorem volume_alone_le (facts : OwnerFacts) {guard : DisarmGuard ℝ} {a : ℝ}
    (h : QueueOk guard a) :
    volume {t | a ≤ t ∧ InQueue guard ∧ Protected facts guard t} ≤
      ENNReal.ofReal (chargeQueue guard a) := by
  by_cases hq : InQueue guard
  · obtain ⟨c, d, s, hp⟩ := hq
    obtain ⟨hca, hd⟩ := h.wait hp
    have hsub : {t | a ≤ t ∧ InQueue guard ∧ Protected facts guard t} ⊆
        {t | a ≤ t ∧ t < max a d ∧ InQueue guard ∧ Protected facts guard t} := by
      rintro t ⟨hat, hin, hprot⟩
      exact ⟨hat, (lt_deadline_of_protected hp hprot).trans_le (le_max_right ..), hin, hprot⟩
    refine (measure_mono hsub).trans ((volume_stretch_le facts h (le_max_left ..)).trans ?_)
    exact ENNReal.ofReal_le_ofReal
      (sub_le_self _ (chargeQueue_nonneg h.ok.queue_nonneg _))
  · have hempty : {t | a ≤ t ∧ InQueue guard ∧ Protected facts guard t} = ∅ :=
      Set.eq_empty_of_forall_notMem fun t ht => hq ht.2.1
    rw [hempty, measure_empty]
    exact zero_le

/-- Accepted waiting starts anew with the charged budget. -/
theorem queueOk_acceptQueue {guard : DisarmGuard ℝ} {now : ℝ} (hok : GuardOk guard)
    {seq : ℤ} (hseq : guard.seq < seq) (key : String) (via : Bool) :
    QueueOk (acceptQueue guard seq key now via) now ∧
      chargeQueue (acceptQueue guard seq key now via) now ≤ chargeQueue guard now := by
  refine ⟨⟨guardOk_acceptQueue hok hseq key now via, ?_⟩, ?_⟩
  · intro a d s hp
    simp only [acceptQueue, Option.some.injEq, GuardPhase.queue.injEq] at hp
    obtain ⟨rfl, rfl, rfl⟩ := hp
    exact ⟨le_rfl, min_le_left ..⟩
  · exact chargeQueue_le (guardOk_acceptQueue hok hseq key now via).queue_nonneg now

/-- Accepted executing leaves the queue with the charged budget. -/
theorem queueOk_acceptExecute {guard : DisarmGuard ℝ} {now : ℝ} (hok : GuardOk guard)
    {seq : ℤ} (hseq : guard.seq < seq) (key : String) (step : StepBudget) (progress : PyVal)
    (via : Bool) :
    QueueOk (acceptExecute guard seq key step progress now via) now ∧
      chargeQueue (acceptExecute guard seq key step progress now via) now ≤
        chargeQueue guard now := by
  have hg := guardOk_acceptExecute hok hseq key step progress now via
  have hphase : (acceptExecute guard seq key step progress now via).phase = some .execute ∧
      (acceptExecute guard seq key step progress now via).queueRemaining =
        chargeQueue guard now := by
    unfold acceptExecute
    obtain ⟨p, seen, -, heq⟩ := acceptProgress_eq
      { acceptEvidence guard seq key now via with
        phase := some .execute
        stepDeadlines := setDefault guard.stepDeadlines key
          (min (now + (step.seconds : ℝ)) guard.jobDeadline)
        stepStartedAt := setDefault guard.stepStartedAt key now } progress now
    exact heq ▸ ⟨rfl, rfl⟩
  refine ⟨⟨hg, fun hp => ?_⟩, ?_⟩
  · rw [hphase.1] at hp
    cases hp
  · exact (chargeQueue_le hg.queue_nonneg now).trans_eq hphase.2

/-- A guard with the same phase and budget. -/
theorem queueOk_of_same {guard other : DisarmGuard ℝ} {t : ℝ} (h : QueueOk guard t)
    (hok : GuardOk other) (hphase : other.phase = guard.phase)
    (hrem : other.queueRemaining = guard.queueRemaining) :
    QueueOk other t ∧ chargeQueue other t ≤ chargeQueue guard t := by
  refine ⟨⟨hok, fun hp => ?_⟩, (chargeQueue_congr hphase hrem t).le⟩
  rw [hrem]
  exact h.wait (hphase ▸ hp)

/-- No arrival raises the charged budget. -/
theorem queueOk_arrive {guard : DisarmGuard ℝ} {now : ℝ} {arrival : Arrival}
    (h : QueueOk guard now) :
    QueueOk (arrive guard now arrival) now ∧
      chargeQueue (arrive guard now arrival) now ≤ chargeQueue guard now := by
  have hok' := guardOk_step h.ok (arrival.event now)
  cases arrival with
  | rebind token instanceId boot => exact queueOk_of_same h hok' rfl rfl
  | read =>
      unfold arrive
      simp only [Arrival.event, guardStep] at hok' ⊢
      split
      · exact queueOk_of_same h (by simpa only [*, if_true] using hok') rfl rfl
      · exact queueOk_of_same h h.ok rfl rfl
  | evidence e via =>
      unfold arrive
      simp only [Arrival.event, guardStep] at hok' ⊢
      cases hr : receiveDisarmEvidence guard e now via with
      | error _ => exact queueOk_of_same h h.ok rfl rfl
      | ok out =>
          rw [hr] at hok'
          have hset : QueueOk { guard with lastServerAt := now } now :=
            ⟨h.ok.setServerAt now, fun hp => h.wait hp⟩
          rcases receiveDisarmEvidence_eq hr with
            ⟨-, rfl⟩ | ⟨-, rfl | ⟨-, ⟨-, rfl⟩ | ⟨seq, key, step, hseq, -, rfl | rfl⟩⟩⟩
          · exact queueOk_of_same h hok' rfl rfl
          · exact queueOk_of_same h hok' rfl rfl
          · exact queueOk_of_same h hok' rfl rfl
          · exact queueOk_acceptQueue hset.ok hseq key via
          · exact queueOk_acceptExecute hset.ok hseq key step _ via

/-- **The queue budget pays for the queue.** From any guard whose wait is accounted, an
ordered history protects queueing for at most the charged budget. -/
theorem volume_queue_le (facts : OwnerFacts) {guard : DisarmGuard ℝ} {start : ℝ}
    {history : List (ℝ × Arrival)} (h : QueueOk guard start) (hord : Ordered start history) :
    volume {t | start ≤ t ∧ InQueue (stateAt arrive guard history t) ∧
      Protected facts (stateAt arrive guard history t) t} ≤
      ENNReal.ofReal (chargeQueue guard start) :=
  volume_le_potential (P := fun guard t => InQueue guard ∧ Protected facts guard t)
    (I := QueueOk) (fun h hab => h.mono hab) queueOk_arrive
    (fun h hab => volume_stretch_le facts h hab) (fun h => volume_alone_le facts h)
    (fun h => chargeQueue_nonneg h.ok.queue_nonneg _) chargeQueue_anti h hord

/-! ### The whole life -/

/-- The guard in force at any moment is one that a history of events led to. -/
theorem stateAt_eq_deliver (guard : DisarmGuard ℝ) (history : List (ℝ × Arrival)) (t : ℝ) :
    ∃ events, stateAt arrive guard history t = deliver guard events := by
  obtain ⟨past, -, h⟩ := stateAt_eq_foldl arrive guard history t
  refine ⟨past.map fun p => p.2.event p.1, h.trans ?_⟩
  rw [deliver, List.foldl_map]
  rfl

/-- A protected moment is before the ceiling. -/
theorem lt_jobDeadline_of_protected {facts : OwnerFacts} {guard : DisarmGuard ℝ} {t : ℝ}
    (h : Protected facts guard t) : t < guard.jobDeadline := by
  obtain ⟨d, hd⟩ := h
  exact (disarmGuardDeadline_eq_some hd).2.2.2.1.trans_le
    ((disarmGuardDeadline_le hd).trans (stepCeiling_le guard))

/-- **Total queue protection is bounded.** Whatever arrives at a frozen guard, in whatever
order of phases, steps and retries, at server times that do not decrease, and whatever is
known of its owner at each moment: the moments at which it protects the job while waiting
in the queue add up to at most the queue budget, and all moments at which it protects the
job to at most the frozen ceiling. -/
theorem queue_protection_bounded (steps : List PyDict) (now : ℝ) (abortAt : Option ℝ)
    (fencingToken agentInstanceId : String) (history : List (ℝ × Arrival))
    (hord : Ordered now history) (facts : OwnerFacts) :
    let frozen := freezeDisarmGuard steps now abortAt fencingToken agentInstanceId
    let guardAt := stateAt arrive frozen history
    volume {t | frozen.t0 ≤ t ∧ InQueue (guardAt t) ∧ Protected facts (guardAt t) t} ≤
      ENNReal.ofReal (disarmQueueSeconds : ℝ) ∧
    volume {t | frozen.t0 ≤ t ∧ Protected facts (guardAt t) t} ≤
      ENNReal.ofReal (jobCeiling (freezeBudgets steps) : ℝ) := by
  intro frozen guardAt
  have hok : GuardOk frozen := guardOk_freeze ..
  have ht0 : frozen.t0 ≤ now := by
    cases abortAt with
    | none => exact le_rfl
    | some abort => exact min_le_left ..
  have hord' : Ordered frozen.t0 history := by
    cases history with
    | nil => trivial
    | cons p rest => exact ⟨ht0.trans hord.1, hord.2⟩
  have hstart : QueueOk frozen frozen.t0 := ⟨hok, fun hp => by cases hp⟩
  refine ⟨volume_queue_le facts hstart hord', ?_⟩
  have hsub : ∀ t ∈ {t | frozen.t0 ≤ t ∧ Protected facts (guardAt t) t},
      frozen.t0 ≤ t ∧ t < frozen.jobDeadline := by
    rintro t ⟨ht, hprot⟩
    obtain ⟨events, heq⟩ := stateAt_eq_deliver frozen history t
    have hlt := lt_jobDeadline_of_protected hprot
    simp only [guardAt, heq, (guardLe_deliver hok events).jobDeadline] at hlt
    exact ⟨ht, hlt⟩
  refine (volume_le_of_subset_Ico hsub).trans_eq (congrArg ENNReal.ofReal ?_)
  exact add_sub_cancel_left ..

/-- The bounds of a job with one step of a hundred seconds that waits twice. -/
theorem queue_protection_bounded_requeue :
    let facts : OwnerFacts := ⟨fun _ => true, fun t => some (t - 5), fun _ => 60⟩
    let steps : List PyDict := [[("step_id", .str "s1"),
      ("action", .str "script:gpu_disarm"), ("version", .str "1.0.0"),
      ("timeout_seconds", .int 100)]]
    let evidence : String → ℤ → PyDict := fun phase seq =>
      [("seq", .int seq), ("phase", .str phase), ("step_id", .str "s1"),
        ("script_name", .str "gpu_disarm"), ("script_version", .str "1.0.0")]
    let guardAt := stateAt arrive (freezeDisarmGuard steps (1000 : ℝ) none "1:1" "a")
      [(1010, .evidence (evidence "queue" 0) true),
        (1020, .evidence (evidence "execute" 1) true),
        (1020, .evidence (evidence "queue" 2) true)]
    volume {t | 1000 ≤ t ∧ InQueue (guardAt t) ∧ Protected facts (guardAt t) t} ≤
      ENNReal.ofReal 7200 ∧
    volume {t | 1000 ≤ t ∧ Protected facts (guardAt t) t} ≤ ENNReal.ofReal 7300 := by
  intro facts steps evidence guardAt
  obtain ⟨hqueue, hjob⟩ := queue_protection_bounded steps 1000 none "1:1" "a"
    [(1010, .evidence (evidence "queue" 0) true),
      (1020, .evidence (evidence "execute" 1) true),
      (1020, .evidence (evidence "queue" 2) true)]
    ⟨by norm_num, by norm_num, le_rfl, trivial⟩ facts
  have hseconds : (disarmQueueSeconds : ℝ) = 7200 := by norm_num [disarmQueueSeconds]
  have hceil : (jobCeiling (freezeBudgets steps) : ℝ) = 7300 := by
    have h : jobCeiling (freezeBudgets steps) = 7300 := by decide
    rw [h]
    norm_num
  rw [hseconds] at hqueue
  rw [hceil] at hjob
  exact ⟨hqueue, hjob⟩

end StabilityPlatform
