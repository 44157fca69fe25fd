import StabilityPlatform.Contract.DisarmGuard

/-!
# The life of a disarm guard

Once frozen, a guard lives through items of evidence on both channels, through a change
of the owner's token after a recovery, and through reads that notice a clock going
backwards. What one such event can do gives an order on guards (`GuardLe`) and an
invariant (`GuardOk`), and the two hold along every history.

## Main results

* `guardLe_receive`, `guardOk_receive`: one item of evidence.
* `guardLe_deliver`, `guardOk_deliver`: any history.
* `guard_history_monotone`: **monotonicity** of a frozen guard between any two moments of
  any history, and the bounds on every deadline it ever returns.
-/

namespace StabilityPlatform

open Lib

variable {T : Type}

/-! ### Defaults -/

/-- A default does not replace what is there. -/
theorem setDefault_get?_of_some {d : Dict T} {k k' : String} {v w : T}
    (h : d.get? k' = some w) : (setDefault d k v).get? k' = some w := by
  unfold setDefault
  split
  · exact h
  · rename_i hc
    have hne : k' ≠ k := by
      rintro rfl
      exact hc (by simp [Dict.contains, h])
    rw [Dict.get?_set_of_ne _ _ hne, h]

/-- What a dictionary holds after a default was set: what it held, or the default. -/
theorem get?_setDefault {d : Dict T} {k k' : String} {v w : T}
    (h : (setDefault d k v).get? k' = some w) : d.get? k' = some w ∨ w = v := by
  unfold setDefault at h
  split at h
  · exact .inl h
  · rw [Dict.get?_set] at h
    split at h
    · exact .inr (Option.some.inj h).symm
    · exact .inl h

/-- A key has a value once its default is set. -/
theorem setDefault_isSome (d : Dict T) (k : String) (v : T) :
    ∃ w, (setDefault d k v).get? k = some w := by
  unfold setDefault
  split
  · rename_i hc
    exact Option.isSome_iff_exists.mp hc
  · exact ⟨v, Dict.get?_set_self d k v⟩

section Order

variable [LinearOrder T]

/-! ### The order -/

/-- The last sequence number heard on the coordinator's channel. -/
def coordinatorSeq (guard : DisarmGuard T) : ℤ :=
  (guard.coordinator.map CoordinatorMark.seq).getD (-1)

/-- A later guard: what was frozen is the same, frozen deadlines stay, the queue budget
has not grown, no number went backwards, and a regressed clock stays regressed. -/
structure GuardLe (guard later : DisarmGuard T) : Prop where
  t0 : later.t0 = guard.t0
  jobDeadline : later.jobDeadline = guard.jobDeadline
  stepBudgets : later.stepBudgets = guard.stepBudgets
  stepDeadlines : ∀ {key d}, guard.stepDeadlines.get? key = some d →
    later.stepDeadlines.get? key = some d
  queueRemaining : later.queueRemaining ≤ guard.queueRemaining
  seq : guard.seq ≤ later.seq
  coordinatorSeq : coordinatorSeq guard ≤ coordinatorSeq later
  progressSeq : guard.progressSeq ≤ later.progressSeq
  clockRegressed : guard.clockRegressed = true → later.clockRegressed = true

/-- Every guard is later than itself. -/
theorem GuardLe.refl (guard : DisarmGuard T) : GuardLe guard guard :=
  ⟨rfl, rfl, rfl, id, le_rfl, le_rfl, le_rfl, le_rfl, id⟩

/-- Later than later is later. -/
theorem GuardLe.trans {a b c : DisarmGuard T} (h : GuardLe a b) (h' : GuardLe b c) :
    GuardLe a c :=
  ⟨h'.t0.trans h.t0, h'.jobDeadline.trans h.jobDeadline,
    h'.stepBudgets.trans h.stepBudgets, fun hd => h'.stepDeadlines (h.stepDeadlines hd),
    h'.queueRemaining.trans h.queueRemaining, h.seq.trans h'.seq,
    h.coordinatorSeq.trans h'.coordinatorSeq, h.progressSeq.trans h'.progressSeq,
    fun hc => h'.clockRegressed (h.clockRegressed hc)⟩

/-- Moving the server time leads to a later guard. -/
theorem GuardLe.setServerAt {guard later : DisarmGuard T} {now : T}
    (h : GuardLe { guard with lastServerAt := now } later) : GuardLe guard later :=
  ⟨h.t0, h.jobDeadline, h.stepBudgets, h.stepDeadlines, h.queueRemaining, h.seq,
    h.coordinatorSeq, h.progressSeq, h.clockRegressed⟩

/-- The ceiling of the current step is at most the job's. -/
theorem stepCeiling_le (guard : DisarmGuard T) : stepCeiling guard ≤ guard.jobDeadline := by
  unfold stepCeiling
  split
  · exact min_le_left ..
  · exact le_rfl

end Order

/-- Progress touches the progress number and its time only. -/
theorem acceptProgress_eq (guard : DisarmGuard T) (progress : PyVal) (now : T) :
    ∃ p seen, guard.progressSeq ≤ p ∧
      acceptProgress guard progress now =
        { guard with progressSeq := p, progressSeenAt := seen } := by
  unfold acceptProgress
  split
  · rename_i p
    split
    · rename_i h
      exact ⟨p, some now, h.2.le, rfl⟩
    · exact ⟨_, _, le_rfl, rfl⟩
  · exact ⟨_, _, le_rfl, rfl⟩

variable [Ring T] [LinearOrder T]

/-! ### Events -/

/-- What happens to a stored guard: an item of evidence, a new owner token after a
recovery, a read by a caller that may write. -/
inductive GuardEvent (T : Type) where
  | receive (evidence : PyDict) (now : T) (viaCoordinator : Bool)
  | rebind (fencingToken agentInstanceId : String) (bootId : Option String)
  | read (now : T)

/-- The guard after an event; evidence that raises leaves it as it was. -/
def guardStep (guard : DisarmGuard T) : GuardEvent T → DisarmGuard T
  | .receive evidence now viaCoordinator =>
    match receiveDisarmEvidence guard evidence now viaCoordinator with
    | .ok out => out
    | .error _ => guard
  | .rebind fencingToken agentInstanceId bootId =>
    { guard with
      fencingToken := fencingToken, agentInstanceId := agentInstanceId, bootId := bootId }
  | .read now =>
    if now < guard.lastServerAt then { guard with clockRegressed := true } else guard

/-- The guard after a history of events. -/
def deliver (guard : DisarmGuard T) (events : List (GuardEvent T)) : DisarmGuard T :=
  events.foldl guardStep guard

/-- A history in two parts. -/
theorem deliver_append (guard : DisarmGuard T) (events later : List (GuardEvent T)) :
    deliver guard (events ++ later) = deliver (deliver guard events) later :=
  List.foldl_append

/-! ### The invariant -/

/-- The invariant: the queue budget is not overdrawn, frozen deadlines are below the
ceiling, an executing step has a frozen deadline, and the coordinator's channel is not
ahead of the guard. -/
structure GuardOk (guard : DisarmGuard T) : Prop where
  queue_nonneg : 0 ≤ guard.queueRemaining
  deadline_le : ∀ {key d}, guard.stepDeadlines.get? key = some d → d ≤ guard.jobDeadline
  execute_frozen : guard.phase = some .execute →
    ∃ key d, guard.stepId = some key ∧ guard.stepDeadlines.get? key = some d
  coordinatorSeq_le : coordinatorSeq guard ≤ guard.seq

/-- A fresh guard satisfies the invariant. -/
theorem guardOk_freeze [IsStrictOrderedRing T] (steps : List PyDict) (now : T)
    (abortAt : Option T) (fencingToken agentInstanceId : String) :
    GuardOk (freezeDisarmGuard steps now abortAt fencingToken agentInstanceId) where
  queue_nonneg := Int.cast_nonneg (by decide : (0 : ℤ) ≤ disarmQueueSeconds)
  deadline_le h := by cases h
  execute_frozen h := by cases h
  coordinatorSeq_le := le_rfl

/-! ### One item of evidence -/

/-- Charging the queue never adds to its budget. -/
theorem chargeQueue_le [IsStrictOrderedRing T] {guard : DisarmGuard T}
    (h : 0 ≤ guard.queueRemaining) (now : T) :
    chargeQueue guard now ≤ guard.queueRemaining := by
  unfold chargeQueue
  split
  · exact max_le h (sub_le_self _ (le_max_left ..))
  · exact le_rfl

/-- Charging the queue never overdraws its budget. -/
theorem chargeQueue_nonneg {guard : DisarmGuard T} (h : 0 ≤ guard.queueRemaining)
    (now : T) : 0 ≤ chargeQueue guard now := by
  unfold chargeQueue
  split
  · exact le_max_left ..
  · exact h

/-- The coordinator's number after accepted evidence. -/
theorem coordinatorSeq_acceptEvidence (guard : DisarmGuard T) (seq : ℤ) (key : String)
    (now : T) (via : Bool) :
    coordinatorSeq (acceptEvidence guard seq key now via) =
      if via then seq else coordinatorSeq guard := by
  cases via <;> rfl

/-- Accepted evidence leads to a later guard. -/
theorem guardLe_acceptEvidence [IsStrictOrderedRing T] {guard : DisarmGuard T}
    (hok : GuardOk guard) {seq : ℤ} (hseq : guard.seq < seq) (key : String) (now : T)
    (via : Bool) : GuardLe guard (acceptEvidence guard seq key now via) where
  t0 := rfl
  jobDeadline := rfl
  stepBudgets := rfl
  stepDeadlines := id
  queueRemaining := chargeQueue_le hok.queue_nonneg now
  seq := hseq.le
  coordinatorSeq := by
    rw [coordinatorSeq_acceptEvidence]
    split
    · exact hok.coordinatorSeq_le.trans hseq.le
    · exact le_rfl
  progressSeq := le_rfl
  clockRegressed := id

/-- Accepted evidence keeps the coordinator's channel behind the guard. -/
theorem coordinatorSeq_acceptEvidence_le {guard : DisarmGuard T} (hok : GuardOk guard)
    {seq : ℤ} (hseq : guard.seq < seq) (key : String) (now : T) (via : Bool) :
    coordinatorSeq (acceptEvidence guard seq key now via) ≤ seq := by
  rw [coordinatorSeq_acceptEvidence]
  split
  · exact le_rfl
  · exact hok.coordinatorSeq_le.trans hseq.le

/-- Waiting in the queue leads to a later guard. -/
theorem guardLe_acceptQueue [IsStrictOrderedRing T] {guard : DisarmGuard T}
    (hok : GuardOk guard) {seq : ℤ} (hseq : guard.seq < seq) (key : String) (now : T)
    (via : Bool) : GuardLe guard (acceptQueue guard seq key now via) := by
  obtain ⟨_, _, _, h₄, h₅, h₆, h₇, _, _⟩ := guardLe_acceptEvidence hok hseq key now via
  exact ⟨rfl, rfl, rfl, h₄, h₅, h₆, h₇, le_rfl, id⟩

/-- Waiting in the queue keeps the invariant. -/
theorem guardOk_acceptQueue {guard : DisarmGuard T} (hok : GuardOk guard) {seq : ℤ}
    (hseq : guard.seq < seq) (key : String) (now : T) (via : Bool) :
    GuardOk (acceptQueue guard seq key now via) where
  queue_nonneg := chargeQueue_nonneg hok.queue_nonneg now
  deadline_le := hok.deadline_le
  execute_frozen h := by cases h
  coordinatorSeq_le := coordinatorSeq_acceptEvidence_le hok hseq key now via

/-- Executing a step leads to a later guard. -/
theorem guardLe_acceptExecute [IsStrictOrderedRing T] {guard : DisarmGuard T}
    (hok : GuardOk guard) {seq : ℤ} (hseq : guard.seq < seq) (key : String)
    (step : StepBudget) (progress : PyVal) (now : T) (via : Bool) :
    GuardLe guard (acceptExecute guard seq key step progress now via) := by
  obtain ⟨_, _, _, _, h₅, h₆, h₇, _, _⟩ := guardLe_acceptEvidence hok hseq key now via
  unfold acceptExecute
  obtain ⟨p, seen, hp, heq⟩ := acceptProgress_eq
    { acceptEvidence guard seq key now via with
      phase := some .execute
      stepDeadlines := setDefault guard.stepDeadlines key
        (min (now + (step.seconds : T)) guard.jobDeadline)
      stepStartedAt := setDefault guard.stepStartedAt key now } progress now
  exact heq ▸ ⟨rfl, rfl, rfl, setDefault_get?_of_some, h₅, h₆, h₇, hp, id⟩

/-- Executing a step keeps the invariant: its deadline is frozen below the ceiling. -/
theorem guardOk_acceptExecute {guard : DisarmGuard T} (hok : GuardOk guard) {seq : ℤ}
    (hseq : guard.seq < seq) (key : String) (step : StepBudget) (progress : PyVal) (now : T)
    (via : Bool) : GuardOk (acceptExecute guard seq key step progress now via) := by
  unfold acceptExecute
  obtain ⟨p, seen, -, heq⟩ := acceptProgress_eq
    { acceptEvidence guard seq key now via with
      phase := some .execute
      stepDeadlines := setDefault guard.stepDeadlines key
        (min (now + (step.seconds : T)) guard.jobDeadline)
      stepStartedAt := setDefault guard.stepStartedAt key now } progress now
  refine heq ▸ ⟨chargeQueue_nonneg hok.queue_nonneg now, ?_, ?_,
    coordinatorSeq_acceptEvidence_le hok hseq key now via⟩
  · intro key' d hd
    rcases get?_setDefault hd with hd | rfl
    · exact hok.deadline_le hd
    · exact min_le_right ..
  · intro _
    obtain ⟨d, hd⟩ := setDefault_isSome guard.stepDeadlines key
      (min (now + (step.seconds : T)) guard.jobDeadline)
    exact ⟨key, d, rfl, hd⟩

/-- The invariant does not look at the server time. -/
theorem GuardOk.setServerAt {guard : DisarmGuard T} (hok : GuardOk guard) (now : T) :
    GuardOk { guard with lastServerAt := now } :=
  ⟨hok.queue_nonneg, hok.deadline_le, hok.execute_frozen, hok.coordinatorSeq_le⟩

/-- One item of evidence leads to a later guard. -/
theorem guardLe_receive [IsStrictOrderedRing T] {guard out : DisarmGuard T}
    (hok : GuardOk guard) {evidence : PyDict} {now : T} {via : Bool}
    (h : receiveDisarmEvidence guard evidence now via = .ok out) : GuardLe guard out := by
  rcases receiveDisarmEvidence_eq h with
    ⟨-, rfl⟩ | ⟨-, rfl | ⟨-, ⟨hlt, rfl⟩ | ⟨seq, key, step, hseq, -, rfl | rfl⟩⟩⟩
  · exact ⟨rfl, rfl, rfl, id, le_rfl, le_rfl, le_rfl, le_rfl, fun _ => rfl⟩
  · exact (GuardLe.refl _).setServerAt
  · exact ⟨rfl, rfl, rfl, id, le_rfl, le_rfl, hlt.le, le_rfl, id⟩
  · exact (guardLe_acceptQueue (hok.setServerAt now) hseq key now via).setServerAt
  · exact (guardLe_acceptExecute (hok.setServerAt now) hseq key step _ now via).setServerAt

/-- One item of evidence keeps the invariant. -/
theorem guardOk_receive {guard out : DisarmGuard T} (hok : GuardOk guard)
    {evidence : PyDict} {now : T} {via : Bool}
    (h : receiveDisarmEvidence guard evidence now via = .ok out) : GuardOk out := by
  rcases receiveDisarmEvidence_eq h with
    ⟨-, rfl⟩ | ⟨-, rfl | ⟨-, ⟨hlt, rfl⟩ | ⟨seq, key, step, hseq, -, rfl | rfl⟩⟩⟩
  · exact ⟨hok.queue_nonneg, hok.deadline_le, hok.execute_frozen, hok.coordinatorSeq_le⟩
  · exact hok.setServerAt now
  · exact ⟨hok.queue_nonneg, hok.deadline_le, hok.execute_frozen, le_rfl⟩
  · exact guardOk_acceptQueue (hok.setServerAt now) hseq key now via
  · exact guardOk_acceptExecute (hok.setServerAt now) hseq key step _ now via

/-! ### Histories -/

/-- One event leads to a later guard. -/
theorem guardLe_step [IsStrictOrderedRing T] {guard : DisarmGuard T} (hok : GuardOk guard)
    (event : GuardEvent T) : GuardLe guard (guardStep guard event) := by
  cases event with
  | receive evidence now via =>
      unfold guardStep
      dsimp only
      split
      · rename_i h
        exact guardLe_receive hok h
      · exact GuardLe.refl guard
  | rebind token instanceId boot =>
      exact ⟨rfl, rfl, rfl, id, le_rfl, le_rfl, le_rfl, le_rfl, id⟩
  | read now =>
      unfold guardStep
      dsimp only
      split
      · exact ⟨rfl, rfl, rfl, id, le_rfl, le_rfl, le_rfl, le_rfl, fun _ => rfl⟩
      · exact GuardLe.refl guard

/-- One event keeps the invariant. -/
theorem guardOk_step {guard : DisarmGuard T} (hok : GuardOk guard) (event : GuardEvent T) :
    GuardOk (guardStep guard event) := by
  cases event with
  | receive evidence now via =>
      unfold guardStep
      dsimp only
      split
      · rename_i h
        exact guardOk_receive hok h
      · exact hok
  | rebind token instanceId boot =>
      exact ⟨hok.queue_nonneg, hok.deadline_le, hok.execute_frozen, hok.coordinatorSeq_le⟩
  | read now =>
      unfold guardStep
      dsimp only
      split
      · exact ⟨hok.queue_nonneg, hok.deadline_le, hok.execute_frozen,
          hok.coordinatorSeq_le⟩
      · exact hok

/-- Every history keeps the invariant. -/
theorem guardOk_deliver {guard : DisarmGuard T} (hok : GuardOk guard)
    (events : List (GuardEvent T)) : GuardOk (deliver guard events) := by
  induction events generalizing guard with
  | nil => exact hok
  | cons event rest ih => exact ih (guardOk_step hok event)

/-- Every history leads to a later guard. -/
theorem guardLe_deliver [IsStrictOrderedRing T] {guard : DisarmGuard T}
    (hok : GuardOk guard) (events : List (GuardEvent T)) :
    GuardLe guard (deliver guard events) := by
  induction events generalizing guard with
  | nil => exact GuardLe.refl guard
  | cons event rest ih => exact (guardLe_step hok event).trans (ih (guardOk_step hok event))

/-! ### Deadlines -/

/-- The limit of the phase is at most the ceiling of the current step. -/
theorem phaseLimit_le {guard : DisarmGuard T} {beat : Option T} {timeout seenAt limit : T}
    (h : phaseLimit guard beat timeout = some (seenAt, limit)) :
    limit ≤ stepCeiling guard := by
  unfold phaseLimit at h
  split at h
  · cases h
    exact min_le_left ..
  · split at h
    · cases h
      exact min_le_left ..
    · cases h
  · cases h

/-- A deadline is returned only by a fresh, owned guard within its limits. -/
theorem disarmGuardDeadline_eq_some {guard : DisarmGuard T} {now d timeout : T}
    {owner : Bool} {beat : Option T}
    (h : disarmGuardDeadline (some guard) now owner beat timeout = some d) :
    owner = true ∧ guard.clockRegressed = false ∧ guard.lastServerAt ≤ now ∧ now < d ∧
      ∃ coord seenAt limit, freshMark guard now = some coord ∧
        phaseLimit guard beat timeout = some (seenAt, limit) ∧
        d = min (min limit (seenAt + (disarmEvidenceFreshSeconds : T)))
          (coord + (disarmEvidenceFreshSeconds : T)) := by
  unfold disarmGuardDeadline at h
  dsimp only at h
  split_ifs at h with h₁ h₂
  rw [Bool.or_eq_true, not_or] at h₁
  split at h
  · rename_i coord seenAt limit hcoord hlimit
    split_ifs at h with h₃
    cases h
    exact ⟨by simpa using h₁.1, by simpa using h₁.2, not_lt.mp h₂, h₃, coord, seenAt, limit,
      hcoord, hlimit, rfl⟩
  · cases h

/-- Every deadline is at most the ceiling of the current step. -/
theorem disarmGuardDeadline_le {guard : DisarmGuard T} {now d timeout : T} {owner : Bool}
    {beat : Option T}
    (h : disarmGuardDeadline (some guard) now owner beat timeout = some d) :
    d ≤ stepCeiling guard := by
  obtain ⟨-, -, -, -, coord, seenAt, limit, -, hlimit, rfl⟩ := disarmGuardDeadline_eq_some h
  exact ((min_le_left ..).trans (min_le_left ..)).trans (phaseLimit_le hlimit)

/-- **Monotonicity of a frozen guard.** Freeze a guard and let any history happen to it,
and then any further one. Between the two moments start, ceiling and budgets are the same,
frozen deadlines stay and are below the ceiling, the queue budget stays within its frozen
size and does not grow, and no sequence number goes backwards. Every deadline the guard
then returns is at most the ceiling and, while it executes, at most the frozen deadline of
the step; a guard that was marked as clock-regressed returns none. -/
theorem guard_history_monotone [IsStrictOrderedRing T] (steps : List PyDict) (now : T)
    (abortAt : Option T) (fencingToken agentInstanceId : String)
    (events later : List (GuardEvent T)) :
    let frozen := freezeDisarmGuard steps now abortAt fencingToken agentInstanceId
    let mid := deliver frozen events
    let last := deliver mid later
    GuardLe frozen mid ∧ GuardLe mid last ∧
    (0 ≤ last.queueRemaining ∧ last.queueRemaining ≤ (disarmQueueSeconds : T)) ∧
    (∀ key d, last.stepDeadlines.get? key = some d → d ≤ frozen.jobDeadline) ∧
    (∀ moment owner beat timeout d,
      disarmGuardDeadline (some last) moment owner beat timeout = some d →
      d ≤ frozen.jobDeadline ∧ mid.clockRegressed = false ∧
      (last.phase = some .execute → ∃ key e, last.stepId = some key ∧
        last.stepDeadlines.get? key = some e ∧ d ≤ e)) := by
  intro frozen mid last
  have hok : GuardOk frozen := guardOk_freeze ..
  have hmid : GuardOk mid := guardOk_deliver hok events
  have hlast : GuardOk last := guardOk_deliver hmid later
  have hle : GuardLe frozen mid := guardLe_deliver hok events
  have hle' : GuardLe mid last := guardLe_deliver hmid later
  have hjob : last.jobDeadline = frozen.jobDeadline := hle'.jobDeadline.trans hle.jobDeadline
  refine ⟨hle, hle', ⟨hlast.queue_nonneg, (hle.trans hle').queueRemaining⟩,
    fun key d hd => hjob ▸ hlast.deadline_le hd, ?_⟩
  intro moment owner beat timeout d hd
  have hceil := disarmGuardDeadline_le hd
  refine ⟨hjob ▸ hceil.trans (stepCeiling_le last), ?_, ?_⟩
  · by_contra hreg
    have hlater := hle'.clockRegressed (by simpa using hreg)
    exact Bool.noConfusion (hlater.symm.trans (disarmGuardDeadline_eq_some hd).2.1)
  · intro hphase
    obtain ⟨key, e, hkey, he⟩ := hlast.execute_frozen hphase
    have hstep : stepCeiling last ≤ e := by
      unfold stepCeiling
      simp [hkey, he]
    exact ⟨key, e, hkey, he, hceil.trans hstep⟩

/-- The theorem at work on integer seconds: a step waits, executes, and its deadline is
the one that was frozen. -/
theorem guard_history_monotone_gpu :
    let steps : List PyDict := [[("step_id", .str "s1"),
      ("action", .str "script:gpu_disarm"), ("version", .str "1.0.0"),
      ("timeout_seconds", .int 100)]]
    let evidence : String → ℤ → PyDict := fun phase seq =>
      [("seq", .int seq), ("phase", .str phase), ("step_id", .str "s1"),
        ("script_name", .str "gpu_disarm"), ("script_version", .str "1.0.0"),
        ("progress_seq", .int seq)]
    let last := deliver (deliver (freezeDisarmGuard steps (1000 : ℤ) none "1:1" "a")
      [.receive (evidence "queue" 0) 1010 true])
      [.receive (evidence "execute" 1) 1030 true]
    last.queueRemaining = 7180 ∧ last.stepDeadlines.get? "s1" = some 1130 ∧
      disarmGuardDeadline (some last) 1040 true (some 1035) 60 = some 1090 ∧
      (1090 : ℤ) ≤ 1000 + 7300 := by
  intro steps evidence last
  have hd : disarmGuardDeadline (some last) 1040 true (some 1035) 60 = some 1090 := by decide
  have h := (guard_history_monotone steps (1000 : ℤ) none "1:1" "a"
    [.receive (evidence "queue" 0) 1010 true]
    [.receive (evidence "execute" 1) 1030 true]).2.2.2.2 1040 true (some 1035) 60 1090 hd
  have hceil : (freezeDisarmGuard steps (1000 : ℤ) none "1:1" "a").jobDeadline =
      1000 + 7300 := by decide
  exact ⟨by decide, by decide, hd, hceil ▸ h.1⟩

end StabilityPlatform
