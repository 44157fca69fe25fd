import StabilityPlatform.Contract.GuardHistory

/-!
# Two readings of a disarm guard

The reapers ask until when a guard protects its job; the projection of a device shows when the
guard expires. Both read the guard as it is stored, where any field the writer had no reason to
write may be missing, and both combine the ceiling of the job, the deadline of the step, the
limits of the phase and the freshness of the coordinator.

## Main results

* `disarmGuardDeadline_stored`, `disarmGuardExpiry_stored`: read on a guard the rules of the
  contract lead to, these are the readings of the contract.
* `guard_reads_agree`: the two readings agree on every stored guard.
-/

namespace StabilityPlatform

open Lib

/-- A stored guard: the fields both readings use, each missing until it is written. -/
structure StoredGuard (T : Type) where
  t0 : T
  jobDeadline : T
  lastServerAt : T
  firstServerAt : Option T
  coordinatorSeenAt : Option T
  phase : Option String
  stepId : Option String
  stepDeadlines : Dict T
  stepStartedAt : Dict T
  queueSeenAt : Option T
  queueDeadline : Option T
  progressSeenAt : Option T
  reason : Option String

variable {T : Type} [Ring T] [LinearOrder T]

namespace StoredGuard

/-- Whether the clock was seen to go back. -/
def clockRegressed (guard : StoredGuard T) : Bool := guard.reason == some "clock_regressed"

/-- The frozen deadline of the current step, if it started. -/
def stepDeadline (guard : StoredGuard T) : Option T := guard.stepId.bind guard.stepDeadlines.get?

/-- The smaller of a deadline and another one, if there is another one. -/
def cutAt (deadline : T) (other : Option T) : T := other.elim deadline (min deadline)

omit [Ring T] in
@[simp] theorem cutAt_none (deadline : T) : cutAt deadline none = deadline := rfl

omit [Ring T] in
@[simp] theorem cutAt_some (deadline other : T) :
    cutAt deadline (some other) = min deadline other := rfl

/-- The evidence the current phase rests on, which may be missing, and the deadline cut at what
the phase sets. -/
def phaseReading (guard : StoredGuard T) (deadline : T) (executionHeartbeatAt : Option T)
    (executionHeartbeatTimeoutSeconds : T) : Option (Option T × T) :=
  if guard.phase = some "queue" then
    some (guard.queueSeenAt, cutAt deadline guard.queueDeadline)
  else if guard.phase = some "execute" then
    executionHeartbeatAt.map fun beat =>
      (guard.progressSeenAt, min deadline (beat + executionHeartbeatTimeoutSeconds))
  else none

/-- The one protection rule, on the stored guard. -/
def disarmGuardDeadline (guard : StoredGuard T) (now : T) (ownerValid : Bool)
    (executionHeartbeatAt : Option T) (executionHeartbeatTimeoutSeconds : T) : Option T :=
  let fresh := (disarmEvidenceFreshSeconds : T)
  if !ownerValid || guard.clockRegressed then none
  else if now < guard.lastServerAt then none
  else
    match guard.coordinatorSeenAt with
    | none => none
    | some coord =>
      if 0 ≤ now - coord ∧ now - coord < fresh then
        match guard.phaseReading (cutAt guard.jobDeadline guard.stepDeadline)
            executionHeartbeatAt executionHeartbeatTimeoutSeconds with
        | some (some seen, deadline) =>
          let deadline := min (min deadline (seen + fresh)) (coord + fresh)
          if now < deadline then some deadline else none
        | _ => none
      else none

/-- The next moment at which a limit of the phase is reached, on the stored guard. -/
def disarmGuardExpiry (guard : StoredGuard T) (executionHeartbeatDeadline : Option T) : T :=
  let fresh := (disarmEvidenceFreshSeconds : T)
  let deadline := cutAt guard.jobDeadline guard.stepDeadline
  let deadline :=
    if guard.phase = some "queue" then
      min (cutAt deadline guard.queueDeadline)
        (guard.queueSeenAt.getD guard.lastServerAt + fresh)
    else if guard.phase = some "execute" then
      let started := (guard.stepId.bind guard.stepStartedAt.get?).getD guard.t0
      cutAt (min deadline (guard.progressSeenAt.getD started + fresh)) executionHeartbeatDeadline
    else deadline
  let coord := guard.coordinatorSeenAt.getD (guard.firstServerAt.getD guard.t0)
  if guard.clockRegressed then guard.t0 else min deadline (coord + fresh)

end StoredGuard

/-! ### Guards of the contract -/

/-- The phase under its stored name. -/
def GuardPhase.stored : GuardPhase T → String
  | .queue .. => "queue"
  | .execute => "execute"

/-- When waiting in the queue was last reported. -/
def GuardPhase.queueSeenAt? : GuardPhase T → Option T
  | .queue _ _ seenAt => some seenAt
  | .execute => none

/-- When the queue budget runs out. -/
def GuardPhase.queueDeadline? : GuardPhase T → Option T
  | .queue _ deadline _ => some deadline
  | .execute => none

/-- A guard of the contract as it is stored; what the queue phase left behind is not read in
another phase. -/
def DisarmGuard.stored (guard : DisarmGuard T) : StoredGuard T where
  t0 := guard.t0
  jobDeadline := guard.jobDeadline
  lastServerAt := guard.lastServerAt
  firstServerAt := some guard.firstServerAt
  coordinatorSeenAt := guard.coordinator.map CoordinatorMark.seenAt
  phase := guard.phase.map GuardPhase.stored
  stepId := guard.stepId
  stepDeadlines := guard.stepDeadlines
  stepStartedAt := guard.stepStartedAt
  queueSeenAt := guard.phase.bind GuardPhase.queueSeenAt?
  queueDeadline := guard.phase.bind GuardPhase.queueDeadline?
  progressSeenAt := guard.progressSeenAt
  reason := if guard.clockRegressed then some "clock_regressed" else none

namespace StoredGuard

omit [Ring T] [LinearOrder T] in
/-- A stored guard remembers that the clock went back. -/
@[simp] theorem clockRegressed_stored (guard : DisarmGuard T) :
    guard.stored.clockRegressed = guard.clockRegressed := by
  cases h : guard.clockRegressed <;> simp [clockRegressed, DisarmGuard.stored, h]

omit [Ring T] in
/-- The ceiling of the current step, on the stored guard. -/
theorem cutAt_stored (guard : DisarmGuard T) :
    cutAt guard.stored.jobDeadline guard.stored.stepDeadline = stepCeiling guard := by
  rw [stepCeiling]
  change (guard.stepId.bind guard.stepDeadlines.get?).elim _ _ = _
  cases guard.stepId.bind guard.stepDeadlines.get? <;> rfl

/-- What the phase of the contract rests on and sets, on the stored guard: where one names both,
so does the other. -/
theorem phaseReading_stored (guard : DisarmGuard T) (beat : Option T) (timeout seen limit : T) :
    guard.stored.phaseReading (stepCeiling guard) beat timeout = some (some seen, limit) ↔
      phaseLimit guard beat timeout = some (seen, limit) := by
  rw [phaseLimit.eq_def, phaseReading]
  cases hphase : guard.phase with
  | none => simp [DisarmGuard.stored, hphase]
  | some phase =>
      cases phase with
      | queue accountedAt deadline seenAt =>
          simp [DisarmGuard.stored, hphase, GuardPhase.stored, GuardPhase.queueSeenAt?,
            GuardPhase.queueDeadline?, cutAt]
      | execute =>
          cases beat with
          | none => simp [DisarmGuard.stored, hphase, GuardPhase.stored]
          | some at' =>
              cases hseen : guard.progressSeenAt <;>
                simp [DisarmGuard.stored, hphase, GuardPhase.stored, hseen]

/-- **The protection rule of the contract** is the reading of the stored guard. -/
theorem disarmGuardDeadline_stored (guard : DisarmGuard T) (now : T) (owner : Bool)
    (beat : Option T) (timeout : T) :
    guard.stored.disarmGuardDeadline now owner beat timeout =
      StabilityPlatform.disarmGuardDeadline (some guard) now owner beat timeout := by
  have hread := phaseReading_stored guard beat timeout
  have hserver : guard.stored.lastServerAt = guard.lastServerAt := rfl
  have hcoord : guard.stored.coordinatorSeenAt = guard.coordinator.map CoordinatorMark.seenAt := rfl
  rw [disarmGuardDeadline, StabilityPlatform.disarmGuardDeadline, clockRegressed_stored,
    cutAt_stored, freshMark, hserver, hcoord]
  dsimp only
  refine if_congr Iff.rfl rfl (if_congr Iff.rfl rfl ?_)
  cases guard.coordinator with
  | none => rfl
  | some mark =>
      dsimp only [Option.map_some]
      by_cases hfresh : 0 ≤ now - mark.seenAt ∧
          now - mark.seenAt < (disarmEvidenceFreshSeconds : T)
      · rw [if_pos hfresh, if_pos hfresh]
        cases hlimit : phaseLimit guard beat timeout with
        | none =>
            split
            · rename_i seen limit heq
              rw [(hread seen limit).mp heq] at hlimit
              cases hlimit
            · rfl
        | some p => rw [(hread p.1 p.2).mpr hlimit]
      · rw [if_neg hfresh, if_neg hfresh]

/-- **The expiry of the contract** is the reading of the stored guard. -/
theorem disarmGuardExpiry_stored (guard : DisarmGuard T) (beat : Option T) :
    guard.stored.disarmGuardExpiry beat = StabilityPlatform.disarmGuardExpiry guard beat := by
  rw [disarmGuardExpiry, StabilityPlatform.disarmGuardExpiry, clockRegressed_stored,
    cutAt_stored]
  cases hphase : guard.phase with
  | none => cases hc : guard.coordinator <;> simp [DisarmGuard.stored, hphase, hc]
  | some phase =>
      cases phase with
      | queue accountedAt deadline seenAt =>
          cases hc : guard.coordinator <;>
            simp [DisarmGuard.stored, hphase, hc, GuardPhase.stored, GuardPhase.queueSeenAt?,
              GuardPhase.queueDeadline?, cutAt]
      | execute =>
          cases hc : guard.coordinator <;> cases beat <;>
            simp [DisarmGuard.stored, hphase, hc, GuardPhase.stored, cutAt]

end StoredGuard

/-! ### Agreement -/

/-- What a protected stored guard looks like. -/
theorem StoredGuard.disarmGuardDeadline_eq_some {guard : StoredGuard T} {now d : T}
    {owner : Bool} {beat : Option T} {timeout : T}
    (h : guard.disarmGuardDeadline now owner beat timeout = some d) :
    guard.clockRegressed = false ∧ now < d ∧
      ∃ coord seen limit, guard.coordinatorSeenAt = some coord ∧
        guard.phaseReading (cutAt guard.jobDeadline guard.stepDeadline) beat timeout =
          some (some seen, limit) ∧
        d = min (min limit (seen + (disarmEvidenceFreshSeconds : T)))
          (coord + (disarmEvidenceFreshSeconds : T)) := by
  rw [disarmGuardDeadline] at h
  dsimp only at h
  split at h
  · cases h
  · rename_i hvalid
    split at h
    · cases h
    · split at h
      · cases h
      · rename_i coord hcoord
        split at h
        · split at h
          · rename_i seen limit hread
            split at h
            · rename_i hlt
              cases h
              refine ⟨?_, hlt, coord, seen, limit, hcoord, hread, rfl⟩
              rw [Bool.or_eq_true, not_or] at hvalid
              exact Bool.eq_false_iff.mpr hvalid.2
            · cases h
          · cases h
        · cases h

/-- **The two readings agree.** On every stored guard, at every time and for every owner and
heartbeat: where the guard protects the job until a moment, it expires at that moment, read with
the heartbeat's deadline; and where it has expired, read with that deadline or without one, it
does not protect the job. -/
theorem guard_reads_agree (guard : StoredGuard T) (now : T) (owner : Bool) (beat : Option T)
    (timeout : T) :
    (∀ d, guard.disarmGuardDeadline now owner beat timeout = some d →
      guard.disarmGuardExpiry (beat.map (· + timeout)) = d) ∧
    ∀ heartbeatDeadline ∈ [none, beat.map (· + timeout)],
      guard.disarmGuardExpiry heartbeatDeadline ≤ now →
        guard.disarmGuardDeadline now owner beat timeout = none := by
  have hexpiry : ∀ d, guard.disarmGuardDeadline now owner beat timeout = some d →
      now < d ∧ guard.disarmGuardExpiry (beat.map (· + timeout)) = d ∧
        d ≤ guard.disarmGuardExpiry none := by
    intro d hd
    obtain ⟨hreg, hlt, coord, seen, limit, hcoord, hread, rfl⟩ :=
      StoredGuard.disarmGuardDeadline_eq_some hd
    refine ⟨hlt, ?_⟩
    rw [StoredGuard.disarmGuardExpiry, StoredGuard.disarmGuardExpiry, hreg, hcoord]
    rw [StoredGuard.phaseReading] at hread
    split at hread
    · rename_i hqueue
      obtain ⟨hseen, rfl⟩ := Prod.mk.inj (Option.some.inj hread)
      simp only [hqueue, hseen, if_true, Bool.false_eq_true, if_false, Option.getD_some, le_refl,
        and_self]
    · split at hread
      · rename_i hexec
        obtain ⟨at', rfl, hpair⟩ := Option.map_eq_some_iff.mp hread
        obtain ⟨hseen, rfl⟩ := Prod.mk.inj hpair
        simp only [hexec, hseen, Option.some.injEq, String.reduceEq, if_true, Bool.false_eq_true,
          if_false, Option.getD_some, Option.map_some, StoredGuard.cutAt_some,
          StoredGuard.cutAt_none]
        exact ⟨congrArg (min · _) (min_right_comm ..),
          min_le_min_right _ (min_le_min_right _ (min_le_left ..))⟩
      · cases hread
  refine ⟨fun d hd => (hexpiry d hd).2.1, fun deadline hmem hle => ?_⟩
  cases hd : guard.disarmGuardDeadline now owner beat timeout with
  | none => rfl
  | some d =>
      obtain ⟨hlt, heq, hnone⟩ := hexpiry d hd
      rcases List.mem_cons.mp hmem with rfl | hmem
      · exact absurd (hlt.trans_le (hnone.trans hle)) (lt_irrefl _)
      · obtain rfl := List.mem_singleton.mp hmem
        exact absurd (hlt.trans_le (heq.symm.le.trans hle)) (lt_irrefl _)

end StabilityPlatform
