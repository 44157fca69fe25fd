import StabilityPlatform.Contract.DeviceReturn
import StabilityPlatform.Lib.Dict

/-!
# The disarm guard

While a job disarms its device the control plane protects it from the reapers. The guard
is the frozen record of how long: the start, the ceiling of the job, a budget for waiting
in the queue and one for each step. Evidence from the agent advances it, on two channels
and under strictly increasing sequence numbers; one rule turns guard and clocks into the
moment the protection ends.

Times are elements of an ordered ring, so that the functions run on rationals and can be
measured over the reals.

## Main results

* `receiveDisarmEvidence_eq`: a received item of evidence is one of five things.
-/

namespace StabilityPlatform

open Lib

/-- Seconds all queueing of a job may be protected for. -/
def disarmQueueSeconds : ℤ := 7200

/-- The longest a disarming job may be protected. -/
def disarmJobMaxSeconds : ℤ := 86400

/-- How long an item of evidence stays fresh. -/
def disarmEvidenceFreshSeconds : ℤ := 60

/-- The budget of a step that names none. -/
def legacyExecutionSeconds : ℤ := 300

/-- What is frozen about a teardown step. -/
structure StepBudget where
  seconds : ℤ
  reason : Option String
  scriptName : String
  scriptVersion : String
  packageSha256 : PyVal

/-- What the guard remembers of the phase its last accepted evidence reported. The queue
data are written together on every entry and read in the queue phase only. -/
inductive GuardPhase (T : Type) where
  | queue (accountedAt deadline seenAt : T)
  | execute
  deriving DecidableEq

/-- When the coordinator was last heard of, and under which sequence number. -/
structure CoordinatorMark (T : Type) where
  seenAt : T
  seq : ℤ
  deriving DecidableEq

/-- The guard of a disarming job. -/
structure DisarmGuard (T : Type) where
  t0 : T
  jobDeadline : T
  queueRemaining : T
  stepBudgets : Dict StepBudget
  stepDeadlines : Dict T
  stepStartedAt : Dict T
  firstServerAt : T
  seq : ℤ
  progressSeq : ℤ
  fencingToken : String
  agentInstanceId : String
  bootId : Option String
  lastServerAt : T
  clockRegressed : Bool
  coordinator : Option (CoordinatorMark T)
  phase : Option (GuardPhase T)
  stepId : Option String
  progressSeenAt : Option T

variable {T : Type} [Ring T] [LinearOrder T]

/-! ### Freezing -/

/-- The execution budget of a step, and why it is a default. -/
def disarmExecutionBudget (step : PyDict) : ℤ × Option String :=
  match PyDict.get step "timeout_seconds" with
  | .int raw => if 0 < raw then (raw, none) else
      (legacyExecutionSeconds, some "legacy_missing_wall_clock")
  | _ => (legacyExecutionSeconds, some "legacy_missing_wall_clock")

/-- The name a step's budget is kept under. -/
def budgetKey (step : PyDict) : String :=
  ((PyDict.get step "step_id").orElse (.str (scriptNameFromStep step))).pyStr

/-- The budget frozen for a step. -/
def stepBudgetOf (step : PyDict) : StepBudget where
  seconds := (disarmExecutionBudget step).1
  reason := (disarmExecutionBudget step).2
  scriptName := scriptNameFromStep step
  scriptVersion := stepVersionOf step
  packageSha256 := PyDict.get step "package_sha256"

/-- Whether a step was switched off. -/
def stepDisabled (step : PyDict) : Bool := (PyDict.get step "enabled") matches .bool false

/-- The budgets of the enabled steps; a later step replaces one of the same name. -/
def freezeBudgets (steps : List PyDict) : Dict StepBudget :=
  (steps.filter fun step => !stepDisabled step).foldl
    (fun budgets step => budgets.set (budgetKey step) (stepBudgetOf step)) Dict.empty

/-- The seconds of all budgets. -/
def totalSeconds (budgets : Dict StepBudget) : ℤ :=
  (budgets.items.map fun p => p.2.seconds).sum

/-- The seconds a job with these budgets may be protected. -/
def jobCeiling (budgets : Dict StepBudget) : ℤ :=
  min (disarmQueueSeconds + totalSeconds budgets) disarmJobMaxSeconds

/-- Freeze the guard: start, ceiling and budgets, once. -/
def freezeDisarmGuard (steps : List PyDict) (now : T) (abortAt : Option T)
    (fencingToken agentInstanceId : String) : DisarmGuard T :=
  let budgets := freezeBudgets steps
  let t0 := match abortAt with
    | some abortAt => min now abortAt
    | none => now
  { t0 := t0
    jobDeadline := t0 + (jobCeiling budgets : T)
    queueRemaining := (disarmQueueSeconds : T)
    stepBudgets := budgets
    stepDeadlines := Dict.empty
    stepStartedAt := Dict.empty
    firstServerAt := now
    seq := -1
    progressSeq := -1
    fencingToken := fencingToken
    agentInstanceId := agentInstanceId
    bootId := none
    lastServerAt := now
    clockRegressed := false
    coordinator := none
    phase := none
    stepId := none
    progressSeenAt := none }

/-! ### Evidence -/

/-- `d.setdefault(k, v)`. -/
def setDefault (d : Dict T) (k : String) (v : T) : Dict T :=
  if d.contains k then d else d.set k v

/-- Whether evidence names the script, version and package that were frozen. -/
def matchesBudget (evidence : PyDict) (step : StepBudget) : Bool :=
  (PyDict.get evidence "script_name").pyEq (.str step.scriptName) &&
    (PyDict.get evidence "script_version").pyEq (.str step.scriptVersion) &&
    (PyDict.get evidence "package_sha256").pyEq step.packageSha256

/-- The queue budget left once the time since the last accounting is charged. -/
def chargeQueue (guard : DisarmGuard T) (now : T) : T :=
  match guard.phase with
  | some (.queue accountedAt _ _) =>
    max 0 (guard.queueRemaining - max 0 (now - accountedAt))
  | _ => guard.queueRemaining

/-- A replay of the last sequence number counts once, on the coordinator's channel. -/
def replayCoordinator (guard : DisarmGuard T) (seq : PyVal) (now : T)
    (viaCoordinator : Bool) : DisarmGuard T :=
  if viaCoordinator && seq.pyEq (.int guard.seq) &&
      decide ((guard.coordinator.map CoordinatorMark.seq).getD (-1) < guard.seq) then
    { guard with coordinator := some ⟨now, guard.seq⟩ }
  else guard

/-- What every accepted item of evidence writes: the queue time it closes, its sequence
number and step, and the coordinator's mark. -/
def acceptEvidence (guard : DisarmGuard T) (seq : ℤ) (key : String) (now : T)
    (viaCoordinator : Bool) : DisarmGuard T :=
  { guard with
    queueRemaining := chargeQueue guard now
    progressSeenAt := if guard.stepId = some key then guard.progressSeenAt else none
    seq := seq
    stepId := some key
    coordinator := if viaCoordinator then some ⟨now, seq⟩ else guard.coordinator }

/-- Accepted evidence of waiting in the queue. -/
def acceptQueue (guard : DisarmGuard T) (seq : ℤ) (key : String) (now : T)
    (viaCoordinator : Bool) : DisarmGuard T :=
  let out := acceptEvidence guard seq key now viaCoordinator
  { out with
    phase := some (.queue now (min (now + out.queueRemaining) out.jobDeadline) now) }

/-- A new progress number proves progress. -/
def acceptProgress (guard : DisarmGuard T) (progress : PyVal) (now : T) : DisarmGuard T :=
  match progress with
  | .int p =>
    if 0 < p ∧ guard.progressSeq < p then
      { guard with progressSeq := p, progressSeenAt := some now }
    else guard
  | _ => guard

/-- Accepted evidence of executing a step: its deadline is frozen at the first. -/
def acceptExecute (guard : DisarmGuard T) (seq : ℤ) (key : String) (step : StepBudget)
    (progress : PyVal) (now : T) (viaCoordinator : Bool) : DisarmGuard T :=
  let out := acceptEvidence guard seq key now viaCoordinator
  acceptProgress
    { out with
      phase := some .execute
      stepDeadlines :=
        setDefault out.stepDeadlines key (min (now + (step.seconds : T)) out.jobDeadline)
      stepStartedAt := setDefault out.stepStartedAt key now } progress now

/-- The budget of the step evidence names. Only a string can be the name of one; what has
no hash cannot even be looked up. -/
def budgetOfEvidence (guard : DisarmGuard T) (evidence : PyDict) :
    Except PyError (Option (String × StepBudget)) :=
  match PyDict.get evidence "step_id" with
  | .str key => .ok ((guard.stepBudgets.get? key).map fun step => (key, step))
  | v => if v.isHashable then .ok none else .error .typeError

/-- Evidence under a new sequence number. -/
def receiveNewEvidence (guard : DisarmGuard T) (evidence : PyDict) (seq : ℤ) (now : T)
    (viaCoordinator : Bool) : Except PyError (DisarmGuard T) := do
  let phase := PyDict.get evidence "phase"
  match ← budgetOfEvidence guard evidence with
  | none => return guard
  | some (key, step) =>
    if !phase.isOneOf ["queue", "execute"] then return guard
    else if !matchesBudget evidence step then return guard
    else if phase.isOneOf ["queue"] then
      return acceptQueue guard seq key now viaCoordinator
    else
      return acceptExecute guard seq key step (PyDict.get evidence "progress_seq") now
        viaCoordinator

/-- Receive an item of evidence at a server time. -/
def receiveDisarmEvidence (guard : DisarmGuard T) (evidence : PyDict) (now : T)
    (viaCoordinator : Bool) : Except PyError (DisarmGuard T) :=
  if now < guard.lastServerAt then .ok { guard with clockRegressed := true }
  else
    let out := { guard with lastServerAt := now }
    if out.clockRegressed then .ok out
    else match PyDict.get evidence "seq" with
      | .int seq =>
        if seq ≤ out.seq then .ok (replayCoordinator out (.int seq) now viaCoordinator)
        else receiveNewEvidence out evidence seq now viaCoordinator
      | v => .ok (replayCoordinator out v now viaCoordinator)

/-! ### Deadlines -/

/-- Whether the coordinator's mark is fresh. -/
def freshMark (guard : DisarmGuard T) (now : T) : Option T :=
  match guard.coordinator with
  | some mark =>
    if 0 ≤ now - mark.seenAt ∧ now - mark.seenAt < (disarmEvidenceFreshSeconds : T) then
      some mark.seenAt
    else none
  | none => none

/-- The job's ceiling, cut at the frozen deadline of the current step. -/
def stepCeiling (guard : DisarmGuard T) : T :=
  match guard.stepId.bind guard.stepDeadlines.get? with
  | some deadline => min guard.jobDeadline deadline
  | none => guard.jobDeadline

/-- The evidence the current phase rests on, and the deadline it sets. -/
def phaseLimit (guard : DisarmGuard T) (executionHeartbeatAt : Option T)
    (executionHeartbeatTimeoutSeconds : T) : Option (T × T) :=
  match guard.phase with
  | some (.queue _ deadline seenAt) => some (seenAt, min (stepCeiling guard) deadline)
  | some .execute =>
    match executionHeartbeatAt, guard.progressSeenAt with
    | some beat, some seenAt =>
      some (seenAt, min (stepCeiling guard) (beat + executionHeartbeatTimeoutSeconds))
    | _, _ => none
  | none => none

/-- The one protection rule: until when the guard protects the job, if it does. -/
def disarmGuardDeadline (guard : Option (DisarmGuard T)) (now : T) (ownerValid : Bool)
    (executionHeartbeatAt : Option T) (executionHeartbeatTimeoutSeconds : T) : Option T :=
  match guard with
  | none => none
  | some guard =>
    if !ownerValid || guard.clockRegressed then none
    else if now < guard.lastServerAt then none
    else
      match freshMark guard now,
          phaseLimit guard executionHeartbeatAt executionHeartbeatTimeoutSeconds with
      | some coord, some (seenAt, limit) =>
        let deadline := min (min limit (seenAt + (disarmEvidenceFreshSeconds : T)))
          (coord + (disarmEvidenceFreshSeconds : T))
        if now < deadline then some deadline else none
      | _, _ => none

/-- The next moment at which the guard may stop protecting, for the candidates' scan. -/
def disarmGuardExpiry (guard : DisarmGuard T) (executionHeartbeatDeadline : Option T) : T :=
  let fresh := (disarmEvidenceFreshSeconds : T)
  let phaseDeadline := match guard.phase with
    | some (.queue _ deadline seenAt) =>
      min (min (stepCeiling guard) deadline) (seenAt + fresh)
    | some .execute =>
      let started := (guard.stepId.bind guard.stepStartedAt.get?).getD guard.t0
      let limit := min (stepCeiling guard) (guard.progressSeenAt.getD started + fresh)
      match executionHeartbeatDeadline with
      | some beat => min limit beat
      | none => limit
    | none => stepCeiling guard
  let coord := (guard.coordinator.map CoordinatorMark.seenAt).getD guard.firstServerAt
  if guard.clockRegressed then guard.t0 else min phaseDeadline (coord + fresh)

/-! ### What an item of evidence can do -/

/-- **One item of evidence.** It marks the clock as regressed, or it is received at its
server time, and then it only moves that time, or renews the coordinator's mark, or is
accepted as waiting or as executing under a larger sequence number. -/
theorem receiveDisarmEvidence_eq {guard out : DisarmGuard T} {evidence : PyDict} {now : T}
    {viaCoordinator : Bool}
    (h : receiveDisarmEvidence guard evidence now viaCoordinator = .ok out) :
    (now < guard.lastServerAt ∧ out = { guard with clockRegressed := true }) ∨
    (guard.lastServerAt ≤ now ∧
      (out = { guard with lastServerAt := now } ∨
      (guard.clockRegressed = false ∧
        (((guard.coordinator.map CoordinatorMark.seq).getD (-1) < guard.seq ∧
          out = { guard with lastServerAt := now, coordinator := some ⟨now, guard.seq⟩ }) ∨
        ∃ seq key step, guard.seq < seq ∧ guard.stepBudgets.get? key = some step ∧
          (out = acceptQueue { guard with lastServerAt := now } seq key now viaCoordinator ∨
          out = acceptExecute { guard with lastServerAt := now } seq key step
            (PyDict.get evidence "progress_seq") now viaCoordinator))))) := by
  unfold receiveDisarmEvidence at h
  split at h
  · rename_i hlt
    cases h
    exact .inl ⟨hlt, rfl⟩
  · rename_i hlt
    refine .inr ⟨not_lt.mp hlt, ?_⟩
    dsimp only at h
    split at h
    · cases h
      exact .inl rfl
    · rename_i hreg
      have hreg' : guard.clockRegressed = false := by simpa using hreg
      have hreplay : ∀ v, replayCoordinator { guard with lastServerAt := now } v now
            viaCoordinator = out →
          out = { guard with lastServerAt := now } ∨
          ((guard.coordinator.map CoordinatorMark.seq).getD (-1) < guard.seq ∧
            out = { guard with lastServerAt := now,
                               coordinator := some ⟨now, guard.seq⟩ }) := by
        rintro v rfl
        unfold replayCoordinator
        split
        · rename_i hc
          simp only [Bool.and_eq_true, decide_eq_true_eq] at hc
          exact .inr ⟨hc.2, rfl⟩
        · exact .inl rfl
      split at h
      · rename_i seq hseq
        split at h
        · rcases hreplay _ (Except.ok.inj h) with h' | h'
          · exact .inl h'
          · exact .inr ⟨hreg', .inl h'⟩
        · rename_i hle
          unfold receiveNewEvidence at h
          cases hb : budgetOfEvidence { guard with lastServerAt := now } evidence with
          | error e => rw [hb] at h; cases h
          | ok found =>
              rw [hb] at h
              cases found with
              | none => exact .inl (Except.ok.inj h).symm
              | some found =>
                  obtain ⟨key, step⟩ := found
                  have hget : guard.stepBudgets.get? key = some step := by
                    unfold budgetOfEvidence at hb
                    split at hb
                    · simp only [Except.ok.injEq, Option.map_eq_some_iff, Prod.mk.injEq] at hb
                      obtain ⟨s, hs, rfl, rfl⟩ := hb
                      exact hs
                    · split at hb <;> cases hb
                  simp only [bind, Except.bind, pure, Except.pure] at h
                  split at h
                  · exact .inl (Except.ok.inj h).symm
                  · split at h
                    · exact .inl (Except.ok.inj h).symm
                    · refine .inr ⟨hreg', .inr ⟨seq, key, step, not_le.mp hle, hget, ?_⟩⟩
                      split at h
                      · exact .inl (Except.ok.inj h).symm
                      · exact .inr (Except.ok.inj h).symm
      · rcases hreplay _ (Except.ok.inj h) with h' | h'
        · exact .inl h'
        · exact .inr ⟨hreg', .inl h'⟩

end StabilityPlatform
