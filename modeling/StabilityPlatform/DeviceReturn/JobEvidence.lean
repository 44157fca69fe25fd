import StabilityPlatform.DeviceReturn.Discharge
import StabilityPlatform.Lib.Fold
import StabilityPlatform.PlanRun.AbortRequest

/-!
# Evidence of a disarming job

Heartbeats and lease renewals carry evidence of the teardown step a job is at. The control
plane takes it when the job still runs, the sender still owns its lease and the evidence is
well formed; the first evidence freezes the guard of the job.

## Main results

* `guardOwnerValid`: whether the sender owns the job.
* `acceptJobDisarmEvidence_frame`: accepting evidence writes the guard of the job and its two
  clocks, nothing else.
-/

namespace StabilityPlatform

open Lib

/-- How long a host may be silent, in seconds. -/
def hostHeartbeatTimeoutSeconds : ℤ := 300

/-- `datetime.timestamp()`. -/
def Time.timestamp (t : Time) : ℚ := (t : ℚ) / 1000000

/-- Whether the owner a guard names holds the active lease of the job's device, on the host and
boot the device is attached to, and was heard of lately. -/
def guardOwnerValid (db : Db) (job : JobInstance) (now : Time) (guard : DisarmGuard ℚ) : Bool :=
  match db.activeLease job.deviceId with
  | none => false
  | some lease =>
    match db.host? lease.hostId, db.devices.get? lease.deviceId with
    | some host, some device =>
      host.bootId != "" && host.lastAgentInstanceId != "" && lease.jobId == some job.id &&
        lease.leaseType == .job && job.hostId == some lease.hostId &&
        device.hostId == some lease.hostId && lease.fencingToken == guard.fencingToken &&
        lease.agentInstanceId == guard.agentInstanceId &&
        guard.agentInstanceId == host.lastAgentInstanceId && guard.bootId == some host.bootId &&
        decide (now < lease.expiresAt) &&
        host.lastHeartbeat.any fun seen =>
          decide (seen ≤ now ∧ now < seen.addSeconds hostHeartbeatTimeoutSeconds)
    | _, _ => false

section Evidence

variable (manifestPackageSha : String → String → Option String)

/-- The disarm steps a guard is frozen from: all teardown steps, or those of the families the
job has armed when only these will run. -/
def guardSteps (pipelineDef : PyVal) (disarmOnly : Bool) : Except PyError (List PyDict) := do
  let pipeline ← (pipelineDef.orElse (.dict [])).mapping
  let lifecycle ← ((PyDict.get pipeline "lifecycle").orElse (.dict [])).mapping
  let steps ← teardownStepsOf pipelineDef
  if disarmOnly then
    let init ← if PyDict.contains lifecycle "init" then (PyDict.get lifecycle "init").pyIter
      else .ok []
    let footprint := (init.filterMap PyVal.asDict?).filterMap fun s =>
      familyForFootprintScript (scriptNameFromStep s)
    return selectDisarmSteps steps footprint
  else return steps.filterMap PyVal.asDict?

/-- A step with the package its script comes from. -/
def withPackage (step : PyDict) : PyDict :=
  PyDict.set step "package_sha256" (.ofStr? (manifestPackageSha (scriptNameFromStep step)
    (PyDict.get step "version").strOrEmpty))

/-- The guard evidence is received by: the one the job has, or one frozen now. -/
def guardForEvidence (db : Db) (job : JobInstance) (evidence : PyDict)
    (hostId agentInstanceId : String) (now : Time) : Except PyError (DisarmGuard ℚ) :=
  match job.disarmGuard with
  | some guard => .ok guard
  | none => do
    let context := ((db.planRuns.get? job.planRunId).map PlanRun.runContext).getD .null
    let abortAt := (abortReapClock context job.id (some hostId)).map Prod.fst
    let steps ← guardSteps job.pipelineDef
      ((PyDict.get evidence "disarm_only") matches .bool true)
    let guard := freezeDisarmGuard (steps.map (withPackage manifestPackageSha)) now.timestamp
      (abortAt.map Time.timestamp) (PyDict.get evidence "fencing_token").strOrEmpty agentInstanceId
    return { guard with bootId := (db.host? hostId).map Host.bootId }

/-- Whether evidence has the form it must have. -/
def wellFormedEvidence (evidence : PyDict) : Bool :=
  (PyDict.get evidence "protocol").pyEq (.int 1) &&
    (PyDict.get evidence "phase").isOneOf ["queue", "execute"] &&
    match PyDict.get evidence "seq" with
    | .int seq => decide (0 ≤ seq)
    | _ => false

/-- The job with a guard that received evidence; new progress also proves its executor alive. -/
def JobInstance.withGuard (job : JobInstance) (guard : DisarmGuard ℚ) (now : Time) :
    JobInstance :=
  if guard.phase = some .execute ∧ guard.progressSeenAt = some now.timestamp then
    { job with
      disarmGuard := some guard, lastExecutionHeartbeatAt := some now, lastProgressAt := some now }
  else { job with disarmGuard := some guard }

/-- Accept evidence of a disarming job: its row afterwards, or nothing when the evidence does
not count. -/
def acceptJobDisarmEvidence (db : Db) (job : JobInstance) (evidence : PyDict)
    (hostId agentInstanceId : String) (now : Time) (viaCoordinator : Bool) :
    Except PyError (Option JobInstance) :=
  if job.status ≠ .running ∨ job.hostId ≠ some hostId then .ok none
  else if !wellFormedEvidence evidence then .ok none
  else do
    let guard ← guardForEvidence manifestPackageSha db job evidence hostId agentInstanceId now
    let rebound := { guard with
      fencingToken := (PyDict.get evidence "fencing_token").strOrEmpty
      agentInstanceId := agentInstanceId }
    if !guardOwnerValid db job now rebound then return none
    else
      let guard ← receiveDisarmEvidence rebound evidence now.timestamp viaCoordinator
      if guard.phase.isNone then return none
      else return some (job.withGuard guard now)

end Evidence

/-! ### What is written -/

/-- Two rows of a job that differ in the columns live reports write, at most. -/
def SameButLive (job job' : JobInstance) : Prop :=
  job' = { job with
    disarmGuard := job'.disarmGuard
    lastExecutionHeartbeatAt := job'.lastExecutionHeartbeatAt
    lastProgressAt := job'.lastProgressAt
    updatedAt := job'.updatedAt }

/-- Nothing written. -/
theorem SameButLive.refl (job : JobInstance) : SameButLive job job := rfl

/-- One report after another. -/
theorem SameButLive.trans {a b c : JobInstance} (h : SameButLive a b) (h' : SameButLive b c) :
    SameButLive a c := by
  rw [SameButLive] at h h' ⊢
  rw [h', h]

/-- The key is no live column. -/
theorem SameButLive.id_eq {a b : JobInstance} (h : SameButLive a b) : b.id = a.id := by
  rw [SameButLive] at h
  rw [h]

/-- **Accepting evidence** writes the guard of the job and its two clocks, nothing else. -/
theorem acceptJobDisarmEvidence_frame {manifestPackageSha : String → String → Option String}
    {db : Db} {job job' : JobInstance} {evidence : PyDict} {hostId agentInstanceId : String}
    {now : Time} {viaCoordinator : Bool}
    (h : acceptJobDisarmEvidence manifestPackageSha db job evidence hostId agentInstanceId now
      viaCoordinator = .ok (some job')) :
    SameButLive job job' ∧ job'.updatedAt = job.updatedAt := by
  rw [acceptJobDisarmEvidence] at h
  split_ifs at h
  · cases h
  · cases h
  · obtain ⟨guard, -, h⟩ := Except.bind_eq_ok_iff.mp h
    dsimp only at h
    split_ifs at h
    · cases h
    · obtain ⟨received, -, h⟩ := Except.bind_eq_ok_iff.mp h
      split_ifs at h
      · cases h
      · cases h
        rw [JobInstance.withGuard]
        split_ifs
        · exact ⟨rfl, rfl⟩
        · exact ⟨rfl, rfl⟩

end StabilityPlatform
