import StabilityPlatform.DeviceReturn.InitSpec
import StabilityPlatform.Lib.Run

/-!
# Operations on the return of devices

The operations that write debts, return states and debt leases, each a transaction of its
own: a committed one takes the database to the next, one that raises or is rolled back
takes no step. Jobs, traces and hosts change in between, in whatever way.

## Main results

* `ReturnStep`: the transition relation of the committed operations.
* `acquireJobLease_spec`: acquiring a lease for a job touches its device only.
-/

namespace StabilityPlatform

open Lib

/-- The operations, with the clock readings they make. -/
inductive ReturnOp where
  | acquireJobLease (now : Time) (deviceId : ℕ) (hostId agentInstanceId : String) (jobId : ℕ)
      (reason holder : Option String) (leaseSeconds : ℤ)
  | releaseSync (now now' : Time) (deviceId jobId : ℕ) (job : Option JobInstance)
  | release (now now' : Time) (deviceId jobId : ℕ) (job : Option JobInstance)
  | discharge (now : Time) (deviceId : ℕ) (fencingToken : String)
      (familyResults : Dict PyDict)
  | override (now : Time) (deviceId : ℕ) (families : Option (List String))
      (reasonCategory evidenceRef : String)
  | lateConfirmedSync (now : Time) (deviceId jobId : ℕ) (fencingToken : String)
      (confirmedFamilies : List String)
  | lateConfirmed (now : Time) (deviceId jobId : ℕ) (fencingToken : String)
      (confirmedFamilies : List String)
  | initCheck (now : Time) (jobId : ℕ) (fencingToken : String) (familyResults : Dict PyDict)
  | init (now : Time) (deviceId : ℕ) (dryRun : Bool)
  | retire (now now' : Time) (deviceId : ℕ) (reason : String) (actorUsername : Option String)
  | unretire (now : Time) (deviceId : ℕ)
  | elsewhere (jobs : Table JobInstance) (traces : Table StepTrace) (planRuns : Table PlanRun)
      (hosts : List Host)

/-- The database a transaction commits; one that raises commits nothing. -/
def committed {α : Type} (result : Except PyError (α × Db)) : Option Db :=
  match result with
  | .ok (_, db) => some db
  | .error _ => none

/-- A committed transaction did not raise. -/
theorem committed_eq_some_iff {α : Type} {result : Except PyError (α × Db)} {db : Db} :
    committed result = some db ↔ ∃ a, result = .ok (a, db) := by
  cases result with
  | error e => simp [committed]
  | ok p => cases p; simp [committed]

/-- What an init commits; one that lost the race for the lease is rolled back. -/
def commitInit (result : Except PyError (InitSummary × Db)) : Option Db :=
  match result with
  | .ok (summary, db) => if summary.status = .leaseConflictRetry then none else some db
  | .error _ => none

/-- A committed init did not raise and did not lose the race. -/
theorem commitInit_eq_some_iff {result : Except PyError (InitSummary × Db)} {db : Db} :
    commitInit result = some db ↔
      ∃ summary, result = .ok (summary, db) ∧ summary.status ≠ .leaseConflictRetry := by
  cases result with
  | error e => simp [commitInit]
  | ok p =>
      obtain ⟨summary, db'⟩ := p
      by_cases h : summary.status = .leaseConflictRetry
      · simp [commitInit, h]
      · simp [commitInit, h]

section Operations

variable (manifestPackageSha : String → String → Option String)

/-- What an operation commits. -/
def commit (db : Db) : ReturnOp → Option Db
  | .acquireJobLease now d hostId agentInstanceId jobId reason holder leaseSeconds =>
    committed (acquireLease db now d hostId .job agentInstanceId (some jobId) reason holder
      leaseSeconds)
  | .releaseSync now now' d jobId job =>
    committed (handleJobLeaseReleaseSync db now now' d jobId job)
  | .release now now' d jobId job => committed (handleJobLeaseRelease db now now' d jobId job)
  | .discharge now d token results =>
    committed (applyDischargeSync manifestPackageSha db now d token results)
  | .override now d families reasonCategory evidenceRef =>
    some (applyOverrideSync db now d families reasonCategory evidenceRef).2
  | .lateConfirmedSync now d jobId token families =>
    some (applyLateConfirmedSync db now d jobId token families).2
  | .lateConfirmed now d jobId token families =>
    some (applyLateConfirmed db now d jobId token families).2
  | .initCheck now jobId token results =>
    committed (applyInitCheckSync manifestPackageSha db now jobId token results)
  | .init now d dryRun => commitInit (initDeviceReturnSync db now d dryRun)
  | .retire now now' d reason actor => committed (retireDevice db now now' d reason actor)
  | .unretire now d => committed (unretireDevice db now d)
  | .elsewhere jobs traces planRuns hosts =>
    some { db with jobs := jobs, traces := traces, planRuns := planRuns, hosts := hosts }

/-- One committed operation. -/
def ReturnStep (db : Db) (op : ReturnOp) (db' : Db) : Prop :=
  commit manifestPackageSha db op = some db'

end Operations

/-! ### Small databases -/

/-- A device on a host, with a return state and nothing else of note. -/
def plainDevice (returnState : Option (Dict PyDict)) (id : ℕ) : Device where
  id := id
  serial := "S" ++ toString id
  hostId := some "h1"
  model := none
  platform := none
  leaseGeneration := 0
  retiredAt := none
  retiredBy := none
  retireReason := none
  retireAlertedAt := none
  returnState := returnState

/-- A running job on a device, with disarm results and nothing else of note. -/
def plainJob (deviceId : ℕ) (disarmResults : PyVal) (id : ℕ) : JobInstance where
  id := id
  planRunId := 1
  deviceId := deviceId
  hostId := some "h1"
  status := .running
  statusReason := none
  pipelineDef := .null
  startedAt := none
  endedAt := none
  terminalPayloadDigest := none
  disarmResults := disarmResults
  disarmGuard := none
  lastExecutionHeartbeatAt := none
  lastProgressAt := none
  updatedAt := 0

/-- A database with one device and one job on it, both with key one. -/
def plainDb (disarmResults : PyVal) : Db where
  devices := Table.empty.insert (plainDevice none) fun _ => rfl
  leases := .empty
  debts := .empty
  jobs := Table.empty.insert (plainJob 1 disarmResults) fun _ => rfl
  traces := .empty
  planRuns := .empty
  hosts := []

/-! ### Acquiring a lease -/

/-- Acquiring a lease for a job touches its device only; the device keeps its marks, and the
lease it gets is no debt lease. -/
theorem acquireJobLease_spec {db db' : Db} {now : Time} {d jobId : ℕ}
    {hostId agentInstanceId : String} {reason holder : Option String} {leaseSeconds : ℤ}
    {lease : Option DeviceLease}
    (h : acquireLease db now d hostId .job agentInstanceId (some jobId) reason holder
      leaseSeconds = .ok (lease, db')) :
    db' = db ∨ ∃ device l, db.devices.get? d = some device ∧ device.retiredAt = none ∧
      db'.devices.get? d = some device.bump ∧ OnlyDevice d db db' ∧ db'.debts = db.debts ∧
      db.activeLease d = none ∧ db'.activeLease d = some l ∧ isDebtLease (some l) = false := by
  cases lease with
  | none => exact .inl (acquireLease_eq_none h)
  | some l =>
      obtain ⟨device, hget, hret, hfree, -, rfl⟩ := acquireLease_eq_some h
      obtain rfl : device.id = d := Table.id_of_get? hget
      have hframe := onlyDevice_saveDevice db device.bump
      right
      refine ⟨device, _, hget, hret, get?_saveDevice rfl hget,
        hframe.trans (onlyDevice_insertLease (db.saveDevice device.bump) (fun _ => rfl)
          rfl rfl hfree), rfl, hfree,
        activeLease_insertLease (db.saveDevice device.bump) (fun _ => rfl) rfl rfl hfree,
        rfl⟩

end StabilityPlatform
