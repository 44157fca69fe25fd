import StabilityPlatform.DeviceReturn.DebtRows
import StabilityPlatform.Lease.LeaseManager

/-!
# Release of a job's lease

Every path that ends a job's occupancy of a device comes through here. Under the lock of
the device row the disarm results of the job become return states and open debts; then the
lease is converted into a debt lease, or released when nothing is owed. The conversion
advances the generation, so the token of the job dies with it.

## Main results

* `handleJobLeaseReleaseSync`: the release as recycler, emergency path and recovery run it.
* `acquireDebtLeaseSync_eq_some`: what taking a debt lease did.
-/

namespace StabilityPlatform

open Lib

/-! ### Disarm results become debts -/

/-- The families of which the traces of a job show a footprint. -/
def footprintFamiliesForJobSync (db : Db) (job : JobInstance) : List String :=
  footprintFamiliesFromTraces job.pipelineDef (db.tracesOf job.id)

/-- What a job reported about each family, and interrupted ones for bare footprints. -/
def jobDisarmResults (job : JobInstance) (footprints : List String) : Dict PyDict :=
  supplementIncompleteForFootprints (normalizeDisarmResults job.disarmResults) footprints

/-- Write the return state one reported result stands for, and the debt it leaves. -/
def applyFamilyResultSync (job : JobInstance) (fencingToken : Option String) (now : Time)
    (acc : Device × Db) (item : String × PyDict) : Except PyError (Device × Db) := do
  let result := resultOf item.2
  let familyState := mapDisarmResultToFamilyState result (familyOnboarded item.1)
  let device := setFamilyReturnState acc.1 item.1 familyState .job now
    [("job_id", .int job.id), ("disarm_result", .str result)]
  if familyState = .debt then
    let db ← upsertOpenDebtSync acc.2 device.id item.1 .job (some job.id) fencingToken
      (if result = "" then DisarmResult.notExecuted.value else result) item.2 now
    return (device, db)
  else return (device, acc.2)

/-- Write return states and debts from the disarm results of a job; how many debts are
open then. -/
def applyJobDisarmToDebtSync (db : Db) (device : Device) (job : JobInstance)
    (fencingToken : Option String) (now : Time) : Except PyError (Device × Db × ℕ) := do
  let results := jobDisarmResults job (footprintFamiliesForJobSync db job)
  let (device, db) ←
    results.items.foldlM (applyFamilyResultSync job fencingToken now) (device, db)
  let openRows := db.openDebts device.id
  let device := recomputeReturnState device openRows now
  return (device, db.saveDevice device, openRows.length)

/-- The same in a savepoint, when there is a job: an integrity error rolls it back. -/
def disarmInSavepointSync (db : Db) (device : Device) (job : Option JobInstance)
    (fencingToken : Option String) (now : Time) : Except PyError (Device × Db) :=
  match job with
  | none => .ok (device, db)
  | some job =>
    match applyJobDisarmToDebtSync db device job fencingToken now with
    | .ok (device, db, _) => .ok (device, db)
    | .error .integrityError => .ok (device, db)
    | .error e => .error e

/-! ### The lease afterwards -/

/-- A lease, turned into the debt lease of a device under a new generation. -/
def DeviceLease.toDebt (lease : DeviceLease) (device : Device) (hostId : String) (now : Time) :
    DeviceLease :=
  { lease with
    leaseType := .maintenance
    jobId := none
    reason := some debtLeaseReason
    holder := some debtLeaseHolder
    agentInstanceId := debtLeaseAgentInstanceId
    hostId := hostId
    leaseGeneration := device.leaseGeneration
    fencingToken := StabilityPlatform.fencingToken device.id device.leaseGeneration
    renewedAt := now
    expiresAt := debtLeaseExpiresAt
    status := .active
    releasedAt := none }

/-- Convert the lease of a job into a debt lease, in place. A lease must name a host. -/
def convertActiveJobToDebtLeaseSync (db : Db) (device : Device) (lease : DeviceLease)
    (now : Time) : Except PyError (DeviceLease × Db) :=
  let device := device.bump
  match device.hostId with
  | none => .error .integrityError
  | some hostId =>
    let lease := lease.toDebt device hostId now
    .ok (lease, (db.saveDevice device).saveLease lease)

/-- The debt lease of a device. -/
def debtLease (device : Device) (hostId : String) (now : Time) : DeviceLease :=
  newLease now device.id hostId .maintenance debtLeaseAgentInstanceId none
    (some debtLeaseReason) (some debtLeaseHolder) debtLeaseExpiresAt device.leaseGeneration 0

/-- Take a debt lease on a device in service that has a host and no active lease. The
generation advances before the other leases are looked at. -/
def acquireDebtLeaseSync (db : Db) (device : Device) (now : Time) :
    Option DeviceLease × Device × Db :=
  match device.hostId with
  | none => (none, device, db)
  | some hostId =>
    if device.retiredAt.isSome || hostId = "" then (none, device, db)
    else
      let device := device.bump
      let db := db.saveDevice device
      if (db.activeLease device.id).isSome then (none, device, db)
      else match db.insertLease (debtLease device hostId now) with
        | .ok (lease, db) => (some lease, device, db)
        | .error _ => (none, device, db)

/-- Release the lease of a job. -/
def releaseJobLeaseSync (db : Db) (now : Time) (deviceId jobId : ℕ) : Bool × Db :=
  let p := isLeaseOf deviceId jobId .job
  ((db.leases.first p).isSome,
    { db with leases :=
      db.leases.update p (DeviceLease.release now) (DeviceLease.id_release now) })

/-- The unified entry for the release of a job's lease. The release itself reads the clock
again. -/
def handleJobLeaseReleaseSync (db : Db) (now now' : Time) (deviceId jobId : ℕ)
    (job : Option JobInstance) : Except PyError (LeaseOutcome × Db) := do
  match db.devices.get? deviceId with
  | none => return (⟨false, false, 0, none⟩, db)
  | some device =>
    let job := job.orElse fun _ => db.jobs.get? jobId
    let lease := db.activeLease deviceId
    let fencing := lease.map DeviceLease.fencingToken
    let (device, db) ← disarmInSavepointSync db device job fencing now
    let openCount := (db.openDebts deviceId).length
    if 0 < openCount then
      match lease with
      | some lease =>
        if lease.leaseType = .job ∧ lease.jobId = some jobId then
          let (lease, db) ← convertActiveJobToDebtLeaseSync db device lease now
          return (⟨false, true, openCount, some lease.fencingToken⟩, db)
        else if isDebtLease (some lease) then
          return (⟨false, false, openCount, some lease.fencingToken⟩, db)
        else
          let (ok, db) := releaseJobLeaseSync db now' deviceId jobId
          return (⟨ok, false, openCount, none⟩, db)
      | none =>
        let (acquired, _, db) := acquireDebtLeaseSync db device now
        return (⟨false, acquired.isSome, openCount, acquired.map DeviceLease.fencingToken⟩, db)
    else
      let (ok, db) := releaseJobLeaseSync db now' deviceId jobId
      return (⟨ok, false, 0, none⟩, db)

/-! ### What taking a debt lease did -/

/-- **Taking a debt lease**: the device was in service and had a host and no active lease;
its generation advanced and a lease of that generation was inserted. -/
theorem acquireDebtLeaseSync_eq_some {db db' : Db} {device device' : Device} {now : Time}
    {lease : DeviceLease} (h : acquireDebtLeaseSync db device now = (some lease, device', db')) :
    ∃ hostId, device.hostId = some hostId ∧ hostId ≠ "" ∧ device.retiredAt = none ∧
      db.activeLease device.id = none ∧ device' = device.bump ∧
      lease = { debtLease device.bump hostId now with id := db.leases.nextId } ∧
      db' = { db.saveDevice device.bump with
        leases := db.leases.insert (fun i => { debtLease device.bump hostId now with id := i })
          fun _ => rfl } := by
  unfold acquireDebtLeaseSync at h
  cases hhost : device.hostId with
  | none => rw [hhost] at h; cases h
  | some hostId =>
      simp only [hhost] at h
      split at h
      · cases h
      · rename_i hserv
        split at h
        · cases h
        · rename_i hact
          rw [Db.insertLease, if_neg fun hdup => hact hdup.2] at h
          cases h
          simp only [Bool.or_eq_true, decide_eq_true_eq, not_or] at hserv
          refine ⟨hostId, rfl, hserv.2, by simpa using hserv.1, ?_, rfl, rfl, rfl⟩
          exact Option.not_isSome_iff_eq_none.mp hact

/-- Whether a device can take a debt lease: it is in service and has a host. -/
def Device.canCarry (device : Device) : Bool :=
  device.retiredAt.isNone && !isBlank device.hostId

/-- Without a debt lease taken, the device cannot carry one, or it has an active lease and
only its generation advanced. -/
theorem acquireDebtLeaseSync_eq_none {db db' : Db} {device device' : Device} {now : Time}
    (h : acquireDebtLeaseSync db device now = (none, device', db')) :
    (device' = device ∧ db' = db ∧ device.canCarry = false) ∨ (device' = device.bump ∧
      db' = db.saveDevice device.bump ∧ (db.activeLease device.id).isSome = true) := by
  unfold acquireDebtLeaseSync at h
  unfold Device.canCarry isBlank
  cases hhost : device.hostId with
  | none =>
      rw [hhost] at h
      cases h
      exact .inl ⟨rfl, rfl, by simp⟩
  | some hostId =>
      simp only [hhost] at h
      split at h
      · rename_i hserv
        cases h
        refine .inl ⟨rfl, rfl, ?_⟩
        rw [Bool.or_eq_true, decide_eq_true_eq] at hserv
        rcases hserv with hret | rfl
        · simp [Option.isNone_eq_false_iff.mpr hret]
        · simp
      · split at h
        · rename_i hact
          cases h
          exact .inr ⟨rfl, rfl, hact⟩
        · rename_i hact
          rw [Db.insertLease, if_neg fun hdup => hact hdup.2] at h
          cases h

end StabilityPlatform
