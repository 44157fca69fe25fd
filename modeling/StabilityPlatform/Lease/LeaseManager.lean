import StabilityPlatform.Core.Models

/-!
# The lease manager

Acquiring, extending and releasing leases, and the rotation of a token when a recovered
agent takes its lease over. An acquire first raises the device's generation, on condition
that the device is not retired, then looks for an active lease and inserts its own; a
conflict rolls all of it back to the savepoint.

## Main results

* `acquireLease_eq_some`: what a successful acquire did.
* `acquireLease_eq_none`: an acquire without a lease left the database as it was.
-/

namespace StabilityPlatform

open Lib

/-- How long a lease lasts unless told otherwise, in seconds. -/
def defaultLeaseSeconds : ℤ := 600

/-- A number of seconds after a moment. -/
def Time.addSeconds (t : Time) (seconds : ℤ) : Time := t + seconds * 1000000

namespace Db

/-- Insert a lease; a second active one on a device violates the partial unique index. -/
def insertLease (db : Db) (lease : DeviceLease) : Except PyError (DeviceLease × Db) :=
  if lease.status = .active ∧ (db.activeLease lease.deviceId).isSome then
    .error .integrityError
  else
    .ok ({ lease with id := db.leases.nextId },
      { db with leases := db.leases.insert (fun i => { lease with id := i }) fun _ => rfl })

end Db

/-- The lease an acquire inserts. -/
def newLease (now : Time) (deviceId : ℕ) (hostId : String) (leaseType : LeaseType)
    (agentInstanceId : String) (jobId : Option ℕ) (reason holder : Option String)
    (expiresAt : Time) (generation id : ℕ) : DeviceLease where
  id := id
  deviceId := deviceId
  jobId := jobId
  hostId := hostId
  leaseType := leaseType
  status := .active
  fencingToken := fencingToken deviceId generation
  leaseGeneration := generation
  agentInstanceId := agentInstanceId
  reason := reason
  holder := holder
  acquiredAt := now
  renewedAt := now
  expiresAt := expiresAt
  releasedAt := none

/-- The device with the next generation. -/
def Device.bump (device : Device) : Device :=
  { device with leaseGeneration := device.leaseGeneration + 1 }

/-- Whether a string argument is missing or empty. -/
def isBlank (s : Option String) : Bool := s = none || s = some ""

/-- Whether the arguments of an acquire fit its lease type. -/
def leaseContract (leaseType : LeaseType) (jobId : Option ℕ) (reason holder : Option String) :
    Bool :=
  match leaseType with
  | .job | .script => jobId.isSome
  | .maintenance => !isBlank reason && !isBlank holder

/-- Acquire a lease; `none` when the device is missing, retired or occupied. -/
def acquireLease (db : Db) (now : Time) (deviceId : ℕ) (hostId : String)
    (leaseType : LeaseType) (agentInstanceId : String) (jobId : Option ℕ)
    (reason holder : Option String) (leaseSeconds : ℤ) :
    Except PyError (Option DeviceLease × Db) :=
  if !leaseContract leaseType jobId reason holder then .error .valueError
  else match db.devices.get? deviceId with
    | none => .ok (none, db)
    | some device =>
      if device.retiredAt.isSome then .ok (none, db)
      else if ((db.saveDevice device.bump).activeLease deviceId).isSome then .ok (none, db)
      else match (db.saveDevice device.bump).insertLease
          (newLease now deviceId hostId leaseType agentInstanceId jobId reason holder
            (now.addSeconds leaseSeconds) device.bump.leaseGeneration 0) with
        | .ok (lease, db') => .ok (some lease, db')
        | .error _ => .ok (none, db)

/-- A lease, released. -/
def DeviceLease.release (now : Time) (l : DeviceLease) : DeviceLease :=
  { l with status := .released, releasedAt := some now }

/-- Releasing a lease keeps its id. -/
theorem DeviceLease.id_release (now : Time) (l : DeviceLease) :
    Row.id (l.release now) = Row.id l := rfl

/-- The active lease a job has on a device. -/
def isLeaseOf (deviceId jobId : ℕ) (leaseType : LeaseType) (l : DeviceLease) : Bool :=
  l.deviceId == deviceId && l.jobId == some jobId && l.leaseType == leaseType &&
    l.status == .active

/-- Extend an active lease that has not expired. -/
def extendLease (db : Db) (now : Time) (deviceId jobId : ℕ) (leaseType : LeaseType)
    (ttl : ℤ) : Bool × Db :=
  let p := fun l : DeviceLease =>
    isLeaseOf deviceId jobId leaseType l && decide (now < l.expiresAt)
  let renew := fun l : DeviceLease =>
    { l with renewedAt := now, expiresAt := now.addSeconds ttl }
  ((db.leases.first p).isSome,
    { db with leases := db.leases.update p renew fun _ => rfl })

/-- Release an active lease. -/
def releaseLease (db : Db) (now : Time) (deviceId jobId : ℕ) (leaseType : LeaseType) :
    Bool × Db :=
  let p := isLeaseOf deviceId jobId leaseType
  ((db.leases.first p).isSome,
    { db with leases :=
      db.leases.update p (DeviceLease.release now) (DeviceLease.id_release now) })

/-- A lease, taken over by an agent instance under a new generation. -/
def DeviceLease.rotate (generation : ℕ) (agentInstanceId : String) (now : Time)
    (l : DeviceLease) : DeviceLease :=
  { l with
    leaseGeneration := generation
    fencingToken := StabilityPlatform.fencingToken l.deviceId generation
    agentInstanceId := agentInstanceId
    renewedAt := now }

/-- Give a lease a new token of a new generation when an agent instance takes it over. -/
def rotateRecoveryLeaseToken (db : Db) (now : Time) (lease : DeviceLease)
    (agentInstanceId : String) : Except PyError (String × Db) :=
  match db.devices.get? lease.deviceId with
  | none => .error (.conflict "recovery device not found")
  | some device =>
    let lease := lease.rotate device.bump.leaseGeneration agentInstanceId now
    .ok (lease.fencingToken, (db.saveDevice device.bump).saveLease lease)

/-! ### What an acquire did -/

/-- **A successful acquire** found its device in service and without an active lease; it
raised the generation and inserted a lease of that generation. -/
theorem acquireLease_eq_some {db db' : Db} {now : Time} {deviceId : ℕ} {hostId : String}
    {leaseType : LeaseType} {agentInstanceId : String} {jobId : Option ℕ}
    {reason holder : Option String} {leaseSeconds : ℤ} {lease : DeviceLease}
    (h : acquireLease db now deviceId hostId leaseType agentInstanceId jobId reason holder
      leaseSeconds = .ok (some lease, db')) :
    ∃ device, db.devices.get? deviceId = some device ∧ device.retiredAt = none ∧
      db.activeLease deviceId = none ∧
      lease = newLease now deviceId hostId leaseType agentInstanceId jobId reason holder
        (now.addSeconds leaseSeconds) (device.leaseGeneration + 1) db.leases.nextId ∧
      db' = { db.saveDevice device.bump with
        leases := db.leases.insert (newLease now deviceId hostId leaseType agentInstanceId
          jobId reason holder (now.addSeconds leaseSeconds) (device.leaseGeneration + 1))
          fun _ => rfl } := by
  unfold acquireLease at h
  split_ifs at h
  split at h
  · cases h
  · rename_i device hget
    split at h
    · cases h
    · rename_i hret
      split at h
      · cases h
      · rename_i hact
        have hnone : db.activeLease deviceId = none :=
          Option.not_isSome_iff_eq_none.mp hact
        rw [Db.insertLease, if_neg fun hdup => hact hdup.2] at h
        cases h
        exact ⟨device, hget, by simpa using hret, hnone, rfl, rfl⟩

/-- **An acquire without a lease** left the database as it was. -/
theorem acquireLease_eq_none {db db' : Db} {now : Time} {deviceId : ℕ} {hostId : String}
    {leaseType : LeaseType} {agentInstanceId : String} {jobId : Option ℕ}
    {reason holder : Option String} {leaseSeconds : ℤ}
    (h : acquireLease db now deviceId hostId leaseType agentInstanceId jobId reason holder
      leaseSeconds = .ok (none, db')) : db' = db := by
  unfold acquireLease at h
  split_ifs at h
  split at h
  · exact (Prod.mk.inj (Except.ok.inj h)).2.symm
  · split_ifs at h
    · exact (Prod.mk.inj (Except.ok.inj h)).2.symm
    · exact (Prod.mk.inj (Except.ok.inj h)).2.symm
    · split at h
      · cases h
      · exact (Prod.mk.inj (Except.ok.inj h)).2.symm

end StabilityPlatform
