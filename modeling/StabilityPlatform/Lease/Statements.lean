import StabilityPlatform.DeviceReturn.Operations
import StabilityPlatform.Lib.RowLock

/-!
# Leases, statement by statement

The five services that give a device a lease or take it out of service, as the statements
they send, with the row of the device as the row that is locked: acquiring a lease, the
release of the lease of a job with its conversion to a debt lease, the init of a device,
retiring it, and taking it back into service. The session of an acquire or a release is its
caller's, which commits later; retiring and taking back commit themselves.

The leases and debts of a device are only written under the lock of its row, so they belong
to the locked row. Jobs, traces, runs and hosts change at any time; each statement reads
them as they are then.

## Main results

* `leaseProgram`: the statements of the services.
* `initReturnStates_spec`: what the init of a device in service writes first.
-/

namespace StabilityPlatform

open Lib Lib.RowLock

/-! ### The rows of a device -/

/-- What the lock of a device row guards: the device, its leases and its debts. -/
structure DeviceRows where
  devices : Table Device
  leases : Table DeviceLease
  debts : Table DeviceReturnDebt

/-- What the lock of a device row does not guard. -/
structure OtherRows where
  jobs : Table JobInstance
  traces : Table StepTrace
  planRuns : Table PlanRun
  hosts : List Host

/-- What a statement sees. -/
def DeviceRows.db (s : DeviceRows) (r : OtherRows) : Db where
  devices := s.devices
  leases := s.leases
  debts := s.debts
  jobs := r.jobs
  traces := r.traces
  planRuns := r.planRuns
  hosts := r.hosts

/-- The rows of a device in a database. -/
def Db.deviceRows (db : Db) : DeviceRows := ⟨db.devices, db.leases, db.debts⟩

/-- The other rows in a database. -/
def Db.otherRows (db : Db) : OtherRows := ⟨db.jobs, db.traces, db.planRuns, db.hosts⟩

/-! ### Points -/

/-- The arguments of an acquire, with the clock reading it makes. -/
structure AcquireArgs where
  now : Time
  hostId : String
  leaseType : LeaseType
  agentInstanceId : String
  jobId : Option ℕ
  reason : Option String
  holder : Option String
  leaseSeconds : ℤ

/-- Where an acquire is, with its savepoint and the generation it raised the device to. -/
inductive AcquirePoint where
  | get
  | savepoint
  | raise (saved : Option DeviceRows)
  | check (saved : Option DeviceRows) (generation : ℕ)
  | insert (saved : Option DeviceRows) (generation : ℕ)

/-- Where the taking of a debt lease is, for a device as its session has it. -/
inductive DebtPoint where
  | raise (device : Device)
  | check (device : Device) (hostId : String)
  | insert (device : Device) (hostId : String)

/-- The arguments of the release of a job's lease, with the clock readings it makes. -/
structure ReleaseArgs where
  now : Time
  now' : Time
  jobId : ℕ

/-- Where the release of a job's lease is, with the device, the job and the lease it read. -/
inductive ReleasePoint where
  | lock (job : Option JobInstance)
  | job (job : Option JobInstance) (device : Device)
  | lease (job : Option JobInstance) (device : Device)
  | disarm (job : Option JobInstance) (device : Device) (lease : Option DeviceLease)
  | decide (device : Device) (lease : Option DeviceLease)
  | convertRaise (device : Device) (lease : DeviceLease)
  | convertSave (device : Device) (lease : DeviceLease)
  | update

/-- Where an init is. -/
inductive InitPoint where
  | lock
  | states (device : Device)
  | lease (device : Device) (needsDebt : Bool)

/-- The arguments of a retirement, with the clock readings it makes. -/
structure RetireArgs where
  now : Time
  now' : Time
  reason : String
  actorUsername : Option String

/-- Where a retirement is. -/
inductive RetirePoint where
  | lock
  | jobs (device : Device)
  | leases (device : Device)
  | release (device : Device)
  | mark (device : Device)

/-- Where the way back into service is. -/
inductive UnretirePoint where
  | lock
  | clear (device : Device)
  | debts (device : Device)

/-- Where a service is. A debt lease is taken for a caller that commits itself or not. -/
inductive LeasePoint where
  | acquire (a : AcquireArgs) (p : AcquirePoint)
  | debt (now : Time) (commits : Bool) (p : DebtPoint)
  | release (a : ReleaseArgs) (p : ReleasePoint)
  | init (now : Time) (dryRun : Bool) (p : InitPoint)
  | retire (a : RetireArgs) (p : RetirePoint)
  | unretire (now : Time) (p : UnretirePoint)

/-- A statement of a service. -/
abbrev LeaseStmt := Stmt DeviceRows OtherRows LeasePoint

/-! ### The statements -/

/-- The statements of an acquire. A conflict goes back to what the session had before. -/
def acquireStmt (k : ℕ) (a : AcquireArgs) : AcquirePoint → LeaseStmt
  | .get => .read fun s _ =>
    if !leaseContract a.leaseType a.jobId a.reason a.holder then .rollback none
    else match s.devices.get? k with
      | none => .finish
      | some _ => .goto (.acquire a .savepoint)
  | .savepoint => .savepoint fun saved => .goto (.acquire a (.raise saved))
  | .raise saved => .lock fun s r =>
    match s.devices.get? k with
    | none => (.finish, .keep)
    | some device =>
      if device.retiredAt.isSome then (.finish, .keep)
      else (.goto (.acquire a (.check saved device.bump.leaseGeneration)),
        .put ((s.db r).saveDevice device.bump).deviceRows)
  | .check saved generation => .lock fun s r =>
    if ((s.db r).activeLease k).isSome then (.finish, .restore saved)
    else (.goto (.acquire a (.insert saved generation)), .keep)
  | .insert saved generation => .lock fun s r =>
    match (s.db r).insertLease (newLease a.now k a.hostId a.leaseType a.agentInstanceId a.jobId
        a.reason a.holder (a.now.addSeconds a.leaseSeconds) generation 0) with
    | .ok (_, db) => (.finish, .put db.deviceRows)
    | .error _ => (.finish, .restore saved)

/-- The end of a call, for a caller that commits itself or not. -/
def endCall (commits : Bool) : Next LeasePoint := if commits then .commit none else .finish

/-- The statements of taking a debt lease. -/
def debtStmt (k : ℕ) (now : Time) (commits : Bool) : DebtPoint → LeaseStmt
  | .raise device => .lock fun s r =>
    match device.hostId with
    | none => (endCall commits, .keep)
    | some hostId =>
      if device.retiredAt.isSome || hostId = "" then (endCall commits, .keep)
      else (.goto (.debt now commits (.check device.bump hostId)),
        .put ((s.db r).saveDevice device.bump).deviceRows)
  | .check device hostId => .lock fun s r =>
    if ((s.db r).activeLease k).isSome then (endCall commits, .keep)
    else (.goto (.debt now commits (.insert device hostId)), .keep)
  | .insert device hostId => .lock fun s r =>
    match (s.db r).insertLease (debtLease device hostId now) with
    | .ok (_, db) => (endCall commits, .put db.deviceRows)
    | .error _ => (endCall commits, .keep)

/-- The statements of the release of a job's lease. -/
def releaseStmt (k : ℕ) (a : ReleaseArgs) : ReleasePoint → LeaseStmt
  | .lock job => .lock fun s _ =>
    match s.devices.get? k with
    | none => (.finish, .keep)
    | some device => (.goto (.release a (.job job device)), .put s)
  | .job job device => .read fun _ r =>
    .goto (.release a (.lease (job.orElse fun _ => r.jobs.get? a.jobId) device))
  | .lease job device => .lock fun s r =>
    (.goto (.release a (.disarm job device ((s.db r).activeLease k))), .keep)
  | .disarm job device lease => .lock fun s r =>
    match disarmInSavepointSync (s.db r) device job (lease.map DeviceLease.fencingToken)
        a.now with
    | .ok (device, db) => (.goto (.release a (.decide device lease)), .put db.deviceRows)
    | .error _ => (.rollback none, .keep)
  | .decide device lease => .read fun s r =>
    if 0 < ((s.db r).openDebts k).length then
      match lease with
      | some lease =>
        if lease.leaseType = .job ∧ lease.jobId = some a.jobId then
          .goto (.release a (.convertRaise device lease))
        else if isDebtLease (some lease) then .finish
        else .goto (.release a .update)
      | none => .goto (.debt a.now false (.raise device))
    else .goto (.release a .update)
  | .convertRaise device lease => .lock fun s r =>
    (.goto (.release a (.convertSave device.bump lease)),
      .put ((s.db r).saveDevice device.bump).deviceRows)
  | .convertSave device lease => .lock fun s r =>
    match device.hostId with
    | none => (.rollback none, .keep)
    | some hostId =>
      (.finish, .put ((s.db r).saveLease (lease.toDebt device hostId a.now)).deviceRows)
  | .update => .lock fun s r =>
    (.finish, .put (releaseJobLeaseSync (s.db r) a.now' k a.jobId).2.deviceRows)

/-- The return states and debts an init writes before it looks at the lease: the device, the
database, and whether the device needs a debt lease. -/
def initReturnStates (db : Db) (device : Device) (now : Time) (deviceId : ℕ) (dryRun : Bool) :
    Except PyError (Device × Db × Bool) := do
  let t ← familyNames.foldlM (initFamily deviceId dryRun now)
    ⟨db, device.currentReturnState, Dict.empty, false⟩
  let device :=
    if !dryRun && t.changed then { device with returnState := some t.current } else device
  let db := t.db
  let openRows := db.openDebts deviceId
  let device := if dryRun then device else recomputeReturnState device openRows now
  let families :=
    if dryRun then t.families
    else t.families.update device.currentReturnState
  let db := if dryRun then db else db.saveDevice device
  return (device, db, !openRows.isEmpty || reportsDebt families)

/-- The statements of the init of a device. -/
def initStmt (k : ℕ) (now : Time) (dryRun : Bool) : InitPoint → LeaseStmt
  | .lock => .lock fun s _ =>
    match s.devices.get? k with
    | none => (.finish, .keep)
    | some device =>
      if device.retiredAt.isSome then (.finish, .put s)
      else (.goto (.init now dryRun (.states device)), .put s)
  | .states device => .lock fun s r =>
    match initReturnStates (s.db r) device now k dryRun with
    | .ok (device, db, needsDebt) =>
      (.goto (.init now dryRun (.lease device needsDebt)), .put db.deviceRows)
    | .error _ => (.rollback none, .keep)
  | .lease device needsDebt => .lock fun s r =>
    if needsDebt && ((s.db r).activeLease k).isNone && !dryRun then
      (.goto (.debt now false (.raise device)), .keep)
    else (.finish, .keep)

/-- The statements of retiring a device. -/
def retireStmt (k : ℕ) (a : RetireArgs) : RetirePoint → LeaseStmt
  | .lock => .lock fun s _ =>
    match s.devices.get? k with
    | none => (.rollback none, .keep)
    | some device =>
      if device.retiredAt.isSome then (.finish, .put s)
      else (.goto (.retire a (.jobs device)), .put s)
  | .jobs device => .read fun s r =>
    if ((s.db r).activeJobs k).length ≠ 0 then .rollback none
    else .goto (.retire a (.leases device))
  | .leases device => .read fun s r =>
    if ((s.db r).activeLeases k).length ≠ 0 ∧ hasOnlyDebtLeaseSync (s.db r) k = false then
      .rollback none
    else .goto (.retire a (.release device))
  | .release device => .lock fun s r =>
    (.goto (.retire a (.mark device)),
      .put (releaseDebtLeaseForRetirementSync (s.db r) device a.now).2.deviceRows)
  | .mark device => .lock fun s r =>
    (.commit none, .put ((s.db r).saveDevice { device with
      retiredAt := some a.now'
      retiredBy := actorName a.actorUsername
      retireReason := some a.reason
      retireAlertedAt := none }).deviceRows)

/-- The statements of taking a device back into service. -/
def unretireStmt (k : ℕ) (now : Time) : UnretirePoint → LeaseStmt
  | .lock => .lock fun s _ =>
    match s.devices.get? k with
    | none => (.rollback none, .keep)
    | some device =>
      if device.retiredAt.isNone then (.finish, .put s)
      else (.goto (.unretire now (.clear device)), .put s)
  | .clear device => .lock fun s r =>
    let device := { device with retiredAt := none, retireAlertedAt := none }
    (.goto (.unretire now (.debts device)), .put ((s.db r).saveDevice device).deviceRows)
  | .debts device => .read fun s r =>
    if ((s.db r).openDebts device.id).isEmpty then .commit none
    else .goto (.debt now true (.raise device))

/-- The statement at each point. -/
def leaseStmt (k : ℕ) : LeasePoint → LeaseStmt
  | .acquire a p => acquireStmt k a p
  | .debt now commits p => debtStmt k now commits p
  | .release a p => releaseStmt k a p
  | .init now dryRun p => initStmt k now dryRun p
  | .retire a p => retireStmt k a p
  | .unretire now p => unretireStmt k now p

/-- Where the services start. -/
def leaseEntry : LeasePoint → Bool
  | .acquire _ .get | .release _ (.lock _) | .init _ _ .lock | .retire _ .lock
  | .unretire _ .lock => true
  | _ => false

/-- The services, statement by statement. -/
def leaseProgram : Program ℕ DeviceRows OtherRows LeasePoint where
  entry := fun _ => leaseEntry
  stmt := leaseStmt

/-! ### The init of a device -/

/-- The families of an init touch debts only. -/
theorem debts_of_foldlM_initFamily {db : Db} {device : Device} {now : Time} {k : ℕ}
    {dryRun : Bool} {t : InitTally} (h : familyNames.foldlM (initFamily k dryRun now)
      ⟨db, device.currentReturnState, Dict.empty, false⟩ = .ok t) :
    ∃ debts, t.db = { db with debts := debts } := by
  cases dryRun with
  | true =>
      refine foldlM_invariant (I := fun t : InitTally => ∃ debts, t.db = { db with debts := debts })
        ?_ ⟨db.debts, rfl⟩ h
      rintro t family t' ⟨debts, hdebts⟩ hstep
      exact ⟨debts, (initFamily_dryRun hstep).2.trans hdebts⟩
  | false =>
      have hfrom : InitTally.From k device.currentReturnState db t :=
        foldlM_invariant (I := fun t => InitTally.From k device.currentReturnState db t)
          (fun hfrom hstep => (initFamily_spec hfrom hstep).1) ⟨.refl k db, fun _ => rfl⟩ h
      exact hfrom.debts.tables

/-- The return states an init writes: the device stays in service as it was, and only its
row and its debts change. -/
theorem initReturnStates_spec {db db' : Db} {device device' : Device} {now : Time} {k : ℕ}
    {dryRun needsDebt : Bool} (hget : db.devices.get? k = some device)
    (h : initReturnStates db device now k dryRun = .ok (device', db', needsDebt)) :
    (∃ rs, device' = { device with returnState := rs }) ∧
      db'.devices.get? k = some device' ∧ db'.leases = db.leases ∧
      db'.otherRows = db.otherRows := by
  have hid : device.id = k := Table.id_of_get? hget
  obtain ⟨t, hfold, hret⟩ := Except.bind_eq_ok_iff.mp h
  obtain ⟨debts, hdebts⟩ := debts_of_foldlM_initFamily hfold
  have hgett : t.db.devices.get? k = some device := by
    rw [hdebts]
    exact hget
  cases dryRun with
  | true =>
      cases hret
      refine ⟨⟨device.returnState, rfl⟩, hgett, ?_, ?_⟩
      · rw [if_pos rfl, hdebts]
      · rw [if_pos rfl, hdebts]
        rfl
  | false =>
      cases hret
      generalize hwritten : (if (!false && t.changed) = true then
        { device with returnState := some t.current } else device) = written
      have hrow : ∃ rs, written = { device with returnState := rs } := by
        rw [← hwritten]
        split
        · exact ⟨_, rfl⟩
        · exact ⟨device.returnState, rfl⟩
      obtain ⟨rs, rfl⟩ := hrow
      obtain ⟨rs', hrs'⟩ := recomputeReturnState_eq { device with returnState := rs }
        (t.db.openDebts k) now
      refine ⟨⟨rs', hrs'⟩, ?_, ?_, ?_⟩
      · exact get?_saveDevice (by rw [if_neg (by simp), hrs']; exact hid) hgett
      · rw [if_neg (by simp), hdebts]
        rfl
      · rw [if_neg (by simp), hdebts]
        rfl

end StabilityPlatform
