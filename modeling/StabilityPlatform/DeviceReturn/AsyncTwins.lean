import StabilityPlatform.DeviceReturn.Discharge

/-!
# The asynchronous copies

Completion, recovery and the reconciler run on asynchronous sessions, with their own copies
of the release of a job's lease and of the late confirmation. The copies are kept by hand;
each helper is compared with its synchronous counterpart, and so are the entries.

## Main results

* `handleJobLeaseRelease_eq_sync`: both releases do the same to every database.
* `applyLateConfirmed_eq_sync`: both late confirmations do the same to every database.
* `asyncTwins_eq_sync`: **the copies agree**.
* `tryApplyLateConfirmed`: the late confirmation as completion asks for it.
-/

namespace StabilityPlatform

open Lib

/-! ### Debts -/

/-- Write a debt, or refresh the evidence of the open row it already has. -/
def upsertOpenDebtAsync (db : Db) (deviceId : ℕ) (family : String) (sourceKind : SourceKind)
    (sourceJobId : Option ℕ) (sourceFencingToken : Option String) (cause : String)
    (evidence : PyDict) (now : Time) : Except PyError Db :=
  let q := fun r : DeviceReturnDebt =>
    r.deviceId == deviceId && r.family == family && r.sourceKind == sourceKind &&
      r.state == .opened
  let q := fun r => q r && match sourceJobId with
    | none => r.sourceJobId.isNone
    | some jobId => r.sourceJobId == some jobId
  match db.debts.first q with
  | some existing =>
    if evidence ≠ [] then
      .ok { db with debts := db.debts.save { existing with evidence := some evidence } }
    else .ok db
  | none =>
    db.insertDebt
      { id := 0
        deviceId := deviceId
        family := family
        sourceKind := sourceKind
        sourceJobId := sourceJobId
        sourceFencingToken := sourceFencingToken
        cause := cause
        state := .opened
        closedReason := none
        closedAt := none
        createdAt := now
        evidence := if evidence ≠ [] then some evidence else none }

/-- Both look for the same open row. -/
theorem upsertOpenDebtAsync_eq_sync (db : Db) (deviceId : ℕ) (family : String)
    (sourceKind : SourceKind) (sourceJobId : Option ℕ) (sourceFencingToken : Option String)
    (cause : String) (evidence : PyDict) (now : Time) :
    upsertOpenDebtAsync db deviceId family sourceKind sourceJobId sourceFencingToken cause
      evidence now = upsertOpenDebtSync db deviceId family sourceKind sourceJobId
      sourceFencingToken cause evidence now := by
  have hq : (fun r : DeviceReturnDebt => (r.deviceId == deviceId && r.family == family &&
      r.sourceKind == sourceKind && r.state == .opened) && match sourceJobId with
        | none => r.sourceJobId.isNone
        | some jobId => r.sourceJobId == some jobId) =
      isOpenDebtOf deviceId family sourceKind sourceJobId := by
    funext r
    have hjob : (match sourceJobId with
        | none => r.sourceJobId.isNone
        | some jobId => r.sourceJobId == some jobId) = (r.sourceJobId == sourceJobId) := by
      cases sourceJobId with
      | none => cases r.sourceJobId <;> rfl
      | some jobId => rfl
    rw [hjob, isOpenDebtOf, Bool.and_assoc, Bool.and_comm (r.state == .opened),
      ← Bool.and_assoc]
  unfold upsertOpenDebtAsync upsertOpenDebtSync
  dsimp only
  rewrite [hq]
  cases db.debts.first (isOpenDebtOf deviceId family sourceKind sourceJobId) with
  | some existing => rfl
  | none => rfl

/-- Write the return state one reported result stands for, and the debt it leaves. -/
def applyFamilyResultAsync (job : JobInstance) (fencingToken : Option String) (now : Time)
    (acc : Device × Db) (item : String × PyDict) : Except PyError (Device × Db) := do
  let result := resultOf item.2
  let familyState := mapDisarmResultToFamilyState result (familyOnboarded item.1)
  let device := setFamilyReturnState acc.1 item.1 familyState .job now
    [("job_id", .int job.id), ("disarm_result", .str result)]
  if familyState = .debt then
    let db ← upsertOpenDebtAsync acc.2 device.id item.1 .job (some job.id) fencingToken
      (if result = "" then DisarmResult.notExecuted.value else result) item.2 now
    return (device, db)
  else return (device, acc.2)

/-- Write return states and debts from the disarm results of a job. -/
def applyJobDisarmToDebtAsync (db : Db) (device : Device) (job : JobInstance)
    (fencingToken : Option String) (now : Time) : Except PyError (Device × Db) := do
  let footprints := footprintFamiliesFromTraces job.pipelineDef (db.tracesOf job.id)
  let results := supplementIncompleteForFootprints (normalizeDisarmResults job.disarmResults)
    footprints
  let (device, db) ←
    results.items.foldlM (applyFamilyResultAsync job fencingToken now) (device, db)
  let openRows := db.openDebts device.id
  let device := recomputeReturnState device openRows now
  return (device, db.saveDevice device)

/-- Both write the same; only one of them counts. -/
theorem applyJobDisarmToDebtAsync_eq_sync (db : Db) (device : Device) (job : JobInstance)
    (fencingToken : Option String) (now : Time) :
    applyJobDisarmToDebtAsync db device job fencingToken now =
      (applyJobDisarmToDebtSync db device job fencingToken now).map fun p => (p.1, p.2.1) := by
  have hfold : applyFamilyResultAsync job fencingToken now =
      applyFamilyResultSync job fencingToken now := by
    funext acc item
    unfold applyFamilyResultAsync applyFamilyResultSync
    simp only [upsertOpenDebtAsync_eq_sync]
  unfold applyJobDisarmToDebtAsync applyJobDisarmToDebtSync
  rw [hfold]
  cases h : (jobDisarmResults job (footprintFamiliesForJobSync db job)).items.foldlM
      (applyFamilyResultSync job fencingToken now) (device, db) with
  | error e =>
      simp only [jobDisarmResults, footprintFamiliesForJobSync] at h
      simp only [jobDisarmResults, footprintFamiliesForJobSync, h]
      rfl
  | ok acc =>
      simp only [jobDisarmResults, footprintFamiliesForJobSync] at h
      simp only [jobDisarmResults, footprintFamiliesForJobSync, h]
      rfl

/-- The same in a savepoint, when there is a job: an integrity error rolls it back. -/
def disarmInSavepointAsync (db : Db) (device : Device) (job : Option JobInstance)
    (fencingToken : Option String) (now : Time) : Except PyError (Device × Db) :=
  match job with
  | some job =>
    match applyJobDisarmToDebtAsync db device job fencingToken now with
    | .ok (device, db) => .ok (device, db)
    | .error .integrityError => .ok (device, db)
    | .error e => .error e
  | none => .ok (device, db)

/-- Both roll back alike. -/
theorem disarmInSavepointAsync_eq_sync (db : Db) (device : Device) (job : Option JobInstance)
    (fencingToken : Option String) (now : Time) :
    disarmInSavepointAsync db device job fencingToken now =
      disarmInSavepointSync db device job fencingToken now := by
  cases job with
  | none => rfl
  | some job =>
      unfold disarmInSavepointAsync disarmInSavepointSync
      dsimp only
      rw [applyJobDisarmToDebtAsync_eq_sync]
      cases applyJobDisarmToDebtSync db device job fencingToken now with
      | ok p => rfl
      | error e => cases e <;> rfl

/-! ### Leases -/

/-- Convert the lease of a job into a debt lease, in place. A lease must name a host. -/
def convertActiveJobToDebtLeaseAsync (db : Db) (device : Device) (lease : DeviceLease)
    (now : Time) : Except PyError (DeviceLease × Db) :=
  let device := device.bump
  match device.hostId with
  | none => .error .integrityError
  | some hostId =>
    let lease := { lease with
      leaseType := .maintenance
      jobId := none
      reason := some debtLeaseReason
      holder := some debtLeaseHolder
      agentInstanceId := debtLeaseAgentInstanceId
      hostId := hostId
      leaseGeneration := device.leaseGeneration
      fencingToken := fencingToken device.id device.leaseGeneration
      renewedAt := now
      expiresAt := debtLeaseExpiresAt
      status := .active
      releasedAt := none }
    .ok (lease, (db.saveDevice device).saveLease lease)

/-- Take a debt lease on a device in service that has a host and no active lease. -/
def acquireDebtLeaseAsync (db : Db) (device : Device) (now : Time) :
    Option DeviceLease × Device × Db :=
  match device.hostId with
  | none => (none, device, db)
  | some hostId =>
    if device.retiredAt.isSome || hostId = "" then (none, device, db)
    else
      let device := device.bump
      let db := db.saveDevice device
      if (db.activeLease device.id).isSome then (none, device, db)
      else
        let lease := newLease now device.id hostId .maintenance debtLeaseAgentInstanceId none
          (some debtLeaseReason) (some debtLeaseHolder) debtLeaseExpiresAt
          device.leaseGeneration 0
        match db.insertLease lease with
        | .ok (lease, db) => (some lease, device, db)
        | .error _ => (none, device, db)

/-- Release the lease of a job. -/
def releaseJobLeaseAsync (db : Db) (now : Time) (deviceId jobId : ℕ) : Bool × Db :=
  let p := fun l : DeviceLease =>
    l.deviceId == deviceId && l.jobId == some jobId && l.leaseType == .job &&
      l.status == .active
  ((db.leases.first p).isSome,
    { db with leases :=
      db.leases.update p (DeviceLease.release now) (DeviceLease.id_release now) })

/-- The unified entry for the release of a job's lease, on an asynchronous session. -/
def handleJobLeaseRelease (db : Db) (now now' : Time) (deviceId jobId : ℕ)
    (job : Option JobInstance) : Except PyError (LeaseOutcome × Db) := do
  match db.devices.get? deviceId with
  | none => return (⟨false, false, 0, none⟩, db)
  | some device =>
    let job := match job with
      | none => db.jobs.get? jobId
      | some job => some job
    let lease := db.activeLease deviceId
    let fencing := lease.map DeviceLease.fencingToken
    let (device, db) ← disarmInSavepointAsync db device job fencing now
    let openCount := (db.openDebts deviceId).length
    if 0 < openCount then
      match lease with
      | some lease =>
        if lease.leaseType = .job ∧ lease.jobId = some jobId then
          let (lease, db) ← convertActiveJobToDebtLeaseAsync db device lease now
          return (⟨false, true, openCount, some lease.fencingToken⟩, db)
        else if isDebtLease (some lease) then
          return (⟨false, false, openCount, some lease.fencingToken⟩, db)
        else
          let (ok, db) := releaseJobLeaseAsync db now' deviceId jobId
          return (⟨ok, false, openCount, none⟩, db)
      | none =>
        let (acquired, _, db) := acquireDebtLeaseAsync db device now
        return (⟨false, acquired.isSome, openCount, acquired.map DeviceLease.fencingToken⟩, db)
    else
      let (ok, db) := releaseJobLeaseAsync db now' deviceId jobId
      return (⟨ok, false, 0, none⟩, db)

/-- **The releases agree.** On every database both copies return the same outcome and leave
the same tables. -/
theorem handleJobLeaseRelease_eq_sync (db : Db) (now now' : Time) (deviceId jobId : ℕ)
    (job : Option JobInstance) :
    handleJobLeaseRelease db now now' deviceId jobId job =
      handleJobLeaseReleaseSync db now now' deviceId jobId job := by
  unfold handleJobLeaseRelease handleJobLeaseReleaseSync
  cases db.devices.get? deviceId with
  | none => rfl
  | some device =>
      have hjob : (match job with
          | none => db.jobs.get? jobId
          | some job => some job) = job.orElse fun _ => db.jobs.get? jobId := by
        cases job <;> rfl
      dsimp only
      rw [hjob, disarmInSavepointAsync_eq_sync]
      rfl

/-! ### Late confirmation -/

/-- Close the job's own open debts of one confirmed family, among the rows read before. -/
def lateFamilyAsync (openRows : List DeviceReturnDebt) (jobId : ℕ) (fencingToken : String)
    (now : Time) (t : LateTally) (family : String) : LateTally :=
  let rows := openRows.filter fun r => r.family == family && r.sourceKind == .job &&
    r.sourceJobId == some jobId && r.sourceFencingToken == some fencingToken
  let touched := if rows.isEmpty then t.touched else family :: t.touched
  { device :=
      if touched.contains family then
        setFamilyReturnState t.device family
          (if familyOnboarded family then .returned else .unverified) .job now
          [("job_id", .int jobId), ("late_confirmed", .bool true)]
      else t.device
    closedRows := t.closedRows ++ rows.map DeviceReturnDebt.id
    closed := t.closed + rows.length
    touched := touched }

/-- A job that completes late closes the debts opened in its own name and token. -/
def applyLateConfirmed (db : Db) (now : Time) (deviceId jobId : ℕ) (fencingToken : String)
    (confirmedFamilies : List String) : Reply LateOutcome × Db :=
  match db.devices.get? deviceId with
  | none => (.refused "DEVICE_NOT_FOUND", db)
  | some device =>
    let openRows := db.openDebts deviceId
    let t := confirmedFamilies.foldl (lateFamilyAsync openRows jobId fencingToken now)
      ⟨device, [], 0, []⟩
    let db := if t.closed ≠ 0 then db.closeRows t.closedRows .discharged now else db
    let (released, db) :=
      if (db.openDebts deviceId).isEmpty then
        match db.activeLease deviceId with
        | some lease =>
          if isDebtLease (some lease) then (true, db.saveLease (lease.release now))
          else (false, db)
        | none => (false, db)
      else (false, db)
    let openRows := db.openDebts deviceId
    let device := recomputeReturnState t.device openRows now
    (.done ⟨t.closed, released, openRows.length⟩, db.saveDevice device)

/-- Marking families keeps the key of the device. -/
theorem id_foldl_lateFamilySync (db : Db) (deviceId jobId : ℕ) (fencingToken : String)
    (now : Time) (families : List String) (t : LateTally) :
    (families.foldl (lateFamilySync db deviceId jobId fencingToken now) t).device.id =
      t.device.id := by
  induction families generalizing t with
  | nil => rfl
  | cons family rest ih =>
      have hid : ∀ c : Bool, (if c then setFamilyReturnState t.device family
          (lateState family) .job now [("job_id", .int jobId), ("late_confirmed", .bool true)]
          else t.device).id = t.device.id := fun c => by cases c <;> rfl
      rw [List.foldl_cons, ih]
      exact hid _

/-- **The late confirmations agree.** On every database and for every list of families both
copies return the same outcome and leave the same tables. -/
theorem applyLateConfirmed_eq_sync (db : Db) (now : Time) (deviceId jobId : ℕ)
    (fencingToken : String) (confirmedFamilies : List String) :
    applyLateConfirmed db now deviceId jobId fencingToken confirmedFamilies =
      applyLateConfirmedSync db now deviceId jobId fencingToken confirmedFamilies := by
  unfold applyLateConfirmed applyLateConfirmedSync
  cases hget : db.devices.get? deviceId with
  | none => rfl
  | some device =>
      have hfold : lateFamilyAsync (db.openDebts deviceId) jobId fencingToken now =
          lateFamilySync db deviceId jobId fencingToken now := rfl
      have hid := id_foldl_lateFamilySync db deviceId jobId fencingToken now confirmedFamilies
        ⟨device, [], 0, []⟩
      have hdev : device.id = deviceId := Table.id_of_get? hget
      dsimp only
      rw [hfold]
      generalize confirmedFamilies.foldl (lateFamilySync db deviceId jobId fencingToken now)
        ⟨device, [], 0, []⟩ = t at hid
      generalize (if t.closed ≠ 0 then db.closeRows t.closedRows .discharged now else db) = db'
      have hrelease : maybeReleaseDebtLeaseSync db' t.device now =
          if (db'.openDebts deviceId).isEmpty then
            match db'.activeLease deviceId with
            | some lease =>
              if isDebtLease (some lease) then (true, db'.saveLease (lease.release now))
              else (false, db')
            | none => (false, db')
          else (false, db') := by
        rw [maybeReleaseDebtLeaseSync, hid, hdev]
        cases (db'.openDebts deviceId).isEmpty with
        | false => rfl
        | true => cases db'.activeLease deviceId <;> rfl
      rw [hrelease]

/-- **The copies agree**: for every database, clock, device, job and result map the two
releases return one outcome and leave one database, and so do the two late confirmations. -/
theorem asyncTwins_eq_sync (db : Db) (deviceId jobId : ℕ) :
    (∀ (now now' : Time) (job : Option JobInstance),
      handleJobLeaseRelease db now now' deviceId jobId job =
        handleJobLeaseReleaseSync db now now' deviceId jobId job) ∧
    ∀ (now : Time) (fencingToken : String) (confirmedFamilies : List String),
      applyLateConfirmed db now deviceId jobId fencingToken confirmedFamilies =
        applyLateConfirmedSync db now deviceId jobId fencingToken confirmedFamilies :=
  ⟨fun now now' job => handleJobLeaseRelease_eq_sync db now now' deviceId jobId job,
    fun now fencingToken confirmedFamilies =>
      applyLateConfirmed_eq_sync db now deviceId jobId fencingToken confirmedFamilies⟩

/-! ### The late confirmation of a completion -/

/-- The families a report says are confirmed. -/
def confirmedFamiliesOf (results : Dict PyDict) : List String :=
  (results.items.filter fun p => resultOf p.2 = DisarmResult.confirmed.value).map Prod.fst

section Late

variable (manifestPackageSha : String → String → Option String)

/-- Keep a confirmed family when the platform's own facts confirm it too. -/
def verifyLateFamily (device : Device) (job : JobInstance) (results : Dict PyDict)
    (verified : List String) (family : String) : Except PyError (List String) := do
  let entry := (results.get? family).getD []
  let policy ← evaluateProbeEntry manifestPackageSha device family entry true (some job)
  let decision := probeEntryResponse family entry policy .late
  if !decision.ignore ∧ policy.trusted ∧ policy.result = .confirmed then
    return verified ++ [family]
  return verified

/-- The late confirmation as completion asks for it: nothing unless the report confirms a
family with an open debt in the job's own name and in the token of the request. -/
def tryApplyLateConfirmed (db : Db) (now : Time) (deviceId jobId : ℕ) (fencingToken : String)
    (disarmResults : PyVal) : Except PyError (Option (Reply LateOutcome) × Db) := do
  let results := normalizeDisarmResults disarmResults
  let confirmed := confirmedFamiliesOf results
  if confirmed = [] then return (none, db)
  let openRows := db.openDebts deviceId
  if !openRows.any fun r => confirmed.any fun f => isOwnDebt f jobId fencingToken r then
    return (none, db)
  match db.devices.get? deviceId, db.jobs.get? jobId with
  | some device, some job =>
    let verified ← confirmed.foldlM (verifyLateFamily manifestPackageSha device job results) []
    if verified = [] then return (some (.done ⟨0, false, openRows.length⟩), db)
    let (outcome, db) := applyLateConfirmed db now deviceId jobId fencingToken verified
    return (some outcome, db)
  | _, _ => return (none, db)

end Late

end StabilityPlatform
