import StabilityPlatform.DeviceReturn.AsyncTwins

/-!
# Init checks and stage-B init

The check a job reports before it leaves a footprint, under the token of its lease, and the
repeatable one-shot init of a device that has no return states yet: families without a
state get one from the history of the device's jobs, never a returned one.

## Main results

* `applyInitCheckSync`: the init check of a running job.
* `initDeviceReturnSync`: the init of one device.
-/

namespace StabilityPlatform

open Lib

/-! ### Init checks -/

/-- The results that are a debt's cause. -/
def debtCauses : List String :=
  [DisarmResult.failed.value, DisarmResult.readbackFailed.value, DisarmResult.notExecuted.value,
    DisarmResult.incomplete.value]

/-- What an init check did. -/
structure InitCheckOutcome where
  acceptedFamilies : List String
  rejectedFamilies : List ProbeDecision
  openDebtCount : ℕ

/-- An init check on its way through the entries of a report. -/
structure InitCheckTally where
  device : Device
  db : Db
  acceptedFamilies : List String
  rejectedFamilies : List ProbeDecision
  changed : Bool

/-- Whether a row is the closed debt of this very entry: a replay does not open it again. -/
def isReplayedDebt (deviceId : ℕ) (family : String) (jobId : ℕ) (fencingToken cause : String)
    (entry : PyDict) (r : DeviceReturnDebt) : Bool :=
  r.deviceId == deviceId && r.family == family && r.sourceKind == .job &&
    r.sourceJobId == some jobId && r.sourceFencingToken == some fencingToken &&
    r.state == .closed && r.cause == cause &&
    r.evidence.any fun evidence => PyVal.jsonbEq (.dict evidence) (.dict entry)

/-- Close the debts of a confirmed family, and write one for a family in debt. -/
def initCheckDebts (db : Db) (deviceId jobId : ℕ) (fencingToken : String) (now : Time)
    (family result : String) (state : FamilyReturn) (entry : PyDict) : Except PyError Db :=
  if result = DisarmResult.confirmed.value then
    .ok (closeFamilyDebtsSync db deviceId [family] .discharged now).2
  else if state = .debt then
    upsertOpenDebtSync db deviceId family .job (some jobId) (some fencingToken)
      ("init_check:" ++ result) entry now
  else .ok db

section InitCheck

variable (manifestPackageSha : String → String → Option String)

/-- Judge one entry of an init check. -/
def checkInitProbeResult (device : Device) (family : String) (entry : PyDict) :
    Except PyError ProbeDecision := do
  let policy ← evaluateProbeEntry manifestPackageSha device family entry true none
  return probeEntryResponse family entry policy .initCheck

/-- Take one entry of an init check. -/
def initCheckFamily (jobId : ℕ) (fencingToken : String) (now : Time) (t : InitCheckTally)
    (item : String × PyDict) : Except PyError InitCheckTally := do
  let decision ← checkInitProbeResult manifestPackageSha t.device item.1 item.2
  if decision.statusCode = 422 then
    return { t with rejectedFamilies := t.rejectedFamilies ++ [decision] }
  if !PyDict.contains item.2 "result" then throw .keyError
  let result := (PyDict.get item.2 "result").pyStr
  let replayed := debtCauses.contains result &&
    (t.db.debts.first (isReplayedDebt t.device.id item.1 jobId fencingToken
      ("init_check:" ++ result) item.2)).isSome
  if replayed then return { t with acceptedFamilies := t.acceptedFamilies ++ [item.1] }
  let state := mapDisarmResultToFamilyState result (familyOnboarded item.1)
  let device := setFamilyReturnState t.device item.1 state .initCheck now
    [("job_id", .int jobId), ("disarm_result", .str result)]
  let db ← initCheckDebts t.db t.device.id jobId fencingToken now item.1 result state item.2
  return { t with
    device := device
    db := db
    acceptedFamilies := t.acceptedFamilies ++ [item.1]
    changed := true }

/-- Whether a lease and its device still belong to a job that shows a given token. -/
def isJobOwner (lease : DeviceLease) (device : Device) (job : JobInstance)
    (fencingToken : String) (now : Time) : Bool :=
  lease.leaseType == .job && lease.jobId == some job.id &&
    lease.fencingToken == fencingToken && some lease.hostId == job.hostId &&
    device.hostId == job.hostId && decide (now < lease.expiresAt) && device.retiredAt.isNone

/-- The init check of a running job, under the token of its lease. -/
def applyInitCheckSync (db : Db) (now : Time) (jobId : ℕ) (fencingToken : String)
    (familyResults : Dict PyDict) : Except PyError (Reply InitCheckOutcome × Db) := do
  match db.jobs.get? jobId with
  | none => return (.refused "JOB_TOKEN_INVALID", db)
  | some job =>
    if job.status ≠ .running then return (.refused "JOB_TOKEN_INVALID", db)
    match db.devices.get? job.deviceId with
    | none => return (.refused "JOB_TOKEN_INVALID", db)
    | some device =>
      match db.activeLease device.id with
      | none => return (.refused "JOB_TOKEN_INVALID", db)
      | some lease =>
        if !isJobOwner lease device job fencingToken now then
          return (.refused "JOB_TOKEN_INVALID", db)
        let t ← familyResults.items.foldlM
          (initCheckFamily manifestPackageSha job.id fencingToken now) ⟨device, db, [], [], false⟩
        let db :=
          if t.changed then
            t.db.saveDevice (recomputeReturnState t.device (t.db.openDebts device.id) now)
          else t.db
        return (.done ⟨t.acceptedFamilies, t.rejectedFamilies,
          (db.openDebts device.id).length⟩, db)

end InitCheck

/-! ### The history of a device -/

/-- What a past job says of its families: what it stored, else what its traces say. -/
def historyDisarmResultsForJobSync (db : Db) (job : JobInstance) : Dict PyDict :=
  let results := normalizeDisarmResults job.disarmResults
  if !results.items.isEmpty then results
  else
    let derived := deriveDisarmResultsFromTraces job.pipelineDef (db.tracesOf job.id)
    normalizeDisarmResults (.dict (derived.items.map fun p => (p.1, .dict p.2)))

/-- Ended jobs, the last one first. -/
def endedAfter (a b : JobInstance) : Prop :=
  b.endedAt.getD 0 < a.endedAt.getD 0 ∨ (a.endedAt = b.endedAt ∧ b.id ≤ a.id)

instance : DecidableRel endedAfter := fun _ _ => inferInstanceAs (Decidable (_ ∨ _))

/-- What one ended job says of a family: a result, or an interrupted one for a bare
footprint. -/
def historyOfJob (db : Db) (family : String) (job : JobInstance) :
    Option (JobInstance × Option String) :=
  match (historyDisarmResultsForJobSync db job).get? family with
  | some entry => some (job, if resultOf entry = "" then none else some (resultOf entry))
  | none =>
    if (footprintFamiliesForJobSync db job).contains family then
      some (job, some DisarmResult.incomplete.value)
    else none

/-- The last ended job of a device that says something of a family, and what. -/
def historyResultForFamilySync (db : Db) (deviceId : ℕ) (family : String) :
    Option (JobInstance × Option String) :=
  let jobs := db.jobs.select fun j => j.deviceId == deviceId && j.endedAt.isSome
  (jobs.insertionSort endedAfter).findSome? (historyOfJob db family)

/-! ### The init of a device -/

/-- What became of an init. -/
inductive InitStatus where
  | notFound
  | retiredSkipped
  | leaseConflictRetry
  | occupiedDebtRecorded
  | ok
  deriving DecidableEq, Repr

/-- What an init reports. -/
structure InitSummary where
  deviceId : ℕ
  status : InitStatus
  serial : String
  families : Dict PyDict
  acquiredDebtLease : Bool
  dryRun : Bool
  openDebtCount : Option ℕ

/-- An init on its way through the families. -/
structure InitTally where
  db : Db
  current : Dict PyDict
  families : Dict PyDict
  changed : Bool

/-- The entry of a family of which nothing is known. -/
def stockUnverified (now : Time) : PyDict :=
  [("state", .str FamilyReturn.unverified.value), ("source", .str ReturnSource.stock.value),
    ("updated_at", .str (isoformat now))]

/-- The state history stands for: no past job counts as a verified return. -/
def historyState (result : String) : FamilyReturn :=
  match mapDisarmResultToFamilyState result true with
  | .returned => .unverified
  | state => state

/-- The entry of a family that history says something of. -/
def stockEntry (state : FamilyReturn) (job : JobInstance) (result : String) (now : Time) :
    PyDict :=
  [("state", .str state.value), ("source", .str ReturnSource.stock.value),
    ("updated_at", .str (isoformat now)), ("history_job_id", .int job.id),
    ("disarm_result", .str result)]

/-- Note the entry of a family without a state, and write it unless nothing is to be
written. -/
def InitTally.note (t : InitTally) (dryRun : Bool) (family : String) (entry : PyDict) :
    InitTally :=
  { t with
    families := t.families.set family entry
    current := if dryRun then t.current else t.current.set family entry
    changed := t.changed || !dryRun }

/-- Give one family a state, if it has none. -/
def initFamily (deviceId : ℕ) (dryRun : Bool) (now : Time) (t : InitTally)
    (family : String) : Except PyError InitTally := do
  match t.current.get? family with
  | some entry => return { t with families := t.families.set family entry }
  | none =>
    if !familyOnboarded family then return t.note dryRun family (stockUnverified now)
    match historyResultForFamilySync t.db deviceId family with
    | some (histJob, some result) =>
      let state := historyState result
      let t := t.note dryRun family (stockEntry state histJob result now)
      if !dryRun ∧ state = .debt then
        let db ← upsertOpenDebtSync t.db deviceId family .stock (some histJob.id) none result
          [("history_job_id", .int histJob.id), ("disarm_result", .str result)] now
        return { t with db := db }
      return t
    | _ => return t.note dryRun family (stockUnverified now)

/-- Whether one of the known families is reported to be in debt. -/
def reportsDebt (families : Dict PyDict) : Bool :=
  familyNames.any fun f => (stateIn families f).isOneOf [FamilyReturn.debt.value]

/-- The one-shot, repeatable init of a device. -/
def initDeviceReturnSync (db : Db) (now : Time) (deviceId : ℕ) (dryRun : Bool) :
    Except PyError (InitSummary × Db) := do
  match db.devices.get? deviceId with
  | none => return (⟨deviceId, .notFound, "", Dict.empty, false, dryRun, none⟩, db)
  | some device =>
    if device.retiredAt.isSome then
      return (⟨deviceId, .retiredSkipped, "", Dict.empty, false, dryRun, none⟩, db)
    let t ← familyNames.foldlM (initFamily deviceId dryRun now)
      ⟨db, device.currentReturnState, Dict.empty, false⟩
    let device :=
      if !dryRun && t.changed then { device with returnState := some t.current } else device
    let db := t.db
    let openRows := db.openDebts deviceId
    let device := if dryRun then device else recomputeReturnState device openRows now
    let families :=
      if dryRun then t.families
      else t.families.update device.currentReturnState
    let db := if dryRun then db else db.saveDevice device
    let summary : InitSummary :=
      ⟨deviceId, .ok, device.serial, families, false, dryRun, some openRows.length⟩
    if !openRows.isEmpty || reportsDebt families then
      match db.activeLease deviceId with
      | none =>
        if dryRun then return (summary, db)
        match acquireDebtLeaseSync db device now with
        | (none, _, db) =>
          return ({ summary with status := .leaseConflictRetry, openDebtCount := none }, db)
        | (some _, _, db) =>
          return ({ summary with
            acquiredDebtLease := true
            openDebtCount := some (db.openDebts deviceId).length }, db)
      | some lease =>
        if !isDebtLease (some lease) then
          return ({ summary with status := .occupiedDebtRecorded }, db)
        return (summary, db)
    return (summary, db)

end StabilityPlatform
