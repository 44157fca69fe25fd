import StabilityPlatform.Lib.Fold
import StabilityPlatform.PlanRun.AbortRequest
import StabilityPlatform.PlanRun.Classification

/-!
# The admission transaction

One short transaction admits a plan run: it looks its targets through once more, makes the jobs
of the targets it keeps and of those that were rejected for their serial number, takes Wi-Fi
capacity for them, and counts. Whatever goes wrong on the way, the transaction is rolled back.

## Main results

* `materializeJobsAndAllocations`, `materializeSerialRejectedJobs`: the two ways to make jobs.
* `admissionTransaction`: the transaction, with all its exits.
* `recountHostCounters`: what aggregation counts on a host later.
-/

namespace StabilityPlatform

open Lib

/-! ### Rows -/

/-- What a plan run has on one host. -/
structure PlanRunHost where
  id : ℕ
  hostId : String
  status : String
  admittedAt : Option Time
  admissionBatchSizeSnapshot : Option ℤ
  totalJobCount : ℕ
  terminalJobCount : ℕ
  completedJobCount : ℕ
  failedJobCount : ℕ
  abortedJobCount : ℕ
  deriving DecidableEq

/-- A target of a plan run, as it was when the run was queued. -/
structure PlanRunTargetDevice where
  deviceId : ℕ
  hostIdSnapshot : String
  sortOrder : ℤ
  deriving DecidableEq

/-- A pool of a resource. -/
structure ResourcePool where
  id : ℕ
  name : String
  resourceType : String
  config : PyDict
  maxConcurrentDevices : ℤ
  hostGroup : Option String
  isActive : Bool

/-- A device's share of a pool. -/
structure ResourceAllocation where
  jobInstanceId : ℕ
  resourcePoolId : ℕ
  deviceId : ℕ
  allocatedParams : PyDict

/-- What the transaction sees of the database, for one plan run. -/
structure AdmissionDb where
  run : Option PlanRunRow
  planSnapshot : PyVal
  runHosts : List PlanRunHost
  targets : List PlanRunTargetDevice
  view : DispatchView
  pools : List ResourcePool
  allocations : List ResourceAllocation

/-- The jobs of a plan run. -/
def AdmissionDb.jobsOf (db : AdmissionDb) (runId : ℕ) : List JobInstance :=
  db.view.db.jobs.select fun job => job.planRunId == runId

/-- With other jobs. -/
def AdmissionDb.withJobs (db : AdmissionDb) (jobs : Table JobInstance) : AdmissionDb :=
  { db with view := { db.view with db := { db.view.db with jobs := jobs } } }

/-- What the dispatcher makes of a plan: its lifecycle, the parameters its suite adds, and the
pipeline of a job with the Wi-Fi credentials and these parameters in it. -/
structure LifecycleCore where
  buildLifecycleFromSnapshot : PyVal → Except PyError PyVal
  stepParamsForDispatch : PyDict → Except PyError PyDict
  injectWifiParams : PyVal → PyDict → PyVal
  injectSuiteParams : PyVal → PyDict → Except PyError PyVal

/-! ### Wi-Fi -/

/-- `s in t` on strings. -/
def pyIn (s t : String) : Bool := t.toList.tails.any s.toList.isPrefixOf

/-- `iter_lifecycle_steps`. -/
def iterLifecycleSteps (lifecycle : PyVal) : List PyVal :=
  let phases := contextOf lifecycle
  ((phases.get "init").asList?.getD []) ++ ((phases.get "teardown").asList?.getD []) ++
    ((contextOf (phases.get "patrol")).get "steps").asList?.getD []

/-- `step.get("action") or ""`. -/
def stepAction (step : PyVal) : String := (((contextOf step).get "action").asStr?).getD ""

/-- `lifecycle_consumes_wifi`. -/
def lifecycleConsumesWifi (lifecycle : PyVal) : Bool :=
  (iterLifecycleSteps lifecycle).any fun step =>
    pyIn "connect_wifi" (stepAction step) || pyIn "monkey_setup" (stepAction step)

/-- `lifecycle_has_connect_wifi_step`. -/
def lifecycleHasConnectWifiStep (lifecycle : PyVal) : Bool :=
  (iterLifecycleSteps lifecycle).any fun step => pyIn "connect_wifi" (stepAction step)

/-- `_host_match_keys`. -/
def hostMatchKeys (host : DispatchHost) : List String :=
  host.id :: (host.name.toList ++ host.hostname.toList).filter (· ≠ "")

/-- `_pool_host_group_matches`. -/
def poolHostGroupMatches (pool : ResourcePool) (hostKeys : Option (List String)) : Bool :=
  let group := pyStrip (pool.hostGroup.getD "")
  group == "" || hostKeys.any (·.contains group)

/-- How many devices with unfinished jobs have a share of a pool. -/
def poolLoad (db : AdmissionDb) (poolId : ℕ) : ℕ :=
  (db.allocations.filter fun a => a.resourcePoolId == poolId &&
    (db.view.db.jobs.get? a.jobInstanceId).any (·.status.isActive)).length

/-- What a device gets of a pool. -/
def allocatedParams (pool : ResourcePool) : PyDict :=
  [("ssid", (pool.config.lookup "ssid").getD (.str "")),
    ("password", (pool.config.lookup "password").getD (.str "")),
    ("pool_name", .str pool.name), ("pool_id", .int pool.id)]

/-- Pools in the order they are tried in. -/
def poolOrder (loads : ℕ → ℕ) (p q : ResourcePool) : Bool :=
  loads p.id < loads q.id || (loads p.id == loads q.id && p.id ≤ q.id)

/-- One round of `_sync_allocate_devices`: the loads, and the pools chosen so far. -/
def allocateDevice (db : AdmissionDb) (pools : List ResourcePool) (poolId : Option ℤ)
    (hostMap : List (ℕ × String)) (state : (ℕ → ℕ) × List (ℕ × ResourcePool)) (did : ℕ) :
    Except String ((ℕ → ℕ) × List (ℕ × ResourcePool)) :=
  let host := hostMap.lookup did
  let hostRepr := (PyVal.ofStr? host).pyRepr
  let hostKeys := (host.bind fun h => db.view.hosts.find? fun row => row.id == h).map hostMatchKeys
  let eligible := pools.filter fun p => poolHostGroupMatches p hostKeys
  if eligible.isEmpty then
    match poolId with
    | some pid => .error ("wifi resource pool " ++ toString pid ++ " is not allowed for device " ++
        toString did ++ " host " ++ hostRepr)
    | none => .error ("No wifi resource pool for device " ++ toString did ++ " host " ++ hostRepr)
  else
    match (eligible.insertionSort fun p q => poolOrder state.1 p q = true).find? fun p =>
        (state.1 p.id : ℤ) < p.maxConcurrentDevices with
    | none => .error ("No capacity for device " ++ toString did ++ ": all eligible pools full")
    | some pool => .ok (Function.update state.1 pool.id (state.1 pool.id + 1),
        state.2 ++ [(did, pool)])

/-- `_sync_allocate_devices`, for Wi-Fi. -/
def syncAllocateDevices (db : AdmissionDb) (deviceIds : List ℕ) (poolId : Option ℤ)
    (hostMap : List (ℕ × String)) : Except String (List (ℕ × ResourcePool)) :=
  let pools := db.pools.filter fun p => p.resourceType == "wifi" && p.isActive &&
    poolId.all (· == (p.id : ℤ))
  if pools.isEmpty then
    match poolId with
    | some pid => .error ("wifi resource pool " ++ toString pid ++ " is missing or inactive")
    | none => .error "No active wifi resource pools"
  else (deviceIds.foldlM (allocateDevice db pools poolId hostMap) (poolLoad db, [])).map Prod.snd

/-! ### Making jobs -/

/-- Why jobs could not be made: no capacity, a constraint of the database, or an exception. -/
inductive MaterializeError where
  | allocation (message : String)
  | integrity (constraint : String)
  | raised (e : PyError)

/-- Add the row of a job. The columns a new job does not set are empty. -/
def addJob (jobs : Table JobInstance) (planRunId deviceId : ℕ) (hostId : Option String)
    (status : JobStatus) (statusReason : Option String) (pipelineDef : PyVal)
    (startedAt endedAt : Option Time) (now : Time) : Except MaterializeError (Table JobInstance) :=
  if jobs.rows.any fun job => job.planRunId == planRunId && job.deviceId == deviceId then
    .error (.integrity "uq_job_instance_plan_run_device")
  else if status.isActive && jobs.rows.any fun job =>
      job.deviceId == deviceId && job.status.isActive then
    .error (.integrity "uq_job_active_per_device")
  else
    .ok (jobs.insert (fun id => {
      id := id, planRunId := planRunId, deviceId := deviceId, hostId := hostId, status := status
      statusReason := statusReason, pipelineDef := pipelineDef, startedAt := startedAt
      endedAt := endedAt, terminalPayloadDigest := none, disarmResults := .null
      disarmGuard := none, lastExecutionHeartbeatAt := none, lastProgressAt := none
      updatedAt := now }) fun _ => rfl)

/-- `run_context["wifi_pool_id"]`; the column it is compared with is an integer. -/
def requestedPoolId (run : PlanRunRow) : Except MaterializeError (Option ℤ) :=
  match run.runContext.get "wifi_pool_id" with
  | .null => .ok none
  | .int z => .ok (some z)
  | _ => .error (.raised .dataError)

/-- The Wi-Fi pools of the devices, where the lifecycle or the operator asks for Wi-Fi. -/
def wifiAllocations (db : AdmissionDb) (run : PlanRunRow) (lifecycle : PyVal)
    (deviceIds : List ℕ) (hostMap : List (ℕ × String)) :
    Except MaterializeError (List (ℕ × ResourcePool)) := do
  let requested ← requestedPoolId run
  let consumes := lifecycleConsumesWifi lifecycle
  let requested := if consumes then requested else none
  if lifecycleHasConnectWifiStep lifecycle || requested.isSome then
    match syncAllocateDevices db deviceIds requested hostMap with
    | .error message => .error (.allocation message)
    | .ok assignments => .ok assignments
  else .ok []

/-- The parameters the suite of a run adds, where it has one. -/
def suiteParamsOf (core : LifecycleCore) (run : PlanRunRow) : Except MaterializeError PyDict :=
  let suite := contextOf (run.runContext.get "dispatch_suite")
  if suite.isEmpty then .ok []
  else
    match core.stepParamsForDispatch suite with
    | .error e => .error (.raised e)
    | .ok params => .ok params

/-- `resolved_pipeline` of one device. -/
def resolvePipeline (core : LifecycleCore) (lifecycle : PyVal)
    (assignments : List (ℕ × ResourcePool)) (suiteParams : PyDict) (did : ℕ) :
    Except MaterializeError PyVal :=
  let pipeline := PyVal.dict [("lifecycle", lifecycle)]
  let pipeline := match assignments.lookup did with
    | none => pipeline
    | some pool => core.injectWifiParams pipeline (allocatedParams pool)
  if suiteParams.isEmpty then .ok pipeline
  else
    match core.injectSuiteParams pipeline suiteParams with
    | .error e => .error (.raised e)
    | .ok pipeline => .ok pipeline

/-- The job of a device, pending. -/
def addPendingJob (runId : ℕ) (hostMap : List (ℕ × String)) (now : Time)
    (jobs : Table JobInstance) (p : ℕ × PyVal) : Except MaterializeError (Table JobInstance) :=
  addJob jobs runId p.1 (hostMap.lookup p.1) .pending none p.2 none none now

/-- `materialize_jobs_and_allocations`. -/
def materializeJobsAndAllocations (core : LifecycleCore) (now : Time) (db : AdmissionDb)
    (run : PlanRunRow) (lifecycle : PyVal) (deviceIds : List ℕ) (hostMap : List (ℕ × String)) :
    Except MaterializeError (PlanRunRow × AdmissionDb) := do
  let assignments ← wifiAllocations db run lifecycle deviceIds hostMap
  let suiteParams ← suiteParamsOf core run
  let pipelines ← deviceIds.mapM (resolvePipeline core lifecycle assignments suiteParams)
  let jobs ← (deviceIds.zip pipelines).foldlM (addPendingJob run.id hostMap now) db.view.db.jobs
  let made := (jobs.rows.drop db.view.db.jobs.rows.length).filterMap fun job =>
    (assignments.lookup job.deviceId).map fun pool =>
      (⟨job.id, pool.id, job.deviceId, allocatedParams pool⟩ : ResourceAllocation)
  return ({ run with totalJobCount := deviceIds.length },
    { db.withJobs jobs with allocations := db.allocations ++ made })

/-! ### Rejected targets -/

/-- A target rejected for its serial number, as the context of the run has it. -/
def rejectedEntry : PyVal → Except MaterializeError (ℕ × Option String)
  | .dict items =>
    match items.lookup "id" with
    | none => .error (.raised .keyError)
    | some v =>
      match v.int?, PyDict.get items "host_id" with
      | none, _ => .error (.raised .valueError)
      | some (.ofNat did), .str host => .ok (did, some host)
      | some (.ofNat did), .null => .ok (did, none)
      | some (.negSucc _), _ => .error (.integrity "job_instance_device_id_fkey")
      | some (.ofNat _), _ => .error (.raised .dataError)
  | _ => .error (.raised .typeError)

/-- `run_context["dispatch_rejected_devices"]`. -/
def rejectedTargets (run : PlanRunRow) : Except MaterializeError (List (ℕ × Option String)) :=
  match (run.runContext.get "dispatch_rejected_devices").orElse (.list []) with
  | .list entries => entries.mapM rejectedEntry
  | _ => .error (.raised .typeError)

/-- Why a rejected target failed. -/
def serialConflictReason : String :=
  "序列号冲突：serial 为占位/重复值（跨 host 争抢同一序列号），设备被拒绝执行"

/-- The job of a rejected target, failed. -/
def addFailedJob (runId : ℕ) (lifecycle : PyVal) (now : Time) (jobs : Table JobInstance)
    (e : ℕ × Option String) : Except MaterializeError (Table JobInstance) :=
  addJob jobs runId e.1 e.2 .failed (some serialConflictReason)
    (.dict [("lifecycle", lifecycle)]) (some now) (some now) now

/-- `materialize_serial_rejected_jobs`. -/
def materializeSerialRejectedJobs (core : LifecycleCore) (now : Time) (db : AdmissionDb)
    (run : PlanRunRow) : Except MaterializeError (PlanRunRow × AdmissionDb) := do
  let rejected ← rejectedTargets run
  if rejected.isEmpty then return (run, db)
  match core.buildLifecycleFromSnapshot db.planSnapshot with
  | .error e => .error (.raised e)
  | .ok lifecycle =>
    let jobs ← rejected.foldlM (addFailedJob run.id lifecycle now) db.view.db.jobs
    return ({ run with
      totalJobCount := run.totalJobCount + rejected.length
      terminalJobCount := run.terminalJobCount + rejected.length
      failedJobCount := run.failedJobCount + rejected.length }, db.withJobs jobs)

/-! ### The transaction -/

/-- How the transaction ends without admitting the run: someone else owns it, it fails for good,
it may be tried again, or an exception comes through. -/
inductive AdmissionExit where
  | notOwner
  | fatal (reason : String) (detail : PyDict)
  | retryable (queueReason : String) (blockers : List PyVal)
  | raised (e : PyError)

/-- `_ADMISSION_SHRINK_RUN_TYPES`. -/
def admissionShrinkRunTypes : List String := ["SCHEDULE", "CHAIN"]

/-- `_operation_cap_from_host_extra`. -/
def operationCapFromHostExtra (extra : PyVal) : Option ℤ :=
  match (contextOf extra).get "operations" with
  | .dict operations =>
    match ((operations.lookup "max").getD (.int 0)).orElse (.int 0) |>.int? with
    | some value => if 0 < value then some value else none
    | none => none
  | _ => none

/-- `strftime("%Y-%m-%dT%H:%M:%S.%f") + "Z"` of a moment in UTC. -/
def utcText (t : Time) : String :=
  let (year, month, day) := civilFromDays (t / 86400000000)
  let us := (t % 86400000000).toNat
  let secs := us / 1000000
  zeroPad 4 year.toNat ++ "-" ++ zeroPad 2 month ++ "-" ++ zeroPad 2 day ++ "T" ++
    zeroPad 2 (secs / 3600) ++ ":" ++ zeroPad 2 (secs / 60 % 60) ++ ":" ++
    zeroPad 2 (secs % 60) ++ "." ++ zeroPad 6 (us % 1000000) ++ "Z"

/-- The context of a run that was admitted. -/
def admittedContext (now : Time) (excluded : Option (List Unavailable)) (runContext : PyDict) :
    PyDict :=
  let state := contextOf (runContext.get "dispatch_state")
  let state := state.set "status" (.str "completed")
  let state := if (state.get "started_at").truthy then state
    else state.set "started_at" (.str (utcText now))
  let state := (state.set "completed_at" (.str (utcText now))).set "last_error" .null
  let runContext := runContext.set "dispatch_state" (.dict state)
  match excluded with
  | none => runContext
  | some unavailable =>
    runContext.set "admission_excluded_devices" (.list (unavailable.map Unavailable.entry))

/-- The targets in their order. -/
def targetOrder (t t' : PlanRunTargetDevice) : Bool :=
  t.sortOrder < t'.sortOrder || (t.sortOrder == t'.sortOrder && t.deviceId ≤ t'.deviceId)

/-- The row of the run, when it is in precheck under this attempt. -/
def ownedRun (db : AdmissionDb) (attemptId : String) : Except AdmissionExit PlanRunRow :=
  match db.run with
  | none => .error .notOwner
  | some run =>
    if run.status = .precheck ∧ run.admissionAttemptId = some attemptId then .ok run
    else .error .notOwner

/-- The blocked devices of a target list that is not to shrink, or for good. -/
def fatalDevices (unavailable : List Unavailable) : Except AdmissionExit Unit :=
  let fatal := unavailable.filter Unavailable.fatal
  let detail := [("unavailable_devices", PyVal.list (fatal.map Unavailable.entry))]
  if fatal.isEmpty then .ok ()
  else if fatal.any fun u => u.reason == "host_retired" then .error (.fatal "HOST_RETIRED" detail)
  else .error (.fatal "devices_unavailable_at_admission" detail)

/-- The targets that are kept, with the devices that were left out. -/
def keptTargets (runType : String) (unavailable : List Unavailable)
    (targets : List PlanRunTargetDevice) :
    Except AdmissionExit (List PlanRunTargetDevice × Option (List Unavailable)) :=
  if unavailable.isEmpty then .ok (targets, none)
  else if admissionShrinkRunTypes.contains runType then
    let kept := targets.filter fun t => !(unavailable.map Unavailable.id).contains t.deviceId
    if kept.isEmpty then .error (.retryable "DEVICE_BUSY" (unavailable.map Unavailable.entry))
    else .ok (kept, some unavailable)
  else .error (.retryable "DEVICE_BUSY" (unavailable.map Unavailable.entry))

/-- A target that is no longer on its host. -/
def driftEntry (hostMap : List (ℕ × String)) (t : PlanRunTargetDevice) : PyVal :=
  .dict [("id", .int t.deviceId), ("reason", .str "host_drift"),
    ("host_id_snapshot", .str t.hostIdSnapshot),
    ("current_host_id", .ofStr? (hostMap.lookup t.deviceId))]

/-- Targets that are no longer on their hosts are not admitted. -/
def checkDrift (hostMap : List (ℕ × String)) (targets : List PlanRunTargetDevice) :
    Except AdmissionExit Unit :=
  let drifted := targets.filter fun t => hostMap.lookup t.deviceId ≠ some t.hostIdSnapshot
  if drifted.isEmpty then .ok ()
  else .error (.fatal "device_host_drift"
    [("drifted_devices", .list (drifted.map (driftEntry hostMap)))])

/-- What becomes of an error while jobs are made. -/
def MaterializeError.exit : MaterializeError → AdmissionExit
  | .allocation message => .retryable "RESOURCE_BUSY"
      [.dict [("reason", .str "wifi_pool_full"), ("error", .str message)]]
  | .integrity constraint =>
    if constraint = "uq_job_active_per_device" then
      .retryable "DEVICE_BUSY" [.dict [("reason", .str "device_claimed_concurrently")]]
    else .raised .integrityError
  | .raised e => .raised e

/-- What becomes of an error while the jobs of rejected targets are made. -/
def MaterializeError.uncaught : MaterializeError → AdmissionExit
  | .allocation message => .raised (.conflict message)
  | .integrity _ => .raised .integrityError
  | .raised e => .raised e

/-- What the run has on a host once it is admitted. -/
def admittedHost (db : AdmissionDb) (now : Time) (hostMap : List (ℕ × String))
    (deviceIds : List ℕ) (h : PlanRunHost) : PlanRunHost :=
  { h with
    status := "ADMITTED"
    admittedAt := some now
    admissionBatchSizeSnapshot := operationCapFromHostExtra
      (((db.view.hosts.find? fun row => row.id == h.hostId).map DispatchHost.extra).getD .null)
    totalJobCount := (deviceIds.filter fun did => hostMap.lookup did == some h.hostId).length }

/-- The row of a run that was admitted. -/
def admittedRun (now : Time) (excluded : Option (List Unavailable)) (run : PlanRunRow) :
    PlanRunRow :=
  { run with
    startedAt := some now
    queueReason := none
    nextAdmissionAt := none
    precheckStartedAt := none
    runContext := admittedContext now excluded run.runContext }

/-- The transaction up to its commit. -/
def admitRun (core : LifecycleCore) (now : Time) (attemptId : String) (db : AdmissionDb) :
    Except AdmissionExit AdmissionDb := do
  let run ← ownedRun db attemptId
  let all := db.targets.insertionSort fun t t' => targetOrder t t' = true
  if all.isEmpty then .error (.fatal "snapshot_missing_targets" [])
  else
    let (unavailable, fullMap) :=
      classifyDispatchDevices db.view now (all.map PlanRunTargetDevice.deviceId)
    fatalDevices unavailable
    let (targets, excluded) ← keptTargets run.runType unavailable all
    let hostMap := fullMap.filter fun p => !(unavailable.map Unavailable.id).contains p.1
    let deviceIds := targets.map PlanRunTargetDevice.deviceId
    checkDrift hostMap targets
    match core.buildLifecycleFromSnapshot db.planSnapshot with
    | .error e => .error (.raised e)
    | .ok lifecycle =>
      match materializeJobsAndAllocations core now db run lifecycle deviceIds hostMap with
      | .error e => .error e.exit
      | .ok (run, made) =>
        match materializeSerialRejectedJobs core now made run with
        | .error e => .error e.uncaught
        | .ok (run, made) =>
          match run.transition .running with
          | none => .error (.raised .valueError)
          | some run => .ok { made with
              run := some (admittedRun now excluded run)
              runHosts := db.runHosts.map (admittedHost db now hostMap deviceIds)
              targets := db.targets.filter fun t => targets.contains t }

/-- `admission_transaction`: how it ends early, if it does, and what the database has after it. -/
def admissionTransaction (core : LifecycleCore) (now : Time) (attemptId : String)
    (db : AdmissionDb) : Option AdmissionExit × AdmissionDb :=
  match admitRun core now attemptId db with
  | .error early => (some early, db)
  | .ok db' => (none, db')

/-! ### Counting later -/

/-- `recount_host_counters`: the counters of a host over the jobs of the run there. -/
def recountHostCounters (jobs : List JobStatus) (h : PlanRunHost) : PlanRunHost :=
  let completed := jobs.count .completed
  let failed := jobs.count .failed
  let aborted := jobs.count .aborted
  { h with
    terminalJobCount := completed + failed + aborted
    completedJobCount := completed
    failedJobCount := failed
    abortedJobCount := aborted }

end StabilityPlatform
