import StabilityPlatform.Lease.LeaseManager
import StabilityPlatform.Lib.RowLock
import StabilityPlatform.PlanRun.Classification

/-!
# The chain trigger, statement by statement

When a plan run ends well, the next plan of its chain is dispatched as a child run. The
immediate trigger (the async and the sync variant send the same statements), its failure
handler and the reconciler's repair of one parent work on the parent's row and its children.
A child is inserted, and the flag of the parent set, in one transaction under the lock of the
parent's row, so the children belong to the locked row. Jobs, devices, leases and plans change
at any time; each statement reads them as they are then.

A session that already has the parent as an object keeps the object's columns when it selects
the row again, so a trigger may work with columns that are older than the row.

## Main results

* `chainProgram`: the statements of the trigger, the failure handler and the repair.
* `reconcilePlanChains`: the parents the periodic reconciler repairs.
-/

namespace StabilityPlatform

open Lib Lib.RowLock

/-! ### Rows -/

/-- A finished plan run, as its chain sees it. -/
structure ChainParent where
  id : ℕ
  planId : ℤ
  status : PlanRunStatus
  planSnapshot : PyVal
  runContext : PyDict
  resultSummary : PyDict
  triggeredBy : Option String
  endedAt : Option Time
  rootPlanRunId : Option ℕ
  chainIndex : ℕ
  nextPlanTriggered : Bool

/-- Why a device is left out of the next run. -/
inductive ExcludeReason where
  | deviceRetired
  | offlineStale
  | offlineNoLastSeen
  deriving DecidableEq

/-- A device that is left out of the next run. -/
structure ExcludedDevice where
  deviceId : ℕ
  status : DeviceStatus
  jobStatus : JobStatus
  lastSeen : Option Time
  reason : Option ExcludeReason

/-- A child run, queued. -/
structure ChainChild where
  planId : ℤ
  triggeredBy : String
  rootPlanRunId : ℕ
  chainIndex : ℕ
  deviceIds : List ℕ
  chainExcludedDevices : List ExcludedDevice

/-- What the lock of a parent's row guards: the row and the children, in order of their
ids. -/
structure ChainRows where
  parent : Option ChainParent
  children : List ChainChild

/-- A job of the parent, joined with its device. -/
structure ChainDevice where
  deviceId : ℕ
  jobStatus : JobStatus
  status : DeviceStatus
  lastSeen : Option Time
  retiredAt : Option Time

/-- What a statement sees beside the rows of the parent. -/
structure ChainView where
  now : Time
  plans : List (ℤ × Option ℤ)
  devices : List ChainDevice
  leased : List ℕ
  laterRuns : ℕ
  chainTriggerSettleSeconds : ℤ
  chainTriggerSettleReadyGateEnabled : Bool
  hostHeartbeatTimeoutSeconds : ℤ
  prepareError : Option String

/-- The columns of a parent a session may have from before. -/
structure LoadedColumns where
  status : PlanRunStatus
  endedAt : Option Time
  runContext : PyDict
  nextPlanTriggered : Bool

/-- A parent in a session that may have had it before. -/
def ChainParent.inSession (row : ChainParent) : Option LoadedColumns → ChainParent
  | none => row
  | some loaded => { row with
      status := loaded.status
      endedAt := loaded.endedAt
      runContext := loaded.runContext
      nextPlanTriggered := loaded.nextPlanTriggered }

/-- The columns of a parent as a session has them. -/
def ChainParent.columns (parent : ChainParent) : LoadedColumns :=
  ⟨parent.status, parent.endedAt, parent.runContext, parent.nextPlanTriggered⟩

/-- The parent with its flag written. -/
def ChainParent.setTriggered (triggered : Bool) (parent : ChainParent) : ChainParent :=
  { parent with nextPlanTriggered := triggered }

/-- The parent with its context written. -/
def ChainParent.setRunContext (runContext : PyDict) (parent : ChainParent) : ChainParent :=
  { parent with runContext := runContext }

/-- Writing to the row of the parent. -/
def ChainRows.update (s : ChainRows) (f : ChainParent → ChainParent) : ChainRows :=
  { s with parent := s.parent.map f }

/-- Whether there is a child for a plan. -/
def ChainRows.hasChild (s : ChainRows) (planId : ℤ) : Bool :=
  s.children.any fun c => c.planId == planId

/-! ### Which plan comes next -/

/-- The statuses a chain goes on after. -/
def PlanRunStatus.triggerable : PlanRunStatus → Bool
  | .success | .partialSuccess => true
  | _ => false

/-- The next plan as the snapshot has it; `none` when it has no such key. -/
def nextPlanIdFromSnapshot (planSnapshot : PyVal) : Option PyVal :=
  match (planSnapshot.orElse (.dict [])).asDict? with
  | none => none
  | some snapshot =>
    match ((snapshot.get "plan").orElse (.dict [])).asDict? with
    | none => none
    | some planData => planData.lookup "next_plan_id"

/-- A plan id in a snapshot. Dispatch writes an integer or null. -/
def planIdOf : PyVal → Option ℤ
  | .int z => some z
  | _ => none

/-- The next plan: from the snapshot, else from the plan as it is now. -/
def resolveNextPlanId (r : ChainView) (planRun : ChainParent) : Option ℤ :=
  match nextPlanIdFromSnapshot planRun.planSnapshot with
  | some nextPlanId => planIdOf nextPlanId
  | none => (r.plans.lookup planRun.planId).join

/-! ### Visibility of a gap -/

/-- The plans that come after a plan, followed for at most so many steps. -/
def chainLength (r : ChainView) : ℕ → List ℤ → Option ℤ → ℕ
  | 0, _, _ => 0
  | _ + 1, _, none => 0
  | depth + 1, seen, some cursorId =>
    if seen.contains cursorId then 0
    else 1 + chainLength r depth (cursorId :: seen) (r.plans.lookup cursorId).join

/-- How many runs the chain still lacks. -/
def chainMissingSegments (r : ChainView) (planRun : ChainParent) : ℕ :=
  chainLength r 20 [] (resolveNextPlanId r planRun) - r.laterRuns

/-- Whether a gap was signaled before. -/
def ChainParent.gapSignaled (planRun : ChainParent) : Bool :=
  (planRun.runContext.get "chain_visibility_gap_signaled").truthy

/-- The context with the mark of a signaled gap. -/
def markChainGapSignaled (runContext : PyDict) (now : Time) (reason : String)
    (missing : ℕ) : PyDict :=
  runContext.set "chain_visibility_gap_signaled" (.dict [("at", .str (isoformat now)),
    ("reason", .str reason), ("missing_segments", .int missing)])

/-! ### Devices -/

/-- A device left out, and why. -/
def ChainDevice.exclude (d : ChainDevice) (reason : Option ExcludeReason) : ExcludedDevice :=
  ⟨d.deviceId, d.status, d.jobStatus, d.lastSeen, reason⟩

/-- The devices of the next run, and those left out: a device whose job completed comes
along whatever its status, the others when they are online or were seen just now. -/
def selectChainDevices (rows : List ChainDevice) (cutoff : Time) :
    List ℕ × List ExcludedDevice :=
  rows.foldl (fun acc d =>
    if d.retiredAt.isSome then (acc.1, acc.2 ++ [d.exclude (some .deviceRetired)])
    else if d.jobStatus = .completed ∨ d.status = .online ∨
        (d.status = .offline ∧ d.lastSeen.any (cutoff ≤ ·)) then (acc.1 ++ [d.deviceId], acc.2)
    else (acc.1, acc.2 ++ [d.exclude
      (if d.status ≠ .offline then none
        else if d.lastSeen.isSome then some .offlineStale else some .offlineNoLastSeen)]))
    ([], [])

/-- What was seen before this is stale. -/
def ChainView.cutoff (r : ChainView) : Time := r.now.addSeconds (-r.hostHeartbeatTimeoutSeconds)

/-- How much of the settle window is left. -/
def settleWaitLeft (r : ChainView) (parent : ChainParent) : ℤ :=
  match parent.endedAt with
  | none => 0
  | some endedAt =>
    if r.chainTriggerSettleSeconds ≤ 0 then 0
    else r.chainTriggerSettleSeconds * 1000000 - (r.now - endedAt)

/-- Whether the devices of the next run are ready: none is left out, all are online, and none
is leased. -/
def settleReadyDecision (r : ChainView) : Bool :=
  let (deviceIds, excluded) := selectChainDevices r.devices r.cutoff
  !r.devices.isEmpty && !deviceIds.isEmpty && excluded.isEmpty &&
    r.devices.all (fun d => !deviceIds.contains d.deviceId || d.status == .online) &&
    !deviceIds.any r.leased.contains

/-! ### Points -/

/-- Where a trigger is, with the parent as its session has it. -/
inductive TriggerPoint where
  | lock (loaded : Option LoadedColumns)
  | resolve (parent : ChainParent)
  | existing (parent : ChainParent) (nextPlanId : ℤ)
  | settle (parent : ChainParent) (nextPlanId : ℤ)
  | devices (parent : ChainParent) (nextPlanId : ℤ)
  | prepare (parent : ChainParent) (nextPlanId : ℤ) (deviceIds : List ℕ)
      (excluded : List ExcludedDevice)

/-- Where the handler of a failed preparation is. -/
inductive RollbackPoint where
  | get
  | resolve (planRun : ChainParent)
  | child (planRun : ChainParent) (nextPlanId : ℤ)
  | write (planRun : ChainParent) (childExists : Bool)

/-- Where the repair of a parent is. -/
inductive ReconcilePoint where
  | lock (loaded : Option LoadedColumns)
  | child (parent : ChainParent)
  | reset
  | refresh

/-- Where a call is. -/
inductive ChainPoint where
  | trigger (respectSettle : Bool) (p : TriggerPoint)
  | mark
  | gap (parent : ChainParent) (missing : ℕ)
  | rollback (error : String) (p : RollbackPoint)
  | reconcile (p : ReconcilePoint)

/-- A statement of a call. -/
abbrev ChainStmt := Stmt ChainRows ChainView ChainPoint

/-! ### Statements -/

/-- The child a trigger prepares. -/
def chainChild (parent : ChainParent) (nextPlanId : ℤ) (deviceIds : List ℕ)
    (excluded : List ExcludedDevice) : ChainChild where
  planId := nextPlanId
  triggeredBy := match parent.triggeredBy with
    | none => "chain"
    | some triggeredBy => if triggeredBy = "" then "chain" else triggeredBy
  rootPlanRunId := parent.rootPlanRunId.getD parent.id
  chainIndex := parent.chainIndex + 1
  deviceIds := deviceIds
  chainExcludedDevices := excluded

/-- The statements of the trigger. The child and the flag are committed together; the unique
index refuses a second child for a plan. -/
def triggerStmt (respectSettle : Bool) : TriggerPoint → ChainStmt
  | .lock loaded => .lock fun s _ =>
    match s.parent with
    | none => (.finish, .keep)
    | some row =>
      if (row.inSession loaded).status.triggerable then
        (.goto (.trigger respectSettle (.resolve (row.inSession loaded))), .put s)
      else (.finish, .put s)
  | .resolve parent => .read fun _ r =>
    match resolveNextPlanId r parent with
    | none => .finish
    | some nextPlanId => .goto (.trigger respectSettle (.existing parent nextPlanId))
  | .existing parent nextPlanId => .read fun s _ =>
    if s.hasChild nextPlanId then
      if parent.nextPlanTriggered then .finish else .goto .mark
    else if parent.nextPlanTriggered then .finish
    else if respectSettle then .goto (.trigger respectSettle (.settle parent nextPlanId))
    else .goto (.trigger respectSettle (.devices parent nextPlanId))
  | .settle parent nextPlanId => .read fun _ r =>
    if 0 < settleWaitLeft r parent ∧
        (r.chainTriggerSettleReadyGateEnabled && settleReadyDecision r) = false then .finish
    else .goto (.trigger respectSettle (.devices parent nextPlanId))
  | .devices parent nextPlanId => .read fun _ r =>
    let (deviceIds, excluded) := selectChainDevices r.devices r.cutoff
    if deviceIds.isEmpty then
      if 0 < chainMissingSegments r parent && !parent.gapSignaled then
        .goto (.gap parent (chainMissingSegments r parent))
      else .finish
    else .goto (.trigger respectSettle (.prepare parent nextPlanId deviceIds excluded))
  | .prepare parent nextPlanId deviceIds excluded => .lock fun s r =>
    match r.prepareError with
    | some error => (.rollback (some (.rollback error .get)), .keep)
    | none =>
      if s.hasChild nextPlanId then
        (.rollback (some (.rollback "uniq_plan_run_chain_child" .get)), .keep)
      else (.commit none, .put { s.update (.setTriggered true) with
        children := s.children ++ [chainChild parent nextPlanId deviceIds excluded] })

/-- What the handler writes to the row: the failure, and no flag when there is no child. It
writes the columns it changed, from the parent it read. -/
def recordChainDispatchFailure (r : ChainView) (error : String) (planRun : ChainParent)
    (childExists : Bool) (row : ChainParent) : ChainParent :=
  let missing := if childExists then 0 else chainMissingSegments r planRun
  { row with
    resultSummary := planRun.resultSummary.set "chain_dispatch_failed" (.dict
      [("at", .str (isoformat r.now)), ("error", .str (String.ofList (error.toList.take 500))),
        ("child_already_created", .bool childExists)])
    nextPlanTriggered :=
      if !childExists && planRun.nextPlanTriggered then false else row.nextPlanTriggered
    runContext :=
      if 0 < missing && !planRun.gapSignaled then
        markChainGapSignaled planRun.runContext r.now "dispatch_failed" missing
      else row.runContext }

/-- The statements of the handler of a failed preparation; it reads without the lock. -/
def rollbackStmt (error : String) : RollbackPoint → ChainStmt
  | .get => .read fun s _ =>
    match s.parent with
    | none => .finish
    | some planRun => .goto (.rollback error (.resolve planRun))
  | .resolve planRun => .read fun _ r =>
    match resolveNextPlanId r planRun with
    | none => .goto (.rollback error (.write planRun false))
    | some nextPlanId => .goto (.rollback error (.child planRun nextPlanId))
  | .child planRun nextPlanId => .read fun s _ =>
    .goto (.rollback error (.write planRun (s.hasChild nextPlanId)))
  | .write planRun childExists => .lock fun s r =>
    (.commit none, .put (s.update (recordChainDispatchFailure r error planRun childExists)))

/-- The statements of the repair of a parent: a flag without a child is cleared, then the
next plan is triggered. -/
def reconcileStmt : ReconcilePoint → ChainStmt
  | .lock loaded => .lock fun s _ =>
    match s.parent with
    | none => (.finish, .keep)
    | some row =>
      if (row.inSession loaded).status.triggerable then
        (.goto (.reconcile (.child (row.inSession loaded))), .put s)
      else (.finish, .put s)
  | .child parent => .read fun s _ =>
    if s.children.isEmpty then
      if parent.nextPlanTriggered then .goto (.reconcile .reset)
      else .goto (.trigger true (.lock (some parent.columns)))
    else if parent.nextPlanTriggered then .finish
    else .goto .mark
  | .reset => .lock fun s _ =>
    (.commit (some (.reconcile .refresh)), .put (s.update (.setTriggered false)))
  | .refresh => .read fun s _ =>
    match s.parent with
    | none => .finish
    | some row => .goto (.trigger true (.lock (some row.columns)))

/-- The statement at each point. -/
def chainStmt (_ : ℕ) : ChainPoint → ChainStmt
  | .trigger respectSettle p => triggerStmt respectSettle p
  | .mark => .lock fun s _ =>
    (.commit none, .put (s.update (.setTriggered true)))
  | .gap parent missing => .lock fun s r =>
    (.commit none, .put (s.update (.setRunContext
      (markChainGapSignaled parent.runContext r.now "no_healthy_devices" missing))))
  | .rollback error p => rollbackStmt error p
  | .reconcile p => reconcileStmt p

/-- Where calls start. -/
def chainEntry : ChainPoint → Bool
  | .trigger _ (.lock _) | .reconcile (.lock _) => true
  | _ => false

/-- The trigger, its handler and the repair, statement by statement. -/
def chainProgram : Program ℕ ChainRows ChainView ChainPoint where
  entry := fun _ => chainEntry
  stmt := chainStmt

/-! ### The reconciler -/

/-- What the reconciler looks for: a parent that ended well, whose snapshot has a next plan,
and which is not triggered or has no child. -/
def ChainRows.reconcilable (s : ChainRows) : Bool :=
  s.parent.any fun parent => parent.status.triggerable &&
    ((nextPlanIdFromSnapshot parent.planSnapshot).bind planIdOf).isSome &&
    (!parent.nextPlanTriggered || s.children.isEmpty)

/-- The parents one pass of the reconciler repairs, of the plan runs there are. -/
def reconcilePlanChains (planRuns : List ℕ) (chainReconcileBatchSize : ℕ)
    (committed : ℕ → ChainRows) : List ℕ :=
  ((planRuns.filter fun k => (committed k).reconcilable).insertionSort (· ≤ ·)).take
    chainReconcileBatchSize

end StabilityPlatform
