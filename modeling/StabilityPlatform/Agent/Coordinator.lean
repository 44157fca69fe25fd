import StabilityPlatform.Agent.PlanRunHostView
import StabilityPlatform.Core.PyVal

/-!
# The coordinator of a host and its heartbeats

The coordinator of an agent process reports, for every plan run it has a view of, the epoch
of the view. It persists epochs in the local database of the host, so that the next process
starts above them. The control plane takes a report unless the host is bound to another
agent instance, or the row of the plan run has a larger epoch; the answer names the rows it
did not take, with their epochs, and the coordinator moves above them.
-/

namespace StabilityPlatform

/-! ### The agent -/

/-- The epochs in the local database of a host: the rows `coord_epoch:{host}:{prh}`. -/
abbrev EpochRows := List (ℕ × ℤ)

namespace EpochRows

/-- The persisted epoch, by default one. -/
def getState (rows : EpochRows) (id : ℕ) : ℤ := (rows.lookup id).getD 1

/-- Persist an epoch. -/
def setState (rows : EpochRows) (id : ℕ) (epoch : ℤ) : EpochRows :=
  (id, epoch) :: rows.filter fun p => p.1 ≠ id

/-- Delete a persisted epoch. -/
def deleteState (rows : EpochRows) (id : ℕ) : EpochRows := rows.filter fun p => p.1 ≠ id

end EpochRows

/-- The coordinator of one agent process. -/
structure HostRunCoordinator where
  hostId : String
  agentInstanceId : String
  planRunHosts : List PlanRunHostView
  jobPrh : List (ℕ × ℕ)
  maxProjections : ℕ
  stopped : Bool

namespace HostRunCoordinator

/-- The view of a row. -/
def view? (c : HostRunCoordinator) (id : ℕ) : Option PlanRunHostView :=
  c.planRunHosts.find? fun v => v.id = id

/-- Change the view of a row. -/
def setView (c : HostRunCoordinator) (view : PlanRunHostView) : HostRunCoordinator :=
  { c with planRunHosts := c.planRunHosts.map fun v => if v.id = view.id then view else v }

/-- Drop the views of some rows. -/
def dropViews (c : HostRunCoordinator) (ids : List ℕ) : HostRunCoordinator :=
  { c with planRunHosts := c.planRunHosts.filter fun v => !ids.contains v.id }

/-- Start the heartbeat loop: restored epochs move on. -/
def start (c : HostRunCoordinator) (db : EpochRows) : HostRunCoordinator × EpochRows :=
  let views := c.planRunHosts.map fun v => { v with epoch := db.getState v.id }.bumpEpoch
  ({ c with planRunHosts := views, stopped := false },
    views.foldl (fun db v => db.setState v.id v.epoch) db)

/-- The views no running job works for. -/
def reclaimable (c : HostRunCoordinator) : List ℕ :=
  (c.planRunHosts.map PlanRunHostView.id).filter fun id =>
    !(c.jobPrh.map Prod.snd).contains id

/-- Have a view of a row; a new one starts above the persisted epoch. -/
def registerPlanRunHost (c : HostRunCoordinator) (db : EpochRows) (hostRowId planRunId : ℕ) :
    HostRunCoordinator × EpochRows :=
  if (c.view? hostRowId).isSome then (c, db)
  else
    let reclaimed := if c.maxProjections ≤ c.planRunHosts.length then c.reclaimable else []
    let view := { PlanRunHostView.new hostRowId planRunId c.hostId with
      epoch := db.getState hostRowId }.bumpEpoch
    let c := c.dropViews reclaimed
    ({ c with planRunHosts := c.planRunHosts ++ [view] },
      reclaimed.foldl EpochRows.deleteState (db.setState hostRowId view.epoch))

/-- A job starts for a row. -/
def registerJob (c : HostRunCoordinator) (jobId : ℕ) (prhId : Option ℕ) : HostRunCoordinator :=
  match prhId with
  | some prhId =>
    { c with jobPrh := (jobId, prhId) :: c.jobPrh.filter fun p => p.1 ≠ jobId }
  | none => c

/-- A job is over; with the last one of a row its view goes, and the persisted epoch. -/
def deregisterJob (c : HostRunCoordinator) (db : EpochRows) (jobId : ℕ) :
    HostRunCoordinator × EpochRows :=
  match c.jobPrh.lookup jobId with
  | none => (c, db)
  | some prhId =>
    let c := { c with jobPrh := c.jobPrh.filter fun p => p.1 ≠ jobId }
    if (c.jobPrh.map Prod.snd).contains prhId ∨ (c.view? prhId).isNone then (c, db)
    else (c.dropViews [prhId], db.deleteState prhId)

end HostRunCoordinator

/-! ### The messages -/

/-- What a heartbeat reports of one plan run. -/
structure PlanRunHostEntry where
  id : ℕ
  planRunId : ℕ
  hostId : String
  phase : String
  coordinatorEpoch : ℤ
  deriving DecidableEq

/-- A coordinator heartbeat, without its jobs. -/
structure CoordinatorHeartbeatIn where
  hostId : String
  agentInstanceId : String
  planRunHosts : List PlanRunHostEntry
  deriving DecidableEq

/-- The answer to a heartbeat. -/
structure CoordinatorHeartbeatOut where
  accepted : Bool
  stalePlanRunHostIds : List ℕ
  agentInstanceStale : Bool
  currentCoordinatorEpochs : List (ℕ × ℤ)
  deriving DecidableEq

namespace HostRunCoordinator

/-- The heartbeat of a tick; none without views. -/
def tick (c : HostRunCoordinator) : Option CoordinatorHeartbeatIn :=
  if c.planRunHosts = [] then none
  else some ⟨c.hostId, c.agentInstanceId, c.planRunHosts.map fun v =>
    ⟨v.id, v.planRunId, v.hostId, v.phase, v.epoch⟩⟩

/-- Move above the epoch of a row, or drop the view of a row that is gone. -/
def reconcileStale (epochs : List (ℕ × ℤ)) (state : HostRunCoordinator × EpochRows)
    (id : ℕ) : HostRunCoordinator × EpochRows :=
  match state.1.view? id with
  | none => state
  | some view =>
    match epochs.lookup id with
    | none => (state.1.dropViews [id], state.2)
    | some epoch =>
      let view := view.rebaseEpoch epoch
      (state.1.setView view, state.2.setState id view.epoch)

/-- The coordinator reads the answer to a heartbeat. -/
def receive (c : HostRunCoordinator) (db : EpochRows) (out : CoordinatorHeartbeatOut) :
    HostRunCoordinator × EpochRows :=
  if out.agentInstanceStale then ({ c with stopped := true }, db)
  else out.stalePlanRunHostIds.foldl (reconcileStale out.currentCoordinatorEpochs) (c, db)

end HostRunCoordinator

/-! ### The control plane -/

/-- A row of `plan_run_host`. -/
structure PlanRunHostRow where
  id : ℕ
  hostId : String
  coordinatorEpoch : ℤ
  coordinatorHeartbeatAt : Option Time
  phase : String
  deriving DecidableEq

/-- The tables a coordinator heartbeat reads and writes. -/
structure CoordinatorDb where
  /-- The hosts, with the `last_agent_instance_id` of each. -/
  hosts : List (String × String)
  planRunHosts : List PlanRunHostRow
  deriving DecidableEq

namespace CoordinatorDb

/-- The phases a heartbeat may report. -/
def validCoordinatorPhases : List String := ["INIT", "BARRIER_WAIT", "PATROL", "TEARDOWN"]

/-- The row with a given id. -/
def row? (db : CoordinatorDb) (id : ℕ) : Option PlanRunHostRow :=
  db.planRunHosts.find? fun r => r.id = id

/-- Change the row with the id of the given one. -/
def saveRow (db : CoordinatorDb) (row : PlanRunHostRow) : CoordinatorDb :=
  { db with planRunHosts := db.planRunHosts.map fun r => if r.id = row.id then row else r }

/-- Whether the host is bound to another process than the one that reports. -/
def agentInstanceStale (db : CoordinatorDb) (payload : CoordinatorHeartbeatIn) : Bool :=
  match db.hosts.lookup payload.hostId with
  | none => false
  | some stored =>
    let stored := pyStrip stored
    let reported := pyStrip payload.agentInstanceId
    stored ≠ "" && reported ≠ "" && stored ≠ reported

/-- What the entries of a heartbeat have led to so far: the database, the rows that were not
taken with their epochs, and the rows that were. -/
structure HeartbeatState where
  db : CoordinatorDb
  stale : List (ℕ × ℤ)
  taken : List (ℕ × ℤ)

/-- One entry of a heartbeat. -/
def recordEntry (hostId : String) (now : Time) (s : HeartbeatState)
    (entry : PlanRunHostEntry) : HeartbeatState :=
  if entry.id = 0 ∨ entry.planRunId = 0 ∨ entry.hostId = "" then s
  else
    match s.db.row? entry.id with
    | none => s
    | some row =>
      if row.hostId ≠ hostId ∨ entry.coordinatorEpoch < row.coordinatorEpoch then
        { s with stale := s.stale ++ [(entry.id, row.coordinatorEpoch)] }
      else
        { s with
          db := s.db.saveRow { row with
            coordinatorEpoch := max row.coordinatorEpoch entry.coordinatorEpoch
            coordinatorHeartbeatAt := some now
            phase := if validCoordinatorPhases.contains entry.phase then entry.phase
              else row.phase }
          taken := s.taken ++ [(entry.id, entry.coordinatorEpoch)] }

/-- The control plane handles a heartbeat: the answer, the database, and the rows taken. -/
def recordAgentCoordinatorHeartbeat (db : CoordinatorDb) (payload : CoordinatorHeartbeatIn)
    (now : Time) : CoordinatorHeartbeatOut × CoordinatorDb × List (ℕ × ℤ) :=
  if db.agentInstanceStale payload then
    let stale := payload.planRunHosts.filterMap fun entry =>
      if entry.id = 0 then none
      else (db.row? entry.id).map fun row => (entry.id, row.coordinatorEpoch)
    (⟨false, stale.map Prod.fst, true, stale.reverse⟩, db, [])
  else
    let entries := payload.planRunHosts.insertionSort fun a b => a.id ≤ b.id
    let s := entries.foldl (recordEntry payload.hostId now) ⟨db, [], []⟩
    (⟨s.stale = [], s.stale.map Prod.fst, false, s.stale.reverse⟩, s.db, s.taken)

/-- A host heartbeat or a recovery sync binds the host to the process that sends it. -/
def bindHost (db : CoordinatorDb) (hostId agentInstanceId : String) : CoordinatorDb :=
  if agentInstanceId = "" then db
  else { db with hosts := (hostId, agentInstanceId) :: db.hosts.filter fun p => p.1 ≠ hostId }

end CoordinatorDb

end StabilityPlatform
