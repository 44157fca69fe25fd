import StabilityPlatform.Core.PyVal
import StabilityPlatform.Core.Models
import StabilityPlatform.Lib.Fold
import StabilityPlatform.Lib.Run

/-!
# Device log events

An agent registers the directories of device logs it finds and then reports, patch by patch, how
far their upload is. A patch names its row by a key the agent has chosen; a row that is not there
is inserted. The control plane writes to the rows as well: it assigns them to a plan run, marks
those a scan refers to for upload, moves directories that were uploaded before their rows were
assigned, and marks what was extracted as archived.

What the code reads from the hosts, the jobs and the file system is a `EventContext`.

## Main results

* `ingestEvent`, `ingestAgentDeviceLogEvents`: one patch, and a batch of them.
* `EventDb.step`: the accepted patches and the writes of the control plane.
* `ingest_batch_run`: an accepted batch is a run of accepted patches.
-/

namespace StabilityPlatform

open Lib

/-! ### States -/

/-- `EventState`. -/
inductive EventState where
  | detected
  | pullFailed
  | localOnly
  | uploadPending
  | uploading
  | uploadFailed
  | remote
  | archived
  | pruned
  deriving DecidableEq, Repr

namespace EventState

/-- The text of a state. -/
def value : EventState → String
  | detected => "DETECTED"
  | pullFailed => "PULL_FAILED"
  | localOnly => "LOCAL"
  | uploadPending => "UPLOAD_PENDING"
  | uploading => "UPLOADING"
  | uploadFailed => "UPLOAD_FAILED"
  | remote => "REMOTE"
  | archived => "ARCHIVED"
  | pruned => "PRUNED"

/-- All states. -/
def all : List EventState :=
  [detected, pullFailed, localOnly, uploadPending, uploading, uploadFailed, remote, archived,
    pruned]

/-- The state with a text. -/
def ofValue? (s : String) : Option EventState := all.find? fun state => state.value == s

/-- `_EXTRACTABLE_STATES`, and `_REMOTE_STATES`: the copy in the storage is the authoritative
one. -/
def extractable : EventState → Bool
  | remote | archived | pruned => true
  | _ => false

/-- `_TRANSITIONS_LITERAL`. -/
def transitionsLiteral : EventState → List EventState
  | detected => [localOnly, uploadPending, uploading]
  | pullFailed => [localOnly, uploadPending, uploading, remote]
  | localOnly => [uploadPending, uploading, uploadFailed, remote, pruned]
  | uploadPending => [localOnly, uploading, uploadFailed, remote, pruned]
  | uploading => [uploadPending, uploadFailed, remote, pruned]
  | uploadFailed => [localOnly, uploadPending, uploading, remote, pruned]
  | remote => [archived, pruned]
  | archived => [pruned]
  | pruned => []

/-- `_ALLOWED_TRANSITIONS`: a source may become unreachable in any state that is not final. -/
def allowedTransitions (src : EventState) : List EventState :=
  if src.extractable then src.transitionsLiteral else src.transitionsLiteral ++ [pullFailed]

/-- `_MARKABLE_EVENT_STATES`. -/
def markable : EventState → Bool
  | detected | localOnly | uploadPending | uploading | uploadFailed => true
  | pullFailed | remote | archived | pruned => false

/-- `_AWAITING_UPLOAD_STATES`. -/
def awaitingUpload : EventState → Bool
  | detected | localOnly => true
  | _ => false

end EventState

/-- `resolve_initial_upload_state`: types that no scan refers to are uploaded at once. -/
def resolveInitialUploadState (eventType : String) (requested : EventState) : EventState :=
  if pyUpper (pyStrip eventType) = "UNIVIEW" ∧ requested.awaitingUpload = true then .uploadPending
  else requested

/-- What is extractable is left as it is, and nothing becomes extractable. -/
theorem extractable_resolveInitialUploadState (eventType : String) (requested : EventState) :
    (resolveInitialUploadState eventType requested).extractable = requested.extractable := by
  rw [resolveInitialUploadState]
  split
  · rename_i h
    revert h
    cases requested with
    | detected => exact fun _ => rfl
    | localOnly => exact fun _ => rfl
    | _ => exact fun h => absurd h.2 (by decide)
  · rfl

/-! ### Rows and patches -/

/-- A row of `device_log_event`. -/
structure DeviceLogEvent where
  id : ℕ
  serial : String
  platform : String
  eventType : String
  eventSubtype : Option String
  detectedAt : Time
  deviceTimestamp : Option Time
  state : EventState
  localPath : String
  remotePath : Option String
  sizeBytes : Option ℤ
  checksum : Option String
  occurrenceKey : Option String
  planRunId : Option ℕ
  hostId : String
  jobId : Option ℕ
  signalSeqNo : Option ℤ
  createdAt : Time
  updatedAt : Time
  deriving DecidableEq, Repr

/-- `DeviceLogEventIn`. -/
structure DeviceLogEventIn where
  id : Option String
  serial : String
  platform : String
  eventType : String
  eventSubtype : Option String
  detectedAt : String
  deviceTimestamp : Option String
  state : String
  localPath : String
  remotePath : Option String
  sizeBytes : Option ℤ
  checksum : Option String
  occurrenceKey : Option String
  hddSpill : Bool
  planRunId : Option ℕ
  hostId : String
  jobId : Option ℕ
  linkSignalSeqNo : Option ℤ
  deriving DecidableEq, Repr

/-- What a patch is refused with. -/
inductive DleError where
  | badRequest (message : String)
  | notFound (message : String)
  | forbidden (message : String)
  | conflict (code message : String)
  | integrityError
  deriving DecidableEq, Repr

/-- What a job says of its host and its plan run. -/
structure JobPlace where
  hostId : Option String
  planRunId : Option ℕ

/-- What the code reads besides the rows: keys and times in texts, hosts, jobs, and paths. -/
structure EventContext where
  uuid : String → Option ℕ
  parseIsoDt : String → Option Time
  hosts : String → Bool
  jobs : ℕ → Option JobPlace
  uuidText : ℕ → String
  /-- A path in the device directory of the storage, with its links resolved, or why it is
  none. -/
  resolve : String → Except String String
  runScope : ℕ → String
  unassignedScope : ℕ → String
  isRelativeTo : String → String → Bool
  resolve_ne_empty : ∀ raw, resolve raw ≠ .ok ""

/-- An entry of the spill ledger. -/
structure SpillEntry where
  dleId : ℕ
  planRunId : ℕ
  platform : String
  sizeBytes : ℤ
  spilledAt : Time
  deriving DecidableEq, Repr

/-- The rows, and the spill ledger. -/
structure EventDb where
  rows : List DeviceLogEvent
  spills : List SpillEntry
  deriving DecidableEq, Repr

namespace EventDb

/-- `db.get`. -/
def get? (db : EventDb) (id : ℕ) : Option DeviceLogEvent := db.rows.find? fun r => r.id == id

/-- Rewrite rows. -/
def update (db : EventDb) (p : DeviceLogEvent → Bool) (f : DeviceLogEvent → DeviceLogEvent) :
    EventDb :=
  { db with rows := db.rows.map fun r => if p r then f r else r }

/-- Write a row back. -/
def save (db : EventDb) (row : DeviceLogEvent) : EventDb :=
  db.update (fun r => r.id == row.id) fun _ => row

/-- Add a row. -/
def add (db : EventDb) (row : DeviceLogEvent) : EventDb := { db with rows := db.rows ++ [row] }

/-- Rows by key after an update that keeps the keys. -/
theorem get?_update (db : EventDb) {p : DeviceLogEvent → Bool}
    {f : DeviceLogEvent → DeviceLogEvent} (hf : ∀ r, p r = true → (f r).id = r.id) (i : ℕ) :
    (db.update p f).get? i = (db.get? i).map fun r => if p r then f r else r := by
  simp only [get?, update, List.find?_map]
  congr 1
  refine congrArg (fun q => List.find? q db.rows) (funext fun r => ?_)
  by_cases h : p r = true
  · simp [h, hf r h]
  · simp [h]

/-- A row that is read has the key. -/
theorem id_of_get? {db : EventDb} {i : ℕ} {r : DeviceLogEvent} (h : db.get? i = some r) :
    r.id = i := by
  have hid := List.find?_some h
  exact beq_iff_eq.mp hid

/-- Rows by key after one was written back. -/
theorem get?_save {db : EventDb} {row r : DeviceLogEvent} {i : ℕ} (h : db.get? i = some r) :
    (db.save row).get? i = some (if i = row.id then row else r) := by
  rw [save, get?_update _ (fun r hr => (beq_iff_eq.mp hr).symm), h, Option.map_some,
    id_of_get? h]
  simp only [beq_iff_eq]

/-- Rows by key after one was added. -/
theorem get?_add {db : EventDb} {row r : DeviceLogEvent} {i : ℕ} (h : db.get? i = some r) :
    (db.add row).get? i = some r := by
  rw [get?] at h
  rw [get?, add, List.find?_append, h]
  rfl

/-- A row that was added is there, if none had its key. -/
theorem get?_add_self {db : EventDb} {row : DeviceLogEvent} (h : db.get? row.id = none) :
    (db.add row).get? row.id = some row := by
  rw [get?] at h
  rw [get?, add, List.find?_append, h, Option.none_or, List.find?_singleton, beq_self_eq_true]
  rfl

/-- There is always a key that no row has. -/
theorem exists_fresh (db : EventDb) : ∃ i, db.get? i = none := by
  obtain ⟨i, hi⟩ := Infinite.exists_notMem_finset (db.rows.map DeviceLogEvent.id).toFinset
  refine ⟨i, List.find?_eq_none.mpr fun r hr hid => hi ?_⟩
  rw [List.mem_toFinset, ← beq_iff_eq.mp hid]
  exact List.mem_map_of_mem hr

end EventDb

/-! ### Paths -/

section

variable (ctx : EventContext)

/-- `resolve_device_event_remote_path`. -/
def resolveDeviceEventRemotePath (raw : String) (planRunId eventId : Option ℕ) :
    Except String String :=
  match ctx.resolve raw with
  | .error e => .error e
  | .ok path =>
    let scope := match planRunId, eventId with
      | some planRunId, _ => some (ctx.runScope planRunId)
      | none, some eventId => some (ctx.unassignedScope eventId)
      | none, none => none
    match scope with
    | none => .ok path
    | some scope =>
      if ctx.isRelativeTo path scope then .ok path
      else .error s!"device log remote path must stay under {scope}: {path}"

/-- `_validated_remote_path`: the path of a row that was assigned meanwhile may still be the one
before that. -/
def validatedRemotePath (raw : Option String) (planRunId eventId : Option ℕ)
    (unassignedFallback : Bool) : Except DleError (Option String) :=
  match raw with
  | none => .ok none
  | some raw =>
    if raw = "" then .ok none
    else
      match resolveDeviceEventRemotePath ctx raw planRunId eventId with
      | .ok path => .ok (some path)
      | .error e =>
        let fallback := if unassignedFallback = true ∧ eventId.isSome = true then
          (resolveDeviceEventRemotePath ctx raw none eventId).toOption else none
        match fallback with
        | some path => .ok (some path)
        | none => .error (.badRequest s!"device_log_event.remote_path invalid: {e}")

/-- `is_unassigned_remote_path`. -/
def isUnassignedRemotePath (path : Option String) : Bool :=
  path.any fun path => "/devices/unassigned/".toList <:+: path.toList

/-! ### Checks -/

/-- Both are given, and they are different. -/
def differ {α : Type} [BEq α] : Option α → Option α → Bool
  | some a, some b => a != b
  | _, _ => false

/-- `repr` of a string that may be missing. -/
def reprOpt (s : Option String) : String := (s.map reprStr).getD "None"

/-- `str` of a number that may be missing. -/
def strOpt (n : Option ℕ) : String := (n.map toString).getD "None"

/-- The references of a patch: the host, the job, and whether they belong together. -/
def checkReferences (ev : DeviceLogEventIn) : Except DleError Unit :=
  if ctx.hosts ev.hostId = false then .error (.notFound s!"host {ev.hostId} not found")
  else
    match ev.jobId with
    | none => .ok ()
    | some jobId =>
      match ctx.jobs jobId with
      | none => .error (.notFound s!"job {jobId} not found")
      | some job =>
        if job.hostId.any (fun host => host != "" && host != ev.hostId) then
          .error (.badRequest (s!"device_log_event.host_id {reprStr ev.hostId} does not match " ++
            s!"job host {reprOpt job.hostId}"))
        else if differ ev.planRunId job.planRunId then
          .error (.badRequest (s!"device_log_event.plan_run_id {strOpt ev.planRunId} does not " ++
            s!"match job plan_run {strOpt job.planRunId}"))
        else .ok ()

/-- A patch that names another device, job, run or occurrence than its row. -/
def mismatch (field given kept : String) : DleError :=
  .forbidden s!"device_log_event {field} mismatch: {given} != {kept}"

/-- The identity of a row: a patch for it names nothing else. -/
def checkIdentity (row : DeviceLogEvent) (ev : DeviceLogEventIn) : Except DleError Unit :=
  if row.hostId ≠ ev.hostId then
    .error (mismatch "host_id" (reprStr ev.hostId) (reprStr row.hostId))
  else if row.serial ≠ ev.serial then
    .error (mismatch "serial" (reprStr ev.serial) (reprStr row.serial))
  else if differ row.jobId ev.jobId then
    .error (mismatch "job_id" (strOpt ev.jobId) (strOpt row.jobId))
  else if differ row.planRunId ev.planRunId then
    .error (mismatch "plan_run_id" (strOpt ev.planRunId) (strOpt row.planRunId))
  else if differ row.occurrenceKey ev.occurrenceKey then
    .error (mismatch "occurrence_key" (reprOpt ev.occurrenceKey) (reprOpt row.occurrenceKey))
  else .ok ()

/-- The state of a patch. -/
def parseState (ev : DeviceLogEventIn) : Except DleError EventState :=
  match EventState.ofValue? ev.state with
  | some state => .ok state
  | none => .error (.badRequest s!"device_log_event.state invalid: {ev.state}")

/-- `_parse_iso_dt`. -/
def parseIsoDt (value field : String) : Except DleError Time :=
  match ctx.parseIsoDt value with
  | some t => .ok t
  | none => .error (.badRequest s!"device_log_event.{field} invalid ISO8601: {value}")

/-- The time of the device, where a patch has one. -/
def parseDeviceTimestamp (ev : DeviceLogEventIn) : Except DleError (Option Time) :=
  match ev.deviceTimestamp with
  | none => .ok none
  | some value => if value = "" then .ok none else (parseIsoDt ctx value "device_timestamp").map some

/-! ### One patch -/

/-- A text that is there and not empty. -/
def given (s : Option String) : Option String := s.filter (· ≠ "")

/-- The row a patch inserts; a patch that names its row is checked against the directory of the
row. -/
def newRow (now : Time) (id : ℕ) (eventId : Option ℕ) (ev : DeviceLogEventIn)
    (state : EventState) (detectedAt : Time) (deviceTimestamp : Option Time) :
    Except DleError DeviceLogEvent := do
  let remotePath ← validatedRemotePath ctx ev.remotePath ev.planRunId eventId false
  return {
    id := id
    serial := ev.serial
    platform := ev.platform
    eventType := ev.eventType
    eventSubtype := ev.eventSubtype
    detectedAt := detectedAt
    deviceTimestamp := deviceTimestamp
    state := resolveInitialUploadState ev.eventType state
    localPath := ev.localPath
    remotePath := remotePath
    sizeBytes := ev.sizeBytes
    checksum := ev.checksum
    occurrenceKey := ev.occurrenceKey
    planRunId := ev.planRunId
    hostId := ev.hostId
    jobId := ev.jobId
    signalSeqNo := ev.linkSignalSeqNo
    createdAt := now
    updatedAt := now }

/-- A patch is behind its row: the copy in the storage is the authoritative one already. -/
def staleFor (row : DeviceLogEvent) (state : EventState) : Bool :=
  row.state.extractable && !state.extractable

/-- The path of a row after a patch: a path from before the assignment does not replace one. -/
def patchedPath (row : DeviceLogEvent) (incoming : Option String) : Option String :=
  if row.planRunId.isSome = true ∧ (given row.remotePath).isSome = true ∧
      isUnassignedRemotePath incoming = true then row.remotePath
  else incoming

/-- A row with what a patch has: some values only where the patch has them. -/
def patchedRow (now : Time) (row : DeviceLogEvent) (ev : DeviceLogEventIn) (target : EventState)
    (incoming : Option String) : DeviceLogEvent :=
  { row with
    state := target
    remotePath := patchedPath row incoming
    checksum := ev.checksum
    sizeBytes := ev.sizeBytes <|> row.sizeBytes
    occurrenceKey := ev.occurrenceKey <|> row.occurrenceKey
    planRunId := ev.planRunId <|> row.planRunId
    updatedAt := now }

/-- The row after a patch. -/
def patchRow (now : Time) (row : DeviceLogEvent) (ev : DeviceLogEventIn) (state : EventState) :
    Except DleError DeviceLogEvent :=
  if staleFor row state then .ok row
  else
    let target := resolveInitialUploadState ev.eventType state
    if target ≠ row.state ∧ target ∉ row.state.allowedTransitions then
      .error (.conflict "DLE_INVALID_TRANSITION" ("device_log_event state transition not " ++
        s!"allowed: {row.state.value} -> {target.value}"))
    else do
      let incoming ← validatedRemotePath ctx ev.remotePath (ev.planRunId <|> row.planRunId)
        (some row.id) true
      return patchedRow now row ev target incoming

/-- `record_spill_ledger_entry`: an entry for each row. -/
def recordSpill (db : EventDb) (entry : SpillEntry) : EventDb :=
  if db.spills.any fun e => e.dleId == entry.dleId then db
  else { db with spills := db.spills ++ [entry] }

/-- What follows when the row is written: the spill ledger. -/
def spillRow (now : Time) (db : EventDb) (row : DeviceLogEvent) (ev : DeviceLogEventIn) :
    Except DleError EventDb :=
  if ev.hddSpill = true ∧ ev.state = EventState.remote.value then
    match ev.sizeBytes.filter (0 ≤ ·), given row.remotePath with
    | some sizeBytes, some _ =>
      match row.planRunId with
      | some planRunId => .ok (recordSpill db ⟨row.id, planRunId, row.platform, sizeBytes, now⟩)
      | none => .ok db
    | _, _ => .error
      (.badRequest "verified spill requires remote_path and nonnegative size_bytes")
  else .ok db

/-- The row, with the signal a patch links to it. -/
def linkSignal (row : DeviceLogEvent) (ev : DeviceLogEventIn) : DeviceLogEvent :=
  { row with signalSeqNo := ev.linkSignalSeqNo <|> row.signalSeqNo }

@[simp] theorem linkSignal_id (row : DeviceLogEvent) (ev : DeviceLogEventIn) :
    (linkSignal row ev).id = row.id := rfl

@[simp] theorem linkSignal_serial (row : DeviceLogEvent) (ev : DeviceLogEventIn) :
    (linkSignal row ev).serial = row.serial := rfl

@[simp] theorem linkSignal_hostId (row : DeviceLogEvent) (ev : DeviceLogEventIn) :
    (linkSignal row ev).hostId = row.hostId := rfl

@[simp] theorem linkSignal_jobId (row : DeviceLogEvent) (ev : DeviceLogEventIn) :
    (linkSignal row ev).jobId = row.jobId := rfl

@[simp] theorem linkSignal_state (row : DeviceLogEvent) (ev : DeviceLogEventIn) :
    (linkSignal row ev).state = row.state := rfl

@[simp] theorem linkSignal_remotePath (row : DeviceLogEvent) (ev : DeviceLogEventIn) :
    (linkSignal row ev).remotePath = row.remotePath := rfl

@[simp] theorem linkSignal_checksum (row : DeviceLogEvent) (ev : DeviceLogEventIn) :
    (linkSignal row ev).checksum = row.checksum := rfl

@[simp] theorem linkSignal_occurrenceKey (row : DeviceLogEvent) (ev : DeviceLogEventIn) :
    (linkSignal row ev).occurrenceKey = row.occurrenceKey := rfl

@[simp] theorem linkSignal_planRunId (row : DeviceLogEvent) (ev : DeviceLogEventIn) :
    (linkSignal row ev).planRunId = row.planRunId := rfl

@[simp] theorem patchedRow_id (now : Time) (row : DeviceLogEvent) (ev : DeviceLogEventIn)
    (target : EventState) (incoming : Option String) :
    (patchedRow now row ev target incoming).id = row.id := rfl

@[simp] theorem patchedRow_serial (now : Time) (row : DeviceLogEvent) (ev : DeviceLogEventIn)
    (target : EventState) (incoming : Option String) :
    (patchedRow now row ev target incoming).serial = row.serial := rfl

@[simp] theorem patchedRow_hostId (now : Time) (row : DeviceLogEvent) (ev : DeviceLogEventIn)
    (target : EventState) (incoming : Option String) :
    (patchedRow now row ev target incoming).hostId = row.hostId := rfl

@[simp] theorem patchedRow_jobId (now : Time) (row : DeviceLogEvent) (ev : DeviceLogEventIn)
    (target : EventState) (incoming : Option String) :
    (patchedRow now row ev target incoming).jobId = row.jobId := rfl

@[simp] theorem patchedRow_state (now : Time) (row : DeviceLogEvent) (ev : DeviceLogEventIn)
    (target : EventState) (incoming : Option String) :
    (patchedRow now row ev target incoming).state = target := rfl

@[simp] theorem patchedRow_remotePath (now : Time) (row : DeviceLogEvent)
    (ev : DeviceLogEventIn) (target : EventState) (incoming : Option String) :
    (patchedRow now row ev target incoming).remotePath = patchedPath row incoming := rfl

@[simp] theorem patchedRow_checksum (now : Time) (row : DeviceLogEvent) (ev : DeviceLogEventIn)
    (target : EventState) (incoming : Option String) :
    (patchedRow now row ev target incoming).checksum = ev.checksum := rfl

@[simp] theorem patchedRow_occurrenceKey (now : Time) (row : DeviceLogEvent)
    (ev : DeviceLogEventIn) (target : EventState) (incoming : Option String) :
    (patchedRow now row ev target incoming).occurrenceKey =
      (ev.occurrenceKey <|> row.occurrenceKey) := rfl

@[simp] theorem patchedRow_planRunId (now : Time) (row : DeviceLogEvent)
    (ev : DeviceLogEventIn) (target : EventState) (incoming : Option String) :
    (patchedRow now row ev target incoming).planRunId = (ev.planRunId <|> row.planRunId) := rfl

/-- A patch that names its row. -/
def ingestNamed (now : Time) (db : EventDb) (ev : DeviceLogEventIn) (eventId : ℕ)
    (state : EventState) (detectedAt : Time) (deviceTimestamp : Option Time) :
    Except DleError (EventDb × ℕ) :=
  match db.get? eventId with
  | none => do
    let row ← newRow ctx now eventId (some eventId) ev state detectedAt deviceTimestamp
    let db ← spillRow now (db.add (linkSignal row ev)) row ev
    return (db, eventId)
  | some row => do
    checkIdentity row ev
    let row ← patchRow ctx now row ev state
    let db ← spillRow now (db.save (linkSignal row ev)) row ev
    return (db, eventId)

/-- The row a patch without a key has been the cause of before. -/
def existingRow (db : EventDb) (ev : DeviceLogEventIn) : Option DeviceLogEvent :=
  if ev.jobId.isSome = true ∧ ev.linkSignalSeqNo.isSome = true then
    db.rows.find? fun r => r.jobId = ev.jobId ∧ r.signalSeqNo = ev.linkSignalSeqNo
  else none

/-- A patch that does not name its row; a new row has a key of its own. -/
def ingestUnnamed (now : Time) (freshId : ℕ) (db : EventDb) (ev : DeviceLogEventIn)
    (state : EventState) (detectedAt : Time) (deviceTimestamp : Option Time) :
    Except DleError (EventDb × ℕ) :=
  match existingRow db ev with
  | some row => .ok (db, row.id)
  | none =>
    if (db.get? freshId).isSome then .error .integrityError
    else do
      let row ← newRow ctx now freshId none ev state detectedAt deviceTimestamp
      let db ← spillRow now (db.add (linkSignal row ev)) row ev
      return (db, freshId)

/-- The key a patch names its row by. -/
def namedId (ev : DeviceLogEventIn) : Except DleError (Option ℕ) :=
  match given ev.id with
  | none => .ok none
  | some text =>
    match ctx.uuid text with
    | some eventId => .ok (some eventId)
    | none => .error (.badRequest s!"device_log_event.id invalid UUID: {text}")

/-- One patch of `ingest_agent_device_log_events`, with the key of its row. -/
def ingestEvent (now : Time) (freshId : ℕ) (db : EventDb) (ev : DeviceLogEventIn) :
    Except DleError (EventDb × ℕ) := do
  let state ← parseState ev
  let detectedAt ← parseIsoDt ctx ev.detectedAt "detected_at"
  let deviceTimestamp ← parseDeviceTimestamp ctx ev
  checkReferences ctx ev
  match ← namedId ctx ev with
  | some eventId => ingestNamed ctx now db ev eventId state detectedAt deviceTimestamp
  | none => ingestUnnamed ctx now freshId db ev state detectedAt deviceTimestamp

/-- The next patch of a batch. -/
def ingestNext (now : Time) (out : EventDb × List ℕ) (p : DeviceLogEventIn × ℕ) :
    Except DleError (EventDb × List ℕ) := do
  let (db, eventId) ← ingestEvent ctx now p.2 out.1 p.1
  return (db, out.2 ++ [eventId])

/-- `ingest_agent_device_log_events`: all patches of a batch, each with a key for a new row, or
none of them. -/
def ingestAgentDeviceLogEvents (now : Time) (db : EventDb)
    (events : List (DeviceLogEventIn × ℕ)) : Except DleError (EventDb × List ℕ) :=
  events.foldlM (ingestNext ctx now) (db, [])

/-! ### The control plane -/

/-- `associate_unassigned_events_to_plan_run`, for the jobs and the devices of a run. -/
def associateUnassigned (db : EventDb) (planRunId : ℕ) (jobIds : List ℕ) (serials : List String)
    (windowStart windowEnd now : Time) : EventDb :=
  db.update (fun r => r.planRunId.isNone && (r.jobId.any jobIds.contains ||
      (r.jobId.isNone && serials.contains r.serial && windowStart ≤ r.detectedAt &&
        r.detectedAt ≤ windowEnd)))
    fun r => { r with planRunId := some planRunId, updatedAt := now }

/-- `adopt_unassigned_event_dirs`, with what is below the directory of each row whose directory
is, or has been, moved. -/
def adoptUnassigned (db : EventDb) (planRunId : ℕ) (tails : ℕ → Option String) (now : Time) :
    EventDb :=
  db.update (fun r => r.planRunId = some planRunId && r.state.extractable &&
      isUnassignedRemotePath r.remotePath && (tails r.id).isSome)
    fun r => { r with
      remotePath := (tails r.id).map fun tail =>
        s!"{ctx.runScope planRunId}/{ctx.uuidText r.id}{tail}"
      updatedAt := now }

/-- The marking of `upload_task`, for the names of the directories a scan refers to. -/
def markUploadPending (db : EventDb) (planRunId : ℕ) (eventDirNames : List String) (now : Time) :
    EventDb :=
  db.update (fun r => r.state.markable && r.planRunId = some planRunId &&
      eventDirNames.any fun name => ("/" ++ name).toList <:+ r.localPath.toList)
    fun r => { r with state := .uploadPending, updatedAt := now }

/-- `mark_events_archived`. -/
def markEventsArchived (db : EventDb) (planRunId : ℕ) (remotePaths : List String) (now : Time) :
    EventDb :=
  db.update (fun r => r.planRunId = some planRunId && r.state = .remote &&
      (given r.remotePath).any remotePaths.contains)
    fun r => { r with state := .archived, updatedAt := now }

/-- What happens to the rows. -/
inductive EventOp where
  | patch (ev : DeviceLogEventIn) (now : Time) (freshId : ℕ)
  | associate (planRunId : ℕ) (jobIds : List ℕ) (serials : List String)
      (windowStart windowEnd now : Time)
  | adopt (planRunId : ℕ) (tails : ℕ → Option String) (now : Time)
  | markUpload (planRunId : ℕ) (eventDirNames : List String) (now : Time)
  | markArchived (planRunId : ℕ) (remotePaths : List String) (now : Time)

/-- An accepted patch, or a write of the control plane. -/
def EventDb.step (db : EventDb) : EventOp → Option EventDb
  | .patch ev now freshId => (ingestEvent ctx now freshId db ev).toOption.map Prod.fst
  | .associate planRunId jobIds serials windowStart windowEnd now =>
    some (associateUnassigned db planRunId jobIds serials windowStart windowEnd now)
  | .adopt planRunId tails now => some (adoptUnassigned ctx db planRunId tails now)
  | .markUpload planRunId eventDirNames now =>
    some (markUploadPending db planRunId eventDirNames now)
  | .markArchived planRunId remotePaths now =>
    some (markEventsArchived db planRunId remotePaths now)

/-- The steps as a relation. -/
def EventDb.Step (db : EventDb) (op : EventOp) (db' : EventDb) : Prop := db.step ctx op = some db'

/-! ### What an accepted patch does -/

variable {ctx}

/-- The spill ledger leaves the rows. -/
theorem spillRow_rows {now : Time} {db db' : EventDb} {row : DeviceLogEvent}
    {ev : DeviceLogEventIn} (h : spillRow now db row ev = .ok db') : db'.rows = db.rows := by
  rw [spillRow] at h
  split at h
  · split at h
    · split at h
      · cases h
        rw [recordSpill]
        split
        · rfl
        · rfl
      · cases h
        rfl
    · cases h
  · cases h
    rfl

/-- Rows by key depend on the rows alone. -/
theorem EventDb.get?_congr {db db' : EventDb} (h : db'.rows = db.rows) (i : ℕ) :
    db'.get? i = db.get? i := by
  rw [EventDb.get?, EventDb.get?, h]

/-- The checks that come before the row of a patch is looked for. -/
def Accepted (ctx : EventContext) (ev : DeviceLogEventIn) (state : EventState)
    (detectedAt : Time) (deviceTimestamp : Option Time) : Prop :=
  parseState ev = .ok state ∧ parseIsoDt ctx ev.detectedAt "detected_at" = .ok detectedAt ∧
    parseDeviceTimestamp ctx ev = .ok deviceTimestamp ∧ checkReferences ctx ev = .ok ()

/-- A patch is accepted when its checks pass and its row can be written. -/
theorem ingestEvent_eq_ok_iff {now : Time} {freshId : ℕ} {db : EventDb} {ev : DeviceLogEventIn}
    {out : EventDb × ℕ} :
    ingestEvent ctx now freshId db ev = .ok out ↔
      ∃ state detectedAt deviceTimestamp, Accepted ctx ev state detectedAt deviceTimestamp ∧
        ((∃ eventId, namedId ctx ev = .ok (some eventId) ∧
            ingestNamed ctx now db ev eventId state detectedAt deviceTimestamp = .ok out) ∨
          (namedId ctx ev = .ok none ∧
            ingestUnnamed ctx now freshId db ev state detectedAt deviceTimestamp = .ok out)) := by
  rw [ingestEvent]
  simp only [Except.bind_eq_ok_iff]
  constructor
  · rintro ⟨state, hstate, detectedAt, hdetected, deviceTimestamp, hdevice, ⟨⟩, hrefs, named, hnamed,
      hrest⟩
    refine ⟨state, detectedAt, deviceTimestamp, ⟨hstate, hdetected, hdevice, hrefs⟩, ?_⟩
    cases named with
    | some eventId => exact .inl ⟨eventId, hnamed, hrest⟩
    | none => exact .inr ⟨hnamed, hrest⟩
  · rintro ⟨state, detectedAt, deviceTimestamp, ⟨hstate, hdetected, hdevice, hrefs⟩, hrest⟩
    refine ⟨state, hstate, detectedAt, hdetected, deviceTimestamp, hdevice, (), hrefs, ?_⟩
    rcases hrest with ⟨eventId, hnamed, hrest⟩ | ⟨hnamed, hrest⟩
    · exact ⟨some eventId, hnamed, hrest⟩
    · exact ⟨none, hnamed, hrest⟩

/-- A patch for a row that is there: the identity is checked, and the row is written back. -/
theorem ingestNamed_eq_ok_iff {now : Time} {db : EventDb} {ev : DeviceLogEventIn} {eventId : ℕ}
    {state : EventState} {detectedAt : Time} {deviceTimestamp : Option Time}
    {row : DeviceLogEvent} {out : EventDb × ℕ} (hrow : db.get? eventId = some row) :
    ingestNamed ctx now db ev eventId state detectedAt deviceTimestamp = .ok out ↔
      checkIdentity row ev = .ok () ∧ ∃ row', patchRow ctx now row ev state = .ok row' ∧
        ∃ db', spillRow now (db.save (linkSignal row' ev)) row' ev = .ok db' ∧
          out = (db', eventId) := by
  rw [ingestNamed, hrow]
  dsimp only
  simp only [Except.bind_eq_ok_iff]
  constructor
  · rintro ⟨⟨⟩, hidentity, row', hpatch, db', hspill, hout⟩
    cases hout
    exact ⟨hidentity, row', hpatch, db', hspill, rfl⟩
  · rintro ⟨hidentity, row', hpatch, db', hspill, rfl⟩
    exact ⟨(), hidentity, row', hpatch, db', hspill, rfl⟩

/-- A patch keeps the key of its row. -/
theorem patchRow_id {now : Time} {row row' : DeviceLogEvent} {ev : DeviceLogEventIn}
    {state : EventState} (h : patchRow ctx now row ev state = .ok row') : row'.id = row.id := by
  rw [patchRow] at h
  split at h
  · cases h
    rfl
  · dsimp only at h
    split at h
    · cases h
    · obtain ⟨incoming, -, h⟩ := Except.bind_eq_ok_iff.mp h
      cases h
      exact patchedRow_id ..

/-- **What an accepted patch does to a row**: nothing, or it names the row, its identity is the
one of the row, and the row is patched. -/
theorem ingestEvent_get? {now : Time} {freshId eventId : ℕ} {db db' : EventDb}
    {ev : DeviceLogEventIn} (h : ingestEvent ctx now freshId db ev = .ok (db', eventId)) {i : ℕ}
    {row : DeviceLogEvent} (hrow : db.get? i = some row) :
    (namedId ctx ev ≠ .ok (some i) ∧ db'.get? i = some row) ∨
      (namedId ctx ev = .ok (some i) ∧ ∃ state row', parseState ev = .ok state ∧
        checkIdentity row ev = .ok () ∧ patchRow ctx now row ev state = .ok row' ∧
        db'.get? i = some (linkSignal row' ev)) := by
  obtain ⟨state, detectedAt, deviceTimestamp, hchecks, hrest⟩ := ingestEvent_eq_ok_iff.mp h
  rcases hrest with ⟨named, hnamed, hrest⟩ | ⟨hnamed, hrest⟩
  · by_cases hi : named = i
    · subst hi
      obtain ⟨hidentity, row', hpatch, db₁, hspill, hout⟩ := (ingestNamed_eq_ok_iff hrow).mp hrest
      have hid : (linkSignal row' ev).id = named :=
        (patchRow_id hpatch).trans (EventDb.id_of_get? hrow)
      cases hout
      refine .inr ⟨hnamed, state, row', hchecks.1, hidentity, hpatch, ?_⟩
      rw [EventDb.get?_congr (spillRow_rows hspill), EventDb.get?_save hrow, if_pos hid.symm]
    · refine .inl ⟨fun hsame => hi ?_, ?_⟩
      · rw [hnamed] at hsame
        cases hsame
        rfl
      · cases hother : db.get? named with
        | none =>
            rw [ingestNamed, hother] at hrest
            obtain ⟨row', -, hrest⟩ := Except.bind_eq_ok_iff.mp hrest
            obtain ⟨db₁, hspill, hout⟩ := Except.bind_eq_ok_iff.mp hrest
            cases hout
            rw [EventDb.get?_congr (spillRow_rows hspill), EventDb.get?_add hrow]
        | some other =>
            obtain ⟨-, row', hpatch, db₁, hspill, hout⟩ := (ingestNamed_eq_ok_iff hother).mp hrest
            have hid : (linkSignal row' ev).id = named :=
              (patchRow_id hpatch).trans (EventDb.id_of_get? hother)
            cases hout
            rw [EventDb.get?_congr (spillRow_rows hspill), EventDb.get?_save hrow,
              if_neg fun hii => hi (hid.symm.trans hii.symm)]
  · refine .inl ⟨fun hsame => ?_, ?_⟩
    · rw [hnamed] at hsame
      cases hsame
    · rw [ingestUnnamed] at hrest
      split at hrest
      · cases hrest
        exact hrow
      · split at hrest
        · cases hrest
        · obtain ⟨row', -, hrest⟩ := Except.bind_eq_ok_iff.mp hrest
          obtain ⟨db₁, hspill, hout⟩ := Except.bind_eq_ok_iff.mp hrest
          cases hout
          rw [EventDb.get?_congr (spillRow_rows hspill), EventDb.get?_add hrow]

/-! ### Runs -/

/-- An accepted patch is a step. -/
theorem EventDb.step_patch_iff {now : Time} {freshId : ℕ} {db db' : EventDb}
    {ev : DeviceLogEventIn} :
    EventDb.Step ctx db (.patch ev now freshId) db' ↔
      ∃ eventId, ingestEvent ctx now freshId db ev = .ok (db', eventId) := by
  rw [EventDb.Step, EventDb.step, Option.map_eq_some_iff]
  constructor
  · rintro ⟨⟨db₁, eventId⟩, hok, rfl⟩
    exact ⟨eventId, Except.toOption_eq_some_iff.mp hok⟩
  · rintro ⟨eventId, hok⟩
    exact ⟨_, Except.toOption_eq_some_iff.mpr hok, rfl⟩

/-- **An accepted batch** is a run of accepted patches. -/
theorem ingest_batch_run {now : Time} {db db' : EventDb} {events : List (DeviceLogEventIn × ℕ)}
    {ids : List ℕ} (h : ingestAgentDeviceLogEvents ctx now db events = .ok (db', ids)) :
    ∃ tr, Run (EventDb.Step ctx) db tr db' ∧
      tr.map Prod.snd = events.map fun p => EventOp.patch p.1 now p.2 := by
  rw [ingestAgentDeviceLogEvents] at h
  generalize ([] : List ℕ) = acc at h
  induction events generalizing db acc with
  | nil =>
      cases h
      exact ⟨[], .nil _, rfl⟩
  | cons p rest ih =>
      rw [List.foldlM_cons] at h
      obtain ⟨out, hfirst, hrest⟩ := Except.bind_eq_ok_iff.mp h
      obtain ⟨⟨db₁, eventId⟩, hingest, hout⟩ := Except.bind_eq_ok_iff.mp hfirst
      cases hout
      obtain ⟨tr, hrun, hlabels⟩ := ih _ hrest
      refine ⟨(db, .patch p.1 now p.2) :: tr, .cons ?_ hrun, ?_⟩
      · exact EventDb.step_patch_iff.mpr ⟨eventId, hingest⟩
      · rw [List.map_cons, List.map_cons, hlabels]

end

end StabilityPlatform
