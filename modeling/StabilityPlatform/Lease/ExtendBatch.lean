import StabilityPlatform.DeviceReturn.Effects
import StabilityPlatform.DeviceReturn.JobEvidence
import StabilityPlatform.Lib.StableSort

/-!
# Renewing leases in one request

An agent renews the leases of all its jobs at once. The request is looked through twice, for the
status of the jobs and for their leases; the jobs that pass are locked; then one compare-and-set
renews the leases that still match, and the live signals of the renewed jobs are written. Each
of these statements sees the database of its own moment.

## Main results

* `extendAgentLeasesBatch`: the renewal.
* `changedLease_iff`: the rows it renews.
* `extend_batch_exact`: what it changes and what it answers.
-/

namespace StabilityPlatform

open Lib

/-! ### The request -/

/-- One item of the request. -/
structure ExtendBatchItem where
  jobId : ℕ
  fencingToken : String
  executionState : Option String
  progressMarker : Option PyDict
  disarmEvidence : Option PyDict

/-- The request. -/
structure ExtendBatch where
  hostId : String
  agentInstanceId : String
  leases : List ExtendBatchItem

/-- How many items a request may have. -/
def leaseExtendBatchMax : ℕ := 200

/-- What becomes of an item. -/
inductive ExtendStatus where
  | renewed
  | staleToken
  | jobNotRunning
  | leaseMissing
  deriving DecidableEq, Repr

/-- The answer to an item. -/
structure ExtendResult where
  jobId : ℕ
  status : ExtendStatus
  expiresAt : Option String

/-- The errors of a renewal. -/
inductive ExtendError where
  | batchTooLarge (max received : ℕ)
  | raised (e : PyError)
  deriving DecidableEq, Repr

/-- The database with the column `execution_state` of the jobs. -/
structure LiveDb where
  db : Db
  executionState : ℕ → Option String

/-- What the statements of a renewal see. -/
structure ExtendViews where
  jobs : Db
  leases : Db
  locked : Db
  cas : LiveDb

/-- The jobs of a request, each once, in the order in which they come first. -/
def orderedJobIds (items : List ExtendBatchItem) : List ℕ :=
  items.foldl (fun ids it => if it.jobId ∈ ids then ids else ids ++ [it.jobId]) []

/-- The last item of a job. -/
def itemByJob (items : List ExtendBatchItem) (jobId : ℕ) : Option ExtendBatchItem :=
  items.reverse.find? fun it => it.jobId == jobId

/-- The token of a job: that of its last item. -/
def tokenByJob (b : ExtendBatch) (jobId : ℕ) : Option String :=
  (itemByJob b.leases jobId).map ExtendBatchItem.fencingToken

/-! ### Looking through -/

/-- What the reads say of a job. -/
inductive Prelim where
  | jobNotRunning
  | leaseMissing
  | staleToken
  | renewable
  deriving DecidableEq

/-- Whether a job runs. -/
def runningJob (db : Db) (jobId : ℕ) : Bool :=
  (db.jobs.get? jobId).any fun job => job.status == .running

/-- An active lease of a job. -/
def isActiveJobLease (jobId : ℕ) (l : DeviceLease) : Bool :=
  l.jobId == some jobId && l.leaseType == .job && l.status == .active

/-- The lease of a job; the last one when there are several. -/
def leaseByJob (db : Db) (jobId : ℕ) : Option DeviceLease :=
  (db.leases.select (isActiveJobLease jobId)).getLast?

/-- Whether a lease is held by the host that asks and, when it names one, by its instance. -/
def ownedBy (b : ExtendBatch) (l : DeviceLease) : Bool :=
  l.hostId == b.hostId && (b.agentInstanceId == "" || l.agentInstanceId == b.agentInstanceId)

/-- What the first two reads say of a job. -/
def prelimOf (b : ExtendBatch) (now : Time) (v : ExtendViews) (jobId : ℕ) : Prelim :=
  if !runningJob v.jobs jobId then .jobNotRunning
  else match leaseByJob v.leases jobId with
    | none => .leaseMissing
    | some lease =>
      if tokenByJob b jobId ≠ some lease.fencingToken then .staleToken
      else if !ownedBy b lease then .staleToken
      else if lease.expiresAt ≤ now then .leaseMissing
      else .renewable

/-- What is left of it once the jobs are locked. -/
def verdict (b : ExtendBatch) (now : Time) (v : ExtendViews) (jobId : ℕ) : Prelim :=
  match prelimOf b now v jobId with
  | .renewable => if runningJob v.locked jobId then .renewable else .jobNotRunning
  | p => p

/-- The jobs whose leases are to be renewed. -/
def renewableJobIds (b : ExtendBatch) (now : Time) (v : ExtendViews) : List ℕ :=
  (orderedJobIds b.leases).filter fun jobId => verdict b now v jobId = .renewable

/-! ### The compare-and-set -/

/-- Whether the compare-and-set takes a lease. -/
def casMatches (b : ExtendBatch) (now : Time) (renewable : List ℕ) (db : Db) (l : DeviceLease) :
    Bool :=
  (l.jobId.any fun jobId => renewable.contains jobId &&
    tokenByJob b jobId == some l.fencingToken && runningJob db jobId) &&
  l.leaseType == .job && l.status == .active && decide (now < l.expiresAt) && ownedBy b l

/-- A lease, renewed. -/
def DeviceLease.renew (now : Time) (l : DeviceLease) : DeviceLease :=
  { l with renewedAt := now, expiresAt := now.addSeconds defaultLeaseSeconds }

/-- The leases a renewal changes. -/
def changedLease (b : ExtendBatch) (now : Time) (v : ExtendViews) (l : DeviceLease) : Bool :=
  casMatches b now (renewableJobIds b now v) v.cas.db l

/-- The jobs whose lease was renewed. -/
def renewedIds (b : ExtendBatch) (now : Time) (v : ExtendViews) : List ℕ :=
  (renewableJobIds b now v).filter fun jobId =>
    (v.cas.db.leases.first fun l => l.jobId == some jobId && changedLease b now v l).isSome

/-! ### Live signals -/

/-- The states an executor may report. -/
def validExecutionStates : List String :=
  ["WAITING_EXECUTION_SLOT", "EXECUTING_STEP", "PATROL_SLEEP", "WAITING_BARRIER",
    "EXECUTING_DISARM"]

/-- The states in which the coordinator answers for the job. -/
def waitingStates : List String := ["WAITING_EXECUTION_SLOT", "PATROL_SLEEP", "WAITING_BARRIER"]

/-- The state an item reports, if it is a known one. -/
def reportedState (b : ExtendBatch) (jobId : ℕ) : Option String :=
  ((itemByJob b.leases jobId).bind ExtendBatchItem.executionState).filter
    validExecutionStates.contains

/-- `_parse_progress_ts`. -/
def parseProgressTs (raw : PyVal) : Option Time :=
  match raw with
  | .str s => fromIsoFormat (s.toList.flatMap fun c => if c = 'Z' then "+00:00".toList else [c])
  | _ => none

/-- The progress an item reports; evidence takes its place. -/
def reportedProgress (b : ExtendBatch) (jobId : ℕ) : Option Time :=
  (itemByJob b.leases jobId).bind fun item =>
    if item.disarmEvidence.isSome then none
    else parseProgressTs (PyDict.get (item.progressMarker.getD []) "last_progress_at")

/-- The executor of a job was heard of, unless it waits. -/
def JobInstance.heard (job : JobInstance) (state : Option String) (now : Time) : JobInstance :=
  if state.any waitingStates.contains then job
  else { job with lastExecutionHeartbeatAt := some now }

/-- The progress of a job. The column `updated_at` is not in this statement, so it is set to the
time of the statement. -/
def JobInstance.progressed (job : JobInstance) (progress : Option Time) (later : Time) :
    JobInstance :=
  match progress with
  | none => job
  | some at' => { job with lastProgressAt := some at', updatedAt := later }

/-- The jobs whose live signals are written. -/
def isLive (renewed : List ℕ) (job : JobInstance) : Bool :=
  renewed.contains job.id && job.status == .running

/-- The signals of one job. -/
def JobInstance.signal (b : ExtendBatch) (now later : Time) (job : JobInstance) : JobInstance :=
  (job.heard (reportedState b job.id) now).progressed (reportedProgress b job.id) later

/-- The signals are live columns. -/
theorem JobInstance.sameButLive_signal (b : ExtendBatch) (now later : Time) (job : JobInstance) :
    SameButLive job (job.signal b now later) := by
  have hheard : SameButLive job (job.heard (reportedState b job.id) now) := by
    rw [heard]
    split_ifs
    · exact SameButLive.refl job
    · rfl
  have hprogressed : SameButLive (job.heard (reportedState b job.id) now)
      (job.signal b now later) := by
    rw [signal, progressed.eq_def]
    cases reportedProgress b job.id with
    | none => exact SameButLive.refl _
    | some at' => rfl
  exact hheard.trans hprogressed

/-- The signals change no key. -/
theorem JobInstance.id_signal (b : ExtendBatch) (now later : Time) (job : JobInstance) :
    Row.id (job.signal b now later) = Row.id job :=
  (job.sameButLive_signal b now later).id_eq

/-- Write the signals of the renewed jobs. -/
def writeSignals (b : ExtendBatch) (now later : Time) (renewed : List ℕ) (s : LiveDb) : LiveDb where
  db := { s.db with
    jobs := s.db.jobs.update (isLive renewed) (JobInstance.signal b now later)
      (JobInstance.id_signal b now later) }
  executionState := fun jobId =>
    if renewed.contains jobId && runningJob s.db jobId then
      (reportedState b jobId).or (s.executionState jobId)
    else s.executionState jobId

section Renewal

variable (manifestPackageSha : String → String → Option String)

/-- Take the evidence of a renewed job. -/
def takeEvidence (b : ExtendBatch) (now : Time) (db : Db) (jobId : ℕ) : Except PyError Db :=
  match (itemByJob b.leases jobId).bind ExtendBatchItem.disarmEvidence with
  | none => .ok db
  | some evidence =>
    match db.jobs.get? jobId with
    | none => .error .notFound
    | some job =>
      match acceptJobDisarmEvidence manifestPackageSha db job evidence b.hostId b.agentInstanceId
          now false with
      | .error e => .error e
      | .ok none => .ok db
      | .ok (some job) => .ok { db with jobs := db.jobs.save job }

/-- The answer to a job. -/
def resultOfJob (b : ExtendBatch) (now : Time) (v : ExtendViews) (jobId : ℕ) : ExtendResult :=
  match verdict b now v jobId with
  | .jobNotRunning => ⟨jobId, .jobNotRunning, none⟩
  | .leaseMissing => ⟨jobId, .leaseMissing, none⟩
  | .staleToken => ⟨jobId, .staleToken, none⟩
  | .renewable =>
    if (renewedIds b now v).contains jobId then
      ⟨jobId, .renewed, some (isoformat (now.addSeconds defaultLeaseSeconds))⟩
    else ⟨jobId, .leaseMissing, none⟩

/-- The database once the leases are renewed. -/
def renewedDb (b : ExtendBatch) (now : Time) (v : ExtendViews) : LiveDb :=
  { v.cas with db := { v.cas.db with
      leases := v.cas.db.leases.update (changedLease b now v) (DeviceLease.renew now) fun _ => rfl } }

/-- Renew the leases of a request. -/
def extendAgentLeasesBatch (b : ExtendBatch) (now later : Time) (v : ExtendViews) :
    Except ExtendError (List ExtendResult × LiveDb) :=
  if b.leases = [] then .ok ([], v.cas)
  else if leaseExtendBatchMax < b.leases.length then
    .error (.batchTooLarge leaseExtendBatchMax b.leases.length)
  else
    let renewed := renewedIds b now v
    let s := writeSignals b now later renewed (renewedDb b now v)
    match (sortBy id renewed).foldlM (takeEvidence manifestPackageSha b now) s.db with
    | .error e => .error (.raised e)
    | .ok db => .ok ((orderedJobIds b.leases).map (resultOfJob b now v), { s with db := db })

end Renewal

/-! ### The jobs of a request -/

/-- Adding an item that is there, or at the end. -/
theorem mem_addJobId {ids : List ℕ} {it : ExtendBatchItem} {jobId : ℕ} :
    jobId ∈ (if it.jobId ∈ ids then ids else ids ++ [it.jobId]) ↔ jobId ∈ ids ∨ jobId = it.jobId := by
  split_ifs with h
  · constructor
    · exact .inl
    · rintro (hin | rfl)
      · exact hin
      · exact h
  · simp

/-- **The jobs of a request**, each once, in the order in which they come first. -/
theorem orderedJobIds_spec (items : List ExtendBatchItem) :
    (orderedJobIds items).Nodup ∧
      (∀ jobId, jobId ∈ orderedJobIds items ↔ jobId ∈ items.map ExtendBatchItem.jobId) ∧
      (orderedJobIds items).Pairwise fun a c =>
        (items.map ExtendBatchItem.jobId).idxOf a < (items.map ExtendBatchItem.jobId).idxOf c := by
  induction items using List.reverseRecOn with
  | nil => simp [orderedJobIds]
  | append_singleton items it ih =>
      obtain ⟨hnodup, hmem, horder⟩ := ih
      have hfold : orderedJobIds (items ++ [it]) = if it.jobId ∈ orderedJobIds items then
          orderedJobIds items else orderedJobIds items ++ [it.jobId] := by
        rw [orderedJobIds, List.foldl_append]
        rfl
      have hold : ∀ a ∈ orderedJobIds items,
          ((items ++ [it]).map ExtendBatchItem.jobId).idxOf a =
            (items.map ExtendBatchItem.jobId).idxOf a := by
        intro a ha
        rw [List.map_append, List.idxOf_append_of_mem ((hmem a).mp ha)]
      have horder' : (orderedJobIds items).Pairwise fun a c =>
          ((items ++ [it]).map ExtendBatchItem.jobId).idxOf a <
            ((items ++ [it]).map ExtendBatchItem.jobId).idxOf c := by
        refine horder.imp_of_mem fun {a c} ha hc hlt => ?_
        rwa [hold a ha, hold c hc]
      rw [hfold]
      refine ⟨?_, fun jobId => ?_, ?_⟩
      · split_ifs with h
        · exact hnodup
        · exact hnodup.append (List.nodup_singleton _) (by simpa using h)
      · rw [mem_addJobId, hmem]
        simp
      · split_ifs with h
        · exact horder'
        · refine List.pairwise_append.mpr ⟨horder', List.pairwise_singleton _ _, ?_⟩
          intro a ha c hc
          obtain rfl := List.mem_singleton.mp hc
          have hlt := List.idxOf_lt_length_of_mem ((hmem a).mp ha)
          rw [hold a ha, List.map_append, List.idxOf_append_of_notMem (mt (hmem _).mpr h)]
          simp only [List.length_map] at hlt ⊢
          omega

/-! ### The renewed rows -/

/-- What makes a lease renewable at a moment. -/
structure Renewable (b : ExtendBatch) (now : Time) (db : Db) (l : DeviceLease) (jobId : ℕ) :
    Prop where
  job : l.jobId = some jobId
  token : tokenByJob b jobId = some l.fencingToken
  leaseType : l.leaseType = .job
  active : l.status = .active
  unexpired : now < l.expiresAt
  host : l.hostId = b.hostId
  instance' : b.agentInstanceId = "" ∨ l.agentInstanceId = b.agentInstanceId
  running : runningJob db jobId = true

/-- Ownership, spelled out. -/
theorem ownedBy_iff {b : ExtendBatch} {l : DeviceLease} : ownedBy b l = true ↔
    l.hostId = b.hostId ∧ (b.agentInstanceId = "" ∨ l.agentInstanceId = b.agentInstanceId) := by
  simp [ownedBy]

/-- **The rows a renewal changes** are renewable at the compare-and-set, and the reads before it
let their job pass. -/
theorem changedLease_iff {b : ExtendBatch} {now : Time} {v : ExtendViews} {l : DeviceLease} :
    changedLease b now v l = true ↔
      ∃ jobId ∈ renewableJobIds b now v, Renewable b now v.cas.db l jobId := by
  rw [changedLease, casMatches]
  simp only [Bool.and_eq_true, Option.any_eq_true, List.contains_iff_mem, beq_iff_eq,
    decide_eq_true_eq, ownedBy_iff]
  constructor
  · rintro ⟨⟨⟨⟨⟨jobId, hjob, ⟨hin, htoken⟩, hrun⟩, htype⟩, hactive⟩, hexpires⟩, hhost, hinst⟩
    exact ⟨jobId, hin, hjob, htoken, htype, hactive, hexpires, hhost, hinst, hrun⟩
  · rintro ⟨jobId, hin, h⟩
    exact ⟨⟨⟨⟨⟨jobId, h.job, ⟨hin, h.token⟩, h.running⟩, h.leaseType⟩, h.active⟩, h.unexpired⟩,
      h.host, h.instance'⟩

/-- The jobs whose lease was renewed are those of the changed rows. -/
theorem mem_renewedIds {b : ExtendBatch} {now : Time} {v : ExtendViews} {jobId : ℕ} :
    jobId ∈ renewedIds b now v ↔
      ∃ l ∈ v.cas.db.leases.rows, l.jobId = some jobId ∧ changedLease b now v l = true := by
  rw [renewedIds, List.mem_filter, Table.first, List.find?_isSome]
  simp only [Bool.and_eq_true, beq_iff_eq]
  constructor
  · rintro ⟨-, l, hl, hjob, hchanged⟩
    exact ⟨l, hl, hjob, hchanged⟩
  · rintro ⟨l, hl, hjob, hchanged⟩
    obtain ⟨jobId', hin, h⟩ := changedLease_iff.mp hchanged
    obtain rfl : jobId' = jobId := Option.some.inj (h.job.symm.trans hjob)
    exact ⟨hin, l, hl, hjob, hchanged⟩

/-- A renewable job was asked for and passed the reads. -/
theorem mem_renewableJobIds {b : ExtendBatch} {now : Time} {v : ExtendViews} {jobId : ℕ} :
    jobId ∈ renewableJobIds b now v ↔
      jobId ∈ orderedJobIds b.leases ∧ verdict b now v jobId = .renewable := by
  simp [renewableJobIds]

/-- A job passes when its lease is renewable at the reads and it still runs when it is locked. -/
theorem verdict_eq_renewable_iff {b : ExtendBatch} {now : Time} {v : ExtendViews} {jobId : ℕ} :
    verdict b now v jobId = .renewable ↔
      runningJob v.locked jobId = true ∧
        ∃ l, leaseByJob v.leases jobId = some l ∧ Renewable b now v.jobs l jobId := by
  have hprelim : prelimOf b now v jobId = .renewable ↔
      ∃ l, leaseByJob v.leases jobId = some l ∧ Renewable b now v.jobs l jobId := by
    rw [prelimOf]
    cases hrun : runningJob v.jobs jobId with
    | false =>
        simp only [Bool.not_false, if_true, reduceCtorEq, false_iff]
        rintro ⟨l, -, h⟩
        rw [h.running] at hrun
        cases hrun
    | true =>
        cases hlease : leaseByJob v.leases jobId with
        | none => simp
        | some l =>
            obtain ⟨-, hl⟩ := Table.mem_select.mp (List.mem_of_getLast? hlease)
            simp only [isActiveJobLease, Bool.and_eq_true, beq_iff_eq] at hl
            simp only [Bool.not_true, Bool.false_eq_true, if_false, Option.some.injEq,
              exists_eq_left']
            split_ifs with htoken howned hexpires
            · simp only [false_iff]
              exact fun h => htoken h.token
            · simp only [false_iff]
              rw [Bool.not_eq_true', Bool.eq_false_iff] at howned
              exact fun h => howned (ownedBy_iff.mpr ⟨h.host, h.instance'⟩)
            · simp only [false_iff]
              exact fun h => absurd h.unexpired (not_lt.mpr hexpires)
            · simp only [true_iff]
              rw [Bool.not_eq_true', Bool.not_eq_false] at howned
              obtain ⟨hhost, hinst⟩ := ownedBy_iff.mp howned
              exact ⟨hl.1.1, not_not.mp htoken, hl.1.2, hl.2, not_le.mp hexpires, hhost, hinst,
                hrun⟩
  rw [← hprelim, verdict]
  cases hp : prelimOf b now v jobId with
  | renewable => simp
  | _ => simp

/-! ### What else is written -/

/-- Two databases that differ at most in the live columns of some jobs. -/
structure LiveFrame (jobIds : List ℕ) (db db' : Db) : Prop where
  tables : db' = { db with jobs := db'.jobs }
  others : ∀ jobId ∉ jobIds, db'.jobs.get? jobId = db.jobs.get? jobId
  gone : ∀ jobId, db.jobs.get? jobId = none → db'.jobs.get? jobId = none
  live : ∀ jobId job, db.jobs.get? jobId = some job →
    ∃ job', db'.jobs.get? jobId = some job' ∧ SameButLive job job'

/-- Nothing differs. -/
theorem LiveFrame.refl (jobIds : List ℕ) (db : Db) : LiveFrame jobIds db db :=
  ⟨rfl, fun _ _ => rfl, fun _ h => h, fun _ job h => ⟨job, h, SameButLive.refl job⟩⟩

/-- Frames compose. -/
theorem LiveFrame.trans {jobIds : List ℕ} {db db' db'' : Db} (h : LiveFrame jobIds db db')
    (h' : LiveFrame jobIds db' db'') : LiveFrame jobIds db db'' where
  tables := by
    have hmid := h'.tables
    rw [h.tables] at hmid
    exact hmid
  others := fun jobId hout => (h'.others jobId hout).trans (h.others jobId hout)
  gone := fun jobId hnone => h'.gone jobId (h.gone jobId hnone)
  live := by
    intro jobId job hget
    obtain ⟨mid, hmid, hsame⟩ := h.live jobId job hget
    obtain ⟨job', hget', hsame'⟩ := h'.live jobId mid hmid
    exact ⟨job', hget', hsame.trans hsame'⟩

/-- Writing back a row that differs in live columns. -/
theorem LiveFrame.save {jobIds : List ℕ} {db : Db} {job job' : JobInstance}
    (hget : db.jobs.get? job.id = some job) (hin : job.id ∈ jobIds)
    (hsame : SameButLive job job') : LiveFrame jobIds db { db with jobs := db.jobs.save job' } := by
  have hid : Row.id job' = job.id := hsame.id_eq
  have hread : ∀ jobId, (db.jobs.save job').get? jobId =
      (db.jobs.get? jobId).map fun r => if job.id = jobId then job' else r := by
    intro jobId
    rw [Table.get?_save, hid]
  refine ⟨rfl, fun jobId hout => ?_, fun jobId hnone => ?_, fun jobId row hrow => ?_⟩
  · have hne : job.id ≠ jobId := fun heq => hout (heq ▸ hin)
    rw [hread]
    simp [hne]
  · rw [hread, hnone]
    rfl
  · rw [hread, hrow]
    by_cases heq : job.id = jobId
    · subst heq
      obtain rfl : row = job := Option.some.inj (hrow.symm.trans hget)
      exact ⟨job', by simp, hsame⟩
    · exact ⟨row, by simp [heq], SameButLive.refl row⟩

/-- The signals are written to the renewed jobs only. -/
theorem liveFrame_writeSignals (b : ExtendBatch) (now later : Time) (renewed : List ℕ)
    (s : LiveDb) : LiveFrame renewed s.db (writeSignals b now later renewed s).db := by
  have hread : ∀ jobId, (writeSignals b now later renewed s).db.jobs.get? jobId =
      (s.db.jobs.get? jobId).map fun r =>
        if isLive renewed r then r.signal b now later else r := fun jobId =>
    Table.get?_update s.db.jobs (isLive renewed) (JobInstance.signal b now later)
      (JobInstance.id_signal b now later) jobId
  refine ⟨rfl, fun jobId hout => ?_, fun jobId hnone => ?_, fun jobId job hget => ?_⟩
  · rw [hread]
    cases hget : s.db.jobs.get? jobId with
    | none => rfl
    | some job =>
        have hid : job.id = jobId := Table.id_of_get? hget
        have hdead : isLive renewed job = false := by
          rw [isLive, hid]
          simp [hout]
        simp [hdead]
  · rw [hread, hnone]
    rfl
  · rw [hread, hget, Option.map_some]
    refine ⟨_, rfl, ?_⟩
    split_ifs
    · exact job.sameButLive_signal b now later
    · exact SameButLive.refl job

section Renewal

variable {manifestPackageSha : String → String → Option String}

/-- Evidence is written to its job only. -/
theorem liveFrame_takeEvidence {b : ExtendBatch} {now : Time} {db db' : Db} {jobId : ℕ}
    {jobIds : List ℕ} (hin : jobId ∈ jobIds)
    (h : takeEvidence manifestPackageSha b now db jobId = .ok db') : LiveFrame jobIds db db' := by
  rw [takeEvidence] at h
  cases hevidence : (itemByJob b.leases jobId).bind ExtendBatchItem.disarmEvidence with
  | none =>
      rw [hevidence] at h
      cases h
      exact LiveFrame.refl jobIds db
  | some evidence =>
      rw [hevidence] at h
      cases hget : db.jobs.get? jobId with
      | none =>
          rw [hget] at h
          cases h
      | some job =>
          rw [hget] at h
          dsimp only at h
          split at h
          · cases h
          · cases h
            exact LiveFrame.refl jobIds db
          · rename_i job' haccept
            cases h
            have hid : job.id = jobId := Table.id_of_get? hget
            exact LiveFrame.save (hid.symm ▸ hget) (hid.symm ▸ hin)
              (acceptJobDisarmEvidence_frame haccept).1

/-- The loop over the evidence. -/
theorem liveFrame_foldlM_takeEvidence {b : ExtendBatch} {now : Time} {jobIds items : List ℕ}
    (hitems : ∀ jobId ∈ items, jobId ∈ jobIds) {db db' : Db}
    (h : items.foldlM (takeEvidence manifestPackageSha b now) db = .ok db') :
    LiveFrame jobIds db db' := by
  induction items generalizing db with
  | nil =>
      cases h
      exact LiveFrame.refl jobIds _
  | cons jobId rest ih =>
      rw [List.foldlM_cons] at h
      obtain ⟨mid, hmid, hrest⟩ := Except.bind_eq_ok_iff.mp h
      rw [List.forall_mem_cons] at hitems
      exact (liveFrame_takeEvidence hitems.1 hmid).trans (ih hitems.2 hrest)

/-- Without evidence there is nothing that could raise. -/
theorem foldlM_takeEvidence_of_none {b : ExtendBatch} {now : Time}
    (hnone : ∀ it ∈ b.leases, it.disarmEvidence = none) (items : List ℕ) (db : Db) :
    items.foldlM (takeEvidence manifestPackageSha b now) db = .ok db := by
  have hevidence : ∀ jobId, (itemByJob b.leases jobId).bind ExtendBatchItem.disarmEvidence = none := by
    intro jobId
    cases hitem : itemByJob b.leases jobId with
    | none => rfl
    | some it => exact hnone it (List.mem_reverse.mp (List.mem_of_find?_eq_some hitem))
  induction items with
  | nil => rfl
  | cons jobId rest ih =>
      have hstep : takeEvidence manifestPackageSha b now db jobId = .ok db := by
        rw [takeEvidence, hevidence]
      rw [List.foldlM_cons, hstep]
      exact ih

end Renewal

/-! ### The renewal -/

/-- What the reads before the compare-and-set must have found for a job. -/
structure PassedReads (b : ExtendBatch) (now : Time) (v : ExtendViews) (jobId : ℕ) : Prop where
  locked : runningJob v.locked jobId = true
  lease : ∃ l, leaseByJob v.leases jobId = some l ∧ Renewable b now v.jobs l jobId

/-- **What a renewal does**: one answer for each job, in the order in which the jobs come first;
it says renewed when a row of the job was changed; the changed rows are those that are renewable
at the compare-and-set and passed the reads; and nothing else is written but the live columns of
the renewed jobs. -/
structure ExtendExact (b : ExtendBatch) (now : Time) (v : ExtendViews)
    (results : List ExtendResult) (s : LiveDb) : Prop where
  once : (results.map ExtendResult.jobId).Nodup
  asked : ∀ jobId, jobId ∈ results.map ExtendResult.jobId ↔
    jobId ∈ b.leases.map ExtendBatchItem.jobId
  order : (results.map ExtendResult.jobId).Pairwise fun a c =>
    (b.leases.map ExtendBatchItem.jobId).idxOf a < (b.leases.map ExtendBatchItem.jobId).idxOf c
  leases : s.db.leases =
    v.cas.db.leases.update (changedLease b now v) (DeviceLease.renew now) fun _ => rfl
  changed : ∀ l ∈ v.cas.db.leases.rows, changedLease b now v l = true ↔
    ∃ jobId, Renewable b now v.cas.db l jobId ∧ PassedReads b now v jobId
  renewed : ∀ r ∈ results, r.status = .renewed ↔
    ∃ l ∈ v.cas.db.leases.rows, l.jobId = some r.jobId ∧ changedLease b now v l = true
  rest : LiveFrame (renewedIds b now v) v.cas.db { s.db with leases := v.cas.db.leases }
  states : ∀ jobId ∉ renewedIds b now v, s.executionState jobId = v.cas.executionState jobId

/-- Nothing is committed between the statements. -/
structure ExtendViews.SameMoment (v : ExtendViews) : Prop where
  jobs : v.jobs = v.cas.db
  leases : v.leases = v.cas.db
  locked : v.locked = v.cas.db

/-- What claims leave behind: no device has two active leases, and the leases of a job are on its
device. -/
structure JobLeasesFit (db : Db) : Prop where
  exclusive : db.Exclusive
  device : ∀ l ∈ db.leases.rows, ∀ jobId, l.leaseType = .job → l.jobId = some jobId →
    ∃ job, db.jobs.get? jobId = some job ∧ l.deviceId = job.deviceId

/-- A token is asked for by an item. -/
theorem mem_orderedJobIds_of_token {b : ExtendBatch} {jobId : ℕ} {token : String}
    (h : tokenByJob b jobId = some token) : jobId ∈ orderedJobIds b.leases := by
  obtain ⟨it, hit, -⟩ := Option.map_eq_some_iff.mp h
  have hid : it.jobId = jobId := by simpa using List.find?_some hit
  exact ((orderedJobIds_spec b.leases).2.1 jobId).mpr
    (hid ▸ List.mem_map_of_mem (List.mem_reverse.mp (List.mem_of_find?_eq_some hit)))

/-- The rows a renewal changes, read by read. -/
theorem changedLease_iff_passed {b : ExtendBatch} {now : Time} {v : ExtendViews}
    {l : DeviceLease} : changedLease b now v l = true ↔
      ∃ jobId, Renewable b now v.cas.db l jobId ∧ PassedReads b now v jobId := by
  rw [changedLease_iff]
  constructor
  · rintro ⟨jobId, hin, h⟩
    obtain ⟨hlocked, hlease⟩ := verdict_eq_renewable_iff.mp (mem_renewableJobIds.mp hin).2
    exact ⟨jobId, h, hlocked, hlease⟩
  · rintro ⟨jobId, h, hpassed⟩
    refine ⟨jobId, mem_renewableJobIds.mpr ⟨mem_orderedJobIds_of_token h.token, ?_⟩, h⟩
    exact verdict_eq_renewable_iff.mpr ⟨hpassed.locked, hpassed.lease⟩

/-- **Without interference the renewal is exact.** -/
theorem changedLease_iff_renewable {b : ExtendBatch} {now : Time} {v : ExtendViews}
    (hsame : v.SameMoment) (hfit : JobLeasesFit v.cas.db) {l : DeviceLease}
    (hl : l ∈ v.cas.db.leases.rows) :
    changedLease b now v l = true ↔ ∃ jobId, Renewable b now v.cas.db l jobId := by
  rw [changedLease_iff_passed]
  constructor
  · rintro ⟨jobId, h, -⟩
    exact ⟨jobId, h⟩
  · rintro ⟨jobId, h⟩
    refine ⟨jobId, h, hsame.locked ▸ h.running, l, ?_, hsame.jobs ▸ h⟩
    have hactive : isActiveJobLease jobId l = true := by
      simp [isActiveJobLease, h.job, h.leaseType, h.active]
    have hin : l ∈ v.leases.leases.select (isActiveJobLease jobId) := by
      rw [hsame.leases]
      exact Table.mem_select.mpr ⟨hl, hactive⟩
    obtain ⟨last, hlast⟩ := Option.isSome_iff_exists.mp
      (List.getLast?_isSome.mpr (List.ne_nil_of_mem hin))
    obtain ⟨hrow, hcond⟩ := Table.mem_select.mp (List.mem_of_getLast? hlast)
    rw [hsame.leases] at hrow
    simp only [isActiveJobLease, Bool.and_eq_true, beq_iff_eq] at hcond
    obtain ⟨job, hjob, hdevice⟩ := hfit.device l hl jobId h.leaseType h.job
    obtain ⟨job', hjob', hdevice'⟩ := hfit.device last hrow jobId hcond.1.2 hcond.1.1
    obtain rfl : job = job' := Option.some.inj (hjob.symm.trans hjob')
    have heq : last = l := hfit.exclusive last hrow l hl (by simp [hcond.2]) (by simp [h.active])
      (hdevice'.trans hdevice.symm)
    rw [leaseByJob, hlast, heq]

/-- The answer to a job says renewed when its lease was. -/
theorem status_resultOfJob {b : ExtendBatch} {now : Time} {v : ExtendViews} {jobId : ℕ} :
    (resultOfJob b now v jobId).status = .renewed ↔ jobId ∈ renewedIds b now v := by
  have hsub : jobId ∈ renewedIds b now v → verdict b now v jobId = .renewable := fun hin =>
    (mem_renewableJobIds.mp (List.mem_of_mem_filter hin)).2
  rw [resultOfJob]
  cases hverdict : verdict b now v jobId with
  | renewable =>
      simp only [List.contains_iff_mem]
      split_ifs with h
      · simp [h]
      · simp [h]
  | _ =>
      have hout : jobId ∉ renewedIds b now v := fun hin => by
        rw [hsub hin] at hverdict
        cases hverdict
      simp [hout]

/-- An answer names its job. -/
theorem jobId_resultOfJob (b : ExtendBatch) (now : Time) (v : ExtendViews) (jobId : ℕ) :
    (resultOfJob b now v jobId).jobId = jobId := by
  rw [resultOfJob]
  cases verdict b now v jobId with
  | renewable =>
      dsimp only
      split_ifs <;> rfl
  | _ => rfl

section Renewal

variable (manifestPackageSha : String → String → Option String)

/-- A renewal that returns is exact. -/
theorem extendExact_of_ok {b : ExtendBatch} {now later : Time} {v : ExtendViews}
    {results : List ExtendResult} {s : LiveDb}
    (h : extendAgentLeasesBatch manifestPackageSha b now later v = .ok (results, s)) :
    ExtendExact b now v results s := by
  obtain ⟨hnodup, hmem, horder⟩ := orderedJobIds_spec b.leases
  have hchanged : ∀ l ∈ v.cas.db.leases.rows, changedLease b now v l = true ↔
      ∃ jobId, Renewable b now v.cas.db l jobId ∧ PassedReads b now v jobId :=
    fun _ _ => changedLease_iff_passed
  rw [extendAgentLeasesBatch] at h
  split_ifs at h with hempty htoo
  · cases h
    have hnone : ∀ l, changedLease b now v l = false := fun l => by
      refine Bool.eq_false_iff.mpr fun hl => ?_
      obtain ⟨jobId, hren, -⟩ := changedLease_iff_passed.mp hl
      have hin := mem_orderedJobIds_of_token hren.token
      rw [hempty] at hin
      exact List.not_mem_nil hin
    refine ⟨List.nodup_nil, by simp [hempty], List.Pairwise.nil, ?_, hchanged, by simp,
      LiveFrame.refl _ _, fun _ _ => rfl⟩
    exact (Table.update_eq_self fun l _ => hnone l).symm
  · dsimp only at h
    split at h
    · cases h
    · rename_i db hdb
      cases h
      have hids : ((orderedJobIds b.leases).map (resultOfJob b now v)).map ExtendResult.jobId =
          orderedJobIds b.leases := by
        rw [List.map_map]
        exact (List.map_congr_left fun jobId _ => jobId_resultOfJob b now v jobId).trans
          (List.map_id _)
      have hsignals := liveFrame_writeSignals b now later (renewedIds b now v) (renewedDb b now v)
      have hevidence := @liveFrame_foldlM_takeEvidence _ b now (renewedIds b now v) _
        (fun jobId hin => mem_sortBy.mp hin) _ _ hdb
      have hframe := hsignals.trans hevidence
      refine ⟨?_, ?_, ?_, ?_, hchanged, ?_, ?_, ?_⟩
      · rw [hids]
        exact hnodup
      · rw [hids]
        exact hmem
      · rw [hids]
        exact horder
      · exact congrArg Db.leases hframe.tables
      · intro r hr
        obtain ⟨jobId, -, rfl⟩ := List.mem_map.mp hr
        rw [status_resultOfJob, jobId_resultOfJob, mem_renewedIds]
      · refine ⟨?_, hframe.others, hframe.gone, hframe.live⟩
        dsimp only
        rw [hframe.tables]
        rfl
      · intro jobId hout
        have hcontains : (renewedIds b now v).contains jobId = false := by simpa using hout
        simp only [writeSignals, hcontains, Bool.false_and]
        rfl

/-- **Batch renewal is exact.** A request with too many items is refused; one without evidence of
a disarming job is answered; what is answered is exact; and when nothing is committed between the
statements, the changed leases are those that are renewable. -/
theorem extend_batch_exact (b : ExtendBatch) (now later : Time) (v : ExtendViews) :
    (leaseExtendBatchMax < b.leases.length →
      extendAgentLeasesBatch manifestPackageSha b now later v =
        .error (.batchTooLarge leaseExtendBatchMax b.leases.length)) ∧
    (b.leases.length ≤ leaseExtendBatchMax → (∀ it ∈ b.leases, it.disarmEvidence = none) →
      ∃ r, extendAgentLeasesBatch manifestPackageSha b now later v = .ok r) ∧
    (∀ results s, extendAgentLeasesBatch manifestPackageSha b now later v = .ok (results, s) →
      ExtendExact b now v results s) ∧
    (v.SameMoment → JobLeasesFit v.cas.db → ∀ l ∈ v.cas.db.leases.rows,
      changedLease b now v l = true ↔ ∃ jobId, Renewable b now v.cas.db l jobId) := by
  refine ⟨fun htoo => ?_, fun hfits hnone => ?_, fun _ _ => extendExact_of_ok manifestPackageSha,
    fun hsame hfit _ hl => changedLease_iff_renewable hsame hfit hl⟩
  · have hne : b.leases ≠ [] := fun hempty => by simp [hempty] at htoo
    rw [extendAgentLeasesBatch, if_neg hne, if_pos htoo]
  · rw [extendAgentLeasesBatch]
    split_ifs with hempty htoo
    · exact ⟨_, rfl⟩
    · omega
    · dsimp only
      rw [foldlM_takeEvidence_of_none hnone]
      exact ⟨_, rfl⟩

end Renewal

/-! ### One renewed job -/

namespace RenewalExample

/-- A running job. -/
def job : JobInstance where
  id := 1
  planRunId := 1
  deviceId := 1
  hostId := some "host"
  status := .running
  statusReason := none
  pipelineDef := .null
  startedAt := some 0
  endedAt := none
  terminalPayloadDigest := none
  disarmResults := .null
  disarmGuard := none
  lastExecutionHeartbeatAt := none
  lastProgressAt := none
  updatedAt := 0

/-- Its lease. -/
def lease : DeviceLease :=
  newLease 0 1 "host" .job "agent" (some 1) none none (Time.addSeconds 0 600) 5 1

/-- The job and its lease. -/
def db : Db where
  devices := Table.empty
  leases := ⟨[lease], 2, by decide, by decide⟩
  debts := Table.empty
  jobs := ⟨[job], 2, by decide, by decide⟩
  traces := Table.empty
  planRuns := Table.empty
  hosts := []

/-- Everything is seen at one moment. -/
def views : ExtendViews := ⟨db, db, db, ⟨db, fun _ => none⟩⟩

/-- An item for the job. -/
def item : ExtendBatchItem := ⟨1, "1:5", some "EXECUTING_STEP", none, none⟩

/-- A request of so many items. -/
def request (n : ℕ) : ExtendBatch := ⟨"host", "agent", List.replicate n item⟩

/-- No script is known. -/
def noPackage : String → String → Option String := fun _ _ => none

/-- **A renewal writes more than leases**: the row of the renewed job changes too. -/
theorem renewal_writes_job : ∃ results s,
    extendAgentLeasesBatch noPackage (request 1) 100 101 views = .ok (results, s) ∧
      s.db.jobs.get? 1 ≠ views.cas.db.jobs.get? 1 := by
  have hrun : ((extendAgentLeasesBatch noPackage (request 1) 100 101 views).toOption.map fun r =>
      (r.2.db.jobs.get? 1).bind JobInstance.lastExecutionHeartbeatAt) = some (some 100) := by
    decide
  obtain ⟨⟨results, s⟩, hok, hbeat⟩ := Option.map_eq_some_iff.mp hrun
  refine ⟨results, s, Except.toOption_eq_some_iff.mp hok, fun hsame => ?_⟩
  rw [hsame] at hbeat
  exact absurd hbeat (by decide)

/-- The job has one lease, on its device. -/
theorem leases_fit : JobLeasesFit db where
  exclusive := by
    intro r hr s hs _ _ _
    rw [List.mem_singleton.mp hr, List.mem_singleton.mp hs]
  device := by
    intro l hl jobId _ hjob
    obtain rfl := List.mem_singleton.mp hl
    obtain rfl : 1 = jobId := Option.some.inj hjob
    exact ⟨job, rfl, rfl⟩

/-- One item is renewed, and two hundred and one are refused. -/
theorem renewal_exact :
    (∃ results s, extendAgentLeasesBatch noPackage (request 1) 100 101 views = .ok (results, s) ∧
      ExtendExact (request 1) 100 views results s) ∧
    (∀ l ∈ db.leases.rows, changedLease (request 1) 100 views l = true ↔
      ∃ jobId, Renewable (request 1) 100 db l jobId) ∧
    extendAgentLeasesBatch noPackage (request 201) 100 101 views =
      .error (.batchTooLarge 200 201) := by
  obtain ⟨-, hanswered, hexact, hsequential⟩ :=
    extend_batch_exact noPackage (request 1) 100 101 views
  obtain ⟨⟨results, s⟩, hok⟩ := hanswered (by decide) (by
    intro it hit
    rw [List.mem_singleton.mp hit]
    rfl)
  refine ⟨⟨results, s, hok, hexact results s hok⟩, ?_, ?_⟩
  · exact hsequential ⟨rfl, rfl, rfl⟩ leases_fit
  · have hlength : (request 201).leases.length = 201 := List.length_replicate
    have htoo := (extend_batch_exact noPackage (request 201) 100 101 views).1
      (by rw [hlength]; decide)
    rw [htoo, hlength, leaseExtendBatchMax]

end RenewalExample

end StabilityPlatform
