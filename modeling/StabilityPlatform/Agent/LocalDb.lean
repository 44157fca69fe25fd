import StabilityPlatform.Core.PyVal
import StabilityPlatform.Lib.Dict
import StabilityPlatform.Lib.Run

/-!
# The log-signal outbox of an agent

An agent keeps the log signals it has to send in a local SQLite database, one row for a job
and a sequence number, and numbers them itself. The number reserved last is a row of its
own, so that numbers survive restarts and the deletion of acknowledged rows; a database from
before that row existed has only its outbox, and the numbers that recorded intents carry.

Every method is one transaction on the database, and an exception rolls it back. Numbers
are SQLite integers of 64 bits, whose sum leaves the integers when it overflows.

## Main results

* `reserve_gt`: a reserved number is past the rows of the outbox and the last number.
* `prune_dominated`: pruning keeps the largest number of every job.
* `numbered_step`: no step loses a number.
* `reserved_numbers_fresh`: **reserved numbers are new** and increase, over any run.
-/

namespace StabilityPlatform

open Lib

/-! ### SQLite integers -/

/-- The largest SQLite integer. -/
def maxInteger : ℤ := 9223372036854775807

/-- The smallest SQLite integer. -/
def minInteger : ℤ := -9223372036854775808

/-- Whether a Python integer can be bound to a statement. -/
def isInteger (z : ℤ) : Bool := minInteger ≤ z && z ≤ maxInteger

/-- `CAST(text AS INTEGER)` of the decimal text of a number. -/
def castInteger (z : ℤ) : ℤ := max minInteger (min z maxInteger)

/-- `z + 1`; `none` when the sum overflows to a real. -/
def addOne (z : ℤ) : Option ℤ := if z < maxInteger then some (z + 1) else none

/-- `CAST(CAST(x AS TEXT) AS INTEGER)` of a sum: the text of the real past the largest
integer starts with a nine and a point. -/
def castText (sum : Option ℤ) : ℤ := sum.getD 9

/-- The exceptions of the database methods. -/
inductive LocalDbError where
  | overflowError
  | valueError
  deriving DecidableEq

/-! ### The database -/

/-- A row of `log_signal_outbox`, without its envelope and the bookkeeping of its sends. -/
structure OutboxRow where
  id : ℕ
  jobId : ℤ
  seqNo : ℤ
  acked : Bool
  deadLetter : Bool
  deriving DecidableEq

/-- The tables the sequence numbers live in. -/
structure LocalDb where
  /-- The `agent_state` rows `log_signal_seq:{job_id}`: jobs with the number in their row. -/
  sequences : List (ℤ × ℤ)
  /-- The `agent_state` rows of recorded intents; `none` for a text that is not JSON. -/
  emitIntents : List (Option PyVal)
  outbox : List OutboxRow
  nextId : ℕ

namespace LocalDb

/-- A database with empty tables. -/
def init : LocalDb := ⟨[], [], [], 1⟩

/-- The number in the sequence row of a job. -/
def sequence (db : LocalDb) (jobId : ℤ) : Option ℤ := db.sequences.lookup jobId

/-- Write the sequence row of a job. -/
def setSequence (db : LocalDb) (jobId value : ℤ) : LocalDb :=
  { db with sequences := (jobId, value) :: db.sequences.filter fun p => p.1 ≠ jobId }

/-- `MAX(seq_no)` over some rows of a job. -/
def maxSeq (rows : List OutboxRow) (jobId : ℤ) : Option ℤ :=
  ((rows.filter fun r => r.jobId = jobId).map OutboxRow.seqNo).max?

/-- Reserve the next sequence number of a job. -/
def reserveLogSignalSeqNo (db : LocalDb) (jobId : ℤ) : Except LocalDbError (ℤ × LocalDb) :=
  if isInteger jobId then
    let excluded := addOne ((maxSeq db.outbox jobId).getD 0)
    let value := match db.sequence jobId with
      | none => excluded
      | some value => (addOne (castInteger value)).map fun next => max next (castText excluded)
    match value with
    | some value => .ok (value, db.setSequence jobId value)
    | none => .error .valueError
  else .error .overflowError

/-- Advance the sequence row of a job to a number. -/
def advanceLogSignalSequence (db : LocalDb) (jobId seqNo : ℤ) : LocalDb :=
  db.setSequence jobId (match db.sequence jobId with
    | none => seqNo
    | some value => max (castInteger value) (castInteger seqNo))

/-- The job and the number a recorded intent carries. -/
def intentSignal (record : PyVal) : Option (ℤ × ℤ) := do
  let record ← record.asDict?
  let envelope ← (PyDict.get record "signal_envelope").asDict?
  let jobId ← (← envelope.lookup "job_id").int?
  let seqNo ← (← record.lookup "seq_no").int?
  if 0 < jobId ∧ 0 < seqNo then some (jobId, seqNo) else none

/-- The numbers of all recorded intents. -/
def intentSignals (db : LocalDb) : List (ℤ × ℤ) :=
  db.emitIntents.flatMap fun row =>
    ((row.bind PyVal.asDict?).getD []).filterMap fun record => intentSignal record.2

/-- Keep the numbers that intents were given before the sequence rows existed. -/
def restoreIntentSignalSequences (db : LocalDb) : LocalDb :=
  db.intentSignals.foldl (fun db signal => db.advanceLogSignalSequence signal.1 signal.2) db

/-- Put a log signal into the outbox; the row id, unless the number is there already. -/
def enqueueLogSignal (db : LocalDb) (jobId seqNo : ℤ) :
    Except LocalDbError (Option ℕ × LocalDb) :=
  if isInteger jobId ∧ isInteger seqNo then
    let db := db.advanceLogSignalSequence jobId seqNo
    if db.outbox.any fun r => r.jobId = jobId ∧ r.seqNo = seqNo then .ok (none, db)
    else
      .ok (some db.nextId, { db with
        outbox := db.outbox ++ [OutboxRow.mk db.nextId jobId seqNo false false]
        nextId := db.nextId + 1 })
  else .error .overflowError

/-- Update the row with a given id. -/
def updateRow (db : LocalDb) (id : ℕ) (f : OutboxRow → OutboxRow) : LocalDb :=
  { db with outbox := db.outbox.map fun r => if r.id = id then f r else r }

/-- The server has a signal. -/
def ackLogSignal (db : LocalDb) (id : ℕ) : LocalDb :=
  db.updateRow id fun r => { r with acked := true }

/-- Sending a signal is given up. -/
def markLogSignalDeadLetter (db : LocalDb) (id : ℕ) : LocalDb :=
  db.updateRow id fun r => { r with deadLetter := true }

/-- A signal that was given up is to be sent again. -/
def replayLogSignalDeadLetter (db : LocalDb) (id : ℕ) : LocalDb :=
  db.updateRow id fun r =>
    if r.deadLetter then { r with deadLetter := false, acked := false } else r

/-- Whether a row is acknowledged and not given up. -/
def isDone (r : OutboxRow) : Bool := r.acked && !r.deadLetter

/-- `ORDER BY id DESC LIMIT n`, where a negative limit is none. -/
def recentIds (rows : List OutboxRow) (n : ℤ) : List ℕ :=
  let ids := (rows.map OutboxRow.id).insertionSort (· ≥ ·)
  if n < 0 then ids else ids.take n.toNat

/-- Delete acknowledged rows, apart from the most recent ones and from the row of each job
with the largest number; the number of rows deleted. -/
def pruneAckedLogSignals (db : LocalDb) (keepRecent : ℤ) : ℕ × LocalDb :=
  let done := db.outbox.filter isDone
  let recent := recentIds done keepRecent
  let top := (done.filter fun r => maxSeq done r.jobId = some r.seqNo).map OutboxRow.id
  let kept := db.outbox.filter fun r =>
    !(isDone r && !recent.contains r.id && !top.contains r.id)
  (db.outbox.length - kept.length, { db with outbox := kept })

/-! ### Numbers that are taken -/

/-- The sequence row of a job has reached a number. -/
def Covered (db : LocalDb) (jobId n : ℤ) : Prop := ∃ v, db.sequence jobId = some v ∧ n ≤ v

/-- A number the database has not forgotten: the sequence row of the job has reached it, or
a row of the outbox is as large. -/
def Bounded (db : LocalDb) (jobId n : ℤ) : Prop :=
  n ≤ maxInteger ∧
    (db.Covered jobId n ∨ ∃ r ∈ db.outbox, r.jobId = jobId ∧ n ≤ r.seqNo)

/-- The rows of the outbox are integers, and a row with the largest of them is covered. -/
def RowsFit (db : LocalDb) : Prop :=
  ∀ r ∈ db.outbox, r.seqNo ≤ maxInteger ∧
    (r.seqNo < maxInteger ∨ db.Covered r.jobId r.seqNo)

/-- The sequence row of a job after it was written. -/
theorem sequence_setSequence_self (db : LocalDb) (jobId value : ℤ) :
    (db.setSequence jobId value).sequence jobId = some value := by
  simp [sequence, setSequence]

/-- The sequence rows of the other jobs. -/
theorem sequence_setSequence_of_ne (db : LocalDb) {jobId jobId' : ℤ} (value : ℤ)
    (h : jobId' ≠ jobId) : (db.setSequence jobId value).sequence jobId' =
      db.sequence jobId' :=
  Dict.lookup_replace_of_ne db.sequences value h

/-- Writing a sequence row covers what was covered, if the new number is as large as the
integers the old one was. -/
theorem covered_setSequence {db : LocalDb} {jobId jobId' value n : ℤ}
    (hmono : ∀ v, db.sequence jobId = some v → min v maxInteger ≤ value)
    (hn : n ≤ maxInteger) (h : db.Covered jobId' n) :
    (db.setSequence jobId value).Covered jobId' n := by
  obtain ⟨v, hv, hle⟩ := h
  by_cases hjob : jobId' = jobId
  · subst hjob
    refine ⟨value, sequence_setSequence_self .., (le_min hle hn).trans (hmono v hv)⟩
  · exact ⟨v, (sequence_setSequence_of_ne db value hjob).trans hv, hle⟩

/-- Nothing is below its clamp. -/
theorem min_le_castInteger (v : ℤ) : min v maxInteger ≤ castInteger v := le_max_right ..

/-- An integer is its own clamp. -/
theorem castInteger_of_isInteger {z : ℤ} (h : isInteger z = true) : castInteger z = z := by
  simp only [isInteger, Bool.and_eq_true, decide_eq_true_eq] at h
  rw [castInteger, min_eq_left h.2, max_eq_right h.1]

/-- Advancing a sequence row covers what was covered. -/
theorem covered_advance {db : LocalDb} {jobId jobId' seqNo n : ℤ} (hn : n ≤ maxInteger)
    (h : db.Covered jobId' n) :
    (db.advanceLogSignalSequence jobId seqNo).Covered jobId' n := by
  refine covered_setSequence (fun v hv => ?_) hn h
  rw [hv]
  exact (min_le_castInteger v).trans (le_max_left ..)

/-- Advancing a sequence row covers the number it advances to. -/
theorem covered_advance_self (db : LocalDb) {jobId seqNo : ℤ} (h : isInteger seqNo = true) :
    (db.advanceLogSignalSequence jobId seqNo).Covered jobId seqNo := by
  refine ⟨_, sequence_setSequence_self .., ?_⟩
  cases db.sequence jobId with
  | none => exact le_refl _
  | some value => exact (castInteger_of_isInteger h).ge.trans (le_max_right ..)

/-- What is covered is a matter of the sequence rows. -/
theorem covered_congr {db db' : LocalDb} (h : db'.sequences = db.sequences) {jobId n : ℤ}
    (hc : db.Covered jobId n) : db'.Covered jobId n := by
  rw [Covered, sequence, h]
  exact hc

/-! ### Reserving -/

/-- The largest number of a job is at least every number of it. -/
theorem le_maxSeq {rows : List OutboxRow} {r : OutboxRow} (hr : r ∈ rows) :
    ∃ m, maxSeq rows r.jobId = some m ∧ r.seqNo ≤ m := by
  have hmem : r.seqNo ∈ (rows.filter fun q => q.jobId = r.jobId).map OutboxRow.seqNo :=
    List.mem_map_of_mem (List.mem_filter.mpr ⟨hr, by simp⟩)
  obtain ⟨m, hm⟩ : ∃ m, maxSeq rows r.jobId = some m :=
    Option.ne_none_iff_exists'.mp fun hnone =>
      List.ne_nil_of_mem hmem (List.max?_eq_none_iff.mp hnone)
  exact ⟨m, hm, (List.max?_eq_some_iff.mp hm).2 _ hmem⟩

/-- The largest number of a job is that of one of its rows. -/
theorem exists_of_maxSeq {rows : List OutboxRow} {jobId m : ℤ}
    (h : maxSeq rows jobId = some m) : ∃ r ∈ rows, r.jobId = jobId ∧ r.seqNo = m := by
  obtain ⟨r, hr, hm⟩ := List.mem_map.mp (List.max?_eq_some_iff.mp h).1
  obtain ⟨hr, hjob⟩ := List.mem_filter.mp hr
  exact ⟨r, hr, by simpa using hjob, hm⟩

/-- A sum that stays an integer. -/
theorem addOne_eq_some {z n : ℤ} (h : addOne z = some n) : z < maxInteger ∧ n = z + 1 := by
  rw [addOne] at h
  split_ifs at h with hlt
  exact ⟨hlt, (Option.some.inj h).symm⟩

/-- What reserving does: the sequence row moves to the number returned, which is past the
old row and not below the successor of the outbox. -/
theorem reserve_cases {db db' : LocalDb} {jobId n : ℤ}
    (h : db.reserveLogSignalSeqNo jobId = .ok (n, db')) :
    db' = db.setSequence jobId n ∧ n ≤ maxInteger ∧
      (∀ v, db.sequence jobId = some v → castInteger v < n) ∧
      castText (addOne ((maxSeq db.outbox jobId).getD 0)) ≤ n := by
  rw [reserveLogSignalSeqNo] at h
  split_ifs at h
  have hsum : ∀ z, castText (addOne z) ≤ maxInteger := by
    intro z
    cases hz : addOne z with
    | none => decide
    | some k =>
        obtain ⟨hlt, rfl⟩ := addOne_eq_some hz
        exact hlt
  have hexcluded := hsum ((maxSeq db.outbox jobId).getD 0)
  dsimp only at h
  generalize addOne ((maxSeq db.outbox jobId).getD 0) = excluded at h hexcluded ⊢
  cases hs : db.sequence jobId with
  | none =>
      rw [hs] at h
      cases excluded with
      | none => cases h
      | some value =>
          cases h
          exact ⟨rfl, hexcluded, nofun, le_refl _⟩
  | some value =>
      rw [hs] at h
      dsimp only at h
      cases hnext : addOne (castInteger value) with
      | none =>
          rw [hnext] at h
          cases h
      | some next =>
          rw [hnext] at h
          cases h
          obtain ⟨hlt, rfl⟩ := addOne_eq_some hnext
          refine ⟨rfl, max_le hlt hexcluded, ?_, le_max_right ..⟩
          rintro v hv
          obtain rfl := Option.some.inj hv
          exact (lt_add_one _).trans_le (le_max_left ..)

/-- **Reserving.** The number returned is past every number that is taken. -/
theorem reserve_gt {db db' : LocalDb} {jobId n m : ℤ} (hfit : db.RowsFit)
    (h : db.reserveLogSignalSeqNo jobId = .ok (n, db')) (hm : db.Bounded jobId m) :
    m < n := by
  obtain ⟨-, -, hold, hout⟩ := reserve_cases h
  have hcov : ∀ {k}, k ≤ maxInteger → db.Covered jobId k → k < n := by
    rintro k hk ⟨v, hv, hle⟩
    have hlt := hold v hv
    have hcast := min_le_castInteger v
    have hmin := le_min hle hk
    omega
  rcases hm with ⟨hmax, hm | ⟨r, hr, rfl, hle⟩⟩
  · exact hcov hmax hm
  · obtain ⟨top, htop, hrtop⟩ := le_maxSeq hr
    obtain ⟨r', hr', hjob, rfl⟩ := exists_of_maxSeq htop
    obtain ⟨hfits, hsmall | hcovered⟩ := hfit r' hr'
    · rw [htop, Option.getD_some, addOne, if_pos hsmall] at hout
      change r'.seqNo + 1 ≤ n at hout
      omega
    · have hlt := hcov hfits (hjob ▸ hcovered)
      omega

/-- The number returned is covered from then on, with all that was covered. -/
theorem covered_reserve {db db' : LocalDb} {jobId n : ℤ}
    (h : db.reserveLogSignalSeqNo jobId = .ok (n, db')) :
    db'.outbox = db.outbox ∧ n ≤ maxInteger ∧ db'.Covered jobId n ∧
      ∀ {jobId' k}, k ≤ maxInteger → db.Covered jobId' k → db'.Covered jobId' k := by
  obtain ⟨rfl, hn, hold, -⟩ := reserve_cases h
  refine ⟨rfl, hn, ⟨n, sequence_setSequence_self .., le_refl n⟩, fun hk hc => ?_⟩
  exact covered_setSequence (fun v hv => (min_le_castInteger v).trans (hold v hv).le) hk hc

/-! ### The other methods -/

/-- Restoring intents only advances sequence rows. -/
theorem restore_spec (db : LocalDb) :
    db.restoreIntentSignalSequences.outbox = db.outbox ∧
      ∀ {jobId n}, n ≤ maxInteger → db.Covered jobId n →
        db.restoreIntentSignalSequences.Covered jobId n := by
  rw [restoreIntentSignalSequences]
  generalize db.intentSignals = signals
  induction signals generalizing db with
  | nil => exact ⟨rfl, fun _ h => h⟩
  | cons signal rest ih =>
      obtain ⟨hout, hcov⟩ := ih (db.advanceLogSignalSequence signal.1 signal.2)
      exact ⟨hout, fun hn h => hcov hn (covered_advance hn h)⟩

/-- What enqueuing does: it advances the sequence row and may put a row into the outbox. -/
theorem enqueue_cases {db db' : LocalDb} {jobId seqNo : ℤ} {row : Option ℕ}
    (h : db.enqueueLogSignal jobId seqNo = .ok (row, db')) :
    isInteger seqNo = true ∧ db'.sequences = (db.advanceLogSignalSequence jobId seqNo).sequences ∧
      (∀ r ∈ db.outbox, r ∈ db'.outbox) ∧
      ∀ r ∈ db'.outbox, r ∈ db.outbox ∨ (r.jobId = jobId ∧ r.seqNo = seqNo) := by
  rw [enqueueLogSignal] at h
  split_ifs at h with hint
  dsimp only at h
  split_ifs at h
  · cases h
    exact ⟨hint.2, rfl, fun r hr => hr, fun r hr => .inl hr⟩
  · cases h
    refine ⟨hint.2, rfl, fun r hr => List.mem_append_left _ hr, fun r hr => ?_⟩
    refine (List.mem_append.mp hr).imp id fun hr => ?_
    rw [List.mem_singleton.mp hr]
    exact ⟨rfl, rfl⟩

/-- **Pruning** keeps, for every row, one of the same job whose number is as large. -/
theorem prune_dominated (db : LocalDb) (keepRecent : ℤ) {r : OutboxRow}
    (hr : r ∈ db.outbox) :
    ∃ r' ∈ (db.pruneAckedLogSignals keepRecent).2.outbox,
      r'.jobId = r.jobId ∧ r.seqNo ≤ r'.seqNo := by
  by_cases hdone : isDone r = true
  · have hmem : r ∈ db.outbox.filter isDone := List.mem_filter.mpr ⟨hr, hdone⟩
    obtain ⟨top, htop, hle⟩ := le_maxSeq hmem
    obtain ⟨r', hr', hjob, rfl⟩ := exists_of_maxSeq htop
    have hid : r'.id ∈ (((db.outbox.filter isDone).filter fun q =>
        maxSeq (db.outbox.filter isDone) q.jobId = some q.seqNo).map OutboxRow.id) :=
      List.mem_map_of_mem (List.mem_filter.mpr ⟨hr', by simpa [hjob] using htop⟩)
    refine ⟨r', List.mem_filter.mpr ⟨(List.mem_filter.mp hr').1, ?_⟩, hjob, hle⟩
    rw [List.contains_iff_mem.mpr hid]
    simp
  · refine ⟨r, List.mem_filter.mpr ⟨hr, ?_⟩, rfl, le_refl _⟩
    simp [hdone]

/-! ### Runs -/

/-- What may happen to the database. The agent that runs on it may also record intents in
its own rows of `agent_state`. -/
inductive Op where
  | reserve (jobId : ℤ)
  | enqueue (jobId seqNo : ℤ)
  | ack (id : ℕ)
  | markDeadLetter (id : ℕ)
  | replayDeadLetter (id : ℕ)
  | prune (keepRecent : ℤ)
  | recordIntents (rows : List (Option PyVal))
  | restart

/-- One transaction; an exception rolls it back. -/
def step (db : LocalDb) : Op → LocalDb
  | .reserve jobId =>
    match db.reserveLogSignalSeqNo jobId with
    | .ok (_, db') => db'
    | .error _ => db
  | .enqueue jobId seqNo =>
    match db.enqueueLogSignal jobId seqNo with
    | .ok (_, db') => db'
    | .error _ => db
  | .ack id => db.ackLogSignal id
  | .markDeadLetter id => db.markLogSignalDeadLetter id
  | .replayDeadLetter id => db.replayLogSignalDeadLetter id
  | .prune keepRecent => (db.pruneAckedLogSignals keepRecent).2
  | .recordIntents rows => { db with emitIntents := rows }
  | .restart => db.restoreIntentSignalSequences

/-- A number that a job was given. -/
structure TakenNumber where
  jobId : ℤ
  number : ℤ
  /-- Whether `reserve_log_signal_seq_no` returned it; otherwise it was enqueued. -/
  reserved : Bool
  deriving DecidableEq

/-- The number a transaction takes. -/
def taken (db : LocalDb) : Op → List TakenNumber
  | .reserve jobId =>
    match db.reserveLogSignalSeqNo jobId with
    | .ok (n, _) => [⟨jobId, n, true⟩]
    | .error _ => []
  | .enqueue jobId seqNo =>
    match db.enqueueLogSignal jobId seqNo with
    | .ok _ => [⟨jobId, seqNo, false⟩]
    | .error _ => []
  | _ => []

/-- The numbers in the outbox. -/
def enqueued (db : LocalDb) : List TakenNumber :=
  db.outbox.map fun r => ⟨r.jobId, r.seqNo, false⟩

/-- A reserved number is past all earlier numbers of its job. -/
def NewWhenReserved (earlier later : TakenNumber) : Prop :=
  later.reserved = true → earlier.jobId = later.jobId → earlier.number < later.number

/-- Numbers taken one after the other, none of them forgotten. -/
structure Numbered (log : List TakenNumber) (db : LocalDb) : Prop where
  fit : db.RowsFit
  bounded : ∀ t ∈ log, db.Bounded t.jobId t.number
  ordered : log.Pairwise NewWhenReserved

/-- A step that takes no number, keeps what is covered, and leaves for every old row one as
large and no new number. -/
theorem Numbered.keep {log : List TakenNumber} {db db' : LocalDb} (h : Numbered log db)
    (hcov : ∀ {jobId n}, n ≤ maxInteger → db.Covered jobId n → db'.Covered jobId n)
    (hold : ∀ r ∈ db.outbox, ∃ r' ∈ db'.outbox, r'.jobId = r.jobId ∧ r.seqNo ≤ r'.seqNo)
    (hnew : ∀ r' ∈ db'.outbox, ∃ r ∈ db.outbox, r.jobId = r'.jobId ∧ r.seqNo = r'.seqNo) :
    Numbered log db' := by
  refine ⟨fun r' hr' => ?_, fun t ht => ?_, h.ordered⟩
  · obtain ⟨r, hr, hjob, hseq⟩ := hnew r' hr'
    rw [← hjob, ← hseq]
    exact ⟨(h.fit r hr).1, (h.fit r hr).2.imp id (hcov (h.fit r hr).1)⟩
  · obtain ⟨hmax, hbound⟩ := h.bounded t ht
    refine ⟨hmax, hbound.imp (hcov hmax) ?_⟩
    rintro ⟨r, hr, hjob, hle⟩
    obtain ⟨r', hr', hjob', hle'⟩ := hold r hr
    exact ⟨r', hr', hjob'.trans hjob, hle.trans hle'⟩

/-- An update of a row that leaves its job and its number. -/
theorem Numbered.updateRow {log : List TakenNumber} {db : LocalDb} (h : Numbered log db)
    (id : ℕ) {f : OutboxRow → OutboxRow}
    (hf : ∀ r, (f r).jobId = r.jobId ∧ (f r).seqNo = r.seqNo) :
    Numbered log (db.updateRow id f) := by
  have hg : ∀ r, (if r.id = id then f r else r).jobId = r.jobId ∧
      (if r.id = id then f r else r).seqNo = r.seqNo := by
    intro r
    split_ifs
    · exact hf r
    · exact ⟨rfl, rfl⟩
  refine h.keep (fun _ hc => hc) (fun r hr => ?_) fun r' hr' => ?_
  · exact ⟨_, List.mem_map_of_mem hr, (hg r).1, (hg r).2.ge⟩
  · obtain ⟨r, hr, rfl⟩ := List.mem_map.mp hr'
    exact ⟨r, hr, (hg r).1.symm, (hg r).2.symm⟩

/-- A number that is put at the end of the log. -/
theorem Numbered.take {log : List TakenNumber} {db db' : LocalDb} (h : Numbered log db)
    (h' : Numbered log db') {t : TakenNumber} (ht : db'.Bounded t.jobId t.number)
    (hnew : ∀ e ∈ log, NewWhenReserved e t) : Numbered (log ++ [t]) db' := by
  refine ⟨h'.fit, fun e he => ?_, ?_⟩
  · rcases List.mem_append.mp he with he | he
    · exact h'.bounded e he
    · rw [List.mem_singleton.mp he]
      exact ht
  · refine List.pairwise_append.mpr ⟨h.ordered, List.pairwise_singleton .., ?_⟩
    intro e he e' he'
    rw [List.mem_singleton.mp he']
    exact hnew e he

/-- Reserving a number keeps the log. -/
theorem numbered_reserve {log : List TakenNumber} {db db' : LocalDb} {jobId n : ℤ}
    (h : Numbered log db) (hres : db.reserveLogSignalSeqNo jobId = .ok (n, db')) :
    Numbered (log ++ [⟨jobId, n, true⟩]) db' := by
  obtain ⟨hout, hn, hself, hcov⟩ := covered_reserve hres
  have h' : Numbered log db' := h.keep hcov
    (fun r hr => ⟨r, hout ▸ hr, rfl, le_refl _⟩) fun r hr => ⟨r, hout ▸ hr, rfl, rfl⟩
  refine h.take h' ⟨hn, .inl hself⟩ fun e he _ hjob => ?_
  have hbound := h.bounded e he
  rw [hjob] at hbound
  exact reserve_gt h.fit hres hbound

/-- Enqueuing a signal keeps the log. -/
theorem numbered_enqueue {log : List TakenNumber} {db db' : LocalDb} {jobId seqNo : ℤ}
    {row : Option ℕ} (h : Numbered log db)
    (henq : db.enqueueLogSignal jobId seqNo = .ok (row, db')) :
    Numbered (log ++ [⟨jobId, seqNo, false⟩]) db' := by
  obtain ⟨hint, hseq, hold, hnew⟩ := enqueue_cases henq
  have hself : db'.Covered jobId seqNo := covered_congr hseq (covered_advance_self db hint)
  have hmax : seqNo ≤ maxInteger := by
    simp only [isInteger, Bool.and_eq_true, decide_eq_true_eq] at hint
    exact hint.2
  have hcov : ∀ {job n}, n ≤ maxInteger → db.Covered job n → db'.Covered job n :=
    fun hn hc => covered_congr hseq (covered_advance hn hc)
  refine h.take ⟨fun r hr => ?_, fun t ht => ?_, h.ordered⟩ ⟨hmax, .inl hself⟩ nofun
  · rcases hnew r hr with hr | ⟨rfl, rfl⟩
    · exact ⟨(h.fit r hr).1, (h.fit r hr).2.imp id (hcov (h.fit r hr).1)⟩
    · exact ⟨hmax, .inr hself⟩
  · obtain ⟨hle, hbound⟩ := h.bounded t ht
    exact ⟨hle, hbound.imp (hcov hle) fun ⟨r, hr, hrow⟩ => ⟨r, hold r hr, hrow⟩⟩

/-- **One step** keeps the log. -/
theorem numbered_step {log : List TakenNumber} {db : LocalDb} (h : Numbered log db)
    (op : Op) : Numbered (log ++ db.taken op) (db.step op) := by
  have hnone : ∀ {db'}, Numbered log db' → Numbered (log ++ []) db' := by
    intro db' h'
    rwa [List.append_nil]
  cases op with
  | reserve jobId =>
      rw [step, taken]
      cases hres : db.reserveLogSignalSeqNo jobId with
      | ok result => exact numbered_reserve h hres
      | error e => simpa using h
  | enqueue jobId seqNo =>
      rw [step, taken]
      cases henq : db.enqueueLogSignal jobId seqNo with
      | ok result => exact numbered_enqueue h henq
      | error e => simpa using h
  | ack id => exact hnone (h.updateRow id fun r => ⟨rfl, rfl⟩)
  | markDeadLetter id => exact hnone (h.updateRow id fun r => ⟨rfl, rfl⟩)
  | replayDeadLetter id =>
      refine hnone (h.updateRow id fun r => ?_)
      split_ifs <;> exact ⟨rfl, rfl⟩
  | prune keepRecent =>
      refine hnone (h.keep (fun _ hc => hc) (fun r hr => db.prune_dominated keepRecent hr) ?_)
      exact fun r hr => ⟨r, (List.mem_filter.mp hr).1, rfl, rfl⟩
  | recordIntents rows =>
      exact hnone (h.keep (fun _ hc => hc) (fun r hr => ⟨r, hr, rfl, le_refl _⟩)
        fun r hr => ⟨r, hr, rfl, rfl⟩)
  | restart =>
      obtain ⟨hout, hcov⟩ := db.restore_spec
      exact hnone (h.keep hcov (fun r hr => ⟨r, hout ▸ hr, rfl, le_refl _⟩)
        fun r hr => ⟨r, hout ▸ hr, rfl, rfl⟩)

/-- **Reserved numbers are new.** Take any interleaving of reservations, enqueues with any
numbers, acknowledgements, dead letters, recorded intents, prunings and restarts, on a
database whose outbox, from before there were sequence rows, may already have rows below
the largest integer. Then every number `reserve_log_signal_seq_no` returns is larger than
all numbers of the job that were in that outbox or were reserved or enqueued before. -/
theorem reserved_numbers_fresh {db₀ db : LocalDb} {tr : List (LocalDb × Op)}
    (hold : ∀ r ∈ db₀.outbox, r.seqNo < maxInteger)
    (hrun : Run (fun db op db' => db.step op = db') db₀ tr db) :
    (db₀.enqueued ++ emitted taken tr).Pairwise NewWhenReserved := by
  have hstart : Numbered db₀.enqueued db₀ := by
    refine ⟨fun r hr => ⟨(hold r hr).le, .inl (hold r hr)⟩, fun t ht => ?_, ?_⟩
    · obtain ⟨r, hr, rfl⟩ := List.mem_map.mp ht
      exact ⟨(hold r hr).le, .inr ⟨r, hr, rfl, le_refl _⟩⟩
    · exact List.pairwise_map.mpr (List.pairwise_iff_forall_sublist.mpr fun _ => nofun)
  have hend : Numbered (db₀.enqueued ++ emitted taken tr) db := by
    refine hrun.invariant_log Numbered ?_ hstart
    rintro log s a s' h rfl
    exact numbered_step h a
  exact hend.ordered

/-- The theorem at work: in a database that has only its outbox, the row with the largest
number is acknowledged, everything old is pruned, and the agent restarts, before a number
is reserved, enqueued out of turn, and reserved again. -/
theorem reserved_numbers_fresh_upgrade :
    let old : LocalDb := ⟨[], [], [⟨1, 5, 7, false, false⟩, ⟨2, 5, 3, false, false⟩], 3⟩
    let ops : List Op := [.ack 1, .ack 2, .prune 0, .restart, .reserve 5, .enqueue 5 20,
      .enqueue 5 8, .reserve 5]
    old.enqueued ++ emitted taken (pathOf step old ops) =
        [⟨5, 7, false⟩, ⟨5, 3, false⟩, ⟨5, 8, true⟩, ⟨5, 20, false⟩, ⟨5, 8, false⟩,
          ⟨5, 21, true⟩] ∧
      (old.enqueued ++ emitted taken (pathOf step old ops)).Pairwise NewWhenReserved := by
  intro old ops
  exact ⟨by decide, reserved_numbers_fresh (by decide) (Run.of_foldl step old ops)⟩

end LocalDb

end StabilityPlatform
