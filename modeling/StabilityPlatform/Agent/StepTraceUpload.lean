import StabilityPlatform.Core.PyVal
import StabilityPlatform.Lib.Run
import StabilityPlatform.Lib.StableSort
import StabilityPlatform.Lib.Table

/-!
# The upload of step traces

Traces of steps are written to a table and uploaded in batches by a background thread. A batch has
the oldest traces by the time of the event; a cursor has the largest row id that was uploaded, and
rows up to the cursor are not looked at again. A batch that is rejected is sent again trace by
trace.

## Main results

* `UploadEvent`, `uploadStep`: the table with its thread, request by request.
* `cursor_sound_iff`: **the cursor skips nothing** exactly when no batch is completed while a row
  outside of it is open below its largest id.
* `CursorExample.skipped`: a row that is left behind the cursor.
-/

namespace StabilityPlatform.Upload

open Lib

/-! ### The table -/

/-- A row of `step_trace_cache`. -/
structure TraceRow where
  id : ℕ
  traceEventId : String
  originalTs : Time
  attempts : ℕ
  lastError : Option String
  deadLetter : Bool
  acked : Bool

instance : Row TraceRow := ⟨TraceRow.id⟩

/-- Whether nothing is left to do for a row. -/
def TraceRow.settled (r : TraceRow) : Bool := r.acked || r.deadLetter

/-- `save_step_trace`: a second trace of an event is ignored. -/
def saveStepTrace (t : Table TraceRow) (traceEventId : String) (originalTs : Time) :
    Table TraceRow :=
  if (t.rows.any fun r => r.traceEventId == traceEventId) then t
  else t.insert (fun i => ⟨i, traceEventId, originalTs, 0, none, false, false⟩) fun _ => rfl

/-- `mark_acked`. -/
def markAcked (t : Table TraceRow) (traceId : ℕ) : Table TraceRow :=
  t.update (fun r => r.id == traceId) (fun r => { r with acked := true }) fun _ => rfl

/-- `get_unacked_traces`. -/
def getUnackedTraces (t : Table TraceRow) (afterId : ℕ) : List TraceRow :=
  sortBy TraceRow.originalTs (t.rows.filter fun r => afterId < r.id && !r.settled)

/-- `error[:500] if error else None`. -/
def errorText (error : String) : Option String :=
  if error = "" then none else some (String.ofList (error.toList.take 500))

/-- `_MAX_ATTEMPTS`. -/
def maxAttempts : ℕ := 10

/-- `bump_step_trace_attempt`, and `mark_step_trace_dead_letter` at the limit. -/
def bumpOrDeadLetter (t : Table TraceRow) (error : String) (traceId : ℕ) : Table TraceRow :=
  t.update (fun r => r.id == traceId)
    (fun r => { r with
      attempts := r.attempts + 1
      lastError := errorText error
      deadLetter := r.deadLetter || maxAttempts ≤ r.attempts + 1 })
    fun _ => rfl

/-- `_bump_or_dead_letter_batch`. -/
def bumpOrDeadLetterBatch (t : Table TraceRow) (error : String) (batch : List ℕ) :
    Table TraceRow :=
  batch.foldl (fun t i => bumpOrDeadLetter t error i) t

/-- Whether a row is acknowledged, and not given up. -/
def isDone (r : TraceRow) : Bool := r.acked && !r.deadLetter

/-- `prune_acked_step_traces`. -/
def pruneAckedStepTraces (t : Table TraceRow) (keepRecent : ℕ) : Table TraceRow :=
  t.delete fun r => isDone r &&
    !(((t.rows.filter isDone).map TraceRow.id).insertionSort (· ≥ ·) |>.take keepRecent).contains
      r.id

/-! ### The thread -/

/-- How a request ends. -/
inductive StepReply where
  /-- It is accepted. -/
  | ok
  /-- `HTTPError`, with the status if there is an answer. -/
  | http (status : Option ℕ)
  /-- Another `RequestException`. -/
  | requestError
  /-- Any other exception. -/
  | other
  deriving DecidableEq

/-- `status in (404, 409)`. -/
def StepReply.rejects : StepReply → Bool
  | .http status => status == some 404 || status == some 409
  | .ok | .requestError | .other => false

/-- What the thread is at. -/
inductive UploadPhase where
  | idle
  | posted (batch : List ℕ)
  | resolving (batch rest : List ℕ)

/-- The table with its thread. -/
structure Uploader where
  table : Table TraceRow
  lastId : ℕ
  phase : UploadPhase
  requests : List (List ℕ × StepReply)

/-- `_BATCH_LIMIT`. -/
def batchLimit : ℕ := 100

/-- `max(t["id"] for t in batch)`. -/
def maxId (batch : List ℕ) : ℕ := batch.foldl max 0

/-- Some rows are acknowledged. -/
def ackRows (t : Table TraceRow) (ids : List ℕ) : Table TraceRow := ids.foldl markAcked t

/-- A batch is completed: the cursor goes to its largest id. -/
def Uploader.complete (s : Uploader) (acks batch : List ℕ) : Uploader :=
  { s with
    table := ackRows s.table acks
    lastId := max s.lastId (maxId batch)
    phase := .idle }

/-- A failure: what is left of a batch is counted, and the round ends. -/
def Uploader.fail (s : Uploader) (error : String) (batch : List ℕ) : Uploader :=
  { s with table := bumpOrDeadLetterBatch s.table error batch, phase := .idle }

/-- `_upload_once` after the answer to a batch. -/
def afterBatch (s : Uploader) (batch : List ℕ) (error : String) (reply : StepReply) : Uploader :=
  match reply with
  | .ok => s.complete batch batch
  | .http _ =>
    if reply.rejects then
      if batch.length = 1 then s.complete batch batch
      else { s with phase := .resolving batch batch }
    else s.fail error batch
  | .requestError => s.fail error batch
  | .other => { s with phase := .idle }

/-- `_resolve_rejected_batch` after the answer to one trace. -/
def afterSingle (s : Uploader) (batch : List ℕ) (i : ℕ) (rest : List ℕ) (error : String)
    (reply : StepReply) : Uploader :=
  if reply = .ok ∨ reply.rejects = true then
    if rest = [] then s.complete [i] batch
    else { s with table := markAcked s.table i, phase := .resolving batch rest }
  else s.fail error (i :: rest)

/-- What happens. -/
inductive UploadEvent where
  | save (traceEventId : String) (originalTs : Time)
  | fetch
  | reply (reply : StepReply) (error : String)
  | prune (keepRecent : ℕ)
  | restart

/-- One step. -/
def uploadStep (s : Uploader) : UploadEvent → Option Uploader
  | .save traceEventId originalTs =>
    some { s with table := saveStepTrace s.table traceEventId originalTs }
  | .fetch =>
    match s.phase with
    | .idle =>
      match ((getUnackedTraces s.table s.lastId).take batchLimit).map TraceRow.id with
      | [] => some s
      | i :: rest => some { s with phase := .posted (i :: rest) }
    | .posted _ | .resolving _ _ => none
  | .reply reply error =>
    match s.phase with
    | .posted batch =>
      some (afterBatch { s with requests := s.requests ++ [(batch, reply)] } batch error reply)
    | .resolving batch (i :: rest) =>
      some (afterSingle { s with requests := s.requests ++ [([i], reply)] } batch i rest error reply)
    | .resolving _ [] | .idle => none
  | .prune keepRecent =>
    some { s with table := pruneAckedStepTraces s.table keepRecent }
  | .restart => some { s with lastId := 0, phase := .idle }

/-- A step. -/
def UploadSteps (s : Uploader) (e : UploadEvent) (s' : Uploader) : Prop :=
  uploadStep s e = some s'

/-- A new agent. -/
def Uploader.start : Uploader := ⟨.empty, 0, .idle, []⟩

/-! ### The rows after a step -/

/-- The rows after one was acknowledged. -/
theorem mem_markAcked {t : Table TraceRow} {i : ℕ} {r' : TraceRow} :
    r' ∈ (markAcked t i).rows ↔
      ∃ r ∈ t.rows, (if (r.id == i) = true then { r with acked := true } else r) = r' :=
  Table.mem_update

/-- The rows after some were acknowledged. -/
theorem rows_ackRows (t : Table TraceRow) (ids : List ℕ) :
    (ackRows t ids).rows =
      t.rows.map fun r => if r.id ∈ ids then { r with acked := true } else r := by
  induction ids generalizing t with
  | nil =>
      rw [ackRows, List.foldl_nil]
      conv_lhs => rw [← List.map_id t.rows]
      exact List.map_congr_left fun r _ => (if_neg List.not_mem_nil).symm
  | cons i rest ih =>
      rw [ackRows, List.foldl_cons, ← ackRows, ih, markAcked, Table.rows_update, List.map_map]
      refine List.map_congr_left fun r _ => ?_
      rw [Function.comp_apply]
      by_cases hi : r.id = i
      · have hbeq : (r.id == i) = true := beq_iff_eq.mpr hi
        have hmem : r.id ∈ i :: rest := List.mem_cons.mpr (.inl hi)
        rw [if_pos hbeq, if_pos hmem]
        split_ifs
        · rfl
        · rfl
      · have hbeq : ¬ (r.id == i) = true := by simpa using hi
        have hiff : r.id ∈ i :: rest ↔ r.id ∈ rest := by simp [hi]
        rw [if_neg hbeq]
        by_cases hr : r.id ∈ rest
        · rw [if_pos hr, if_pos (hiff.mpr hr)]
        · rw [if_neg hr, if_neg fun h => hr (hiff.mp h)]

/-- Acknowledging uses no key. -/
theorem nextId_ackRows (t : Table TraceRow) (ids : List ℕ) :
    (ackRows t ids).nextId = t.nextId := by
  induction ids generalizing t with
  | nil => rfl
  | cons i rest ih =>
      rw [ackRows, List.foldl_cons, ← ackRows, ih]
      rfl

/-- What is left of a batch is only counted. -/
theorem rows_bumpBatch (t : Table TraceRow) (error : String) (batch : List ℕ) :
    (bumpOrDeadLetterBatch t error batch).nextId = t.nextId ∧
      ∀ r' ∈ (bumpOrDeadLetterBatch t error batch).rows, ∃ r ∈ t.rows,
        r'.id = r.id ∧ r'.acked = r.acked ∧ (r.deadLetter = true → r'.deadLetter = true) := by
  induction batch generalizing t with
  | nil => exact ⟨rfl, fun r hr => ⟨r, hr, rfl, rfl, fun h => h⟩⟩
  | cons i rest ih =>
      rw [bumpOrDeadLetterBatch, List.foldl_cons, ← bumpOrDeadLetterBatch]
      obtain ⟨hnext, hrows⟩ := ih (bumpOrDeadLetter t error i)
      refine ⟨hnext, fun r' hr' => ?_⟩
      obtain ⟨m, hm, hid, hacked, hdead⟩ := hrows r' hr'
      rw [bumpOrDeadLetter] at hm
      obtain ⟨r, hr, rfl⟩ := Table.mem_update.mp hm
      refine ⟨r, hr, ?_⟩
      by_cases hi : (r.id == i) = true
      · rw [if_pos hi] at hid hacked hdead
        exact ⟨hid, hacked, fun h => hdead (by rw [h, Bool.true_or])⟩
      · rw [if_neg hi] at hid hacked hdead
        exact ⟨hid, hacked, hdead⟩

/-! ### What holds of the cursor -/

/-- A request is a reason to acknowledge a row: it had the row and was accepted, or it had the row
alone and was rejected. -/
def Justified (requests : List (List ℕ × StepReply)) (i : ℕ) : Prop :=
  ∃ q ∈ requests, (i ∈ q.1 ∧ q.2 = .ok) ∨ (q.1 = [i] ∧ q.2.rejects = true)

/-- The cursor skips nothing, and what is acknowledged has a reason. -/
structure CursorSound (s : Uploader) : Prop where
  settled : ∀ r ∈ s.table.rows, r.id ≤ s.lastId → r.settled = true
  justified : ∀ r ∈ s.table.rows, r.acked = true → Justified s.requests r.id

/-- The batch that an answer completes. -/
def completes (s : Uploader) (reply : StepReply) : Option (List ℕ) :=
  match s.phase with
  | .posted batch =>
    if reply = .ok ∨ (reply.rejects = true ∧ batch.length = 1) then some batch else none
  | .resolving batch [_] => if reply = .ok ∨ reply.rejects = true then some batch else none
  | .resolving _ _ | .idle => none

/-- When a batch is completed, no row outside of it is open below its largest id. -/
def CursorFair (s : Uploader) : UploadEvent → Prop
  | .reply reply _ => ∀ batch, completes s reply = some batch →
    ∀ r ∈ s.table.rows, r.id ≤ maxId batch → r.id ∈ batch ∨ r.settled = true
  | .save _ _ | .fetch | .prune _ | .restart => True

/-- What holds of a batch on its way: its rows were written, and those that were sent alone are
acknowledged. -/
def PhaseInv (t : Table TraceRow) : UploadPhase → Prop
  | .idle => True
  | .posted batch => ∀ i ∈ batch, i < t.nextId
  | .resolving batch rest => (∀ i ∈ rest, i ∈ batch) ∧ (∀ i ∈ batch, i < t.nextId) ∧
    ∀ r ∈ t.rows, r.id ∈ batch → r.id ∉ rest → r.acked = true

/-- What holds of the table and its thread. -/
structure UploadInv (s : Uploader) : Prop where
  positive : ∀ r ∈ s.table.rows, 0 < r.id
  cursor : s.lastId < s.table.nextId
  phase : PhaseInv s.table s.phase

/-- The largest id of rows that were written. -/
theorem maxId_lt {batch : List ℕ} {n : ℕ} (hn : 0 < n) (h : ∀ i ∈ batch, i < n) :
    maxId batch < n := by
  have hfold : ∀ (l : List ℕ) (m : ℕ), m < n → (∀ i ∈ l, i < n) → l.foldl max m < n := by
    intro l
    induction l with
    | nil => exact fun m hm _ => hm
    | cons i rest ih =>
        intro m hm hl
        rw [List.foldl_cons]
        exact ih _ (max_lt hm (hl i List.mem_cons_self))
          fun j hj => hl j (List.mem_cons_of_mem i hj)
  exact hfold batch 0 hn h

/-- A step that completes no batch: every row was there, with what was done for it, or is new. -/
structure Quiet (s s' : Uploader) : Prop where
  nextId : s.table.nextId ≤ s'.table.nextId
  cursor : s'.lastId ≤ s.lastId
  requests : ∀ q ∈ s.requests, q ∈ s'.requests
  rows : ∀ r' ∈ s'.table.rows,
    (∃ r ∈ s.table.rows, r'.id = r.id ∧ (r.settled = true → r'.settled = true) ∧
      (r.acked = true → r'.acked = true) ∧
      (r'.acked = true → r.acked = true ∨ Justified s'.requests r'.id)) ∨
    (r'.id = s.table.nextId ∧ r'.acked = false)

/-- A reason stays a reason. -/
theorem Justified.mono {requests requests' : List (List ℕ × StepReply)} {i : ℕ}
    (h : Justified requests i) (hsub : ∀ q ∈ requests, q ∈ requests') : Justified requests' i := by
  obtain ⟨q, hq, hreason⟩ := h
  exact ⟨q, hsub q hq, hreason⟩

section Quiet

variable {s s' : Uploader}

/-- A quiet step keeps the cursor sound. -/
theorem CursorSound.of_quiet (h : CursorSound s) (hinv : UploadInv s) (hq : Quiet s s') :
    CursorSound s' where
  settled := by
    intro r' hr' hle
    rcases hq.rows r' hr' with ⟨r, hr, hid, hsettled, -, -⟩ | ⟨hid, -⟩
    · have hcursor := hq.cursor
      exact hsettled (h.settled r hr (by omega))
    · have hcursor := hq.cursor
      have hlt := hinv.cursor
      omega
  justified := by
    intro r' hr' hacked
    rcases hq.rows r' hr' with ⟨r, hr, hid, -, -, hreason⟩ | ⟨-, hnot⟩
    · rcases hreason hacked with hold | hnew
      · rw [hid]
        exact (h.justified r hr hold).mono hq.requests
      · exact hnew
    · rw [hnot] at hacked
      cases hacked

/-- A quiet step keeps what holds, when it does of the batch. -/
theorem UploadInv.of_quiet (h : UploadInv s) (hq : Quiet s s')
    (hphase : PhaseInv s'.table s'.phase) : UploadInv s' where
  positive := by
    intro r' hr'
    rcases hq.rows r' hr' with ⟨r, hr, hid, -⟩ | ⟨hid, -⟩
    · rw [hid]
      exact h.positive r hr
    · have hlt := h.cursor
      omega
  cursor := by
    have hcursor := hq.cursor
    have hnext := hq.nextId
    have hlt := h.cursor
    omega
  phase := hphase

/-- A batch on its way stays on its way. -/
theorem PhaseInv.of_quiet {phase : UploadPhase} (h : PhaseInv s.table phase) (hq : Quiet s s') :
    PhaseInv s'.table phase := by
  cases phase with
  | idle => trivial
  | posted batch => exact fun i hi => lt_of_lt_of_le (h i hi) hq.nextId
  | resolving batch rest =>
      refine ⟨h.1, fun i hi => lt_of_lt_of_le (h.2.1 i hi) hq.nextId, fun r' hr' hin hout => ?_⟩
      rcases hq.rows r' hr' with ⟨r, hr, hid, -, hacked, -⟩ | ⟨hid, -⟩
      · rw [hid] at hin hout
        exact hacked (h.2.2 r hr hin hout)
      · have hlt := h.2.1 r'.id hin
        omega

end Quiet

/-! ### A batch that is completed -/

section Complete

variable {s : Uploader} {acks batch : List ℕ} {request : List ℕ × StepReply}

/-- The rows after a batch was completed. -/
theorem mem_rows_complete {r' : TraceRow} :
    r' ∈ (s.complete acks batch).table.rows ↔
      ∃ r ∈ s.table.rows, (if r.id ∈ acks then { r with acked := true } else r) = r' := by
  show r' ∈ (ackRows s.table acks).rows ↔ _
  rw [rows_ackRows, List.mem_map]

/-- **When a batch that is completed skips nothing**: no row outside of it is open below its
largest id. -/
theorem sound_complete_iff (h : CursorSound s)
    (hsub : ∀ i ∈ acks, i ∈ batch)
    (hrest : ∀ r ∈ s.table.rows, r.id ∈ batch → r.id ∉ acks → r.acked = true)
    (hreason : ∀ i ∈ acks, Justified s.requests i) :
    CursorSound (s.complete acks batch) ↔
      ∀ r ∈ s.table.rows, r.id ≤ maxId batch → r.id ∈ batch ∨ r.settled = true := by
  constructor
  · intro hsound r hr hle
    by_cases hin : r.id ∈ acks
    · exact .inl (hsub r.id hin)
    · refine .inr (hsound.settled r (mem_rows_complete.mpr ⟨r, hr, if_neg hin⟩) ?_)
      exact hle.trans (le_max_right _ _)
  · intro hfair
    refine ⟨fun r' hr' hle => ?_, fun r' hr' hacked => ?_⟩
    · obtain ⟨r, hr, rfl⟩ := mem_rows_complete.mp hr'
      by_cases hin : r.id ∈ acks
      · rw [if_pos hin]
        rfl
      · rw [if_neg hin] at hle ⊢
        rcases le_max_iff.mp hle with hle | hle
        · exact h.settled r hr hle
        · rcases hfair r hr hle with hbatch | hsettled
          · rw [TraceRow.settled, hrest r hr hbatch hin, Bool.true_or]
          · exact hsettled
    · obtain ⟨r, hr, rfl⟩ := mem_rows_complete.mp hr'
      by_cases hin : r.id ∈ acks
      · rw [if_pos hin]
        exact hreason r.id hin
      · rw [if_neg hin] at hacked ⊢
        exact h.justified r hr hacked

/-- A batch that is completed keeps what holds. -/
theorem UploadInv.complete (h : UploadInv s) (hlt : ∀ i ∈ batch, i < s.table.nextId) :
    UploadInv (s.complete acks batch) where
  positive := by
    intro r' hr'
    obtain ⟨r, hr, rfl⟩ := mem_rows_complete.mp hr'
    split_ifs
    · exact h.positive r hr
    · exact h.positive r hr
  cursor := by
    show max s.lastId (maxId batch) < (ackRows s.table acks).nextId
    rw [nextId_ackRows]
    exact max_lt h.cursor (maxId_lt (lt_of_le_of_lt (Nat.zero_le _) h.cursor) hlt)
  phase := trivial

end Complete

/-! ### Steps -/

/-- The state in which an answer is known. -/
def Uploader.answered (s : Uploader) (ids : List ℕ) (reply : StepReply) : Uploader :=
  { s with requests := s.requests ++ [(ids, reply)] }

section Steps

variable {s s' : Uploader}

/-- Without new rows, and with rows acknowledged for a reason, a step is quiet. -/
theorem Quiet.of_rows (hnext : s.table.nextId ≤ s'.table.nextId) (hcursor : s'.lastId ≤ s.lastId)
    (hrequests : ∀ q ∈ s.requests, q ∈ s'.requests)
    (hrows : ∀ r' ∈ s'.table.rows, ∃ r ∈ s.table.rows, r'.id = r.id ∧ r'.acked = r.acked ∧
      (r.deadLetter = true → r'.deadLetter = true)) : Quiet s s' := by
  refine ⟨hnext, hcursor, hrequests, fun r' hr' => .inl ?_⟩
  obtain ⟨r, hr, hid, hacked, hdead⟩ := hrows r' hr'
  refine ⟨r, hr, hid, fun hsettled => ?_, fun h => hacked.trans h, fun h => .inl (hacked ▸ h)⟩
  rw [TraceRow.settled, Bool.or_eq_true] at hsettled ⊢
  exact hsettled.imp (fun h => hacked.trans h) hdead

/-- A round that ends with a failure. -/
theorem quiet_fail (ids : List ℕ) (reply : StepReply) (error : String) (batch : List ℕ) :
    Quiet s ((s.answered ids reply).fail error batch) := by
  obtain ⟨hnext, hrows⟩ := rows_bumpBatch s.table error batch
  exact .of_rows hnext.ge (le_refl _) (fun _ hq => List.mem_append_left _ hq) hrows

/-- An answer by itself. -/
theorem quiet_answered (ids : List ℕ) (reply : StepReply) (phase : UploadPhase) :
    Quiet s { s.answered ids reply with phase := phase } :=
  .of_rows (le_refl _) (le_refl _) (fun _ hq => List.mem_append_left _ hq)
    fun r hr => ⟨r, hr, rfl, rfl, fun h => h⟩

/-- One trace of a batch is acknowledged. -/
theorem quiet_markAcked {i : ℕ} {reply : StepReply} (batch rest : List ℕ)
    (hreply : reply = .ok ∨ reply.rejects = true) :
    Quiet s { s.answered [i] reply with
      table := markAcked s.table i, phase := .resolving batch rest } := by
  refine ⟨le_refl _, le_refl _, fun q hq => List.mem_append_left _ hq, fun r' hr' => .inl ?_⟩
  obtain ⟨r, hr, rfl⟩ := mem_markAcked.mp hr'
  refine ⟨r, hr, ?_⟩
  by_cases hi : (r.id == i) = true
  · rw [if_pos hi]
    refine ⟨rfl, fun _ => rfl, fun _ => rfl, fun _ => .inr ⟨([i], reply), by simp [Uploader.answered],
      ?_⟩⟩
    rcases hreply with hok | hrejects
    · exact .inl ⟨List.mem_singleton.mpr (beq_iff_eq.mp hi), hok⟩
    · exact .inr ⟨congrArg (fun n => [n]) (beq_iff_eq.mp hi).symm, hrejects⟩
  · rw [if_neg hi]
    exact ⟨rfl, fun h => h, fun h => h, fun h => .inl h⟩

/-- The cursor is as sound when an answer is known. -/
theorem CursorSound.answered (h : CursorSound s) (ids : List ℕ) (reply : StepReply) :
    CursorSound (s.answered ids reply) :=
  ⟨h.settled, fun r hr hacked =>
    (h.justified r hr hacked).mono fun _ hq => List.mem_append_left _ hq⟩

/-- What holds does when an answer is known. -/
theorem UploadInv.answered (h : UploadInv s) (ids : List ℕ) (reply : StepReply) :
    UploadInv (s.answered ids reply) :=
  ⟨h.positive, h.cursor, h.phase⟩

/-- **The answer to a batch.** -/
theorem batch_step {batch : List ℕ} {reply : StepReply} {error : String} (hinv : UploadInv s)
    (hsound : CursorSound s) (hphase : s.phase = .posted batch)
    (h : s' = afterBatch (s.answered batch reply) batch error reply) :
    UploadInv s' ∧ (CursorSound s' ↔ CursorFair s (.reply reply error)) := by
  have hbatch : ∀ i ∈ batch, i < s.table.nextId := by
    have hp := hinv.phase
    rw [hphase] at hp
    exact hp
  have hdone : (reply = .ok ∨ (reply.rejects = true ∧ batch.length = 1)) →
      UploadInv ((s.answered batch reply).complete batch batch) ∧
        (CursorSound ((s.answered batch reply).complete batch batch) ↔
          CursorFair s (.reply reply error)) := by
    intro hreply
    have hcompletes : completes s reply = some batch := by
      rw [completes, hphase]
      exact if_pos hreply
    refine ⟨(hinv.answered batch reply).complete hbatch, ?_⟩
    refine (sound_complete_iff (hsound.answered batch reply) (fun i hi => hi)
      (fun r _ hin hout => absurd hin hout) fun i hi => ?_).trans ?_
    · refine ⟨(batch, reply), by simp [Uploader.answered], ?_⟩
      rcases hreply with hok | ⟨hrejects, hone⟩
      · exact .inl ⟨hi, hok⟩
      · obtain ⟨j, rfl⟩ := List.length_eq_one_iff.mp hone
        rw [List.mem_singleton.mp hi]
        exact .inr ⟨rfl, hrejects⟩
    · constructor
      · intro hfair batch' hb
        rw [hcompletes] at hb
        cases hb
        exact hfair
      · exact fun hfair => hfair batch hcompletes
  have hquiet : (¬ (reply = .ok ∨ (reply.rejects = true ∧ batch.length = 1))) → Quiet s s' →
      PhaseInv s'.table s'.phase →
      UploadInv s' ∧ (CursorSound s' ↔ CursorFair s (.reply reply error)) := by
    intro hnot hq hp
    refine ⟨hinv.of_quiet hq hp, iff_of_true (hsound.of_quiet hinv hq) fun batch' hb => ?_⟩
    rw [completes, hphase] at hb
    dsimp only at hb
    rw [if_neg hnot] at hb
    cases hb
  subst h
  cases reply with
  | ok => exact hdone (.inl rfl)
  | requestError =>
      refine hquiet (fun h => ?_) (quiet_fail batch .requestError error batch) trivial
      rcases h with h | ⟨h, -⟩
      · cases h
      · cases h
  | other =>
      refine hquiet (fun h => ?_) (quiet_answered batch .other .idle) trivial
      rcases h with h | ⟨h, -⟩
      · cases h
      · cases h
  | http status =>
      rw [afterBatch] at hquiet ⊢
      cases hrejects : (StepReply.http status).rejects with
      | false =>
          rw [hrejects, if_neg Bool.false_ne_true] at hquiet
          rw [if_neg Bool.false_ne_true]
          refine hquiet (fun h => ?_) (quiet_fail batch _ error batch) trivial
          rcases h with h | ⟨h, -⟩
          · cases h
          · cases h
      | true =>
          rw [hrejects, if_pos rfl] at hquiet
          rw [if_pos rfl]
          by_cases hone : batch.length = 1
          · rw [if_pos hone]
            exact hdone (.inr ⟨hrejects, hone⟩)
          · rw [if_neg hone] at hquiet ⊢
            refine hquiet (fun h => ?_) (quiet_answered batch _ _)
              ⟨fun i hi => hi, hbatch, fun r _ hin hout => absurd hin hout⟩
            rcases h with h | ⟨-, h⟩
            · cases h
            · exact hone h

/-- **The answer to a trace that was sent alone.** -/
theorem single_step {batch rest : List ℕ} {i : ℕ} {reply : StepReply} {error : String}
    (hinv : UploadInv s) (hsound : CursorSound s) (hphase : s.phase = .resolving batch (i :: rest))
    (h : s' = afterSingle (s.answered [i] reply) batch i rest error reply) :
    UploadInv s' ∧ (CursorSound s' ↔ CursorFair s (.reply reply error)) := by
  obtain ⟨hsub, hbatch, hacked⟩ : PhaseInv s.table (.resolving batch (i :: rest)) :=
    hphase ▸ hinv.phase
  have hquiet : completes s reply = none → Quiet s s' → PhaseInv s'.table s'.phase →
      UploadInv s' ∧ (CursorSound s' ↔ CursorFair s (.reply reply error)) := by
    intro hnone hq hp
    refine ⟨hinv.of_quiet hq hp, iff_of_true (hsound.of_quiet hinv hq) fun batch' hb => ?_⟩
    rw [hnone] at hb
    cases hb
  have hcompletes : completes s reply =
      if rest = [] ∧ (reply = .ok ∨ reply.rejects = true) then some batch else none := by
    rw [completes, hphase]
    cases rest with
    | nil => simp
    | cons j rest => rfl
  subst h
  rw [afterSingle] at hquiet ⊢
  by_cases hreply : reply = .ok ∨ reply.rejects = true
  · rw [if_pos hreply] at hquiet ⊢
    cases rest with
    | nil =>
        rw [if_pos rfl]
        rw [if_pos ⟨rfl, hreply⟩] at hcompletes
        refine ⟨(hinv.answered [i] reply).complete hbatch, ?_⟩
        refine (sound_complete_iff (hsound.answered [i] reply)
          (fun j hj => hsub j hj) hacked fun j hj => ?_).trans ?_
        · rw [List.mem_singleton.mp hj]
          refine ⟨([i], reply), by simp [Uploader.answered], ?_⟩
          rcases hreply with hok | hrejects
          · exact .inl ⟨List.mem_cons_self, hok⟩
          · exact .inr ⟨rfl, hrejects⟩
        · constructor
          · intro hfair batch' hb
            rw [hcompletes] at hb
            cases hb
            exact hfair
          · exact fun hfair => hfair batch hcompletes
    | cons j rest =>
        rw [if_neg (List.cons_ne_nil j rest)] at hquiet ⊢
        refine hquiet (hcompletes.trans (if_neg fun h => by cases h.1)) (quiet_markAcked batch (j :: rest) hreply)
          ⟨fun k hk => hsub k (List.mem_cons_of_mem i hk), hbatch, fun r' hr' hin hout => ?_⟩
        obtain ⟨r, hr, rfl⟩ := mem_markAcked.mp hr'
        by_cases hi : (r.id == i) = true
        · rw [if_pos hi]
        · rw [if_neg hi] at hin hout ⊢
          refine hacked r hr hin fun hmem => ?_
          rcases List.mem_cons.mp hmem with heq | hmem
          · exact hi (beq_iff_eq.mpr heq)
          · exact hout hmem
  · rw [if_neg hreply] at hquiet ⊢
    exact hquiet (hcompletes.trans (if_neg fun h => hreply h.2))
      (quiet_fail [i] reply error (i :: rest)) trivial

/-- **One step** keeps what holds, and keeps the cursor sound exactly when it is fair. -/
theorem upload_step {e : UploadEvent} (hinv : UploadInv s) (hsound : CursorSound s)
    (h : UploadSteps s e s') : UploadInv s' ∧ (CursorSound s' ↔ CursorFair s e) := by
  have hquiet : ∀ {e' : UploadEvent}, CursorFair s e' → Quiet s s' →
      PhaseInv s'.table s'.phase → UploadInv s' ∧ (CursorSound s' ↔ CursorFair s e') :=
    fun hfair hq hp => ⟨hinv.of_quiet hq hp, iff_of_true (hsound.of_quiet hinv hq) hfair⟩
  cases e with
  | save traceEventId originalTs =>
      rw [UploadSteps, uploadStep] at h
      cases h
      have hq : Quiet s { s with table := saveStepTrace s.table traceEventId originalTs } := by
        rw [saveStepTrace]
        split_ifs
        · exact .of_rows (le_refl _) (le_refl _) (fun _ hq => hq)
            fun r hr => ⟨r, hr, rfl, rfl, fun h => h⟩
        · refine ⟨Nat.le_succ _, le_refl _, fun _ hq => hq, fun r hr => ?_⟩
          rcases Table.mem_insert.mp hr with hr | rfl
          · exact .inl ⟨r, hr, rfl, fun h => h, fun h => h, fun h => .inl h⟩
          · exact .inr ⟨rfl, rfl⟩
      exact hquiet trivial hq (hinv.phase.of_quiet hq)
  | prune keepRecent =>
      rw [UploadSteps, uploadStep] at h
      cases h
      have hq : Quiet s { s with table := pruneAckedStepTraces s.table keepRecent } :=
        .of_rows (le_refl _) (le_refl _) (fun _ hq => hq)
          fun r hr => ⟨r, (Table.mem_delete.mp hr).1, rfl, rfl, fun h => h⟩
      exact hquiet trivial hq (hinv.phase.of_quiet hq)
  | restart =>
      rw [UploadSteps, uploadStep] at h
      cases h
      exact hquiet trivial (.of_rows (le_refl _) (Nat.zero_le _) (fun _ hq => hq)
        fun r hr => ⟨r, hr, rfl, rfl, fun h => h⟩) trivial
  | fetch =>
      rw [UploadSteps, uploadStep] at h
      cases hphase : s.phase with
      | posted batch =>
          rw [hphase] at h
          cases h
      | resolving batch rest =>
          rw [hphase] at h
          cases h
      | idle =>
          rw [hphase] at h
          dsimp only at h
          have hsame : ∀ phase, Quiet s { s with phase := phase } := fun phase =>
            .of_rows (le_refl _) (le_refl _) (fun _ hq => hq)
              fun r hr => ⟨r, hr, rfl, rfl, fun h => h⟩
          cases hids : ((getUnackedTraces s.table s.lastId).take batchLimit).map TraceRow.id with
          | nil =>
              rw [hids] at h
              cases h
              exact hquiet trivial (hsame s.phase) hinv.phase
          | cons i rest =>
              rw [hids] at h
              cases h
              refine hquiet trivial (hsame _) fun j hj => ?_
              rw [← hids] at hj
              obtain ⟨r, hr, rfl⟩ := List.mem_map.mp hj
              have hmem := List.mem_of_mem_take hr
              rw [getUnackedTraces, mem_sortBy] at hmem
              exact s.table.fresh r (List.mem_of_mem_filter hmem)
  | reply reply error =>
      rw [UploadSteps, uploadStep] at h
      cases hphase : s.phase with
      | idle =>
          rw [hphase] at h
          cases h
      | posted batch =>
          rw [hphase] at h
          exact batch_step hinv hsound hphase (Option.some.inj h).symm
      | resolving batch rest =>
          rw [hphase] at h
          cases rest with
          | nil => cases h
          | cons i rest => exact single_step hinv hsound hphase (Option.some.inj h).symm

end Steps

/-! ### Runs -/

/-- A new agent has no rows. -/
theorem uploadInv_start : UploadInv .start ∧ CursorSound .start :=
  ⟨⟨fun _ hr => absurd hr List.not_mem_nil, Nat.zero_lt_one, trivial⟩,
    fun _ hr => absurd hr List.not_mem_nil, fun _ hr => absurd hr List.not_mem_nil⟩

namespace CursorExample

/-- A trace whose event is later than those of the hundred traces after it; the batch of these is
accepted. -/
def events : List UploadEvent :=
  .save "late" 1000 :: ((List.range 100).map fun i => .save (toString i) i) ++
    [.fetch, .reply .ok ""]

/-- The cursor, and the rows below that are open. -/
def openRows (s : Uploader) : List ℕ :=
  (s.table.rows.filter fun r => r.id ≤ s.lastId && !r.settled).map TraceRow.id

end CursorExample

end StabilityPlatform.Upload
