import StabilityPlatform.Core.PyVal
import StabilityPlatform.Lib.StableSort
import StabilityPlatform.Lib.Table

/-!
# The terminal outbox of an agent

The end of a job is written to an outbox before it is reported, and a background thread sends
what was not acknowledged. A pass takes the oldest pending rows, leaves out those that are
deferred, and sends the others. A row that was refused too often becomes a dead letter; a row
that failed for another reason is deferred for some time.

## Main results

* `Outbox`: the table, with one row for each job.
* `verdict`: what an answer says about a row.
* `drainEntry`, `drainOnce`: a row, and a pass.
* `drain_serves_iff`: **a pass sends a row that is ready** exactly when one of the oldest
  pending rows is ready.
* `WindowExample.starved`: twenty deferred rows keep a row that is ready from being sent.
-/

namespace StabilityPlatform.Terminal

open Lib

/-! ### The table -/

/-- A row of `job_terminal_outbox`. -/
structure TerminalRow where
  id : ℕ
  jobId : ℕ
  payload : String
  createdAt : Time
  attempts : ℕ
  lastError : Option String
  acked : Bool
  deadLetter : Bool

instance : Row TerminalRow := ⟨TerminalRow.id⟩

/-- The outbox. -/
structure Outbox where
  table : Table TerminalRow
  jobs : (table.rows.map TerminalRow.jobId).Nodup

namespace Outbox

/-- An outbox without rows. -/
def empty : Outbox := ⟨.empty, List.nodup_nil⟩

/-- The rows. -/
def rows (o : Outbox) : List TerminalRow := o.table.rows

/-- Change the row of a job. -/
def modify (o : Outbox) (jobId : ℕ) (f : TerminalRow → TerminalRow)
    (hf : ∀ r, (f r).id = r.id ∧ (f r).jobId = r.jobId) : Outbox where
  table := o.table.update (fun r => r.jobId == jobId) f fun r => (hf r).1
  jobs := by
    have hmap : ((o.table.update (fun r => r.jobId == jobId) f fun r => (hf r).1).rows.map
        TerminalRow.jobId) = o.table.rows.map TerminalRow.jobId := by
      rw [Table.rows_update, List.map_map]
      refine List.map_congr_left fun r _ => ?_
      rw [Function.comp_apply]
      split
      · exact (hf r).2
      · rfl
    rw [hmap]
    exact o.jobs

/-- `enqueue_terminal`: a second payload for a job is refused, which is `none`. -/
def enqueueTerminal (o : Outbox) (jobId : ℕ) (payload : String) (now : Time) : Option Outbox :=
  match h : o.table.first fun r => r.jobId == jobId with
  | some r => if r.payload = payload then some o else none
  | none => some
    { table := o.table.insert (fun i => ⟨i, jobId, payload, now, 0, none, false, false⟩)
        fun _ => rfl
      jobs := by
        rw [Table.rows_insert, List.map_append, List.nodup_append]
        refine ⟨o.jobs, List.nodup_singleton _, ?_⟩
        rintro _ ha _ hb rfl
        obtain ⟨r, hr, hjob⟩ := List.mem_map.mp ha
        have hne := Table.first_eq_none_iff.mp h r hr
        rw [beq_eq_false_iff_ne] at hne
        exact hne (hjob.trans (List.mem_singleton.mp hb)) }

/-- The rows that are neither acknowledged nor given up, the oldest first. -/
def pending (o : Outbox) : List TerminalRow :=
  sortBy TerminalRow.createdAt (o.rows.filter fun r => !r.acked && !r.deadLetter)

/-- `get_pending_terminals`. -/
def getPendingTerminals (o : Outbox) (limit : ℕ) : List TerminalRow := o.pending.take limit

/-- `list_pending_terminal_job_ids`. -/
def listPendingTerminalJobIds (o : Outbox) : List ℕ :=
  (o.rows.filter fun r => !r.acked && !r.deadLetter).map TerminalRow.jobId

/-- `ack_terminal`. -/
def ackTerminal (o : Outbox) (jobId : ℕ) : Outbox :=
  o.modify jobId (fun r => { r with acked := true }) fun _ => ⟨rfl, rfl⟩

/-- `error[:500] if error else None`. -/
def errorText (error : String) : Option String :=
  if error = "" then none else some (String.ofList (error.toList.take 500))

/-- `bump_terminal_attempt`: the outbox, and how many requests failed by now. -/
def bumpTerminalAttempt (o : Outbox) (jobId : ℕ) (error : String) : Outbox × ℕ :=
  let o' := o.modify jobId
    (fun r => { r with attempts := r.attempts + 1, lastError := errorText error })
    fun _ => ⟨rfl, rfl⟩
  (o', ((o'.table.first fun r => r.jobId == jobId).map TerminalRow.attempts).getD 0)

/-- `mark_terminal_dead_letter`. -/
def markTerminalDeadLetter (o : Outbox) (jobId : ℕ) (error : String) : Outbox :=
  o.modify jobId (fun r => { r with deadLetter := true, lastError := errorText error })
    fun _ => ⟨rfl, rfl⟩

/-- Whether a row is acknowledged, and not given up. -/
def isDone (r : TerminalRow) : Bool := r.acked && !r.deadLetter

/-- `prune_acked_terminals`: of the acknowledged rows, the last ones are kept. -/
def pruneAckedTerminals (o : Outbox) (keepRecent : ℕ) : Outbox where
  table := o.table.delete fun r => isDone r &&
    !(((o.rows.filter isDone).map TerminalRow.id).insertionSort (· ≥ ·) |>.take keepRecent).contains
      r.id
  jobs := o.jobs.sublist (List.filter_sublist.map TerminalRow.jobId)

end Outbox

/-! ### Answers -/

/-- A record in the body of an error. -/
structure ErrorRecord where
  code : Option String
  currentStatus : Option String
  message : Option String

/-- The item `detail` of the body of an error. -/
inductive Detail where
  | missing
  | text (s : String)
  | record (r : ErrorRecord)
  | other

/-- The body of an error. -/
structure ErrorBody where
  /-- Its item `detail`. -/
  detail : Detail
  /-- Its item `error`, if it is a record. -/
  error : Option ErrorRecord

/-- An answer with an error status. -/
structure Response where
  status : ℕ
  body : Option ErrorBody
  /-- The number of seconds in `Retry-After`, if it is a number. -/
  retryAfter : Option ℚ

/-- How a request ends. -/
inductive Reply where
  /-- It is accepted. -/
  | ok
  /-- `HTTPError`, with the answer if there is one. -/
  | httpError (response : Option Response)
  /-- Any other exception. -/
  | raised

/-- `code` when it is not empty. -/
def ErrorRecord.codeText (r : ErrorRecord) : Option String := r.code.filter (· ≠ "")

/-- `_parse_error_code`. -/
def parseErrorCode (response : Response) : Option String :=
  match response.body with
  | none => none
  | some body =>
    let fromError := body.error.bind ErrorRecord.codeText
    match body.detail with
    | .record r => r.codeText <|> fromError
    | .missing | .text _ | .other => fromError

/-- `_parse_current_status`: an object without `detail` counts as one with an empty record. -/
def parseCurrentStatus (response : Response) : Option String :=
  match response.body with
  | none => none
  | some body =>
    match body.detail with
    | .missing => none
    | .record r => r.currentStatus
    | .text _ | .other => body.error.bind ErrorRecord.currentStatus

/-- `s.strip().lower() == "job not found"`. -/
def isNotFoundText (s : String) : Bool :=
  String.ofList ((pyStrip s).toList.map Char.toLower) == "job not found"

/-- Whether a code says that a job is gone. -/
def codeMatches (code : Option String) : Bool :=
  ["JOB_NOT_FOUND", "JOB_GONE"].contains (pyUpper (pyStrip (code.getD "")))

/-- `_is_job_not_found`. -/
def isJobNotFound (response : Response) : Bool :=
  match response.body with
  | none => false
  | some body =>
    (match body.detail with
      | .text s => isNotFoundText s
      | .record r => codeMatches r.code || r.message.any isNotFoundText
      | .missing | .other => false) ||
    body.error.any fun r => codeMatches r.code

/-- `_parse_retry_after`. -/
def parseRetryAfter (response : Response) : ℚ :=
  match response.retryAfter with
  | none => 0
  | some seconds => if 0 < seconds then seconds else 0

/-- What an answer says about a row. -/
inductive Verdict where
  | ack
  | retain (reason : String) (unknown : Bool)
  | retry (retryAfter : ℚ)

/-- `_ACKABLE_TERMINAL_STATUSES`. -/
def ackableTerminalStatuses : List String := ["COMPLETED", "FAILED", "ABORTED"]

/-- `_TRANSIENT_HTTP_STATUSES`. -/
def transientHttpStatuses : List ℕ := [408, 429]

/-- The branch for a conflict. -/
def conflictVerdict (response : Response) : Verdict :=
  if parseErrorCode response = some "TERMINAL_PAYLOAD_CONFLICT" then
    .retain "terminal_payload_conflict" false
  else
    match parseCurrentStatus response with
    | none => .retain "unstructured_409" false
    | some current =>
      if ackableTerminalStatuses.contains current then .ack
      else .retain (if current = "UNKNOWN" then "current_unknown" else "current_non_ackable")
        (current == "UNKNOWN")

/-- The branches of `_drain_once`. -/
def verdict : Reply → Verdict
  | .ok => .ack
  | .raised => .retry 0
  | .httpError none => .retry 0
  | .httpError (some response) =>
    if response.status = 409 then conflictVerdict response
    else if response.status = 404 then
      if isJobNotFound response then .ack else .retain "unstructured_404" false
    else if transientHttpStatuses.contains response.status ∨ 500 ≤ response.status then
      .retry (parseRetryAfter response)
    else if 400 ≤ response.status ∧ response.status < 500 then
      .retain ("http_" ++ toString response.status) false
    else .retry 0

/-! ### A row -/

/-- `_MAX_TERMINAL_ATTEMPTS`. -/
def maxTerminalAttempts : ℕ := 10

/-- `_MAX_RETRY_AFTER_SECONDS`. -/
def maxRetryAfterSeconds : ℚ := 300

/-- `_BACKOFF_BASE_SECONDS`. -/
def backoffBaseSeconds : ℚ := 15

/-- `_MAX_BACKOFF_SECONDS`. -/
def maxBackoffSeconds : ℚ := 300

/-- `_next_deferral_seconds`, with a number drawn from the unit interval. A power of two that is no
float any more raises, which is `none`. -/
def nextDeferralSeconds (retryAfter : ℚ) (attempts : ℕ) (draw : ℚ) : Option ℚ :=
  if 0 < retryAfter then
    some (min (min retryAfter maxRetryAfterSeconds * (1 + draw / 4)) maxRetryAfterSeconds)
  else if 1024 ≤ attempts - 1 then none
  else some (draw * min (backoffBaseSeconds * 2 ^ (attempts - 1)) maxBackoffSeconds)

/-- What happens when a pass comes to a row. -/
structure Exchange where
  checkedAt : ℚ
  reply : Reply
  error : String
  answeredAt : ℚ
  draw : ℚ

/-- The thread: its outbox, the rows that are deferred, and the answers it got so far for each
row. -/
structure Drainer where
  outbox : Outbox
  deferUntil : ℕ → Option ℚ
  answers : List (ℕ × Verdict)

/-- The same outbox, with another one in its place. -/
def Drainer.withOutbox (d : Drainer) (o : Outbox) : Drainer := { d with outbox := o }

/-- `_retain_or_dead_letter`. -/
def retainOrDeadLetter (d : Drainer) (jobId : ℕ) (error : String) : Drainer :=
  let bumped := d.outbox.bumpTerminalAttempt jobId error
  if maxTerminalAttempts ≤ bumped.2 then
    d.withOutbox (bumped.1.markTerminalDeadLetter jobId error)
  else d.withOutbox bumped.1

/-- The branches for a failure that passes; an error leaves the pass. -/
def deferEntry (x : Exchange) (retryAfter : ℚ) (d : Drainer) (jobId : ℕ) :
    Except Drainer Drainer :=
  let bumped := d.outbox.bumpTerminalAttempt jobId x.error
  let d := d.withOutbox bumped.1
  match nextDeferralSeconds retryAfter bumped.2 x.draw with
  | none => .error d
  | some deferral =>
    if 0 < deferral then
      .ok { d with deferUntil := Function.update d.deferUntil jobId (x.answeredAt + deferral) }
    else .ok d

/-- A request is sent. -/
def sendEntry (x : Exchange) (d : Drainer) (entry : TerminalRow) : Except Drainer Drainer :=
  let d := { d with answers := d.answers ++ [(entry.id, verdict x.reply)] }
  match verdict x.reply with
  | .ack => .ok (d.withOutbox (d.outbox.ackTerminal entry.jobId))
  | .retain _ _ => .ok (retainOrDeadLetter d entry.jobId x.error)
  | .retry retryAfter => deferEntry x retryAfter d entry.jobId

/-- A row of a pass: it is left out while it is deferred. -/
def drainEntry (x : Exchange) (d : Drainer) (entry : TerminalRow) : Except Drainer Drainer :=
  match d.deferUntil entry.jobId with
  | none => sendEntry x d entry
  | some t =>
    if x.checkedAt < t then .ok d
    else sendEntry x { d with deferUntil := Function.update d.deferUntil entry.jobId none } entry

/-! ### A pass -/

/-- `_prune_deferrals`. -/
def pruneDeferrals (d : Drainer) : Drainer :=
  { d with
    deferUntil := fun jobId =>
      if d.outbox.listPendingTerminalJobIds.contains jobId then d.deferUntil jobId else none }

/-- What a pass takes. -/
def windowSize : ℕ := 20

/-- What a pass meets: the clock, and for every job an exchange, which is not before. -/
structure PassInput where
  startedAt : ℚ
  exchange : ℕ → Exchange
  clock : ∀ jobId, startedAt ≤ (exchange jobId).checkedAt

/-- The rows of a pass. -/
def drainEntries (x : ℕ → Exchange) (d : Drainer) (entries : List TerminalRow) :
    Except Drainer Drainer :=
  entries.foldlM (fun d entry => drainEntry (x entry.jobId) d entry) d

/-- `_drain_once`; after an exception nothing is pruned. -/
def drainOnce (p : PassInput) (d : Drainer) : Drainer :=
  let d := pruneDeferrals d
  match drainEntries p.exchange d (d.outbox.getPendingTerminals windowSize) with
  | .error d => d
  | .ok d => d.withOutbox (d.outbox.pruneAckedTerminals 100)

/-! ### What a pass sends -/

/-- The thread after a computation that may have raised. -/
def leftWith : Except Drainer Drainer → Drainer
  | .ok d => d
  | .error d => d

/-- A row is not deferred any more when a pass comes to it. -/
def Ready (x : ℕ → Exchange) (d : Drainer) (r : TerminalRow) : Prop :=
  ∀ t, d.deferUntil r.jobId = some t → t ≤ (x r.jobId).checkedAt

section Entry

variable {x : Exchange} {d : Drainer} {entry : TerminalRow}

/-- A failure that passes defers no other row. -/
theorem deferEntry_frame {retryAfter : ℚ} {jobId : ℕ} :
    (leftWith (deferEntry x retryAfter d jobId)).answers = d.answers ∧
      ∀ j, j ≠ jobId → (leftWith (deferEntry x retryAfter d jobId)).deferUntil j =
        d.deferUntil j := by
  rw [deferEntry]
  cases nextDeferralSeconds retryAfter (d.outbox.bumpTerminalAttempt jobId x.error).2 x.draw with
  | none => exact ⟨rfl, fun _ _ => rfl⟩
  | some deferral =>
      dsimp only
      split_ifs
      · exact ⟨rfl, fun j hj => Function.update_of_ne hj _ _⟩
      · exact ⟨rfl, fun _ _ => rfl⟩

/-- A request is answered once, and defers no other row. -/
theorem sendEntry_frame :
    (leftWith (sendEntry x d entry)).answers = d.answers ++ [(entry.id, verdict x.reply)] ∧
      ∀ j, j ≠ entry.jobId → (leftWith (sendEntry x d entry)).deferUntil j =
        d.deferUntil j := by
  rw [sendEntry]
  dsimp only
  cases verdict x.reply with
  | ack => exact ⟨rfl, fun _ _ => rfl⟩
  | retain reason unknown =>
      dsimp only
      rw [retainOrDeadLetter]
      split_ifs
      · exact ⟨rfl, fun _ _ => rfl⟩
      · exact ⟨rfl, fun _ _ => rfl⟩
  | retry retryAfter => exact deferEntry_frame

/-- A row that is deferred is left out. -/
theorem drainEntry_deferred {t : ℚ} (ht : d.deferUntil entry.jobId = some t)
    (hlate : x.checkedAt < t) : drainEntry x d entry = .ok d := by
  rw [drainEntry.eq_def, ht]
  exact if_pos hlate

/-- A row that is not deferred is sent. -/
theorem drainEntry_frame (hready : ∀ t, d.deferUntil entry.jobId = some t → t ≤ x.checkedAt) :
    (leftWith (drainEntry x d entry)).answers = d.answers ++ [(entry.id, verdict x.reply)] ∧
      ∀ j, j ≠ entry.jobId → (leftWith (drainEntry x d entry)).deferUntil j =
        d.deferUntil j := by
  rw [drainEntry.eq_def]
  cases ht : d.deferUntil entry.jobId with
  | none => exact sendEntry_frame
  | some t =>
      dsimp only
      rw [if_neg (not_lt_of_ge (hready t ht))]
      obtain ⟨hanswers, hframe⟩ := @sendEntry_frame x
        { d with deferUntil := Function.update d.deferUntil entry.jobId none } entry
      exact ⟨hanswers, fun j hj => (hframe j hj).trans (Function.update_of_ne hj _ _)⟩

end Entry

/-- **The rows of a pass.** What is sent is ready, and nothing is sent only if nothing is ready. -/
theorem drainEntries_sends {x : ℕ → Exchange} {entries : List TerminalRow}
    (hjobs : (entries.map TerminalRow.jobId).Nodup) (d : Drainer) :
    ∃ sent, (leftWith (drainEntries x d entries)).answers = d.answers ++ sent ∧
      (∀ q ∈ sent, ∃ e ∈ entries, e.id = q.1 ∧ Ready x d e) ∧
      ∀ e ∈ entries, Ready x d e → sent ≠ [] := by
  induction entries generalizing d with
  | nil =>
      refine ⟨[], (List.append_nil _).symm, fun q hq => absurd hq List.not_mem_nil,
        fun e he => absurd he List.not_mem_nil⟩
  | cons entry rest ih =>
      rw [List.map_cons, List.nodup_cons] at hjobs
      rw [drainEntries, List.foldlM_cons]
      by_cases hready : Ready x d entry
      · obtain ⟨hanswers, hframe⟩ := drainEntry_frame hready
        cases hentry : drainEntry (x entry.jobId) d entry with
        | error d' =>
            rw [hentry] at hanswers
            refine ⟨[(entry.id, verdict (x entry.jobId).reply)], hanswers, fun q hq => ?_,
              fun _ _ _ => List.cons_ne_nil _ _⟩
            rw [List.mem_singleton.mp hq]
            exact ⟨entry, List.mem_cons_self, rfl, hready⟩
        | ok d' =>
            rw [hentry] at hanswers hframe
            obtain ⟨sent, hsent, hfrom, -⟩ := ih hjobs.2 d'
            refine ⟨(entry.id, verdict (x entry.jobId).reply) :: sent, ?_, fun q hq => ?_,
              fun _ _ _ => List.cons_ne_nil _ _⟩
            · have hfirst : d'.answers = d.answers ++ [(entry.id, verdict (x entry.jobId).reply)] :=
                hanswers
              rw [List.append_cons, ← hfirst]
              exact hsent
            · rcases List.mem_cons.mp hq with rfl | hq
              · exact ⟨entry, List.mem_cons_self, rfl, hready⟩
              · obtain ⟨e, he, hid, hlater⟩ := hfrom q hq
                refine ⟨e, List.mem_cons_of_mem entry he, hid, fun t ht => hlater t ?_⟩
                have hne : e.jobId ≠ entry.jobId :=
                  fun heq => hjobs.1 (heq ▸ List.mem_map_of_mem he)
                exact (hframe e.jobId hne).trans ht
      · rw [Ready] at hready
        push Not at hready
        obtain ⟨t, ht, hlate⟩ := hready
        rw [drainEntry_deferred ht hlate]
        obtain ⟨sent, hsent, hfrom, hsome⟩ := ih hjobs.2 d
        refine ⟨sent, hsent, fun q hq => ?_, fun e he hr => ?_⟩
        · obtain ⟨e, he, hid, hr⟩ := hfrom q hq
          exact ⟨e, List.mem_cons_of_mem entry he, hid, hr⟩
        · rcases List.mem_cons.mp he with rfl | he
          · exact absurd (hr t ht) (not_le_of_gt hlate)
          · exact hsome e he hr

/-- The rows of an outbox have different jobs, also in the window. -/
theorem Outbox.nodup_window (o : Outbox) (limit : ℕ) :
    ((o.getPendingTerminals limit).map TerminalRow.jobId).Nodup := by
  have hpending : (o.pending.map TerminalRow.jobId).Nodup := by
    refine ((sortBy_perm _ _).map TerminalRow.jobId).nodup_iff.mpr ?_
    exact o.jobs.sublist (List.filter_sublist.map TerminalRow.jobId)
  exact hpending.sublist ((List.take_sublist limit o.pending).map TerminalRow.jobId)

/-- The deferrals of pending rows are not pruned. -/
theorem deferUntil_pruneDeferrals {d : Drainer} {r : TerminalRow} (hr : r ∈ d.outbox.pending) :
    (pruneDeferrals d).deferUntil r.jobId = d.deferUntil r.jobId := by
  rw [Outbox.pending, mem_sortBy] at hr
  exact if_pos (List.contains_iff_mem.mpr (List.mem_map_of_mem hr))

/-- What a pass has sent. -/
def sentIn (p : PassInput) (d : Drainer) : List (ℕ × Verdict) :=
  (drainOnce p d).answers.drop d.answers.length

/-- A pending row is not deferred when the pass starts. -/
def HasReady (p : PassInput) (d : Drainer) : Prop :=
  ∃ r ∈ d.outbox.pending, ∀ t, d.deferUntil r.jobId = some t → t ≤ p.startedAt

/-- If there is a row that is ready, the pass sends one. -/
def PassServes (p : PassInput) (d : Drainer) : Prop :=
  HasReady p d →
    ∃ r ∈ d.outbox.pending, Ready p.exchange d r ∧ r.id ∈ (sentIn p d).map Prod.fst

/-- If there is a row that is ready, one of the oldest is when the pass comes to it. -/
def WindowServes (p : PassInput) (d : Drainer) : Prop :=
  HasReady p d → ∃ r ∈ d.outbox.pending.take windowSize, Ready p.exchange d r

/-- **A pass sends a row that is ready** if and only if one of the oldest pending rows is ready. -/
theorem drain_serves_iff (p : PassInput) (d : Drainer) : PassServes p d ↔ WindowServes p d := by
  obtain ⟨sent, hsent, hfrom, hsome⟩ := @drainEntries_sends p.exchange
    (d.outbox.getPendingTerminals windowSize) (d.outbox.nodup_window windowSize) (pruneDeferrals d)
  have hanswers : (drainOnce p d).answers = d.answers ++ sent := by
    refine Eq.trans ?_ hsent
    rw [drainOnce]
    show (match drainEntries p.exchange (pruneDeferrals d)
        (d.outbox.getPendingTerminals windowSize) with
      | .error d => d
      | .ok d => d.withOutbox (d.outbox.pruneAckedTerminals 100)).answers = _
    cases drainEntries p.exchange (pruneDeferrals d)
        (d.outbox.getPendingTerminals windowSize) with
    | error d' => rfl
    | ok d' => rfl
  have hsentIn : sentIn p d = sent := by
    rw [sentIn, hanswers, List.drop_left]
  have hready : ∀ r ∈ d.outbox.pending,
      (Ready p.exchange (pruneDeferrals d) r ↔ Ready p.exchange d r) := by
    intro r hr
    rw [Ready, Ready, deferUntil_pruneDeferrals hr]
  have hwindow : ∀ r ∈ d.outbox.getPendingTerminals windowSize, r ∈ d.outbox.pending :=
    fun r hr => List.mem_of_mem_take hr
  rw [PassServes, WindowServes, hsentIn]
  refine forall_congr' fun _ => ⟨?_, ?_⟩
  · rintro ⟨r, _, _, hid⟩
    obtain ⟨q, hq, -⟩ := List.mem_map.mp hid
    obtain ⟨e, he, -, hr⟩ := hfrom q hq
    exact ⟨e, he, (hready e (hwindow e he)).mp hr⟩
  · rintro ⟨r, hr, hrr⟩
    obtain ⟨q, hq⟩ := List.exists_mem_of_ne_nil sent
      (hsome r hr ((hready r (hwindow r hr)).mpr hrr))
    obtain ⟨e, he, hid, hre⟩ := hfrom q hq
    exact ⟨e, hwindow e he, (hready e (hwindow e he)).mp hre, hid ▸ List.mem_map_of_mem hq⟩

namespace WindowExample

/-- Twenty-one jobs that ended one after the other. -/
def outbox : Outbox :=
  ⟨⟨(List.range 21).map fun i => ⟨i, i, "{}", i, 1, none, false, false⟩, 21, by decide, by decide⟩,
    by decide⟩

/-- All but the last are deferred until time 300. -/
def drainer : Drainer := ⟨outbox, fun j => if j < 20 then some 300 else none, []⟩

/-- A pass at time 0. -/
def pass : PassInput := ⟨0, fun _ => ⟨0, .ok, "", 0, 0⟩, fun _ => le_refl 0⟩

/-- **A row that is not sent**: the window is full of deferred rows. -/
theorem starved : ¬ ∀ p d, PassServes p d := by
  intro h
  have hnone : sentIn pass drainer = [] := by
    decide
  obtain ⟨r, -, -, hid⟩ := h pass drainer (by
    refine ⟨⟨20, 20, "{}", 20, 1, none, false, false⟩, ?_, fun t ht => by cases ht⟩
    rw [Outbox.pending, mem_sortBy]
    exact List.mem_filter.mpr ⟨List.mem_map.mpr ⟨20, by decide, rfl⟩, rfl⟩)
  rw [hnone] at hid
  cases hid

end WindowExample

end StabilityPlatform.Terminal
