import StabilityPlatform.DeviceReturn.AsyncTwins
import StabilityPlatform.DeviceReturn.DisarmDerive
import StabilityPlatform.Lease.JobLeases
import StabilityPlatform.Lib.Json

/-!
# The completion of a job

An agent reports that a job ended. The first report ends the job under its lease; it is kept as
a digest. A report for a job that ended already is compared with what was accepted: by the digest
alone when the lease of the job was converted, else by token and digest. A report under another
token may still confirm the debts the job left.

## Main results

* `completeAgentJob`: the completion.
* `replayTerminal`: what a report for an ended job is answered.
-/

namespace StabilityPlatform

open Lib

/-! ### The report -/

/-- The report of an ended job. -/
structure RunComplete where
  update : Dict Json
  artifact : Option (Dict Json)
  watcherSummary : Option (Dict Json)
  disarmResults : Option (Dict Json)
  fencingToken : String

/-- SHA-256, as a hexadecimal text. -/
structure Sha256 where
  hex : ByteArray → String
  length : ∀ m, (hex m).length = 64

/-- No digest is empty. -/
theorem Sha256.hex_ne_empty (sha : Sha256) (m : ByteArray) : sha.hex m ≠ "" := fun h => by
  have hlength := sha.length m
  rw [h] at hlength
  exact absurd hlength (by decide)

/-- A JSON object, or null. -/
def objOrNull (d : Option (Dict Json)) : Json := d.elim .null fun d => .obj d.items

/-- What is digested of a report: everything but the token. -/
def completionFact (p : RunComplete) : Json :=
  .obj [("update", .obj p.update.items), ("artifact", objOrNull p.artifact),
    ("watcher_summary", objOrNull p.watcherSummary), ("disarm_results", objOrNull p.disarmResults)]

/-- What used to be digested of a report. -/
def legacyFact (p : RunComplete) : Json :=
  .obj [("update", .obj p.update.items), ("artifact", objOrNull p.artifact)]

/-- The digest of a JSON value. -/
def Sha256.ofJson (sha : Sha256) (v : Json) : String := sha.hex v.dumps.toUTF8

/-- The digest of a report. -/
def payloadDigest (sha : Sha256) (p : RunComplete) : String := sha.ofJson (completionFact p)

/-- `_RUN_TO_JOB`. -/
def runToJob : List (String × JobStatus) :=
  [("RUNNING", .running), ("FINISHED", .completed), ("COMPLETED", .completed),
    ("FAILED", .failed), ("CANCELED", .aborted), ("CANCELLED", .aborted), ("ABORTED", .aborted)]

mutual

/-- A JSON value as a Python value; `floatValue` reads the text of a number. -/
def Lib.Json.toPy (floatValue : FloatText → ℚ) : Json → PyVal
  | .null => .null
  | .bool b => .bool b
  | .int z => .int z
  | .float x => .float (floatValue x) (String.ofList x.chars)
  | .str s => .str s
  | .list xs => .list (toPyList floatValue xs)
  | .obj items => .dict (toPyItems floatValue items)

/-- The members of a list as Python values. -/
def toPyList (floatValue : FloatText → ℚ) : List Json → List PyVal
  | [] => []
  | x :: xs => x.toPy floatValue :: toPyList floatValue xs

/-- The items of an object as Python values. -/
def toPyItems (floatValue : FloatText → ℚ) : List (String × Json) → PyDict
  | [] => []
  | (k, v) :: items => (k, v.toPy floatValue) :: toPyItems floatValue items

end

section Report

variable (floatValue : FloatText → ℚ) (p : RunComplete)

/-- The status a report names. -/
def requestedStatus : String :=
  pyUpper (pyStrip (((p.update.get? "status").getD (.str "FAILED")).toPy floatValue).pyStr)

/-- The terminal status a report asks for. -/
def terminalTarget : Option JobStatus :=
  (runToJob.lookup (requestedStatus floatValue p)).filter JobStatus.isTerminal

/-- The error message of a report, for the job and for the snapshot, when one is to be kept. What
is no text does not fit the columns. -/
def errorMessage (keeps : Bool) : Except PyError String :=
  match ((p.update.get? "error_message").getD .null).toPy floatValue with
  | .str s => .ok s
  | .null => .ok ""
  | v => if v.truthy || keeps then .error .dataError else .ok ""

/-- The disarm results of a report. -/
def RunComplete.disarm : PyVal := (objOrNull p.disarmResults).toPy floatValue

end Report

/-! ### The disarm results of a completion -/

/-- One reported family, in the form it is kept in. -/
def normalizeReported (out : Dict PyDict) (item : String × PyVal) : Dict PyDict :=
  if item.1 = "" then out
  else match item.2 with
    | .str result => out.set item.1
        [("result", .str result), ("step_id", .str ""), ("exit_code", .null),
          ("readback_summary", .str "")]
    | .dict entry =>
      match PyDict.get entry "result" with
      | .str result =>
        if result = "" then out
        else out.set item.1 ([("result", .str result),
            ("step_id", .str (PyDict.get entry "step_id").strOrEmpty),
            ("exit_code", PyDict.get entry "exit_code"),
            ("readback_summary", .str (PyDict.get entry "readback_summary").strOrEmpty)] ++
          (if (PyDict.get entry "reason").truthy then [("reason", PyDict.get entry "reason")]
            else []) ++
          (match PyDict.get entry "evidence" with
            | .dict evidence => [("evidence", .dict evidence)]
            | _ => []))
      | _ => out
    | _ => out

/-- `normalize_disarm_results`. -/
def normalizeReportedResults (raw : PyVal) : Dict PyDict :=
  match raw.asDict? with
  | none => Dict.empty
  | some items => items.foldl normalizeReported Dict.empty

section Verify

variable (manifestPackageSha : String → String → Option String)

/-- Judge one reported result: what is not verified gives way to the traces. -/
def verifyJobResult (device : Device) (job : JobInstance) (derived results : Dict PyDict)
    (item : String × PyDict) : Except PyError (Dict PyDict) := do
  if !familyNames.contains item.1 then return results
  if ← isPlatformInterrupted (PyDict.get item.2 "exit_code") then
    return results.set item.1 (PyDict.set item.2 "result" (.str DisarmResult.incomplete.value))
  let policy ← evaluateProbeEntry manifestPackageSha device item.1 item.2 true (some job)
  if (probeEntryResponse item.1 item.2 policy .complete).useTrace then
    return results.set item.1 ((derived.get? item.1).getD
      [("result", .str DisarmResult.notExecuted.value)])
  else if policy.trusted then
    return results.set item.1 (PyDict.set item.2 "result" (.str policy.result.value))
  else return results.set item.1 item.2

/-- The disarm results a completion keeps. -/
def verifyJobResults (db : Db) (job : JobInstance) (reported derived : Dict PyDict) :
    Except PyError (Dict PyDict) :=
  match db.devices.get? job.deviceId with
  | none => .error .notFound
  | some device =>
    reported.items.foldlM (verifyJobResult manifestPackageSha device job derived) derived

end Verify

/-! ### Replies -/

/-- What a completion is answered. -/
inductive CompleteReply where
  | accepted (status : JobStatus)
  | idempotent (status : JobStatus)
  | lateConfirmed (status : JobStatus) (outcome : LateOutcome)

/-- The errors of a completion. -/
inductive CompleteError where
  | notFound
  | badRequest (requestedStatus : String)
  | conflict (code : String) (currentStatus : JobStatus)
  | raised (e : PyError)

/-- The database with the snapshots older completions left: what the output of the trace decodes
to, if it does. -/
structure CompletionDb where
  db : Db
  snapshots : ℕ → Option (Option Json)

/-- The newest lease of a job on its device. -/
def historicalLease (db : Db) (job : JobInstance) : Option DeviceLease :=
  (db.leases.select fun l => l.deviceId == job.deviceId && isJobLease job.id l).argmax
    DeviceLease.id

/-! ### A job that ended already -/

/-- The digests that are compared: that of what was accepted, and that of the report. A job
without a digest is compared by its snapshot. -/
def comparedDigests (sha : Sha256) (s : CompletionDb) (job : JobInstance) (p : RunComplete) :
    Option String × String :=
  match job.terminalPayloadDigest with
  | some digest => (some digest, payloadDigest sha p)
  | none =>
    match s.snapshots job.id with
    | some (some fact) => (some (sha.ofJson fact), sha.ofJson (legacyFact p))
    | _ => (none, "")

/-- Whether two digests are there and equal. -/
def digestsMatch (expected : Option String) (digest : String) : Bool :=
  expected.any fun expected => expected != "" && expected == digest

section Complete

variable (manifestPackageSha : String → String → Option String) (sha : Sha256)
  (floatValue : FloatText → ℚ)

/-- A report that neither matches the digest of a converted job nor its token: it may confirm
the debts the job left, else it is stale. -/
def lateOrStale (now : Time) (s : CompletionDb) (job : JobInstance) (p : RunComplete) :
    Except CompleteError (CompleteReply × CompletionDb) :=
  match tryApplyLateConfirmed manifestPackageSha s.db now job.deviceId job.id p.fencingToken
      (p.disarm floatValue) with
  | .error e => .error (.raised e)
  | .ok (some (.done outcome), db) => .ok (.lateConfirmed job.status outcome, { s with db := db })
  | .ok _ => .error (.conflict "STALE_COMPLETION_TOKEN" job.status)

/-- A report for a job that ended already. -/
def replayTerminal (now : Time) (s : CompletionDb) (job : JobInstance) (p : RunComplete) :
    Except CompleteError (CompleteReply × CompletionDb) :=
  match historicalLease s.db job with
  | none =>
    if digestsMatch job.terminalPayloadDigest (payloadDigest sha p) then
      .ok (.idempotent job.status, s)
    else lateOrStale manifestPackageSha floatValue now s job p
  | some lease =>
    if lease.fencingToken ≠ p.fencingToken then
      lateOrStale manifestPackageSha floatValue now s job p
    else if digestsMatch (comparedDigests sha s job p).1 (comparedDigests sha s job p).2 then
      .ok (.idempotent job.status, s)
    else .error (.conflict "TERMINAL_PAYLOAD_CONFLICT" job.status)

/-! ### A job that has not ended -/

/-- The active lease of a job. -/
def activeJobLease (db : Db) (job : JobInstance) : Option DeviceLease :=
  db.leases.first fun l => l.deviceId == job.deviceId && isJobLease job.id l && l.status == .active

/-- `get_valid_runtime_lease`. -/
def validRuntimeLease (db : Db) (job : JobInstance) (fencingToken : String) (now : Time) :
    Option DeviceLease :=
  (activeJobLease db job).filter fun l =>
    l.fencingToken == fencingToken && decide (now < l.expiresAt) && job.status == .running

/-- How long a lost job may come back, in seconds. -/
def recoveryGraceSeconds : ℤ := 300

/-- `resume_expired_lease_for_recovery`: the renewed lease of a job that was lost a moment ago. -/
def resumeExpiredLease (lease : DeviceLease) (job : JobInstance) (agentInstanceId : String)
    (now : Time) : Option DeviceLease :=
  if lease.status = .active ∧ job.status = .unknown ∧
      job.endedAt.any (fun ended => now.addSeconds (-recoveryGraceSeconds) < ended) then
    some { lease with
      renewedAt := now, expiresAt := now.addSeconds defaultLeaseSeconds
      agentInstanceId := agentInstanceId }
  else none

/-- The job and the tables under which a first report is accepted: the lease is valid, or it is
that of a lost job that comes back. -/
def underLease (now : Time) (db : Db) (job : JobInstance) (fencingToken : String) :
    Option (JobInstance × Db) :=
  let candidate := if job.status = .unknown then
    (activeJobLease db job).filter (·.fencingToken == fencingToken) else none
  match candidate.bind fun l => resumeExpiredLease l job l.agentInstanceId now with
  | some lease =>
    (job.transition .running "late_completion_recovery" now).map fun job =>
      (job, db.saveLease lease)
  | none => (validRuntimeLease db job fencingToken now).map fun _ => (job, db)

/-- The trace a completion leaves. -/
def completionTrace (jobId : ℕ) (target : JobStatus) (now : Time) (id : ℕ) : StepTrace where
  id := id
  jobId := jobId
  stepId := "__job__"
  stage := "post_process"
  status := target.value
  exitCode := none
  originalTs := now
  createdAt := now

/-- Keep the snapshot of a completion, unless there is one. -/
def keepSnapshot (s : CompletionDb) (jobId : ℕ) (p : RunComplete) (target : JobStatus)
    (now : Time) : CompletionDb :=
  if (s.snapshots jobId).isSome then s
  else
    { db := { s.db with
        traces := s.db.traces.insert (completionTrace jobId target now) fun _ => rfl }
      snapshots := fun i => if i = jobId then some (some (legacyFact p)) else s.snapshots i }

/-- The disarm results a completion keeps; without any the column stays. -/
def disarmResultsOf (s : CompletionDb) (job : JobInstance) (p : RunComplete) :
    Except PyError PyVal := do
  let derived := deriveDisarmResultsFromTraces job.pipelineDef (s.db.tracesOf job.id)
  let reported := normalizeReportedResults (p.disarm floatValue)
  let results ← verifyJobResults manifestPackageSha s.db job reported derived
  return if results.items.isEmpty then job.disarmResults
    else .dict (results.items.map fun r => (r.1, .dict r.2))

/-- End a job: its row, its snapshot and its lease. -/
def endJob (now now' : Time) (s : CompletionDb) (job : JobInstance) (p : RunComplete)
    (target : JobStatus) (message : String) : Except PyError CompletionDb := do
  let ended : JobInstance := { job with
    status := target
    statusReason := some message
    updatedAt := now
    endedAt := some now
    terminalPayloadDigest := some (payloadDigest sha p) }
  let s := keepSnapshot s job.id p target now
  let results ← disarmResultsOf manifestPackageSha floatValue s ended p
  let ended := { ended with disarmResults := results }
  let db := { s.db with jobs := s.db.jobs.save ended }
  let (_, db) ← handleJobLeaseRelease db now now' job.deviceId job.id (some ended)
  return { s with db := db }

/-- Whether `secrets.compare_digest` takes a text. -/
def isAscii (s : String) : Bool := s.toList.all fun c => c.toNat < 128

/-- A first report: it ends the job under its lease. -/
def acceptTerminal (now now' : Time) (s : CompletionDb) (job : JobInstance) (p : RunComplete)
    (target : JobStatus) : Except CompleteError (CompleteReply × CompletionDb) :=
  if job.status = .unknown ∧ (activeJobLease s.db job).isSome ∧ !isAscii p.fencingToken then
    .error (.raised .typeError)
  else match underLease now s.db job p.fencingToken with
  | none => .error (.conflict "INVALID_OR_EXPIRED_FENCING_TOKEN" job.status)
  | some (job, db) =>
    if target ∉ job.status.validTransitions then
      .error (.conflict "INVALID_JOB_TRANSITION" job.status)
    else
      match errorMessage floatValue p (s.snapshots job.id).isNone with
      | .error e => .error (.raised e)
      | .ok message =>
        match endJob manifestPackageSha sha floatValue now now' { s with db := db } job p target
            message with
        | .error e => .error (.raised e)
        | .ok s => .ok (.accepted target, s)

/-- The completion of a job. -/
def completeAgentJob (now now' : Time) (s : CompletionDb) (jobId : ℕ) (p : RunComplete) :
    Except CompleteError (CompleteReply × CompletionDb) :=
  match s.db.jobs.get? jobId with
  | none => .error .notFound
  | some job =>
    match terminalTarget floatValue p with
    | none => .error (.badRequest (requestedStatus floatValue p))
    | some target =>
      if job.status.isTerminal then replayTerminal manifestPackageSha sha floatValue now s job p
      else acceptTerminal manifestPackageSha sha floatValue now now' s job p target

end Complete

end StabilityPlatform
