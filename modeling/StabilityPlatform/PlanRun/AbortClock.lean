import StabilityPlatform.Lib.Run
import StabilityPlatform.PlanRun.Abort

/-!
# Abort clocks over repeated requests

Run-level and host-level abort requests come to a plan run one after the other, while its jobs
are claimed, fail and complete at any time, also between the two transactions of a request. A
host keeps its first clock. The run does not: a run-level request starts its clock and its list
over, and a host-level request adds to a list that covered every job while it was empty, so
that the jobs it does not name lose the clock of the run.

## Main results

* `reapAt_le_iff`: when a job is reaped by a given time.
* `abort_spec`: what a request comes to, in terms of clocks and names.
* `aborts_never_postpone_iff`: **no reap clock moves later** exactly when every request leaves
  each covered job a clock that is no later.
-/

namespace StabilityPlatform

open Lib

/-! ### A plan run under abort requests -/

/-- A plan run with its jobs. -/
structure AbortWorld where
  now : Time
  run : PlanRunRow
  jobs : List AbortJob

/-- What happens to the run: its jobs move, it is ended by aggregation, or an abort is requested,
with the jobs that move and the end that comes between its transactions. -/
inductive AbortOp where
  | work (moved : List (ℕ × JobStatus)) (ended : Bool)
  | abort (call : AbortCall) (now : Time) (moved : List (ℕ × JobStatus)) (ended : Bool)

/-- Jobs that were moved by others. -/
def moveJobs (moved : List (ℕ × JobStatus)) (jobs : List AbortJob) : List AbortJob :=
  jobs.map fun job => { job with status := (moved.lookup job.id).getD job.status }

/-- A run that was ended by others. -/
def endRun (ended : Bool) (run : PlanRunRow) : PlanRunRow :=
  if ended then { run with status := .failed } else run

/-- A request; one that raises in its second transaction has committed the first. -/
def AbortWorld.abort (w : AbortWorld) (call : AbortCall) (now : Time)
    (moved : List (ℕ × JobStatus)) (ended : Bool) : AbortWorld :=
  match abortFirst call now w.jobs w.run with
  | none | some .noop => { w with now := now }
  | some (.ended run) => { w with now := now, run := run }
  | some (.pending run pendingIds requested) =>
    match abortSecond call now pendingIds requested (moveJobs moved w.jobs) (endRun ended run) with
    | none => ⟨now, endRun ended run, moveJobs moved w.jobs⟩
    | some (run', jobs') => ⟨now, run', jobs'⟩

/-- One step; requests come at non-decreasing times. -/
def AbortWorld.Step (w : AbortWorld) (op : AbortOp) (w' : AbortWorld) : Prop :=
  match op with
  | .work moved ended =>
    w' = { w with run := endRun ended w.run, jobs := moveJobs moved w.jobs }
  | .abort call now moved ended =>
    w.now ≤ now ∧ IsMoment now ∧ w' = w.abort call now moved ended

/-- The context of the run. -/
def AbortWorld.context (w : AbortWorld) : PyVal := .dict w.run.runContext

/-- When a job is to be reaped. -/
def AbortWorld.reapAt (w : AbortWorld) (job : AbortJob) : Option Time :=
  (abortReapClock w.context job.id job.hostId).map Prod.fst

/-- The clock of the host of a job. -/
def AbortWorld.hostClock (w : AbortWorld) (job : AbortJob) : Option Time :=
  parseAbortAt (hostAbortClockAt w.context job.hostId)

/-- Every job is still there, and is reaped no later. -/
def NoLater (w w' : AbortWorld) : Prop :=
  ∀ job ∈ w.jobs, ∃ job' ∈ w'.jobs, job'.id = job.id ∧ job'.hostId = job.hostId ∧
    ∀ t, w.reapAt job = some t → ∃ t', w'.reapAt job' = some t' ∧ t' ≤ t

/-! ### What a request does -/

/-- Whether a request comes to naming jobs: the run has not ended, it has been admitted and is
past its precheck, and a host-level request finds active jobs. -/
def AbortWorld.proceeds (w : AbortWorld) (call : AbortCall) : Bool :=
  !w.run.status.isTerminal &&
    !(call.hostId.isNone && (w.run.status == .queued || w.run.status == .precheck) &&
      w.jobs.isEmpty) &&
    inPrecheck call w.run == some false &&
    !(call.hostId.isSome && (activeRows call w.jobs).isEmpty)

/-- The jobs a request names: the running ones, and the pending ones that are claimed before its
second transaction. -/
def AbortWorld.named (w : AbortWorld) (call : AbortCall) (moved : List (ℕ × JobStatus))
    (ended : Bool) : List ℕ :=
  let active := activeRows call w.jobs
  let raced := if ended then [] else
    idsWith .running ((moveJobs moved w.jobs).filter fun job =>
      (idsWith .pending active).contains job.id)
  idsWith .running active ++ raced

/-- The jobs the run names so far. -/
def AbortWorld.requestedJobIds (w : AbortWorld) : List ℕ :=
  (((contextOf (w.run.runContext.get "abort_requested")).get
    "requested_job_ids").asList?.getD []).filterMap fun v => v.int?.map Int.toNat

/-- When a request leaves every covered job a clock that is no later. A run-level request does
when each of them has such a clock from its host, or is named again at the very time of its
clock. A host-level request does unless the list of the run was empty and is no more; then the
jobs it does not name need a clock from their hosts. -/
def AbortWorld.Permits (w : AbortWorld) : AbortOp → Prop
  | .work _ _ => True
  | .abort call now moved ended => w.proceeds call = true →
    match call.hostId with
    | none => ∀ job ∈ w.jobs, ∀ t, w.reapAt job = some t →
        (∃ h, w.hostClock job = some h ∧ h ≤ t) ∨
          now ≤ t ∧ (w.named call moved ended = [] ∨ job.id ∈ w.named call moved ended)
    | some hostId => w.requestedJobIds = [] → w.named call moved ended ≠ [] →
        ∀ job ∈ w.jobs, job.id ∉ w.named call moved ended → ∀ t, w.reapAt job = some t →
          (∃ h, w.hostClock job = some h ∧ h ≤ t) ∨
            now ≤ t ∧ w.hostClock job = none ∧ job.hostId = some hostId ∧ hostId ≠ ""

/-- A run whose context is as the aborts write it. -/
def AbortWorld.InOrder (w : AbortWorld) : Prop := ∃ l, Records w.run.runContext l

/-! ### Clocks of a ledger -/

/-- **Reaped by a time**: the clock of the run or that of the host says so. -/
theorem reapAt_le_iff {l : AbortLedger} {jobId : ℕ} {hostId : Option String} {t : Time} :
    (∃ t', l.reapAt jobId hostId = some t' ∧ t' ≤ t) ↔
      (∃ r, l.runClock jobId = some r ∧ r ≤ t) ∨ ∃ h, l.hostClock hostId = some h ∧ h ≤ t := by
  rw [AbortLedger.reapAt]
  cases l.runClock jobId with
  | none =>
      constructor
      · exact fun h => .inr h
      · rintro (⟨r, hr, -⟩ | h)
        · cases hr
        · exact h
  | some r =>
      cases l.hostClock hostId with
      | none =>
          constructor
          · exact fun h => .inl h
          · rintro (h | ⟨h, hh, -⟩)
            · exact h
            · cases hh
      | some h =>
          simp only [Option.some.injEq, exists_eq_left', min_le_iff]

/-- The same clocks, and the same jobs covered. -/
structure SameClocks (l l' : AbortLedger) : Prop where
  runAt : l.runAt = l'.runAt
  hostAt : l.hostAt = l'.hostAt
  covers : ∀ jobId, l.Covers jobId ↔ l'.Covers jobId

/-- Then the run has the same clock for every job. -/
theorem SameClocks.runClock {l l' : AbortLedger} (h : SameClocks l l') (jobId : ℕ) :
    l.runClock jobId = l'.runClock jobId := by
  rw [AbortLedger.runClock, AbortLedger.runClock, h.runAt]
  by_cases hcov : l.Covers jobId
  · rw [if_pos hcov, if_pos ((h.covers jobId).mp hcov)]
  · rw [if_neg hcov, if_neg fun hcov' => hcov ((h.covers jobId).mpr hcov')]

/-- And every job is reaped at the same time. -/
theorem SameClocks.reapAt {l l' : AbortLedger} (h : SameClocks l l') (jobId : ℕ)
    (hostId : Option String) : l.reapAt jobId hostId = l'.reapAt jobId hostId := by
  rw [AbortLedger.reapAt, AbortLedger.reapAt, h.runClock, AbortLedger.hostClock,
    AbortLedger.hostClock, h.hostAt]

/-- Lists with the same members cover the same jobs. -/
theorem SameClocks.of_mem {l l' : AbortLedger} (hrun : l.runAt = l'.runAt)
    (hhost : l.hostAt = l'.hostAt) (hmem : ∀ id, id ∈ l.requested ↔ id ∈ l'.requested) :
    SameClocks l l' := by
  refine ⟨hrun, hhost, fun jobId => or_congr ?_ (hmem jobId)⟩
  rw [List.eq_nil_iff_forall_not_mem, List.eq_nil_iff_forall_not_mem]
  exact forall_congr' fun id => not_congr (hmem id)

/-- **Naming jobs in two writes** comes to naming them in one. -/
theorem sameClocks_refresh (l : AbortLedger) (hostId : Option String) (now : Time)
    (running raced : List ℕ) :
    SameClocks ((l.record hostId now running).refresh (running ++ raced))
      (l.record hostId now (running ++ raced)) := by
  cases hostId with
  | none =>
      refine .of_mem rfl rfl fun id => ?_
      change id ∈ AbortLedger.addNew [] (running ++ (running ++ raced)) ↔ id ∈ running ++ raced
      simp [AbortLedger.mem_addNew]
  | some hostId =>
      refine .of_mem rfl rfl fun id => ?_
      change id ∈ AbortLedger.addNew [] (AbortLedger.addNew [] (l.requested ++ running) ++
        (running ++ raced)) ↔ id ∈ AbortLedger.addNew [] (l.requested ++ (running ++ raced))
      simp [AbortLedger.mem_addNew]
      tauto

/-! ### One request -/

/-- Every job is still there. -/
def JobsKept (jobs jobs' : List AbortJob) : Prop :=
  ∀ job ∈ jobs, ∃ job' ∈ jobs', job'.id = job.id ∧ job'.hostId = job.hostId

/-- Jobs stay when their rows are rewritten one by one. -/
theorem jobsKept_map {jobs : List AbortJob} {f : AbortJob → AbortJob}
    (hf : ∀ job, (f job).id = job.id ∧ (f job).hostId = job.hostId) :
    JobsKept jobs (jobs.map f) := fun job hjob =>
  ⟨f job, List.mem_map_of_mem hjob, hf job⟩

/-- Jobs that stay twice. -/
theorem JobsKept.trans {jobs jobs' jobs'' : List AbortJob} (h : JobsKept jobs jobs')
    (h' : JobsKept jobs' jobs'') : JobsKept jobs jobs'' := by
  intro job hjob
  obtain ⟨job', hjob', hid, hhost⟩ := h job hjob
  obtain ⟨job'', hjob'', hid', hhost'⟩ := h' job' hjob'
  exact ⟨job'', hjob'', hid'.trans hid, hhost'.trans hhost⟩

/-- Moving jobs keeps them. -/
theorem jobsKept_moveJobs (moved : List (ℕ × JobStatus)) (jobs : List AbortJob) :
    JobsKept jobs (moveJobs moved jobs) := jobsKept_map fun _ => ⟨rfl, rfl⟩

/-- Marking jobs aborted keeps them. -/
theorem jobsKept_markAborted (abortedIds : List ℕ) (jobs : List AbortJob) :
    JobsKept jobs (markAborted abortedIds jobs) := by
  refine jobsKept_map fun job => ?_
  by_cases h : abortedIds.contains job.id = true
  · rw [if_pos h]
    exact ⟨rfl, rfl⟩
  · rw [if_neg h]
    exact ⟨rfl, rfl⟩

/-- A context that records a ledger still does when another key is written. -/
theorem Records.set_other {runContext : PyDict} {l : AbortLedger} (h : Records runContext l)
    {key : String} (v : PyVal) (hrun : "abort_requested" ≠ key)
    (hhosts : "abort_requested_hosts" ≠ key) : Records (runContext.set key v) l := by
  refine ⟨?_, ?_⟩
  · rw [PyDict.get_set_of_ne _ _ hrun]
    exact h.request
  · rw [PyDict.get_set_of_ne _ _ hhosts]
    exact h.hosts

/-- A request on a run that is not admitted yet. -/
theorem records_abortUnadmitted {call : AbortCall} {now : Time} {run run' : PlanRunRow}
    {l : AbortLedger} (hnow : IsMoment now) (h : Records run.runContext l)
    (hrun : abortUnadmitted call now run = some run') :
    Records run'.runContext (l.record none now []) := by
  obtain ⟨failed, -, rfl⟩ := Option.map_eq_some_iff.mp hrun
  refine ⟨?_, ?_⟩
  · dsimp only
    rw [PyDict.get_set_self]
    exact ⟨.inr ⟨_, rfl⟩, ⟨hnow, rfl⟩, .inl rfl, [], rfl⟩
  · dsimp only
    rw [PyDict.get_set_of_ne _ _ (by decide)]
    exact ⟨h.hosts.shape, h.hosts.entries, h.hosts.clock⟩

/-- A request on a run in its precheck. -/
theorem records_closePrecheck {call : AbortCall} {now : Time} {run run' : PlanRunRow}
    {l : AbortLedger} (h : Records run.runContext l)
    (hrun : closePrecheck call now run = some run') : Records run'.runContext l := by
  obtain ⟨precheck, -, hrest⟩ := Option.bind_eq_some_iff.mp hrun
  obtain ⟨errors, -, hrest⟩ := Option.bind_eq_some_iff.mp hrest
  obtain ⟨failed, -, hrest⟩ := Option.bind_eq_some_iff.mp hrest
  cases hrest
  exact h.set_other _ (by decide) (by decide)

/-- **A request that names no jobs** leaves the clocks, or the run has no jobs. -/
theorem abort_of_not_proceeds {w : AbortWorld} {call : AbortCall} {now : Time}
    (moved : List (ℕ × JobStatus)) (ended : Bool) {l : AbortLedger} (hnow : IsMoment now)
    (h : Records w.run.runContext l) (hproceeds : w.proceeds call = false) :
    (w.abort call now moved ended).jobs = w.jobs ∧
      (Records (w.abort call now moved ended).run.runContext l ∨
        w.jobs = [] ∧ (w.abort call now moved ended).InOrder) := by
  cases hfirst : abortFirst call now w.jobs w.run with
  | none =>
      rw [AbortWorld.abort, hfirst]
      exact ⟨rfl, .inl h⟩
  | some out =>
      rw [AbortWorld.abort, hfirst]
      rw [abortFirst] at hfirst
      split at hfirst
      · cases hfirst
      · rename_i hlive
        split at hfirst
        · rename_i hunadmitted
          obtain ⟨run', hrun', rfl⟩ := Option.map_eq_some_iff.mp hfirst
          exact ⟨rfl, .inr ⟨List.isEmpty_iff.mp hunadmitted.2.2, _,
            records_abortUnadmitted hnow h hrun'⟩⟩
        · rename_i hadmitted
          split at hfirst
          · cases hfirst
          · obtain ⟨run', hrun', rfl⟩ := Option.map_eq_some_iff.mp hfirst
            exact ⟨rfl, .inl (records_closePrecheck h hrun')⟩
          · rename_i hpre
            dsimp only at hfirst
            split at hfirst
            · cases hfirst
              exact ⟨rfl, .inl h⟩
            · rename_i hscope
              have hpast : (call.hostId.isNone && (w.run.status == .queued ||
                  w.run.status == .precheck) && w.jobs.isEmpty) = false := by
                refine Bool.eq_false_of_not_eq_true fun hnot => ?_
                simp only [Bool.and_eq_true, Bool.or_eq_true, beq_iff_eq] at hnot
                exact hadmitted ⟨hnot.1.1, hnot.1.2, hnot.2⟩
              rw [AbortWorld.proceeds, hpre, hpast, Bool.eq_false_of_not_eq_true hlive,
                Bool.eq_false_of_not_eq_true hscope] at hproceeds
              cases hproceeds

/-- **A request that names jobs** comes to one entry in the ledger. -/
theorem abort_of_proceeds {w : AbortWorld} {call : AbortCall} {now : Time}
    (moved : List (ℕ × JobStatus)) (ended : Bool) {l : AbortLedger} (hnow : IsMoment now)
    (h : Records w.run.runContext l) (hproceeds : w.proceeds call = true) :
    JobsKept w.jobs (w.abort call now moved ended).jobs ∧
      ∃ l', Records (w.abort call now moved ended).run.runContext l' ∧
        SameClocks l' (l.record call.hostId now (w.named call moved ended)) := by
  simp only [AbortWorld.proceeds, Bool.and_eq_true, Bool.not_eq_true'] at hproceeds
  obtain ⟨⟨⟨hlive, hadmitted⟩, hpre⟩, hscope⟩ := hproceeds
  obtain ⟨runContext, hrecord, hrecords, items, hitems⟩ :=
    h.record call (idsWith .running (activeRows call w.jobs)) hnow
  have hfirst : abortFirst call now w.jobs w.run =
      if (idsWith .pending (activeRows call w.jobs)).isEmpty then
        (settleAbort call now w.jobs { w.run with runContext := runContext }).map .ended
      else some (.pending { w.run with runContext := runContext }
        (idsWith .pending (activeRows call w.jobs)) (idsWith .running (activeRows call w.jobs))) := by
    rw [abortFirst, if_neg (by rw [hlive]; exact Bool.false_ne_true),
      if_neg (by simpa using hadmitted), beq_iff_eq.mp hpre]
    dsimp only
    rw [if_neg (by rw [hscope]; exact Bool.false_ne_true), hrecord]
  by_cases hpending : (idsWith .pending (activeRows call w.jobs)).isEmpty = true
  · obtain ⟨run', hsettle⟩ := Option.isSome_iff_exists.mp (isSome_settleAbort call now w.jobs
      (show PlanRunRow.abortRequested { w.run with runContext := runContext } = true from
        contains_of_get_dict hitems))
    have hworld : w.abort call now moved ended = { w with now := now, run := run' } := by
      rw [AbortWorld.abort, hfirst, if_pos hpending, hsettle]
      rfl
    have hnamed : w.named call moved ended = idsWith .running (activeRows call w.jobs) := by
      rw [AbortWorld.named, List.isEmpty_iff.mp hpending]
      simp [idsWith]
    rw [hworld, hnamed]
    refine ⟨fun job hjob => ⟨job, hjob, rfl, rfl⟩, _, ?_, ⟨rfl, rfl, fun _ => Iff.rfl⟩⟩
    dsimp only
    rw [(Settles.of_settleAbort hsettle).runContext]
    exact hrecords
  · cases ended with
    | true =>
        have hworld : w.abort call now moved true = ⟨now, { w.run with
            runContext := runContext, status := .failed }, moveJobs moved w.jobs⟩ := by
          rw [AbortWorld.abort, hfirst, if_neg hpending]
          rfl
        have hnamed : w.named call moved true = idsWith .running (activeRows call w.jobs) := by
          rw [AbortWorld.named]
          simp
        rw [hworld, hnamed]
        exact ⟨jobsKept_moveJobs _ _, _, hrecords, rfl, rfl, fun _ => Iff.rfl⟩
    | false =>
        obtain ⟨⟨abortedIds, counted⟩, hbulk⟩ := Option.isSome_iff_exists.mp
          (isSome_bulkAbort now (idsWith .pending (activeRows call w.jobs)) (moveJobs moved w.jobs)
            (show PlanRunRow.abortRequested { w.run with runContext := runContext } = true from
              contains_of_get_dict hitems))
        have hcontext : counted.runContext = runContext := (Settles.of_bulkAbort hbulk).runContext
        obtain ⟨runContext', hrefresh, hrecords', items', hitems'⟩ := hrecords.refresh
          (w.named call moved false) ⟨items, hitems⟩
        obtain ⟨run', hsettle⟩ := Option.isSome_iff_exists.mp (isSome_settleAbort call now
          (markAborted abortedIds (moveJobs moved w.jobs))
          (show PlanRunRow.abortRequested { counted with runContext := runContext' } = true from
            contains_of_get_dict hitems'))
        have hsecond : abortSecond call now (idsWith .pending (activeRows call w.jobs))
            (idsWith .running (activeRows call w.jobs)) (moveJobs moved w.jobs)
            { w.run with runContext := runContext } =
              some (run', markAborted abortedIds (moveJobs moved w.jobs)) := by
          rw [abortSecond, if_neg (by rw [hlive]; exact Bool.false_ne_true), hbulk]
          dsimp only
          have hnamed : w.named call moved false = idsWith .running (activeRows call w.jobs) ++
              idsWith .running ((moveJobs moved w.jobs).filter fun job =>
                (idsWith .pending (activeRows call w.jobs)).contains job.id) := rfl
          rw [hcontext, ← hnamed, hrefresh]
          dsimp only
          rw [hsettle]
          rfl
        have hworld : w.abort call now moved false =
            ⟨now, run', markAborted abortedIds (moveJobs moved w.jobs)⟩ := by
          rw [AbortWorld.abort, hfirst, if_neg hpending]
          dsimp only
          rw [endRun, if_neg Bool.false_ne_true, hsecond]
        rw [hworld]
        refine ⟨(jobsKept_moveJobs _ _).trans (jobsKept_markAborted _ _), _, ?_,
          sameClocks_refresh l call.hostId now _ _⟩
        dsimp only
        rw [(Settles.of_settleAbort hsettle).runContext]
        exact hrecords'

/-! ### Reading the run -/

/-- The clock a job is reaped by is that of the ledger. -/
theorem AbortWorld.reapAt_eq {w : AbortWorld} {l : AbortLedger} (h : Records w.run.runContext l)
    (job : AbortJob) : w.reapAt job = l.reapAt job.id job.hostId := h.reapClock job.id job.hostId

/-- The clock of a host is that of the ledger. -/
theorem AbortWorld.hostClock_eq {w : AbortWorld} {l : AbortLedger}
    (h : Records w.run.runContext l) (job : AbortJob) :
    w.hostClock job = l.hostClock job.hostId := h.hosts.hostAt job.hostId

/-- The jobs named so far are those of the ledger. -/
theorem AbortWorld.requestedJobIds_eq {w : AbortWorld} {l : AbortLedger}
    (h : Records w.run.runContext l) : w.requestedJobIds = l.requested := by
  rw [AbortWorld.requestedJobIds]
  rcases h.request.listed with hlisted | ⟨hlisted, hempty⟩
  · rw [hlisted]
    change (jobIdValues l.requested).filterMap _ = l.requested
    rw [jobIdValues, List.filterMap_map]
    exact List.filterMap_some
  · rw [hlisted, hempty]
    rfl

/-! ### What keeps clocks early -/

/-- A job is reaped by one of the clocks that cover it. -/
theorem exists_clock_of_reapAt {l : AbortLedger} {jobId : ℕ} {hostId : Option String} {t : Time}
    (h : l.reapAt jobId hostId = some t) :
    (∃ r, l.runClock jobId = some r ∧ r ≤ t) ∨ ∃ c, l.hostClock hostId = some c ∧ c ≤ t :=
  reapAt_le_iff.mp ⟨t, h, le_refl t⟩

/-- A clock of the run covers the job. -/
theorem covers_of_runClock {l : AbortLedger} {jobId : ℕ} {r : Time}
    (h : l.runClock jobId = some r) : l.Covers jobId ∧ l.runAt = some r := by
  rw [AbortLedger.runClock] at h
  split at h
  · rename_i hcov
    exact ⟨hcov, h⟩
  · cases h

/-- **A run-level request** starts the clock of the run over. -/
theorem reapAt_record_run {l : AbortLedger} {now : Time} {named : List ℕ} {jobId : ℕ}
    {hostId : Option String} {t : Time} :
    (∃ t', (l.record none now named).reapAt jobId hostId = some t' ∧ t' ≤ t) ↔
      (∃ c, l.hostClock hostId = some c ∧ c ≤ t) ∨ now ≤ t ∧ (named = [] ∨ jobId ∈ named) := by
  rw [reapAt_le_iff, or_comm]
  refine or_congr Iff.rfl ?_
  constructor
  · rintro ⟨r, hr, hle⟩
    obtain ⟨hcov, hat⟩ := covers_of_runClock hr
    obtain rfl : now = r := Option.some.inj hat
    exact ⟨hle, hcov⟩
  · rintro ⟨hle, hcov⟩
    exact ⟨now, if_pos hcov, hle⟩

/-- The clock of a host after a request for one. -/
theorem hostClock_record_host {l : AbortLedger} {host : String} {now : Time} {named : List ℕ}
    {hostId : Option String} {t : Time} :
    (∃ c, (l.record (some host) now named).hostClock hostId = some c ∧ c ≤ t) ↔
      (∃ c, l.hostClock hostId = some c ∧ c ≤ t) ∨
        now ≤ t ∧ l.hostClock hostId = none ∧ hostId = some host ∧ host ≠ "" := by
  cases hostId with
  | none => simp [AbortLedger.hostClock]
  | some hostId =>
      by_cases hempty : hostId = ""
      · subst hempty
        have hnone : ∀ m : AbortLedger, m.hostClock (some "") = none := fun _ => rfl
        rw [hnone, hnone]
        constructor
        · exact fun h => .inl h
        · rintro (h | ⟨-, -, hhost, hne⟩)
          · exact h
          · exact absurd (Option.some.inj hhost).symm hne
      · have hclock : ∀ m : AbortLedger, m.hostClock (some hostId) = m.hostAt hostId := by
          intro m
          rw [AbortLedger.hostClock, Option.filter_some, if_pos (by simpa using hempty),
            Option.bind_some]
        rw [hclock, hclock, AbortLedger.record]
        dsimp only
        by_cases hhost : hostId = host
        · subst hhost
          rw [Function.update_self]
          cases l.hostAt hostId with
          | none => simp [hempty]
          | some c => simp
        · rw [Function.update_of_ne hhost]
          simp [hhost]

/-- **A host-level request** keeps the clocks early, unless the list covered every job and is
empty no more; then a job it does not name needs the clock of its host. -/
theorem reapAt_record_host {l : AbortLedger} {host : String} {now : Time} {named : List ℕ}
    {jobId : ℕ} {hostId : Option String} {t : Time} (ht : l.reapAt jobId hostId = some t) :
    (∃ t', (l.record (some host) now named).reapAt jobId hostId = some t' ∧ t' ≤ t) ↔
      (l.requested = [] → named ≠ [] → jobId ∉ named →
        (∃ c, l.hostClock hostId = some c ∧ c ≤ t) ∨
          now ≤ t ∧ l.hostClock hostId = none ∧ hostId = some host ∧ host ≠ "") := by
  rw [reapAt_le_iff, hostClock_record_host]
  have hmem : ∀ id, id ∈ (l.record (some host) now named).requested ↔
      id ∈ l.requested ∨ id ∈ named := by
    intro id
    change id ∈ AbortLedger.addNew [] (l.requested ++ named) ↔ _
    simp [AbortLedger.mem_addNew]
  constructor
  · rintro (⟨r, hr, hle⟩ | hhost) hlist hnamed hjob
    · refine absurd (covers_of_runClock hr).1 ?_
      rintro (hnil | hin)
      · obtain ⟨id, hid⟩ := List.exists_mem_of_ne_nil named hnamed
        exact List.eq_nil_iff_forall_not_mem.mp hnil id ((hmem id).mpr (.inr hid))
      · rcases (hmem jobId).mp hin with hold | hnew
        · rw [hlist] at hold
          cases hold
        · exact hjob hnew
    · exact hhost
  · intro hkeeps
    rcases exists_clock_of_reapAt ht with ⟨r, hr, hle⟩ | hhost
    · obtain ⟨hcov, hat⟩ := covers_of_runClock hr
      by_cases hstill : (l.record (some host) now named).Covers jobId
      · refine .inl ⟨r, ?_, hle⟩
        rw [AbortLedger.runClock, if_pos hstill]
        exact hat
      · refine .inr (hkeeps ?_ ?_ fun hin => hstill (.inr ((hmem jobId).mpr (.inr hin))))
        · rcases hcov with hnil | hin
          · exact hnil
          · exact absurd (.inr ((hmem jobId).mpr (.inl hin))) hstill
        · rintro rfl
          refine hstill ?_
          rcases hcov with hnil | hin
          · refine .inl (List.eq_nil_iff_forall_not_mem.mpr fun id hid => ?_)
            rcases (hmem id).mp hid with hold | hnew
            · rw [hnil] at hold
              cases hold
            · cases hnew
          · exact .inr ((hmem jobId).mpr (.inl hin))
    · exact .inr (.inl hhost)

/-! ### Every run -/

/-- Nothing is later than itself. -/
theorem NoLater.refl (w : AbortWorld) : NoLater w w :=
  fun job hjob => ⟨job, hjob, rfl, rfl, fun t ht => ⟨t, ht, le_refl t⟩⟩

/-- No later twice. -/
theorem NoLater.trans {w w' w'' : AbortWorld} (h : NoLater w w') (h' : NoLater w' w'') :
    NoLater w w'' := by
  intro job hjob
  obtain ⟨job', hjob', hid, hhost, hle⟩ := h job hjob
  obtain ⟨job'', hjob'', hid', hhost', hle'⟩ := h' job' hjob'
  refine ⟨job'', hjob'', hid'.trans hid, hhost'.trans hhost, fun t ht => ?_⟩
  obtain ⟨t', ht', htt'⟩ := hle t ht
  obtain ⟨t'', ht'', htt''⟩ := hle' t' ht'
  exact ⟨t'', ht'', le_trans htt'' htt'⟩

/-- No later, in terms of the ledger a step leaves. -/
theorem noLater_iff {w w' : AbortWorld} {l' : AbortLedger}
    (h' : Records w'.run.runContext l') (hjobs : JobsKept w.jobs w'.jobs) :
    NoLater w w' ↔ ∀ job ∈ w.jobs, ∀ t, w.reapAt job = some t →
      ∃ t', l'.reapAt job.id job.hostId = some t' ∧ t' ≤ t := by
  constructor
  · intro hlater job hjob t ht
    obtain ⟨job', hjob', hid, hhost, hle⟩ := hlater job hjob
    obtain ⟨t', ht', hle'⟩ := hle t ht
    rw [AbortWorld.reapAt_eq h', hid, hhost] at ht'
    exact ⟨t', ht', hle'⟩
  · intro hall job hjob
    obtain ⟨job', hjob', hid, hhost⟩ := hjobs job hjob
    refine ⟨job', hjob', hid, hhost, fun t ht => ?_⟩
    rw [AbortWorld.reapAt_eq h', hid, hhost]
    exact hall job hjob t ht

/-- Steps of others leave the context. -/
theorem runContext_endRun (ended : Bool) (run : PlanRunRow) :
    (endRun ended run).runContext = run.runContext := by
  cases ended with
  | true => rfl
  | false => rfl

/-- **Every step** leaves a context as the aborts write it. -/
theorem AbortWorld.Step.inOrder {w w' : AbortWorld} {op : AbortOp} (hw : w.InOrder)
    (hstep : w.Step op w') : w'.InOrder := by
  obtain ⟨l, h⟩ := hw
  cases op with
  | work moved ended =>
      cases hstep
      refine ⟨l, ?_⟩
      rw [runContext_endRun]
      exact h
  | abort call now moved ended =>
      obtain ⟨-, hnow, rfl⟩ := hstep
      cases hproceeds : w.proceeds call with
      | true =>
          obtain ⟨-, l', h', -⟩ := abort_of_proceeds moved ended hnow h hproceeds
          exact ⟨l', h'⟩
      | false =>
          rcases (abort_of_not_proceeds moved ended hnow h hproceeds).2 with
            h' | ⟨-, h'⟩
          · exact ⟨l, h'⟩
          · exact h'

/-- **One step** moves no reap clock later exactly when the request permits it. -/
theorem AbortWorld.Step.noLater_iff_permits {w w' : AbortWorld} {op : AbortOp} (hw : w.InOrder)
    (hstep : w.Step op w') : NoLater w w' ↔ w.Permits op := by
  obtain ⟨l, h⟩ := hw
  cases op with
  | work moved ended =>
      cases hstep
      have h' : Records (endRun ended w.run).runContext l := by
        rw [runContext_endRun]
        exact h
      refine (noLater_iff h' (jobsKept_moveJobs moved w.jobs)).trans
        ⟨fun _ => trivial, fun _ job _ t ht => ⟨t, ?_, le_refl t⟩⟩
      rw [← AbortWorld.reapAt_eq h]
      exact ht
  | abort call now moved ended =>
      obtain ⟨-, hnow, rfl⟩ := hstep
      cases hproceeds : w.proceeds call with
      | false =>
          obtain ⟨hjobs, hcontext⟩ :=
            abort_of_not_proceeds moved ended hnow h hproceeds
          refine ⟨fun _ hgo => ?_, fun _ => ?_⟩
          · rw [hproceeds] at hgo
            cases hgo
          · rcases hcontext with h' | ⟨hnone, -⟩
            · refine (noLater_iff h' (by rw [hjobs]; exact fun job hjob =>
                ⟨job, hjob, rfl, rfl⟩)).mpr fun job _ t ht => ⟨t, ?_, le_refl t⟩
              rw [← AbortWorld.reapAt_eq h]
              exact ht
            · intro job hjob
              rw [hnone] at hjob
              cases hjob
      | true =>
          obtain ⟨hjobs, l', h', hsame⟩ :=
            abort_of_proceeds moved ended hnow h hproceeds
          rw [noLater_iff h' hjobs]
          simp only [AbortWorld.Permits, hproceeds, forall_const, hsame.reapAt,
            AbortWorld.hostClock_eq h, AbortWorld.requestedJobIds_eq h]
          cases call.hostId with
          | none =>
              refine forall_congr' fun job => forall_congr' fun _ => forall_congr' fun t =>
                forall_congr' fun _ => ?_
              exact reapAt_record_run
          | some host =>
              constructor
              · intro hall hlist hnamed job hjob hout t ht
                refine (reapAt_record_host ?_).mp (hall job hjob t ht) hlist hnamed hout
                rw [← AbortWorld.reapAt_eq h]
                exact ht
              · intro hall job hjob t ht
                refine (reapAt_record_host ?_).mpr fun hlist hnamed hout =>
                  hall hlist hnamed job hjob hout t ht
                rw [← AbortWorld.reapAt_eq h]
                exact ht

/-- **Reap clocks never move later** in a run exactly when every request in it permits it. -/
theorem aborts_never_postpone_iff {w₀ w : AbortWorld} {tr : List (AbortWorld × AbortOp)}
    (hw : w₀.InOrder) (hrun : Run AbortWorld.Step w₀ tr w) :
    (reached tr w).Pairwise NoLater ↔ ∀ p ∈ tr, p.1.Permits p.2 :=
  hrun.pairwise_iff_guard NoLater.refl NoLater.trans (fun hw hstep => hstep.inOrder hw)
    (fun hw hstep => hstep.noLater_iff_permits hw) hw

/-- A running plan run with three running jobs on two hosts, and no abort so far. -/
def threeJobs : AbortWorld where
  now := 0
  run :=
    { id := 1, runType := "MANUAL", status := .running, runContext := [], resultSummary := [],
      queueReason := none, enqueuedAt := none, nextAdmissionAt := none,
      admissionAttemptId := none, admissionToken := none, precheckStartedAt := none,
      startedAt := some 0, endedAt := none, totalJobCount := 3, terminalJobCount := 0,
      completedJobCount := 0, failedJobCount := 0, abortedJobCount := 0,
      terminalEffectsState := none }
  jobs := [⟨11, some "h1", .running⟩, ⟨12, some "h1", .running⟩, ⟨13, some "h2", .running⟩]

/-- A request. -/
def abortCallFor (hostId : Option String) : AbortCall := ⟨hostId, "aborted_by_user", none, 60⟩

/-- No abort so far is in order. -/
theorem threeJobs_inOrder : threeJobs.InOrder := ⟨_, records_fresh rfl rfl⟩

/-- The theorem at work: two requests for a host, a minute apart, leave its clock. -/
theorem aborts_never_postpone_iff_host :
    let call := abortCallFor (some "h1")
    let first := threeJobs.abort call 0 [] false
    let second := first.abort call 60000000 [] false
    let tr := [(threeJobs, AbortOp.abort call 0 [] false), (first, .abort call 60000000 [] false)]
    (reached tr second).Pairwise NoLater := by
  intro call first second tr
  have hrun : Run AbortWorld.Step threeJobs tr second :=
    .cons ⟨le_refl 0, by decide, rfl⟩ (.cons ⟨by decide, by decide, rfl⟩ (.nil _))
  refine (aborts_never_postpone_iff threeJobs_inOrder hrun).mpr ?_
  rintro p hp
  rcases List.mem_cons.mp hp with rfl | hp
  · rintro - - - job hjob - t ht
    have hnone : ∀ job ∈ threeJobs.jobs, threeJobs.reapAt job = none := by decide
    rw [hnone job hjob] at ht
    cases ht
  · rw [List.mem_singleton.mp hp]
    rintro - hempty
    have hlisted : first.requestedJobIds = [11, 12] := by decide
    rw [hlisted] at hempty
    cases hempty

/-- **A repeated run-level request postpones reaping.** A minute after the first one, the same
request starts the clock of every running job over. -/
theorem repeated_abort_postpones :
    let call := abortCallFor none
    let first := threeJobs.abort call 0 [] false
    let second := first.abort call 60000000 [] false
    threeJobs.Step (.abort call 0 [] false) first ∧
      first.Step (.abort call 60000000 [] false) second ∧
      ¬ NoLater first second := by
  intro call first second
  refine ⟨⟨le_refl 0, by decide, rfl⟩, ⟨by decide, by decide, rfl⟩, fun hlater => ?_⟩
  obtain ⟨job', hjob', -, -, hle⟩ := hlater ⟨11, some "h1", .running⟩ (by decide)
  obtain ⟨t', ht', hle'⟩ := hle 0 (by decide)
  have hall : ∀ job ∈ second.jobs, second.reapAt job = some 60000000 := by decide
  rw [hall job' hjob'] at ht'
  obtain rfl := Option.some.inj ht'
  exact absurd hle' (by decide)

end StabilityPlatform
