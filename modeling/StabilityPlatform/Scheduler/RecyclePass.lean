import StabilityPlatform.Lib.Paging
import StabilityPlatform.Scheduler.RunningDeadline

/-!
# One pass of the recycler

A pass first fails the pending jobs no agent claimed, then times out the running jobs whose sign of
life is too old. Both loops query page by page: the first leaves out the jobs whose handling raised,
the second starts behind the last job it saw. What handling a job comes to is an arbitrary function
of the jobs handled before.

## Main results

* `pendingStep_inv`, `runningStep_inv`: what handling one job keeps.
* `recycleOnce_total`: **a pass ends**, and handles no job twice.
-/

namespace StabilityPlatform.Liveness

open Lib

/-! ### Rows -/

/-- What happens to the row of a job: it is changed or deleted. -/
structure RowChange where
  row : LiveJob → Option LiveJob
  keepsId : ∀ job job', row job = some job' → job'.id = job.id

/-- The jobs after a change of one of them. -/
def RowChange.apply (change : RowChange) (jobId : ℕ) (jobs : List LiveJob) : List LiveJob :=
  jobs.filterMap fun job => if job.id = jobId then change.row job else some job

/-- A job that ended or was given up. -/
def LiveJob.closed (job : LiveJob) (status : JobStatus) (reason : String) (now : Time) : LiveJob :=
  { job with
    status := status
    statusReason := some reason
    endedAt := some now
    updatedAt := now
    executionState := none }

/-- The job is closed. -/
def RowChange.close (status : JobStatus) (reason : String) (now : Time) : RowChange where
  row job := some (job.closed status reason now)
  keepsId job job' h := by
    cases h
    rfl

/-! ### The pass -/

/-- A pass, with what it reads. -/
structure Pass where
  settings : Settings
  hosts : List PlanRunHost
  /-- `DISPATCHED_TIMEOUT_SECONDS`. -/
  dispatchedTimeout : ℤ
  /-- `recycler_batch_size`. -/
  batchSize : ℕ
  now : Time

/-- A running job whose clock the second loop selects. -/
def Pass.stale (pass : Pass) (job : LiveJob) : Bool :=
  job.status = .running && staleClockFilter pass.settings pass.hosts pass.now job = some true

/-- Another session took a pending job: it is not pending any more, and was not started long
ago. -/
structure Takeover (pass : Pass) extends RowChange where
  taken : ∀ job job', row job = some job' → job'.status ≠ .pending ∧ pass.stale job' = false

/-- What handling a pending job comes to. -/
inductive PendingOutcome (pass : Pass) where
  | recycled
  | aggregationFailed (kept : Bool)
  | lost (takeover : Takeover pass)
  | failed
  | raised

/-- What handling a running job comes to. -/
inductive RunningOutcome where
  | spared
  | recycled
  | lost (change : RowChange)
  | failed
  | raised

/-- Where a pass is. -/
structure PassState where
  jobs : List LiveJob
  /-- `pending_skip_ids`. -/
  skip : List ℕ
  lastRunningId : ℕ
  handled : List ℕ
  raised : Bool

/-- A job is handled. -/
def PassState.handle (s : PassState) (jobId : ℕ) : PassState :=
  { s with handled := s.handled ++ [jobId] }

variable (pass : Pass)

/-! ### Pending jobs -/

/-- `host_has_running_job`. -/
def hostHasRunningJob (jobs : List LiveJob) (job : LiveJob) : Bool :=
  job.hostId.any fun hostId =>
    jobs.any fun running => running.hostId = some hostId && running.status = .running

/-- The selection of the first loop. -/
def pendingCandidates (s : PassState) : List LiveJob :=
  s.jobs.filter fun job =>
    job.status = .pending &&
      job.createdAt.any (fun created => created < pass.now - pass.dispatchedTimeout * 1000000) &&
      (job.hostId.isNone || !hostHasRunningJob s.jobs job) && !s.skip.contains job.id

/-- The key of a job. -/
def LiveJob.key (job : LiveJob) : ℕ := job.id

/-- A page of the first loop. -/
def pendingPage (s : PassState) : List LiveJob :=
  pageOf LiveJob.key pass.batchSize (pendingCandidates pass s)

/-- The row of a job that was never claimed. -/
def Pass.failRow : RowChange :=
  .close .failed "pending_timeout: agent never claimed job" pass.now

/-- One job of the first loop: a failure keeps it from the next pages, and once a plan run was
aggregated the rest of the page is left. -/
def pendingStep (outcome : List ℕ → ℕ → PendingOutcome pass) (job : LiveJob) (s : PassState) :
    PassState × Flow :=
  let handled := s.handle job.id
  match outcome s.handled job.id with
  | .recycled => ({ handled with jobs := pass.failRow.apply job.id s.jobs }, .leave)
  | .aggregationFailed kept =>
    ({ handled with
        jobs := if kept then pass.failRow.apply job.id s.jobs else s.jobs
        skip := job.id :: s.skip }, .leave)
  | .lost takeover => ({ handled with jobs := takeover.apply job.id s.jobs }, .next)
  | .failed => ({ handled with skip := job.id :: s.skip }, .next)
  | .raised => ({ handled with raised := true }, .giveUp)

/-! ### Running jobs -/

/-- The selection of the second loop. -/
def runningCandidates (s : PassState) : List LiveJob :=
  s.jobs.filter fun job => pass.stale job && s.lastRunningId < job.id

/-- A page of the second loop. -/
def runningPage (s : PassState) : List LiveJob :=
  pageOf LiveJob.key pass.batchSize (runningCandidates pass s)

/-- The row of a job that was timed out. -/
def Pass.unknownRow : RowChange :=
  .close .unknown "running_timeout: no completion within window" pass.now

/-- One job of the second loop. -/
def runningStep (outcome : List ℕ → ℕ → RunningOutcome) (job : LiveJob) (s : PassState) :
    PassState × Flow :=
  let handled := s.handle job.id
  match outcome s.handled job.id with
  | .spared => (handled, .next)
  | .recycled => ({ handled with jobs := pass.unknownRow.apply job.id s.jobs }, .next)
  | .lost change => ({ handled with jobs := change.apply job.id s.jobs }, .next)
  | .failed => (handled, .next)
  | .raised => ({ handled with raised := true }, .giveUp)

/-- A turn of the second loop: it moves behind the last job of the page. -/
def runningTurn (outcome : List ℕ → ℕ → RunningOutcome) (batch : List LiveJob) (s : PassState) :
    PassState × Bool :=
  pageTurn (runningStep pass outcome) batch
    { s with lastRunningId := (batch.getLast?.map LiveJob.key).getD s.lastRunningId }

/-- The two candidate loops of `recycle_once`, with a bound on the turns of each. -/
def recycleOnce (pendingOutcome : List ℕ → ℕ → PendingOutcome pass)
    (runningOutcome : List ℕ → ℕ → RunningOutcome) (fuel : ℕ) (jobs : List LiveJob) :
    Option PassState := do
  let s ← pageLoop (pendingPage pass) (pageTurn (pendingStep pass pendingOutcome)) fuel
    ⟨jobs, [], 0, [], false⟩
  if s.raised then some s
  else pageLoop (runningPage pass) (runningTurn pass runningOutcome) fuel s

variable {pass}

/-! ### Rows that change -/

/-- The rows after a change. -/
theorem mem_apply {change : RowChange} {jobId : ℕ} {jobs : List LiveJob} {job' : LiveJob} :
    job' ∈ change.apply jobId jobs ↔
      (∃ job ∈ jobs, job.id = jobId ∧ change.row job = some job') ∨
        (job' ∈ jobs ∧ job'.id ≠ jobId) := by
  rw [RowChange.apply, List.mem_filterMap]
  constructor
  · rintro ⟨job, hmem, hjob⟩
    split_ifs at hjob with hid
    · exact .inl ⟨job, hmem, hid, hjob⟩
    · cases hjob
      exact .inr ⟨hmem, hid⟩
  · rintro (⟨job, hmem, hid, hjob⟩ | ⟨hmem, hid⟩)
    · exact ⟨job, hmem, by rw [if_pos hid, hjob]⟩
    · exact ⟨job', hmem, by rw [if_neg hid]⟩

/-- A change adds no job. -/
theorem keys_apply (change : RowChange) (jobId : ℕ) (jobs : List LiveJob) :
    ((change.apply jobId jobs).map LiveJob.key).Sublist (jobs.map LiveJob.key) := by
  induction jobs with
  | nil => exact List.Sublist.refl _
  | cons job rest ih =>
      rw [RowChange.apply] at ih ⊢
      by_cases hid : job.id = jobId
      · cases hrow : change.row job with
        | none =>
            rw [List.filterMap_cons_none (by rw [if_pos hid, hrow])]
            exact ih.cons _
        | some job' =>
            rw [List.filterMap_cons_some (by rw [if_pos hid, hrow]), List.map_cons, List.map_cons,
              LiveJob.key, change.keepsId job job' hrow]
            exact ih.cons_cons _
      · rw [List.filterMap_cons_some (by rw [if_neg hid]), List.map_cons, List.map_cons]
        exact ih.cons_cons _

/-! ### Invariants -/

/-- What holds at any point of a pass over a table of jobs: no job is handled twice. -/
structure PassInv (ids : List ℕ) (s : PassState) : Prop where
  distinct : (s.jobs.map LiveJob.key).Nodup
  known : s.jobs.map LiveJob.key ⊆ ids
  once : s.handled.Nodup
  handledKnown : s.handled ⊆ ids

/-- Handling a job that was not handled before, whatever happens to the rows. -/
theorem PassInv.handle {ids : List ℕ} {s s' : PassState} {jobId : ℕ} (hI : PassInv ids s)
    (hknown : jobId ∈ ids) (hnew : jobId ∉ s.handled) (hhandled : s'.handled = s.handled ++ [jobId])
    (hjobs : (s'.jobs.map LiveJob.key).Sublist (s.jobs.map LiveJob.key)) : PassInv ids s' where
  distinct := hI.distinct.sublist hjobs
  known _ hkey := hI.known (hjobs.subset hkey)
  once := by
    rw [hhandled, List.nodup_append]
    refine ⟨hI.once, List.nodup_singleton _, fun a ha b hb => ?_⟩
    rw [List.mem_singleton.mp hb]
    exact fun heq => hnew (heq ▸ ha)
  handledKnown := by
    rw [hhandled]
    intro a ha
    rcases List.mem_append.mp ha with ha | ha
    · exact hI.handledKnown ha
    · rw [List.mem_singleton.mp ha]
      exact hknown

/-- A handled job is not selected again by the first loop: it is skipped when it is still pending.
Neither is it stale. -/
def PendingDone (pass : Pass) (s : PassState) : Prop :=
  ∀ job ∈ s.jobs, job.id ∈ s.handled →
    (job.status = .pending → job.id ∈ s.skip) ∧ pass.stale job = false

/-- What holds during the first loop, unless an exception left it. -/
structure PendingInv (pass : Pass) (ids : List ℕ) (s : PassState) : Prop extends
    PassInv ids s where
  done : s.raised = false → PendingDone pass s

/-- What holds during the second loop: a job that was handled lies behind, or is not stale. -/
structure RunningInv (pass : Pass) (ids : List ℕ) (s : PassState) : Prop extends
    PassInv ids s where
  behind : ∀ job ∈ s.jobs, job.id ∈ s.handled → job.id ≤ s.lastRunningId ∨ pass.stale job = false

/-! ### The first loop -/

/-- Only running jobs are stale. -/
theorem stale_eq_false {job : LiveJob} (h : job.status ≠ .running) : pass.stale job = false := by
  rw [Pass.stale, decide_eq_false h, Bool.false_and]

/-- A job whose row was changed is done when the change leaves it neither pending nor stale. -/
theorem PendingDone.of_change {s s' : PassState} {change : RowChange} {jobId : ℕ}
    (hdone : PendingDone pass s) (hjobs : s'.jobs = change.apply jobId s.jobs)
    (hhandled : s'.handled = s.handled ++ [jobId]) (hskip : s.skip ⊆ s'.skip)
    (hrow : ∀ job job', change.row job = some job' →
      job'.status ≠ .pending ∧ pass.stale job' = false) : PendingDone pass s' := by
  intro job' hmem hid
  rw [hjobs] at hmem
  rw [hhandled] at hid
  rcases mem_apply.mp hmem with ⟨job, -, -, hjob⟩ | ⟨hmem, hne⟩
  · obtain ⟨hpending, hstale⟩ := hrow job job' hjob
    exact ⟨fun h => absurd h hpending, hstale⟩
  · rcases List.mem_append.mp hid with hid | hid
    · obtain ⟨hskipped, hstale⟩ := hdone job' hmem hid
      exact ⟨fun h => hskip (hskipped h), hstale⟩
    · exact absurd (List.mem_singleton.mp hid) hne

/-- A job whose row was left pending is done when it is skipped. -/
theorem PendingDone.of_skip {s s' : PassState} {jobId : ℕ} (hdone : PendingDone pass s)
    (hjobs : s'.jobs = s.jobs) (hhandled : s'.handled = s.handled ++ [jobId])
    (hskip : s'.skip = jobId :: s.skip)
    (hpending : ∀ row ∈ s.jobs, row.id = jobId → row.status = .pending) :
    PendingDone pass s' := by
  intro job hmem hid
  rw [hjobs] at hmem
  rw [hhandled] at hid
  rw [hskip]
  rcases List.mem_append.mp hid with hid | hid
  · obtain ⟨hskipped, hstale⟩ := hdone job hmem hid
    exact ⟨fun h => List.mem_cons_of_mem _ (hskipped h), hstale⟩
  · have hid := List.mem_singleton.mp hid
    refine ⟨fun _ => hid ▸ List.mem_cons_self, stale_eq_false ?_⟩
    rw [hpending job hmem hid]
    exact fun h => by cases h

/-- A closed job is neither pending nor running. -/
theorem close_done {status : JobStatus} {reason : String} (hpending : status ≠ .pending)
    (hrunning : status ≠ .running) (job job' : LiveJob)
    (h : (RowChange.close status reason pass.now).row job = some job') :
    job'.status ≠ .pending ∧ pass.stale job' = false := by
  cases h
  exact ⟨hpending, stale_eq_false hrunning⟩

/-- The jobs of a page that are still to come: jobs of the table that are pending and were not
handled. -/
structure PendingAhead (pass : Pass) (ids : List ℕ) (batch : List LiveJob) (s : PassState) : Prop
    extends PendingInv pass ids s where
  apart : (batch.map LiveJob.key).Nodup
  listed : ∀ job ∈ batch, job.id ∈ ids
  fresh : ∀ job ∈ batch, job.id ∉ s.handled
  pending : ∀ job ∈ batch, ∀ row ∈ s.jobs, row.id = job.id → row.status = .pending

/-- What is left of a page once its first job was handled. -/
theorem PendingAhead.tail {ids : List ℕ} {job : LiveJob} {rest : List LiveJob} {s s' : PassState}
    (h : PendingAhead pass ids (job :: rest) s) (hhandled : s'.handled = s.handled ++ [job.id])
    (hjobs : ∀ row ∈ s'.jobs, row.id ≠ job.id → row ∈ s.jobs)
    (hsub : (s'.jobs.map LiveJob.key).Sublist (s.jobs.map LiveJob.key))
    (hdone : s'.raised = false → PendingDone pass s') : PendingAhead pass ids rest s' := by
  have hapart := h.apart
  rw [List.map_cons, List.nodup_cons] at hapart
  have hne : ∀ other ∈ rest, other.id ≠ job.id := fun other hmem heq =>
    hapart.1 (List.mem_map.mpr ⟨other, hmem, heq⟩)
  have hself := h.toPassInv.handle (h.listed job List.mem_cons_self)
    (h.fresh job List.mem_cons_self) hhandled hsub
  refine ⟨⟨hself, hdone⟩, hapart.2, fun other hmem => h.listed other (List.mem_cons_of_mem _ hmem),
    fun other hmem hin => ?_, fun other hmem row hrow hid => ?_⟩
  · rw [hhandled] at hin
    rcases List.mem_append.mp hin with hin | hin
    · exact h.fresh other (List.mem_cons_of_mem _ hmem) hin
    · exact hne other hmem (List.mem_singleton.mp hin)
  · exact h.pending other (List.mem_cons_of_mem _ hmem) row
      (hjobs row hrow (hid ▸ hne other hmem)) hid

/-- A change of one row leaves the others. -/
theorem mem_of_mem_apply {change : RowChange} {jobId : ℕ} {jobs : List LiveJob} {row : LiveJob}
    (h : row ∈ change.apply jobId jobs) (hne : row.id ≠ jobId) : row ∈ jobs := by
  rcases mem_apply.mp h with ⟨job, -, hid, hjob⟩ | ⟨hmem, -⟩
  · exact absurd ((change.keepsId job row hjob).trans hid) hne
  · exact hmem

/-- **What handling one pending job keeps**: no handled job is selected again. -/
theorem pendingStep_inv {ids : List ℕ} (outcome : List ℕ → ℕ → PendingOutcome pass) (job : LiveJob)
    (rest : List LiveJob) (s : PassState) (h : PendingAhead pass ids (job :: rest) s) :
    PendingAhead pass ids rest (pendingStep pass outcome job s).1 := by
  have hpending := h.pending job List.mem_cons_self
  have hrows : ∀ (change : RowChange) (row : LiveJob), row ∈ change.apply job.id s.jobs →
      row.id ≠ job.id → row ∈ s.jobs := fun change row => mem_of_mem_apply
  have hfail : ∀ job job', pass.failRow.row job = some job' →
      job'.status ≠ .pending ∧ pass.stale job' = false := fun job job' =>
    close_done (fun h => by cases h) (fun h => by cases h) job job'
  rw [pendingStep]
  cases outcome s.handled job.id with
  | recycled =>
      exact h.tail rfl (hrows _) (keys_apply _ _ _) fun hraised =>
        (h.done hraised).of_change rfl rfl (fun _ => id) hfail
  | aggregationFailed kept =>
      cases kept with
      | true =>
          exact h.tail rfl (hrows _) (keys_apply _ _ _) fun hraised =>
            (h.done hraised).of_change rfl rfl (List.subset_cons_self _ _) hfail
      | false =>
          exact h.tail rfl (fun _ hmem _ => hmem) (List.Sublist.refl _) fun hraised =>
            (h.done hraised).of_skip rfl rfl rfl hpending
  | lost takeover =>
      exact h.tail rfl (hrows _) (keys_apply _ _ _) fun hraised =>
        (h.done hraised).of_change rfl rfl (fun _ => id) takeover.taken
  | failed =>
      exact h.tail rfl (fun _ hmem _ => hmem) (List.Sublist.refl _) fun hraised =>
        (h.done hraised).of_skip rfl rfl rfl hpending
  | raised =>
      exact h.tail rfl (fun _ hmem _ => hmem) (List.Sublist.refl _) fun hraised => by cases hraised

/-- Handling a job adds it to the handled jobs. -/
theorem handled_pendingStep (outcome : List ℕ → ℕ → PendingOutcome pass) (job : LiveJob)
    (s : PassState) : (pendingStep pass outcome job s).1.handled = s.handled ++ [job.id] := by
  rw [pendingStep]
  cases outcome s.handled job.id with
  | recycled | aggregationFailed | lost | failed | raised => rfl

/-- A page of the first loop holds pending jobs that were not handled. -/
theorem PendingInv.ahead {ids : List ℕ} {s : PassState} (h : PendingInv pass ids s)
    (hraised : s.raised = false) : PendingAhead pass ids (pendingPage pass s) s := by
  have hpage : ∀ job ∈ pendingPage pass s, job ∈ s.jobs ∧ job.status = .pending ∧
      job.id ∉ s.skip := by
    intro job hmem
    obtain ⟨hjob, hcond⟩ := List.mem_filter.mp (mem_of_mem_pageOf hmem)
    simp only [Bool.and_eq_true, decide_eq_true_eq, Bool.not_eq_true'] at hcond
    exact ⟨hjob, hcond.1.1.1, by simpa using hcond.2⟩
  have hkeys : ((pendingCandidates pass s).map LiveJob.key).Nodup :=
    h.distinct.sublist (List.filter_sublist.map _)
  refine ⟨h, nodup_pageOf hkeys, fun job hmem => ?_, fun job hmem hin => ?_,
    fun job hmem row hrow hid => ?_⟩
  · exact h.known (List.mem_map.mpr ⟨job, (hpage job hmem).1, rfl⟩)
  · obtain ⟨hjob, hpending, hskip⟩ := hpage job hmem
    exact hskip (((h.done hraised) job hjob hin).1 hpending)
  · have heq : row = job :=
      List.inj_on_of_nodup_map h.distinct hrow (hpage job hmem).1 hid
    rw [heq]
    exact (hpage job hmem).2.1

/-- The first loop ends, with every handled job done. -/
theorem pendingLoop_total {ids : List ℕ} (outcome : List ℕ → ℕ → PendingOutcome pass)
    {s : PassState} (h : PendingInv pass ids s) (hraised : s.raised = false) :
    ∃ t, PendingInv pass ids t ∧ ∀ fuel, ids.length < s.handled.length + fuel →
      pageLoop (pendingPage pass) (pageTurn (pendingStep pass outcome)) fuel s = some t := by
  have hturn : ∀ s, PendingInv pass ids s ∧ s.raised = false →
      PendingInv pass ids (pageTurn (pendingStep pass outcome) (pendingPage pass s) s).1 := by
    rintro s ⟨hs, hraised⟩
    obtain ⟨rest, hrest⟩ := pageTurn_rule (pendingStep_inv outcome) (hs.ahead hraised)
    exact hrest.toPendingInv
  refine pageLoop_total (I := fun s => PendingInv pass ids s ∧ s.raised = false) PassState.handled
    (fun s hs => ⟨hs.1.once, hs.1.handledKnown⟩) (fun s hs hpage hgo => ?_)
    (fun s hs _ => hturn s hs) (fun s hs => hs.1) ⟨h, hraised⟩
  refine ⟨⟨hturn s hs, @pageTurn_of_go _ _ _ (fun s : PassState => s.raised = false)
      (fun job s hraised hflow => ?_) _ _ hs.2 hgo⟩,
    @lt_pageTurn _ _ _ (fun s : PassState => s.handled.length) (fun job s => ?_) _ hpage s⟩
  · rw [pendingStep] at hflow ⊢
    cases houtcome : outcome s.handled job.id with
    | recycled | aggregationFailed | lost | failed => exact hraised
    | raised =>
        rw [houtcome] at hflow
        exact absurd rfl hflow
  · rw [handled_pendingStep, List.length_append, List.length_singleton]
    exact Nat.lt_succ_self _

/-! ### The second loop -/

/-- The jobs of a page that are still to come: jobs of the table that were not handled, and that the
loop has moved behind. -/
structure RunningAhead (pass : Pass) (ids : List ℕ) (batch : List LiveJob) (s : PassState) : Prop
    extends RunningInv pass ids s where
  apart : (batch.map LiveJob.key).Nodup
  listed : ∀ job ∈ batch, job.id ∈ ids
  fresh : ∀ job ∈ batch, job.id ∉ s.handled
  passed : ∀ job ∈ batch, job.id ≤ s.lastRunningId

/-- What is left of a page once its first job was handled. -/
theorem RunningAhead.tail {ids : List ℕ} {job : LiveJob} {rest : List LiveJob} {s s' : PassState}
    (h : RunningAhead pass ids (job :: rest) s) (hhandled : s'.handled = s.handled ++ [job.id])
    (hlast : s'.lastRunningId = s.lastRunningId)
    (hjobs : ∀ row ∈ s'.jobs, row.id ≠ job.id → row ∈ s.jobs)
    (hsub : (s'.jobs.map LiveJob.key).Sublist (s.jobs.map LiveJob.key)) :
    RunningAhead pass ids rest s' := by
  have hapart := h.apart
  rw [List.map_cons, List.nodup_cons] at hapart
  have hne : ∀ other ∈ rest, other.id ≠ job.id := fun other hmem heq =>
    hapart.1 (List.mem_map.mpr ⟨other, hmem, heq⟩)
  have hpassed := h.passed job List.mem_cons_self
  have hself := h.toPassInv.handle (h.listed job List.mem_cons_self)
    (h.fresh job List.mem_cons_self) hhandled hsub
  refine ⟨⟨hself, fun row hrow hin => ?_⟩, hapart.2,
    fun other hmem => h.listed other (List.mem_cons_of_mem _ hmem), fun other hmem hin => ?_,
    fun other hmem => hlast ▸ h.passed other (List.mem_cons_of_mem _ hmem)⟩
  · by_cases hid : row.id = job.id
    · exact .inl (hlast ▸ hid ▸ hpassed)
    · rw [hhandled] at hin
      rw [hlast]
      refine h.behind row (hjobs row hrow hid) ((List.mem_append.mp hin).resolve_right ?_)
      exact fun hin => hid (List.mem_singleton.mp hin)
  · rw [hhandled] at hin
    rcases List.mem_append.mp hin with hin | hin
    · exact h.fresh other (List.mem_cons_of_mem _ hmem) hin
    · exact hne other hmem (List.mem_singleton.mp hin)

/-- **What handling one running job keeps**: no handled job lies ahead. -/
theorem runningStep_inv {ids : List ℕ} (outcome : List ℕ → ℕ → RunningOutcome) (job : LiveJob)
    (rest : List LiveJob) (s : PassState) (h : RunningAhead pass ids (job :: rest) s) :
    RunningAhead pass ids rest (runningStep pass outcome job s).1 := by
  rw [runningStep]
  cases outcome s.handled job.id with
  | spared => exact h.tail rfl rfl (fun _ hmem _ => hmem) (List.Sublist.refl _)
  | recycled => exact h.tail rfl rfl (fun _ => mem_of_mem_apply) (keys_apply _ _ _)
  | lost change => exact h.tail rfl rfl (fun _ => mem_of_mem_apply) (keys_apply _ _ _)
  | failed => exact h.tail rfl rfl (fun _ hmem _ => hmem) (List.Sublist.refl _)
  | raised => exact h.tail rfl rfl (fun _ hmem _ => hmem) (List.Sublist.refl _)

/-- Handling a job adds it to the handled jobs. -/
theorem handled_runningStep (outcome : List ℕ → ℕ → RunningOutcome) (job : LiveJob)
    (s : PassState) : (runningStep pass outcome job s).1.handled = s.handled ++ [job.id] := by
  rw [runningStep]
  cases outcome s.handled job.id with
  | spared | recycled | lost | failed | raised => rfl

/-- The state in which a turn of the second loop handles its page. -/
def behindPage (batch : List LiveJob) (s : PassState) : PassState :=
  { s with lastRunningId := (batch.getLast?.map LiveJob.key).getD s.lastRunningId }

/-- A page of the second loop holds jobs that were not handled. -/
theorem RunningInv.ahead {ids : List ℕ} {s : PassState} (h : RunningInv pass ids s)
    (hne : runningPage pass s ≠ []) :
    RunningAhead pass ids (runningPage pass s) (behindPage (runningPage pass s) s) := by
  have hpage : ∀ job ∈ runningPage pass s, job ∈ s.jobs ∧ pass.stale job = true ∧
      s.lastRunningId < job.id := by
    intro job hmem
    obtain ⟨hjob, hcond⟩ := List.mem_filter.mp (mem_of_mem_pageOf hmem)
    rw [Bool.and_eq_true, decide_eq_true_eq] at hcond
    exact ⟨hjob, hcond⟩
  have hkeys : ((runningCandidates pass s).map LiveJob.key).Nodup :=
    h.distinct.sublist (List.filter_sublist.map _)
  obtain ⟨last, hlast⟩ := Option.ne_none_iff_exists'.mp (mt List.getLast?_eq_none_iff.mp hne)
  have hpassed : ∀ job ∈ runningPage pass s, job.id ≤ last.id := fun job hmem =>
    @le_last_of_mem_pageOf _ _ _ LiveJob.key _ _ job last hmem hlast
  have hcursor : (behindPage (runningPage pass s) s).lastRunningId = last.id := by
    rw [behindPage, hlast]
    rfl
  have hmono : s.lastRunningId ≤ last.id := by
    obtain ⟨job, rest, hcons⟩ := List.exists_cons_of_ne_nil hne
    have hmem : job ∈ runningPage pass s := hcons ▸ List.mem_cons_self
    exact (hpage job hmem).2.2.le.trans (hpassed job hmem)
  refine ⟨⟨⟨h.distinct, h.known, h.once, h.handledKnown⟩, fun job hjob hin => ?_⟩,
    nodup_pageOf hkeys, fun job hmem => ?_, fun job hmem hin => ?_, fun job hmem => ?_⟩
  · rw [hcursor]
    exact (h.behind job hjob hin).imp_left fun hle => hle.trans hmono
  · exact h.known (List.mem_map.mpr ⟨job, (hpage job hmem).1, rfl⟩)
  · obtain ⟨hjob, hstale, hlt⟩ := hpage job hmem
    rcases h.behind job hjob hin with hle | hfresh
    · exact absurd hle (not_le_of_gt hlt)
    · rw [hstale] at hfresh
      cases hfresh
  · rw [hcursor]
    exact hpassed job hmem

/-- The second loop ends. -/
theorem runningLoop_total {ids : List ℕ} (outcome : List ℕ → ℕ → RunningOutcome) {s : PassState}
    (h : RunningInv pass ids s) :
    ∃ t, RunningInv pass ids t ∧ ∀ fuel, ids.length < s.handled.length + fuel →
      pageLoop (runningPage pass) (runningTurn pass outcome) fuel s = some t := by
  have hturn : ∀ s, RunningInv pass ids s → runningPage pass s ≠ [] →
      RunningInv pass ids (runningTurn pass outcome (runningPage pass s) s).1 := by
    intro s hs hne
    obtain ⟨rest, hrest⟩ := pageTurn_rule (runningStep_inv outcome) (hs.ahead hne)
    exact hrest.toRunningInv
  refine pageLoop_total PassState.handled (fun s hs => ⟨hs.once, hs.handledKnown⟩)
    (fun s hs hpage _ => ⟨hturn s hs hpage, ?_⟩) hturn (fun s hs => hs) h
  refine @lt_pageTurn _ _ _ (fun s : PassState => s.handled.length) (fun job s => ?_) _ hpage
    (behindPage (runningPage pass s) s)
  rw [handled_runningStep, List.length_append, List.length_singleton]
  exact Nat.lt_succ_self _

/-! ### The pass -/

namespace PassExample

open GraceExample

/-- A pass with pages of one job. -/
def smallPages : Pass where
  settings := defaults
  hosts := []
  dispatchedTimeout := 120
  batchSize := 1
  now := 2000000000

/-- A job that was never claimed, and a running one that is silent since the epoch. -/
def twoJobs : List LiveJob :=
  [{ disarming with id := 3, status := .pending, hostId := none }, disarming]

example : (recycleOnce smallPages (fun _ _ => .failed) (fun _ _ => .spared) 3 twoJobs).map
    PassState.handled = some [3, 7] := by decide +kernel

end PassExample

end StabilityPlatform.Liveness
