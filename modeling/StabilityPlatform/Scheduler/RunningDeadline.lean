import StabilityPlatform.Lib.SqlLogic
import StabilityPlatform.Scheduler.Liveness

/-!
# The recycler and the projected deadline

The recycler takes running jobs whose sign of life is too old, spares those that are protected, and
marks the others with a compare-and-set. The projection of a device shows the deadline by which it
would do so. The clock of both is read at one moment, beside the time the pass is made for.

## Main results

* `recycles_iff`: when the recycler times a job out.
* `deadline_lt_iff`: when the projected deadline has passed.
* `verdict_iff_deadline_iff`: **when the two agree**.
-/

namespace StabilityPlatform.Liveness

open Lib

/-- What a host reports of a plan run. -/
structure PlanRunHost where
  planRunId : ℕ
  hostId : String
  coordinatorHeartbeatAt : Option Time
  named : hostId ≠ ""

/-- The states in which a job waits. -/
def waitingExecutionStates : List String :=
  ["WAITING_EXECUTION_SLOT", "PATROL_SLEEP", "WAITING_BARRIER"]

/-- The states in which a job executes. -/
def executingStates : List String := ["EXECUTING_STEP", executingDisarm]

/-- The states the recycler knows. -/
def knownExecutionStates : List String := waitingExecutionStates ++ executingStates

/-- The heartbeat of a coordinator; a host has one row for a plan run. -/
def coordinatorHeartbeatOf (hosts : List PlanRunHost) (planRunId : ℕ) (hostId : String) :
    Option Time :=
  (hosts.find? fun h => h.planRunId = planRunId && h.hostId = hostId).bind
    PlanRunHost.coordinatorHeartbeatAt

/-- `_not_reported_anchor`: when the job was dispatched. -/
def notReportedAnchor (job : LiveJob) : Option Time := job.startedAt.or job.createdAt

/-! ### The recycler -/

/-- The heartbeat the statements join: that of the job's host. -/
def joinedHeartbeat (hosts : List PlanRunHost) (job : LiveJob) : Option Time :=
  job.hostId.bind (coordinatorHeartbeatOf hosts job.planRunId)

/-- `_coordinator_heartbeats`: what is prefetched for a job, which needs the name of a host. -/
def prefetchedHeartbeat (hosts : List PlanRunHost) (job : LiveJob) : Option Time :=
  if job.hostId.any (· ≠ "") then joinedHeartbeat hosts job else none

/-- `a < b`. -/
def sqlBefore (a : Option Time) (b : Time) : SqlBool :=
  sqlCompare (fun a b => decide (a < b)) a (some b)

/-- `stale_clock_filter`. -/
def staleClockFilter (settings : Settings) (hosts : List PlanRunHost) (now : Time)
    (job : LiveJob) : SqlBool :=
  let minRunningTimeout :=
    min settings.runningHeartbeatTimeout settings.patrolRunningHeartbeatTimeout
  let runningPrefetchDeadline := now - minRunningTimeout * 1000000
  let coordinatorPrefetchDeadline := now - settings.coordinatorHeartbeatTimeout * 1000000
  (sqlIsNotNull job.disarmGuard).or
    ((((sqlIsNull job.executionState).or (sqlNotIn job.executionState knownExecutionStates)).and
      (sqlBefore (notReportedAnchor job) runningPrefetchDeadline)).or
    (((sqlIn job.executionState executingStates).and
      (sqlBefore (job.lastExecutionHeartbeatAt.or (notReportedAnchor job))
        runningPrefetchDeadline)).or
    ((sqlIn job.executionState waitingExecutionStates).and
      (sqlBefore ((joinedHeartbeat hosts job).or (notReportedAnchor job))
        coordinatorPrefetchDeadline))))

/-- `_running_liveness_anchor`. -/
def runningLivenessAnchor (settings : Settings) (hosts : List PlanRunHost) (job : LiveJob) :
    Except PyError (Option Time × ℤ) := do
  let gradedTimeout ← runningHeartbeatTimeoutSeconds settings job
  .ok (if job.executionState.any (· ∈ executingStates) then
      (job.lastExecutionHeartbeatAt.or (notReportedAnchor job), gradedTimeout)
    else if job.executionState.any (· ∈ waitingExecutionStates) then
      ((prefetchedHeartbeat hosts job).or (notReportedAnchor job),
        settings.coordinatorHeartbeatTimeout)
    else (notReportedAnchor job, gradedTimeout))

/-- The context of the plan run of a job. -/
def runContextOf (db : Db) (job : LiveJob) : PyVal :=
  ((db.planRuns.get? job.planRunId).map PlanRun.runContext).getD .null

/-- `_final_disarm_grace_blocks_write`, of a job that is still running. -/
def finalDisarmGraceBlocksWrite (settings : Settings) (db : Db) (now : Time) (job : LiveJob) :
    Except PyError Bool :=
  if job.disarmGuard.isSome then (jobGuardDeadline settings db now job).map Option.isSome
  else .ok (disarmGraceProtects settings (runContextOf db job) now job)

/-- The conditions of the compare-and-set that marks a job, as `_mark_running_timeout` puts them
together. -/
def markConditions (hosts : List PlanRunHost) (job : LiveJob) (deadline : Time) : SqlBool :=
  if job.executionState.any (· ∈ executingStates) then
    (sqlIn job.executionState executingStates).and
      ((sqlIsNull job.lastExecutionHeartbeatAt).or
        (sqlCompare (fun a b => decide (a ≤ b)) job.lastExecutionHeartbeatAt (some deadline)))
  else if job.executionState.any (· ∈ waitingExecutionStates) then
    ((sqlIsNull (joinedHeartbeat hosts job)).or
        (some ((joinedHeartbeat hosts job).any fun a => decide (a ≤ deadline)))).and
      (sqlIn job.executionState waitingExecutionStates)
  else (sqlIsNull job.executionState).or (sqlNotIn job.executionState knownExecutionStates)

/-- The verdict on a job that nothing protects. -/
def unprotectedVerdict (settings : Settings) (hosts : List PlanRunHost) (now : Time)
    (job : LiveJob) : Except PyError Bool := do
  let (anchor, timeout) ← runningLivenessAnchor settings hosts job
  let jobDeadline := now - timeout * 1000000
  .ok (anchor.any (fun anchor => anchor < jobDeadline) &&
    decide (markConditions hosts job jobDeadline = some true))

/-- What a pass of `recycle_once` at `now` makes of a job: whether it times it out. The final
checks are made at `wall` when that is later. -/
def recycleVerdict (settings : Settings) (db : Db) (hosts : List PlanRunHost) (now wall : Time)
    (job : LiveJob) : Except PyError Bool :=
  if job.status ≠ .running ∨ staleClockFilter settings hosts now job ≠ some true then .ok false
  else if disarmGraceProtects settings (runContextOf db job) now job then .ok false
  else do
    let blocked ← finalDisarmGraceBlocksWrite settings db (max now wall) job
    if blocked then .ok false else unprotectedVerdict settings hosts now job

/-! ### The projection -/

/-- The deadline of the clock of a job. -/
def clockDeadline (settings : Settings) (hosts : List PlanRunHost) (job : LiveJob) :
    Except PyError (Option Time) := do
  let gradedTimeout ← runningHeartbeatTimeoutSeconds settings job
  .ok (if job.executionState.any (· ∈ executingStates) then
      (job.lastExecutionHeartbeatAt.or (notReportedAnchor job)).map
        fun hb => hb.addSeconds gradedTimeout
    else if job.executionState.any (· ∈ waitingExecutionStates) then
      ((joinedHeartbeat hosts job).or (notReportedAnchor job)).map
        fun hb => hb.addSeconds settings.coordinatorHeartbeatTimeout
    else (notReportedAnchor job).map fun hb => hb.addSeconds gradedTimeout)

/-- `running_heartbeat_deadline`. -/
def runningHeartbeatDeadline (settings : Settings) (db : Db) (hosts : List PlanRunHost)
    (now wall : Time) (job : LiveJob) : Except PyError (Option Time) :=
  if job.status ≠ .running then .ok none
  else do
    let protectedUntil ← jobGuardDeadline settings db (max now wall) job
    if protectedUntil.isSome then .ok protectedUntil else clockDeadline settings hosts job

/-! ### Clocks -/

variable {settings : Settings} {db : Db} {hosts : List PlanRunHost} {now wall : Time}
  {job : LiveJob}

/-- The heartbeat that is prefetched is the one the statements join. -/
theorem prefetchedHeartbeat_eq : prefetchedHeartbeat hosts job = joinedHeartbeat hosts job := by
  rw [prefetchedHeartbeat]
  split_ifs with hnamed
  · rfl
  · rw [joinedHeartbeat]
    cases hhost : job.hostId with
    | none => rfl
    | some hostId =>
        have hempty : hostId = "" := by simpa [hhost] using hnamed
        have hnone : hosts.find? (fun h => h.planRunId = job.planRunId && h.hostId = hostId) =
            none := by
          rw [List.find?_eq_none]
          intro h _ hmatch
          rw [Bool.and_eq_true, decide_eq_true_eq, decide_eq_true_eq] at hmatch
          exact h.named (hmatch.2.trans hempty)
        rw [Option.bind_some, coordinatorHeartbeatOf, hnone]
        rfl

/-- The sign of life of a job is too old. -/
def Expired (settings : Settings) (hosts : List PlanRunHost) (now : Time) (job : LiveJob) : Prop :=
  ∃ anchor timeout, runningLivenessAnchor settings hosts job = .ok (some anchor, timeout) ∧
    anchor < now - timeout * 1000000

/-- The projection measures the clock of the recycler. -/
theorem clockDeadline_eq : clockDeadline settings hosts job =
    (runningLivenessAnchor settings hosts job).map fun p => p.1.map fun hb => hb.addSeconds p.2 := by
  rw [clockDeadline, runningLivenessAnchor, prefetchedHeartbeat_eq]
  cases runningHeartbeatTimeoutSeconds settings job with
  | error e => rfl
  | ok graded =>
      show Except.ok _ = Except.ok _
      split_ifs
      · rfl
      · rfl
      · rfl

/-- The projected deadline of the clock has passed when the sign of life is too old. -/
theorem clockDeadline_lt_iff :
    (∃ d, clockDeadline settings hosts job = .ok (some d) ∧ d < now) ↔
      Expired settings hosts now job := by
  rw [clockDeadline_eq]
  constructor
  · rintro ⟨d, hd, hlt⟩
    cases hanchor : runningLivenessAnchor settings hosts job with
    | error e =>
        rw [hanchor] at hd
        cases hd
    | ok p =>
        rw [hanchor] at hd
        obtain ⟨hb, hhb, hd⟩ := Option.map_eq_some_iff.mp (Except.ok.inj hd)
        rw [← hd, Time.addSeconds] at hlt
        exact ⟨hb, p.2, by rw [hanchor, ← hhb], lt_sub_iff_add_lt.mpr hlt⟩
  · rintro ⟨anchor, timeout, hanchor, hlt⟩
    refine ⟨anchor.addSeconds timeout, by rw [hanchor]; rfl, ?_⟩
    exact lt_sub_iff_add_lt.mp hlt

/-! ### Candidates -/

/-- The three kinds of states, with the clock each goes by. -/
theorem runningLivenessAnchor_cases {anchor : Option Time} {timeout : ℤ}
    (h : runningLivenessAnchor settings hosts job = .ok (anchor, timeout)) :
    (∃ state ∈ executingStates, job.executionState = some state ∧
        anchor = job.lastExecutionHeartbeatAt.or (notReportedAnchor job) ∧
        runningHeartbeatTimeoutSeconds settings job = .ok timeout) ∨
      (∃ state ∈ waitingExecutionStates, job.executionState = some state ∧
        ¬ job.executionState.any (· ∈ executingStates) = true ∧
        anchor = (joinedHeartbeat hosts job).or (notReportedAnchor job) ∧
        timeout = settings.coordinatorHeartbeatTimeout) ∨
      ((∀ state, job.executionState = some state → state ∉ knownExecutionStates) ∧
        ¬ job.executionState.any (· ∈ executingStates) = true ∧
        ¬ job.executionState.any (· ∈ waitingExecutionStates) = true ∧
        anchor = notReportedAnchor job ∧
        runningHeartbeatTimeoutSeconds settings job = .ok timeout) := by
  rw [runningLivenessAnchor, prefetchedHeartbeat_eq] at h
  obtain ⟨graded, hgraded, h⟩ := Except.bind_eq_ok_iff.mp h
  have h := Except.ok.inj h
  split_ifs at h with hexecuting hwaiting
  · obtain ⟨state, hstate, hmem⟩ := (Option.any_eq_true _ _).mp hexecuting
    have hmem := of_decide_eq_true hmem
    cases h
    exact .inl ⟨state, hmem, hstate, rfl, hgraded⟩
  · obtain ⟨state, hstate, hmem⟩ := (Option.any_eq_true _ _).mp hwaiting
    have hmem := of_decide_eq_true hmem
    cases h
    exact .inr (.inl ⟨state, hmem, hstate, hexecuting, rfl, rfl⟩)
  · cases h
    refine .inr (.inr ⟨fun state hstate hmem => ?_, hexecuting, hwaiting, rfl, hgraded⟩)
    rw [hstate] at hexecuting hwaiting
    rcases List.mem_append.mp hmem with hmem | hmem
    · exact hwaiting (by simpa using hmem)
    · exact hexecuting (by simpa using hmem)

/-- A moment before another one, in a statement. -/
theorem sqlBefore_some {a b : Time} (h : a < b) : sqlBefore (some a) b = some true :=
  sqlCompare_eq_true_iff.mpr ⟨a, b, rfl, rfl, decide_eq_true h⟩

/-- A job whose sign of life is too old is a candidate. -/
theorem staleClockFilter_of_expired (h : Expired settings hosts now job) :
    staleClockFilter settings hosts now job = some true := by
  obtain ⟨anchor, timeout, hanchor, hlt⟩ := h
  have hmin : ∀ {window}, runningHeartbeatTimeoutSeconds settings job = .ok window →
      anchor < now - window * 1000000 →
      anchor < now - min settings.runningHeartbeatTimeout settings.patrolRunningHeartbeatTimeout *
        1000000 := by
    intro window hwindow hlt
    have hle := le_runningHeartbeatTimeoutSeconds hwindow
    refine hlt.trans_le (sub_le_sub_left ?_ now)
    exact mul_le_mul_of_nonneg_right hle (by norm_num)
  rw [staleClockFilter]
  refine SqlBool.or_eq_true_iff.mpr (.inr ?_)
  rcases runningLivenessAnchor_cases hanchor with ⟨state, hmem, hstate, ha, hwindow⟩ |
    ⟨state, hmem, hstate, -, ha, htimeout⟩ | ⟨hunknown, -, -, ha, hwindow⟩
  · refine SqlBool.or_eq_true_iff.mpr (.inr (SqlBool.or_eq_true_iff.mpr (.inl ?_)))
    rw [SqlBool.and_eq_true_iff, sqlIn_eq_true_iff, ← ha]
    exact ⟨⟨state, hstate, hmem⟩, sqlBefore_some (hmin hwindow hlt)⟩
  · refine SqlBool.or_eq_true_iff.mpr (.inr (SqlBool.or_eq_true_iff.mpr (.inr ?_)))
    rw [SqlBool.and_eq_true_iff, sqlIn_eq_true_iff, ← ha]
    exact ⟨⟨state, hstate, hmem⟩, sqlBefore_some (htimeout ▸ hlt)⟩
  · refine SqlBool.or_eq_true_iff.mpr (.inl ?_)
    rw [SqlBool.and_eq_true_iff, SqlBool.or_eq_true_iff, sqlIsNull_eq_true_iff,
      sqlNotIn_eq_true_iff, ← ha]
    refine ⟨?_, sqlBefore_some (hmin hwindow hlt)⟩
    cases hstate : job.executionState with
    | none => exact .inl rfl
    | some state => exact .inr ⟨state, rfl, hunknown state hstate⟩

/-- The compare-and-set goes through when the sign of life of a job is too old. -/
theorem markConditions_of_expired {anchor : Time} {timeout : ℤ}
    (hanchor : runningLivenessAnchor settings hosts job = .ok (some anchor, timeout))
    (hlt : anchor < now - timeout * 1000000) :
    markConditions hosts job (now - timeout * 1000000) = some true := by
  rw [markConditions]
  rcases runningLivenessAnchor_cases hanchor with ⟨state, hmem, hstate, ha, -⟩ |
    ⟨state, hmem, hstate, hexecuting, ha, -⟩ | ⟨hunknown, hexecuting, hwaiting, -, -⟩
  · rw [if_pos (by rw [hstate]; exact decide_eq_true hmem), SqlBool.and_eq_true_iff,
      SqlBool.or_eq_true_iff, sqlIn_eq_true_iff, sqlIsNull_eq_true_iff]
    refine ⟨⟨state, hstate, hmem⟩, ?_⟩
    cases hbeat : job.lastExecutionHeartbeatAt with
    | none => exact .inl rfl
    | some beat =>
        rw [hbeat, Option.some_or, Option.some.injEq] at ha
        exact .inr (sqlCompare_eq_true_iff.mpr ⟨beat, _, rfl, rfl, decide_eq_true (ha ▸ hlt.le)⟩)
  · rw [if_neg hexecuting, if_pos (by rw [hstate]; exact decide_eq_true hmem),
      SqlBool.and_eq_true_iff, SqlBool.or_eq_true_iff, sqlIn_eq_true_iff, sqlIsNull_eq_true_iff]
    refine ⟨?_, ⟨state, hstate, hmem⟩⟩
    cases hbeat : joinedHeartbeat hosts job with
    | none => exact .inl rfl
    | some beat =>
        rw [hbeat, Option.some_or, Option.some.injEq] at ha
        exact .inr (congrArg some (decide_eq_true (ha ▸ hlt.le)))
  · rw [if_neg hexecuting, if_neg hwaiting, SqlBool.or_eq_true_iff, sqlIsNull_eq_true_iff,
      sqlNotIn_eq_true_iff]
    cases hstate : job.executionState with
    | none => exact .inl rfl
    | some state => exact .inr ⟨state, rfl, hunknown state hstate⟩

/-- A job that nothing protects is timed out when its sign of life is too old. -/
theorem unprotectedVerdict_iff :
    unprotectedVerdict settings hosts now job = .ok true ↔ Expired settings hosts now job := by
  rw [unprotectedVerdict]
  constructor
  · intro h
    obtain ⟨p, hp, h⟩ := Except.bind_eq_ok_iff.mp h
    have h := Except.ok.inj h
    rw [Bool.and_eq_true] at h
    obtain ⟨anchor, hanchor, hlt⟩ := (Option.any_eq_true _ _).mp h.1
    exact ⟨anchor, p.2, by rw [hp, ← hanchor], of_decide_eq_true hlt⟩
  · rintro ⟨anchor, timeout, hanchor, hlt⟩
    rw [hanchor]
    refine congrArg Except.ok ?_
    rw [Bool.and_eq_true]
    exact ⟨decide_eq_true hlt, decide_eq_true (markConditions_of_expired hanchor hlt)⟩

/-! ### Agreement -/

/-- The abort grace of a job that disarms without a guard is over by the time its executor has been
silent for its window. -/
def GraceWithinWindow (settings : Settings) (db : Db) (now wall : Time) (job : LiveJob) : Prop :=
  disarmGraceProtects settings (runContextOf db job) now job = true ∨
      disarmGraceProtects settings (runContextOf db job) (max now wall) job = true →
    ∀ anchor window, job.lastExecutionHeartbeatAt.or (notReportedAnchor job) = some anchor →
      runningHeartbeatTimeoutSeconds settings job = .ok window →
      now ≤ anchor.addSeconds window

/-- The clock of a job that disarms is that of its executor. -/
theorem expired_iff_of_disarming (hstate : job.executionState = some executingDisarm) :
    Expired settings hosts now job ↔ ∃ anchor window,
      job.lastExecutionHeartbeatAt.or (notReportedAnchor job) = some anchor ∧
      runningHeartbeatTimeoutSeconds settings job = .ok window ∧
      anchor.addSeconds window < now := by
  have hexecuting : job.executionState.any (· ∈ executingStates) = true := by
    rw [hstate]
    rfl
  constructor
  · rintro ⟨anchor, timeout, hanchor, hlt⟩
    rcases runningLivenessAnchor_cases hanchor with ⟨-, -, -, ha, hwindow⟩ |
      ⟨-, -, -, hnot, -⟩ | ⟨-, hnot, -⟩
    · exact ⟨anchor, timeout, ha.symm, hwindow, lt_sub_iff_add_lt.mp hlt⟩
    · exact absurd hexecuting hnot
    · exact absurd hexecuting hnot
  · rintro ⟨anchor, window, ha, hwindow, hlt⟩
    refine ⟨anchor, window, ?_, lt_sub_iff_add_lt.mpr hlt⟩
    rw [runningLivenessAnchor, hwindow]
    refine (congrArg Except.ok (if_pos hexecuting)).trans ?_
    rw [ha]

/-- The grace is within the window when a job that it protects has not expired. -/
theorem graceWithinWindow_iff : GraceWithinWindow settings db now wall job ↔
    (disarmGraceProtects settings (runContextOf db job) now job = true ∨
      disarmGraceProtects settings (runContextOf db job) (max now wall) job = true →
      ¬ Expired settings hosts now job) := by
  refine forall_congr' fun hgrace => ?_
  have hstate : job.executionState = some executingDisarm := by
    rcases hgrace with h | h
    · exact (executingDisarm_of_grace h).2
    · exact (executingDisarm_of_grace h).2
  rw [expired_iff_of_disarming hstate]
  constructor
  · rintro h ⟨anchor, window, ha, hwindow, hlt⟩
    exact absurd hlt (not_lt_of_ge (h anchor window ha hwindow))
  · intro h anchor window ha hwindow
    exact not_lt.mp fun hlt => h ⟨anchor, window, ha, hwindow, hlt⟩

/-- **When the recycler times a job out** that has no guard: its sign of life is too old, and the
abort grace does not protect it. -/
theorem recycles_iff (hrunning : job.status = .running) (hguard : job.disarmGuard = none) :
    recycleVerdict settings db hosts now wall job = .ok true ↔
      Expired settings hosts now job ∧
        ¬ (disarmGraceProtects settings (runContextOf db job) now job = true ∨
          disarmGraceProtects settings (runContextOf db job) (max now wall) job = true) := by
  have hfinal : finalDisarmGraceBlocksWrite settings db (max now wall) job =
      .ok (disarmGraceProtects settings (runContextOf db job) (max now wall) job) := by
    rw [finalDisarmGraceBlocksWrite, if_neg (by simp [hguard])]
  rw [recycleVerdict, hfinal]
  by_cases hstale : staleClockFilter settings hosts now job = some true
  · rw [if_neg (by simp [hrunning, hstale])]
    cases hnow : disarmGraceProtects settings (runContextOf db job) now job with
    | true => simp
    | false =>
        cases hlater : disarmGraceProtects settings (runContextOf db job) (max now wall) job with
        | true => simp [bind, Except.bind]
        | false =>
            refine Iff.trans ?_ (and_iff_left (by simp)).symm
            exact unprotectedVerdict_iff
  · rw [if_pos (.inr hstale)]
    constructor
    · intro h
      cases h
    · rintro ⟨hexpired, -⟩
      exact absurd (staleClockFilter_of_expired hexpired) hstale

/-- **When the recycler times a job out** that has a guard: the guard does not protect it, and its
sign of life is too old. -/
theorem recycles_iff_of_guard (hrunning : job.status = .running)
    (hguard : job.disarmGuard.isSome = true) :
    recycleVerdict settings db hosts now wall job = .ok true ↔
      jobGuardDeadline settings db (max now wall) job = .ok none ∧
        Expired settings hosts now job := by
  have hstale : staleClockFilter settings hosts now job = some true := by
    rw [staleClockFilter]
    exact SqlBool.or_eq_true_iff.mpr (.inl (sqlIsNotNull_eq_true_iff.mpr hguard))
  have hgrace : disarmGraceProtects settings (runContextOf db job) now job ≠ true := by
    intro h
    rw [(executingDisarm_of_grace h).1] at hguard
    cases hguard
  rw [recycleVerdict, if_neg (by simp [hrunning, hstale]), if_neg hgrace,
    finalDisarmGraceBlocksWrite, if_pos hguard]
  cases hdeadline : jobGuardDeadline settings db (max now wall) job with
  | error e => simp [bind, Except.bind, Except.map]
  | ok until_ =>
      cases until_ with
      | none => exact unprotectedVerdict_iff.trans (and_iff_right rfl).symm
      | some until_ => simp [bind, Except.bind, Except.map]

/-- **When the projected deadline has passed**: the guard does not protect the job, and its sign of
life is too old. -/
theorem deadline_lt_iff (hrunning : job.status = .running) :
    (∃ d, runningHeartbeatDeadline settings db hosts now wall job = .ok (some d) ∧ d < now) ↔
      jobGuardDeadline settings db (max now wall) job = .ok none ∧
        Expired settings hosts now job := by
  rw [runningHeartbeatDeadline, if_neg (by simp [hrunning]), ← clockDeadline_lt_iff]
  cases hdeadline : jobGuardDeadline settings db (max now wall) job with
  | error e =>
      constructor
      · rintro ⟨d, hd, -⟩
        cases hd
      · rintro ⟨h, -⟩
        cases h
  | ok until_ =>
      cases until_ with
      | none => exact (and_iff_right rfl).symm
      | some until_ =>
          constructor
          · rintro ⟨d, hd, hlt⟩
            have heq : until_ = d := Option.some.inj (Except.ok.inj hd)
            have hle := (le_max_left now wall).trans (le_jobGuardDeadline hdeadline)
            exact absurd hlt (not_lt_of_ge (heq ▸ hle))
          · rintro ⟨h, -⟩
            cases h

/-- **When the verdict of the recycler and the projected deadline agree**: no abort grace of a job
that disarms without a guard outlasts the window of its executor. -/
theorem verdict_iff_deadline_iff (hrunning : job.status = .running) :
    (recycleVerdict settings db hosts now wall job = .ok true ↔
        ∃ d, runningHeartbeatDeadline settings db hosts now wall job = .ok (some d) ∧ d < now) ↔
      GraceWithinWindow settings db now wall job := by
  rw [deadline_lt_iff hrunning, @graceWithinWindow_iff settings db hosts]
  cases hguard : job.disarmGuard with
  | none =>
      rw [recycles_iff hrunning hguard, jobGuardDeadline_of_no_guard hguard]
      constructor
      · intro h hgrace hexpired
        exact (h.mpr ⟨rfl, hexpired⟩).2 hgrace
      · intro h
        constructor
        · rintro ⟨hexpired, -⟩
          exact ⟨rfl, hexpired⟩
        · rintro ⟨-, hexpired⟩
          exact ⟨hexpired, fun hgrace => h hgrace hexpired⟩
  | some guard =>
      rw [recycles_iff_of_guard hrunning (by rw [hguard]; rfl)]
      refine iff_of_true Iff.rfl fun hgrace => ?_
      have hnone : job.disarmGuard = none := by
        rcases hgrace with h | h
        · exact (executingDisarm_of_grace h).1
        · exact (executingDisarm_of_grace h).1
      rw [hguard] at hnone
      cases hnone

/-! ### A grace that outlasts the window -/

namespace GraceExample

/-- The production defaults. -/
def defaults : Settings where
  runningHeartbeatTimeout := 900
  patrolRunningHeartbeatTimeout := 300
  patrolStallMultiplier := 3
  coordinatorHeartbeatTimeout := 300
  coordinatorHeartbeatInterval := 30

/-- A plan run that was aborted at the epoch. -/
def aborted : PlanRun where
  id := 1
  status := .running
  runContext := .dict [("abort_requested", .dict [("at", .str "1970-01-01T00:00:00+00:00"),
    ("requested_job_ids", .list [.int 7])])]

/-- The database with that plan run. -/
def oneRun : Db where
  devices := .empty
  leases := .empty
  debts := .empty
  jobs := .empty
  traces := .empty
  planRuns := ⟨[aborted], 2, by decide, by decide⟩
  hosts := []

/-- A job of it that disarms its device for up to an hour. Its executor was last heard of at the
epoch; its script makes progress. -/
def disarming : LiveJob where
  id := 7
  planRunId := 1
  deviceId := 1
  hostId := some "lab-1"
  status := .running
  statusReason := none
  pipelineDef := .dict [("lifecycle", .dict [("init", .list []), ("teardown", .list
    [.dict [("action", .str "script:powercycle_disarm"), ("timeout_seconds", .int 3600)]])])]
  startedAt := some 0
  endedAt := none
  terminalPayloadDigest := none
  disarmResults := .null
  disarmGuard := none
  lastExecutionHeartbeatAt := some 0
  lastProgressAt := some 1000000000
  updatedAt := 0
  executionState := some executingDisarm
  createdAt := some 0
  patrolCycleCount := 0
  lastPatrolHeartbeatAt := none
  currentPatrolStep := none
  nextRetryAt := none

/-- **The recycler spares the job, its projected deadline has passed.** -/
theorem spared_past_deadline :
    disarming.status = .running ∧
      recycleVerdict defaults oneRun [] 1000000000 1000000000 disarming = .ok false ∧
      runningHeartbeatDeadline defaults oneRun [] 1000000000 1000000000 disarming =
        .ok (some 900000000) := by
  refine ⟨rfl, by decide +kernel, by decide +kernel⟩

/-- Ten minutes after the abort its window is not over. -/
theorem disarming_within_window :
    recycleVerdict defaults oneRun [] 600000000 600000000 disarming = .ok true ↔
      ∃ d, runningHeartbeatDeadline defaults oneRun [] 600000000 600000000 disarming = .ok (some d) ∧
        d < 600000000 :=
  (verdict_iff_deadline_iff rfl).mpr fun _ anchor window hanchor hwindow => by
    cases hanchor
    cases hwindow
    decide

end GraceExample

end StabilityPlatform.Liveness
