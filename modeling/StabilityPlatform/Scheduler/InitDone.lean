import StabilityPlatform.Scheduler.PatrolStall

/-!
# The end of init

The collectors take a job for initialised when as many distinct steps completed in its init stage as
it has init steps. The Agent also reports its return checks in that stage, so the count says nothing
of which steps completed. A job without a heartbeat whose init is not complete is kept from the
candidates exactly when completed return checks do not make up for its open steps, and no retry of
its patrol is overdue, as long as it is over its threshold.

## Main results

* `baseAnchor_eq`: when a job is taken for initialised.
* `isCandidate_iff`: when a job without a heartbeat is a candidate.
* `initDone_iff`: when being a candidate means that every init step completed.
-/

namespace StabilityPlatform.PatrolStall

open Lib

/-! ### What the Agent reports -/

/-- What one execution reports: that it started, and how it ended. -/
def reportExecution (stepId : String) (success : Bool) : List (String × String) :=
  [(stepId, "STARTED"), (stepId, if success then "COMPLETED" else "FAILED")]

/-- `run_init_checks`: what it reports of the families and how each ended. The first that fails is
the last. -/
def runInitChecks : List (String × Bool) → List (String × String)
  | [] => []
  | (family, success) :: rest =>
    reportExecution ("return_check." ++ family) success ++
      if success then runInitChecks rest else []

/-- What the attempts at the init steps report. A step whose last attempt fails is the last. -/
def runInitSteps : List (String × List Bool) → List (String × String)
  | [] => []
  | (stepId, attempts) :: rest =>
    attempts.flatMap (reportExecution stepId) ++
      if attempts.getLastD false then runInitSteps rest else []

/-- What the init of a run reports: its return checks, and when all passed its own steps. -/
def runInit (checks : List (String × Bool)) (steps : List (String × List Bool)) :
    List (String × String) :=
  runInitChecks checks ++ if checks.all Prod.snd then runInitSteps steps else []

/-! ### Steps -/

/-- `step.get("step_id", "unknown")`. -/
def stepIdOf : PyVal → String
  | .dict step =>
    match step.lookup "step_id" with
    | some (.str s) => s
    | some _ => "unknown"
    | none => "unknown"
  | _ => "unknown"

variable (traces : List PatrolTrace) (job : PatrolJob)

/-- The ids of the init steps of a job. -/
def ownSteps : List String := (initStepsOf job.pipelineDef).map stepIdOf

/-- A completed init step. -/
def completesInit (jobId : ℕ) (tr : PatrolTrace) : Bool :=
  tr.jobId = jobId && tr.stage = "init" && tr.eventType = "COMPLETED"

/-- The distinct steps that completed in the init stage of a job. -/
def completedSteps : List String :=
  ((traces.filter (completesInit job.id)).map PatrolTrace.stepId).dedup

/-- When the last of them did. -/
def lastCompleted : Option Time :=
  ((traces.filter (completesInit job.id)).map PatrolTrace.originalTs).max?

/-- Every init step of the job completed. -/
def AllCompleted : Prop := ∀ step ∈ ownSteps job, ∃ tr ∈ traces, tr.jobId = job.id ∧
  tr.stage = "init" ∧ tr.eventType = "COMPLETED" ∧ tr.stepId = step

/-- How many init steps of the job are open. -/
def openSteps : ℕ :=
  (ownSteps job).length - ((completedSteps traces job).filter (· ∈ ownSteps job)).length

/-- How many steps completed that are not the job's own. -/
def foreignSteps : ℕ := ((completedSteps traces job).filter (· ∉ ownSteps job)).length

/-! ### Thresholds -/

/-- The job is running between patrols, and over its threshold from an anchor. -/
def OverThreshold (collector : Collector) (now : Time) (anchor : Time) : Prop :=
  job.status = .running ∧ pyMayStall job = true ∧
    ∃ interval, patrolIntervalOf job.pipelineDef = some interval ∧
      interval * collector.multiplier * 1000000 < now - anchor

/-- A moment, or the retry that is planned after it. -/
def orRetry (last : Time) : Time := job.nextRetryAt.elim last (max last)

/-- One of the two collectors takes the job, up to the limit of the batch. -/
def IsCandidate (collector : Collector) (now : Time) : Prop :=
  job.status = .running ∧ ((∃ c, pyStallRow collector now traces job = .ok (some c)) ∨
    ∃ c, sqlStallRow collector now traces job = .ok (some c))

/-- While the init of a job is not complete, it is not over its threshold: from the last completed
step if other steps make up for the open ones, from its retry if not. -/
structure InitGuarded (collector : Collector) (now : Time) : Prop where
  masked : openSteps traces job ≤ foreignSteps traces job → ∀ last,
    lastCompleted traces job = some last → OverThreshold job collector now (orRetry job last) →
    AllCompleted traces job
  retried : foreignSteps traces job < openSteps traces job → ∀ retry,
    job.nextRetryAt = some retry → IntegersFit collector traces job →
    OverThreshold job collector now retry → AllCompleted traces job

variable {traces job} {collector : Collector} {now : Time}

/-! ### The count -/

/-- The count is of distinct steps, the job's own and others. -/
theorem length_completedSteps : (completedSteps traces job).length =
    ((completedSteps traces job).filter (· ∈ ownSteps job)).length + foreignSteps traces job := by
  rw [foreignSteps, ← List.countP_eq_length_filter, ← List.countP_eq_length_filter]
  refine (List.length_eq_countP_add_countP (fun step => decide (step ∈ ownSteps job))).trans ?_
  congr 2
  funext step
  simp

/-- What is counted of a job. -/
theorem completedInitSteps_eq : completedInitSteps traces job.id =
    (lastCompleted traces job).map fun last => ((completedSteps traces job).length, last) := rfl

/-- A job without completed steps has no open ones made up for. -/
theorem lastCompleted_isSome (hsteps : ownSteps job ≠ [])
    (h : openSteps traces job ≤ foreignSteps traces job) :
    ∃ last, lastCompleted traces job = some last := by
  rw [lastCompleted]
  cases hlist : traces.filter (completesInit job.id) with
  | nil =>
      have hnone : completedSteps traces job = [] := by rw [completedSteps, hlist]; rfl
      rw [openSteps, foreignSteps, hnone, List.filter_nil, List.length_nil] at h
      have hlen := List.length_pos_of_ne_nil hsteps
      simp only [List.filter_nil, List.length_nil] at h
      omega
  | cons tr rest => exact ⟨_, rfl⟩

/-- **When a job is taken for initialised**: the completed steps that are not its own make up for its
open ones. -/
theorem baseAnchor_eq (hheartbeat : job.lastPatrolHeartbeatAt = none)
    (hvalid : validatePipelineDef job.pipelineDef = true) :
    baseAnchor traces job =
      if openSteps traces job ≤ foreignSteps traces job then lastCompleted traces job else none := by
  have hlength : (initStepsOf job.pipelineDef).length = (ownSteps job).length :=
    (List.length_map _).symm
  have hcount := @length_completedSteps traces job
  rw [baseAnchor, pyBaseAnchor, hheartbeat]
  dsimp only
  rw [if_neg (by simpa using initStepsOf_ne_nil hvalid), completedInitSteps_eq, hlength]
  cases lastCompleted traces job with
  | none => simp
  | some last =>
      rw [Option.map_some, Option.bind_some]
      dsimp only
      by_cases hle : openSteps traces job ≤ foreignSteps traces job
      · rw [if_pos hle, if_neg]
        rw [openSteps] at hle
        omega
      · rw [if_neg hle, if_pos]
        rw [openSteps] at hle
        omega

/-! ### Candidates -/

/-- A job is stalled when it is over its threshold from its anchor. -/
theorem isSome_stalled_iff : (stalled collector now traces job).isSome = true ↔
    ∃ anchor, stallAnchor traces job = some anchor ∧ OverThreshold job collector now anchor := by
  constructor
  · intro h
    obtain ⟨c, hc⟩ := Option.isSome_iff_exists.mp h
    rw [stalled] at hc
    split_ifs at hc with hcond
    rw [Bool.and_eq_true, decide_eq_true_eq] at hcond
    obtain ⟨interval, hinterval, hc⟩ := Option.bind_eq_some_iff.mp hc
    obtain ⟨anchor, hanchor, hc⟩ := Option.bind_eq_some_iff.mp hc
    rw [overdueCandidate] at hc
    split_ifs at hc with hover
    exact ⟨anchor, hanchor, hcond.1, hcond.2, interval, hinterval, sub_pos.mp hover⟩
  · rintro ⟨anchor, hanchor, hrunning, hmay, interval, hinterval, hover⟩
    rw [stalled, if_pos (by simp [hrunning, hmay]), hinterval, Option.bind_some, hanchor,
      Option.bind_some, overdueCandidate, if_pos (sub_pos.mpr hover)]
    rfl

/-- **When a job is a candidate**: it is over its threshold from its anchor, which the loop asks for
without the retry, and the statement with it. -/
theorem isCandidate_iff (hvalid : validatePipelineDef job.pipelineDef = true) :
    IsCandidate traces job collector now ↔
      ∃ anchor, stallAnchor traces job = some anchor ∧ OverThreshold job collector now anchor ∧
        ((baseAnchor traces job).isSome = true ∨ IntegersFit collector traces job) := by
  constructor
  · rintro ⟨hrunning, ⟨c, hc⟩ | ⟨c, hc⟩⟩
    · rw [pyStallRow_eq hrunning hvalid, Except.ok.injEq, Option.filter_eq_some_iff] at hc
      obtain ⟨anchor, hanchor, hover⟩ := isSome_stalled_iff.mp (Option.isSome_of_eq_some hc.1)
      exact ⟨anchor, hanchor, hover, .inl hc.2⟩
    · by_cases hfits : IntegersFit collector traces job
      · rw [sqlStallRow_of_fits (fun _ => hvalid) hfits, Except.ok.injEq] at hc
        obtain ⟨anchor, hanchor, hover⟩ := isSome_stalled_iff.mp (Option.isSome_of_eq_some hc)
        exact ⟨anchor, hanchor, hover, .inr hfits⟩
      · rw [sqlStallRow_of_not_fits (fun _ => hvalid) hfits] at hc
        cases hc
  · rintro ⟨anchor, hanchor, hover, hcase⟩
    obtain ⟨c, hc⟩ := Option.isSome_iff_exists.mp (isSome_stalled_iff.mpr ⟨anchor, hanchor, hover⟩)
    refine ⟨hover.1, ?_⟩
    rcases hcase with hbase | hfits
    · refine .inl ⟨c, ?_⟩
      rw [pyStallRow_eq hover.1 hvalid, hc, hbase]
      rfl
    · refine .inr ⟨c, ?_⟩
      rw [sqlStallRow_of_fits (fun _ => hvalid) hfits, hc]

/-- The anchor of a job that is taken for initialised. -/
theorem stallAnchor_of_base {last : Time} (hbase : baseAnchor traces job = some last) :
    stallAnchor traces job = some (orRetry job last) := by
  rw [stallAnchor, hbase, patrolStallAnchor.eq_def, orRetry]
  cases job.nextRetryAt with
  | none => rfl
  | some retry =>
      by_cases hlt : last < retry
      · rw [Option.elim_some, max_eq_right hlt.le]
        exact if_pos (by simpa using hlt)
      · rw [Option.elim_some, max_eq_left (not_lt.mp hlt)]
        exact if_neg (by simpa using hlt)

/-- The anchor of a job that is not. -/
theorem stallAnchor_of_no_base (hbase : baseAnchor traces job = none) :
    stallAnchor traces job = job.nextRetryAt := by
  rw [stallAnchor, hbase, patrolStallAnchor.eq_def]
  cases job.nextRetryAt with
  | none => rfl
  | some retry => exact if_pos rfl

/-- **When being a candidate means that every init step completed.** -/
theorem initDone_iff (hheartbeat : job.lastPatrolHeartbeatAt = none)
    (hvalid : validatePipelineDef job.pipelineDef = true) :
    (IsCandidate traces job collector now → AllCompleted traces job) ↔
      InitGuarded traces job collector now := by
  have hbase := @baseAnchor_eq traces job hheartbeat hvalid
  have hsteps : ownSteps job ≠ [] := by
    rw [ownSteps, Ne, List.map_eq_nil_iff]
    exact initStepsOf_ne_nil hvalid
  rw [isCandidate_iff hvalid]
  constructor
  · intro h
    refine ⟨fun hle last hlast hover => ?_, fun hlt retry hretry hfits hover => ?_⟩
    · rw [if_pos hle, hlast] at hbase
      exact h ⟨_, stallAnchor_of_base hbase, hover, .inl (by rw [hbase]; rfl)⟩
    · rw [if_neg (by omega)] at hbase
      exact h ⟨retry, (stallAnchor_of_no_base hbase).trans hretry, hover, .inr hfits⟩
  · rintro ⟨hmasked, hretried⟩ ⟨anchor, hanchor, hover, hcase⟩
    by_cases hle : openSteps traces job ≤ foreignSteps traces job
    · obtain ⟨last, hlast⟩ := lastCompleted_isSome hsteps hle
      rw [if_pos hle, hlast] at hbase
      rw [stallAnchor_of_base hbase, Option.some.injEq] at hanchor
      rw [← hanchor] at hover
      exact hmasked hle last hlast hover
    · rw [if_neg hle] at hbase
      rw [stallAnchor_of_no_base hbase] at hanchor
      rcases hcase with hsome | hfits
      · rw [hbase] at hsome
        cases hsome
      · exact hretried (by omega) anchor hanchor hfits hover

/-! ### Return checks that pass for init steps -/

namespace ReturnCheckExample

/-- The production defaults. -/
def defaults : Collector where
  multiplier := 3
  batchLimit := 100
  loads := fun _ => none
  castText := fun _ => none

/-- A job that flashes its device before it patrols every minute. -/
def flashing : PatrolJob where
  id := 1
  status := .running
  executionState := none
  pipelineDef := .dict [("lifecycle", .dict [("init", .list [.dict [("step_id", .str "flash")]]),
    ("patrol", .dict [("interval_seconds", .int 60)]), ("teardown", .list [])])]
  lastPatrolHeartbeatAt := none
  nextRetryAt := none
  startedAt := some 0

/-- A trace of its init. -/
def initTrace (stepId eventType : String) (at_ : Time) : PatrolTrace where
  jobId := 1
  stepId := stepId
  stage := "init"
  eventType := eventType
  originalTs := at_

/-- Both return checks passed, and the flash started. -/
def reported : List PatrolTrace :=
  [initTrace "return_check.power-cycle" "STARTED" 0,
    initTrace "return_check.power-cycle" "COMPLETED" 1000000,
    initTrace "return_check.gpu" "STARTED" 1000000,
    initTrace "return_check.gpu" "COMPLETED" 2000000,
    initTrace "flash" "STARTED" 2000000]

/-- **A job is a candidate while it is still in its only init step**: two return checks completed.
The traces are those an Agent has reported by then. -/
theorem flashing_candidate :
    ((reported.map fun tr => (tr.stepId, tr.eventType)) <+:
        runInit [("power-cycle", true), ("gpu", true)] [("flash", [true])]) ∧
      flashing.lastPatrolHeartbeatAt = none ∧
      validatePipelineDef flashing.pipelineDef = true ∧
      IsCandidate reported flashing defaults 600000000 ∧ ¬ AllCompleted reported flashing := by
  refine ⟨⟨[("flash", "COMPLETED")], by decide +kernel⟩, rfl, rfl,
    ⟨rfl, .inl ⟨⟨418000000, 1, 60, 598000000⟩, rfl⟩⟩, fun h => ?_⟩
  obtain ⟨tr, hmem, -, -, hcompleted, hstep⟩ := h "flash" (by decide +kernel)
  have hnone : ∀ tr ∈ reported, tr.eventType = "COMPLETED" → tr.stepId ≠ "flash" := by
    decide +kernel
  exact hnone tr hmem hcompleted hstep

/-- A minute into the flash the job is below its threshold, so it is guarded. -/
theorem flashing_guarded : InitGuarded reported flashing defaults 60000000 :=
  (initDone_iff rfl rfl).mp fun h => by
    rcases h with ⟨-, ⟨c, hc⟩ | ⟨c, hc⟩⟩
    · cases hc
    · cases hc

end ReturnCheckExample

end StabilityPlatform.PatrolStall
