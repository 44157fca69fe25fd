import StabilityPlatform.Core.Models
import StabilityPlatform.Lib.Ranking
import StabilityPlatform.Lib.SqlLogic

/-!
# Stalled patrols

A running job that patrols sends a heartbeat after every cycle. One whose last sign is older than a
few intervals is a candidate for a timeout. The candidates are collected by a statement on the
production database, and by a loop over the running jobs elsewhere.

The casts of the statement and the text reader of the loop are parameters. Ages are counted in
microseconds.

## Main results

* `pyStallRow_eq`: what the loop makes of a job.
* `sqlStallRow_of_fits`, `sqlStallRow_of_not_fits`: what the statement makes of a job.
-/

namespace StabilityPlatform.PatrolStall

open Lib

/-! ### Rows -/

/-- A job, with what the collectors read of it. -/
structure PatrolJob where
  id : ℕ
  status : JobStatus
  executionState : Option String
  pipelineDef : PyVal
  lastPatrolHeartbeatAt : Option Time
  nextRetryAt : Option Time
  startedAt : Option Time

/-- What a step of a job reported. -/
structure PatrolTrace where
  jobId : ℕ
  stepId : String
  stage : String
  eventType : String
  originalTs : Time
  deriving DecidableEq

/-- The settings of the collectors, and what they call. -/
structure Collector where
  /-- `PATROL_STALL_MULTIPLIER`. -/
  multiplier : ℤ
  /-- `patrol_stall_batch_limit`. -/
  batchLimit : ℕ
  /-- `json.loads`; none when it raises. -/
  loads : String → Option PyVal
  castText : String → Option ℤ

/-- A candidate. -/
structure StallCandidate where
  overdue : Time
  job : ℕ
  interval : ℤ
  age : Time
  deriving DecidableEq

/-- What is returned of a candidate: the job, its interval and its age. -/
def StallCandidate.row (c : StallCandidate) : ℕ × ℤ × Time := (c.job, c.interval, c.age)

/-- The most overdue come first. -/
def mostOverdue (c : StallCandidate) : Time := -c.overdue

/-! ### What both read -/

/-- `_completed_init_steps_by_job`: how many init steps of a job completed, and when the last one
did. -/
def completedInitSteps (traces : List PatrolTrace) (jobId : ℕ) : Option (ℕ × Time) :=
  let completed := traces.filter fun tr =>
    tr.jobId = jobId && tr.stage = "init" && tr.eventType = "COMPLETED"
  (completed.map PatrolTrace.originalTs).max?.map fun last =>
    ((completed.map PatrolTrace.stepId).dedup.length, last)

/-- `_patrol_stall_anchor`: a retry that is planned after the anchor replaces it. -/
def patrolStallAnchor (nextRetryAt baseAnchor : Option Time) : Option Time :=
  match nextRetryAt with
  | none => baseAnchor
  | some retry => if baseAnchor.all (· < retry) then some retry else baseAnchor

/-- A candidate, when its age is over the threshold. -/
def overdueCandidate (now : Time) (jobId : ℕ) (interval threshold : ℤ) (anchor : Time) :
    Option StallCandidate :=
  let age := now - anchor
  let overdue := age - threshold * 1000000
  if 0 < overdue then some ⟨overdue, jobId, interval, age⟩ else none

/-! ### The loop -/

/-- `_safe_json_loads`. -/
def safeJsonLoads (loads : String → Option PyVal) : PyVal → PyDict
  | .dict d => d
  | .str raw => if pyStrip raw = "" then [] else ((loads raw).bind PyVal.asDict?).getD []
  | _ => []

/-- `(pipeline_def.get("lifecycle") or {}).get(key)`. -/
def lifecycleGet (pipelineDef : PyDict) (key : String) : Except PyError PyVal :=
  match (pipelineDef.get "lifecycle").orElse (.dict []) with
  | .dict lifecycle => .ok (PyDict.get lifecycle key)
  | _ => .error .attributeError

/-- The patrol interval, when it is an integer of at least one second. -/
def pyInterval (patrol : PyVal) : Option ℤ :=
  match patrol with
  | .dict d =>
    match PyDict.get d "interval_seconds" with
    | .int z => if z < 1 then none else some z
    | .bool b => if b then some 1 else none
    | _ => none
  | _ => none

/-- The anchor of a job: its last heartbeat, or the end of its init. -/
def pyBaseAnchor (job : PatrolJob) (initSteps : List PyVal) (completed : Option (ℕ × Time)) :
    Option Time :=
  match job.lastPatrolHeartbeatAt with
  | some heartbeat => some heartbeat
  | none =>
    if initSteps.isEmpty then job.startedAt
    else completed.bind fun c => if c.1 < initSteps.length then none else some c.2

/-- A job that sleeps between patrols, or has not reported yet. -/
def pyMayStall (job : PatrolJob) : Bool :=
  job.executionState.all (· == "PATROL_SLEEP")

/-- What the loop makes of the patrol and the init of a job. -/
def pyCandidate (collector : Collector) (now : Time) (traces : List PatrolTrace) (job : PatrolJob)
    (patrol init : PyVal) : Option StallCandidate :=
  (pyInterval patrol).bind fun interval =>
    (pyBaseAnchor job (init.asList?.getD []) (completedInitSteps traces job.id)).bind fun base =>
      (patrolStallAnchor job.nextRetryAt (some base)).bind fun anchor =>
        overdueCandidate now job.id interval (interval * collector.multiplier) anchor

/-- One turn of the loop. -/
def pyStallRow (collector : Collector) (now : Time) (traces : List PatrolTrace) (job : PatrolJob) :
    Except PyError (Option StallCandidate) :=
  if pyMayStall job then do
    let pipelineDef := safeJsonLoads collector.loads job.pipelineDef
    let patrol ← lifecycleGet pipelineDef "patrol"
    let init ← lifecycleGet pipelineDef "init"
    .ok (pyCandidate collector now traces job patrol init)
  else .ok none

/-- `_collect_patrol_stall_candidates_py`, where the table gives the jobs in the listed order. -/
def collectPatrolStallCandidatesPy (collector : Collector) (now : Time) (jobs : List PatrolJob)
    (traces : List PatrolTrace) : Except PyError (List (ℕ × ℤ × Time)) := do
  let running := jobs.filter fun job => job.status = .running
  let rows ← running.mapM (pyStallRow collector now traces)
  .ok (((sortBy mostOverdue rows.reduceOption).take collector.batchLimit).map StallCandidate.row)

/-! ### The statement -/

/-- `base -> key`. -/
def pgJsonPath (base : Option PyVal) (key : String) : Option PyVal :=
  match base with
  | some (.dict d) => d.lookup key
  | some _ => none
  | none => none

/-- The integers of the database. -/
abbrev FitsInteger (z : ℤ) : Prop := -2147483648 ≤ z ∧ z ≤ 2147483647

/-- An integer of the database; one that is too large raises. -/
def pgInteger (z : ℤ) : Except PyError ℤ :=
  if FitsInteger z then .ok z else .error .dataError

/-- `CAST(patrol ->> 'interval_seconds' AS INTEGER)`. -/
def intervalExpr (collector : Collector) (patrol : Option PyVal) : Except PyError (Option ℤ) :=
  match pgJsonPath patrol "interval_seconds" with
  | none => .ok none
  | some .null => .ok none
  | some (.int z) => (pgInteger z).map some
  | some (.str s) =>
    match collector.castText s with
    | some z => (pgInteger z).map some
    | none => .error .dataError
  | some _ => .error .dataError

/-- `jsonb_array_length(coalesce(init, '[]'))`. -/
def initStepCount (init : Option PyVal) : Except PyError ℕ :=
  match init with
  | none => .ok 0
  | some (.list steps) => .ok steps.length
  | some _ => .error .dataError

/-- The anchor of a job. -/
def anchorExpr (job : PatrolJob) (completed : Option (ℕ × Time)) (count : ℕ) : Option Time :=
  caseWhen
    [(sqlIsNotNull job.lastPatrolHeartbeatAt, job.lastPatrolHeartbeatAt),
      (some (count == 0), job.startedAt),
      (sqlCompare (fun done count => decide (count ≤ done)) (completed.map Prod.fst) (some count),
        completed.map Prod.snd)]
    none

/-- The anchor of a job, with its retry. -/
def effectiveAnchorExpr (job : PatrolJob) (anchor : Option Time) : Option Time :=
  caseWhen
    [((sqlIsNotNull job.nextRetryAt).and
        ((sqlIsNull anchor).or
          (sqlCompare (fun retry anchor => decide (anchor < retry)) job.nextRetryAt anchor)),
      job.nextRetryAt)]
    anchor

/-- `execution_state IS NULL OR execution_state = 'PATROL_SLEEP'`. -/
def sqlMayStall (job : PatrolJob) : SqlBool :=
  (sqlIsNull job.executionState).or
    (sqlCompare (fun state sleep => state == sleep) job.executionState (some "PATROL_SLEEP"))

/-- The conditions on the age, and on what the executor reported. -/
def sqlOverdueRow (collector : Collector) (now : Time) (job : PatrolJob) (interval : ℤ)
    (anchor : Option Time) : Except PyError (Option StallCandidate) :=
  match anchor with
  | none => .ok none
  | some anchor => do
    let threshold ← pgInteger (interval * collector.multiplier)
    .ok ((overdueCandidate now job.id interval threshold anchor).filter
      fun _ => decide (sqlMayStall job = some true))

/-- The conditions on the anchor. The steps are counted when there is no heartbeat. -/
def sqlAnchoredRow (collector : Collector) (now : Time) (traces : List PatrolTrace)
    (job : PatrolJob) (init : Option PyVal) (interval : ℤ) :
    Except PyError (Option StallCandidate) := do
  let count ← if job.lastPatrolHeartbeatAt.isSome then .ok 0 else initStepCount init
  sqlOverdueRow collector now job interval
    (effectiveAnchorExpr job (anchorExpr job (completedInitSteps traces job.id) count))

/-- The conditions on the interval. -/
def sqlIntervalRow (collector : Collector) (now : Time) (traces : List PatrolTrace)
    (job : PatrolJob) (init : Option PyVal) (interval : Option ℤ) :
    Except PyError (Option StallCandidate) :=
  match interval with
  | none => .ok none
  | some interval =>
    if 0 < interval then sqlAnchoredRow collector now traces job init interval else .ok none

/-- What the statement makes of a job: its conditions in their order. -/
def sqlStallRow (collector : Collector) (now : Time) (traces : List PatrolTrace) (job : PatrolJob) :
    Except PyError (Option StallCandidate) :=
  if job.status = .running then do
    let lifecycle := pgJsonPath (some job.pipelineDef) "lifecycle"
    let interval ← intervalExpr collector (pgJsonPath lifecycle "patrol")
    sqlIntervalRow collector now traces job (pgJsonPath lifecycle "init") interval
  else .ok none

/-- `_build_patrol_stall_candidates_stmt`. -/
def patrolStallCandidatesStmt (collector : Collector) (now : Time) (jobs : List PatrolJob)
    (traces : List PatrolTrace) : Except PyError (List (ℕ × ℤ × Time)) := do
  let rows ← jobs.mapM (sqlStallRow collector now traces)
  .ok (((sortBy (byBoth mostOverdue StallCandidate.job) rows.reduceOption).take
    collector.batchLimit).map StallCandidate.row)

/-! ### Validated definitions -/

/-- An init stage with a step. -/
def validInit : Option PyVal → Bool
  | some (.list steps) => !steps.isEmpty
  | _ => false

/-- No patrol, or one with an interval of at least one second. -/
def validPatrol : Option PyVal → Bool
  | none => true
  | some (.dict patrol) =>
    match patrol.lookup "interval_seconds" with
    | some (.int z) => 1 ≤ z
    | _ => false
  | some _ => false

/-- What `validate_pipeline_def` asks of the parts the collectors read. -/
def validatePipelineDef : PyVal → Bool
  | .dict d =>
    match d.lookup "lifecycle" with
    | some (.dict lifecycle) =>
      validInit (lifecycle.lookup "init") && validPatrol (lifecycle.lookup "patrol")
    | _ => false
  | _ => false

/-- The lifecycle of a definition. -/
def lifecycleOf (pipelineDef : PyVal) : PyDict :=
  (PyDict.get (pipelineDef.asDict?.getD []) "lifecycle").asDict?.getD []

/-- The init steps of a definition. -/
def initStepsOf (pipelineDef : PyVal) : List PyVal :=
  ((lifecycleOf pipelineDef).get "init").asList?.getD []

/-- The patrol interval of a definition. -/
def patrolIntervalOf (pipelineDef : PyVal) : Option ℤ :=
  pyInterval ((lifecycleOf pipelineDef).get "patrol")

/-- The parts of a validated definition. -/
theorem of_validatePipelineDef {v : PyVal} (h : validatePipelineDef v = true) :
    ∃ d lifecycle, v = .dict d ∧ d.lookup "lifecycle" = some (.dict lifecycle) ∧
      lifecycleOf v = lifecycle ∧ validInit (lifecycle.lookup "init") = true ∧
      validPatrol (lifecycle.lookup "patrol") = true := by
  cases v with
  | dict d =>
      rw [validatePipelineDef] at h
      split at h
      next lifecycle hlookup =>
        rw [Bool.and_eq_true] at h
        refine ⟨d, lifecycle, rfl, hlookup, ?_, h.1, h.2⟩
        rw [lifecycleOf, PyVal.asDict?, Option.getD_some, PyDict.get, hlookup]
        rfl
      next => cases h
  | null | bool | int | float | str | list => cases h

/-- A validated init stage. -/
theorem of_validInit {v : Option PyVal} (h : validInit v = true) :
    ∃ steps, v = some (.list steps) ∧ steps ≠ [] := by
  rw [validInit.eq_def] at h
  split at h
  next steps => exact ⟨steps, rfl, by simpa using h⟩
  next => cases h

/-- A validated patrol. -/
theorem of_validPatrol {v : Option PyVal} (h : validPatrol v = true) :
    v = none ∨ ∃ patrol z, v = some (.dict patrol) ∧
      patrol.lookup "interval_seconds" = some (.int z) ∧ 1 ≤ z := by
  rw [validPatrol.eq_def] at h
  split at h
  · exact .inl rfl
  next patrol =>
    split at h
    next z hz => exact .inr ⟨patrol, z, rfl, hz, of_decide_eq_true h⟩
    next => cases h
  next => cases h

/-- A validated definition has an init step. -/
theorem initStepsOf_ne_nil {v : PyVal} (h : validatePipelineDef v = true) : initStepsOf v ≠ [] := by
  obtain ⟨d, lifecycle, rfl, -, hlifecycle, hinit, -⟩ := of_validatePipelineDef h
  obtain ⟨steps, hsteps, hne⟩ := of_validInit hinit
  rw [initStepsOf, hlifecycle, PyDict.get, hsteps]
  exact hne

/-- The interval of a validated definition is positive. -/
theorem one_le_patrolIntervalOf {v : PyVal} {z : ℤ} (hz : patrolIntervalOf v = some z) :
    1 ≤ z := by
  rw [patrolIntervalOf, pyInterval.eq_def] at hz
  split at hz
  · split at hz
    · split_ifs at hz with hlt
      cases hz
      omega
    · split_ifs at hz
      cases hz
      exact le_rfl
    · cases hz
  · cases hz

/-! ### What is made of a job -/

/-- The anchor of a job without its retry. -/
def baseAnchor (traces : List PatrolTrace) (job : PatrolJob) : Option Time :=
  pyBaseAnchor job (initStepsOf job.pipelineDef) (completedInitSteps traces job.id)

/-- The anchor of a job. -/
def stallAnchor (traces : List PatrolTrace) (job : PatrolJob) : Option Time :=
  patrolStallAnchor job.nextRetryAt (baseAnchor traces job)

/-- A running job that is over its threshold, from whichever anchor it has. -/
def stalled (collector : Collector) (now : Time) (traces : List PatrolTrace) (job : PatrolJob) :
    Option StallCandidate :=
  if job.status = .running && pyMayStall job then
    (patrolIntervalOf job.pipelineDef).bind fun interval =>
      (stallAnchor traces job).bind
        (overdueCandidate now job.id interval (interval * collector.multiplier))
  else none

/-- The integers of a job fit the database. -/
def IntegersFit (collector : Collector) (traces : List PatrolTrace) (job : PatrolJob) : Prop :=
  job.status = .running → ∀ interval, patrolIntervalOf job.pipelineDef = some interval →
    FitsInteger interval ∧
      ((stallAnchor traces job).isSome = true → FitsInteger (interval * collector.multiplier))

variable {collector : Collector} {now : Time} {traces : List PatrolTrace} {job : PatrolJob}

/-- A filter that lets everything pass. -/
theorem filter_eq_self_of_true {α : Type*} (o : Option α) : o.filter (fun _ => true) = o := by
  cases o with
  | none => rfl
  | some a => rfl

/-- The loop looks into the lifecycle. -/
theorem lifecycleGet_eq (h : validatePipelineDef job.pipelineDef = true) (key : String) :
    lifecycleGet (safeJsonLoads collector.loads job.pipelineDef) key =
      .ok ((lifecycleOf job.pipelineDef).get key) := by
  obtain ⟨d, lifecycle, hd, hlookup, hlifecycle, -, -⟩ := of_validatePipelineDef h
  rw [hlifecycle, hd, safeJsonLoads, lifecycleGet, PyDict.get, hlookup, Option.getD_some,
    PyVal.orElse]
  cases lifecycle with
  | nil => rfl
  | cons item rest => rfl

/-- **What the loop makes of a running job**: it is stalled, from an anchor that is not only a
retry. -/
theorem pyStallRow_eq (hrunning : job.status = .running)
    (h : validatePipelineDef job.pipelineDef = true) :
    pyStallRow collector now traces job =
      .ok ((stalled collector now traces job).filter fun _ => (baseAnchor traces job).isSome) := by
  rw [pyStallRow, stalled, hrunning]
  by_cases hmay : pyMayStall job = true
  · rw [if_pos hmay, if_pos (by simp [hmay])]
    dsimp only
    rw [lifecycleGet_eq h, lifecycleGet_eq h]
    show Except.ok (pyCandidate collector now traces job
      ((lifecycleOf job.pipelineDef).get "patrol") ((lifecycleOf job.pipelineDef).get "init")) = _
    rw [pyCandidate, ← patrolIntervalOf, ← initStepsOf, ← baseAnchor, stallAnchor]
    cases patrolIntervalOf job.pipelineDef with
    | none => rfl
    | some interval =>
        cases baseAnchor traces job with
        | none => simp
        | some base => exact congrArg Except.ok (filter_eq_self_of_true _).symm
  · rw [if_neg hmay, if_neg (by simp [hmay])]
    rfl

/-- The statement looks into the lifecycle. -/
theorem pgJsonPath_lifecycle (h : validatePipelineDef job.pipelineDef = true) (key : String) :
    pgJsonPath (pgJsonPath (some job.pipelineDef) "lifecycle") key =
      (lifecycleOf job.pipelineDef).lookup key := by
  obtain ⟨d, lifecycle, hd, hlookup, hlifecycle, -, -⟩ := of_validatePipelineDef h
  rw [hlifecycle, hd, pgJsonPath, hlookup]
  rfl

/-- The interval the statement reads. -/
theorem intervalExpr_eq (h : validatePipelineDef job.pipelineDef = true) :
    intervalExpr collector ((lifecycleOf job.pipelineDef).lookup "patrol") =
      match patrolIntervalOf job.pipelineDef with
      | none => .ok none
      | some z => (pgInteger z).map some := by
  obtain ⟨d, lifecycle, hd, -, hlifecycle, -, hpatrol⟩ := of_validatePipelineDef h
  rw [patrolIntervalOf, hlifecycle, PyDict.get]
  rcases of_validPatrol hpatrol with hnone | ⟨patrol, z, hsome, hz, hpos⟩
  · rw [hnone]
    rfl
  · have hinterval : pyInterval (.dict patrol) = some z := by
      rw [pyInterval, PyDict.get, hz]
      exact if_neg (by omega)
    rw [hsome, Option.getD_some, hinterval, intervalExpr.eq_def, pgJsonPath, hz]

/-- The anchor of the statement, when it counts the steps. -/
theorem anchorExpr_eq {completed : Option (ℕ × Time)} {steps : List PyVal} (hne : steps ≠ [])
    (hheartbeat : job.lastPatrolHeartbeatAt = none) :
    anchorExpr job completed steps.length = pyBaseAnchor job steps completed := by
  have hcount : ¬ steps.length = 0 := by simpa using hne
  rw [anchorExpr, pyBaseAnchor, hheartbeat, caseWhen_of_not (by simp),
    caseWhen_of_not (by simpa using hne), if_neg (by simpa using hne)]
  cases completed with
  | none =>
      rw [caseWhen_of_not (by simp [sqlCompare])]
      rfl
  | some c =>
      by_cases hdone : steps.length ≤ c.1
      · rw [caseWhen_of_true (by simpa [sqlCompare] using hdone), Option.bind_some,
          if_neg (by omega)]
        rfl
      · rw [caseWhen_of_not (by simpa [sqlCompare] using hdone), Option.bind_some,
          if_pos (by omega)]
        rfl

/-- A retry replaces the anchor in the statement as it does in the loop. -/
theorem effectiveAnchorExpr_eq (anchor : Option Time) :
    effectiveAnchorExpr job anchor = patrolStallAnchor job.nextRetryAt anchor := by
  rw [effectiveAnchorExpr, patrolStallAnchor.eq_def]
  cases job.nextRetryAt with
  | none =>
      rw [caseWhen_of_not (by simp [SqlBool.and_eq_true_iff])]
      rfl
  | some retry =>
      cases anchor with
      | none => exact caseWhen_of_true rfl
      | some anchor =>
          by_cases hlt : anchor < retry
          · rw [caseWhen_of_true]
            · exact (if_pos (by simpa using hlt)).symm
            · simp [SqlBool.and_eq_true_iff, SqlBool.or_eq_true_iff, sqlCompare, hlt]
          · rw [caseWhen_of_not]
            · exact (if_neg (by simpa using hlt)).symm
            · simp [SqlBool.and_eq_true_iff, SqlBool.or_eq_true_iff, sqlCompare, hlt]

/-- The states that may stall are the same. -/
theorem sqlMayStall_eq : decide (sqlMayStall job = some true) = pyMayStall job := by
  rw [Bool.eq_iff_iff, decide_eq_true_eq, sqlMayStall, pyMayStall, SqlBool.or_eq_true_iff]
  cases job.executionState with
  | none => simp
  | some state => simp [sqlCompare]

/-- The statement anchors a job as the loop does, but does not ask for an anchor before the
retry. -/
theorem sqlAnchoredRow_eq (h : validatePipelineDef job.pipelineDef = true) (interval : ℤ) :
    sqlAnchoredRow collector now traces job ((lifecycleOf job.pipelineDef).lookup "init") interval =
      sqlOverdueRow collector now job interval (stallAnchor traces job) := by
  obtain ⟨d, lifecycle, -, -, hlifecycle, hinit, -⟩ := of_validatePipelineDef h
  obtain ⟨steps, hsteps, hne⟩ := of_validInit hinit
  have hinitSteps : initStepsOf job.pipelineDef = steps := by
    rw [initStepsOf, hlifecycle, PyDict.get, hsteps]
    rfl
  rw [sqlAnchoredRow, hlifecycle, hsteps, stallAnchor, ← effectiveAnchorExpr_eq, baseAnchor,
    hinitSteps]
  cases hheartbeat : job.lastPatrolHeartbeatAt with
  | some heartbeat =>
      have hbase : pyBaseAnchor job steps (completedInitSteps traces job.id) =
          anchorExpr job (completedInitSteps traces job.id) 0 := by
        rw [pyBaseAnchor, anchorExpr, hheartbeat]
        exact (caseWhen_of_true rfl).symm
      rw [hbase]
      rfl
  | none =>
      rw [← anchorExpr_eq hne hheartbeat]
      rfl

/-- A number that fits. -/
theorem pgInteger_of_fits {z : ℤ} (h : FitsInteger z) : pgInteger z = .ok z := if_pos h

/-- A number that does not fit. -/
theorem pgInteger_of_not_fits {z : ℤ} (h : ¬ FitsInteger z) : pgInteger z = .error .dataError :=
  if_neg h

/-- A validated running job, read by the statement. -/
theorem sqlStallRow_of_running (hrunning : job.status = .running)
    (h : validatePipelineDef job.pipelineDef = true) :
    sqlStallRow collector now traces job =
      match patrolIntervalOf job.pipelineDef with
      | none => .ok none
      | some z => (pgInteger z).bind fun z =>
          sqlOverdueRow collector now job z (stallAnchor traces job) := by
  rw [sqlStallRow, if_pos hrunning]
  dsimp only
  rw [pgJsonPath_lifecycle h, pgJsonPath_lifecycle h, intervalExpr_eq h]
  cases hinterval : patrolIntervalOf job.pipelineDef with
  | none => rfl
  | some z =>
      have hpos := one_le_patrolIntervalOf hinterval
      by_cases hfits : FitsInteger z
      · dsimp only
        rw [pgInteger_of_fits hfits]
        show sqlIntervalRow collector now traces job _ (some z) = _
        rw [sqlIntervalRow, if_pos (by omega), sqlAnchoredRow_eq h]
        rfl
      · dsimp only
        rw [pgInteger_of_not_fits hfits]
        rfl

/-- **What the statement makes of a job whose integers fit**: it is stalled. -/
theorem sqlStallRow_of_fits (h : job.status = .running → validatePipelineDef job.pipelineDef = true)
    (hfits : IntegersFit collector traces job) :
    sqlStallRow collector now traces job = .ok (stalled collector now traces job) := by
  by_cases hrunning : job.status = .running
  · rw [sqlStallRow_of_running hrunning (h hrunning), stalled]
    cases hinterval : patrolIntervalOf job.pipelineDef with
    | none => simp
    | some z =>
        obtain ⟨hz, hproduct⟩ := hfits hrunning z hinterval
        dsimp only
        rw [pgInteger_of_fits hz]
        show sqlOverdueRow collector now job z (stallAnchor traces job) = _
        cases hanchor : stallAnchor traces job with
        | none => simp [sqlOverdueRow]
        | some anchor =>
            rw [sqlOverdueRow, pgInteger_of_fits (hproduct (by rw [hanchor]; rfl)), sqlMayStall_eq]
            show Except.ok _ = _
            cases hmay : pyMayStall job with
            | true =>
                rw [if_pos (by simp [hrunning])]
                exact congrArg Except.ok (filter_eq_self_of_true _)
            | false => simp
  · rw [sqlStallRow, stalled, if_neg hrunning, if_neg (by simp [hrunning])]

/-- A running job whose integers do not fit fails the statement. -/
theorem sqlStallRow_of_not_fits
    (h : job.status = .running → validatePipelineDef job.pipelineDef = true)
    (hfits : ¬ IntegersFit collector traces job) :
    sqlStallRow collector now traces job = .error .dataError := by
  rw [IntegersFit] at hfits
  obtain ⟨hrunning, hfits⟩ := Classical.not_imp.mp hfits
  obtain ⟨z, hbad⟩ := Classical.not_forall.mp hfits
  obtain ⟨hinterval, hbad⟩ := Classical.not_imp.mp hbad
  rw [sqlStallRow_of_running hrunning (h hrunning), hinterval]
  dsimp only
  by_cases hz : FitsInteger z
  · obtain ⟨hanchor, hproduct⟩ := Classical.not_imp.mp fun hall => hbad ⟨hz, hall⟩
    obtain ⟨anchor, hanchor⟩ := Option.isSome_iff_exists.mp hanchor
    rw [pgInteger_of_fits hz, hanchor]
    show sqlOverdueRow collector now job z (some anchor) = _
    rw [sqlOverdueRow, pgInteger_of_not_fits hproduct]
    rfl
  · rw [pgInteger_of_not_fits hz]
    rfl

end StabilityPlatform.PatrolStall
