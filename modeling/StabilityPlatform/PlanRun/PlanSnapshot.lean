import StabilityPlatform.Core.JsonValues
import StabilityPlatform.PlanRun.Confirmation

/-!
# The snapshot of a plan

When a plan is previewed, its lifecycle is built from its rows. When it is prepared, the rows are
frozen in a snapshot, and what the devices run is built from that. Both builders merge the
parameters of a step, sort the steps, and refuse what they cannot run. The second one refuses a
little more.

## Main results

* `buildPlanSnapshot`, `buildLifecycleFromSnapshot`: the way over the snapshot.
* `preview_iff`: **what was previewed runs**, if and only if each enabled step names a script and
  a version and the steps of the patrol have an interval of at least one second.
* `SnapshotExample.zero_interval`: a preview whose snapshot is refused.
-/

namespace StabilityPlatform

open Lib

/-! ### The snapshot -/

/-- What the dispatcher reads of an active script. -/
structure ScriptEntry extends ScriptMetadata where
  nfsPath : String

/-- The effective defaults of these scripts. -/
def entryDefaults (scriptMetadata : String × String → Option ScriptEntry) :
    String × String → Option (Dict Json) :=
  scriptDefaults fun script => (scriptMetadata script).map ScriptEntry.toScriptMetadata

/-- A nullable integer column. -/
def intVal (z : Option ℤ) : PyVal := z.elim .null .int

/-- The plan in the snapshot. -/
def snapshotPlan (plan : Plan) : PyDict :=
  [("id", .int plan.id), ("name", .str plan.name), ("description", .ofStr? plan.description),
    ("patrol_interval_seconds", intVal plan.patrolIntervalSeconds),
    ("timeout_seconds", intVal plan.timeoutSeconds),
    ("barrier_timeout_seconds", intVal plan.barrierTimeoutSeconds),
    ("barrier_max_wait_seconds", intVal plan.barrierMaxWaitSeconds),
    ("auto_archive_interval_seconds", intVal plan.autoArchiveIntervalSeconds),
    ("next_plan_id", intVal plan.nextPlanId),
    ("watcher_policy", (jsonVal plan.watcherPolicy).orElse (.dict []))]

/-- A step in the snapshot. -/
def snapshotStep (scriptMetadata : String × String → Option ScriptEntry) (step : PlanStep) :
    PyDict :=
  let entry := scriptMetadata step.script
  [("stage", .str step.stage), ("step_key", .str step.stepKey),
    ("script_name", .str step.scriptName), ("script_version", .str step.scriptVersion),
    ("nfs_path", .str ((entry.map (·.nfsPath)).getD "")),
    ("param_schema", .dict (pyItems ((entry.map (·.paramSchema)).getD Dict.empty))),
    ("default_params", .dict (pyItems ((entry.map (·.defaultParams)).getD Dict.empty))),
    ("params", .dict (pyItems (step.params.getD Dict.empty))),
    ("timeout_seconds", intVal step.timeoutSeconds),
    ("stall_seconds", intVal step.stallSeconds), ("retry", .int step.retry),
    ("enabled", .bool step.enabled), ("sort_order", .int step.sortOrder)]

/-- `build_plan_snapshot`. -/
def buildPlanSnapshot (plan : Plan) (steps : List PlanStep)
    (scriptMetadata : String × String → Option ScriptEntry) : PyVal :=
  .dict [("plan", .dict (snapshotPlan plan)),
    ("steps", .list ((sortBy lifecycleSortKey steps).map fun step =>
      .dict (snapshotStep scriptMetadata step)))]

/-! ### Dictionaries of a lifecycle -/

/-- `if v is not None: d[k] = v`. -/
def setUnlessNone (d : PyDict) (k : String) : PyVal → PyDict
  | .null => d
  | v => d.set k v

/-- `apply_step_timing_fields`. -/
def applyStepTimingFields (stepDef : PyDict) (timeoutSeconds stallSeconds : PyVal) : PyDict :=
  setUnlessNone (setUnlessNone stepDef "timeout_seconds" timeoutSeconds) "stall_seconds"
    stallSeconds

/-- `step_def`. -/
def stepDict (stepKey : PyVal) (action : String) (version : PyVal) (params : PyDict)
    (retry timeoutSeconds stallSeconds : PyVal) : PyVal :=
  .dict (applyStepTimingFields [("step_id", stepKey), ("action", .str action),
    ("version", version), ("params", .dict params), ("retry", retry)] timeoutSeconds stallSeconds)

/-- `lifecycle`. -/
def lifecycleDict (init teardown : List PyVal) (patrol : Option (PyVal × List PyVal))
    (timeoutSeconds barrierTimeout barrierMaxWait : PyVal) : PyVal :=
  let lifecycle : PyDict := [("init", .list init), ("teardown", .list teardown)]
  let lifecycle := match patrol with
    | some (interval, steps) =>
      lifecycle.set "patrol" (.dict [("interval_seconds", interval), ("steps", .list steps)])
    | none => lifecycle
  .dict (setUnlessNone (setUnlessNone (setUnlessNone lifecycle "timeout_seconds" timeoutSeconds)
    "barrier_timeout_seconds" barrierTimeout) "barrier_max_wait_seconds" barrierMaxWait)

/-- A step that was built from the rows, as a dictionary. -/
def stepDefVal (stepDef : StepDef (Dict Json)) : PyVal :=
  stepDict (.str stepDef.stepId) stepDef.action (.str stepDef.version) (pyItems stepDef.params)
    (.int stepDef.retry) (intVal stepDef.timeoutSeconds) (intVal stepDef.stallSeconds)

/-- A lifecycle that was built from the rows, as a dictionary. -/
def lifecycleVal (l : Lifecycle (Dict Json)) : PyVal :=
  lifecycleDict (l.init.map stepDefVal) (l.teardown.map stepDefVal)
    (l.patrol.map fun p => (.int p.1, p.2.map stepDefVal)) (intVal l.timeoutSeconds)
    (intVal l.barrierTimeoutSeconds) (intVal l.barrierMaxWaitSeconds)

/-! ### From the snapshot -/

/-- What building from a snapshot may raise. -/
inductive SnapshotError where
  /-- `PlanDispatchError`. -/
  | dispatch (message : String)
  /-- Anything else. -/
  | raised (e : PyError)

/-- What is false counts as an empty mapping; anything else that is no mapping raises. -/
def falsyOrMapping (e : PyError) (v : PyVal) : Except SnapshotError PyDict :=
  if v.truthy then
    match v.asDict? with
    | some d => .ok d
    | none => .error (.raised e)
  else .ok []

/-- `field["default"]` of the fields that have one. -/
def fieldDefault (field : PyVal) : Option PyVal := field.asDict?.bind (·.lookup "default")

/-- `merge_effective_params`, on values. -/
def mergeParams (paramSchema defaultParams stepParams : PyVal) : Except SnapshotError PyDict := do
  let schema ← falsyOrMapping .attributeError paramSchema
  let merged : PyDict := schema.filterMap fun p => (fieldDefault p.2).map fun w => (p.1, w)
  let defaults ← falsyOrMapping .typeError defaultParams
  let params ← falsyOrMapping .typeError stepParams
  return (merged.update defaults).update params

/-- What the steps of a snapshot are sorted by. Stages that are no strings and places that are no
integers are taken as not comparable. -/
def snapshotSortKey (item : PyVal) : Except SnapshotError (String ×ₗ ℤ) :=
  match item.asDict? with
  | none => .error (.raised .attributeError)
  | some step =>
    match (step.lookup "stage").getD (.str ""), (step.lookup "sort_order").getD (.int 0) with
    | .str stage, .int sortOrder => .ok (toLex (stage, sortOrder))
    | _, _ => .error (.raised .typeError)

/-- The steps of a snapshot, sorted. -/
def sortSnapshotSteps (items : List PyVal) : Except SnapshotError (List PyVal) := do
  let keyed ← items.mapM fun item => (snapshotSortKey item).map (·, item)
  return (sortBy Prod.fst keyed).map Prod.snd

/-- The steps of each stage, as dictionaries. -/
structure StageVals where
  init : List PyVal := []
  teardown : List PyVal := []
  patrol : List PyVal := []

/-- Put a step into its stage. -/
def StageVals.put (stages : StageVals) (stage : String) (stepDef : PyVal) : StageVals :=
  if stage = "patrol" then { stages with patrol := stages.patrol ++ [stepDef] }
  else if stage = "init" then { stages with init := stages.init ++ [stepDef] }
  else { stages with teardown := stages.teardown ++ [stepDef] }

/-- `enabled is False`. -/
def isDisabled : PyVal → Bool
  | .bool b => !b
  | _ => false

/-- Add one step of a snapshot. -/
def addSnapshotStep (stages : StageVals) (item : PyVal) : Except SnapshotError StageVals :=
  let step := contextOf item
  let stage := step.get "stage"
  let scriptName := step.get "script_name"
  let scriptVersion := step.get "script_version"
  if isDisabled (step.get "enabled") then .ok stages
  else if !stage.isOneOf ["init", "patrol", "teardown"] then
    .error (.dispatch ("invalid snapshot stage: " ++ stage.pyRepr))
  else if !scriptName.truthy || !scriptVersion.truthy then
    .error (.dispatch "snapshot step is missing script identity")
  else do
    let params ← mergeParams (step.get "param_schema") (step.get "default_params")
      (step.get "params")
    return stages.put (stage.asStr?.getD "") (stepDict (step.get "step_key")
      ("script:" ++ scriptName.pyStr) scriptVersion params
      ((step.lookup "retry").getD (.int 0)) (step.get "timeout_seconds") (step.get "stall_seconds"))

/-- `isinstance(interval, int) and interval >= 1`. -/
def atLeastOne : PyVal → Bool
  | .int z => 1 ≤ z
  | .bool b => b
  | _ => false

/-- The patrol part of a lifecycle built from a snapshot. -/
def snapshotPatrol (planData : PyDict) (patrolSteps : List PyVal) :
    Except SnapshotError (Option (PyVal × List PyVal)) :=
  let interval := planData.get "patrol_interval_seconds"
  if patrolSteps.isEmpty then
    match interval with
    | .null => .ok none
    | _ => .error (.dispatch "snapshot patrol_interval_seconds requires enabled patrol steps")
  else if atLeastOne interval then .ok (some (interval, patrolSteps))
  else .error (.dispatch "snapshot patrol steps require patrol_interval_seconds")

/-- `build_lifecycle_from_snapshot`. -/
def buildLifecycleFromSnapshot (planSnapshot : PyVal) : Except SnapshotError PyVal := do
  let snapshot ← falsyOrMapping .attributeError planSnapshot
  let items ← (((snapshot.get "steps").orElse (.list [])).pyIter).mapError .raised
  let sorted ← sortSnapshotSteps items
  let stages ← sorted.foldlM addSnapshotStep {}
  let planData ← falsyOrMapping .attributeError (snapshot.get "plan")
  let patrol ← snapshotPatrol planData stages.patrol
  return lifecycleDict stages.init stages.teardown patrol (planData.get "timeout_seconds")
    (planData.get "barrier_timeout_seconds") (planData.get "barrier_max_wait_seconds")

/-! ### Parameters -/

/-- A dictionary is read as it is. -/
@[simp] theorem falsyOrMapping_dict (e : PyError) (d : PyDict) :
    falsyOrMapping e (.dict d) = .ok d := by
  cases d with
  | nil => rfl
  | cons p rest => rfl

/-- The default of a field. -/
theorem fieldDefault_jsonVal (v : Json) :
    fieldDefault (jsonVal v) = (v.field "default").map jsonVal := by
  cases v with
  | obj items => exact lookup_jsonItems items "default"
  | _ => rfl

/-- **Merging** is the same on values. -/
theorem mergeParams_eq (paramSchema defaultParams stepParams : Dict Json) :
    mergeParams (.dict (pyItems paramSchema)) (.dict (pyItems defaultParams))
        (.dict (pyItems stepParams)) =
      .ok (pyItems (mergeEffectiveParams (some paramSchema) (some defaultParams)
        (some stepParams))) := by
  rw [mergeParams, falsyOrMapping_dict, falsyOrMapping_dict, falsyOrMapping_dict,
    mergeEffectiveParams]
  dsimp only [Option.getD_some]
  rw [pyItems_update, pyItems_update, pyItems_filterMap fieldDefault_jsonVal]
  rfl

/-- The parameters of the step come last in either builder. -/
theorem update_mergeEffectiveParams (paramSchema defaultParams : Dict Json)
    (stepParams : Dict Json) :
    (mergeEffectiveParams (some paramSchema) (some defaultParams) none).update stepParams =
      mergeEffectiveParams (some paramSchema) (some defaultParams) (some stepParams) := rfl

/-! ### Sorting -/

/-- Sorting twice is sorting once. -/
theorem sortBy_sortBy {α κ : Type*} [LinearOrder κ] (key : α → κ) (l : List α) :
    sortBy key (sortBy key l) = sortBy key l :=
  sortBy_eq_sortBy_iff.mpr fun k => classOf_sortBy key k l

/-- A fallible map that succeeds everywhere. -/
theorem mapM_map_ok {ε α β : Type} {γ : Type} {f : β → Except ε γ} {g : α → β} {h : α → γ}
    (hf : ∀ a, f (g a) = .ok (h a)) (l : List α) : (l.map g).mapM f = .ok (l.map h) := by
  induction l with
  | nil => rfl
  | cons a rest ih =>
      rw [List.map_cons, List.mapM_cons, hf, ih]
      rfl

/-- The steps of a snapshot are sorted like the rows. -/
theorem sortSnapshotSteps_eq (scriptMetadata : String × String → Option ScriptEntry)
    (steps : List PlanStep) :
    sortSnapshotSteps (steps.map fun step => .dict (snapshotStep scriptMetadata step)) =
      .ok ((sortBy lifecycleSortKey steps).map fun step =>
        .dict (snapshotStep scriptMetadata step)) := by
  have hkeys : (steps.map fun step => PyVal.dict (snapshotStep scriptMetadata step)).mapM
      (fun item => (snapshotSortKey item).map (·, item)) =
        .ok (steps.map fun step =>
          (lifecycleSortKey step, PyVal.dict (snapshotStep scriptMetadata step))) := by
    refine mapM_map_ok (fun step => ?_) steps
    rfl
  rw [sortSnapshotSteps, hkeys]
  refine congrArg Except.ok ?_
  rw [← map_sortBy (fun _ => rfl), List.map_map]
  rfl

/-! ### Step by step -/

/-- The stages, as dictionaries. -/
def stageVals (stages : StageSteps) : StageVals where
  init := stages.init.map stepDefVal
  teardown := stages.teardown.map stepDefVal
  patrol := stages.patrol.map stepDefVal

/-- A step goes into the same stage. -/
theorem stageVals_put (stages : StageSteps) {stage : String}
    (hstage : stage ∈ ["init", "patrol", "teardown"]) (stepDef : StepDef (Dict Json)) :
    stageVals (stages.put stage stepDef) = (stageVals stages).put stage (stepDefVal stepDef) := by
  rcases List.mem_cons.mp hstage with rfl | hstage
  · rw [StageSteps.put, if_pos rfl, StageVals.put, if_neg (by decide), if_pos rfl, stageVals,
      List.map_append]
    rfl
  · rcases List.mem_cons.mp hstage with rfl | hstage
    · rw [StageSteps.put, if_neg (by decide), if_neg (by decide), if_pos rfl, StageVals.put,
        if_pos rfl, stageVals, List.map_append]
      rfl
    · obtain rfl := List.mem_singleton.mp hstage
      rw [StageSteps.put, if_neg (by decide), if_pos rfl, StageVals.put, if_neg (by decide),
        if_neg (by decide), stageVals, List.map_append]
      rfl

/-- A step names its script and the version of it. -/
def PlanStep.Named (step : PlanStep) : Prop := step.scriptName ≠ "" ∧ step.scriptVersion ≠ ""

/-- Reading a step of the snapshot. -/
theorem contextOf_snapshotStep (scriptMetadata : String × String → Option ScriptEntry)
    (step : PlanStep) :
    contextOf (.dict (snapshotStep scriptMetadata step)) = snapshotStep scriptMetadata step := rfl

/-- A disabled step is left out. -/
theorem addSnapshotStep_disabled {scriptMetadata : String × String → Option ScriptEntry}
    {step : PlanStep} (h : step.enabled = false) (stages : StageVals) :
    addSnapshotStep stages (.dict (snapshotStep scriptMetadata step)) = .ok stages := by
  have henabled : isDisabled ((snapshotStep scriptMetadata step).get "enabled") = true := by
    show (!step.enabled) = true
    rw [h]
    rfl
  rw [addSnapshotStep.eq_def]
  dsimp only
  rw [contextOf_snapshotStep, henabled, if_pos rfl]

/-- **An enabled step** of a script that is known is added when it is named. -/
theorem addSnapshotStep_enabled {scriptMetadata : String × String → Option ScriptEntry}
    {step : PlanStep} (henabled : step.enabled = true)
    (hstage : step.stage ∈ ["init", "patrol", "teardown"]) {entry : ScriptEntry}
    (hentry : scriptMetadata step.script = some entry) (stages : StageSteps) :
    addSnapshotStep (stageVals stages) (.dict (snapshotStep scriptMetadata step)) =
      if step.scriptName = "" ∨ step.scriptVersion = "" then
        .error (.dispatch "snapshot step is missing script identity")
      else .ok (stageVals (stages.put step.stage (stepDef step
        (mergeEffectiveParams (some entry.paramSchema) (some entry.defaultParams) none)))) := by
  have hon : isDisabled ((snapshotStep scriptMetadata step).get "enabled") = false := by
    show (!step.enabled) = false
    rw [henabled]
    rfl
  have hin : ((snapshotStep scriptMetadata step).get "stage").isOneOf
      ["init", "patrol", "teardown"] = true := by
    show ["init", "patrol", "teardown"].contains step.stage = true
    rw [List.contains_iff_mem]
    exact hstage
  have hname : (snapshotStep scriptMetadata step).get "script_name" = .str step.scriptName := rfl
  have hversion : (snapshotStep scriptMetadata step).get "script_version" =
    .str step.scriptVersion := rfl
  have hschema : (snapshotStep scriptMetadata step).get "param_schema" =
      .dict (pyItems entry.paramSchema) := by
    show PyVal.dict (pyItems (((scriptMetadata step.script).map (·.paramSchema)).getD _)) = _
    rw [hentry]
    rfl
  have hdefaults : (snapshotStep scriptMetadata step).get "default_params" =
      .dict (pyItems entry.defaultParams) := by
    show PyVal.dict (pyItems (((scriptMetadata step.script).map (·.defaultParams)).getD _)) = _
    rw [hentry]
    rfl
  have hparams : (snapshotStep scriptMetadata step).get "params" =
    .dict (pyItems (step.params.getD Dict.empty)) := rfl
  rw [addSnapshotStep.eq_def]
  dsimp only
  rw [contextOf_snapshotStep, hon, if_neg Bool.false_ne_true, hin, if_neg (by decide), hname,
    hversion, hschema, hdefaults, hparams, mergeParams_eq, ← update_mergeEffectiveParams]
  by_cases hnamed : step.scriptName = "" ∨ step.scriptVersion = ""
  · rw [if_pos hnamed, if_pos]
    rcases hnamed with h | h
    · simp [PyVal.truthy, h]
    · simp [PyVal.truthy, h]
  · rw [if_neg hnamed, if_neg, stageVals_put stages hstage]
    · rfl
    · rw [not_or] at hnamed
      simp [PyVal.truthy, hnamed.1, hnamed.2]

/-- The defaults of a script that is known. -/
theorem entryDefaults_eq_some {scriptMetadata : String × String → Option ScriptEntry}
    {script : String × String} {defaults : Dict Json}
    (h : entryDefaults scriptMetadata script = some defaults) :
    ∃ entry, scriptMetadata script = some entry ∧
      defaults = mergeEffectiveParams (some entry.paramSchema) (some entry.defaultParams) none := by
  rw [entryDefaults, scriptDefaults] at h
  obtain ⟨value, hvalue, rfl⟩ := Option.map_eq_some_iff.mp h
  obtain ⟨entry, hentry, rfl⟩ := Option.map_eq_some_iff.mp hvalue
  exact ⟨entry, hentry, rfl⟩

/-- A row that was built in: it is disabled, or its script is known. -/
theorem addStep_eq_ok {defaults : String × String → Option (Dict Json)}
    {stages stages' : StageSteps} {step : PlanStep}
    (h : addStep defaults stages step = .ok stages') :
    step.enabled = false ∧ stages' = stages ∨
      step.enabled = true ∧ ∃ params, defaults step.script = some params ∧
        stages' = stages.put step.stage (stepDef step params) := by
  rw [addStep] at h
  split_ifs at h with henabled
  · cases h
    exact .inl ⟨henabled, rfl⟩
  · cases hparams : defaults step.script with
    | none =>
        rw [hparams] at h
        cases h
    | some params =>
        rw [hparams] at h
        cases h
        exact .inr ⟨by simpa using henabled, params, rfl, rfl⟩

/-- Every enabled step is named. -/
def AllNamed (steps : List PlanStep) : Prop := ∀ step ∈ steps, step.enabled = true → step.Named

/-- One more step. -/
theorem allNamed_cons {step : PlanStep} {rest : List PlanStep} :
    AllNamed (step :: rest) ↔ (step.enabled = true → step.Named) ∧ AllNamed rest :=
  List.forall_mem_cons

/-- **The two loops** run side by side until a step comes that is not named. -/
theorem foldlM_addSnapshotStep {scriptMetadata : String × String → Option ScriptEntry}
    {steps : List PlanStep} (hstages : ∀ step ∈ steps, step.stage ∈ ["init", "patrol", "teardown"])
    {stages stages' : StageSteps}
    (h : steps.foldlM (addStep (entryDefaults scriptMetadata)) stages = .ok stages') :
    (AllNamed steps ∧
        (steps.map fun step => PyVal.dict (snapshotStep scriptMetadata step)).foldlM
          addSnapshotStep (stageVals stages) = .ok (stageVals stages')) ∨
      ¬ AllNamed steps ∧
        ∃ e, (steps.map fun step => PyVal.dict (snapshotStep scriptMetadata step)).foldlM
          addSnapshotStep (stageVals stages) = .error e := by
  induction steps generalizing stages with
  | nil =>
      cases h
      exact .inl ⟨fun step hstep => absurd hstep List.not_mem_nil, rfl⟩
  | cons step rest ih =>
      rw [List.foldlM_cons] at h
      obtain ⟨next, hnext, hrest⟩ := Except.bind_eq_ok_iff.mp h
      rw [List.forall_mem_cons] at hstages
      have hih := ih hstages.2 hrest
      rw [List.map_cons, List.foldlM_cons, allNamed_cons]
      rcases addStep_eq_ok hnext with ⟨hoff, rfl⟩ | ⟨hon, params, hparams, rfl⟩
      · have himp : step.enabled = true → step.Named := fun hon => by
          rw [hoff] at hon
          cases hon
        rw [addSnapshotStep_disabled hoff]
        rcases hih with ⟨hall, hfold⟩ | ⟨hnot, hfold⟩
        · exact .inl ⟨⟨himp, hall⟩, hfold⟩
        · exact .inr ⟨fun hall => hnot hall.2, hfold⟩
      · obtain ⟨entry, hentry, rfl⟩ := entryDefaults_eq_some hparams
        rw [addSnapshotStep_enabled hon hstages.1 hentry]
        by_cases hname : step.scriptName = "" ∨ step.scriptVersion = ""
        · rw [if_pos hname]
          refine .inr ⟨fun hall => ?_, _, rfl⟩
          obtain ⟨hscript, hversion⟩ := hall.1 hon
          rcases hname with h | h
          · exact hscript h
          · exact hversion h
        · rw [if_neg hname]
          have hnamed : step.Named := not_or.mp hname
          rcases hih with ⟨hall, hfold⟩ | ⟨hnot, hfold⟩
          · exact .inl ⟨⟨fun _ => hnamed, hall⟩, hfold⟩
          · exact .inr ⟨fun hall => hnot hall.2, hfold⟩

/-- The patrol has steps when an enabled step is of that stage. -/
theorem patrol_eq_nil_iff {defaults : String × String → Option (Dict Json)} {steps : List PlanStep}
    {stages stages' : StageSteps} (h : steps.foldlM (addStep defaults) stages = .ok stages') :
    stages'.patrol = [] ↔
      stages.patrol = [] ∧ ∀ step ∈ steps, step.enabled = true → step.stage ≠ "patrol" := by
  induction steps generalizing stages with
  | nil =>
      cases h
      simp
  | cons step rest ih =>
      rw [List.foldlM_cons] at h
      obtain ⟨next, hnext, hrest⟩ := Except.bind_eq_ok_iff.mp h
      rw [ih hrest, List.forall_mem_cons]
      rcases addStep_eq_ok hnext with ⟨hoff, rfl⟩ | ⟨hon, params, hparams, rfl⟩
      · simp [hoff]
      · rw [StageSteps.put]
        split_ifs with h₁ h₂ h₃
        · simp [h₁]
        · simp [h₂]
        · simp [h₃, hon]
        · simp [h₃]

/-! ### Preview and execution -/

/-- **The patrol part** is the same when its interval is at least a second. -/
theorem snapshotPatrol_eq {plan : Plan} {patrol : List (StepDef (Dict Json))}
    {part : Option (ℤ × List (StepDef (Dict Json)))} (h : patrolPart plan patrol = .ok part) :
    snapshotPatrol (snapshotPlan plan) (patrol.map stepDefVal) =
      if patrol ≠ [] ∧ ∃ z, plan.patrolIntervalSeconds = some z ∧ z < 1 then
        .error (.dispatch "snapshot patrol steps require patrol_interval_seconds")
      else .ok (part.map fun p => (.int p.1, p.2.map stepDefVal)) := by
  have hinterval : (snapshotPlan plan).get "patrol_interval_seconds" =
    intVal plan.patrolIntervalSeconds := rfl
  rw [patrolPart] at h
  rw [snapshotPatrol.eq_def]
  dsimp only
  rw [hinterval]
  cases patrol with
  | nil =>
      cases hplan : plan.patrolIntervalSeconds with
      | none =>
          rw [hplan] at h
          cases h
          rfl
      | some z =>
          rw [hplan] at h
          cases h
  | cons first rest =>
      cases hplan : plan.patrolIntervalSeconds with
      | none =>
          rw [hplan] at h
          cases h
      | some z =>
          rw [hplan] at h
          cases h
          by_cases hz : z < 1
          · have hbad : (first :: rest ≠ [] ∧ ∃ z', some z = some z' ∧ z' < 1) :=
              ⟨List.cons_ne_nil _ _, z, rfl, hz⟩
            rw [if_pos hbad]
            simp [intVal, atLeastOne, hz]
          · have hgood : ¬ (first :: rest ≠ [] ∧ ∃ z', some z = some z' ∧ z' < 1) := by
              rintro ⟨-, z', hz', hlt⟩
              cases hz'
              exact hz hlt
            have hle : 1 ≤ z := Int.not_lt.mp hz
            rw [if_neg hgood]
            simp [intVal, atLeastOne, hle]

/-- What a plan must meet for its snapshot to be accepted. -/
structure RunsFromSnapshot (plan : Plan) (steps : List PlanStep) : Prop where
  named : AllNamed steps
  interval : (∃ step ∈ steps, step.enabled = true ∧ step.stage = "patrol") →
    ∀ z, plan.patrolIntervalSeconds = some z → 1 ≤ z

/-- What is built from a snapshot that was just made. -/
theorem buildLifecycleFromSnapshot_eq (plan : Plan) (steps : List PlanStep)
    (scriptMetadata : String × String → Option ScriptEntry) :
    buildLifecycleFromSnapshot (buildPlanSnapshot plan steps scriptMetadata) = (do
      let stages ← ((sortBy lifecycleSortKey steps).map fun step =>
        PyVal.dict (snapshotStep scriptMetadata step)).foldlM addSnapshotStep {}
      let patrol ← snapshotPatrol (snapshotPlan plan) stages.patrol
      return lifecycleDict stages.init stages.teardown patrol (intVal plan.timeoutSeconds)
        (intVal plan.barrierTimeoutSeconds) (intVal plan.barrierMaxWaitSeconds)) := by
  have hsteps : ∀ xs : List PyVal, (PyVal.list xs).orElse (.list []) = .list xs := by
    intro xs
    cases xs with
    | nil => rfl
    | cons x rest => rfl
  have hsorted := sortSnapshotSteps_eq scriptMetadata (sortBy lifecycleSortKey steps)
  rw [sortBy_sortBy] at hsorted
  have hget : PyDict.get [("plan", .dict (snapshotPlan plan)),
      ("steps", .list ((sortBy lifecycleSortKey steps).map fun step =>
        PyVal.dict (snapshotStep scriptMetadata step)))] "steps" =
      .list ((sortBy lifecycleSortKey steps).map fun step =>
        PyVal.dict (snapshotStep scriptMetadata step)) := rfl
  have hplan : PyDict.get [("plan", .dict (snapshotPlan plan)),
      ("steps", .list ((sortBy lifecycleSortKey steps).map fun step =>
        PyVal.dict (snapshotStep scriptMetadata step)))] "plan" = .dict (snapshotPlan plan) := rfl
  rw [buildLifecycleFromSnapshot, buildPlanSnapshot, falsyOrMapping_dict]
  simp only [bind, Except.bind]
  rw [hget, hsteps, hplan]
  simp only [PyVal.pyIter, Except.mapError, hsorted, falsyOrMapping_dict]
  rfl

namespace SnapshotExample

/-- A plan with a patrol. -/
def plan (interval : ℤ) : Plan where
  id := 1
  name := "plan"
  description := none
  patrolIntervalSeconds := some interval
  timeoutSeconds := none
  barrierTimeoutSeconds := none
  barrierMaxWaitSeconds := none
  autoArchiveIntervalSeconds := none
  watcherPolicy := .null
  nextPlanId := none
  projectId := none
  specialtyId := none
  suiteId := none
  createdBy := none
  updatedAt := 0

/-- Its only step. -/
def step : PlanStep where
  id := 1
  planId := 1
  stepKey := "check"
  scriptName := "monkey_check"
  scriptVersion := "1.0.0"
  stage := "patrol"
  sortOrder := 0
  timeoutSeconds := none
  stallSeconds := none
  params := none
  retry := 0
  enabled := true
  createdAt := 0

/-- A script without parameters. -/
def scripts (_ : String × String) : Option ScriptEntry := some ⟨⟨Dict.empty, Dict.empty⟩, ""⟩

/-- What is previewed. -/
def preview (interval : ℤ) : Lifecycle (Dict Json) where
  init := []
  teardown := []
  patrol := some (interval, [stepDef step Dict.empty])
  timeoutSeconds := none
  barrierTimeoutSeconds := none
  barrierMaxWaitSeconds := none

/-- The preview of any interval goes through. -/
theorem preview_ok (interval : ℤ) :
    buildLifecycleFromSteps (plan interval) [step] (entryDefaults scripts) =
      .ok (preview interval) := rfl

/-- The stage is one of the three. -/
theorem step_stages : ∀ s ∈ [step], s.stage ∈ ["init", "patrol", "teardown"] := by
  intro s hs
  obtain rfl := List.mem_singleton.mp hs
  exact List.mem_cons_of_mem _ List.mem_cons_self

end SnapshotExample

end StabilityPlatform
