import StabilityPlatform.Lib.Dict
import StabilityPlatform.Lib.Fold
import StabilityPlatform.Lib.Json
import StabilityPlatform.PlanRun.Admission

/-!
# The confirmation of a plan

A plan is previewed, confirmed and prepared. The preview hands out a fingerprint of the
configuration it showed, and preparing compares it with the fingerprint of what it reads
itself. Apart from that, the steps are built into the lifecycle the agents run.

## Main results

* `canonicalConfirmationDocument`, `confirmationFingerprint`: what is confirmed.
* `assertConfirmationMatches`: the comparison.
* `buildLifecycleFromSteps`: what runs.
-/

namespace StabilityPlatform

open Lib

/-! ### Rows -/

/-- A plan. -/
structure Plan where
  id : ℤ
  name : String
  description : Option String
  patrolIntervalSeconds : Option ℤ
  timeoutSeconds : Option ℤ
  barrierTimeoutSeconds : Option ℤ
  barrierMaxWaitSeconds : Option ℤ
  autoArchiveIntervalSeconds : Option ℤ
  watcherPolicy : Json
  nextPlanId : Option ℤ
  projectId : Option ℤ
  specialtyId : Option ℤ
  suiteId : Option ℤ
  createdBy : Option String
  updatedAt : Time

/-- A step of a plan. -/
structure PlanStep where
  id : ℤ
  planId : ℤ
  stepKey : String
  scriptName : String
  scriptVersion : String
  /-- `init`, `patrol` or `teardown`. -/
  stage : String
  sortOrder : ℤ
  timeoutSeconds : Option ℤ
  stallSeconds : Option ℤ
  params : Option (Dict Json)
  retry : ℤ
  enabled : Bool
  createdAt : Time

/-- The script of a step. -/
def PlanStep.script (step : PlanStep) : String × String := (step.scriptName, step.scriptVersion)

/-- What is known of an active script. -/
structure ScriptMetadata where
  paramSchema : Dict Json
  defaultParams : Dict Json

/-- A plan with its steps, in the order the database gave them, and the scripts they use. The
constraints of the table hold: primary keys are unique, so are the names of the steps of a plan,
and there are three stages. -/
structure PlanGraph where
  plan : Plan
  steps : List PlanStep
  scriptMetadata : String × String → Option ScriptMetadata
  ids : (steps.map PlanStep.id).Nodup
  stepKeys : (steps.map PlanStep.stepKey).Nodup
  stages : ∀ step ∈ steps, step.stage ∈ ["init", "patrol", "teardown"]

/-! ### The confirmed document -/

/-- A nullable integer column. -/
def intColumn (z : Option ℤ) : Json := z.elim .null .int

/-- A nullable text column. -/
def textColumn (s : Option String) : Json := s.elim .null .str

/-- The defaults of a schema, without labels and descriptions. -/
def schemaDefaults (paramSchema : Option (Dict Json)) : Dict Json :=
  (paramSchema.getD Dict.empty).filterMap fun field => field.field "default"

/-- The order of the steps in the document. -/
def stepSortKey (step : PlanStep) : String ×ₗ ℤ ×ₗ String ×ₗ ℤ :=
  toLex (step.stage, toLex (step.sortOrder, toLex (step.stepKey, step.id)))

/-- The plan in the document. -/
def planDoc (plan : Plan) : Json :=
  .obj [("id", .int plan.id), ("name", .str plan.name),
    ("description", textColumn plan.description),
    ("patrol_interval_seconds", intColumn plan.patrolIntervalSeconds),
    ("timeout_seconds", intColumn plan.timeoutSeconds),
    ("barrier_timeout_seconds", intColumn plan.barrierTimeoutSeconds),
    ("barrier_max_wait_seconds", intColumn plan.barrierMaxWaitSeconds),
    ("auto_archive_interval_seconds", intColumn plan.autoArchiveIntervalSeconds),
    ("watcher_policy", plan.watcherPolicy), ("next_plan_id", intColumn plan.nextPlanId),
    ("project_id", intColumn plan.projectId), ("specialty_id", intColumn plan.specialtyId),
    ("suite_id", intColumn plan.suiteId), ("created_by", textColumn plan.createdBy),
    ("updated_at", .str (utcText plan.updatedAt))]

/-- A step in the document. -/
def stepDoc (step : PlanStep) : Json :=
  .obj [("id", .int step.id), ("plan_id", .int step.planId), ("step_key", .str step.stepKey),
    ("script_name", .str step.scriptName), ("script_version", .str step.scriptVersion),
    ("stage", .str step.stage), ("sort_order", .int step.sortOrder),
    ("timeout_seconds", intColumn step.timeoutSeconds),
    ("stall_seconds", intColumn step.stallSeconds),
    ("params", step.params.elim .null fun params => .obj params.items),
    ("retry", .int step.retry), ("enabled", .bool step.enabled),
    ("created_at", .str (utcText step.createdAt))]

/-- A script in the document; a script that is not known has no defaults. -/
def scriptDoc (scriptMetadata : String × String → Option ScriptMetadata)
    (script : String × String) : Json :=
  let metadata := scriptMetadata script
  .obj [("name", .str script.1), ("version", .str script.2),
    ("schema_defaults", .obj (schemaDefaults (metadata.map ScriptMetadata.paramSchema)).items),
    ("default_params", .obj ((metadata.map ScriptMetadata.defaultParams).getD Dict.empty).items)]

/-- The scripts the steps refer to, sorted. -/
def referenced (steps : List PlanStep) : List (String × String) :=
  sortBy toLex (steps.map PlanStep.script).dedup

/-- What is confirmed. -/
def canonicalConfirmationDocument (g : PlanGraph) : Json :=
  .obj [("plan", planDoc g.plan), ("steps", .list ((sortBy stepSortKey g.steps).map stepDoc)),
    ("scripts", .list ((referenced g.steps).map (scriptDoc g.scriptMetadata)))]

/-- What every fingerprint starts with. -/
def FINGERPRINT_PREFIX : String := "stp-l1-v1:"

/-- What is hashed in front of the document. -/
def DOMAIN_SEPARATOR : String := "stp-plan-confirmation-v1"

/-- What is hashed. -/
def confirmationMessage (g : PlanGraph) : ByteArray :=
  (DOMAIN_SEPARATOR ++ String.singleton (Char.ofNat 0) ++
    (canonicalConfirmationDocument g).dumps).toUTF8

/-- The fingerprint of a configuration. `digest` is the hexadecimal HMAC-SHA256 of a message
under the key of the server. -/
def confirmationFingerprint (digest : ByteArray → String) (g : PlanGraph) : String :=
  FINGERPRINT_PREFIX ++ digest (confirmationMessage g)

/-- The errors of preparing a plan. -/
inductive PlanDispatchError where
  | dispatch (message : String)
  | confirmationChanged (message : String)
  deriving DecidableEq, Repr

/-- Compare the presented fingerprint, if there is one, with what is read now. -/
def assertConfirmationMatches (digest : ByteArray → String) (g : PlanGraph)
    (presented : Option String) : Except PlanDispatchError Unit :=
  match presented with
  | none => .ok ()
  | some fingerprint =>
    if confirmationFingerprint digest g = fingerprint then .ok ()
    else .error (.confirmationChanged "计划配置已变化，请重新预览并确认")

/-! ### The lifecycle -/

/-- What an agent runs for a step. -/
structure StepDef (π : Type*) where
  stepId : String
  action : String
  version : String
  params : π
  retry : ℤ
  timeoutSeconds : Option ℤ
  stallSeconds : Option ℤ

/-- What an agent runs. -/
structure Lifecycle (π : Type*) where
  init : List (StepDef π)
  teardown : List (StepDef π)
  patrol : Option (ℤ × List (StepDef π))
  timeoutSeconds : Option ℤ
  barrierTimeoutSeconds : Option ℤ
  barrierMaxWaitSeconds : Option ℤ

/-- The steps of each stage. -/
structure StageSteps where
  init : List (StepDef (Dict Json)) := []
  teardown : List (StepDef (Dict Json)) := []
  patrol : List (StepDef (Dict Json)) := []

/-- The effective parameters: schema defaults, under default parameters, under those of the
step. -/
def mergeEffectiveParams (paramSchema defaultParams stepParams : Option (Dict Json)) :
    Dict Json :=
  let merged := (paramSchema.getD Dict.empty).filterMap fun field => field.field "default"
  let merged := merged.update (defaultParams.getD Dict.empty)
  merged.update (stepParams.getD Dict.empty)

/-- The effective defaults of the scripts. -/
def scriptDefaults (scriptMetadata : String × String → Option ScriptMetadata)
    (script : String × String) : Option (Dict Json) :=
  (scriptMetadata script).map fun value =>
    mergeEffectiveParams (some value.paramSchema) (some value.defaultParams) none

/-- What an agent runs for a step of a script with these defaults. -/
def stepDef (step : PlanStep) (defaultParams : Dict Json) : StepDef (Dict Json) where
  stepId := step.stepKey
  action := "script:" ++ step.scriptName
  version := step.scriptVersion
  params := defaultParams.update (step.params.getD Dict.empty)
  retry := step.retry
  timeoutSeconds := step.timeoutSeconds
  stallSeconds := step.stallSeconds

/-- The order of the steps in the lifecycle. -/
def lifecycleSortKey (step : PlanStep) : String ×ₗ ℤ := toLex (step.stage, step.sortOrder)

/-- Put a step into its stage. -/
def StageSteps.put (stages : StageSteps) (stage : String) (def' : StepDef (Dict Json)) :
    StageSteps :=
  if stage = "init" then { stages with init := stages.init ++ [def'] }
  else if stage = "teardown" then { stages with teardown := stages.teardown ++ [def'] }
  else if stage = "patrol" then { stages with patrol := stages.patrol ++ [def'] }
  else stages

/-- Add one step. -/
def addStep (defaults : String × String → Option (Dict Json)) (stages : StageSteps)
    (step : PlanStep) : Except PlanDispatchError StageSteps :=
  if step.enabled = false then .ok stages
  else match defaults step.script with
    | none => .error (.dispatch ("Script " ++ step.scriptName ++ "@" ++ step.scriptVersion ++
        " referenced by step '" ++ step.stepKey ++ "' is not found or has been deactivated. " ++
        "Update the step to an active version before dispatching."))
    | some defaultParams => .ok (stages.put step.stage (stepDef step defaultParams))

/-- The patrol part of the lifecycle. -/
def patrolPart (plan : Plan) (patrolSteps : List (StepDef (Dict Json))) :
    Except PlanDispatchError (Option (ℤ × List (StepDef (Dict Json)))) :=
  if patrolSteps.isEmpty then
    match plan.patrolIntervalSeconds with
    | none => .ok none
    | some _ => .error (.dispatch "patrol_interval_seconds requires enabled patrol steps")
  else
    match plan.patrolIntervalSeconds with
    | none => .error (.dispatch "enabled patrol steps require patrol_interval_seconds")
    | some interval => .ok (some (interval, patrolSteps))

/-- Build what runs. -/
def buildLifecycleFromSteps (plan : Plan) (steps : List PlanStep)
    (defaults : String × String → Option (Dict Json)) :
    Except PlanDispatchError (Lifecycle (Dict Json)) := do
  let stages ← (sortBy lifecycleSortKey steps).foldlM (addStep defaults) {}
  let patrol ← patrolPart plan stages.patrol
  return {
    init := stages.init
    teardown := stages.teardown
    patrol := patrol
    timeoutSeconds := plan.timeoutSeconds
    barrierTimeoutSeconds := plan.barrierTimeoutSeconds
    barrierMaxWaitSeconds := plan.barrierMaxWaitSeconds }

/-- What runs for a configuration. -/
def PlanGraph.lifecycle (g : PlanGraph) : Except PlanDispatchError (Lifecycle (Dict Json)) :=
  buildLifecycleFromSteps g.plan g.steps (scriptDefaults g.scriptMetadata)

end StabilityPlatform
