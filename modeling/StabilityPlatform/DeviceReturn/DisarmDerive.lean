import StabilityPlatform.Core.Models

/-!
# Disarm results from traces

Jobs that ended without storing disarm results still left step traces. A footprint is any
trace of an init step of a family; the result of the family is the last terminal trace of
its teardown's disarm steps in the order in which they occurred, and an interrupted one
when the last word is that it started.

## Main results

* `deriveDisarmResultsFromTraces`: the derivation, family by family.
-/

namespace StabilityPlatform

open Lib

/-- The steps of a stage of a pipeline, those that are mappings. -/
def pipelineStepsByStage (pipelineDef : PyVal) (stage : String) : List PyDict :=
  match pipelineDef.asDict? with
  | none => []
  | some pipeline =>
    match ((PyDict.get pipeline "lifecycle").orElse (.dict [])).asDict? with
    | none => []
    | some lifecycle =>
      let steps := (PyDict.get lifecycle stage).orElse (.list [])
      let steps := match steps with
        | .dict d => (PyDict.get d "steps").orElse (.list [])
        | v => v
      (steps.asList?.getD []).filterMap PyVal.asDict?

/-- The stages whose steps have traces. -/
def tracedStages : List String := ["init", "teardown", "patrol"]

/-- Remember the script of a step under its id. -/
def recordStep (mapping : Dict String) (step : PyDict) : Dict String :=
  let sid := (PyDict.get step "step_id").orElse (.str "")
  let script := scriptNameFromStep step
  if sid.truthy && script ≠ "" then mapping.set sid.pyStr script else mapping

/-- The script each step id of a pipeline runs. -/
def stepIdToScript (pipelineDef : PyVal) : Dict String :=
  (tracedStages.flatMap (pipelineStepsByStage pipelineDef)).foldl recordStep Dict.empty

/-- The statuses that say a step succeeded. -/
def succeededStatuses : List String := ["COMPLETED", "FINISHED", "SUCCESS", "OK"]

/-- The statuses that say a step failed. -/
def failedStatuses : List String := ["FAILED", "ERROR", "ABORTED", "CANCELLED", "CANCELED"]

/-- The result the terminal trace of a disarm step stands for. -/
def mapTraceToDisarmResult (status : String) (exitCode : Option ℤ) : DisarmResult :=
  let st := pyUpper (pyStrip status)
  if exitCode.any platformInterruptedExitCodes.contains then .incomplete
  else if succeededStatuses.contains st then .executedUnverified
  else if failedStatuses.contains st then
    if exitCode.any [143, -15, 137, -9].contains then .incomplete else .failed
  else .notExecuted

/-- Whether a status ends a disarm step. -/
def isDisarmTerminalStatus (status : String) : Bool :=
  let st := pyUpper (pyStrip status)
  succeededStatuses.contains st || failedStatuses.contains st

/-- Traces in the order in which they occurred: by event time, then by record time, then by
key. -/
def occursBefore (a b : StepTrace) : Prop :=
  a.originalTs < b.originalTs ∨ (a.originalTs = b.originalTs ∧
    (a.createdAt < b.createdAt ∨ (a.createdAt = b.createdAt ∧ a.id ≤ b.id)))

instance : DecidableRel occursBefore := fun _ _ => inferInstanceAs (Decidable (_ ∨ _))

/-- The script a trace is of. -/
def scriptOfTrace (idToScript : Dict String) (tr : StepTrace) : String :=
  (idToScript.get? tr.stepId).getD ""

/-- The teardown step with a given id; the last one wins. -/
def teardownStep (pipelineDef : PyVal) (stepId : String) : PyDict :=
  (((pipelineStepsByStage pipelineDef "teardown").filter fun s =>
    (PyDict.get s "step_id").strOrEmpty = stepId).getLast?).getD []

/-- The family a trace is disarm evidence for. -/
def disarmFamilyOfTrace (pipelineDef : PyVal) (tr : StepTrace) : Option String :=
  if tr.stage = "teardown" then
    familyForDisarmScript (scriptOfTrace (stepIdToScript pipelineDef) tr)
      (stepVersionOf (teardownStep pipelineDef tr.stepId))
  else none

/-- The family a trace is footprint evidence for. -/
def footprintFamilyOfTrace (pipelineDef : PyVal) (tr : StepTrace) : Option String :=
  if tr.stage = "init" then
    familyForFootprintScript (scriptOfTrace (stepIdToScript pipelineDef) tr)
  else none

/-- The last word on a disarm: a trace with the result it stands for. -/
def lastWord (word : Option (StepTrace × DisarmResult)) (tr : StepTrace) :
    Option (StepTrace × DisarmResult) :=
  if isDisarmTerminalStatus tr.status then
    some (tr, mapTraceToDisarmResult tr.status tr.exitCode)
  else if ["STARTED", "RUNNING"].contains (pyUpper tr.status) then some (tr, .incomplete)
  else word

/-- The entry derived for a family from its disarm traces. -/
def derivedEntry (events : List StepTrace) : PyDict :=
  match (events.insertionSort occursBefore).foldl lastWord none with
  | none =>
    [("result", .str DisarmResult.notExecuted.value), ("step_id", .str ""),
      ("exit_code", .null), ("readback_summary", .str "")]
  | some (tr, result) =>
    [("result", .str result.value), ("step_id", .str tr.stepId),
      ("exit_code", (tr.exitCode.map PyVal.int).getD .null),
      ("readback_summary", .str "")] ++
      if tr.exitCode.any [124, 125].contains then
        [("reason", .str "legacy_reserved_exit")]
      else []

/-- The disarm results the traces of a job stand for, families in alphabetical order. -/
def deriveDisarmResultsFromTraces (pipelineDef : PyVal) (traces : List StepTrace) :
    Dict PyDict :=
  let families := (traces.filterMap (footprintFamilyOfTrace pipelineDef) ++
    traces.filterMap (disarmFamilyOfTrace pipelineDef)).dedup
  (families.insertionSort (· ≤ ·)).foldl (fun out family => out.set family
    (derivedEntry (traces.filter fun tr => disarmFamilyOfTrace pipelineDef tr = some family)))
    Dict.empty

end StabilityPlatform
