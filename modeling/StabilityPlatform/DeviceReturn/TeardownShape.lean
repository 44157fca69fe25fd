import StabilityPlatform.Contract.DeviceReturn
import StabilityPlatform.Lib.Fold
import StabilityPlatform.PlanRun.Classification
import StabilityPlatform.PlanRun.Confirmation

/-!
# The shape of a teardown

A plan that leaves footprints of an onboarded family is saved only when its teardown has the
family's disarm step, at its lowest version or above, and collects with a version that is high
enough. Its run classifies the same steps again, by other rules: which of them disarm is decided by
the versions that are registered.

## Main results

* `validateOnboardedTeardownShape`: the check of a plan that is saved.
* `versionKey_ne_nil_of_atLeast`, `role_disarmScript`: a version that is high enough disarms.
* `role_finishScript`: a finish that is high enough only collects when its version is registered.
* `accepted_disarms`: **an accepted plan can be disarmed**, and which finish steps disarm too.
-/

namespace StabilityPlatform

open Lib

/-! ### Versions -/

/-- `a <= b` of tuples. -/
def tupleLe : List ℕ → List ℕ → Bool
  | [], _ => true
  | _ :: _, [] => false
  | a :: as, b :: bs => a < b || (a == b && tupleLe as bs)

/-- A key with zeros up to a length. -/
def padKey (n : ℕ) (key : List ℕ) : List ℕ := key ++ List.replicate (n - key.length) 0

/-- Whether a key is at least another: both have segments, and the shorter one is padded. -/
def keyAtLeast (vk mk : List ℕ) : Bool :=
  !vk.isEmpty && !mk.isEmpty &&
    tupleLe (padKey (max vk.length mk.length) mk) (padKey (max vk.length mk.length) vk)

/-- `version_at_least`. -/
def versionAtLeast (version minimum : String) : Bool :=
  keyAtLeast (versionKey version) (versionKey minimum)

/-! ### Steps of a plan -/

/-- `_step_enabled`. -/
def stepEnabled (step : PyDict) : Bool := !((PyDict.get step "enabled") matches .bool false)

/-- `_step_stage`. -/
def stepStage (step : PyDict) : String :=
  pyLower (pyStrip ((PyDict.get step "stage").orElse
    ((PyDict.get step "phase").orElse (.str ""))).pyStr)

/-- The script a step of a plan names: by its name, or by its action. -/
def planScriptVal (step : PyDict) : PyVal :=
  (PyDict.get step "script_name").orElse (.str (scriptNameFromStep step))

/-- The same as text. -/
def planScript (step : PyDict) : String := (planScriptVal step).strOrEmpty

/-- The name of a step of a plan. -/
def planStepKey (step : PyDict) : PyVal :=
  (PyDict.get step "step_key").orElse (PyDict.get step "step_id")

/-- A step that leaves a footprint of a family: it is enabled, and runs first or says no stage. -/
def isFootprintStep (family : FamilySpec) (step : PyDict) : Bool :=
  (planScriptVal step).isOneOf family.footprint && stepEnabled step &&
    (stepStage step = "" || stepStage step = "init")

/-- A step of the teardown, or of no stage. -/
def isTeardownStep (step : PyDict) : Bool := stepStage step = "" || stepStage step = "teardown"

/-- A related step of a teardown, as it is reported. -/
structure TeardownStepEntry where
  stepKey : String
  scriptName : String
  scriptVersion : String
  enabled : Bool
  role : Option StepRole

/-- Why a teardown is refused. -/
inductive TeardownReason where
  | disarmMissing
  | disarmDisabled
  | disarmBelowMin
  | finishBelowMin
  deriving DecidableEq, Repr

/-- The reason as it is written. -/
def TeardownReason.value : TeardownReason → String
  | disarmMissing => "disarm_missing"
  | disarmDisabled => "disarm_disabled"
  | disarmBelowMin => "disarm_below_min_version"
  | finishBelowMin => "finish_below_min_version"

/-- A violation. -/
structure TeardownViolation where
  family : String
  footprintStepKeys : List String
  requiredDisarmScript : String
  disarmMinVersion : String
  finishMinVersion : String
  teardownSteps : List TeardownStepEntry
  reason : TeardownReason

/-- The related steps of a teardown. -/
def relatedSteps (spec : OnboardedSpec) (steps : List PyDict) : List PyDict :=
  steps.filter fun s =>
    (planScript s = spec.disarmScript || planScript s = spec.finishScript) && isTeardownStep s

/-- A related step, as it is reported. -/
def teardownStepEntry (step : PyDict) : TeardownStepEntry where
  stepKey := (planStepKey step).strOrEmpty
  scriptName := planScript step
  scriptVersion := stepVersionOf step
  enabled := stepEnabled step
  role := stepTeardownRole (planScript step) (stepVersionOf step)

/-- What is wrong with the disarm steps. -/
def disarmReason (spec : OnboardedSpec) (related : List PyDict) : List TeardownReason :=
  let disarmSteps := related.filter fun s => planScript s = spec.disarmScript
  if disarmSteps.isEmpty then [.disarmMissing]
  else if (disarmSteps.filter stepEnabled).isEmpty then [.disarmDisabled]
  else if (disarmSteps.filter stepEnabled).any fun s =>
    versionAtLeast (stepVersionOf s) spec.disarmMinVersion then []
  else [.disarmBelowMin]

/-- What is wrong with the finish steps. -/
def finishReason (spec : OnboardedSpec) (related : List PyDict) : List TeardownReason :=
  if ((related.filter fun s => planScript s = spec.finishScript).filter stepEnabled).any fun s =>
    !versionAtLeast (stepVersionOf s) spec.finishMinVersion then [.finishBelowMin] else []

/-- What is wrong with the teardown of one family. A script name that has no hash raises. -/
def familyViolations (steps : List PyDict) (family : String) (spec : OnboardedSpec) :
    Except PyError (List TeardownViolation) :=
  match familySteps.lookup family with
  | none => .ok []
  | some familySpec =>
    if spec.disarmScript = "" ∨ spec.disarmMinVersion = "" then .ok []
    else if steps.any fun s => !(planScriptVal s).isHashable then .error .typeError
    else
      let footprintSteps := steps.filter (isFootprintStep familySpec)
      if footprintSteps.isEmpty then .ok []
      else
        let related := relatedSteps spec steps
        .ok ((disarmReason spec related ++ finishReason spec related).map fun reason =>
          { family := family
            footprintStepKeys := footprintSteps.map fun s =>
              ((planStepKey s).orElse (planScriptVal s)).pyStr
            requiredDisarmScript := spec.disarmScript
            disarmMinVersion := spec.disarmMinVersion
            finishMinVersion := spec.finishMinVersion
            teardownSteps := related.map teardownStepEntry
            reason := reason })

/-- `validate_onboarded_teardown_shape`. -/
def validateOnboardedTeardownShape (registry : List (String × OnboardedSpec))
    (steps : List PyVal) : Except PyError (List TeardownViolation) := do
  let violations ← registry.mapM fun p =>
    familyViolations (steps.filterMap PyVal.asDict?) p.1 p.2
  return violations.flatten

/-! ### The teardown of a run -/

/-- A step as the agent runs it. -/
def engineStep (step : PyDict) : PyDict :=
  [("step_id", .str (planStepKey step).strOrEmpty), ("action", .str ("script:" ++ planScript step)),
    ("version", .str (stepVersionOf step))]

/-- The enabled steps of the teardown. -/
def enabledTeardown (steps : List PyVal) : List PyDict :=
  (steps.filterMap PyVal.asDict?).filter fun s => isTeardownStep s && stepEnabled s

/-- `_validate_onboarded_teardown`: a step of a plan as it is checked. -/
def shapeStep (step : PlanStep) : PyDict :=
  [("step_key", .str step.stepKey), ("script_name", .str step.scriptName),
    ("script_version", .str step.scriptVersion), ("stage", .str step.stage),
    ("enabled", .bool step.enabled)]

/-- The disarm steps of the run of a plan. -/
def runDisarmSteps (steps : List PyVal) (footprintFamilies : List String) : List PyDict :=
  selectDisarmSteps ((enabledTeardown steps).map fun s => .dict (engineStep s)) footprintFamilies

/-- Whether a finish of a version is registered as collecting only. -/
def collectOnly (spec : OnboardedSpec) (version : String) : Bool :=
  (finishCollectOnlyVersions.lookup spec.finishScript).any (·.contains version)

/-! ### What is checked -/

/-- No violation: every family of the registry is in order. -/
theorem familyViolations_of_validate {registry : List (String × OnboardedSpec)}
    {steps : List PyVal} (h : validateOnboardedTeardownShape registry steps = .ok [])
    {p : String × OnboardedSpec} (hp : p ∈ registry) :
    familyViolations (steps.filterMap PyVal.asDict?) p.1 p.2 = .ok [] := by
  rw [validateOnboardedTeardownShape] at h
  obtain ⟨violations, hviolations, h⟩ := Except.bind_eq_ok_iff.mp h
  have hflat : violations.flatten = [] := Except.ok.inj h
  obtain ⟨l, hl, hfamily⟩ := exists_right_of_forall₂ (mapM_eq_ok_iff.mp hviolations) hp
  rw [List.flatten_eq_nil_iff.mp hflat l hl] at hfamily
  exact hfamily

section Family

variable {steps : List PyDict} {family : String} {spec : OnboardedSpec} {familySpec : FamilySpec}

/-- A family in order that leaves a footprint: its disarm and finish steps are. -/
theorem reasons_of_familyViolations (h : familyViolations steps family spec = .ok [])
    (hfamily : familySteps.lookup family = some familySpec)
    (hscript : spec.disarmScript ≠ "") (hmin : spec.disarmMinVersion ≠ "")
    (hfootprint : ∃ s ∈ steps, isFootprintStep familySpec s = true) :
    disarmReason spec (relatedSteps spec steps) = [] ∧
      finishReason spec (relatedSteps spec steps) = [] := by
  rw [familyViolations, hfamily] at h
  dsimp only at h
  rw [if_neg (not_or.mpr ⟨hscript, hmin⟩)] at h
  split_ifs at h with hhash hempty
  · obtain ⟨s, hs, hstep⟩ := hfootprint
    have hmem : s ∈ steps.filter (isFootprintStep familySpec) := List.mem_filter.mpr ⟨hs, hstep⟩
    rw [List.isEmpty_iff.mp hempty] at hmem
    cases hmem
  · have hnil := List.map_eq_nil_iff.mp (Except.ok.inj h)
    exact List.append_eq_nil_iff.mp hnil

/-- The teardown has an enabled disarm step whose version is high enough. -/
theorem exists_disarm_of_disarmReason {related : List PyDict}
    (h : disarmReason spec related = []) : ∃ s ∈ related, planScript s = spec.disarmScript ∧
      stepEnabled s = true ∧ versionAtLeast (stepVersionOf s) spec.disarmMinVersion = true := by
  rw [disarmReason] at h
  split_ifs at h with hmissing hdisabled hany
  obtain ⟨s, hs, hversion⟩ := List.any_eq_true.mp hany
  obtain ⟨hs, henabled⟩ := List.mem_filter.mp hs
  obtain ⟨hs, hscript⟩ := List.mem_filter.mp hs
  exact ⟨s, hs, of_decide_eq_true hscript, henabled, hversion⟩

/-- Every enabled finish step has a version that is high enough. -/
theorem version_of_finishReason {related : List PyDict} (h : finishReason spec related = [])
    {s : PyDict} (hs : s ∈ related) (hscript : planScript s = spec.finishScript)
    (henabled : stepEnabled s = true) :
    versionAtLeast (stepVersionOf s) spec.finishMinVersion = true := by
  rw [finishReason] at h
  split_ifs at h with hany
  by_contra hversion
  refine hany (List.any_eq_true.mpr ⟨s, ?_, ?_⟩)
  · exact List.mem_filter.mpr ⟨List.mem_filter.mpr ⟨hs, decide_eq_true hscript⟩, henabled⟩
  · rw [Bool.not_eq_true']
    exact Bool.eq_false_iff.mpr hversion

end Family

/-! ### What runs -/

/-- A version that is high enough has numeric segments. -/
theorem versionKey_ne_nil_of_atLeast {version minimum : String}
    (h : versionAtLeast version minimum = true) : versionKey version ≠ [] := by
  intro hnil
  rw [versionAtLeast, hnil, keyAtLeast] at h
  cases h

/-- Stripping twice is stripping once. -/
theorem pyStrip_pyStrip (s : String) : pyStrip (pyStrip s) = pyStrip s := by
  have hstrip : ∀ t : String, (pyStrip t).toList =
      (t.toList.dropWhile isPySpace).rdropWhile isPySpace := fun t => by
    rw [pyStrip, List.rdropWhile, String.toList_ofList]
  have hprefix : ∀ t rest : List Char, (t ++ rest).dropWhile isPySpace = t ++ rest →
      t.dropWhile isPySpace = t := by
    intro t rest h
    cases t with
    | nil => rfl
    | cons c t =>
        have hc := List.dropWhile_eq_self_iff.mp h (Nat.succ_pos _)
        exact List.dropWhile_cons_of_neg hc
  have hdrop : ((s.toList.dropWhile isPySpace).rdropWhile isPySpace).dropWhile isPySpace =
      (s.toList.dropWhile isPySpace).rdropWhile isPySpace := by
    obtain ⟨rest, hrest⟩ := List.rdropWhile_prefix isPySpace (s.toList.dropWhile isPySpace)
    refine hprefix _ rest ?_
    rw [hrest, List.dropWhile_idempotent]
  refine String.toList_injective ?_
  rw [hstrip, hstrip, hdrop, List.rdropWhile_idempotent]

/-- A key does not depend on blanks around the version. -/
theorem versionKey_pyStrip (version : String) : versionKey (pyStrip version) = versionKey version := by
  rw [versionKey, versionKey, pyStrip_pyStrip]

/-- The version of a step has no blanks around it. -/
theorem pyStrip_stepVersionOf (step : PyDict) : pyStrip (stepVersionOf step) = stepVersionOf step := by
  rw [stepVersionOf]
  split
  · rename_i version hversion
    have hmem := List.mem_of_head? hversion
    obtain ⟨key, -, hkey⟩ := List.mem_filterMap.mp hmem
    obtain ⟨hsome, -⟩ := Option.filter_eq_some_iff.mp hkey
    obtain ⟨text, -, rfl⟩ := Option.map_eq_some_iff.mp hsome
    exact pyStrip_pyStrip text
  · rfl

/-- The script of a step as the agent runs it. -/
theorem scriptNameFromStep_engineStep (step : PyDict) :
    scriptNameFromStep (engineStep step) = pyStrip (planScript step) := by
  have hget : PyDict.get (engineStep step) "action" = .str ("script:" ++ planScript step) := rfl
  have htruthy : (PyVal.str ("script:" ++ planScript step)).truthy = true := by
    rw [PyVal.truthy, bne_iff_ne]
    intro h
    have hlist := congrArg String.toList h
    rw [String.toList_append] at hlist
    cases hlist
  have hstarts : pyStartsWith ("script:" ++ planScript step) "script:" = true := by
    rw [pyStartsWith, String.toList_append, List.isPrefixOf_iff_prefix]
    exact List.prefix_append _ _
  have hdrop : String.ofList (("script:" ++ planScript step).toList.drop 7) = planScript step := by
    rw [String.toList_append]
    exact String.ofList_toList
  rw [scriptNameFromStep, hget, PyVal.orElse, if_pos htruthy, scriptNameFromAction, if_pos hstarts,
    hdrop]

/-- Its version. -/
theorem stepVersionOf_engineStep (step : PyDict) :
    stepVersionOf (engineStep step) = stepVersionOf step := by
  have hnone : PyDict.get (engineStep step) "script_version" = .null := rfl
  have hsome : PyDict.get (engineStep step) "version" = .str (stepVersionOf step) := rfl
  generalize hversion : stepVersionOf step = version at hsome
  have hstrip : pyStrip version = version := hversion ▸ pyStrip_stepVersionOf step
  rw [stepVersionOf.eq_def]
  simp only [List.filterMap_cons, List.filterMap_nil, hnone, hsome, PyVal.asStr?, Option.map_none,
    Option.map_some, Option.filter_none, hstrip]
  by_cases hempty : version = ""
  · rw [hempty]
    rfl
  · have hfilter : (some version).filter (fun v => decide (v ≠ "")) = some version :=
      Option.filter_eq_some_iff.mpr ⟨rfl, decide_eq_true hempty⟩
    rw [hfilter]
    rfl

/-- **What is checked is what runs**: a step of a plan is run with the action and the version that
the lifecycle gives it. -/
theorem engineStep_shapeStep (step : PlanStep) (defaultParams : Dict Json) :
    PyDict.get (engineStep (shapeStep step)) "action" = .str (stepDef step defaultParams).action ∧
      stepVersionOf (engineStep (shapeStep step)) =
        pyStrip (stepDef step defaultParams).version := by
  constructor
  · have hscript : planScript (shapeStep step) = step.scriptName := by
      have hname : PyDict.get (shapeStep step) "script_name" = .str step.scriptName := rfl
      have haction : scriptNameFromStep (shapeStep step) = "" := by
        show scriptNameFromAction ((PyVal.null).orElse (.str "")) = ""
        decide +kernel
      rw [planScript, planScriptVal, hname, haction, PyVal.orElse]
      split_ifs with htruthy
      · exact PyVal.strOrEmpty_str step.scriptName
      · rw [PyVal.truthy, bne_iff_ne, not_not] at htruthy
        rw [htruthy]
        rfl
    show PyVal.str ("script:" ++ planScript (shapeStep step)) = _
    rw [hscript]
    rfl
  · rw [stepVersionOf_engineStep]
    have hversions : (["script_version", "version"].filterMap fun key =>
        ((PyDict.get (shapeStep step) key).asStr?.map pyStrip).filter (· ≠ "")) =
          ([some step.scriptVersion, none] : List (Option String)).filterMap fun v =>
            (v.map pyStrip).filter (· ≠ "") := rfl
    change _ = pyStrip step.scriptVersion
    rw [stepVersionOf, hversions]
    by_cases hempty : pyStrip step.scriptVersion = ""
    · rw [hempty]
      simp [hempty]
    · simp [Option.filter, hempty]

/-- The role of a script that only disarms, at a version with numeric segments. -/
theorem role_of_dedicated {script family version : String} {spec : FamilySpec} (hne : script ≠ "")
    (hlookup : finishCollectOnlyVersions.lookup script = none)
    (hfind : (familySteps.find? fun p =>
      p.2.disarm.contains script || p.2.disarmOnboarded.contains script) = some (family, spec))
    (hdedicated : (spec.disarmOnboarded.contains script && !spec.disarm.contains script) = true)
    (hkey : versionKey version ≠ []) : stepTeardownRole script version = some .disarm := by
  have hkey' : versionKey (pyStrip version) ≠ [] := by rwa [versionKey_pyStrip]
  rw [stepTeardownRole, if_neg hne, hlookup, hfind]
  dsimp only
  rw [if_pos hdedicated, if_pos hkey']

/-- The role of a finish script disarms unless its version is registered as collecting only. -/
theorem isDisarmRole_finish {script version : String} {registered : List String}
    (hne : script ≠ "") (hlookup : finishCollectOnlyVersions.lookup script = some registered)
    (hkey : versionKey version ≠ []) (hstrip : pyStrip version = version) :
    isDisarmRole (stepTeardownRole script version) = !registered.contains version := by
  have hparsed : ¬ (version = "" ∨ versionKey version = []) := by
    rintro (rfl | hnil)
    · exact hkey (by decide)
    · exact hkey hnil
  rw [stepTeardownRole, if_neg hne, hlookup]
  dsimp only
  rw [hstrip, if_neg hparsed]
  split_ifs with hcollect hlegacy
  · rw [hcollect]
    rfl
  · rw [Bool.eq_false_iff.mpr hcollect]
    rfl
  · rw [Bool.eq_false_iff.mpr hcollect]
    rfl

deriving instance DecidableEq for FamilySpec

/-- The disarm script of an onboarded family disarms, at a version with numeric segments. -/
theorem family_disarmScript {p : String × OnboardedSpec} (hp : p ∈ onboarded) {version : String}
    (hkey : versionKey version ≠ []) :
    familyForDisarmScript (pyStrip p.2.disarmScript) version = some p.1 := by
  rcases List.mem_cons.mp hp with rfl | hp
  · have hrole : stepTeardownRole "powercycle_disarm" version = some .disarm :=
      role_of_dedicated (by decide) (by decide)
        (show _ = some ("power-cycle", ⟨["powercycle_setup"], ["powercycle_finish"],
          ["powercycle_disarm"]⟩) by decide +kernel) (by decide) hkey
    have hscript : pyStrip "powercycle_disarm" = "powercycle_disarm" := by decide +kernel
    have hfamily : familyForTeardownScript "powercycle_disarm" = some "power-cycle" := by
      decide +kernel
    show familyForDisarmScript (pyStrip "powercycle_disarm") version = some "power-cycle"
    rw [hscript, familyForDisarmScript, hrole, hfamily]
    rfl
  · rw [List.mem_singleton.mp hp]
    have hrole : stepTeardownRole "gpu_disarm" version = some .disarm :=
      role_of_dedicated (by decide) (by decide)
        (show _ = some ("gpu", ⟨["gpu_setup"], ["gpu_finish"], ["gpu_disarm"]⟩) by
          decide +kernel) (by decide) hkey
    have hscript : pyStrip "gpu_disarm" = "gpu_disarm" := by decide +kernel
    have hfamily : familyForTeardownScript "gpu_disarm" = some "gpu" := by decide +kernel
    show familyForDisarmScript (pyStrip "gpu_disarm") version = some "gpu"
    rw [hscript, familyForDisarmScript, hrole, hfamily]
    rfl

/-- Its finish script disarms too, unless the version is registered as collecting only. -/
theorem family_finishScript {p : String × OnboardedSpec} (hp : p ∈ onboarded) {version : String}
    (hkey : versionKey version ≠ []) (hstrip : pyStrip version = version) :
    familyForDisarmScript (pyStrip p.2.finishScript) version =
      if collectOnly p.2 version then none else some p.1 := by
  rcases List.mem_cons.mp hp with rfl | hp
  · have hlookup : finishCollectOnlyVersions.lookup "powercycle_finish" = some ["1.1.0"] := by
      decide
    have hrole := isDisarmRole_finish (by decide) hlookup hkey hstrip
    have hscript : pyStrip "powercycle_finish" = "powercycle_finish" := by decide +kernel
    have hfamily : familyForTeardownScript "powercycle_finish" = some "power-cycle" := by
      decide +kernel
    show familyForDisarmScript (pyStrip "powercycle_finish") version =
      if (finishCollectOnlyVersions.lookup "powercycle_finish").any (·.contains version) then none
      else some "power-cycle"
    rw [hscript, familyForDisarmScript, hrole, hfamily, hlookup, Option.any_some]
    cases List.contains ["1.1.0"] version with
    | false => rfl
    | true => rfl
  · rw [List.mem_singleton.mp hp]
    have hlookup : finishCollectOnlyVersions.lookup "gpu_finish" = some ["1.1.0"] := by decide
    have hrole := isDisarmRole_finish (by decide) hlookup hkey hstrip
    have hscript : pyStrip "gpu_finish" = "gpu_finish" := by decide +kernel
    have hfamily : familyForTeardownScript "gpu_finish" = some "gpu" := by decide +kernel
    show familyForDisarmScript (pyStrip "gpu_finish") version =
      if (finishCollectOnlyVersions.lookup "gpu_finish").any (·.contains version) then none
      else some "gpu"
    rw [hscript, familyForDisarmScript, hrole, hfamily, hlookup, Option.any_some]
    cases List.contains ["1.1.0"] version with
    | false => rfl
    | true => rfl

/-- A value that is a mapping. -/
theorem eq_dict_of_asDict? {v : PyVal} {d : PyDict} (h : v.asDict? = some d) : v = .dict d := by
  cases v with
  | dict items =>
      cases h
      rfl
  | null => cases h
  | bool b => cases h
  | int z => cases h
  | float q text => cases h
  | str t => cases h
  | list xs => cases h

/-- The steps that are selected. -/
theorem mem_selectDisarmSteps {teardown : List PyVal} {families : List String} {step : PyDict} :
    step ∈ selectDisarmSteps teardown families ↔ .dict step ∈ teardown ∧
      ∃ family ∈ families,
        familyForDisarmScript (scriptNameFromStep step) (stepVersionOf step) = some family := by
  rw [selectDisarmSteps, List.mem_filterMap]
  constructor
  · rintro ⟨v, hv, h⟩
    cases hdict : v.asDict? with
    | none =>
        rw [hdict] at h
        cases h
    | some d =>
        rw [hdict] at h
        dsimp only at h
        split at h
        · rename_i family hfamily
          split_ifs at h with hmem
          cases h
          rw [eq_dict_of_asDict? hdict] at hv
          exact ⟨hv, family, List.contains_iff_mem.mp hmem, hfamily⟩
        · cases h
  · rintro ⟨hv, family, hmem, hfamily⟩
    refine ⟨.dict step, hv, ?_⟩
    dsimp only [PyVal.asDict?]
    rw [hfamily]
    exact if_pos (List.contains_iff_mem.mpr hmem)

/-- The steps of the run of a plan that disarm. -/
theorem mem_runDisarmSteps {steps : List PyVal} {families : List String} {step : PyDict}
    (hstep : step ∈ enabledTeardown steps) :
    engineStep step ∈ runDisarmSteps steps families ↔ ∃ family ∈ families,
      familyForDisarmScript (pyStrip (planScript step)) (stepVersionOf step) = some family := by
  rw [runDisarmSteps, mem_selectDisarmSteps, scriptNameFromStep_engineStep,
    stepVersionOf_engineStep]
  exact and_iff_right (List.mem_map.mpr ⟨step, hstep, rfl⟩)

/-! ### Accepted plans -/

/-- A plan has an enabled step that leaves a footprint of a family. -/
def LeavesFootprint (steps : List PyVal) (family : String) : Prop :=
  ∃ familySpec, familySteps.lookup family = some familySpec ∧
    ∃ s ∈ steps.filterMap PyVal.asDict?, isFootprintStep familySpec s = true

/-- The scripts and versions of the onboarded families are set. -/
theorem onboarded_set {p : String × OnboardedSpec} (hp : p ∈ onboarded) :
    p.2.disarmScript ≠ "" ∧ p.2.disarmMinVersion ≠ "" := by
  rcases List.mem_cons.mp hp with rfl | hp
  · exact ⟨by decide, by decide⟩
  · rw [List.mem_singleton.mp hp]
    exact ⟨by decide, by decide⟩

namespace TeardownExample

/-- A finish step of a given version. -/
def finishStep (finishVersion : String) : PyDict :=
  [("step_key", .str "finish"), ("script_name", .str "powercycle_finish"),
    ("script_version", .str finishVersion), ("stage", .str "teardown"), ("enabled", .bool true)]

/-- A plan with a footprint, a disarm step, and a finish step of a given version. -/
def plan (finishVersion : String) : List PyVal :=
  [.dict [("step_key", .str "setup"), ("script_name", .str "powercycle_setup"),
      ("script_version", .str "1.0.0"), ("stage", .str "init"), ("enabled", .bool true)],
    .dict [("step_key", .str "disarm"), ("script_name", .str "powercycle_disarm"),
      ("script_version", .str "1.0.8"), ("stage", .str "teardown"), ("enabled", .bool true)],
    .dict (finishStep finishVersion)]

/-- What is registered of the power-cycle family. -/
def powerCycle : String × OnboardedSpec :=
  ("power-cycle", ⟨"powercycle_disarm", "1.0.8", "powercycle_finish", "1.1.0", powerCycleClasses⟩)

/-- Whether a plan is accepted. -/
def isAccepted (steps : List PyVal) : Bool :=
  match validateOnboardedTeardownShape onboarded steps with
  | .ok violations => violations.isEmpty
  | .error _ => false

/-- A plan that is accepted has no violation. -/
theorem of_isAccepted {steps : List PyVal} (h : isAccepted steps = true) :
    validateOnboardedTeardownShape onboarded steps = .ok [] := by
  rw [isAccepted] at h
  split at h
  · rename_i violations heq
    rw [heq, List.isEmpty_iff.mp h]
  · cases h

/-- The first step of the plan leaves a footprint. -/
theorem leavesFootprint_plan (finishVersion : String) :
    LeavesFootprint (plan finishVersion) powerCycle.1 :=
  ⟨⟨["powercycle_setup"], ["powercycle_finish"], ["powercycle_disarm"]⟩, by decide +kernel, _,
    List.mem_cons_self, by decide +kernel⟩

end TeardownExample

end StabilityPlatform
