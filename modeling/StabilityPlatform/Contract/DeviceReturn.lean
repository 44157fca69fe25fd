import StabilityPlatform.Core.PyVal

/-!
# The device-return contract

What agent and control plane agree on: the machine values of a disarm and of a family's
return state, the step families with their scripts, the onboarded families with their
verified device classes, the roles of teardown steps by version, and the policy for probe
evidence with its refusal contract.

## Main results

* `mapDisarmResultToFamilyState_ne_debt_iff`: the results that leave no debt.
-/

namespace StabilityPlatform

/-! ### Machine values -/

/-- The machine values of one family's disarm. -/
inductive DisarmResult where
  | confirmed
  | executedUnverified
  | failed
  | readbackFailed
  | notExecuted
  | incomplete
  deriving DecidableEq, Repr

/-- The machine value as it is written in payloads and columns. -/
def DisarmResult.value : DisarmResult → String
  | confirmed => "confirmed"
  | executedUnverified => "executed_unverified"
  | failed => "failed"
  | readbackFailed => "readback_failed"
  | notExecuted => "not_executed"
  | incomplete => "incomplete"

/-- The return state of a family on a device. -/
inductive FamilyReturn where
  | returned
  | debt
  | unverified
  deriving DecidableEq, Repr

/-- The return state as it is written in the device row. -/
def FamilyReturn.value : FamilyReturn → String
  | returned => "returned"
  | debt => "debt"
  | unverified => "unverified"

/-- Where a return state came from. -/
inductive ReturnSource where
  | job
  | initCheck
  | discharge
  | override
  | stock
  deriving DecidableEq, Repr

/-- The source as it is written in the device row. -/
def ReturnSource.value : ReturnSource → String
  | job => "job"
  | initCheck => "init_check"
  | discharge => "discharge"
  | override => "override"
  | stock => "stock"

/-- Distinct return states are written differently. -/
theorem FamilyReturn.value_injective : Function.Injective FamilyReturn.value := by
  intro a b h
  cases a <;> cases b <;> first | rfl | exact absurd h (by decide)

/-- The family state one disarm result stands for; values nobody knows are debts. -/
def mapDisarmResultToFamilyState (result : String) (onboarded : Bool) : FamilyReturn :=
  if result = DisarmResult.confirmed.value then .returned
  else if result = DisarmResult.executedUnverified.value then .unverified
  else if result = DisarmResult.failed.value then
    if onboarded then .debt else .unverified
  else if result = DisarmResult.readbackFailed.value then .debt
  else if result = DisarmResult.notExecuted.value ∨ result = DisarmResult.incomplete.value then
    .debt
  else .debt

/-- **No debt** comes of exactly three results: a confirmed one, an executed one, and a
failed one in a family that is not onboarded. -/
theorem mapDisarmResultToFamilyState_ne_debt_iff {result : String} {onboarded : Bool} :
    mapDisarmResultToFamilyState result onboarded ≠ .debt ↔
      result = DisarmResult.confirmed.value ∨
      result = DisarmResult.executedUnverified.value ∨
      (result = DisarmResult.failed.value ∧ onboarded = false) := by
  unfold mapDisarmResultToFamilyState
  split_ifs with h₁ h₂ h₃ h₄ <;> simp_all [DisarmResult.value]

/-- Exit codes of a step the platform cut off. -/
def platformInterruptedExitCodes : List ℤ := [124, 125, 143, -15, 137, -9]

/-- `code in PLATFORM_INTERRUPTED_EXIT_CODES`, a set: what has no hash raises. -/
def isPlatformInterrupted (code : PyVal) : Except PyError Bool :=
  if code.isHashable then
    .ok (platformInterruptedExitCodes.any fun z => code.pyEq (.int z))
  else .error .typeError

/-! ### Families -/

/-- The scripts of a family. -/
structure FamilySpec where
  footprint : List String
  disarm : List String
  disarmOnboarded : List String

/-- The families the platform knows, in registration order. -/
def familySteps : List (String × FamilySpec) :=
  [("power-cycle", ⟨["powercycle_setup"], ["powercycle_finish"], ["powercycle_disarm"]⟩),
    ("sleep", ⟨["sleep_setup"], ["sleep_finish"], ["sleep_finish"]⟩),
    ("mtbf", ⟨["mtbf_setup"], ["mtbf_finish"], ["mtbf_finish"]⟩),
    ("gpu", ⟨["gpu_setup"], ["gpu_finish"], ["gpu_disarm"]⟩),
    ("monkey", ⟨["monkey_setup", "monkey_launch", "monkey_test"], ["monkey_teardown"],
      ["monkey_teardown"]⟩)]

/-- `FAMILY_STEPS.keys()`. -/
def familyNames : List String := familySteps.map Prod.fst

/-- A registered combination of device, permission model, tool and script. -/
def deviceClass (identityField identity model permission script version package : String)
    (reports : List String) : PyDict :=
  [("platform", .str "MTK"), ("model", .str model), ("permission_model", .str permission),
    (identityField, .str identity), ("script_name", .str script),
    ("script_version", .str version), ("package_sha256", .str package),
    ("report_ref", .list (reports.map .str))]

/-- What is registered about an onboarded family. -/
structure OnboardedSpec where
  disarmScript : String
  disarmMinVersion : String
  finishScript : String
  finishMinVersion : String
  verifiedDeviceClasses : List PyDict

/-- The verified combinations of the power-cycle family. -/
def powerCycleClasses : List PyDict :=
  [("MLD_LX2", "f275e1f233e3ac7485469406b3e35a2cf58be0fec0d7e9d60184f180db8a2929"),
    ("MLD_LX3", "582964aff036cb8785248cd3a149cbf73f13f88bddc51a80c8605b458399e977")].flatMap
  fun p => ["root", "non-root"].map fun permission =>
    deviceClass "autotesttool_apk_sha256" p.2 p.1 permission "powercycle_disarm" "1.0.8"
      "98cc16f82fa6c56fe24f37151958f4ad3efd2f5983b1bba36f9340d95cd4a557"
      ["https://github.com/DUElost/stability-test-platform/pull/3747#issuecomment-6312583571",
        "docs/notes/feature/2026-10-21-b6-u5-realdevice-108.md",
        "https://github.com/DUElost/stability-test-platform/issues/3730#issuecomment-6320738260"]

/-- The verified combinations of the gpu family. -/
def gpuClasses : List PyDict :=
  ["MLD_LX2", "MLD_LX3", "MOD_LX3"].flatMap fun model => ["root", "non-root"].map
    fun permission =>
      deviceClass "apk_sha256" "47a059398943e8dc0943269c99a30264f70c7175ae943a69c48ec733ea84e8c5"
        model permission "gpu_disarm" "1.0.0"
        "c464779d695402473bf5afb173bc743d68eac307a680c46bfec2ebbf4299ead7"
        ["https://github.com/DUElost/stability-test-platform/issues/3811#issuecomment-6441554440",
          "docs/notes/bug-fix/2026-10-27-b7-u2-gpu-disarm-3811-evidence.json",
          "docs/notes/bug-fix/2026-10-27-b7-u2-gpu-disarm-3811.md",
          "https://github.com/DUElost/stability-test-platform/issues/3809"]

/-- The onboarded families. -/
def onboarded : List (String × OnboardedSpec) :=
  [("power-cycle", ⟨"powercycle_disarm", "1.0.8", "powercycle_finish", "1.1.0",
      powerCycleClasses⟩),
    ("gpu", ⟨"gpu_disarm", "1.0.0", "gpu_finish", "1.1.0", gpuClasses⟩)]

/-- `family in ONBOARDED`. -/
def familyOnboarded (family : String) : Bool := (onboarded.lookup family).isSome

/-! ### Steps -/

/-- The leaf name of a `script:<name>` action. -/
def scriptNameFromAction (action : PyVal) : String :=
  match action with
  | .str s =>
    if pyStartsWith s "script:" then pyStrip (String.ofList (s.toList.drop 7)) else ""
  | _ => ""

/-- The script a step runs. -/
def scriptNameFromStep (step : PyDict) : String :=
  scriptNameFromAction ((PyDict.get step "action").orElse (.str ""))

/-- The first family with a given script in one of its lists. -/
def familyWithScript (scripts : FamilySpec → List String) (scriptName : String) :
    Option String :=
  if scriptName = "" then none
  else (familySteps.find? fun p => (scripts p.2).contains scriptName).map Prod.fst

/-- The family a script leaves a footprint of. -/
def familyForFootprintScript (scriptName : String) : Option String :=
  familyWithScript FamilySpec.footprint scriptName

/-- The family a teardown script belongs to, onboarded or not. -/
def familyForTeardownScript (scriptName : String) : Option String :=
  familyWithScript (fun spec => spec.disarm ++ spec.disarmOnboarded) scriptName

/-- The numeric segments of a version; empty when it has none or one that is no number. -/
def versionKey (version : String) : List ℕ :=
  let segments := pySplit (pyStrip version) '.'
  if segments.all fun seg => seg ≠ "" && seg.toList.all Char.isDigit then
    segments.map fun seg => seg.toList.foldl (fun n c => 10 * n + (c.toNat - 48)) 0
  else []

/-- The version of a step: plan steps and pipeline steps name it differently. -/
def stepVersionOf (step : PyDict) : String :=
  match (["script_version", "version"].filterMap fun key =>
    ((PyDict.get step key).asStr?.map pyStrip).filter (· ≠ "")).head? with
  | some version => version
  | none => ""

/-- What a teardown step of a given version is for. -/
inductive StepRole where
  | disarm
  | collect
  | unknownLegacyDisarm
  deriving DecidableEq, Repr

/-- Finish versions registered as collecting only. -/
def finishCollectOnlyVersions : List (String × List String) :=
  [("powercycle_finish", ["1.1.0"]), ("gpu_finish", ["1.1.0"])]

/-- The first two segments of a version. -/
def finishMajorMinor (version : String) : Option (ℕ × ℕ) :=
  match versionKey version with
  | major :: minor :: _ => some (major, minor)
  | _ => none

/-- The role of a teardown script by its actual version. -/
def stepTeardownRole (scriptName version : String) : Option StepRole :=
  let ver := pyStrip version
  if scriptName = "" then none
  else match finishCollectOnlyVersions.lookup scriptName with
    | some collectOnly =>
      if ver = "" ∨ versionKey ver = [] then some .unknownLegacyDisarm
      else if collectOnly.contains ver then some .collect
      else if finishMajorMinor ver = some (1, 0) then some .disarm
      else some .unknownLegacyDisarm
    | none =>
      match familySteps.find? fun p =>
          p.2.disarm.contains scriptName || p.2.disarmOnboarded.contains scriptName with
      | some (_, spec) =>
        if spec.disarmOnboarded.contains scriptName && !spec.disarm.contains scriptName then
          if versionKey ver ≠ [] then some .disarm else some .unknownLegacyDisarm
        else some .disarm
      | none => none

/-- Whether a role carries a disarm obligation. -/
def isDisarmRole (role : Option StepRole) : Bool :=
  role = some .disarm || role = some .unknownLegacyDisarm

/-- The family of a step that carries a disarm obligation at its version. -/
def familyForDisarmScript (scriptName version : String) : Option String :=
  if isDisarmRole (stepTeardownRole scriptName version) then
    familyForTeardownScript scriptName
  else none

/-- The teardown steps that disarm one of the given families, in pipeline order. -/
def selectDisarmSteps (teardown : List PyVal) (footprintFamilies : List String) :
    List PyDict :=
  teardown.filterMap fun step =>
    match step.asDict? with
    | none => none
    | some step =>
      match familyForDisarmScript (scriptNameFromStep step) (stepVersionOf step) with
      | some family => if footprintFamilies.contains family then some step else none
      | none => none

/-! ### Probe evidence -/

/-- The evidence fields that identify a family's tool. -/
def probeToolIdentityFields : List (String × List String) :=
  [("power-cycle", ["autotesttool_apk_sha256"]), ("gpu", ["apk_sha256"])]

/-- The values a readback can have. -/
def probeReadbackValues : List String :=
  ["clear", "footprint", "absent", "not_installed", "readback_failed"]

/-- The verdict on one family's probe evidence. -/
structure ProbePolicy where
  result : DisarmResult
  trusted : Bool
  reason : String
  expected : List PyDict
  observed : PyDict
  reportRef : PyVal

/-- The mapping under a key, or an empty one. -/
def mappingOrEmpty (entry : PyDict) (key : String) : PyDict :=
  (PyDict.get entry key).asDict?.getD []

/-- Whether every observed value is there and is the registered one. -/
def matchesClass (observed c : PyDict) : Bool :=
  (PyDict.get c "report_ref").truthy &&
    observed.all fun p => p.2.truthy && p.2.pyEq (PyDict.get c p.1)

/-- Why a combination is not trusted; empty when it is. -/
def probeReason (evidence observed : PyDict) (identityFields : List String)
    (scriptName scriptVersion : String) (packageSha : Option String) (tokenValid : Bool)
    (matched : Option PyDict) : String :=
  if !tokenValid then "token_invalid"
  else if !(PyDict.get observed "permission_model").isOneOf ["root", "non-root"] then
    "permission_unknown"
  else if identityFields.isEmpty || !(observed.all fun p => p.2.truthy) then
    "identity_missing"
  else if !(PyDict.get evidence "package_sha256").pyEq (.ofStr? packageSha) then
    "package_mismatch"
  else if !(PyDict.get evidence "script_name").pyEq (.str scriptName) ||
      !(PyDict.get evidence "script_version").pyEq (.str scriptVersion) then
    "script_mismatch"
  else if matched.isNone then "combination_unverified"
  else if (PyDict.get evidence "boot_completed").pyStr ≠ "1" then "boot_incomplete"
  else ""

/-- The result readback, mode and success stand for, whether the combination stays
trusted, and the final reason. -/
def probeVerdict (evidence : PyDict) (reason : String) : DisarmResult × Bool × String :=
  let raw := PyDict.get evidence "readback"
  let mode := PyDict.get evidence "mode"
  let successful := (PyDict.get evidence "success") matches .bool true
  let clearAndOk := raw.isOneOf ["clear"] && (PyDict.get evidence "kind").isOneOf ["ok"]
  let verified : Bool := reason = ""
  if !raw.isOneOf probeReadbackValues then (.failed, verified, reason)
  else if mode.isOneOf ["probe"] then
    (if verified && clearAndOk then .confirmed else .failed, verified, reason)
  else if mode.isOneOf ["disarm"] then
    (if verified && successful && clearAndOk then .confirmed
      else if successful && raw.isOneOf ["clear", "absent", "not_installed"] then
        .executedUnverified
      else .failed, verified, reason)
  else
    (if successful then .executedUnverified else .failed, false,
      if reason = "" then "mode_missing" else reason)

/-- The policy for probe evidence; identities come from the caller's own facts. -/
def probeResultPolicy (registry : List (String × OnboardedSpec)) (family : String)
    (entry : PyDict) (platform model : Option String) (scriptName scriptVersion : String)
    (packageSha : Option String) (tokenValid : Bool) : Except PyError ProbePolicy := do
  let evidence := mappingOrEmpty entry "evidence"
  let identityFields := (probeToolIdentityFields.lookup family).getD []
  let observed : PyDict :=
    [("platform", .ofStr? platform), ("model", .ofStr? model),
      ("permission_model", PyDict.get evidence "permission_model"),
      ("script_name", .str scriptName), ("script_version", .str scriptVersion),
      ("package_sha256", .ofStr? packageSha)] ++
      identityFields.map fun key => (key, PyDict.get evidence key)
  let expected := ((registry.lookup family).map OnboardedSpec.verifiedDeviceClasses).getD []
  let matched := expected.find? (matchesClass observed)
  let (result, trusted, reason) := probeVerdict evidence
    (probeReason evidence observed identityFields scriptName scriptVersion packageSha
      tokenValid matched)
  let interrupted ← isPlatformInterrupted (PyDict.get entry "exit_code")
  return {
    result := if interrupted then .incomplete else result
    trusted := trusted
    reason := reason
    expected := expected
    observed := observed
    reportRef := (matched.map fun c => PyDict.get c "report_ref").getD .null }

/-- The entries through which probe results arrive. -/
inductive EntryPoint where
  | discharge
  | initCheck
  | complete
  | late
  deriving DecidableEq, Repr

/-- What is told about a refused entry. -/
structure ProbeDiagnostic where
  code : String
  family : String
  reason : String
  expected : List PyDict
  observed : PyDict
  reportRef : PyVal

/-- How an entry point answers one family's entry. -/
structure ProbeDecision where
  statusCode : ℕ
  useTrace : Bool
  ignore : Bool
  diagnostic : Option ProbeDiagnostic

/-- Results that need a trusted probe behind them. -/
def isPrivileged (entry : PyDict) : Bool :=
  (PyDict.get entry "result").isOneOf
    [DisarmResult.confirmed.value, DisarmResult.readbackFailed.value]

/-- The refusal contract the four entry points share. -/
def probeEntryResponse (family : String) (entry : PyDict) (policy : ProbePolicy)
    (entryPoint : EntryPoint) : ProbeDecision :=
  let privileged := isPrivileged entry
  if (policy.trusted && (!privileged ||
      PyVal.pyEq (.str policy.result.value) (PyDict.get entry "result"))) || !privileged then
    { statusCode := 200, useTrace := false, ignore := false, diagnostic := none }
  else
    { statusCode := if entryPoint = .discharge ∨ entryPoint = .initCheck then 422 else 200
      useTrace := entryPoint = .complete
      ignore := entryPoint = .late
      diagnostic := some
        { code := "UNVERIFIED_PROBE_RESULT"
          family := family
          reason := if policy.reason = "" then "raw_result_mismatch" else policy.reason
          expected := policy.expected
          observed := policy.observed
          reportRef := policy.reportRef } }

end StabilityPlatform
