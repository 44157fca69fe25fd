import StabilityPlatform.Contract.DeviceReturn
import StabilityPlatform.Lib.Dict
import StabilityPlatform.Lib.Fold

/-!
# The record of a teardown

The engine keeps, for each family, what became of its disarm. Every outcome of a disarm step is
folded into that record: attempts and retries, steps that are skipped, steps that are not executed
because the lease is lost. The script's own output is evidence, and the probe policy judges it.

## Main results

* `mapStepOutcomeToDisarmResult`, `recordDisarmForStep`: the fold.
* `confirmed_of_disarmEntry`: a confirmed entry of a family that is onboarded was confirmed by the
  policy.
* `disarm_fold_sound`: **what the record says of a family is sound**, after any calls.
-/

namespace StabilityPlatform.DisarmRecord

open Lib

/-! ### Entries -/

/-- `DISARM_RESULTS`. -/
def disarmResults : List DisarmResult :=
  [.confirmed, .executedUnverified, .failed, .readbackFailed, .notExecuted, .incomplete]

/-- The result that is written in a given way. -/
def resultOfValue (value : String) : Option DisarmResult :=
  disarmResults.find? fun result => result.value = value

/-- What became of a family's disarm. -/
structure DisarmEntry where
  result : DisarmResult
  stepId : String
  exitCode : Option ℤ
  readbackSummary : String
  reason : String
  evidence : PyDict

/-- `make_disarm_result`. -/
def makeDisarmResult (result : DisarmResult) (stepId : String) (exitCode : Option ℤ)
    (readbackSummary reason : String) : DisarmEntry :=
  ⟨result, stepId, exitCode, readbackSummary, reason, []⟩

/-- `LEASE_LOST_REASON`. -/
def leaseLostReason : String := "lease_lost"

/-- `REASON_UNKNOWN_LEGACY_VERSION`. -/
def reasonUnknownLegacyVersion : String := "unknown_legacy_version"

/-- `default_not_executed_for_families`. -/
def defaultNotExecutedForFamilies (footprintFamilies : List String) (reason : String) :
    Dict DisarmEntry :=
  footprintFamilies.foldl
    (fun out family => out.set family (makeDisarmResult .notExecuted "" none "" reason)) Dict.empty

/-- `map_step_outcome_to_disarm_result`. -/
def mapStepOutcomeToDisarmResult (started : Bool) (success : Option Bool) (exitCode : Option ℤ)
    (readback : Option String) (leaseLost incomplete skipped onboardedFamily : Bool)
    (structuredResult : Option String) (categoryVerified : Option Bool) : DisarmResult :=
  if started && exitCode.any platformInterruptedExitCodes.contains then .incomplete
  else if leaseLost then .notExecuted
  else if incomplete then .incomplete
  else if skipped || !started then .notExecuted
  else if success = some false &&
      structuredResult.any [DisarmResult.confirmed.value,
        DisarmResult.executedUnverified.value].contains then .failed
  else match structuredResult.bind resultOfValue with
  | some result => result
  | none =>
    if readback = some "readback_failed" then
      if categoryVerified = some false then
        if success = some true then .executedUnverified else .failed
      else .readbackFailed
    else match success with
    | some true =>
      if onboardedFamily && readback = some "clear" then .confirmed else .executedUnverified
    | some false => if exitCode.any [143, -15, 137, -9].contains then .incomplete else .failed
    | none => .notExecuted

/-! ### Calls -/

/-- An outcome of a step, with what the engine finds out about it. -/
structure DisarmCall where
  step : PyDict
  started : Bool
  success : Option Bool
  exitCode : Option ℤ
  output : Option String
  errorMessage : Option String
  leaseLost : Bool
  incomplete : Bool
  skipped : Bool
  preservePriorAttempt : Bool
  packageSha : Option String
  identity : Except PyError (Option String × Option String)
  leaseLostForDisarm : Bool

/-- The script of the step. -/
def DisarmCall.script (call : DisarmCall) : String := scriptNameFromStep call.step

/-- Its version. -/
def DisarmCall.version (call : DisarmCall) : String := stepVersionOf call.step

/-- Its role. -/
def DisarmCall.role (call : DisarmCall) : Option StepRole :=
  stepTeardownRole call.script call.version

/-- The family it disarms. -/
def DisarmCall.family? (call : DisarmCall) : Option String :=
  familyForDisarmScript call.script call.version

/-- The call with what is kept of a prior attempt. -/
def DisarmCall.withPrior (call : DisarmCall) : Option DisarmEntry → DisarmCall
  | none => call
  | some existing =>
    { call with
      exitCode := call.exitCode.orElse fun _ => existing.exitCode
      errorMessage := call.errorMessage.orElse fun _ =>
        if existing.readbackSummary = "" then none else some existing.readbackSummary }

/-- The results of a step that was executed to its end. -/
def executedResults : List DisarmResult :=
  [.confirmed, .executedUnverified, .failed, .readbackFailed]

/-- An entry that says the disarm was not executed because the lease was lost. -/
def DisarmEntry.isLeaseLost (entry : DisarmEntry) : Bool :=
  entry.result = .notExecuted && entry.reason = leaseLostReason

/-- Whether a call leaves an entry as it is: a lost lease is not overwritten, an execution is not
downgraded. -/
def DisarmEntry.keptFrom (call : DisarmCall) (entry : DisarmEntry) : Bool :=
  (entry.isLeaseLost && !call.leaseLost) ||
    (call.skipped && executedResults.contains entry.result)

/-! ### Evidence -/

/-- A pair for `dict(v)`. Keys that are no strings are left out: nothing looks them up. -/
def dictItem (v : PyVal) : Except PyError (Option (String × PyVal)) := do
  match ← v.pyIter with
  | [key, value] =>
    if !key.isHashable then .error .typeError
    else .ok (key.asStr?.map fun k => (k, value))
  | _ => .error .valueError

/-- `dict(v)`. -/
def dictOf : PyVal → Except PyError PyDict
  | .dict items => .ok items
  | v => do
    let items ← (← v.pyIter).mapM dictItem
    return (items.filterMap id).foldl (fun d p => PyDict.set d p.1 p.2) []

/-- What a step printed, when it is a mapping. `loads` is `json.loads`: none is text that does not
decode, an error is one that nothing catches. -/
def parseOutput (loads : String → Except PyError (Option PyDict)) (output : Option String) :
    Except PyError PyDict :=
  let raw := pyStrip (output.getD "")
  if pyStartsWith raw "\x7b" then (loads raw).map (·.getD []) else .ok []

/-- What the engine adds to the evidence of a script. -/
def engineEvidence (call : DisarmCall) (parsed : PyDict) : PyDict :=
  [("readback", PyDict.get parsed "readback"), ("mode", PyDict.get parsed "mode"),
    ("success", .bool (((PyDict.get parsed "success") matches .bool true) &&
      call.success = some true)),
    ("script_name", .str call.script), ("script_version", .str call.version),
    ("package_sha256", .ofStr? call.packageSha)]

/-- The exit code as a value. -/
def exitVal (exitCode : Option ℤ) : PyVal := (exitCode.map PyVal.int).getD .null

/-- Platform and model, asked for when the family has verified device classes. -/
def identityOf (call : DisarmCall) (spec : OnboardedSpec) :
    Except PyError (Option String × Option String) :=
  if spec.verifiedDeviceClasses.isEmpty then .ok (none, none) else call.identity

/-- What the policy says of the evidence of a call. -/
def policyOf (call : DisarmCall) (family : String) (spec : OnboardedSpec) (evidence : PyDict) :
    Except PyError ProbePolicy := do
  let identity ← identityOf call spec
  probeResultPolicy onboarded family
    [("evidence", .dict evidence), ("exit_code", exitVal call.exitCode)] identity.1 identity.2
    call.script call.version call.packageSha (!call.leaseLostForDisarm)

/-- The evidence of a script that was executed, and the value it stands for. -/
def judgeEvidence (call : DisarmCall) (family : String) (spec : OnboardedSpec) (parsed : PyDict) :
    Except PyError (DisarmResult × PyDict) := do
  let evidence ← dictOf ((PyDict.get parsed "evidence").orElse (.dict []))
  let evidence := PyDict.update evidence (engineEvidence call parsed)
  let policy ← policyOf call family spec evidence
  let value : DisarmResult :=
    if (PyDict.get parsed "evidence").truthy then policy.result
    else if call.success = some true then .executedUnverified else .failed
  return (if PyDict.contains parsed "readback" &&
      !(PyDict.get parsed "readback").isOneOf probeReadbackValues then .failed else value,
    evidence)

/-- `sub in s`. -/
def pyContains (s sub : String) : Bool := s.toList.tails.any sub.toList.isPrefixOf

/-- The reason of an entry. -/
def entryReason (call : DisarmCall) : String :=
  if call.leaseLost then leaseLostReason
  else if call.skipped then
    if call.errorMessage.any (pyContains · "disabled") then "step_disabled" else "skipped"
  else if call.role = some .unknownLegacyDisarm then reasonUnknownLegacyVersion
  else ""

/-- The summary of an entry. -/
def entrySummary (call : DisarmCall) (readback : Option String) : String :=
  match readback with
  | some text => text
  | none => String.ofList ((call.errorMessage.getD "").toList.take 500)

/-- The step of an entry. -/
def entryStepId (call : DisarmCall) (prior : Option DisarmEntry) : String :=
  match (prior.map DisarmEntry.stepId).filter (· ≠ "") with
  | some stepId => stepId
  | none => ((PyDict.get call.step "step_id").orElse (.str call.script)).strOrEmpty

/-- The value of an outcome, before evidence is judged; a family that is not onboarded has nothing
to verify with. -/
def outcomeValue (call : DisarmCall) (onboardedFamily : Bool) (parsed : PyDict)
    (readback : Option String) : DisarmResult :=
  let structured := (PyDict.get parsed "disarm_result").orElse (PyDict.get parsed "result")
  let value := mapStepOutcomeToDisarmResult call.started call.success call.exitCode readback
    call.leaseLost call.incomplete call.skipped onboardedFamily structured.asStr? none
  if !onboardedFamily && [DisarmResult.confirmed, .readbackFailed].contains value then
    if call.success = some true then .executedUnverified else .failed
  else value

/-- Whether a call is of an execution that has evidence. -/
def hasEvidence (call : DisarmCall) : Bool :=
  call.started && !call.skipped && !call.leaseLost && !call.incomplete &&
    !call.exitCode.any platformInterruptedExitCodes.contains

/-- What a step says it read back. -/
def readbackOf (parsed : PyDict) : Option String :=
  ((PyDict.get parsed "readback").orElse (PyDict.get parsed "readback_summary")).asStr?

/-- The value of an outcome, with the evidence it rests on. -/
def judgedValue (call : DisarmCall) (family : String) (parsed : PyDict) :
    Except PyError (DisarmResult × PyDict) :=
  match onboarded.lookup family with
  | some spec =>
    if hasEvidence call then judgeEvidence call family spec parsed
    else .ok (outcomeValue call true parsed (readbackOf parsed), [])
  | none => .ok (outcomeValue call false parsed (readbackOf parsed), [])

/-- The entry a call makes. -/
def disarmEntry (loads : String → Except PyError (Option PyDict)) (call : DisarmCall)
    (family : String) (prior : Option DisarmEntry) : Except PyError DisarmEntry := do
  let parsed ← parseOutput loads call.output
  let judged ← judgedValue call family parsed
  return { makeDisarmResult judged.1 (entryStepId call prior) call.exitCode
    (entrySummary call (readbackOf parsed)) (entryReason call) with evidence := judged.2 }

/-- What a call writes: nothing, or the entry of a family. -/
def disarmWrite (loads : String → Except PyError (Option PyDict)) (results : Dict DisarmEntry)
    (call : DisarmCall) : Except PyError (Option (String × DisarmEntry)) :=
  if call.role = some .collect then .ok none
  else match call.family? with
  | none => .ok none
  | some family =>
    let existing := results.get? family
    let prior := if call.preservePriorAttempt then existing else none
    if existing.any (DisarmEntry.keptFrom call) then .ok none
    else (disarmEntry loads (call.withPrior prior) family prior).map fun entry =>
      some (family, entry)

/-- `_record_disarm_for_step`. -/
def recordDisarmForStep (loads : String → Except PyError (Option PyDict))
    (results : Dict DisarmEntry) (call : DisarmCall) : Except PyError (Dict DisarmEntry) :=
  (disarmWrite loads results call).map fun
    | none => results
    | some (family, entry) => results.set family entry

/-! ### What an entry says -/

/-- The policy confirms evidence of a call, and trusts the combination. -/
def PolicyConfirms (call : DisarmCall) (family : String) (evidence : PyDict) : Prop :=
  ∃ spec policy, onboarded.lookup family = some spec ∧
    policyOf call family spec evidence = .ok policy ∧ policy.result = .confirmed ∧
    policy.trusted = true

/-- The evidence of a call: what its script printed, with what the engine adds. -/
def EvidenceOf (loads : String → Except PyError (Option PyDict)) (call : DisarmCall)
    (evidence : PyDict) : Prop :=
  ∃ parsed own, parseOutput loads call.output = .ok parsed ∧
    dictOf ((PyDict.get parsed "evidence").orElse (.dict [])) = .ok own ∧
    evidence = PyDict.update own (engineEvidence call parsed)

/-- A verdict that confirms trusts. -/
theorem trusted_of_probeVerdict {evidence : PyDict} {reason reason' : String} {trusted : Bool}
    (h : probeVerdict evidence reason = (.confirmed, trusted, reason')) : trusted = true := by
  rw [probeVerdict] at h
  split_ifs at h with hraw hprobe hclear hdisarm hall hexec hother
  all_goals simp only [Prod.mk.injEq, reduceCtorEq, false_and] at h
  · rw [Bool.and_eq_true] at hclear
    exact h.2.1 ▸ hclear.1
  · rw [Bool.and_eq_true, Bool.and_eq_true] at hall
    exact h.2.1 ▸ hall.1.1

/-- **A policy that confirms trusts** the combination. -/
theorem trusted_of_policy {registry : List (String × OnboardedSpec)} {family : String}
    {entry : PyDict} {platform model : Option String} {scriptName scriptVersion : String}
    {packageSha : Option String} {tokenValid : Bool} {policy : ProbePolicy}
    (h : probeResultPolicy registry family entry platform model scriptName scriptVersion
      packageSha tokenValid = .ok policy)
    (hconfirmed : policy.result = .confirmed) : policy.trusted = true := by
  rw [probeResultPolicy] at h
  dsimp only at h
  obtain ⟨interrupted, -, h⟩ := Except.bind_eq_ok_iff.mp h
  cases h
  cases interrupted with
  | true => cases hconfirmed
  | false => exact trusted_of_probeVerdict (Prod.ext hconfirmed rfl)

/-- Without an execution that has evidence, nothing is confirmed. -/
theorem mapStepOutcome_of_not_hasEvidence {call : DisarmCall} (h : hasEvidence call = false)
    (readback : Option String) (onboardedFamily : Bool) (structured : Option String) :
    mapStepOutcomeToDisarmResult call.started call.success call.exitCode readback call.leaseLost
        call.incomplete call.skipped onboardedFamily structured none = .incomplete ∨
      mapStepOutcomeToDisarmResult call.started call.success call.exitCode readback call.leaseLost
        call.incomplete call.skipped onboardedFamily structured none = .notExecuted := by
  rw [mapStepOutcomeToDisarmResult.eq_def]
  by_cases hinterrupted :
      (call.started && call.exitCode.any platformInterruptedExitCodes.contains) = true
  · rw [if_pos hinterrupted]
    exact .inl rfl
  rw [if_neg hinterrupted]
  by_cases hlost : call.leaseLost = true
  · rw [if_pos hlost]
    exact .inr rfl
  rw [if_neg hlost]
  by_cases hincomplete : call.incomplete = true
  · rw [if_pos hincomplete]
    exact .inl rfl
  rw [if_neg hincomplete]
  by_cases hskipped : (call.skipped || !call.started) = true
  · rw [if_pos hskipped]
    exact .inr rfl
  refine absurd ?_ (Bool.eq_false_iff.mp h)
  simp only [Bool.not_eq_true] at hinterrupted hlost hincomplete hskipped
  obtain ⟨hskip, hstarted⟩ := Bool.or_eq_false_iff.mp hskipped
  have hstart : call.started = true := by simpa using hstarted
  rw [hstart, Bool.true_and] at hinterrupted
  rw [hasEvidence, hstart, hskip, hlost, hincomplete, hinterrupted]
  rfl

/-- A family that is not onboarded has nothing to verify with. -/
theorem outcomeValue_not_onboarded (call : DisarmCall) (parsed : PyDict)
    (readback : Option String) : outcomeValue call false parsed readback ≠ .confirmed ∧
      outcomeValue call false parsed readback ≠ .readbackFailed := by
  rw [outcomeValue]
  split_ifs with hcond
  · exact ⟨by decide, by decide⟩
  · exact ⟨by decide, by decide⟩
  · rw [Bool.not_false, Bool.true_and] at hcond
    refine ⟨fun heq => hcond ?_, fun heq => hcond ?_⟩
    · rw [heq]
      decide
    · rw [heq]
      decide

/-- What is confirmed of evidence, the policy confirms. -/
theorem policyConfirms_of_judgeEvidence {call : DisarmCall} {family : String}
    {spec : OnboardedSpec} {parsed evidence : PyDict} (hspec : onboarded.lookup family = some spec)
    (h : judgeEvidence call family spec parsed = .ok (.confirmed, evidence)) :
    PolicyConfirms call family evidence ∧
      ∃ own, dictOf ((PyDict.get parsed "evidence").orElse (.dict [])) = .ok own ∧
        evidence = PyDict.update own (engineEvidence call parsed) := by
  rw [judgeEvidence] at h
  obtain ⟨own, hown, h⟩ := Except.bind_eq_ok_iff.mp h
  obtain ⟨policy, hpolicy, h⟩ := Except.bind_eq_ok_iff.mp h
  obtain ⟨hvalue, rfl⟩ := Prod.mk.inj (Except.ok.inj h)
  have hresult : policy.result = .confirmed := by
    split_ifs at hvalue with hreadback hevidence hsuccess
    exact hvalue
  refine ⟨⟨spec, policy, hspec, hpolicy, hresult, ?_⟩, own, hown, rfl⟩
  rw [policyOf] at hpolicy
  obtain ⟨identity, -, hpolicy⟩ := Except.bind_eq_ok_iff.mp hpolicy
  exact trusted_of_policy hpolicy hresult

section Entry

variable {loads : String → Except PyError (Option PyDict)} {call : DisarmCall} {family : String}
  {prior : Option DisarmEntry} {entry : DisarmEntry}

/-- The entry of a family that is not onboarded. -/
theorem not_privileged_of_disarmEntry (h : disarmEntry loads call family prior = .ok entry)
    (hnot : familyOnboarded family = false) :
    entry.result ≠ .confirmed ∧ entry.result ≠ .readbackFailed := by
  rw [disarmEntry] at h
  obtain ⟨parsed, -, h⟩ := Except.bind_eq_ok_iff.mp h
  obtain ⟨judged, hjudged, h⟩ := Except.bind_eq_ok_iff.mp h
  have hlookup : onboarded.lookup family = none :=
    Option.not_isSome_iff_eq_none.mp (Bool.eq_false_iff.mp hnot)
  rw [judgedValue, hlookup] at hjudged
  cases hjudged
  cases h
  exact outcomeValue_not_onboarded call parsed _

/-- **A confirmed entry** of a family that is onboarded was confirmed by the policy, on the
evidence of the call. -/
theorem confirmed_of_disarmEntry (h : disarmEntry loads call family prior = .ok entry)
    (honboarded : familyOnboarded family = true) (hconfirmed : entry.result = .confirmed) :
    EvidenceOf loads call entry.evidence ∧ PolicyConfirms call family entry.evidence := by
  rw [disarmEntry] at h
  obtain ⟨parsed, hparsed, h⟩ := Except.bind_eq_ok_iff.mp h
  obtain ⟨⟨value, evidence⟩, hjudged, h⟩ := Except.bind_eq_ok_iff.mp h
  obtain ⟨spec, hspec⟩ := Option.isSome_iff_exists.mp honboarded
  cases h
  change value = .confirmed at hconfirmed
  subst hconfirmed
  rw [judgedValue, hspec] at hjudged
  dsimp only at hjudged
  split_ifs at hjudged with hhas
  · obtain ⟨hpolicy, own, hown, heq⟩ := policyConfirms_of_judgeEvidence hspec hjudged
    exact ⟨⟨parsed, own, hparsed, hown, heq⟩, hpolicy⟩
  · obtain ⟨hvalue, -⟩ := Prod.mk.inj (Except.ok.inj hjudged)
    rw [outcomeValue] at hvalue
    rcases mapStepOutcome_of_not_hasEvidence (Bool.eq_false_iff.mpr hhas) (readbackOf parsed) true _
      with heq | heq
    · rw [heq] at hvalue
      cases hvalue
    · rw [heq] at hvalue
      cases hvalue

/-- An entry of a step that was not started because the lease is lost. -/
theorem isLeaseLost_of_disarmEntry (h : disarmEntry loads call family prior = .ok entry)
    (hlost : call.leaseLost = true) (hstarted : call.started = false) :
    entry.isLeaseLost = true := by
  rw [disarmEntry] at h
  obtain ⟨parsed, -, h⟩ := Except.bind_eq_ok_iff.mp h
  obtain ⟨judged, hjudged, h⟩ := Except.bind_eq_ok_iff.mp h
  have hhas : hasEvidence call = false := by
    rw [hasEvidence, hstarted]
    rfl
  have houtcome : ∀ flag readback, outcomeValue call flag parsed readback = .notExecuted := by
    intro flag readback
    rw [outcomeValue, mapStepOutcomeToDisarmResult.eq_def, hstarted, hlost]
    cases flag with
    | true => rfl
    | false => rfl
  have hresult : judged.1 = .notExecuted := by
    rw [judgedValue, hhas] at hjudged
    split at hjudged
    · cases hjudged
      exact houtcome true _
    · cases hjudged
      exact houtcome false _
  cases h
  have hreason : entryReason call = leaseLostReason := by
    rw [entryReason, if_pos hlost]
  rw [DisarmEntry.isLeaseLost, Bool.and_eq_true]
  exact ⟨decide_eq_true hresult, decide_eq_true hreason⟩

end Entry

/-! ### Calls in a row -/

section Calls

variable (loads : String → Except PyError (Option PyDict))

/-- A call; one that raises leaves the record as it is. -/
def recordCall (results : Dict DisarmEntry) (call : DisarmCall) : Dict DisarmEntry :=
  (recordDisarmForStep loads results call).toOption.getD results

/-- The calls of a job, in their order. -/
def recordCalls (results : Dict DisarmEntry) (calls : List DisarmCall) : Dict DisarmEntry :=
  calls.foldl (recordCall loads) results

/-- A call is effective for a family when it writes its entry. -/
def Effective (results : Dict DisarmEntry) (call : DisarmCall) (family : String) : Prop :=
  ∃ entry, disarmWrite loads results call = .ok (some (family, entry))

/-- What the record of a job says is sound. -/
structure FoldSound (start : Dict DisarmEntry) (calls : List DisarmCall) : Prop where
  leaseLoss : ∀ before call after family entry, calls = before ++ call :: after →
    (recordCalls loads start before).get? family = some entry → entry.isLeaseLost = true →
    call.leaseLost = false →
    (recordCalls loads start (before ++ [call])).get? family = some entry
  leaseLossStays : ∀ before after family entry, calls = before ++ after →
    (recordCalls loads start before).get? family = some entry → entry.isLeaseLost = true →
    (∀ call ∈ after, call.leaseLost = true → call.started = false) →
    ∃ last, (recordCalls loads start calls).get? family = some last ∧ last.isLeaseLost = true
  skipped : ∀ before call after family entry, calls = before ++ call :: after →
    (recordCalls loads start before).get? family = some entry →
    entry.result ∈ executedResults → call.skipped = true →
    (recordCalls loads start (before ++ [call])).get? family = some entry
  collect : ∀ before call after, calls = before ++ call :: after → call.role = some .collect →
    recordCalls loads start (before ++ [call]) = recordCalls loads start before
  notOnboarded : ∀ family entry, (recordCalls loads start calls).get? family = some entry →
    familyOnboarded family = false → entry.result ≠ .confirmed ∧ entry.result ≠ .readbackFailed
  confirmed : ∀ family entry, (recordCalls loads start calls).get? family = some entry →
    familyOnboarded family = true → entry.result = .confirmed →
    ∃ before call after, calls = before ++ call :: after ∧
      Effective loads (recordCalls loads start before) call family ∧
      (∀ pre c post, after = pre ++ c :: post →
        ¬ Effective loads (recordCalls loads start (before ++ call :: pre)) c family) ∧
      EvidenceOf loads call entry.evidence ∧
      ∃ prior, PolicyConfirms (call.withPrior prior) family entry.evidence

variable {loads} {results : Dict DisarmEntry} {call : DisarmCall} {family : String}

/-- What a call that writes an entry is. -/
theorem of_disarmWrite {entry : DisarmEntry}
    (h : disarmWrite loads results call = .ok (some (family, entry))) :
    call.role ≠ some .collect ∧
      (∀ old, results.get? family = some old → old.keptFrom call = false) ∧
      ∃ prior, disarmEntry loads (call.withPrior prior) family prior = .ok entry := by
  rw [disarmWrite.eq_def] at h
  by_cases hcollect : call.role = some .collect
  · rw [if_pos hcollect] at h
    cases h
  rw [if_neg hcollect] at h
  refine ⟨hcollect, ?_⟩
  cases hfamily : call.family? with
  | none =>
      rw [hfamily] at h
      cases h
  | some other =>
      rw [hfamily] at h
      dsimp only at h
      by_cases hkept : (results.get? other).any (DisarmEntry.keptFrom call) = true
      · rw [if_pos hkept] at h
        cases h
      · rw [if_neg hkept] at h
        obtain ⟨written, hentry, heq⟩ := Except.map_eq_ok_iff.mp h
        cases heq
        refine ⟨fun old hold => ?_, _, hentry⟩
        rw [hold] at hkept
        exact Bool.eq_false_iff.mpr hkept

/-- What a call does: it writes one entry, or nothing. -/
theorem recordCall_cases (loads : String → Except PyError (Option PyDict))
    (results : Dict DisarmEntry) (call : DisarmCall) :
    (∃ family entry, disarmWrite loads results call = .ok (some (family, entry)) ∧
      recordCall loads results call = results.set family entry) ∨
      (recordCall loads results call = results ∧
        ∀ family, ¬ Effective loads results call family) := by
  cases hwrite : disarmWrite loads results call with
  | error e =>
      refine .inr ⟨?_, ?_⟩
      · rw [recordCall, recordDisarmForStep, hwrite]
        rfl
      · rintro family ⟨entry, h⟩
        rw [hwrite] at h
        cases h
  | ok written =>
      cases written with
      | none =>
          refine .inr ⟨?_, ?_⟩
          · rw [recordCall, recordDisarmForStep, hwrite]
            rfl
          · rintro family ⟨entry, h⟩
            rw [hwrite] at h
            cases h
      | some written =>
          refine .inl ⟨written.1, written.2, rfl, ?_⟩
          rw [recordCall, recordDisarmForStep, hwrite]
          rfl

/-- A call that is not effective for a family leaves its entry. -/
theorem get?_recordCall_of_not (h : ¬ Effective loads results call family) :
    (recordCall loads results call).get? family = results.get? family := by
  rcases recordCall_cases loads results call with ⟨other, entry, hwrite, hset⟩ | ⟨hsame, -⟩
  · rw [hset]
    exact Dict.get?_set_of_ne _ _ fun heq => h ⟨entry, heq ▸ hwrite⟩
  · rw [hsame]

/-- A call that is effective writes its entry. -/
theorem get?_recordCall_of_write {entry : DisarmEntry}
    (h : disarmWrite loads results call = .ok (some (family, entry))) :
    (recordCall loads results call).get? family = some entry := by
  rcases recordCall_cases loads results call with ⟨other, entry', hwrite, hset⟩ | ⟨-, hnot⟩
  · rw [h] at hwrite
    cases hwrite
    rw [hset, Dict.get?_set_self]
  · exact absurd ⟨entry, h⟩ (hnot family)

/-- **An entry that is kept** from a call stays. -/
theorem get?_recordCall_of_kept {entry : DisarmEntry} (h : results.get? family = some entry)
    (hkept : entry.keptFrom call = true) :
    (recordCall loads results call).get? family = some entry := by
  refine (get?_recordCall_of_not ?_).trans h
  rintro ⟨written, hwrite⟩
  have hnot := (of_disarmWrite hwrite).2.1 entry h
  rw [hkept] at hnot
  cases hnot

/-- A lost lease is kept. -/
theorem get?_recordCall_leaseLost {entry : DisarmEntry} (h : results.get? family = some entry)
    (hlost : entry.isLeaseLost = true) (hcall : call.leaseLost = false) :
    (recordCall loads results call).get? family = some entry := by
  refine get?_recordCall_of_kept h ?_
  rw [DisarmEntry.keptFrom, hlost, hcall]
  rfl

/-- A lost lease stays lost, when a step with a lost lease is not started. -/
theorem leaseLost_recordCall {entry : DisarmEntry} (h : results.get? family = some entry)
    (hlost : entry.isLeaseLost = true) (hcall : call.leaseLost = true → call.started = false) :
    ∃ last, (recordCall loads results call).get? family = some last ∧
      last.isLeaseLost = true := by
  by_cases hl : call.leaseLost = true
  · by_cases heff : Effective loads results call family
    · obtain ⟨written, hwrite⟩ := heff
      obtain ⟨-, -, prior, hentry⟩ := of_disarmWrite hwrite
      refine ⟨written, get?_recordCall_of_write hwrite, isLeaseLost_of_disarmEntry hentry ?_ ?_⟩
      · cases prior with
        | none => exact hl
        | some old => exact hl
      · cases prior with
        | none => exact hcall hl
        | some old => exact hcall hl
    · exact ⟨entry, (get?_recordCall_of_not heff).trans h, hlost⟩
  · exact ⟨entry, get?_recordCall_leaseLost h hlost (Bool.eq_false_iff.mpr hl), hlost⟩

/-- The calls up to one. -/
theorem recordCalls_concat (start : Dict DisarmEntry) (before : List DisarmCall) :
    recordCalls loads start (before ++ [call]) =
      recordCall loads (recordCalls loads start before) call := by
  rw [recordCalls, List.foldl_append]
  rfl

/-- Defaults that are written say that nothing was executed. -/
theorem result_of_defaults (families : List String) (reason : String) (out : Dict DisarmEntry)
    (hout : ∀ f e, out.get? f = some e → e.result = .notExecuted) :
    ∀ f e, (families.foldl (fun out family =>
      out.set family (makeDisarmResult .notExecuted "" none "" reason)) out).get? f = some e →
        e.result = .notExecuted := by
  induction families generalizing out with
  | nil => exact hout
  | cons family rest ih =>
      refine ih _ fun f e he => ?_
      rw [Dict.get?_set] at he
      split_ifs at he
      · cases he
        rfl
      · exact hout f e he

/-- What a record says at last of a family: nothing was executed, or its last effective call wrote
it. -/
theorem last_entry (families : List String) (reason : String) (calls : List DisarmCall)
    {entry : DisarmEntry} (h : (recordCalls loads (defaultNotExecutedForFamilies families reason)
      calls).get? family = some entry) :
    entry.result = .notExecuted ∨ ∃ before call after, calls = before ++ call :: after ∧
      disarmWrite loads (recordCalls loads (defaultNotExecutedForFamilies families reason) before)
        call = .ok (some (family, entry)) ∧
      ∀ pre c post, after = pre ++ c :: post → ¬ Effective loads
        (recordCalls loads (defaultNotExecutedForFamilies families reason) (before ++ call :: pre))
        c family := by
  have hlast := @foldl_last_write (Dict DisarmEntry) DisarmCall _ (recordCall loads)
    (fun results => results.get? family) (fun results call => Effective loads results call family)
    (fun _ _ hnot => get?_recordCall_of_not hnot) calls
    (defaultNotExecutedForFamilies families reason)
  rcases hlast with ⟨hview, -⟩ | ⟨before, call, after, heq, ⟨written, hwrite⟩, hnone, hview⟩
  · refine .inl (result_of_defaults families reason Dict.empty (fun _ _ he => ?_) family entry ?_)
    · cases he
    · exact hview.symm.trans h
  · have hentry : some entry = some written :=
      (h.symm.trans hview).trans (get?_recordCall_of_write hwrite)
    cases hentry
    exact .inr ⟨before, call, after, heq, hwrite, hnone⟩

/-- **The record of a job is sound**, after any calls. -/
theorem disarm_fold_sound (loads : String → Except PyError (Option PyDict))
    (families : List String) (reason : String) (calls : List DisarmCall) :
    FoldSound loads (defaultNotExecutedForFamilies families reason) calls where
  leaseLoss := by
    intro before call after family entry _ h hlost hcall
    rw [recordCalls_concat]
    exact get?_recordCall_leaseLost h hlost hcall
  leaseLossStays := by
    rintro before after family entry rfl h hlost hcalls
    induction after generalizing before entry with
    | nil =>
        rw [List.append_nil]
        exact ⟨entry, h, hlost⟩
    | cons call rest ih =>
        obtain ⟨last, hlast, hstays⟩ :=
          leaseLost_recordCall h hlost (hcalls call List.mem_cons_self)
        rw [← recordCalls_concat] at hlast
        rw [List.append_cons]
        exact ih _ _ hlast hstays fun c hc => hcalls c (List.mem_cons_of_mem _ hc)
  skipped := by
    intro before call after family entry _ h hexecuted hskipped
    rw [recordCalls_concat]
    refine get?_recordCall_of_kept h ?_
    rw [DisarmEntry.keptFrom, hskipped, List.contains_iff_mem.mpr hexecuted, Bool.or_eq_true]
    exact .inr rfl
  collect := by
    intro before call after _ hcollect
    rw [recordCalls_concat]
    rcases recordCall_cases loads (recordCalls loads _ before) call with
      ⟨family, entry, hwrite, -⟩ | ⟨hsame, -⟩
    · exact absurd hcollect (of_disarmWrite hwrite).1
    · exact hsame
  notOnboarded := by
    intro family entry h hnot
    rcases last_entry families reason calls h with hresult | ⟨before, call, after, -, hwrite, -⟩
    · rw [hresult]
      exact ⟨by decide, by decide⟩
    · obtain ⟨-, -, prior, hentry⟩ := of_disarmWrite hwrite
      exact not_privileged_of_disarmEntry hentry hnot
  confirmed := by
    intro family entry h honboarded hconfirmed
    rcases last_entry families reason calls h with
      hresult | ⟨before, call, after, heq, hwrite, hnone⟩
    · rw [hresult] at hconfirmed
      cases hconfirmed
    · obtain ⟨-, -, prior, hentry⟩ := of_disarmWrite hwrite
      obtain ⟨hevidence, hpolicy⟩ := confirmed_of_disarmEntry hentry honboarded hconfirmed
      refine ⟨before, call, after, heq, ⟨entry, hwrite⟩, hnone, ?_, prior, hpolicy⟩
      cases prior with
      | none => exact hevidence
      | some old => exact hevidence

end Calls

end StabilityPlatform.DisarmRecord
