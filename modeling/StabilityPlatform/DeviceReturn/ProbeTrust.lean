import StabilityPlatform.DeviceReturn.Operations
import StabilityPlatform.Lib.Json

/-!
# Trust in probes

A family is returned, and its debts are closed, on the evidence of a probe: one that was taken
on a booted device, with the registered script and package, for a combination that was verified,
and read back clear. Discharge, init check and late confirmation ask for it, each in its own way;
the init of a device returns nothing.

## Main results

* `ProbeVerified`: what the policy asks of the evidence.
* `verified_of_evaluate`: what it confirms and trusts is that.
* `probe_trust`: **no family is returned and no debt closed without it**, in any of the four.
-/

namespace StabilityPlatform

open Lib

/-! ### The policy -/

/-- Evidence of a disarmed family: of the combination at hand, which is a registered one, and
clear. -/
structure ProbeVerified (family : String) (entry : PyDict) (device : Device)
    (scriptName scriptVersion : String) (packageSha : Option String) : Prop where
  registered : ∃ spec c, onboarded.lookup family = some spec ∧ c ∈ spec.verifiedDeviceClasses ∧
    (PyDict.get c "report_ref").truthy = true ∧
    (PyVal.ofStr? device.platform).pyEq (PyDict.get c "platform") = true ∧
    (PyVal.ofStr? device.model).pyEq (PyDict.get c "model") = true ∧
    (PyDict.get (mappingOrEmpty entry "evidence") "permission_model").pyEq
      (PyDict.get c "permission_model") = true ∧
    (PyVal.str scriptName).pyEq (PyDict.get c "script_name") = true ∧
    (PyVal.str scriptVersion).pyEq (PyDict.get c "script_version") = true ∧
    (PyVal.ofStr? packageSha).pyEq (PyDict.get c "package_sha256") = true ∧
    ∀ key ∈ (probeToolIdentityFields.lookup family).getD [],
      (PyDict.get (mappingOrEmpty entry "evidence") key).pyEq (PyDict.get c key) = true
  script : (PyDict.get (mappingOrEmpty entry "evidence") "script_name").pyEq
      (.str scriptName) = true ∧
    (PyDict.get (mappingOrEmpty entry "evidence") "script_version").pyEq
      (.str scriptVersion) = true
  package : (PyDict.get (mappingOrEmpty entry "evidence") "package_sha256").pyEq
    (.ofStr? packageSha) = true
  booted : (PyDict.get (mappingOrEmpty entry "evidence") "boot_completed").pyStr = "1"
  clear : PyDict.get (mappingOrEmpty entry "evidence") "readback" = .str "clear" ∧
    PyDict.get (mappingOrEmpty entry "evidence") "kind" = .str "ok"
  mode : PyDict.get (mappingOrEmpty entry "evidence") "mode" = .str "probe" ∨
    PyDict.get (mappingOrEmpty entry "evidence") "mode" = .str "disarm" ∧
      PyDict.get (mappingOrEmpty entry "evidence") "success" = .bool true

/-- No reason against a combination. -/
theorem of_probeReason_eq_empty {evidence observed : PyDict} {identityFields : List String}
    {scriptName scriptVersion : String} {packageSha : Option String} {tokenValid : Bool}
    {matched : Option PyDict}
    (h : probeReason evidence observed identityFields scriptName scriptVersion packageSha
      tokenValid matched = "") :
    (PyDict.get evidence "package_sha256").pyEq (.ofStr? packageSha) = true ∧
      (PyDict.get evidence "script_name").pyEq (.str scriptName) = true ∧
      (PyDict.get evidence "script_version").pyEq (.str scriptVersion) = true ∧
      matched.isSome = true ∧ (PyDict.get evidence "boot_completed").pyStr = "1" := by
  rw [probeReason] at h
  split_ifs at h with h₁ h₂ h₃ h₄ h₅ h₆ h₇
  · exact absurd h (by decide)
  · exact absurd h (by decide)
  · exact absurd h (by decide)
  · exact absurd h (by decide)
  · exact absurd h (by decide)
  · exact absurd h (by decide)
  · exact absurd h (by decide)
  · simp only [Bool.not_eq_true', Bool.not_eq_false] at h₄
    simp only [Bool.or_eq_true, Bool.not_eq_true', not_or, Bool.not_eq_false] at h₅
    simp only [Option.isNone_iff_eq_none, ← Option.isSome_iff_ne_none] at h₆
    exact ⟨h₄, h₅.1, h₅.2, h₆, not_not.mp h₇⟩

/-- What a confirmed and trusted verdict rests on. -/
theorem of_probeVerdict_confirmed {evidence : PyDict} {reason reason' : String}
    (h : probeVerdict evidence reason = (.confirmed, true, reason')) :
    reason = "" ∧ PyDict.get evidence "readback" = .str "clear" ∧
      PyDict.get evidence "kind" = .str "ok" ∧
      (PyDict.get evidence "mode" = .str "probe" ∨
        PyDict.get evidence "mode" = .str "disarm" ∧
          PyDict.get evidence "success" = .bool true) := by
  rw [probeVerdict] at h
  split_ifs at h with hraw hprobe hclear hdisarm hall hexec hother
  all_goals simp only [Prod.mk.injEq, reduceCtorEq, false_and, and_false] at h
  · simp only [Bool.and_eq_true, isOneOf_singleton, decide_eq_true_eq] at hclear
    exact ⟨hclear.1, hclear.2.1, hclear.2.2, .inl (isOneOf_singleton.mp hprobe)⟩
  · simp only [Bool.and_eq_true, isOneOf_singleton, decide_eq_true_eq] at hall
    refine ⟨hall.1.1, hall.2.1, hall.2.2, .inr ⟨isOneOf_singleton.mp hdisarm, ?_⟩⟩
    have hsuccess := hall.1.2
    split at hsuccess
    · assumption
    · cases hsuccess

/-- **What the policy confirms and trusts.** -/
theorem probeVerified_of_policy {family : String} {entry : PyDict} {device : Device}
    {scriptName scriptVersion : String} {packageSha : Option String} {tokenValid : Bool}
    {policy : ProbePolicy}
    (h : probeResultPolicy onboarded family entry device.platform device.model scriptName
      scriptVersion packageSha tokenValid = .ok policy)
    (htrusted : policy.trusted = true) (hconfirmed : policy.result = .confirmed) :
    ProbeVerified family entry device scriptName scriptVersion packageSha := by
  rw [probeResultPolicy] at h
  dsimp only at h
  generalize hobserved : ([("platform", PyVal.ofStr? device.platform),
    ("model", .ofStr? device.model),
    ("permission_model", PyDict.get (mappingOrEmpty entry "evidence") "permission_model"),
    ("script_name", .str scriptName), ("script_version", .str scriptVersion),
    ("package_sha256", .ofStr? packageSha)] : PyDict) ++
      ((probeToolIdentityFields.lookup family).getD []).map (fun key =>
        (key, PyDict.get (mappingOrEmpty entry "evidence") key)) = observed at h
  generalize hmatched : (((onboarded.lookup family).map
    OnboardedSpec.verifiedDeviceClasses).getD []).find? (matchesClass observed) = matched at h
  generalize hverdict : probeVerdict (mappingOrEmpty entry "evidence")
    (probeReason (mappingOrEmpty entry "evidence") observed
      ((probeToolIdentityFields.lookup family).getD []) scriptName scriptVersion packageSha
      tokenValid matched) = verdict at h
  obtain ⟨result, trusted, reason⟩ := verdict
  obtain ⟨interrupted, -, h⟩ := Except.bind_eq_ok_iff.mp h
  cases h
  dsimp only at htrusted hconfirmed
  cases interrupted with
  | true =>
      rw [if_pos rfl] at hconfirmed
      cases hconfirmed
  | false =>
      rw [if_neg Bool.false_ne_true] at hconfirmed
      subst htrusted hconfirmed
      obtain ⟨hreason, hclear, hkind, hmode⟩ := of_probeVerdict_confirmed hverdict
      obtain ⟨hpackage, hname, hversion, hsome, hboot⟩ := of_probeReason_eq_empty hreason
      obtain ⟨c, rfl⟩ := Option.isSome_iff_exists.mp hsome
      have hmatch := List.find?_some hmatched
      have hmem := List.mem_of_find?_eq_some hmatched
      cases hlookup : onboarded.lookup family with
      | none =>
          rw [hlookup] at hmem
          cases hmem
      | some spec =>
          rw [hlookup] at hmem
          rw [matchesClass, Bool.and_eq_true, List.all_eq_true] at hmatch
          obtain ⟨hreport, hall⟩ := hmatch
          have heq : ∀ p ∈ observed, p.2.pyEq (PyDict.get c p.1) = true := fun p hp =>
            (Bool.and_eq_true_iff.mp (hall p hp)).2
          rw [← hobserved] at heq
          refine ⟨⟨spec, c, hlookup, hmem, hreport, heq ("platform", .ofStr? device.platform) (by simp),
            heq ("model", .ofStr? device.model) (by simp),
            heq ("permission_model", PyDict.get (mappingOrEmpty entry "evidence") "permission_model")
              (by simp),
            heq ("script_name", .str scriptName) (by simp),
            heq ("script_version", .str scriptVersion) (by simp),
            heq ("package_sha256", .ofStr? packageSha) (by simp), fun key hkey => ?_⟩,
            ⟨hname, hversion⟩, hpackage, hboot, ⟨hclear, hkind⟩, hmode⟩
          exact heq (key, PyDict.get (mappingOrEmpty entry "evidence") key)
            (List.mem_append_right _ (List.mem_map.mpr ⟨key, hkey, rfl⟩))

/-! ### An entry of a report -/

/-- The script and the version an entry is judged by: what the evidence names, or the step of
the job's pipeline that the entry names. -/
inductive NamesScript (entry : PyDict) : Option JobInstance → String → String → Prop
  | evidence : NamesScript entry none
      (PyDict.get (mappingOrEmpty entry "evidence") "script_name").strOrEmpty
      (PyDict.get (mappingOrEmpty entry "evidence") "script_version").strOrEmpty
  | pipeline {job : JobInstance} {steps : List PyVal}
      (read : teardownStepsOf job.pipelineDef = .ok steps) : NamesScript entry (some job)
      (scriptNameFromStep (stepNamed steps (PyDict.get entry "step_id")))
      (stepVersionOf (stepNamed steps (PyDict.get entry "step_id")))

section Trust

variable (manifestPackageSha : String → String → Option String)

/-- The evidence of an entry satisfies the policy, for the script it is judged by and its
registered package. -/
def EntryVerified (device : Device) (family : String) (entry : PyDict)
    (job : Option JobInstance) : Prop :=
  ∃ scriptName scriptVersion, NamesScript entry job scriptName scriptVersion ∧
    ProbeVerified family entry device scriptName scriptVersion
      (manifestPackageSha scriptName scriptVersion)

/-- A report holds an entry of a family whose evidence satisfies the policy on a device. -/
def VerifiedIn (db : Db) (d : ℕ) (job : Option JobInstance) (results : Dict PyDict)
    (family : String) : Prop :=
  ∃ device entry, db.devices.get? d = some device ∧ results.get? family = some entry ∧
    EntryVerified manifestPackageSha device family entry job

end Trust

variable {manifestPackageSha : String → String → Option String}

/-- The policy is asked about the script an entry is judged by. -/
theorem policy_of_evaluate {device : Device} {family : String} {entry : PyDict}
    {job : Option JobInstance} {policy : ProbePolicy}
    (h : evaluateProbeEntry manifestPackageSha device family entry true job = .ok policy) :
    ∃ scriptName scriptVersion, NamesScript entry job scriptName scriptVersion ∧
      probeResultPolicy onboarded family entry device.platform device.model scriptName
        scriptVersion (manifestPackageSha scriptName scriptVersion) true = .ok policy := by
  rw [evaluateProbeEntry.eq_def] at h
  cases job with
  | none => exact ⟨_, _, .evidence, h⟩
  | some job =>
      obtain ⟨steps, hsteps, h⟩ := Except.bind_eq_ok_iff.mp h
      exact ⟨_, _, .pipeline hsteps, h⟩

/-- **What the evaluation confirms and trusts** satisfies the policy. -/
theorem verified_of_evaluate {device : Device} {family : String} {entry : PyDict}
    {job : Option JobInstance} {policy : ProbePolicy}
    (h : evaluateProbeEntry manifestPackageSha device family entry true job = .ok policy)
    (htrusted : policy.trusted = true) (hconfirmed : policy.result = .confirmed) :
    EntryVerified manifestPackageSha device family entry job := by
  obtain ⟨scriptName, scriptVersion, hnames, hpolicy⟩ := policy_of_evaluate h
  exact ⟨scriptName, scriptVersion, hnames,
    probeVerified_of_policy hpolicy htrusted hconfirmed⟩

/-- The evidence of a device does not depend on its return state. -/
theorem EntryVerified.of_row {device : Device} {rs : Option (Dict PyDict)} {family : String}
    {entry : PyDict} {job : Option JobInstance}
    (h : EntryVerified manifestPackageSha { device with returnState := rs } family entry job) :
    EntryVerified manifestPackageSha device family entry job := by
  obtain ⟨scriptName, scriptVersion, hnames, hverified⟩ := h
  obtain ⟨hregistered, hscript, hpackage, hbooted, hclear, hmode⟩ := hverified
  exact ⟨scriptName, scriptVersion, hnames, hregistered, hscript, hpackage, hbooted, hclear, hmode⟩

/-! ### Results that are no text -/

/-- The text of a number in a result is no privileged result. -/
def NumericResult (entry : PyDict) : Prop :=
  ∀ q text, PyDict.get entry "result" = .float q text → text ∉ privilegedResults

/-- The first character of a privileged result. -/
theorem head_of_privileged {s : String} (h : s ∈ privilegedResults) :
    s.toList.head? = some 'c' ∨ s.toList.head? = some 'r' := by
  rcases List.mem_cons.mp h with rfl | h
  · exact .inl (by decide)
  · obtain rfl := List.mem_singleton.mp h
    exact .inr (by decide)

/-- Only a text is printed as a privileged result. -/
theorem privileged_of_pyStr {v : PyVal}
    (hfloat : ∀ q text, v = .float q text → text ∉ privilegedResults)
    (h : v.pyStr ∈ privilegedResults) : v.isOneOf privilegedResults = true := by
  cases v with
  | str s =>
      have htext : s ∈ privilegedResults := h
      simpa [PyVal.isOneOf] using htext
  | null => exact absurd h (by decide)
  | bool b => cases b <;> exact absurd h (by decide)
  | float q text => exact absurd h (hfloat q text rfl)
  | int z =>
      have hnum : ∀ c ∈ (toString z).toList, isNumChar c = true := Json.numeric_intChars z
      have hchars : (PyVal.int z).pyStr = toString z := rfl
      rw [hchars] at h
      rcases head_of_privileged h with hhead | hhead
      · exact absurd (hnum _ (List.mem_of_mem_head? hhead)) (by decide)
      · exact absurd (hnum _ (List.mem_of_mem_head? hhead)) (by decide)
  | list xs =>
      have hchars : (PyVal.list xs).pyStr.toList.head? = some '[' := by
        simp [PyVal.pyStr, PyVal.pyRepr]
      rcases head_of_privileged h with hhead | hhead
      · rw [hchars] at hhead
        exact absurd hhead (by decide)
      · rw [hchars] at hhead
        exact absurd hhead (by decide)
  | dict items =>
      have hchars : (PyVal.dict items).pyStr.toList.head? = some '\x7b' := by
        simp [PyVal.pyStr, PyVal.pyRepr]
      rcases head_of_privileged h with hhead | hhead
      · rw [hchars] at hhead
        exact absurd hhead (by decide)
      · rw [hchars] at hhead
        exact absurd hhead (by decide)

/-- An entry printed as a privileged result is privileged. -/
theorem isPrivileged_of_pyStr {entry : PyDict} (hnum : NumericResult entry)
    (h : (PyDict.get entry "result").pyStr ∈ privilegedResults) : isPrivileged entry = true :=
  privileged_of_pyStr hnum h

/-- The same for a missing result. -/
theorem isPrivileged_of_resultOf {entry : PyDict} (hnum : NumericResult entry)
    (h : resultOf entry ∈ privilegedResults) : isPrivileged entry = true := by
  rw [resultOf, PyVal.strOrEmpty] at h
  split at h
  · exact isPrivileged_of_pyStr hnum h
  · exact absurd h (by decide)

/-- An accepted privileged entry says what the policy trusts. -/
theorem trusted_of_privileged {family : String} {entry : PyDict} {policy : ProbePolicy}
    {entryPoint : EntryPoint} (hpoint : entryPoint = .discharge ∨ entryPoint = .initCheck)
    (hprivileged : isPrivileged entry = true)
    (hok : (probeEntryResponse family entry policy entryPoint).statusCode ≠ 422) :
    policy.trusted = true ∧ PyDict.get entry "result" = .str policy.result.value := by
  rw [probeEntryResponse] at hok
  rw [hprivileged] at hok
  simp only [Bool.not_true, Bool.false_or, Bool.or_false] at hok
  by_cases h : (policy.trusted && PyVal.pyEq (.str policy.result.value)
      (PyDict.get entry "result")) = true
  · rw [Bool.and_eq_true] at h
    refine ⟨h.1, ?_⟩
    have heq := h.2
    cases hresult : PyDict.get entry "result" with
    | str s =>
        rw [hresult] at heq
        rw [PyVal.pyEq, PyVal.eqWith, beq_iff_eq] at heq
        rw [heq]
    | null => rw [hresult] at heq; cases heq
    | bool b => rw [hresult] at heq; cases heq
    | int z => rw [hresult] at heq; cases heq
    | float q text => rw [hresult] at heq; cases heq
    | list xs => rw [hresult] at heq; cases heq
    | dict items => rw [hresult] at heq; cases heq
  · rw [if_neg h] at hok
    exact absurd (if_pos hpoint) hok

/-- The policy never comes to a failed readback. -/
theorem policy_ne_readbackFailed {device : Device} {family : String} {entry : PyDict}
    {job : Option JobInstance} {policy : ProbePolicy}
    (h : evaluateProbeEntry manifestPackageSha device family entry true job = .ok policy) :
    policy.result ≠ .readbackFailed := by
  have hverdict : ∀ evidence reason, (probeVerdict evidence reason).1 ≠ .readbackFailed := by
    intro evidence reason
    rw [probeVerdict]
    split_ifs <;> simp
  obtain ⟨scriptName, scriptVersion, -, hpolicy⟩ := policy_of_evaluate h
  rw [probeResultPolicy] at hpolicy
  obtain ⟨interrupted, -, hpolicy⟩ := Except.bind_eq_ok_iff.mp hpolicy
  cases hpolicy
  dsimp only
  split
  · decide
  · exact hverdict _ _

/-- The privileged results are the confirmed one and the failed readback. -/
theorem DisarmResult.eq_confirmed {result : DisarmResult} (h : result.value ∈ privilegedResults)
    (hne : result ≠ .readbackFailed) : result = .confirmed := by
  revert h hne
  cases result <;> decide

/-- An accepted privileged entry is a confirmed one, on evidence. -/
theorem confirmed_of_privileged {device : Device} {family : String} {entry : PyDict}
    {job : Option JobInstance} {policy : ProbePolicy} {entryPoint : EntryPoint}
    (h : evaluateProbeEntry manifestPackageSha device family entry true job = .ok policy)
    (hpoint : entryPoint = .discharge ∨ entryPoint = .initCheck)
    (hprivileged : isPrivileged entry = true)
    (hok : (probeEntryResponse family entry policy entryPoint).statusCode ≠ 422) :
    policy.trusted = true ∧ PyDict.get entry "result" = .str DisarmResult.confirmed.value ∧
      EntryVerified manifestPackageSha device family entry job := by
  obtain ⟨htrusted, hresult⟩ := trusted_of_privileged hpoint hprivileged hok
  have hconfirmed : policy.result = .confirmed := by
    rw [isPrivileged, hresult] at hprivileged
    refine DisarmResult.eq_confirmed ?_ (policy_ne_readbackFailed h)
    simpa [PyVal.isOneOf, privilegedResults] using hprivileged
  exact ⟨htrusted, by rw [hresult, hconfirmed], verified_of_evaluate h htrusted hconfirmed⟩

/-- A result stands for a return exactly when it is confirmed. -/
theorem mapDisarmResultToFamilyState_eq_returned {result : String} {onboarded : Bool}
    (h : mapDisarmResultToFamilyState result onboarded = .returned) :
    result = DisarmResult.confirmed.value := by
  rw [mapDisarmResultToFamilyState] at h
  split_ifs at h
  assumption

/-- The entry that is written for a result is justified when a privileged result is. -/
theorem justified_reported {ok : Prop} {reports : String → Prop} {result : String}
    {family : String} {source : ReturnSource} {now : Time} {extra : PyDict}
    (hextra : ∀ p ∈ extra, p.1 ≠ "state")
    (hresult : PyDict.get (PyDict.update
      [("state", .str (mapDisarmResultToFamilyState result (familyOnboarded family)).value),
        ("source", .str source.value), ("updated_at", .str (isoformat now))] extra)
      "disarm_result" = .str result)
    (hok : result ∈ privilegedResults → result = DisarmResult.confirmed.value ∧ ok)
    (hreports : ∀ r, r = DisarmResult.confirmed.value ∧ ok → reports r) :
    Justified ok reports [] (PyDict.update
      [("state", .str (mapDisarmResultToFamilyState result (familyOnboarded family)).value),
        ("source", .str source.value), ("updated_at", .str (isoformat now))] extra) := by
  refine ⟨fun hreturned => .inr ?_, fun r hr hnew => .inr ?_⟩
  · rw [PyDict.get_update_of_forall_ne hextra] at hreturned
    have hstate := FamilyReturn.value_injective (PyVal.str.inj hreturned)
    have hconfirmed := mapDisarmResultToFamilyState_eq_returned hstate
    exact (hok (by rw [hconfirmed]; decide)).2
  · rw [hresult] at hnew
    obtain rfl := PyVal.str.inj hnew
    exact hreports result (hok hr)

section Paths

variable {db : Db} {device : Device} {now : Time} {results : Dict PyDict}

/-- The reasons of a report on a device: the evidence of its entries. -/
def evidenceReasons (manifestPackageSha : String → String → Option String) (db : Db) (d : ℕ)
    (results : Dict PyDict) (causes : String → String → Prop) : Reasons where
  ok := VerifiedIn manifestPackageSha db d none results
  reports := fun f r => r = DisarmResult.confirmed.value ∧
    VerifiedIn manifestPackageSha db d none results f
  causes := causes

/-! ### Discharge -/

/-- One entry of a discharge has its reason. -/
theorem dischargeFamily_traced {t t' : DischargeTally} {item : String × PyDict}
    (hget : db.devices.get? device.id = some device) (hitem : item ∈ results.items)
    (hnum : NumericResult item.2)
    (htraced : Traced (evidenceReasons manifestPackageSha db device.id results fun _ _ => False)
      device db t.device t.db)
    (h : dischargeFamily manifestPackageSha device.id now t item = .ok t') :
    Traced (evidenceReasons manifestPackageSha db device.id results fun _ _ => False)
      device db t'.device t'.db := by
  obtain ⟨rs, hrs⟩ := htraced.row
  rw [dischargeFamily] at h
  split at h
  · cases h
    exact htraced
  · obtain ⟨policy, hpolicy, h⟩ := Except.bind_eq_ok_iff.mp h
    rw [hrs] at hpolicy
    have hverified : ∀ {entry}, entry = item.2 →
        EntryVerified manifestPackageSha { device with returnState := rs } item.1 entry none →
        VerifiedIn manifestPackageSha db device.id none results item.1 := by
      rintro entry rfl hentry
      exact ⟨device, item.2, hget, Dict.get?_eq_some_iff.mpr hitem, hentry.of_row⟩
    dsimp only at h
    split at h
    · cases h
      exact htraced
    · rename_i hok
      have hresult : (if policy.trusted then policy.result.value else resultOf item.2) ∈
          privilegedResults →
          (if policy.trusted then policy.result.value else resultOf item.2) =
            DisarmResult.confirmed.value ∧
          VerifiedIn manifestPackageSha db device.id none results item.1 := by
        intro hprivileged
        split at hprivileged
        · rename_i htrusted
          rw [if_pos htrusted]
          have hconfirmed : policy.result = .confirmed :=
            DisarmResult.eq_confirmed hprivileged (policy_ne_readbackFailed hpolicy)
          exact ⟨by rw [hconfirmed],
            hverified rfl (verified_of_evaluate hpolicy htrusted hconfirmed)⟩
        · rename_i htrusted
          exact absurd (confirmed_of_privileged hpolicy (.inl rfl)
            (isPrivileged_of_resultOf hnum hprivileged) hok).1 htrusted
      generalize (if policy.trusted then policy.result.value else resultOf item.2) = result
        at h hresult
      have hnew : Justified (VerifiedIn manifestPackageSha db device.id none results item.1)
          (fun r => r = DisarmResult.confirmed.value ∧
            VerifiedIn manifestPackageSha db device.id none results item.1) []
          (PyDict.update [("state", .str
              (mapDisarmResultToFamilyState result (familyOnboarded item.1)).value),
            ("source", .str ReturnSource.discharge.value), ("updated_at", .str (isoformat now))]
            [("disarm_result", .str result)]) :=
        justified_reported (by simp) rfl hresult fun _ hr => hr
      split at h
      · rename_i hclose
        cases h
        refine htraced.setFamily hnew (debtsTraced_closeFamilyDebtsSync _ _ _ fun f hf => ?_)
        obtain rfl := List.mem_singleton.mp hf
        exact (hresult (by rw [hclose.2]; decide)).2
      · cases h
        exact htraced.setFamily hnew (.of_debts rfl)

/-- **A discharge** has its reasons. -/
theorem applyDischargeSync_traced {db' : Db} {d : ℕ} {token : String}
    {reply : Reply DischargeOutcome} (hnum : ∀ item ∈ results.items, NumericResult item.2)
    (h : applyDischargeSync manifestPackageSha db now d token results = .ok (reply, db')) :
    ReportTraced d (evidenceReasons manifestPackageSha db d results fun _ _ => False) db db' := by
  rw [applyDischargeSync] at h
  cases hget : db.devices.get? d with
  | none =>
      rw [hget] at h
      cases h
      exact .refl d _
  | some device =>
      obtain rfl : device.id = d := Table.id_of_get? hget
      rw [hget] at h
      dsimp only at h
      split at h
      · cases h
        exact .refl _ _
      · split at h
        · cases h
          exact .refl _ _
        · obtain ⟨t, hfold, h⟩ := Except.bind_eq_ok_iff.mp h
          have htraced := foldlM_invariant_of_mem (I := fun t : DischargeTally =>
              t.From device.id device db ∧
              Traced (evidenceReasons manifestPackageSha db device.id results fun _ _ => False)
                device db t.device t.db)
            (fun hi hI hs => ⟨(dischargeFamily_spec hI.1 hs).1,
              dischargeFamily_traced hget hi (hnum _ hi) hI.2 hs⟩)
            ⟨⟨⟨device.returnState, rfl⟩, .refl _ db, fun _ => ⟨rfl, rfl⟩⟩, .refl device db⟩ hfold
          obtain ⟨hfrom, htraced⟩ := htraced
          split at h
          · rename_i hidle
            cases h
            rw [(hfrom.idle hidle.2).2]
            exact .refl _ _
          · cases h
            obtain ⟨debts, hdebts⟩ := hfrom.debts.tables
            obtain ⟨leases, hleases⟩ := maybeReleaseDebtLeaseSync_eq t.db t.device now
            refine htraced.settle hget ?_ ?_ _ now
            · rw [hleases, hdebts]
            · rw [hleases]

/-! ### Init check -/

/-- The causes an init check writes: results that are not privileged. -/
def checkCauses (_family cause : String) : Prop :=
  ∃ result, result ∉ privilegedResults ∧ cause = "init_check:" ++ result

/-- One entry of an init check has its reason. -/
theorem initCheckFamily_traced {t t' : InitCheckTally} {jobId : ℕ} {token : String}
    {item : String × PyDict} (hget : db.devices.get? device.id = some device)
    (hitem : item ∈ results.items) (hnum : NumericResult item.2)
    (htraced : Traced (evidenceReasons manifestPackageSha db device.id results checkCauses)
      device db t.device t.db)
    (h : initCheckFamily manifestPackageSha jobId token now t item = .ok t') :
    Traced (evidenceReasons manifestPackageSha db device.id results checkCauses)
      device db t'.device t'.db := by
  obtain ⟨rs, hrs⟩ := htraced.row
  have hid : t.device.id = device.id := by rw [hrs]
  rw [initCheckFamily] at h
  obtain ⟨decision, hdecision, h⟩ := Except.bind_eq_ok_iff.mp h
  rw [checkInitProbeResult, hrs] at hdecision
  obtain ⟨policy, hpolicy, hdecision⟩ := Except.bind_eq_ok_iff.mp hdecision
  cases hdecision
  split at h
  · cases h
    exact htraced
  · rename_i hok
    have hresult : (PyDict.get item.2 "result").pyStr ∈ privilegedResults →
        (PyDict.get item.2 "result").pyStr = DisarmResult.confirmed.value ∧
        VerifiedIn manifestPackageSha db device.id none results item.1 := by
      intro hprivileged
      obtain ⟨-, hconfirmed, hentry⟩ := confirmed_of_privileged hpolicy (.inr rfl)
        (isPrivileged_of_pyStr hnum hprivileged) hok
      refine ⟨by rw [hconfirmed]; rfl, device, item.2, hget, Dict.get?_eq_some_iff.mpr hitem, ?_⟩
      exact hentry.of_row
    split at h
    · cases h
    · dsimp only at h
      generalize (PyDict.get item.2 "result").pyStr = result at h hresult
      split at h
      · cases h
        exact htraced
      · obtain ⟨db₁, hdb, h⟩ := Except.bind_eq_ok_iff.mp h
        cases h
        refine htraced.setFamily (justified_reported (by simp) rfl hresult fun _ hr => hr) ?_
        rw [initCheckDebts, hid] at hdb
        split at hdb
        · rename_i hconfirmed
          cases hdb
          refine debtsTraced_closeFamilyDebtsSync _ _ _ fun f hf => ?_
          obtain rfl := List.mem_singleton.mp hf
          exact (hresult (by rw [hconfirmed]; decide)).2
        · rename_i hother
          split at hdb
          · refine debtsTraced_upsertOpenDebtSync hdb ⟨result, fun hprivileged => ?_, rfl⟩
            exact hother (hresult hprivileged).1
          · cases hdb
            exact .of_debts rfl

/-- **An init check** has its reasons. -/
theorem applyInitCheckSync_traced {db' : Db} {jobId : ℕ} {token : String}
    {reply : Reply InitCheckOutcome} {job : JobInstance} (hjob : db.jobs.get? jobId = some job)
    (hnum : ∀ item ∈ results.items, NumericResult item.2)
    (h : applyInitCheckSync manifestPackageSha db now jobId token results = .ok (reply, db')) :
    ReportTraced job.deviceId
      (evidenceReasons manifestPackageSha db job.deviceId results checkCauses) db db' := by
  rw [applyInitCheckSync, hjob] at h
  dsimp only at h
  split at h
  · cases h
    exact .refl _ _
  · cases hget : db.devices.get? job.deviceId with
    | none =>
        rw [hget] at h
        cases h
        exact .refl _ _
    | some device =>
        rw [hget] at h
        have hid : device.id = job.deviceId := Table.id_of_get? hget
        rw [← hid] at hget ⊢
        dsimp only at h
        split at h
        · cases h
          exact .refl _ _
        · split at h
          · cases h
            exact .refl _ _
          · obtain ⟨t, hfold, h⟩ := Except.bind_eq_ok_iff.mp h
            obtain ⟨hfrom, htraced⟩ := foldlM_invariant_of_mem
              (I := fun t : InitCheckTally => t.From device db ∧
                Traced (evidenceReasons manifestPackageSha db device.id results checkCauses)
                  device db t.device t.db)
              (fun hi hI hs => ⟨initCheckFamily_from hI.1 hs,
                initCheckFamily_traced hget hi (hnum _ hi) hI.2 hs⟩)
              ⟨⟨⟨device.returnState, rfl⟩, .refl _ db, id, fun _ => ⟨rfl, rfl⟩⟩, .refl device db⟩
              hfold
            cases h
            split
            · obtain ⟨debts, hdebts⟩ := hfrom.debts.tables
              exact htraced.settle hget (by rw [hdebts]) rfl _ now
            · rename_i hsame
              rw [(hfrom.idle (by simpa using hsame)).2]
              exact .refl _ _

/-! ### Late confirmation -/

/-- The reasons of a late confirmation: it records no result, and writes no debt. -/
def lateReasons (ok : String → Prop) : Reasons := ⟨ok, fun _ _ => False, fun _ _ => False⟩

/-- What a late confirmation may write: it closes open debts in the job's own name and token, for
families with a reason, and releases the debt lease of a device that owes nothing any more. -/
structure LateWrites (d jobId : ℕ) (token : String) (ok : String → Prop) (now : Time)
    (db db' : Db) : Prop where
  traced : ReportTraced d (lateReasons ok) db db'
  jobs : db'.jobs = db.jobs
  debts : ∃ ids, db'.debts = (db.closeRows ids .discharged now).debts ∧ ∀ i ∈ ids,
    ∃ r ∈ db.openDebts d, r.id = i ∧ ok r.family ∧ isOwnDebt r.family jobId token r = true
  leases : db'.leases = db.leases ∨ (db'.openDebts d = [] ∧ ∃ l, db.activeLease d = some l ∧
    isDebtLease (some l) = true ∧ db'.leases = db.leases.save (l.release now))

/-- Nothing is written. -/
theorem LateWrites.refl (d jobId : ℕ) (token : String) (ok : String → Prop) (now : Time)
    (db : Db) : LateWrites d jobId token ok now db db := by
  refine ⟨.refl d db, rfl, ⟨[], ?_, fun i hi => absurd hi List.not_mem_nil⟩, .inl rfl⟩
  rw [closeRows_nil]

/-- A late confirmation on its way, with a reason for each family it touched. -/
structure LateTally.Has (ok : String → Prop) (db : Db) (jobId : ℕ) (token : String)
    (device : Device) (t : LateTally) : Prop where
  traced : Traced (lateReasons ok) device db t.device db
  rows : ∀ i ∈ t.closedRows, ∃ r ∈ db.openDebts device.id, r.id = i ∧ ok r.family ∧
    isOwnDebt r.family jobId token r = true
  idle : t.closed = 0 → t.closedRows = []

/-- One family that has a reason. -/
theorem lateFamilySync_has {ok : String → Prop} {jobId : ℕ} {token : String} {t : LateTally}
    {family : String} (h : t.Has ok db jobId token device) (hok : ok family) :
    (lateFamilySync db device.id jobId token now t family).Has ok db jobId token device := by
  have hrows : ∀ r ∈ (db.openDebts device.id).filter (isOwnDebt family jobId token),
      r ∈ db.openDebts device.id ∧ r.family = family ∧ isOwnDebt family jobId token r = true := by
    intro r hr
    obtain ⟨hopen, hown⟩ := List.mem_filter.mp hr
    have hown' := hown
    simp only [isOwnDebt, Bool.and_eq_true, beq_iff_eq] at hown'
    exact ⟨hopen, hown'.1.1.1, hown⟩
  rw [lateFamilySync]
  generalize (db.openDebts device.id).filter (isOwnDebt family jobId token) = rows at hrows
  refine ⟨?_, fun i hi => ?_, fun hidle => ?_⟩
  · have hnew : Justified (ok family) (fun _ => False) [] (PyDict.update
        [("state", .str (lateState family).value), ("source", .str ReturnSource.job.value),
          ("updated_at", .str (isoformat now))]
        [("job_id", .int jobId), ("late_confirmed", .bool true)]) := by
      refine ⟨fun _ => .inr hok, fun r _ hresult => ?_⟩
      cases hresult
    have hset : ∀ touched : Bool, Traced (lateReasons ok) device db
        (if touched then setFamilyReturnState t.device family (lateState family) .job now
          [("job_id", .int jobId), ("late_confirmed", .bool true)] else t.device) db := by
      intro touched
      cases touched with
      | true => exact h.traced.setFamily hnew (.of_debts rfl)
      | false => exact h.traced
    exact hset _
  · rcases List.mem_append.mp hi with hi | hi
    · exact h.rows i hi
    · obtain ⟨r, hr, rfl⟩ := List.mem_map.mp hi
      obtain ⟨hopen, rfl, hown⟩ := hrows r hr
      exact ⟨r, hopen, rfl, hok, hown⟩
  · dsimp only at hidle ⊢
    obtain ⟨hold, hlength⟩ := Nat.add_eq_zero_iff.mp hidle
    rw [h.idle hold, List.eq_nil_of_length_eq_zero hlength]
    rfl

/-- **A late confirmation** of families that have a reason. -/
theorem applyLateConfirmedSync_writes {ok : String → Prop} {d jobId : ℕ} {token : String}
    {families : List String} (hok : ∀ f ∈ families, ok f) :
    LateWrites d jobId token ok now db
      (applyLateConfirmedSync db now d jobId token families).2 := by
  rw [applyLateConfirmedSync]
  cases hget : db.devices.get? d with
  | none => exact .refl ..
  | some device =>
      obtain rfl : device.id = d := Table.id_of_get? hget
      have hfold : ∀ (fs : List String) (t : LateTally), (∀ f ∈ fs, ok f) →
          t.Has ok db jobId token device →
          (fs.foldl (lateFamilySync db device.id jobId token now) t).Has ok db jobId token
            device := by
        intro fs
        induction fs with
        | nil => exact fun t _ ht => ht
        | cons family rest ih =>
            intro t hfs ht
            rw [List.forall_mem_cons] at hfs
            exact ih _ hfs.2 (lateFamilySync_has ht hfs.1)
      have hlast := hfold families ⟨device, [], 0, []⟩ hok
        ⟨.refl device db, fun i hi => absurd hi List.not_mem_nil, fun _ => rfl⟩
      dsimp only
      generalize families.foldl (lateFamilySync db device.id jobId token now)
        ⟨device, [], 0, []⟩ = t at hlast
      have hmid : (if t.closed ≠ 0 then db.closeRows t.closedRows .discharged now else db) =
          db.closeRows t.closedRows .discharged now := by
        split
        · rfl
        · rename_i hidle
          rw [hlast.idle (not_not.mp hidle), closeRows_nil]
      rw [hmid]
      obtain ⟨rs, hrs⟩ := hlast.traced.row
      have hid : t.device.id = device.id := by rw [hrs]
      have htraced : Traced (lateReasons ok) device db t.device
          (db.closeRows t.closedRows .discharged now) := by
        refine ⟨hlast.traced.row, hlast.traced.entries, closedFor_closeRows _ _ fun i hi => ?_,
          causedFor_closeRows _ _ _⟩
        obtain ⟨r, hr, hrid, hrok, -⟩ := hlast.rows i hi
        exact ⟨r, hr, hrid, hrok⟩
      obtain ⟨leases, hleases⟩ := maybeReleaseDebtLeaseSync_eq
        (db.closeRows t.closedRows .discharged now) t.device now
      refine ⟨htraced.settle hget (by rw [hleases]; rfl) (by rw [hleases]) _ now, ?_,
        ⟨t.closedRows, ?_, hlast.rows⟩, ?_⟩
      · rw [hleases]
        rfl
      · rw [hleases]
        rfl
      · rw [maybeReleaseDebtLeaseSync, hid]
        split
        · exact .inl rfl
        · rename_i hempty
          rw [Bool.not_eq_true', Bool.not_eq_false, List.isEmpty_iff] at hempty
          split
          · exact .inl rfl
          · rename_i lease hlease
            split
            · rename_i hdebt
              exact .inr ⟨hempty, lease, hlease, hdebt, rfl⟩
            · exact .inl rfl

/-- The families a late confirmation keeps are confirmed on evidence. -/
theorem verifyLateFamily_verified {job : JobInstance} {confirmed verified : List String}
    (h : confirmed.foldlM (verifyLateFamily manifestPackageSha device job results) [] =
      .ok verified) (hconfirmed : ∀ f ∈ confirmed, (results.get? f).isSome = true) :
    ∀ f ∈ verified, ∃ entry, results.get? f = some entry ∧
      EntryVerified manifestPackageSha device f entry (some job) := by
  refine foldlM_invariant_of_mem (I := fun verified : List String => ∀ f ∈ verified,
    ∃ entry, results.get? f = some entry ∧
      EntryVerified manifestPackageSha device f entry (some job)) ?_ (by simp) h
  intro verified family verified' hmem hI hstep
  rw [verifyLateFamily] at hstep
  obtain ⟨policy, hpolicy, hstep⟩ := Except.bind_eq_ok_iff.mp hstep
  dsimp only at hstep
  split at hstep
  · rename_i hkeep
    cases hstep
    intro f hf
    rcases List.mem_append.mp hf with hf | hf
    · exact hI f hf
    · obtain rfl := List.mem_singleton.mp hf
      obtain ⟨entry, hentry⟩ := Option.isSome_iff_exists.mp (hconfirmed f hmem)
      rw [hentry] at hpolicy
      exact ⟨entry, hentry, verified_of_evaluate hpolicy hkeep.2.1 hkeep.2.2⟩
  · cases hstep
    exact hI

/-- The families a report confirms have entries. -/
theorem isSome_of_confirmedFamiliesOf {family : String}
    (h : family ∈ confirmedFamiliesOf results) : (results.get? family).isSome = true := by
  obtain ⟨item, hitem, rfl⟩ := List.mem_map.mp h
  rw [Dict.get?_eq_some_iff.mpr (List.mem_filter.mp hitem).1]
  rfl

/-- The families a job may confirm late, on evidence. -/
def LateVerified (manifestPackageSha : String → String → Option String) (db : Db) (d jobId : ℕ)
    (disarmResults : PyVal) (family : String) : Prop :=
  ∃ job, db.jobs.get? jobId = some job ∧ VerifiedIn manifestPackageSha db d (some job)
    (normalizeDisarmResults disarmResults) family

/-- **The late confirmation of a completion** closes debts on evidence. -/
theorem tryApplyLateConfirmed_writes {db' : Db} {d jobId : ℕ} {token : String}
    {disarmResults : PyVal} {reply : Option (Reply LateOutcome)}
    (h : tryApplyLateConfirmed manifestPackageSha db now d jobId token disarmResults =
      .ok (reply, db')) :
    LateWrites d jobId token (LateVerified manifestPackageSha db d jobId disarmResults) now
      db db' := by
  rw [tryApplyLateConfirmed] at h
  dsimp only at h
  split at h
  · cases h
    exact .refl ..
  · split at h
    · cases h
      exact .refl ..
    · split at h
      · rename_i device job hdevice hjob
        obtain ⟨verified, hfold, h⟩ := Except.bind_eq_ok_iff.mp h
        split at h
        · cases h
          exact .refl ..
        · rw [applyLateConfirmed_eq_sync] at h
          cases h
          refine applyLateConfirmedSync_writes fun f hf => ?_
          obtain ⟨entry, hentry, hverified⟩ := verifyLateFamily_verified hfold
            (fun _ => isSome_of_confirmedFamiliesOf) f hf
          exact ⟨job, hjob, device, entry, hdevice, hentry, hverified⟩
      · cases h
        exact .refl ..

/-! ### The init of a device -/

/-- **An init** returns nothing, closes nothing, and quotes history. -/
theorem initDeviceReturnSync_traced {db' : Db} {d : ℕ} {dryRun : Bool} {summary : InitSummary}
    (h : initDeviceReturnSync db now d dryRun = .ok (summary, db'))
    (hcommitted : summary.status ≠ .leaseConflictRetry) :
    ReportTraced d (historyReasons db d) db db' := by
  rcases initDeviceReturnSync_cases h with ⟨rfl, -⟩ |
    ⟨device, device₁, db₁, -, hget, -, hinit, hend⟩
  · exact .refl _ _
  · obtain rfl : device.id = d := Table.id_of_get? hget
    have hid : device₁.id = device.id := Table.id_of_get? hinit.applied.saved
    have hfirst : ReportTraced device.id (historyReasons db device.id) db db₁ := by
      refine ⟨fun device' hdevice' => ⟨device, hget, ?_⟩, hinit.applied.frame.devices,
        hinit.traced.debts⟩
      rw [hinit.applied.saved] at hdevice'
      cases hdevice'
      exact hinit.traced.entries
    generalize summary.status = status at hend hcommitted
    cases hend with
    | quiet paid clear => exact hfirst
    | conflict free => exact absurd rfl hcommitted
    | held held committed => exact hfirst
    | taken free needed acquired =>
        have htaken := debtLeaseTaken_of_acquire (hid ▸ hinit.applied.saved) acquired
        refine ⟨fun device' hdevice' => ⟨device, hget, fun f => ?_⟩, fun i hi => ?_,
          hfirst.debts.trans (.of_debts htaken.debts)⟩
        · have hsaved := htaken.saved
          rw [hid, hdevice'] at hsaved
          cases hsaved
          rcases htaken.row with rfl | rfl
          · exact hinit.traced.entries f
          · exact hinit.traced.entries f
        · rw [htaken.frame.devices i (hid ▸ hi)]
          exact hfirst.others i hi

end Paths

/-! ### The four paths -/

/-- **Trust in probes.** Whatever is reported: a discharge, an init check and a late
confirmation return a family, record it as confirmed, or close one of its debts, only when the
report holds an entry of that family whose evidence satisfies the policy; and they record no
failed readback. The init of a device returns no family and closes no debt; the results and causes
it writes are those its history says. -/
theorem probe_trust (manifestPackageSha : String → String → Option String) (db : Db)
    (now : Time) :
    (∀ d token results reply db', (∀ item ∈ results.items, NumericResult item.2) →
      applyDischargeSync manifestPackageSha db now d token results = .ok (reply, db') →
      ReportTraced d (evidenceReasons manifestPackageSha db d results fun _ _ => False) db db') ∧
    (∀ jobId token results reply db', (∀ item ∈ results.items, NumericResult item.2) →
      applyInitCheckSync manifestPackageSha db now jobId token results = .ok (reply, db') →
      db' = db ∨ ∃ job, db.jobs.get? jobId = some job ∧ ReportTraced job.deviceId
        (evidenceReasons manifestPackageSha db job.deviceId results checkCauses) db db') ∧
    (∀ d jobId token disarmResults reply db',
      tryApplyLateConfirmed manifestPackageSha db now d jobId token disarmResults =
        .ok (reply, db') →
      ReportTraced d (lateReasons (LateVerified manifestPackageSha db d jobId disarmResults))
        db db') ∧
    ∀ d dryRun summary db', initDeviceReturnSync db now d dryRun = .ok (summary, db') →
      summary.status ≠ .leaseConflictRetry → ReportTraced d (historyReasons db d) db db' := by
  refine ⟨fun d token results reply db' hnum h => applyDischargeSync_traced hnum h,
    fun jobId token results reply db' hnum h => ?_,
    fun d jobId token disarmResults reply db' h => (tryApplyLateConfirmed_writes h).traced,
    fun d dryRun summary db' h => initDeviceReturnSync_traced h⟩
  cases hjob : db.jobs.get? jobId with
  | none =>
      left
      rw [applyInitCheckSync, hjob] at h
      cases h
      rfl
  | some job => exact .inr ⟨job, rfl, applyInitCheckSync_traced hjob hnum h⟩

namespace ProbeExample

/-- A device of a registered model. -/
def device (id : ℕ) : Device :=
  { plainDevice none id with platform := some "MTK", model := some "MLD_LX2" }

/-- Its running job, which will leave the gpu family undone. -/
def start : Db :=
  { plainDb (.dict [("gpu", .str "not_executed")]) with
    devices := Table.empty.insert device fun _ => rfl }

/-- The registered package of the script. -/
def package : String := "c464779d695402473bf5afb173bc743d68eac307a680c46bfec2ebbf4299ead7"

/-- The manifest. -/
def packages : String → String → Option String := fun scriptName scriptVersion =>
  if scriptName = "gpu_disarm" ∧ scriptVersion = "1.0.0" then some package else none

/-- A report of the gpu family with its evidence. -/
def report : Dict PyDict := Dict.empty.set "gpu"
  [("result", .str DisarmResult.confirmed.value), ("evidence", .dict
    [("permission_model", .str "root"), ("script_name", .str "gpu_disarm"),
      ("script_version", .str "1.0.0"), ("package_sha256", .str package),
      ("apk_sha256", .str "47a059398943e8dc0943269c99a30264f70c7175ae943a69c48ec733ea84e8c5"),
      ("boot_completed", .str "1"), ("mode", .str "probe"), ("readback", .str "clear"),
      ("kind", .str "ok")])]

/-- The job leaves a debt. -/
def ops : List ReturnOp :=
  [.acquireJobLease 0 1 "h1" "a1" 1 none none 600, .releaseSync 10 11 1 1 none]

/-- The theorem at work: the discharge returns the family, on this evidence. -/
theorem probe_trust_discharge : ∃ db reply db', ops.foldlM (commit packages) start = some db ∧
    applyDischargeSync packages db 20 1 "1:2" report = .ok (reply, db') ∧
    (db'.devices.get? 1).any (fun device => (device.stateOf "gpu").isOneOf
      [FamilyReturn.returned.value]) = true ∧
    ReportTraced 1 (evidenceReasons packages db 1 report fun _ _ => False) db db' := by
  obtain ⟨db, hdb⟩ : ∃ db, ops.foldlM (commit packages) start = some db :=
    Option.isSome_iff_exists.mp (by decide)
  have hrun : ((ops.foldlM (commit packages) start).bind fun db =>
      (applyDischargeSync packages db 20 1 "1:2" report).toOption.map fun p =>
        (p.2.devices.get? 1).any fun device => (device.stateOf "gpu").isOneOf
          [FamilyReturn.returned.value]) = some true := by decide
  rw [hdb] at hrun
  obtain ⟨⟨reply, db'⟩, hreply, hreturned⟩ := Option.map_eq_some_iff.mp hrun
  replace hreply := Except.toOption_eq_some_iff.mp hreply
  refine ⟨db, reply, db', hdb, hreply, hreturned,
    (probe_trust packages db 20).1 1 "1:2" report reply db' ?_ hreply⟩
  rintro item hitem q text htext
  obtain rfl := List.mem_singleton.mp hitem
  cases htext

end ProbeExample

/-! ### History is quoted -/

namespace QuotedHistory

/-- The entry of a past job that reported a confirmed disarm, without any evidence. -/
def entry : PyDict := [("result", .str DisarmResult.confirmed.value)]

/-- A job that ended, with this entry. -/
def job (id : ℕ) : JobInstance :=
  { plainJob 1 (.dict [("power-cycle", .dict entry)]) id with
    status := .completed, endedAt := some 50 }

/-- Its device has no return state yet. -/
def db : Db := { plainDb .null with jobs := Table.empty.insert job fun _ => rfl }

/-- **An unverified result is quoted**: the init writes that the family was confirmed, on an
entry whose evidence satisfies the policy for no script, whatever packages are registered. -/
theorem unverified_quoted :
    (∃ summary db' device, initDeviceReturnSync db 60 1 false = .ok (summary, db') ∧
      db'.devices.get? 1 = some device ∧ PyDict.get (device.entryOf "power-cycle") "disarm_result" =
        .str DisarmResult.confirmed.value) ∧
    ∀ packages job, ¬ EntryVerified packages (plainDevice none 1) "power-cycle" entry job := by
  constructor
  · have hinit : ((initDeviceReturnSync db 60 1 false).toOption.bind fun p =>
        (p.2.devices.get? 1).map fun device =>
          (PyDict.get (device.entryOf "power-cycle") "disarm_result").isOneOf
            [DisarmResult.confirmed.value]) = some true := by decide
    obtain ⟨⟨summary, db'⟩, hok, hdevice⟩ := Option.bind_eq_some_iff.mp hinit
    obtain ⟨device, hget, hresult⟩ := Option.map_eq_some_iff.mp hdevice
    exact ⟨summary, db', device, Except.toOption_eq_some_iff.mp hok, hget,
      isOneOf_singleton.mp hresult⟩
  · rintro packages job ⟨scriptName, scriptVersion, -, hverified⟩
    exact absurd hverified.booted (by decide)

end QuotedHistory

end StabilityPlatform
