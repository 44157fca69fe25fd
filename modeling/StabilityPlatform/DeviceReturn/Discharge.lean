import StabilityPlatform.DeviceReturn.JobRelease

/-!
# Discharge, override and late confirmation

The ways a debt is closed. An agent that holds the debt lease reports what its disarm came
to; an administrator overrides families; a job that completes late confirms the debts that
were opened in its own name and token. Each of them updates the return states, gives the
debt lease back when nothing is owed any more, and recomputes the return states from what
is.

## Main results

* `evaluateProbeEntry`: the verdict on an entry, on the facts of the platform.
* `applyDischargeSync`, `applyOverrideSync`, `applyLateConfirmedSync`: the three ways.
-/

namespace StabilityPlatform

open Lib

/-- A reply of a return service: refused with a machine code, or what it did. -/
inductive Reply (α : Type) where
  | refused (code : String)
  | done (outcome : α)

/-! ### Judging an entry -/

/-- `getattr(v, "get")`: only mappings have it. -/
def PyVal.mapping (v : PyVal) : Except PyError PyDict :=
  match v with
  | .dict items => .ok items
  | _ => .error .attributeError

/-- The teardown steps of a pipeline, as its late judge reads them. -/
def teardownStepsOf (pipelineDef : PyVal) : Except PyError (List PyVal) := do
  let pipeline ← (pipelineDef.orElse (.dict [])).mapping
  let stages ← ((PyDict.get pipeline "lifecycle").orElse (.dict [])).mapping
  let steps := (PyDict.get stages "teardown").orElse (.list [])
  let steps := match steps with
    | .dict d => (PyDict.get d "steps").orElse (.list [])
    | v => v
  steps.pyIter

/-- The step of a pipeline an entry names; an empty one when there is none. -/
def stepNamed (steps : List PyVal) (stepId : PyVal) : PyDict :=
  ((steps.filterMap PyVal.asDict?).find? fun s =>
    PyVal.pyEq (.str ((PyDict.get s "step_id").orElse (.str (scriptNameFromStep s))).pyStr)
      stepId).getD []

section Probe

variable (manifestPackageSha : String → String → Option String)

/-- Judge an entry by the device's own class and the registered package of the script: the
one the evidence names, or the one in the pipeline of the job. -/
def evaluateProbeEntry (device : Device) (family : String) (entry : PyDict)
    (tokenValid : Bool) (job : Option JobInstance) : Except PyError ProbePolicy := do
  let evidence := mappingOrEmpty entry "evidence"
  let (script, version) ← match job with
    | none => pure ((PyDict.get evidence "script_name").strOrEmpty,
        (PyDict.get evidence "script_version").strOrEmpty)
    | some job => do
      let steps ← teardownStepsOf job.pipelineDef
      let step := stepNamed steps (PyDict.get entry "step_id")
      pure (scriptNameFromStep step, stepVersionOf step)
  probeResultPolicy onboarded family entry device.platform device.model script version
    (manifestPackageSha script version) tokenValid

end Probe

/-! ### Giving the debt lease back -/

/-- Release the debt lease of a device that owes nothing. -/
def maybeReleaseDebtLeaseSync (db : Db) (device : Device) (now : Time) : Bool × Db :=
  if !(db.openDebts device.id).isEmpty then (false, db)
  else match db.activeLease device.id with
    | none => (false, db)
    | some lease =>
      if isDebtLease (some lease) then (true, db.saveLease (lease.release now))
      else (false, db)

/-! ### Discharge -/

/-- What a discharge did. -/
structure DischargeOutcome where
  dischargedFamilies : List String
  debtLeaseReleased : Bool
  openDebtCount : ℕ
  fencingToken : Option String
  rejectedFamilies : List ProbeDecision

/-- A discharge on its way through the entries of a report. -/
structure DischargeTally where
  device : Device
  db : Db
  dischargedFamilies : List String
  rejectedFamilies : List ProbeDecision
  acceptedCount : ℕ

section Discharge

variable (manifestPackageSha : String → String → Option String)

/-- Take one entry of a discharge report. -/
def dischargeFamily (deviceId : ℕ) (now : Time) (t : DischargeTally)
    (item : String × PyDict) : Except PyError DischargeTally := do
  if !familyNames.contains item.1 then return t
  let policy ← evaluateProbeEntry manifestPackageSha t.device item.1 item.2 true none
  let decision := probeEntryResponse item.1 item.2 policy .discharge
  if decision.statusCode = 422 then
    return { t with rejectedFamilies := t.rejectedFamilies ++ [decision] }
  let result := if policy.trusted then policy.result.value else resultOf item.2
  let familyState := mapDisarmResultToFamilyState result (familyOnboarded item.1)
  let t := { t with
    acceptedCount := t.acceptedCount + 1
    device := setFamilyReturnState t.device item.1 familyState .discharge now
      [("disarm_result", .str result)] }
  if policy.trusted ∧ result = DisarmResult.confirmed.value then
    return { t with
      db := (closeFamilyDebtsSync t.db deviceId [item.1] .discharged now).2
      dischargedFamilies := t.dischargedFamilies ++ [item.1] }
  return t

/-- An agent's discharge report, under the token of the debt lease. -/
def applyDischargeSync (db : Db) (now : Time) (deviceId : ℕ) (fencingToken : String)
    (familyResults : Dict PyDict) : Except PyError (Reply DischargeOutcome × Db) := do
  match db.devices.get? deviceId with
  | none => return (.refused "DEVICE_NOT_FOUND", db)
  | some device =>
    match db.activeLease deviceId with
    | none => return (.refused "DEBT_TOKEN_INVALID", db)
    | some lease =>
      if !isDebtLease (some lease) || lease.fencingToken ≠ fencingToken then
        return (.refused "DEBT_TOKEN_INVALID", db)
      let t ← familyResults.items.foldlM (dischargeFamily manifestPackageSha deviceId now)
        ⟨device, db, [], [], 0⟩
      if t.rejectedFamilies ≠ [] ∧ t.acceptedCount = 0 then
        return (.done ⟨[], false, (t.db.openDebts deviceId).length, some lease.fencingToken,
          t.rejectedFamilies⟩, t.db)
      let (released, db) := maybeReleaseDebtLeaseSync t.db t.device now
      let openRows := db.openDebts deviceId
      let device := recomputeReturnState t.device openRows now
      return (.done ⟨t.dischargedFamilies, released, openRows.length,
        if released then none else some lease.fencingToken, t.rejectedFamilies⟩,
        db.saveDevice device)

end Discharge

/-! ### Override -/

/-- What an override did. -/
structure OverrideOutcome where
  families : List String
  closedCount : ℕ
  debtLeaseReleased : Bool
  openDebtCount : ℕ

/-- Mark one family of an override as unverified. -/
def overrideFamily (reasonCategory evidenceRef : String) (now : Time) (device : Device)
    (family : String) : Device :=
  if !familyNames.contains family then device
  else setFamilyReturnState device family .unverified .override now
    [("reason_category", .str reasonCategory), ("evidence_ref", .str evidenceRef)]

/-- The families an override is for: the given ones, or all. -/
def overrideTarget (families : Option (List String)) : List String :=
  match families with
  | none => familyNames
  | some [] => familyNames
  | some families => families

/-- An administrator closes the debts of some families, or of all. -/
def applyOverrideSync (db : Db) (now : Time) (deviceId : ℕ) (families : Option (List String))
    (reasonCategory evidenceRef : String) : Reply OverrideOutcome × Db :=
  match db.devices.get? deviceId with
  | none => (.refused "DEVICE_NOT_FOUND", db)
  | some device =>
    let target := overrideTarget families
    let device := target.foldl (overrideFamily reasonCategory evidenceRef now) device
    let (closed, db) := closeFamilyDebtsSync db deviceId target .overridden now
    let (released, db) := maybeReleaseDebtLeaseSync db device now
    let openRows := db.openDebts deviceId
    let device := recomputeReturnState device openRows now
    (.done ⟨target, closed, released, openRows.length⟩, db.saveDevice device)

/-! ### Late confirmation -/

/-- What a late confirmation did. -/
structure LateOutcome where
  closedCount : ℕ
  debtLeaseReleased : Bool
  openDebtCount : ℕ
  deriving DecidableEq

/-- A late confirmation on its way through the confirmed families. -/
structure LateTally where
  device : Device
  closedRows : List ℕ
  closed : ℕ
  touched : List String

/-- Whether an open row was written in the name of a job and its token. -/
def isOwnDebt (family : String) (jobId : ℕ) (fencingToken : String) (r : DeviceReturnDebt) :
    Bool :=
  r.family == family && r.sourceKind == .job && r.sourceJobId == some jobId &&
    r.sourceFencingToken == some fencingToken

/-- The return state of a family its job confirmed late. -/
def lateState (family : String) : FamilyReturn :=
  if familyOnboarded family then .returned else .unverified

/-- Close the job's own open debts of one confirmed family. -/
def lateFamilySync (db : Db) (deviceId jobId : ℕ) (fencingToken : String) (now : Time)
    (t : LateTally) (family : String) : LateTally :=
  let rows := (db.openDebts deviceId).filter (isOwnDebt family jobId fencingToken)
  let touched := if rows.isEmpty then t.touched else family :: t.touched
  { device :=
      if touched.contains family then
        setFamilyReturnState t.device family (lateState family) .job now
          [("job_id", .int jobId), ("late_confirmed", .bool true)]
      else t.device
    closedRows := t.closedRows ++ rows.map DeviceReturnDebt.id
    closed := t.closed + rows.length
    touched := touched }

/-- A job that completes late closes the debts opened in its own name and token. The rows
are written at the end: the queries in between see them open. -/
def applyLateConfirmedSync (db : Db) (now : Time) (deviceId jobId : ℕ)
    (fencingToken : String) (confirmedFamilies : List String) : Reply LateOutcome × Db :=
  match db.devices.get? deviceId with
  | none => (.refused "DEVICE_NOT_FOUND", db)
  | some device =>
    let t := confirmedFamilies.foldl (lateFamilySync db deviceId jobId fencingToken now)
      ⟨device, [], 0, []⟩
    let db := if t.closed ≠ 0 then db.closeRows t.closedRows .discharged now else db
    let (released, db) := maybeReleaseDebtLeaseSync db t.device now
    let openRows := db.openDebts deviceId
    let device := recomputeReturnState t.device openRows now
    (.done ⟨t.closed, released, openRows.length⟩, db.saveDevice device)

end StabilityPlatform
