import StabilityPlatform.DeviceReturn.DisarmDerive

/-!
# Return states and debt causes

The pure part of the device-return service: reading disarm results, adding the families of
which only a footprint is known, and writing a device's return state, one family at a time
or from its open debts.

## Main results

* `stateOf_setFamilyReturnState`: writing one family.
* `stateOf_recomputeReturnState`: after a recomputation the families with open debts are in
  debt, and the others are as they were.
-/

namespace StabilityPlatform

open Lib

/-! ### Debt leases -/

/-- The reason of a debt lease. -/
def debtLeaseReason : String := "归还欠账"

/-- The holder of a debt lease. -/
def debtLeaseHolder : String := "platform"

/-- The agent instance of a debt lease. -/
def debtLeaseAgentInstanceId : String := "platform"

/-- The start of the year 9999: debt leases do not expire. -/
def debtLeaseExpiresAt : Time := 253370764800000000

/-- Whether a lease is the platform's return-debt carrier. -/
def isDebtLease (lease : Option DeviceLease) : Bool :=
  match lease with
  | none => false
  | some lease => lease.leaseType == .maintenance && lease.reason == some debtLeaseReason &&
      lease.holder == some debtLeaseHolder

/-- What handling the lease of a job at its end came to. -/
structure LeaseOutcome where
  released : Bool
  convertedToDebt : Bool
  openDebtCount : ℕ
  fencingToken : Option String
  deriving DecidableEq

/-! ### Disarm results -/

/-- Keep one entry of reported disarm results, if it is one. -/
def normalizeEntry (out : Dict PyDict) (item : String × PyVal) : Dict PyDict :=
  if !familyNames.contains item.1 then out
  else match item.2 with
    | .dict entry =>
      match PyDict.get entry "result" with
      | .str _ => out.set item.1 entry
      | _ => out
    | .str result => out.set item.1 [("result", .str result)]
    | _ => out

/-- The well-formed entries of reported disarm results. -/
def normalizeDisarmResults (raw : PyVal) : Dict PyDict :=
  match raw.asDict? with
  | none => Dict.empty
  | some items => items.foldl normalizeEntry Dict.empty

/-- The steps of a stage, in a pipeline with or without a lifecycle. -/
def returnStepsByStage (pipelineDef : PyVal) (stage : String) : List PyDict :=
  match pipelineDef.asDict? with
  | none => []
  | some pipeline =>
    let stages := ((PyDict.get pipeline "lifecycle").asDict?).getD pipeline
    let steps := match PyDict.get stages stage with
      | .dict d => (PyDict.get d "steps").orElse (.list [])
      | v => v
    (steps.asList?.getD []).filterMap PyVal.asDict?

/-- The script each step id of a job's pipeline runs. -/
def pipelineStepIdToScript (pipelineDef : PyVal) : Dict String :=
  (tracedStages.flatMap (returnStepsByStage pipelineDef)).foldl recordStep Dict.empty

/-- The families of which init traces show a footprint. -/
def footprintFamiliesFromTraces (pipelineDef : PyVal) (traces : List StepTrace) :
    List String :=
  (traces.filterMap fun tr =>
    if tr.stage = "init" then
      familyForFootprintScript (scriptOfTrace (pipelineStepIdToScript pipelineDef) tr)
    else none).dedup

/-- Families with a footprint and no report count as interrupted. -/
def supplementIncompleteForFootprints (results : Dict PyDict)
    (footprintFamilies : List String) : Dict PyDict :=
  footprintFamilies.foldl (fun out family =>
    if out.contains family then out
    else out.set family [("result", .str DisarmResult.incomplete.value),
      ("reason", .str "no_terminal_report_with_footprint")]) results

/-- The result an entry reports. -/
def resultOf (entry : PyDict) : String := (PyDict.get entry "result").strOrEmpty

/-! ### Return states -/

/-- The return state of a device, empty when it has none. -/
def Device.currentReturnState (device : Device) : Dict PyDict :=
  device.returnState.getD Dict.empty

/-- What a return state says of a family. -/
def stateIn (current : Dict PyDict) (family : String) : PyVal :=
  PyDict.get ((current.get? family).getD []) "state"

/-- What the return state of a device says of a family. -/
def Device.stateOf (device : Device) (family : String) : PyVal :=
  stateIn device.currentReturnState family

/-- Write the return state of a family. -/
def setFamilyReturnState (device : Device) (family : String) (state : FamilyReturn)
    (source : ReturnSource) (now : Time) (extra : PyDict) : Device :=
  let entry : PyDict := [("state", .str state.value), ("source", .str source.value),
    ("updated_at", .str (isoformat now))]
  { device with
    returnState := some (device.currentReturnState.set family (PyDict.update entry extra)) }

/-- The entry of a family with an open debt. -/
def debtEntry (openRows : List DeviceReturnDebt) (now : Time) (family : String)
    (entry : PyDict) : PyDict :=
  let entry := PyDict.set entry "state" (.str FamilyReturn.debt.value)
  let entry := PyDict.set entry "updated_at" (.str (isoformat now))
  if PyDict.contains entry "source" then entry
  else
    let fromStock := (openRows.find? fun r => r.family == family).any
      fun r => r.sourceKind == .stock
    PyDict.set entry "source"
      (.str (if fromStock then ReturnSource.stock.value else ReturnSource.job.value))

/-- A family is in debt when an open entry exists for it. -/
def recomputeReturnState (device : Device) (openRows : List DeviceReturnDebt) (now : Time) :
    Device :=
  let openFamilies := (openRows.map DeviceReturnDebt.family).dedup
  if openFamilies = [] ∧ device.currentReturnState.items = [] then device
  else
    { device with
      returnState := some (openFamilies.foldl (fun current family =>
        current.set family (debtEntry openRows now family ((current.get? family).getD [])))
        device.currentReturnState) }

/-! ### Reading a return state back -/

/-- The state in a family's entry after the family was written. -/
theorem stateIn_set (current : Dict PyDict) (family f : String) (entry : PyDict) :
    stateIn (current.set family entry) f =
      if f = family then PyDict.get entry "state" else stateIn current f := by
  unfold stateIn
  rw [Dict.get?_set]
  split <;> rfl

/-- Writing one family: it has the written state, the others are as they were. -/
theorem stateOf_setFamilyReturnState (device : Device) (family f : String)
    (state : FamilyReturn) (source : ReturnSource) (now : Time) {extra : PyDict}
    (hextra : ∀ p ∈ extra, p.1 ≠ "state") :
    (setFamilyReturnState device family state source now extra).stateOf f =
      if f = family then .str state.value else device.stateOf f := by
  unfold Device.stateOf setFamilyReturnState
  refine (stateIn_set _ family f _).trans ?_
  split
  · rw [PyDict.get_update_of_forall_ne hextra]
    rfl
  · rfl

/-- The entry of a family with an open debt says so. -/
theorem get_state_debtEntry (openRows : List DeviceReturnDebt) (now : Time)
    (family : String) (entry : PyDict) :
    PyDict.get (debtEntry openRows now family entry) "state" =
      .str FamilyReturn.debt.value := by
  unfold debtEntry
  dsimp only
  split
  · rw [PyDict.get_set_of_ne _ _ (by decide), PyDict.get_set_self]
  · rw [PyDict.get_set_of_ne _ _ (by decide), PyDict.get_set_of_ne _ _ (by decide),
      PyDict.get_set_self]

/-- Marking families as in debt, one after the other. -/
theorem stateIn_foldl_debtEntry (openRows : List DeviceReturnDebt) (now : Time)
    (families : List String) (current : Dict PyDict) (f : String) :
    stateIn (families.foldl (fun current family =>
        current.set family (debtEntry openRows now family ((current.get? family).getD [])))
        current) f =
      if f ∈ families then .str FamilyReturn.debt.value else stateIn current f := by
  induction families generalizing current with
  | nil => simp
  | cons family rest ih =>
      rw [List.foldl_cons, ih, stateIn_set, get_state_debtEntry]
      by_cases hrest : f ∈ rest
      · simp [hrest]
      · by_cases hf : f = family
        · simp [hf]
        · simp [hf, hrest]

/-- **Recomputing.** Families with an open debt are in debt, the others are as they
were. -/
theorem stateOf_recomputeReturnState (device : Device) (openRows : List DeviceReturnDebt)
    (now : Time) (f : String) :
    (recomputeReturnState device openRows now).stateOf f =
      if f ∈ openRows.map DeviceReturnDebt.family then .str FamilyReturn.debt.value
      else device.stateOf f := by
  unfold recomputeReturnState
  dsimp only
  split
  · rename_i h
    have hnil : openRows.map DeviceReturnDebt.family = [] := by
      refine List.eq_nil_iff_forall_not_mem.mpr fun g hg => ?_
      rw [← List.mem_dedup, h.1] at hg
      exact List.not_mem_nil hg
    rw [hnil, if_neg List.not_mem_nil]
  · unfold Device.stateOf
    refine (stateIn_foldl_debtEntry openRows now _ _ f).trans ?_
    simp only [List.mem_dedup]

/-! ### What a return-state write leaves alone -/

@[simp] theorem id_setFamilyReturnState (device : Device) (family : String)
    (state : FamilyReturn) (source : ReturnSource) (now : Time) (extra : PyDict) :
    (setFamilyReturnState device family state source now extra).id = device.id := rfl

/-- A recomputation changes nothing but the return state. -/
theorem recomputeReturnState_eq (device : Device) (openRows : List DeviceReturnDebt)
    (now : Time) :
    ∃ rs, recomputeReturnState device openRows now = { device with returnState := rs } := by
  unfold recomputeReturnState
  dsimp only
  split
  · exact ⟨_, rfl⟩
  · exact ⟨_, rfl⟩

end StabilityPlatform
