import StabilityPlatform.DeviceReturn.Effects

/-!
# What justifies a return

A family is returned, its disarm is recorded as confirmed, or its debt is closed only for a
reason. The reason is left open here: the writes to return states and debts are followed with
whatever justifies them.

## Main results

* `Justified`: the new entry of a family claims no more than the old one, or with a reason.
* `Traced`: the same for a device and its database on their way through a report.
* `Traced.settle`: the end of a report.
-/

namespace StabilityPlatform

open Lib

/-! ### Entries -/

/-- The entry of a family in a return state. -/
def entryIn (current : Dict PyDict) (family : String) : PyDict := (current.get? family).getD []

/-- The entry of a family in the return state of a device. -/
def Device.entryOf (device : Device) (family : String) : PyDict :=
  entryIn device.currentReturnState family

/-- The results that need a trusted probe behind them. -/
def privilegedResults : List String :=
  [DisarmResult.confirmed.value, DisarmResult.readbackFailed.value]

/-- What the new entry of a family claims: returned with a reason `ok`, a privileged result
with a reason to say so, unless the old entry claimed it. -/
structure Justified (ok : Prop) (reports : String → Prop) (old new : PyDict) : Prop where
  returned : PyDict.get new "state" = .str FamilyReturn.returned.value →
    PyDict.get old "state" = .str FamilyReturn.returned.value ∨ ok
  result : ∀ r ∈ privilegedResults, PyDict.get new "disarm_result" = .str r →
    PyDict.get old "disarm_result" = .str r ∨ reports r

section Entries

variable {ok : Prop} {reports : String → Prop}

/-- The same entry. -/
theorem Justified.refl (entry : PyDict) : Justified ok reports entry entry := ⟨.inl, fun _ _ => .inl⟩

/-- One entry after another. -/
theorem Justified.trans {a b c : PyDict} (h : Justified ok reports a b) (h' : Justified ok reports b c) :
    Justified ok reports a c := by
  constructor
  · intro hc
    rcases h'.returned hc with hb | hok
    · exact h.returned hb
    · exact .inr hok
  · intro r hr hc
    rcases h'.result r hr hc with hb | hok
    · exact h.result r hr hb
    · exact .inr hok

/-- An entry in debt claims no more than the entry it replaces. -/
theorem justified_debtEntry (openRows : List DeviceReturnDebt) (now : Time) (family : String)
    (entry : PyDict) : Justified ok reports entry (debtEntry openRows now family entry) := by
  constructor
  · intro h
    rw [get_state_debtEntry] at h
    exact absurd (PyVal.str.inj h) (by decide)
  · intro r _ h
    refine .inl (h ▸ ?_)
    rw [debtEntry]
    dsimp only
    split
    · rw [PyDict.get_set_of_ne _ _ (by decide), PyDict.get_set_of_ne _ _ (by decide)]
    · rw [PyDict.get_set_of_ne _ _ (by decide), PyDict.get_set_of_ne _ _ (by decide),
        PyDict.get_set_of_ne _ _ (by decide)]

end Entries

/-- The entry of a family after one was written. -/
theorem entryIn_set (current : Dict PyDict) (family f : String) (entry : PyDict) :
    entryIn (current.set family entry) f = if f = family then entry else entryIn current f := by
  rw [entryIn, Dict.get?_set]
  split
  · rfl
  · rfl

/-- The entry of a family after its state was written. -/
theorem entryOf_setFamilyReturnState (device : Device) (family f : String)
    (state : FamilyReturn) (source : ReturnSource) (now : Time) (extra : PyDict) :
    (setFamilyReturnState device family state source now extra).entryOf f =
      if f = family then
        PyDict.update [("state", .str state.value), ("source", .str source.value),
          ("updated_at", .str (isoformat now))] extra
      else device.entryOf f :=
  entryIn_set _ family f _

/-- A recomputation claims no more. -/
theorem justified_recomputeReturnState {ok : Prop} {reports : String → Prop} (device : Device)
    (openRows : List DeviceReturnDebt) (now : Time) (f : String) :
    Justified ok reports (device.entryOf f)
      ((recomputeReturnState device openRows now).entryOf f) := by
  have hfold : ∀ (families : List String) (current : Dict PyDict),
      Justified ok reports (entryIn current f) (entryIn (families.foldl (fun current family =>
        current.set family (debtEntry openRows now family ((current.get? family).getD [])))
        current) f) := by
    intro families
    induction families with
    | nil => exact fun current => .refl _
    | cons family rest ih =>
        intro current
        rw [List.foldl_cons]
        refine Justified.trans ?_ (ih _)
        rw [entryIn_set]
        split
        · rename_i heq
          subst heq
          exact justified_debtEntry openRows now f _
        · exact .refl _
  rw [recomputeReturnState]
  split
  · exact .refl _
  · exact hfold _ _

/-! ### Closed debts -/

/-- A debt as it was before, closed already. -/
structure WasClosed (old r : DeviceReturnDebt) : Prop where
  key : old.id = r.id
  device : old.deviceId = r.deviceId
  family : old.family = r.family
  closed : old.state = .closed

/-- A debt that is closed was closed before, or is one of the device for which there is a
reason. -/
def ClosedFor (d : ℕ) (ok : String → Prop) (db db' : Db) : Prop :=
  ∀ r ∈ db'.debts.rows, r.state = .closed →
    (∃ old ∈ db.debts.rows, WasClosed old r) ∨ (r.deviceId = d ∧ ok r.family)

section Closed

variable {d : ℕ} {ok : String → Prop} {db db' db'' : Db}

/-- The debts are as they were. -/
theorem ClosedFor.of_debts (h : db'.debts = db.debts) : ClosedFor d ok db db' :=
  fun r hr hclosed => .inl ⟨r, h ▸ hr, rfl, rfl, rfl, hclosed⟩

/-- One write after another. -/
theorem ClosedFor.trans (h : ClosedFor d ok db db') (h' : ClosedFor d ok db' db'') :
    ClosedFor d ok db db'' := by
  intro r hr hclosed
  rcases h' r hr hclosed with ⟨mid, hmid, hwas⟩ | hok
  · rcases h mid hmid hwas.closed with ⟨old, hold, hwas'⟩ | ⟨hdev, hok⟩
    · exact .inl ⟨old, hold, hwas'.key.trans hwas.key, hwas'.device.trans hwas.device,
        hwas'.family.trans hwas.family, hwas'.closed⟩
    · exact .inr ⟨hwas.device ▸ hdev, hwas.family ▸ hok⟩
  · exact .inr hok

/-- Rows are closed by their keys, each with a reason. -/
theorem closedFor_closeRows {ids : List ℕ} (closedReason : CloseReason) (now : Time)
    (hids : ∀ i ∈ ids, ∃ r ∈ db.openDebts d, r.id = i ∧ ok r.family) :
    ClosedFor d ok db (db.closeRows ids closedReason now) := by
  intro r hr hclosed
  have hr' : r ∈ db.debts.rows.map fun r => if ids.contains r.id then r.close closedReason now
    else r := hr
  obtain ⟨old, hold, heq⟩ := List.mem_map.mp hr'
  by_cases hmem : ids.contains old.id = true
  · rw [if_pos hmem] at heq
    obtain ⟨s, hs, hid, hok⟩ := hids old.id (by simpa using hmem)
    obtain ⟨hsmem, hsdev, -⟩ := mem_openDebts.mp hs
    have hsame : s = old := Table.eq_of_id_eq hsmem hold hid
    subst hsame heq
    exact .inr ⟨hsdev, hok⟩
  · rw [if_neg hmem] at heq
    subst heq
    exact .inl ⟨_, hold, rfl, rfl, rfl, hclosed⟩

/-- The debts of families are closed, each with a reason. -/
theorem closedFor_closeFamilyDebtsSync (families : List String) (closedReason : CloseReason)
    (now : Time) (hok : ∀ f ∈ families, ok f) :
    ClosedFor d ok db (closeFamilyDebtsSync db d families closedReason now).2 := by
  refine closedFor_closeRows closedReason now fun i hi => ?_
  obtain ⟨r, hr, rfl⟩ := List.mem_map.mp hi
  obtain ⟨hopen, hfamily⟩ := List.mem_filter.mp hr
  exact ⟨r, hopen, rfl, hok r.family (by simpa using hfamily)⟩

/-- Writing a debt closes none. -/
theorem closedFor_upsertOpenDebtSync {deviceId : ℕ} {family : String} {sourceKind : SourceKind}
    {sourceJobId : Option ℕ} {token : Option String} {cause : String} {evidence : PyDict}
    {now : Time} (h : upsertOpenDebtSync db deviceId family sourceKind sourceJobId token cause
      evidence now = .ok db') : ClosedFor d ok db db' := by
  rw [upsertOpenDebtSync] at h
  split at h
  · rename_i existing hfirst
    split at h
    · cases h
      obtain ⟨hmem, hsrc⟩ := Table.mem_of_first hfirst
      intro r hr hclosed
      rcases Table.mem_save.mp hr with ⟨hr, -⟩ | ⟨rfl, -⟩
      · exact .inl ⟨r, hr, rfl, rfl, rfl, hclosed⟩
      · exact .inl ⟨existing, hmem, rfl, rfl, rfl, hclosed⟩
    · cases h
      exact .of_debts rfl
  · obtain rfl := insertDebt_eq h
    intro r hr hclosed
    rcases Table.mem_insert.mp hr with hr | rfl
    · exact .inl ⟨r, hr, rfl, rfl, rfl, hclosed⟩
    · cases hclosed

end Closed

/-! ### Causes of debts -/

/-- The cause of a debt was there before, or there is a reason to write it. -/
def CausedFor (causes : String → String → Prop) (db db' : Db) : Prop :=
  ∀ r ∈ db'.debts.rows,
    (∃ old ∈ db.debts.rows, old.id = r.id ∧ old.family = r.family ∧ old.cause = r.cause) ∨
      causes r.family r.cause

section Caused

variable {causes : String → String → Prop} {db db' db'' : Db}

/-- The debts are as they were. -/
theorem CausedFor.of_debts (h : db'.debts = db.debts) : CausedFor causes db db' :=
  fun r hr => .inl ⟨r, h ▸ hr, rfl, rfl, rfl⟩

/-- One write after another. -/
theorem CausedFor.trans (h : CausedFor causes db db') (h' : CausedFor causes db' db'') :
    CausedFor causes db db'' := by
  intro r hr
  rcases h' r hr with ⟨mid, hmid, hid, hfamily, hcause⟩ | hnew
  · rcases h mid hmid with ⟨old, hold, hid', hfamily', hcause'⟩ | hnew
    · exact .inl ⟨old, hold, hid'.trans hid, hfamily'.trans hfamily, hcause'.trans hcause⟩
    · exact .inr (hfamily ▸ hcause ▸ hnew)
  · exact .inr hnew

/-- Closing rows keeps their causes. -/
theorem causedFor_closeRows (ids : List ℕ) (closedReason : CloseReason) (now : Time) :
    CausedFor causes db (db.closeRows ids closedReason now) := by
  intro r hr
  have hr' : r ∈ db.debts.rows.map fun r => if ids.contains r.id then r.close closedReason now
    else r := hr
  obtain ⟨old, hold, rfl⟩ := List.mem_map.mp hr'
  refine .inl ⟨old, hold, ?_⟩
  split
  · exact ⟨rfl, rfl, rfl⟩
  · exact ⟨rfl, rfl, rfl⟩

/-- Writing a debt writes its cause, if there is no open row yet. -/
theorem causedFor_upsertOpenDebtSync {deviceId : ℕ} {family : String} {sourceKind : SourceKind}
    {sourceJobId : Option ℕ} {token : Option String} {cause : String} {evidence : PyDict}
    {now : Time} (h : upsertOpenDebtSync db deviceId family sourceKind sourceJobId token cause
      evidence now = .ok db') (hcause : causes family cause) : CausedFor causes db db' := by
  rw [upsertOpenDebtSync] at h
  split at h
  · rename_i existing hfirst
    split at h
    · cases h
      obtain ⟨hmem, -⟩ := Table.mem_of_first hfirst
      intro r hr
      rcases Table.mem_save.mp hr with ⟨hr, -⟩ | ⟨rfl, -⟩
      · exact .inl ⟨r, hr, rfl, rfl, rfl⟩
      · exact .inl ⟨existing, hmem, rfl, rfl, rfl⟩
    · cases h
      exact .of_debts rfl
  · obtain rfl := insertDebt_eq h
    intro r hr
    rcases Table.mem_insert.mp hr with hr | rfl
    · exact .inl ⟨r, hr, rfl, rfl, rfl⟩
    · exact .inr hcause

end Caused

/-! ### A report -/

/-- The reasons a report may have. -/
structure Reasons where
  ok : String → Prop
  reports : String → String → Prop
  causes : String → String → Prop

/-- What a report does to debts has its reasons. -/
structure DebtsTraced (d : ℕ) (why : Reasons) (db db' : Db) : Prop where
  closed : ClosedFor d why.ok db db'
  caused : CausedFor why.causes db db'

/-- A device and its database on their way through a report: everything has its reasons. -/
structure Traced (why : Reasons) (device : Device) (db : Db) (device' : Device) (db' : Db) :
    Prop where
  row : ∃ rs, device' = { device with returnState := rs }
  entries : ∀ f, Justified (why.ok f) (why.reports f) (device.entryOf f) (device'.entryOf f)
  debts : DebtsTraced device.id why db db'

/-- A report did nothing that has no reason. -/
structure ReportTraced (d : ℕ) (why : Reasons) (db db' : Db) : Prop where
  entries : ∀ device', db'.devices.get? d = some device' →
    ∃ device, db.devices.get? d = some device ∧
      ∀ f, Justified (why.ok f) (why.reports f) (device.entryOf f) (device'.entryOf f)
  others : ∀ i, i ≠ d → db'.devices.get? i = db.devices.get? i
  debts : DebtsTraced d why db db'

section Report

variable {why : Reasons}

/-- The debts are as they were. -/
theorem DebtsTraced.of_debts {d : ℕ} {db db' : Db} (h : db'.debts = db.debts) :
    DebtsTraced d why db db' := ⟨.of_debts h, .of_debts h⟩

/-- One write after another. -/
theorem DebtsTraced.trans {d : ℕ} {db db' db'' : Db} (h : DebtsTraced d why db db')
    (h' : DebtsTraced d why db' db'') : DebtsTraced d why db db'' :=
  ⟨h.closed.trans h'.closed, h.caused.trans h'.caused⟩

/-- The debts of families are closed. -/
theorem debtsTraced_closeFamilyDebtsSync {d : ℕ} {db : Db} (families : List String)
    (closedReason : CloseReason) (now : Time) (hok : ∀ f ∈ families, why.ok f) :
    DebtsTraced d why db (closeFamilyDebtsSync db d families closedReason now).2 :=
  ⟨closedFor_closeFamilyDebtsSync families closedReason now hok, causedFor_closeRows _ _ _⟩

/-- A debt is written. -/
theorem debtsTraced_upsertOpenDebtSync {d deviceId : ℕ} {db db' : Db} {family : String}
    {sourceKind : SourceKind} {sourceJobId : Option ℕ} {token : Option String} {cause : String}
    {evidence : PyDict} {now : Time} (h : upsertOpenDebtSync db deviceId family sourceKind
      sourceJobId token cause evidence now = .ok db') (hcause : why.causes family cause) :
    DebtsTraced d why db db' :=
  ⟨closedFor_upsertOpenDebtSync h, causedFor_upsertOpenDebtSync h hcause⟩

/-- Nothing was reported yet. -/
theorem Traced.refl (device : Device) (db : Db) : Traced why device db device db :=
  ⟨⟨device.returnState, rfl⟩, fun _ => .refl _, .of_debts rfl⟩

/-- A report that changed nothing. -/
theorem ReportTraced.refl (d : ℕ) (db : Db) : ReportTraced d why db db :=
  ⟨fun device' h => ⟨device', h, fun _ => .refl _⟩, fun _ _ => rfl, .of_debts rfl⟩

/-- The family of an entry is written, with a reason. -/
theorem Traced.setFamily {device device' : Device} {db db' db'' : Db} {family : String}
    {state : FamilyReturn} {source : ReturnSource} {now : Time} {extra : PyDict}
    (h : Traced why device db device' db')
    (hnew : Justified (why.ok family) (why.reports family) []
      (PyDict.update [("state", .str state.value), ("source", .str source.value),
        ("updated_at", .str (isoformat now))] extra))
    (hdebts : DebtsTraced device.id why db' db'') :
    Traced why device db (setFamilyReturnState device' family state source now extra) db'' := by
  obtain ⟨rs, hrs⟩ := h.row
  refine ⟨⟨_, by rw [hrs]; rfl⟩, fun f => ?_, h.debts.trans hdebts⟩
  rw [entryOf_setFamilyReturnState]
  split
  · rename_i heq
    subst heq
    refine ⟨fun hreturned => ?_, fun r hr hresult => ?_⟩
    · refine .inr ((hnew.returned hreturned).resolve_left fun hnone => ?_)
      cases hnone
    · refine .inr ((hnew.result r hr hresult).resolve_left ?_)
      intro hnone
      cases hnone
  · exact h.entries f

/-- **The end of a report**: the return state is recomputed and written. -/
theorem Traced.settle {device device' : Device} {db db' db'' : Db}
    (h : Traced why device db device' db')
    (hget : db.devices.get? device.id = some device)
    (hdevices : db''.devices = db.devices) (hdebts : db''.debts = db'.debts)
    (openRows : List DeviceReturnDebt) (now : Time) :
    ReportTraced device.id why db
      (db''.saveDevice (recomputeReturnState device' openRows now)) := by
  obtain ⟨rs, hrs⟩ := h.row
  obtain ⟨rs', hrs'⟩ := recomputeReturnState_eq device' openRows now
  have hid : (recomputeReturnState device' openRows now).id = device.id := by rw [hrs', hrs]
  have hget' : db''.devices.get? device.id = some device := by rw [hdevices, hget]
  refine ⟨fun new hnew => ⟨device, hget, fun f => ?_⟩, fun i hi => ?_, ?_⟩
  · rw [get?_saveDevice hid hget'] at hnew
    cases hnew
    exact (h.entries f).trans (justified_recomputeReturnState device' openRows now f)
  · rw [← hdevices]
    exact (onlyDevice_saveDevice db'' (recomputeReturnState device' openRows now)).devices i
      (hid ▸ hi)
  · exact h.debts.trans (.of_debts hdebts)

end Report

end StabilityPlatform
