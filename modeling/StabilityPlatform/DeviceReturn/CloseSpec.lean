import StabilityPlatform.DeviceReturn.ReleaseSpec

/-!
# Closing debts, specified

What discharge, override and late confirmation do to a device: which marks and debts they
leave, and what becomes of the debt lease when nothing is owed any more.

## Main results

* `settled_maybeRelease`: the common end of the three.
* `applyDischargeSync_cases`, `applyOverrideSync_cases`, `applyLateConfirmedSync_cases`: the
  effect of each.
-/

namespace StabilityPlatform

open Lib

/-! ### The common end -/

/-- Giving the debt lease back touches leases only. -/
theorem maybeReleaseDebtLeaseSync_eq (db : Db) (device : Device) (now : Time) :
    ∃ leases, (maybeReleaseDebtLeaseSync db device now).2 = { db with leases := leases } := by
  unfold maybeReleaseDebtLeaseSync
  split
  · exact ⟨_, rfl⟩
  · split
    · exact ⟨_, rfl⟩
    · split
      · exact ⟨_, rfl⟩
      · exact ⟨_, rfl⟩

/-- Giving the debt lease back touches its device only. -/
theorem onlyDevice_maybeReleaseDebtLeaseSync (db : Db) (device : Device) (now : Time) :
    OnlyDevice device.id db (maybeReleaseDebtLeaseSync db device now).2 := by
  unfold maybeReleaseDebtLeaseSync
  split
  · exact .refl _ _
  · split
    · exact .refl _ _
    · rename_i l hl
      split
      · exact onlyDevice_saveLease hl rfl rfl
      · exact .refl _ _

/-- The active lease after a device that owes nothing gave its debt lease back. -/
theorem activeLease_maybeReleaseDebtLeaseSync (db : Db) (hex : db.Exclusive) (device : Device)
    (now : Time) :
    (maybeReleaseDebtLeaseSync db device now).2.activeLease device.id =
      if db.openDebts device.id = [] ∧ isDebtLease (db.activeLease device.id) = true then none
      else db.activeLease device.id := by
  unfold maybeReleaseDebtLeaseSync
  cases hopen : db.openDebts device.id with
  | cons r rest => simp
  | nil =>
      cases hl : db.activeLease device.id with
      | none => simp [hl]
      | some l =>
          cases hdebt : isDebtLease (some l) with
          | false => simp [hdebt, hl]
          | true =>
              simp only [List.isEmpty_nil, Bool.not_true, Bool.false_eq_true, if_false, hdebt,
                if_true, and_self]
              exact activeLease_saveLease hex hl (show (l.release now).id = l.id from rfl) rfl

/-- A database after a device gave its debt lease back if it owes nothing, and its marks
were recomputed. -/
structure Settled (device : Device) (db db' : Db) : Prop where
  saved : ∃ rs, db'.devices.get? device.id = some { device with returnState := rs } ∧
    (Agrees { device with returnState := rs } db' ↔ Covered device db)
  frame : OnlyDevice device.id db db'
  owes : ∀ f, db'.owes device.id f ↔ db.owes device.id f
  lease : db.Exclusive → db'.activeLease device.id =
    if db.openDebts device.id = [] ∧ isDebtLease (db.activeLease device.id) = true then none
    else db.activeLease device.id

/-- **The common end** of discharge, override and late confirmation. -/
theorem settled_maybeRelease (db : Db) (device : Device) {old : Device} {d : ℕ}
    (hid : device.id = d) (hget : db.devices.get? d = some old) (now : Time) :
    Settled device db ((maybeReleaseDebtLeaseSync db device now).2.saveDevice
      (recomputeReturnState device ((maybeReleaseDebtLeaseSync db device now).2.openDebts d)
        now)) := by
  subst hid
  obtain ⟨leases, hleases⟩ := maybeReleaseDebtLeaseSync_eq db device now
  have hframe := onlyDevice_maybeReleaseDebtLeaseSync db device now
  have hactive := fun hex => activeLease_maybeReleaseDebtLeaseSync db hex device now
  rw [hleases] at hframe hactive ⊢
  obtain ⟨rs, hrs⟩ := recomputeReturnState_eq device (db.openDebts device.id) now
  have hrs' : recomputeReturnState device (({ db with leases := leases } : Db).openDebts
      device.id) now = { device with returnState := rs } := hrs
  rw [hrs']
  refine ⟨⟨rs, get?_saveDevice rfl hget, ?_⟩, ?_, fun _ => Iff.rfl, hactive⟩
  · rw [← hrs]
    exact agrees_recompute_iff db rfl
  · exact hframe.trans (onlyDevice_saveDevice { db with leases := leases }
      { device with returnState := rs })

/-! ### Discharge -/

section Discharge

variable {manifestPackageSha : String → String → Option String}

/-- Whether a discharge accepts an entry, and its family would be in debt by it. -/
def dischargeMarksDebt (manifestPackageSha : String → String → Option String)
    (device : Device) (item : String × PyDict) : Bool :=
  familyNames.contains item.1 &&
    match evaluateProbeEntry manifestPackageSha device item.1 item.2 true none with
    | .error _ => false
    | .ok policy =>
      (probeEntryResponse item.1 item.2 policy .discharge).statusCode ≠ 422 &&
        mapDisarmResultToFamilyState
          (if policy.trusted then policy.result.value else resultOf item.2)
          (familyOnboarded item.1) = .debt

/-- What a tally says of a family: its mark and whether it is owed. -/
def DischargeTally.view (d : ℕ) (t : DischargeTally) (f : String) : Bool × Bool :=
  (t.device.inDebt f, decide (t.db.owes d f))

/-- A tally on its way from a device and a database. -/
structure DischargeTally.From (d : ℕ) (device : Device) (db : Db) (t : DischargeTally) :
    Prop where
  row : ∃ rs, t.device = { device with returnState := rs }
  debts : DebtsOnly d db t.db
  idle : t.acceptedCount = 0 → t.device = device ∧ t.db = db

/-- What an entry did to its family: refused entries nothing, accepted ones that mean debt
mark it, and the others unmark it. -/
def EntryEffect (marks : Bool) (before after : Bool × Bool) : Prop :=
  (marks = true → after = (true, before.2)) ∧
    (marks = false → after = before ∨ after.1 = false)

/-- **One entry of a discharge**: what it did to its own family, and that it left the
others. -/
theorem dischargeFamily_spec {d : ℕ} {now : Time} {device : Device} {db : Db}
    {t t' : DischargeTally} {item : String × PyDict} (hfrom : t.From d device db)
    (h : dischargeFamily manifestPackageSha d now t item = .ok t') :
    t'.From d device db ∧ (∀ f, f ≠ item.1 → t'.view d f = t.view d f) ∧
      EntryEffect (dischargeMarksDebt manifestPackageSha device item) (t.view d item.1)
        (t'.view d item.1) := by
  obtain ⟨rs, hrs⟩ := hfrom.row
  unfold dischargeFamily at h
  unfold dischargeMarksDebt
  split at h
  · rename_i hknown
    cases h
    refine ⟨hfrom, fun _ _ => rfl, fun hmarks => ?_, fun _ => .inl rfl⟩
    rw [Bool.not_eq_true'] at hknown
    rw [hknown, Bool.false_and] at hmarks
    cases hmarks
  · rename_i hknown
    obtain ⟨policy, hpolicy, h⟩ := Except.bind_eq_ok_iff.mp h
    have hpolicy' : evaluateProbeEntry manifestPackageSha device item.1 item.2 true none =
        .ok policy := by
      rw [← hpolicy, hrs]
      rfl
    simp only [Bool.not_eq_true', Bool.not_eq_false] at hknown
    simp only [hpolicy', hknown, Bool.true_and]
    dsimp only at h
    split at h
    · rename_i hrefused
      cases h
      refine ⟨⟨hfrom.row, hfrom.debts, hfrom.idle⟩, fun _ _ => rfl, fun hmarks => ?_,
        fun _ => .inl rfl⟩
      simp [hrefused] at hmarks
    · rename_i haccepted
      generalize hresult : (if policy.trusted then policy.result.value else resultOf item.2) =
        result at h ⊢
      have hmark : ∀ f, (setFamilyReturnState t.device item.1
          (mapDisarmResultToFamilyState result (familyOnboarded item.1)) .discharge now
          [("disarm_result", .str result)]).inDebt f =
          if f = item.1 then
            decide (mapDisarmResultToFamilyState result (familyOnboarded item.1) = .debt)
          else t.device.inDebt f := fun f =>
        inDebt_setFamilyReturnState t.device item.1 f _ _ now (by simp)
      have hrow : ∃ rs, (setFamilyReturnState t.device item.1
          (mapDisarmResultToFamilyState result (familyOnboarded item.1)) .discharge now
          [("disarm_result", .str result)]) = { device with returnState := rs } := by
        rw [hrs]
        exact ⟨_, rfl⟩
      split at h
      · rename_i hconf
        cases h
        have howes := owes_closeFamilyDebtsSync t.db d [item.1] .discharged now d
        have hnodebt : mapDisarmResultToFamilyState result (familyOnboarded item.1) ≠ .debt := by
          rw [mapDisarmResultToFamilyState_ne_debt_iff]
          exact .inl hconf.2
        refine ⟨⟨hrow, hfrom.debts.trans (debtsOnly_closeFamilyDebtsSync ..), by simp⟩,
          fun f hf => ?_, fun hmarks => ?_, fun _ => .inr ?_⟩
        · simp only [DischargeTally.view, hmark, if_neg hf, howes]
          simp [hf]
        · simp [hnodebt] at hmarks
        · simp [DischargeTally.view, hmark, hnodebt]
      · cases h
        refine ⟨⟨hrow, hfrom.debts, by simp⟩, fun f hf => ?_, fun hmarks => ?_, fun hmarks => ?_⟩
        · simp only [DischargeTally.view, hmark, if_neg hf]
        · simp only [Bool.and_eq_true, decide_eq_true_eq] at hmarks
          have hself := (hmark item.1).trans (if_pos rfl)
          rw [decide_eq_true hmarks.2] at hself
          exact Prod.ext hself rfl
        · refine .inr ?_
          simp only [haccepted, ne_eq, not_false_eq_true, decide_true, Bool.true_and,
            decide_eq_false_iff_not] at hmarks
          simp [DischargeTally.view, hmark, hmarks]

/-- When a discharge keeps the marks of a device in agreement: each accepted entry that
means debt is about a family the device owes. -/
def DischargeCovered (manifestPackageSha : String → String → Option String) (device : Device)
    (db : Db) (familyResults : Dict PyDict) : Prop :=
  ∀ item ∈ familyResults.items, dischargeMarksDebt manifestPackageSha device item = true →
    db.owes device.id item.1

instance (manifestPackageSha : String → String → Option String) (device : Device) (db : Db)
    (familyResults : Dict PyDict) :
    Decidable (DischargeCovered manifestPackageSha device db familyResults) :=
  inferInstanceAs (Decidable (∀ item ∈ familyResults.items,
    dischargeMarksDebt manifestPackageSha device item = true → db.owes device.id item.1))

/-- **The entries of a discharge**: the marks they leave are covered exactly when each
accepted entry that means debt is about a family the device owes. -/
theorem dischargeTally_covered_iff {now : Time} {device : Device} {db : Db}
    {familyResults : Dict PyDict} {t : DischargeTally}
    (h : familyResults.items.foldlM (dischargeFamily manifestPackageSha device.id now)
      ⟨device, db, [], [], 0⟩ = .ok t) :
    t.From device.id device db ∧ (Agrees device db →
      (Covered t.device t.db ↔ DischargeCovered manifestPackageSha device db familyResults)) := by
  have hstart : (⟨device, db, [], [], 0⟩ : DischargeTally).From device.id device db :=
    ⟨⟨device.returnState, rfl⟩, .refl _ db, fun _ => ⟨rfl, rfl⟩⟩
  have hfrom : t.From device.id device db :=
    foldlM_invariant (I := fun t : DischargeTally => t.From device.id device db)
      (fun hI hs => (dischargeFamily_spec hI hs).1) hstart h
  refine ⟨hfrom, fun hag => ?_⟩
  obtain ⟨hout, hin⟩ := foldlM_at_key Prod.fst (DischargeTally.view device.id)
    (I := fun t : DischargeTally => t.From device.id device db)
    (R := fun item => EntryEffect (dischargeMarksDebt manifestPackageSha device item))
    (fun hI hs => (dischargeFamily_spec hI hs).1)
    (fun hI hs => (dischargeFamily_spec hI hs).2.1)
    (fun hI hs => (dischargeFamily_spec hI hs).2.2) familyResults.nodup hstart h
  have hid : t.device.id = device.id := by
    obtain ⟨rs, hrs⟩ := hfrom.row
    rw [hrs]
  constructor
  · intro hcov item hitem hmarks
    have heff := (hin item hitem).1 hmarks
    have hmark : t.device.inDebt item.1 = true := congrArg Prod.fst heff
    have howes : decide (t.db.owes device.id item.1) = decide (db.owes device.id item.1) :=
      congrArg Prod.snd heff
    have hc := hcov item.1 hmark
    rw [hid] at hc
    rw [decide_eq_true hc] at howes
    exact of_decide_eq_true howes.symm
  · intro hok f hf
    rw [hid]
    by_cases hkey : f ∈ familyResults.items.map Prod.fst
    · obtain ⟨item, hitem, rfl⟩ := List.mem_map.mp hkey
      have heff := hin item hitem
      cases hmarks : dischargeMarksDebt manifestPackageSha device item with
      | true =>
          have hsame : decide (t.db.owes device.id item.1) =
              decide (db.owes device.id item.1) := congrArg Prod.snd (heff.1 hmarks)
          rw [decide_eq_true (hok item hitem hmarks)] at hsame
          exact of_decide_eq_true hsame
      | false =>
          rcases heff.2 hmarks with hsame | hunmarked
          · have hmark : t.device.inDebt item.1 = device.inDebt item.1 :=
              congrArg Prod.fst hsame
            have howes : decide (t.db.owes device.id item.1) =
                decide (db.owes device.id item.1) := congrArg Prod.snd hsame
            rw [hmark] at hf
            rw [decide_eq_true ((hag item.1).mp hf)] at howes
            exact of_decide_eq_true howes
          · have hfalse : t.device.inDebt item.1 = false := hunmarked
            rw [hfalse] at hf
            cases hf
    · have hsame := hout f hkey
      have hmark : t.device.inDebt f = device.inDebt f := congrArg Prod.fst hsame
      have howes : decide (t.db.owes device.id f) = decide (db.owes device.id f) :=
        congrArg Prod.snd hsame
      rw [hmark] at hf
      rw [decide_eq_true ((hag f).mp hf)] at howes
      exact of_decide_eq_true howes

/-- Whether a token is that of the debt lease of a device. -/
def holdsDebtToken (db : Db) (d : ℕ) (fencingToken : String) : Bool :=
  (db.activeLease d).any fun l => isDebtLease (some l) && l.fencingToken == fencingToken

/-- **The effect of a discharge**: nothing, or its device is settled after its entries were
taken. -/
theorem applyDischargeSync_cases {db db' : Db} {now : Time} {d : ℕ} {token : String}
    {familyResults : Dict PyDict} {reply : Reply DischargeOutcome}
    (h : applyDischargeSync manifestPackageSha db now d token familyResults =
      .ok (reply, db')) :
    (db' = db ∧ ∀ device, db.devices.get? d = some device → holdsDebtToken db d token = true →
      Agrees device db → DischargeCovered manifestPackageSha device db familyResults) ∨
    ∃ (device : Device) (t : DischargeTally),
      db.devices.get? d = some device ∧ holdsDebtToken db d token = true ∧
      t.From d device db ∧ Settled t.device t.db db' ∧ (Agrees device db →
        (Covered t.device t.db ↔
          DischargeCovered manifestPackageSha device db familyResults)) := by
  unfold applyDischargeSync at h
  cases hget : db.devices.get? d with
  | none =>
      rw [hget] at h
      cases h
      exact .inl ⟨rfl, fun _ hsome => by cases hsome⟩
  | some device =>
      obtain rfl : device.id = d := Table.id_of_get? hget
      rw [hget] at h
      dsimp only at h
      unfold holdsDebtToken
      cases hlease : db.activeLease device.id with
      | none =>
          rw [hlease] at h
          cases h
          exact .inl ⟨rfl, fun _ _ htok => by simp at htok⟩
      | some lease =>
          rw [hlease] at h
          dsimp only at h
          split at h
          · rename_i hbad
            cases h
            refine .inl ⟨rfl, fun _ _ htok => ?_⟩
            simp only [Option.any_some, Bool.and_eq_true, beq_iff_eq] at htok
            simp [htok.1, htok.2] at hbad
          · rename_i hgood
            obtain ⟨t, hfold, h⟩ := Except.bind_eq_ok_iff.mp h
            obtain ⟨hfrom, hcov⟩ := dischargeTally_covered_iff hfold
            split at h
            · rename_i hidle
              cases h
              obtain ⟨hdev, hdb⟩ := hfrom.idle hidle.2
              refine .inl ⟨hdb, fun device' hdevice' _ hag => ?_⟩
              cases hdevice'
              refine (hcov hag).mp ?_
              rw [hdev, hdb]
              exact hag.covered
            · cases h
              right
              have hid : t.device.id = device.id := by
                obtain ⟨rs, hrs⟩ := hfrom.row
                rw [hrs]
              have hget' : t.db.devices.get? device.id = some device := by
                obtain ⟨debts, hdebts⟩ := hfrom.debts.tables
                rw [hdebts]
                exact hget
              refine ⟨device, t, rfl, ?_, hfrom, settled_maybeRelease _ _ hid hget' now, hcov⟩
              simpa using hgood

end Discharge

/-! ### Override -/

/-- The device after some families were overridden: the known ones of them are unmarked. -/
theorem overrideFamilies_spec (reasonCategory evidenceRef : String) (now : Time)
    (families : List String) (device : Device) :
    (∃ rs, families.foldl (overrideFamily reasonCategory evidenceRef now) device =
      { device with returnState := rs }) ∧
    ∀ f, (families.foldl (overrideFamily reasonCategory evidenceRef now) device).inDebt f =
      if f ∈ families ∧ f ∈ familyNames then false else device.inDebt f := by
  induction families generalizing device with
  | nil => exact ⟨⟨device.returnState, rfl⟩, fun f => by simp⟩
  | cons family rest ih =>
      obtain ⟨⟨rs, hrs⟩, hmark⟩ := ih (overrideFamily reasonCategory evidenceRef now device
        family)
      have hone : (∃ rs, overrideFamily reasonCategory evidenceRef now device family =
          { device with returnState := rs }) ∧
          ∀ f, (overrideFamily reasonCategory evidenceRef now device family).inDebt f =
            if f = family ∧ f ∈ familyNames then false else device.inDebt f := by
        unfold overrideFamily
        by_cases hknown : family ∈ familyNames
        · rw [if_neg (by simpa using hknown)]
          refine ⟨⟨_, rfl⟩, fun f => ?_⟩
          rw [inDebt_setFamilyReturnState device family f _ _ now (by simp)]
          by_cases hf : f = family
          · simp [hf, hknown]
          · simp [hf]
        · rw [if_pos (by simpa using hknown)]
          refine ⟨⟨device.returnState, rfl⟩, fun f => ?_⟩
          rw [if_neg]
          rintro ⟨rfl, hf⟩
          exact hknown hf
      obtain ⟨⟨rs', hrs'⟩, hmark'⟩ := hone
      rw [List.foldl_cons]
      refine ⟨⟨rs, by rw [hrs, hrs']⟩, fun f => ?_⟩
      rw [hmark, hmark']
      by_cases hrest : f ∈ rest ∧ f ∈ familyNames
      · simp [hrest]
      · rw [if_neg hrest]
        by_cases hf : f = family ∧ f ∈ familyNames
        · simp [hf]
        · rw [if_neg hf, if_neg]
          rintro ⟨hmem, hknown⟩
          rcases List.mem_cons.mp hmem with rfl | hmem
          · exact hf ⟨rfl, hknown⟩
          · exact hrest ⟨hmem, hknown⟩

/-- When an override keeps the marks of a device in agreement: it is about no unknown family
the device owes. -/
def OverrideCovered (device : Device) (db : Db) (families : Option (List String)) : Prop :=
  ∀ f ∈ overrideTarget families, f ∉ familyNames → ¬ db.owes device.id f

instance (device : Device) (db : Db) (families : Option (List String)) :
    Decidable (OverrideCovered device db families) :=
  inferInstanceAs (Decidable (∀ f ∈ overrideTarget families,
    f ∉ familyNames → ¬ db.owes device.id f))

/-- **The effect of an override**: nothing, or its device is settled after its families were
unmarked and their debts closed. -/
theorem applyOverrideSync_cases (db : Db) (now : Time) (d : ℕ)
    (families : Option (List String)) (reasonCategory evidenceRef : String) :
    (db.devices.get? d = none ∧
      (applyOverrideSync db now d families reasonCategory evidenceRef).2 = db) ∨
    ∃ device rs mid, db.devices.get? d = some device ∧ DebtsOnly d db mid ∧
      (∀ f, mid.owes d f ↔ db.owes d f ∧ f ∉ overrideTarget families) ∧
      Settled { device with returnState := rs } mid
        (applyOverrideSync db now d families reasonCategory evidenceRef).2 ∧
      (Agrees device db → (Covered { device with returnState := rs } mid ↔
        OverrideCovered device db families)) := by
  unfold applyOverrideSync
  cases hget : db.devices.get? d with
  | none => exact .inl ⟨rfl, rfl⟩
  | some device =>
      obtain rfl : device.id = d := Table.id_of_get? hget
      obtain ⟨⟨rs, hrs⟩, hmark⟩ := overrideFamilies_spec reasonCategory evidenceRef now
        (overrideTarget families) device
      have howes : ∀ f, (closeFamilyDebtsSync db device.id (overrideTarget families)
          .overridden now).2.owes device.id f ↔
          db.owes device.id f ∧ f ∉ overrideTarget families := by
        intro f
        rw [owes_closeFamilyDebtsSync]
        simp
      refine .inr ⟨device, rs, (closeFamilyDebtsSync db device.id (overrideTarget families)
        .overridden now).2, rfl, debtsOnly_closeFamilyDebtsSync .., howes, ?_, fun hag => ?_⟩
      · dsimp only
        rw [hrs]
        exact settled_maybeRelease (closeFamilyDebtsSync db device.id (overrideTarget families)
          .overridden now).2 { device with returnState := rs } rfl hget now
      · rw [← hrs]
        constructor
        · intro hcov f hf hunknown howed
          have hf' : ((overrideTarget families).foldl
              (overrideFamily reasonCategory evidenceRef now) device).inDebt f = true := by
            rw [hmark, if_neg fun h => hunknown h.2]
            exact (hag f).mpr howed
          have := hcov f hf'
          rw [hrs] at this
          exact ((howes f).mp this).2 hf
        · intro hok f hf
          rw [hmark] at hf
          split at hf
          · cases hf
          · rename_i hnot
            have howed := (hag f).mp hf
            rw [hrs]
            refine (howes f).mpr ⟨howed, fun htarget => ?_⟩
            exact hok f htarget (fun hknown => hnot ⟨htarget, hknown⟩) howed

/-! ### Late confirmation -/

/-- A tally of a late confirmation on its way from a device and a database. -/
structure LateTally.From (db : Db) (jobId : ℕ) (fencingToken : String) (device : Device)
    (t : LateTally) : Prop where
  row : ∃ rs, t.device = { device with returnState := rs }
  marks : ∀ f, t.device.inDebt f = true → device.inDebt f = true ∧ f ∉ t.touched
  rows : ∀ i ∈ t.closedRows, ∃ r ∈ db.openDebts device.id, r.id = i ∧ r.family ∈ t.touched ∧
    isOwnDebt r.family jobId fencingToken r = true
  idle : t.closed = 0 → t.closedRows = [] ∧ t.touched = []

/-- No confirmed family is left in debt. -/
theorem lateState_ne_debt (family : String) : lateState family ≠ .debt := by
  unfold lateState
  split
  · decide
  · decide

/-- One confirmed family. -/
theorem lateFamilySync_from {db : Db} {jobId : ℕ} {fencingToken : String} {now : Time}
    {device : Device} {t : LateTally} (h : t.From db jobId fencingToken device)
    (family : String) :
    (lateFamilySync db device.id jobId fencingToken now t family).From db jobId fencingToken
      device := by
  obtain ⟨rs, hrs⟩ := h.row
  have hextra : ∀ p ∈ ([("job_id", .int jobId), ("late_confirmed", .bool true)] : PyDict),
      p.1 ≠ "state" := by simp
  have hmark := fun f => inDebt_setFamilyReturnState t.device family f (lateState family) .job
    now hextra
  generalize hrows : (db.openDebts device.id).filter (isOwnDebt family jobId fencingToken) =
    rows
  have hown : ∀ r ∈ rows, r ∈ db.openDebts device.id ∧ r.family = family ∧
      isOwnDebt r.family jobId fencingToken r = true := by
    intro r hr
    rw [← hrows] at hr
    obtain ⟨hr, hq⟩ := List.mem_filter.mp hr
    have hfam : r.family = family := by
      simp only [isOwnDebt, Bool.and_eq_true, beq_iff_eq] at hq
      exact hq.1.1.1
    exact ⟨hr, hfam, hfam ▸ hq⟩
  unfold lateFamilySync
  dsimp only
  rw [hrows]
  cases rows with
  | nil =>
      by_cases htouched : family ∈ t.touched
      · have hcont : t.touched.contains family = true := by simpa using htouched
        simp only [List.isEmpty_nil, if_true, hcont]
        refine ⟨⟨_, by rw [hrs]; rfl⟩, fun f hf => ?_, ?_, ?_⟩
        · rw [hmark] at hf
          split at hf
          · exact absurd (of_decide_eq_true hf) (lateState_ne_debt family)
          · exact h.marks f hf
        · simpa using h.rows
        · simpa using h.idle
      · have hcont : t.touched.contains family = false := by simpa using htouched
        simp only [List.isEmpty_nil, if_true, hcont, Bool.false_eq_true, if_false]
        exact ⟨h.row, h.marks, by simpa using h.rows, by simpa using h.idle⟩
  | cons r rest =>
      simp only [List.isEmpty_cons, Bool.false_eq_true, if_false, List.contains_cons,
        beq_self_eq_true, Bool.true_or, if_true]
      refine ⟨⟨_, by rw [hrs]; rfl⟩, fun f hf => ?_, fun i hi => ?_, fun h0 => ?_⟩
      · rw [hmark] at hf
        split at hf
        · exact absurd (of_decide_eq_true hf) (lateState_ne_debt family)
        · rename_i hne
          obtain ⟨hold, hnot⟩ := h.marks f hf
          exact ⟨hold, by simp [hne, hnot]⟩
      · rcases List.mem_append.mp hi with hi | hi
        · obtain ⟨s, hs, hid, htouched, hq⟩ := h.rows i hi
          exact ⟨s, hs, hid, List.mem_cons_of_mem family htouched, hq⟩
        · obtain ⟨s, hs, rfl⟩ := List.mem_map.mp hi
          obtain ⟨hopen, hfam, hq⟩ := hown s hs
          exact ⟨s, hopen, rfl, by simp [hfam], hq⟩
      · simp at h0

/-- **The effect of a late confirmation**: nothing, or its device is settled after debts in
the job's own name and token were closed and their families unmarked. -/
theorem applyLateConfirmedSync_cases (db : Db) (now : Time) (d jobId : ℕ)
    (fencingToken : String) (confirmedFamilies : List String) :
    (db.devices.get? d = none ∧
      (applyLateConfirmedSync db now d jobId fencingToken confirmedFamilies).2 = db) ∨
    ∃ device rs ids mid, db.devices.get? d = some device ∧
      mid = db.closeRows ids .discharged now ∧
      (∀ i ∈ ids, ∃ r ∈ db.openDebts d, r.id = i ∧
        isOwnDebt r.family jobId fencingToken r = true) ∧
      Settled { device with returnState := rs } mid
        (applyLateConfirmedSync db now d jobId fencingToken confirmedFamilies).2 ∧
      (Agrees device db → Covered { device with returnState := rs } mid) := by
  unfold applyLateConfirmedSync
  cases hget : db.devices.get? d with
  | none => exact .inl ⟨rfl, rfl⟩
  | some device =>
      obtain rfl : device.id = d := Table.id_of_get? hget
      have hstart : (⟨device, [], 0, []⟩ : LateTally).From db jobId fencingToken device :=
        ⟨⟨device.returnState, rfl⟩, fun f hf => ⟨hf, by simp⟩, by simp, by simp⟩
      have hfrom : ∀ (fs : List String) (t : LateTally), t.From db jobId fencingToken device →
          (fs.foldl (lateFamilySync db device.id jobId fencingToken now) t).From db jobId
            fencingToken device := by
        intro fs
        induction fs with
        | nil => exact fun t ht => ht
        | cons family rest ih => exact fun t ht => ih _ (lateFamilySync_from ht family)
      have hlast := hfrom confirmedFamilies _ hstart
      dsimp only
      generalize confirmedFamilies.foldl (lateFamilySync db device.id jobId fencingToken now)
        ⟨device, [], 0, []⟩ = t at hlast
      obtain ⟨rs, hrs⟩ := hlast.row
      have hmid : (if t.closed ≠ 0 then db.closeRows t.closedRows .discharged now else db) =
          db.closeRows t.closedRows .discharged now := by
        split
        · rfl
        · rename_i h0
          obtain ⟨hnil, -⟩ := hlast.idle (not_not.mp h0)
          rw [hnil, closeRows_nil]
      refine .inr ⟨device, rs, t.closedRows, _, rfl, rfl, fun i hi => ?_, ?_, fun hag f hf => ?_⟩
      · obtain ⟨r, hr, hid, -, hq⟩ := hlast.rows i hi
        exact ⟨r, hr, hid, hq⟩
      · rw [hmid, hrs]
        exact settled_maybeRelease (db.closeRows t.closedRows .discharged now)
          { device with returnState := rs } rfl hget now
      · obtain ⟨hold, hnot⟩ := hlast.marks f (by rw [hrs]; exact hf)
        obtain ⟨r, hr, rfl⟩ := (hag f).mp hold
        refine owes_closeRows.mpr ⟨r, hr, rfl, fun hmem => ?_⟩
        obtain ⟨s, hs, hsid, htouched, -⟩ := hlast.rows r.id hmem
        have hsr : s = r :=
          Table.eq_of_id_eq (mem_openDebts.mp hs).1 (mem_openDebts.mp hr).1 hsid
        exact hnot (hsr ▸ htouched)

end StabilityPlatform
