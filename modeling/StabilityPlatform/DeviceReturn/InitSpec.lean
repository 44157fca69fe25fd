import StabilityPlatform.DeviceReturn.CloseSpec
import StabilityPlatform.DeviceReturn.Justified

/-!
# Init checks, init and retirement, specified

What an init check, the init of a device, retiring a device and taking it back into service
do to the marks, the debts and the lease of the device.

## Main results

* `applyInitCheckSync_cases`: the effect of an init check.
* `initDeviceReturnSync_cases`: the effect of an init.
* `retireDevice_cases`, `unretireDevice_cases`: the effects of the two transactions.
-/

namespace StabilityPlatform

open Lib

/-! ### Init checks -/

section InitCheck

variable {manifestPackageSha : String → String → Option String}

/-- A tally of an init check on its way from a device and a database. -/
structure InitCheckTally.From (device : Device) (db : Db) (t : InitCheckTally) : Prop where
  row : ∃ rs, t.device = { device with returnState := rs }
  debts : DebtsOnly device.id db t.db
  covered : Covered device db → Covered t.device t.db
  idle : t.changed = false → t.device = device ∧ t.db = db

/-- One entry of an init check: its debt was written before its mark needs it, and a closed
family is not marked. -/
theorem initCheckFamily_from {jobId : ℕ} {token : String} {now : Time} {device : Device}
    {db : Db} {t t' : InitCheckTally} {item : String × PyDict} (hfrom : t.From device db)
    (h : initCheckFamily manifestPackageSha jobId token now t item = .ok t') :
    t'.From device db := by
  obtain ⟨rs, hrs⟩ := hfrom.row
  have hid : t.device.id = device.id := by rw [hrs]
  unfold initCheckFamily at h
  obtain ⟨decision, -, h⟩ := Except.bind_eq_ok_iff.mp h
  split at h
  · cases h
    exact ⟨hfrom.row, hfrom.debts, hfrom.covered, hfrom.idle⟩
  · split at h
    · cases h
    · dsimp only at h
      split at h
      · cases h
        exact ⟨hfrom.row, hfrom.debts, hfrom.covered, hfrom.idle⟩
      · generalize hresult : (PyDict.get item.2 "result").pyStr = result at h
        obtain ⟨db₁, hdb, h⟩ := Except.bind_eq_ok_iff.mp h
        cases h
        have hmark : ∀ f, (setFamilyReturnState t.device item.1
            (mapDisarmResultToFamilyState result (familyOnboarded item.1)) .initCheck now
            [("job_id", .int jobId), ("disarm_result", .str result)]).inDebt f =
            if f = item.1 then
              decide (mapDisarmResultToFamilyState result (familyOnboarded item.1) = .debt)
            else t.device.inDebt f := fun f =>
          inDebt_setFamilyReturnState t.device item.1 f _ _ now (by simp)
        have hkeep : DebtsOnly device.id t.db db₁ ∧ ∀ f, (setFamilyReturnState t.device item.1
            (mapDisarmResultToFamilyState result (familyOnboarded item.1)) .initCheck now
            [("job_id", .int jobId), ("disarm_result", .str result)]).inDebt f = true →
            (t.device.inDebt f = true → t.db.owes device.id f) → db₁.owes device.id f := by
          unfold initCheckDebts at hdb
          split at hdb
          · rename_i hconf
            cases hdb
            rw [hid]
            refine ⟨debtsOnly_closeFamilyDebtsSync .., fun f hf hold => ?_⟩
            rw [hmark] at hf
            split at hf
            · rw [decide_eq_true_eq] at hf
              exact absurd hf (mapDisarmResultToFamilyState_ne_debt_iff.mpr (.inl hconf))
            · rename_i hne
              rw [owes_closeFamilyDebtsSync]
              exact ⟨hold hf, by simp [hne]⟩
          · split at hdb
            · rw [hid] at hdb
              refine ⟨debtsOnly_upsertOpenDebtSync hdb, fun f hf hold => ?_⟩
              rw [owes_upsertOpenDebtSync hdb]
              rw [hmark] at hf
              split at hf
              · rename_i heq
                exact .inr ⟨rfl, heq⟩
              · exact .inl (hold hf)
            · rename_i hnodebt
              cases hdb
              refine ⟨.refl _ _, fun f hf hold => ?_⟩
              rw [hmark] at hf
              split at hf
              · exact absurd (of_decide_eq_true hf) hnodebt
              · exact hold hf
        refine ⟨⟨_, by rw [hrs]; rfl⟩, hfrom.debts.trans hkeep.1, fun hcov f hf => ?_,
          fun hsame => by simp at hsame⟩
        have hcov' := hfrom.covered hcov
        have howes := hkeep.2 f hf fun hold => hid ▸ hcov' f hold
        rw [← hid] at howes
        exact howes

/-- **The effect of an init check**: nothing, or, on a device whose active lease is the
job's own, the entries were taken and the marks recomputed. -/
theorem applyInitCheckSync_cases {db db' : Db} {now : Time} {jobId : ℕ} {token : String}
    {familyResults : Dict PyDict} {reply : Reply InitCheckOutcome}
    (h : applyInitCheckSync manifestPackageSha db now jobId token familyResults =
      .ok (reply, db')) :
    db' = db ∨ ∃ (job : JobInstance) (device : Device) (lease : DeviceLease)
        (t : InitCheckTally), db.jobs.get? jobId = some job ∧ job.status = .running ∧
      db.devices.get? job.deviceId = some device ∧ db.activeLease device.id = some lease ∧
      isJobOwner lease device job token now = true ∧ t.From device db ∧
      db' = t.db.saveDevice (recomputeReturnState t.device (t.db.openDebts device.id) now) := by
  unfold applyInitCheckSync at h
  cases hjob : db.jobs.get? jobId with
  | none =>
      rw [hjob] at h
      cases h
      exact .inl rfl
  | some job =>
      rw [hjob] at h
      dsimp only at h
      split at h
      · cases h
        exact .inl rfl
      · rename_i hrunning
        cases hget : db.devices.get? job.deviceId with
        | none =>
            rw [hget] at h
            cases h
            exact .inl rfl
        | some device =>
            rw [hget] at h
            dsimp only at h
            cases hlease : db.activeLease device.id with
            | none =>
                rw [hlease] at h
                cases h
                exact .inl rfl
            | some lease =>
                rw [hlease] at h
                dsimp only at h
                split at h
                · cases h
                  exact .inl rfl
                · rename_i howner
                  obtain ⟨t, hfold, h⟩ := Except.bind_eq_ok_iff.mp h
                  cases h
                  have hfrom : t.From device db :=
                    foldlM_invariant (I := fun t : InitCheckTally => t.From device db)
                      (fun hI hs => initCheckFamily_from hI hs)
                      ⟨⟨device.returnState, rfl⟩, .refl _ db, id, fun _ => ⟨rfl, rfl⟩⟩ hfold
                  split
                  · refine .inr ⟨job, device, lease, t, rfl, not_not.mp hrunning, hget, hlease,
                      by simpa using howner, hfrom, rfl⟩
                  · rename_i hsame
                    exact .inl (hfrom.idle (by simpa using hsame)).2

end InitCheck

/-! ### The init of a device -/

/-- Whether a return state marks a family as in debt. -/
def marksDebt (current : Dict PyDict) (family : String) : Bool :=
  (stateIn current family).isOneOf [FamilyReturn.debt.value]

/-- Whether the last that is known of a family means debt. -/
def historyDebt (db : Db) (d : ℕ) (family : String) : Bool :=
  familyOnboarded family &&
    match historyResultForFamilySync db d family with
    | some (_, some result) => historyState result = .debt
    | _ => false

/-- A tally of an init on its way from a device and a database. -/
structure InitTally.From (d : ℕ) (current : Dict PyDict) (db : Db) (t : InitTally) : Prop where
  debts : DebtsOnly d db t.db
  idle : t.changed = false → t.current = current

/-- What a tally says of a family: whether it has a state, its mark, whether it is owed. -/
def InitTally.view (d : ℕ) (t : InitTally) (f : String) : Bool × Bool × Bool :=
  ((t.current.get? f).isSome, marksDebt t.current f, decide (t.db.owes d f))

/-- What an init did to a family: one with a state it leaves, a debt in its history it opens
and marks, and the others get a state without a mark. -/
def InitEffect (history : Bool) (before after : Bool × Bool × Bool) : Prop :=
  if before.1 then after = before
  else after = (true, history, history || before.2.2)

/-- Marks after one entry was written. -/
theorem marksDebt_set (current : Dict PyDict) (family f : String) (entry : PyDict) :
    marksDebt (current.set family entry) f =
      if f = family then (PyDict.get entry "state").isOneOf [FamilyReturn.debt.value]
      else marksDebt current f := by
  unfold marksDebt
  rw [stateIn_set]
  split <;> rfl

/-- The view after a family got its first entry, under a database with more debts. -/
theorem InitTally.view_note {d : ℕ} {t : InitTally} {family : String} {entry : PyDict} {db : Db}
    (f : String) : InitTally.view d { t.note false family entry with db := db } f =
      (if f = family then (true, (PyDict.get entry "state").isOneOf [FamilyReturn.debt.value],
        decide (db.owes d f))
      else ((t.current.get? f).isSome, marksDebt t.current f, decide (db.owes d f))) := by
  unfold InitTally.view InitTally.note
  simp only [Bool.false_eq_true, if_false, marksDebt_set, Dict.get?_set]
  split <;> rfl

/-- **One family of an init**, when it is to be written: what it did to its own family, and
that it left the others. -/
theorem initFamily_spec {d : ℕ} {now : Time} {current : Dict PyDict} {db : Db}
    {t t' : InitTally} {family : String} (hfrom : t.From d current db)
    (h : initFamily d false now t family = .ok t') :
    t'.From d current db ∧ (∀ f, f ≠ family → t'.view d f = t.view d f) ∧
      InitEffect (historyDebt db d family) (t.view d family) (t'.view d family) := by
  obtain ⟨debts, hdebts⟩ := hfrom.debts.tables
  have hhist : historyResultForFamilySync t.db d family =
      historyResultForFamilySync db d family := by rw [hdebts]; rfl
  unfold initFamily at h
  unfold InitEffect historyDebt
  cases hget : t.current.get? family with
  | some entry =>
      rw [hget] at h
      cases h
      refine ⟨⟨hfrom.debts, hfrom.idle⟩, fun _ _ => rfl, ?_⟩
      simp [InitTally.view, hget]
  | none =>
      rw [hget] at h
      dsimp only at h
      have hview : (t.view d family).1 = false := by simp [InitTally.view, hget]
      have hnote : ∀ entry : PyDict, (t.note false family entry).From d current db :=
        fun entry => ⟨hfrom.debts, fun hc => by simp [InitTally.note] at hc⟩
      have hother : ∀ (entry : PyDict) (f : String), f ≠ family →
          (t.note false family entry).view d f = t.view d f := fun entry f hf =>
        (InitTally.view_note f).trans (if_neg hf)
      have hself : ∀ entry : PyDict, (t.note false family entry).view d family =
          (true, (PyDict.get entry "state").isOneOf [FamilyReturn.debt.value],
            decide (t.db.owes d family)) := fun entry =>
        (InitTally.view_note family).trans (if_pos rfl)
      have hunverified : (PyDict.get (stockUnverified now) "state").isOneOf
          [FamilyReturn.debt.value] = false := rfl
      rw [hview]
      simp only [Bool.false_eq_true, if_false]
      split at h
      · rename_i honb
        cases h
        rw [Bool.not_eq_true'] at honb
        refine ⟨hnote _, hother _, ?_⟩
        rw [hself, hunverified, honb]
        rfl
      · rename_i honb
        rw [Bool.not_eq_true', Bool.not_eq_false] at honb
        rw [honb, Bool.true_and, ← hhist]
        have hquiet : t' = t.note false family (stockUnverified now) →
            t'.From d current db ∧ (∀ f, f ≠ family → t'.view d f = t.view d f) ∧
              t'.view d family = (true, false, decide (t.db.owes d family)) := by
          rintro rfl
          refine ⟨hnote _, hother _, ?_⟩
          rw [hself, hunverified]
        cases hres : historyResultForFamilySync t.db d family with
        | none =>
            rw [hres] at h
            cases h
            exact hquiet rfl
        | some found =>
            rw [hres] at h
            obtain ⟨histJob, _ | result⟩ := found
            · cases h
              exact hquiet rfl
            · have hentry : (PyDict.get (stockEntry (historyState result) histJob result now)
                  "state").isOneOf [FamilyReturn.debt.value] =
                  decide (historyState result = .debt) := isOneOf_value _
              dsimp only at h ⊢
              split at h
              · rename_i hdebt
                obtain ⟨db₁, hup, h⟩ := Except.bind_eq_ok_iff.mp h
                cases h
                have howes : ∀ d' f, db₁.owes d' f ↔
                    t.db.owes d' f ∨ (d' = d ∧ f = family) := owes_upsertOpenDebtSync hup
                refine ⟨⟨hfrom.debts.trans (debtsOnly_upsertOpenDebtSync hup),
                  fun hc => by simp [InitTally.note] at hc⟩, fun f hf => ?_, ?_⟩
                · rw [InitTally.view_note, if_neg hf]
                  simp [InitTally.view, howes, hf]
                · rw [InitTally.view_note, if_pos rfl, hentry]
                  simp [howes, hdebt.2]
              · rename_i hdebt
                cases h
                have hnot : historyState result ≠ .debt := fun heq => hdebt ⟨rfl, heq⟩
                refine ⟨hnote _, hother _, ?_⟩
                rw [hself, hentry]
                simp [hnot, InitTally.view]

/-- The last that is known of a family is a result. -/
def HistorySays (db : Db) (d : ℕ) (family result : String) : Prop :=
  ∃ job, historyResultForFamilySync db d family = some (job, some result)

/-- The reasons of an init: it returns nothing, and quotes history. -/
def historyReasons (db : Db) (d : ℕ) : Reasons where
  ok := fun _ => False
  reports := HistorySays db d
  causes := HistorySays db d

/-- The entries an init wrote so far return no family, and quote history. -/
structure InitTally.Quotes (d : ℕ) (current : Dict PyDict) (db : Db) (t : InitTally) : Prop where
  tables : ∃ debts, t.db = { db with debts := debts }
  entries : ∀ f, Justified False (HistorySays db d f) (entryIn current f) (entryIn t.current f)
  traced : DebtsTraced d (historyReasons db d) db t.db

/-- Another entry that returns nothing and quotes history. -/
theorem InitTally.Quotes.note {d : ℕ} {current : Dict PyDict} {db : Db} {t : InitTally}
    {family : String} {entry : PyDict} (h : t.Quotes d current db)
    (hnew : Justified False (HistorySays db d family) [] entry) :
    (t.note false family entry).Quotes d current db := by
  refine ⟨h.tables, fun f => ?_, h.traced⟩
  have hcurrent : (t.note false family entry).current = t.current.set family entry := rfl
  rw [hcurrent, entryIn_set]
  split
  · rename_i heq
    subst heq
    refine ⟨fun hreturned => ?_, fun r hr hresult => ?_⟩
    · refine absurd (hnew.returned hreturned) ?_
      rintro (hnone | hfalse)
      · cases hnone
      · exact hfalse
    · refine .inr ((hnew.result r hr hresult).resolve_left fun hnone => ?_)
      cases hnone
  · exact h.entries f

/-- History stands for no return. -/
theorem historyState_ne_returned (result : String) : historyState result ≠ .returned := by
  rw [historyState]
  split
  · decide
  · assumption

/-- **One family of an init** gets no entry that returns it, and closes no debt. -/
theorem initFamily_quotes {d : ℕ} {now : Time} {current : Dict PyDict} {db : Db}
    {t t' : InitTally} {family : String} (hquotes : t.Quotes d current db)
    (h : initFamily d false now t family = .ok t') : t'.Quotes d current db := by
  obtain ⟨debts, hdebts⟩ := hquotes.tables
  have hhist : historyResultForFamilySync t.db d family =
      historyResultForFamilySync db d family := by rw [hdebts]; rfl
  have hunverified : Justified False (HistorySays db d family) [] (stockUnverified now) := by
    refine ⟨fun hreturned => absurd (PyVal.str.inj hreturned) (by decide), fun r _ hresult => ?_⟩
    cases hresult
  rw [initFamily] at h
  split at h
  · cases h
    exact ⟨hquotes.tables, hquotes.entries, hquotes.traced⟩
  · split at h
    · cases h
      exact hquotes.note hunverified
    · split at h
      · rename_i histJob result hres
        have hentry : Justified False (HistorySays db d family) []
            (stockEntry (historyState result) histJob result now) := by
          refine ⟨fun hreturned => ?_, fun r _ hresult => .inr ?_⟩
          · exact absurd (FamilyReturn.value_injective (PyVal.str.inj hreturned))
              (historyState_ne_returned result)
          · obtain rfl : result = r := PyVal.str.inj hresult
            exact ⟨histJob, hhist ▸ hres⟩
        dsimp only at h
        split at h
        · obtain ⟨db₁, hup, h⟩ := Except.bind_eq_ok_iff.mp h
          cases h
          obtain ⟨debts', hdebts'⟩ := upsertOpenDebtSync_eq hup
          have hnote := hquotes.note hentry
          refine ⟨⟨debts', ?_⟩, hnote.entries, hnote.traced.trans
            (debtsTraced_upsertOpenDebtSync hup ⟨histJob, hhist ▸ hres⟩)⟩
          rw [hdebts']
          change { t.db with debts := debts' } = _
          rw [hdebts]
        · cases h
          exact hquotes.note hentry
      · cases h
        exact hquotes.note hunverified

/-- When nothing is to be written, no family changes anything. -/
theorem initFamily_dryRun {d : ℕ} {now : Time} {t t' : InitTally} {family : String}
    (h : initFamily d true now t family = .ok t') : t'.current = t.current ∧ t'.db = t.db := by
  unfold initFamily at h
  split at h
  · cases h
    exact ⟨rfl, rfl⟩
  · split at h
    · cases h
      exact ⟨rfl, rfl⟩
    · split at h
      · dsimp only at h
        split at h
        · rename_i hdry
          simp at hdry
        · cases h
          exact ⟨rfl, rfl⟩
      · cases h
        exact ⟨rfl, rfl⟩

/-- How an init ended, after the states of the families were written. -/
inductive InitEnding (d : ℕ) (now : Time) (lease : Option DeviceLease) (device : Device)
    (db : Db) : InitStatus → Db → Prop
  | quiet (paid : db.openDebts d = []) (clear : ∀ f ∈ familyNames, device.inDebt f = false) :
      InitEnding d now lease device db .ok db
  | taken {l : DeviceLease} {device' : Device} {db' : Db} (free : lease = none)
      (needed : db.openDebts d ≠ [] ∨ ∃ f ∈ familyNames, device.inDebt f = true)
      (acquired : acquireDebtLeaseSync db device now = (some l, device', db')) :
      InitEnding d now lease device db .ok db'
  | conflict {db' : Db} (free : lease = none) :
      InitEnding d now lease device db .leaseConflictRetry db'
  | held {l : DeviceLease} {status : InitStatus} (held : lease = some l)
      (committed : status ≠ .leaseConflictRetry) :
      InitEnding d now lease device db status db

/-- What the families of an init may have done to a device and its database. -/
structure FamiliesInit (device : Device) (db : Db) (device' : Device) (db' : Db) : Prop where
  applied : DisarmApplied device db device' db'
  opens : ∀ f, db'.owes device.id f ↔ db.owes device.id f ∨
    (f ∈ familyNames ∧ device.currentReturnState.get? f = none ∧
      historyDebt db device.id f = true)
  marks : ∀ f ∈ familyNames, device'.inDebt f = true ↔
    db'.owes device.id f ∨ device.inDebt f = true
  complete : ∀ f ∈ familyNames, (device'.currentReturnState.get? f).isSome = true
  traced : Traced (historyReasons db device.id) device db device' db'

/-- A recomputation drops no family. -/
theorem isSome_get?_recomputeReturnState {device : Device} {f : String}
    (h : (device.currentReturnState.get? f).isSome = true) (openRows : List DeviceReturnDebt)
    (now : Time) :
    ((recomputeReturnState device openRows now).currentReturnState.get? f).isSome = true := by
  have hset : ∀ (families : List String) (current : Dict PyDict),
      (current.get? f).isSome = true → ((families.foldl (fun current family =>
        current.set family (debtEntry openRows now family ((current.get? family).getD [])))
        current).get? f).isSome = true := by
    intro families
    induction families with
    | nil => exact fun _ hc => hc
    | cons family rest ih =>
        intro current hc
        refine ih _ ?_
        rw [Dict.get?_set]
        split
        · rfl
        · exact hc
  unfold recomputeReturnState
  dsimp only
  split
  · exact h
  · exact hset _ _ h

/-- The families the platform knows are distinct. -/
theorem familyNames_nodup : (familyNames.map id).Nodup := by decide

/-- **The families of an init**, when they are to be written. -/
theorem familiesInit_of_foldlM {now : Time} {device : Device} {db : Db} {t : InitTally}
    {fs : Dict PyDict} (hget : db.devices.get? device.id = some device)
    (h : familyNames.foldlM (initFamily device.id false now)
      ⟨db, device.currentReturnState, fs, false⟩ = .ok t) :
    let device₁ := if t.changed then { device with returnState := some t.current } else device
    FamiliesInit device db (recomputeReturnState device₁ (t.db.openDebts device.id) now)
      (t.db.saveDevice (recomputeReturnState device₁ (t.db.openDebts device.id) now)) := by
  intro device₁
  have hstart : (⟨db, device.currentReturnState, fs, false⟩ : InitTally).From device.id
      device.currentReturnState db := ⟨.refl _ db, fun _ => rfl⟩
  have hfrom : t.From device.id device.currentReturnState db :=
    foldlM_invariant (I := fun t : InitTally => t.From device.id device.currentReturnState db)
      (fun hI hs => (initFamily_spec hI hs).1) hstart h
  obtain ⟨hout, hin⟩ := foldlM_at_key id (InitTally.view device.id)
    (I := fun t : InitTally => t.From device.id device.currentReturnState db)
    (R := fun f => InitEffect (historyDebt db device.id f))
    (fun hI hs => (initFamily_spec hI hs).1)
    (fun hI hs => (initFamily_spec hI hs).2.1)
    (fun hI hs => (initFamily_spec hI hs).2.2) familyNames_nodup hstart h
  rw [List.map_id] at hout
  have hquotes : t.Quotes device.id device.currentReturnState db :=
    foldlM_invariant (I := fun t : InitTally => t.Quotes device.id device.currentReturnState db)
      (fun hI hs => initFamily_quotes hI hs)
      ⟨⟨db.debts, rfl⟩, fun _ => .refl _, .of_debts rfl⟩ h
  have hstate : device₁.currentReturnState = t.current := by
    cases hc : t.changed with
    | true => simp [device₁, hc, Device.currentReturnState]
    | false => simp [device₁, hc, hfrom.idle hc]
  have hmark : ∀ f, device₁.inDebt f = marksDebt t.current f := fun f => by
    unfold Device.inDebt Device.stateOf marksDebt
    rw [hstate]
  have hrow : ∃ rs, device₁ = { device with returnState := rs } := by
    cases hc : t.changed with
    | true => exact ⟨_, by simp [device₁, hc]; rfl⟩
    | false => exact ⟨device.returnState, by simp [device₁, hc]⟩
  obtain ⟨rs, hrs⟩ := hrow
  have hid : device₁.id = device.id := by rw [hrs]
  obtain ⟨rs', hrs'⟩ := recomputeReturnState_eq device₁ (t.db.openDebts device.id) now
  have hget' : t.db.devices.get? device.id = some device := by
    obtain ⟨debts, hdebts⟩ := hfrom.debts.tables
    rw [hdebts]
    exact hget
  have hview : ∀ f, (t.view device.id f).2 =
      (marksDebt t.current f, decide (t.db.owes device.id f)) := fun _ => rfl
  have hold : ∀ f, InitTally.view device.id ⟨db, device.currentReturnState, fs, false⟩ f =
      ((device.currentReturnState.get? f).isSome, device.inDebt f,
        decide (db.owes device.id f)) := fun _ => rfl
  have hopens : ∀ f, t.db.owes device.id f ↔ db.owes device.id f ∨ (f ∈ familyNames ∧
      device.currentReturnState.get? f = none ∧ historyDebt db device.id f = true) := by
    intro f
    have hsnd : decide (t.db.owes device.id f) = (t.view device.id f).2.2 := rfl
    rw [← decide_eq_true_iff (p := t.db.owes device.id f), hsnd]
    by_cases hf : f ∈ familyNames
    · have heff := hin f hf
      unfold InitEffect at heff
      simp only [id, hold] at heff
      cases hcur : device.currentReturnState.get? f with
      | some entry =>
          rw [hcur, Option.isSome_some, if_pos rfl] at heff
          rw [heff]
          simp
      | none =>
          rw [hcur, Option.isSome_none, if_neg (by simp)] at heff
          rw [heff]
          simp [hf, or_comm]
    · rw [hout f hf, hold]
      simp [hf]
  have hcur : ∀ f, marksDebt t.current f = true →
      t.db.owes device.id f ∨ device.inDebt f = true := by
    intro f hf
    have hfst : marksDebt t.current f = (t.view device.id f).2.1 := rfl
    by_cases hknown : f ∈ familyNames
    · have heff := hin f hknown
      unfold InitEffect at heff
      simp only [id, hold] at heff
      cases hget : device.currentReturnState.get? f with
      | some entry =>
          rw [hget, Option.isSome_some, if_pos rfl] at heff
          rw [hfst, heff] at hf
          exact .inr hf
      | none =>
          rw [hget, Option.isSome_none, if_neg (by simp)] at heff
          rw [hfst, heff] at hf
          exact .inl ((hopens f).mpr (.inr ⟨hknown, hget, hf⟩))
    · rw [hfst, hout f hknown, hold] at hf
      exact .inr hf
  have hkeep : ∀ f ∈ familyNames, device.inDebt f = true → marksDebt t.current f = true := by
    intro f hknown hf
    have hfst : marksDebt t.current f = (t.view device.id f).2.1 := rfl
    have hsome : (device.currentReturnState.get? f).isSome = true := by
      by_contra hnone
      simp only [Bool.not_eq_true, Option.isSome_eq_false_iff, Option.isNone_iff_eq_none]
        at hnone
      unfold Device.inDebt Device.stateOf stateIn at hf
      rw [hnone] at hf
      cases hf
    have heff := hin f hknown
    unfold InitEffect at heff
    simp only [id, hold] at heff
    rw [hsome, if_pos rfl] at heff
    rw [hfst, heff]
    exact hf
  refine ⟨⟨⟨rs', by rw [hrs', hrs]⟩, get?_saveDevice (by rw [hrs', hrs]) hget', ?_, ?_, ?_,
    fun f hf => (hopens f).mpr (.inl hf), fun hag => ?_⟩, hopens, fun f hf => ?_, fun f hf => ?_,
    ⟨⟨rs', by rw [hrs', hrs]⟩, fun f => ?_,
      hquotes.traced.trans (.of_debts rfl)⟩⟩
  · have hframe := onlyDevice_saveDevice t.db
      (recomputeReturnState device₁ (t.db.openDebts device.id) now)
    rw [show (recomputeReturnState device₁ (t.db.openDebts device.id) now).id = device.id by
      rw [hrs', hrs]] at hframe
    exact hfrom.debts.onlyDevice.trans hframe
  · obtain ⟨debts, hdebts⟩ := hfrom.debts.tables
    rw [hdebts]
    rfl
  · obtain ⟨debts, hdebts⟩ := hfrom.debts.tables
    rw [hdebts]
    rfl
  · refine (agrees_recompute_iff t.db hid).mpr fun f hf => ?_
    rw [hid]
    rw [hmark] at hf
    rcases hcur f hf with howes | hf
    · exact howes
    · exact (hopens f).mpr (.inl ((hag f).mp hf))
  · rw [inDebt_recomputeReturnState, hmark]
    constructor
    · rintro (howes | hf')
      · exact .inl howes
      · exact hcur f hf'
    · rintro (howes | hf')
      · exact .inl howes
      · exact .inr (hkeep f hf hf')
  · refine isSome_get?_recomputeReturnState ?_ _ now
    rw [hstate]
    have hfst : (t.current.get? f).isSome = (t.view device.id f).1 := rfl
    have heff := hin f hf
    unfold InitEffect at heff
    simp only [id, hold] at heff
    rw [hfst]
    split at heff
    · rename_i hsome
      rw [heff]
      exact hsome
    · rw [heff]
  · refine Justified.trans ?_ (justified_recomputeReturnState device₁ _ now f)
    have hentry : device₁.entryOf f = entryIn t.current f := by rw [Device.entryOf, hstate]
    rw [hentry]
    exact hquotes.entries f

/-- A complete return state reports a debt exactly when one of the known families is marked. -/
theorem reportsDebt_update {device : Device} (families : Dict PyDict)
    (hcomplete : ∀ f ∈ familyNames, (device.currentReturnState.get? f).isSome = true) :
    reportsDebt (families.update device.currentReturnState) = true ↔
      ∃ f ∈ familyNames, device.inDebt f = true := by
  unfold reportsDebt
  rw [List.any_eq_true]
  refine exists_congr fun f => and_congr_right fun hf => ?_
  obtain ⟨entry, hentry⟩ := Option.isSome_iff_exists.mp (hcomplete f hf)
  have hsame : stateIn (families.update device.currentReturnState) f = device.stateOf f := by
    unfold Device.stateOf stateIn
    rw [Dict.get?_update, hentry]
    rfl
  rw [hsame]
  rfl

/-- **The effect of an init**: nothing, or the families of its device were written and it
ended in one of four ways. -/
theorem initDeviceReturnSync_cases {db db' : Db} {now : Time} {d : ℕ} {dryRun : Bool}
    {summary : InitSummary}
    (h : initDeviceReturnSync db now d dryRun = .ok (summary, db')) :
    (db' = db ∧ (dryRun = true ∨
      ∀ device, db.devices.get? d = some device → device.retiredAt ≠ none)) ∨
    ∃ device device₁ db₁, dryRun = false ∧ db.devices.get? d = some device ∧
      device.retiredAt = none ∧ FamiliesInit device db device₁ db₁ ∧
      InitEnding d now (db.activeLease d) device₁ db₁ summary.status db' := by
  unfold initDeviceReturnSync at h
  cases hget : db.devices.get? d with
  | none =>
      rw [hget] at h
      cases h
      exact .inl ⟨rfl, .inr fun _ hsome => by cases hsome⟩
  | some device =>
      obtain rfl : device.id = d := Table.id_of_get? hget
      rw [hget] at h
      dsimp only at h
      split at h
      · rename_i hret
        cases h
        refine .inl ⟨rfl, .inr fun device' hsome hnone => ?_⟩
        cases hsome
        rw [hnone] at hret
        cases hret
      · rename_i hret
        have hserv : device.retiredAt = none := by simpa using hret
        obtain ⟨t, hfold, h⟩ := Except.bind_eq_ok_iff.mp h
        cases dryRun with
        | true =>
            left
            have hdb : t.db = db := by
              refine foldlM_invariant (I := fun t : InitTally => t.db = db) ?_ rfl hfold
              exact fun hI hs => (initFamily_dryRun hs).2.trans hI
            refine ⟨?_, .inl rfl⟩
            rw [← hdb]
            simp only [if_true] at h
            split at h
            · split at h
              · cases h
                rfl
              · split at h
                · cases h
                  rfl
                · cases h
                  rfl
            · cases h
              rfl
        | false =>
            right
            have hinit := familiesInit_of_foldlM hget hfold
            simp only [Bool.false_eq_true, if_false, Bool.not_false, Bool.true_and] at h hinit
            generalize hdev : recomputeReturnState
              (if t.changed = true then { device with returnState := some t.current }
                else device) (t.db.openDebts device.id) now = device₁ at h hinit
            have hopen : (t.db.saveDevice device₁).openDebts device.id =
                t.db.openDebts device.id := rfl
            have hlease : (t.db.saveDevice device₁).activeLease device.id =
                db.activeLease device.id := by
              unfold Db.activeLease
              rw [hinit.applied.leases]
            refine ⟨device, device₁, t.db.saveDevice device₁, rfl, rfl, hserv, hinit, ?_⟩
            rw [hlease] at h
            have hreport := reportsDebt_update t.families hinit.complete
            split at h
            · rename_i hneed
              have hneeded : (t.db.saveDevice device₁).openDebts device.id ≠ [] ∨
                  ∃ f ∈ familyNames, device₁.inDebt f = true := by
                rw [Bool.or_eq_true, Bool.not_eq_true', List.isEmpty_eq_false_iff] at hneed
                exact hneed.imp id hreport.mp
              cases hl : db.activeLease device.id with
              | none =>
                  rw [hl] at h
                  dsimp only at h
                  split at h
                  · cases h
                    exact .conflict rfl
                  · rename_i l device' db₂ hacq
                    cases h
                    exact .taken rfl hneeded hacq
              | some l =>
                  rw [hl] at h
                  dsimp only at h
                  split at h
                  · cases h
                    exact .held rfl (by simp)
                  · cases h
                    exact .held rfl (by simp)
            · rename_i hneed
              cases h
              simp only [Bool.or_eq_true, not_or, Bool.not_eq_true, Bool.not_eq_false',
                List.isEmpty_iff] at hneed
              refine .quiet hneed.1 fun f hf => ?_
              by_contra hmark
              have htrue := hreport.mpr ⟨f, hf, by simpa using hmark⟩
              rw [hneed.2] at htrue
              cases htrue

/-! ### Retirement -/

/-- Releasing the debt lease of a device that retires touches its device's lease only. -/
theorem releaseDebtLeaseForRetirementSync_spec (db : Db) (device : Device) (now : Time) :
    (∃ leases, (releaseDebtLeaseForRetirementSync db device now).2 =
      { db with leases := leases }) ∧
    OnlyDevice device.id db (releaseDebtLeaseForRetirementSync db device now).2 ∧
    (db.Exclusive → (releaseDebtLeaseForRetirementSync db device now).2.activeLease device.id =
      if isDebtLease (db.activeLease device.id) then none else db.activeLease device.id) := by
  unfold releaseDebtLeaseForRetirementSync
  cases hl : db.activeLease device.id with
  | none => exact ⟨⟨db.leases, rfl⟩, .refl _ db, fun _ => by simp [hl]⟩
  | some l =>
      cases hdebt : isDebtLease (some l) with
      | false =>
          simp only [hdebt, Bool.false_eq_true, if_false]
          exact ⟨⟨db.leases, rfl⟩, .refl _ db, fun _ => hl⟩
      | true =>
          simp only [hdebt, if_true]
          refine ⟨⟨_, rfl⟩, onlyDevice_saveLease hl rfl rfl, fun hex => ?_⟩
          exact activeLease_saveLease hex hl (show (l.release now).id = l.id from rfl) rfl

/-- **The effect of retiring**: nothing, or the device is out of service, its debt lease is
released, and its marks and debts are as they were. -/
theorem retireDevice_cases {db db' : Db} {now now' : Time} {d : ℕ} {reason : String}
    {actor : Option String} {result : Device}
    (h : retireDevice db now now' d reason actor = .ok (result, db')) :
    db' = db ∨ ∃ device, db.devices.get? d = some device ∧ device.retiredAt = none ∧
      result.id = device.id ∧ result.retiredAt = some now' ∧
      result.returnState = device.returnState ∧
      db' = (releaseDebtLeaseForRetirementSync db device now).2.saveDevice result := by
  unfold retireDevice at h
  split at h
  · cases h
  · rename_i device hget
    split at h
    · cases h
      exact .inl rfl
    · rename_i hret
      obtain ⟨-, -, h⟩ := Except.bind_eq_ok_iff.mp h
      cases h
      exact .inr ⟨device, hget, by simpa using hret, rfl, rfl, rfl, rfl⟩

/-- **The effect of taking back into service**: nothing, or the device is in service, and it
tried to take a debt lease when it owes something. -/
theorem unretireDevice_cases {db db' : Db} {now : Time} {d : ℕ} {result : Device}
    (h : unretireDevice db now d = .ok (result, db')) :
    db' = db ∨ ∃ device device₁, db.devices.get? d = some device ∧
      device₁ = { device with retiredAt := none, retireAlertedAt := none } ∧
      ((db.openDebts d = [] ∧ db' = db.saveDevice device₁) ∨
        (db.openDebts d ≠ [] ∧ ∃ acquired,
          DebtLeaseTaken device₁ (db.saveDevice device₁) acquired result db')) := by
  unfold unretireDevice at h
  split at h
  · cases h
  · rename_i device hget
    obtain rfl : device.id = d := Table.id_of_get? hget
    split at h
    · cases h
      exact .inl rfl
    · right
      refine ⟨device, _, hget, rfl, ?_⟩
      generalize hdevice₁ : ({ device with retiredAt := none, retireAlertedAt := none } : Device) =
        device₁ at h ⊢
      have hid : device₁.id = device.id := by rw [← hdevice₁]
      have hopens : (db.saveDevice device₁).openDebts device₁.id = db.openDebts device.id := by
        rw [hid]
        rfl
      dsimp only [restoreDebtLeaseOnUnretireSync] at h
      rw [hopens] at h
      cases hopen : db.openDebts device.id with
      | nil =>
          rw [hopen] at h
          cases h
          exact .inl ⟨rfl, rfl⟩
      | cons r rest =>
          rw [hopen] at h
          cases h
          exact .inr ⟨by simp, _, debtLeaseTaken_of_acquire
            (hid ▸ get?_saveDevice hid hget) rfl⟩

end StabilityPlatform
