import StabilityPlatform.DeviceReturn.Operations

/-!
# Marks and debts agree

The return state of a device marks a family as in debt exactly when a debt of that family is
open. Every operation keeps the two in agreement but for two payloads: a discharge report
that means debt for a family the device does not owe, which marks the family without opening
a debt, and an override of a family the platform does not know, which closes a debt without
unmarking the family.

## Main results

* `debtAgreement_iff`: **agreement in every state of a run** is exactly that condition on
  its steps.
* `discharge_without_debt`: a run in which a discharge breaks the agreement.
-/

namespace StabilityPlatform

open Lib

/-- A device agrees in a database. -/
def AgreesAt (d : ℕ) (db : Db) : Prop :=
  ∀ device, db.devices.get? d = some device → Agrees device db

/-- **Agreement.** For every device and every family, the mark in the return state is there
exactly when an open debt is. -/
def DebtAgreement (db : Db) : Prop :=
  ∀ device ∈ db.devices.rows, ∀ family,
    device.stateOf family = .str FamilyReturn.debt.value ↔
      ∃ r ∈ db.debts.rows, r.deviceId = device.id ∧ r.family = family ∧ r.state = .opened

/-- Agreement, device by device. -/
theorem debtAgreement_iff_agreesAt {db : Db} : DebtAgreement db ↔ ∀ d, AgreesAt d db := by
  have hmark : ∀ (device : Device) (f : String), device.inDebt f = true ↔
      device.stateOf f = .str FamilyReturn.debt.value := fun _ _ => isOneOf_singleton
  have howes : ∀ (d : ℕ) (f : String), db.owes d f ↔
      ∃ r ∈ db.debts.rows, r.deviceId = d ∧ r.family = f ∧ r.state = .opened := by
    intro d f
    constructor
    · rintro ⟨r, hr, hrf⟩
      obtain ⟨hr, hrd, hro⟩ := mem_openDebts.mp hr
      exact ⟨r, hr, hrd, hrf, hro⟩
    · rintro ⟨r, hr, hrd, hrf, hro⟩
      exact ⟨r, mem_openDebts.mpr ⟨hr, hrd, hro⟩, hrf⟩
  constructor
  · intro h d device hget f
    rw [hmark, howes]
    exact h device (Table.mem_of_get? hget) f
  · intro h device hmem f
    rw [← hmark, ← howes]
    exact h device.id device (Table.get?_eq_some_iff.mpr ⟨hmem, rfl⟩) f

/-- An operation on one device keeps the others in agreement. -/
theorem debtAgreement_iff_of_onlyDevice {d : ℕ} {db db' : Db} (hframe : OnlyDevice d db db')
    (h : DebtAgreement db) : DebtAgreement db' ↔ AgreesAt d db' := by
  rw [debtAgreement_iff_agreesAt] at h ⊢
  refine ⟨fun h' => h' d, fun hd d' => ?_⟩
  by_cases hne : d' = d
  · exact hne ▸ hd
  · intro device hget f
    have hid : device.id = d' := Table.id_of_get? hget
    rw [hframe.devices d' hne] at hget
    rw [h d' device hget f, hid]
    exact (hframe.owes d' hne f).symm

/-- A device read from a database in agreement agrees. -/
theorem DebtAgreement.agrees {db : Db} (h : DebtAgreement db) {d : ℕ} {device : Device}
    (hget : db.devices.get? d = some device) : Agrees device db :=
  debtAgreement_iff_agreesAt.mp h d device hget

/-- A device that was written agrees when its row does. -/
theorem agreesAt_of_get? {d : ℕ} {db : Db} {device : Device}
    (hget : db.devices.get? d = some device) : AgreesAt d db ↔ Agrees device db := by
  constructor
  · exact fun h => h device hget
  · intro h device' hget'
    rw [hget] at hget'
    cases hget'
    exact h

/-- Agreement is about the key and the return state of a device, and the debts. -/
theorem agrees_congr {device device' : Device} {db db' : Db} (hid : device'.id = device.id)
    (hstate : device'.returnState = device.returnState) (hdebts : db'.debts = db.debts) :
    Agrees device' db' ↔ Agrees device db := by
  have hmark : ∀ f, device'.inDebt f = device.inDebt f := fun f => by
    unfold Device.inDebt Device.stateOf Device.currentReturnState
    rw [hstate]
  have howes : ∀ f, db'.owes device'.id f ↔ db.owes device.id f := fun f => by
    unfold Db.owes Db.openDebts
    rw [hid, hdebts]
  exact forall_congr' fun f => by rw [hmark, howes]

/-! ### One operation -/

/-- Taking a debt lease keeps a device in agreement. -/
theorem DebtLeaseTaken.agreesAt {device device' : Device} {db db' : Db}
    {acquired : Option DeviceLease} (h : DebtLeaseTaken device db acquired device' db')
    (hag : Agrees device db) : AgreesAt device.id db' := by
  refine (agreesAt_of_get? h.saved).mpr ?_
  rcases h.row with rfl | rfl
  · exact (agrees_congr rfl rfl h.debts).mpr hag
  · exact (agrees_congr (show device.bump.id = device.id from rfl) rfl h.debts).mpr hag

/-- However a release ended, a device in agreement stays in agreement. -/
theorem ReleaseEnding.agreesAt {d jobId : ℕ} {now now' : Time} {lease : Option DeviceLease}
    {device : Device} {db db' : Db} (h : ReleaseEnding d jobId now now' lease device db db')
    (hget : db.devices.get? d = some device) (hag : Agrees device db) : AgreesAt d db' := by
  obtain rfl : device.id = d := Table.id_of_get? hget
  cases h with
  | converted owed held job own host =>
      have hget' : (db.saveDevice device.bump).devices.get? device.id = some device.bump :=
        get?_saveDevice rfl hget
      exact (agreesAt_of_get? hget').mpr ((agrees_congr rfl rfl rfl).mpr hag)
  | kept owed held debt => exact (agreesAt_of_get? hget).mpr hag
  | other owed held notOwn =>
      exact (agreesAt_of_get? hget).mpr ((agrees_congr rfl rfl rfl).mpr hag)
  | released paid => exact (agreesAt_of_get? hget).mpr ((agrees_congr rfl rfl rfl).mpr hag)
  | taken owed free => exact (debtLeaseTaken_of_acquire hget rfl).agreesAt hag

/-- A release keeps the agreement. -/
theorem debtAgreement_handleJobLeaseReleaseSync {db db' : Db} {now now' : Time} {d jobId : ℕ}
    {job : Option JobInstance} {outcome : LeaseOutcome} (hag : DebtAgreement db)
    (h : handleJobLeaseReleaseSync db now now' d jobId job = .ok (outcome, db')) :
    DebtAgreement db' := by
  rw [debtAgreement_iff_of_onlyDevice (onlyDevice_handleJobLeaseReleaseSync h) hag]
  rcases handleJobLeaseReleaseSync_cases h with ⟨-, rfl⟩ |
    ⟨device, device₁, db₁, hget, happlied, hend⟩
  · exact debtAgreement_iff_agreesAt.mp hag d
  · obtain rfl : device.id = d := Table.id_of_get? hget
    exact hend.agreesAt happlied.saved (happlied.agrees (hag.agrees hget))

/-- A settled device agrees exactly when its marks were covered. -/
theorem Settled.agreesAt_iff {device : Device} {db db' : Db} (h : Settled device db db') :
    AgreesAt device.id db' ↔ Covered device db := by
  obtain ⟨rs, hget, hiff⟩ := h.saved
  exact (agreesAt_of_get? hget).trans hiff

/-- However an init ended, a device in agreement stays in agreement. -/
theorem InitEnding.agreesAt {d : ℕ} {now : Time} {lease : Option DeviceLease} {device : Device}
    {db db' : Db} {status : InitStatus} (h : InitEnding d now lease device db status db')
    (hget : db.devices.get? d = some device) (hag : Agrees device db)
    (hcommitted : status ≠ .leaseConflictRetry) : OnlyDevice d db db' ∧ AgreesAt d db' := by
  obtain rfl : device.id = d := Table.id_of_get? hget
  cases h with
  | quiet paid clear => exact ⟨.refl _ _, (agreesAt_of_get? hget).mpr hag⟩
  | conflict free => exact absurd rfl hcommitted
  | held held committed => exact ⟨.refl _ _, (agreesAt_of_get? hget).mpr hag⟩
  | taken free needed acquired =>
      have htaken := debtLeaseTaken_of_acquire hget acquired
      exact ⟨htaken.frame, htaken.agreesAt hag⟩

section Steps

variable (manifestPackageSha : String → String → Option String)

/-- When an operation keeps the agreement: a discharge that is let in means debt only for
families the device owes, and an override names no unknown family that is owed. -/
def ReturnOp.coversMarks (db : Db) : ReturnOp → Bool
  | .discharge _ d token results => (db.devices.get? d).all fun device =>
    !holdsDebtToken db d token || DischargeCovered manifestPackageSha device db results
  | .override _ d families _ _ => (db.devices.get? d).all fun device =>
    OverrideCovered device db families
  | _ => true

end Steps

section Agreement

variable {manifestPackageSha : String → String → Option String}

/-- A discharge keeps the agreement exactly when its accepted entries mean debt only for
families the device owes. -/
theorem debtAgreement_applyDischargeSync_iff {db db' : Db} {now : Time} {d : ℕ}
    {token : String} {results : Dict PyDict} {reply : Reply DischargeOutcome}
    (hag : DebtAgreement db)
    (h : applyDischargeSync manifestPackageSha db now d token results = .ok (reply, db')) :
    DebtAgreement db' ↔
      (ReturnOp.discharge now d token results).coversMarks manifestPackageSha db = true := by
  rw [ReturnOp.coversMarks]
  rcases applyDischargeSync_cases h with ⟨rfl, hok⟩ |
    ⟨device, t, hget, htoken, hfrom, hsettled, hcov⟩
  · refine ⟨fun _ => ?_, fun _ => hag⟩
    cases hget : db'.devices.get? d with
    | none => rfl
    | some device =>
        cases htoken : holdsDebtToken db' d token with
        | false => simp
        | true => simpa using hok device hget htoken (hag.agrees hget)
  · obtain rfl : device.id = d := Table.id_of_get? hget
    obtain ⟨rs, hrs⟩ := hfrom.row
    have hid : t.device.id = device.id := by rw [hrs]
    have hframe : OnlyDevice device.id db db' :=
      hfrom.debts.onlyDevice.trans (hid ▸ hsettled.frame)
    have hat := hsettled.agreesAt_iff
    rw [hid] at hat
    rw [debtAgreement_iff_of_onlyDevice hframe hag, hat, hcov (hag.agrees hget), hget, htoken]
    simp

/-- An override keeps the agreement exactly when it names no unknown family that is owed. -/
theorem debtAgreement_applyOverrideSync_iff {db : Db} (now : Time) (d : ℕ)
    (families : Option (List String)) (reasonCategory evidenceRef : String)
    (hag : DebtAgreement db) :
    DebtAgreement (applyOverrideSync db now d families reasonCategory evidenceRef).2 ↔
      (ReturnOp.override now d families reasonCategory evidenceRef).coversMarks
        manifestPackageSha db = true := by
  rw [ReturnOp.coversMarks]
  rcases applyOverrideSync_cases db now d families reasonCategory evidenceRef with
    ⟨hnone, hsame⟩ | ⟨device, rs, mid, hget, hdebts, -, hsettled, hcov⟩
  · rw [hsame, hnone]
    exact ⟨fun _ => rfl, fun _ => hag⟩
  · obtain rfl : device.id = d := Table.id_of_get? hget
    have hframe := hdebts.onlyDevice.trans hsettled.frame
    have hat := hsettled.agreesAt_iff
    rw [debtAgreement_iff_of_onlyDevice hframe hag, hat, hcov (hag.agrees hget), hget]
    simp

/-- A late confirmation keeps the agreement. -/
theorem debtAgreement_applyLateConfirmedSync {db : Db} (now : Time) (d jobId : ℕ)
    (token : String) (families : List String) (hag : DebtAgreement db) :
    DebtAgreement (applyLateConfirmedSync db now d jobId token families).2 := by
  rcases applyLateConfirmedSync_cases db now d jobId token families with
    ⟨-, hsame⟩ | ⟨device, rs, ids, mid, hget, rfl, hids, hsettled, hcov⟩
  · rw [hsame]
    exact hag
  · obtain rfl : device.id = d := Table.id_of_get? hget
    have hdebts : DebtsOnly device.id db (db.closeRows ids .discharged now) :=
      debtsOnly_closeRows (fun i hi => (hids i hi).imp fun _ hr => ⟨hr.1, hr.2.1⟩) _ _
    have hframe := hdebts.onlyDevice.trans hsettled.frame
    rw [debtAgreement_iff_of_onlyDevice hframe hag]
    exact hsettled.agreesAt_iff.mpr (hcov (hag.agrees hget))

/-- An init check keeps the agreement. -/
theorem debtAgreement_applyInitCheckSync {db db' : Db} {now : Time} {jobId : ℕ}
    {token : String} {results : Dict PyDict} {reply : Reply InitCheckOutcome}
    (hag : DebtAgreement db)
    (h : applyInitCheckSync manifestPackageSha db now jobId token results =
      .ok (reply, db')) : DebtAgreement db' := by
  rcases applyInitCheckSync_cases h with rfl |
    ⟨job, device, lease, t, -, -, hget, -, -, hfrom, rfl⟩
  · exact hag
  · obtain ⟨rs, hrs⟩ := hfrom.row
    have hid : t.device.id = device.id := by rw [hrs]
    have hdev : device.id = job.deviceId := Table.id_of_get? hget
    obtain ⟨rs', hrs'⟩ := recomputeReturnState_eq t.device (t.db.openDebts device.id) now
    have hrow : (recomputeReturnState t.device (t.db.openDebts device.id) now).id =
        device.id := by rw [hrs', hid]
    have hget' : t.db.devices.get? device.id = some device := by
      obtain ⟨debts, hdebts⟩ := hfrom.debts.tables
      rw [hdebts, hdev]
      exact hget
    have hframe := hfrom.debts.onlyDevice.trans (hrow ▸ onlyDevice_saveDevice t.db
      (recomputeReturnState t.device (t.db.openDebts device.id) now))
    rw [debtAgreement_iff_of_onlyDevice hframe hag,
      agreesAt_of_get? (get?_saveDevice hrow hget')]
    exact (agrees_recompute_iff t.db hid).mpr
      (hfrom.covered (hag.agrees hget).covered)

/-- Acquiring a lease for a job keeps the agreement. -/
theorem debtAgreement_acquireJobLease {db db' : Db} {now : Time} {d jobId : ℕ}
    {hostId agentInstanceId : String} {reason holder : Option String} {leaseSeconds : ℤ}
    {lease : Option DeviceLease} (hag : DebtAgreement db)
    (h : acquireLease db now d hostId .job agentInstanceId (some jobId) reason holder
      leaseSeconds = .ok (lease, db')) : DebtAgreement db' := by
  rcases acquireJobLease_spec h with rfl | ⟨device, l, hget, -, hget', hframe, hdebts, -⟩
  · exact hag
  · have hrow : device.bump.id = device.id := rfl
    rw [debtAgreement_iff_of_onlyDevice hframe hag, agreesAt_of_get? hget']
    exact (agrees_congr hrow rfl hdebts).mpr (hag.agrees hget)

/-- An init that is committed keeps the agreement. -/
theorem debtAgreement_initDeviceReturnSync {db db' : Db} {now : Time} {d : ℕ} {dryRun : Bool}
    {summary : InitSummary} (hag : DebtAgreement db)
    (h : initDeviceReturnSync db now d dryRun = .ok (summary, db'))
    (hcommitted : summary.status ≠ .leaseConflictRetry) : DebtAgreement db' := by
  rcases initDeviceReturnSync_cases h with ⟨rfl, -⟩ |
    ⟨device, device₁, db₁, -, hget, -, hfam, hend⟩
  · exact hag
  · obtain rfl : device.id = d := Table.id_of_get? hget
    have happ := hfam.applied
    obtain ⟨hframe, hat⟩ := hend.agreesAt happ.saved (happ.agrees (hag.agrees hget)) hcommitted
    exact (debtAgreement_iff_of_onlyDevice (happ.frame.trans hframe) hag).mpr hat

/-- Retiring a device keeps the agreement. -/
theorem debtAgreement_retireDevice {db db' : Db} {now now' : Time} {d : ℕ} {reason : String}
    {actor : Option String} {result : Device} (hag : DebtAgreement db)
    (h : retireDevice db now now' d reason actor = .ok (result, db')) : DebtAgreement db' := by
  rcases retireDevice_cases h with rfl | ⟨device, hget, -, hid, -, hstate, rfl⟩
  · exact hag
  · obtain rfl : device.id = d := Table.id_of_get? hget
    obtain ⟨⟨leases, hleases⟩, hframe, -⟩ :=
      releaseDebtLeaseForRetirementSync_spec db device now
    rw [hleases] at hframe ⊢
    have hframe' := hframe.trans (hid ▸ onlyDevice_saveDevice { db with leases := leases } result)
    have hget' : ({ db with leases := leases } : Db).devices.get? device.id = some device := hget
    rw [debtAgreement_iff_of_onlyDevice hframe' hag,
      agreesAt_of_get? (get?_saveDevice hid hget')]
    exact (agrees_congr hid hstate rfl).mpr (hag.agrees hget)

/-- Taking a device back into service keeps the agreement. -/
theorem debtAgreement_unretireDevice {db db' : Db} {now : Time} {d : ℕ} {result : Device}
    (hag : DebtAgreement db) (h : unretireDevice db now d = .ok (result, db')) :
    DebtAgreement db' := by
  rcases unretireDevice_cases h with rfl | ⟨device, device₁, hget, hdevice₁, hend⟩
  · exact hag
  · obtain rfl : device.id = d := Table.id_of_get? hget
    have hid : device₁.id = device.id := by rw [hdevice₁]
    have hstate : device₁.returnState = device.returnState := by rw [hdevice₁]
    have hframe := onlyDevice_saveDevice db device₁
    have hag₁ : Agrees device₁ (db.saveDevice device₁) :=
      (agrees_congr hid hstate rfl).mpr (hag.agrees hget)
    rw [hid] at hframe
    rcases hend with ⟨-, rfl⟩ | ⟨-, acquired, htaken⟩
    · rw [debtAgreement_iff_of_onlyDevice hframe hag,
        agreesAt_of_get? (get?_saveDevice hid hget)]
      exact hag₁
    · rw [debtAgreement_iff_of_onlyDevice (hframe.trans (hid ▸ htaken.frame)) hag, ← hid]
      exact htaken.agreesAt hag₁

/-- **One operation** keeps the agreement exactly when it meets its condition. -/
theorem debtAgreement_step_iff {db db' : Db} {op : ReturnOp} (hag : DebtAgreement db)
    (h : ReturnStep manifestPackageSha db op db') :
    DebtAgreement db' ↔ op.coversMarks manifestPackageSha db = true := by
  have hkept : ∀ {db₁ : Db}, DebtAgreement db₁ → (DebtAgreement db₁ ↔ true = true) :=
    fun h => ⟨fun _ => rfl, fun _ => h⟩
  unfold ReturnStep commit at h
  cases op with
  | acquireJobLease now d hostId agentInstanceId jobId reason holder leaseSeconds =>
      obtain ⟨lease, h⟩ := committed_eq_some_iff.mp h
      exact hkept (debtAgreement_acquireJobLease hag h)
  | releaseSync now now' d jobId job =>
      obtain ⟨outcome, h⟩ := committed_eq_some_iff.mp h
      exact hkept (debtAgreement_handleJobLeaseReleaseSync hag h)
  | release now now' d jobId job =>
      obtain ⟨outcome, h⟩ := committed_eq_some_iff.mp h
      rw [handleJobLeaseRelease_eq_sync] at h
      exact hkept (debtAgreement_handleJobLeaseReleaseSync hag h)
  | discharge now d token results =>
      obtain ⟨reply, h⟩ := committed_eq_some_iff.mp h
      exact debtAgreement_applyDischargeSync_iff hag h
  | override now d families reasonCategory evidenceRef =>
      obtain rfl := Option.some.inj h
      exact debtAgreement_applyOverrideSync_iff now d families reasonCategory evidenceRef hag
  | lateConfirmedSync now d jobId token families =>
      obtain rfl := Option.some.inj h
      exact hkept (debtAgreement_applyLateConfirmedSync now d jobId token families hag)
  | lateConfirmed now d jobId token families =>
      obtain rfl := Option.some.inj h
      rw [applyLateConfirmed_eq_sync]
      exact hkept (debtAgreement_applyLateConfirmedSync now d jobId token families hag)
  | initCheck now jobId token results =>
      obtain ⟨reply, h⟩ := committed_eq_some_iff.mp h
      exact hkept (debtAgreement_applyInitCheckSync hag h)
  | init now d dryRun =>
      obtain ⟨summary, h, hcommitted⟩ := commitInit_eq_some_iff.mp h
      exact hkept (debtAgreement_initDeviceReturnSync hag h hcommitted)
  | retire now now' d reason actor =>
      obtain ⟨result, h⟩ := committed_eq_some_iff.mp h
      exact hkept (debtAgreement_retireDevice hag h)
  | unretire now d =>
      obtain ⟨result, h⟩ := committed_eq_some_iff.mp h
      exact hkept (debtAgreement_unretireDevice hag h)
  | elsewhere jobs traces planRuns hosts =>
      obtain rfl := Option.some.inj h
      exact hkept hag

/-! ### Runs -/

/-- **Agreement along a run.** From a state in agreement, every state of a run is in
agreement exactly when every step of the run meets its condition. -/
theorem debtAgreement_iff {db db' : Db} {tr : List (Db × ReturnOp)}
    (hrun : Run (ReturnStep manifestPackageSha) db tr db') (hstart : DebtAgreement db) :
    Holds DebtAgreement tr db' ↔ ∀ p ∈ tr, p.2.coversMarks manifestPackageSha p.1 = true :=
  hrun.invariant_iff_guard (A := fun _ => True) (fun _ _ _ => trivial)
    (fun _ hag hstep => debtAgreement_step_iff hag hstep) trivial hstart

end Agreement

/-- A device without marks and debts agrees. -/
theorem debtAgreement_plainDb (disarmResults : PyVal) : DebtAgreement (plainDb disarmResults) := by
  intro device hdevice family
  obtain rfl : device = plainDevice none 1 := List.mem_singleton.mp hdevice
  constructor
  · intro hmark
    cases hmark
  · rintro ⟨r, hr, -⟩
    exact absurd hr List.not_mem_nil

/-- The theorem at work: a job leaves its device with a debt, and the agent discharges it. -/
theorem debtAgreement_iff_discharge :
    let ops : List ReturnOp := [.acquireJobLease 0 1 "h1" "a1" 1 none none 600,
      .releaseSync 10 11 1 1 none,
      .discharge 20 1 "1:2" (Dict.empty.set "gpu" [("result", .str "failed")]),
      .override 30 1 (some ["gpu"]) "lab" "ticket"]
    ∃ db, ops.foldlM (commit fun _ _ => none)
        (plainDb (.dict [("gpu", .str "not_executed")])) = some db ∧
      Holds DebtAgreement (traceOf (commit fun _ _ => none)
        (plainDb (.dict [("gpu", .str "not_executed")])) ops) db := by
  intro ops
  obtain ⟨db, hdb⟩ : ∃ db, ops.foldlM (commit fun _ _ => none)
      (plainDb (.dict [("gpu", .str "not_executed")])) = some db :=
    Option.isSome_iff_exists.mp (by decide)
  exact ⟨db, hdb, (debtAgreement_iff (Run.of_foldlM hdb) (debtAgreement_plainDb _)).mpr
    (by decide)⟩

/-- **A mark without a debt.** A job leaves its device with a debt of the gpu family, and the
discharge that answers it reports that the power-cycle family failed, which the device does
not owe: the family is marked as in debt, and no debt of it is open. -/
theorem discharge_without_debt :
    ∃ tr db, Run (ReturnStep fun _ _ => none) (plainDb (.dict [("gpu", .str "not_executed")]))
      tr db ∧ DebtAgreement (plainDb (.dict [("gpu", .str "not_executed")])) ∧
      ¬ DebtAgreement db := by
  let ops : List ReturnOp := [.acquireJobLease 0 1 "h1" "a1" 1 none none 600,
    .releaseSync 10 11 1 1 none,
    .discharge 20 1 "1:2" (Dict.empty.set "power-cycle" [("result", .str "failed")])]
  obtain ⟨db, hdb⟩ : ∃ db, ops.foldlM (commit fun _ _ => none)
      (plainDb (.dict [("gpu", .str "not_executed")])) = some db :=
    Option.isSome_iff_exists.mp (by decide)
  have hbad : (ops.foldlM (commit fun _ _ => none)
      (plainDb (.dict [("gpu", .str "not_executed")]))).map (fun db =>
        (db.devices.get? 1).any fun device =>
          device.inDebt "power-cycle" && !decide (db.owes device.id "power-cycle")) =
      some true := by
    decide
  rw [hdb, Option.map_some, Option.some.injEq, Option.any_eq_true] at hbad
  obtain ⟨device, hget, hdevice⟩ := hbad
  rw [Bool.and_eq_true, Bool.not_eq_true', decide_eq_false_iff_not] at hdevice
  refine ⟨_, db, Run.of_foldlM hdb, debtAgreement_plainDb _, fun hag => hdevice.2 ?_⟩
  exact (hag.agrees hget "power-cycle").mp hdevice.1

end StabilityPlatform
