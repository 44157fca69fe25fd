import StabilityPlatform.DeviceReturn.Effects

/-!
# The release of a job's lease, specified

What the disarm results of a job do to a device and its debts, and the five ways a release
can end: the lease is converted, a debt lease is kept, another lease is kept, a debt lease
is taken, or the job's lease is released.

## Main results

* `applyJobDisarmToDebtSync_applied`: the effect of the disarm results.
* `handleJobLeaseReleaseSync_cases`: **the five endings** of a release.
* `onlyDevice_handleJobLeaseReleaseSync`: a release touches its device only.
-/

namespace StabilityPlatform

open Lib

/-! ### Disarm results -/

/-- What applying disarm results may have done to a device and its database. -/
structure DisarmApplied (device : Device) (db : Db) (device' : Device) (db' : Db) : Prop where
  row : ∃ rs, device' = { device with returnState := rs }
  saved : db'.devices.get? device.id = some device'
  frame : OnlyDevice device.id db db'
  leases : db'.leases = db.leases
  jobs : db'.jobs = db.jobs
  owes : ∀ f, db.owes device.id f → db'.owes device.id f
  agrees : Agrees device db → Agrees device' db'

/-- Nothing was applied. -/
theorem DisarmApplied.refl {device : Device} {db : Db}
    (hget : db.devices.get? device.id = some device) : DisarmApplied device db device db :=
  ⟨⟨device.returnState, rfl⟩, hget, .refl _ db, rfl, rfl, fun _ => id, id⟩

/-- What one reported result did: its debt was written before its mark needs it. -/
theorem applyFamilyResultSync_spec {job : JobInstance} {token : Option String} {now : Time}
    {acc acc' : Device × Db} {item : String × PyDict}
    (h : applyFamilyResultSync job token now acc item = .ok acc') :
    (∃ rs, acc'.1 = { acc.1 with returnState := rs }) ∧ DebtsOnly acc.1.id acc.2 acc'.2 ∧
      (∀ f, acc.2.owes acc.1.id f → acc'.2.owes acc.1.id f) ∧
      (Covered acc.1 acc.2 → Covered acc'.1 acc'.2) := by
  obtain ⟨device, db⟩ := acc
  unfold applyFamilyResultSync at h
  dsimp only at h
  have hextra : ∀ p ∈ ([("job_id", .int job.id), ("disarm_result", .str (resultOf item.2))] :
      PyDict), p.1 ≠ "state" := by simp
  split at h
  · rename_i hdebt
    obtain ⟨db', hup, hret⟩ := Except.bind_eq_ok_iff.mp h
    cases hret
    have howes := owes_upsertOpenDebtSync hup
    refine ⟨⟨_, rfl⟩, debtsOnly_upsertOpenDebtSync hup, fun f hf => ?_, fun hcov f hf => ?_⟩
    · exact (howes _ f).mpr (.inl hf)
    · rw [inDebt_setFamilyReturnState _ _ _ _ _ _ hextra] at hf
      refine (howes _ f).mpr ?_
      split at hf
      · rename_i heq
        exact .inr ⟨rfl, heq⟩
      · exact .inl (hcov f hf)
  · rename_i hdebt
    cases h
    refine ⟨⟨_, rfl⟩, .refl _ db, fun _ => id, fun hcov f hf => ?_⟩
    rw [inDebt_setFamilyReturnState _ _ _ _ _ _ hextra] at hf
    split at hf
    · exact absurd (of_decide_eq_true hf) hdebt
    · exact hcov f hf

/-- **Disarm results** add debts of the device, mark its families, and leave the rest. -/
theorem applyJobDisarmToDebtSync_applied {db db' : Db} {device device' : Device}
    {job : JobInstance} {token : Option String} {now : Time} {count : ℕ}
    (hget : db.devices.get? device.id = some device)
    (h : applyJobDisarmToDebtSync db device job token now = .ok (device', db', count)) :
    DisarmApplied device db device' db' := by
  unfold applyJobDisarmToDebtSync at h
  obtain ⟨⟨device₁, db₁⟩, hfold, hret⟩ := Except.bind_eq_ok_iff.mp h
  cases hret
  have hinv : (∃ rs, device₁ = { device with returnState := rs }) ∧ DebtsOnly device.id db db₁ ∧
      (∀ f, db.owes device.id f → db₁.owes device.id f) ∧
      (Covered device db → Covered device₁ db₁) := by
    refine foldlM_invariant (I := fun acc : Device × Db =>
      (∃ rs, acc.1 = { device with returnState := rs }) ∧ DebtsOnly device.id db acc.2 ∧
        (∀ f, db.owes device.id f → acc.2.owes device.id f) ∧
        (Covered device db → Covered acc.1 acc.2)) ?_
      ⟨⟨device.returnState, rfl⟩, .refl _ db, fun _ => id, id⟩ hfold
    rintro ⟨dev, mid⟩ item ⟨dev', mid'⟩ ⟨⟨rs, rfl⟩, honly, howes, hcov⟩ hstep
    obtain ⟨⟨rs', hrs'⟩, honly', howes', hcov'⟩ := applyFamilyResultSync_spec hstep
    exact ⟨⟨rs', hrs'⟩, honly.trans honly', fun f hf => howes' f (howes f hf),
      fun hc => hcov' (hcov hc)⟩
  obtain ⟨⟨rs, rfl⟩, honly, howes, hcov⟩ := hinv
  obtain ⟨rs', hrs'⟩ := recomputeReturnState_eq { device with returnState := rs }
    (db₁.openDebts device.id) now
  have hget' : db₁.devices.get? device.id = some device := by
    obtain ⟨debts, rfl⟩ := honly.tables
    exact hget
  refine ⟨⟨rs', hrs'⟩, get?_saveDevice (by rw [hrs']) hget', ?_, ?_, ?_, howes, ?_⟩
  · have hframe := onlyDevice_saveDevice db₁ (recomputeReturnState
      { device with returnState := rs } (db₁.openDebts device.id) now)
    rw [show (recomputeReturnState { device with returnState := rs }
      (db₁.openDebts device.id) now).id = device.id by rw [hrs']] at hframe
    exact honly.onlyDevice.trans hframe
  · obtain ⟨debts, rfl⟩ := honly.tables
    rfl
  · obtain ⟨debts, rfl⟩ := honly.tables
    rfl
  · intro hag
    exact (agrees_recompute_iff db₁ rfl).mpr (hcov hag.covered)

/-- Disarm results in their savepoint are applied in full or not at all. -/
theorem disarmInSavepointSync_applied {db db' : Db} {device device' : Device}
    {job : Option JobInstance} {token : Option String} {now : Time}
    (hget : db.devices.get? device.id = some device)
    (h : disarmInSavepointSync db device job token now = .ok (device', db')) :
    DisarmApplied device db device' db' := by
  unfold disarmInSavepointSync at h
  split at h
  · cases h
    exact .refl hget
  · split at h
    · rename_i hok
      cases h
      exact applyJobDisarmToDebtSync_applied hget hok
    · cases h
      exact .refl hget
    · cases h

/-! ### The release -/

/-- How a release ended, after the disarm results were applied. -/
inductive ReleaseEnding (d jobId : ℕ) (now now' : Time) (lease : Option DeviceLease)
    (device : Device) (db : Db) : Db → Prop
  | converted {l : DeviceLease} {hostId : String} (owed : db.openDebts d ≠ [])
      (held : lease = some l) (job : l.leaseType = .job) (own : l.jobId = some jobId)
      (host : device.hostId = some hostId) :
      ReleaseEnding d jobId now now' lease device db
        ((db.saveDevice device.bump).saveLease (l.toDebt device.bump hostId now))
  | kept {l : DeviceLease} (owed : db.openDebts d ≠ []) (held : lease = some l)
      (debt : isDebtLease (some l) = true) :
      ReleaseEnding d jobId now now' lease device db db
  | other {l : DeviceLease} (owed : db.openDebts d ≠ []) (held : lease = some l)
      (notOwn : ¬ (l.leaseType = .job ∧ l.jobId = some jobId)) :
      ReleaseEnding d jobId now now' lease device db (releaseJobLeaseSync db now' d jobId).2
  | taken (owed : db.openDebts d ≠ []) (free : lease = none) :
      ReleaseEnding d jobId now now' lease device db (acquireDebtLeaseSync db device now).2.2
  | released (paid : db.openDebts d = []) :
      ReleaseEnding d jobId now now' lease device db (releaseJobLeaseSync db now' d jobId).2

/-- **The five endings.** A release finds no device and does nothing, or it applies the
disarm results, in full or not at all, and ends in one of five ways. -/
theorem handleJobLeaseReleaseSync_cases {db db' : Db} {now now' : Time} {d jobId : ℕ}
    {job : Option JobInstance} {outcome : LeaseOutcome}
    (h : handleJobLeaseReleaseSync db now now' d jobId job = .ok (outcome, db')) :
    (db.devices.get? d = none ∧ db' = db) ∨
      ∃ device device₁ db₁, db.devices.get? d = some device ∧
        DisarmApplied device db device₁ db₁ ∧
        ReleaseEnding d jobId now now' (db.activeLease d) device₁ db₁ db' := by
  unfold handleJobLeaseReleaseSync at h
  cases hget : db.devices.get? d with
  | none =>
      rw [hget] at h
      cases h
      exact .inl ⟨rfl, rfl⟩
  | some device =>
      right
      have hid : device.id = d := Table.id_of_get? hget
      rw [hget] at h
      dsimp only at h
      obtain ⟨⟨device₁, db₁⟩, happly, hend⟩ := Except.bind_eq_ok_iff.mp h
      refine ⟨device, device₁, db₁, rfl, disarmInSavepointSync_applied (hid ▸ hget) happly, ?_⟩
      dsimp only at hend
      split at hend
      · rename_i hpos
        have howed : db₁.openDebts d ≠ [] := List.length_pos_iff.mp hpos
        cases hlease : db.activeLease d with
        | none =>
            rw [hlease] at hend
            cases hend
            exact .taken howed rfl
        | some l =>
            rw [hlease] at hend
            dsimp only at hend
            split at hend
            · rename_i hown
              obtain ⟨⟨l', db₂⟩, hconv, hret⟩ := Except.bind_eq_ok_iff.mp hend
              cases hret
              unfold convertActiveJobToDebtLeaseSync at hconv
              dsimp only at hconv
              split at hconv
              · cases hconv
              · rename_i hostId hhost
                cases hconv
                exact .converted howed rfl hown.1 hown.2 hhost
            · rename_i hown
              split at hend
              · rename_i hdebt
                cases hend
                exact .kept howed rfl hdebt
              · cases hend
                exact .other howed rfl hown
      · rename_i hpos
        cases hend
        refine .released ?_
        exact List.eq_nil_of_length_eq_zero (by omega)

/-- What taking a debt lease did to a device and its database. -/
structure DebtLeaseTaken (device : Device) (db : Db) (acquired : Option DeviceLease)
    (device' : Device) (db' : Db) : Prop where
  row : device' = device ∨ device' = device.bump
  saved : db'.devices.get? device.id = some device'
  frame : OnlyDevice device.id db db'
  debts : db'.debts = db.debts
  taken : ∀ l, acquired = some l → db.activeLease device.id = none ∧
    db'.activeLease device.id = some l ∧ isDebtLease (some l) = true
  left : acquired = none → db'.activeLease device.id = db.activeLease device.id ∧
    (device.canCarry = true → (db.activeLease device.id).isSome = true)

/-- **Taking a debt lease**: with it the device has a debt lease; without it the device had
an active lease already, or cannot carry one. -/
theorem debtLeaseTaken_of_acquire {db db' : Db} {device device' : Device} {now : Time}
    {acquired : Option DeviceLease} (hget : db.devices.get? device.id = some device)
    (h : acquireDebtLeaseSync db device now = (acquired, device', db')) :
    DebtLeaseTaken device db acquired device' db' := by
  have hbump : OnlyDevice device.id db (db.saveDevice device.bump) :=
    onlyDevice_saveDevice db device.bump
  have hsaved : (db.saveDevice device.bump).devices.get? device.id = some device.bump :=
    get?_saveDevice rfl hget
  cases acquired with
  | some l =>
      obtain ⟨hostId, -, -, -, hfree, rfl, rfl, rfl⟩ := acquireDebtLeaseSync_eq_some h
      refine ⟨.inr rfl, hsaved, hbump.trans (onlyDevice_insertLease
        (db.saveDevice device.bump) (fun _ => rfl) rfl rfl hfree), rfl, ?_,
        fun hc => by cases hc⟩
      intro l hl
      cases hl
      exact ⟨hfree, activeLease_insertLease (db.saveDevice device.bump) (fun _ => rfl)
        rfl rfl hfree, rfl⟩
  | none =>
      rcases acquireDebtLeaseSync_eq_none h with ⟨rfl, rfl, hcannot⟩ | ⟨rfl, rfl, hact⟩
      · refine ⟨.inl rfl, hget, .refl _ _, rfl, fun _ hc => (by cases hc), fun _ => ⟨rfl, ?_⟩⟩
        intro hcan
        rw [hcannot] at hcan
        cases hcan
      · exact ⟨.inr rfl, hsaved, hbump, rfl, fun _ hc => (by cases hc),
          fun _ => ⟨rfl, fun _ => hact⟩⟩

/-- However a release ends, it touches its device only. -/
theorem ReleaseEnding.onlyDevice {d jobId : ℕ} {now now' : Time} {lease : Option DeviceLease}
    {device : Device} {db db' : Db} (h : ReleaseEnding d jobId now now' lease device db db')
    (hget : db.devices.get? d = some device) (hlease : lease = db.activeLease d) :
    OnlyDevice d db db' := by
  obtain rfl : device.id = d := Table.id_of_get? hget
  cases h with
  | converted owed held job own host =>
      refine (onlyDevice_saveDevice db device.bump).trans
        (onlyDevice_saveLease (hlease.symm.trans held) rfl rfl)
  | kept owed held debt => exact .refl _ _
  | other owed held notOwn => exact onlyDevice_releaseJobLeaseSync db now' device.id jobId
  | taken owed free => exact (debtLeaseTaken_of_acquire hget rfl).frame
  | released paid => exact onlyDevice_releaseJobLeaseSync db now' device.id jobId

/-- **A release** touches its device only. -/
theorem onlyDevice_handleJobLeaseReleaseSync {db db' : Db} {now now' : Time} {d jobId : ℕ}
    {job : Option JobInstance} {outcome : LeaseOutcome}
    (h : handleJobLeaseReleaseSync db now now' d jobId job = .ok (outcome, db')) :
    OnlyDevice d db db' := by
  rcases handleJobLeaseReleaseSync_cases h with ⟨-, rfl⟩ |
    ⟨device, device₁, db₁, hget, happlied, hend⟩
  · exact .refl _ _
  · have hid : device.id = d := Table.id_of_get? hget
    have hlease : db.activeLease d = db₁.activeLease d := by
      unfold Db.activeLease
      rw [happlied.leases]
    exact (hid ▸ happlied.frame).trans (hend.onlyDevice (hid ▸ happlied.saved) hlease)

end StabilityPlatform
