import StabilityPlatform.DeviceReturn.Agreement

/-!
# Debts and the debt lease

A debt lease is there only while something is owed, and a device in service that owes
something is never without a lease. Every operation keeps both, with one exception: an init
that finds a family marked as in debt takes a debt lease, whether or not a debt is open.

## Main results

* `debtLeaseInvariant_iff`: **the invariant in every state of a run** is exactly that no init
  of the run takes a lease for a mark alone.
* `init_without_debt`: a run in which an init takes one.
-/

namespace StabilityPlatform

open Lib

/-- A device in a database carries its debts: its debt lease has an open debt behind it, and
in service it has an active lease while a debt is open. -/
structure Carried (device : Device) (db : Db) : Prop where
  owed : ∀ l, db.activeLease device.id = some l → isDebtLease (some l) = true →
    db.openDebts device.id ≠ []
  held : device.retiredAt = none → db.openDebts device.id ≠ [] →
    (db.activeLease device.id).isSome = true

/-- A device that has a host, in a database, carries its debts. -/
def CarriedAt (d : ℕ) (db : Db) : Prop :=
  ∀ device, db.devices.get? d = some device → isBlank device.hostId = false → Carried device db

/-- **The debt-lease invariant.** For every device that has a host: an active debt lease
exists only while a debt is open, and out of retirement, while a debt is open, there is
exactly one active lease. -/
def DebtLeaseInvariant (db : Db) : Prop :=
  ∀ device ∈ db.devices.rows, isBlank device.hostId = false →
    (∀ l ∈ db.activeLeases device.id, isDebtLease (some l) = true →
      db.openDebts device.id ≠ []) ∧
    (device.retiredAt = none → db.openDebts device.id ≠ [] →
      (db.activeLeases device.id).length = 1)

/-- With at most one active lease a device, the invariant is about the active lease. -/
theorem debtLeaseInvariant_iff_carriedAt {db : Db} (hex : db.Exclusive) :
    DebtLeaseInvariant db ↔ ∀ d, CarriedAt d db := by
  have hmem : ∀ d l, l ∈ db.activeLeases d ↔ db.activeLease d = some l := by
    intro d l
    refine Iff.trans ?_ (Table.holder_eq_some_iff hex).symm
    simp [Db.activeLeases]
  have hone : ∀ d, (db.activeLeases d).length = 1 ↔ (db.activeLease d).isSome = true := by
    intro d
    have hle : (db.activeLeases d).length ≤ 1 := Table.length_select_le_one hex d
    have hhead : db.activeLease d = (db.activeLeases d).head? :=
      Table.first_eq_head?_select db.leases _
    rw [hhead, List.isSome_head?, ← List.length_pos_iff]
    omega
  constructor
  · intro h d device hget hhost
    obtain rfl : device.id = d := Table.id_of_get? hget
    obtain ⟨howed, hheld⟩ := h device (Table.mem_of_get? hget) hhost
    exact ⟨fun l hl => howed l ((hmem _ l).mpr hl), fun hret hopen =>
      (hone _).mp (hheld hret hopen)⟩
  · intro h device hdevice hhost
    have hc := h device.id device (Table.get?_eq_some_iff.mpr ⟨hdevice, rfl⟩) hhost
    exact ⟨fun l hl => hc.owed l ((hmem _ l).mp hl), fun hret hopen =>
      (hone _).mpr (hc.held hret hopen)⟩

/-- An operation on one device leaves the others as they carry their debts. -/
theorem carriedAt_iff_of_onlyDevice {d : ℕ} {db db' : Db} (hframe : OnlyDevice d db db')
    (hex : db.Exclusive) (h : ∀ d', CarriedAt d' db) :
    (∀ d', CarriedAt d' db') ↔ CarriedAt d db' := by
  refine ⟨fun h' => h' d, fun hd d' => ?_⟩
  by_cases hne : d' = d
  · exact hne ▸ hd
  · intro device hget hhost
    have hid : device.id = d' := Table.id_of_get? hget
    rw [hframe.devices d' hne] at hget
    have hc := h d' device hget hhost
    have hlease := hframe.leases hex d' hne
    have hopen : db'.openDebts d' = [] ↔ db.openDebts d' = [] := by
      rw [openDebts_eq_nil_iff, openDebts_eq_nil_iff]
      exact forall_congr' fun f => not_congr (hframe.owes d' hne f)
    obtain ⟨howed, hheld⟩ := hc
    rw [hid] at howed hheld
    refine ⟨?_, ?_⟩
    · rw [hid, hlease]
      exact fun l hl hdebt hnil => howed l hl hdebt (hopen.mp hnil)
    · rw [hid, hlease]
      exact fun hret hne' => hheld hret fun hnil => hne' (hopen.mpr hnil)

/-- A device that was written carries its debts when its row does. -/
theorem carriedAt_of_get? {d : ℕ} {db : Db} {device : Device}
    (hget : db.devices.get? d = some device) :
    CarriedAt d db ↔ (isBlank device.hostId = false → Carried device db) := by
  constructor
  · exact fun h => h device hget
  · intro h device' hget'
    rw [hget] at hget'
    cases hget'
    exact h

/-! ### One operation -/

/-- Something is owed exactly when some family is. -/
theorem openDebts_ne_nil_iff {db : Db} {d : ℕ} : db.openDebts d ≠ [] ↔ ∃ f, db.owes d f := by
  rw [ne_eq, openDebts_eq_nil_iff, not_forall_not]

/-- Taking a debt lease while something is owed leaves the device carrying its debts. -/
theorem DebtLeaseTaken.carriedAt {device device' : Device} {db db' : Db}
    {acquired : Option DeviceLease} (h : DebtLeaseTaken device db acquired device' db')
    (howed : db.openDebts device.id ≠ []) : CarriedAt device.id db' := by
  have hid : device'.id = device.id := by rcases h.row with rfl | rfl <;> rfl
  have hret : device'.retiredAt = device.retiredAt := by rcases h.row with rfl | rfl <;> rfl
  have hhost : device'.hostId = device.hostId := by rcases h.row with rfl | rfl <;> rfl
  have howed' : db'.openDebts device'.id ≠ [] := by
    unfold Db.openDebts
    rw [h.debts, hid]
    exact howed
  rw [carriedAt_of_get? h.saved]
  refine fun hhost' => ⟨fun _ _ _ => howed', fun hserv _ => ?_⟩
  rw [hid]
  cases acquired with
  | some l =>
      obtain ⟨-, hactive, -⟩ := h.taken l rfl
      rw [hactive]
      rfl
  | none =>
      obtain ⟨hsame, hact⟩ := h.left rfl
      rw [hsame]
      refine hact ?_
      rw [Device.canCarry, ← hret, hserv, ← hhost, hhost']
      rfl

/-- However a release ended, its device carries its debts: a debt that was opened has a lease,
and a lease that was a debt lease has a debt. -/
theorem ReleaseEnding.carriedAt {d jobId : ℕ} {now now' : Time} {lease : Option DeviceLease}
    {device : Device} {db db' : Db} (h : ReleaseEnding d jobId now now' lease device db db')
    (hget : db.devices.get? d = some device) (hex : db.Exclusive)
    (hlease : lease = db.activeLease d) (howed : isBlank device.hostId = false →
      ∀ l, db.activeLease d = some l → isDebtLease (some l) = true → db.openDebts d ≠ []) :
    CarriedAt d db' := by
  obtain rfl : device.id = d := Table.id_of_get? hget
  subst hlease
  cases h with
  | @converted l hostId owed held job own host =>
      have hbump : (db.saveDevice device.bump).activeLease device.id = some l := held
      have hactive : ((db.saveDevice device.bump).saveLease
          (l.toDebt device.bump hostId now)).activeLease device.id =
          some (l.toDebt device.bump hostId now) :=
        activeLease_saveLease hex hbump (show (l.toDebt device.bump hostId now).id = l.id from rfl)
          rfl
      have hget' : ((db.saveDevice device.bump).saveLease
          (l.toDebt device.bump hostId now)).devices.get? device.id = some device.bump :=
        get?_saveDevice rfl hget
      rw [carriedAt_of_get? hget']
      refine fun _ => ⟨fun _ _ _ => owed, fun _ _ => ?_⟩
      rw [show device.bump.id = device.id from rfl, hactive]
      rfl
  | kept owed held debt =>
      rw [carriedAt_of_get? hget]
      refine fun _ => ⟨fun _ _ _ => owed, fun _ _ => ?_⟩
      rw [held]
      rfl
  | @other l owed held notOwn =>
      have hactive := activeLease_releaseJobLeaseSync hex now' device.id jobId
      have hnot : isLeaseOf device.id jobId .job l = false := by
        by_contra hl
        simp only [Bool.not_eq_false, isLeaseOf, Bool.and_eq_true, beq_iff_eq] at hl
        exact notOwn ⟨hl.1.2, hl.1.1.2⟩
      have hget' : (releaseJobLeaseSync db now' device.id jobId).2.devices.get? device.id =
          some device := hget
      rw [held, Option.filter_some_pos (by simp [hnot])] at hactive
      rw [carriedAt_of_get? hget']
      refine fun _ => ⟨fun _ _ _ => owed, fun _ _ => ?_⟩
      rw [hactive]
      rfl
  | taken owed free => exact (debtLeaseTaken_of_acquire hget rfl).carriedAt owed
  | released paid =>
      have hactive := activeLease_releaseJobLeaseSync hex now' device.id jobId
      have hget' : (releaseJobLeaseSync db now' device.id jobId).2.devices.get? device.id =
          some device := hget
      rw [carriedAt_of_get? hget']
      refine fun hhost => ⟨fun l hl hdebt => ?_, fun _ hopen => absurd paid hopen⟩
      rw [hactive, Option.filter_eq_some_iff] at hl
      exact howed hhost l hl.1 hdebt

/-- A settled device carries its debts when what is still owed was owed under a lease. -/
theorem Settled.carriedAt {device : Device} {db db' : Db} (h : Settled device db db')
    (hex : db.Exclusive) (hheld : device.retiredAt = none → db.openDebts device.id ≠ [] →
      (db.activeLease device.id).isSome = true) : CarriedAt device.id db' := by
  obtain ⟨rs, hget, -⟩ := h.saved
  have hlease := h.lease hex
  have hopen : db'.openDebts device.id ≠ [] ↔ db.openDebts device.id ≠ [] := by
    rw [openDebts_ne_nil_iff, openDebts_ne_nil_iff]
    exact exists_congr h.owes
  rw [carriedAt_of_get? hget]
  intro _
  constructor
  · intro l hl hdebt
    refine hopen.mpr fun hnil => ?_
    have hl' : db'.activeLease device.id = some l := hl
    rw [hlease] at hl'
    split at hl'
    · cases hl'
    · rename_i hnot
      rw [hl'] at hnot
      exact hnot ⟨hnil, hdebt⟩
  · intro hret howed
    have howed' := hopen.mp howed
    have hactive : db'.activeLease device.id = db.activeLease device.id := by
      rw [hlease, if_neg fun hpaid => howed' hpaid.1]
    exact (congrArg Option.isSome hactive).trans (hheld hret howed')

/-- Writes to the debts of a device leave the leases. -/
theorem DebtsOnly.activeLease {d : ℕ} {db db' : Db} (h : DebtsOnly d db db') (d' : ℕ) :
    db'.activeLease d' = db.activeLease d' := by
  obtain ⟨debts, rfl⟩ := h.tables
  rfl

/-- Writes to the debts of a device leave the leases exclusive. -/
theorem DebtsOnly.exclusive {d : ℕ} {db db' : Db} (h : DebtsOnly d db db')
    (hex : db.Exclusive) : db'.Exclusive := h.onlyDevice.exclusive hex

/-- **A release** leaves its device carrying its debts. -/
theorem carriedAt_handleJobLeaseReleaseSync {db db' : Db} {now now' : Time} {d jobId : ℕ}
    {job : Option JobInstance} {outcome : LeaseOutcome} (hex : db.Exclusive)
    (hc : CarriedAt d db)
    (h : handleJobLeaseReleaseSync db now now' d jobId job = .ok (outcome, db')) :
    CarriedAt d db' := by
  rcases handleJobLeaseReleaseSync_cases h with ⟨-, rfl⟩ |
    ⟨device, device₁, db₁, hget, happlied, hend⟩
  · exact hc
  · obtain rfl : device.id = d := Table.id_of_get? hget
    obtain ⟨rs, rfl⟩ := happlied.row
    have hlease : db.activeLease device.id = db₁.activeLease device.id := by
      unfold Db.activeLease
      rw [happlied.leases]
    refine hend.carriedAt happlied.saved (happlied.frame.exclusive hex) hlease ?_
    intro hhost l hl hdebt
    rw [← hlease] at hl
    obtain ⟨f, hf⟩ := openDebts_ne_nil_iff.mp ((hc device hget hhost).owed l hl hdebt)
    exact openDebts_ne_nil_iff.mpr ⟨f, happlied.owes f hf⟩

/-- A discharge leaves its device carrying its debts. -/
theorem carriedAt_applyDischargeSync {manifestPackageSha : String → String → Option String}
    {db db' : Db} {now : Time} {d : ℕ} {token : String} {results : Dict PyDict}
    {reply : Reply DischargeOutcome} (hex : db.Exclusive) (hc : CarriedAt d db)
    (h : applyDischargeSync manifestPackageSha db now d token results = .ok (reply, db')) :
    CarriedAt d db' ∧ OnlyDevice d db db' := by
  rcases applyDischargeSync_cases h with ⟨rfl, -⟩ |
    ⟨device, t, hget, htoken, hfrom, hsettled, -⟩
  · exact ⟨hc, .refl _ _⟩
  · obtain rfl : device.id = d := Table.id_of_get? hget
    obtain ⟨rs, hrs⟩ := hfrom.row
    have hid : t.device.id = device.id := by rw [hrs]
    have hsome : (db.activeLease device.id).isSome = true := by
      unfold holdsDebtToken at htoken
      cases hl : db.activeLease device.id with
      | none => rw [hl] at htoken; cases htoken
      | some l => rfl
    have hcarried := hsettled.carriedAt (hfrom.debts.exclusive hex) fun _ _ => by
      rw [hid, hfrom.debts.activeLease]
      exact hsome
    rw [hid] at hcarried
    exact ⟨hcarried, hfrom.debts.onlyDevice.trans (hid ▸ hsettled.frame)⟩

/-- Closing debts of a device leaves it carrying the ones that stay. -/
theorem Settled.carriedAt_of_closed {device : Device} {rs : Option (Dict PyDict)} {db mid db' : Db}
    (h : Settled { device with returnState := rs } mid db') (hex : db.Exclusive)
    (hc : CarriedAt device.id db) (hget : db.devices.get? device.id = some device)
    (hdebts : DebtsOnly device.id db mid)
    (hless : ∀ f, mid.owes device.id f → db.owes device.id f) : CarriedAt device.id db' := by
  intro device' hget' hhost
  have hhost' : isBlank device.hostId = false := by
    obtain ⟨rs', hget'', -⟩ := h.saved
    have hrow : device' = { device with returnState := rs' } :=
      Option.some.inj (hget'.symm.trans hget'')
    rw [← hhost, hrow]
  refine h.carriedAt (hdebts.exclusive hex) (fun hret howed => ?_) device' hget' hhost
  obtain ⟨f, hf⟩ := openDebts_ne_nil_iff.mp howed
  have hheld := (hc device hget hhost').held hret (openDebts_ne_nil_iff.mpr ⟨f, hless f hf⟩)
  rw [hdebts.activeLease]
  exact hheld

/-- An override leaves its device carrying its debts. -/
theorem carriedAt_applyOverrideSync {db : Db} (now : Time) (d : ℕ)
    (families : Option (List String)) (reasonCategory evidenceRef : String)
    (hex : db.Exclusive) (hc : CarriedAt d db) :
    CarriedAt d (applyOverrideSync db now d families reasonCategory evidenceRef).2 ∧
      OnlyDevice d db (applyOverrideSync db now d families reasonCategory evidenceRef).2 := by
  rcases applyOverrideSync_cases db now d families reasonCategory evidenceRef with
    ⟨-, hsame⟩ | ⟨device, rs, mid, hget, hdebts, howes, hsettled, -⟩
  · rw [hsame]
    exact ⟨hc, .refl _ _⟩
  · obtain rfl : device.id = d := Table.id_of_get? hget
    exact ⟨hsettled.carriedAt_of_closed hex hc hget hdebts fun f hf => ((howes f).mp hf).1,
      hdebts.onlyDevice.trans hsettled.frame⟩

/-- A late confirmation leaves its device carrying its debts. -/
theorem carriedAt_applyLateConfirmedSync {db : Db} (now : Time) (d jobId : ℕ)
    (token : String) (families : List String) (hex : db.Exclusive) (hc : CarriedAt d db) :
    CarriedAt d (applyLateConfirmedSync db now d jobId token families).2 ∧
      OnlyDevice d db (applyLateConfirmedSync db now d jobId token families).2 := by
  rcases applyLateConfirmedSync_cases db now d jobId token families with
    ⟨-, hsame⟩ | ⟨device, rs, ids, mid, hget, rfl, hids, hsettled, -⟩
  · rw [hsame]
    exact ⟨hc, .refl _ _⟩
  · obtain rfl : device.id = d := Table.id_of_get? hget
    have hdebts : DebtsOnly device.id db (db.closeRows ids .discharged now) :=
      debtsOnly_closeRows (fun i hi => (hids i hi).imp fun _ hr => ⟨hr.1, hr.2.1⟩) _ _
    refine ⟨hsettled.carriedAt_of_closed hex hc hget hdebts fun f hf => ?_,
      hdebts.onlyDevice.trans hsettled.frame⟩
    obtain ⟨r, hr, hrf, -⟩ := owes_closeRows.mp hf
    exact ⟨r, hr, hrf⟩

/-- An init check leaves its device carrying its debts, under the lease of the job. -/
theorem carriedAt_applyInitCheckSync {manifestPackageSha : String → String → Option String}
    {db db' : Db} {now : Time} {jobId : ℕ} {token : String} {results : Dict PyDict}
    {reply : Reply InitCheckOutcome}
    (h : applyInitCheckSync manifestPackageSha db now jobId token results =
      .ok (reply, db')) : db' = db ∨ ∃ d, CarriedAt d db' ∧ OnlyDevice d db db' := by
  rcases applyInitCheckSync_cases h with rfl |
    ⟨job, device, lease, t, -, -, hget, hlease, howner, hfrom, rfl⟩
  · exact .inl rfl
  · obtain ⟨rs, hrs⟩ := hfrom.row
    have hid : t.device.id = device.id := by rw [hrs]
    have hdev : device.id = job.deviceId := Table.id_of_get? hget
    obtain ⟨rs', hrs'⟩ := recomputeReturnState_eq t.device (t.db.openDebts device.id) now
    have hrow : (recomputeReturnState t.device (t.db.openDebts device.id) now).id =
        device.id := by rw [hrs', hid]
    have hget' : t.db.devices.get? device.id = some device := by
      obtain ⟨debts, hdebts⟩ := hfrom.debts.tables
      rw [hdebts, hdev]
      exact hget
    have hjob : isDebtLease (some lease) = false := by
      unfold isJobOwner at howner
      simp only [Bool.and_eq_true, beq_iff_eq] at howner
      rw [isDebtLease, howner.1.1.1.1.1.1]
      rfl
    have hactive : t.db.activeLease device.id = some lease :=
      (hfrom.debts.activeLease device.id).trans hlease
    have hframe := hfrom.debts.onlyDevice.trans (hrow ▸ onlyDevice_saveDevice t.db
      (recomputeReturnState t.device (t.db.openDebts device.id) now))
    refine .inr ⟨device.id, ?_, hframe⟩
    rw [carriedAt_of_get? (get?_saveDevice hrow hget')]
    refine fun _ => ⟨fun l hl hdebt => ?_, fun _ _ => ?_⟩
    · rw [hrow] at hl
      have hl' := hactive.symm.trans hl
      cases hl'
      rw [hjob] at hdebt
      cases hdebt
    · rw [hrow]
      exact (congrArg Option.isSome hactive).trans rfl

/-- Retiring a device leaves it carrying its debts. -/
theorem carriedAt_retireDevice {db db' : Db} {now now' : Time} {d : ℕ} {reason : String}
    {actor : Option String} {result : Device} (hex : db.Exclusive) (hc : CarriedAt d db)
    (h : retireDevice db now now' d reason actor = .ok (result, db')) :
    CarriedAt d db' ∧ OnlyDevice d db db' := by
  rcases retireDevice_cases h with rfl | ⟨device, hget, -, hid, hret, -, rfl⟩
  · exact ⟨hc, .refl _ _⟩
  · obtain rfl : device.id = d := Table.id_of_get? hget
    obtain ⟨⟨leases, hleases⟩, hframe, hactive⟩ :=
      releaseDebtLeaseForRetirementSync_spec db device now
    have hactive := hactive hex
    rw [hleases] at hframe hactive ⊢
    have hget' : ({ db with leases := leases } : Db).devices.get? device.id = some device := hget
    refine ⟨?_, hframe.trans (hid ▸ onlyDevice_saveDevice { db with leases := leases } result)⟩
    rw [carriedAt_of_get? (get?_saveDevice hid hget')]
    refine fun _ => ⟨fun l hl hdebt => ?_, fun hserv => ?_⟩
    · rw [hid] at hl
      have hl' := hactive.symm.trans hl
      split at hl'
      · cases hl'
      · rename_i hnot
        rw [hl'] at hnot
        exact absurd hdebt hnot
    · rw [hret] at hserv
      cases hserv

/-- Taking a device back into service leaves it carrying its debts. -/
theorem carriedAt_unretireDevice {db db' : Db} {now : Time} {d : ℕ} {result : Device}
    (hc : CarriedAt d db) (h : unretireDevice db now d = .ok (result, db')) :
    CarriedAt d db' ∧ OnlyDevice d db db' := by
  rcases unretireDevice_cases h with rfl | ⟨device, device₁, hget, hdevice₁, hend⟩
  · exact ⟨hc, .refl _ _⟩
  · obtain rfl : device.id = d := Table.id_of_get? hget
    have hid : device₁.id = device.id := by rw [hdevice₁]
    have hframe := onlyDevice_saveDevice db device₁
    rw [hid] at hframe
    rcases hend with ⟨hpaid, rfl⟩ | ⟨howed, acquired, htaken⟩
    · refine ⟨?_, hframe⟩
      rw [carriedAt_of_get? (get?_saveDevice hid hget)]
      intro hhost
      rw [hdevice₁] at hhost
      refine ⟨fun l hl hdebt => ?_, fun _ howed => ?_⟩
      · rw [hid] at hl ⊢
        exact (hc device hget hhost).owed l hl hdebt
      · rw [hid] at howed
        exact absurd hpaid howed
    · have hcarried := htaken.carriedAt (by rw [hid]; exact howed)
      rw [hid] at hcarried
      exact ⟨hcarried, hframe.trans (hid ▸ htaken.frame)⟩

/-- Acquiring a lease for a job leaves its device carrying its debts. -/
theorem carriedAt_acquireJobLease {db db' : Db} {now : Time} {d jobId : ℕ}
    {hostId agentInstanceId : String} {reason holder : Option String} {leaseSeconds : ℤ}
    {lease : Option DeviceLease} (hc : CarriedAt d db)
    (h : acquireLease db now d hostId .job agentInstanceId (some jobId) reason holder
      leaseSeconds = .ok (lease, db')) : CarriedAt d db' ∧ OnlyDevice d db db' := by
  rcases acquireJobLease_spec h with rfl | ⟨device, l, hget, -, hget', hframe, -, -, hl, hjob⟩
  · exact ⟨hc, .refl _ _⟩
  · obtain rfl : device.id = d := Table.id_of_get? hget
    refine ⟨?_, hframe⟩
    rw [carriedAt_of_get? hget']
    refine fun _ => ⟨fun l' hl' hdebt => ?_, fun _ _ => (congrArg Option.isSome hl).trans rfl⟩
    have heq := hl.symm.trans hl'
    cases heq
    rw [hjob] at hdebt
    cases hdebt

/-! ### Init -/

/-- When an init takes a debt lease for a device that owes nothing: the device can carry one
and has no lease, no debt is open and none comes from its history, and a known family is
marked as in debt all the same. -/
def orphansLease (db : Db) (d : ℕ) : Bool :=
  (db.devices.get? d).any fun device =>
    device.canCarry && (db.activeLease d).isNone && (db.openDebts d).isEmpty &&
      familyNames.all (fun f => (device.currentReturnState.get? f).isSome ||
        !historyDebt db d f) &&
      familyNames.any device.inDebt

/-- The condition in terms of the database the families of the init leave. -/
theorem FamiliesInit.orphansLease_iff {device device₁ : Device} {db db₁ : Db}
    (h : FamiliesInit device db device₁ db₁) (hget : db.devices.get? device.id = some device)
    (hserv : device.retiredAt = none) :
    orphansLease db device.id = true ↔ isBlank device.hostId = false ∧
      db.activeLease device.id = none ∧ db₁.openDebts device.id = [] ∧
      ∃ f ∈ familyNames, device₁.inDebt f = true := by
  have hnil : db₁.openDebts device.id = [] ↔ db.openDebts device.id = [] ∧
      ∀ f ∈ familyNames, ((device.currentReturnState.get? f).isSome ||
        !historyDebt db device.id f) = true := by
    rw [openDebts_eq_nil_iff, openDebts_eq_nil_iff]
    constructor
    · intro hpaid
      refine ⟨fun f hf => hpaid f ((h.opens f).mpr (.inl hf)), fun f hf => ?_⟩
      cases hstate : device.currentReturnState.get? f with
      | some entry => rfl
      | none =>
          cases hhist : historyDebt db device.id f with
          | false => rfl
          | true => exact absurd ((h.opens f).mpr (.inr ⟨hf, hstate, hhist⟩)) (hpaid f)
    · rintro ⟨hpaid, hhist⟩ f hf
      rcases (h.opens f).mp hf with howed | ⟨hknown, hstate, hdebt⟩
      · exact hpaid f howed
      · have hclear := hhist f hknown
        rw [hstate, hdebt] at hclear
        cases hclear
  have hmarks : db₁.openDebts device.id = [] → ∀ f ∈ familyNames,
      (device₁.inDebt f = true ↔ device.inDebt f = true) := fun hpaid f hf => by
    rw [h.marks f hf]
    exact or_iff_right (openDebts_eq_nil_iff.mp hpaid f)
  rw [orphansLease, hget, Option.any_some]
  simp only [Bool.and_eq_true, Device.canCarry, hserv, Option.isNone_none, Bool.true_and,
    Bool.not_eq_true', Option.isNone_iff_eq_none, List.isEmpty_iff, List.all_eq_true,
    List.any_eq_true]
  constructor
  · rintro ⟨⟨⟨⟨hhost, hfree⟩, hopen⟩, hhist⟩, f, hf, hmark⟩
    have hpaid := hnil.mpr ⟨hopen, hhist⟩
    exact ⟨hhost, hfree, hpaid, f, hf, (hmarks hpaid f hf).mpr hmark⟩
  · rintro ⟨hhost, hfree, hpaid, f, hf, hmark⟩
    obtain ⟨hopen, hhist⟩ := hnil.mp hpaid
    exact ⟨⟨⟨⟨hhost, hfree⟩, hopen⟩, hhist⟩, f, hf, (hmarks hpaid f hf).mp hmark⟩

/-- **An init** leaves its device carrying its debts exactly when it does not take a lease for
a device that owes nothing. -/
theorem carriedAt_initDeviceReturnSync_iff {db db' : Db} {now : Time} {d : ℕ} {dryRun : Bool}
    {summary : InitSummary} (hc : CarriedAt d db)
    (h : initDeviceReturnSync db now d dryRun = .ok (summary, db'))
    (hcommitted : summary.status ≠ .leaseConflictRetry) :
    (CarriedAt d db' ↔ (dryRun || !orphansLease db d) = true) ∧ OnlyDevice d db db' := by
  rw [Bool.or_eq_true, Bool.not_eq_true']
  rcases initDeviceReturnSync_cases h with ⟨rfl, hquiet⟩ |
    ⟨device, device₁, db₁, rfl, hget, hserv, hfam, hend⟩
  · refine ⟨⟨fun _ => hquiet.imp id fun hret => ?_, fun _ => hc⟩, .refl _ _⟩
    rw [orphansLease]
    cases hget : db'.devices.get? d with
    | none => rfl
    | some device =>
        have hcannot : device.canCarry = false := by
          rw [Device.canCarry, Bool.and_eq_false_iff]
          left
          rw [Option.isNone_eq_false_iff, Option.isSome_iff_ne_none]
          exact hret device hget
        simp [hcannot]
  · obtain rfl : device.id = d := Table.id_of_get? hget
    have horphan := hfam.orphansLease_iff hget hserv
    have hsaved := hfam.applied.saved
    obtain ⟨rs, hrow⟩ := hfam.applied.row
    have hhost₁ : device₁.hostId = device.hostId := by rw [hrow]
    have hid₁ : device₁.id = device.id := by rw [hrow]
    have hlease : db₁.activeLease device.id = db.activeLease device.id := by
      unfold Db.activeLease
      rw [hfam.applied.leases]
    have howed : isBlank device₁.hostId = false → ∀ l, db₁.activeLease device₁.id = some l →
        isDebtLease (some l) = true → db₁.openDebts device₁.id ≠ [] := by
      intro hhost l hl hdebt
      rw [hid₁] at hl ⊢
      obtain ⟨f, hf⟩ := openDebts_ne_nil_iff.mp
        ((hc device hget (hhost₁ ▸ hhost)).owed l (hlease ▸ hl) hdebt)
      exact openDebts_ne_nil_iff.mpr ⟨f, (hfam.opens f).mpr (.inl hf)⟩
    have hkept : ∀ {db₂ : Db}, CarriedAt device.id db₂ → orphansLease db device.id = false →
        (CarriedAt device.id db₂ ↔ false = true ∨ orphansLease db device.id = false) :=
      fun hc' hok => ⟨fun _ => .inr hok, fun _ => hc'⟩
    generalize summary.status = status at hend hcommitted
    cases hend with
    | quiet paid clear =>
        refine ⟨hkept ?_ ?_, hfam.applied.frame⟩
        · rw [carriedAt_of_get? hsaved]
          exact fun hhost => ⟨howed hhost, fun _ hopen => absurd (hid₁ ▸ paid) hopen⟩
        · rw [← Bool.not_eq_true, horphan]
          rintro ⟨-, -, -, f, hf, hmark⟩
          rw [clear f hf] at hmark
          cases hmark
    | conflict free => exact absurd rfl hcommitted
    | held held committed =>
        refine ⟨hkept ?_ ?_, hfam.applied.frame⟩
        · rw [carriedAt_of_get? hsaved]
          refine fun hhost => ⟨howed hhost, fun _ _ => ?_⟩
          rw [hid₁, hlease, held]
          rfl
        · rw [← Bool.not_eq_true, horphan, held]
          rintro ⟨-, hnone, -⟩
          cases hnone
    | @taken l device' _ free needed acquired =>
        have htaken := debtLeaseTaken_of_acquire (hid₁ ▸ hsaved) acquired
        have hframe := htaken.frame
        have hsaved' := htaken.saved
        have hcarried := htaken.carriedAt
        rw [hid₁] at hframe hsaved' hcarried
        refine ⟨?_, hfam.applied.frame.trans hframe⟩
        by_cases hopen : db₁.openDebts device.id = []
        · have horphans : orphansLease db device.id = true := by
            obtain ⟨hostId, hhost, hne, -⟩ := acquireDebtLeaseSync_eq_some acquired
            refine horphan.mpr ⟨?_, free, hopen, needed.resolve_left (not_not.mpr hopen)⟩
            rw [← hhost₁, hhost]
            simpa [isBlank] using hne
          rw [horphans]
          refine ⟨fun hc' => ?_, fun hok => by simp at hok⟩
          obtain ⟨-, hactive, hdebt⟩ := htaken.taken l rfl
          have hid' : device'.id = device.id := Table.id_of_get? hsaved'
          have hhost' : isBlank device'.hostId = false := by
            obtain ⟨hblank, -⟩ := horphan.mp horphans
            rcases htaken.row with rfl | rfl
            · rw [hhost₁, hblank]
            · exact (congrArg isBlank hhost₁).trans hblank
          have hopen' : db'.openDebts device'.id = [] := by
            unfold Db.openDebts
            rw [hid', htaken.debts]
            exact hopen
          rw [hid₁, ← hid'] at hactive
          exact absurd hopen' ((hc' device' hsaved' hhost').owed l hactive hdebt)
        · refine hkept (hcarried hopen) ?_
          rw [← Bool.not_eq_true, horphan]
          rintro ⟨-, -, hpaid, -⟩
          exact hopen hpaid

/-! ### Runs -/

/-- When an operation keeps the invariant: an init takes no debt lease for a device that owes
nothing. -/
def ReturnOp.earnsLease (db : Db) : ReturnOp → Bool
  | .init _ d dryRun => dryRun || !orphansLease db d
  | _ => true

section Runs

variable {manifestPackageSha : String → String → Option String}

/-- **One operation** touches one device at most, and leaves it carrying its debts exactly
when it meets its condition. -/
theorem carriedAt_step_iff {db db' : Db} {op : ReturnOp} (hex : db.Exclusive)
    (hc : ∀ d, CarriedAt d db) (h : ReturnStep manifestPackageSha db op db') :
    ∃ d, OnlyDevice d db db' ∧ (CarriedAt d db' ↔ op.earnsLease db = true) := by
  have hkept : ∀ {d : ℕ}, CarriedAt d db' ∧ OnlyDevice d db db' →
      ∃ d, OnlyDevice d db db' ∧ (CarriedAt d db' ↔ true = true) := fun h =>
    ⟨_, h.2, fun _ => rfl, fun _ => h.1⟩
  unfold ReturnStep commit at h
  cases op with
  | acquireJobLease now d hostId agentInstanceId jobId reason holder leaseSeconds =>
      obtain ⟨lease, h⟩ := committed_eq_some_iff.mp h
      exact hkept (carriedAt_acquireJobLease (hc d) h)
  | releaseSync now now' d jobId job =>
      obtain ⟨outcome, h⟩ := committed_eq_some_iff.mp h
      exact hkept ⟨carriedAt_handleJobLeaseReleaseSync hex (hc d) h,
        onlyDevice_handleJobLeaseReleaseSync h⟩
  | release now now' d jobId job =>
      obtain ⟨outcome, h⟩ := committed_eq_some_iff.mp h
      rw [handleJobLeaseRelease_eq_sync] at h
      exact hkept ⟨carriedAt_handleJobLeaseReleaseSync hex (hc d) h,
        onlyDevice_handleJobLeaseReleaseSync h⟩
  | discharge now d token results =>
      obtain ⟨reply, h⟩ := committed_eq_some_iff.mp h
      exact hkept (carriedAt_applyDischargeSync hex (hc d) h)
  | override now d families reasonCategory evidenceRef =>
      obtain rfl := Option.some.inj h
      exact hkept (carriedAt_applyOverrideSync now d families reasonCategory evidenceRef hex
        (hc d))
  | lateConfirmedSync now d jobId token families =>
      obtain rfl := Option.some.inj h
      exact hkept (carriedAt_applyLateConfirmedSync now d jobId token families hex (hc d))
  | lateConfirmed now d jobId token families =>
      obtain rfl := Option.some.inj h
      rw [applyLateConfirmed_eq_sync] at hkept ⊢
      exact hkept (carriedAt_applyLateConfirmedSync now d jobId token families hex (hc d))
  | initCheck now jobId token results =>
      obtain ⟨reply, h⟩ := committed_eq_some_iff.mp h
      rcases carriedAt_applyInitCheckSync h with rfl | ⟨d, hcarried⟩
      · exact hkept ⟨hc 0, .refl 0 db'⟩
      · exact hkept hcarried
  | init now d dryRun =>
      obtain ⟨summary, h, hcommitted⟩ := commitInit_eq_some_iff.mp h
      obtain ⟨hiff, hframe⟩ := carriedAt_initDeviceReturnSync_iff (hc d) h hcommitted
      exact ⟨d, hframe, hiff⟩
  | retire now now' d reason actor =>
      obtain ⟨result, h⟩ := committed_eq_some_iff.mp h
      exact hkept (carriedAt_retireDevice hex (hc d) h)
  | unretire now d =>
      obtain ⟨result, h⟩ := committed_eq_some_iff.mp h
      exact hkept (carriedAt_unretireDevice (hc d) h)
  | elsewhere jobs traces planRuns hosts =>
      obtain rfl := Option.some.inj h
      have hframe : OnlyDevice 0 db
          { db with jobs := jobs, traces := traces, planRuns := planRuns, hosts := hosts } :=
        ⟨fun _ _ => rfl, fun _ _ _ => Iff.rfl, id, fun _ _ _ => rfl⟩
      exact hkept ⟨fun device hget hhost => ⟨(hc 0 device hget hhost).owed,
        (hc 0 device hget hhost).held⟩, hframe⟩

/-- A step keeps the leases exclusive. -/
theorem ReturnStep.exclusive {db db' : Db} {op : ReturnOp} (hex : db.Exclusive)
    (hinv : DebtLeaseInvariant db) (h : ReturnStep manifestPackageSha db op db') :
    db'.Exclusive := by
  obtain ⟨d, hframe, -⟩ :=
    carriedAt_step_iff hex ((debtLeaseInvariant_iff_carriedAt hex).mp hinv) h
  exact hframe.exclusive hex

/-- One operation keeps the invariant exactly when it meets its condition. -/
theorem debtLeaseInvariant_step_iff {db db' : Db} {op : ReturnOp} (hex : db.Exclusive)
    (hinv : DebtLeaseInvariant db) (h : ReturnStep manifestPackageSha db op db') :
    DebtLeaseInvariant db' ↔ op.earnsLease db = true := by
  have hc := (debtLeaseInvariant_iff_carriedAt hex).mp hinv
  obtain ⟨d, hframe, hiff⟩ := carriedAt_step_iff hex hc h
  rw [debtLeaseInvariant_iff_carriedAt (hframe.exclusive hex),
    carriedAt_iff_of_onlyDevice hframe hex hc, hiff]

/-- A database without leases and debts meets the invariant, with exclusive leases. -/
theorem debtLeaseInvariant_of_empty {db : Db} (hleases : db.leases.rows = [])
    (hdebts : db.debts.rows = []) : db.Exclusive ∧ DebtLeaseInvariant db := by
  have hex : db.Exclusive := Table.exclusive_of_forall_off fun l hl => by
    rw [hleases] at hl
    cases hl
  refine ⟨hex, (debtLeaseInvariant_iff_carriedAt hex).mpr fun d device _ _ => ⟨?_, ?_⟩⟩
  · intro l hl
    have hmem := (Table.mem_of_holder hl).1
    rw [hleases] at hmem
    cases hmem
  · intro _ howed
    obtain ⟨f, r, hr, -⟩ := openDebts_ne_nil_iff.mp howed
    have hmem := (mem_openDebts.mp hr).1
    rw [hdebts] at hmem
    cases hmem

/-- **The invariant along a run.** In a run that starts without leases and debts, every state
meets the invariant exactly when no init takes a debt lease for a device that owes nothing. -/
theorem debtLeaseInvariant_iff {db db' : Db} {tr : List (Db × ReturnOp)}
    (hrun : Run (ReturnStep manifestPackageSha) db tr db') (hleases : db.leases.rows = [])
    (hdebts : db.debts.rows = []) :
    Holds DebtLeaseInvariant tr db' ↔ ∀ p ∈ tr, p.2.earnsLease p.1 = true := by
  obtain ⟨hex, hinv⟩ := debtLeaseInvariant_of_empty hleases hdebts
  exact hrun.invariant_iff_guard (A := Db.Exclusive)
    (fun hex hinv hstep => hstep.exclusive hex hinv)
    (fun hex hinv hstep => debtLeaseInvariant_step_iff hex hinv hstep) hex hinv

end Runs

/-- The theorem at work: a job leaves its device with a debt, the agent discharges it, and an
init finds nothing to do. -/
theorem debtLeaseInvariant_iff_discharge :
    let ops : List ReturnOp := [.acquireJobLease 0 1 "h1" "a1" 1 none none 600,
      .releaseSync 10 11 1 1 none,
      .override 30 1 (some ["gpu"]) "lab" "ticket", .init 40 1 false]
    ∃ db, ops.foldlM (commit fun _ _ => none)
        (plainDb (.dict [("gpu", .str "not_executed")])) = some db ∧
      Holds DebtLeaseInvariant (traceOf (commit fun _ _ => none)
        (plainDb (.dict [("gpu", .str "not_executed")])) ops) db := by
  intro ops
  obtain ⟨db, hdb⟩ : ∃ db, ops.foldlM (commit fun _ _ => none)
      (plainDb (.dict [("gpu", .str "not_executed")])) = some db :=
    Option.isSome_iff_exists.mp (by decide)
  exact ⟨db, hdb, (debtLeaseInvariant_iff (Run.of_foldlM hdb) rfl rfl).mpr (by decide)⟩

/-- **A debt lease without a debt.** The discharge that answers the debt of a job reports that
a family the device does not owe failed, an override closes the debt, and the init of the
device takes a debt lease for the mark that stayed. -/
theorem init_without_debt :
    ∃ tr db, Run (ReturnStep fun _ _ => none) (plainDb (.dict [("gpu", .str "not_executed")]))
      tr db ∧ ¬ DebtLeaseInvariant db := by
  let ops : List ReturnOp := [.acquireJobLease 0 1 "h1" "a1" 1 none none 600,
    .releaseSync 10 11 1 1 none,
    .discharge 20 1 "1:2" (Dict.empty.set "power-cycle" [("result", .str "failed")]),
    .override 30 1 (some ["gpu"]) "lab" "ticket", .init 40 1 false]
  obtain ⟨db, hdb⟩ : ∃ db, ops.foldlM (commit fun _ _ => none)
      (plainDb (.dict [("gpu", .str "not_executed")])) = some db :=
    Option.isSome_iff_exists.mp (by decide)
  refine ⟨_, db, Run.of_foldlM hdb, fun hinv => ?_⟩
  have hbad : (ops.foldlM (commit fun _ _ => none)
      (plainDb (.dict [("gpu", .str "not_executed")]))).map (fun db =>
        (db.devices.get? 1).any fun device => !isBlank device.hostId &&
          ((db.activeLeases device.id).any fun l => isDebtLease (some l)) &&
          (db.openDebts device.id).isEmpty) = some true := by
    decide
  rw [hdb, Option.map_some, Option.some.injEq, Option.any_eq_true] at hbad
  obtain ⟨device, hget, hdevice⟩ := hbad
  simp only [Bool.and_eq_true, Bool.not_eq_true', List.any_eq_true, List.isEmpty_iff] at hdevice
  obtain ⟨⟨hhost, l, hl, hdebt⟩, hpaid⟩ := hdevice
  exact (hinv device (Table.mem_of_get? hget) hhost).1 l hl hdebt hpaid

end StabilityPlatform
