import StabilityPlatform.Lease.Statements

/-!
# No retired device is leased

A device is retired only without an active lease, and gets one only while it is in service.
Both are checks followed by writes, in several statements of sessions that interleave; each
check is made on the device row under its lock, which its session keeps until it commits.

## Main results

* `leaseOutline`: what a session knows at each statement about the rows it has.
* `retired_not_leased`: **no committed device that is retired has an active lease**, in any
  interleaving of the services.
-/

namespace StabilityPlatform

open Lib Lib.RowLock

/-! ### Rows in order -/

/-- The active lease among the rows of a device. -/
def DeviceRows.active (s : DeviceRows) (k : ℕ) : Option DeviceLease :=
  Table.holder DeviceLease.deviceId (fun l => l.status == .active) s.leases k

/-- Rows in order: no device has two active leases, and this one has none when it is
retired. -/
structure Serviceable (k : ℕ) (s : DeviceRows) : Prop where
  exclusive : Table.Exclusive DeviceLease.deviceId (fun l => l.status == .active) s.leases
  retired : ∀ device, s.devices.get? k = some device → device.retiredAt.isSome = true →
    s.active k = none

/-- Rows in order, with the device as a session has it. -/
structure InHand (k : ℕ) (device : Device) (s : DeviceRows) : Prop where
  inOrder : Serviceable k s
  row : s.devices.get? k = some device

/-- Rows of a device in service are in order when no device has two active leases. -/
theorem serviceable_of_inService {k : ℕ} {s : DeviceRows} {device : Device}
    (hex : Table.Exclusive DeviceLease.deviceId (fun l => l.status == .active) s.leases)
    (hget : s.devices.get? k = some device) (hret : device.retiredAt = none) :
    Serviceable k s := by
  refine ⟨hex, fun device' hget' hret' => ?_⟩
  rw [hget] at hget'
  cases hget'
  rw [hret] at hret'
  cases hret'

/-- A leased device is in service. -/
theorem InHand.inService {k : ℕ} {device : Device} {s : DeviceRows} (h : InHand k device s)
    {lease : DeviceLease} (hlease : s.active k = some lease) : device.retiredAt = none := by
  by_contra hret
  have hnone := h.inOrder.retired device h.row (Option.isSome_iff_ne_none.mpr hret)
  rw [hlease] at hnone
  cases hnone

/-- Writing the row of the device, with the same mark. -/
theorem InHand.saveDevice {k : ℕ} {device device' : Device} {s : DeviceRows}
    (h : InHand k device s) (r : OtherRows) (hid : device'.id = device.id)
    (hret : device'.retiredAt = device.retiredAt) :
    InHand k device' ((s.db r).saveDevice device').deviceRows := by
  have hget : (((s.db r).saveDevice device').deviceRows).devices.get? k = some device' :=
    get?_saveDevice (hid.trans (Table.id_of_get? h.row)) h.row
  refine ⟨⟨h.inOrder.exclusive, fun device₁ hget₁ hret₁ => ?_⟩, hget⟩
  rw [hget] at hget₁
  cases hget₁
  exact h.inOrder.retired device h.row (hret ▸ hret₁)

/-- Inserting a lease of a device in service. -/
theorem serviceable_insertLease {k : ℕ} {device : Device} {s : DeviceRows}
    (h : InHand k device s) (hret : device.retiredAt = none) {r : OtherRows}
    {lease inserted : DeviceLease} {db : Db}
    (hins : (s.db r).insertLease lease = .ok (inserted, db)) (hon : lease.status = .active) :
    Serviceable k db.deviceRows := by
  rw [Db.insertLease] at hins
  split at hins
  · cases hins
  · rename_i hfree
    cases hins
    refine serviceable_of_inService ?_ h.row hret
    refine Table.Exclusive.insert h.inOrder.exclusive (fun _ => rfl) ?_
    exact Option.not_isSome_iff_eq_none.mp fun hsome => hfree ⟨hon, hsome⟩

/-- Writing the active lease of a device in service back. -/
theorem serviceable_saveLease {k : ℕ} {device : Device} {s : DeviceRows}
    (h : InHand k device s) (hret : device.retiredAt = none) (r : OtherRows)
    {old lease : DeviceLease} (hold : s.active k = some old) (hid : lease.id = old.id)
    (hdev : lease.deviceId = old.deviceId) :
    Serviceable k ((s.db r).saveLease lease).deviceRows :=
  serviceable_of_inService (Table.Exclusive.save h.inOrder.exclusive hold hid hdev) h.row hret

/-- Releasing the lease of a job. -/
theorem Serviceable.releaseJobLease {k : ℕ} {s : DeviceRows} (h : Serviceable k s)
    (r : OtherRows) (now : Time) (jobId : ℕ) :
    Serviceable k (releaseJobLeaseSync (s.db r) now k jobId).2.deviceRows := by
  refine ⟨(onlyDevice_releaseJobLeaseSync (s.db r) now k jobId).exclusive h.exclusive, ?_⟩
  intro device hget hret
  have hex : (s.db r).Exclusive := h.exclusive
  refine (activeLease_releaseJobLeaseSync hex now k jobId).trans ?_
  rw [show (s.db r).activeLease k = none from h.retired device hget hret]
  rfl

/-- The device as the disarm results of a job leave it: its mark and its leases stay. -/
theorem InHand.disarm {k : ℕ} {device device' : Device} {s : DeviceRows} {r : OtherRows}
    {db : Db} (h : InHand k device s) {job : Option JobInstance} {token : Option String}
    {now : Time} (hdisarm : disarmInSavepointSync (s.db r) device job token now =
      .ok (device', db)) : InHand k device' db.deviceRows := by
  have hid : device.id = k := Table.id_of_get? h.row
  have happlied := disarmInSavepointSync_applied (hid ▸ h.row) hdisarm
  obtain ⟨rs, hrs⟩ := happlied.row
  have hleases : db.deviceRows.leases = s.leases := happlied.leases
  have hrow : db.deviceRows.devices.get? k = some device' := hid ▸ happlied.saved
  refine ⟨⟨hleases ▸ h.inOrder.exclusive, fun device₁ hget₁ hret₁ => ?_⟩, hrow⟩
  rw [hrow] at hget₁
  cases hget₁
  rw [DeviceRows.active, hleases]
  refine h.inOrder.retired device h.row ?_
  rw [hrs] at hret₁
  exact hret₁

/-- The disarm results of a job leave the active lease. -/
theorem InHand.active_disarm {k : ℕ} {device device' : Device} {s : DeviceRows}
    {r : OtherRows} {db : Db} (h : InHand k device s) {job : Option JobInstance}
    {token : Option String} {now : Time} (hdisarm : disarmInSavepointSync (s.db r) device job
      token now = .ok (device', db)) : db.deviceRows.active k = s.active k := by
  have hid : device.id = k := Table.id_of_get? h.row
  have hleases : db.deviceRows.leases = s.leases :=
    (disarmInSavepointSync_applied (hid ▸ h.row) hdisarm).leases
  rw [DeviceRows.active, hleases]
  rfl

/-- Without a lease among those counted, none is active. -/
theorem active_eq_none_of_count {k : ℕ} {s : DeviceRows} {r : OtherRows}
    (h : ((s.db r).activeLeases k).length = 0) : s.active k = none := by
  refine Table.holder_eq_none_iff.mpr fun lease hlease hdev => ?_
  by_contra hon
  have hmem : lease ∈ (s.db r).activeLeases k := by
    refine Table.mem_select.mpr ⟨hlease, ?_⟩
    simp only [Bool.not_eq_false] at hon
    simp only [hdev, beq_self_eq_true, hon, Bool.and_self]
  rw [List.length_eq_zero_iff.mp h] at hmem
  cases hmem

/-- The debt lease of the device in hand released: when only a debt lease could be active,
none is. -/
theorem InHand.releaseDebtLease {k : ℕ} {device : Device} {s : DeviceRows} (h : InHand k device s)
    (r : OtherRows) (now : Time) (honly : s.active k = none ∨ isDebtLease (s.active k) = true) :
    InHand k device (releaseDebtLeaseForRetirementSync (s.db r) device now).2.deviceRows ∧
      (releaseDebtLeaseForRetirementSync (s.db r) device now).2.deviceRows.active k = none := by
  have hid : device.id = k := Table.id_of_get? h.row
  obtain ⟨⟨leases, hleases⟩, honlyDevice, hactive⟩ :=
    releaseDebtLeaseForRetirementSync_spec (s.db r) device now
  have hnone : (releaseDebtLeaseForRetirementSync (s.db r) device now).2.deviceRows.active k =
      none := by
    have heq := hactive h.inOrder.exclusive
    rw [hid] at heq
    refine heq.trans ?_
    rcases honly with hnone | hdebt
    · rw [show (s.db r).activeLease k = none from hnone]
      rfl
    · exact if_pos hdebt
  refine ⟨⟨⟨honlyDevice.exclusive h.inOrder.exclusive, fun _ _ _ => hnone⟩, ?_⟩, hnone⟩
  rw [hleases]
  exact h.row

/-! ### What a session knows -/

/-- What is known of a copy in an acquire. -/
def acquireFacts (k : ℕ) : AcquirePoint → Option DeviceRows → Prop
  | .get, h => ∀ m, h = some m → Serviceable k m
  | .savepoint, h => ∀ m, h = some m → Serviceable k m
  | .raise saved, h => (∀ m, saved = some m → Serviceable k m) ∧ ∀ m, h = some m → Serviceable k m
  | .check saved _, h => (∀ m, saved = some m → Serviceable k m) ∧
      ∃ m device, h = some m ∧ InHand k device m ∧ device.retiredAt = none
  | .insert saved _, h => (∀ m, saved = some m → Serviceable k m) ∧
      ∃ m device, h = some m ∧ InHand k device m ∧ device.retiredAt = none

/-- What is known of a copy while a debt lease is taken. -/
def debtFacts (k : ℕ) : DebtPoint → Option DeviceRows → Prop
  | .raise device, h => ∃ m, h = some m ∧ InHand k device m
  | .check device _, h => ∃ m, h = some m ∧ InHand k device m ∧ device.retiredAt = none
  | .insert device _, h => ∃ m, h = some m ∧ InHand k device m ∧ device.retiredAt = none

/-- What is known of a copy in the release of a job's lease. -/
def releaseFacts (k : ℕ) : ReleasePoint → Option DeviceRows → Prop
  | .lock _, h => ∀ m, h = some m → Serviceable k m
  | .job _ device, h => ∃ m, h = some m ∧ InHand k device m
  | .lease _ device, h => ∃ m, h = some m ∧ InHand k device m
  | .disarm _ device lease, h => ∃ m, h = some m ∧ InHand k device m ∧ m.active k = lease
  | .decide device lease, h => ∃ m, h = some m ∧ InHand k device m ∧ m.active k = lease
  | .convertRaise device lease, h => ∃ m, h = some m ∧ InHand k device m ∧ m.active k = some lease
  | .convertSave device lease, h => ∃ m, h = some m ∧ InHand k device m ∧ m.active k = some lease
  | .update, h => ∃ m, h = some m ∧ Serviceable k m

/-- What is known of a copy in an init. -/
def initFacts (k : ℕ) : InitPoint → Option DeviceRows → Prop
  | .lock, h => ∀ m, h = some m → Serviceable k m
  | .states device, h => ∃ m, h = some m ∧ InHand k device m
  | .lease device _, h => ∃ m, h = some m ∧ InHand k device m

/-- What is known of a copy in a retirement: once the leases were counted, only a debt lease
can be active, and once that is released, none. -/
def retireFacts (k : ℕ) : RetirePoint → Option DeviceRows → Prop
  | .lock, h => ∀ m, h = some m → Serviceable k m
  | .jobs device, h => ∃ m, h = some m ∧ InHand k device m
  | .leases device, h => ∃ m, h = some m ∧ InHand k device m
  | .release device, h => ∃ m, h = some m ∧ InHand k device m ∧
      (m.active k = none ∨ isDebtLease (m.active k) = true)
  | .mark device, h => ∃ m, h = some m ∧ InHand k device m ∧ m.active k = none

/-- What is known of a copy on the way back into service. -/
def unretireFacts (k : ℕ) : UnretirePoint → Option DeviceRows → Prop
  | .lock, h => ∀ m, h = some m → Serviceable k m
  | .clear device, h => ∃ m, h = some m ∧ InHand k device m
  | .debts device, h => ∃ m, h = some m ∧ InHand k device m

/-- What is known of a copy at each point. -/
def leaseFacts (k : ℕ) (p : LeasePoint) (h : Option DeviceRows) : Prop :=
  match p with
  | .acquire _ p => acquireFacts k p h
  | .debt _ _ p => debtFacts k p h
  | .release _ p => releaseFacts k p h
  | .init _ _ p => initFacts k p h
  | .retire _ p => retireFacts k p h
  | .unretire _ p => unretireFacts k p h

/-- What must be known after a statement. -/
abbrev LeaseAfter (k : ℕ) (h : Option DeviceRows) (s : DeviceRows) (n : Next LeasePoint) : Prop :=
  After Serviceable (fun k p h _ => leaseFacts k p h) (fun k m _ => Serviceable k m) k h s n

/-- What a session sees is in order when its copy and the committed rows are. -/
theorem serviceable_getD {k : ℕ} {h : Option DeviceRows} {s : DeviceRows}
    (hh : ∀ m, h = some m → Serviceable k m) (hs : Serviceable k s) :
    Serviceable k (h.getD s) := by
  cases h with
  | none => exact hs
  | some m => exact hh m rfl

/-- The end of a call. -/
theorem leaseAfter_endCall {k : ℕ} {m s : DeviceRows} {commits : Bool} (hm : Serviceable k m) :
    LeaseAfter k (some m) s (endCall commits) := by
  cases commits with
  | true => exact ⟨hm, fun p hp => by cases hp⟩
  | false =>
      rintro m' hm'
      cases hm'
      exact hm

/-! ### One statement -/

/-- **The statements of an acquire.** -/
theorem turn_acquire {k : ℕ} {a : AcquireArgs} {p : AcquirePoint} {h : Option DeviceRows}
    {s : DeviceRows} {r : OtherRows} (hs : Serviceable k s) (hp : acquireFacts k p h) :
    LeaseAfter k (leaseProgram.turn k (.acquire a p) h s r).2 s
      (leaseProgram.turn k (.acquire a p) h s r).1 := by
  cases p with
  | get =>
      refine .of_read rfl fun n hn => ?_
      split at hn
      · cases hn
        exact fun p hp => by cases hp
      · split at hn
        · cases hn
          exact hp
        · cases hn
          exact hp
  | savepoint => exact ⟨hp, hp⟩
  | raise saved =>
      refine .of_lock rfl fun n e he => ?_
      split at he
      · cases he
        exact hp.2
      · rename_i device hget
        split at he
        · cases he
          exact hp.2
        · rename_i hret
          cases he
          have hhand : InHand k device (h.getD s) := ⟨serviceable_getD hp.2 hs, hget⟩
          have hnone : device.bump.retiredAt = none := Option.not_isSome_iff_eq_none.mp hret
          exact ⟨hp.1, _, device.bump, rfl, hhand.saveDevice r rfl rfl, hnone⟩
  | check saved generation =>
      obtain ⟨hsaved, m, device, rfl, hhand, hret⟩ := hp
      refine .of_lock rfl fun n e he => ?_
      split at he
      · cases he
        exact hsaved
      · cases he
        exact ⟨hsaved, m, device, rfl, hhand, hret⟩
  | insert saved generation =>
      obtain ⟨hsaved, m, device, rfl, hhand, hret⟩ := hp
      refine .of_lock rfl fun n e he => ?_
      split at he
      · rename_i hins
        cases he
        rintro m' hm'
        cases hm'
        exact serviceable_insertLease hhand hret hins rfl
      · cases he
        exact hsaved

/-- **The statements of taking a debt lease.** -/
theorem turn_debt {k : ℕ} {now : Time} {commits : Bool} {p : DebtPoint}
    {h : Option DeviceRows} {s : DeviceRows} {r : OtherRows} (hp : debtFacts k p h) :
    LeaseAfter k (leaseProgram.turn k (.debt now commits p) h s r).2 s
      (leaseProgram.turn k (.debt now commits p) h s r).1 := by
  cases p with
  | raise device =>
      obtain ⟨m, rfl, hhand⟩ := hp
      refine .of_lock rfl fun n e he => ?_
      split at he
      · cases he
        exact leaseAfter_endCall hhand.inOrder
      · split at he
        · cases he
          exact leaseAfter_endCall hhand.inOrder
        · rename_i hserv
          cases he
          simp only [Bool.or_eq_true, not_or] at hserv
          have hnone : device.bump.retiredAt = none := Option.not_isSome_iff_eq_none.mp hserv.1
          exact ⟨_, rfl, hhand.saveDevice r rfl rfl, hnone⟩
  | check device hostId =>
      obtain ⟨m, rfl, hhand, hret⟩ := hp
      refine .of_lock rfl fun n e he => ?_
      split at he
      · cases he
        exact leaseAfter_endCall hhand.inOrder
      · cases he
        exact ⟨m, rfl, hhand, hret⟩
  | insert device hostId =>
      obtain ⟨m, rfl, hhand, hret⟩ := hp
      refine .of_lock rfl fun n e he => ?_
      split at he
      · rename_i hins
        cases he
        exact leaseAfter_endCall (serviceable_insertLease hhand hret hins rfl)
      · cases he
        exact leaseAfter_endCall hhand.inOrder

/-- **The statements of the release of a job's lease.** -/
theorem turn_release {k : ℕ} {a : ReleaseArgs} {p : ReleasePoint} {h : Option DeviceRows}
    {s : DeviceRows} {r : OtherRows} (hs : Serviceable k s) (hp : releaseFacts k p h) :
    LeaseAfter k (leaseProgram.turn k (.release a p) h s r).2 s
      (leaseProgram.turn k (.release a p) h s r).1 := by
  cases p with
  | lock job =>
      refine .of_lock rfl fun n e he => ?_
      split at he
      · cases he
        exact hp
      · rename_i device hget
        cases he
        exact ⟨_, rfl, serviceable_getD hp hs, hget⟩
  | job job device => exact hp
  | lease job device =>
      obtain ⟨m, rfl, hhand⟩ := hp
      exact ⟨m, rfl, hhand, rfl⟩
  | disarm job device lease =>
      obtain ⟨m, rfl, hhand, hlease⟩ := hp
      refine .of_lock rfl fun n e he => ?_
      split at he
      · rename_i device₁ db₁ hdisarm
        cases he
        exact ⟨_, rfl, hhand.disarm hdisarm, (hhand.active_disarm hdisarm).trans hlease⟩
      · cases he
        exact fun p hp => by cases hp
  | decide device lease =>
      obtain ⟨m, rfl, hhand, hlease⟩ := hp
      refine .of_read rfl fun n hn => ?_
      split at hn
      · split at hn
        · split at hn
          · cases hn
            exact ⟨m, rfl, hhand, hlease⟩
          · split at hn
            · cases hn
              rintro m' hm'
              cases hm'
              exact hhand.inOrder
            · cases hn
              exact ⟨m, rfl, hhand.inOrder⟩
        · cases hn
          exact ⟨m, rfl, hhand⟩
      · cases hn
        exact ⟨m, rfl, hhand.inOrder⟩
  | convertRaise device lease =>
      obtain ⟨m, rfl, hhand, hlease⟩ := hp
      exact ⟨_, rfl, hhand.saveDevice r rfl rfl, hlease⟩
  | convertSave device lease =>
      obtain ⟨m, rfl, hhand, hlease⟩ := hp
      refine .of_lock rfl fun n e he => ?_
      split at he
      · cases he
        exact fun p hp => by cases hp
      · cases he
        rintro m' hm'
        cases hm'
        exact serviceable_saveLease hhand (hhand.inService hlease) r hlease rfl rfl
  | update =>
      obtain ⟨m, rfl, hm⟩ := hp
      rintro m' hm'
      cases hm'
      exact hm.releaseJobLease r a.now' a.jobId

/-- **The statements of an init.** -/
theorem turn_init {k : ℕ} {now : Time} {dryRun : Bool} {p : InitPoint} {h : Option DeviceRows}
    {s : DeviceRows} {r : OtherRows} (hs : Serviceable k s) (hp : initFacts k p h) :
    LeaseAfter k (leaseProgram.turn k (.init now dryRun p) h s r).2 s
      (leaseProgram.turn k (.init now dryRun p) h s r).1 := by
  cases p with
  | lock =>
      refine .of_lock rfl fun n e he => ?_
      have hseen : Serviceable k (h.getD s) := serviceable_getD hp hs
      split at he
      · cases he
        exact hp
      · rename_i device hget
        split at he
        · cases he
          rintro m' hm'
          cases hm'
          exact hseen
        · cases he
          exact ⟨_, rfl, hseen, hget⟩
  | states device =>
      obtain ⟨m, rfl, hhand⟩ := hp
      refine .of_lock rfl fun n e he => ?_
      split at he
      · rename_i device₁ db₁ needsDebt hstates
        cases he
        obtain ⟨⟨rs, hrs⟩, hrow, hleases, -⟩ :=
          initReturnStates_spec (show (m.db r).devices.get? k = some device from hhand.row) hstates
        have hsame : db₁.deviceRows.leases = m.leases := hleases
        refine ⟨_, rfl, ⟨hsame ▸ hhand.inOrder.exclusive, fun device₂ hget₂ hret₂ => ?_⟩, hrow⟩
        have hdevice : device₂ = device₁ := Option.some.inj (hget₂.symm.trans hrow)
        rw [DeviceRows.active, hsame]
        refine hhand.inOrder.retired device hhand.row ?_
        rw [hdevice, hrs] at hret₂
        exact hret₂
      · cases he
        exact fun p hp => by cases hp
  | lease device needsDebt =>
      obtain ⟨m, rfl, hhand⟩ := hp
      refine .of_lock rfl fun n e he => ?_
      split at he
      · cases he
        exact ⟨m, rfl, hhand⟩
      · cases he
        rintro m' hm'
        cases hm'
        exact hhand.inOrder

/-- **The statements of retiring**: when the mark is set, no lease is active. -/
theorem turn_retire {k : ℕ} {a : RetireArgs} {p : RetirePoint} {h : Option DeviceRows}
    {s : DeviceRows} {r : OtherRows} (hs : Serviceable k s) (hp : retireFacts k p h) :
    LeaseAfter k (leaseProgram.turn k (.retire a p) h s r).2 s
      (leaseProgram.turn k (.retire a p) h s r).1 := by
  cases p with
  | lock =>
      refine .of_lock rfl fun n e he => ?_
      have hseen : Serviceable k (h.getD s) := serviceable_getD hp hs
      split at he
      · cases he
        exact fun p hp => by cases hp
      · rename_i device hget
        split at he
        · cases he
          rintro m' hm'
          cases hm'
          exact hseen
        · cases he
          exact ⟨_, rfl, hseen, hget⟩
  | jobs device =>
      obtain ⟨m, rfl, hhand⟩ := hp
      refine .of_read rfl fun n hn => ?_
      split at hn
      · cases hn
        exact fun p hp => by cases hp
      · cases hn
        exact ⟨m, rfl, hhand⟩
  | leases device =>
      obtain ⟨m, rfl, hhand⟩ := hp
      refine .of_read rfl fun n hn => ?_
      split at hn
      · cases hn
        exact fun p hp => by cases hp
      · rename_i hquiet
        cases hn
        refine ⟨m, rfl, hhand, ?_⟩
        by_cases hcount : ((m.db r).activeLeases k).length = 0
        · exact .inl (active_eq_none_of_count hcount)
        · refine .inr ?_
          by_contra hdebt
          exact hquiet ⟨hcount, eq_false_of_ne_true hdebt⟩
  | release device =>
      obtain ⟨m, rfl, hhand, honly⟩ := hp
      obtain ⟨hhand', hnone⟩ := hhand.releaseDebtLease r a.now honly
      exact ⟨_, rfl, hhand', hnone⟩
  | mark device =>
      obtain ⟨m, rfl, hhand, hnone⟩ := hp
      exact ⟨⟨hhand.inOrder.exclusive, fun _ _ _ => hnone⟩, fun p hp => by cases hp⟩

/-- **The statements of taking back into service.** -/
theorem turn_unretire {k : ℕ} {now : Time} {p : UnretirePoint} {h : Option DeviceRows}
    {s : DeviceRows} {r : OtherRows} (hs : Serviceable k s) (hp : unretireFacts k p h) :
    LeaseAfter k (leaseProgram.turn k (.unretire now p) h s r).2 s
      (leaseProgram.turn k (.unretire now p) h s r).1 := by
  cases p with
  | lock =>
      refine .of_lock rfl fun n e he => ?_
      have hseen : Serviceable k (h.getD s) := serviceable_getD hp hs
      split at he
      · cases he
        exact fun p hp => by cases hp
      · rename_i device hget
        split at he
        · cases he
          rintro m' hm'
          cases hm'
          exact hseen
        · cases he
          exact ⟨_, rfl, hseen, hget⟩
  | clear device =>
      obtain ⟨m, rfl, hhand⟩ := hp
      refine .of_lock rfl fun n e he => ?_
      cases he
      have hid : device.id = k := Table.id_of_get? hhand.row
      have hold : (m.db r).devices.get? k = some device := hhand.row
      have hrow := @get?_saveDevice (m.db r)
        { device with retiredAt := none, retireAlertedAt := none } device k hid hold
      exact ⟨_, rfl, serviceable_of_inService hhand.inOrder.exclusive hrow rfl, hrow⟩
  | debts device =>
      obtain ⟨m, rfl, hhand⟩ := hp
      refine .of_read rfl fun n hn => ?_
      split at hn
      · cases hn
        exact ⟨hhand.inOrder, fun p hp => by cases hp⟩
      · cases hn
        exact ⟨m, rfl, hhand⟩

/-! ### Every interleaving -/

/-- **What the sessions know** of the rows they have. -/
def leaseOutline : Outline leaseProgram Serviceable where
  facts := fun k p h _ => leaseFacts k p h
  done := fun k m _ => Serviceable k m
  stable := fun h _ => h
  enter := by
    intro k p s hentry _
    cases p with
    | acquire a p =>
        cases p with
        | get => exact fun m hm => by cases hm
        | _ => cases hentry
    | debt now commits p => cases hentry
    | release a p =>
        cases p with
        | lock job => exact fun m hm => by cases hm
        | _ => cases hentry
    | init now dryRun p =>
        cases p with
        | lock => exact fun m hm => by cases hm
        | _ => cases hentry
    | retire a p =>
        cases p with
        | lock => exact fun m hm => by cases hm
        | _ => cases hentry
    | unretire now p =>
        cases p with
        | lock => exact fun m hm => by cases hm
        | _ => cases hentry
  reenter := by
    intro k p m s hentry _ hm
    have hcopy : ∀ m', some m = some m' → Serviceable k m' := by
      rintro m' hm'
      cases hm'
      exact hm
    cases p with
    | acquire a p =>
        cases p with
        | get => exact hcopy
        | _ => cases hentry
    | debt now commits p => cases hentry
    | release a p =>
        cases p with
        | lock job => exact hcopy
        | _ => cases hentry
    | init now dryRun p =>
        cases p with
        | lock => exact hcopy
        | _ => cases hentry
    | retire a p =>
        cases p with
        | lock => exact hcopy
        | _ => cases hentry
    | unretire now p =>
        cases p with
        | lock => exact hcopy
        | _ => cases hentry
  commits := fun hm _ => hm
  turn := by
    intro k p h s r hs hp
    cases p with
    | acquire a p => exact turn_acquire hs hp
    | debt now commits p => exact turn_debt hp
    | release a p => exact turn_release hs hp
    | init now dryRun p => exact turn_init hs hp
    | retire a p => exact turn_retire hs hp
    | unretire now p => exact turn_unretire hs hp

/-- **No retired device is leased**: whatever the order in which sessions take the statements
of the services, commit and are rolled back, no committed device that is retired has an
active lease of any type. -/
theorem retired_not_leased {rows : ℕ → DeviceRows} (hrows : ∀ k, Serviceable k (rows k))
    {w : World ℕ DeviceRows LeasePoint}
    {tr : List (World ℕ DeviceRows LeasePoint × RowOp ℕ OtherRows LeasePoint)}
    (hrun : Run (World.Step leaseProgram) (World.initial rows) tr w) :
    Holds (fun w => ∀ k device, (w.committed k).devices.get? k = some device →
      device.retiredAt.isSome = true → ∀ lease ∈ (w.committed k).leases.rows,
        lease.deviceId = k → lease.status ≠ .active) tr w := by
  have hall := leaseOutline.committed hrows hrun
  refine hall.mono fun w hw k device hget hret lease hlease hdev hactive => ?_
  have hoff := Table.holder_eq_none_iff.mp ((hw k).retired device hget hret) lease hlease hdev
  rw [hactive] at hoff
  cases hoff

/-- The theorem at work: an acquire has seen the device in service when another session
retires it; its raise then finds no row, and after the device is back a second one gets a
lease. -/
theorem retired_not_leased_race :
    let rows : ℕ → DeviceRows := fun _ => (plainDb (.dict [])).deviceRows
    let r : OtherRows := { (plainDb (.dict [])).otherRows with jobs := .empty }
    let a : AcquireArgs := ⟨0, "h1", .job, "a1", some 1, none, none, 600⟩
    let retire : List (RowOp ℕ OtherRows LeasePoint) :=
      [.start 0 1 (.acquire a .get), .next 0 r, .next 0 r,
        .start 1 1 (.retire ⟨0, 0, "broken", none⟩ .lock), .next 1 r, .next 1 r, .next 1 r,
        .next 1 r, .next 1 r, .next 0 r]
    let acquire : List (RowOp ℕ OtherRows LeasePoint) :=
      [.start 1 1 (.unretire 5 .lock), .next 1 r, .next 1 r, .next 1 r,
        .start 0 1 (.acquire a .get), .next 0 r, .next 0 r, .next 0 r, .next 0 r, .next 0 r,
        .commit 0]
    ∃ w w', retire.foldlM (World.step leaseProgram) (World.initial rows) = some w ∧
      ((w.committed 1).devices.get? 1).any (·.retiredAt.isSome) = true ∧
      (∀ lease ∈ (w.committed 1).leases.rows, lease.deviceId = 1 → lease.status ≠ .active) ∧
      acquire.foldlM (World.step leaseProgram) w = some w' ∧
      ((w'.committed 1).active 1).isSome = true := by
  intro rows r a retire acquire
  have hrows : ∀ k, Serviceable k (rows k) := fun k =>
    ⟨Table.exclusive_of_forall_off fun l hl => (by cases hl), fun _ _ _ => rfl⟩
  have hruns : (retire.foldlM (World.step leaseProgram) (World.initial rows)).any (fun w =>
      ((w.committed 1).devices.get? 1).any (·.retiredAt.isSome) &&
        (acquire.foldlM (World.step leaseProgram) w).any fun w' =>
          ((w'.committed 1).active 1).isSome) = true := by
    decide
  obtain ⟨w, hw, hafter⟩ := (Option.any_eq_true _ _).mp hruns
  obtain ⟨hretired, hlater⟩ := Bool.and_eq_true_iff.mp hafter
  obtain ⟨w', hw', hleased⟩ := (Option.any_eq_true _ _).mp hlater
  obtain ⟨device, hget, hret⟩ := (Option.any_eq_true _ _).mp hretired
  exact ⟨w, w', hw, hretired,
    (retired_not_leased hrows (Run.of_foldlM hw)).2 1 device hget hret, hw', hleased⟩

end StabilityPlatform
