import StabilityPlatform.DeviceReturn.ReturnState

/-!
# Debt rows

Writing and closing the rows that record what a device owes. There is at most one open row
per device, family, kind of source and job: writing a debt that is already open only
refreshes its evidence, and the partial unique index refuses what slips through.

## Main results

* `owes_upsertOpenDebtSync`: after writing a debt, its device owes its family, and nothing
  else changed.
* `owes_closeFamilyDebtsSync`: after closing families, their device owes none of them, and
  nothing else changed.
-/

namespace StabilityPlatform

open Lib

/-! ### Writing a debt -/

/-- The lengths the columns of a debt have room for. -/
def DeviceReturnDebt.fits (row : DeviceReturnDebt) : Bool :=
  row.family.length ≤ 64 && row.cause.length ≤ 64 &&
    row.sourceFencingToken.all fun token => token.length ≤ 256

/-- Whether two open rows are of one source; no job counts as job zero. -/
def sameOpenSource (r s : DeviceReturnDebt) : Bool :=
  r.state == .opened && s.state == .opened && r.deviceId == s.deviceId &&
    r.family == s.family && r.sourceKind == s.sourceKind &&
    r.sourceJobId.getD 0 == s.sourceJobId.getD 0

/-- Insert a debt; a second open row of one source violates the partial unique index. -/
def Db.insertDebt (db : Db) (row : DeviceReturnDebt) : Except PyError Db :=
  if !row.fits then .error .dataError
  else if db.debts.rows.any (sameOpenSource row) then .error .integrityError
  else .ok { db with debts := db.debts.insert (fun i => { row with id := i }) fun _ => rfl }

/-- Whether a row is the open debt of a given source. -/
def isOpenDebtOf (deviceId : ℕ) (family : String) (sourceKind : SourceKind)
    (sourceJobId : Option ℕ) (r : DeviceReturnDebt) : Bool :=
  r.deviceId == deviceId && r.family == family && r.sourceKind == sourceKind &&
    r.sourceJobId == sourceJobId && r.state == .opened

/-- Write a debt, or refresh the evidence of the open row it already has. -/
def upsertOpenDebtSync (db : Db) (deviceId : ℕ) (family : String) (sourceKind : SourceKind)
    (sourceJobId : Option ℕ) (sourceFencingToken : Option String) (cause : String)
    (evidence : PyDict) (now : Time) : Except PyError Db :=
  match db.debts.first (isOpenDebtOf deviceId family sourceKind sourceJobId) with
  | some existing =>
    if evidence ≠ [] then
      .ok { db with debts := db.debts.save { existing with evidence := some evidence } }
    else .ok db
  | none =>
    db.insertDebt
      { id := 0
        deviceId := deviceId
        family := family
        sourceKind := sourceKind
        sourceJobId := sourceJobId
        sourceFencingToken := sourceFencingToken
        cause := cause
        state := .opened
        closedReason := none
        closedAt := none
        createdAt := now
        evidence := if evidence ≠ [] then some evidence else none }

/-! ### Closing debts -/

/-- A debt, closed. -/
def DeviceReturnDebt.close (closedReason : CloseReason) (now : Time) (r : DeviceReturnDebt) :
    DeviceReturnDebt :=
  { r with state := .closed, closedReason := some closedReason, closedAt := some now }

/-- Close the rows with given keys. -/
def Db.closeRows (db : Db) (ids : List ℕ) (closedReason : CloseReason) (now : Time) : Db :=
  let p := fun r : DeviceReturnDebt => ids.contains r.id
  { db with debts := db.debts.update p (DeviceReturnDebt.close closedReason now) fun _ => rfl }

/-- Close the open debts of a device in some families; how many there were. -/
def closeFamilyDebtsSync (db : Db) (deviceId : ℕ) (families : List String)
    (closedReason : CloseReason) (now : Time) : ℕ × Db :=
  let rows := (db.openDebts deviceId).filter fun r => families.contains r.family
  (rows.length, db.closeRows (rows.map DeviceReturnDebt.id) closedReason now)

/-! ### What a device owes -/

/-- A device owes a family when it has an open row for it. -/
def Db.owes (db : Db) (deviceId : ℕ) (family : String) : Prop :=
  ∃ r ∈ db.openDebts deviceId, r.family = family

instance (db : Db) (deviceId : ℕ) (family : String) : Decidable (db.owes deviceId family) :=
  inferInstanceAs (Decidable (∃ r ∈ db.openDebts deviceId, r.family = family))

/-- An open debt of a device. -/
theorem mem_openDebts {db : Db} {deviceId : ℕ} {r : DeviceReturnDebt} :
    r ∈ db.openDebts deviceId ↔
      r ∈ db.debts.rows ∧ r.deviceId = deviceId ∧ r.state = .opened := by
  simp [Db.openDebts]

/-- The families of the open rows are what a device owes. -/
theorem mem_families_iff_owes {db : Db} {deviceId : ℕ} {family : String} :
    family ∈ (db.openDebts deviceId).map DeviceReturnDebt.family ↔
      db.owes deviceId family :=
  List.mem_map

/-- A device without open rows owes nothing, and only such a device. -/
theorem openDebts_eq_nil_iff {db : Db} {deviceId : ℕ} :
    db.openDebts deviceId = [] ↔ ∀ family, ¬ db.owes deviceId family := by
  constructor
  · rintro h family ⟨r, hr, -⟩
    rw [h] at hr
    exact List.not_mem_nil hr
  · intro h
    exact List.eq_nil_iff_forall_not_mem.mpr fun r hr => h r.family ⟨r, hr, rfl⟩

/-- What an insert did: the row is there under the next key. -/
theorem insertDebt_eq {db db' : Db} {row : DeviceReturnDebt} (h : db.insertDebt row = .ok db') :
    db' = { db with debts := db.debts.insert (fun i => { row with id := i }) fun _ => rfl } := by
  unfold Db.insertDebt at h
  split at h
  · cases h
  · split at h
    · cases h
    · exact (Except.ok.inj h).symm

/-- What a device owes after an open debt was inserted. -/
theorem owes_insertDebt {db db' : Db} {row : DeviceReturnDebt} (h : db.insertDebt row = .ok db')
    (hopen : row.state = .opened) (d : ℕ) (f : String) :
    db'.owes d f ↔ db.owes d f ∨ (d = row.deviceId ∧ f = row.family) := by
  obtain rfl := insertDebt_eq h
  constructor
  · rintro ⟨r, hr, hrf⟩
    obtain ⟨hr, hrd, hro⟩ := mem_openDebts.mp hr
    rcases Table.mem_insert.mp hr with hr | rfl
    · exact .inl ⟨r, mem_openDebts.mpr ⟨hr, hrd, hro⟩, hrf⟩
    · exact .inr ⟨hrd.symm, hrf.symm⟩
  · rintro (⟨r, hr, hrf⟩ | ⟨rfl, rfl⟩)
    · obtain ⟨hr, hrd, hro⟩ := mem_openDebts.mp hr
      exact ⟨r, mem_openDebts.mpr ⟨Table.mem_insert.mpr (.inl hr), hrd, hro⟩, hrf⟩
    · exact ⟨_, mem_openDebts.mpr ⟨Table.mem_insert.mpr (.inr rfl), rfl, hopen⟩, rfl⟩

/-- Refreshing the evidence of a row changes nothing that is owed. -/
theorem owes_save_evidence {db : Db} {existing : DeviceReturnDebt}
    (hmem : existing ∈ db.debts.rows) (evidence : Option PyDict) (d : ℕ) (f : String) :
    ({ db with debts := db.debts.save { existing with evidence := evidence } } : Db).owes d f ↔
      db.owes d f := by
  constructor
  · rintro ⟨r, hr, hrf⟩
    obtain ⟨hr, hrd, hro⟩ := mem_openDebts.mp hr
    rcases Table.mem_save.mp hr with ⟨hr, -⟩ | ⟨rfl, -⟩
    · exact ⟨r, mem_openDebts.mpr ⟨hr, hrd, hro⟩, hrf⟩
    · exact ⟨existing, mem_openDebts.mpr ⟨hmem, hrd, hro⟩, hrf⟩
  · rintro ⟨r, hr, hrf⟩
    obtain ⟨hr, hrd, hro⟩ := mem_openDebts.mp hr
    by_cases hid : Row.id r = Row.id existing
    · obtain rfl := Table.eq_of_id_eq hr hmem hid
      refine ⟨{ r with evidence := evidence }, mem_openDebts.mpr ⟨?_, hrd, hro⟩, hrf⟩
      exact Table.mem_save.mpr (.inr ⟨rfl, r, hmem, rfl⟩)
    · refine ⟨r, mem_openDebts.mpr ⟨?_, hrd, hro⟩, hrf⟩
      exact Table.mem_save.mpr (.inl ⟨hr, hid⟩)

/-- **Writing a debt**: its device owes its family, and nothing else changed. -/
theorem owes_upsertOpenDebtSync {db db' : Db} {deviceId : ℕ} {family : String}
    {sourceKind : SourceKind} {sourceJobId : Option ℕ} {token : Option String}
    {cause : String} {evidence : PyDict} {now : Time}
    (h : upsertOpenDebtSync db deviceId family sourceKind sourceJobId token cause evidence
      now = .ok db') (d : ℕ) (f : String) :
    db'.owes d f ↔ db.owes d f ∨ (d = deviceId ∧ f = family) := by
  unfold upsertOpenDebtSync at h
  cases hfirst : db.debts.first (isOpenDebtOf deviceId family sourceKind sourceJobId) with
  | none =>
      rw [hfirst] at h
      exact owes_insertDebt h rfl d f
  | some existing =>
      rw [hfirst] at h
      obtain ⟨hmem, hsrc⟩ := Table.mem_of_first hfirst
      simp only [isOpenDebtOf, Bool.and_eq_true, beq_iff_eq] at hsrc
      obtain ⟨⟨⟨⟨hdev, hfam⟩, -⟩, -⟩, hopen⟩ := hsrc
      have hold : db.owes deviceId family :=
        ⟨existing, mem_openDebts.mpr ⟨hmem, hdev, hopen⟩, hfam⟩
      have hsame : db'.owes d f ↔ db.owes d f := by
        dsimp only at h
        split at h
        · obtain rfl := Except.ok.inj h
          exact owes_save_evidence hmem _ d f
        · obtain rfl := Except.ok.inj h
          exact Iff.rfl
      rw [hsame]
      refine ⟨.inl, ?_⟩
      rintro (howes | ⟨rfl, rfl⟩)
      · exact howes
      · exact hold

/-- Writing a debt touches no other table. -/
theorem upsertOpenDebtSync_eq {db db' : Db} {deviceId : ℕ} {family : String}
    {sourceKind : SourceKind} {sourceJobId : Option ℕ} {token : Option String}
    {cause : String} {evidence : PyDict} {now : Time}
    (h : upsertOpenDebtSync db deviceId family sourceKind sourceJobId token cause evidence
      now = .ok db') : ∃ debts, db' = { db with debts := debts } := by
  unfold upsertOpenDebtSync at h
  split at h
  · split at h
    · exact ⟨_, (Except.ok.inj h).symm⟩
    · exact ⟨_, (Except.ok.inj h).symm⟩
  · exact ⟨_, insertDebt_eq h⟩

/-- Closing no rows changes nothing. -/
theorem closeRows_nil (db : Db) (closedReason : CloseReason) (now : Time) :
    db.closeRows [] closedReason now = db := by
  have hsame : db.debts.update (fun r : DeviceReturnDebt => ([] : List ℕ).contains r.id)
      (DeviceReturnDebt.close closedReason now) (fun _ => rfl) = db.debts :=
    Table.update_eq_self fun _ _ => rfl
  exact congrArg (fun debts => { db with debts := debts }) hsame

/-- Closing rows takes them out of the open ones. -/
theorem openDebts_closeRows (db : Db) (ids : List ℕ) (closedReason : CloseReason)
    (now : Time) (d : ℕ) :
    (db.closeRows ids closedReason now).openDebts d =
      (db.openDebts d).filter fun r => !ids.contains r.id := by
  refine Table.select_update_drop db.debts (fun r => ids.contains r.id)
    (DeviceReturnDebt.close closedReason now) (fun _ => rfl) fun r => ?_
  simp [DeviceReturnDebt.close]

/-- What a device owes after rows were closed: the families of the rows left. -/
theorem owes_closeRows {db : Db} {ids : List ℕ} {closedReason : CloseReason} {now : Time}
    {d : ℕ} {f : String} :
    (db.closeRows ids closedReason now).owes d f ↔
      ∃ r ∈ db.openDebts d, r.family = f ∧ r.id ∉ ids := by
  unfold Db.owes
  rw [openDebts_closeRows]
  constructor
  · rintro ⟨r, hmem, hrf⟩
    obtain ⟨hr, hid⟩ := List.mem_filter.mp hmem
    exact ⟨r, hr, hrf, by simpa using hid⟩
  · rintro ⟨r, hr, hrf, hid⟩
    exact ⟨r, List.mem_filter.mpr ⟨hr, by simpa using hid⟩, hrf⟩

/-- An open row of a device is among some open rows of a device, by its key, exactly when it
is one of them. -/
theorem id_mem_filter_openDebts {db : Db} {deviceId d : ℕ} {q : DeviceReturnDebt → Bool}
    {r : DeviceReturnDebt} (hr : r ∈ db.openDebts d) :
    r.id ∈ ((db.openDebts deviceId).filter q).map DeviceReturnDebt.id ↔
      d = deviceId ∧ q r = true := by
  rw [List.mem_map]
  constructor
  · rintro ⟨s, hs, hid⟩
    obtain ⟨hs, hq⟩ := List.mem_filter.mp hs
    have hsr : s = r :=
      Table.eq_of_id_eq (mem_openDebts.mp hs).1 (mem_openDebts.mp hr).1 hid
    subst hsr
    exact ⟨(mem_openDebts.mp hr).2.1.symm.trans (mem_openDebts.mp hs).2.1, hq⟩
  · rintro ⟨rfl, hq⟩
    exact ⟨r, List.mem_filter.mpr ⟨hr, hq⟩, rfl⟩

/-- **Closing families**: their device owes none of them, and nothing else changed. -/
theorem owes_closeFamilyDebtsSync (db : Db) (deviceId : ℕ) (families : List String)
    (closedReason : CloseReason) (now : Time) (d : ℕ) (f : String) :
    (closeFamilyDebtsSync db deviceId families closedReason now).2.owes d f ↔
      db.owes d f ∧ ¬ (d = deviceId ∧ f ∈ families) := by
  refine owes_closeRows.trans ?_
  constructor
  · rintro ⟨r, hr, rfl, hid⟩
    rw [id_mem_filter_openDebts hr] at hid
    exact ⟨⟨r, hr, rfl⟩, fun h => hid ⟨h.1, by simpa using h.2⟩⟩
  · rintro ⟨⟨r, hr, rfl⟩, hnot⟩
    refine ⟨r, hr, rfl, ?_⟩
    rw [id_mem_filter_openDebts hr]
    exact fun h => hnot ⟨h.1, by simpa using h.2⟩

end StabilityPlatform
