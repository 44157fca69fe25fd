import StabilityPlatform.Lib.Table

/-!
# Exclusive slots

Rows of a table belong to slots, and some rows are on. The table is exclusive when no slot
has two rows that are on: what a partial unique index on the slot guarantees. Then each
slot has at most one holder, and writes change holders in the obvious way.

## Main results

* `holder_eq_some_iff`: the holder of a slot is its row that is on.
* `Exclusive.update`, `holder_update`: rewriting rows that stay in their slots.
* `Exclusive.insert`, `holder_insert`: inserting a row into a free slot.
-/

namespace StabilityPlatform.Lib

namespace Table

variable {α : Type*} [Row α] {slot : α → ℕ} {on : α → Bool} {t : Table α}

/-- The first row of a slot that is on. -/
def holder (slot : α → ℕ) (on : α → Bool) (t : Table α) (d : ℕ) : Option α :=
  t.first fun r => slot r == d && on r

/-- No slot has two rows that are on. -/
def Exclusive (slot : α → ℕ) (on : α → Bool) (t : Table α) : Prop :=
  ∀ r ∈ t.rows, ∀ s ∈ t.rows, on r = true → on s = true → slot r = slot s → r = s

/-- A table whose rows are all off is exclusive. -/
theorem exclusive_of_forall_off (h : ∀ r ∈ t.rows, on r = false) : Exclusive slot on t := by
  intro r hr _ _ hon _ _
  rw [h r hr] at hon
  cases hon

/-- The holder of a slot is a row of the slot that is on. -/
theorem mem_of_holder {d : ℕ} {r : α} (h : holder slot on t d = some r) :
    r ∈ t.rows ∧ slot r = d ∧ on r = true := by
  obtain ⟨hr, hp⟩ := mem_of_first h
  rw [Bool.and_eq_true, beq_iff_eq] at hp
  exact ⟨hr, hp⟩

/-- A slot has no holder exactly when none of its rows is on. -/
theorem holder_eq_none_iff {d : ℕ} :
    holder slot on t d = none ↔ ∀ r ∈ t.rows, slot r = d → on r = false := by
  rw [holder, first_eq_none_iff]
  refine forall₂_congr fun r _ => ?_
  by_cases h : slot r = d <;> simp [h]

/-- **The holder** of a slot is its row that is on. -/
theorem holder_eq_some_iff (h : Exclusive slot on t) {d : ℕ} {r : α} :
    holder slot on t d = some r ↔ r ∈ t.rows ∧ slot r = d ∧ on r = true := by
  refine ⟨mem_of_holder, ?_⟩
  rintro ⟨hr, rfl, hon⟩
  cases hh : holder slot on t (slot r) with
  | none =>
      have hoff := holder_eq_none_iff.mp hh r hr rfl
      rw [hon] at hoff
      cases hoff
  | some s =>
      obtain ⟨hs, hslot, hson⟩ := mem_of_holder hh
      rw [h s hs r hr hson hon hslot]

/-- The rows that are on in a slot of an exclusive table are at most one. -/
theorem length_select_le_one (h : Exclusive slot on t) (d : ℕ) :
    (t.select fun r => slot r == d && on r).length ≤ 1 := by
  have hnd : (t.select fun r => slot r == d && on r).Nodup :=
    (List.Nodup.of_map _ t.nodup).filter _
  have hall : ∀ r ∈ t.select fun r => slot r == d && on r,
      ∀ s ∈ t.select fun r => slot r == d && on r, r = s := by
    intro r hr s hs
    simp only [mem_select, Bool.and_eq_true, beq_iff_eq] at hr hs
    exact h r hr.1 s hs.1 hr.2.2 hs.2.2 (hr.2.1.trans hs.2.1.symm)
  generalize (t.select fun r => slot r == d && on r) = rows at hnd hall
  obtain _ | ⟨r, _ | ⟨s, rest⟩⟩ := rows
  · exact Nat.zero_le 1
  · exact le_refl 1
  · obtain rfl := hall r (by simp) s (by simp)
    simp at hnd

/-! ### Rewriting rows -/

/-- Rows that an update leaves in their slots and does not switch on stay exclusive. -/
theorem Exclusive.update (h : Exclusive slot on t) {p : α → Bool} {f : α → α}
    (hf : ∀ r, Row.id (f r) = Row.id r)
    (hslot : ∀ r ∈ t.rows, p r = true → slot (f r) = slot r)
    (hoff : ∀ r ∈ t.rows, p r = true → on r = false → on (f r) = false) :
    Exclusive slot on (t.update p f hf) := by
  have hkeep : ∀ r ∈ t.rows, on (if p r then f r else r) = true →
      on r = true ∧ slot (if p r then f r else r) = slot r := by
    intro r hr hon
    by_cases hp : p r = true
    · rw [if_pos hp] at hon ⊢
      refine ⟨?_, hslot r hr hp⟩
      by_contra hoff'
      rw [hoff r hr hp (by simpa using hoff')] at hon
      cases hon
    · rw [if_neg hp] at hon ⊢
      exact ⟨hon, rfl⟩
  intro a ha b hb hona honb hab
  obtain ⟨r, hr, rfl⟩ := mem_update.mp ha
  obtain ⟨s, hs, rfl⟩ := mem_update.mp hb
  obtain ⟨hron, hrs⟩ := hkeep r hr hona
  obtain ⟨hson, hss⟩ := hkeep s hs honb
  rw [h r hr s hs hron hson (by rw [← hrs, ← hss, hab])]

/-- **Holders after an update**: the old holder, rewritten, if it is still on. -/
theorem holder_update (h : Exclusive slot on t) {p : α → Bool} {f : α → α}
    (hf : ∀ r, Row.id (f r) = Row.id r)
    (hslot : ∀ r ∈ t.rows, p r = true → slot (f r) = slot r)
    (hoff : ∀ r ∈ t.rows, p r = true → on r = false → on (f r) = false) (d : ℕ) :
    holder slot on (t.update p f hf) d =
      ((holder slot on t d).map fun r => if p r then f r else r).filter on := by
  ext a
  rw [holder_eq_some_iff (h.update hf hslot hoff), Option.filter_eq_some_iff,
    Option.map_eq_some_iff]
  constructor
  · rintro ⟨ha, hd, hon⟩
    obtain ⟨r, hr, rfl⟩ := mem_update.mp ha
    refine ⟨⟨r, ?_, rfl⟩, hon⟩
    rw [holder_eq_some_iff h]
    by_cases hp : p r = true
    · rw [if_pos hp] at hd hon
      refine ⟨hr, (hslot r hr hp).symm.trans hd, ?_⟩
      by_contra hoff'
      rw [hoff r hr hp (by simpa using hoff')] at hon
      cases hon
    · rw [if_neg hp] at hd hon
      exact ⟨hr, hd, hon⟩
  · rintro ⟨⟨r, hr, rfl⟩, hon⟩
    obtain ⟨hmem, hd, -⟩ := mem_of_holder hr
    refine ⟨mem_update.mpr ⟨r, hmem, rfl⟩, ?_, hon⟩
    by_cases hp : p r = true
    · rw [if_pos hp, hslot r hmem hp, hd]
    · rw [if_neg hp, hd]

/-- Writing the holder of a slot back, still in its slot. -/
theorem Exclusive.save (h : Exclusive slot on t) {a r : α} {d : ℕ}
    (hr : holder slot on t d = some r) (hid : Row.id a = Row.id r) (hslot : slot a = slot r) :
    Exclusive slot on (t.save a) := by
  have hrow : ∀ s ∈ t.rows, (Row.id s == Row.id a) = true → s = r := by
    intro s hs hsa
    rw [beq_iff_eq] at hsa
    exact eq_of_id_eq hs (mem_of_holder hr).1 (hsa.trans hid)
  refine h.update _ ?_ ?_
  · intro s hs hsa
    obtain rfl := hrow s hs hsa
    rw [if_pos hid.symm, hslot]
  · intro s hs hsa hoff
    obtain rfl := hrow s hs hsa
    rw [(mem_of_holder hr).2.2] at hoff
    cases hoff

/-- **Holders after the holder of a slot was written back.** -/
theorem holder_save (h : Exclusive slot on t) {a r : α} {d : ℕ}
    (hr : holder slot on t d = some r) (hid : Row.id a = Row.id r) (hslot : slot a = slot r)
    (d' : ℕ) :
    holder slot on (t.save a) d' =
      if d' = d then (if on a then some a else none) else holder slot on t d' := by
  obtain ⟨hmem, hrd, hron⟩ := mem_of_holder hr
  have hrow : ∀ s ∈ t.rows, Row.id s = Row.id a → s = r := fun s hs hsa =>
    eq_of_id_eq hs hmem (hsa.trans hid)
  ext x
  rw [holder_eq_some_iff (h.save hr hid hslot), mem_save]
  split
  · rename_i hd
    subst hd
    constructor
    · rintro ⟨⟨hx, hxa⟩ | ⟨rfl, -⟩, hxd, hxon⟩
      · exact absurd (by rw [h x hx r hmem hxon hron (hxd.trans hrd.symm), hid]) hxa
      · rw [if_pos hxon]
    · intro hx
      split at hx
      · rename_i haon
        cases hx
        exact ⟨.inr ⟨rfl, r, hmem, hid.symm⟩, hslot.trans hrd, haon⟩
      · cases hx
  · rename_i hd
    rw [holder_eq_some_iff h]
    constructor
    · rintro ⟨⟨hx, -⟩ | ⟨rfl, -⟩, hxd, hxon⟩
      · exact ⟨hx, hxd, hxon⟩
      · exact absurd (hxd.symm.trans (hslot.trans hrd)) hd
    · rintro ⟨hx, hxd, hxon⟩
      refine ⟨.inl ⟨hx, fun hxa => hd ?_⟩, hxd, hxon⟩
      rw [← hxd, hrow x hx hxa, hrd]

/-! ### Inserting rows -/

/-- A row inserted into a free slot keeps the table exclusive. -/
theorem Exclusive.insert (h : Exclusive slot on t) {mk : ℕ → α} (hmk : ∀ i, Row.id (mk i) = i)
    (hfree : holder slot on t (slot (mk t.nextId)) = none) :
    Exclusive slot on (t.insert mk hmk) := by
  have hoff := holder_eq_none_iff.mp hfree
  intro a ha b hb hona honb hab
  rcases mem_insert.mp ha with ha | rfl
  · rcases mem_insert.mp hb with hb | rfl
    · exact h a ha b hb hona honb hab
    · rw [hoff a ha hab] at hona
      cases hona
  · rcases mem_insert.mp hb with hb | rfl
    · rw [hoff b hb hab.symm] at honb
      cases honb
    · rfl

/-- **Holders after an insert** of a row that is on, into a free slot. -/
theorem holder_insert {mk : ℕ → α} (hmk : ∀ i, Row.id (mk i) = i) {d : ℕ}
    (hslot : slot (mk t.nextId) = d) (hon : on (mk t.nextId) = true)
    (hfree : holder slot on t d = none) (d' : ℕ) :
    holder slot on (t.insert mk hmk) d' =
      if d' = d then some (mk t.nextId) else holder slot on t d' := by
  unfold holder first at hfree ⊢
  rw [rows_insert, List.find?_append]
  split
  · rename_i hd
    rw [hd, hfree]
    simp [hslot, hon]
  · rename_i hd
    have hne : (slot (mk t.nextId) == d') = false := by
      rw [hslot]
      simpa using Ne.symm hd
    simp [hne]

end Table

end StabilityPlatform.Lib
