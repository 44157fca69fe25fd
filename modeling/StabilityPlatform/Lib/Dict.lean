import Mathlib

/-!
# Insertion-ordered dictionaries

A `Dict α` maps strings to values and remembers the order in which its keys were first
written: a list of items with distinct keys, the distinctness being part of the type.
Writing a key that is present replaces its value in place, a new key goes to the end.

## Main results

* `Dict.get?_set_self`, `Dict.get?_set_of_ne`: reading after writing.
* `Dict.get?_eq_some_iff`: a key has a value exactly when the item is in the list.
-/

namespace StabilityPlatform.Lib

/-- A dictionary: items in insertion order, no key twice. -/
structure Dict (α : Type*) where
  items : List (String × α)
  nodup : (items.map Prod.fst).Nodup

namespace Dict

variable {α β : Type*}

@[ext] theorem ext {d e : Dict α} (h : d.items = e.items) : d = e := by
  cases d; cases e; subst h; rfl

instance [DecidableEq α] : DecidableEq (Dict α) := fun d e =>
  decidable_of_iff (d.items = e.items) ⟨ext, fun h => h ▸ rfl⟩

/-- The dictionary without items. -/
def empty : Dict α := ⟨[], List.nodup_nil⟩

/-- The keys, in insertion order. -/
def keys (d : Dict α) : List String := d.items.map Prod.fst

/-- The value of a key, if it has one. -/
def get? (d : Dict α) (k : String) : Option α := d.items.lookup k

/-- Whether the key is present. -/
def contains (d : Dict α) (k : String) : Bool := (d.get? k).isSome

/-- Replace the value of `k` in a list of items. -/
def replaceIn (k : String) (v : α) (items : List (String × α)) : List (String × α) :=
  items.map fun p => if p.1 = k then (k, v) else p

/-- Replacing a value keeps the keys and their order. -/
theorem map_fst_replaceIn (k : String) (v : α) (items : List (String × α)) :
    (replaceIn k v items).map Prod.fst = items.map Prod.fst := by
  simp only [replaceIn, List.map_map]
  refine List.map_congr_left fun p _ => ?_
  by_cases h : p.1 = k <;> simp [h]

/-- Write a value: in place when the key is present, at the end when it is new. -/
def set (d : Dict α) (k : String) (v : α) : Dict α :=
  if h : k ∈ d.items.map Prod.fst then
    ⟨replaceIn k v d.items, by rw [map_fst_replaceIn]; exact d.nodup⟩
  else
    ⟨d.items ++ [(k, v)], by
      rw [List.map_append, List.nodup_append]
      refine ⟨d.nodup, by simp, ?_⟩
      rintro a ha b hb rfl
      simp only [List.map_cons, List.map_nil, List.mem_singleton] at hb
      exact h (hb ▸ ha)⟩

/-- `d.pop(k, None)`: forget a key. -/
def erase (d : Dict α) (k : String) : Dict α :=
  ⟨d.items.filter fun p => p.1 ≠ k, d.nodup.sublist (List.filter_sublist.map Prod.fst)⟩

/-! ### Reading -/

@[simp] theorem get?_empty (k : String) : (empty : Dict α).get? k = none := rfl

/-- Looking a key up in a list without it. -/
theorem lookup_eq_none {κ : Type*} [BEq κ] [LawfulBEq κ] {items : List (κ × α)} {k : κ}
    (h : k ∉ items.map Prod.fst) : items.lookup k = none := by
  induction items with
  | nil => rfl
  | cons p rest ih =>
      simp only [List.map_cons, List.mem_cons, not_or] at h
      have hne : (k == p.1) = false := by simpa using h.1
      simp only [List.lookup, hne]
      exact ih h.2

/-- Looking a key up in a list with distinct keys finds its item. -/
theorem lookup_eq_some_iff {κ : Type*} [BEq κ] [LawfulBEq κ] {items : List (κ × α)}
    (hnd : (items.map Prod.fst).Nodup) {k : κ} {v : α} :
    items.lookup k = some v ↔ (k, v) ∈ items := by
  induction items with
  | nil => simp
  | cons p rest ih =>
      obtain ⟨k', v'⟩ := p
      simp only [List.map_cons, List.nodup_cons] at hnd
      by_cases hk : k = k'
      · subst hk
        simp only [List.lookup, beq_self_eq_true, Option.some.injEq, List.mem_cons,
          Prod.mk.injEq, true_and]
        constructor
        · exact fun h => .inl h.symm
        · rintro (h | h)
          · exact h.symm
          · exact absurd (List.mem_map_of_mem (f := Prod.fst) h) hnd.1
      · have hne : (k == k') = false := by simpa using hk
        simp only [List.lookup, hne, List.mem_cons, Prod.mk.injEq, hk, false_and, false_or]
        exact ih hnd.2

/-- Looking a key up after the items of another one were replaced. -/
theorem lookup_replace_of_ne {κ : Type*} [BEq κ] [LawfulBEq κ] [DecidableEq κ]
    (items : List (κ × α)) {k k' : κ} (v : α) (h : k' ≠ k) :
    ((k, v) :: items.filter fun p => p.1 ≠ k).lookup k' = items.lookup k' := by
  have hhead : (k' == k) = false := by simpa using h
  simp only [List.lookup_cons, hhead]
  induction items with
  | nil => rfl
  | cons p rest ih =>
      rw [List.filter_cons, List.lookup_cons]
      split_ifs with hp
      · rw [List.lookup_cons, ih]
      · have hne : (k' == p.1) = false := by
          rw [decide_eq_true_eq, not_not] at hp
          simpa [hp] using h
        rw [ih, hne]

/-- A key has the value `v` exactly when the item is there. -/
theorem get?_eq_some_iff {d : Dict α} {k : String} {v : α} :
    d.get? k = some v ↔ (k, v) ∈ d.items :=
  lookup_eq_some_iff d.nodup

/-- A key without a value is not a key. -/
theorem get?_eq_none_iff {d : Dict α} {k : String} : d.get? k = none ↔ k ∉ d.keys := by
  constructor
  · rintro h hk
    obtain ⟨⟨k', v⟩, hmem, rfl⟩ := List.mem_map.mp hk
    rw [get?_eq_some_iff.mpr hmem] at h
    cases h
  · exact lookup_eq_none

/-! ### Reading after writing -/

/-- A written key reads back. -/
@[simp] theorem get?_set_self (d : Dict α) (k : String) (v : α) :
    (d.set k v).get? k = some v := by
  rw [get?_eq_some_iff]
  unfold set
  split
  · rename_i h
    obtain ⟨p, hp, hpk⟩ := List.mem_map.mp h
    exact List.mem_map.mpr ⟨p, hp, by simp [hpk]⟩
  · simp

/-- Writing one key leaves the others. -/
theorem get?_set_of_ne (d : Dict α) {k k' : String} (v : α) (h : k' ≠ k) :
    (d.set k v).get? k' = d.get? k' := by
  ext w
  rw [get?_eq_some_iff, get?_eq_some_iff]
  unfold set
  split
  · simp only [replaceIn, List.mem_map]
    constructor
    · rintro ⟨p, hp, hpe⟩
      by_cases hpk : p.1 = k
      · rw [if_pos hpk] at hpe
        exact absurd (congrArg Prod.fst hpe).symm h
      · rw [if_neg hpk] at hpe
        exact hpe ▸ hp
    · intro hmem
      exact ⟨(k', w), hmem, if_neg h⟩
  · simp [h]

/-- Reading after a write, in one equation. -/
theorem get?_set (d : Dict α) (k k' : String) (v : α) :
    (d.set k v).get? k' = if k' = k then some v else d.get? k' := by
  split
  · rename_i h; rw [h, get?_set_self]
  · rename_i h; exact d.get?_set_of_ne v h

/-- Reading after a key is forgotten. -/
theorem get?_erase (d : Dict α) (k k' : String) :
    (d.erase k).get? k' = if k' = k then none else d.get? k' := by
  ext v
  rw [get?_eq_some_iff, erase, List.mem_filter]
  split
  · rename_i h
    simp [h]
  · rename_i h
    rw [get?_eq_some_iff]
    simp [h]

/-- A key has a value exactly when it is there. -/
theorem mem_keys_iff {d : Dict α} {k : String} : k ∈ d.keys ↔ ∃ v, d.get? k = some v := by
  rw [← not_iff_not, ← get?_eq_none_iff, ← Option.ne_none_iff_exists', not_not]

/-- Writing a key leaves the items under keys of another kind. -/
theorem filter_set (d : Dict α) {p : String → Bool} {k : String} (v : α) (h : p k = false) :
    (d.set k v).items.filter (fun i => p i.1) = d.items.filter fun i => p i.1 := by
  rw [set]
  split
  · change (replaceIn k v d.items).filter _ = _
    generalize d.items = items
    induction items with
    | nil => rfl
    | cons i items ih =>
        rw [replaceIn] at ih
        rw [replaceIn, List.map_cons, List.filter_cons, List.filter_cons, ih]
        by_cases hi : i.1 = k
        · simp [hi, h]
        · rw [if_neg hi]
  · change (d.items ++ [(k, v)]).filter _ = _
    rw [List.filter_append, List.filter_cons_of_neg (by rw [h]; exact Bool.false_ne_true),
      List.filter_nil, List.append_nil]

/-- `d.update(e)`: write all items of `e`. -/
def update (d e : Dict α) : Dict α := e.items.foldl (fun d p => d.set p.1 p.2) d

/-- A key after an update: as in the second dictionary, else as in the first. -/
theorem get?_update (d e : Dict α) (k : String) :
    (d.update e).get? k = (e.get? k).or (d.get? k) := by
  obtain ⟨items, hnd⟩ := e
  unfold update
  dsimp only
  induction items generalizing d with
  | nil => rfl
  | cons p rest ih =>
      obtain ⟨k', v⟩ := p
      have hrest : (rest.map Prod.fst).Nodup := (List.nodup_cons.mp hnd).2
      rw [List.foldl_cons, ih (d.set k' v) hrest, get?_set]
      by_cases hk : k = k'
      · subst hk
        have hnone : rest.lookup k = none := lookup_eq_none (List.nodup_cons.mp hnd).1
        simp [get?, hnone]
      · have hne : (k == k') = false := by simpa using hk
        simp [get?, List.lookup, hne, hk]

/-- `dict(items)`: of several items with one key the last counts. -/
def ofItems (items : List (String × α)) : Dict α := items.foldl (fun d p => d.set p.1 p.2) empty

/-- A key of a dictionary made of items with distinct keys. -/
theorem get?_ofItems {items : List (String × α)} (h : (items.map Prod.fst).Nodup) (k : String) :
    (ofItems items).get? k = items.lookup k :=
  (get?_update empty ⟨items, h⟩ k).trans (Option.or_none ..)

/-- `{k: f(v) for k, v in d.items()}`, without the items `f` gives nothing for. -/
def filterMap (f : α → Option β) (d : Dict α) : Dict β where
  items := d.items.filterMap fun p => (f p.2).map fun w => (p.1, w)
  nodup := by
    refine List.Nodup.sublist ?_ d.nodup
    rw [List.map_filterMap]
    induction d.items with
    | nil => exact List.Sublist.refl _
    | cons p rest ih =>
        rw [List.map_cons]
        cases hf : f p.2 with
        | none => simpa [List.filterMap_cons, hf] using ih.cons p.1
        | some w => simpa [List.filterMap_cons, hf] using ih.cons_cons p.1

end Dict

end StabilityPlatform.Lib
