import Mathlib

/-!
# Rows with unique keys

Rows are inserted one after another into a list where no two have the same key: a row whose key is
there is left out, whether it was there before or came with the same insert. So the first row of a
key stays, and inserting rows again changes nothing.

## Main results

* `KeyedRows.find?_insertNew`: **the first row of a key stays**.
* `KeyedRows.nodup_insertNew`: the keys stay unique.
* `KeyedRows.insertNew_eq_append`: what was inserted comes after what was there.
-/

namespace StabilityPlatform.Lib.KeyedRows

variable {α κ : Type*} [DecidableEq κ]

/-- A row is inserted, unless its key is there. -/
def insertOne (key : α → κ) (rows : List α) (a : α) : List α :=
  if key a ∈ rows.map key then rows else rows ++ [a]

/-- Rows are inserted in order. -/
def insertNew (key : α → κ) (rows new : List α) : List α := new.foldl (insertOne key) rows

/-- Nothing is inserted. -/
@[simp] theorem insertNew_nil (key : α → κ) (rows : List α) : insertNew key rows [] = rows := rfl

/-- The first row is inserted first. -/
theorem insertNew_cons (key : α → κ) (rows new : List α) (a : α) :
    insertNew key rows (a :: new) = insertNew key (insertOne key rows a) new := rfl

/-- Rows are inserted together as they are one part after the other. -/
theorem insertNew_append (key : α → κ) (rows new new' : List α) :
    insertNew key rows (new ++ new') = insertNew key (insertNew key rows new) new' :=
  List.foldl_append ..

/-- The keys stay unique. -/
theorem nodup_insertNew {key : α → κ} {rows : List α} (h : (rows.map key).Nodup) (new : List α) :
    ((insertNew key rows new).map key).Nodup := by
  induction new generalizing rows with
  | nil => exact h
  | cons a new ih =>
      refine ih ?_
      rw [insertOne]
      split
      · exact h
      · rename_i hnew
        rw [List.map_append, List.map_singleton]
        exact h.append (List.nodup_singleton _) (List.disjoint_singleton.mpr hnew)

/-- What is inserted comes after what was there. -/
theorem insertNew_eq_append (key : α → κ) (rows new : List α) :
    ∃ inserted, insertNew key rows new = rows ++ inserted := by
  induction new generalizing rows with
  | nil => exact ⟨[], (List.append_nil _).symm⟩
  | cons a new ih =>
      obtain ⟨inserted, hinserted⟩ := ih (insertOne key rows a)
      rw [insertNew_cons, hinserted, insertOne]
      split
      · exact ⟨inserted, rfl⟩
      · exact ⟨a :: inserted, by simp⟩

/-- What is there was there, or was inserted. -/
theorem mem_of_mem_insertNew {key : α → κ} {rows new : List α} {a : α}
    (h : a ∈ insertNew key rows new) : a ∈ rows ∨ a ∈ new := by
  induction new generalizing rows with
  | nil => exact Or.inl h
  | cons b new ih =>
      obtain hrows | hnew := ih h
      · rw [insertOne] at hrows
        split at hrows
        · exact Or.inl hrows
        · exact (List.mem_append.mp hrows).imp_right fun hb =>
            List.mem_cons.mpr (Or.inl (List.mem_singleton.mp hb))
      · exact Or.inr (List.mem_cons_of_mem b hnew)

/-- **The first row of a key stays.** -/
theorem find?_insertNew (key : α → κ) (rows new : List α) (k : κ) :
    (insertNew key rows new).find? (fun a => key a = k) =
      (rows ++ new).find? fun a => key a = k := by
  induction new generalizing rows with
  | nil => rw [insertNew_nil, List.append_nil]
  | cons a new ih =>
      rw [insertNew_cons, ih, insertOne]
      split
      · rename_i hmem
        rw [List.find?_append, List.find?_append]
        by_cases hkey : key a = k
        · obtain ⟨b, hb, hkeyb⟩ := List.mem_map.mp hmem
          have hsome : (rows.find? fun a => decide (key a = k)).isSome := by
            rw [List.find?_isSome]
            exact ⟨b, hb, decide_eq_true (hkeyb.trans hkey)⟩
          obtain ⟨found, hfound⟩ := Option.isSome_iff_exists.mp hsome
          rw [hfound]
          rfl
        · rw [List.find?_cons_of_neg (by simpa using hkey)]
      · rw [List.append_assoc]
        rfl

end StabilityPlatform.Lib.KeyedRows
