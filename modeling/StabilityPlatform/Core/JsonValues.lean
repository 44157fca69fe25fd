import StabilityPlatform.Core.PyVal
import StabilityPlatform.Lib.Dict
import StabilityPlatform.Lib.Json

/-!
# JSON columns as values

What a program sees of a JSON column. Numbers, texts and truth values are themselves, objects
are dictionaries in the order of their items. Writing, updating and filtering a dictionary of
JSON values is the same before and after.

## Main results

* `jsonVal`, `pyItems`: the values.
* `pyItems_set`, `pyItems_update`: **writing and updating** commute with them.
-/

namespace StabilityPlatform

open Lib

/-! ### Numbers -/

/-- The number some characters stand for; anything that is no digit is skipped. -/
def digitsValue (chars : List Char) : ℕ :=
  (chars.filter Char.isDigit).foldl (fun n c => 10 * n + (c.toNat - 48)) 0

/-- The number the text of a finite floating point number stands for. -/
def floatValue (x : FloatText) : ℚ :=
  let mantissa := x.chars.takeWhile (· ≠ 'e')
  let exponent := x.chars.dropWhile (· ≠ 'e')
  let frac := (mantissa.dropWhile (· ≠ '.')).filter Char.isDigit
  let size : ℤ := digitsValue exponent
  let scale := (if exponent.contains '-' then -size else size) - frac.length
  (if mantissa.contains '-' then -1 else 1) * (digitsValue mantissa : ℚ) * (10 : ℚ) ^ scale

/-! ### Values -/

mutual

/-- A JSON value as a value. -/
def jsonVal : Json → PyVal
  | .null => .null
  | .bool b => .bool b
  | .int z => .int z
  | .float x => .float (floatValue x) (String.ofList x.chars)
  | .str s => .str s
  | .list xs => .list (jsonVals xs)
  | .obj items => .dict (jsonItems items)

/-- The members of a list. -/
def jsonVals : List Json → List PyVal
  | [] => []
  | v :: xs => jsonVal v :: jsonVals xs

/-- The items of an object. -/
def jsonItems : List (String × Json) → PyDict
  | [] => []
  | (k, v) :: rest => (k, jsonVal v) :: jsonItems rest

end

/-- The items one by one. -/
theorem jsonItems_eq_map (items : List (String × Json)) :
    jsonItems items = items.map fun p => (p.1, jsonVal p.2) := by
  induction items with
  | nil => rfl
  | cons p rest ih => rw [jsonItems, ih, List.map_cons]

/-- A dictionary of JSON values as a dictionary. -/
def pyItems (d : Dict Json) : PyDict := jsonItems d.items

@[simp] theorem pyItems_empty : pyItems Dict.empty = [] := rfl

/-- A value that is looked up. -/
theorem lookup_jsonItems (items : List (String × Json)) (k : String) :
    (jsonItems items).lookup k = (items.lookup k).map jsonVal := by
  induction items with
  | nil => rfl
  | cons p rest ih =>
      obtain ⟨k', v⟩ := p
      rw [jsonItems, List.lookup_cons, List.lookup_cons]
      cases k == k' with
      | true => rfl
      | false => exact ih

/-! ### Writing -/

/-- Writing a key that is there. -/
theorem jsonItems_replaceIn {items : List (String × Json)} (hnd : (items.map Prod.fst).Nodup)
    {k : String} (hk : k ∈ items.map Prod.fst) (v : Json) :
    jsonItems (Dict.replaceIn k v items) = (jsonItems items).set k (jsonVal v) := by
  induction items with
  | nil => cases hk
  | cons p rest ih =>
      obtain ⟨k', w⟩ := p
      rw [List.map_cons, List.nodup_cons] at hnd
      by_cases heq : k' = k
      · subst heq
        have hrest : Dict.replaceIn k' v rest = rest := by
          refine (List.map_congr_left fun q hq => if_neg fun h => hnd.1 ?_).trans (List.map_id rest)
          exact List.mem_map.mpr ⟨q, hq, h⟩
        rw [Dict.replaceIn, List.map_cons, if_pos rfl, ← Dict.replaceIn, hrest, jsonItems, jsonItems,
          PyDict.set, if_pos rfl]
      · have hmem : k ∈ rest.map Prod.fst := by
          rcases List.mem_cons.mp hk with h | h
          · exact absurd h.symm heq
          · exact h
        rw [Dict.replaceIn, List.map_cons, if_neg heq, ← Dict.replaceIn, jsonItems, jsonItems,
          PyDict.set, if_neg heq, ih hnd.2 hmem]

/-- Writing a new key. -/
theorem jsonItems_concat {items : List (String × Json)} {k : String}
    (hk : k ∉ items.map Prod.fst) (v : Json) :
    jsonItems (items ++ [(k, v)]) = (jsonItems items).set k (jsonVal v) := by
  induction items with
  | nil => rfl
  | cons p rest ih =>
      obtain ⟨k', w⟩ := p
      rw [List.map_cons, List.mem_cons, not_or] at hk
      rw [List.cons_append, jsonItems, jsonItems, ih hk.2, PyDict.set, if_neg (Ne.symm hk.1)]

/-- **Writing** commutes. -/
theorem pyItems_set (d : Dict Json) (k : String) (v : Json) :
    pyItems (d.set k v) = (pyItems d).set k (jsonVal v) := by
  rw [Dict.set]
  split
  · rename_i hk
    exact jsonItems_replaceIn d.nodup hk v
  · rename_i hk
    exact jsonItems_concat hk v

/-- **Updating** commutes. -/
theorem pyItems_update (d e : Dict Json) :
    pyItems (d.update e) = (pyItems d).update (pyItems e) := by
  rw [Dict.update, PyDict.update, pyItems.eq_def e]
  generalize e.items = items
  induction items generalizing d with
  | nil => rfl
  | cons p rest ih =>
      obtain ⟨k, v⟩ := p
      rw [jsonItems, List.foldl_cons, List.foldl_cons, ← pyItems_set]
      exact ih (d.set k v)

/-- **Filtering** commutes, with the function that sees values. -/
theorem pyItems_filterMap {f : Json → Option Json} {g : PyVal → Option PyVal}
    (h : ∀ v, g (jsonVal v) = (f v).map jsonVal) (d : Dict Json) :
    pyItems (d.filterMap f) =
      (pyItems d).filterMap fun p => (g p.2).map fun w => (p.1, w) := by
  rw [pyItems, pyItems, Dict.filterMap, jsonItems_eq_map, jsonItems_eq_map, List.filterMap_map,
    List.map_filterMap]
  refine List.filterMap_congr fun p _ => ?_
  rw [Function.comp_apply, h]
  cases f p.2 with
  | none => rfl
  | some w => rfl

end StabilityPlatform
