import StabilityPlatform.Aee.HistoryPull
import StabilityPlatform.Lib.Json

/-!
# Moving the books to their new keys

The books of the devices are rows of a table of texts. Their keys once had the prefix of the patrol
scripts, and the agent merges the rows under the old keys into the rows under the new ones when it
starts. A key is cut at its colons to be read, and the serial of a device that is reached over the
network has a colon itself: its rows are not moved.

## Main results

* `migrateLegacyAeeStateKeys`: the migration.
* `get?_migrate`, `get?_migrate_of_ne`: **what becomes of a row**.
* `migrate_migrate`: migrating again changes nothing.
* `migration_safe_iff`: when no line is left behind.
-/

namespace StabilityPlatform

open Lib

/-! ### Keys -/

/-- `LEGACY_PATROL_STATE_PREFIX`. -/
def legacyPatrolStatePrefix : String := "scan_aee"

/-- `WATCHER_AEE_STATE_PREFIX`. -/
def watcherAeeStatePrefix : String := "watcher:aee"

/-- `_AEE_TYPES`. -/
def AeeType.name : AeeType → String
  | .aeeExp => "aee_exp"
  | .vendorAeeExp => "vendor_aee_exp"

/-- `_STATE_KINDS`. -/
inductive StateKind where
  | processedEntries
  | pendingPull
  deriving DecidableEq, Repr

/-- The kind as it is written. -/
def StateKind.name : StateKind → String
  | .processedEntries => "processed_entries"
  | .pendingPull => "pending_pull"

/-- `_state_key`. -/
def stateKey (keyPrefix serial : String) (aeeType : AeeType) (kind : StateKind) : String :=
  keyPrefix ++ ":" ++ serial ++ ":" ++ aeeType.name ++ ":" ++ kind.name

/-- `_parse_legacy_key`. -/
def parseLegacyKey (key : String) : Option (String × AeeType × StateKind) :=
  match pySplit key ':' with
  | [head, serial, aeeType, kind] =>
    if head ≠ legacyPatrolStatePrefix ∨ serial = "" then none
    else
      ([AeeType.aeeExp, .vendorAeeExp].find? (·.name = aeeType)).bind fun aeeType =>
        ([StateKind.processedEntries, .pendingPull].find? (·.name = kind)).map fun kind =>
          (serial, aeeType, kind)
  | _ => none

example : parseLegacyKey "scan_aee:SX:aee_exp:pending_pull" = some ("SX", .aeeExp, .pendingPull) := by
  decide +kernel

/-- A type is found by its name. -/
theorem find?_aeeType_name (aeeType : AeeType) :
    [AeeType.aeeExp, .vendorAeeExp].find? (·.name = aeeType.name) = some aeeType := by
  cases aeeType <;> decide

/-- A kind is found by its name. -/
theorem find?_stateKind_name (kind : StateKind) :
    [StateKind.processedEntries, .pendingPull].find? (·.name = kind.name) = some kind := by
  cases kind <;> decide

/-- A type that is found has the name. -/
theorem name_of_find?_aeeType {name : String} {aeeType : AeeType}
    (h : [AeeType.aeeExp, .vendorAeeExp].find? (·.name = name) = some aeeType) :
    aeeType.name = name := by
  have hname := List.find?_some h
  exact of_decide_eq_true hname

/-- A kind that is found has the name. -/
theorem name_of_find?_stateKind {name : String} {kind : StateKind}
    (h : [StateKind.processedEntries, .pendingPull].find? (·.name = name) = some kind) :
    kind.name = name := by
  have hname := List.find?_some h
  exact of_decide_eq_true hname

/-- A key cut at its colons. -/
theorem splitOn_stateKey (keyPrefix serial : String) (aeeType : AeeType) (kind : StateKind) :
    (stateKey keyPrefix serial aeeType kind).toList.splitOn ':' =
      keyPrefix.toList.splitOn ':' ++ (serial.toList.splitOn ':' ++
        [aeeType.name.toList, kind.name.toList]) := by
  have hkind : kind.name.toList.splitOn ':' = [kind.name.toList] := by cases kind <;> decide
  have htype : aeeType.name.toList.splitOn ':' = [aeeType.name.toList] := by
    cases aeeType <;> decide
  have hchars : (stateKey keyPrefix serial aeeType kind).toList =
      keyPrefix.toList ++ ':' :: (serial.toList ++ ':' ::
        (aeeType.name.toList ++ ':' :: kind.name.toList)) := by
    simp [stateKey]
  rw [hchars, List.splitOn_append_cons_self, List.splitOn_append_cons_self,
    List.splitOn_append_cons_self, hkind, htype]
  rfl

/-- A text without colons is one part, and one with a colon is several. -/
theorem length_splitOn_eq_one_iff {l : List Char} :
    (l.splitOn ':').length = 1 ↔ ':' ∉ l := by
  constructor
  · intro hone hmem
    obtain ⟨before, after, rfl⟩ := List.append_of_mem hmem
    rw [List.splitOn_append_cons_self, List.length_append] at hone
    have hbefore := List.length_pos_iff.mpr (List.splitOn_ne_nil ':' before)
    have hafter := List.length_pos_iff.mpr (List.splitOn_ne_nil ':' after)
    omega
  · intro h
    rw [List.splitOn_eq_singleton h]
    rfl

/-- **Keys tell the serial, the type and the kind apart.** -/
theorem stateKey_injective {keyPrefix serial serial' : String} {aeeType aeeType' : AeeType}
    {kind kind' : StateKind}
    (h : stateKey keyPrefix serial aeeType kind = stateKey keyPrefix serial' aeeType' kind') :
    serial = serial' ∧ aeeType = aeeType' ∧ kind = kind' := by
  have hparts := congrArg (fun key => key.toList.splitOn ':') h
  rw [splitOn_stateKey, splitOn_stateKey] at hparts
  have htail := List.append_cancel_left hparts
  obtain ⟨hserial, hnames⟩ := List.append_inj' htail rfl
  obtain ⟨htype, hrest⟩ := List.cons.inj hnames
  obtain ⟨hkind, -⟩ := List.cons.inj hrest
  refine ⟨?_, ?_, ?_⟩
  · have hchars := congrArg (List.intercalate [':']) hserial
    rw [List.intercalate_splitOn, List.intercalate_splitOn] at hchars
    exact String.toList_injective hchars
  · have hfind := find?_aeeType_name aeeType
    rw [String.toList_injective htype, find?_aeeType_name] at hfind
    exact (Option.some.inj hfind).symm
  · have hfind := find?_stateKind_name kind
    rw [String.toList_injective hkind, find?_stateKind_name] at hfind
    exact (Option.some.inj hfind).symm

/-- **A key is read when the serial has no colon**, and only then. -/
theorem parseLegacyKey_eq_some_iff {key serial : String} {aeeType : AeeType} {kind : StateKind} :
    parseLegacyKey key = some (serial, aeeType, kind) ↔
      key = stateKey legacyPatrolStatePrefix serial aeeType kind ∧ serial ≠ "" ∧
        ':' ∉ serial.toList := by
  have hlegacy : legacyPatrolStatePrefix.toList.splitOn ':' = [legacyPatrolStatePrefix.toList] := by
    decide
  constructor
  · intro h
    rw [parseLegacyKey] at h
    split at h
    · rename_i head serial' typeName kindName hparts
      split at h
      · cases h
      · rename_i hne
        rw [not_or, not_not] at hne
        obtain ⟨found, hfound, h⟩ := Option.bind_eq_some_iff.mp h
        obtain ⟨foundKind, hfoundKind, heq⟩ := Option.map_eq_some_iff.mp h
        cases heq
        have hchars : key.toList = (stateKey legacyPatrolStatePrefix serial aeeType kind).toList := by
          rw [pySplit] at hparts
          have hmapped := congrArg (List.map String.toList) hparts
          rw [List.map_map] at hmapped
          have hid : (String.toList ∘ String.ofList : List Char → List Char) = id :=
            funext fun l => String.toList_ofList
          rw [hid, List.map_id] at hmapped
          have hjoined := congrArg (List.intercalate [':']) hmapped
          rw [List.intercalate_splitOn] at hjoined
          rw [hjoined, ← hne.1, ← name_of_find?_aeeType hfound,
            ← name_of_find?_stateKind hfoundKind]
          simp [stateKey, hne.1, List.intercalate]
        have hkey := String.toList_injective hchars
        refine ⟨hkey, hne.2, length_splitOn_eq_one_iff.mp ?_⟩
        have hlength := congrArg List.length hparts
        rw [pySplit, List.length_map, hkey, splitOn_stateKey, hlegacy] at hlength
        simp only [List.length_append, List.length_cons, List.length_nil] at hlength
        omega
    · cases h
  · rintro ⟨rfl, hne, hcolon⟩
    have hparts : pySplit (stateKey legacyPatrolStatePrefix serial aeeType kind) ':' =
        [legacyPatrolStatePrefix, serial, aeeType.name, kind.name] := by
      rw [pySplit, splitOn_stateKey, hlegacy, List.splitOn_eq_singleton hcolon]
      simp
    rw [parseLegacyKey, hparts]
    dsimp only
    rw [if_neg (by simpa using hne), find?_aeeType_name, find?_stateKind_name]
    rfl

/-! ### Values -/

section Values

variable (text : JsonText)

/-- `_default_value`. -/
def StateKind.defaultValue : StateKind → String
  | .processedEntries => "[]"
  | .pendingPull => "\x7b\x7d"

/-- `_load_json_list`. -/
def loadJsonList (raw : String) : Option (Finset String) :=
  match text.loads raw with
  | some (.list items) => some (items.map text.str).toFinset
  | _ => none

/-- `_load_json_dict`. -/
def loadJsonDict (raw : String) : Option (Dict Json) :=
  match text.loads raw with
  | some (.obj items) => some (Dict.ofItems items)
  | _ => none

/-- The lines as they are written. -/
def dumpLines (lines : Finset String) : String :=
  text.dumps (.list ((lines.sort (· ≤ ·)).map .str))

/-- `_merge_state_value`. -/
def mergeStateValue (kind : StateKind) (oldValue newValue : String) : Option String :=
  match kind with
  | .processedEntries =>
    (loadJsonList text oldValue).bind fun oldItems =>
      (loadJsonList text newValue).map fun newItems => dumpLines text (newItems ∪ oldItems)
  | .pendingPull =>
    (loadJsonDict text oldValue).bind fun oldItems =>
      (loadJsonDict text newValue).map fun newItems =>
        text.dumps (.obj (oldItems.update newItems).items)

variable {text}

/-- Lines read back as they were written. -/
theorem loadJsonList_dumpLines (lines : Finset String) :
    loadJsonList text (dumpLines text lines) = some lines := by
  have hstrings : ∀ l : List String, Json.DistinctList (l.map .str) ∧
      Json.normList (l.map .str) = l.map .str := by
    intro l
    induction l with
    | nil => exact ⟨trivial, rfl⟩
    | cons s l ih => exact ⟨⟨trivial, ih.1⟩, by rw [List.map_cons, Json.normList, ih.2]; rfl⟩
  obtain ⟨hdistinct, hnorm⟩ := hstrings (lines.sort (· ≤ ·))
  have hread : text.loads (dumpLines text lines) =
      some (.list ((lines.sort (· ≤ ·)).map .str)) := by
    rw [dumpLines, text.loads_dumps (.list _) hdistinct, Json.norm, hnorm]
  rw [loadJsonList, hread]
  dsimp only
  have hid : text.str ∘ Json.str = id := funext text.str_str
  rw [List.map_map, hid, List.map_id, Finset.sort_toFinset]

/-- Without a row there are no lines. -/
theorem loadJsonList_default :
    loadJsonList text StateKind.processedEntries.defaultValue = some ∅ := by
  have hread := text.loads_dumps (.list []) trivial
  rw [text.dumps_nil] at hread
  rw [loadJsonList, StateKind.defaultValue, hread]
  rfl

/-- Without a row there are no tasks. -/
theorem loadJsonDict_default :
    loadJsonDict text StateKind.pendingPull.defaultValue = some .empty := by
  have hread := text.loads_dumps (.obj []) ⟨List.nodup_nil, trivial⟩
  rw [text.dumps_empty] at hread
  rw [loadJsonDict, StateKind.defaultValue, hread]
  rfl

/-- What a dictionary that was read holds has no key twice. -/
theorem distinct_of_loadJsonDict {raw : String} {d : Dict Json}
    (h : loadJsonDict text raw = some d) : ∀ k v, d.get? k = some v → v.Distinct := by
  rw [loadJsonDict] at h
  split at h
  · rename_i items hread
    obtain ⟨hkeys, hitems⟩ := text.distinct_loads _ _ hread
    intro k v hv
    rw [← Option.some.inj h, Dict.get?_ofItems hkeys, Dict.lookup_eq_some_iff hkeys] at hv
    exact Json.distinctItems_iff.mp hitems (k, v) hv
  · cases h

/-- What two dictionaries that were read hold together has no key twice. -/
theorem distinct_update {raw raw' : String} {d e : Dict Json}
    (hd : loadJsonDict text raw = some d) (he : loadJsonDict text raw' = some e) :
    ∀ k v, (d.update e).get? k = some v → v.Distinct := by
  intro k v hv
  rw [Dict.get?_update, Option.or_eq_some_iff] at hv
  rcases hv with hv | ⟨-, hv⟩
  · exact distinct_of_loadJsonDict he k v hv
  · exact distinct_of_loadJsonDict hd k v hv

/-- A dictionary reads back with its values in normal form. -/
theorem loadJsonDict_dumps {d : Dict Json} (h : ∀ k v, d.get? k = some v → v.Distinct) :
    ∃ e, loadJsonDict text (text.dumps (.obj d.items)) = some e ∧
      ∀ k, e.get? k = (d.get? k).map Json.norm := by
  have hdistinct : (Json.obj d.items).Distinct := by
    refine ⟨d.nodup, Json.distinctItems_iff.mpr fun p hp => ?_⟩
    exact h p.1 p.2 (Dict.get?_eq_some_iff.mpr hp)
  obtain ⟨hkeys, -⟩ := Json.distinct_norm _ hdistinct
  refine ⟨_, by rw [loadJsonDict, text.loads_dumps _ hdistinct, Json.norm], fun k => ?_⟩
  rw [Dict.get?_ofItems hkeys]
  exact Json.field_norm (.obj d.items) k

/-- **Merging again changes nothing.** -/
theorem mergeStateValue_again {kind : StateKind} {oldValue newValue merged : String}
    (h : mergeStateValue text kind oldValue newValue = some merged) :
    mergeStateValue text kind oldValue merged = some merged := by
  cases kind with
  | processedEntries =>
      obtain ⟨oldItems, hold, h⟩ := Option.bind_eq_some_iff.mp h
      obtain ⟨newItems, hnew, rfl⟩ := Option.map_eq_some_iff.mp h
      rw [mergeStateValue, hold, Option.bind_some, loadJsonList_dumpLines, Option.map_some,
        Finset.union_assoc, Finset.union_self]
  | pendingPull =>
      obtain ⟨oldItems, hold, h⟩ := Option.bind_eq_some_iff.mp h
      obtain ⟨newItems, hnew, rfl⟩ := Option.map_eq_some_iff.mp h
      obtain ⟨read, hread, hfields⟩ := loadJsonDict_dumps (distinct_update hold hnew)
      rw [mergeStateValue, hold, Option.bind_some, hread, Option.map_some]
      refine congrArg some (text.dumps_congr _ _ (Json.norm_obj_congr (Dict.nodup _)
        (Dict.nodup _) fun k => ?_))
      change ((oldItems.update read).get? k).map Json.norm =
        ((oldItems.update newItems).get? k).map Json.norm
      rw [Dict.get?_update, hfields, Dict.get?_update]
      cases newItems.get? k with
      | some v => simp [Json.norm_norm]
      | none =>
          cases oldItems.get? k with
          | some v => simp [Json.norm_norm]
          | none => rfl

end Values

/-! ### The migration -/

/-- `LIKE` with a pattern that ends in `%`: the beginning matches, and letters may be of either
case. -/
def likeChars : List Char → List Char → Bool
  | [], _ => true
  | _ :: _, [] => false
  | p :: pattern, c :: cs => (p == '_' || p.toLower == c.toLower) && likeChars pattern cs

/-- The rows the migration reads. -/
def legacyRows (d : Dict String) : List (String × String) :=
  d.items.filter fun row => likeChars (legacyPatrolStatePrefix ++ ":").toList row.1.toList

/-- `summary`. -/
structure MigrationSummary where
  dryRun : Bool
  legacyRowsSeen : ℕ
  processedEntriesMigrated : ℕ
  pendingPullMigrated : ℕ
  skipped : ℕ
  errors : List String

/-- The summary at the start. -/
def MigrationSummary.start (dryRun : Bool) : MigrationSummary := ⟨dryRun, 0, 0, 0, 0, []⟩

/-- A row was merged. -/
def MigrationSummary.migrated (summary : MigrationSummary) : StateKind → MigrationSummary
  | .processedEntries =>
    { summary with processedEntriesMigrated := summary.processedEntriesMigrated + 1 }
  | .pendingPull => { summary with pendingPullMigrated := summary.pendingPullMigrated + 1 }

/-- There was nothing to do for a row. -/
def MigrationSummary.skip (summary : MigrationSummary) : MigrationSummary :=
  { summary with skipped := summary.skipped + 1 }

/-- One row. -/
def migrateRow (text : JsonText) (state : Dict String × MigrationSummary)
    (row : String × String) : Dict String × MigrationSummary :=
  let summary := { state.2 with legacyRowsSeen := state.2.legacyRowsSeen + 1 }
  match parseLegacyKey row.1 with
  | none => (state.1, summary.skip)
  | some (serial, aeeType, kind) =>
    let newKey := stateKey watcherAeeStatePrefix serial aeeType kind
    let newValue := (state.1.get? newKey).getD kind.defaultValue
    match mergeStateValue text kind row.2 newValue with
    | none => (state.1, { summary with errors := summary.errors ++ [row.1] })
    | some merged =>
      if merged = newValue then (state.1, summary.skip)
      else (if summary.dryRun then state.1 else state.1.set newKey merged, summary.migrated kind)

/-- `migrate_legacy_aee_state_keys`. -/
def migrateLegacyAeeStateKeys (text : JsonText) (dryRun : Bool) (d : Dict String) :
    Dict String × MigrationSummary :=
  (legacyRows d).foldl (migrateRow text) (d, .start dryRun)

/-- The table after the migration. -/
def migrate (text : JsonText) (d : Dict String) : Dict String :=
  (migrateLegacyAeeStateKeys text false d).1

/-- What becomes of a row when one is merged into it. -/
def rowAfter (text : JsonText) (kind : StateKind) (oldValue : String) (current : Option String) :
    Option String :=
  match mergeStateValue text kind oldValue (current.getD kind.defaultValue) with
  | none => current
  | some merged => if merged = current.getD kind.defaultValue then current else some merged

section Migration

variable {text : JsonText} {d : Dict String}

/-- Merging again changes nothing. -/
theorem rowAfter_again (kind : StateKind) (oldValue : String) (current : Option String) :
    rowAfter text kind oldValue (rowAfter text kind oldValue current) =
      rowAfter text kind oldValue current := by
  cases hmerge : mergeStateValue text kind oldValue (current.getD kind.defaultValue) with
  | none =>
      have hafter : rowAfter text kind oldValue current = current := by rw [rowAfter, hmerge]
      rw [hafter, hafter]
  | some merged =>
      by_cases hsame : merged = current.getD kind.defaultValue
      · have hafter : rowAfter text kind oldValue current = current := by
          rw [rowAfter, hmerge]
          exact if_pos hsame
        rw [hafter, hafter]
      · have hafter : rowAfter text kind oldValue current = some merged := by
          rw [rowAfter, hmerge]
          exact if_neg hsame
        rw [hafter, rowAfter, Option.getD_some, mergeStateValue_again hmerge]
        exact if_pos rfl

/-- One row, read back. -/
theorem get?_migrateRow {state : Dict String × MigrationSummary} (hrun : state.2.dryRun = false)
    {row : String × String} {serial : String} {aeeType : AeeType} {kind : StateKind}
    (hparse : parseLegacyKey row.1 = some (serial, aeeType, kind)) :
    (migrateRow text state row).1.get? (stateKey watcherAeeStatePrefix serial aeeType kind) =
      rowAfter text kind row.2
        (state.1.get? (stateKey watcherAeeStatePrefix serial aeeType kind)) := by
  rw [migrateRow, hparse, rowAfter]
  dsimp only
  split
  · rfl
  · split
    · rfl
    · rw [hrun, if_neg Bool.false_ne_true]
      exact Dict.get?_set_self ..

/-- One row leaves the others. -/
theorem get?_migrateRow_of_ne {state : Dict String × MigrationSummary} {row : String × String}
    {key : String} (hne : ∀ serial aeeType kind, parseLegacyKey row.1 = some (serial, aeeType, kind) →
      key ≠ stateKey watcherAeeStatePrefix serial aeeType kind) :
    (migrateRow text state row).1.get? key = state.1.get? key := by
  rw [migrateRow]
  dsimp only
  cases hparse : parseLegacyKey row.1 with
  | none => rfl
  | some parsed =>
      obtain ⟨serial, aeeType, kind⟩ := parsed
      dsimp only
      split
      · rfl
      · split
        · rfl
        · split
          · rfl
          · exact Dict.get?_set_of_ne _ _ (hne serial aeeType kind hparse)

/-- One row leaves whether anything is written. -/
theorem dryRun_migrateRow (state : Dict String × MigrationSummary) (row : String × String) :
    (migrateRow text state row).2.dryRun = state.2.dryRun := by
  rw [migrateRow]
  dsimp only
  cases parseLegacyKey row.1 with
  | none => rfl
  | some parsed =>
      obtain ⟨serial, aeeType, kind⟩ := parsed
      dsimp only
      split
      · rfl
      · split
        · rfl
        · cases kind <;> rfl

/-- A row that is merged already changes nothing. -/
theorem migrateRow_of_fixed {state : Dict String × MigrationSummary} {row : String × String}
    (hfixed : ∀ serial aeeType kind, parseLegacyKey row.1 = some (serial, aeeType, kind) →
      rowAfter text kind row.2
          (state.1.get? (stateKey watcherAeeStatePrefix serial aeeType kind)) =
        state.1.get? (stateKey watcherAeeStatePrefix serial aeeType kind)) :
    (migrateRow text state row).1 = state.1 := by
  rw [migrateRow]
  dsimp only
  cases hparse : parseLegacyKey row.1 with
  | none => rfl
  | some parsed =>
      obtain ⟨serial, aeeType, kind⟩ := parsed
      have hsame := hfixed serial aeeType kind hparse
      rw [rowAfter] at hsame
      dsimp only
      split
      · rfl
      · rename_i merged hmerge
        rw [hmerge] at hsame
        split
        · rfl
        · rename_i hne
          dsimp only at hsame
          rw [if_neg hne] at hsame
          rw [← hsame, Option.getD_some] at hne
          exact absurd rfl hne

/-! ### All rows -/

/-- Rows with other keys leave a row. -/
theorem get?_foldl_of_ne {rows : List (String × String)} {key : String}
    (hne : ∀ row ∈ rows, ∀ serial aeeType kind,
      parseLegacyKey row.1 = some (serial, aeeType, kind) →
        key ≠ stateKey watcherAeeStatePrefix serial aeeType kind)
    (state : Dict String × MigrationSummary) :
    (rows.foldl (migrateRow text) state).1.get? key = state.1.get? key := by
  induction rows generalizing state with
  | nil => rfl
  | cons row rows ih =>
      rw [List.forall_mem_cons] at hne
      rw [List.foldl_cons, ih hne.2, get?_migrateRow_of_ne hne.1]

/-- Keys that are read differ when the keys they are written under do. -/
theorem stateKey_ne_of_ne {key key' serial serial' : String} {aeeType aeeType' : AeeType}
    {kind kind' : StateKind} (h : parseLegacyKey key = some (serial, aeeType, kind))
    (h' : parseLegacyKey key' = some (serial', aeeType', kind')) (hne : key ≠ key') :
    stateKey watcherAeeStatePrefix serial aeeType kind ≠
      stateKey watcherAeeStatePrefix serial' aeeType' kind' := by
  intro heq
  obtain ⟨rfl, rfl, rfl⟩ := stateKey_injective heq
  exact hne ((parseLegacyKey_eq_some_iff.mp h).1.trans (parseLegacyKey_eq_some_iff.mp h').1.symm)

/-- A row is merged once. -/
theorem get?_foldl_of_mem {rows : List (String × String)} (hkeys : (rows.map Prod.fst).Nodup)
    {row : String × String} (hrow : row ∈ rows) {serial : String} {aeeType : AeeType}
    {kind : StateKind} (hparse : parseLegacyKey row.1 = some (serial, aeeType, kind))
    {state : Dict String × MigrationSummary} (hrun : state.2.dryRun = false) :
    (rows.foldl (migrateRow text) state).1.get?
        (stateKey watcherAeeStatePrefix serial aeeType kind) =
      rowAfter text kind row.2
        (state.1.get? (stateKey watcherAeeStatePrefix serial aeeType kind)) := by
  induction rows generalizing state with
  | nil => cases hrow
  | cons first rows ih =>
      rw [List.map_cons, List.nodup_cons] at hkeys
      rw [List.foldl_cons]
      rcases List.mem_cons.mp hrow with rfl | hrow
      · rw [get?_foldl_of_ne fun other hother serial' aeeType' kind' hparse' =>
          stateKey_ne_of_ne hparse hparse' fun heq =>
            hkeys.1 (heq ▸ List.mem_map_of_mem (f := Prod.fst) hother), get?_migrateRow hrun hparse]
      · have hne : row.1 ≠ first.1 := fun heq =>
          hkeys.1 (heq ▸ List.mem_map_of_mem (f := Prod.fst) hrow)
        rw [ih hkeys.2 hrow (by rw [dryRun_migrateRow, hrun]),
          get?_migrateRow_of_ne fun serial' aeeType' kind' hparse' =>
            stateKey_ne_of_ne hparse hparse' hne]

/-- Rows that are merged already change nothing. -/
theorem foldl_of_fixed {rows : List (String × String)} {state : Dict String × MigrationSummary}
    (hfixed : ∀ row ∈ rows, ∀ serial aeeType kind,
      parseLegacyKey row.1 = some (serial, aeeType, kind) →
        rowAfter text kind row.2
            (state.1.get? (stateKey watcherAeeStatePrefix serial aeeType kind)) =
          state.1.get? (stateKey watcherAeeStatePrefix serial aeeType kind)) :
    (rows.foldl (migrateRow text) state).1 = state.1 := by
  induction rows generalizing state with
  | nil => rfl
  | cons row rows ih =>
      rw [List.forall_mem_cons] at hfixed
      have hrow := migrateRow_of_fixed hfixed.1
      rw [List.foldl_cons, ih (by rw [hrow]; exact hfixed.2), hrow]

/-- The old keys are among those the migration reads. -/
theorem likeChars_legacy (serial : String) (aeeType : AeeType) (kind : StateKind) :
    likeChars (legacyPatrolStatePrefix ++ ":").toList
      (stateKey legacyPatrolStatePrefix serial aeeType kind).toList = true := by
  have hsame : ∀ pattern rest : List Char, likeChars pattern (pattern ++ rest) = true := by
    intro pattern rest
    induction pattern with
    | nil => rfl
    | cons c pattern ih => simp [likeChars, ih]
  have hchars : (stateKey legacyPatrolStatePrefix serial aeeType kind).toList =
      (legacyPatrolStatePrefix ++ ":").toList ++
        (serial ++ ":" ++ aeeType.name ++ ":" ++ kind.name).toList := by
    simp [stateKey]
  rw [hchars]
  exact hsame _ _

/-- The new keys are not. -/
theorem likeChars_watcher (serial : String) (aeeType : AeeType) (kind : StateKind) :
    likeChars (legacyPatrolStatePrefix ++ ":").toList
      (stateKey watcherAeeStatePrefix serial aeeType kind).toList = false := by
  have hchars : (stateKey watcherAeeStatePrefix serial aeeType kind).toList =
      'w' :: ("atcher:aee:" ++ serial ++ ":" ++ aeeType.name ++ ":" ++ kind.name).toList := by
    simp [stateKey, watcherAeeStatePrefix]
  have hpattern : (legacyPatrolStatePrefix ++ ":").toList = 's' :: "can_aee:".toList := by decide
  rw [hchars, hpattern, likeChars]
  have hfirst : ('s' == '_' || 's'.toLower == 'w'.toLower) = false := by decide
  rw [hfirst, Bool.false_and]

/-- The old rows stay as they are. -/
theorem legacyRows_migrate : legacyRows (migrate text d) = legacyRows d := by
  have hrow : ∀ (state : Dict String × MigrationSummary) (row : String × String),
      legacyRows (migrateRow text state row).1 = legacyRows state.1 := by
    intro state row
    rw [migrateRow]
    dsimp only
    cases parseLegacyKey row.1 with
    | none => rfl
    | some parsed =>
        obtain ⟨serial, aeeType, kind⟩ := parsed
        dsimp only
        split
        · rfl
        · split
          · rfl
          · split
            · rfl
            · exact Dict.filter_set (p := fun key =>
                likeChars (legacyPatrolStatePrefix ++ ":").toList key.toList) _ _ (likeChars_watcher serial aeeType kind)
  have hrows : ∀ (rows : List (String × String)) (state : Dict String × MigrationSummary),
      legacyRows (rows.foldl (migrateRow text) state).1 = legacyRows state.1 := by
    intro rows
    induction rows with
    | nil => exact fun _ => rfl
    | cons row rows ih =>
        intro state
        rw [List.foldl_cons, ih, hrow]
  exact hrows _ _

/-- The keys of the rows that are read differ. -/
theorem nodup_legacyRows : ((legacyRows d).map Prod.fst).Nodup :=
  d.nodup.sublist (List.filter_sublist.map Prod.fst)

/-- A row under an old key is read. -/
theorem mem_legacyRows {serial value : String} {aeeType : AeeType} {kind : StateKind}
    (h : d.get? (stateKey legacyPatrolStatePrefix serial aeeType kind) = some value) :
    (stateKey legacyPatrolStatePrefix serial aeeType kind, value) ∈ legacyRows d :=
  List.mem_filter.mpr ⟨Dict.get?_eq_some_iff.mp h, likeChars_legacy serial aeeType kind⟩

/-- **What becomes of a row** when there is an old one that can be read. -/
theorem get?_migrate {serial oldValue : String} {aeeType : AeeType} {kind : StateKind}
    (hserial : serial ≠ "") (hcolon : ':' ∉ serial.toList)
    (hold : d.get? (stateKey legacyPatrolStatePrefix serial aeeType kind) = some oldValue) :
    (migrate text d).get? (stateKey watcherAeeStatePrefix serial aeeType kind) =
      rowAfter text kind oldValue
        (d.get? (stateKey watcherAeeStatePrefix serial aeeType kind)) :=
  get?_foldl_of_mem nodup_legacyRows (mem_legacyRows hold)
    (parseLegacyKey_eq_some_iff.mpr ⟨rfl, hserial, hcolon⟩) rfl

/-- **The other rows stay as they are.** -/
theorem get?_migrate_of_ne {key : String}
    (hne : ∀ serial aeeType kind, serial ≠ "" → ':' ∉ serial.toList →
      (∃ oldValue, d.get? (stateKey legacyPatrolStatePrefix serial aeeType kind) = some oldValue) →
        key ≠ stateKey watcherAeeStatePrefix serial aeeType kind) :
    (migrate text d).get? key = d.get? key := by
  refine get?_foldl_of_ne (fun row hrow serial aeeType kind hparse => ?_) _
  obtain ⟨hkey, hserial, hcolon⟩ := parseLegacyKey_eq_some_iff.mp hparse
  refine hne serial aeeType kind hserial hcolon ⟨row.2, ?_⟩
  rw [← hkey]
  exact Dict.get?_eq_some_iff.mpr (List.mem_filter.mp hrow).1

/-- **Migrating again changes nothing.** -/
theorem migrate_migrate (text : JsonText) (d : Dict String) :
    migrate text (migrate text d) = migrate text d := by
  have hrows : legacyRows (migrate text d) = legacyRows d := legacyRows_migrate
  rw [migrate, migrateLegacyAeeStateKeys, hrows]
  refine foldl_of_fixed fun row hrow serial aeeType kind hparse => ?_
  obtain ⟨hkey, hserial, hcolon⟩ := parseLegacyKey_eq_some_iff.mp hparse
  have hold : d.get? (stateKey legacyPatrolStatePrefix serial aeeType kind) = some row.2 := by
    rw [← hkey]
    exact Dict.get?_eq_some_iff.mpr (List.mem_filter.mp hrow).1
  dsimp only
  rw [get?_migrate hserial hcolon hold, rowAfter_again]

end Migration

/-! ### What the books say -/

/-- The text of a book: that of its row, or that of an empty book. -/
def stateValue (d : Dict String) (keyPrefix serial : String) (aeeType : AeeType)
    (kind : StateKind) : String :=
  (d.get? (stateKey keyPrefix serial aeeType kind)).getD kind.defaultValue

/-- The processed lines of a device, if they decode. -/
def processedLines (text : JsonText) (d : Dict String) (keyPrefix serial : String)
    (aeeType : AeeType) : Option (Finset String) :=
  loadJsonList text (stateValue d keyPrefix serial aeeType .processedEntries)

/-- The pending tasks of a device, if they decode. -/
def pendingTasks (text : JsonText) (d : Dict String) (keyPrefix serial : String)
    (aeeType : AeeType) : Option (Dict Json) :=
  loadJsonDict text (stateValue d keyPrefix serial aeeType .pendingPull)

section Books

variable {text : JsonText} {d : Dict String} {serial : String} {aeeType : AeeType}

/-- The text of a book after the migration. -/
theorem stateValue_migrate {kind : StateKind} {oldValue : String} (hserial : serial ≠ "")
    (hcolon : ':' ∉ serial.toList)
    (hold : d.get? (stateKey legacyPatrolStatePrefix serial aeeType kind) = some oldValue) :
    stateValue (migrate text d) watcherAeeStatePrefix serial aeeType kind =
      (mergeStateValue text kind oldValue
        (stateValue d watcherAeeStatePrefix serial aeeType kind)).getD
          (stateValue d watcherAeeStatePrefix serial aeeType kind) := by
  rw [stateValue, get?_migrate hserial hcolon hold, rowAfter, stateValue]
  cases mergeStateValue text kind oldValue _ with
  | none => rfl
  | some merged =>
      dsimp only
      split
      · rename_i hsame
        exact hsame.symm
      · rfl

/-- The text of a book that nothing is merged into. -/
theorem stateValue_migrate_of_ne {kind : StateKind}
    (hnone : serial = "" ∨ ':' ∈ serial.toList ∨
      d.get? (stateKey legacyPatrolStatePrefix serial aeeType kind) = none) :
    stateValue (migrate text d) watcherAeeStatePrefix serial aeeType kind =
      stateValue d watcherAeeStatePrefix serial aeeType kind := by
  rw [stateValue, stateValue, get?_migrate_of_ne]
  rintro serial' aeeType' kind' hserial hcolon ⟨oldValue, hold⟩ heq
  obtain ⟨rfl, rfl, rfl⟩ := stateKey_injective heq
  rcases hnone with hempty | hmem | hnone
  · exact hserial hempty
  · exact hcolon hmem
  · cases hnone.symm.trans hold

/-- The text of a book after the migration: as it was, or merged. -/
theorem stateValue_migrate_cases (text : JsonText) (d : Dict String) (serial : String)
    (aeeType : AeeType) (kind : StateKind) :
    stateValue (migrate text d) watcherAeeStatePrefix serial aeeType kind =
        stateValue d watcherAeeStatePrefix serial aeeType kind ∨
      ∃ oldValue merged, mergeStateValue text kind oldValue
          (stateValue d watcherAeeStatePrefix serial aeeType kind) = some merged ∧
        stateValue (migrate text d) watcherAeeStatePrefix serial aeeType kind = merged := by
  by_cases hserial : serial = ""
  · exact .inl (stateValue_migrate_of_ne (.inl hserial))
  by_cases hcolon : ':' ∈ serial.toList
  · exact .inl (stateValue_migrate_of_ne (.inr (.inl hcolon)))
  cases hold : d.get? (stateKey legacyPatrolStatePrefix serial aeeType kind) with
  | none => exact .inl (stateValue_migrate_of_ne (.inr (.inr hold)))
  | some oldValue =>
      have hvalue := @stateValue_migrate text _ _ _ _ _ hserial hcolon hold
      cases hmerge : mergeStateValue text kind oldValue
          (stateValue d watcherAeeStatePrefix serial aeeType kind) with
      | none =>
          rw [hmerge] at hvalue
          exact .inl hvalue
      | some merged =>
          rw [hmerge] at hvalue
          exact .inr ⟨oldValue, merged, hmerge, hvalue⟩

/-- Merged lines are those of both. -/
theorem loadJsonList_merge {oldValue newValue : String} {old new : Finset String}
    (hold : loadJsonList text oldValue = some old) (hnew : loadJsonList text newValue = some new) :
    ∃ merged, mergeStateValue text .processedEntries oldValue newValue = some merged ∧
      loadJsonList text merged = some (new ∪ old) := by
  refine ⟨dumpLines text (new ∪ old), ?_, loadJsonList_dumpLines _⟩
  rw [mergeStateValue, hold, Option.bind_some, hnew, Option.map_some]

/-- Merged tasks are those of both, and the new ones where there are two. -/
theorem loadJsonDict_merge {oldValue newValue : String} {old new : Dict Json}
    (hold : loadJsonDict text oldValue = some old) (hnew : loadJsonDict text newValue = some new) :
    ∃ merged tasks, mergeStateValue text .pendingPull oldValue newValue = some merged ∧
      loadJsonDict text merged = some tasks ∧
        ∀ line, (tasks.get? line).map Json.norm =
          ((new.get? line).or (old.get? line)).map Json.norm := by
  obtain ⟨tasks, hread, hfields⟩ := loadJsonDict_dumps (distinct_update hold hnew)
  refine ⟨_, tasks, by rw [mergeStateValue, hold, Option.bind_some, hnew, Option.map_some], hread,
    fun line => ?_⟩
  rw [hfields, Dict.get?_update, Option.map_map]
  have hnorm : Json.norm ∘ Json.norm = Json.norm := funext Json.norm_norm
  rw [hnorm]

/-- Lines before the migration are there after it. -/
theorem keptLines_migrate {new : Finset String}
    (hnew : processedLines text d watcherAeeStatePrefix serial aeeType = some new) :
    ∃ merged, processedLines text (migrate text d) watcherAeeStatePrefix serial aeeType =
      some merged ∧ new ⊆ merged := by
  rcases stateValue_migrate_cases text d serial aeeType .processedEntries with
    hsame | ⟨oldValue, merged, hmerge, hvalue⟩
  · exact ⟨new, by rw [processedLines, hsame]; exact hnew, Finset.Subset.refl _⟩
  · obtain ⟨old, hold, -⟩ := Option.bind_eq_some_iff.mp hmerge
    obtain ⟨merged', hmerge', hread⟩ := loadJsonList_merge hold hnew
    have heq := Option.some.inj (hmerge.symm.trans hmerge')
    rw [processedLines, hvalue, heq]
    exact ⟨_, hread, Finset.subset_union_left⟩

/-- Tasks before the migration are there after it. -/
theorem keptTasks_migrate {new : Dict Json}
    (hnew : pendingTasks text d watcherAeeStatePrefix serial aeeType = some new) :
    ∃ merged, pendingTasks text (migrate text d) watcherAeeStatePrefix serial aeeType =
        some merged ∧
      ∀ line task, new.get? line = some task →
        (merged.get? line).map Json.norm = some task.norm := by
  rcases stateValue_migrate_cases text d serial aeeType .pendingPull with
    hsame | ⟨oldValue, merged, hmerge, hvalue⟩
  · refine ⟨new, by rw [pendingTasks, hsame]; exact hnew, fun line task htask => ?_⟩
    rw [htask, Option.map_some]
  · obtain ⟨old, hold, -⟩ := Option.bind_eq_some_iff.mp hmerge
    obtain ⟨merged', tasks, hmerge', hread, hfields⟩ := loadJsonDict_merge hold hnew
    have heq := Option.some.inj (hmerge.symm.trans hmerge')
    rw [pendingTasks, hvalue, heq]
    refine ⟨tasks, hread, fun line task htask => ?_⟩
    rw [hfields, htask, Option.some_or, Option.map_some]

/-- The old lines of a device without a colon in its serial are moved. -/
theorem movedLines_migrate {old new : Finset String} (hserial : serial ≠ "")
    (hcolon : ':' ∉ serial.toList)
    (hold : processedLines text d legacyPatrolStatePrefix serial aeeType = some old)
    (hnew : processedLines text d watcherAeeStatePrefix serial aeeType = some new) :
    processedLines text (migrate text d) watcherAeeStatePrefix serial aeeType =
      some (new ∪ old) := by
  rw [processedLines, stateValue] at hold
  cases hrow : d.get? (stateKey legacyPatrolStatePrefix serial aeeType .processedEntries) with
  | none =>
      rw [hrow, Option.getD_none, loadJsonList_default] at hold
      rw [processedLines, stateValue_migrate_of_ne (.inr (.inr hrow)), ← Option.some.inj hold,
        Finset.union_empty]
      exact hnew
  | some oldValue =>
      rw [hrow, Option.getD_some] at hold
      obtain ⟨merged, hmerge, hread⟩ := loadJsonList_merge hold hnew
      rw [processedLines, stateValue_migrate hserial hcolon hrow, hmerge]
      exact hread

/-- The old tasks of a device without a colon in its serial are moved. -/
theorem movedTasks_migrate {old new : Dict Json} (hserial : serial ≠ "")
    (hcolon : ':' ∉ serial.toList)
    (hold : pendingTasks text d legacyPatrolStatePrefix serial aeeType = some old)
    (hnew : pendingTasks text d watcherAeeStatePrefix serial aeeType = some new) :
    ∃ merged, pendingTasks text (migrate text d) watcherAeeStatePrefix serial aeeType =
        some merged ∧
      ∀ line, (merged.get? line).map Json.norm =
        ((new.get? line).or (old.get? line)).map Json.norm := by
  rw [pendingTasks, stateValue] at hold
  cases hrow : d.get? (stateKey legacyPatrolStatePrefix serial aeeType .pendingPull) with
  | none =>
      rw [hrow, Option.getD_none, loadJsonDict_default] at hold
      rw [pendingTasks, stateValue_migrate_of_ne (.inr (.inr hrow)), ← Option.some.inj hold]
      exact ⟨new, hnew, fun line => by rw [Dict.get?_empty, Option.or_none]⟩
  | some oldValue =>
      rw [hrow, Option.getD_some] at hold
      obtain ⟨merged, tasks, hmerge, hread, hfields⟩ := loadJsonDict_merge hold hnew
      rw [pendingTasks, stateValue_migrate hserial hcolon hrow, hmerge]
      exact ⟨tasks, hread, hfields⟩

end Books

/-- The migration is safe for a table: it may be repeated, moves what there is of every device, and
leaves what there was. -/
structure MigrationSafe (text : JsonText) (d : Dict String) : Prop where
  again : migrate text (migrate text d) = migrate text d
  lines : ∀ serial aeeType old new, serial ≠ "" →
    processedLines text d legacyPatrolStatePrefix serial aeeType = some old →
    processedLines text d watcherAeeStatePrefix serial aeeType = some new →
    ∃ merged, processedLines text (migrate text d) watcherAeeStatePrefix serial aeeType =
      some merged ∧ old ∪ new ⊆ merged
  tasks : ∀ serial aeeType old new, serial ≠ "" →
    pendingTasks text d legacyPatrolStatePrefix serial aeeType = some old →
    pendingTasks text d watcherAeeStatePrefix serial aeeType = some new →
    ∃ merged, pendingTasks text (migrate text d) watcherAeeStatePrefix serial aeeType =
        some merged ∧
      ∀ line, (merged.get? line).map Json.norm =
        ((new.get? line).or (old.get? line)).map Json.norm
  keptLines : ∀ serial aeeType new,
    processedLines text d watcherAeeStatePrefix serial aeeType = some new →
    ∃ merged, processedLines text (migrate text d) watcherAeeStatePrefix serial aeeType =
      some merged ∧ new ⊆ merged
  keptTasks : ∀ serial aeeType new,
    pendingTasks text d watcherAeeStatePrefix serial aeeType = some new →
    ∃ merged, pendingTasks text (migrate text d) watcherAeeStatePrefix serial aeeType =
        some merged ∧
      ∀ line task, new.get? line = some task →
        ∃ task', merged.get? line = some task' ∧ task'.norm = task.norm ∧
          (task'.field "retry_count").map Json.norm = (task.field "retry_count").map Json.norm
  keptRows : ∀ key,
    (∀ serial aeeType kind, key ≠ stateKey watcherAeeStatePrefix serial aeeType kind) →
    (migrate text d).get? key = d.get? key

/-- What a device with a colon in its serial has under the old keys is under the new ones
already. -/
def NetworkBooksMoved (text : JsonText) (d : Dict String) : Prop :=
  ∀ serial aeeType, ':' ∈ serial.toList →
    (∀ old new, processedLines text d legacyPatrolStatePrefix serial aeeType = some old →
      processedLines text d watcherAeeStatePrefix serial aeeType = some new → old ⊆ new) ∧
    (∀ old new, pendingTasks text d legacyPatrolStatePrefix serial aeeType = some old →
      pendingTasks text d watcherAeeStatePrefix serial aeeType = some new →
        ∀ line task, old.get? line = some task → ∃ task', new.get? line = some task')

/-- **The migration is safe** when no device with a colon in its serial has a line under the old
keys that it does not have under the new ones, and only then. -/
theorem migration_safe_iff (text : JsonText) (d : Dict String) :
    MigrationSafe text d ↔ NetworkBooksMoved text d := by
  constructor
  · intro hsafe serial aeeType hcolon
    have hserial : serial ≠ "" := by
      rintro rfl
      cases hcolon
    refine ⟨fun old new hold hnew => ?_, fun old new hold hnew line task htask => ?_⟩
    · obtain ⟨merged, hmerged, hsub⟩ := hsafe.lines serial aeeType old new hserial hold hnew
      rw [processedLines, stateValue_migrate_of_ne (.inr (.inl hcolon))] at hmerged
      rw [Option.some.inj (hnew.symm.trans hmerged)]
      exact Finset.subset_union_left.trans hsub
    · obtain ⟨merged, hmerged, hfields⟩ := hsafe.tasks serial aeeType old new hserial hold hnew
      rw [pendingTasks, stateValue_migrate_of_ne (.inr (.inl hcolon))] at hmerged
      have hline := hfields line
      rw [← Option.some.inj (hnew.symm.trans hmerged), htask] at hline
      cases hnewTask : new.get? line with
      | some task' => exact ⟨task', rfl⟩
      | none =>
          rw [hnewTask] at hline
          cases hline
  · intro hmoved
    refine ⟨migrate_migrate text d, fun serial aeeType old new hserial hold hnew => ?_,
      fun serial aeeType old new hserial hold hnew => ?_, fun _ _ _ => keptLines_migrate,
      fun _ _ _ hnew => ?_, fun key hkey => ?_⟩
    · by_cases hcolon : ':' ∈ serial.toList
      · rw [processedLines, stateValue_migrate_of_ne (.inr (.inl hcolon))]
        exact ⟨new, hnew, Finset.union_subset ((hmoved serial aeeType hcolon).1 old new hold hnew)
          (Finset.Subset.refl _)⟩
      · refine ⟨_, movedLines_migrate hserial hcolon hold hnew, ?_⟩
        rw [Finset.union_comm]
    · by_cases hcolon : ':' ∈ serial.toList
      · rw [pendingTasks, stateValue_migrate_of_ne (.inr (.inl hcolon))]
        refine ⟨new, hnew, fun line => ?_⟩
        cases hline : old.get? line with
        | none => rw [Option.or_none]
        | some task =>
            obtain ⟨task', htask'⟩ :=
              (hmoved serial aeeType hcolon).2 old new hold hnew line task hline
            rw [htask', Option.some_or]
      · exact movedTasks_migrate hserial hcolon hold hnew
    · obtain ⟨merged, hmerged, hfields⟩ := keptTasks_migrate hnew
      refine ⟨merged, hmerged, fun line task htask => ?_⟩
      obtain ⟨task', htask', hnorm⟩ := Option.map_eq_some_iff.mp (hfields line task htask)
      exact ⟨task', htask', hnorm, Json.field_congr hnorm _⟩
    · exact get?_migrate_of_ne fun serial aeeType kind _ _ _ => hkey serial aeeType kind

/-- The key of the processed lines of a device that is reached over the network. -/
def networkKey : String := "scan_aee:10.0.0.7:5555:aee_exp:processed_entries"

/-- **The lines of a device on the network are left behind.** -/
theorem network_lines_left_behind :
    let d : Dict String := ⟨[(networkKey, "[\"line\"]")], by simp⟩
    ∃ text : JsonText,
      processedLines text d legacyPatrolStatePrefix "10.0.0.7:5555" .aeeExp = some {"line"} ∧
      processedLines text (migrate text d) watcherAeeStatePrefix "10.0.0.7:5555" .aeeExp = some ∅ ∧
      ¬ MigrationSafe text d := by
  intro d
  have hold : processedLines .compact d legacyPatrolStatePrefix "10.0.0.7:5555" .aeeExp =
      some {"line"} := by
    have htext : dumpLines .compact {"line"} = "[\"line\"]" := by
      rw [dumpLines, Finset.sort_singleton]
      decide +kernel
    have hread := @loadJsonList_dumpLines .compact {"line"}
    rw [htext] at hread
    exact hread
  have hnew : processedLines .compact d watcherAeeStatePrefix "10.0.0.7:5555" .aeeExp = some ∅ :=
    loadJsonList_default
  have hafter : processedLines .compact (migrate .compact d) watcherAeeStatePrefix "10.0.0.7:5555"
      .aeeExp = some ∅ := by
    rw [processedLines, stateValue_migrate_of_ne (.inr (.inl (by decide)))]
    exact hnew
  refine ⟨.compact, hold, hafter, fun hsafe => ?_⟩
  obtain ⟨merged, hmerged, hsub⟩ :=
    hsafe.lines "10.0.0.7:5555" .aeeExp _ _ (by decide) hold hnew
  rw [← Option.some.inj (hafter.symm.trans hmerged), Finset.union_empty] at hsub
  exact absurd (hsub (Finset.mem_singleton_self _)) (Finset.notMem_empty _)

end StabilityPlatform
