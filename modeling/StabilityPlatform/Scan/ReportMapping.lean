import StabilityPlatform.Core.PyVal
import StabilityPlatform.Lib.Fold
import StabilityPlatform.Lib.Pattern
import StabilityPlatform.PlanRun.Classification

/-!
# The rows of a scan report

A report of the scan tool is checked before it is uploaded. Every data row has to give evidence of
the devices it is about, by its columns, by the place of its path under the scan root, or by the
source its path lies in, and all of these devices have to be of the run. A row is mapped to a source
if its path lies in just one.

## Main results

* `reportMapping`: the rows of a report, mapped, or the reason it is rejected.
* `Evidenced`: **a row is evidence of a serial**; `mem_rowSerials_iff`: what is collected.
* `soleSource_eq_some_iff`: the source of a row is the only one its path lies in.
* `report_mapping_faithful`: an accepted report has an entry for every data row, mapped to the only
  source, and is about devices of the run.
-/

namespace StabilityPlatform.ScanReport

open Lib

/-! ### Reports -/

/-- A sheet as `xlrd` reads it; a cell is what `str` makes of it. -/
structure Sheet where
  name : String
  ncols : ℕ
  rows : List (Fin ncols → String)

/-- The column of a name: the last one, as in a dict. -/
def column? {ncols : ℕ} (header : Fin ncols → String) (name : String) : Option (Fin ncols) :=
  (List.finRange ncols).reverse.find? fun c => pyLower (pyStrip (header c)) = name

/-- A data row. -/
structure DataRow where
  sheet : String
  row : ℕ
  cell : String → Option String

/-- `raw`; there is such a column. -/
def DataRow.path (row : DataRow) : String := (row.cell "path").getD ""

/-- The data rows of a sheet. -/
def Sheet.dataRows (sheet : Sheet) : List DataRow :=
  match sheet.rows with
  | [] => []
  | header :: rest =>
    (rest.zipIdx 2).map fun x => ⟨sheet.name, x.2, fun name => (column? header name).map x.1⟩

/-! ### Sources -/

/-- A directory of an event. -/
structure ScanSource where
  /-- `str(id)`. -/
  id : String
  serial : String
  occurrenceKey : Option String
  /-- `local` or `spill`. -/
  source : String
  scanPath : String
  localPath : String
  deriving DecidableEq

/-- Why a report is not mapped. -/
inductive MappingFailure where
  /-- `ScanReportMappingError`. -/
  | rejected (reason : String) (row : ℕ) (detail : String)
  /-- A path cannot be resolved. -/
  | unresolvable (path : String)
  deriving DecidableEq

/-- The parts of a path once it is resolved, if it can be. -/
abbrev Resolve := String → Option (List String)

/-- `Path(path).resolve()`. -/
def Resolve.parts (resolve : Resolve) (path : String) : Except MappingFailure (List String) :=
  match resolve path with
  | some parts => .ok parts
  | none => .error (.unresolvable path)

/-- A source with its directories resolved. -/
structure SourceRoot where
  source : ScanSource
  staged : List String
  localDir : Option (List String)

/-- A member of `source_roots`. -/
def ScanSource.root (resolve : Resolve) (source : ScanSource) : Except MappingFailure SourceRoot := do
  let staged ← resolve.parts source.scanPath
  let localDir ← (if source.source = "local" then
    (resolve.parts source.localPath).map some else .ok none)
  return ⟨source, staged, localDir⟩

/-- A path lies in a source. -/
def SourceRoot.contains (root : SourceRoot) (path : List String) : Bool :=
  root.staged.isPrefixOf path || root.localDir.any fun dir => dir.isPrefixOf path

/-- `match`: the source a path lies in, if it is the only one. -/
def soleSource (roots : List SourceRoot) (path : List String) : Option ScanSource :=
  match roots.filter fun root => root.contains path with
  | [root] => some root.source
  | _ => none

/-! ### Evidence -/

/-- `UNKNOWN_DEVICE_ID_VALUES`. -/
def unknownDeviceIdValues : List String :=
  ["none", "undefined", "unknown_device_id", "discard_device_id"]

/-- `normalize_device_id`. -/
def normalizeDeviceId (value : String) : Option String :=
  let text := pyStrip value
  if text = "" ∨ pyLower text ∈ unknownDeviceIdValues then none else some text

/-- `Device_id:\s*([^\s,;]+)`. -/
def deviceIdPattern : Pattern :=
  .seqs ("Device_id:".toList.map .char ++ [.rep isPySpace 0 none,
    .group "id" (.rep (fun c => !isPySpace c && c != ',' && c != ';') 1 none)])

/-- The devices a detail names. -/
def deviceIds (detail : String) : List String :=
  (deviceIdPattern.findAll detail.toList).filterMap fun groups =>
    (groups.lookup "id").map String.ofList

/-- The device whose directory under the scan root a path lies in. -/
def layoutSerial (root path : List String) : Option String :=
  if root.isPrefixOf path then
    let rel := path.drop root.length
    let parts := if rel.head? = some "spill_inputs" then rel.drop 2 else rel
    if 3 ≤ parts.length then parts[1]? else none
  else none

/-- `row_serials`. -/
def rowSerials (roots : List SourceRoot) (root path : List String) (row : DataRow) : List String :=
  ((soleSource roots path).map ScanSource.serial).toList ++
    ["serial", "device_id"].filterMap (fun name => (row.cell name).bind normalizeDeviceId) ++
    ((row.cell "detail").toList.flatMap deviceIds).filterMap normalizeDeviceId ++
    (layoutSerial root path).toList

/-! ### The mapping -/

/-- An entry of the mapping. -/
structure MappedRow where
  sheet : String
  row : ℕ
  path : String
  dleId : Option String
  occurrenceKey : Option String
  source : Option String
  mapped : Bool
  deriving DecidableEq

/-- What the mapping is asked with. -/
structure MappingArgs where
  serials : List String
  sources : List ScanSource
  scanRoot : String
  planRunId : ℤ
  hostId : String
  platform : String
  factRoundId : Option ℤ
  requireSerialEvidence : Bool
  eventsUnavailable : Bool

/-- The mapping of a report. -/
structure ReportMapping where
  schemaVersion : ℤ
  planRunId : ℤ
  hostId : String
  platform : String
  rows : List MappedRow
  factRoundId : Option ℤ
  eventsUnavailable : Bool

/-- The path of a row with slashes. -/
def slashed (path : String) : String :=
  String.ofList (path.toList.map fun c => if c = '\\' then '/' else c)

/-- The entry of a row. -/
def mapEntry (row : DataRow) (found : Option ScanSource) : MappedRow where
  sheet := row.sheet
  row := row.row
  path := row.path
  dleId := found.map ScanSource.id
  occurrenceKey := found.bind ScanSource.occurrenceKey
  source := found.map ScanSource.source
  mapped := found.isSome

/-- A row is mapped, or the report is rejected for it. -/
def mapRow (resolve : Resolve) (serials : List String) (roots : List SourceRoot)
    (root : List String) (row : DataRow) : Except MappingFailure MappedRow := do
  let path ← resolve.parts (slashed row.path)
  let found := rowSerials roots root path row
  if found = [] then
    .error (.rejected "unprovable" row.row
      ("scan report serial evidence unprovable at row " ++ row.row.repr))
  else if ¬found ⊆ serials then
    .error (.rejected "outside_run" row.row
      ("scan report serial outside run at row " ++ row.row.repr))
  else return mapEntry row (soleSource roots path)

/-- A sheet is mapped. -/
def mapSheet (resolve : Resolve) (serials : List String) (roots : List SourceRoot)
    (root : List String) (sheet : Sheet) : Except MappingFailure (List MappedRow) :=
  match sheet.rows with
  | [] => .ok []
  | header :: _ =>
    if (column? header "path").isNone then
      .error (.rejected "missing_path" 1 "scan report lacks Path column")
    else sheet.dataRows.mapM (mapRow resolve serials roots root)

/-- `report_mapping`. -/
def reportMapping (resolve : Resolve) (args : MappingArgs) (sheets : List Sheet) :
    Except MappingFailure ReportMapping := do
  let roots ← args.sources.mapM (ScanSource.root resolve)
  let root ← resolve.parts args.scanRoot
  let rows ← sheets.mapM (mapSheet resolve args.serials roots root)
  if args.requireSerialEvidence ∧ rows.flatten = [] then
    .error (.rejected "no_rows" 0 "timed-out report has no run serial evidence")
  else
    return ⟨1, args.planRunId, args.hostId, args.platform, rows.flatten, args.factRoundId,
      args.eventsUnavailable⟩

/-! ### The only source -/

variable {resolve : Resolve} {args : MappingArgs}

/-- The path of a row lies in a source: where it is scanned, or where it is, if it is local. -/
def LiesIn (resolve : Resolve) (source : ScanSource) (row : DataRow) : Prop :=
  ∃ path, resolve (slashed row.path) = some path ∧
    ((∃ staged, resolve source.scanPath = some staged ∧ staged <+: path) ∨
      source.source = "local" ∧ ∃ dir, resolve source.localPath = some dir ∧ dir <+: path)

/-- **The only source** of a row: its path lies in this one and in no other one of the list. -/
def OnlySource (resolve : Resolve) (args : MappingArgs) (row : DataRow) (source : ScanSource) :
    Prop :=
  ∃ before after, args.sources = before ++ source :: after ∧ LiesIn resolve source row ∧
    ∀ other ∈ before ++ after, ¬LiesIn resolve other row

/-- What a resolved path is. -/
theorem parts_eq_ok_iff {path : String} {parts : List String} :
    resolve.parts path = .ok parts ↔ resolve path = some parts := by
  rw [Resolve.parts]
  cases resolve path with
  | none => simp
  | some found => simp

/-- A resolved source is the source, and contains what lies in it. -/
theorem ScanSource.root_spec {source : ScanSource} {root : SourceRoot}
    (h : source.root resolve = .ok root) {row : DataRow} {path : List String}
    (hpath : resolve (slashed row.path) = some path) :
    root.source = source ∧ (root.contains path = true ↔ LiesIn resolve source row) := by
  rw [ScanSource.root] at h
  obtain ⟨staged, hstaged, h⟩ := Except.bind_eq_ok_iff.mp h
  obtain ⟨localDir, hdir, h⟩ := Except.bind_eq_ok_iff.mp h
  cases h
  rw [parts_eq_ok_iff] at hstaged
  have hsame : LiesIn resolve source row ↔ staged <+: path ∨
      source.source = "local" ∧ ∃ dir, resolve source.localPath = some dir ∧ dir <+: path := by
    rw [LiesIn]
    simp only [hpath, hstaged, Option.some.injEq, exists_eq_left']
  refine ⟨rfl, ?_⟩
  rw [hsame, SourceRoot.contains, Bool.or_eq_true, List.isPrefixOf_iff_prefix]
  refine or_congr Iff.rfl ?_
  by_cases hlocal : source.source = "local"
  · rw [if_pos hlocal] at hdir
    cases hparts : resolve source.localPath with
    | none =>
        rw [Resolve.parts, hparts] at hdir
        cases hdir
    | some dir =>
        rw [Resolve.parts, hparts] at hdir
        cases hdir
        simp [hlocal]
  · rw [if_neg hlocal] at hdir
    cases hdir
    simp [hlocal]

/-- One member of a list meets a condition, and it alone. -/
theorem filter_eq_singleton_iff {α : Type*} {p : α → Bool} {l : List α} {a : α} :
    l.filter p = [a] ↔
      ∃ before after, l = before ++ a :: after ∧ p a = true ∧ ∀ b ∈ before ++ after, ¬p b = true := by
  rw [List.filter_eq_cons_iff]
  constructor
  · rintro ⟨before, after, rfl, hbefore, ha, hafter⟩
    refine ⟨before, after, rfl, ha, fun b hb => ?_⟩
    rcases List.mem_append.mp hb with hb | hb
    · exact hbefore b hb
    · exact List.filter_eq_nil_iff.mp hafter b hb
  · rintro ⟨before, after, rfl, ha, hothers⟩
    exact ⟨before, after, rfl, fun b hb => hothers b (List.mem_append_left _ hb), ha,
      List.filter_eq_nil_iff.mpr fun b hb => hothers b (List.mem_append_right _ hb)⟩

/-- **The source of a row** is the only one its path lies in. -/
theorem soleSource_eq_some_iff {roots : List SourceRoot}
    (hroots : args.sources.mapM (ScanSource.root resolve) = .ok roots) {row : DataRow}
    {path : List String} (hpath : resolve (slashed row.path) = some path) {source : ScanSource} :
    soleSource roots path = some source ↔ OnlySource resolve args row source := by
  have hall := mapM_eq_ok_iff.mp hroots
  have hsources : roots.map SourceRoot.source = args.sources := by
    rw [← List.forall₂_eq_eq_eq, List.forall₂_map_left_iff]
    exact hall.flip.imp fun root source hroot => (ScanSource.root_spec hroot hpath).1
  have hcontains : ∀ root ∈ roots,
      (root.contains path = true ↔ LiesIn resolve root.source row) := by
    intro root hroot
    obtain ⟨source, -, hsource⟩ := exists_of_forall₂ hall hroot
    obtain ⟨heq, hiff⟩ := ScanSource.root_spec hsource hpath
    rwa [heq]
  have hsole : soleSource roots path = some source ↔
      ∃ root, roots.filter (fun root => root.contains path) = [root] ∧ root.source = source := by
    rw [soleSource]
    split
    · rename_i root hfilter
      rw [hfilter]
      simp
    · rename_i hother
      refine ⟨fun h => ?_, fun ⟨root, hroot, _⟩ => absurd hroot (hother root)⟩
      cases h
  rw [hsole]
  constructor
  · rintro ⟨root, hfilter, rfl⟩
    obtain ⟨before, after, rfl, hroot, hothers⟩ := filter_eq_singleton_iff.mp hfilter
    rw [List.map_append, List.map_cons] at hsources
    refine ⟨_, _, hsources.symm, (hcontains root (by simp)).mp hroot, fun other hother => ?_⟩
    rw [← List.map_append] at hother
    obtain ⟨other, hmem, rfl⟩ := List.mem_map.mp hother
    have hin : other ∈ before ++ root :: after := by
      rcases List.mem_append.mp hmem with hmem | hmem
      · exact List.mem_append_left _ hmem
      · exact List.mem_append_right _ (List.mem_cons_of_mem _ hmem)
    exact fun hlies => hothers other hmem ((hcontains other hin).mpr hlies)
  · rintro ⟨before, after, hsplit, hlies, hothers⟩
    rw [hsplit] at hsources
    obtain ⟨before', rest, rfl, rfl, hrest⟩ := List.map_eq_append_iff.mp hsources
    obtain ⟨root, after', rfl, rfl, rfl⟩ := List.map_eq_cons_iff.mp hrest
    refine ⟨root, filter_eq_singleton_iff.mpr ⟨before', after', rfl, ?_, ?_⟩, rfl⟩
    · exact (hcontains root (by simp)).mpr hlies
    · intro other hother hcontain
      have hin : other ∈ before' ++ root :: after' := by
        rcases List.mem_append.mp hother with hmem | hmem
        · exact List.mem_append_left _ hmem
        · exact List.mem_append_right _ (List.mem_cons_of_mem _ hmem)
      refine hothers other.source ?_ ((hcontains other hin).mp hcontain)
      rw [← List.map_append]
      exact List.mem_map_of_mem hother

/-! ### What a row is evidence of -/

/-- A path lies in the directory of a device: below a folder of the scan root, or below one of a
spilled event. -/
def InLayout (root path : List String) (serial : String) : Prop :=
  (∃ folder entry rest, path = root ++ folder :: serial :: entry :: rest ∧
      folder ≠ "spill_inputs") ∨
    ∃ dleId folder entry rest,
      path = root ++ "spill_inputs" :: dleId :: folder :: serial :: entry :: rest

/-- **A row is evidence of a serial**: it is of its only source, in a column for serials, named in
the detail, or in the place of the path under the scan root. -/
inductive Evidenced (resolve : Resolve) (args : MappingArgs) (row : DataRow) : String → Prop
  | source {source : ScanSource} (honly : OnlySource resolve args row source) :
      Evidenced resolve args row source.serial
  | column {name value serial : String} (hname : name = "serial" ∨ name = "device_id")
      (hvalue : row.cell name = some value) (hserial : normalizeDeviceId value = some serial) :
      Evidenced resolve args row serial
  | detail {text value serial : String} (htext : row.cell "detail" = some text)
      (hvalue : value ∈ deviceIds text) (hserial : normalizeDeviceId value = some serial) :
      Evidenced resolve args row serial
  | layout {root path : List String} {serial : String} (hroot : resolve args.scanRoot = some root)
      (hpath : resolve (slashed row.path) = some path) (hlayout : InLayout root path serial) :
      Evidenced resolve args row serial

/-- The device that is read off a path is the one its directory is of. -/
theorem layoutSerial_eq_some_iff {root path : List String} {serial : String} :
    layoutSerial root path = some serial ↔ InLayout root path serial := by
  have hthree : ∀ parts : List String,
      (if 3 ≤ parts.length then parts[1]? else none) = some serial ↔
        ∃ folder entry rest, parts = folder :: serial :: entry :: rest := by
    intro parts
    match parts with
    | [] => simp
    | [_] => simp
    | [_, _] => simp
    | folder :: found :: entry :: rest => simp
  rw [layoutSerial]
  by_cases hprefix : root.isPrefixOf path = true
  · obtain ⟨rel, rfl⟩ := List.isPrefixOf_iff_prefix.mp hprefix
    rw [if_pos hprefix, List.drop_left]
    dsimp only
    rw [hthree, InLayout]
    simp only [List.append_cancel_left_eq]
    by_cases hspill : rel.head? = some "spill_inputs"
    · obtain ⟨tail, rfl⟩ : ∃ tail, rel = "spill_inputs" :: tail := by
        cases rel with
        | nil => cases hspill
        | cons head tail => exact ⟨tail, by rw [Option.some.inj hspill]⟩
      rw [if_pos hspill]
      cases tail with
      | nil => simp
      | cons dleId tail =>
          simp only [List.drop_succ_cons, List.drop_zero, List.cons.injEq, true_and]
          constructor
          · rintro ⟨folder, entry, rest, rfl⟩
            exact .inr ⟨dleId, folder, entry, rest, rfl, rfl⟩
          · rintro (⟨folder, entry, rest, ⟨rfl, -⟩, hne⟩ | ⟨_, folder, entry, rest, -, rfl⟩)
            · exact absurd rfl hne
            · exact ⟨folder, entry, rest, rfl⟩
    · rw [if_neg hspill]
      constructor
      · rintro ⟨folder, entry, rest, rfl⟩
        exact .inl ⟨folder, entry, rest, rfl, fun h => hspill (by rw [h]; rfl)⟩
      · rintro (⟨folder, entry, rest, rfl, -⟩ | ⟨_, folder, entry, rest, rfl⟩)
        · exact ⟨folder, entry, rest, rfl⟩
        · exact absurd rfl hspill
  · rw [if_neg hprefix]
    refine ⟨fun h => ?_, fun h => absurd ?_ hprefix⟩
    · cases h
    · rw [List.isPrefixOf_iff_prefix]
      rcases h with ⟨folder, entry, rest, rfl, -⟩ | ⟨dleId, folder, entry, rest, rfl⟩
      · exact List.prefix_append ..
      · exact List.prefix_append ..

/-- **What is collected** of a row is what it is evidence of. -/
theorem mem_rowSerials_iff {roots : List SourceRoot} {root path : List String} {row : DataRow}
    (hroots : args.sources.mapM (ScanSource.root resolve) = .ok roots)
    (hroot : resolve args.scanRoot = some root) (hpath : resolve (slashed row.path) = some path)
    {serial : String} :
    serial ∈ rowSerials roots root path row ↔ Evidenced resolve args row serial := by
  rw [rowSerials]
  simp only [List.mem_append, Option.mem_toList, Option.map_eq_some_iff, List.mem_filterMap,
    List.mem_flatMap, List.mem_cons, List.not_mem_nil, or_false, Option.bind_eq_some_iff,
    soleSource_eq_some_iff hroots hpath, layoutSerial_eq_some_iff]
  constructor
  · rintro (((⟨source, honly, rfl⟩ | ⟨name, hname, value, hvalue, hserial⟩) |
      ⟨value, ⟨text, htext, hvalue⟩, hserial⟩) | hlayout)
    · exact .source honly
    · exact .column hname hvalue hserial
    · exact .detail htext hvalue hserial
    · exact .layout hroot hpath hlayout
  · intro h
    cases h with
    | source honly => exact .inl (.inl (.inl ⟨_, honly, rfl⟩))
    | column hname hvalue hserial => exact .inl (.inl (.inr ⟨_, hname, _, hvalue, hserial⟩))
    | detail htext hvalue hserial => exact .inl (.inr ⟨_, ⟨_, htext, hvalue⟩, hserial⟩)
    | layout hroot' hpath' hlayout =>
        rw [hroot] at hroot'
        rw [hpath] at hpath'
        cases hroot'
        cases hpath'
        exact .inr hlayout

/-! ### Accepted reports -/

/-- **The entry of a row**: where the row is and its path, and its only source, if there is one. -/
structure RowMapped (resolve : Resolve) (args : MappingArgs) (row : DataRow) (entry : MappedRow) :
    Prop where
  sameSheet : entry.sheet = row.sheet
  sameRow : entry.row = row.row
  samePath : entry.path = row.path
  mapped : entry.mapped = true ↔ ∃ source, OnlySource resolve args row source
  source : ∀ source, OnlySource resolve args row source → entry.dleId = some source.id ∧
    entry.occurrenceKey = source.occurrenceKey ∧ entry.source = some source.source
  unmapped : entry.mapped = false →
    entry.dleId = none ∧ entry.occurrenceKey = none ∧ entry.source = none

/-- **A row is accepted** when it is evidence of devices, all of the run. -/
def RowAccepted (resolve : Resolve) (args : MappingArgs) (row : DataRow) : Prop :=
  (∃ serial, Evidenced resolve args row serial) ∧
    ∀ serial, Evidenced resolve args row serial → serial ∈ args.serials

/-- One row is mapped to its only source, and is evidence of devices of the run. -/
theorem mapRow_spec {roots : List SourceRoot} {root : List String} {row : DataRow}
    {entry : MappedRow} (hroots : args.sources.mapM (ScanSource.root resolve) = .ok roots)
    (hroot : resolve args.scanRoot = some root)
    (h : mapRow resolve args.serials roots root row = .ok entry) :
    RowMapped resolve args row entry ∧ RowAccepted resolve args row := by
  rw [mapRow] at h
  obtain ⟨path, hparts, h⟩ := Except.bind_eq_ok_iff.mp h
  have hpath := parts_eq_ok_iff.mp hparts
  have honly : ∀ source, soleSource roots path = some source ↔
      OnlySource resolve args row source := fun _ => soleSource_eq_some_iff hroots hpath
  dsimp only at h
  split at h
  · cases h
  · rename_i hne
    split at h
    · cases h
    · rename_i hsubset
      cases h
      refine ⟨⟨rfl, rfl, rfl, ?_, fun source hsource => ?_, fun hnone => ?_⟩, ?_, fun serial hs => ?_⟩
      · rw [mapEntry, Option.isSome_iff_exists]
        exact exists_congr honly
      · rw [mapEntry, (honly source).mpr hsource]
        exact ⟨rfl, rfl, rfl⟩
      · rw [mapEntry, Option.isSome_eq_false_iff, Option.isNone_iff_eq_none] at hnone
        rw [mapEntry, hnone]
        exact ⟨rfl, rfl, rfl⟩
      · obtain ⟨serial, hserial⟩ := List.exists_mem_of_ne_nil _ hne
        exact ⟨serial, (mem_rowSerials_iff hroots hroot hpath).mp hserial⟩
      · exact not_not.mp hsubset ((mem_rowSerials_iff hroots hroot hpath).mpr hs)

/-- The rows of one sheet. -/
theorem mapSheet_spec {roots : List SourceRoot} {root : List String} {sheet : Sheet}
    {entries : List MappedRow} (hroots : args.sources.mapM (ScanSource.root resolve) = .ok roots)
    (hroot : resolve args.scanRoot = some root)
    (h : mapSheet resolve args.serials roots root sheet = .ok entries) :
    List.Forall₂ (fun row entry => RowMapped resolve args row entry ∧ RowAccepted resolve args row)
      sheet.dataRows entries := by
  rw [mapSheet] at h
  split at h
  · rename_i hrows
    cases h
    rw [Sheet.dataRows, hrows]
    exact .nil
  · split at h
    · cases h
    · exact (mapM_eq_ok_iff.mp h).imp fun _ _ hrow => mapRow_spec hroots hroot hrow

/-- Lists that are related in order are so when they are put together. -/
theorem forall₂_flatten {α β γ : Type*} {R : β → γ → Prop} {f : α → List β} {items : List α}
    {lists : List (List γ)} (h : List.Forall₂ (fun a l => List.Forall₂ R (f a) l) items lists) :
    List.Forall₂ R (items.flatMap f) lists.flatten := by
  induction h with
  | nil => exact .nil
  | cons hfirst _ ih =>
      rw [List.flatMap_cons, List.flatten_cons]
      exact List.rel_append hfirst ih

/-- **An accepted report is mapped faithfully.** There is an entry for every data row, in order;
it is mapped just when the path of the row lies in exactly one source, and then to this one; and
every device a row is evidence of is of the run. -/
theorem report_mapping_faithful {sheets : List Sheet} {result : ReportMapping}
    (h : reportMapping resolve args sheets = .ok result) :
    List.Forall₂ (RowMapped resolve args) (sheets.flatMap Sheet.dataRows) result.rows ∧
      ∀ row ∈ sheets.flatMap Sheet.dataRows, RowAccepted resolve args row := by
  rw [reportMapping] at h
  obtain ⟨roots, hroots, h⟩ := Except.bind_eq_ok_iff.mp h
  obtain ⟨root, hparts, h⟩ := Except.bind_eq_ok_iff.mp h
  obtain ⟨rows, hrows, h⟩ := Except.bind_eq_ok_iff.mp h
  have hroot := parts_eq_ok_iff.mp hparts
  have hall := forall₂_flatten ((mapM_eq_ok_iff.mp hrows).imp fun _ _ hsheet =>
    mapSheet_spec hroots hroot hsheet)
  split at h
  · cases h
  · cases h
    refine ⟨hall.imp fun _ _ hrow => hrow.1, fun row hrow => ?_⟩
    obtain ⟨entry, -, -, haccepted⟩ := exists_right_of_forall₂ hall hrow
    exact haccepted

section Example

/-- Paths without links. -/
def plainPaths : Resolve := fun path => some ((pySplit path '/').filter (· ≠ ""))

/-- A run of one device with two events, one of them within the other. -/
def nestedArgs : MappingArgs where
  serials := ["S1"]
  sources := [⟨"e1", "S1", some "k1", "local", "/scan/v/S1/db.0", "/aee/v/S1/db.0"⟩,
    ⟨"e2", "S1", none, "spill", "/scan/v/S1/db.0/nested", ""⟩]
  scanRoot := "/scan"
  planRunId := 7
  hostId := "h"
  platform := "MTK"
  factRoundId := none
  requireSerialEvidence := true
  eventsUnavailable := false

/-- A report with a row in one source, and one in both. -/
def nestedReport : List Sheet :=
  [⟨"aeeexp", 2, [!["Path", "Detail"], !["/aee/v/S1/db.0/main.dbg", "Device_id: S1, x"],
    !["/scan/v/S1/db.0/nested/a", "Device_id: None"]]⟩]

/-- The theorem at work: one row is mapped, the other one is not. -/
theorem report_mapping_faithful_nested :
    ∃ result, reportMapping plainPaths nestedArgs nestedReport = .ok result ∧
      result.rows.map MappedRow.mapped = [true, false] ∧
      List.Forall₂ (RowMapped plainPaths nestedArgs) (nestedReport.flatMap Sheet.dataRows)
        result.rows := by
  have hok : ∃ result, reportMapping plainPaths nestedArgs nestedReport = .ok result ∧
      result.rows.map MappedRow.mapped = [true, false] := by
    refine ⟨_, rfl, ?_⟩
    decide +kernel
  obtain ⟨result, hresult, hmapped⟩ := hok
  exact ⟨result, hresult, hmapped, (report_mapping_faithful hresult).1⟩

end Example

end StabilityPlatform.ScanReport
