import StabilityPlatform.Dashboard.EventKeys
import StabilityPlatform.Lib.Preference
import StabilityPlatform.Lib.StableSort
import StabilityPlatform.PlanRun.Classification

/-!
# Counting crash events once

The crash dashboard folds the rows the database returns into one event for each key: an event with
an origin goes before one without, a known package displaces an unknown one, and a later event an
earlier one. Counts and rankings are made of these events.

## Main results

* `get?_dedup`: the event under a key is the one that is preferred among the rows with it.
* `loaded_perm_iff`: **the events do not depend on the order of the rows** exactly when the
  preference decides under every key.
* `sections_congr`: neither do counts and rankings, when the events do not.
* `dedup_well_defined_iff`: **de-duplication is well defined** exactly when the preference decides
  and keys keep events apart.
-/

namespace StabilityPlatform.Dashboard

open Lib

/-! ### Events -/

/-- What is read from the files of an event. -/
structure EventFiles where
  /-- `_infer_dashboard_package_name`. -/
  packageName : SignalRow → String
  /-- `_normalize_dashboard_subtype`. -/
  normalizedSubtype : SignalRow → String

/-- `candidate`. -/
structure AeeEvent where
  key : String
  group : String
  subtype : String
  packageName : String
  deviceSerial : String
  detectedAt : ℤ
  entryOrigin : Option String
  deriving DecidableEq

/-- `_normalize_entry_origin`. -/
def normalizeEntryOrigin (value : Json) : Option String :=
  let normalized := pyLower (pyStrip (jsonVal value).strOrEmpty)
  if normalized = "baseline" ∨ normalized = "runtime" then some normalized else none

/-- `_infer_dashboard_event_group_and_subtype`. -/
def groupAndSubtype (files : EventFiles) (row : SignalRow) : String × String :=
  let subtype := if row.subtypeText ≠ "" then row.subtypeText else files.normalizedSubtype row
  if row.category = "UNIVIEW" then ("UNIVIEW", subtype)
  else if subtype = "ANR" then ("AEE", "ANR")
  else if row.category = "VENDOR_AEE" then ("VENDOR_AEE", subtype)
  else ("AEE", subtype)

/-- The candidate of a row. -/
def candidateOf (files : EventFiles) (row : SignalRow) : AeeEvent where
  key := aeeEventDedupKey row
  group := (groupAndSubtype files row).1
  subtype := (groupAndSubtype files row).2
  packageName := files.packageName row
  deviceSerial := row.deviceSerial
  detectedAt := row.detectedAt
  entryOrigin := normalizeEntryOrigin ((row.extra.field "entry_origin").getD .null)

/-- `_prefer_deduped_event`. -/
def preferDedupedEvent (candidate existing : AeeEvent) : Bool :=
  if candidate.entryOrigin.isSome ≠ existing.entryOrigin.isSome then candidate.entryOrigin.isSome
  else if candidate.packageName ≠ "unknown" && existing.packageName = "unknown" then true
  else decide (existing.detectedAt < candidate.detectedAt)

/-- A row is folded in. -/
def dedupRow (files : EventFiles) (deduped : Dict AeeEvent) (row : SignalRow) : Dict AeeEvent :=
  let candidate := candidateOf files row
  match deduped.get? candidate.key with
  | none => deduped.set candidate.key candidate
  | some existing =>
    if preferDedupedEvent candidate existing then deduped.set candidate.key candidate
    else deduped

/-- `deduped`, after all rows. -/
def dedupRows (files : EventFiles) (rows : List SignalRow) : Dict AeeEvent :=
  rows.foldl (dedupRow files) .empty

/-- `_load_deduped_aee_events`, from the rows the database returns. -/
def loadDedupedAeeEvents (files : EventFiles) (rows : List SignalRow) : List AeeEvent :=
  (dedupRows files rows).items.map Prod.snd

/-! ### The event under a key -/

/-- The marks and the time of an event. -/
def eventPreference : Preference AeeEvent ℤ where
  first e := e.entryOrigin.isSome
  second e := e.packageName ≠ "unknown"
  time e := e.detectedAt

/-- The preference of the source. -/
theorem preferDedupedEvent_eq (candidate existing : AeeEvent) :
    preferDedupedEvent candidate existing = eventPreference.prefers candidate existing := by
  rw [preferDedupedEvent, Preference.prefers]
  by_cases h : existing.packageName = "unknown" <;> simp [eventPreference, h]

/-- The candidates with a key, in the order of the rows. -/
def candidatesOf (files : EventFiles) (k : String) (rows : List SignalRow) : List AeeEvent :=
  (rows.filter fun row => aeeEventDedupKey row = k).map (candidateOf files)

theorem dedupRow_of_none {files : EventFiles} {d : Dict AeeEvent} {row : SignalRow}
    (h : d.get? (aeeEventDedupKey row) = none) :
    dedupRow files d row = d.set (aeeEventDedupKey row) (candidateOf files row) := by
  have hkey : (candidateOf files row).key = aeeEventDedupKey row := rfl
  simp only [dedupRow, hkey, h]

theorem dedupRow_of_some {files : EventFiles} {d : Dict AeeEvent} {row : SignalRow}
    {existing : AeeEvent} (h : d.get? (aeeEventDedupKey row) = some existing) :
    dedupRow files d row = if eventPreference.prefers (candidateOf files row) existing then
      d.set (aeeEventDedupKey row) (candidateOf files row) else d := by
  have hkey : (candidateOf files row).key = aeeEventDedupKey row := rfl
  simp only [dedupRow, hkey, h, preferDedupedEvent_eq]

/-- What a row does to the event under a key. -/
theorem get?_dedupRow (files : EventFiles) (d : Dict AeeEvent) (row : SignalRow) (k : String) :
    (dedupRow files d row).get? k =
      if aeeEventDedupKey row = k then eventPreference.keep (d.get? k) (candidateOf files row)
      else d.get? k := by
  by_cases h : aeeEventDedupKey row = k
  · rw [if_pos h]
    subst h
    cases hget : d.get? (aeeEventDedupKey row) with
    | none => rw [dedupRow_of_none hget, Dict.get?_set_self, Preference.keep]
    | some existing =>
        rw [dedupRow_of_some hget, Preference.keep]
        split
        · rw [Dict.get?_set_self]
        · exact hget
  · rw [if_neg h]
    cases hget : d.get? (aeeEventDedupKey row) with
    | none => rw [dedupRow_of_none hget, Dict.get?_set_of_ne _ _ (Ne.symm h)]
    | some existing =>
        rw [dedupRow_of_some hget]
        split
        · rw [Dict.get?_set_of_ne _ _ (Ne.symm h)]
        · rfl

/-- **The event under a key** is the one that is preferred among the candidates with it. -/
theorem get?_dedup (files : EventFiles) (k : String) (rows : List SignalRow) :
    (dedupRows files rows).get? k = eventPreference.winner (candidatesOf files k rows) := by
  have hfold : ∀ d : Dict AeeEvent, (rows.foldl (dedupRow files) d).get? k =
      (candidatesOf files k rows).foldl eventPreference.keep (d.get? k) := by
    induction rows with
    | nil => exact fun d => rfl
    | cons row rows ih =>
        intro d
        rw [List.foldl_cons, ih, get?_dedupRow, candidatesOf, candidatesOf, List.filter_cons]
        by_cases h : aeeEventDedupKey row = k
        · rw [if_pos h, if_pos (decide_eq_true h), List.map_cons, List.foldl_cons]
        · rw [if_neg h, if_neg (by simpa using h)]
  exact hfold .empty

/-- The event under a key has that key. -/
theorem key_of_get? {files : EventFiles} {rows : List SignalRow} {k : String} {e : AeeEvent}
    (h : (dedupRows files rows).get? k = some e) : e.key = k := by
  rw [get?_dedup] at h
  rcases Preference.mem_of_foldl_keep h with hmem | hnone
  · obtain ⟨row, hrow, rfl⟩ := List.mem_map.mp hmem
    exact of_decide_eq_true (List.mem_filter.mp hrow).2
  · cases hnone

/-- The events that are returned are those under the keys. -/
theorem mem_loaded_iff {files : EventFiles} {rows : List SignalRow} {e : AeeEvent} :
    e ∈ loadDedupedAeeEvents files rows ↔ (dedupRows files rows).get? e.key = some e := by
  rw [loadDedupedAeeEvents, List.mem_map]
  constructor
  · rintro ⟨⟨k, e'⟩, hmem, rfl⟩
    have hget := Dict.get?_eq_some_iff.mpr hmem
    rw [key_of_get? hget]
    exact hget
  · exact fun h => ⟨(e.key, e), Dict.get?_eq_some_iff.mp h, rfl⟩

/-- No event is returned twice. -/
theorem nodup_loaded (files : EventFiles) (rows : List SignalRow) :
    (loadDedupedAeeEvents files rows).Nodup := by
  have hkeys : ∀ p ∈ (dedupRows files rows).items, p.2.key = p.1 := fun p hp =>
    key_of_get? (Dict.get?_eq_some_iff.mpr hp)
  have hmap : ((dedupRows files rows).items.map fun p => p.2.key) =
      (dedupRows files rows).items.map Prod.fst := List.map_congr_left hkeys
  refine List.Nodup.of_map AeeEvent.key ?_
  rw [loadDedupedAeeEvents, List.map_map]
  change ((dedupRows files rows).items.map fun p => p.2.key).Nodup
  rw [hmap]
  exact (dedupRows files rows).nodup

/-- The same events are returned when the events under all keys are the same. -/
theorem loaded_perm_loaded_iff {files : EventFiles} {rows rows' : List SignalRow} :
    (loadDedupedAeeEvents files rows').Perm (loadDedupedAeeEvents files rows) ↔
      ∀ k, (dedupRows files rows').get? k = (dedupRows files rows).get? k := by
  rw [List.perm_ext_iff_of_nodup (nodup_loaded files rows') (nodup_loaded files rows)]
  simp only [mem_loaded_iff]
  constructor
  · intro h k
    ext e
    constructor
    · intro he
      have hkey := key_of_get? he
      subst hkey
      exact (h e).mp he
    · intro he
      have hkey := key_of_get? he
      subst hkey
      exact (h e).mpr he
  · intro h e
    rw [h]

/-- The candidates with a key in another order of the rows. -/
theorem exists_rows_of_perm {files : EventFiles} {k : String} {rows : List SignalRow}
    {candidates : List AeeEvent} (h : candidates.Perm (candidatesOf files k rows)) :
    ∃ rows', rows'.Perm rows ∧ candidatesOf files k rows' = candidates := by
  have hrelated : List.Forall₂ (fun e row => e = candidateOf files row) (candidatesOf files k rows)
      (rows.filter fun row => aeeEventDedupKey row = k) := by
    rw [candidatesOf, List.forall₂_map_left_iff]
    exact List.forall₂_same.mpr fun _ _ => rfl
  obtain ⟨chosen, hchosen, hperm⟩ :=
    (List.perm_comp_forall₂ h hrelated : Relation.Comp _ _ candidates _)
  have hmap : chosen.map (candidateOf files) = candidates := by
    clear hperm hrelated h
    induction hchosen with
    | nil => rfl
    | cons heq _ ih => rw [List.map_cons, ih, heq]
  have hkeys : ∀ row ∈ chosen, aeeEventDedupKey row = k := fun row hrow =>
    of_decide_eq_true (List.mem_filter.mp (hperm.mem_iff.mp hrow)).2
  refine ⟨chosen ++ rows.filter fun row => !decide (aeeEventDedupKey row = k),
    (hperm.append_right _).trans (List.filter_append_perm _ rows), ?_⟩
  rw [candidatesOf, List.filter_append, List.filter_eq_self.mpr fun row hrow =>
    decide_eq_true (hkeys row hrow), List.filter_filter]
  have hnone : (rows.filter fun row => decide (aeeEventDedupKey row = k) &&
      !decide (aeeEventDedupKey row = k)) = [] :=
    List.filter_eq_nil_iff.mpr fun row _ => by simp
  rw [hnone, List.append_nil, hmap]

/-- The marks and the time decide under every key. -/
def PreferenceDecides (files : EventFiles) (rows : List SignalRow) : Prop :=
  ∀ k, eventPreference.Decided (candidatesOf files k rows)

/-- **The events do not depend on the order of the rows** exactly when the preference decides. -/
theorem loaded_perm_iff {files : EventFiles} {rows : List SignalRow} :
    (∀ rows', rows'.Perm rows →
      (loadDedupedAeeEvents files rows').Perm (loadDedupedAeeEvents files rows)) ↔
      PreferenceDecides files rows := by
  constructor
  · intro h k
    refine Preference.winner_perm_iff.mp fun candidates hperm => ?_
    obtain ⟨rows', hrows, rfl⟩ := exists_rows_of_perm hperm
    have hget := loaded_perm_loaded_iff.mp (h rows' hrows) k
    rwa [get?_dedup, get?_dedup] at hget
  · intro h rows' hperm
    refine loaded_perm_loaded_iff.mpr fun k => ?_
    rw [get?_dedup, get?_dedup]
    exact Preference.winner_perm_iff.mpr (h k) _ ((hperm.filter _).map _)

/-! ### Counts and rankings -/

/-- `_SUBTYPE_FIXED_ORDER`. -/
def subtypeFixedOrder : List String :=
  ["ANR", "JE", "NE", "SWT", "Fatal NE", "Fatal JE", "Combo EE", "Kernel API Dump",
    "System API Dump", "HWT", "HANG", "KE", "HW Reboot", "Modem EE", "OCP Reboot", "其他"]

/-- `_subtype_order_index`. -/
def subtypeOrderIndex (subtype : String) : ℕ := subtypeFixedOrder.idxOf subtype

/-- How many events there are of a group and subtype. -/
structure SubtypeCount where
  group : String
  subtype : String
  count : ℕ

/-- The key counts are sorted by. -/
def SubtypeCount.key (c : SubtypeCount) : ℤ ×ₗ ℕ ×ₗ String ×ₗ String :=
  toLex (-c.count, toLex (subtypeOrderIndex c.subtype, toLex (c.group, c.subtype)))

/-- The group and subtype of an event. -/
def AeeEvent.groupSubtype (e : AeeEvent) : String × String := (e.group, e.subtype)

/-- `subtype_counts`. -/
def subtypeCounts (events : List AeeEvent) : List SubtypeCount :=
  (events.map AeeEvent.groupSubtype).dedup.map fun p =>
    ⟨p.1, p.2, (events.filter fun e => e.groupSubtype = p).length⟩

/-- The counts, sorted. -/
def sortedCounts (events : List AeeEvent) : List SubtypeCount :=
  sortBy SubtypeCount.key (subtypeCounts events)

/-- What is shown of a package. -/
structure PackageRanking where
  packageName : String
  totalCount : ℕ
  affectedDeviceCount : ℕ
  latestDetectedAt : Option ℤ
  subtypeBreakdown : List SubtypeCount

/-- The key packages are sorted by. -/
def PackageRanking.key (p : PackageRanking) : ℤ ×ₗ Bool ×ₗ ℤ ×ₗ String :=
  toLex (-p.totalCount, toLex (decide (p.packageName = "unknown"),
    toLex (-p.latestDetectedAt.getD 0, p.packageName)))

/-- How many devices there are. -/
def deviceCount (events : List AeeEvent) : ℕ := (events.map AeeEvent.deviceSerial).dedup.length

/-- The latest of two times. -/
def laterOf (latest : Option ℤ) (e : AeeEvent) : Option ℤ :=
  some (latest.elim e.detectedAt fun t => max t e.detectedAt)

/-- What is shown of a package, from its events. -/
def packageRanking (name : String) (events : List AeeEvent) : PackageRanking :=
  ⟨name, events.length, deviceCount events, events.foldl laterOf none, sortedCounts events⟩

/-- `package_stats`. -/
def packageStats (events : List AeeEvent) : List PackageRanking :=
  (events.map AeeEvent.packageName).dedup.map fun name =>
    packageRanking name (events.filter fun e => e.packageName = name)

/-- A section of the dashboard, with the shares of its counts. -/
structure DashboardSection (σ : Type*) where
  totalEvents : ℕ
  affectedDeviceCount : ℕ
  topPackageName : Option String
  topSubtype : Option String
  subtypeDistribution : List (SubtypeCount × σ)
  packageRanking : List PackageRanking

section

variable {σ : Type*} (share : ℕ → ℕ → σ)

/-- `_build_dashboard_section`; `share` rounds the quotient of two counts. -/
def buildDashboardSection (events : List AeeEvent) : DashboardSection σ :=
  let distribution := (sortedCounts events).map fun c => (c, share c.count events.length)
  let ranking := sortBy PackageRanking.key (packageStats events)
  ⟨events.length, deviceCount events, ranking.head?.map (·.packageName),
    distribution.head?.map (·.1.subtype), distribution, ranking⟩

/-- `_empty_dashboard_section`. -/
def emptyDashboardSection : DashboardSection σ := ⟨0, 0, none, none, [], []⟩

/-- `_aggregate_aee_dashboard_sections`, from the events. -/
def aggregateSections (events : List AeeEvent) : Bool × DashboardSection σ × DashboardSection σ :=
  if events.all fun e => e.entryOrigin = some "baseline" || e.entryOrigin = some "runtime" then
    (true, buildDashboardSection share (events.filter fun e => e.entryOrigin = some "runtime"),
      buildDashboardSection share (events.filter fun e => e.entryOrigin = some "baseline"))
  else (false, buildDashboardSection share events, emptyDashboardSection)

variable {share} {events events' : List AeeEvent}

/-- The key of a count says all of it. -/
theorem SubtypeCount.key_injective : Function.Injective SubtypeCount.key := by
  rintro ⟨group, subtype, count⟩ ⟨group', subtype', count'⟩ h
  have hpairs := Prod.mk.inj (toLex.injective h)
  have hrest := Prod.mk.inj (toLex.injective hpairs.2)
  have hnames := Prod.mk.inj (toLex.injective hrest.2)
  have hneg : -(count : ℤ) = -(count' : ℤ) := hpairs.1
  have hgroup : group = group' := hnames.1
  have hsubtype : subtype = subtype' := hnames.2
  rw [hgroup, hsubtype, Int.ofNat.inj (neg_injective hneg)]

/-- Counts do not depend on the order of the events. -/
theorem sortedCounts_congr (h : events.Perm events') : sortedCounts events = sortedCounts events' := by
  have hperm : (subtypeCounts events).Perm (subtypeCounts events') := by
    rw [subtypeCounts, subtypeCounts]
    have hcount : ∀ p, (events.filter fun e => e.groupSubtype = p).length =
        (events'.filter fun e => e.groupSubtype = p).length := fun p => (h.filter _).length_eq
    simp only [hcount]
    exact (h.map _).dedup.map _
  exact sortBy_eq_of_perm hperm fun a _ b _ hkey => SubtypeCount.key_injective hkey

/-- The latest time does not depend on the order of the events. -/
theorem latest_congr (h : events.Perm events') :
    events.foldl laterOf none = events'.foldl laterOf none := by
  refine h.foldl_eq' (fun x _ y _ latest => ?_) none
  cases latest with
  | none => exact congrArg some (max_comm _ _)
  | some t => exact congrArg some (max_right_comm t _ _)

/-- What is shown of a package does not depend on the order of the events. -/
theorem packageRanking_congr (name : String) (h : events.Perm events') :
    packageRanking name events = packageRanking name events' := by
  rw [packageRanking, packageRanking, h.length_eq, deviceCount, deviceCount,
    (h.map _).dedup.length_eq, latest_congr h, sortedCounts_congr h]

/-- The packages that are shown do not depend on the order of the events. -/
theorem packageStats_congr (h : events.Perm events') :
    sortBy PackageRanking.key (packageStats events) =
      sortBy PackageRanking.key (packageStats events') := by
  have hperm : (packageStats events).Perm (packageStats events') := by
    rw [packageStats, packageStats]
    have hname : ∀ name, packageRanking name (events.filter fun e => e.packageName = name) =
        packageRanking name (events'.filter fun e => e.packageName = name) :=
      fun name => packageRanking_congr name (h.filter _)
    simp only [hname]
    exact (h.map _).dedup.map _
  refine sortBy_eq_of_perm hperm fun a ha b hb hkey => ?_
  obtain ⟨name, -, rfl⟩ := List.mem_map.mp ha
  obtain ⟨name', -, rfl⟩ := List.mem_map.mp hb
  have hrest := (Prod.mk.inj (toLex.injective hkey)).2
  have hlast := (Prod.mk.inj (toLex.injective hrest)).2
  have hname : name = name' := (Prod.mk.inj (toLex.injective hlast)).2
  rw [hname]

/-- A section does not depend on the order of the events. -/
theorem buildDashboardSection_congr (h : events.Perm events') :
    buildDashboardSection share events = buildDashboardSection share events' := by
  have hdevices : deviceCount events = deviceCount events' := (h.map _).dedup.length_eq
  rw [buildDashboardSection, buildDashboardSection, sortedCounts_congr h, packageStats_congr h,
    h.length_eq, hdevices]

/-- **Counts and rankings do not depend on the order of the events.** -/
theorem sections_congr (h : events.Perm events') :
    aggregateSections share events = aggregateSections share events' := by
  have hall : (events.all fun e => e.entryOrigin = some "baseline" ||
      e.entryOrigin = some "runtime") = events'.all fun e => e.entryOrigin = some "baseline" ||
      e.entryOrigin = some "runtime" := by
    rw [Bool.eq_iff_iff, List.all_eq_true, List.all_eq_true]
    exact forall_congr' fun e => imp_congr_left h.mem_iff
  rw [aggregateSections, aggregateSections, hall, buildDashboardSection_congr h,
    buildDashboardSection_congr (h.filter _),
    @buildDashboardSection_congr σ share _ _ (h.filter fun e => e.entryOrigin = some "baseline")]

/-! ### De-duplication -/

/-- **De-duplication is well defined**, with the same events, counts and rankings for every order of
the rows and no wrong merge, exactly when the preference decides under every key and keys keep
events apart. -/
theorem dedup_well_defined_iff {files : EventFiles} {rows : List SignalRow}
    (hids : (rows.map SignalRow.id).Nodup) (share : ℕ → ℕ → σ) :
    ((∀ rows', rows'.Perm rows →
      (loadDedupedAeeEvents files rows').Perm (loadDedupedAeeEvents files rows) ∧
        aggregateSections share (loadDedupedAeeEvents files rows') =
          aggregateSections share (loadDedupedAeeEvents files rows)) ∧
      MergesRightly rows) ↔ PreferenceDecides files rows ∧ KeysApart rows := by
  rw [mergesRightly_iff hids]
  refine and_congr_left fun _ => ?_
  rw [← loaded_perm_iff]
  exact forall_congr' fun rows' => imp_congr_right fun _ =>
    ⟨And.left, fun hperm => ⟨hperm, sections_congr hperm⟩⟩

end

/-- A row of AEE, with what else it says. -/
def aeeRow (id : ℤ) (serial path : String) (detectedAt : ℤ) (extra : List (String × Json)) :
    SignalRow :=
  ⟨id, "AEE", serial, path, none, detectedAt, .obj extra⟩

/-- No files: the package is what the row says. -/
def noFiles : EventFiles where
  packageName row :=
    if row.extraText "package_name" = "" then "unknown" else row.extraText "package_name"
  normalizedSubtype _ := "其他"

/-- Two devices with a file of one name are merged. -/
theorem devices_merged :
    ¬ ((∀ rows', rows'.Perm [aeeRow 1 "A" "/data/anr/t0" 5 [], aeeRow 2 "B" "/data/anr/t0" 6 []] →
      (loadDedupedAeeEvents noFiles rows').Perm (loadDedupedAeeEvents noFiles
        [aeeRow 1 "A" "/data/anr/t0" 5 [], aeeRow 2 "B" "/data/anr/t0" 6 []]) ∧
      aggregateSections (fun n m => (n, m)) (loadDedupedAeeEvents noFiles rows') =
        aggregateSections (fun n m => (n, m)) (loadDedupedAeeEvents noFiles
          [aeeRow 1 "A" "/data/anr/t0" 5 [], aeeRow 2 "B" "/data/anr/t0" 6 []])) ∧
      MergesRightly [aeeRow 1 "A" "/data/anr/t0" 5 [], aeeRow 2 "B" "/data/anr/t0" 6 []]) := by
  intro h
  have hapart := ((dedup_well_defined_iff (by decide) _).mp h).2
  have hsame := hapart.path _ (List.mem_cons_self ..) _ (List.mem_cons_of_mem _ (List.mem_cons_self ..))
    (by decide +kernel) (by decide +kernel) rfl
  exact absurd hsame.device (by decide)

/-- **The last row wins**: a later event of an unknown package and an earlier one of a known
package displace each other. -/
theorem last_row_wins :
    ¬ ∀ (files : EventFiles) (rows rows' : List SignalRow), (rows.map SignalRow.id).Nodup →
      rows'.Perm rows →
        (loadDedupedAeeEvents files rows').Perm (loadDedupedAeeEvents files rows) := by
  intro hall
  have hperm := hall noFiles
    [aeeRow 1 "A" "" 5 [("nfs_path", .str "/n/db.01"), ("package_name", .str "com.a")],
      aeeRow 2 "A" "" 6 [("nfs_path", .str "/n/db.01")]]
    [aeeRow 2 "A" "" 6 [("nfs_path", .str "/n/db.01")],
      aeeRow 1 "A" "" 5 [("nfs_path", .str "/n/db.01"), ("package_name", .str "com.a")]]
    (by decide) (.swap _ _ _)
  revert hperm
  decide +kernel

end StabilityPlatform.Dashboard
