import StabilityPlatform.Events.DeviceLogEvents

/-!
# Moving the directories of events

A directory that was uploaded before its event was assigned to a plan run lies apart, and is moved
below the directory of the run once it is. Moves take effect one by one, and the paths of the rows
are written at the end of a run, all at once, so that a run that stops on the way leaves rows with
paths that are no longer there. The next run goes by what is there.

## Main results

* `AdoptionWorld.step`: one moment of a run, or of whoever else writes to the rows.
* `Kept`: **no directory is lost**: each is where it was, or has been moved to its plan run.
* `Settled`: **what a run has considered** has the path of what is there.
* `adoption_crash_safe`: both hold however often runs stop on the way.
-/

namespace StabilityPlatform.EventAdoption

open Lib

/-! ### Places -/

/-- A path, as its names from the root down. -/
abbrev FilePath := List String

/-- What paths mean. -/
structure PlaceContext where
  devicesRoot : FilePath
  /-- `Path.resolve`. -/
  resolve : String → Option FilePath
  uuidText : ℕ → String

/-- The text of a path. -/
def pathText (path : FilePath) : String := String.join (path.map fun name => "/" ++ name)

/-- The text of a path that goes on. -/
theorem pathText_append (path path' : FilePath) :
    pathText (path ++ path') = pathText path ++ pathText path' := by
  rw [pathText, List.map_append, String.join_append]
  rfl

variable (ctx : PlaceContext) {D : Type}

namespace PlaceContext

/-- `src_event_dir`. -/
def srcEventDir (eventId : ℕ) : FilePath := ctx.devicesRoot ++ ["unassigned", ctx.uuidText eventId]

/-- `dst_event_dir`. -/
def dstEventDir (planRunId eventId : ℕ) : FilePath :=
  ctx.devicesRoot ++ [toString planRunId, ctx.uuidText eventId]

/-- `tail`: where a path is below the directory of an event that is not assigned. -/
def tail (eventId : ℕ) (rawPath : String) : Option FilePath :=
  (ctx.resolve rawPath).bind fun p => p.dropPrefix? (ctx.srcEventDir eventId)

end PlaceContext

/-! ### Rows -/

/-- The rows, each with its own key. -/
structure EventTable where
  rows : List DeviceLogEvent
  keys : (rows.map DeviceLogEvent.id).Nodup

namespace EventTable

/-- A row is given another path, if there is one for it. -/
def setPath (paths : List (ℕ × String)) (now : Time) (r : DeviceLogEvent) : DeviceLogEvent :=
  match paths.lookup r.id with
  | some path => { r with remotePath := some path, updatedAt := now }
  | none => r

/-- It keeps its key. -/
@[simp] theorem setPath_id (paths : List (ℕ × String)) (now : Time) (r : DeviceLogEvent) :
    (setPath paths now r).id = r.id := by
  rw [setPath]
  split
  · rfl
  · rfl

/-- It keeps its plan run. -/
@[simp] theorem setPath_planRunId (paths : List (ℕ × String)) (now : Time) (r : DeviceLogEvent) :
    (setPath paths now r).planRunId = r.planRunId := by
  rw [setPath]
  split
  · rfl
  · rfl

/-- The path it has then. -/
theorem setPath_remotePath (paths : List (ℕ × String)) (now : Time) (r : DeviceLogEvent) :
    (setPath paths now r).remotePath = (paths.lookup r.id).or r.remotePath := by
  rw [setPath]
  cases paths.lookup r.id with
  | some path => rfl
  | none => rfl

/-- Some rows are given another path. -/
def setPaths (table : EventTable) (paths : List (ℕ × String)) (now : Time) : EventTable where
  rows := table.rows.map (setPath paths now)
  keys := by
    rw [List.map_map, show DeviceLogEvent.id ∘ setPath paths now = DeviceLogEvent.id from
      funext (setPath_id paths now)]
    exact table.keys

/-- What a run considers: the keys and paths of the uploaded events of a plan run that lie apart,
in the order of their keys. -/
def considered (table : EventTable) (planRunId : ℕ) : List (ℕ × String) :=
  ((table.rows.filter fun r => r.planRunId = some planRunId && r.state.extractable &&
      isUnassignedRemotePath r.remotePath).insertionSort fun a b => a.id ≤ b.id).filterMap
    fun r => r.remotePath.map fun path => (r.id, path)

/-- Rows that are assigned stay so. -/
def PlanKept (table table' : EventTable) : Prop :=
  ∀ r ∈ table.rows, ∀ run ∈ r.planRunId, ∃ r' ∈ table'.rows, r'.id = r.id ∧ r'.planRunId = some run

instance (table table' : EventTable) : Decidable (PlanKept table table') :=
  inferInstanceAs (Decidable (∀ r ∈ table.rows, ∀ run ∈ r.planRunId, _))

end EventTable

/-! ### Runs -/

/-- Where a run is. -/
inductive AdoptionPhase where
  /-- None is under way. -/
  | idle
  /-- Some rows are to be considered, some have been, and some of these are to be given another
  path. -/
  | running (planRunId : ℕ) (todo seen updates : List (ℕ × String))
  deriving DecidableEq

/-- The rows, and the directories of the events. -/
structure AdoptionWorld (D : Type) where
  table : EventTable
  unassigned : ℕ → Option D
  assigned : ℕ → ℕ → Option D
  phase : AdoptionPhase
  last : List (ℕ × ℕ × String)

/-- What happens next. -/
inductive AdoptionAction where
  | begin (planRunId : ℕ)
  | consider (renameFails : Bool)
  | finish (now : Time)
  | crash
  | write (table : EventTable)

namespace AdoptionWorld

/-- Before any run. -/
def start (table : EventTable) (unassigned : ℕ → Option D) (assigned : ℕ → ℕ → Option D) :
    AdoptionWorld D :=
  ⟨table, unassigned, assigned, .idle, []⟩

/-- A directory is moved. -/
def rename (w : AdoptionWorld D) (planRunId eventId : ℕ) (dir : D) : AdoptionWorld D :=
  { w with
    unassigned := Function.update w.unassigned eventId none
    assigned := Function.update w.assigned planRunId
      (Function.update (w.assigned planRunId) eventId (some dir)) }

/-- A row is considered: what it is to be given, and what is moved. -/
def adoptOne (w : AdoptionWorld D) (planRunId eventId : ℕ) (rawPath : String)
    (renameFails : Bool) : Option String × AdoptionWorld D :=
  match ctx.tail eventId rawPath with
  | none => (none, w)
  | some tail =>
    let path := pathText (ctx.dstEventDir planRunId eventId ++ tail)
    match w.unassigned eventId, w.assigned planRunId eventId with
    | none, some _ => (some path, w)
    | some dir, none =>
      if renameFails then (none, w) else (some path, w.rename planRunId eventId dir)
    | some _, some _ => (none, w)
    | none, none => (none, w)

/-- **One moment.** -/
def step (w : AdoptionWorld D) : AdoptionAction → Option (AdoptionWorld D)
  | .begin planRunId =>
    match w.phase with
    | .idle => some { w with
        phase := .running planRunId (w.table.considered planRunId) [] []
        last := [] }
    | .running .. => none
  | .consider renameFails =>
    match w.phase with
    | .running planRunId ((eventId, rawPath) :: todo) seen updates =>
      let (path, w') := w.adoptOne ctx planRunId eventId rawPath renameFails
      let updates' := updates ++ (path.map fun path => (eventId, path)).toList
      some { w' with phase := .running planRunId todo (seen ++ [(eventId, rawPath)]) updates' }
    | _ => none
  | .finish now =>
    match w.phase with
    | .running planRunId [] seen updates => some { w with
        table := w.table.setPaths updates now
        phase := .idle
        last := seen.map fun c => (planRunId, c) }
    | _ => none
  | .crash => some { w with phase := .idle, last := [] }
  | .write table =>
    match w.phase with
    | .idle => if w.table.PlanKept table then some { w with table := table, last := [] } else none
    | .running .. => none

/-- The step relation. -/
def Step (w : AdoptionWorld D) (a : AdoptionAction) (w' : AdoptionWorld D) : Prop :=
  w.step ctx a = some w'

end AdoptionWorld

/-! ### Safety -/

/-- An event belongs to a plan run. -/
def EventTable.Assigned (table : EventTable) (planRunId eventId : ℕ) : Prop :=
  ∃ r ∈ table.rows, r.id = eventId ∧ r.planRunId = some planRunId

/-- **No directory is lost**: each is where it was, or has been moved to the plan run of its event,
where nothing was. -/
def Kept (w w' : AdoptionWorld D) : Prop :=
  ∀ eventId, (w'.unassigned eventId = w.unassigned eventId ∧
      ∀ run, w'.assigned run eventId = w.assigned run eventId) ∨
    ∃ planRunId dir, w'.table.Assigned planRunId eventId ∧ w.unassigned eventId = some dir ∧
      w.assigned planRunId eventId = none ∧ w'.unassigned eventId = none ∧
      ∀ run, w'.assigned run eventId = if run = planRunId then some dir else w.assigned run eventId

/-- **Each event has as many places as it had**: the directory of an assigned event is in exactly
one of its two places if it was in one of them, and not in both. -/
def OnePlace (w w' : AdoptionWorld D) : Prop :=
  ∀ planRunId eventId, w'.table.Assigned planRunId eventId →
    (((w'.unassigned eventId).isSome ∧ (w'.assigned planRunId eventId).isSome) ↔
      ((w.unassigned eventId).isSome ∧ (w.assigned planRunId eventId).isSome)) ∧
    (((w'.unassigned eventId).isSome ∨ (w'.assigned planRunId eventId).isSome) ↔
      ((w.unassigned eventId).isSome ∨ (w.assigned planRunId eventId).isSome))

/-- A path lies inside a directory. -/
def LiesInside (dir : FilePath) (rawPath : Option String) : Prop :=
  ∃ raw, rawPath = some raw ∧
    ((∃ p, ctx.resolve raw = some p ∧ dir <+: p) ∨ ∃ tail, raw = pathText (dir ++ tail))

/-- An event whose directory is in one place only has a path inside the directory that is there. -/
def PathFits (w : AdoptionWorld D) (planRunId eventId : ℕ) : Prop :=
  ∃ r ∈ w.table.rows, r.id = eventId ∧
    ((w.unassigned eventId).isSome → w.assigned planRunId eventId = none →
      LiesInside ctx (ctx.srcEventDir eventId) r.remotePath) ∧
    (w.unassigned eventId = none → (w.assigned planRunId eventId).isSome →
      LiesInside ctx (ctx.dstEventDir planRunId eventId) r.remotePath)

/-- **What a run has considered** has a path inside the directory that is there, if its path was
below the directory of the event. -/
def Settled (w : AdoptionWorld D) : Prop :=
  ∀ planRunId eventId rawPath, (planRunId, eventId, rawPath) ∈ w.last →
    (ctx.tail eventId rawPath).isSome → PathFits ctx w planRunId eventId

/-! ### Rows that are considered -/

section Table

variable {table : EventTable}

/-- Rows are assigned to one plan run. -/
theorem EventTable.Assigned.unique {planRunId planRunId' eventId : ℕ}
    (h : table.Assigned planRunId eventId) (h' : table.Assigned planRunId' eventId) :
    planRunId = planRunId' := by
  obtain ⟨r, hr, hid, hrun⟩ := h
  obtain ⟨r', hr', hid', hrun'⟩ := h'
  obtain rfl := List.inj_on_of_nodup_map table.keys hr hr' (hid.trans hid'.symm)
  exact Option.some.inj (hrun.symm.trans hrun')

/-- Rows stay assigned. -/
theorem EventTable.Assigned.kept {table' : EventTable} (hkept : table.PlanKept table')
    {planRunId eventId : ℕ} (h : table.Assigned planRunId eventId) :
    table'.Assigned planRunId eventId := by
  obtain ⟨r, hr, hid, hrun⟩ := h
  obtain ⟨r', hr', hid', hrun'⟩ := hkept r hr planRunId hrun
  exact ⟨r', hr', hid'.trans hid, hrun'⟩

/-- New paths leave rows assigned. -/
theorem EventTable.planKept_setPaths (table : EventTable) (paths : List (ℕ × String)) (now : Time) :
    table.PlanKept (table.setPaths paths now) := by
  intro r hr run hrun
  exact ⟨_, List.mem_map_of_mem hr, setPath_id paths now r,
    (setPath_planRunId paths now r).trans hrun⟩

/-- **What is considered is in the rows.** -/
theorem EventTable.mem_considered {planRunId : ℕ} {c : ℕ × String}
    (h : c ∈ table.considered planRunId) :
    ∃ r ∈ table.rows, r.id = c.1 ∧ r.remotePath = some c.2 ∧ r.planRunId = some planRunId := by
  obtain ⟨r, hmem, hpath⟩ := List.mem_filterMap.mp h
  obtain ⟨path, hsome, rfl⟩ := Option.map_eq_some_iff.mp hpath
  obtain ⟨hr, hselect⟩ := List.mem_filter.mp ((List.mem_insertionSort _).mp hmem)
  rw [Bool.and_eq_true, Bool.and_eq_true] at hselect
  exact ⟨r, hr, rfl, hsome, of_decide_eq_true hselect.1.1⟩

/-- Rows with a path have keys of rows. -/
theorem sublist_keys (rows : List DeviceLogEvent) :
    ((rows.filterMap fun r => r.remotePath.map fun path => (r.id, path)).map Prod.fst).Sublist
      (rows.map DeviceLogEvent.id) := by
  induction rows with
  | nil => exact List.Sublist.slnil
  | cons r rows ih =>
      rw [List.map_cons]
      cases hpath : r.remotePath with
      | none =>
          rw [List.filterMap_cons_none (by rw [hpath]; rfl)]
          exact ih.cons _
      | some path =>
          rw [List.filterMap_cons_some (by rw [hpath]; rfl), List.map_cons]
          exact ih.cons_cons _

/-- **No row is considered twice.** -/
theorem EventTable.nodup_considered (table : EventTable) (planRunId : ℕ) :
    ((table.considered planRunId).map Prod.fst).Nodup := by
  refine (sublist_keys _).nodup ?_
  exact ((List.perm_insertionSort _ _).map _).nodup_iff.mpr
    (table.keys.sublist (List.filter_sublist.map _))

end Table

/-! ### One row -/

variable {ctx}

/-- **What becomes of a row**: it is passed over unless its directory is only below the plan run,
or is moved there. -/
theorem AdoptionWorld.adoptOne_spec (w : AdoptionWorld D) (planRunId eventId : ℕ) (rawPath : String)
    (renameFails : Bool) :
    let out := w.adoptOne ctx planRunId eventId rawPath renameFails
    (out.2 = w ∨ ∃ dir, w.unassigned eventId = some dir ∧ w.assigned planRunId eventId = none ∧
      out.2 = w.rename planRunId eventId dir) ∧
    (∀ path, out.1 = some path → out.2.unassigned eventId = none ∧
      ∃ tail, path = pathText (ctx.dstEventDir planRunId eventId ++ tail)) ∧
    (out.1 = none → (ctx.tail eventId rawPath).isSome →
      out.2.assigned planRunId eventId = none ∨ (out.2.unassigned eventId).isSome) := by
  intro out
  have hout : out = w.adoptOne ctx planRunId eventId rawPath renameFails := rfl
  rw [AdoptionWorld.adoptOne] at hout
  cases htail : ctx.tail eventId rawPath with
  | none =>
      rw [htail] at hout
      rw [hout]
      exact ⟨Or.inl rfl, fun _ h => (nomatch h), fun _ h => (nomatch h)⟩
  | some tail =>
      rw [htail] at hout
      cases hsrc : w.unassigned eventId with
      | none =>
          cases hdst : w.assigned planRunId eventId with
          | none =>
              rw [hsrc, hdst] at hout
              rw [hout]
              exact ⟨Or.inl rfl, fun _ h => (nomatch h), fun _ _ => Or.inl hdst⟩
          | some dir =>
              rw [hsrc, hdst] at hout
              rw [hout]
              exact ⟨Or.inl rfl, fun _ h => ⟨hsrc, tail, (Option.some.inj h).symm⟩,
                fun h => (nomatch h)⟩
      | some dir =>
          cases hdst : w.assigned planRunId eventId with
          | none =>
              rw [hsrc, hdst] at hout
              cases renameFails with
              | true =>
                  rw [hout]
                  exact ⟨Or.inl rfl, fun _ h => (nomatch h), fun _ _ => Or.inl hdst⟩
              | false =>
                  rw [hout]
                  exact ⟨Or.inr ⟨dir, rfl, rfl, rfl⟩,
                    fun _ h => ⟨Function.update_self .., tail, (Option.some.inj h).symm⟩,
                    fun h => (nomatch h)⟩
          | some dir' =>
              rw [hsrc, hdst] at hout
              rw [hout]
              exact ⟨Or.inl rfl, fun _ h => (nomatch h),
                fun _ _ => Or.inr (by rw [hsrc]; rfl)⟩

/-- A move touches one event only. -/
theorem AdoptionWorld.rename_of_ne (w : AdoptionWorld D) {planRunId eventId eventId' : ℕ}
    (hne : eventId' ≠ eventId) (dir : D) :
    (w.rename planRunId eventId dir).unassigned eventId' = w.unassigned eventId' ∧
      ∀ run, (w.rename planRunId eventId dir).assigned run eventId' = w.assigned run eventId' := by
  refine ⟨Function.update_of_ne hne .., fun run => ?_⟩
  change Function.update w.assigned planRunId _ run eventId' = _
  by_cases hrun : run = planRunId
  · rw [hrun, Function.update_self, Function.update_of_ne hne]
  · rw [Function.update_of_ne hrun]

/-- A move touches one plan run only. -/
theorem AdoptionWorld.rename_assigned (w : AdoptionWorld D) (planRunId eventId run : ℕ) (dir : D) :
    (w.rename planRunId eventId dir).assigned run eventId =
      if run = planRunId then some dir else w.assigned run eventId := by
  change Function.update w.assigned planRunId _ run eventId = _
  by_cases hrun : run = planRunId
  · rw [if_pos hrun, hrun, Function.update_self, Function.update_self]
  · rw [if_neg hrun, Function.update_of_ne hrun]

/-! ### Runs -/

/-- What a run has done so far. -/
structure RunRight (ctx : PlaceContext) (w : AdoptionWorld D) (planRunId : ℕ)
    (todo seen updates : List (ℕ × String)) : Prop where
  rows : ∀ c ∈ seen ++ todo, ∃ r ∈ w.table.rows, r.id = c.1 ∧ r.remotePath = some c.2 ∧
    r.planRunId = some planRunId
  nodup : ((seen ++ todo).map Prod.fst).Nodup
  moved : ∀ u ∈ updates, u.1 ∈ seen.map Prod.fst ∧ w.unassigned u.1 = none ∧
    ∃ tail, u.2 = pathText (ctx.dstEventDir planRunId u.1 ++ tail)
  others : ∀ c ∈ seen, (ctx.tail c.1 c.2).isSome → c.1 ∈ updates.map Prod.fst ∨
    w.assigned planRunId c.1 = none ∨ (w.unassigned c.1).isSome

/-- What a run in progress has done so far is right. -/
def PhaseRight (ctx : PlaceContext) (w : AdoptionWorld D) : Prop :=
  match w.phase with
  | .idle => True
  | .running planRunId todo seen updates =>
    w.last = [] ∧ RunRight ctx w planRunId todo seen updates

variable {w : AdoptionWorld D}

/-- **A row is considered**, and what the run has done stays right. -/
theorem RunRight.consider {planRunId eventId : ℕ} {rawPath : String}
    {todo seen updates : List (ℕ × String)}
    (h : RunRight ctx w planRunId ((eventId, rawPath) :: todo) seen updates) (renameFails : Bool) :
    let out := w.adoptOne ctx planRunId eventId rawPath renameFails
    RunRight ctx out.2 planRunId todo (seen ++ [(eventId, rawPath)])
      (updates ++ (out.1.map fun path => (eventId, path)).toList) := by
  intro out
  obtain ⟨hmoved, hpath, hnone⟩ := w.adoptOne_spec planRunId eventId rawPath renameFails
  change out.2 = w ∨ _ at hmoved
  have htable : out.2.table = w.table := by
    obtain heq | ⟨dir, -, -, heq⟩ := hmoved
    · rw [heq]
    · rw [heq]
      rfl
  have hothers : ∀ eventId', eventId' ≠ eventId → out.2.unassigned eventId' = w.unassigned eventId' ∧
      ∀ run, out.2.assigned run eventId' = w.assigned run eventId' := by
    intro eventId' hne
    obtain heq | ⟨dir, -, -, heq⟩ := hmoved
    · rw [heq]
      exact ⟨rfl, fun _ => rfl⟩
    · rw [heq]
      exact w.rename_of_ne hne dir
  have hnew : ∀ eventId' ∈ seen.map Prod.fst, eventId' ≠ eventId := by
    intro eventId' hmem heq
    have hnodup := h.nodup
    rw [List.map_append, List.map_cons, List.nodup_append] at hnodup
    exact hnodup.2.2 eventId' hmem eventId (List.mem_cons_self ..) heq
  have hsame : seen ++ [(eventId, rawPath)] ++ todo = seen ++ (eventId, rawPath) :: todo := by
    rw [List.append_assoc]
    rfl
  refine ⟨?_, ?_, ?_, ?_⟩
  · rw [hsame, htable]
    exact h.rows
  · rw [hsame]
    exact h.nodup
  · intro u hu
    cases List.mem_append.mp hu with
    | inl hold =>
        obtain ⟨hseen, hsrc, htext⟩ := h.moved u hold
        refine ⟨?_, ?_, htext⟩
        · rw [List.map_append]
          exact List.mem_append_left _ hseen
        · rw [(hothers u.1 (hnew u.1 hseen)).1]
          exact hsrc
    | inr hmem =>
        obtain ⟨path, hsome, rfl⟩ := Option.map_eq_some_iff.mp (Option.mem_toList.mp hmem)
        obtain ⟨hsrc, htext⟩ := hpath path hsome
        refine ⟨?_, hsrc, htext⟩
        rw [List.map_append]
        exact List.mem_append_right _ (List.mem_singleton.mpr rfl)
  · intro c hc htail
    rw [List.map_append]
    cases List.mem_append.mp hc with
    | inl hold =>
        have hne := hnew c.1 (List.mem_map_of_mem hold)
        rw [(hothers c.1 hne).1, (hothers c.1 hne).2 planRunId]
        exact (h.others c hold htail).imp_left fun hmem => List.mem_append_left _ hmem
    | inr hmem =>
        obtain rfl := List.mem_singleton.mp hmem
        cases hout : out.1 with
        | none => exact Or.inr (hnone hout htail)
        | some path => exact Or.inl (List.mem_append_right _ (List.mem_singleton.mpr rfl))

/-- **A run comes to its end**: what it has considered is settled. -/
theorem RunRight.finish {planRunId : ℕ} {seen updates : List (ℕ × String)}
    (h : RunRight ctx w planRunId [] seen updates) (now : Time) :
    Settled ctx { w with
      table := w.table.setPaths updates now
      phase := .idle
      last := seen.map fun c => (planRunId, c) } := by
  intro planRunId' eventId rawPath hmem htail
  obtain ⟨c, hc, heq⟩ := List.mem_map.mp hmem
  cases heq
  obtain ⟨r, hr, hid, hpath, -⟩ := h.rows (eventId, rawPath) (List.mem_append_left _ hc)
  refine ⟨_, List.mem_map_of_mem hr, (EventTable.setPath_id updates now r).trans hid, ?_⟩
  rw [EventTable.setPath_remotePath, hid, hpath]
  cases hlookup : updates.lookup eventId with
  | some path =>
      obtain ⟨first, rest, heq, -⟩ := List.lookup_eq_some_iff.mp hlookup
      have hmem : (eventId, path) ∈ updates := by
        rw [heq]
        exact List.mem_append_right _ (List.mem_cons_self ..)
      obtain ⟨-, hsrc, tail, htext⟩ := h.moved (eventId, path) hmem
      refine ⟨fun hsome => ?_, fun _ _ => ⟨path, rfl, Or.inr ⟨tail, htext⟩⟩⟩
      dsimp only at hsrc hsome
      rw [hsrc] at hsome
      cases hsome
  | none =>
      refine ⟨fun _ _ => ⟨rawPath, rfl, Or.inl ?_⟩, fun hsrc hdst => ?_⟩
      · obtain ⟨tail, hsome⟩ := Option.isSome_iff_exists.mp htail
        obtain ⟨p, hresolve, hdrop⟩ := Option.bind_eq_some_iff.mp hsome
        obtain ⟨p', hp, hsame⟩ := List.dropPrefix?_eq_some_iff.mp hdrop
        rw [eq_of_beq hsame] at hp
        exact ⟨p, hresolve, tail, hp.symm⟩
      · obtain hupdate | hnone | hsome := h.others (eventId, rawPath) hc htail
        · rw [List.lookup_eq_none_iff] at hlookup
          obtain ⟨u, hu, heq⟩ := List.mem_map.mp hupdate
          exact absurd (beq_iff_eq.mpr heq.symm) (by simpa using hlookup u hu)
        · dsimp only at hnone
          rw [hnone] at hdst
          cases hdst
        · dsimp only at hsome
          rw [hsrc] at hsome
          cases hsome

/-- **Moving a directory** to the plan run of its event loses nothing. -/
theorem Kept.rename {w₀ : AdoptionWorld D} (h : Kept w₀ w) {planRunId eventId : ℕ} {dir : D}
    (hassigned : w.table.Assigned planRunId eventId) (hsrc : w.unassigned eventId = some dir)
    (hdst : w.assigned planRunId eventId = none) : Kept w₀ (w.rename planRunId eventId dir) := by
  intro eventId'
  by_cases hid : eventId' = eventId
  · subst hid
    obtain ⟨hsame, hassign⟩ | ⟨_, _, -, -, -, hgone, -⟩ := h eventId'
    · refine Or.inr ⟨planRunId, dir, hassigned, hsame.symm.trans hsrc,
        (hassign planRunId).symm.trans hdst, Function.update_self .., fun run => ?_⟩
      rw [w.rename_assigned, hassign]
    · rw [hgone] at hsrc
      cases hsrc
  · obtain ⟨hun, has⟩ := @AdoptionWorld.rename_of_ne _ w planRunId _ _ hid dir
    obtain ⟨hsame, hassign⟩ | ⟨run, dir', hmem, hsome, hnone, hgone, hall⟩ := h eventId'
    · exact Or.inl ⟨hun.trans hsame, fun run => (has run).trans (hassign run)⟩
    · exact Or.inr ⟨run, dir', hmem, hsome, hnone, hun.trans hgone,
        fun run' => (has run').trans (hall run')⟩

/-- What nobody moves is kept while rows stay assigned. -/
theorem Kept.write {w₀ w' : AdoptionWorld D} (h : Kept w₀ w) (hkept : w.table.PlanKept w'.table)
    (hun : w'.unassigned = w.unassigned) (has : w'.assigned = w.assigned) : Kept w₀ w' := by
  intro eventId
  rw [hun, has]
  exact (h eventId).imp_right fun ⟨run, dir, hassigned, hrest⟩ =>
    ⟨run, dir, hassigned.kept hkept, hrest⟩

/-- Rows that do not change stay assigned. -/
theorem EventTable.PlanKept.refl (table : EventTable) : table.PlanKept table :=
  fun r hr _ hrun => ⟨r, hr, rfl, hrun⟩

/-- All of it. -/
structure AdoptionRight (ctx : PlaceContext) (w₀ w : AdoptionWorld D) : Prop where
  kept : Kept w₀ w
  phase : PhaseRight ctx w
  settled : Settled ctx w

/-- **One step keeps everything right.** -/
theorem AdoptionRight.step {w₀ w' : AdoptionWorld D} (h : AdoptionRight ctx w₀ w)
    {a : AdoptionAction} (hstep : w.Step ctx a w') : AdoptionRight ctx w₀ w' := by
  rw [AdoptionWorld.Step] at hstep
  have hnothing : ∀ w' : AdoptionWorld D, w'.last = [] → Settled ctx w' := by
    intro w' hlast _ _ _ hmem
    rw [hlast] at hmem
    cases hmem
  cases a with
  | begin planRunId =>
      rw [AdoptionWorld.step] at hstep
      split at hstep
      · obtain rfl := Option.some.inj hstep
        refine ⟨h.kept.write (.refl _) rfl rfl, ?_, hnothing _ rfl⟩
        exact ⟨rfl, fun c hc => w.table.mem_considered hc, w.table.nodup_considered planRunId,
          fun _ hu => (nomatch hu), fun _ hc => (nomatch hc)⟩
      · cases hstep
  | consider renameFails =>
      rw [AdoptionWorld.step] at hstep
      split at hstep
      · rename_i planRunId eventId rawPath todo seen updates hphase
        obtain rfl := Option.some.inj hstep
        have hphaseRight := h.phase
        rw [PhaseRight, hphase] at hphaseRight
        obtain ⟨hlast, hright⟩ := hphaseRight
        obtain ⟨hmoved, -, -⟩ := @AdoptionWorld.adoptOne_spec ctx _ w planRunId eventId rawPath
          renameFails
        obtain ⟨r, hr, hid, -, hrun⟩ := hright.rows (eventId, rawPath)
          (List.mem_append_right _ (List.mem_cons_self ..))
        have hlast' : (w.adoptOne ctx planRunId eventId rawPath renameFails).2.last = [] := by
          obtain heq | ⟨dir, -, -, heq⟩ := hmoved
          · rw [heq, hlast]
          · rw [heq]
            exact hlast
        refine ⟨?_, ?_, hnothing _ hlast'⟩
        · have hkept : Kept w₀ (w.adoptOne ctx planRunId eventId rawPath renameFails).2 := by
            obtain heq | ⟨dir, hsrc, hdst, heq⟩ := hmoved
            · rw [heq]
              exact h.kept
            · rw [heq]
              exact h.kept.rename ⟨r, hr, hid, hrun⟩ hsrc hdst
          exact hkept.write (.refl _) rfl rfl
        · obtain ⟨hrows, hnodup, hupdates, hothers⟩ := hright.consider renameFails
          exact ⟨hlast', hrows, hnodup, hupdates, hothers⟩
      · cases hstep
  | finish now =>
      rw [AdoptionWorld.step] at hstep
      split at hstep
      · rename_i planRunId seen updates hphase
        obtain rfl := Option.some.inj hstep
        have hphaseRight := h.phase
        rw [PhaseRight, hphase] at hphaseRight
        obtain ⟨-, hright⟩ := hphaseRight
        exact ⟨h.kept.write (w.table.planKept_setPaths updates now) rfl rfl, trivial,
          hright.finish now⟩
      · cases hstep
  | crash =>
      obtain rfl := Option.some.inj hstep
      exact ⟨h.kept.write (.refl _) rfl rfl, trivial, hnothing _ rfl⟩
  | write table =>
      rw [AdoptionWorld.step] at hstep
      split at hstep
      · rename_i hphase
        obtain ⟨hkept, hsome⟩ := Option.ite_none_right_eq_some.mp hstep
        obtain rfl := Option.some.inj hsome
        refine ⟨h.kept.write hkept rfl rfl, ?_, hnothing _ rfl⟩
        rw [PhaseRight]
        dsimp only
        rw [hphase]
        trivial
      · cases hstep

/-- **Each event has as many places as it had**, when no directory is lost. -/
theorem Kept.onePlace {w₀ : AdoptionWorld D} (h : Kept w₀ w) : OnePlace w₀ w := by
  intro planRunId eventId hassigned
  obtain ⟨hsame, hassign⟩ | ⟨run, dir, hmem, hsome, hnone, hgone, hall⟩ := h eventId
  · rw [hsame, hassign]
    exact ⟨Iff.rfl, Iff.rfl⟩
  · obtain rfl := hassigned.unique hmem
    rw [hgone, hall, if_pos rfl, hsome, hnone]
    exact ⟨⟨fun hboth => (nomatch hboth.1), fun hboth => (nomatch hboth.2)⟩,
      ⟨fun _ => Or.inl rfl, fun _ => Or.inr rfl⟩⟩

/-- **Moving directories is crash-safe**: in every run of steps no directory is lost, each event has
as many places as it had, and what the last run has considered, if its path was below the directory
of the event, has a path inside the directory that is there. -/
theorem adoption_crash_safe {table : EventTable} {unassigned : ℕ → Option D}
    {assigned : ℕ → ℕ → Option D} {tr : List (AdoptionWorld D × AdoptionAction)}
    (hrun : Run (AdoptionWorld.Step ctx) (.start table unassigned assigned) tr w) :
    Holds (fun w => Kept (.start table unassigned assigned) w ∧
      OnePlace (.start table unassigned assigned) w ∧ Settled ctx w) tr w := by
  have hstart : AdoptionRight ctx (.start table unassigned assigned)
      (.start table unassigned assigned) :=
    ⟨fun _ => Or.inl ⟨rfl, fun _ => rfl⟩, trivial, fun _ _ _ hmem => (nomatch hmem)⟩
  exact (Run.invariant (fun h hstep => AdoptionRight.step h hstep) hrun hstart).mono
    fun _ h => ⟨h.kept, h.kept.onePlace, h.settled⟩

/-- A storage without links. -/
def plainPlaces : PlaceContext where
  devicesRoot := ["nfs", "devices"]
  resolve raw := some ((raw.toList.splitOn '/').filterMap fun name =>
    if name = [] then none else some (String.ofList name))
  uuidText eventId := "e" ++ toString eventId

/-- An uploaded event of plan run 7. -/
def uploadedEvent (eventId : ℕ) (remotePath : String) : DeviceLogEvent where
  id := eventId
  serial := "S1"
  platform := "MTK"
  eventType := "AEE"
  eventSubtype := none
  detectedAt := 0
  deviceTimestamp := none
  state := .remote
  localPath := "/data/aee/db.0"
  remotePath := some remotePath
  sizeBytes := none
  checksum := none
  occurrenceKey := none
  planRunId := some 7
  hostId := "h1"
  jobId := none
  signalSeqNo := none
  createdAt := 0
  updatedAt := 0

/-- A run that stops after its move, and the run that comes after it. -/
theorem crashed_move_settled :
    let table : EventTable := ⟨[uploadedEvent 5 "/nfs/devices/unassigned/e5/db.0"], by decide⟩
    let w₀ : AdoptionWorld Unit := .start table (fun i => if i = 5 then some () else none)
      fun _ _ => none
    let actions : List AdoptionAction :=
      [.begin 7, .consider false, .crash, .begin 7, .consider false, .finish 1]
    ∃ w, actions.foldlM (AdoptionWorld.step plainPlaces) w₀ = some w ∧
      w.table.rows.map DeviceLogEvent.remotePath = [some "/nfs/devices/7/e5/db.0"] ∧
      w.last.length = 1 ∧
      Holds (fun w => Kept w₀ w ∧ OnePlace w₀ w ∧ Settled plainPlaces w)
        (traceOf (AdoptionWorld.step plainPlaces) w₀ actions) w := by
  intro table w₀ actions
  have hpath : (actions.foldlM (AdoptionWorld.step plainPlaces) w₀).any (fun w =>
      w.table.rows.map DeviceLogEvent.remotePath == [some "/nfs/devices/7/e5/db.0"] &&
        w.last.length == 1) = true := by decide +kernel
  obtain ⟨w, hw, hfacts⟩ := (Option.any_eq_true _ _).mp hpath
  rw [Bool.and_eq_true] at hfacts
  exact ⟨w, hw, eq_of_beq hfacts.1, eq_of_beq hfacts.2, adoption_crash_safe (Run.of_foldlM hw)⟩

/-- **A path in the directory of another event** is left as it is. -/
theorem foreign_path_kept :
    ¬ ∀ (ctx : PlaceContext) (table : EventTable) (unassigned : ℕ → Option Unit)
      (assigned : ℕ → ℕ → Option Unit) (w : AdoptionWorld Unit)
      (tr : List (AdoptionWorld Unit × AdoptionAction)),
      Run (AdoptionWorld.Step ctx) (.start table unassigned assigned) tr w →
        ∀ planRunId eventId rawPath, (planRunId, eventId, rawPath) ∈ w.last →
          PathFits ctx w planRunId eventId := by
  intro hall
  let table : EventTable := ⟨[uploadedEvent 5 "/nfs/devices/unassigned/e6/db.0"], by decide⟩
  let w₀ : AdoptionWorld Unit := .start table (fun i => if i = 5 then some () else none)
    fun _ _ => none
  let actions : List AdoptionAction := [.begin 7, .consider false, .finish 1]
  have hlast : (actions.foldlM (AdoptionWorld.step plainPlaces) w₀).any (fun w =>
      w.last == [(7, 5, "/nfs/devices/unassigned/e6/db.0")] &&
        w.table.rows.map DeviceLogEvent.remotePath == [some "/nfs/devices/unassigned/e6/db.0"] &&
        (w.unassigned 5).isSome && (w.assigned 7 5).isNone) = true := by decide +kernel
  obtain ⟨w, hw, hfacts⟩ := (Option.any_eq_true _ _).mp hlast
  rw [Bool.and_eq_true, Bool.and_eq_true, Bool.and_eq_true] at hfacts
  obtain ⟨⟨⟨hconsidered, hrows⟩, hsrc⟩, hdst⟩ := hfacts
  obtain ⟨r, hr, -, hinside, -⟩ := hall plainPlaces _ _ _ w _ (Run.of_foldlM hw) 7 5
    "/nfs/devices/unassigned/e6/db.0" (by rw [eq_of_beq hconsidered]; exact List.mem_singleton_self _)
  have hpath : r.remotePath = some "/nfs/devices/unassigned/e6/db.0" := by
    have hmem := List.mem_map_of_mem (f := DeviceLogEvent.remotePath) hr
    rw [eq_of_beq hrows] at hmem
    exact List.mem_singleton.mp hmem
  obtain ⟨raw, hraw, hin⟩ := hinside hsrc (Option.isNone_iff_eq_none.mp hdst)
  cases hpath.symm.trans hraw
  obtain ⟨p, hp, hprefix⟩ | ⟨tail, htail⟩ := hin
  · cases hp
    exact absurd hprefix (by decide +kernel)
  · have htext : (pathText (plainPlaces.srcEventDir 5)).toList <+:
        "/nfs/devices/unassigned/e6/db.0".toList := by
      rw [htail, pathText_append, String.toList_append]
      exact List.prefix_append _ _
    exact absurd htext (by decide +kernel)

end StabilityPlatform.EventAdoption
