import StabilityPlatform.Events.EventAdoption
import StabilityPlatform.Lib.KeyedRows
import StabilityPlatform.Lib.Run

/-!
# Extracting the directories of events

The uploaded directories of a plan run are copied into one folder, each under its base name, and
their rows are marked as archived. A copy is made elsewhere, given a marker and then moved into the
folder, so that what has the marker is complete. Of the rows that share a base name only the first
one is copied and marked; what is in the folder already, and complete, is taken for its copy.

## Main results

* `ExtractWorld.step`: one moment of an extraction, or of whoever else writes to the rows and the
  storage.
* `Faithful`: **what a row was marked for** is a complete copy of its own directory.
* `archived_means_extracted`: **all marks are faithful** in every run in which what is in the folder
  already is the copy of the row that it is taken for.
-/

namespace StabilityPlatform.EventExtract

open Lib EventAdoption

/-- The storage, as `resolve_extract_event_src` reads it. -/
structure ExtractContext (C : Type) where
  /-- `resolve_extract_event_src`: the directory of a path. -/
  locate : (FilePath → Option C) → String → Option FilePath

/-- A directory in the folder of the plan run. -/
structure Extracted (C : Type) where
  content : C
  complete : Bool
  deriving DecidableEq

/-- A row was marked. -/
structure ArchiveMark (C : Type) where
  eventId : ℕ
  own : Option C
  stored : Option (Extracted C)
  deriving DecidableEq

/-- Where an extraction is. -/
inductive ExtractPhase where
  | idle
  | running (todo : List (String × FilePath)) (archivedRemotePaths : List String)
  deriving DecidableEq

/-- The rows, the storage and the folder of a plan run. -/
structure ExtractWorld (C : Type) where
  db : EventDb
  dirs : FilePath → Option C
  jira : String → Option (Extracted C)
  phase : ExtractPhase
  marks : List (ArchiveMark C)

/-- What happens next. -/
inductive ExtractAction (C : Type) where
  | begin (remotePaths : List String)
  | copy
  | copyFails (left : Option C)
  | mark (now : Time)
  | crash
  | write (db : EventDb) (dirs : FilePath → Option C)

variable {C : Type} (ctx : ExtractContext C) (planRunId : ℕ)

/-- `src.name`. -/
def destName (path : FilePath) : String := path.getLast?.getD ""

/-- `list_remote_paths_for_extract`. -/
def listRemotePathsForExtract (db : EventDb) : List String :=
  (db.rows.filter fun r => r.planRunId = some planRunId && r.state.extractable).filterMap
    fun r => given r.remotePath

namespace ExtractWorld

/-- Before any extraction. -/
def start (db : EventDb) (dirs : FilePath → Option C) (jira : String → Option (Extracted C)) :
    ExtractWorld C :=
  ⟨db, dirs, jira, .idle, []⟩

/-- The directories that are there, the first one of each name. -/
def firstOfNames (w : ExtractWorld C) (remotePaths : List String) : List (String × FilePath) :=
  KeyedRows.insertNew (fun item => destName item.2) [] (remotePaths.filterMap fun raw =>
    (ctx.locate w.dirs raw).map fun path => (raw, path))

/-- Whether a row is marked with some paths. -/
def isMarked (remotePaths : List String) (r : DeviceLogEvent) : Bool :=
  r.planRunId = some planRunId && r.state = .remote &&
    (given r.remotePath).any remotePaths.contains

/-- A mark of a row. -/
def markOf (w : ExtractWorld C) (r : DeviceLogEvent) : ArchiveMark C :=
  let path := (given r.remotePath).bind (ctx.locate w.dirs)
  ⟨r.id, path.bind w.dirs, path.bind fun path => w.jira (destName path)⟩

/-- **One moment** of `run_extract_sync`, or of someone else. -/
def step (w : ExtractWorld C) : ExtractAction C → Option (ExtractWorld C)
  | .begin remotePaths =>
    match w.phase with
    | .idle =>
      if remotePaths.Perm (listRemotePathsForExtract planRunId w.db) then
        some { w with phase := .running (w.firstOfNames ctx remotePaths) [] }
      else none
    | .running .. => none
  | .copy =>
    match w.phase with
    | .running ((raw, path) :: todo) archived =>
      match w.jira (destName path) with
      | some ⟨_, true⟩ => some { w with phase := .running todo (archived ++ [raw]) }
      | _ =>
        (w.dirs path).map fun content => { w with
          jira := Function.update w.jira (destName path) (some ⟨content, true⟩)
          phase := .running todo (archived ++ [raw]) }
    | _ => none
  | .copyFails left =>
    match w.phase with
    | .running ((_, path) :: todo) archived =>
      match w.jira (destName path) with
      | some ⟨_, true⟩ => none
      | some ⟨_, false⟩ => some { w with
          jira := Function.update w.jira (destName path) (left.map fun content => ⟨content, false⟩)
          phase := .running todo archived }
      | none => some { w with phase := .running todo archived }
    | _ => none
  | .mark now =>
    match w.phase with
    | .running [] archived => some { w with
        db := markEventsArchived w.db planRunId archived now
        phase := .idle
        marks := w.marks ++ (w.db.rows.filter (isMarked planRunId archived)).map (w.markOf ctx) }
    | _ => none
  | .crash => some { w with phase := .idle }
  | .write db dirs =>
    match w.phase with
    | .idle => some { w with db := db, dirs := dirs }
    | .running .. => none

/-- The step relation. -/
def Step (w : ExtractWorld C) (a : ExtractAction C) (w' : ExtractWorld C) : Prop :=
  w.step ctx planRunId a = some w'

end ExtractWorld

/-! ### Faithful marks -/

/-- **What a row was marked for** is a complete copy of its own directory. -/
def Faithful (mark : ArchiveMark C) : Prop :=
  ∃ content, mark.own = some content ∧ mark.stored = some ⟨content, true⟩

/-- All marks are faithful. -/
def AllFaithful (w : ExtractWorld C) : Prop := ∀ mark ∈ w.marks, Faithful mark

/-- A path is the one of a row that is not archived yet. -/
def Awaited (w : ExtractWorld C) (raw : String) : Prop :=
  ∃ r ∈ w.db.rows, r.planRunId = some planRunId ∧ r.state = .remote ∧ given r.remotePath = some raw

/-- A complete directory that is there already is the copy of what it is taken for, if a row is to
be marked for it. -/
def OwnCopy (w : ExtractWorld C) : ExtractPhase → Prop
  | .running ((raw, path) :: _) _ => Awaited planRunId w raw →
      ∀ entry ∈ w.jira (destName path), entry.complete = true → w.dirs path = some entry.content
  | .running [] _ => True
  | .idle => True

/-- The side condition of a step: what is taken for a copy is one. -/
def TakesOwn (w : ExtractWorld C) : ExtractAction C → Prop
  | .copy => OwnCopy planRunId w w.phase
  | _ => True

/-- Whether a path is awaited can be computed. -/
instance decidableAwaited (w : ExtractWorld C) (raw : String) : Decidable (Awaited planRunId w raw) :=
  inferInstanceAs (Decidable (∃ r ∈ w.db.rows, _))

/-- Whether a directory is the copy can be computed. -/
instance decidableOwnCopy [DecidableEq C] (w : ExtractWorld C) :
    (phase : ExtractPhase) → Decidable (OwnCopy planRunId w phase)
  | .running ((raw, path) :: _) _ => inferInstanceAs (Decidable (Awaited planRunId w raw →
      ∀ entry ∈ w.jira (destName path), entry.complete = true → w.dirs path = some entry.content))
  | .running [] _ => .isTrue trivial
  | .idle => .isTrue trivial

/-- Whether a step takes what is its own can be computed. -/
instance decidableTakesOwn [DecidableEq C] (w : ExtractWorld C) :
    (a : ExtractAction C) → Decidable (TakesOwn planRunId w a)
  | .copy => decidableOwnCopy planRunId w w.phase
  | .begin _ => .isTrue trivial
  | .copyFails _ => .isTrue trivial
  | .mark _ => .isTrue trivial
  | .crash => .isTrue trivial
  | .write _ _ => .isTrue trivial

/-- What the rows are to be marked for. -/
def PhaseFaithful (w : ExtractWorld C) : Prop :=
  match w.phase with
  | .idle => True
  | .running todo archived =>
    (∀ item ∈ todo, ctx.locate w.dirs item.1 = some item.2) ∧
      ∀ raw ∈ archived, Awaited planRunId w raw → ∃ path content,
        ctx.locate w.dirs raw = some path ∧ w.dirs path = some content ∧
          w.jira (destName path) = some ⟨content, true⟩

variable {ctx planRunId}

/-- What is to be copied has been found. -/
theorem locate_firstOfNames {w : ExtractWorld C} {remotePaths : List String}
    {item : String × FilePath} (h : item ∈ w.firstOfNames ctx remotePaths) :
    ctx.locate w.dirs item.1 = some item.2 := by
  obtain hnone | hmem := KeyedRows.mem_of_mem_insertNew h
  · cases hnone
  · obtain ⟨raw, -, hsome⟩ := List.mem_filterMap.mp hmem
    obtain ⟨path, hlocate, rfl⟩ := Option.map_eq_some_iff.mp hsome
    exact hlocate

/-- **A directory in the folder becomes another one**: what is complete is left as it is. -/
theorem PhaseFaithful.update {w : ExtractWorld C} {todo : List (String × FilePath)}
    {archived : List String} {name : String} {entry : Option (Extracted C)}
    (hphase : w.phase = .running todo archived) (h : PhaseFaithful ctx planRunId w)
    (hname : ∀ content, w.jira name ≠ some ⟨content, true⟩) :
    ∀ raw ∈ archived, Awaited planRunId w raw → ∃ path content,
      ctx.locate w.dirs raw = some path ∧ w.dirs path = some content ∧
        Function.update w.jira name entry (destName path) = some ⟨content, true⟩ := by
  rw [PhaseFaithful, hphase] at h
  intro raw hraw hawaited
  obtain ⟨path, content, hlocate, hdir, hstored⟩ := h.2 raw hraw hawaited
  refine ⟨path, content, hlocate, hdir, ?_⟩
  have hne : destName path ≠ name := by
    rintro rfl
    exact hname content hstored
  rw [Function.update_of_ne hne]
  exact hstored

/-- **The marks of an extraction that comes to its end** are faithful. -/
theorem PhaseFaithful.marks {w : ExtractWorld C} {archived : List String}
    (hphase : w.phase = .running [] archived) (h : PhaseFaithful ctx planRunId w) :
    ∀ mark ∈ (w.db.rows.filter (ExtractWorld.isMarked planRunId archived)).map (w.markOf ctx),
      Faithful mark := by
  rw [PhaseFaithful, hphase] at h
  intro mark hmark
  obtain ⟨r, hmem, rfl⟩ := List.mem_map.mp hmark
  obtain ⟨hr, hmarked⟩ := List.mem_filter.mp hmem
  rw [ExtractWorld.isMarked, Bool.and_eq_true, Bool.and_eq_true, Option.any_eq_true] at hmarked
  obtain ⟨⟨hrun, hstate⟩, raw, hraw, hcontains⟩ := hmarked
  obtain ⟨path, content, hlocate, hdir, hstored⟩ := h.2 raw (List.contains_iff_mem.mp hcontains)
    ⟨r, hr, of_decide_eq_true hrun, of_decide_eq_true hstate, hraw⟩
  refine ⟨content, ?_, ?_⟩
  · rw [ExtractWorld.markOf, hraw, Option.bind_some, hlocate]
    exact hdir
  · rw [ExtractWorld.markOf, hraw, Option.bind_some, hlocate]
    exact hstored

/-- What was marked, and what is to be marked. -/
def ExtractRight (ctx : ExtractContext C) (planRunId : ℕ) (w : ExtractWorld C) : Prop :=
  AllFaithful w ∧ PhaseFaithful ctx planRunId w

/-- **One step keeps all marks faithful**, if it takes nothing for a copy that is none. -/
theorem ExtractRight.step {w w' : ExtractWorld C} (h : ExtractRight ctx planRunId w)
    {a : ExtractAction C} (hown : TakesOwn planRunId w a) (hstep : w.Step ctx planRunId a w') :
    ExtractRight ctx planRunId w' := by
  rw [ExtractWorld.Step] at hstep
  obtain ⟨hmarks, hright⟩ := h
  cases a with
  | begin remotePaths =>
      rw [ExtractWorld.step] at hstep
      split at hstep
      · obtain ⟨-, hsome⟩ := Option.ite_none_right_eq_some.mp hstep
        obtain rfl := Option.some.inj hsome
        exact ⟨hmarks, fun item hitem => locate_firstOfNames hitem, fun _ hraw => (nomatch hraw)⟩
      · cases hstep
  | copy =>
      rw [ExtractWorld.step] at hstep
      split at hstep
      · rename_i raw path todo archived hphase
        rw [TakesOwn, hphase] at hown
        have hrunning := hright
        rw [PhaseFaithful, hphase] at hrunning
        obtain ⟨hlocated, htaken⟩ := hrunning
        have hfirst := hlocated (raw, path) (List.mem_cons_self ..)
        have hrest : ∀ item ∈ todo, ctx.locate w.dirs item.1 = some item.2 :=
          fun item hitem => hlocated item (List.mem_cons_of_mem _ hitem)
        split at hstep
        · rename_i content hstored
          obtain rfl := Option.some.inj hstep
          refine ⟨hmarks, hrest, fun raw' hraw' hawaited => ?_⟩
          cases List.mem_append.mp hraw' with
          | inl hold => exact htaken raw' hold hawaited
          | inr hnew =>
              obtain rfl := List.mem_singleton.mp hnew
              exact ⟨path, content, hfirst,
                hown hawaited _ hstored rfl, hstored⟩
        · rename_i hincomplete
          obtain ⟨content, hdir, rfl⟩ := Option.map_eq_some_iff.mp hstep
          refine ⟨hmarks, hrest, fun raw' hraw' hawaited => ?_⟩
          cases List.mem_append.mp hraw' with
          | inl hold =>
              exact hright.update hphase (fun content => hincomplete content) raw' hold hawaited
          | inr hnew =>
              obtain rfl := List.mem_singleton.mp hnew
              exact ⟨path, content, hfirst, hdir, Function.update_self ..⟩
      · cases hstep
  | copyFails left =>
      rw [ExtractWorld.step] at hstep
      split at hstep
      · rename_i raw path todo archived hphase
        have hrunning := hright
        rw [PhaseFaithful, hphase] at hrunning
        obtain ⟨hlocated, htaken⟩ := hrunning
        have hrest : ∀ item ∈ todo, ctx.locate w.dirs item.1 = some item.2 :=
          fun item hitem => hlocated item (List.mem_cons_of_mem _ hitem)
        split at hstep
        · cases hstep
        · rename_i content hstored
          obtain rfl := Option.some.inj hstep
          refine ⟨hmarks, hrest, hright.update hphase fun content' heq => ?_⟩
          rw [hstored] at heq
          cases heq
        · obtain rfl := Option.some.inj hstep
          exact ⟨hmarks, hrest, htaken⟩
      · cases hstep
  | mark now =>
      rw [ExtractWorld.step] at hstep
      split at hstep
      · rename_i archived hphase
        obtain rfl := Option.some.inj hstep
        refine ⟨fun mark hmark => ?_, trivial⟩
        cases List.mem_append.mp hmark with
        | inl hold => exact hmarks mark hold
        | inr hnew => exact hright.marks hphase mark hnew
      · cases hstep
  | crash =>
      obtain rfl := Option.some.inj hstep
      exact ⟨hmarks, trivial⟩
  | write db dirs =>
      rw [ExtractWorld.step] at hstep
      split at hstep
      · rename_i hphase
        obtain rfl := Option.some.inj hstep
        refine ⟨hmarks, ?_⟩
        rw [PhaseFaithful]
        dsimp only
        rw [hphase]
        trivial
      · cases hstep

/-- **Archived means extracted**: all marks are faithful in every run in which what is in the folder
already, and complete, is the copy of the row that is to be marked for it. -/
theorem archived_means_extracted {db : EventDb} {dirs : FilePath → Option C}
    {jira : String → Option (Extracted C)} {w : ExtractWorld C}
    {tr : List (ExtractWorld C × ExtractAction C)}
    (hrun : Run (ExtractWorld.Step ctx planRunId) (.start db dirs jira) tr w)
    (hown : ∀ p ∈ tr, TakesOwn planRunId p.1 p.2) : Holds AllFaithful tr w :=
  (Run.invariant_of_guard (TakesOwn planRunId) (fun h hown hstep => ExtractRight.step h hown hstep)
    hrun ⟨fun _ hmark => (nomatch hmark), trivial⟩ hown).mono fun _ h => h.1

/-- A storage whose paths are known. -/
def knownPaths : ExtractContext ℕ where
  locate dirs raw :=
    if raw = "a" ∧ (dirs ["d1", "db.0"]).isSome then some ["d1", "db.0"]
    else if raw = "b" ∧ (dirs ["d2", "db.0"]).isSome then some ["d2", "db.0"]
    else none

/-- Two events whose directories have one base name. -/
def sameNames : EventDb := ⟨[uploadedEvent 1 "a", uploadedEvent 2 "b"], []⟩

/-- Their directories. -/
def sameNameDirs (path : FilePath) : Option ℕ :=
  if path = ["d1", "db.0"] then some 1 else if path = ["d2", "db.0"] then some 2 else none

/-- An extraction that stops before it marks, and the one after it. -/
theorem stopped_extract_faithful :
    let actions : List (ExtractAction ℕ) :=
      [.begin ["a", "b"], .copy, .crash, .begin ["a", "b"], .copy, .mark 1]
    ∃ w, actions.foldlM (ExtractWorld.step knownPaths 7) (.start sameNames sameNameDirs fun _ => none)
        = some w ∧ w.marks = [⟨1, some 1, some ⟨1, true⟩⟩] ∧
      Holds AllFaithful (traceOf (ExtractWorld.step knownPaths 7)
        (.start sameNames sameNameDirs fun _ => none) actions) w := by
  intro actions
  have hmarks : (actions.foldlM (ExtractWorld.step knownPaths 7)
      (.start sameNames sameNameDirs fun _ => none)).any
        (fun w => w.marks == [⟨1, some 1, some ⟨1, true⟩⟩]) = true := by decide +kernel
  obtain ⟨w, hw, heq⟩ := (Option.any_eq_true _ _).mp hmarks
  exact ⟨w, hw, eq_of_beq heq, archived_means_extracted (Run.of_foldlM hw) (by decide +kernel)⟩

/-- **The copy of another row is taken for a row's own**: two directories have one base name, and
the database gives their rows in another order the second time. -/
theorem other_copy_taken :
    ¬ ∀ (ctx : ExtractContext ℕ) (planRunId : ℕ) (db : EventDb) (dirs : FilePath → Option ℕ)
      (w : ExtractWorld ℕ) (tr : List (ExtractWorld ℕ × ExtractAction ℕ)),
      Run (ExtractWorld.Step ctx planRunId) (.start db dirs fun _ => none) tr w →
        Holds AllFaithful tr w := by
  intro hall
  let actions : List (ExtractAction ℕ) :=
    [.begin ["a", "b"], .copy, .mark 1, .begin ["b", "a"], .copy, .mark 2]
  have hmarks : (actions.foldlM (ExtractWorld.step knownPaths 7)
      (.start sameNames sameNameDirs fun _ => none)).any
        (fun w => w.marks == [⟨1, some 1, some ⟨1, true⟩⟩, ⟨2, some 2, some ⟨1, true⟩⟩]) = true := by
    decide +kernel
  obtain ⟨w, hw, heq⟩ := (Option.any_eq_true _ _).mp hmarks
  have hfaithful := (hall knownPaths 7 _ _ w _ (Run.of_foldlM hw)).2
  rw [AllFaithful, eq_of_beq heq] at hfaithful
  obtain ⟨content, hown, hstored⟩ := hfaithful _ (List.mem_cons_of_mem _ (List.mem_singleton_self _))
  cases hown
  cases hstored

end StabilityPlatform.EventExtract
