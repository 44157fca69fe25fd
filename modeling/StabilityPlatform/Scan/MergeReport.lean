import StabilityPlatform.Lib.FileTree
import StabilityPlatform.Lib.Like
import StabilityPlatform.Lib.Ranking
import StabilityPlatform.Scan.ReportMapping

/-!
# Paths of a merged report

The rows of a merged report name files on the disks of the hosts. After publishing, each path is
rewritten to the directory of central storage that has the name of its event directory: the one in
the flat layout of the plan run, or else the newest one that the event rows know. A directory name
is all that is left of the path, and several devices may share it.

## Main results

* `eventDirOf_of_inEventDir`: **what is left of a path** is the name of its event directory.
* `centerEventDirFromDle_eq_some_iff`: **which directory the event rows lead to**.
* `rewriteCell_eq`: what a path is rewritten to.
* `merged_path_right_iff`: **when the rewritten path is right**: it is the device's own copy of the
  run if there is one, and no other device's directory if there is none.
-/

namespace StabilityPlatform.MergeReport

open Lib Lib.FileTree ScanReport

/-! ### From a path to a directory name -/

/-- The markers of event directories, without their slashes. -/
def markerNames : List (List Char) := ["aee_exp".toList, "vendor_aee_exp".toList]

/-- The name after `/aee_exp/` or `/vendor_aee_exp/` at the start of a text, where nothing but one
line follows: a match of `/(?:vendor_)?aee_exp/([^/]+)(/.*)?$`. -/
def eventDirAt : List Char → Option (List Char)
  | '/' :: s =>
    let after := (s.dropWhile (· ≠ '/')).drop 1
    let name := after.takeWhile (· ≠ '/')
    let rest := after.dropWhile (· ≠ '/')
    if s.takeWhile (· ≠ '/') ∈ markerNames ∧ name ≠ [] ∧
        rest.dropWhile (· ≠ '\n') ∈ [[], ['\n']] then some name
    else none
  | _ => none

/-- The name in the first match. -/
def eventDirOf : List Char → Option (List Char)
  | [] => none
  | c :: s => (eventDirAt (c :: s)).orElse fun _ => eventDirOf s

/-- The flat path of an event directory of a plan run. -/
def flatPath (centerRoot : String) (planRunId : ℕ) (eventDir : String) : String :=
  centerRoot ++ "/devices/" ++ toString planRunId ++ "/" ++ eventDir ++ "/"

/-- `_map_agent_path_to_center`. -/
def mapAgentPathToCenter (path : String) (planRunId : ℕ) (centerRoot : String) : String :=
  match eventDirOf path.toList with
  | none => path
  | some eventDir => flatPath centerRoot planRunId (String.ofList eventDir)

/-- The name at the end of a flat path: a match of `/devices/\d+/([^/]+)/$`. -/
def centerDirAt (s : List Char) : Option (List Char) :=
  if "/devices/".toList.isPrefixOf s then
    let run := s.drop "/devices/".toList.length
    let after := run.dropWhile Char.isDigit
    let name := (after.drop 1).takeWhile (· ≠ '/')
    if run.takeWhile Char.isDigit ≠ [] ∧ after.head? = some '/' ∧ name ≠ [] ∧
        (after.drop 1).dropWhile (· ≠ '/') ∈ [['/'], ['/', '\n']] then some name
    else none
  else none

/-- The name in the first match. -/
def centerDirOf : List Char → Option (List Char)
  | [] => none
  | c :: s => (centerDirAt (c :: s)).orElse fun _ => centerDirOf s

/-! ### The event rows -/

/-- What the search reads of an event row. -/
structure DleRow where
  id : ℕ
  planRunId : Option ℕ
  remotePath : Option String
  deriving DecidableEq

/-- The event rows; `id` is the primary key. -/
structure Ledger where
  rows : List DleRow
  /-- No two rows share an `id`. -/
  keyed : rows.Pairwise fun a b => a.id ≠ b.id

/-- `plan_run_id DESC NULLS LAST, id DESC`. -/
def DleRow.key (row : DleRow) : ℕ ×ₗ ℤ ×ₗ ℤ :=
  toLex (if row.planRunId = none then 1 else 0,
    toLex (-(row.planRunId.getD 0 : ℤ), -(row.id : ℤ)))

/-- `_escape_like`. -/
def escapeLike (value : String) : String := String.ofList (Like.escape value.toList)

/-- Whether the remote path of a row matches `%/devices/%/` and the name. -/
def DleRow.named (eventDir : String) (row : DleRow) : Bool :=
  match row.remotePath with
  | none => false
  | some path => Like.like path ("%/devices/%/" ++ escapeLike eventDir)

/-- A text without the slashes at its end. -/
def rstripSlash (s : String) : String := String.ofList (s.toList.rdropWhile (· == '/'))

/-- `path`: the remote path of a row. -/
def DleRow.path (row : DleRow) : String := rstripSlash (row.remotePath.getD "")

/-- Whether the path of a row is an existing directory below the central root. -/
def DleRow.usable (isdir : String → Bool) (centerRoot : String) (row : DleRow) : Bool :=
  pyStartsWith row.path (rstripSlash centerRoot ++ "/") && isdir row.path

/-- `_CENTER_EVENT_PATH_DLE_CANDIDATES`. -/
def dleCandidates : ℕ := 50

/-- `_center_event_dir_from_dle`; without a ledger the query has failed. -/
def centerEventDirFromDle (isdir : String → Bool) (ledger : Option Ledger)
    (centerRoot eventDir : String) : Option String :=
  ledger.bind fun l =>
    (((sortBy DleRow.key (l.rows.filter (DleRow.named eventDir))).take dleCandidates).find?
      (DleRow.usable isdir centerRoot)).map fun row => row.path ++ "/"

/-- `_resolve_center_event_path`. -/
def resolveCenterEventPath (isdir : String → Bool) (ledger : Option Ledger) (centerRoot : String)
    (planRunId : ℕ) (eventDir : String) : String :=
  if isdir (flatPath centerRoot planRunId eventDir) then flatPath centerRoot planRunId eventDir
  else
    (centerEventDirFromDle isdir ledger centerRoot eventDir).getD
      (flatPath centerRoot planRunId eventDir)

/-! ### Rewriting a report -/

/-- What a cell of the path column is rewritten to. -/
def rewriteCell (isdir : String → Bool) (ledger : Option Ledger) (planRunId : ℕ)
    (centerRoot val : String) : String :=
  if val = "" then val
  else if mapAgentPathToCenter val planRunId centerRoot = val then val
  else
    match centerDirOf (mapAgentPathToCenter val planRunId centerRoot).toList with
    | some eventDir =>
      resolveCenterEventPath isdir ledger centerRoot planRunId (String.ofList eventDir)
    | none => mapAgentPathToCenter val planRunId centerRoot

/-- `path_col`: the first column with the header `path`. -/
def pathColumn {ncols : ℕ} (header : Fin ncols → String) : Option (Fin ncols) :=
  (List.finRange ncols).find? fun c => pyLower (pyStrip (header c)) = "path"

/-- The rows of a sheet with the path column rewritten below the header. -/
def rewriteRows {ncols : ℕ} (rewrite : String → String) :
    List (Fin ncols → String) → List (Fin ncols → String)
  | [] => []
  | header :: rows =>
    match pathColumn header with
    | none => header :: rows
    | some col => header :: rows.map fun row => Function.update row col (rewrite (row col))

/-- `_rewrite_merge_report_paths_to_center`, for one report that can be read and written. -/
def rewriteReport (isdir : String → Bool) (ledger : Option Ledger) (planRunId : ℕ)
    (centerRoot : String) (sheet : Sheet) : Sheet :=
  { sheet with rows := rewriteRows (rewriteCell isdir ledger planRunId centerRoot) sheet.rows }

/-! ### What is left of a path -/

/-- A name that a directory can have. -/
structure IsName (name : String) : Prop where
  noSlash : '/' ∉ name.toList
  ne_empty : name ≠ ""
  ne_dot : name ≠ "."
  ne_up : name ≠ ".."

/-- No slash of a text is followed by the name of a marker. -/
def NoMarker (s : List Char) : Prop :=
  ∀ a b, s = a ++ '/' :: b → b.takeWhile (· ≠ '/') ∉ markerNames

/-- Whether a text has no marker is seen at its ends. -/
theorem noMarker_iff {s : List Char} : NoMarker s ↔
    ∀ t ∈ s.tails, t.head? = some '/' → t.tail.takeWhile (· ≠ '/') ∉ markerNames := by
  constructor
  · intro h t ht hslash
    obtain ⟨a, rfl⟩ := (List.mem_tails _ _).mp ht
    cases t with
    | nil => cases hslash
    | cons c b =>
        rw [List.head?_cons, Option.some.injEq] at hslash
        subst hslash
        exact h a b rfl
  · rintro h a b rfl
    exact h ('/' :: b) ((List.mem_tails _ _).mpr (List.suffix_append _ _)) rfl

instance : DecidablePred NoMarker := fun _ => decidable_of_iff _ noMarker_iff.symm

/-- **A path in an event directory of a device**: in the directory of its serial number, below the
first directory with the name of a marker, on one line. -/
def InEventDir (path serial eventDir : String) : Prop :=
  ∃ before marker rest, path.toList =
      (before ++ '/' :: serial.toList) ++ '/' :: (marker ++ '/' :: (eventDir.toList ++ rest)) ∧
    marker ∈ markerNames ∧ NoMarker (before ++ '/' :: serial.toList) ∧
    (rest = [] ∨ ∃ line, rest = '/' :: line ∧ '\n' ∉ line)

/-- A name before a slash is taken whole. -/
theorem takeWhile_name {name : List Char} (h : '/' ∉ name) (rest : List Char)
    (hrest : rest = [] ∨ ∃ line, rest = '/' :: line) :
    (name ++ rest).takeWhile (· ≠ '/') = name ∧ (name ++ rest).dropWhile (· ≠ '/') = rest := by
  have hname : ∀ c ∈ name, decide (c ≠ '/') = true := fun c hc =>
    decide_eq_true fun heq => h (heq ▸ hc)
  rw [List.takeWhile_append_of_pos hname, List.dropWhile_append_of_pos hname]
  rcases hrest with rfl | ⟨line, rfl⟩ <;> simp

/-- A match starts with a slash and the name of a marker. -/
theorem marker_of_eventDirAt {s name : List Char} (h : eventDirAt s = some name) :
    ∃ t, s = '/' :: t ∧ t.takeWhile (· ≠ '/') ∈ markerNames := by
  rw [eventDirAt.eq_def] at h
  split at h
  · next t =>
      dsimp only at h
      split at h
      · next hmatch => exact ⟨t, rfl, hmatch.1⟩
      · cases h
  · cases h

/-- A marker at the start of a text is found. -/
theorem eventDirAt_marker {marker name rest : List Char} (hmarker : marker ∈ markerNames)
    (hslash : '/' ∉ name) (hne : name ≠ [])
    (hrest : rest = [] ∨ ∃ line, rest = '/' :: line ∧ '\n' ∉ line) :
    eventDirAt ('/' :: (marker ++ '/' :: (name ++ rest))) = some name := by
  have hnoslash : '/' ∉ marker := by
    have hall : ∀ m ∈ markerNames, '/' ∉ m := by decide
    exact hall marker hmarker
  obtain ⟨htake, hdrop⟩ := takeWhile_name hnoslash ('/' :: (name ++ rest)) (.inr ⟨_, rfl⟩)
  obtain ⟨hname, hafter⟩ := takeWhile_name hslash rest (hrest.imp id fun ⟨line, h, _⟩ => ⟨line, h⟩)
  have hline : rest.dropWhile (· ≠ '\n') = [] := by
    rcases hrest with rfl | ⟨line, rfl, hline⟩
    · rfl
    · rw [List.dropWhile_eq_nil_iff]
      intro c hc
      rcases List.mem_cons.mp hc with rfl | hc
      · decide
      · exact decide_eq_true fun heq => hline (heq ▸ hc)
  rw [eventDirAt, htake, hdrop, List.drop_one, List.tail_cons, hname, hafter, hline,
    if_pos ⟨hmarker, hne, List.mem_cons_self⟩]

/-- In front of a slash, a text without a marker matches nothing. -/
theorem eventDirOf_append {before after : List Char} (h : NoMarker before) :
    eventDirOf (before ++ '/' :: after) = eventDirOf ('/' :: after) := by
  induction before with
  | nil => rfl
  | cons c before ih =>
      have htail : NoMarker before := fun a b heq => h (c :: a) b (by rw [heq, List.cons_append])
      have hnone : eventDirAt (c :: (before ++ '/' :: after)) = none := by
        cases hat : eventDirAt (c :: (before ++ '/' :: after)) with
        | none => rfl
        | some name =>
            obtain ⟨t, heq, hmarker⟩ := marker_of_eventDirAt hat
            rw [List.cons.injEq] at heq
            obtain ⟨rfl, rfl⟩ := heq
            have hfirst : (before ++ '/' :: after).takeWhile (· ≠ '/') =
                before.takeWhile (· ≠ '/') := by
              rw [List.takeWhile_append]
              split
              · next hlen =>
                  rw [(List.takeWhile_prefix _).eq_of_length hlen]
                  simp
              · rfl
            exact absurd (hfirst ▸ hmarker) (h [] before rfl)
      rw [List.cons_append, eventDirOf, hnone]
      exact ih htail

/-- **What is left of a path in an event directory** is the name of the directory. -/
theorem eventDirOf_of_inEventDir {path serial eventDir : String}
    (h : InEventDir path serial eventDir) (hname : IsName eventDir) :
    eventDirOf path.toList = some eventDir.toList := by
  obtain ⟨before, marker, rest, hpath, hmarker, hno, hrest⟩ := h
  have hne : eventDir.toList ≠ [] := by simpa using hname.ne_empty
  rw [hpath, eventDirOf_append hno, eventDirOf,
    eventDirAt_marker hmarker hname.noSlash hne hrest]
  rfl

/-! ### The flat path -/

/-- The number of a plan run has digits, and a number has one text. -/
theorem toString_run (n : ℕ) :
    (∀ c ∈ (toString n).toList, c.isDigit = true) ∧ (toString n).toList ≠ [] := by
  have htext : (toString n).toList = Nat.toDigits 10 n := by
    rw [Nat.toString_eq_repr, Nat.repr, String.toList_ofList]
  rw [htext]
  exact ⟨fun c hc => Nat.isDigit_of_mem_toDigits (by decide) (by decide) hc, Nat.toDigits_ne_nil⟩

theorem toString_run_inj {n m : ℕ} (h : toString n = toString m) : n = m := by
  have htext : ∀ k : ℕ, (toString k).toList = Nat.toDigits 10 k := fun k => by
    rw [Nat.toString_eq_repr, Nat.repr, String.toList_ofList]
  have hdigits := congrArg String.toList h
  rw [htext, htext] at hdigits
  have hvalue := congrArg (Nat.ofDigitChars 10 · 0) hdigits
  rwa [Nat.ofDigitChars_toDigits (by decide) (by decide),
    Nat.ofDigitChars_toDigits (by decide) (by decide)] at hvalue

/-- The number of a plan run is a name. -/
theorem isName_run (n : ℕ) : IsName (toString n) := by
  obtain ⟨hdigits, hne⟩ := toString_run n
  refine ⟨fun h => ?_, fun h => hne (by rw [h]; rfl), fun h => ?_, fun h => ?_⟩
  · have := hdigits _ h
    simp at this
  · have := hdigits '.' (by rw [h]; decide)
    simp at this
  · have := hdigits '.' (by rw [h]; decide)
    simp at this

/-- The text of a match: a name between two slashes at the end. -/
theorem eq_of_centerDirAt {s name : List Char} (h : centerDirAt s = some name) :
    '/' ∉ name ∧ ∃ before, s = before ++ '/' :: (name ++ ['/']) ∨
      s = before ++ '/' :: (name ++ ['/', '\n']) := by
  rw [centerDirAt] at h
  split at h
  · next hpre =>
      obtain ⟨run, rfl⟩ := List.isPrefixOf_iff_prefix.mp hpre
      rw [List.drop_left] at h
      dsimp only at h
      split at h
      · next hmatch =>
          obtain ⟨-, hslash, -, hend⟩ := hmatch
          rw [Option.some.injEq] at h
          subst h
          refine ⟨fun hmem => by simpa using List.mem_takeWhile_imp hmem, ?_⟩
          have hrun := List.takeWhile_append_dropWhile (p := Char.isDigit) (l := run)
          generalize run.dropWhile Char.isDigit = after at hslash hend hrun
          cases after with
          | nil => cases hslash
          | cons c after =>
              rw [List.head?_cons, Option.some.injEq] at hslash
              subst hslash
              rw [List.drop_one, List.tail_cons] at hend ⊢
              have hafter := List.takeWhile_append_dropWhile (p := (· ≠ '/')) (l := after)
              refine ⟨"/devices/".toList ++ run.takeWhile Char.isDigit, ?_⟩
              simp only [List.mem_cons, List.not_mem_nil, or_false] at hend
              rcases hend with hend | hend
              · left
                rw [← hend, hafter, List.append_assoc, hrun]
              · right
                rw [← hend, hafter, List.append_assoc, hrun]
      · cases h
  · cases h

theorem exists_of_centerDirOf {s name : List Char} (h : centerDirOf s = some name) :
    ∃ before mid, s = before ++ mid ∧ centerDirAt mid = some name := by
  induction s with
  | nil => cases h
  | cons c s ih =>
      rw [centerDirOf] at h
      cases hat : centerDirAt (c :: s) with
      | some found =>
          rw [hat] at h
          exact ⟨[], c :: s, rfl, hat.trans h⟩
      | none =>
          rw [hat] at h
          obtain ⟨before, mid, rfl, hmid⟩ := ih h
          exact ⟨c :: before, mid, rfl, hmid⟩

/-- A match is found. -/
theorem isSome_centerDirOf {before mid : List Char} (hmid : (centerDirAt mid).isSome = true) :
    (centerDirOf (before ++ mid)).isSome = true := by
  induction before with
  | nil =>
      cases mid with
      | nil => cases hmid
      | cons c mid =>
          obtain ⟨name, hname⟩ := Option.isSome_iff_exists.mp hmid
          rw [List.nil_append, centerDirOf, hname]
          rfl
  | cons c before ih =>
      rw [List.cons_append, centerDirOf]
      cases centerDirAt (c :: (before ++ mid)) with
      | some found => rfl
      | none => exact ih

/-- The last name before a slash is the only one. -/
theorem last_name_unique {a b name name' : List Char} (h : '/' ∉ name) (h' : '/' ∉ name')
    (heq : a ++ '/' :: name = b ++ '/' :: name') : name = name' := by
  have hrev := congrArg (fun l => (List.reverse l).takeWhile (· ≠ '/')) heq
  simp only [List.reverse_append, List.reverse_cons, List.append_assoc, List.singleton_append]
    at hrev
  rw [(takeWhile_name (by simpa using h) _ (.inr ⟨_, rfl⟩)).1,
    (takeWhile_name (by simpa using h') _ (.inr ⟨_, rfl⟩)).1] at hrev
  exact List.reverse_injective hrev

/-- **The name at the end of a flat path** is found again. -/
theorem centerDirOf_flatPath (centerRoot : String) (planRunId : ℕ) {eventDir : String}
    (hname : IsName eventDir) :
    centerDirOf (flatPath centerRoot planRunId eventDir).toList = some eventDir.toList := by
  obtain ⟨hdigits, hne⟩ := toString_run planRunId
  have hdir : eventDir.toList ≠ [] := by simpa using hname.ne_empty
  have htext : (flatPath centerRoot planRunId eventDir).toList = centerRoot.toList ++
      ("/devices/".toList ++ ((toString planRunId).toList ++ '/' :: (eventDir.toList ++ ['/']))) := by
    simp [flatPath]
  obtain ⟨htake, hdrop⟩ := takeWhile_name hname.noSlash ['/'] (.inr ⟨[], rfl⟩)
  have hat : (centerDirAt ("/devices/".toList ++
      ((toString planRunId).toList ++ '/' :: (eventDir.toList ++ ['/'])))).isSome = true := by
    rw [centerDirAt, if_pos (List.isPrefixOf_iff_prefix.mpr (List.prefix_append _ _)),
      List.drop_left]
    dsimp only
    rw [List.takeWhile_append_of_pos hdigits, List.dropWhile_append_of_pos hdigits]
    have hstop : ('/' :: (eventDir.toList ++ ['/'])).dropWhile Char.isDigit =
        '/' :: (eventDir.toList ++ ['/']) := rfl
    rw [hstop, List.drop_one, List.tail_cons, htake, hdrop, if_pos]
    · rfl
    · exact ⟨by simp, rfl, hdir, List.mem_cons_self⟩
  obtain ⟨found, hfound⟩ := Option.isSome_iff_exists.mp
    (@isSome_centerDirOf centerRoot.toList _ hat)
  rw [htext, hfound]
  obtain ⟨before, mid, hsplit, hmid⟩ := exists_of_centerDirOf hfound
  obtain ⟨hslash, start, rfl | rfl⟩ := eq_of_centerDirAt hmid
  · have hcut : centerRoot.toList ++ ("/devices/".toList ++ (toString planRunId).toList) ++
        '/' :: eventDir.toList = before ++ start ++ '/' :: found :=
      @List.append_cancel_right _ _ ['/'] _ (by simpa using hsplit)
    rw [last_name_unique hname.noSlash hslash hcut]
  · have hcut : centerRoot.toList ++ ("/devices/".toList ++ (toString planRunId).toList) ++
        '/' :: eventDir.toList ++ ['/'] = before ++ start ++ '/' :: (found ++ ['/']) ++ ['\n'] := by
      simpa using hsplit
    have hlast := congrArg List.getLast? hcut
    rw [List.getLast?_concat, List.getLast?_concat] at hlast
    simp at hlast

/-! ### Central storage -/

/-- A copy of an event directory. -/
structure Copy where
  device : String
  planRunId : ℕ
  eventId : Option String
  eventDir : String
  deriving DecidableEq

/-- Where a copy is, below the central root. -/
def Copy.place (copy : Copy) : List String :=
  "devices" :: toString copy.planRunId :: (copy.eventId.toList ++ [copy.eventDir])

/-- **Central storage**: a tree in which the levels of the layout are no links, with the copies in
it. -/
structure Central where
  centerRoot : String
  noUp : ".." ∉ components centerRoot
  links : ℕ
  tree : FileTree.Tree Unit
  rootDir : tree [] = some .dir
  grounded : Grounded [] tree
  noLinks : ∀ run eventDir, NoLinks tree []
    (names (components centerRoot) ++ ["devices", run, eventDir])
  copies : List Copy
  held : ∀ copy ∈ copies, tree (names (components centerRoot) ++ copy.place) = some .dir

namespace Central

variable (c : Central)

/-- The place of the central root. -/
def root : List String := names (components c.centerRoot)

/-- `os.path.isdir`. -/
def isdir (path : String) : Bool :=
  match stat c.links c.tree [] (components path) with
  | some .dir => true
  | _ => false

/-- The directory a path leads to. -/
def leadsTo (path : String) : Option (List String) :=
  if c.isdir path then resolve c.tree true c.links [] (components path) else none

/-- The place of a copy in the flat layout. -/
def flatPlace (planRunId : ℕ) (eventDir : String) : List String :=
  c.root ++ ["devices", toString planRunId, eventDir]

theorem isdir_iff {path : String} :
    c.isdir path = true ↔ stat c.links c.tree [] (components path) = some .dir := by
  rw [isdir]
  split <;> simp_all

theorem leadsTo_append_slash (path : String) : c.leadsTo (path ++ "/") = c.leadsTo path := by
  have hcomps : components (path ++ "/") = components path := by
    have happend := components_append path ""
    rw [String.append_empty, components_empty, List.append_nil] at happend
    exact happend
  rw [leadsTo, leadsTo, isdir, isdir, hcomps]

theorem components_flatPath (planRunId : ℕ) {eventDir : String} (hname : IsName eventDir) :
    components (flatPath c.centerRoot planRunId eventDir) =
      components c.centerRoot ++ ["devices", toString planRunId, eventDir] := by
  have htext : flatPath c.centerRoot planRunId eventDir = c.centerRoot ++ "/" ++
      ("devices" ++ "/" ++ (toString planRunId ++ "/" ++ (eventDir ++ "/" ++ ""))) := by
    have hdevices : "/devices/" = "/" ++ ("devices" ++ "/") := by decide
    simp only [flatPath, hdevices, String.append_assoc, String.append_empty]
  have hrun := isName_run planRunId
  rw [htext, components_append, components_append, components_append, components_append,
    @components_name "devices" (by decide) (by decide), components_name hrun.noSlash hrun.ne_empty,
    components_name hname.noSlash hname.ne_empty, components_empty]
  rfl

/-- **The flat path is ready**: no link is on its way. -/
theorem ready_flatPath (planRunId : ℕ) {eventDir : String} (hname : IsName eventDir) :
    Ready c.tree [] (components (flatPath c.centerRoot planRunId eventDir)) ∧
      names (components (flatPath c.centerRoot planRunId eventDir)) =
        c.flatPlace planRunId eventDir := by
  have hrun := isName_run planRunId
  have hnames : names (components (flatPath c.centerRoot planRunId eventDir)) =
      c.flatPlace planRunId eventDir := by
    rw [c.components_flatPath planRunId hname, names_append, names_cons_of_ne (by decide),
      names_cons_of_ne hrun.ne_dot, names_cons_of_ne hname.ne_dot]
    rfl
  refine ⟨⟨?_, ?_, c.rootDir⟩, hnames⟩
  · rw [c.components_flatPath planRunId hname]
    have hdevices : ".." ≠ "devices" := by decide
    simp only [List.mem_append, List.mem_cons, List.not_mem_nil, or_false, not_or]
    exact ⟨c.noUp, hdevices, hrun.ne_up.symm, hname.ne_up.symm⟩
  · rw [hnames]
    exact c.noLinks _ _

/-- **Where the flat path leads.** -/
theorem isdir_flatPath (planRunId : ℕ) {eventDir : String} (hname : IsName eventDir) :
    c.isdir (flatPath c.centerRoot planRunId eventDir) = true ↔
      c.tree (c.flatPlace planRunId eventDir) = some .dir := by
  obtain ⟨hready, hnames⟩ := c.ready_flatPath planRunId hname
  rw [isdir_iff]
  constructor
  · intro h
    have hat := stat_eq_some hready h
    rwa [hnames, List.nil_append] at hat
  · intro h
    refine stat_of_dir hready c.grounded ?_
    rwa [hnames, List.nil_append]

theorem leadsTo_flatPath {planRunId : ℕ} {eventDir : String} (hname : IsName eventDir)
    (hdir : c.isdir (flatPath c.centerRoot planRunId eventDir) = true) :
    c.leadsTo (flatPath c.centerRoot planRunId eventDir) =
      some (c.flatPlace planRunId eventDir) := by
  obtain ⟨hready, hnames⟩ := c.ready_flatPath planRunId hname
  rw [leadsTo, if_pos hdir]
  rw [isdir_iff, stat, Option.bind_eq_some_iff] at hdir
  obtain ⟨place, hplace, -⟩ := hdir
  rw [hplace, resolve_names hready.noUp hready.noLinks hplace, hnames, List.nil_append]

/-- A path leads to a copy. -/
def IsAt (path : String) (copy : Copy) : Prop := c.leadsTo path = some (c.root ++ copy.place)

/-- A path leads to a copy or into it. -/
def Points (path : String) (copy : Copy) : Prop :=
  ∃ place, c.leadsTo path = some place ∧ c.root ++ copy.place <+: place

end Central

/-! ### Which directory the event rows lead to -/

/-- The rows of the ledger, none when the query has failed. -/
def rowsOf (ledger : Option Ledger) : List DleRow := ledger.elim [] Ledger.rows

/-- The remote path of a row ends in the name, somewhere below a directory `devices`. -/
def NamesDir (eventDir : String) (row : DleRow) : Prop :=
  ∃ path before between, row.remotePath = some path ∧
    path.toList = before ++ ("/devices/".toList ++ (between ++ '/' :: eventDir.toList))

/-- **The pattern of the query** matches just these paths. -/
theorem named_iff {eventDir : String} {row : DleRow} :
    row.named eventDir = true ↔ NamesDir eventDir row := by
  rw [DleRow.named, NamesDir]
  cases row.remotePath with
  | none => simp
  | some path =>
      have hparse : Like.parse ("%/devices/%/" ++ escapeLike eventDir).toList =
          .any :: ("/devices/".toList.map .char ++ .any :: (['/'].map .char ++
            (eventDir.toList.map .char ++ []))) := by
        have htext : ("%/devices/%/" ++ escapeLike eventDir).toList =
            "%/devices/%/".toList ++ (Like.escape eventDir.toList ++ []) := by
          simp [escapeLike]
        have hprefix : ∀ rest, Like.parse ("%/devices/%/".toList ++ rest) =
            .any :: ("/devices/".toList.map .char ++ .any :: (['/'].map .char ++
              Like.parse rest)) := fun rest => by simp [Like.parse]
        rw [htext, hprefix, Like.parse_escape_append]
        rfl
      dsimp only
      rw [Like.like, hparse, Like.matches_any_iff]
      constructor
      · rintro ⟨before, after, hpath, hafter⟩
        obtain ⟨below, rfl, hbelow⟩ := Like.matches_literal_iff.mp hafter
        obtain ⟨between, last, rfl, hlast⟩ := Like.matches_any_iff.mp hbelow
        obtain ⟨name, rfl, hname⟩ := Like.matches_literal_iff.mp hlast
        obtain ⟨rest, rfl, hrest⟩ := Like.matches_literal_iff.mp hname
        rw [Like.matches_nil_iff.mp hrest, List.append_nil, List.singleton_append] at hpath
        exact ⟨path, before, between, rfl, hpath⟩
      · rintro ⟨path', before, between, hsome, hpath⟩
        rw [Option.some.injEq] at hsome
        subst hsome
        refine ⟨before, _, hpath, Like.matches_literal_iff.mpr ⟨_, rfl, ?_⟩⟩
        refine Like.matches_any_iff.mpr ⟨between, _, rfl, ?_⟩
        refine Like.matches_literal_iff.mpr ⟨eventDir.toList, rfl, ?_⟩
        exact Like.matches_literal_iff.mpr ⟨[], by simp, Like.matches_nil_iff.mpr rfl⟩

/-- **The row that decides**: it is usable, fewer than fifty of the rows with the name come before
it, and none of those is usable. -/
structure Newest (c : Central) (ledger : Option Ledger) (eventDir : String) (row : DleRow) :
    Prop where
  mem : row ∈ rowsOf ledger
  namesDir : NamesDir eventDir row
  usable : row.usable c.isdir c.centerRoot = true
  few : rank DleRow.key ((rowsOf ledger).filter (DleRow.named eventDir)) row < dleCandidates
  first : ∀ other ∈ rowsOf ledger, NamesDir eventDir other → other.key < row.key →
    other.usable c.isdir c.centerRoot = false

/-- The order of the rows is strict. -/
theorem key_ne_of_id_ne {a b : DleRow} (h : a.id ≠ b.id) : a.key ≠ b.key := by
  intro heq
  rw [DleRow.key, DleRow.key, toLex_inj, Prod.mk.injEq, toLex_inj, Prod.mk.injEq] at heq
  obtain ⟨-, -, hid⟩ := heq
  omega

/-- **Which directory the event rows lead to.** -/
theorem centerEventDirFromDle_eq_some_iff {c : Central} {ledger : Option Ledger}
    {eventDir text : String} :
    centerEventDirFromDle c.isdir ledger c.centerRoot eventDir = some text ↔
      ∃ row, Newest c ledger eventDir row ∧ text = row.path ++ "/" := by
  cases ledger with
  | none =>
      constructor
      · intro h
        cases h
      · rintro ⟨row, hrow, -⟩
        cases hrow.mem
  | some l =>
      have hkeyed : (l.rows.filter (DleRow.named eventDir)).Pairwise
          fun a b => a.key ≠ b.key :=
        (l.keyed.imp key_ne_of_id_ne).filter _
      rw [centerEventDirFromDle, Option.bind_some, Option.map_eq_some_iff]
      constructor
      · rintro ⟨row, hrow, rfl⟩
        obtain ⟨hmem, husable, hfew, hfirst⟩ := (find?_take_sortBy_eq_some_iff hkeyed).mp hrow
        obtain ⟨hmem, hnamed⟩ := List.mem_filter.mp hmem
        exact ⟨row, ⟨hmem, named_iff.mp hnamed, husable, hfew, fun other ho hn hlt =>
          hfirst other (List.mem_filter.mpr ⟨ho, named_iff.mpr hn⟩) hlt⟩, rfl⟩
      · rintro ⟨row, h, rfl⟩
        refine ⟨row, (find?_take_sortBy_eq_some_iff hkeyed).mpr
          ⟨List.mem_filter.mpr ⟨h.mem, named_iff.mpr h.namesDir⟩, h.usable, h.few, ?_⟩, rfl⟩
        intro other hother hlt
        obtain ⟨ho, hn⟩ := List.mem_filter.mp hother
        exact h.first other ho (named_iff.mp hn) hlt

/-! ### Rewritten paths -/

/-- **What a path is rewritten to.** -/
theorem rewriteCell_eq {isdir : String → Bool} {ledger : Option Ledger} {planRunId : ℕ}
    {centerRoot path serial eventDir : String} (hin : InEventDir path serial eventDir)
    (hname : IsName eventDir) :
    rewriteCell isdir ledger planRunId centerRoot path =
      if path = flatPath centerRoot planRunId eventDir then path
      else resolveCenterEventPath isdir ledger centerRoot planRunId eventDir := by
  have hmap : mapAgentPathToCenter path planRunId centerRoot =
      flatPath centerRoot planRunId eventDir := by
    rw [mapAgentPathToCenter, eventDirOf_of_inEventDir hin hname]
    dsimp only
    rw [String.ofList_toList]
  have hne : path ≠ "" := by
    rintro rfl
    obtain ⟨before, marker, rest, hpath, -⟩ := hin
    simp at hpath
  rw [rewriteCell, if_neg hne, hmap, centerDirOf_flatPath centerRoot planRunId hname]
  dsimp only
  rw [String.ofList_toList]
  by_cases heq : path = flatPath centerRoot planRunId eventDir
  · rw [if_pos heq, if_pos heq.symm]
  · rw [if_neg heq, if_neg (Ne.symm heq)]

/-- A copy of an event directory of a device, uploaded for a plan run. -/
def Own (serial : String) (planRunId : ℕ) (eventDir : String) (copy : Copy) : Prop :=
  copy.device = serial ∧ copy.planRunId = planRunId ∧ copy.eventDir = eventDir

/-- **A path is right**: it leads to the device's own copy for the run if there is one, and to no
other device's directory if there is none. -/
def Right (c : Central) (serial : String) (planRunId : ℕ) (eventDir path : String) : Prop :=
  ((∃ copy ∈ c.copies, Own serial planRunId eventDir copy) →
    ∃ copy ∈ c.copies, Own serial planRunId eventDir copy ∧ c.IsAt path copy) ∧
  ((¬∃ copy ∈ c.copies, Own serial planRunId eventDir copy) →
    ∀ copy ∈ c.copies, copy.device ≠ serial → ¬c.Points path copy)

/-- A copy in the flat layout. -/
def Flat (planRunId : ℕ) (eventDir : String) (copy : Copy) : Prop :=
  copy.eventId = none ∧ copy.planRunId = planRunId ∧ copy.eventDir = eventDir

/-- **When the rewritten path is right.** With a copy of the device's own: it is in the flat layout,
or nothing is there and the row that decides leads to such a copy. Without one: no other copy is in
its place in the flat layout, and where nothing is there, no row that decides leads to another
device's directory. -/
def RightWhen (c : Central) (ledger : Option Ledger) (serial : String) (planRunId : ℕ)
    (eventDir path : String) : Prop :=
  ((∃ copy ∈ c.copies, Own serial planRunId eventDir copy) ∧
    ((∃ copy ∈ c.copies, Own serial planRunId eventDir copy ∧ Flat planRunId eventDir copy) ∨
      (c.tree (c.flatPlace planRunId eventDir) ≠ some .dir ∧
        path ≠ flatPath c.centerRoot planRunId eventDir ∧
        ∃ row, Newest c ledger eventDir row ∧
          ∃ copy ∈ c.copies, Own serial planRunId eventDir copy ∧ c.IsAt row.path copy))) ∨
  ((¬∃ copy ∈ c.copies, Own serial planRunId eventDir copy) ∧
    (¬∃ copy ∈ c.copies, Flat planRunId eventDir copy) ∧
    (c.tree (c.flatPlace planRunId eventDir) = some .dir ∨
      path = flatPath c.centerRoot planRunId eventDir ∨
      ∀ row, Newest c ledger eventDir row → ∀ copy ∈ c.copies, copy.device ≠ serial →
        ¬c.Points row.path copy))

/-- The place of a copy is in the flat layout just when the copy is. -/
theorem place_prefix_iff {c : Central} {planRunId : ℕ} {eventDir : String} {copy : Copy} :
    c.root ++ copy.place <+: c.flatPlace planRunId eventDir ↔ Flat planRunId eventDir copy := by
  rw [Central.flatPlace, List.prefix_append_right_inj, Copy.place, Flat]
  cases copy.eventId with
  | none =>
      simp only [Option.toList_none, List.nil_append, List.cons_prefix_cons, true_and,
        List.nil_prefix, and_true]
      constructor
      · rintro ⟨hrun, hdir⟩
        exact ⟨toString_run_inj hrun, hdir⟩
      · rintro ⟨rfl, rfl⟩
        exact ⟨rfl, rfl⟩
  | some id =>
      constructor
      · intro h
        have hlength := h.length_le
        simp at hlength
      · rintro ⟨h, -⟩
        cases h

theorem place_of_flat {c : Central} {planRunId : ℕ} {eventDir : String} {copy : Copy}
    (h : Flat planRunId eventDir copy) : c.root ++ copy.place = c.flatPlace planRunId eventDir := by
  obtain ⟨hid, rfl, rfl⟩ := h
  rw [Central.flatPlace, Copy.place, hid]
  rfl

section

variable {c : Central} {ledger : Option Ledger} {serial eventDir path : String} {planRunId : ℕ}

/-- The flat path is right where there is something. -/
theorem right_flatPath_iff (hname : IsName eventDir)
    (hdir : c.tree (c.flatPlace planRunId eventDir) = some .dir) :
    Right c serial planRunId eventDir (flatPath c.centerRoot planRunId eventDir) ↔
      RightWhen c ledger serial planRunId eventDir path := by
  have hleads := c.leadsTo_flatPath hname ((c.isdir_flatPath planRunId hname).mpr hdir)
  have hat : ∀ copy, c.IsAt (flatPath c.centerRoot planRunId eventDir) copy ↔
      Flat planRunId eventDir copy := by
    intro copy
    rw [Central.IsAt, hleads, Option.some.injEq]
    constructor
    · intro h
      refine (place_prefix_iff (c := c)).mp ?_
      rw [h]
    · exact fun h => (place_of_flat h).symm
  have hpoints : ∀ copy, c.Points (flatPath c.centerRoot planRunId eventDir) copy ↔
      Flat planRunId eventDir copy := by
    intro copy
    rw [Central.Points, hleads, ← place_prefix_iff (c := c)]
    simp
  rw [Right, RightWhen]
  simp only [hat, hpoints]
  by_cases hown : ∃ copy ∈ c.copies, Own serial planRunId eventDir copy
  · simp [hown, hdir]
  · have hother : (∀ copy ∈ c.copies, copy.device ≠ serial → ¬Flat planRunId eventDir copy) ↔
        ¬∃ copy ∈ c.copies, Flat planRunId eventDir copy := by
      constructor
      · rintro h ⟨copy, hcopy, hflat⟩
        refine h copy hcopy (fun hdevice => hown ⟨copy, hcopy, hdevice, hflat.2⟩) hflat
      · intro h copy hcopy _ hflat
        exact h ⟨copy, hcopy, hflat⟩
    rw [hother]
    simp [hown, hdir]

/-- A path that leads nowhere is right when there is no copy of the device's own. -/
theorem right_of_leadsTo_eq_none (hnone : c.leadsTo path = none) :
    Right c serial planRunId eventDir path ↔
      ¬∃ copy ∈ c.copies, Own serial planRunId eventDir copy := by
  rw [Right]
  simp only [Central.IsAt, Central.Points, hnone]
  by_cases hown : ∃ copy ∈ c.copies, Own serial planRunId eventDir copy
  · simp [hown]
  · simp [hown]

/-- **The rewritten path of a cell** is right under this condition. -/
theorem right_rewriteCell_iff (hin : InEventDir path serial eventDir) (hname : IsName eventDir) :
    Right c serial planRunId eventDir
        (rewriteCell c.isdir ledger planRunId c.centerRoot path) ↔
      RightWhen c ledger serial planRunId eventDir path := by
  rw [rewriteCell_eq hin hname, resolveCenterEventPath]
  by_cases hdir : c.tree (c.flatPlace planRunId eventDir) = some .dir
  · rw [if_pos ((c.isdir_flatPath planRunId hname).mpr hdir)]
    split
    · next heq =>
        rw [heq]
        exact right_flatPath_iff hname hdir
    · exact right_flatPath_iff hname hdir
  · have hisdir : c.isdir (flatPath c.centerRoot planRunId eventDir) = false := by
      rw [← Bool.not_eq_true, c.isdir_flatPath planRunId hname]
      exact hdir
    have hnowhere : c.leadsTo (flatPath c.centerRoot planRunId eventDir) = none := by
      rw [Central.leadsTo, hisdir]
      rfl
    have hnoflat : ¬∃ copy ∈ c.copies, Flat planRunId eventDir copy := by
      rintro ⟨copy, hcopy, hflat⟩
      exact hdir (place_of_flat (c := c) hflat ▸ c.held copy hcopy)
    have hnoown : ¬∃ copy ∈ c.copies,
        Own serial planRunId eventDir copy ∧ Flat planRunId eventDir copy := by
      rintro ⟨copy, hcopy, -, hflat⟩
      exact hnoflat ⟨copy, hcopy, hflat⟩
    rw [RightWhen]
    split
    · next heq =>
        rw [heq, right_of_leadsTo_eq_none hnowhere]
        simp [hnoflat, hnoown]
    · next hne =>
        rw [if_neg (by simp [hisdir])]
        cases hdle : centerEventDirFromDle c.isdir ledger c.centerRoot eventDir with
        | none =>
            have hnewest : ∀ row, ¬Newest c ledger eventDir row := by
              intro row hrow
              rw [centerEventDirFromDle_eq_some_iff.mpr ⟨row, hrow, rfl⟩] at hdle
              cases hdle
            rw [Option.getD_none, right_of_leadsTo_eq_none hnowhere]
            simp [hnoflat, hnoown, hnewest]
        | some text =>
            obtain ⟨row, hrow, rfl⟩ := centerEventDirFromDle_eq_some_iff.mp hdle
            have hsame : ∀ other, Newest c ledger eventDir other →
                c.leadsTo other.path = c.leadsTo row.path := by
              intro other hother
              rw [centerEventDirFromDle_eq_some_iff.mpr ⟨other, hother, rfl⟩,
                Option.some.injEq] at hdle
              rw [← c.leadsTo_append_slash, hdle, c.leadsTo_append_slash]
            rw [Option.getD_some, Right]
            simp only [Central.IsAt, Central.Points, c.leadsTo_append_slash]
            by_cases hown : ∃ copy ∈ c.copies, Own serial planRunId eventDir copy
            · constructor
              · rintro ⟨hright, -⟩
                exact .inl ⟨hown, .inr ⟨hdir, hne, row, hrow, hright hown⟩⟩
              · rintro (⟨-, hflat | ⟨-, -, other, hother, hright⟩⟩ | ⟨hnot, -⟩)
                · exact absurd hflat hnoown
                · simp only [hsame other hother] at hright
                  exact ⟨fun _ => hright, fun hnot => absurd hown hnot⟩
                · exact absurd hown hnot
            · constructor
              · rintro ⟨-, hright⟩
                refine .inr ⟨hown, hnoflat, .inr (.inr fun other hother => ?_)⟩
                simp only [hsame other hother]
                exact hright hown
              · rintro (⟨hthere, -⟩ | ⟨-, -, hthere | heq | hright⟩)
                · exact absurd hthere hown
                · exact absurd hthere hdir
                · exact absurd heq hne
                · exact ⟨fun hthere => absurd hthere hown, fun _ => hright row hrow⟩

/-- Below the header, the cell of the path column is rewritten and no other one. -/
theorem rewriteReport_row {isdir : String → Bool} {centerRoot : String} {sheet : Sheet}
    {header row : Fin sheet.ncols → String} {col : Fin sheet.ncols} {i : ℕ}
    (hheader : sheet.rows[0]? = some header) (hcol : pathColumn header = some col)
    (hrow : sheet.rows[i + 1]? = some row) :
    (rewriteReport isdir ledger planRunId centerRoot sheet).rows[i + 1]? = some
      (Function.update row col (rewriteCell isdir ledger planRunId centerRoot (row col))) := by
  change (rewriteRows _ sheet.rows)[i + 1]? = _
  cases hrows : sheet.rows with
  | nil =>
      rw [hrows] at hheader
      cases hheader
  | cons first rows =>
      rw [hrows, List.getElem?_cons_zero, Option.some.injEq] at hheader
      rw [hrows, List.getElem?_cons_succ] at hrow
      subst hheader
      rw [rewriteRows, hcol]
      dsimp only
      rw [List.getElem?_cons_succ, List.getElem?_map, hrow, Option.map_some]

/-- **When the rewritten path of a row is right**: for every report, every row with a path in an
event directory of a device, every ledger and every content of central storage. -/
theorem merged_path_right_iff {sheet : Sheet} {header row : Fin sheet.ncols → String}
    {col : Fin sheet.ncols} {i : ℕ} (hheader : sheet.rows[0]? = some header)
    (hcol : pathColumn header = some col) (hrow : sheet.rows[i + 1]? = some row)
    (hin : InEventDir (row col) serial eventDir) (hname : IsName eventDir) :
    ∃ row' : Fin sheet.ncols → String,
      (rewriteReport c.isdir ledger planRunId c.centerRoot sheet).rows[i + 1]? = some row' ∧
      (Right c serial planRunId eventDir (row' col) ↔
        RightWhen c ledger serial planRunId eventDir (row col)) := by
  refine ⟨_, rewriteReport_row hheader hcol hrow, ?_⟩
  rw [Function.update_self]
  exact right_rewriteCell_iff hin hname

end

/-! ### Storage that holds nothing but copies -/

/-- The directories of copies, and those above. -/
def treeOf (root : List String) (copies : List Copy) : FileTree.Tree Unit := fun place =>
  if place.isPrefixOf root || copies.any fun copy => place.isPrefixOf (root ++ copy.place) then
    some .dir
  else none

/-- There are only directories. -/
theorem treeOf_eq_some_iff {root : List String} {copies : List Copy} {place : List String}
    {node : Node Unit} : treeOf root copies place = some node ↔
      node = .dir ∧ (place <+: root ∨ ∃ copy ∈ copies, place <+: root ++ copy.place) := by
  rw [treeOf]
  split
  · next h =>
      rw [Bool.or_eq_true, List.any_eq_true] at h
      simp only [List.isPrefixOf_iff_prefix] at h
      rw [Option.some.injEq, eq_comm]
      exact ⟨fun heq => ⟨heq, h⟩, And.left⟩
  · next h =>
      rw [Bool.or_eq_true, List.any_eq_true] at h
      simp only [List.isPrefixOf_iff_prefix] at h
      exact ⟨fun heq => (by cases heq), fun hplace => absurd hplace.2 h⟩

/-- **Central storage with these copies** and nothing else. -/
def centralOf (centerRoot : String) (noUp : ".." ∉ components centerRoot) (copies : List Copy) :
    Central where
  centerRoot := centerRoot
  noUp := noUp
  links := 40
  tree := treeOf (names (components centerRoot)) copies
  rootDir := treeOf_eq_some_iff.mpr ⟨rfl, .inl List.nil_prefix⟩
  grounded := by
    intro ns _ hsome
    obtain ⟨node, hnode⟩ := Option.ne_none_iff_exists'.mp hsome
    refine treeOf_eq_some_iff.mpr ⟨rfl, ?_⟩
    exact (treeOf_eq_some_iff.mp hnode).2.imp (List.dropLast_prefix ns).trans
      fun ⟨copy, hcopy, hpre⟩ => ⟨copy, hcopy, (List.dropLast_prefix ns).trans hpre⟩
  noLinks := by
    intro run eventDir r _ _ target hlink
    cases (treeOf_eq_some_iff.mp hlink).1
  copies := copies
  held := fun copy hcopy => treeOf_eq_some_iff.mpr ⟨rfl, .inr ⟨copy, hcopy, List.prefix_rfl⟩⟩

/-- Two devices have a directory of the same name, and each was uploaded for plan run 7. -/
def twoDevices : Central :=
  centralOf "/center" (by decide) [⟨"A1", 7, some "e1", "db.00.NE"⟩, ⟨"B2", 7, some "e2", "db.00.NE"⟩]

/-- The event rows of both directories. -/
def twoEvents : Ledger where
  rows := [⟨1, some 7, some "/center/devices/7/e1/db.00.NE"⟩,
    ⟨2, some 7, some "/center/devices/7/e2/db.00.NE"⟩]
  keyed := by decide

/-- A report with a row of each device. -/
def twoRows : Sheet where
  name := "merge"
  ncols := 1
  rows := [fun _ => "Path", fun _ => "/data/.stp-scan/7-x/f/A1/aee_exp/db.00.NE/dbg",
    fun _ => "/data/.stp-scan/7-x/f/B2/aee_exp/db.00.NE/dbg"]

/-- The first row is in the directory of the first device. -/
theorem inEventDir_twoRows :
    InEventDir "/data/.stp-scan/7-x/f/A1/aee_exp/db.00.NE/dbg" "A1" "db.00.NE" :=
  ⟨"/data/.stp-scan/7-x/f".toList, "aee_exp".toList, "/dbg".toList, by decide +kernel,
    by decide, by decide +kernel, .inr ⟨"dbg".toList, by decide, by decide⟩⟩

theorem isName_twoRows : IsName "db.00.NE" := ⟨by decide, by decide, by decide, by decide⟩

/-- The first device's directory was uploaded in the flat layout. -/
def flatUpload : Central := centralOf "/center" (by decide) [⟨"A1", 7, none, "db.00.NE"⟩]

theorem merged_path_right_flat : ∃ row' : Fin twoRows.ncols → String,
    (rewriteReport flatUpload.isdir (some twoEvents) 7 flatUpload.centerRoot twoRows).rows[1]? =
      some row' ∧ Right flatUpload "A1" 7 "db.00.NE" (row' (0 : Fin 1)) := by
  have hcol : @pathColumn 1 (fun _ => "Path") = some 0 := by decide +kernel
  obtain ⟨row', hrow, hright⟩ := @merged_path_right_iff flatUpload (some twoEvents) "A1" "db.00.NE" 7
    twoRows (fun _ => "Path") (fun _ => "/data/.stp-scan/7-x/f/A1/aee_exp/db.00.NE/dbg") (0 : Fin 1)
    0 rfl hcol rfl inEventDir_twoRows isName_twoRows
  have hown : Own "A1" 7 "db.00.NE" ⟨"A1", 7, none, "db.00.NE"⟩ := ⟨rfl, rfl, rfl⟩
  exact ⟨row', hrow, hright.mpr (.inl ⟨⟨_, List.mem_cons_self, hown⟩,
    .inl ⟨_, List.mem_cons_self, hown, rfl, rfl, rfl⟩⟩)⟩

/-- **A row that leads to another device's directory**: both devices have a directory of that name,
and the first one's row is rewritten to the second one's. -/
theorem row_leads_to_other_device :
    ¬∀ (c : Central) (ledger : Option Ledger) (planRunId : ℕ) (sheet : Sheet)
      (header row row' : Fin sheet.ncols → String) (col : Fin sheet.ncols) (i : ℕ)
      (serial eventDir : String), sheet.rows[0]? = some header → pathColumn header = some col →
      sheet.rows[i + 1]? = some row → InEventDir (row col) serial eventDir → IsName eventDir →
      (rewriteReport c.isdir ledger planRunId c.centerRoot sheet).rows[i + 1]? = some row' →
      Right c serial planRunId eventDir (row' col) := by
  intro h
  have hcol : @pathColumn 1 (fun _ => "Path") = some 0 := by decide +kernel
  have hcell : rewriteCell twoDevices.isdir (some twoEvents) 7 twoDevices.centerRoot
      "/data/.stp-scan/7-x/f/A1/aee_exp/db.00.NE/dbg" = "/center/devices/7/e2/db.00.NE/" := by
    decide +kernel
  have hleads : twoDevices.leadsTo "/center/devices/7/e2/db.00.NE/" =
      some ["center", "devices", "7", "e2", "db.00.NE"] := by
    decide +kernel
  have hplaces : ∀ copy ∈ twoDevices.copies, copy.device = "A1" →
      some ["center", "devices", "7", "e2", "db.00.NE"] ≠ some (twoDevices.root ++ copy.place) := by
    decide +kernel
  have hwrong : ∀ text, text = "/center/devices/7/e2/db.00.NE/" →
      ¬Right twoDevices "A1" 7 "db.00.NE" text := by
    rintro text rfl hright
    obtain ⟨copy, hcopy, hown, hat⟩ := hright.1
      ⟨⟨"A1", 7, some "e1", "db.00.NE"⟩, List.mem_cons_self, rfl, rfl, rfl⟩
    rw [Central.IsAt, hleads] at hat
    exact hplaces copy hcopy hown.1 hat
  have hrow := @rewriteReport_row (some twoEvents) 7 twoDevices.isdir twoDevices.centerRoot twoRows
    (fun _ => "Path") (fun _ => "/data/.stp-scan/7-x/f/A1/aee_exp/db.00.NE/dbg") (0 : Fin 1) 0
    rfl hcol rfl
  have hright := h twoDevices (some twoEvents) 7 twoRows (fun _ => "Path")
    (fun _ => "/data/.stp-scan/7-x/f/A1/aee_exp/db.00.NE/dbg") _ (0 : Fin 1) 0 "A1" "db.00.NE"
    rfl hcol rfl inEventDir_twoRows isName_twoRows hrow
  generalize hout : rewriteCell twoDevices.isdir (some twoEvents) 7 twoDevices.centerRoot
    "/data/.stp-scan/7-x/f/A1/aee_exp/db.00.NE/dbg" = out at hright hcell
  exact hwrong _ ((Function.update_self ..).trans hcell) hright

end StabilityPlatform.MergeReport
