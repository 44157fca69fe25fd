import Mathlib

/-!
# File trees

A tree of directories, files and symbolic links, with paths resolved as POSIX resolves them: a link
in front of another component is followed, as often as the system allows. An operation that fails
leaves the tree it had reached.

## Main results

* `resolve_names`, `parents_of_resolve`: **a path with no link on its way leads where its names
  say**, through directories.
* `Grows`: a tree that only gets new nodes, each in a directory.
* `grows_create`, `grows_openWrite`, `grows_makedirs`: the operations on a path with no link on its
  way only grow the tree.
* `makedirs_of_clear`: directories are made where nothing else is in the way.
-/

namespace StabilityPlatform.Lib.FileTree

variable {α : Type*}

/-! ### Trees -/

/-- What is at a place of the tree. -/
inductive Node (α : Type*) where
  | dir
  | file (content : α)
  | link (target : String)
  deriving DecidableEq

/-- A tree: what is at each place, a place being its names from the root down. -/
abbrev Tree (α : Type*) := List String → Option (Node α)

/-- Whether there is a directory at a place. -/
def isDirAt (t : Tree α) (place : List String) : Bool :=
  match t place with
  | some .dir => true
  | _ => false

theorem isDirAt_iff {t : Tree α} {place : List String} :
    isDirAt t place = true ↔ t place = some .dir := by
  rw [isDirAt]
  split <;> simp_all

/-- The tree an operation leaves, and whether it failed. -/
abbrev Outcome (α : Type*) := Except (Tree α) (Tree α)

/-- The tree an operation leaves. -/
def Outcome.left : Outcome α → Tree α
  | .ok t => t
  | .error t => t

/-! ### Paths -/

/-- The components of a path; doubled slashes count once and slashes at the end do not count. -/
def components (path : String) : List String :=
  ((path.toList.splitOn '/').map String.ofList).filter (· ≠ "")

/-- The components of a path below a path. -/
theorem components_append (a b : String) :
    components (a ++ "/" ++ b) = components a ++ components b := by
  have hslash : (a ++ "/" ++ b).toList = a.toList ++ '/' :: b.toList := by simp
  rw [components, hslash, List.splitOn_append_cons_self, List.map_append, List.filter_append]
  rfl

/-- The components of a name. -/
theorem components_name {name : String} (hslash : '/' ∉ name.toList) (hne : name ≠ "") :
    components name = [name] := by
  rw [components, List.splitOn_eq_singleton hslash, List.map_singleton, String.ofList_toList,
    List.filter_cons_of_pos (by simpa using hne), List.filter_nil]

@[simp] theorem components_empty : components "" = [] := by decide

/-- Whether a path starts at the root. -/
def isAbsolute (path : String) : Bool := path.toList.head? == some '/'

/-- The components that name something: all but the dots. -/
def names (comps : List String) : List String := comps.filter (· ≠ ".")

@[simp] theorem names_nil : names [] = [] := rfl

@[simp] theorem names_append (xs ys : List String) : names (xs ++ ys) = names xs ++ names ys :=
  List.filter_append ..

@[simp] theorem names_dot (xs : List String) : names ("." :: xs) = names xs := rfl

theorem names_cons_of_ne {c : String} (h : c ≠ ".") (xs : List String) :
    names (c :: xs) = c :: names xs :=
  List.filter_cons_of_pos (by simpa using h)

/-- A way through the tree from a directory; `expand` continues at the target of a link. -/
def walkWith (t : Tree α) (follow : Bool)
    (expand : List String → List String → Option (List String)) :
    List String → List String → Option (List String)
  | place, [] => some place
  | place, c :: rest =>
    if isDirAt t place = false then none
    else if c = "." then walkWith t follow expand place rest
    else if c = ".." then walkWith t follow expand place.dropLast rest
    else
      match t (place ++ [c]) with
      | some (.link target) =>
        if rest = [] ∧ follow = false then some (place ++ [c])
        else expand (if isAbsolute target then [] else place) (components target ++ rest)
      | _ => walkWith t follow expand (place ++ [c]) rest

/-- Where the components of a path lead from a place, through at most `links` links; a link at the
very end is only followed with `follow`. All on the way is a directory; nothing need be at the
end. -/
def resolve (t : Tree α) (follow : Bool) : ℕ → List String → List String → Option (List String)
  | 0 => walkWith t follow fun _ _ => none
  | n + 1 => walkWith t follow (resolve t follow n)

/-! ### Operations -/

variable (links : ℕ) (t : Tree α) (base comps : List String)

/-- `stat`: what a path leads to. -/
def stat : Option (Node α) := (resolve t true links base comps).bind t

/-- `lstat`: what a path leads to, a link at its end not followed. -/
def lstat : Option (Node α) := (resolve t false links base comps).bind t

/-- A new node at the end of a path where nothing is. -/
def create (node : Node α) : Outcome α :=
  match resolve t false links base comps with
  | none => .error t
  | some place =>
    match t place with
    | none => .ok (Function.update t place (some node))
    | some _ => .error t

/-- `mkdir`. -/
def mkdir : Outcome α := create links t base comps .dir

/-- `open` for writing, and all of the content written. -/
def openWrite (content : α) : Outcome α :=
  match resolve t true links base comps with
  | none => .error t
  | some place =>
    match t place with
    | none | some (.file _) => .ok (Function.update t place (some (.file content)))
    | some .dir | some (.link _) => .error t

/-- `unlink`. -/
def unlink : Outcome α :=
  match resolve t false links base comps with
  | none => .error t
  | some place =>
    match t place with
    | some (.file _) | some (.link _) => .ok (Function.update t place none)
    | none | some .dir => .error t

/-- `symlink`: a link to a target that is not empty. -/
def symlink (target : String) : Outcome α :=
  if target = "" then .error t else create links t base comps (.link target)

/-- `os.makedirs` of the components, the last one first: the directories above are made where they
do not exist, and a dot at the end needs nothing more than these. -/
def makedirs : List String → Outcome α
  | [] => mkdir links t base []
  | tail :: rev =>
    if (stat links t base rev.reverse).isSome then mkdir links t base (rev.reverse ++ [tail])
    else
      match makedirs rev with
      | .error t' => .error t'
      | .ok t' => if tail = "." then .ok t' else mkdir links t' base (rev.reverse ++ [tail])

variable {links t base comps}

/-! ### Paths with no link on their way -/

/-- There is no link at any of the names below a place. -/
def NoLinks (t : Tree α) (base ns : List String) : Prop :=
  ∀ r, r <+: ns → r ≠ [] → ∀ target, t (base ++ r) ≠ some (.link target)

theorem NoLinks.of_prefix {ns ns' : List String} (h : NoLinks t base ns) (hpre : ns' <+: ns) :
    NoLinks t base ns' :=
  fun r hr => h r (hr.trans hpre)

/-- The rest of the way, below the first name. -/
theorem NoLinks.tail {c : String} {ns : List String} (h : NoLinks t base (c :: ns)) :
    NoLinks t (base ++ [c]) ns := by
  intro r hr _ target
  have hlink := h (c :: r) ((List.prefix_cons_inj c).mpr hr) (List.cons_ne_nil _ _) target
  rwa [List.append_assoc, List.singleton_append]

/-- A step of a way with no link on it. -/
theorem walkWith_cons_name {follow : Bool}
    {expand : List String → List String → Option (List String)} {c : String} {rest : List String}
    (hdot : c ≠ ".") (hup : c ≠ "..") (hlink : ∀ target, t (base ++ [c]) ≠ some (.link target)) :
    walkWith t follow expand base (c :: rest) =
      if isDirAt t base = false then none else walkWith t follow expand (base ++ [c]) rest := by
  rw [walkWith, if_neg hdot, if_neg hup]
  split
  · rfl
  · split
    case h_1 target h => exact absurd h (hlink target)
    case h_2 => rfl

/-- A way with no link on it leads where its names say, through directories. -/
theorem walkWith_names {follow : Bool}
    {expand : List String → List String → Option (List String)} {place : List String} :
    ∀ (comps base : List String), ".." ∉ comps → NoLinks t base (names comps) →
      walkWith t follow expand base comps = some place →
      place = base ++ names comps ∧
        (comps ≠ [] → ∀ r, r <+: names comps.dropLast → t (base ++ r) = some .dir) := by
  intro comps
  induction comps with
  | nil =>
      intro base _ _ h
      rw [walkWith, Option.some.injEq] at h
      exact ⟨by simp [h], fun hne => absurd rfl hne⟩
  | cons c rest ih =>
      intro base hup hlinks h
      rw [List.mem_cons, not_or] at hup
      have hdir : isDirAt t base = true := by
        by_contra hnot
        rw [walkWith, if_pos (by simpa using hnot)] at h
        cases h
      by_cases hdot : c = "."
      · subst hdot
        rw [walkWith, if_neg (by simp [hdir]), if_pos rfl] at h
        obtain ⟨hplace, hdirs⟩ := ih base hup.2 hlinks h
        refine ⟨hplace, fun _ r hr => ?_⟩
        by_cases hrest : rest = []
        · subst hrest
          rw [List.dropLast_singleton, names_nil, List.prefix_nil] at hr
          rw [hr, List.append_nil]
          exact isDirAt_iff.mp hdir
        · rw [List.dropLast_cons_of_ne_nil hrest, names_dot] at hr
          exact hdirs hrest r hr
      · rw [names_cons_of_ne hdot] at hlinks ⊢
        have hlink := hlinks [c] (List.prefix_append [c] _) (List.cons_ne_nil _ _)
        rw [walkWith_cons_name hdot (Ne.symm hup.1) hlink, if_neg (by simp [hdir])] at h
        obtain ⟨hplace, hdirs⟩ := ih (base ++ [c]) hup.2 hlinks.tail h
        refine ⟨by simpa using hplace, fun _ r hr => ?_⟩
        cases r with
        | nil =>
            rw [List.append_nil]
            exact isDirAt_iff.mp hdir
        | cons d r =>
            by_cases hrest : rest = []
            · subst hrest
              rw [List.dropLast_singleton, names_nil, List.prefix_nil] at hr
              cases hr
            · rw [List.dropLast_cons_of_ne_nil hrest, names_cons_of_ne hdot,
                List.cons_prefix_cons] at hr
              obtain ⟨rfl, hr⟩ := hr
              have := hdirs hrest r hr
              rwa [List.append_assoc, List.singleton_append] at this

/-- A way with no link on it through directories leads somewhere. -/
theorem walkWith_of_dirs {follow : Bool}
    {expand : List String → List String → Option (List String)} :
    ∀ (comps base : List String), ".." ∉ comps → NoLinks t base (names comps) →
      (∀ r, r <+: names comps.dropLast → t (base ++ r) = some .dir) →
      walkWith t follow expand base comps = some (base ++ names comps) := by
  intro comps
  induction comps with
  | nil =>
      intro base _ _ _
      rw [walkWith, names_nil, List.append_nil]
  | cons c rest ih =>
      intro base hup hlinks hdirs
      rw [List.mem_cons, not_or] at hup
      have hdir : isDirAt t base = true := by
        have := hdirs [] List.nil_prefix
        rw [List.append_nil] at this
        exact isDirAt_iff.mpr this
      by_cases hdot : c = "."
      · subst hdot
        rw [walkWith, if_neg (by simp [hdir]), if_pos rfl]
        refine ih base hup.2 hlinks fun r hr => ?_
        by_cases hrest : rest = []
        · subst hrest
          rw [List.dropLast_nil, names_nil, List.prefix_nil] at hr
          rw [hr]
          exact hdirs [] List.nil_prefix
        · refine hdirs r ?_
          rwa [List.dropLast_cons_of_ne_nil hrest, names_dot]
      · rw [names_cons_of_ne hdot] at hlinks ⊢
        have hlink := hlinks [c] (List.prefix_append [c] _) (List.cons_ne_nil _ _)
        rw [walkWith_cons_name hdot (Ne.symm hup.1) hlink, if_neg (by simp [hdir])]
        by_cases hrest : rest = []
        · subst hrest
          rw [walkWith, names_nil]
        · rw [ih (base ++ [c]) hup.2 hlinks.tail fun r hr => ?_]
          · simp
          · rw [List.append_assoc, List.singleton_append]
            refine hdirs (c :: r) ?_
            rw [List.dropLast_cons_of_ne_nil hrest, names_cons_of_ne hdot, List.cons_prefix_cons]
            exact ⟨rfl, hr⟩

/-- Resolving a path is a walk. -/
theorem resolve_eq_walkWith (t : Tree α) (follow : Bool) (links : ℕ) :
    ∃ expand, resolve t follow links = walkWith t follow expand := by
  cases links with
  | zero => exact ⟨_, rfl⟩
  | succ n => exact ⟨_, rfl⟩

/-- **A path with no link on its way** leads where its names say. -/
theorem resolve_names {follow : Bool} {place : List String} (hup : ".." ∉ comps)
    (hlinks : NoLinks t base (names comps))
    (h : resolve t follow links base comps = some place) : place = base ++ names comps := by
  obtain ⟨expand, hwalk⟩ := resolve_eq_walkWith t follow links
  rw [hwalk] at h
  exact (walkWith_names comps base hup hlinks h).1

/-- A path with no link on its way through directories leads somewhere. -/
theorem resolve_of_dirs {follow : Bool} (hup : ".." ∉ comps) (hlinks : NoLinks t base (names comps))
    (hdirs : ∀ r, r <+: names comps.dropLast → t (base ++ r) = some .dir) :
    resolve t follow links base comps = some (base ++ names comps) := by
  obtain ⟨expand, hwalk⟩ := resolve_eq_walkWith t follow links
  rw [hwalk]
  exact walkWith_of_dirs comps base hup hlinks hdirs

/-- A path that leads to no directory: **all above it are directories**, and it ends in a name. -/
theorem parents_of_resolve {follow : Bool} {place : List String} (hup : ".." ∉ comps)
    (hlinks : NoLinks t base (names comps)) (hbase : t base = some .dir)
    (h : resolve t follow links base comps = some place) (hnot : t place ≠ some .dir) :
    comps.getLast? ≠ some "." ∧ names comps ≠ [] ∧
      t (base ++ (names comps).dropLast) = some .dir := by
  have hplace := resolve_names hup hlinks h
  obtain ⟨expand, hwalk⟩ := resolve_eq_walkWith t follow links
  rw [hwalk] at h
  have hdirs := (walkWith_names comps base hup hlinks h).2
  rcases List.eq_nil_or_concat comps with rfl | ⟨init, last, rfl⟩
  · rw [hplace, names_nil, List.append_nil] at hnot
    exact absurd hbase hnot
  · rw [List.concat_eq_append] at hplace hdirs ⊢
    have hinit := hdirs (by simp) (names init) (by rw [List.dropLast_concat])
    by_cases hdot : last = "."
    · subst hdot
      rw [hplace, names_append, names_dot, names_nil, List.append_nil] at hnot
      exact absurd hinit hnot
    · have hnames : names (init ++ [last]) = names init ++ [last] := by
        rw [names_append, names_cons_of_ne hdot, names_nil]
      rw [hnames, List.dropLast_concat]
      exact ⟨by simp [hdot], by simp, hinit⟩

/-! ### Growing trees -/

/-- **A tree that only grows**: below `base` it gets new nodes, each in a directory and allowed at
its names. -/
inductive Grows (base : List String) (allowed : List String → Node α → Prop) (t : Tree α) :
    Tree α → Prop where
  | refl : Grows base allowed t t
  | add {t' : Tree α} {ns : List String} {node : Node α} (grown : Grows base allowed t t')
      (named : ns ≠ []) (free : t' (base ++ ns) = none)
      (parent : t' (base ++ ns.dropLast) = some .dir) (ok : allowed ns node) :
      Grows base allowed t (Function.update t' (base ++ ns) (some node))

/-- All that was there is there as it was. -/
def Extends (t t' : Tree α) : Prop := ∀ place node, t place = some node → t' place = some node

/-- Every node below a place is in a directory. -/
def Grounded (base : List String) (t : Tree α) : Prop :=
  ∀ ns, ns ≠ [] → t (base ++ ns) ≠ none → t (base ++ ns.dropLast) = some .dir

theorem Extends.refl (t : Tree α) : Extends t t := fun _ _ h => h

namespace Grows

variable {allowed allowed' : List String → Node α → Prop} {t' t'' : Tree α}

theorem trans (h : Grows base allowed t t') (h' : Grows base allowed t' t'') :
    Grows base allowed t t'' := by
  induction h' with
  | refl => exact h
  | add _ hnamed hfree hparent hok ih => exact ih.add hnamed hfree hparent hok

theorem mono (h : Grows base allowed t t') (himp : ∀ ns node, allowed ns node → allowed' ns node) :
    Grows base allowed' t t' := by
  induction h with
  | refl => exact .refl
  | add _ hnamed hfree hparent hok ih => exact ih.add hnamed hfree hparent (himp _ _ hok)

/-- **Nothing is changed or removed.** -/
theorem keeps (h : Grows base allowed t t') : Extends t t' := by
  induction h with
  | refl => exact Extends.refl t
  | @add t' ns _ _ _ hfree _ _ ih =>
      intro place n hn
      have hkept := ih place n hn
      rw [Function.update_of_ne]
      · exact hkept
      · rintro rfl
        rw [hfree] at hkept
        cases hkept

/-- **Nothing outside changes**: no node is made but below the place. -/
theorem outside (h : Grows base allowed t t') {place : List String}
    (hout : ∀ ns, ns ≠ [] → place ≠ base ++ ns) : t' place = t place := by
  induction h with
  | refl => rfl
  | add _ hnamed _ _ _ ih => rw [Function.update_of_ne (hout _ hnamed), ih]

/-- What is there was there or is allowed. -/
theorem allowed_of_some (h : Grows base allowed t t') {ns : List String} {node : Node α}
    (hnode : t' (base ++ ns) = some node) : t (base ++ ns) = some node ∨ allowed ns node := by
  induction h with
  | refl => exact .inl hnode
  | @add _ ns' n _ _ _ _ hok ih =>
      by_cases heq : ns = ns'
      · subst heq
        rw [Function.update_self, Option.some.injEq] at hnode
        exact .inr (hnode ▸ hok)
      · rw [Function.update_of_ne (by simpa using heq)] at hnode
        exact ih hnode

theorem grounded (h : Grows base allowed t t') (ht : Grounded base t) : Grounded base t' := by
  induction h with
  | refl => exact ht
  | @add t' ns' n grown hnamed hfree hparent hok ih =>
      have hext := (Grows.refl.add (t := t') hnamed hfree hparent hok).keeps
      intro ns hne hsome
      by_cases heq : ns = ns'
      · subst heq
        exact hext _ _ hparent
      · rw [Function.update_of_ne (by simpa using heq)] at hsome
        exact hext _ _ (ih ns hne hsome)

/-- A way on which no link is allowed has none. -/
theorem noLinks (h : Grows base allowed t t') {ns : List String} (ht : NoLinks t base ns)
    (hnot : ∀ r, r <+: ns → r ≠ [] → ∀ target, ¬allowed r (.link target)) :
    NoLinks t' base ns := by
  intro r hr hne target hlink
  rcases h.allowed_of_some hlink with hlink | hlink
  · exact ht r hr hne target hlink
  · exact hnot r hr hne target hlink

end Grows

/-- Above a node there are only directories. -/
theorem Grounded.dir_of_isPrefix (h : Grounded base t) {r : List String} :
    ∀ {ns : List String}, t (base ++ ns) ≠ none → r <+: ns → r ≠ ns →
      t (base ++ r) = some .dir := by
  intro ns
  induction ns using List.reverseRecOn with
  | nil =>
      intro _ hr hne
      exact absurd (List.prefix_nil.mp hr) hne
  | append_singleton ns n ih =>
      intro hsome hr hne
      have hparent := h (ns ++ [n]) (by simp) hsome
      rw [List.dropLast_concat] at hparent
      rcases List.prefix_concat_iff.mp hr with heq | hr
      · exact absurd (by simpa using heq) hne
      · by_cases heq : r = ns
        · rw [heq]
          exact hparent
        · exact ih (by rw [hparent]; exact Option.some_ne_none _) hr heq

/-! ### What the operations do -/

/-- A way that is ready for an operation: no link on it, and no step up. -/
structure Ready (t : Tree α) (base comps : List String) : Prop where
  noUp : ".." ∉ comps
  noLinks : NoLinks t base (names comps)
  baseDir : t base = some .dir

theorem Ready.of_prefix {comps' : List String} (h : Ready t base comps) (hpre : comps' <+: comps) :
    Ready t base comps' :=
  ⟨fun hup => h.noUp (hpre.mem hup), h.noLinks.of_prefix (hpre.filter _), h.baseDir⟩

/-- It stays ready while directories are made. -/
theorem Ready.grows {t' : Tree α} {allowed : List String → Node α → Prop}
    (h : Ready t base comps) (hgrows : Grows base allowed t t')
    (hnot : ∀ r, r <+: names comps → r ≠ [] → ∀ target, ¬allowed r (.link target)) :
    Ready t' base comps :=
  ⟨h.noUp, hgrows.noLinks h.noLinks hnot, hgrows.keeps _ _ h.baseDir⟩

/-- What a directory is made of: directories on the way. -/
def OnWay (comps ns : List String) (node : Node α) : Prop := node = .dir ∧ ns <+: names comps

/-- A place that a path leads to, and where nothing is, can be filled. -/
theorem Ready.add {follow : Bool} {place : List String} {node : Node α}
    {allowed : List String → Node α → Prop} (h : Ready t base comps)
    (hplace : resolve t follow links base comps = some place) (hfree : t place = none)
    (hok : allowed (names comps) node) :
    Grows base allowed t (Function.update t (base ++ names comps) (some node)) := by
  have hparents := parents_of_resolve h.noUp h.noLinks h.baseDir hplace (by simp [hfree])
  rw [resolve_names h.noUp h.noLinks hplace] at hfree
  exact Grows.refl.add hparents.2.1 hfree hparents.2.2 hok

/-- A node is made at the names of its path, which end the path. -/
theorem create_eq_ok {node : Node α} {t' : Tree α} (h : Ready t base comps)
    (hok : create links t base comps node = .ok t') :
    t' = Function.update t (base ++ names comps) (some node) ∧ comps.getLast? ≠ some "." := by
  rw [create] at hok
  split at hok
  · cases hok
  · next place hplace =>
      split at hok
      · next hfree =>
          rw [Except.ok.injEq, resolve_names h.noUp h.noLinks hplace] at hok
          have hparents := parents_of_resolve h.noUp h.noLinks h.baseDir hplace (by simp [hfree])
          exact ⟨hok.symm, hparents.1⟩
      · cases hok

/-- A node that cannot be made changes nothing. -/
theorem create_eq_error {node : Node α} {t' : Tree α}
    (herror : create links t base comps node = .error t') : t' = t := by
  rw [create] at herror
  split at herror
  · exact (Except.error.inj herror).symm
  · split at herror
    · cases herror
    · exact (Except.error.inj herror).symm

/-- **Making a node only grows the tree.** -/
theorem grows_create {node : Node α} {allowed : List String → Node α → Prop}
    (h : Ready t base comps) (hallowed : allowed (names comps) node) :
    Grows base allowed t (create links t base comps node).left := by
  rw [create]
  split
  · exact .refl
  · next place hplace =>
      split
      · next hfree =>
          rw [Outcome.left, resolve_names h.noUp h.noLinks hplace]
          exact h.add hplace hfree hallowed
      · exact .refl

/-- A node is made in a directory where nothing is. -/
theorem create_of_free {node : Node α} (h : Ready t base comps)
    (hdirs : ∀ r, r <+: names comps.dropLast → t (base ++ r) = some .dir)
    (hfree : t (base ++ names comps) = none) :
    create links t base comps node =
      .ok (Function.update t (base ++ names comps) (some node)) := by
  rw [create, resolve_of_dirs h.noUp h.noLinks hdirs]
  simp only [hfree]

/-- A directory at the names of a path is what the path leads to. -/
theorem stat_of_dir (h : Ready t base comps) (hground : Grounded base t)
    (hdir : t (base ++ names comps) = some .dir) : stat links t base comps = some .dir := by
  rw [stat, resolve_of_dirs h.noUp h.noLinks fun r hr => ?_, Option.bind_some, hdir]
  by_cases heq : r = names comps
  · rw [heq, hdir]
  · refine hground.dir_of_isPrefix (by simp [hdir]) (hr.trans ?_) heq
    exact (List.dropLast_prefix comps).filter _

/-- What a path leads to is what is at its names. -/
theorem stat_eq_some {node : Node α} (h : Ready t base comps)
    (hstat : stat links t base comps = some node) : t (base ++ names comps) = some node := by
  rw [stat, Option.bind_eq_some_iff] at hstat
  obtain ⟨place, hplace, hnode⟩ := hstat
  rwa [resolve_names h.noUp h.noLinks hplace] at hnode

/-- What a path leads to is what is at its names, also where a link would not be followed. -/
theorem lstat_eq_some {node : Node α} (h : Ready t base comps)
    (hstat : lstat links t base comps = some node) : t (base ++ names comps) = some node := by
  rw [lstat, Option.bind_eq_some_iff] at hstat
  obtain ⟨place, hplace, hnode⟩ := hstat
  rwa [resolve_names h.noUp h.noLinks hplace] at hnode

/-- **Writing a new file only grows the tree.** -/
theorem grows_openWrite {content : α} {allowed : List String → Node α → Prop}
    (h : Ready t base comps) (hnofile : ∀ c, t (base ++ names comps) ≠ some (.file c))
    (hallowed : allowed (names comps) (.file content)) :
    Grows base allowed t (openWrite links t base comps content).left := by
  rw [openWrite]
  split
  · exact .refl
  · next place hplace =>
      have hnames := resolve_names h.noUp h.noLinks hplace
      split
      · next hfree =>
          rw [Outcome.left, hnames]
          exact h.add hplace hfree hallowed
      · next c hfile => exact absurd (hnames ▸ hfile) (hnofile c)
      · exact .refl
      · exact .refl

/-- A file that was written is at the names of its path, which end the path. -/
theorem openWrite_eq_ok {content : α} {t' : Tree α} (h : Ready t base comps)
    (hok : openWrite links t base comps content = .ok t') :
    t' = Function.update t (base ++ names comps) (some (.file content)) ∧
      comps.getLast? ≠ some "." := by
  rw [openWrite] at hok
  split at hok
  · cases hok
  · next place hplace =>
      have hparents := parents_of_resolve h.noUp h.noLinks h.baseDir hplace
      rw [resolve_names h.noUp h.noLinks hplace] at hok hparents
      split at hok
      · next hfree =>
          rw [Except.ok.injEq] at hok
          exact ⟨hok.symm, (hparents (by simp [hfree])).1⟩
      · next c hfile =>
          rw [Except.ok.injEq] at hok
          exact ⟨hok.symm, (hparents (by simp [hfile])).1⟩
      · cases hok
      · cases hok

/-- A file is written in a directory where nothing is. -/
theorem openWrite_of_free {content : α} (h : Ready t base comps)
    (hdirs : ∀ r, r <+: names comps.dropLast → t (base ++ r) = some .dir)
    (hfree : t (base ++ names comps) = none) :
    openWrite links t base comps content =
      .ok (Function.update t (base ++ names comps) (some (.file content))) := by
  rw [openWrite, resolve_of_dirs h.noUp h.noLinks hdirs]
  simp only [hfree]

/-- A directory is not unlinked. -/
theorem unlink_of_dir (h : Ready t base comps) (hdir : t (base ++ names comps) = some .dir) :
    unlink links t base comps = .error t := by
  rw [unlink]
  split
  · rfl
  · next place hplace =>
      rw [resolve_names h.noUp h.noLinks hplace, hdir]

/-! ### Directories above a path -/

/-- The names of a path and of the path without its last component. -/
theorem names_reverse_cons (tail : String) (rev : List String) :
    names (rev.reverse ++ [tail]) =
      if tail = "." then names rev.reverse else names rev.reverse ++ [tail] := by
  rw [names_append]
  split
  · next h => rw [h, names_dot, names_nil, List.append_nil]
  · next h => rw [names_cons_of_ne h, names_nil]

/-- **Making directories only grows the tree**, by directories on the way. -/
theorem grows_makedirs : ∀ (rev : List String), Ready t base rev.reverse →
    Grows base (OnWay rev.reverse) t (makedirs links t base rev).left := by
  intro rev
  induction rev with
  | nil => exact fun h => grows_create h ⟨rfl, List.prefix_rfl⟩
  | cons tail rev ih =>
      intro h
      rw [List.reverse_cons] at h ⊢
      have hhead : Ready t base rev.reverse := h.of_prefix (List.prefix_append _ _)
      have hwider : ∀ ns (node : Node α), OnWay rev.reverse ns node →
          OnWay (rev.reverse ++ [tail]) ns node := fun ns node hway =>
        ⟨hway.1, hway.2.trans ((List.prefix_append _ _).filter _)⟩
      rw [makedirs]
      split
      · exact grows_create h ⟨rfl, List.prefix_rfl⟩
      · have habove := (ih hhead).mono hwider
        split
        · next t' herror =>
            rw [herror] at habove
            exact habove
        · next t' hok =>
            rw [hok] at habove
            split
            · exact habove
            · have hready := h.grows habove fun r _ _ target hway => by cases hway.1
              exact habove.trans (grows_create hready ⟨rfl, List.prefix_rfl⟩)

/-- Nothing but directories is on the way. -/
def Clear (t : Tree α) (base ns : List String) : Prop :=
  ∀ r, r <+: ns → t (base ++ r) = none ∨ t (base ++ r) = some .dir

/-- **Directories are made where nothing else is in the way.** -/
theorem makedirs_of_clear (hground : Grounded base t) : ∀ (rev : List String),
    Ready t base rev.reverse → Clear t base (names rev.reverse) →
    stat links t base rev.reverse = none →
    ∃ t', makedirs links t base rev = .ok t' ∧ t' (base ++ names rev.reverse) = some .dir := by
  intro rev
  induction rev with
  | nil =>
      intro h _ hstat
      rw [stat_of_dir h hground (by simpa using h.baseDir)] at hstat
      cases hstat
  | cons tail rev ih =>
      intro h hclear hstat
      rw [List.reverse_cons] at h hclear hstat ⊢
      have hhead : Ready t base rev.reverse := h.of_prefix (List.prefix_append _ _)
      have hprefix : names rev.reverse <+: names (rev.reverse ++ [tail]) :=
        (List.prefix_append _ _).filter _
      have hfree : t (base ++ names (rev.reverse ++ [tail])) = none := by
        refine (hclear _ List.prefix_rfl).resolve_right fun hdir => ?_
        rw [stat_of_dir h hground hdir] at hstat
        cases hstat
      rw [makedirs]
      split
      · next hsome =>
          obtain ⟨node, hnode⟩ := Option.isSome_iff_exists.mp hsome
          have hdir : t (base ++ names rev.reverse) = some .dir := by
            refine (hclear _ hprefix).resolve_left ?_
            rw [stat_eq_some hhead hnode]
            exact Option.some_ne_none _
          refine ⟨_, create_of_free h (fun r hr => ?_) hfree, Function.update_self ..⟩
          rw [List.dropLast_concat] at hr
          by_cases heq : r = names rev.reverse
          · rw [heq, hdir]
          · exact hground.dir_of_isPrefix (by simp [hdir]) hr heq
      · next hnone =>
          have habove : stat links t base rev.reverse = none := by simpa using hnone
          obtain ⟨t', hok, hdir⟩ :=
            ih hhead (fun r hr => hclear r (hr.trans hprefix)) habove
          have hgrows : Grows base (OnWay rev.reverse) t t' := by
            have hleft := @grows_makedirs α links t base rev hhead
            rwa [hok] at hleft
          rw [hok]
          dsimp only
          rw [names_reverse_cons] at hfree ⊢
          split
          · exact ⟨t', rfl, hdir⟩
          · next hdot =>
              rw [if_neg hdot] at hfree
              have hready := h.grows hgrows fun r _ _ target hway => by cases hway.1
              have hfree' : t' (base ++ names (rev.reverse ++ [tail])) = none := by
                rw [names_reverse_cons, if_neg hdot]
                by_contra hsome
                obtain ⟨node, hnode⟩ := Option.ne_none_iff_exists'.mp hsome
                rcases hgrows.allowed_of_some hnode with hold | hway
                · rw [hfree] at hold
                  cases hold
                · have hlength := hway.2.length_le
                  rw [List.length_append, List.length_singleton] at hlength
                  omega
              refine ⟨_, create_of_free hready (fun r hr => ?_) hfree', ?_⟩
              · rw [List.dropLast_concat] at hr
                by_cases heq : r = names rev.reverse
                · rw [heq, hdir]
                · exact (hgrows.grounded hground).dir_of_isPrefix (by simp [hdir]) hr heq
              · rw [names_reverse_cons, if_neg hdot]
                exact Function.update_self ..

end StabilityPlatform.Lib.FileTree
