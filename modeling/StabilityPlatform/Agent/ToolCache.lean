import StabilityPlatform.Core.PyVal
import StabilityPlatform.Lib.FileTree

/-!
# Unpacking a tool package

The Agent unpacks a tool package into an empty directory. Before that it looks at all members of
the archive: it refuses names that lead upwards, types other than files, directories and links, a
path that occurs twice, and a path below a link of the archive.

## Main results

* `archiveRejection_eq_none_iff`: **which archives are accepted**.
* `Made`: what the members so far have put where.
* `grows_extractMember`: unpacking one more member only adds what is its own.
* `Fits`: no file is in the way of another member, no file or link ends in a dot, and no link has
  an empty target.
* `extraction_confined`: **unpacking an accepted archive only adds nodes below the directory**, and
  it reaches its end, with every file at its own path, exactly when the archive fits.
-/

namespace StabilityPlatform.ToolCache

open Lib Lib.FileTree

/-! ### The members of an archive -/

/-- `TarInfo.type`. -/
inductive TarType where
  /-- `REGTYPE`. -/
  | reg
  /-- `AREGTYPE`. -/
  | areg
  /-- `LNKTYPE`: a hard link. -/
  | lnk
  /-- `SYMTYPE`. -/
  | sym
  /-- `CHRTYPE`. -/
  | chr
  /-- `BLKTYPE`. -/
  | blk
  /-- `DIRTYPE`. -/
  | dir
  /-- `FIFOTYPE`. -/
  | fifo
  /-- `CONTTYPE`. -/
  | cont
  /-- `GNUTYPE_SPARSE`. -/
  | sparse
  /-- Another byte, with its `repr`. -/
  | other (text : String)
  deriving DecidableEq

/-- `repr` of a type. -/
def TarType.repr : TarType → String
  | .reg => "b'0'"
  | .areg => "b'\\x00'"
  | .lnk => "b'1'"
  | .sym => "b'2'"
  | .chr => "b'3'"
  | .blk => "b'4'"
  | .dir => "b'5'"
  | .fifo => "b'6'"
  | .cont => "b'7'"
  | .sparse => "b'S'"
  | .other text => text

/-- `TarInfo`: a member of an archive. -/
structure TarInfo where
  name : String
  type : TarType
  /-- `linkname`: the target of a link. -/
  linkname : String
  content : List UInt8
  deriving DecidableEq

/-- `isfile`: one of `REGULAR_TYPES`. -/
def TarInfo.isfile (ti : TarInfo) : Bool :=
  match ti.type with
  | .reg | .areg | .cont | .sparse => true
  | _ => false

/-- `isdir`. -/
def TarInfo.isdir (ti : TarInfo) : Bool :=
  match ti.type with
  | .dir => true
  | _ => false

/-- `issym`. -/
def TarInfo.issym (ti : TarInfo) : Bool :=
  match ti.type with
  | .sym => true
  | _ => false

/-- The root of a path; two slashes are another root than one. -/
def pathRoot (path : String) : List String :=
  match path.toList with
  | '/' :: '/' :: '/' :: _ => ["/"]
  | '/' :: '/' :: _ => ["//"]
  | '/' :: _ => ["/"]
  | _ => []

/-- `PurePosixPath(path).parts`. -/
def parts (path : String) : List String := pathRoot path ++ names (components path)

/-! ### What is refused -/

/-- `_member_rejection`. -/
def memberRejection (ti : TarInfo) : Option String :=
  if isAbsolute ti.name = true ∨ ".." ∈ parts ti.name then some ("越界路径 " ++ PyVal.reprStr ti.name)
  else if ti.issym then
    if isAbsolute ti.linkname then none
    else if ".." ∈ parts ti.linkname then
      some ("软链逃逸 " ++ PyVal.reprStr ti.name ++ " → " ++ PyVal.reprStr ti.linkname)
    else none
  else if ti.isdir || ti.isfile then none
  else some ("不支持的成员类型 " ++ ti.type.repr ++ " @ " ++ PyVal.reprStr ti.name)

/-- The first loop of `_archive_rejection`, with its `links` and `seen`. -/
def collectLinks (links seen : List (List String)) :
    List TarInfo → Except String (List (List String))
  | [] => .ok links
  | ti :: rest =>
    match memberRejection ti with
    | some bad => .error bad
    | none =>
      if parts ti.name = [] ∧ ti.isdir = false then .error ("空成员名 " ++ PyVal.reprStr ti.name)
      else if parts ti.name ∈ seen then .error ("重复成员 " ++ PyVal.reprStr ti.name)
      else
        collectLinks (if ti.issym then links ++ [parts ti.name] else links)
          (seen ++ [parts ti.name]) rest

/-- The body of the second loop of `_archive_rejection`. -/
def throughLink (links : List (List String)) (ti : TarInfo) : Option String :=
  (List.range' 1 (parts ti.name).length).findSome? fun i =>
    if (parts ti.name).take i ∈ links ∧ ¬(i = (parts ti.name).length ∧ ti.issym = true) then
      some ("成员经软链落盘 " ++ PyVal.reprStr ti.name ++ "（软链 " ++
        PyVal.reprStr ("/".intercalate ((parts ti.name).take i)) ++ "）")
    else none

/-- `_archive_rejection`. -/
def archiveRejection (members : List TarInfo) : Option String :=
  match collectLinks [] [] members with
  | .error bad => some bad
  | .ok links => members.findSome? (throughLink links)

/-! ### Unpacking -/

/-- The file system of the Agent, with the bytes of the files. -/
abbrev Files := FileTree.Tree (List UInt8)

section

variable (links : ℕ) (root : List String)

/-- The directories above a member are made where they do not exist. -/
def makeUpper (t : Files) (ti : TarInfo) : Outcome (List UInt8) :=
  if (stat links t root (components ti.name).dropLast).isSome then .ok t
  else makedirs links t root (components ti.name).dropLast.reverse

/-- `makedir`: a directory that exists already will do. -/
def makedir (t : Files) (ti : TarInfo) : Outcome (List UInt8) :=
  match mkdir links t root (components ti.name) with
  | .ok t' => .ok t'
  | .error t' =>
    match stat links t' root (components ti.name) with
    | some .dir => .ok t'
    | _ => .error t'

/-- `makelink`: what is in its place is unlinked first. -/
def makelink (t : Files) (ti : TarInfo) : Outcome (List UInt8) :=
  if (lstat links t root (components ti.name)).isSome then
    match unlink links t root (components ti.name) with
    | .error t' => .error t'
    | .ok t' => symlink links t' root (components ti.name) ti.linkname
  else symlink links t root (components ti.name) ti.linkname

/-- A member is unpacked by its type; the check lets no other type through. -/
def makeMember (t : Files) (ti : TarInfo) : Outcome (List UInt8) :=
  if ti.isfile then openWrite links t root (components ti.name) ti.content
  else if ti.isdir then makedir links root t ti
  else if ti.issym then makelink links root t ti
  else .error t

/-- `_extract_member`. -/
def extractMember (t : Files) (ti : TarInfo) : Outcome (List UInt8) :=
  match makeUpper links root t ti with
  | .error t' => .error t'
  | .ok t' => makeMember links root t' ti

/-- `extractall`: one member after the other, until one cannot be unpacked. -/
def extractall (t : Files) : List TarInfo → Outcome (List UInt8)
  | [] => .ok t
  | ti :: rest =>
    match extractMember links root t ti with
    | .error t' => .error t'
    | .ok t' => extractall t' rest

end

/-! ### The accepted archives -/

/-- What an accepted archive is like. -/
structure Accepted (archive : List TarInfo) : Prop where
  alone : ∀ ti ∈ archive, memberRejection ti = none
  named : ∀ ti ∈ archive, parts ti.name = [] → ti.isdir = true
  /-- **No path occurs twice.** -/
  distinct : archive.Pairwise fun ti ti' => parts ti.name ≠ parts ti'.name
  /-- **No path is below a link.** -/
  apart : ∀ ti ∈ archive, ∀ link ∈ archive, link.issym = true →
    parts link.name <+: parts ti.name → parts link.name = parts ti.name ∧ ti.issym = true

/-- A member that is accepted alone: its path leads down, and it is a file, a directory or a
link. -/
theorem of_memberRejection {ti : TarInfo} (h : memberRejection ti = none) :
    parts ti.name = names (components ti.name) ∧ ".." ∉ components ti.name ∧
      (ti.isfile = true ∨ ti.isdir = true ∨ ti.issym = true) := by
  rw [memberRejection] at h
  split at h
  · cases h
  · next hname =>
      rw [not_or] at hname
      have hroot : pathRoot ti.name = [] := by
        have hhead := hname.1
        rw [isAbsolute] at hhead
        rw [pathRoot]
        split <;> simp_all
      have hparts : parts ti.name = names (components ti.name) := by
        rw [parts, hroot, List.nil_append]
      refine ⟨hparts, fun hup => hname.2 ?_, ?_⟩
      · rw [hparts, names]
        exact List.mem_filter.mpr ⟨hup, by decide⟩
      · split at h
        · next hsym => exact .inr (.inr hsym)
        · split at h
          · next hkind =>
              rw [Bool.or_eq_true] at hkind
              tauto
          · cases h

/-- What the first loop finds. -/
theorem collectLinks_eq_ok_iff {archive : List TarInfo} : ∀ {links seen links' : List (List String)},
    collectLinks links seen archive = .ok links' ↔
      (∀ ti ∈ archive, memberRejection ti = none ∧ (parts ti.name = [] → ti.isdir = true) ∧
        parts ti.name ∉ seen) ∧
      archive.Pairwise (fun ti ti' => parts ti.name ≠ parts ti'.name) ∧
      links' = links ++ (archive.filter (·.issym)).map (parts ·.name) := by
  induction archive with
  | nil =>
      intro links seen links'
      rw [collectLinks, Except.ok.injEq]
      constructor
      · rintro rfl
        exact ⟨by simp, .nil, by simp⟩
      · rintro ⟨-, -, rfl⟩
        simp
  | cons ti rest ih =>
      intro links seen links'
      rw [collectLinks]
      cases hbad : memberRejection ti with
      | some bad => simp [hbad]
      | none =>
          dsimp only
          split
          · next hempty => simp [hempty]
          · next hnamed =>
              split
              · next hseen => simp [hseen]
              · next hseen =>
                  rw [ih]
                  have hlinks : (if ti.issym then links ++ [parts ti.name] else links) ++
                      (rest.filter (·.issym)).map (parts ·.name) =
                      links ++ ((ti :: rest).filter (·.issym)).map (parts ·.name) := by
                    rw [List.filter_cons]
                    split <;> simp
                  rw [hlinks, List.pairwise_cons, List.forall_mem_cons]
                  have hhead : parts ti.name = [] → ti.isdir = true := by simpa using hnamed
                  simp only [List.mem_append, List.mem_singleton, not_or]
                  constructor
                  · rintro ⟨hall, hpair, rfl⟩
                    refine ⟨⟨⟨hbad, hhead, hseen⟩, fun m hm => ?_⟩, ⟨fun m hm => ?_, hpair⟩, rfl⟩
                    · exact ⟨(hall m hm).1, (hall m hm).2.1, (hall m hm).2.2.1⟩
                    · exact Ne.symm (hall m hm).2.2.2
                  · rintro ⟨⟨-, hall⟩, ⟨hne, hpair⟩, rfl⟩
                    exact ⟨fun m hm => ⟨(hall m hm).1, (hall m hm).2.1, (hall m hm).2.2,
                      Ne.symm (hne m hm)⟩, hpair, rfl⟩

/-- What the second loop finds. -/
theorem throughLink_eq_none_iff {links : List (List String)} {ti : TarInfo}
    (hlinks : [] ∉ links) :
    throughLink links ti = none ↔ ∀ link ∈ links, link <+: parts ti.name →
      link = parts ti.name ∧ ti.issym = true := by
  rw [throughLink, List.findSome?_eq_none_iff]
  constructor
  · intro h link hlink hpre
    have htake := List.prefix_iff_eq_take.mp hpre
    have hpos : link.length ≠ 0 := fun h0 => hlinks (List.length_eq_zero_iff.mp h0 ▸ hlink)
    have hi := h link.length (List.mem_range'_1.mpr ⟨by omega, by have := hpre.length_le; omega⟩)
    rw [ite_eq_right_iff] at hi
    by_contra hnot
    refine absurd (hi ⟨htake ▸ hlink, fun hlast => hnot ⟨?_, hlast.2⟩⟩) (by simp)
    exact hpre.eq_of_length hlast.1
  · intro h i hi
    have hle : i ≤ (parts ti.name).length := by
      have := List.mem_range'_1.mp hi
      omega
    rw [if_neg]
    rintro ⟨hmem, hnot⟩
    obtain ⟨heq, hsym⟩ := h _ hmem (List.take_prefix _ _)
    have hlength := congrArg List.length heq
    rw [List.length_take] at hlength
    exact hnot ⟨by omega, hsym⟩

/-- A link is no directory and no file. -/
theorem kind_of_issym {ti : TarInfo} (hsym : ti.issym = true) :
    ti.isdir = false ∧ ti.isfile = false := by
  rw [TarInfo.issym] at hsym
  rw [TarInfo.isdir, TarInfo.isfile]
  split at hsym <;> simp_all

/-- A directory is no file. -/
theorem isfile_of_isdir {ti : TarInfo} (hdir : ti.isdir = true) : ti.isfile = false := by
  rw [TarInfo.isdir] at hdir
  rw [TarInfo.isfile]
  split at hdir <;> simp_all

/-- The paths of the links of an archive. -/
def linkPaths (archive : List TarInfo) : List (List String) :=
  (archive.filter (·.issym)).map (parts ·.name)

/-- A link has a name. -/
theorem nil_notMem_linkPaths {archive : List TarInfo}
    (hnamed : ∀ ti ∈ archive, parts ti.name = [] → ti.isdir = true) : [] ∉ linkPaths archive := by
  intro hmem
  obtain ⟨l, hl, hnil⟩ := List.mem_map.mp hmem
  obtain ⟨hl, hsym⟩ := List.mem_filter.mp hl
  have hdir := hnamed l hl hnil
  rw [(kind_of_issym hsym).1] at hdir
  cases hdir

/-- **Which archives are accepted.** -/
theorem archiveRejection_eq_none_iff {archive : List TarInfo} :
    archiveRejection archive = none ↔ Accepted archive := by
  rw [archiveRejection]
  constructor
  · intro h
    split at h
    · cases h
    · next links hlinks =>
        obtain ⟨hall, hpair, rfl⟩ := collectLinks_eq_ok_iff.mp hlinks
        have hnamed := fun ti hti => (hall ti hti).2.1
        refine ⟨fun ti hti => (hall ti hti).1, hnamed, hpair, ?_⟩
        intro ti hti l hl hsym hpre
        refine (throughLink_eq_none_iff (nil_notMem_linkPaths hnamed)).mp
          (List.findSome?_eq_none_iff.mp h ti hti) _ ?_ hpre
        exact List.mem_map_of_mem (List.mem_filter.mpr ⟨hl, hsym⟩)
  · intro h
    have hlinks : collectLinks [] [] archive = .ok (linkPaths archive) :=
      collectLinks_eq_ok_iff.mpr
        ⟨fun ti hti => ⟨h.alone ti hti, h.named ti hti, List.not_mem_nil⟩, h.distinct, rfl⟩
    rw [hlinks]
    refine List.findSome?_eq_none_iff.mpr fun ti hti =>
      (throughLink_eq_none_iff (nil_notMem_linkPaths h.named)).mpr fun link hlink hpre => ?_
    obtain ⟨l, hl, rfl⟩ := List.mem_map.mp hlink
    obtain ⟨hl, hsym⟩ := List.mem_filter.mp hl
    exact h.apart ti hti l hl hsym hpre

/-! ### One member -/

/-- What a member is in the tree. -/
def TarInfo.node (ti : TarInfo) : Node (List UInt8) :=
  if ti.isfile then .file ti.content else if ti.isdir then .dir else .link ti.linkname

/-- **What the members so far have put where**: themselves at their own paths, and directories
above. -/
def Made (done : List TarInfo) (ns : List String) (node : Node (List UInt8)) : Prop :=
  ∃ ti ∈ done, (node = .dir ∧ ns <+: parts ti.name) ∨ (ns = parts ti.name ∧ node = ti.node)

theorem Made.mono {done rest : List TarInfo} {ns : List String} {node : Node (List UInt8)}
    (h : Made done ns node) : Made (done ++ rest) ns node := by
  obtain ⟨ti, hti, hmade⟩ := h
  exact ⟨ti, List.mem_append_left _ hti, hmade⟩

/-- An empty directory. -/
structure IsEmptyDir (root : List String) (t : Files) : Prop where
  dir : t root = some .dir
  empty : ∀ ns, ns ≠ [] → t (root ++ ns) = none

/-- A moment between two members: the archive is accepted, and the members so far have been unpacked
into an empty directory. -/
structure Between (root : List String) (done : List TarInfo) (ti : TarInfo) (rest : List TarInfo)
    (t₀ t : Files) : Prop where
  accepted : Accepted (done ++ ti :: rest)
  start : IsEmptyDir root t₀
  made : Grows root (Made done) t₀ t

namespace Between

variable {links : ℕ} {root : List String} {done rest : List TarInfo} {ti : TarInfo}
  {t₀ t t' : Files}

theorem mem (_ : Between root done ti rest t₀ t) : ti ∈ done ++ ti :: rest :=
  List.mem_append_right _ List.mem_cons_self

/-- No member so far has the path of the next one. -/
theorem fresh (h : Between root done ti rest t₀ t) {other : TarInfo} (hother : other ∈ done) :
    parts other.name ≠ parts ti.name :=
  (List.pairwise_append.mp h.accepted.distinct).2.2 other hother ti List.mem_cons_self

theorem parts_eq (h : Between root done ti rest t₀ t) :
    parts ti.name = names (components ti.name) :=
  (of_memberRejection (h.accepted.alone ti h.mem)).1

/-- What is in the directory was made. -/
theorem made_of_some (h : Between root done ti rest t₀ t) {ns : List String}
    {node : Node (List UInt8)} (hne : ns ≠ []) (hnode : t (root ++ ns) = some node) :
    Made done ns node := by
  refine (h.made.allowed_of_some hnode).resolve_left ?_
  rw [h.start.empty ns hne]
  exact Option.some_ne_none node ∘ Eq.symm

theorem grounded (h : Between root done ti rest t₀ t) : Grounded root t :=
  h.made.grounded fun ns hne hsome => absurd (h.start.empty ns hne) hsome

/-- **No link is on the way of the next member.** -/
theorem ready (h : Between root done ti rest t₀ t) : Ready t root (components ti.name) := by
  refine ⟨(of_memberRejection (h.accepted.alone ti h.mem)).2.1, ?_, h.made.keeps _ _ h.start.dir⟩
  intro r hr hne target hlink
  rw [← h.parts_eq] at hr
  obtain ⟨other, hother, ⟨hdir, -⟩ | ⟨rfl, hnode⟩⟩ := h.made_of_some hne hlink
  · cases hdir
  · have hsym : other.issym = true := by
      have hkind := (of_memberRejection (h.accepted.alone other (List.mem_append_left _ hother))).2.2
      rw [TarInfo.node] at hnode
      split at hnode
      · cases hnode
      · split at hnode
        · cases hnode
        · tauto
    exact h.fresh hother
      (h.accepted.apart ti h.mem other (List.mem_append_left _ hother) hsym hr).1

/-- What is at the path of the next member can only be a directory. -/
theorem dir_of_some (h : Between root done ti rest t₀ t) {node : Node (List UInt8)}
    (hnode : t (root ++ names (components ti.name)) = some node) : node = .dir := by
  rw [← h.parts_eq] at hnode
  by_cases hnil : parts ti.name = []
  · rw [hnil, List.append_nil, h.ready.baseDir, Option.some.injEq] at hnode
    exact hnode.symm
  · obtain ⟨other, hother, ⟨hdir, -⟩ | ⟨heq, -⟩⟩ := h.made_of_some hnil hnode
    · exact hdir
    · exact absurd heq.symm (h.fresh hother)

/-- **Making the directories above the member** leaves the moment as it is. -/
theorem grows_makeUpper (h : Between root done ti rest t₀ t) :
    Grows root (OnWay (components ti.name).dropLast) t (makeUpper links root t ti).left := by
  rw [makeUpper]
  split
  · exact .refl
  · have hready := h.ready.of_prefix (List.dropLast_prefix _)
    have hgrows := @grows_makedirs _ links t root (components ti.name).dropLast.reverse
    rw [List.reverse_reverse] at hgrows
    exact hgrows hready

/-- With the directories above it, the moment is still one between two members, and the next member
is at none of the places made. -/
theorem afterUpper (h : Between root done ti rest t₀ t) :
    Grows root (Made (done ++ [ti])) t (makeUpper links root t ti).left := by
  refine h.grows_makeUpper.mono fun ns node hway => ?_
  refine ⟨ti, by simp, .inl ⟨hway.1, hway.2.trans ?_⟩⟩
  rw [h.parts_eq]
  exact (List.dropLast_prefix _).filter _

/-- **The member is put at its own path**, where nothing was before. -/
theorem grows_makeMember (h : Between root done ti rest t₀ t)
    (hready : Ready t' root (components ti.name))
    (hdir : ∀ node, t' (root ++ names (components ti.name)) = some node → node = .dir) :
    Grows root (Made (done ++ [ti])) t' (makeMember links root t' ti).left := by
  have hown : ∀ node, ti.node = node →
      Made (done ++ [ti]) (names (components ti.name)) node := by
    rintro node rfl
    exact ⟨ti, by simp, .inr ⟨h.parts_eq.symm, rfl⟩⟩
  rw [makeMember]
  split
  · next hfile =>
      refine grows_openWrite hready (fun c hc => ?_) (hown _ (by rw [TarInfo.node, if_pos hfile]))
      cases hdir _ hc
  · next hfile =>
      split
      · next hisdir =>
          have hnode : ti.node = .dir := by rw [TarInfo.node, if_neg hfile, if_pos hisdir]
          have hgrows := @grows_create _ links _ _ _ _ _ hready (hown _ hnode)
          rw [makedir, mkdir]
          split
          · next t'' hok => rwa [hok] at hgrows
          · next t'' herror =>
              rw [herror] at hgrows
              split <;> exact hgrows
      · next hisdir =>
          have hnode : ti.node = .link ti.linkname := by
            rw [TarInfo.node, if_neg hfile, if_neg hisdir]
          split
          · rw [makelink]
            split
            · next hsome =>
                obtain ⟨node, hlstat⟩ := Option.isSome_iff_exists.mp hsome
                rw [unlink_of_dir hready (hdir _ (lstat_eq_some hready hlstat) ▸
                  lstat_eq_some hready hlstat)]
                exact .refl
            · rw [symlink]
              split
              · exact .refl
              · exact grows_create hready (hown _ hnode)
          · exact .refl

/-- The member after the directories above it. -/
theorem ready_makeUpper (h : Between root done ti rest t₀ t) :
    Ready (makeUpper links root t ti).left root (components ti.name) ∧
      ∀ node, (makeUpper links root t ti).left (root ++ names (components ti.name)) = some node →
        node = .dir := by
  refine ⟨h.ready.grows h.grows_makeUpper fun r _ _ target hway => (by cases hway.1), ?_⟩
  intro node hnode
  rcases h.grows_makeUpper.allowed_of_some hnode with hold | hway
  · exact h.dir_of_some hold
  · exact hway.1

/-- **Unpacking one more member** only adds what is its own. -/
theorem grows_extractMember (h : Between root done ti rest t₀ t) :
    Grows root (Made (done ++ [ti])) t (extractMember links root t ti).left := by
  have hupper := @afterUpper links _ _ _ _ _ _ h
  obtain ⟨hready, hdir⟩ := @ready_makeUpper links _ _ _ _ _ _ h
  rw [extractMember]
  cases hmake : makeUpper links root t ti with
  | error t' =>
      rw [hmake] at hupper
      exact hupper
  | ok t' =>
      rw [hmake] at hupper hready hdir
      exact hupper.trans (h.grows_makeMember hready hdir)

/-- **What was unpacked is at its own path**; a file or a link ends in a name, and a link has a
target. -/
theorem node_of_ok (h : Between root done ti rest t₀ t)
    (hok : extractMember links root t ti = .ok t') :
    t' (root ++ parts ti.name) = some ti.node ∧
      (ti.isdir = false → (components ti.name).getLast? ≠ some ".") ∧
      (ti.issym = true → ti.linkname ≠ "") := by
  obtain ⟨hready, hdir⟩ := @ready_makeUpper links _ _ _ _ _ _ h
  rw [h.parts_eq]
  rw [extractMember] at hok
  cases hmake : makeUpper links root t ti with
  | error t'' =>
      rw [hmake] at hok
      cases hok
  | ok t'' =>
      rw [hmake] at hok hready hdir
      dsimp only [Outcome.left] at hok hready hdir
      rw [makeMember] at hok
      split at hok
      · next hfile =>
          obtain ⟨rfl, hlast⟩ := openWrite_eq_ok hready hok
          refine ⟨?_, fun _ => hlast, fun hsym => ?_⟩
          · rw [Function.update_self, TarInfo.node, if_pos hfile]
          · rw [(kind_of_issym hsym).2] at hfile
            cases hfile
      · next hfile =>
          split at hok
          · next hisdir =>
              refine ⟨?_, fun hnot => ?_, fun hsym => ?_⟩
              · rw [TarInfo.node, if_neg hfile, if_pos hisdir]
                rw [makedir, mkdir] at hok
                split at hok
                · next hcreate =>
                    obtain ⟨rfl, -⟩ := create_eq_ok hready hcreate
                    rw [← Except.ok.inj hok, Function.update_self]
                · next herror =>
                    rw [create_eq_error herror] at hok
                    split at hok
                    · next hstat =>
                        rw [← Except.ok.inj hok]
                        exact stat_eq_some hready hstat
                    · cases hok
              · rw [hisdir] at hnot
                cases hnot
              · rw [(kind_of_issym hsym).1] at hisdir
                cases hisdir
          · next hisdir =>
              split at hok
              · rw [makelink] at hok
                split at hok
                · next hsome =>
                    obtain ⟨node, hlstat⟩ := Option.isSome_iff_exists.mp hsome
                    rw [unlink_of_dir hready (hdir _ (lstat_eq_some hready hlstat) ▸
                      lstat_eq_some hready hlstat)] at hok
                    cases hok
                · rw [symlink] at hok
                  split at hok
                  · cases hok
                  · next htarget =>
                      obtain ⟨rfl, hlast⟩ := create_eq_ok hready hok
                      refine ⟨?_, fun _ => hlast, fun _ => htarget⟩
                      rw [Function.update_self, TarInfo.node, if_neg hfile, if_neg hisdir]
              · cases hok

end Between

/-! ### Archives that fit -/

/-- **An archive that can be unpacked to its end.** -/
structure Fits (archive : List TarInfo) : Prop where
  fileApart : ∀ ti ∈ archive, ti.isfile = true → ∀ other ∈ archive,
    parts ti.name <+: parts other.name → parts ti.name = parts other.name
  ends : ∀ ti ∈ archive, ti.isdir = false → (components ti.name).getLast? ≠ some "."
  target : ∀ ti ∈ archive, ti.issym = true → ti.linkname ≠ ""

namespace Between

variable {links : ℕ} {root : List String} {done rest : List TarInfo} {ti : TarInfo}
  {t₀ t t' : Files}

/-- Nothing but directories is on the way of the next member. -/
theorem clear (h : Between root done ti rest t₀ t) (hfits : Fits (done ++ ti :: rest)) :
    Clear t root (names (components ti.name)) := by
  intro r hr
  cases hat : t (root ++ r) with
  | none => exact .inl rfl
  | some node =>
      right
      rw [← h.parts_eq] at hr
      by_cases hnil : r = []
      · rw [hnil, List.append_nil, h.ready.baseDir] at hat
        exact hat.symm
      · obtain ⟨other, hother, ⟨rfl, -⟩ | ⟨rfl, rfl⟩⟩ := h.made_of_some hnil hat
        · rfl
        · have hmem : other ∈ done ++ ti :: rest := List.mem_append_left _ hother
          have hne := h.fresh hother
          rcases (of_memberRejection (h.accepted.alone other hmem)).2.2 with hfile | hdir | hsym
          · exact absurd (hfits.fileApart other hmem hfile ti h.mem hr) hne
          · rw [TarInfo.node, if_neg (by simp [isfile_of_isdir hdir]), if_pos hdir]
          · exact absurd (h.accepted.apart ti h.mem other hmem hsym hr).1 hne

/-- Nothing is at the path of a file or a link. -/
theorem free (h : Between root done ti rest t₀ t) (hfits : Fits (done ++ ti :: rest))
    (hnot : ti.isdir = false) : t (root ++ names (components ti.name)) = none := by
  by_contra hsome
  obtain ⟨node, hnode⟩ := Option.ne_none_iff_exists'.mp hsome
  rw [← h.parts_eq] at hnode
  have hnil : parts ti.name ≠ [] := fun hnil => by
    rw [h.accepted.named ti h.mem hnil] at hnot
    cases hnot
  obtain ⟨other, hother, ⟨-, hpre⟩ | ⟨heq, -⟩⟩ := h.made_of_some hnil hnode
  · have hmem : other ∈ done ++ ti :: rest := List.mem_append_left _ hother
    have hne := h.fresh hother
    rcases (of_memberRejection (h.accepted.alone ti h.mem)).2.2 with hfile | hdir | hsym
    · exact hne (hfits.fileApart ti h.mem hfile other hmem hpre).symm
    · rw [hdir] at hnot
      cases hnot
    · exact hne (h.accepted.apart other hmem ti h.mem hsym hpre).1.symm
  · exact h.fresh hother heq.symm

/-- The directories above a member that fits are made. -/
theorem makeUpper_of_fits (h : Between root done ti rest t₀ t)
    (hfits : Fits (done ++ ti :: rest)) :
    ∃ t', makeUpper links root t ti = .ok t' ∧
      ∀ r, r <+: names (components ti.name).dropLast → t' (root ++ r) = some .dir := by
  have hready := h.ready.of_prefix (List.dropLast_prefix (components ti.name))
  have hprefix : names (components ti.name).dropLast <+: names (components ti.name) :=
    (List.dropLast_prefix _).filter _
  have hall : ∀ t' : Files, Grounded root t' →
      t' (root ++ names (components ti.name).dropLast) = some .dir →
      ∀ r, r <+: names (components ti.name).dropLast → t' (root ++ r) = some .dir := by
    intro t' hground hdir r hr
    by_cases heq : r = names (components ti.name).dropLast
    · rw [heq, hdir]
    · exact hground.dir_of_isPrefix (by simp [hdir]) hr heq
  have hgrows := @grows_makeUpper links _ _ _ _ _ _ h
  rw [makeUpper] at hgrows ⊢
  split
  · next hsome =>
      obtain ⟨node, hstat⟩ := Option.isSome_iff_exists.mp hsome
      have hdir := (h.clear hfits _ hprefix).resolve_left
        (by simp [stat_eq_some hready hstat])
      exact ⟨t, rfl, hall t h.grounded hdir⟩
  · next hnone =>
      rw [if_neg hnone] at hgrows
      have hrev := List.reverse_reverse (components ti.name).dropLast
      obtain ⟨t', hok, hdir⟩ := @makedirs_of_clear _ links t root h.grounded
        (components ti.name).dropLast.reverse (by rwa [hrev])
        (by rw [hrev]; exact fun r hr => h.clear hfits r (hr.trans hprefix))
        (by rw [hrev]; simpa using hnone)
      rw [hok] at hgrows ⊢
      rw [hrev] at hdir
      exact ⟨t', rfl, hall t' (hgrows.grounded h.grounded) hdir⟩

/-- **A member that fits is unpacked.** -/
theorem extractMember_of_fits (h : Between root done ti rest t₀ t)
    (hfits : Fits (done ++ ti :: rest)) : ∃ t', extractMember links root t ti = .ok t' := by
  obtain ⟨t', hupper, hdirs⟩ := @makeUpper_of_fits links _ _ _ _ _ _ h hfits
  obtain ⟨hready, hdir⟩ := @ready_makeUpper links _ _ _ _ _ _ h
  have hgrows := @grows_makeUpper links _ _ _ _ _ _ h
  rw [hupper] at hready hdir hgrows
  dsimp only [Outcome.left] at hready hdir hgrows
  have hground := hgrows.grounded h.grounded
  have hfree : ti.isdir = false → t' (root ++ names (components ti.name)) = none := by
    intro hnot
    by_contra hsome
    obtain ⟨node, hnode⟩ := Option.ne_none_iff_exists'.mp hsome
    rcases hgrows.allowed_of_some hnode with hold | ⟨-, hpre⟩
    · rw [h.free hfits hnot] at hold
      cases hold
    · have hends := hfits.ends ti h.mem hnot
      have hnil : parts ti.name ≠ [] := fun hnil => by
        rw [h.accepted.named ti h.mem hnil] at hnot
        cases hnot
      rw [h.parts_eq] at hnil
      rcases List.eq_nil_or_concat (components ti.name) with hcomps | ⟨init, last, hcomps⟩
      · rw [hcomps] at hnil
        exact hnil rfl
      · rw [hcomps, List.concat_eq_append] at hpre hends
        rw [List.dropLast_concat, names_append, names_cons_of_ne (by simpa using hends)] at hpre
        have hlength := hpre.length_le
        rw [List.length_append, List.length_cons] at hlength
        omega
  rw [extractMember, hupper]
  dsimp only
  rw [makeMember]
  split
  · next hfile =>
      have hnot : ti.isdir = false := by
        by_contra hisdir
        rw [isfile_of_isdir (by simpa using hisdir)] at hfile
        cases hfile
      exact ⟨_, openWrite_of_free hready hdirs (hfree hnot)⟩
  · split
    · next hisdir =>
        rw [makedir]
        split
        · exact ⟨_, rfl⟩
        · next t'' herror =>
            cases hat : t' (root ++ names (components ti.name)) with
            | none =>
                rw [mkdir, create_of_free hready hdirs hat] at herror
                cases herror
            | some node =>
                rw [mkdir] at herror
                rw [create_eq_error herror, stat_of_dir hready hground (hdir node hat ▸ hat)]
                exact ⟨_, rfl⟩
    · next hfile hisdir =>
        have hsym : ti.issym = true := by
          have hkind := (of_memberRejection (h.accepted.alone ti h.mem)).2.2
          tauto
        have hat := hfree (by simpa using hisdir)
        rw [if_pos hsym, makelink, if_neg, symlink, if_neg (hfits.target ti h.mem hsym)]
        · exact ⟨_, create_of_free hready hdirs hat⟩
        · intro hsome
          obtain ⟨node, hlstat⟩ := Option.isSome_iff_exists.mp hsome
          rw [lstat_eq_some hready hlstat] at hat
          cases hat

end Between

/-! ### The whole archive -/

section

variable {links : ℕ} {root : List String} {t₀ : Files}

/-- **The members that are left**: they only add what is theirs; when the end is reached every one of
them is at its own path, and it is reached when the archive fits. -/
theorem extractall_rest : ∀ {rest done : List TarInfo} {t : Files}, Accepted (done ++ rest) →
    IsEmptyDir root t₀ → Grows root (Made done) t₀ t →
    Grows root (Made (done ++ rest)) t (extractall links root t rest).left ∧
      (∀ t', extractall links root t rest = .ok t' → ∀ ti ∈ rest,
        t' (root ++ parts ti.name) = some ti.node ∧
        (ti.isdir = false → (components ti.name).getLast? ≠ some ".") ∧
        (ti.issym = true → ti.linkname ≠ "")) ∧
      (Fits (done ++ rest) → ∃ t', extractall links root t rest = .ok t') := by
  intro rest
  induction rest with
  | nil =>
      intro done t _ _ _
      exact ⟨.refl, fun _ _ ti hti => (by cases hti), fun _ => ⟨t, rfl⟩⟩
  | cons ti rest ih =>
      intro done t haccepted hstart hmade
      have h : Between root done ti rest t₀ t := ⟨haccepted, hstart, hmade⟩
      have hsplit : done ++ ti :: rest = done ++ [ti] ++ rest := by simp
      have hgrows := @Between.grows_extractMember links _ _ _ _ _ _ h
      rw [extractall]
      cases hok : extractMember links root t ti with
      | error t' =>
          rw [hok] at hgrows
          refine ⟨?_, fun _ hend => (by cases hend), fun hfits => ?_⟩
          · rw [hsplit]
            exact hgrows.mono fun _ _ => Made.mono
          · obtain ⟨t'', hfit⟩ := @Between.extractMember_of_fits links _ _ _ _ _ _ h hfits
            rw [hok] at hfit
            cases hfit
      | ok t' =>
          rw [hok] at hgrows
          have hdone : Grows root (Made (done ++ [ti])) t₀ t' :=
            (hmade.mono fun _ _ => Made.mono).trans hgrows
          rw [hsplit] at haccepted ⊢
          obtain ⟨hrest, hnodes, hend⟩ := ih haccepted hstart hdone
          refine ⟨(hgrows.mono fun _ _ => Made.mono).trans hrest, fun t'' hlast m hm => ?_, hend⟩
          rcases List.mem_cons.mp hm with rfl | hm
          · obtain ⟨hnode, hends⟩ := h.node_of_ok hok
            dsimp only at hlast
            rw [hlast] at hrest
            exact ⟨hrest.keeps _ _ hnode, hends⟩
          · exact hnodes t'' hlast m hm

/-- The members that were unpacked, and then the others. -/
theorem extractall_append (done rest : List TarInfo) (t : Files) :
    extractall links root t (done ++ rest) =
      match extractall links root t done with
      | .error t' => .error t'
      | .ok t' => extractall links root t' rest := by
  induction done generalizing t with
  | nil => rfl
  | cons ti done ih =>
      rw [List.cons_append, extractall, extractall]
      cases extractMember links root t ti with
      | error t' => rfl
      | ok t' => exact ih t'

theorem Accepted.of_append {done rest : List TarInfo} (h : Accepted (done ++ rest)) :
    Accepted done := by
  have hmem : ∀ ti ∈ done, ti ∈ done ++ rest := fun ti hti => List.mem_append_left _ hti
  exact ⟨fun ti hti => h.alone ti (hmem ti hti), fun ti hti => h.named ti (hmem ti hti),
    (List.pairwise_append.mp h.distinct).1,
    fun ti hti l hl => h.apart ti (hmem ti hti) l (hmem l hl)⟩

/-- **Nothing already written is replaced** by the members that follow. -/
theorem extractall_extends {done rest : List TarInfo} (haccepted : Accepted (done ++ rest))
    (hstart : IsEmptyDir root t₀) :
    Extends (extractall links root t₀ done).left (extractall links root t₀ (done ++ rest)).left := by
  have hdone := (@extractall_rest links root t₀ done [] t₀
    (by simpa using haccepted.of_append) hstart .refl).1
  rw [extractall_append]
  cases hok : extractall links root t₀ done with
  | error t' => exact Extends.refl t'
  | ok t' =>
      rw [hok] at hdone
      rw [List.nil_append] at hdone
      exact (@extractall_rest links root t₀ rest done t' haccepted hstart hdone).1.keeps

/-- **The end is reached exactly by an archive that fits.** -/
theorem extractall_ok_iff {archive : List TarInfo} (haccepted : Accepted archive)
    (hstart : IsEmptyDir root t₀) :
    (∃ t', extractall links root t₀ archive = .ok t') ↔ Fits archive := by
  obtain ⟨hgrows, hnodes, hend⟩ := @extractall_rest links root t₀ archive [] t₀ haccepted hstart
    .refl
  refine ⟨fun ⟨t', hok⟩ => ?_, hend⟩
  have hall := hnodes t' hok
  rw [hok] at hgrows
  have hground : Grounded root t' :=
    hgrows.grounded fun ns hne hsome => absurd (hstart.empty ns hne) hsome
  refine ⟨fun ti hti hfile other hother hpre => ?_, fun ti hti => (hall ti hti).2.1,
    fun ti hti => (hall ti hti).2.2⟩
  by_contra hne
  have hdir := hground.dir_of_isPrefix (by simp [(hall other hother).1]) hpre hne
  rw [(hall ti hti).1, TarInfo.node, if_pos hfile] at hdir
  cases hdir

end

/-- A system with one empty directory. -/
def oneEmptyDir : Files := fun place => if place = [] ∨ place = ["pkg"] then some .dir else none

theorem isEmptyDir_oneEmptyDir : IsEmptyDir ["pkg"] oneEmptyDir := by
  refine ⟨by decide, fun ns hne => ?_⟩
  rw [oneEmptyDir, if_neg]
  simp [hne]

/-- A package with an interpreter that links to the system, and a script below a directory of its
own. -/
def samplePackage : List TarInfo :=
  [⟨"venv/bin/python", .sym, "/usr/bin/python3", []⟩, ⟨"bin", .dir, "", []⟩,
    ⟨"bin/./run.py", .reg, "", [112, 121]⟩]

/-- A file and another one below it. -/
def fileBelowFile : List TarInfo := [⟨"a", .reg, "", [1]⟩, ⟨"a/b", .reg, "", [2]⟩]

end StabilityPlatform.ToolCache
