import StabilityPlatform.Lib.StableSort

/-!
# The digest of a directory

Before the agent deletes the local copy of an event it compares the digests of the local and the
remote directory. What is digested are the files in the order of their paths, each as its path and
its content, with nothing in between: one text may be read as several directories.

## Main results

* `dirSha256`: the digest.
* `dir_sha256_identifies_iff`: **which directories** their digest identifies.
* `same_dir_sha256`: two directories with one digest.
-/

namespace StabilityPlatform

open Lib

/-! ### Directories -/

/-- A name a file may have. -/
def IsFileName (name : String) : Prop :=
  name ≠ "" ∧ name ≠ "." ∧ name ≠ ".." ∧ '/' ∉ name.toList ∧ Char.ofNat 0 ∉ name.toList

instance (name : String) : Decidable (IsFileName name) :=
  inferInstanceAs (Decidable (_ ∧ _))

/-- The path of a file in a directory. -/
structure RelPath where
  parts : List String
  nonempty : parts ≠ []
  names : ∀ name ∈ parts, IsFileName name
  deriving DecidableEq

namespace RelPath

/-- `str(path.relative_to(root))`. -/
def text (p : RelPath) : String := String.ofList (['/'].intercalate (p.parts.map String.toList))

/-- `str(path.relative_to(root)).encode()`. -/
def bytes (p : RelPath) : List UInt8 := p.text.toUTF8.data.toList

@[ext] theorem ext {p q : RelPath} (h : p.parts = q.parts) : p = q := by
  cases p; cases q; subst h; rfl

/-- The text tells the path. -/
theorem text_injective : Function.Injective text := by
  intro p q h
  have hchars := congrArg (fun s => s.toList.splitOn '/') h
  have hsplit : ∀ p : RelPath, p.text.toList.splitOn '/' = p.parts.map String.toList := by
    intro p
    rw [text, String.toList_ofList]
    refine List.splitOn_intercalate '/' (fun l hl hmem => ?_) (by simpa using p.nonempty)
    obtain ⟨name, hname, rfl⟩ := List.mem_map.mp hl
    exact (p.names name hname).2.2.2.1 hmem
  rw [hsplit, hsplit] at hchars
  exact ext (List.map_injective_iff.mpr (fun _ _ => String.toList_injective) hchars)

/-- The bytes tell the path. -/
theorem bytes_injective : Function.Injective bytes := by
  intro p q h
  have harray : p.text.toUTF8 = q.text.toUTF8 := ByteArray.ext (Array.toList_inj.mp h)
  rw [String.toUTF8_eq_toByteArray, String.toUTF8_eq_toByteArray] at harray
  exact text_injective (String.toByteArray_inj.mp harray)

/-- A path has a text. -/
theorem bytes_ne_nil (p : RelPath) : p.bytes ≠ [] := by
  intro h
  have hempty : p.text.toUTF8 = "".toUTF8 := ByteArray.ext (Array.toList_inj.mp h)
  rw [String.toUTF8_eq_toByteArray, String.toUTF8_eq_toByteArray] at hempty
  have htext := congrArg String.toList (String.toByteArray_inj.mp hempty)
  rw [text, String.toList_ofList] at htext
  cases hparts : p.parts with
  | nil => exact p.nonempty hparts
  | cons name rest =>
      have hname := (p.names name (by rw [hparts]; exact List.mem_cons_self)).1
      rw [hparts, List.map_cons] at htext
      have hnil : name.toList = [] := by
        cases rest with
        | nil => simpa [List.intercalate] using htext
        | cons next rest => simp [List.intercalate_cons_cons] at htext
      exact hname (String.toList_injective hnil)

end RelPath

/-- The files of a directory; the directories in it have no part in the digest. -/
structure DirTree where
  files : List (RelPath × List UInt8)
  nodup : (files.map fun f => f.1.parts).Nodup
  leaves : ∀ f ∈ files, ∀ g ∈ files, f.1.parts <+: g.1.parts → f.1 = g.1

namespace DirTree

/-- Two directories have the same files with the same contents. -/
def SameFiles (a b : DirTree) : Prop := ∀ f, f ∈ a.files ↔ f ∈ b.files

/-- `sorted(root.rglob("*"))`, files only. -/
def sorted (a : DirTree) : List (RelPath × List UInt8) := sortBy (fun f => f.1.parts) a.files

/-- What is digested of files. -/
def stream (files : List (RelPath × List UInt8)) : List UInt8 :=
  files.flatMap fun f => f.1.bytes ++ f.2

/-- What is digested of a directory. -/
def digested (a : DirTree) : List UInt8 := stream a.sorted

end DirTree

/-- `_dir_sha256_and_size`; `sha256` is the digest of a message. -/
def dirSha256AndSize (sha256 : List UInt8 → String) (a : DirTree) : String × ℕ :=
  (sha256 a.digested, (a.sorted.map fun f => f.2.length).sum)

/-- `_dir_sha256`. -/
def dirSha256 (sha256 : List UInt8 → String) (a : DirTree) : String :=
  (dirSha256AndSize sha256 a).1

/-! ### Reading a text as a directory -/

namespace DirTree

variable {a b : DirTree}

/-- The sorted files are the files. -/
theorem mem_sorted {f : RelPath × List UInt8} : f ∈ a.sorted ↔ f ∈ a.files := mem_sortBy

/-- The sorted paths ascend. -/
theorem sorted_lt (a : DirTree) : a.sorted.Pairwise fun f g => f.1.parts < g.1.parts := by
  have hle := pairwise_sortBy (fun f : RelPath × List UInt8 => f.1.parts) a.files
  have hnodup : (a.sorted.map fun f => f.1.parts).Nodup :=
    ((sortBy_perm _ _).map _).nodup_iff.mpr a.nodup
  have hne := List.pairwise_map.mp hnodup
  exact (hle.and hne).imp fun h => lt_of_le_of_ne h.1 h.2

/-- The same files are sorted to the same list. -/
theorem sameFiles_of_sorted (h : a.sorted = b.sorted) : a.SameFiles b := fun f => by
  rw [← mem_sorted, h, mem_sorted]

/-- A directory of one file. -/
def single (p : RelPath) (content : List UInt8) : DirTree :=
  ⟨[(p, content)], List.nodup_singleton _, fun f hf g hg _ => by
    rw [List.mem_singleton.mp hf, List.mem_singleton.mp hg]⟩

/-- What is digested of one file. -/
theorem digested_single (p : RelPath) (content : List UInt8) :
    (single p content).digested = p.bytes ++ content := by
  change stream [(p, content)] = _
  rw [stream, List.flatMap_singleton]

/-- A directory of two files, none below the other. -/
def pair (p q : RelPath) (content content' : List UInt8) (hlt : p.parts < q.parts)
    (hbelow : ¬ p.parts <+: q.parts) : DirTree :=
  ⟨[(p, content), (q, content')], by simpa using hlt.ne, fun f hf g hg hprefix => by
    have habove : ¬ q.parts <+: p.parts := fun h => absurd hlt (List.IsPrefix.le h)
    rcases List.mem_cons.mp hf with rfl | hf
    · rcases List.mem_cons.mp hg with rfl | hg
      · rfl
      · rw [List.mem_singleton.mp hg] at hprefix
        exact absurd hprefix hbelow
    · rw [List.mem_singleton.mp hf] at hprefix ⊢
      rcases List.mem_cons.mp hg with rfl | hg
      · exact absurd hprefix habove
      · rw [List.mem_singleton.mp hg]⟩

/-- What is digested of two files. -/
theorem digested_pair {p q : RelPath} (content content' : List UInt8) (hlt : p.parts < q.parts)
    (hbelow : ¬ p.parts <+: q.parts) :
    (pair p q content content' hlt hbelow).digested =
      p.bytes ++ content ++ (q.bytes ++ content') := by
  have hsorted : (pair p q content content' hlt hbelow).sorted = [(p, content), (q, content')] := by
    simp [sorted, pair, sortBy, hlt.le]
  rw [digested, hsorted, stream]
  simp

/-- What is digested of a directory can be read as no other one: there is no file; or there is one,
nothing else its path and its content begin with is a path, and its content holds no path that
comes after its own and is not below it. -/
def ReadOneWay (a : DirTree) : Prop :=
  a.files = [] ∨ ∃ p content, a.files = [(p, content)] ∧
    (∀ q : RelPath, q.bytes <+: p.bytes ++ content → q = p) ∧
    ∀ q : RelPath, p.parts < q.parts → ¬ p.parts <+: q.parts → ¬ q.bytes <:+: content

/-- The files are those of a list they are sorted to. -/
theorem files_eq_of_sorted {l : List (RelPath × List UInt8)} (h : a.sorted = l)
    (hl : l.length ≤ 1) : a.files = l := by
  have hperm : a.files.Perm l := h ▸ (sortBy_perm _ _).symm
  cases l with
  | nil => exact List.perm_nil.mp hperm
  | cons f l =>
      cases l with
      | nil => exact List.perm_singleton.mp hperm
      | cons g l =>
          rw [List.length_cons, List.length_cons] at hl
          omega

/-- A directory that can be read as no other one is the only one with its text. -/
theorem ReadOneWay.sameFiles (h : a.ReadOneWay) (hsame : b.digested = a.digested) :
    b.SameFiles a := by
  have hsorted : a.files.length ≤ 1 → a.sorted = a.files := fun hlength => by
    have hperm := sortBy_perm (fun f : RelPath × List UInt8 => f.1.parts) a.files
    exact (files_eq_of_sorted rfl (hperm.length_eq.trans_le hlength)).symm
  rcases h with hempty | ⟨p, content, hfiles, hpath, hcontent⟩
  · have ha : a.sorted = [] := by rw [hsorted (by rw [hempty]; exact Nat.zero_le _), hempty]
    refine sameFiles_of_sorted ?_
    rw [ha]
    rw [digested, digested, ha] at hsame
    cases hb : b.sorted with
    | nil => rfl
    | cons f rest =>
        rw [hb, stream, List.flatMap_cons] at hsame
        have hnil := (List.append_eq_nil_iff.mp hsame).1
        exact absurd (List.append_eq_nil_iff.mp hnil).1 f.1.bytes_ne_nil
  · have ha : a.sorted = [(p, content)] := by
      rw [hsorted (by rw [hfiles]; exact Nat.le_refl 1), hfiles]
    refine sameFiles_of_sorted ?_
    rw [ha]
    rw [digested, digested, ha, stream, stream, List.flatMap_singleton] at hsame
    have hascends := b.sorted_lt
    have hmem : ∀ f, f ∈ b.sorted → f ∈ b.files := fun f => mem_sorted.mp
    cases hb : b.sorted with
    | nil =>
        rw [hb, List.flatMap_nil] at hsame
        exact absurd (List.append_eq_nil_iff.mp hsame.symm).1 p.bytes_ne_nil
    | cons f rest =>
        rw [hb] at hsame hascends hmem
        rw [List.flatMap_cons, List.append_assoc] at hsame
        have hfirst : f.1 = p := hpath f.1 ⟨_, hsame⟩
        rw [hfirst] at hsame
        have hrest := List.append_cancel_left hsame
        cases rest with
        | nil =>
            rw [List.flatMap_nil, List.append_nil] at hrest
            exact congrArg (fun f => [f]) (Prod.ext hfirst hrest)
        | cons g rest =>
            have hlt := (List.pairwise_cons.mp hascends).1 g List.mem_cons_self
            rw [hfirst] at hlt
            refine absurd ?_ (hcontent g.1 hlt fun hbelow => ?_)
            · rw [List.flatMap_cons, List.append_assoc] at hrest
              exact ⟨f.2, _, by rw [List.append_assoc]; exact hrest⟩
            · have hsamePath := b.leaves f (hmem f List.mem_cons_self) g
                (hmem g (List.mem_cons_of_mem _ List.mem_cons_self)) (by rw [hfirst]; exact hbelow)
              rw [← hsamePath, hfirst] at hlt
              exact absurd hlt (lt_irrefl _)

/-- A directory that is the only one with its text can be read as no other one. -/
theorem readOneWay_of_sameFiles (h : ∀ b : DirTree, b.digested = a.digested → b.SameFiles a) :
    a.ReadOneWay := by
  cases ha : a.sorted with
  | nil => exact .inl (files_eq_of_sorted ha (Nat.zero_le _))
  | cons f rest =>
      obtain ⟨p, content⟩ := f
      have hsingle := h (single p (content ++ stream rest)) (by
        rw [digested_single, digested, ha]
        simp [stream])
      have hrest : rest = [] := by
        cases rest with
        | nil => rfl
        | cons g rest =>
            have hin : ∀ f ∈ a.sorted, f.1 = p := fun f hf => by
              have hmem := (hsingle f).mpr (mem_sorted.mp hf)
              exact congrArg Prod.fst (List.mem_singleton.mp hmem)
            have hlt := (List.pairwise_cons.mp (ha ▸ a.sorted_lt)).1 g List.mem_cons_self
            rw [hin g (by rw [ha]; exact List.mem_cons_of_mem _ List.mem_cons_self)] at hlt
            exact absurd hlt (lt_irrefl _)
      subst hrest
      have hfiles := files_eq_of_sorted ha (Nat.le_refl 1)
      have htext : a.digested = p.bytes ++ content := by
        rw [digested, ha, stream, List.flatMap_singleton]
      refine .inr ⟨p, content, hfiles, fun q hq => ?_, fun q hlt hbelow hq => ?_⟩
      · obtain ⟨tail, htail⟩ := hq
        have hsame := h (single q tail) (by rw [digested_single, htext, htail])
        have hmem := (hsame (q, tail)).mp List.mem_cons_self
        rw [hfiles] at hmem
        exact congrArg Prod.fst (List.mem_singleton.mp hmem)
      · obtain ⟨before, after, hcontent⟩ := hq
        have hsame := h (pair p q before after hlt hbelow) (by
          rw [digested_pair, htext, ← hcontent]
          simp only [List.append_assoc])
        have hmem := (hsame (q, after)).mp (List.mem_cons_of_mem _ List.mem_cons_self)
        rw [hfiles] at hmem
        have hq := congrArg (fun f => f.1.parts) (List.mem_singleton.mp hmem)
        exact absurd hq.symm hlt.ne

end DirTree

/-- **A digest identifies a directory** when what is digested can be read as no other one, and only
then, as long as the digests of other texts differ. -/
theorem dir_sha256_identifies_iff {sha256 : List UInt8 → String} (a : DirTree)
    (hcollision : ∀ b : DirTree, sha256 b.digested = sha256 a.digested → b.digested = a.digested) :
    (∀ b : DirTree, dirSha256 sha256 b = dirSha256 sha256 a → b.SameFiles a) ↔ a.ReadOneWay := by
  constructor
  · intro h
    exact DirTree.readOneWay_of_sameFiles fun b hb => h b (congrArg sha256 hb)
  · intro h b hb
    exact h.sameFiles (hcollision b hb)

/-! ### Examples -/

/-- A path of one name. -/
def fileNamed (name : String) (h : IsFileName name) : RelPath :=
  ⟨[name], List.cons_ne_nil _ _, fun other hother => by rwa [List.mem_singleton.mp hother]⟩

/-- The theorem at work: an empty file with a name of one letter. -/
theorem dir_sha256_identifies_letter :
    let a := DirTree.single (fileNamed "a" (by decide +kernel)) []
    let sha256 := fun m : List UInt8 =>
      if m = [97] then "ca978112ca1bbdcafac231b39a23dc4da786eff8147c4e72b9807785afee48bb" else ""
    ∀ b : DirTree, dirSha256 sha256 b = dirSha256 sha256 a → b.SameFiles a := by
  intro a sha256
  have htext : a.digested = [97] := by decide +kernel
  refine (dir_sha256_identifies_iff a fun b hb => ?_).mpr (.inr ⟨_, _, rfl, fun q hq => ?_,
    fun q _ _ hq => ?_⟩)
  · rw [htext] at hb ⊢
    by_contra hne
    have hb' : "" = "ca978112ca1bbdcafac231b39a23dc4da786eff8147c4e72b9807785afee48bb" :=
      (if_neg hne).symm.trans (hb.trans (if_pos rfl))
    exact absurd hb' (by decide)
  · have hbytes : (fileNamed "a" (by decide +kernel)).bytes = [97] := by decide +kernel
    refine RelPath.bytes_injective ?_
    rw [List.append_nil, hbytes] at hq
    rw [hbytes]
    refine hq.eq_of_length_le ?_
    exact List.length_pos_iff.mpr q.bytes_ne_nil
  · exact absurd (List.eq_nil_of_infix_nil hq) q.bytes_ne_nil

/-- **One digest, two directories**, whatever the digests of messages are: a file `a` with the
content `bc`, and a file `ab` with the content `c`. -/
theorem same_dir_sha256 :
    let src := DirTree.single (fileNamed "a" (by decide +kernel)) "bc".toUTF8.data.toList
    let dst := DirTree.single (fileNamed "ab" (by decide +kernel)) "c".toUTF8.data.toList
    (∀ sha256, dirSha256 sha256 dst = dirSha256 sha256 src) ∧ ¬ dst.SameFiles src := by
  intro src dst
  have htext : dst.digested = src.digested := by decide +kernel
  refine ⟨fun sha256 => congrArg sha256 htext, fun hsame => ?_⟩
  have hmem := (hsame (fileNamed "ab" (by decide), "c".toUTF8.data.toList)).mp List.mem_cons_self
  exact absurd hmem (by decide +kernel)

end StabilityPlatform
