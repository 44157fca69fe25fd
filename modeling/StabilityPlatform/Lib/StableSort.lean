import Mathlib

/-!
# Sorting by a key

`sortBy key` sorts a list by a key and keeps the order of elements that share one. Such a
sort is described by two facts: its keys ascend, and it leaves every class of equal keys as
it was. Two lists are sorted to the same list exactly when they agree class by class.

## Main results

* `classOf_sortBy`: sorting leaves every class of equal keys as it was.
* `sortBy_eq_sortBy_iff`: two lists sort to the same list when they agree class by class.
* `filter_sortBy`: sorting commutes with filtering.
* `sortBy_eq_of_perm`: with distinct keys the order of the input does not matter.
* `foldl_sortBy_latest`: of the elements that say something, the one with the last key has the last
  word.
-/

namespace StabilityPlatform.Lib

variable {α β κ : Type*} [LinearOrder κ]

/-- `sorted(l, key=key)`. -/
def sortBy (key : α → κ) (l : List α) : List α :=
  l.insertionSort fun a b => key a ≤ key b

/-- The elements with a given key, in their order. -/
def classOf (key : α → κ) (k : κ) (l : List α) : List α :=
  l.filter fun a => key a = k

/-! ### What sorting does -/

/-- Sorting reorders. -/
theorem sortBy_perm (key : α → κ) (l : List α) : (sortBy key l).Perm l :=
  List.perm_insertionSort _ _

/-- A sorted list has the elements of the list. -/
@[simp] theorem mem_sortBy {key : α → κ} {l : List α} {a : α} : a ∈ sortBy key l ↔ a ∈ l :=
  (sortBy_perm key l).mem_iff

/-- The keys of a sorted list ascend. -/
theorem pairwise_sortBy (key : α → κ) (l : List α) :
    (sortBy key l).Pairwise fun a b => key a ≤ key b := by
  have : IsTrans α fun a b => key a ≤ key b := ⟨fun _ _ _ => le_trans⟩
  have : Std.Total fun a b : α => key a ≤ key b := ⟨fun _ _ => le_total _ _⟩
  exact List.pairwise_insertionSort _ _

/-- **Sorting is stable**: it leaves every class of equal keys as it was. -/
theorem classOf_sortBy (key : α → κ) (k : κ) (l : List α) :
    classOf key k (sortBy key l) = classOf key k l := by
  have hsorted : (classOf key k l).Pairwise fun a b => key a ≤ key b := by
    refine List.pairwise_of_forall_mem_list fun a ha b hb => ?_
    rw [(by simpa using (List.mem_filter.mp ha).2 : key a = k),
      (by simpa using (List.mem_filter.mp hb).2 : key b = k)]
  have hsub : (classOf key k l).Sublist (sortBy key l) := by
    have : IsTrans α fun a b => key a ≤ key b := ⟨fun _ _ _ => le_trans⟩
    have : Std.Total fun a b : α => key a ≤ key b := ⟨fun _ _ => le_total _ _⟩
    exact List.sublist_insertionSort hsorted List.filter_sublist
  have hclass : (classOf key k l).Sublist (classOf key k (sortBy key l)) := by
    have h := hsub.filter fun a => key a = k
    rwa [classOf, List.filter_filter, List.filter_congr fun a _ => Bool.and_self _] at h
  exact (hclass.eq_of_length ((sortBy_perm key l).filter _).length_eq.symm).symm

/-- Sorting commutes with a map that respects the key. -/
theorem map_sortBy {key : α → κ} {key' : β → κ} {f : α → β} (hf : ∀ a, key' (f a) = key a)
    (l : List α) : (sortBy key l).map f = sortBy key' (l.map f) := by
  refine List.map_insertionSort _ _ f l fun a _ b _ => ?_
  rw [hf, hf]

/-! ### When two sorts agree -/

/-- Ascending lists with the same classes are the same. -/
theorem eq_of_forall_classOf_eq {key : α → κ} {l l' : List α}
    (hl : l.Pairwise fun a b => key a ≤ key b) (hl' : l'.Pairwise fun a b => key a ≤ key b)
    (h : ∀ k, classOf key k l = classOf key k l') : l = l' := by
  have hmem : ∀ a, a ∈ l ↔ a ∈ l' := fun a => by
    have hk := congrArg (a ∈ ·) (h (key a))
    simpa [classOf] using hk
  induction l generalizing l' with
  | nil =>
      cases l' with
      | nil => rfl
      | cons b rest' => exact absurd ((hmem b).mpr List.mem_cons_self) List.not_mem_nil
  | cons a rest ih =>
      cases l' with
      | nil => exact absurd ((hmem a).mp List.mem_cons_self) List.not_mem_nil
      | cons b rest' =>
          rw [List.pairwise_cons] at hl hl'
          have hab : key a ≤ key b := by
            rcases List.mem_cons.mp ((hmem b).mpr List.mem_cons_self) with rfl | hb
            · exact le_rfl
            · exact hl.1 b hb
          have hba : key b ≤ key a := by
            rcases List.mem_cons.mp ((hmem a).mp List.mem_cons_self) with rfl | ha
            · exact le_rfl
            · exact hl'.1 a ha
          have hkey : key b = key a := le_antisymm hba hab
          have hhead := h (key a)
          simp only [classOf, List.filter_cons, hkey, decide_true, if_true,
            List.cons.injEq] at hhead
          obtain ⟨rfl, -⟩ := hhead
          have hrest : ∀ k, classOf key k rest = classOf key k rest' := fun k => by
            have hk := h k
            simp only [classOf, List.filter_cons] at hk
            split at hk
            · exact (List.cons.inj hk).2
            · exact hk
          refine congrArg (a :: ·) (ih hl.2 hl'.2 hrest fun c => ?_)
          have hk := congrArg (c ∈ ·) (hrest (key c))
          simpa [classOf] using hk

/-- **Two lists sort to the same list when they agree class by class**, and only then. -/
theorem sortBy_eq_sortBy_iff {key : α → κ} {l l' : List α} :
    sortBy key l = sortBy key l' ↔ ∀ k, classOf key k l = classOf key k l' := by
  constructor
  · intro h k
    rw [← classOf_sortBy, h, classOf_sortBy]
  · intro h
    refine eq_of_forall_classOf_eq (pairwise_sortBy key l) (pairwise_sortBy key l') fun k => ?_
    rw [classOf_sortBy, classOf_sortBy, h]

/-- Sorting commutes with filtering. -/
theorem filter_sortBy (key : α → κ) (p : α → Bool) (l : List α) :
    (sortBy key l).filter p = sortBy key (l.filter p) := by
  refine eq_of_forall_classOf_eq ((pairwise_sortBy key l).filter p)
    (pairwise_sortBy key (l.filter p)) fun k => ?_
  calc classOf key k ((sortBy key l).filter p)
      = (classOf key k (sortBy key l)).filter p := List.filter_comm ..
    _ = (classOf key k l).filter p := by rw [classOf_sortBy]
    _ = classOf key k (l.filter p) := List.filter_comm ..
    _ = classOf key k (sortBy key (l.filter p)) := (classOf_sortBy ..).symm

/-- With distinct keys the order of the input does not matter. -/
theorem sortBy_eq_of_perm {key : α → κ} {l l' : List α} (hp : l.Perm l')
    (hkey : ∀ a ∈ l, ∀ b ∈ l, key a = key b → a = b) : sortBy key l = sortBy key l' := by
  have hperm : (sortBy key l).Perm (sortBy key l') :=
    ((sortBy_perm key l).trans hp).trans (sortBy_perm key l').symm
  refine hperm.eq_of_pairwise (fun a b ha hb hab hba => ?_) (pairwise_sortBy key l)
    (pairwise_sortBy key l')
  exact hkey a (mem_sortBy.mp ha) b (hp.mem_iff.mpr (mem_sortBy.mp hb)) (le_antisymm hab hba)

/-! ### The last word -/

/-- Elements that say nothing else leave a word as it is. -/
theorem foldl_word_of_forall {say : α → Option β} {b : β} {l : List α}
    (h : ∀ a ∈ l, say a = none ∨ say a = some b) :
    l.foldl (fun word a => (say a).or word) (some b) = some b := by
  induction l with
  | nil => rfl
  | cons a rest ih =>
      have ha : (say a).or (some b) = some b := by
        rcases h a List.mem_cons_self with hnone | hsome
        · rw [hnone]
          rfl
        · rw [hsome]
          rfl
      rw [List.foldl_cons, ha]
      exact ih fun c hc => h c (List.mem_cons_of_mem a hc)

/-- **The last word** in a sorted list is that of the element with the last key, of those that say
something. -/
theorem foldl_sortBy_latest {key : α → κ} {say : α → Option β} {l : List α} {a : α} {b : β}
    (ha : a ∈ l) (hsay : say a = some b)
    (hlast : ∀ c ∈ l, (say c).isSome = true → c ≠ a → key c < key a) :
    (sortBy key l).foldl (fun word c => (say c).or word) none = some b := by
  have hsorted := pairwise_sortBy key l
  have hmem : a ∈ sortBy key l := mem_sortBy.mpr ha
  obtain ⟨pre, post, hsplit⟩ := List.append_of_mem hmem
  rw [hsplit, List.pairwise_append, List.pairwise_cons] at hsorted
  rw [hsplit, List.foldl_append, List.foldl_cons, hsay]
  refine foldl_word_of_forall fun c hc => ?_
  cases hcsay : say c with
  | none => exact .inl rfl
  | some d =>
      by_cases heq : c = a
      · rw [heq] at hcsay
        exact .inr (hcsay.symm.trans hsay)
      · have hmem : c ∈ l := by
          have hc' : c ∈ sortBy key l :=
            hsplit ▸ List.mem_append_right pre (List.mem_cons_of_mem a hc)
          exact mem_sortBy.mp hc'
        have hlt := hlast c hmem (by rw [hcsay]; rfl) heq
        exact absurd (hsorted.2.1.1 c hc) (not_le_of_gt hlt)

/-! ### Lists read item by item -/

/-- What one reading of the items determines of another, it determines of the lists. -/
theorem map_eq_map_of_imp {γ δ : Type*} {f : α → γ} {f' : β → γ} {g : α → δ} {g' : β → δ}
    {l : List α} {l' : List β} (h : l.map f = l'.map f')
    (himp : ∀ a ∈ l, ∀ b ∈ l', f a = f' b → g a = g' b) : l.map g = l'.map g' := by
  induction l generalizing l' with
  | nil =>
      cases l' with
      | nil => rfl
      | cons b rest' => cases h
  | cons a rest ih =>
      cases l' with
      | nil => cases h
      | cons b rest' =>
          rw [List.map_cons, List.map_cons] at h
          obtain ⟨hab, hrest⟩ := List.cons.inj h
          rw [List.map_cons, List.map_cons, himp a List.mem_cons_self b List.mem_cons_self hab,
            ih hrest fun c hc d hd => himp c (List.mem_cons_of_mem _ hc) d
              (List.mem_cons_of_mem _ hd)]

end StabilityPlatform.Lib
