import StabilityPlatform.Lib.StableSort

/-!
# The first few of a ranking

A ranking that breaks its ties by a second key is the same whatever order its elements came in. A
stable sort by the first key alone leaves ties as they came. Their first few elements agree when no
two of them that tie came in the wrong order.

## Main results

* `take_eq_filter_of_pairwise_lt`: the first `n` of a ranking are those with fewer than `n` before.
* `filter_eq_take_of_pairwise`: elements that all come first are a prefix.
* `take_sortBy_filter_iff`: when sorting some of the elements by the first key alone gives the first
  few of the ranking.
* `find?_take_sortBy_eq_some_iff`: the first of a kind among the first few.
-/

namespace StabilityPlatform.Lib

variable {α κ ν : Type*} [LinearOrder κ] [LinearOrder ν]

/-- Sorted by two keys. -/
def byBoth (key : α → κ) (tie : α → ν) (a : α) : κ ×ₗ ν := toLex (key a, tie a)

/-- How many elements of a list come before one. -/
def rank (key : α → κ) (l : List α) (a : α) : ℕ := l.countP fun b => key b < key a

/-! ### Prefixes -/

/-- Elements that all come first are a prefix. -/
theorem filter_eq_take_of_pairwise {p : α → Bool} {l : List α}
    (h : l.Pairwise fun a b => p b = true → p a = true) :
    l.filter p = l.take (l.countP p) := by
  induction l with
  | nil => rfl
  | cons a rest ih =>
      obtain ⟨hhead, hrest⟩ := List.pairwise_cons.mp h
      by_cases ha : p a = true
      · rw [List.filter_cons_of_pos ha, List.countP_cons_of_pos ha, List.take_succ_cons, ih hrest]
      · have hnone : ∀ b ∈ rest, ¬ p b = true := fun b hb hpb => ha (hhead b hb hpb)
        rw [List.filter_cons_of_neg ha, List.countP_cons_of_neg ha,
          List.filter_eq_nil_iff.mpr hnone, List.countP_eq_zero.mpr hnone, List.take_zero]

/-- The first `n` of a ranking are those with fewer than `n` before them. -/
theorem take_eq_filter_of_pairwise_lt {key : α → κ} {l : List α}
    (h : l.Pairwise fun a b => key a < key b) (n : ℕ) :
    l.take n = l.filter fun a => rank key l a < n := by
  induction l generalizing n with
  | nil => rw [List.take_nil, List.filter_nil]
  | cons a rest ih =>
      obtain ⟨hhead, hrest⟩ := List.pairwise_cons.mp h
      cases n with
      | zero => simp
      | succ n =>
          have hfirst : rank key (a :: rest) a = 0 := by
            rw [rank, List.countP_eq_zero]
            intro b hb
            rw [decide_eq_true_eq, not_lt]
            rcases List.mem_cons.mp hb with rfl | hb
            · exact le_rfl
            · exact (hhead b hb).le
          have hlater : ∀ b ∈ rest,
              decide (rank key rest b < n) = decide (rank key (a :: rest) b < n + 1) := by
            intro b hb
            rw [rank, rank, List.countP_cons_of_pos (by simpa using hhead b hb)]
            simp
          rw [List.take_succ_cons, List.filter_cons_of_pos (by simp [hfirst]), ih hrest,
            List.filter_congr hlater]

/-- Two elements that follow each other in a list, the later one in a prefix, do so in the
prefix. -/
theorem pair_sublist_take {l : List α} (hnodup : l.Nodup) {a b : α} {n : ℕ}
    (hsub : [a, b].Sublist l) (hb : b ∈ l.take n) : [a, b].Sublist (l.take n) := by
  rw [← List.take_append_drop n l] at hsub
  obtain ⟨l₁, l₂, happ, h₁, h₂⟩ := List.sublist_append_iff.mp hsub
  rcases List.eq_nil_or_concat l₂ with hnil | ⟨init, last, hconcat⟩
  · rw [hnil, List.append_nil] at happ
    rwa [happ]
  · have hlast : last = b := by
      have h := congrArg List.getLast? happ
      simp [hconcat] at h
      exact h.symm
    have hmem : b ∈ l.drop n := h₂.subset (by simp [hconcat, hlast])
    exact absurd hmem (List.disjoint_take_drop hnodup le_rfl hb)

/-- Two elements that pass follow each other among those that pass. -/
theorem pair_sublist_filter {p : α → Bool} {l : List α} {a b : α} (ha : p a = true)
    (hb : p b = true) (hsub : [a, b].Sublist l) : [a, b].Sublist (l.filter p) := by
  have h := hsub.filter p
  rwa [List.filter_cons_of_pos ha, List.filter_cons_of_pos hb, List.filter_nil] at h

/-! ### Ties -/

/-- A sort keeps what holds between elements that tie and come one after the other. -/
theorem pairwise_sortBy_of_pairwise {key : α → κ} {r : α → α → Prop} {l : List α}
    (h : l.Pairwise fun a b => key a = key b → r a b) :
    (sortBy key l).Pairwise fun a b => key a = key b → r a b := by
  rw [List.pairwise_iff_forall_sublist] at h ⊢
  intro a b hsub htie
  refine h ?_ htie
  have hclass : [a, b].Sublist (classOf key (key b) (sortBy key l)) :=
    pair_sublist_filter (by simpa using htie) (by simp) hsub
  rw [classOf_sortBy] at hclass
  exact hclass.trans List.filter_sublist

/-- Elements that tie come out of a sort in the order they went in. -/
theorem pair_sublist_sortBy {key : α → κ} {l : List α} {a b : α} (htie : key a = key b)
    (hsub : [a, b].Sublist l) : [a, b].Sublist (sortBy key l) := by
  have hclass : [a, b].Sublist (classOf key (key b) l) :=
    pair_sublist_filter (by simpa using htie) (by simp) hsub
  rw [← classOf_sortBy] at hclass
  exact hclass.trans List.filter_sublist

/-- When ties came in order, a sort by the first key is the ranking. -/
theorem sortBy_eq_sortBy_byBoth {key : α → κ} {tie : α → ν} {l : List α}
    (h : l.Pairwise fun a b => key a = key b → tie a < tie b) :
    sortBy key l = sortBy (byBoth key tie) l := by
  have hsorted : (sortBy key l).Pairwise fun a b => byBoth key tie a < byBoth key tie b := by
    refine ((pairwise_sortBy key l).and (pairwise_sortBy_of_pairwise h)).imp ?_
    rintro a b ⟨hle, htie⟩
    rcases hle.lt_or_eq with hlt | heq
    · exact Prod.Lex.toLex_lt_toLex.mpr (.inl hlt)
    · exact Prod.Lex.toLex_lt_toLex.mpr (.inr ⟨heq, htie heq⟩)
  have hperm : (sortBy key l).Perm (sortBy (byBoth key tie) l) :=
    (sortBy_perm key l).trans (sortBy_perm _ l).symm
  have hdistinct : ((sortBy key l).map (byBoth key tie)).Nodup :=
    (List.pairwise_map.mpr hsorted).imp ne_of_lt
  have hle : (sortBy key l).Pairwise fun a b => byBoth key tie a ≤ byBoth key tie b :=
    hsorted.imp le_of_lt
  refine hperm.eq_of_pairwise (fun a b ha hb hab hba => ?_) hle (pairwise_sortBy _ l)
  exact List.inj_on_of_nodup_map hdistinct ha (hperm.mem_iff.mpr hb) (le_antisymm hab hba)

/-- The ranking of elements with distinct second keys is strict. -/
theorem pairwise_sortBy_byBoth_lt {key : α → κ} {tie : α → ν} {l : List α}
    (hties : (l.map tie).Nodup) :
    (sortBy (byBoth key tie) l).Pairwise fun a b => byBoth key tie a < byBoth key tie b := by
  have hdistinct : ((sortBy (byBoth key tie) l).map tie).Nodup :=
    ((sortBy_perm _ l).map tie).nodup_iff.mpr hties
  refine ((pairwise_sortBy _ l).and (List.pairwise_map.mp hdistinct)).imp ?_
  rintro a b ⟨hle, hne⟩
  refine lt_of_le_of_ne hle fun heq => hne ?_
  exact (Prod.mk.inj (toLex.injective heq)).2

/-- The rank of an element does not depend on the order of the list. -/
theorem rank_eq_of_perm {key : α → κ} {l l' : List α} (hp : l.Perm l') (a : α) :
    rank key l a = rank key l' a :=
  hp.countP_eq _

/-- The first `n` of a ranking are the ranked elements with a rank below `n`. -/
theorem take_sortBy_byBoth {key : α → κ} {tie : α → ν} {l : List α} (hties : (l.map tie).Nodup)
    (n : ℕ) :
    (sortBy (byBoth key tie) l).take n =
      sortBy (byBoth key tie) (l.filter fun a => rank (byBoth key tie) l a < n) := by
  have hstrict := @pairwise_sortBy_byBoth_lt _ _ _ _ _ key _ _ hties
  rw [@take_eq_filter_of_pairwise_lt _ _ _ (byBoth key tie) _ hstrict, filter_sortBy]
  congr 1
  refine List.filter_congr fun a _ => ?_
  rw [rank_eq_of_perm (sortBy_perm _ l)]

/-! ### The first few of a sort -/

variable {key : α → κ} {tie : α → ν} {l : List α} {p : α → Bool} {n : ℕ}

/-- When some of the elements give the first few of the ranking, all of these pass, and those that
tie came in order. -/
theorem of_take_sortBy_filter (hties : (l.map tie).Nodup)
    (h : (sortBy key (l.filter p)).take n = (sortBy (byBoth key tie) l).take n) {a : α}
    (ha : a ∈ l) (hrank : rank (byBoth key tie) l a < n) :
    p a = true ∧ ∀ b, [b, a].Sublist l → p b = true → key b = key a → tie b < tie a := by
  have hstrict := @pairwise_sortBy_byBoth_lt _ _ _ _ _ key _ _ hties
  have hmem : a ∈ (sortBy key (l.filter p)).take n := by
    rw [h, take_sortBy_byBoth hties, mem_sortBy, List.mem_filter]
    exact ⟨ha, by simpa using hrank⟩
  have hpass : p a = true :=
    (List.mem_filter.mp (mem_sortBy.mp (List.mem_of_mem_take hmem))).2
  refine ⟨hpass, fun b hsub hpb htie => ?_⟩
  have hnodup : (sortBy key (l.filter p)).Nodup :=
    (sortBy_perm _ _).nodup_iff.mpr ((List.Nodup.of_map tie hties).filter p)
  have htake := pair_sublist_take hnodup
    (pair_sublist_sortBy htie (pair_sublist_filter hpb hpass hsub)) hmem
  rw [h] at htake
  have hlt := List.pairwise_iff_forall_sublist.mp hstrict (htake.trans (List.take_sublist _ _))
  rcases Prod.Lex.toLex_lt_toLex.mp hlt with hkey | ⟨-, hlt⟩
  · exact absurd htie (ne_of_lt hkey)
  · exact hlt

/-- When the first few of the ranking pass and those that tie came in order, sorting the elements
that pass gives the same. -/
theorem take_sortBy_filter_of (hties : (l.map tie).Nodup)
    (h : ∀ a ∈ l, rank (byBoth key tie) l a < n →
      p a = true ∧ ∀ b, [b, a].Sublist l → p b = true → key b = key a → tie b < tie a) :
    (sortBy key (l.filter p)).take n = (sortBy (byBoth key tie) l).take n := by
  set q : α → Bool := fun a => rank (byBoth key tie) l a < n with hq
  have hqp : (l.filter p).filter q = l.filter q := by
    rw [List.filter_filter]
    refine List.filter_congr fun a ha => ?_
    cases hqa : q a with
    | false => exact Bool.false_and _
    | true =>
        rw [(h a ha (by simpa [hq] using hqa)).1]
        rfl
  have hinorder : (l.filter q).Pairwise fun a b => key a = key b → tie a < tie b := by
    rw [List.pairwise_iff_forall_sublist]
    intro a b hsub htie
    have hall := hsub.subset
    have hqa := (List.mem_filter.mp (hall List.mem_cons_self))
    have hqb := (List.mem_filter.mp (hall (List.mem_cons_of_mem _ List.mem_cons_self)))
    refine (h b hqb.1 (by simpa [hq] using hqb.2)).2 a (hsub.trans List.filter_sublist) ?_ htie
    exact (h a hqa.1 (by simpa [hq] using hqa.2)).1
  have hprefix : (sortBy key (l.filter p)).Pairwise fun a b => q b = true → q a = true := by
    have hcame : (l.filter p).Pairwise fun a b => key a = key b → q b = true → tie a < tie b := by
      rw [List.pairwise_iff_forall_sublist]
      intro a b hsub htie hqb
      have hmem := List.mem_filter.mp (hsub.subset List.mem_cons_self)
      have hmemb := List.mem_filter.mp (hsub.subset (List.mem_cons_of_mem _ List.mem_cons_self))
      exact (h b hmemb.1 (by simpa [hq] using hqb)).2 a (hsub.trans List.filter_sublist)
        hmem.2 htie
    refine ((pairwise_sortBy key _).and (pairwise_sortBy_of_pairwise hcame)).imp ?_
    rintro a b ⟨hle, htie⟩ hqb
    have hlt : byBoth key tie a < byBoth key tie b := by
      rcases hle.lt_or_eq with hlt | heq
      · exact Prod.Lex.toLex_lt_toLex.mpr (.inl hlt)
      · exact Prod.Lex.toLex_lt_toLex.mpr (.inr ⟨heq, htie heq hqb⟩)
    have hrank : rank (byBoth key tie) l a ≤ rank (byBoth key tie) l b := by
      refine List.countP_mono_left fun c _ hc => ?_
      rw [decide_eq_true_eq] at hc ⊢
      exact hc.trans hlt
    have hqb' : rank (byBoth key tie) l b < n := by simpa [hq] using hqb
    simpa [hq] using lt_of_le_of_lt hrank hqb'
  have hsame : (sortBy key (l.filter p)).filter q = (sortBy (byBoth key tie) l).take n := by
    rw [filter_sortBy, hqp, sortBy_eq_sortBy_byBoth hinorder, take_sortBy_byBoth hties]
  rw [← hsame, filter_eq_take_of_pairwise hprefix]
  have hcount : (sortBy key (l.filter p)).countP q = min n l.length := by
    rw [List.countP_eq_length_filter, hsame, List.length_take, (sortBy_perm _ l).length_eq]
  have hlength : (sortBy key (l.filter p)).length ≤ l.length := by
    rw [(sortBy_perm _ _).length_eq]
    exact List.length_filter_le _ _
  rw [hcount]
  rcases Nat.le_total n l.length with hle | hle
  · rw [Nat.min_eq_left hle]
  · rw [Nat.min_eq_right hle, List.take_of_length_le (hlength.trans hle),
      List.take_of_length_le hlength]

/-- **Sorting the elements that pass gives the first few of the ranking** exactly when each of these
passes and comes after those it loses a tie to. -/
theorem take_sortBy_filter_iff (hties : (l.map tie).Nodup) :
    (sortBy key (l.filter p)).take n = (sortBy (byBoth key tie) l).take n ↔
      ∀ a ∈ l, rank (byBoth key tie) l a < n →
        p a = true ∧ ∀ b, [b, a].Sublist l → p b = true → key b = key a → tie b < tie a :=
  ⟨fun h _ => of_take_sortBy_filter hties h, take_sortBy_filter_of hties⟩

/-! ### The first of a kind -/

/-- The first of a kind in a ranking comes before all others of the kind. -/
theorem find?_eq_some_iff_of_pairwise_lt {key : α → κ} {p : α → Bool} {l : List α} {a : α}
    (h : l.Pairwise fun a b => key a < key b) :
    l.find? p = some a ↔ a ∈ l ∧ p a = true ∧ ∀ b ∈ l, key b < key a → p b = false := by
  induction l with
  | nil => simp
  | cons c rest ih =>
      obtain ⟨hhead, hrest⟩ := List.pairwise_cons.mp h
      cases hc : p c with
      | true =>
          rw [List.find?_cons_of_pos hc, Option.some.injEq]
          constructor
          · rintro rfl
            refine ⟨List.mem_cons_self, hc, fun b hb hlt => absurd hlt ?_⟩
            rcases List.mem_cons.mp hb with rfl | hb
            · exact lt_irrefl _
            · exact (hhead b hb).le.not_gt
          · rintro ⟨ha, -, hfirst⟩
            rcases List.mem_cons.mp ha with rfl | ha
            · rfl
            · rw [hfirst c List.mem_cons_self (hhead a ha)] at hc
              cases hc
      | false =>
          rw [List.find?_cons_of_neg (by simp [hc]), ih hrest]
          constructor
          · rintro ⟨ha, hpa, hfirst⟩
            exact ⟨List.mem_cons_of_mem _ ha, hpa, List.forall_mem_cons.mpr ⟨fun _ => hc, hfirst⟩⟩
          · rintro ⟨ha, hpa, hfirst⟩
            rcases List.mem_cons.mp ha with rfl | ha
            · rw [hc] at hpa
              cases hpa
            · exact ⟨ha, hpa, fun b hb => hfirst b (List.mem_cons_of_mem _ hb)⟩

/-- **The first of a kind among the first few**: fewer come before it, and none of its kind. -/
theorem find?_take_sortBy_eq_some_iff {key : α → κ} {p : α → Bool} {l : List α} {n : ℕ} {a : α}
    (hkey : l.Pairwise fun a b => key a ≠ key b) :
    ((sortBy key l).take n).find? p = some a ↔
      a ∈ l ∧ p a = true ∧ rank key l a < n ∧ ∀ b ∈ l, key b < key a → p b = false := by
  have hne : (sortBy key l).Pairwise fun a b => key a ≠ key b :=
    (sortBy_perm key l).symm.pairwise hkey Ne.symm
  have hlt : (sortBy key l).Pairwise fun a b => key a < key b :=
    (pairwise_sortBy key l).imp₂ (fun _ _ hle hne => lt_of_le_of_ne hle hne) hne
  have hrank : ∀ b, rank key (sortBy key l) b = rank key l b := fun b =>
    (sortBy_perm key l).countP_eq _
  rw [take_eq_filter_of_pairwise_lt hlt, List.find?_filter, find?_eq_some_iff_of_pairwise_lt hlt]
  simp only [mem_sortBy, hrank, decide_eq_true_eq, decide_eq_false_iff_not, not_and,
    Bool.not_eq_true]
  constructor
  · rintro ⟨ha, ⟨hn, hpa⟩, hfirst⟩
    refine ⟨ha, hpa, hn, fun b hb hlt => hfirst b hb hlt ?_⟩
    refine lt_of_le_of_lt (List.countP_mono_left fun c _ hc => ?_) hn
    rw [decide_eq_true_eq] at hc ⊢
    exact hc.trans hlt
  · rintro ⟨ha, hpa, hn, hfirst⟩
    exact ⟨ha, ⟨hn, hpa⟩, fun b hb hlt _ => hfirst b hb hlt⟩

end StabilityPlatform.Lib
