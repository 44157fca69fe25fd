import Mathlib

/-!
# Keeping the preferred candidate

Candidates come one after another, and one is held: the next one takes its place when it is
preferred. The preference looks at two marks and a time: a candidate with the first mark goes before
one without it; otherwise one with the second mark displaces one without it; otherwise a later one
displaces an earlier one. The last rule also applies where the held candidate alone has the second
mark, so that the preference is no order and the result may depend on how the candidates arrive.

## Main results

* `Preference.Best`: the candidates the marks and the time put first.
* `Preference.winner_eq_of_best`: who is held at the end.
* `Preference.winner_perm_iff`: **the result does not depend on the order** exactly when the best
  candidates are the same and no candidate without the second mark is later than all that have it.
-/

namespace StabilityPlatform.Lib

/-- What a preference looks at. -/
structure Preference (α τ : Type*) where
  first : α → Bool
  second : α → Bool
  time : α → τ

namespace Preference

variable {α τ : Type*} [LinearOrder τ] (P : Preference α τ)

/-- Whether a candidate takes the place of the held one. -/
def prefers (candidate held : α) : Bool :=
  if P.first candidate ≠ P.first held then P.first candidate
  else if P.second candidate && !P.second held then true
  else decide (P.time held < P.time candidate)

/-- The next candidate comes. -/
def keep (held : Option α) (candidate : α) : Option α :=
  match held with
  | none => some candidate
  | some e => if P.prefers candidate e then some candidate else some e

/-- Who is held at the end. -/
def winner (l : List α) : Option α := l.foldl P.keep none

/-- A candidate counts when it has the first mark, or none has. -/
def Counts (l : List α) (e : α) : Prop :=
  e ∈ l ∧ (P.first e = true ∨ ∀ x ∈ l, P.first x = false)

/-- The candidates the marks and the time put first. -/
structure Best (l : List α) (e : α) : Prop where
  counts : P.Counts l e
  second : P.second e = true ∨ ∀ x, P.Counts l x → P.second x = false
  latest : ∀ x, P.Counts l x → P.second x = P.second e → P.time x ≤ P.time e

/-- No candidate without the second mark is later than all that have it. -/
def Timely (l : List α) : Prop :=
  ∀ e x, P.Counts l e → P.Counts l x → P.second e = false → P.second x = true →
    ∃ y, P.Counts l y ∧ P.second y = true ∧ P.time e ≤ P.time y

/-- The marks and the time decide. -/
structure Decided (l : List α) : Prop where
  timely : P.Timely l
  unique : ∀ e e', P.Best l e → P.Best l e' → e = e'

variable {P} {l l' : List α}

omit [LinearOrder τ] in
/-- Those that count agree on the first mark. -/
theorem Counts.first_eq {e x : α} (he : P.Counts l e) (hx : P.Counts l x) :
    P.first e = P.first x := by
  rcases he.2 with h | h
  · rcases hx.2 with h' | h'
    · rw [h, h']
    · rw [h' e he.1, h' x hx.1]
  · rw [h e he.1, h x hx.1]

omit [LinearOrder τ] in
/-- One that does not count has no first mark, and those that count have it. -/
theorem Counts.first_of_not {e x : α} (he : P.Counts l e) (hx : x ∈ l) (hnot : ¬ P.Counts l x) :
    P.first e = true ∧ P.first x = false := by
  have hnox : ¬ (P.first x = true ∨ ∀ y ∈ l, P.first y = false) := fun h => hnot ⟨hx, h⟩
  rw [not_or] at hnox
  refine ⟨?_, by simpa using hnox.1⟩
  rcases he.2 with h | h
  · exact h
  · exact absurd h hnox.2

omit [LinearOrder τ] in
/-- What counts does not depend on the order. -/
theorem Counts.perm (hp : l.Perm l') {e : α} (h : P.Counts l e) : P.Counts l' e :=
  ⟨hp.mem_iff.mp h.1, h.2.imp id fun hall x hx => hall x (hp.mem_iff.mpr hx)⟩

/-- What is best does not depend on the order. -/
theorem Best.perm (hp : l.Perm l') {e : α} (h : P.Best l e) : P.Best l' e :=
  ⟨h.counts.perm hp, h.second.imp id fun hall x hx => hall x (hx.perm hp.symm),
    fun x hx => h.latest x (hx.perm hp.symm)⟩

/-- That the candidates are timely does not depend on the order. -/
theorem Timely.perm (hp : l.Perm l') (h : P.Timely l) : P.Timely l' :=
  fun e x he hx hsecond hsecond' => by
    obtain ⟨y, hy, hsecond, htime⟩ := h e x (he.perm hp.symm) (hx.perm hp.symm) hsecond hsecond'
    exact ⟨y, hy.perm hp, hsecond, htime⟩

/-- Among candidates there is a best one. -/
theorem exists_best (hne : l ≠ []) : ∃ e, P.Best l e := by
  have hfinite : {x | x ∈ l}.Finite := List.finite_toSet l
  have hcounts : ∃ e, P.Counts l e := by
    by_cases h : ∃ x ∈ l, P.first x = true
    · obtain ⟨x, hx, hfirst⟩ := h
      exact ⟨x, hx, .inl hfirst⟩
    · obtain ⟨x, hx⟩ := List.exists_mem_of_ne_nil l hne
      exact ⟨x, hx, .inr fun y hy => by simpa using fun hfirst => h ⟨y, hy, hfirst⟩⟩
  obtain ⟨c, hc, hsecond⟩ : ∃ c, P.Counts l c ∧
      (P.second c = true ∨ ∀ x, P.Counts l x → P.second x = false) := by
    by_cases h : ∃ x, P.Counts l x ∧ P.second x = true
    · obtain ⟨x, hx, hmark⟩ := h
      exact ⟨x, hx, .inl hmark⟩
    · obtain ⟨x, hx⟩ := hcounts
      exact ⟨x, hx, .inr fun y hy => by simpa using fun hmark => h ⟨y, hy, hmark⟩⟩
  have hsub : {x | P.Counts l x ∧ P.second x = P.second c}.Finite :=
    hfinite.subset fun x hx => hx.1.1
  obtain ⟨e, ⟨he, hmark⟩, hmax⟩ := Set.exists_max_image _ P.time hsub ⟨c, hc, rfl⟩
  refine ⟨e, he, ?_, fun x hx hxmark => hmax x ⟨hx, hxmark.trans hmark⟩⟩
  rw [hmark]
  exact hsecond

/-- **Nothing is preferred to a best candidate**, as long as the candidates are timely. -/
theorem Best.not_prefers {e c : α} (he : P.Best l e) (htimely : P.Timely l) (hc : c ∈ l) :
    P.prefers c e = false := by
  by_cases hcounts : P.Counts l c
  · rw [prefers, if_neg (not_not.mpr (hcounts.first_eq he.counts))]
    have hno : (P.second c && !P.second e) = false := by
      rcases he.second with h | h
      · rw [h, Bool.not_true, Bool.and_false]
      · rw [h c hcounts, Bool.false_and]
    rw [hno, if_neg Bool.false_ne_true, decide_eq_false_iff_not, not_lt]
    by_cases hsame : P.second c = P.second e
    · exact he.latest c hcounts hsame
    · have hsecond : P.second c = false ∧ P.second e = true := by
        cases hc' : P.second c with
        | false =>
            cases he' : P.second e with
            | false => exact absurd (hc'.trans he'.symm) hsame
            | true => exact ⟨rfl, rfl⟩
        | true =>
            rcases he.second with h | h
            · exact absurd (hc'.trans h.symm) hsame
            · rw [h c hcounts] at hc'
              cases hc'
      obtain ⟨y, hy, hymark, htime⟩ := htimely c e hcounts he.counts hsecond.1 hsecond.2
      exact htime.trans (he.latest y hy (hymark.trans hsecond.2.symm))
  · obtain ⟨hfirst, hnone⟩ := he.counts.first_of_not hc hcounts
    rw [prefers, hfirst, hnone, if_pos Bool.false_ne_true]

/-- A candidate to which nothing is preferred is held to the end. -/
theorem foldl_keep_of_not_prefers {e : α} {rest : List α}
    (h : ∀ c ∈ rest, P.prefers c e = false) : rest.foldl P.keep (some e) = some e := by
  induction rest with
  | nil => rfl
  | cons c rest ih =>
      rw [List.forall_mem_cons] at h
      rw [List.foldl_cons, keep, h.1, if_neg Bool.false_ne_true, ih h.2]

/-- Who is held is one of the candidates. -/
theorem mem_of_foldl_keep {held : Option α} {rest : List α} {e : α}
    (h : rest.foldl P.keep held = some e) : e ∈ rest ∨ held = some e := by
  induction rest generalizing held with
  | nil => exact .inr h
  | cons c rest ih =>
      rw [List.foldl_cons] at h
      rcases ih h with hmem | hheld
      · exact .inl (List.mem_cons_of_mem c hmem)
      · cases held with
        | none =>
            obtain rfl := Option.some.inj hheld
            exact .inl (List.mem_cons_self ..)
        | some e' =>
            rw [keep] at hheld
            split at hheld
            · obtain rfl := Option.some.inj hheld
              exact .inl (List.mem_cons_self ..)
            · exact .inr hheld

/-- **A best candidate that comes first** is held at the end. -/
theorem winner_cons_of_best {e : α} {rest : List α} (he : P.Best (e :: rest) e)
    (htimely : P.Timely (e :: rest)) : P.winner (e :: rest) = some e :=
  foldl_keep_of_not_prefers fun _ hc => he.not_prefers htimely (List.mem_cons_of_mem e hc)

/-- A best candidate is preferred to any other one that is not best. -/
theorem Best.prefers_or_best {e c : α} (he : P.Best l e) (hc : c ∈ l) :
    P.prefers e c = true ∨ P.Best l c := by
  by_cases hcounts : P.Counts l c
  · rw [prefers, if_neg (not_not.mpr (he.counts.first_eq hcounts))]
    cases hdisplaces : P.second e && !P.second c with
    | true => exact .inl (if_pos rfl)
    | false =>
        rw [if_neg Bool.false_ne_true, decide_eq_true_eq]
        have hsame : P.second c = P.second e := by
          rcases he.second with h | h
          · rw [h, Bool.true_and] at hdisplaces
            rw [h]
            simpa using hdisplaces
          · rw [h c hcounts, h e he.counts]
        rcases lt_or_ge (P.time c) (P.time e) with hlt | hge
        · exact .inl hlt
        · refine .inr ⟨hcounts, ?_, fun x hx hmark =>
            (he.latest x hx (hmark.trans hsame)).trans hge⟩
          rw [hsame]
          exact he.second
  · obtain ⟨hfirst, hnone⟩ := he.counts.first_of_not hc hcounts
    refine .inl ?_
    rw [prefers, hfirst, hnone, if_pos (Ne.symm Bool.false_ne_true)]

/-- **Who is held at the end**, when the marks and the time decide. -/
theorem winner_eq_of_best (hdecided : P.Decided l) {e : α} (he : P.Best l e) :
    P.winner l = some e := by
  obtain ⟨before, rest, hl⟩ := List.append_of_mem he.counts.1
  have hafter : ∀ held, (∀ x ∈ held, x ∈ l) → P.keep held e = some e := by
    intro held hheld
    cases held with
    | none => rfl
    | some x =>
        rw [keep]
        rcases he.prefers_or_best (hheld x rfl) with h | h
        · rw [if_pos h]
        · rw [hdecided.unique x e h he, ite_self]
  have hrest : rest.foldl P.keep (some e) = some e :=
    foldl_keep_of_not_prefers fun c hc => he.not_prefers hdecided.timely
      (hl ▸ List.mem_append_right before (List.mem_cons_of_mem e hc))
  have hheld : ∀ x ∈ before.foldl P.keep none, x ∈ l := by
    intro x hx
    rcases mem_of_foldl_keep hx with hmem | hnone
    · exact hl ▸ List.mem_append_left _ hmem
    · cases hnone
  rw [winner, hl, List.foldl_append, List.foldl_cons, hafter _ hheld, hrest]

/-- Who is held when the last candidate comes. -/
theorem winner_append_singleton (rest : List α) (e : α) :
    P.winner (rest ++ [e]) = P.keep (P.winner rest) e := by
  rw [winner, List.foldl_append, List.foldl_cons, List.foldl_nil, winner]

/-- A candidate can come last. -/
theorem exists_perm_last {e : α} (he : e ∈ l) : ∃ rest, (rest ++ [e]).Perm l := by
  obtain ⟨before, rest, rfl⟩ := List.append_of_mem he
  exact ⟨before ++ rest, by
    rw [List.append_assoc]
    exact (List.perm_append_comm.trans (by rfl)).append_left before⟩

/-- If the order does not matter, the candidates are timely. -/
theorem timely_of_perm (h : ∀ l', l'.Perm l → P.winner l' = P.winner l) : P.Timely l := by
  intro e x he hx hnone hmark
  by_contra hlate
  have hlater : ∀ y, P.Counts l y → P.second y = true → P.time y < P.time e := fun y hy hymark => by
    by_contra hle
    exact hlate ⟨y, hy, hymark, not_lt.mp hle⟩
  -- a candidate without the mark that comes last
  obtain ⟨rest, hrest⟩ := exists_perm_last he.1
  obtain ⟨u, hu, humark⟩ : ∃ u, P.winner (rest ++ [e]) = some u ∧ P.second u = false := by
    rw [winner_append_singleton]
    cases hheld : P.winner rest with
    | none => exact ⟨e, rfl, hnone⟩
    | some w =>
        have hw : w ∈ l := by
          rcases mem_of_foldl_keep hheld with hmem | hnil
          · exact hrest.mem_iff.mp (List.mem_append_left _ hmem)
          · cases hnil
        rw [keep]
        cases hprefers : P.prefers e w with
        | true => exact ⟨e, if_pos rfl, hnone⟩
        | false =>
            refine ⟨w, if_neg Bool.false_ne_true, ?_⟩
            by_contra hwmark
            rw [Bool.not_eq_false] at hwmark
            by_cases hcounts : P.Counts l w
            · rw [prefers, if_neg (not_not.mpr (he.first_eq hcounts)), hnone, Bool.false_and,
                if_neg Bool.false_ne_true, decide_eq_false_iff_not] at hprefers
              exact hprefers (hlater w hcounts hwmark)
            · obtain ⟨hfirst, hfirstw⟩ := he.first_of_not hw hcounts
              rw [prefers, hfirst, hfirstw, if_pos (Ne.symm Bool.false_ne_true)] at hprefers
              cases hprefers
  -- one with the mark that comes last
  obtain ⟨rest', hrest'⟩ := exists_perm_last hx.1
  obtain ⟨k, hk, hkmark⟩ : ∃ k, P.winner (rest' ++ [x]) = some k ∧ P.second k = true := by
    rw [winner_append_singleton]
    cases hheld : P.winner rest' with
    | none => exact ⟨x, rfl, hmark⟩
    | some w =>
        have hw : w ∈ l := by
          rcases mem_of_foldl_keep hheld with hmem | hnil
          · exact hrest'.mem_iff.mp (List.mem_append_left _ hmem)
          · cases hnil
        rw [keep]
        cases hprefers : P.prefers x w with
        | true => exact ⟨x, if_pos rfl, hmark⟩
        | false =>
            refine ⟨w, if_neg Bool.false_ne_true, ?_⟩
            by_contra hwmark
            rw [Bool.not_eq_true] at hwmark
            by_cases hcounts : P.Counts l w
            · rw [prefers, if_neg (not_not.mpr (hx.first_eq hcounts)), hmark, hwmark,
                Bool.not_false, Bool.and_self, if_pos rfl] at hprefers
              cases hprefers
            · obtain ⟨hfirst, hfirstw⟩ := hx.first_of_not hw hcounts
              rw [prefers, hfirst, hfirstw, if_pos (Ne.symm Bool.false_ne_true)] at hprefers
              cases hprefers
  have heq := (h _ hrest).trans (h _ hrest').symm
  rw [hu, hk, Option.some.injEq] at heq
  rw [heq, hkmark] at humark
  cases humark

/-- **The result does not depend on the order** of the candidates exactly when the marks and the
time decide. -/
theorem winner_perm_iff :
    (∀ l', l'.Perm l → P.winner l' = P.winner l) ↔ P.Decided l := by
  constructor
  · intro h
    have htimely := timely_of_perm h
    have hwinner : ∀ e, P.Best l e → P.winner l = some e := by
      intro e he
      obtain ⟨before, rest, hl⟩ := List.append_of_mem he.counts.1
      have hperm : (e :: (before ++ rest)).Perm l := by
        rw [hl]
        exact List.perm_middle.symm
      rw [← h _ hperm]
      exact winner_cons_of_best (he.perm hperm.symm) (htimely.perm hperm.symm)
    exact ⟨htimely, fun e e' he he' =>
      Option.some.inj ((hwinner e he).symm.trans (hwinner e' he'))⟩
  · intro hdecided l' hperm
    cases l with
    | nil => rw [List.perm_nil.mp hperm]
    | cons x l =>
        obtain ⟨e, he⟩ := @exists_best α τ _ P (x :: l) (List.cons_ne_nil x l)
        have hdecided' : P.Decided l' := ⟨hdecided.timely.perm hperm.symm, fun e e' he he' =>
          hdecided.unique e e' (he.perm hperm) (he'.perm hperm)⟩
        rw [winner_eq_of_best hdecided he, winner_eq_of_best hdecided' (he.perm hperm.symm)]

end Preference

end StabilityPlatform.Lib
