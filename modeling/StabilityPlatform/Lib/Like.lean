import Mathlib

/-!
# LIKE patterns

The patterns of SQL's `LIKE` with a backslash as escape character: `%` stands for any characters,
`_` for one character, and every other character, or an escaped one, for itself.

## Main results

* `matches_any_iff`, `matches_literal_iff`: what a pattern matches, part by part.
* `parse_escape_append`: **an escaped text stands for itself**.
-/

namespace StabilityPlatform.Lib.Like

/-- A part of a pattern. -/
inductive Part where
  /-- `%`: any characters. -/
  | any
  /-- `_`: one character. -/
  | one
  /-- A character that stands for itself. -/
  | char (c : Char)
  deriving DecidableEq

/-- The parts of a pattern; a backslash escapes the next character. -/
def parse : List Char → List Part
  | [] => []
  | '\\' :: c :: rest => .char c :: parse rest
  | c :: rest =>
    (if c = '%' then .any else if c = '_' then .one else .char c) :: parse rest

/-- Whether a text matches the parts. -/
def matchesParts : List Part → List Char → Bool
  | [], s => s.isEmpty
  | .any :: p, s => s.tails.any (matchesParts p)
  | .one :: _, [] => false
  | .one :: p, _ :: s => matchesParts p s
  | .char _ :: _, [] => false
  | .char c :: p, d :: s => c == d && matchesParts p s

/-- `text LIKE pattern ESCAPE '\'`. -/
def like (text pattern : String) : Bool := matchesParts (parse pattern.toList) text.toList

/-- A text in which every special character is escaped. -/
def escape (s : List Char) : List Char :=
  s.flatMap fun c => if c = '\\' ∨ c = '%' ∨ c = '_' then ['\\', c] else [c]

/-- Any characters, and then what the other parts match. -/
theorem matches_any_iff {p : List Part} {s : List Char} :
    matchesParts (.any :: p) s = true ↔ ∃ a b, s = a ++ b ∧ matchesParts p b = true := by
  rw [matchesParts, List.any_eq_true]
  constructor
  · rintro ⟨b, hb, hmatch⟩
    obtain ⟨a, rfl⟩ := (List.mem_tails _ _).mp hb
    exact ⟨a, b, rfl, hmatch⟩
  · rintro ⟨a, b, rfl, hmatch⟩
    exact ⟨b, (List.mem_tails _ _).mpr ⟨a, rfl⟩, hmatch⟩

/-- Characters that stand for themselves, and then what the other parts match. -/
theorem matches_literal_iff {w : List Char} {p : List Part} : ∀ {s : List Char},
    matchesParts (w.map .char ++ p) s = true ↔ ∃ b, s = w ++ b ∧ matchesParts p b = true := by
  induction w with
  | nil =>
      intro s
      simp
  | cons c w ih =>
      intro s
      cases s with
      | nil => simp [matchesParts]
      | cons d s =>
          rw [List.map_cons, List.cons_append, matchesParts, Bool.and_eq_true, ih, beq_iff_eq]
          constructor
          · rintro ⟨rfl, b, rfl, hmatch⟩
            exact ⟨b, rfl, hmatch⟩
          · rintro ⟨b, h, hmatch⟩
            rw [List.cons_append, List.cons.injEq] at h
            exact ⟨h.1.symm, b, h.2, hmatch⟩

/-- Nothing more. -/
theorem matches_nil_iff {s : List Char} : matchesParts [] s = true ↔ s = [] := by
  rw [matchesParts, List.isEmpty_iff]

/-- A character that is not special stands for itself. -/
theorem parse_cons_of_plain {c : Char} (hback : c ≠ '\\') (hany : c ≠ '%') (hone : c ≠ '_')
    (rest : List Char) : parse (c :: rest) = .char c :: parse rest := by
  rw [parse.eq_def]
  simp [hback, hany, hone]

/-- **An escaped text stands for itself.** -/
theorem parse_escape_append (s rest : List Char) :
    parse (escape s ++ rest) = s.map .char ++ parse rest := by
  induction s with
  | nil => rfl
  | cons c s ih =>
      rw [escape, List.flatMap_cons, List.append_assoc, ← escape]
      split
      · rw [List.cons_append, List.cons_append, List.nil_append, parse, ih]
        rfl
      · next h =>
          rw [not_or, not_or] at h
          rw [List.singleton_append, parse_cons_of_plain h.1 h.2.1 h.2.2, ih]
          rfl

end StabilityPlatform.Lib.Like
