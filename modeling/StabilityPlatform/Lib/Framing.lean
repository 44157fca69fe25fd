import Mathlib

/-!
# Texts framed by their lengths

A text written after its own length in decimal digits and a mark, so that what it contains can
never be taken for the end of it. Texts framed one after another are a self-delimiting code: the
first frame of a text determines what it frames and what comes after it.

## Main results

* `append_cons_inj`: where a mark first occurs.
* `frame_append_inj`: **the first frame** determines its content and the rest.
* `frames_inj`: **texts framed in a row** are determined by the whole.
-/

namespace StabilityPlatform.Lib

/-- What stands before the first occurrence of a mark, and what after it. -/
theorem append_cons_inj {α : Type*} {mark : α} : ∀ {xs ys rest rest' : List α}, mark ∉ xs →
    mark ∉ ys → xs ++ mark :: rest = ys ++ mark :: rest' → xs = ys ∧ rest = rest'
  | [], [], _, _, _, _, h => ⟨rfl, (List.cons.inj h).2⟩
  | [], y :: ys, _, _, _, hy, h =>
      absurd (List.mem_cons.mpr (.inl (List.cons.inj h).1)) hy
  | x :: xs, [], _, _, hx, _, h =>
      absurd (List.mem_cons.mpr (.inl (List.cons.inj h).1.symm)) hx
  | x :: xs, y :: ys, _, _, hx, hy, h => by
      rw [List.mem_cons, not_or] at hx hy
      rw [List.cons_append, List.cons_append, List.cons.injEq] at h
      obtain ⟨htail, hrest⟩ := append_cons_inj hx.2 hy.2 h.2
      exact ⟨by rw [h.1, htail], hrest⟩

/-- The decimal digits of a number. -/
def decimals (n : ℕ) : List Char := Nat.toDigits 10 n

/-- The digits determine the number. -/
theorem decimals_injective : Function.Injective decimals := fun m n h => by
  have hread := congrArg (Nat.ofDigitChars 10 · 0) h
  rwa [decimals, decimals, Nat.ofDigitChars_ten_toDigits, Nat.ofDigitChars_ten_toDigits] at hread

/-- What is no digit is none of the digits of a number. -/
theorem notMem_decimals {mark : Char} (h : mark.isDigit = false) (n : ℕ) :
    mark ∉ decimals n := fun hmem => by
  rw [Nat.isDigit_of_mem_toDigits (by decide) (by decide) hmem] at h
  cases h

/-- A text after its length. -/
def frame (mark : Char) (text : List Char) : List Char :=
  decimals text.length ++ mark :: text

/-- **The first frame** determines what it frames and what comes after it. -/
theorem frame_append_inj {mark : Char} (hmark : mark.isDigit = false)
    {text text' rest rest' : List Char} (h : frame mark text ++ rest = frame mark text' ++ rest') :
    text = text' ∧ rest = rest' := by
  rw [frame, frame, List.append_assoc, List.append_assoc, List.cons_append, List.cons_append] at h
  obtain ⟨hlength, htail⟩ :=
    append_cons_inj (notMem_decimals hmark _) (notMem_decimals hmark _) h
  exact List.append_inj htail (decimals_injective hlength)

/-- A frame is never empty. -/
theorem frame_ne_nil (mark : Char) (text : List Char) : frame mark text ≠ [] := by
  rw [frame]
  exact List.append_ne_nil_of_right_ne_nil _ (List.cons_ne_nil _ _)

/-- **Texts framed in a row** are determined by the whole. -/
theorem frames_inj {mark : Char} (hmark : mark.isDigit = false) {texts texts' : List (List Char)}
    (h : texts.flatMap (frame mark) = texts'.flatMap (frame mark)) : texts = texts' := by
  induction texts generalizing texts' with
  | nil =>
      cases texts' with
      | nil => rfl
      | cons text' texts' =>
          rw [List.flatMap_nil, List.flatMap_cons] at h
          exact absurd (List.append_eq_nil_iff.mp h.symm).1 (frame_ne_nil mark text')
  | cons text texts ih =>
      cases texts' with
      | nil =>
          rw [List.flatMap_nil, List.flatMap_cons] at h
          exact absurd (List.append_eq_nil_iff.mp h).1 (frame_ne_nil mark text)
      | cons text' texts' =>
          rw [List.flatMap_cons, List.flatMap_cons] at h
          obtain ⟨rfl, hrest⟩ := frame_append_inj hmark h
          rw [ih hrest]

end StabilityPlatform.Lib
