import StabilityPlatform.Lib.Decoding
import StabilityPlatform.Lib.TextLines

/-!
# The log of a console run

What a command writes is kept in a file, a line each, from which a viewer is given what it has
missed: a page of lines from a number on, each cut to a bound. The file is written a flush at a time
and may be read in the middle of one, so that its last line may be half of a line.

## Main results

* `logBytes`: what is in the file when nothing is being written.
* `readLog`: a page.
* `shownLines_append`: **lines that are complete are shown** as they are, whatever comes after them.
* `Segment`: lines from a place of the run on, each of them complete up to the bound.
* `readLog_right`: **a page is a segment** when what the file shows is.
-/

namespace StabilityPlatform.LiveConsole

open Lib

/-- A line that a command has written, without its end; there is no other newline in it. -/
structure LogLine where
  text : List Char
  no_newline : '\n' ∉ text
  no_return : '\r' ∉ text
  deriving DecidableEq

/-- The bounds of a page. -/
structure ReplayConfig where
  /-- `_replay_max_lines`. -/
  maxLines : ℕ
  /-- `_replay_max_line_chars`. -/
  maxLineChars : ℕ

/-! ### The file -/

/-- Lines as `flush` writes them. -/
def logText (lines : List LogLine) : List Char := lines.flatMap fun line => line.text ++ ['\n']

/-- Their bytes. -/
def logBytes (lines : List LogLine) : List UInt8 := (logText lines).flatMap String.utf8EncodeChar

/-- A line up to the bound. -/
def LogLine.cut (cfg : ReplayConfig) (line : LogLine) : List Char :=
  line.text.take cfg.maxLineChars

/-- The lines of a file, as they are shown. -/
def shownLines (cfg : ReplayConfig) (file : List UInt8) : List (List Char) :=
  (textLines (universalNewlines (utf8Decoder.decode file))).map fun line =>
    (line.rdropWhile (· = '\n')).take cfg.maxLineChars

/-- No lines, no bytes. -/
@[simp] theorem logBytes_nil : logBytes [] = [] := rfl

/-- Some lines are written after others. -/
theorem logBytes_append (lines lines' : List LogLine) :
    logBytes (lines ++ lines') = logBytes lines ++ logBytes lines' := by
  rw [logBytes, logText, List.flatMap_append, List.flatMap_append]
  rfl

/-- There are no carriage returns in a file. -/
theorem return_not_mem_logText (lines : List LogLine) : '\r' ∉ logText lines := by
  rw [logText, List.mem_flatMap]
  rintro ⟨line, -, hmem⟩
  cases List.mem_append.mp hmem with
  | inl htext => exact line.no_return htext
  | inr hend => exact absurd (List.mem_singleton.mp hend) (by decide)

/-- The lines of a file that starts with complete lines. -/
theorem textLines_logText_append (lines : List LogLine) (rest : List Char) :
    textLines (logText lines ++ rest) =
      (lines.map fun line => line.text ++ ['\n']) ++ textLines rest := by
  induction lines with
  | nil => rfl
  | cons line lines ih =>
      have hcons : logText (line :: lines) ++ rest =
          line.text ++ '\n' :: (logText lines ++ rest) := by
        rw [logText, List.flatMap_cons, List.append_assoc, List.append_assoc]
        rfl
      rw [hcons, textLines_line line.no_newline, ih, List.map_cons, List.cons_append]

/-- A line without its end. -/
theorem rdropWhile_newline (line : LogLine) :
    (line.text ++ ['\n']).rdropWhile (· = '\n') = line.text := by
  rw [List.rdropWhile_concat_pos _ _ _ (by decide), List.rdropWhile_eq_self_iff]
  intro hne hlast
  exact line.no_newline (of_decide_eq_true hlast ▸ List.getLast_mem hne)

/-- **Lines that are complete are shown** as they are, whatever comes after them. -/
theorem shownLines_append (cfg : ReplayConfig) (lines : List LogLine) (rest : List UInt8) :
    shownLines cfg (logBytes lines ++ rest) =
      lines.map (LogLine.cut cfg) ++ shownLines cfg rest := by
  rw [shownLines, logBytes, utf8Decode_utf8Encode_append,
    universalNewlines_append_of_not_mem (return_not_mem_logText lines), textLines_logText_append,
    List.map_append, List.map_map]
  refine congrArg (· ++ _) (List.map_congr_left fun line _ => ?_)
  rw [Function.comp_apply, rdropWhile_newline]
  rfl

/-! ### Pages -/

/-- What an instance sees of a run when it is asked for a page. -/
structure LogView where
  file : Option (List UInt8)
  ownerSeq : ℕ
  status : String

/-- A page. -/
structure Replay where
  fromSeq : ℕ
  lines : List (List Char)
  seq : ℕ
  totalSeq : ℕ
  truncated : Bool
  replayUnavailable : Bool
  status : String
  deriving DecidableEq

/-- `read_log`. -/
def readLog (cfg : ReplayConfig) (view : LogView) (fromSeq : ℕ) : Replay :=
  let start := fromSeq - 1
  match view.file with
  | none =>
    { fromSeq := fromSeq
      lines := []
      seq := start
      totalSeq := view.ownerSeq
      truncated := false
      replayUnavailable := start < view.ownerSeq
      status := view.status }
  | some file =>
    let shown := shownLines cfg file
    let lines := (shown.drop start).take cfg.maxLines
    { fromSeq := start + 1
      lines := lines
      seq := start + lines.length
      totalSeq := max shown.length view.ownerSeq
      truncated := start + lines.length < shown.length
      replayUnavailable := shown.length < view.ownerSeq
      status := view.status }

/-- What is shown of a line is complete up to the bound. -/
def Complete (cfg : ReplayConfig) (line : LogLine) (shown : List Char) : Prop :=
  shown = line.text ∨ shown = line.cut cfg

/-- Whether it is complete can be computed. -/
instance decidableComplete (cfg : ReplayConfig) (line : LogLine) (shown : List Char) :
    Decidable (Complete cfg line shown) :=
  inferInstanceAs (Decidable (_ ∨ _))

/-- **A segment of the run**: its lines from a place on, each complete up to the bound. -/
def Segment (cfg : ReplayConfig) (run : List LogLine) (start : ℕ) (lines : List (List Char)) :
    Prop :=
  ∀ i shown, lines[i]? = some shown → ∃ line, run[start + i]? = some line ∧ Complete cfg line shown

variable {cfg : ReplayConfig}

/-- Nothing is a segment. -/
theorem Segment.nil (run : List LogLine) (start : ℕ) : Segment cfg run start [] := by
  intro i shown hi
  rw [List.getElem?_nil] at hi
  cases hi

/-- A segment stays one while the run goes on. -/
theorem Segment.append {run : List LogLine} {start : ℕ} {lines : List (List Char)}
    (h : Segment cfg run start lines) (more : List LogLine) :
    Segment cfg (run ++ more) start lines := by
  intro i shown hi
  obtain ⟨line, hline, hcomplete⟩ := h i shown hi
  refine ⟨line, ?_, hcomplete⟩
  rw [List.getElem?_append_left (List.getElem?_eq_some_iff.mp hline).1]
  exact hline

/-- **A segment goes on with another one** that starts within it or right after it. -/
theorem Segment.extend {run : List LogLine} {start : ℕ} {lines more : List (List Char)}
    (h : Segment cfg run 0 lines) (hmore : Segment cfg run start more)
    (hstart : start ≤ lines.length) :
    Segment cfg run 0 (lines ++ more.drop (lines.length - start)) := by
  intro i shown hi
  by_cases hlt : i < lines.length
  · rw [List.getElem?_append_left hlt] at hi
    exact h i shown hi
  · push Not at hlt
    rw [List.getElem?_append_right hlt, List.getElem?_drop] at hi
    have hmem := hmore _ shown hi
    rwa [show start + (lines.length - start + (i - lines.length)) = 0 + i by omega] at hmem

/-- The texts of some lines are a segment. -/
theorem segment_map_text {run batch rest : List LogLine} {start : ℕ}
    (h : run.drop start = batch ++ rest) : Segment cfg run start (batch.map LogLine.text) := by
  intro i shown hi
  rw [List.getElem?_map, Option.map_eq_some_iff] at hi
  obtain ⟨line, hline, rfl⟩ := hi
  refine ⟨line, ?_, Or.inl rfl⟩
  rw [← List.getElem?_drop, h, List.getElem?_append_left (List.getElem?_eq_some_iff.mp hline).1]
  exact hline

/-- **A page is a segment** when what the file shows is an initial segment of the lines of the run,
each cut to the bound. -/
theorem readLog_right {run : List LogLine} {view : LogView}
    (h : ∀ file ∈ view.file, shownLines cfg file <+: run.map (LogLine.cut cfg)) (fromSeq : ℕ) :
    Segment cfg run (fromSeq - 1) (readLog cfg view fromSeq).lines := by
  rw [readLog]
  cases hfile : view.file with
  | none => exact Segment.nil run _
  | some file =>
      intro i shown hi
      obtain ⟨rest, hrest⟩ := h file hfile
      have hshown : ((shownLines cfg file).drop (fromSeq - 1))[i]? = some shown := by
        rw [List.getElem?_take] at hi
        exact (Option.ite_none_right_eq_some.mp hi).2
      rw [List.getElem?_drop] at hshown
      have hline : (run.map (LogLine.cut cfg))[fromSeq - 1 + i]? = some shown := by
        rw [← hrest, List.getElem?_append_left (List.getElem?_eq_some_iff.mp hshown).1]
        exact hshown
      rw [List.getElem?_map, Option.map_eq_some_iff] at hline
      obtain ⟨line, hget, rfl⟩ := hline
      exact ⟨line, hget, Or.inr rfl⟩

/-- A page ends where its lines end. -/
theorem seq_readLog (view : LogView) (fromSeq : ℕ) :
    (readLog cfg view fromSeq).seq = fromSeq - 1 + (readLog cfg view fromSeq).lines.length := by
  rw [readLog]
  cases view.file with
  | none => rfl
  | some file => rfl

/-- A page with lines starts where it was asked to. -/
theorem fromSeq_readLog {view : LogView} {fromSeq : ℕ}
    (h : (readLog cfg view fromSeq).lines ≠ []) :
    (readLog cfg view fromSeq).fromSeq = fromSeq - 1 + 1 := by
  rw [readLog] at h ⊢
  cases hfile : view.file with
  | none =>
      rw [hfile] at h
      exact absurd rfl h
  | some file => rfl

/-- **A page that is not truncated** goes to the end of the file. -/
theorem length_le_seq_readLog {view : LogView} {file : List UInt8} {fromSeq : ℕ}
    (hfile : view.file = some file) (h : (readLog cfg view fromSeq).truncated = false) :
    (shownLines cfg file).length ≤ (readLog cfg view fromSeq).seq := by
  rw [readLog] at h ⊢
  rw [hfile] at h ⊢
  exact not_lt.mp (of_decide_eq_false h)

end StabilityPlatform.LiveConsole
