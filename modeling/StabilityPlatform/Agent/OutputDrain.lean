import StabilityPlatform.Lib.Decoding
import StabilityPlatform.Lib.TextLines

/-!
# Draining the output of a step

The reader of a pipe decodes what it reads piece by piece and translates the newlines of each
piece by itself, so that a carriage return at the end of a piece and the line feed that starts
the next one become two lines. It never tells its decoder that the stream has ended, so that a
character that was cut off there leaves no replacement character.

## Main results

* `drainPolling`: the lines a reader hands over.
* `drainPolling_eq`: **it hands over** the lines of the pieces with their newlines translated.
* `drainPolling_eq_iff`: **these are the lines of the decoded text** exactly when no piece ends
  between a carriage return and a line feed, and the stream does not end within a character.
-/

namespace StabilityPlatform

open Lib

/-- `_MAX_CAPTURED_CHARS`. -/
def maxCapturedChars : ℕ := 8 * 1024 * 1024

/-- What a turn of the reader comes to. -/
inductive Poll where
  | closed
  | idle
  | blocked
  | failed
  | chunk (bytes : List UInt8)

/-- The newlines of a piece, translated. -/
def translateNewlines (text : List Char) : List Char :=
  replaceAll ['\r'] ['\n'] (replaceAll ['\r', '\n'] ['\n'] text)

/-- What is pending beyond the budget is handed over as a line. -/
def capPending (pending : List Char) : List (List Char) × List Char :=
  if maxCapturedChars < pending.length then
    ([pending.take (maxCapturedChars - 1) ++ ['\n']], pending.drop (maxCapturedChars - 1))
  else ([], pending)

/-- The first line of a text and what comes after it, if a line ends in it. -/
def splitLine : List Char → Option (List Char × List Char)
  | [] => none
  | c :: rest =>
    if c = '\n' then some ([], rest)
    else (splitLine rest).map fun (line, tail) => (c :: line, tail)

/-- A text that is split at the end of its first line. -/
theorem splitLine_eq_some {text line tail : List Char} (h : splitLine text = some (line, tail)) :
    text = line ++ '\n' :: tail ∧ '\n' ∉ line := by
  induction text generalizing line with
  | nil => cases h
  | cons c rest ih =>
      rw [splitLine] at h
      split at h
      · rename_i hc
        cases h
        exact ⟨by rw [hc]; rfl, List.not_mem_nil⟩
      · rename_i hc
        obtain ⟨⟨line', tail'⟩, hrest, heq⟩ := Option.map_eq_some_iff.mp h
        cases heq
        obtain ⟨rfl, hmem⟩ := ih hrest
        exact ⟨rfl, List.not_mem_cons_of_ne_of_not_mem (fun heq => hc heq.symm) hmem⟩

/-- A text in which no line ends. -/
theorem splitLine_eq_none {text : List Char} (h : splitLine text = none) : '\n' ∉ text := by
  induction text with
  | nil => exact List.not_mem_nil
  | cons c rest ih =>
      rw [splitLine] at h
      split at h
      · cases h
      · rename_i hc
        exact List.not_mem_cons_of_ne_of_not_mem (fun heq => hc heq.symm)
          (ih (Option.map_eq_none_iff.mp h))

/-- The lines that end in what is pending, and what stays pending. -/
def drainLines (pending : List Char) : List (List Char) × List Char :=
  match _h : splitLine pending with
  | none => ([], pending)
  | some (line, tail) => ((line ++ ['\n']) :: (drainLines tail).1, (drainLines tail).2)
  termination_by pending.length
  decreasing_by
    all_goals
      obtain ⟨rfl, -⟩ := splitLine_eq_some _h
      rw [List.length_append, List.length_cons]
      omega

section Drain

variable {σ : Type*} (d : IncrementalDecoder σ)

/-- The loop of the reader: the lines handed over, and what is pending at its end. The polls end
where the reader is told to stop. -/
def drainLoop : σ → List Char → List Poll → List (List Char) × List Char
  | _, pending, [] => ([], pending)
  | state, pending, poll :: polls =>
    match poll with
    | .closed => ([], pending)
    | .idle => drainLoop state pending polls
    | .blocked => drainLoop state pending polls
    | .failed => ([], pending)
    | .chunk [] => ([], pending)
    | .chunk (b :: bytes) =>
      let (text, state') := d.run state (b :: bytes)
      let (capped, pending') := capPending (pending ++ translateNewlines text)
      let (lines, tail) := drainLines pending'
      let (more, last) := drainLoop state' tail polls
      (capped ++ lines ++ more, last)

/-- One piece: what it comes to is capped and split into lines. -/
theorem drainLoop_chunk (state : σ) (pending : List Char) (b : UInt8) (bytes : List UInt8)
    (polls : List Poll) :
    drainLoop d state pending (.chunk (b :: bytes) :: polls) =
      let capped := capPending (pending ++ translateNewlines (d.run state (b :: bytes)).1)
      let drained := drainLines capped.2
      let rest := drainLoop d (d.run state (b :: bytes)).2 drained.2 polls
      (capped.1 ++ drained.1 ++ rest.1, rest.2) := rfl

/-- `_drain_polling`: the lines handed over. -/
def drainPolling (polls : List Poll) : List (List Char) :=
  let drained := drainLoop d d.start [] polls
  if drained.2 = [] then drained.1 else drained.1 ++ [drained.2]

/-- Polls that read a stream to its end, in pieces. -/
inductive ReadsToEnd : List Poll → List (List UInt8) → Prop
  | eof (polls : List Poll) : ReadsToEnd (.chunk [] :: polls) []
  | idle {polls : List Poll} {chunks : List (List UInt8)} :
      ReadsToEnd polls chunks → ReadsToEnd (.idle :: polls) chunks
  | blocked {polls : List Poll} {chunks : List (List UInt8)} :
      ReadsToEnd polls chunks → ReadsToEnd (.blocked :: polls) chunks
  | chunk {polls : List Poll} {chunks : List (List UInt8)} (b : UInt8) (bytes : List UInt8) :
      ReadsToEnd polls chunks → ReadsToEnd (.chunk (b :: bytes) :: polls) ((b :: bytes) :: chunks)

end Drain

/-! ### Lines -/

/-- **The lines that end in a text** are its first ones, whatever comes after it. -/
theorem textLines_drainLines (pending text : List Char) :
    textLines (pending ++ text) =
      (drainLines pending).1 ++ textLines ((drainLines pending).2 ++ text) := by
  induction hn : pending.length using Nat.strong_induction_on generalizing pending with
  | _ n ih =>
      subst hn
      rw [drainLines]
      split
      · rfl
      · rename_i line tail h
        obtain ⟨rfl, hline⟩ := splitLine_eq_some h
        have htail := ih tail.length (by rw [List.length_append, List.length_cons]; omega) tail rfl
        rw [List.append_assoc, List.cons_append, textLines_line hline, htail]
        rfl

/-- No line ends in what stays pending, and it is no longer. -/
theorem drainLines_tail (pending : List Char) :
    '\n' ∉ (drainLines pending).2 ∧ (drainLines pending).2.length ≤ pending.length := by
  induction hn : pending.length using Nat.strong_induction_on generalizing pending with
  | _ n ih =>
      subst hn
      rw [drainLines]
      split
      · rename_i h
        exact ⟨splitLine_eq_none h, le_refl _⟩
      · rename_i line tail h
        obtain ⟨rfl, -⟩ := splitLine_eq_some h
        have hlt : tail.length < (line ++ '\n' :: tail).length := by
          rw [List.length_append, List.length_cons]
          omega
        obtain ⟨hmem, hle⟩ := ih tail.length hlt tail rfl
        exact ⟨hmem, hle.trans hlt.le⟩

/-! ### The reader -/

section Reader

variable {σ : Type*} {d : IncrementalDecoder σ} {polls : List Poll} {chunks : List (List UInt8)}

/-- What the loop hands over, with what is pending at its end as a last line. -/
theorem drainLoop_eq (h : ReadsToEnd polls chunks) {state : σ} {pending : List Char}
    (hpending : '\n' ∉ pending)
    (hlimit : pending.length + (d.run state chunks.flatten).1.length ≤ maxCapturedChars) :
    '\n' ∉ (drainLoop d state pending polls).2 ∧
      (drainLoop d state pending polls).1 ++ textLines (drainLoop d state pending polls).2 =
        textLines (pending ++ newlinesOfPieces (d.runPieces state chunks).1) := by
  induction h generalizing state pending with
  | eof polls =>
      refine ⟨hpending, ?_⟩
      change [] ++ textLines pending = textLines (pending ++ [])
      rw [List.nil_append, List.append_nil]
  | idle _ ih => exact ih hpending hlimit
  | blocked _ ih => exact ih hpending hlimit
  | @chunk polls chunks b bytes _ ih =>
      have htext : translateNewlines (d.run state (b :: bytes)).1 =
          universalNewlines (d.run state (b :: bytes)).1 := replaceAll_replaceAll _
      have hshort : (universalNewlines (d.run state (b :: bytes)).1).length ≤
          (d.run state (b :: bytes)).1.length := length_newlinesAfter_le false _
      rw [List.flatten_cons, d.run_append, List.length_append] at hlimit
      have hcap : capPending (pending ++ universalNewlines (d.run state (b :: bytes)).1) =
          ([], pending ++ universalNewlines (d.run state (b :: bytes)).1) := by
        rw [capPending, if_neg]
        rw [List.length_append]
        omega
      obtain ⟨hmem, hle⟩ :=
        drainLines_tail (pending ++ universalNewlines (d.run state (b :: bytes)).1)
      rw [List.length_append] at hle
      obtain ⟨hlast, hlines⟩ := @ih (d.run state (b :: bytes)).2 _ hmem (by omega)
      have hpieces : newlinesOfPieces (d.runPieces state ((b :: bytes) :: chunks)).1 =
          universalNewlines (d.run state (b :: bytes)).1 ++
            newlinesOfPieces (d.runPieces (d.run state (b :: bytes)).2 chunks).1 := rfl
      rw [drainLoop_chunk, htext, hcap, hpieces, ← List.append_assoc pending,
        textLines_drainLines, ← hlines]
      exact ⟨hlast, List.append_assoc _ _ _⟩

/-- **What the reader hands over** are the lines of the pieces with their newlines translated. -/
theorem drainPolling_eq (h : ReadsToEnd polls chunks)
    (hlimit : (d.run d.start chunks.flatten).1.length ≤ maxCapturedChars) :
    drainPolling d polls = textLines (newlinesOfPieces (d.runPieces d.start chunks).1) := by
  obtain ⟨hlast, hlines⟩ := @drainLoop_eq σ d polls chunks h d.start [] List.not_mem_nil
    (by rwa [List.length_nil, Nat.zero_add])
  rw [List.nil_append, textLines_of_not_mem hlast] at hlines
  rw [drainPolling, ← hlines]
  split
  · rw [List.append_nil]
  · rfl

/-- **The lines handed over are those of the decoded text** exactly when no piece ends between a
carriage return and a line feed, and the stream does not end within a character. -/
theorem drainPolling_eq_iff (d : IncrementalDecoder σ) (h : ReadsToEnd polls chunks)
    (hlimit : (d.decode chunks.flatten).length ≤ maxCapturedChars) :
    drainPolling d polls = textLines (universalNewlines (d.decode chunks.flatten)) ↔
      NewlinesWhole (d.runPieces d.start chunks).1 ∧
        d.flush (d.runPieces d.start chunks).2 = [] := by
  have hflush := d.flush_eq_replacement (d.runPieces d.start chunks).2
  rw [IncrementalDecoder.decode, d.run_flatten] at hlimit ⊢
  dsimp only at hlimit ⊢
  have hread : (d.run d.start chunks.flatten).1.length ≤ maxCapturedChars := by
    rw [d.run_flatten]
    exact (List.length_append ▸ Nat.le_add_right _ _).trans hlimit
  rw [drainPolling_eq h hread, textLines_injective.eq_iff]
  generalize (d.runPieces d.start chunks).1 = pieces
  generalize d.flush (d.runPieces d.start chunks).2 = last at hflush
  have hlast : universalNewlines last = last := universalNewlines_of_forall fun c hc => by
    rw [hflush c hc]
    exact ⟨by decide, by decide⟩
  have hcut : ¬ CutsNewline pieces.flatten last := by
    rintro ⟨-, hhead⟩
    exact absurd (hflush _ (List.mem_of_head? hhead)) (by decide)
  have hcount : last.count '\n' = 0 :=
    List.count_eq_zero.mpr fun hmem => absurd (hflush _ hmem) (by decide)
  rw [universalNewlines_append hcut, hlast]
  constructor
  · intro heq
    have hwhole : NewlinesWhole pieces := by
      refine (count_newlinesOfPieces pieces).2 ?_
      rw [heq, List.count_append, hcount, Nat.add_zero]
    rw [newlinesOfPieces_of_whole hwhole] at heq
    exact ⟨hwhole, List.self_eq_append_right.mp heq⟩
  · rintro ⟨hwhole, rfl⟩
    rw [newlinesOfPieces_of_whole hwhole, List.append_nil]

/-- The theorem at work: a line that ends within a piece, and a character cut in two. -/
theorem drainPolling_eq_iff_euro :
    drainPolling utf8Decoder [.chunk [0x61, 0x0D, 0x0A, 0xE2], .idle, .chunk [0x82, 0xAC],
        .chunk []] =
      textLines (universalNewlines (utf8Decoder.decode
        [0x61, 0x0D, 0x0A, 0xE2, 0x82, 0xAC])) := by
  have hreads : ReadsToEnd [.chunk [0x61, 0x0D, 0x0A, 0xE2], .idle, .chunk [0x82, 0xAC],
      .chunk []] [[0x61, 0x0D, 0x0A, 0xE2], [0x82, 0xAC]] :=
    .chunk _ _ (.idle (.chunk _ _ (.eof [])))
  exact (drainPolling_eq_iff utf8Decoder hreads (by decide)).mpr (by decide)

/-- **A cut between a carriage return and a line feed shows.** The same bytes come to two lines
in one piece, and to three in two. A character that the end of the stream cuts off does not. -/
theorem drainPolling_cut :
    drainPolling utf8Decoder [.chunk [0x61, 0x0D, 0x0A, 0x62], .chunk []] =
        [['a', '\n'], ['b']] ∧
      drainPolling utf8Decoder [.chunk [0x61, 0x0D], .chunk [0x0A, 0x62], .chunk []] =
        [['a', '\n'], ['\n'], ['b']] ∧
      textLines (universalNewlines (utf8Decoder.decode [0x61, 0x0D, 0x0A, 0x62])) =
        [['a', '\n'], ['b']] ∧
      drainPolling utf8Decoder [.chunk [0xE2, 0x82], .chunk []] = [] ∧
      textLines (universalNewlines (utf8Decoder.decode [0xE2, 0x82])) = [[replacementChar]] := by
  refine ⟨?_, ?_, by decide, ?_, by decide⟩
  · rw [drainPolling_eq (.chunk _ _ (.eof [])) (by decide)]
    decide
  · rw [drainPolling_eq (.chunk _ _ (.chunk _ _ (.eof []))) (by decide)]
    decide
  · rw [drainPolling_eq (.chunk _ _ (.eof [])) (by decide)]
    decide

end Reader

end StabilityPlatform
