import StabilityPlatform.Console.ReplayLog
import StabilityPlatform.Lib.Run

/-!
# The live console

A command writes lines; a reader gathers them, and now and then writes those it has to the log and
sends them to whoever is watching. What is sent while a viewer is away is lost to it. The viewer
counts the lines it has: it passes over what it has already, and asks for pages of the log, from the
next line on, when it finds that some are missing. A request may be answered late, and the page may
be read while the log is being written.

## Main results

* `LiveWorld.step`: one moment of the reader, the network, the instances that answer or the viewer.
* `Shows`: **the terminal shows the run from its first line on**, each line complete up to the
  bound; `CaughtUp`: **a viewer at rest misses nothing** of what it has heard of.
* `live_lines_right`: **both hold in every run** in which no page is read while a line is half
  written, and no answer brings nothing new while something is missing.
-/

namespace StabilityPlatform.LiveConsole

open Lib

/-! ### The reader -/

/-- Lines that are being written to the log. -/
structure Flush where
  startSeq : ℕ
  lines : List LogLine
  pending : List UInt8
  deriving DecidableEq

/-- The side of the command. -/
structure RunLog where
  buf : List LogLine
  /-- `run.seq`. -/
  seq : ℕ
  file : List UInt8
  /-- The flush that holds `_flush_lock`. -/
  flushing : Option Flush
  done : List LogLine
  deriving DecidableEq

/-- What viewers are sent. -/
inductive LiveMessage where
  /-- `console_log`. -/
  | log (fromSeq : ℕ) (lines : List (List Char))
  /-- `console_status`. -/
  | status (status : String)
  deriving DecidableEq

namespace RunLog

/-- Before the first line. -/
def start : RunLog := ⟨[], 0, [], none, []⟩

/-- The lines that are being written. -/
def batch (log : RunLog) : List LogLine := log.flushing.elim [] Flush.lines

/-- All lines of the run. -/
def lines (log : RunLog) : List LogLine := log.done ++ log.batch ++ log.buf

/-- `flush`, up to where the log is opened. -/
def flush (log : RunLog) : Option RunLog :=
  match log.flushing with
  | some _ => none
  | none =>
    if log.buf = [] then none
    else some { log with
      buf := []
      seq := log.seq + log.buf.length
      flushing := some ⟨log.seq + 1, log.buf, logBytes log.buf⟩ }

/-- Some bytes are written. -/
def write (log : RunLog) (n : ℕ) : Option RunLog :=
  match log.flushing with
  | some f => some { log with
      file := log.file ++ f.pending.take n
      flushing := some { f with pending := f.pending.drop n } }
  | none => none

/-- The end of `flush`: what is written is sent. -/
def emit (log : RunLog) : Option (RunLog × LiveMessage) :=
  match log.flushing with
  | some f =>
    if f.pending = [] then
      some ({ log with flushing := none, done := log.done ++ f.lines },
        .log f.startSeq (f.lines.map LogLine.text))
    else none
  | none => none

end RunLog

/-! ### The viewer -/

/-- A request for a page. -/
structure PageRequest where
  fromSeq : ℕ
  answer : Option Replay
  deriving DecidableEq

/-- `GAP_FILL_MAX_PAGES`. -/
def gapFillMaxPages : ℕ := 50

/-- A viewer. -/
structure Viewer where
  /-- `seqRef`. -/
  cursor : ℕ
  terminal : List (List Char)
  /-- The request of `replayFromStart`. -/
  initial : Option PageRequest
  /-- The request of `fillGap`, with `gapFillInFlightRef`. -/
  gap : Option PageRequest
  /-- How many pages `fillGap` has asked for before. -/
  page : ℕ
  /-- `pendingGapRef`. -/
  pendingGap : Bool
  /-- `gapFillBlockedUntilRef` is to come. -/
  blocked : Bool
  /-- `everConnectedRef`. -/
  everConnected : Bool
  status : String
  replayIncomplete : Bool
  heard : ℕ
  gaveUp : Bool
  deriving DecidableEq

namespace Viewer

/-- When `replayFromStart` has asked for the first page. -/
def start : Viewer :=
  ⟨0, [], some ⟨0, none⟩, none, 0, false, false, false, "RUNNING", false, 0, false⟩

/-- `applyLines`. -/
def applyLines (v : Viewer) (first : ℕ) (lines : List (List Char)) : Viewer :=
  let expected := v.cursor + 1
  let batchEnd := first - 1 + lines.length
  if lines = [] then v
  else if batchEnd ≤ v.cursor then v
  else if expected < first then v
  else { v with terminal := v.terminal ++ lines.drop (expected - first), cursor := batchEnd }

/-- `fillGap`, up to its first request. -/
def fillGap (v : Viewer) : Viewer :=
  if v.gap.isSome then { v with pendingGap := true }
  else if v.blocked then { v with gaveUp := true }
  else { v with gap := some ⟨v.cursor + 1, none⟩, page := 0 }

/-- The next round of `fillGap`, if there is one. -/
def nextPage (v : Viewer) : Viewer :=
  if v.page + 1 < gapFillMaxPages then
    { v with gap := some ⟨v.cursor + 1, none⟩, page := v.page + 1 }
  else { v with gap := none, gaveUp := true }

/-- What a page brings. -/
def applyPage (v : Viewer) (first : ℕ) (res : Replay) : Viewer :=
  let shown := v.applyLines (if res.fromSeq = 0 then first else res.fromSeq) res.lines
  { shown with status := res.status, replayIncomplete := res.replayUnavailable }

/-- `fillGap` when a page arrives. -/
def answerGap (v : Viewer) (req : PageRequest) (res : Replay) : Viewer :=
  let shown := v.applyPage req.fromSeq res
  let moved := { shown with cursor := max shown.cursor res.seq }
  if res.replayUnavailable then { moved with gap := none, blocked := true, gaveUp := true }
  else if res.truncated && v.cursor < moved.cursor then moved.nextPage
  else if moved.cursor ≤ v.cursor then { moved with gap := none }
  else if moved.pendingGap then { moved with pendingGap := false }.nextPage
  else { moved with gap := none }

/-- `replayFromStart` when the page arrives. -/
def answerInitial (v : Viewer) (res : Replay) : Viewer :=
  let shown := { v.applyPage 1 res with initial := none }
  if res.truncated && !res.replayUnavailable then shown.fillGap else shown

/-- `onMessage`. -/
def onMessage (v : Viewer) : LiveMessage → Viewer
  | .log first lines =>
    let heard := { v with heard := first - 1 + lines.length }
    if v.cursor + 1 < first then heard.fillGap else heard.applyLines first lines
  | .status status => { v with status := status }

/-- The connection is there. -/
def onConnect (v : Viewer) : Viewer :=
  { (if v.everConnected then v.fillGap else v) with everConnected := true }

end Viewer

/-! ### All together -/

/-- A run that is watched. -/
structure LiveWorld where
  log : RunLog
  viewer : Viewer
  live : List LiveMessage
  connected : Bool
  deriving DecidableEq

/-- What an instance knows besides the log. -/
structure Instance where
  sees : Bool
  ownerSeq : ℕ
  status : String
  deriving DecidableEq

/-- What an instance sees. -/
def Instance.view (inst : Instance) (file : List UInt8) : LogView :=
  ⟨if inst.sees then some file else none, inst.ownerSeq, inst.status⟩

/-- What happens next. -/
inductive LiveAction where
  | line (line : LogLine)
  | flush
  | write (n : ℕ)
  | emit
  | tell (status : String)
  | connect
  | disconnect
  | deliver
  | serveInitial (inst : Instance)
  | serveGap (inst : Instance)
  | answerInitial
  | answerGap
  | backoffOver
  deriving DecidableEq

namespace LiveWorld

/-- Before the first line. -/
def start : LiveWorld := ⟨.start, .start, [], false⟩

/-- A message is sent; it is lost when nobody is there. -/
def send (w : LiveWorld) (message : LiveMessage) : LiveWorld :=
  { w with live := if w.connected then w.live ++ [message] else w.live }

/-- A page is read for a request that has not been answered. -/
def serve (cfg : ReplayConfig) (w : LiveWorld) (inst : Instance) (req : PageRequest) :
    Option PageRequest :=
  match req.answer with
  | none => some ⟨req.fromSeq, some (readLog cfg (inst.view w.log.file) req.fromSeq)⟩
  | some _ => none

/-- **One moment.** -/
def step (cfg : ReplayConfig) (w : LiveWorld) : LiveAction → Option LiveWorld
  | .line line => some { w with log := { w.log with buf := w.log.buf ++ [line] } }
  | .flush => w.log.flush.map fun log => { w with log := log }
  | .write n => (w.log.write n).map fun log => { w with log := log }
  | .emit => w.log.emit.map fun (log, message) => { w with log := log }.send message
  | .tell status => some (w.send (.status status))
  | .connect =>
    if w.connected then none
    else some { w with connected := true, viewer := w.viewer.onConnect }
  | .disconnect => some { w with connected := false, live := [] }
  | .deliver =>
    match w.live with
    | message :: live => some { w with live := live, viewer := w.viewer.onMessage message }
    | [] => none
  | .serveInitial inst => do
    let req ← w.viewer.initial
    let served ← w.serve cfg inst req
    pure { w with viewer := { w.viewer with initial := some served } }
  | .serveGap inst => do
    let req ← w.viewer.gap
    let served ← w.serve cfg inst req
    pure { w with viewer := { w.viewer with gap := some served } }
  | .answerInitial => do
    let req ← w.viewer.initial
    let res ← req.answer
    pure { w with viewer := w.viewer.answerInitial res }
  | .answerGap => do
    let req ← w.viewer.gap
    let res ← req.answer
    pure { w with viewer := w.viewer.answerGap req res }
  | .backoffOver => some { w with viewer := { w.viewer with blocked := false } }

/-- The step relation. -/
def Step (cfg : ReplayConfig) (w : LiveWorld) (a : LiveAction) (w' : LiveWorld) : Prop :=
  w.step cfg a = some w'

end LiveWorld

/-! ### What a viewer is to see -/

/-- **The terminal shows the run from its first line on.** -/
def Shows (cfg : ReplayConfig) (w : LiveWorld) : Prop :=
  Segment cfg w.log.lines 0 w.viewer.terminal

/-- A viewer with nothing under way, which has not given up. -/
def AtRest (w : LiveWorld) : Prop :=
  w.viewer.initial = none ∧ w.viewer.gap = none ∧ w.viewer.gaveUp = false ∧ w.connected = true ∧
    w.live = []

/-- Whether a viewer is at rest can be computed. -/
instance decidableAtRest (w : LiveWorld) : Decidable (AtRest w) :=
  inferInstanceAs (Decidable (_ ∧ _))

/-- **A viewer at rest misses nothing** of what it has heard of. -/
def CaughtUp (w : LiveWorld) : Prop := AtRest w → w.viewer.heard ≤ w.viewer.terminal.length

/-- What the log shows is an initial segment of the lines of the run: no line is half written. -/
def ReadsWhole (cfg : ReplayConfig) (w : LiveWorld) : Prop :=
  shownLines cfg w.log.file <+: w.log.lines.map (LogLine.cut cfg)

/-- The side condition of a step: a log is read when no line is half written, and an answer that
brings nothing new arrives when nothing is missing. -/
def InTime (cfg : ReplayConfig) (w : LiveWorld) : LiveAction → Prop
  | .serveInitial inst => inst.sees = true → ReadsWhole cfg w
  | .serveGap inst => inst.sees = true → ReadsWhole cfg w
  | .answerGap => ∀ req ∈ w.viewer.gap, ∀ res ∈ req.answer,
      w.viewer.cursor < res.seq ∨ w.viewer.heard ≤ w.viewer.cursor ∨ res.replayUnavailable = true
  | _ => True

/-- Whether a log shows no half line can be computed. -/
instance decidableReadsWhole (cfg : ReplayConfig) (w : LiveWorld) : Decidable (ReadsWhole cfg w) :=
  inferInstanceAs (Decidable (_ <+: _))

/-- Whether a step is in time can be computed. -/
instance decidableInTime (cfg : ReplayConfig) (w : LiveWorld) :
    (a : LiveAction) → Decidable (InTime cfg w a)
  | .serveInitial inst => inferInstanceAs (Decidable (inst.sees = true → ReadsWhole cfg w))
  | .serveGap inst => inferInstanceAs (Decidable (inst.sees = true → ReadsWhole cfg w))
  | .answerGap => inferInstanceAs (Decidable (∀ req ∈ w.viewer.gap, ∀ res ∈ req.answer, _))
  | .line _ => .isTrue trivial
  | .flush => .isTrue trivial
  | .write _ => .isTrue trivial
  | .emit => .isTrue trivial
  | .tell _ => .isTrue trivial
  | .connect => .isTrue trivial
  | .disconnect => .isTrue trivial
  | .deliver => .isTrue trivial
  | .answerInitial => .isTrue trivial
  | .backoffOver => .isTrue trivial

/-! ### What holds all along -/

variable {cfg : ReplayConfig}

/-- The log and its lines go together. -/
structure RunLog.Sound (log : RunLog) : Prop where
  written : ∃ part, log.file = logBytes log.done ++ part ∧
    part ++ log.flushing.elim [] Flush.pending = logBytes log.batch
  seq : log.seq = log.done.length + log.batch.length
  startSeq : ∀ f ∈ log.flushing, f.startSeq = log.done.length + 1

/-- A message is about lines that have been flushed. -/
def MessageRight (cfg : ReplayConfig) (log : RunLog) : LiveMessage → Prop
  | .log first lines => 1 ≤ first ∧ Segment cfg log.lines (first - 1) lines ∧
      first - 1 + lines.length ≤ log.done.length
  | .status _ => True

/-- A page has the lines that were asked for. -/
def RequestRight (cfg : ReplayConfig) (log : RunLog) (req : PageRequest) : Prop :=
  ∀ res ∈ req.answer, Segment cfg log.lines (req.fromSeq - 1) res.lines ∧
    res.seq = req.fromSeq - 1 + res.lines.length ∧
    (res.lines ≠ [] → res.fromSeq = req.fromSeq - 1 + 1)

/-- What a viewer has, and what it asked for. -/
structure ViewerRight (cfg : ReplayConfig) (log : RunLog) (v : Viewer) : Prop where
  cursor : v.cursor = v.terminal.length
  shows : Segment cfg log.lines 0 v.terminal
  heard : v.heard ≤ log.done.length
  initial : ∀ req ∈ v.initial, req.fromSeq = 0 ∧ RequestRight cfg log req
  gap : ∀ req ∈ v.gap, 1 ≤ req.fromSeq ∧ req.fromSeq ≤ v.cursor + 1 ∧ RequestRight cfg log req

/-- **What is missing is on its way**: the request that is under way will be followed by another
one, or has been answered by a page that goes far enough or brings nothing new. -/
def Covered (v : Viewer) : Prop :=
  v.gaveUp = true ∨ v.heard ≤ v.cursor ∨ ∃ req, v.gap = some req ∧ (v.pendingGap = true ∨
    ∀ res ∈ req.answer, res.seq ≤ v.cursor ∨ res.truncated = true ∨ v.heard ≤ res.seq)

/-- All of it. -/
structure LiveRight (cfg : ReplayConfig) (w : LiveWorld) : Prop where
  log : w.log.Sound
  live : ∀ message ∈ w.live, MessageRight cfg w.log message
  viewer : ViewerRight cfg w.log w.viewer
  covered : Covered w.viewer

/-! ### The log -/

/-- A log has become another one: the run goes on, and no line is taken back. -/
structure RunLog.Grows (log log' : RunLog) : Prop where
  lines : ∃ more, log'.lines = log.lines ++ more
  done : log.done.length ≤ log'.done.length

section Grows

variable {log log' : RunLog}

/-- Messages stay right. -/
theorem MessageRight.grows (hgrows : log.Grows log') {message : LiveMessage}
    (h : MessageRight cfg log message) : MessageRight cfg log' message := by
  obtain ⟨more, hmore⟩ := hgrows.lines
  cases message with
  | log first lines =>
      refine ⟨h.1, ?_, h.2.2.trans hgrows.done⟩
      rw [hmore]
      exact h.2.1.append more
  | status => trivial

/-- Requests stay right. -/
theorem RequestRight.grows (hgrows : log.Grows log') {req : PageRequest}
    (h : RequestRight cfg log req) : RequestRight cfg log' req := by
  obtain ⟨more, hmore⟩ := hgrows.lines
  intro res hres
  obtain ⟨hsegment, hrest⟩ := h res hres
  refine ⟨?_, hrest⟩
  rw [hmore]
  exact hsegment.append more

/-- The viewer stays right. -/
theorem ViewerRight.grows (hgrows : log.Grows log') {v : Viewer} (h : ViewerRight cfg log v) :
    ViewerRight cfg log' v := by
  obtain ⟨more, hmore⟩ := hgrows.lines
  refine ⟨h.cursor, ?_, h.heard.trans hgrows.done, fun req hreq => ?_, fun req hreq => ?_⟩
  · rw [hmore]
    exact h.shows.append more
  · exact ⟨(h.initial req hreq).1, (h.initial req hreq).2.grows hgrows⟩
  · obtain ⟨hpos, hle, hright⟩ := h.gap req hreq
    exact ⟨hpos, hle, hright.grows hgrows⟩

/-- A line is read. -/
theorem RunLog.grows_line (log : RunLog) (line : LogLine) :
    log.Grows { log with buf := log.buf ++ [line] } :=
  ⟨⟨[line], (List.append_assoc ..).symm⟩, le_refl _⟩

/-- **A flush begins.** -/
theorem RunLog.Sound.flush (h : log.Sound) (hflush : log.flush = some log') :
    log'.Sound ∧ log.Grows log' := by
  rw [RunLog.flush] at hflush
  split at hflush
  · cases hflush
  · rename_i hnone
    obtain ⟨-, hsome⟩ := Option.ite_none_left_eq_some.mp hflush
    obtain rfl := Option.some.inj hsome
    obtain ⟨part, hfile, hpart⟩ := h.written
    have hbatch : log.batch = [] := by rw [RunLog.batch, hnone]; rfl
    have hseq := h.seq
    rw [hbatch, List.length_nil, Nat.add_zero] at hseq
    rw [hbatch, hnone] at hpart
    have hempty : part = [] := (List.append_eq_nil_iff.mp hpart).1
    refine ⟨⟨⟨part, hfile, ?_⟩, ?_, ?_⟩, ⟨[], ?_⟩, le_refl _⟩
    · rw [hempty]
      rfl
    · exact congrArg (· + log.buf.length) hseq
    · intro f hf
      obtain rfl := Option.some.inj hf
      exact congrArg (· + 1) hseq
    · change log.done ++ log.buf ++ [] = log.done ++ log.batch ++ log.buf ++ []
      rw [hbatch, List.append_nil log.done]

/-- **Bytes are written.** -/
theorem RunLog.Sound.write (h : log.Sound) {n : ℕ} (hwrite : log.write n = some log') :
    log'.Sound ∧ log.Grows log' := by
  rw [RunLog.write] at hwrite
  split at hwrite
  · rename_i f hsome
    obtain rfl := Option.some.inj hwrite
    obtain ⟨part, hfile, hpart⟩ := h.written
    have hbatch : log.batch = f.lines := by rw [RunLog.batch, hsome]; rfl
    rw [hbatch, hsome] at hpart
    have hseq := h.seq
    rw [hbatch] at hseq
    refine ⟨⟨⟨part ++ f.pending.take n, ?_, ?_⟩, hseq, ?_⟩, ⟨[], ?_⟩, le_refl _⟩
    · rw [hfile, List.append_assoc]
    · change part ++ f.pending.take n ++ f.pending.drop n = logBytes f.lines
      rw [List.append_assoc, List.take_append_drop]
      exact hpart
    · intro f' hf'
      obtain rfl := Option.some.inj hf'
      exact h.startSeq f hsome
    · change log.done ++ f.lines ++ log.buf = log.done ++ log.batch ++ log.buf ++ []
      rw [hbatch, List.append_nil]
  · cases hwrite

/-- **A flush ends**: what is sent has been written. -/
theorem RunLog.Sound.emit (h : log.Sound) {message : LiveMessage}
    (hemit : log.emit = some (log', message)) :
    log'.Sound ∧ log.Grows log' ∧ MessageRight cfg log' message := by
  rw [RunLog.emit] at hemit
  split at hemit
  · rename_i f hsome
    obtain ⟨hpending, heq⟩ := Option.ite_none_right_eq_some.mp hemit
    cases heq
    obtain ⟨part, hfile, hpart⟩ := h.written
    have hbatch : log.batch = f.lines := by rw [RunLog.batch, hsome]; rfl
    rw [hbatch, hsome, Option.elim_some, hpending, List.append_nil] at hpart
    have hseq := h.seq
    rw [hbatch] at hseq
    have hstart := h.startSeq f hsome
    refine ⟨⟨⟨[], ?_, rfl⟩, ?_, fun _ hmem => by cases hmem⟩, ⟨⟨[], ?_⟩, ?_⟩, ?_, ?_, ?_⟩
    · rw [hfile, hpart, List.append_nil, logBytes_append]
    · rw [hseq, List.length_append]
      rfl
    · change log.done ++ f.lines ++ [] ++ log.buf = log.done ++ log.batch ++ log.buf ++ []
      rw [hbatch, List.append_nil, List.append_nil]
    · rw [List.length_append]
      exact Nat.le_add_right _ _
    · exact hstart.symm ▸ Nat.le_add_left 1 _
    · rw [hstart, Nat.add_sub_cancel]
      refine @segment_map_text cfg _ f.lines log.buf log.done.length ?_
      change (log.done ++ f.lines ++ [] ++ log.buf).drop log.done.length = _
      rw [List.append_nil, List.append_assoc, List.drop_left]
    · rw [hstart, Nat.add_sub_cancel, List.length_append, List.length_map]
  · cases hemit

end Grows

/-! ### The viewer's answers -/

section Viewer

variable {log : RunLog} {v : Viewer}

/-- **What lines do to the terminal**: it goes on showing the run, and up to where the lines end if
none is missing before them. -/
theorem Viewer.applyLines_spec (h : ViewerRight cfg log v) {first : ℕ} {lines : List (List Char)}
    (hpos : 1 ≤ first) (hsegment : Segment cfg log.lines (first - 1) lines) :
    ∃ terminal, v.applyLines first lines =
        { v with terminal := terminal, cursor := terminal.length } ∧
      Segment cfg log.lines 0 terminal ∧ v.cursor ≤ terminal.length ∧
      (first ≤ v.cursor + 1 → terminal.length = max v.cursor (first - 1 + lines.length)) := by
  have hkeep : v = { v with terminal := v.terminal, cursor := v.terminal.length } := by
    rw [← h.cursor]
  rw [Viewer.applyLines]
  split
  · rename_i hnil
    refine ⟨v.terminal, hkeep, h.shows, h.cursor.le, fun hfirst => ?_⟩
    rw [hnil, List.length_nil, ← h.cursor]
    omega
  · split
    · rename_i hold
      refine ⟨v.terminal, hkeep, h.shows, h.cursor.le, fun _ => ?_⟩
      rw [← h.cursor, max_eq_left hold]
    · rename_i hnew
      split
      · rename_i hhole
        exact ⟨v.terminal, hkeep, h.shows, h.cursor.le, fun hfirst => by omega⟩
      · rename_i hnext
        have hdrop : v.cursor + 1 - first = v.terminal.length - (first - 1) := by
          rw [h.cursor]
          omega
        have hlength : (v.terminal ++ lines.drop (v.cursor + 1 - first)).length =
            first - 1 + lines.length := by
          rw [List.length_append, List.length_drop, ← h.cursor]
          omega
        refine ⟨v.terminal ++ lines.drop (v.cursor + 1 - first), ?_, ?_, ?_, fun _ => ?_⟩
        · rw [hlength]
        · rw [hdrop]
          refine h.shows.extend hsegment ?_
          rw [← h.cursor]
          omega
        · rw [hlength]
          omega
        · rw [hlength, max_eq_right (by omega)]

/-- The viewer stays right when the terminal goes on showing the run. -/
theorem ViewerRight.move (h : ViewerRight cfg log v) {terminal : List (List Char)}
    (hshows : Segment cfg log.lines 0 terminal) (hle : v.cursor ≤ terminal.length) :
    ViewerRight cfg log { v with terminal := terminal, cursor := terminal.length } :=
  ⟨rfl, hshows, h.heard, h.initial, fun req hreq =>
    have hgap := h.gap req hreq
    ⟨hgap.1, hgap.2.1.trans (Nat.succ_le_succ hle), hgap.2.2⟩⟩

/-- A request for the next line is right. -/
theorem ViewerRight.ask (h : ViewerRight cfg log v) (page : ℕ) :
    ViewerRight cfg log { v with gap := some ⟨v.cursor + 1, none⟩, page := page } := by
  refine ⟨h.cursor, h.shows, h.heard, h.initial, fun req hreq => ?_⟩
  obtain rfl := Option.some.inj hreq
  exact ⟨Nat.le_add_left 1 _, le_refl _, fun res hres => by cases hres⟩

/-- A request that is dropped is right. -/
theorem ViewerRight.dropGap (h : ViewerRight cfg log v) :
    ViewerRight cfg log { v with gap := none } :=
  ⟨h.cursor, h.shows, h.heard, h.initial, fun _ hreq => by cases hreq⟩

/-- **`fillGap`** keeps the viewer right. -/
theorem ViewerRight.fillGap (h : ViewerRight cfg log v) : ViewerRight cfg log v.fillGap := by
  rw [Viewer.fillGap]
  split
  · exact ⟨h.cursor, h.shows, h.heard, h.initial, h.gap⟩
  · split
    · exact ⟨h.cursor, h.shows, h.heard, h.initial, h.gap⟩
    · exact h.ask 0

/-- **After `fillGap`** what is missing is on its way. -/
theorem covered_fillGap (v : Viewer) : Covered v.fillGap := by
  rw [Viewer.fillGap]
  split
  · rename_i hsome
    obtain ⟨req, hreq⟩ := Option.isSome_iff_exists.mp hsome
    exact Or.inr (Or.inr ⟨req, hreq, Or.inl rfl⟩)
  · split
    · exact Or.inl rfl
    · exact Or.inr (Or.inr ⟨_, rfl, Or.inr fun res hres => by cases hres⟩)

/-- **Another round** keeps the viewer right, and what is missing on its way. -/
theorem ViewerRight.nextPage (h : ViewerRight cfg log v) :
    ViewerRight cfg log v.nextPage ∧ Covered v.nextPage := by
  rw [Viewer.nextPage]
  split
  · exact ⟨h.ask (v.page + 1), Or.inr (Or.inr ⟨_, rfl, Or.inr fun res hres => by cases hres⟩)⟩
  · have hdrop := h.dropGap
    exact ⟨⟨hdrop.cursor, hdrop.shows, hdrop.heard, hdrop.initial, hdrop.gap⟩, Or.inl rfl⟩

/-- What is missing stays on its way while the terminal goes on. -/
theorem Covered.move (h : Covered v) {terminal : List (List Char)}
    (hle : v.cursor ≤ terminal.length) :
    Covered { v with terminal := terminal, cursor := terminal.length } := by
  obtain hgave | hheard | ⟨req, hreq, hgap⟩ := h
  · exact Or.inl hgave
  · exact Or.inr (Or.inl (hheard.trans hle))
  · refine Or.inr (Or.inr ⟨req, hreq, hgap.imp_right fun hall res hres => ?_⟩)
    exact (hall res hres).imp_left fun hseq => hseq.trans hle

/-- **What a page brings**: the lines up to its end. -/
theorem Viewer.applyPage_spec (h : ViewerRight cfg log v) {req : PageRequest} {res : Replay}
    {first : ℕ} (hright : RequestRight cfg log req) (hres : req.answer = some res)
    (hle : req.fromSeq ≤ v.cursor + 1) :
    ∃ terminal, v.applyPage first res = { v with
        terminal := terminal
        cursor := terminal.length
        status := res.status
        replayIncomplete := res.replayUnavailable } ∧
      Segment cfg log.lines 0 terminal ∧ terminal.length = max v.cursor res.seq := by
  obtain ⟨hsegment, hseq, hfrom⟩ := hright res hres
  rw [Viewer.applyPage]
  by_cases hnil : res.lines = []
  · refine ⟨v.terminal, ?_, h.shows, ?_⟩
    · rw [Viewer.applyLines, if_pos hnil, ← h.cursor]
    · rw [hseq, hnil, List.length_nil, ← h.cursor]
      omega
  · have hsome := hfrom hnil
    rw [if_neg (by omega), hsome]
    obtain ⟨terminal, happly, hshows, -, hlength⟩ :=
      Viewer.applyLines_spec h (Nat.le_add_left 1 (req.fromSeq - 1))
        (show Segment cfg log.lines (req.fromSeq - 1 + 1 - 1) res.lines from hsegment)
    refine ⟨terminal, by rw [happly], hshows, ?_⟩
    rw [hlength (by omega), hseq]
    rfl

/-- **The first page** keeps the viewer right, and what is missing on its way. -/
theorem Viewer.answerInitial_right (h : ViewerRight cfg log v) (hcovered : Covered v)
    {req : PageRequest} {res : Replay} (hreq : v.initial = some req) (hres : req.answer = some res) :
    ViewerRight cfg log (v.answerInitial res) ∧ Covered (v.answerInitial res) := by
  obtain ⟨hzero, hright⟩ := h.initial req hreq
  obtain ⟨terminal, happly, hshows, hlength⟩ :=
    Viewer.applyPage_spec h hright hres (hzero ▸ Nat.zero_le _)
  have hle : v.cursor ≤ terminal.length := hlength ▸ le_max_left _ _
  have hmove := h.move hshows hle
  have hshown : ViewerRight cfg log { v.applyPage 1 res with initial := none } := by
    rw [happly]
    exact ⟨hmove.cursor, hmove.shows, hmove.heard, fun _ hnone => (nomatch hnone), hmove.gap⟩
  rw [Viewer.answerInitial]
  split
  · exact ⟨hshown.fillGap, covered_fillGap _⟩
  · refine ⟨hshown, ?_⟩
    rw [happly]
    exact hcovered.move hle

/-- **Another page** keeps the viewer right, and what is missing on its way unless it brings nothing
new. -/
theorem Viewer.answerGap_right (h : ViewerRight cfg log v) (hcovered : Covered v)
    {req : PageRequest} {res : Replay} (hreq : v.gap = some req) (hres : req.answer = some res)
    (htime : v.cursor < res.seq ∨ v.heard ≤ v.cursor ∨ res.replayUnavailable = true) :
    ViewerRight cfg log (v.answerGap req res) ∧ Covered (v.answerGap req res) := by
  obtain ⟨-, hfirst, hright⟩ := h.gap req hreq
  obtain ⟨terminal, happly, hshows, hlength⟩ := Viewer.applyPage_spec h hright hres hfirst
  have hle : v.cursor ≤ terminal.length := hlength ▸ le_max_left _ _
  have hmax : max terminal.length res.seq = terminal.length := by
    rw [hlength]
    omega
  have hmove := h.move hshows hle
  have hmoved : ViewerRight cfg log { v.applyPage req.fromSeq res with
      cursor := max (v.applyPage req.fromSeq res).cursor res.seq } := by
    rw [happly]
    dsimp only
    rw [hmax]
    exact ⟨hmove.cursor, hmove.shows, hmove.heard, hmove.initial, hmove.gap⟩
  have hcursor : max (v.applyPage req.fromSeq res).cursor res.seq = terminal.length := by
    rw [happly]
    exact hmax
  have hheard : (v.applyPage req.fromSeq res).heard = v.heard := by rw [happly]
  have hgave : (v.applyPage req.fromSeq res).gaveUp = v.gaveUp := by rw [happly]
  have hpending : (v.applyPage req.fromSeq res).pendingGap = v.pendingGap := by rw [happly]
  rw [Viewer.answerGap]
  generalize v.applyPage req.fromSeq res = shown at hmoved hcursor hheard hgave hpending
  dsimp only
  split
  · have hdrop := hmoved.dropGap
    exact ⟨⟨hdrop.cursor, hdrop.shows, hdrop.heard, hdrop.initial, hdrop.gap⟩, Or.inl rfl⟩
  · rename_i havailable
    split
    · exact hmoved.nextPage
    · rename_i hlast
      split
      · -- nothing new: the guard says that nothing is missing
        rename_i hsame
        refine ⟨hmoved.dropGap, Or.inr (Or.inl ?_)⟩
        change shown.heard ≤ max shown.cursor res.seq
        rw [hcursor] at hsame ⊢
        rw [hheard]
        have hseq : res.seq ≤ terminal.length := hlength ▸ le_max_right _ _
        obtain hnew | hnone | hunavailable := htime
        · omega
        · omega
        · exact absurd hunavailable havailable
      · rename_i hnew
        rw [hcursor] at hnew hlast
        split
        · exact ViewerRight.nextPage
            ⟨hmoved.cursor, hmoved.shows, hmoved.heard, hmoved.initial, hmoved.gap⟩
        · -- the last page, and nothing was missed since it was asked for
          rename_i hnothing
          refine ⟨hmoved.dropGap, ?_⟩
          have htruncated : res.truncated = false := by
            cases htrunc : res.truncated with
            | false => rfl
            | true => exact absurd (by rw [htrunc]; simpa using hnew) hlast
          obtain hgaveUp | hold | ⟨req', hreq', hgap⟩ := hcovered
          · exact Or.inl (hgave.trans hgaveUp)
          · refine Or.inr (Or.inl ?_)
            change shown.heard ≤ max shown.cursor res.seq
            rw [hcursor, hheard]
            exact hold.trans hle
          · cases hreq.symm.trans hreq'
            refine Or.inr (Or.inl ?_)
            change shown.heard ≤ max shown.cursor res.seq
            rw [hcursor, hheard, hlength]
            obtain hpend | hall := hgap
            · exact absurd (hpending.trans hpend) hnothing
            · obtain hseq | htrunc | hfar := hall res hres
              · omega
              · rw [htruncated] at htrunc
                cases htrunc
              · exact hfar.trans (le_max_right _ _)

/-- **A message** keeps the viewer right, and what is missing on its way. -/
theorem Viewer.onMessage_right (h : ViewerRight cfg log v) (hcovered : Covered v)
    {message : LiveMessage} (hmessage : MessageRight cfg log message) :
    ViewerRight cfg log (v.onMessage message) ∧ Covered (v.onMessage message) := by
  cases message with
  | log first lines =>
      obtain ⟨hpos, hsegment, hflushed⟩ := hmessage
      have hheard : ViewerRight cfg log { v with heard := first - 1 + lines.length } :=
        ⟨h.cursor, h.shows, hflushed, h.initial, h.gap⟩
      rw [Viewer.onMessage]
      split
      · exact ⟨hheard.fillGap, covered_fillGap _⟩
      · rename_i hnext
        obtain ⟨terminal, happly, hshows, hle, hlength⟩ :=
          Viewer.applyLines_spec hheard hpos hsegment
        rw [happly]
        refine ⟨hheard.move hshows hle, Or.inr (Or.inl ?_)⟩
        change first - 1 + lines.length ≤ terminal.length
        rw [hlength (not_lt.mp hnext)]
        exact le_max_right _ _
  | status => exact ⟨⟨h.cursor, h.shows, h.heard, h.initial, h.gap⟩, hcovered⟩

/-- **A connection** keeps the viewer right, and what is missing on its way. -/
theorem Viewer.onConnect_right (h : ViewerRight cfg log v) (hcovered : Covered v) :
    ViewerRight cfg log v.onConnect ∧ Covered v.onConnect := by
  rw [Viewer.onConnect]
  split
  · have hfill := h.fillGap
    exact ⟨⟨hfill.cursor, hfill.shows, hfill.heard, hfill.initial, hfill.gap⟩, covered_fillGap v⟩
  · exact ⟨⟨h.cursor, h.shows, h.heard, h.initial, h.gap⟩, hcovered⟩

end Viewer

/-! ### Whole runs -/

variable {w : LiveWorld}

/-- **A page that is read** when no line is half written has the lines that were asked for. -/
theorem requestRight_serve {inst : Instance} {req served : PageRequest}
    (htime : inst.sees = true → ReadsWhole cfg w) (hserve : w.serve cfg inst req = some served) :
    served.fromSeq = req.fromSeq ∧ RequestRight cfg w.log served := by
  rw [LiveWorld.serve] at hserve
  split at hserve
  · obtain rfl := Option.some.inj hserve
    refine ⟨rfl, fun res hres => ?_⟩
    obtain rfl := Option.some.inj hres
    refine ⟨readLog_right (fun file hfile => ?_) req.fromSeq, seq_readLog _ _, fromSeq_readLog⟩
    obtain ⟨hsees, heq⟩ := Option.ite_none_right_eq_some.mp hfile
    rw [← Option.some.inj heq]
    exact htime hsees
  · cases hserve

/-- The log shows all lines that have been flushed. -/
theorem RunLog.Sound.length_le (h : w.log.Sound) :
    w.log.done.length ≤ (shownLines cfg w.log.file).length := by
  obtain ⟨part, hfile, -⟩ := h.written
  rw [hfile, shownLines_append, List.length_append, List.length_map]
  exact Nat.le_add_right _ _

/-- **A page that is read** brings nothing new, is cut off, or goes as far as anything that has
been heard of. -/
theorem covers_serve (h : LiveRight cfg w) {inst : Instance} {req served : PageRequest}
    (hfirst : req.fromSeq ≤ w.viewer.cursor + 1) (hserve : w.serve cfg inst req = some served) :
    ∀ res ∈ served.answer, res.seq ≤ w.viewer.cursor ∨ res.truncated = true ∨
      w.viewer.heard ≤ res.seq := by
  rw [LiveWorld.serve] at hserve
  split at hserve
  · obtain rfl := Option.some.inj hserve
    intro res hres
    obtain rfl := Option.some.inj hres
    cases hsees : inst.sees with
    | false =>
        refine Or.inl ?_
        rw [readLog, Instance.view, hsees]
        change req.fromSeq - 1 ≤ w.viewer.cursor
        omega
    | true =>
        have hfile : (inst.view w.log.file).file = some w.log.file := by
          rw [Instance.view, hsees]
          rfl
        cases htruncated : (readLog cfg (inst.view w.log.file) req.fromSeq).truncated with
        | true => exact Or.inr (Or.inl rfl)
        | false =>
            refine Or.inr (Or.inr ?_)
            calc w.viewer.heard ≤ w.log.done.length := h.viewer.heard
              _ ≤ (shownLines cfg w.log.file).length := h.log.length_le
              _ ≤ _ := length_le_seq_readLog hfile htruncated
  · cases hserve

/-- What the log goes through, the viewer need not know. -/
theorem LiveRight.grows (h : LiveRight cfg w) {log : RunLog} (hsound : log.Sound)
    (hgrows : w.log.Grows log) : LiveRight cfg { w with log := log } :=
  ⟨hsound, fun message hmem => (h.live message hmem).grows hgrows, h.viewer.grows hgrows,
    h.covered⟩

/-- A message is sent. -/
theorem LiveRight.send (h : LiveRight cfg w) {message : LiveMessage}
    (hmessage : MessageRight cfg w.log message) : LiveRight cfg (w.send message) := by
  refine ⟨h.log, ?_, h.viewer, h.covered⟩
  rw [LiveWorld.send]
  dsimp only
  split
  · intro message' hmem
    cases List.mem_append.mp hmem with
    | inl hold => exact h.live message' hold
    | inr hnew => exact List.mem_singleton.mp hnew ▸ hmessage
  · exact h.live

/-- **One step keeps everything right**, if it is in time. -/
theorem LiveRight.step (h : LiveRight cfg w) {a : LiveAction} {w' : LiveWorld}
    (htime : InTime cfg w a) (hstep : w.Step cfg a w') : LiveRight cfg w' := by
  rw [LiveWorld.Step] at hstep
  cases a with
  | line line =>
      obtain rfl := Option.some.inj hstep
      exact h.grows ⟨h.log.written, h.log.seq, h.log.startSeq⟩ (w.log.grows_line line)
  | flush =>
      obtain ⟨log, hflush, rfl⟩ := Option.map_eq_some_iff.mp hstep
      obtain ⟨hsound, hgrows⟩ := h.log.flush hflush
      exact h.grows hsound hgrows
  | write n =>
      obtain ⟨log, hwrite, rfl⟩ := Option.map_eq_some_iff.mp hstep
      obtain ⟨hsound, hgrows⟩ := h.log.write hwrite
      exact h.grows hsound hgrows
  | emit =>
      obtain ⟨⟨log, message⟩, hemit, rfl⟩ := Option.map_eq_some_iff.mp hstep
      obtain ⟨hsound, hgrows, hmessage⟩ := h.log.emit hemit
      exact (h.grows hsound hgrows).send hmessage
  | tell status =>
      obtain rfl := Option.some.inj hstep
      exact h.send trivial
  | connect =>
      obtain ⟨-, hsome⟩ := Option.ite_none_left_eq_some.mp hstep
      obtain rfl := Option.some.inj hsome
      obtain ⟨hviewer, hcovered⟩ := Viewer.onConnect_right h.viewer h.covered
      exact ⟨h.log, h.live, hviewer, hcovered⟩
  | disconnect =>
      obtain rfl := Option.some.inj hstep
      exact ⟨h.log, fun _ hmem => (nomatch hmem), h.viewer, h.covered⟩
  | deliver =>
      rw [LiveWorld.step] at hstep
      split at hstep
      · rename_i message live hlive
        obtain rfl := Option.some.inj hstep
        have hmem := h.live
        rw [hlive] at hmem
        obtain ⟨hviewer, hcovered⟩ := Viewer.onMessage_right h.viewer h.covered
          (hmem message (List.mem_cons_self ..))
        exact ⟨h.log, fun message' hrest => hmem message' (List.mem_cons_of_mem _ hrest), hviewer,
          hcovered⟩
      · cases hstep
  | serveInitial inst =>
      simp only [LiveWorld.step, Option.bind_eq_bind, Option.bind_eq_some_iff, Option.pure_def,
        Option.some.injEq] at hstep
      obtain ⟨req, hreq, served, hserve, rfl⟩ := hstep
      obtain ⟨hsame, hright⟩ := requestRight_serve htime hserve
      have hzero := (h.viewer.initial req hreq).1
      refine ⟨h.log, h.live, ⟨h.viewer.cursor, h.viewer.shows, h.viewer.heard, ?_, h.viewer.gap⟩,
        h.covered⟩
      intro req' hreq'
      obtain rfl := Option.some.inj hreq'
      exact ⟨hsame.trans hzero, hright⟩
  | serveGap inst =>
      simp only [LiveWorld.step, Option.bind_eq_bind, Option.bind_eq_some_iff, Option.pure_def,
        Option.some.injEq] at hstep
      obtain ⟨req, hreq, served, hserve, rfl⟩ := hstep
      obtain ⟨hsame, hright⟩ := requestRight_serve htime hserve
      obtain ⟨hpos, hfirst, -⟩ := h.viewer.gap req hreq
      refine ⟨h.log, h.live, ⟨h.viewer.cursor, h.viewer.shows, h.viewer.heard, h.viewer.initial,
        ?_⟩, ?_⟩
      · intro req' hreq'
        obtain rfl := Option.some.inj hreq'
        exact ⟨hsame ▸ hpos, hsame ▸ hfirst, hright⟩
      · exact Or.inr (Or.inr ⟨served, rfl, Or.inr (covers_serve h hfirst hserve)⟩)
  | answerInitial =>
      simp only [LiveWorld.step, Option.bind_eq_bind, Option.bind_eq_some_iff, Option.pure_def,
        Option.some.injEq] at hstep
      obtain ⟨req, hreq, res, hres, rfl⟩ := hstep
      obtain ⟨hviewer, hcovered⟩ := Viewer.answerInitial_right h.viewer h.covered hreq hres
      exact ⟨h.log, h.live, hviewer, hcovered⟩
  | answerGap =>
      simp only [LiveWorld.step, Option.bind_eq_bind, Option.bind_eq_some_iff, Option.pure_def,
        Option.some.injEq] at hstep
      obtain ⟨req, hreq, res, hres, rfl⟩ := hstep
      obtain ⟨hviewer, hcovered⟩ := Viewer.answerGap_right h.viewer h.covered hreq hres
        (htime req hreq res hres)
      exact ⟨h.log, h.live, hviewer, hcovered⟩
  | backoffOver =>
      obtain rfl := Option.some.inj hstep
      exact ⟨h.log, h.live, ⟨h.viewer.cursor, h.viewer.shows, h.viewer.heard, h.viewer.initial,
        h.viewer.gap⟩, h.covered⟩

/-- Before the first line everything is right. -/
theorem liveRight_start : LiveRight cfg .start := by
  refine ⟨⟨⟨[], rfl, rfl⟩, rfl, fun _ hmem => (nomatch hmem)⟩, fun _ hmem => (nomatch hmem),
    ⟨rfl, Segment.nil _ _, le_refl _, fun req hreq => ?_, fun _ hmem => (nomatch hmem)⟩,
    Or.inr (Or.inl (le_refl _))⟩
  obtain rfl := Option.some.inj hreq
  exact ⟨rfl, fun _ hmem => (nomatch hmem)⟩

/-- What is right shows the run, and misses nothing at rest. -/
theorem LiveRight.shows (h : LiveRight cfg w) : Shows cfg w ∧ CaughtUp w := by
  refine ⟨h.viewer.shows, fun ⟨_, hgap, hgave, _, _⟩ => ?_⟩
  rw [← h.viewer.cursor]
  obtain hgaveUp | hheard | ⟨req, hreq, -⟩ := h.covered
  · rw [hgave] at hgaveUp
    cases hgaveUp
  · exact hheard
  · rw [hgap] at hreq
    cases hreq

/-- **The live console shows every line once**, in every run in which no page is read while a line
is half written, and no answer brings nothing new while something is missing. -/
theorem live_lines_right {cfg : ReplayConfig} {w : LiveWorld}
    {tr : List (LiveWorld × LiveAction)} (hrun : Run (LiveWorld.Step cfg) .start tr w)
    (htime : ∀ p ∈ tr, InTime cfg p.1 p.2) : Holds (fun w => Shows cfg w ∧ CaughtUp w) tr w :=
  (Run.invariant_of_guard (InTime cfg) (fun h htime hstep => LiveRight.step h htime hstep) hrun
    liveRight_start htime).mono fun _ h => h.shows

/-- The bounds that are set. -/
def defaultReplay : ReplayConfig := ⟨2000, 100000⟩

/-- A line. -/
def lineAB : LogLine := ⟨['a', 'b'], by decide, by decide⟩

/-- The instance that owns the run. -/
def owner : Instance := ⟨true, 0, "RUNNING"⟩

/-- A line that was written before the viewer came, and one that it misses and then asks for. -/
theorem missed_line_shown :
    let actions : List LiveAction := [.line lineAB, .flush, .write 3, .emit, .connect,
      .serveInitial owner, .answerInitial, .disconnect, .line lineAB, .flush, .write 3, .emit,
      .connect, .serveGap owner, .answerGap]
    ∃ w, actions.foldlM (LiveWorld.step defaultReplay) .start = some w ∧
      w.viewer.terminal = [['a', 'b'], ['a', 'b']] ∧
      Holds (fun w => Shows defaultReplay w ∧ CaughtUp w)
        (traceOf (LiveWorld.step defaultReplay) .start actions) w := by
  intro actions
  obtain ⟨w, hw⟩ : ∃ w, actions.foldlM (LiveWorld.step defaultReplay) .start = some w :=
    Option.isSome_iff_exists.mp (by decide +kernel)
  have hterminal : (actions.foldlM (LiveWorld.step defaultReplay) .start).any
      (fun w => w.viewer.terminal == [['a', 'b'], ['a', 'b']]) = true := by decide +kernel
  rw [hw, Option.any_some] at hterminal
  exact ⟨w, hw, eq_of_beq hterminal, live_lines_right (Run.of_foldlM hw) (by decide +kernel)⟩

/-- **Half a line is taken for a line** when the log is read while the line is written; and **an
answer that brings nothing new ends the request** that was to be followed by another one. -/
theorem live_lines_wrong :
    (¬ ∀ (cfg : ReplayConfig) (w : LiveWorld) (tr : List (LiveWorld × LiveAction)),
      Run (LiveWorld.Step cfg) .start tr w → Holds (Shows cfg) tr w) ∧
    ¬ ∀ (cfg : ReplayConfig) (w : LiveWorld) (tr : List (LiveWorld × LiveAction)),
      Run (LiveWorld.Step cfg) .start tr w → Holds CaughtUp tr w := by
  constructor
  · intro hall
    let actions : List LiveAction :=
      [.line lineAB, .flush, .write 1, .connect, .serveInitial owner, .answerInitial]
    obtain ⟨w, hw⟩ : ∃ w, actions.foldlM (LiveWorld.step defaultReplay) .start = some w :=
      Option.isSome_iff_exists.mp (by decide +kernel)
    have hhalf : (actions.foldlM (LiveWorld.step defaultReplay) .start).any
        (fun w => w.viewer.terminal[0]? = some ['a'] && w.log.lines[0]? = some lineAB) = true := by
      decide +kernel
    rw [hw, Option.any_some, Bool.and_eq_true] at hhalf
    obtain ⟨line, hline, hcomplete⟩ :=
      (hall defaultReplay w _ (Run.of_foldlM hw)).2 0 ['a'] (of_decide_eq_true hhalf.1)
    cases (of_decide_eq_true hhalf.2).symm.trans hline
    exact absurd hcomplete (by decide +kernel)
  · intro hall
    let actions : List LiveAction := [.connect, .serveInitial owner, .answerInitial, .disconnect,
      .connect, .serveGap owner, .disconnect, .line lineAB, .flush, .write 3, .emit, .connect,
      .line lineAB, .flush, .write 3, .emit, .deliver, .answerGap]
    obtain ⟨w, hw⟩ : ∃ w, actions.foldlM (LiveWorld.step defaultReplay) .start = some w :=
      Option.isSome_iff_exists.mp (by decide +kernel)
    have hrest : (actions.foldlM (LiveWorld.step defaultReplay) .start).any (fun w =>
        decide (AtRest w) && decide (¬ w.viewer.heard ≤ w.viewer.terminal.length)) = true := by
      decide +kernel
    rw [hw, Option.any_some, Bool.and_eq_true] at hrest
    exact of_decide_eq_true hrest.2
      ((hall defaultReplay w _ (Run.of_foldlM hw)).2 (of_decide_eq_true hrest.1))

end StabilityPlatform.LiveConsole
