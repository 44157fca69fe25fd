import StabilityPlatform.Aee.Timestamp
import StabilityPlatform.Lib.Dict
import StabilityPlatform.Lib.Run
import StabilityPlatform.Lib.StableSort

/-!
# Pulling the crashes of a device

A device keeps a line for every crash in its history. The agent keeps two books for each kind of
history: the lines that are processed, and those whose files are still to be pulled, with how often
that has failed. A run reads the history, enters the new lines as pending, and goes through the
pending ones: it pulls and verifies the files and processes the line, or counts a failure, until
there have been too many. The books are stored one after the other, and a restart may come in
between.

## Main results

* `PullWorld.step`: the steps of the runs, and restarts.
* `PullInv.step`: **no line is lost**, and a line is processed for a reason.
* `ApartInv.step`: **in both books** is only what a restart tore; `CountInv.step`: without
  restarts, the pending lines count how often they failed.
* `history_lines_kept`: what holds of the books in every state a device gets into.
-/

namespace StabilityPlatform

open Lib

/-! ### Lines of a history -/

/-- The kinds of histories. -/
inductive AeeType where
  | aeeExp
  | vendorAeeExp
  deriving DecidableEq, Repr

/-- What a line of a history tells. -/
structure ParsedLine where
  dbPath : String
  pkgName : String
  timestamp : String
  /-- `ANR` or `CRASH`. -/
  eventType : String
  rawEventType : String
  eventSubtype : String
  deriving DecidableEq

/-- `sub in s`. -/
def hasSubstring (s sub : String) : Bool := decide (sub.toList <:+: s.toList)

/-- `normalize_aee_event_type`. -/
def normalizeAeeEventType (rawEventType : String) : String :=
  let normalized := pyUpper (pyStrip rawEventType)
  if normalized = "" then "" else if hasSubstring normalized "ANR" then "ANR" else "CRASH"

/-- `" ".join(s.split())`. -/
def joinBlanks (s : String) : String :=
  " ".intercalate (((s.toList.splitOnP isPySpace).filter (· ≠ [])).map String.ofList)

/-- `normalize_aee_subtype`, without a category. -/
def normalizeAeeSubtype (rawEventType eventType : String) : String :=
  let normalized := joinBlanks (pyUpper (pyStrip rawEventType))
  let has := hasSubstring normalized
  if pyUpper (pyStrip eventType) = "ANR" then "ANR"
  else if normalized = "" then "其他"
  else if has "FATAL" && has "JE" then "Fatal JE"
  else if has "FATAL" && (has "NATIVE" || has "(NE)" || pyStartsWith normalized "SIG") then
    "Fatal NE"
  else if has "COMBO" && has "EE" then "Combo EE"
  else if has "KERNEL" && has "API" && has "DUMP" then "Kernel API Dump"
  else if has "SYSTEM" && has "API" && has "DUMP" then "System API Dump"
  else if has "MODEM" && has "EE" then "Modem EE"
  else if has "OCP" && has "REBOOT" then "OCP Reboot"
  else if has "HW" && has "REBOOT" then "HW Reboot"
  else if normalized = "HWT" || hasSubstring (" " ++ normalized) " HWT" ||
      hasSubstring (normalized ++ " ") "HWT " then "HWT"
  else if has "HANG_DETECT" || normalized = "HANG" then "HANG"
  else if normalized = "KE" || has "KERNEL EXCEPTION" then "KE"
  else if has "SWT" then "SWT"
  else if has "JAVA" || has "(JE)" || normalized = "JE" then "JE"
  else if has "NATIVE" || has "(NE)" || normalized = "NE" || pyStartsWith normalized "SIG" then
    "NE"
  else "其他"

/-- `parse_db_history_line`. -/
def parseDbHistoryLine (lineContent : String) : Option ParsedLine :=
  let parts := pySplit lineContent ','
  let part := fun i => pyStrip (parts.getD i "")
  if parts.length < 10 then none
  else
    let eventType := normalizeAeeEventType (part 1)
    let parsed : ParsedLine :=
      ⟨part 0, part 8, part 9, eventType, part 1, normalizeAeeSubtype (part 1) eventType⟩
    if parsed.dbPath = "" ∨ parsed.pkgName = "" ∨ parsed.timestamp = "" then none
    else some parsed

/-- `parse_vendor_db_history_line`. -/
def parseVendorDbHistoryLine (lineContent : String) : Option ParsedLine :=
  let normalizedLine := pyStrip lineContent
  if normalizedLine = "" ∨ pyStartsWith normalizedLine "androidboot.bootreason=" = true then none
  else if pyStartsWith normalizedLine "/data/vendor/aee_exp/db." = true then
    parseDbHistoryLine lineContent
  else none

/-- `parse_effective_db_history_line`. -/
def parseEffectiveDbHistoryLine (lineContent : String) : AeeType → Option ParsedLine
  | .vendorAeeExp => parseVendorDbHistoryLine lineContent
  | .aeeExp => parseDbHistoryLine lineContent

/-- The line breaks of `str.splitlines`. -/
def isLineBreak (c : Char) : Bool :=
  (10 ≤ c.toNat && c.toNat ≤ 13) || (28 ≤ c.toNat && c.toNat ≤ 30) ||
    [0x85, 0x2028, 0x2029].contains c.toNat

/-- The lines of a text; `line` is what there is of the current one, in reverse. -/
def splitLinesFrom (line : List Char) : List Char → List (List Char)
  | [] => if line = [] then [] else [line.reverse]
  | '\r' :: '\n' :: rest => line.reverse :: splitLinesFrom [] rest
  | c :: rest =>
    if isLineBreak c then line.reverse :: splitLinesFrom [] rest
    else splitLinesFrom (c :: line) rest

/-- `[ln for ln in content.strip().splitlines() if ln.strip()]`. -/
def historyLines (content : String) : List String :=
  ((splitLinesFrom [] (pyStrip content).toList).map String.ofList).filter fun line =>
    pyStrip line ≠ ""

example : historyLines "a,b\r\nc\n \nd" = ["a,b", "c", "d"] := by decide +kernel

/-! ### The books -/

/-- A line whose files are to be pulled. -/
structure PendingTask extends ParsedLine where
  retryCount : ℕ
  lastError : Option String
  failureReported : Bool
  deriving DecidableEq

/-- The books of one kind of history. -/
structure Books where
  processed : Finset String
  pending : Dict PendingTask

/-- `ProcessConfig`, with the callbacks that are given. -/
structure ProcessConfig where
  aeePaths : List String
  filterDbLogs : Bool
  whitelist : Finset String
  pullRetryLimit : ℤ
  maxEntriesPerRun : Option ℤ
  /-- Whether `on_pull_failed` is given. -/
  reportsFailures : Bool

/-- `remaining_budget` at the start of a run. -/
def ProcessConfig.budget (cfg : ProcessConfig) : Option ℕ :=
  match cfg.maxEntriesPerRun with
  | some n => if 0 < n then some n.toNat else none
  | none => none

/-- A line passes the filter. -/
def ProcessConfig.passes (cfg : ProcessConfig) (aeeType : AeeType) (line : String) : Bool :=
  match parseEffectiveDbHistoryLine line aeeType with
  | none => false
  | some parsed =>
    decide (aeeType ≠ .aeeExp) || !cfg.filterDbLogs || decide (parsed.pkgName ∈ cfg.whitelist)

/-- The kind of history a path has. -/
def aeeTypeOf (remoteAeePath : String) : AeeType :=
  if hasSubstring remoteAeePath "vendor" then .vendorAeeExp else .aeeExp

/-- A new line is entered as pending. -/
def notePending (aeeType : AeeType) (processed : Finset String) (pending : Dict PendingTask)
    (line : String) : Dict PendingTask :=
  match parseEffectiveDbHistoryLine line aeeType with
  | none => pending
  | some parsed =>
    if line ∉ processed ∧ line ∉ pending.keys then pending.set line ⟨parsed, 0, none, false⟩
    else pending

section Order

variable (word : Char → Bool)

/-- What pending lines are sorted by: when, on the clock of the device; first those without. -/
def pendingSortKey (item : String × PendingTask) : WithBot Time :=
  (asDeviceLocalNaive (parseTimestamp word item.2.timestamp)).map DateTime.clock

/-- `_iter_pending_tasks_newest_first`. -/
def iterPendingTasksNewestFirst (pending : Dict PendingTask) : List (String × PendingTask) :=
  sortBy (fun item => OrderDual.toDual (pendingSortKey word item)) pending.items

end Order

/-! ### Runs -/

/-- A path a run is at. -/
structure PathScan where
  aeeType : AeeType
  passed : List String
  processed : Finset String
  pending : Dict PendingTask
  queue : List (String × PendingTask)

/-- What a run is doing. -/
inductive PullPhase where
  | idle
  | paths (budget : Option ℕ) (rest : List String)
  | entries (scan : PathScan) (budget : Option ℕ) (rest : List String)
  | finalizing (scan : PathScan) (budget : Option ℕ) (rest : List String)

/-- The books of a device as they are stored, and the run. -/
structure PullWorld where
  books : AeeType → Books
  phase : PullPhase

/-- A device nothing was pulled from. -/
def PullWorld.initial : PullWorld := ⟨fun _ => ⟨∅, .empty⟩, .idle⟩

/-- How the attempt at a line goes. -/
structure EntryOutcome where
  existing : Option Bool
  pulled : Bool
  verified : Except String Unit
  /-- Whether `on_entry_intent` returns; else what it raises. -/
  intent : Except String Unit
  inferredSubtype : Option String
  packageName : Option String

/-- Whether the files are there and verified in the end. -/
def EntryOutcome.hasFiles (outcome : EntryOutcome) : Bool :=
  outcome.existing == some true || (outcome.pulled && outcome.verified.isOk)

/-- `last_error` when the files are not there. -/
def EntryOutcome.pullError (outcome : EntryOutcome) : String :=
  if outcome.pulled then
    match outcome.verified with
    | .error message => "verify_failed: " ++ message
    | .ok _ => ""
  else "adb_pull_failed"

/-- `_enrich_parsed_with_local_aee_metadata`. -/
def PendingTask.enrich (task : PendingTask) (outcome : EntryOutcome) : PendingTask :=
  let subtype := pyStrip task.eventSubtype
  let task :=
    if subtype = "" ∨ subtype = "其他" then
      match outcome.inferredSubtype with
      | some inferred =>
        { task with
          eventSubtype := inferred
          eventType := if inferred = "ANR" then "ANR" else "CRASH" }
      | none => task
    else task
  { task with pkgName := outcome.packageName.getD task.pkgName }

/-- A failure is counted. -/
def PendingTask.failed (task : PendingTask) (error : String) (reported : Bool) : PendingTask :=
  { task with
    retryCount := task.retryCount + 1
    lastError := some error
    failureReported := task.failureReported || reported }

/-- What happens. -/
inductive PullOp where
  | begin (writable : Bool)
  | stopBeforeScan
  | scan (history : Option String)
  | entry (outcome : EntryOutcome)
  | savePending
  | stopMidTick
  | endPath
  | finish
  | restart

/-- Books are stored. -/
def PullWorld.store (w : PullWorld) (aeeType : AeeType) (books : Books) : AeeType → Books :=
  Function.update w.books aeeType books

/-- A path with a history: the new lines that pass the filter are entered as pending. -/
def PathScan.start (cfg : ProcessConfig) (word : Char → Bool) (aeeType : AeeType) (books : Books)
    (currentLines : List String) : PathScan :=
  let passed := currentLines.filter (cfg.passes aeeType)
  let pending := passed.foldl (notePending aeeType books.processed) books.pending
  ⟨aeeType, passed, books.processed, pending, iterPendingTasksNewestFirst word pending⟩

/-- The run opens a path. -/
def openScan (cfg : ProcessConfig) (word : Char → Bool) (books : AeeType → Books) (path : String)
    (content : String) : PathScan :=
  .start cfg word (aeeTypeOf path) (books (aeeTypeOf path)) (historyLines content)

/-- The run breaks off at a line that would be tried, having tried enough. -/
def PathScan.breaksAt (cfg : ProcessConfig) (scan : PathScan) (budget : Option ℕ)
    (line : String) (task : PendingTask) : Prop :=
  line ∉ scan.processed ∧ task.dbPath ≠ "" ∧ task.timestamp ≠ "" ∧
    (task.retryCount : ℤ) < cfg.pullRetryLimit ∧ budget = some 0

instance (cfg : ProcessConfig) (scan : PathScan) (budget : Option ℕ) (line : String)
    (task : PendingTask) : Decidable (scan.breaksAt cfg budget line task) :=
  inferInstanceAs (Decidable (_ ∧ _))

/-- A pending line is struck. -/
def PathScan.strike (scan : PathScan) (line : String) (queue : List (String × PendingTask)) :
    PathScan :=
  { scan with pending := scan.pending.erase line, queue := queue }

/-- A line becomes processed. -/
def PathScan.process (scan : PathScan) (line : String) (queue : List (String × PendingTask)) :
    PathScan :=
  { scan.strike line queue with processed := insert line scan.processed }

/-- A line stays pending. -/
def PathScan.keep (scan : PathScan) (line : String) (task : PendingTask)
    (queue : List (String × PendingTask)) : PathScan :=
  { scan with pending := scan.pending.set line task, queue := queue }

/-- The books a path has in memory. -/
def PathScan.books (scan : PathScan) : Books := ⟨scan.processed, scan.pending⟩

/-- A line is tried. -/
def PullWorld.attempt (cfg : ProcessConfig) (w : PullWorld) (scan : PathScan) (budget : Option ℕ)
    (rest : List String) (line : String) (task : PendingTask)
    (queue : List (String × PendingTask)) (outcome : EntryOutcome) : PullWorld :=
  let stored := w.books scan.aeeType
  if outcome.hasFiles then
    match outcome.intent with
    | .error raised =>
      let kept := (task.enrich outcome).failed ("emit_intent_placeholder_failed: " ++ raised) false
      let scan := scan.keep line kept queue
      ⟨w.store scan.aeeType { stored with pending := scan.pending }, .entries scan budget rest⟩
    | .ok _ =>
      let scan := scan.process line queue
      ⟨w.store scan.aeeType { stored with processed := scan.processed },
        .finalizing scan budget rest⟩
  else
    let kept := task.failed outcome.pullError cfg.reportsFailures
    { w with phase := .entries (scan.keep line kept queue) budget rest }

/-- The run comes to a pending line. -/
def PullWorld.handle (cfg : ProcessConfig) (w : PullWorld) (scan : PathScan) (budget : Option ℕ)
    (rest : List String) (line : String) (task : PendingTask)
    (queue : List (String × PendingTask)) (outcome : EntryOutcome) : PullWorld :=
  if line ∈ scan.processed ∨ task.dbPath = "" ∨ task.timestamp = "" then
    { w with phase := .entries (scan.strike line queue) budget rest }
  else if cfg.pullRetryLimit ≤ task.retryCount then
    let scan := scan.process line queue
    ⟨w.store scan.aeeType { w.books scan.aeeType with processed := scan.processed },
      .entries scan budget rest⟩
  else w.attempt cfg scan (budget.map (· - 1)) rest line task queue outcome

/-- The pending lines of a path are stored. -/
def PullWorld.savePending (w : PullWorld) (scan : PathScan) (phase : PullPhase) : PullWorld :=
  ⟨w.store scan.aeeType { w.books scan.aeeType with pending := scan.pending }, phase⟩

/-- One step, if it can be taken. -/
def PullWorld.step (cfg : ProcessConfig) (word : Char → Bool) (w : PullWorld) :
    PullOp → Option PullWorld
  | .begin writable =>
    match w.phase with
    | .idle => some { w with phase := if writable then .paths cfg.budget cfg.aeePaths else .idle }
    | _ => none
  | .stopBeforeScan =>
    match w.phase with
    | .paths _ (_ :: _) => some { w with phase := .idle }
    | _ => none
  | .scan history =>
    match w.phase with
    | .paths budget (path :: rest) =>
      match history with
      | none => some { w with phase := .paths budget rest }
      | some content =>
        some { w with phase := .entries (openScan cfg word w.books path content) budget rest }
    | _ => none
  | .entry outcome =>
    match w.phase with
    | .entries scan budget rest =>
      match scan.queue with
      | (line, task) :: queue =>
        if scan.breaksAt cfg budget line task then none
        else some (w.handle cfg scan budget rest line task queue outcome)
      | [] => none
    | _ => none
  | .savePending =>
    match w.phase with
    | .finalizing scan budget rest => some (w.savePending scan (.entries scan budget rest))
    | _ => none
  | .stopMidTick =>
    match w.phase with
    | .entries scan _ _ => if scan.queue = [] then none else some (w.savePending scan .idle)
    | _ => none
  | .endPath =>
    match w.phase with
    | .entries scan budget rest =>
      if ∀ item ∈ scan.queue.head?, scan.breaksAt cfg budget item.1 item.2 then
        some (w.savePending scan (.paths budget rest))
      else none
    | _ => none
  | .finish =>
    match w.phase with
    | .paths _ [] => some { w with phase := .idle }
    | _ => none
  | .restart => some { w with phase := .idle }

/-- The steps as a relation. -/
def PullWorld.Step (cfg : ProcessConfig) (word : Char → Bool) (w : PullWorld) (op : PullOp)
    (w' : PullWorld) : Prop :=
  w.step cfg word op = some w'

/-! ### What happened -/

/-- What the steps tell of the lines. -/
inductive PullSign where
  | recorded (aeeType : AeeType) (line : String)
  | verified (aeeType : AeeType) (line : String)
  | failed (aeeType : AeeType) (line : String)
  deriving DecidableEq

/-- What an attempt tells. -/
def EntryOutcome.signs (outcome : EntryOutcome) (aeeType : AeeType) (line : String) :
    List PullSign :=
  if outcome.hasFiles then
    .verified aeeType line :: if outcome.intent.isOk then [] else [.failed aeeType line]
  else [.failed aeeType line]

/-- A line is tried when the run comes to it. -/
def PathScan.tries (cfg : ProcessConfig) (scan : PathScan) (line : String) (task : PendingTask) :
    Prop :=
  ¬ (line ∈ scan.processed ∨ task.dbPath = "" ∨ task.timestamp = "") ∧
    ¬ cfg.pullRetryLimit ≤ task.retryCount

instance (cfg : ProcessConfig) (scan : PathScan) (line : String) (task : PendingTask) :
    Decidable (scan.tries cfg line task) :=
  inferInstanceAs (Decidable (_ ∧ _))

/-- What a step tells. -/
def PullWorld.signs (cfg : ProcessConfig) (w : PullWorld) : PullOp → List PullSign
  | .entry outcome =>
    match w.phase with
    | .entries scan _ _ =>
      match scan.queue with
      | (line, task) :: _ =>
        if scan.tries cfg line task then outcome.signs scan.aeeType line else []
      | [] => []
    | _ => []
  | .endPath | .stopMidTick =>
    match w.phase with
    | .entries scan _ _ => scan.passed.map (.recorded scan.aeeType)
    | _ => []
  | _ => []

/-- How often attempts at a line have failed. -/
def failures (log : List PullSign) (aeeType : AeeType) (line : String) : ℕ :=
  log.count (.failed aeeType line)

/-- Failures are not forgotten. -/
theorem failures_append (log signs : List PullSign) (aeeType : AeeType) (line : String) :
    failures (log ++ signs) aeeType line =
      failures log aeeType line + failures signs aeeType line :=
  List.count_append

/-! ### What a step does -/

/-- The path a run is at. -/
def PullPhase.scan? : PullPhase → Option PathScan
  | .entries scan _ _ => some scan
  | .finalizing scan _ _ => some scan
  | _ => none

/-- What a step does. -/
inductive PullEffect (cfg : ProcessConfig) (word : Char → Bool) (w : PullWorld) :
    PullOp → PullWorld → Prop
  | moves (op : PullOp) (phase : PullPhase) (hfrom : w.phase.scan? = none)
      (hto : phase.scan? = none) (hsigns : w.signs cfg op = []) (hop : op ≠ .restart) :
      PullEffect cfg word w op { w with phase := phase }
  | opens (history : Option String) (path content : String) (budget : Option ℕ)
      (rest : List String) (hfrom : w.phase.scan? = none) :
      PullEffect cfg word w (.scan history)
        { w with phase := .entries (openScan cfg word w.books path content) budget rest }
  | handles (outcome : EntryOutcome) (scan : PathScan) (budget : Option ℕ) (rest : List String)
      (line : String) (task : PendingTask) (queue : List (String × PendingTask))
      (hphase : w.phase = .entries scan budget rest)
      (hqueue : scan.queue = (line, task) :: queue) :
      PullEffect cfg word w (.entry outcome)
        (w.handle cfg scan budget rest line task queue outcome)
  | saves (scan : PathScan) (budget : Option ℕ) (rest : List String)
      (hphase : w.phase = .finalizing scan budget rest) :
      PullEffect cfg word w .savePending (w.savePending scan (.entries scan budget rest))
  | records (op : PullOp) (scan : PathScan) (budget : Option ℕ) (rest : List String)
      (phase : PullPhase) (hphase : w.phase = .entries scan budget rest)
      (hto : phase.scan? = none) (hsigns : w.signs cfg op = scan.passed.map (.recorded scan.aeeType))
      (hop : op ≠ .restart) :
      PullEffect cfg word w op (w.savePending scan phase)
  | restarts : PullEffect cfg word w .restart { w with phase := .idle }

/-- A step does one of these. -/
theorem PullWorld.step_effect {cfg : ProcessConfig} {word : Char → Bool} {w w' : PullWorld}
    {op : PullOp} (hstep : w.Step cfg word op w') : PullEffect cfg word w op w' := by
  obtain ⟨books, phase⟩ := w
  rw [PullWorld.Step, PullWorld.step.eq_def] at hstep
  cases op with
  | begin writable =>
      cases phase with
      | idle =>
          rw [← Option.some.inj hstep]
          exact .moves _ _ rfl (by cases writable <;> rfl) rfl PullOp.noConfusion
      | _ => cases hstep
  | stopBeforeScan =>
      cases phase with
      | paths budget rest =>
          cases rest with
          | nil => cases hstep
          | cons path rest =>
              rw [← Option.some.inj hstep]
              exact .moves _ _ rfl rfl rfl PullOp.noConfusion
      | _ => cases hstep
  | scan history =>
      cases phase with
      | paths budget rest =>
          cases rest with
          | nil => cases hstep
          | cons path rest =>
              cases history with
              | none =>
                  rw [← Option.some.inj hstep]
                  exact .moves _ _ rfl rfl rfl PullOp.noConfusion
              | some content =>
                  rw [← Option.some.inj hstep]
                  exact .opens _ path content budget rest rfl
      | _ => cases hstep
  | entry outcome =>
      cases phase with
      | entries scan budget rest =>
          dsimp only at hstep
          split at hstep
          · rename_i line task queue hqueue
            split at hstep
            · cases hstep
            · rw [← Option.some.inj hstep]
              exact .handles outcome scan budget rest line task queue rfl hqueue
          · cases hstep
      | _ => cases hstep
  | savePending =>
      cases phase with
      | finalizing scan budget rest =>
          rw [← Option.some.inj hstep]
          exact .saves scan budget rest rfl
      | _ => cases hstep
  | stopMidTick =>
      cases phase with
      | entries scan budget rest =>
          dsimp only at hstep
          split at hstep
          · cases hstep
          · rw [← Option.some.inj hstep]
            exact .records _ scan budget rest _ rfl rfl rfl PullOp.noConfusion
      | _ => cases hstep
  | endPath =>
      cases phase with
      | entries scan budget rest =>
          dsimp only at hstep
          split at hstep
          · rw [← Option.some.inj hstep]
            exact .records _ scan budget rest _ rfl rfl rfl PullOp.noConfusion
          · cases hstep
      | _ => cases hstep
  | finish =>
      cases phase with
      | paths budget rest =>
          cases rest with
          | nil =>
              rw [← Option.some.inj hstep]
              exact .moves _ _ rfl rfl rfl PullOp.noConfusion
          | cons _ _ => cases hstep
      | _ => cases hstep
  | restart =>
      rw [← Option.some.inj hstep]
      exact .restarts

/-- What a step tells when the run comes to a line. -/
theorem PullWorld.signs_entry {cfg : ProcessConfig} {w : PullWorld} {outcome : EntryOutcome}
    {scan : PathScan} {budget : Option ℕ} {rest : List String} {line : String}
    {task : PendingTask} {queue : List (String × PendingTask)}
    (hphase : w.phase = .entries scan budget rest) (hqueue : scan.queue = (line, task) :: queue) :
    w.signs cfg (.entry outcome) =
      if scan.tries cfg line task then outcome.signs scan.aeeType line else [] := by
  rw [PullWorld.signs]
  simp only [hphase, hqueue]

/-! ### Books in order -/

section Invariant

variable {cfg : ProcessConfig} {log signs : List PullSign} {aeeType : AeeType}

/-- Books are in order. -/
structure BooksOk (cfg : ProcessConfig) (log : List PullSign) (aeeType : AeeType) (b : Books) :
    Prop where
  pending : ∀ line task, b.pending.get? line = some task →
    task.dbPath ≠ "" ∧ task.timestamp ≠ "" ∧ task.retryCount ≤ failures log aeeType line
  processed : ∀ line ∈ b.processed, .verified aeeType line ∈ log ∨
    cfg.pullRetryLimit ≤ failures log aeeType line
  recorded : ∀ line, .recorded aeeType line ∈ log → line ∈ b.processed ∨ line ∈ b.pending.keys

/-- What happens later does not put the books out of order. -/
theorem BooksOk.mono {b : Books} (h : BooksOk cfg log aeeType b)
    (hrecorded : ∀ line, .recorded aeeType line ∈ signs →
      line ∈ b.processed ∨ line ∈ b.pending.keys) : BooksOk cfg (log ++ signs) aeeType b where
  pending line task hline := by
    obtain ⟨hpath, htime, hcount⟩ := h.pending line task hline
    rw [failures_append]
    exact ⟨hpath, htime, hcount.trans (Nat.le_add_right ..)⟩
  processed line hline := by
    rw [failures_append, List.mem_append]
    rcases h.processed line hline with hverified | hlimit
    · exact .inl (.inl hverified)
    · right
      push_cast
      omega
  recorded line hline := by
    rcases List.mem_append.mp hline with hold | hnew
    · exact h.recorded line hold
    · exact hrecorded line hnew

/-- A line that is struck is still in one of the books, if it is processed. -/
theorem mem_books_erase {b : Books} {line other : String} (hline : line ∈ b.processed)
    (h : other ∈ b.processed ∨ other ∈ b.pending.keys) :
    other ∈ b.processed ∨ other ∈ (b.pending.erase line).keys := by
  rcases h with h | h
  · exact .inl h
  · by_cases hsame : other = line
    · exact .inl (hsame ▸ hline)
    · obtain ⟨task, htask⟩ := Dict.mem_keys_iff.mp h
      refine .inr (Dict.mem_keys_iff.mpr ⟨task, ?_⟩)
      rw [Dict.get?_erase, if_neg hsame, htask]

/-- Striking a line that is processed. -/
theorem BooksOk.strike {b : Books} (h : BooksOk cfg log aeeType b) {line : String}
    (hline : line ∈ b.processed) :
    BooksOk cfg log aeeType ⟨b.processed, b.pending.erase line⟩ where
  pending other task hother := by
    rw [Dict.get?_erase] at hother
    split at hother
    · cases hother
    · exact h.pending other task hother
  processed := h.processed
  recorded other hother := mem_books_erase hline (h.recorded other hother)

/-- Processing a line for a reason. -/
theorem BooksOk.process {b : Books} (h : BooksOk cfg log aeeType b) {line : String}
    (hreason : .verified aeeType line ∈ log ∨ cfg.pullRetryLimit ≤ failures log aeeType line) :
    BooksOk cfg log aeeType ⟨insert line b.processed, b.pending⟩ where
  pending := h.pending
  processed other hother := by
    rcases Finset.mem_insert.mp hother with rfl | hother
    · exact hreason
    · exact h.processed other hother
  recorded other hother := (h.recorded other hother).imp_left Finset.mem_insert_of_mem

/-- Keeping a line pending. -/
theorem BooksOk.keep {b : Books} (h : BooksOk cfg log aeeType b) {line : String}
    {task : PendingTask} (hpath : task.dbPath ≠ "") (htime : task.timestamp ≠ "")
    (hcount : task.retryCount ≤ failures log aeeType line) :
    BooksOk cfg log aeeType ⟨b.processed, b.pending.set line task⟩ where
  pending other task' hother := by
    rw [Dict.get?_set] at hother
    split at hother
    · rename_i hsame
      cases hother
      exact ⟨hpath, htime, hsame ▸ hcount⟩
    · exact h.pending other task' hother
  processed := h.processed
  recorded other hother := by
    refine (h.recorded other hother).imp_right fun hkey => ?_
    obtain ⟨task', htask'⟩ := Dict.mem_keys_iff.mp hkey
    rw [Dict.mem_keys_iff]
    by_cases hsame : other = line
    · exact ⟨task, by rw [hsame, Dict.get?_set_self]⟩
    · exact ⟨task', by rw [Dict.get?_set_of_ne _ _ hsame, htask']⟩

/-! ### A path in order -/

/-- A run is in order at a path. -/
structure ScanOk (cfg : ProcessConfig) (log : List PullSign) (w : PullWorld) (scan : PathScan) :
    Prop where
  books : BooksOk cfg log scan.aeeType scan.books
  stored : (w.books scan.aeeType).processed = scan.processed
  passed : ∀ line ∈ scan.passed, line ∈ scan.processed ∨ line ∈ scan.pending.keys
  queue : ∀ item ∈ scan.queue, scan.pending.get? item.1 = some item.2
  nodup : (scan.queue.map Prod.fst).Nodup

/-- The books are in order, and the run is. -/
structure PullInv (cfg : ProcessConfig) (log : List PullSign) (w : PullWorld) : Prop where
  books : ∀ aeeType, BooksOk cfg log aeeType (w.books aeeType)
  scan : ∀ scan, w.phase.scan? = some scan → ScanOk cfg log w scan

/-- Nothing is recorded in an attempt. -/
theorem recorded_notMem_signs (outcome : EntryOutcome) (aeeType aeeType' : AeeType)
    (line line' : String) : .recorded aeeType line ∉ outcome.signs aeeType' line' := by
  rw [EntryOutcome.signs]
  split
  · split
    · simp
    · simp
  · simp

/-- A line is parsed with a path and a time. -/
theorem parse_nonempty {line : String} {aeeType : AeeType} {parsed : ParsedLine}
    (h : parseEffectiveDbHistoryLine line aeeType = some parsed) :
    parsed.dbPath ≠ "" ∧ parsed.timestamp ≠ "" := by
  have hplain : ∀ {parsed : ParsedLine}, parseDbHistoryLine line = some parsed →
      parsed.dbPath ≠ "" ∧ parsed.timestamp ≠ "" := by
    intro parsed h
    rw [parseDbHistoryLine] at h
    dsimp only at h
    generalize normalizeAeeSubtype _ _ = subtype at h
    by_cases hshort : (pySplit line ',').length < 10
    · rw [if_pos hshort] at h
      cases h
    · rw [if_neg hshort] at h
      split at h
      · cases h
      · rename_i hne
        rw [not_or, not_or] at hne
        rw [← Option.some.inj h]
        exact ⟨hne.1, hne.2.2⟩
  cases aeeType with
  | aeeExp => exact hplain h
  | vendorAeeExp =>
      rw [parseEffectiveDbHistoryLine, parseVendorDbHistoryLine] at h
      split at h
      · cases h
      · split at h
        · exact hplain h
        · cases h

/-- A line that passes the filter parses. -/
theorem parse_of_passes {line : String} (h : cfg.passes aeeType line = true) :
    ∃ parsed, parseEffectiveDbHistoryLine line aeeType = some parsed := by
  rw [ProcessConfig.passes] at h
  split at h
  · cases h
  · exact ⟨_, by assumption⟩

/-- Entering a new line keeps the books in order, and the line is in one of them. -/
theorem BooksOk.notePending {processed : Finset String} {pending : Dict PendingTask}
    (h : BooksOk cfg log aeeType ⟨processed, pending⟩) (line : String) :
    BooksOk cfg log aeeType ⟨processed, notePending aeeType processed pending line⟩ := by
  rw [StabilityPlatform.notePending]
  split
  · exact h
  · rename_i parsed hparsed
    obtain ⟨hpath, htime⟩ := parse_nonempty hparsed
    split
    · exact h.keep hpath htime (Nat.zero_le _)
    · exact h

/-- Entering a line keeps the others entered. -/
theorem mem_keys_notePending {processed : Finset String} {pending : Dict PendingTask}
    {line other : String} (h : other ∈ pending.keys) :
    other ∈ (notePending aeeType processed pending line).keys := by
  rw [notePending]
  split
  · exact h
  · split
    · obtain ⟨task, htask⟩ := Dict.mem_keys_iff.mp h
      rename_i hnew
      have hne : other ≠ line := fun hsame => hnew.2 (hsame ▸ h)
      exact Dict.mem_keys_iff.mpr ⟨task, by rw [Dict.get?_set_of_ne _ _ hne, htask]⟩
    · exact h

/-- A line that parses is entered, unless it is processed. -/
theorem notePending_self (processed : Finset String) (pending : Dict PendingTask) {line : String}
    {parsed : ParsedLine} (h : parseEffectiveDbHistoryLine line aeeType = some parsed) :
    line ∈ processed ∨ line ∈ (notePending aeeType processed pending line).keys := by
  rw [notePending, h]
  dsimp only
  split
  · exact .inr (Dict.mem_keys_iff.mpr ⟨_, Dict.get?_set_self ..⟩)
  · rename_i hold
    rw [not_and_or, not_not, not_not] at hold
    exact hold

/-- Entering the lines of a history keeps the books in order, and each line is in one of them. -/
theorem BooksOk.notePendings {processed : Finset String} {pending : Dict PendingTask}
    {lines : List String} (h : BooksOk cfg log aeeType ⟨processed, pending⟩)
    (hpasses : ∀ line ∈ lines, cfg.passes aeeType line = true) :
    BooksOk cfg log aeeType ⟨processed,
        lines.foldl (StabilityPlatform.notePending aeeType processed) pending⟩ ∧
      ∀ line, line ∈ pending.keys ∨ line ∈ lines → line ∈ processed ∨
        line ∈ (lines.foldl (StabilityPlatform.notePending aeeType processed) pending).keys := by
  induction lines generalizing pending with
  | nil => exact ⟨h, fun line hline => .inr (hline.resolve_right (List.not_mem_nil))⟩
  | cons first rest ih =>
      rw [List.forall_mem_cons] at hpasses
      obtain ⟨hok, hmem⟩ := ih (h.notePending first) hpasses.2
      refine ⟨hok, fun line hline => ?_⟩
      rcases hline with hkey | hline
      · exact hmem line (.inl (mem_keys_notePending hkey))
      · rcases List.mem_cons.mp hline with rfl | hline
        · obtain ⟨parsed, hparsed⟩ := parse_of_passes hpasses.1
          rcases notePending_self processed pending hparsed with hdone | hkey
          · exact .inl hdone
          · exact hmem line (.inl hkey)
        · exact hmem line (.inr hline)

/-! ### One step -/

/-- The lines still to go through stay pending when another one changes. -/
theorem queue_of_ne {pending pending' : Dict PendingTask} {line : String}
    {queue : List (String × PendingTask)}
    (hsame : ∀ other, other ≠ line → pending'.get? other = pending.get? other)
    (hqueue : ∀ item ∈ queue, pending.get? item.1 = some item.2)
    (hline : line ∉ queue.map Prod.fst) :
    ∀ item ∈ queue, pending'.get? item.1 = some item.2 := by
  intro item hitem
  have hne : item.1 ≠ line := fun heq => hline (heq ▸ List.mem_map_of_mem (f := Prod.fst) hitem)
  rw [hsame item.1 hne, hqueue item hitem]

/-- Books read back after they are stored. -/
theorem PullWorld.store_self (w : PullWorld) (aeeType : AeeType) (b : Books) :
    w.store aeeType b aeeType = b := Function.update_self ..

/-- Storing books leaves the others. -/
theorem PullWorld.store_of_ne (w : PullWorld) {aeeType other : AeeType} (b : Books)
    (h : other ≠ aeeType) : w.store aeeType b other = w.books other := Function.update_of_ne h ..

/-- The books of a path are as they are in memory once its pending lines are stored. -/
theorem PullWorld.savePending_self {w : PullWorld} {scan : PathScan} (phase : PullPhase)
    (hstored : (w.books scan.aeeType).processed = scan.processed) :
    (w.savePending scan phase).books scan.aeeType = scan.books := by
  change w.store scan.aeeType _ scan.aeeType = _
  rw [PullWorld.store_self, hstored]
  rfl

/-- The other books are as they were. -/
theorem PullWorld.savePending_of_ne (w : PullWorld) {scan : PathScan} (phase : PullPhase)
    {other : AeeType} (h : other ≠ scan.aeeType) :
    (w.savePending scan phase).books other = w.books other := w.store_of_ne _ h

/-- Books that are stored in order leave the others in order. -/
theorem PullInv.store {w : PullWorld} (h : PullInv cfg log w) {b : Books} {phase : PullPhase}
    (hb : BooksOk cfg (log ++ signs) aeeType b)
    (hother : ∀ other line, other ≠ aeeType → .recorded other line ∉ signs)
    (hscan : ∀ scan, phase.scan? = some scan →
      ScanOk cfg (log ++ signs) ⟨w.store aeeType b, phase⟩ scan) :
    PullInv cfg (log ++ signs) ⟨w.store aeeType b, phase⟩ := by
  refine ⟨fun other => ?_, hscan⟩
  change BooksOk cfg (log ++ signs) other (w.store aeeType b other)
  by_cases hsame : other = aeeType
  · subst hsame
    rw [PullWorld.store_self]
    exact hb
  · rw [PullWorld.store_of_ne w b hsame]
    exact (h.books other).mono fun line hline => absurd hline (hother other line hsame)

/-- A step that leaves the books and is at no path. -/
theorem PullInv.leave {w : PullWorld} (h : PullInv cfg log w) {phase : PullPhase}
    (hphase : phase.scan? = none) : PullInv cfg (log ++ []) { w with phase := phase } := by
  rw [List.append_nil]
  refine ⟨h.books, fun scan hscan => ?_⟩
  rw [hphase] at hscan
  cases hscan

/-- A path is in order when it is opened. -/
theorem ScanOk.start {w : PullWorld} (h : PullInv cfg log w) (word : Char → Bool)
    (aeeType : AeeType) (currentLines : List String) :
    ScanOk cfg log w (.start cfg word aeeType (w.books aeeType) currentLines) := by
  obtain ⟨hok, hmem⟩ := BooksOk.notePendings (h.books aeeType)
    fun line (hline : line ∈ currentLines.filter (cfg.passes aeeType)) =>
      (List.mem_filter.mp hline).2
  refine ⟨hok, rfl, fun line hline => hmem line (.inr hline), fun item hitem => ?_, ?_⟩
  · exact Dict.get?_eq_some_iff.mpr (mem_sortBy.mp hitem)
  · exact ((sortBy_perm _ _).map Prod.fst).nodup_iff.mpr (Dict.nodup _)

/-- Opening a path. -/
theorem PullInv.openScan {w : PullWorld} (h : PullInv cfg log w) (word : Char → Bool)
    (path content : String) (budget : Option ℕ) (rest : List String) :
    PullInv cfg (log ++ [])
      { w with phase := .entries (openScan cfg word w.books path content) budget rest } := by
  rw [List.append_nil]
  refine ⟨h.books, fun scan hscan => ?_⟩
  have hok := ScanOk.start h word (aeeTypeOf path) (historyLines content)
  rw [← Option.some.inj hscan]
  exact ⟨hok.books, hok.stored, hok.passed, hok.queue, hok.nodup⟩

/-- A run goes on to the next line, when this one is in one of the books. -/
theorem ScanOk.advance {w w' : PullWorld} {scan scan' : PathScan} {line : String}
    {task : PendingTask} (h : ScanOk cfg log w scan)
    (hqueue : scan.queue = (line, task) :: scan'.queue) (htype : scan'.aeeType = scan.aeeType)
    (hpassed : scan'.passed = scan.passed)
    (hbooks : BooksOk cfg (log ++ signs) scan.aeeType scan'.books)
    (hstored : (w'.books scan.aeeType).processed = scan'.processed)
    (hline : line ∈ scan'.processed ∨ line ∈ scan'.pending.keys)
    (hsub : scan.processed ⊆ scan'.processed)
    (hsame : ∀ other, other ≠ line → scan'.pending.get? other = scan.pending.get? other) :
    ScanOk cfg (log ++ signs) w' scan' := by
  have hnodup := h.nodup
  have hitems := h.queue
  rw [hqueue, List.map_cons, List.nodup_cons] at hnodup
  rw [hqueue, List.forall_mem_cons] at hitems
  refine ⟨htype ▸ hbooks, htype ▸ hstored, fun other hother => ?_,
    queue_of_ne hsame hitems.2 hnodup.1, hnodup.2⟩
  by_cases heq : other = line
  · exact heq ▸ hline
  · rcases h.passed other (hpassed ▸ hother) with hdone | hkey
    · exact .inl (hsub hdone)
    · obtain ⟨task', htask'⟩ := Dict.mem_keys_iff.mp hkey
      exact .inr (Dict.mem_keys_iff.mpr ⟨task', by rw [hsame other heq, htask']⟩)

/-- The line a run comes to is pending. -/
theorem ScanOk.head {w : PullWorld} {scan : PathScan} {line : String} {task : PendingTask}
    {queue : List (String × PendingTask)} (h : ScanOk cfg log w scan)
    (hqueue : scan.queue = (line, task) :: queue) :
    task.dbPath ≠ "" ∧ task.timestamp ≠ "" ∧
      task.retryCount ≤ failures log scan.aeeType line := by
  refine h.books.pending line task (h.queue (line, task) ?_)
  rw [hqueue]
  exact List.mem_cons_self ..

/-- The run comes to a line that is processed. -/
theorem PullInv.strike {w : PullWorld} {scan : PathScan} {line : String} {task : PendingTask}
    {queue : List (String × PendingTask)} (h : PullInv cfg log w) (hok : ScanOk cfg log w scan)
    (hqueue : scan.queue = (line, task) :: queue) (hline : line ∈ scan.processed)
    (budget : Option ℕ) (rest : List String) :
    PullInv cfg (log ++ []) { w with phase := .entries (scan.strike line queue) budget rest } := by
  have hbooks := hok.books.strike hline
  refine ⟨fun other => ?_, fun scan' hscan' => ?_⟩
  · rw [List.append_nil]
    exact h.books other
  · rw [← Option.some.inj hscan']
    refine hok.advance hqueue rfl rfl ?_ hok.stored (.inl hline) (Finset.Subset.refl _)
      fun other hne => ?_
    · rw [List.append_nil]
      exact hbooks
    · exact (Dict.get?_erase ..).trans (if_neg hne)

/-- A line is stored as processed, for a reason. -/
theorem PullInv.process {w : PullWorld} {scan : PathScan} {line : String} {task : PendingTask}
    {queue : List (String × PendingTask)} (h : PullInv cfg log w) (hok : ScanOk cfg log w scan)
    (hqueue : scan.queue = (line, task) :: queue)
    (hsigns : ∀ other line, .recorded other line ∉ signs)
    (hreason : .verified scan.aeeType line ∈ log ++ signs ∨
      cfg.pullRetryLimit ≤ failures (log ++ signs) scan.aeeType line) {phase : PullPhase}
    (hphase : phase.scan? = some (scan.process line queue)) :
    PullInv cfg (log ++ signs) ⟨w.store scan.aeeType
      { w.books scan.aeeType with processed := (scan.process line queue).processed }, phase⟩ := by
  have hinsert : line ∈ insert line scan.processed := Finset.mem_insert_self ..
  have hdisk := ((h.books scan.aeeType).mono
    fun other hother => absurd hother (hsigns _ _)).process hreason
  have hmemory := ((hok.books.mono
    fun other hother => absurd hother (hsigns _ _)).process hreason).strike hinsert
  refine h.store ?_ (fun other line _ => hsigns other line) fun scan' hscan' => ?_
  · rw [hok.stored] at hdisk
    exact hdisk
  · rw [← Option.some.inj (hphase.symm.trans hscan')]
    refine hok.advance hqueue rfl rfl hmemory ?_ (.inl hinsert) (Finset.subset_insert ..)
      fun other hne => ?_
    · change (w.store scan.aeeType _ scan.aeeType).processed = _
      rw [PullWorld.store_self]
    · exact (Dict.get?_erase ..).trans (if_neg hne)

/-- A line that was tried stays pending in memory. -/
theorem ScanOk.keep {w w' : PullWorld} {scan : PathScan} {line : String} {task kept : PendingTask}
    {queue : List (String × PendingTask)} (h : ScanOk cfg log w scan)
    (hqueue : scan.queue = (line, task) :: queue)
    (hsigns : ∀ other line, .recorded other line ∉ signs)
    (hpath : kept.dbPath ≠ "") (htime : kept.timestamp ≠ "")
    (hcount : kept.retryCount ≤ failures (log ++ signs) scan.aeeType line)
    (hstored : (w'.books scan.aeeType).processed = scan.processed) :
    ScanOk cfg (log ++ signs) w' (scan.keep line kept queue) := by
  have hmemory := (h.books.mono
    fun other hother => absurd hother (hsigns _ _)).keep hpath htime hcount
  exact h.advance hqueue rfl rfl hmemory hstored
    (.inr (Dict.mem_keys_iff.mpr ⟨kept, Dict.get?_set_self ..⟩)) (Finset.Subset.refl _)
    fun other hne => Dict.get?_set_of_ne _ _ hne

/-- What the files tell leaves where they are, when it was, and what the line counts. -/
theorem PendingTask.enrich_eq (task : PendingTask) (outcome : EntryOutcome) :
    (task.enrich outcome).dbPath = task.dbPath ∧
      (task.enrich outcome).timestamp = task.timestamp ∧
      (task.enrich outcome).retryCount = task.retryCount := by
  rw [PendingTask.enrich]
  dsimp only
  split
  · cases outcome.inferredSubtype with
    | none => exact ⟨rfl, rfl, rfl⟩
    | some inferred => exact ⟨rfl, rfl, rfl⟩
  · exact ⟨rfl, rfl, rfl⟩

/-- A failed attempt counts. -/
theorem failures_signs {outcome : EntryOutcome} {line : String}
    (h : outcome.hasFiles = false ∨ outcome.intent.isOk = false) :
    failures (outcome.signs aeeType line) aeeType line = 1 := by
  rw [EntryOutcome.signs, failures]
  split
  · rename_i hfiles
    rw [hfiles] at h
    rw [h.resolve_left Bool.noConfusion, if_neg Bool.false_ne_true, List.count_cons_of_ne (by simp),
      List.count_singleton_self]
  · exact List.count_singleton_self

/-- The pending lines of a path are stored. -/
theorem PullInv.savePending {w : PullWorld} {scan : PathScan} {phase : PullPhase}
    (h : PullInv cfg log w)
    (hok : ScanOk cfg (log ++ signs) (w.savePending scan phase) scan)
    (hstored : (w.books scan.aeeType).processed = scan.processed)
    (hsigns : ∀ other line, other ≠ scan.aeeType → .recorded other line ∉ signs)
    (hphase : ∀ scan', phase.scan? = some scan' → scan' = scan) :
    PullInv cfg (log ++ signs) (w.savePending scan phase) := by
  refine h.store ?_ hsigns fun scan' hscan' => ?_
  · dsimp only
    rw [hstored]
    exact hok.books
  · rw [hphase scan' hscan']
    exact hok

/-- An attempt at a line. -/
theorem PullInv.attempt {w : PullWorld} {scan : PathScan} {line : String} {task : PendingTask}
    {queue : List (String × PendingTask)} (h : PullInv cfg log w) (hok : ScanOk cfg log w scan)
    (hqueue : scan.queue = (line, task) :: queue) (budget : Option ℕ) (rest : List String)
    (outcome : EntryOutcome) :
    PullInv cfg (log ++ outcome.signs scan.aeeType line)
      (w.attempt cfg scan budget rest line task queue outcome) := by
  obtain ⟨hpath, htime, hcount⟩ := hok.head hqueue
  have hsigns := fun other line' =>
    recorded_notMem_signs outcome other scan.aeeType line' line
  have hfailed : outcome.hasFiles = false ∨ outcome.intent.isOk = false →
      ∀ n, n = task.retryCount →
        n + 1 ≤ failures (log ++ outcome.signs scan.aeeType line) scan.aeeType line := by
    intro hfail n hn
    rw [failures_append, failures_signs hfail, hn]
    exact Nat.add_le_add_right hcount 1
  cases hfiles : outcome.hasFiles with
  | false =>
      rw [PullWorld.attempt]
      dsimp only
      rw [hfiles, if_neg Bool.false_ne_true]
      refine ⟨fun other => (h.books other).mono fun line' hline' => absurd hline' (hsigns _ _),
        fun scan' hscan' => ?_⟩
      rw [← Option.some.inj hscan']
      exact hok.keep hqueue hsigns hpath htime (hfailed (.inl hfiles) _ rfl) hok.stored
  | true =>
      rw [PullWorld.attempt]
      dsimp only
      rw [hfiles, if_pos rfl]
      cases hintent : outcome.intent with
      | error raised =>
          obtain ⟨henrichPath, henrichTime, henrichCount⟩ := task.enrich_eq outcome
          dsimp only
          generalize hkept : (task.enrich outcome).failed _ _ = kept
          have hkeptPath : kept.dbPath ≠ "" := by rw [← hkept]; exact henrichPath ▸ hpath
          have hkeptTime : kept.timestamp ≠ "" := by rw [← hkept]; exact henrichTime ▸ htime
          have hkeptCount : kept.retryCount ≤
              failures (log ++ outcome.signs scan.aeeType line) scan.aeeType line := by
            rw [← hkept]
            exact hfailed (.inr (by rw [hintent]; rfl)) _ henrichCount
          refine @PullInv.savePending _ _ _ _ (scan.keep line kept queue) _ h
            (hok.keep hqueue hsigns hkeptPath hkeptTime hkeptCount ?_) hok.stored
            (fun other line' _ => hsigns other line') fun scan' hscan' =>
              (Option.some.inj hscan').symm
          change (w.store scan.aeeType _ scan.aeeType).processed = _
          rw [PullWorld.store_self]
          exact hok.stored
      | ok _ =>
          refine h.process hok hqueue hsigns (.inl ?_) rfl
          rw [List.mem_append, EntryOutcome.signs, if_pos hfiles]
          exact .inr (List.mem_cons_self ..)

/-- What the run does with a line tells what an attempt tells, if it is tried. -/
theorem PullInv.handle {w : PullWorld} {scan : PathScan} {line : String} {task : PendingTask}
    {queue : List (String × PendingTask)} (h : PullInv cfg log w) (hok : ScanOk cfg log w scan)
    (hqueue : scan.queue = (line, task) :: queue) (budget : Option ℕ) (rest : List String)
    (outcome : EntryOutcome) :
    PullInv cfg
      (log ++ if scan.tries cfg line task then outcome.signs scan.aeeType line else [])
      (w.handle cfg scan budget rest line task queue outcome) := by
  obtain ⟨hpath, htime, hcount⟩ := hok.head hqueue
  rw [PullWorld.handle]
  by_cases hstruck : line ∈ scan.processed ∨ task.dbPath = "" ∨ task.timestamp = ""
  · rw [if_pos hstruck, if_neg fun htries => htries.1 hstruck]
    exact h.strike hok hqueue (hstruck.resolve_right (not_or.mpr ⟨hpath, htime⟩)) budget rest
  · rw [if_neg hstruck]
    by_cases hlimit : cfg.pullRetryLimit ≤ task.retryCount
    · rw [if_pos hlimit, if_neg fun htries => htries.2 hlimit]
      refine h.process hok hqueue (fun _ _ => List.not_mem_nil) (.inr ?_) rfl
      rw [List.append_nil]
      exact hlimit.trans (Int.ofNat_le.mpr hcount)
    · rw [if_neg hlimit, if_pos ⟨hstruck, hlimit⟩]
      exact h.attempt hok hqueue _ rest outcome

/-- A run leaves a path: its lines are recorded. -/
theorem PullInv.record {w : PullWorld} {scan : PathScan} {phase : PullPhase}
    (h : PullInv cfg log w) (hok : ScanOk cfg log w scan) (hphase : phase.scan? = none) :
    PullInv cfg (log ++ scan.passed.map (.recorded scan.aeeType)) (w.savePending scan phase) := by
  have hmemory := @BooksOk.mono _ _ (scan.passed.map (.recorded scan.aeeType)) _ _ hok.books
    fun line hline => by
      obtain ⟨other, hother, heq⟩ := List.mem_map.mp hline
      cases heq
      exact hok.passed line hother
  refine h.store ?_ (fun other line hne hline => ?_) fun scan' hscan' => ?_
  · dsimp only
    rw [hok.stored]
    exact hmemory
  · obtain ⟨_, _, heq⟩ := List.mem_map.mp hline
    cases heq
    exact hne rfl
  · rw [hphase] at hscan'
    cases hscan'

/-- **One step**: the books stay in order. -/
theorem PullInv.step {word : Char → Bool} {w w' : PullWorld} {op : PullOp}
    (h : PullInv cfg log w) (hstep : w.Step cfg word op w') :
    PullInv cfg (log ++ w.signs cfg op) w' := by
  cases PullWorld.step_effect hstep with
  | moves _ phase _ hto hsigns _ =>
      rw [hsigns]
      exact h.leave hto
  | opens history path content budget rest _ => exact h.openScan word path content budget rest
  | handles outcome scan budget rest line task queue hphase hqueue =>
      rw [PullWorld.signs_entry hphase hqueue]
      exact h.handle (h.scan scan (by rw [hphase]; rfl)) hqueue budget rest outcome
  | saves scan budget rest hphase =>
      have hok := h.scan scan (by rw [hphase]; rfl)
      refine h.savePending ?_ hok.stored (fun _ _ _ => List.not_mem_nil)
        fun scan' hscan' => (Option.some.inj hscan').symm
      refine ⟨?_, ?_, hok.passed, hok.queue, hok.nodup⟩
      · change BooksOk cfg (log ++ []) scan.aeeType scan.books
        rw [List.append_nil]
        exact hok.books
      · rw [PullWorld.savePending_self _ hok.stored]
        rfl
  | records _ scan budget rest phase hphase hto hsigns _ =>
      rw [hsigns]
      exact h.record (h.scan scan (by rw [hphase]; rfl)) hto
  | restarts => exact h.leave rfl

/-! ### Where a line goes -/

/-- The line an attempt is at, and no other, has failed. -/
theorem failures_signs_of_ne {outcome : EntryOutcome} {aeeType' : AeeType} {line line' : String}
    (h : aeeType' = aeeType → line' ≠ line) :
    failures (outcome.signs aeeType line) aeeType' line' = 0 := by
  have hne : PullSign.failed aeeType line ≠ .failed aeeType' line' := by
    intro heq
    cases heq
    exact h rfl rfl
  rw [failures, List.count_eq_zero, EntryOutcome.signs]
  split
  · split
    · simp
    · simpa using hne.symm
  · simpa using hne.symm

/-- A successful attempt does not count. -/
theorem failures_signs_ok {outcome : EntryOutcome} {line : String}
    (hfiles : outcome.hasFiles = true) (hintent : outcome.intent.isOk = true) :
    failures (outcome.signs aeeType line) aeeType line = 0 := by
  rw [EntryOutcome.signs, if_pos hfiles, if_pos hintent]
  exact List.count_eq_zero.mpr (by simp)

/-- What becomes of a line the run comes to, and what it tells. -/
inductive LineFate (cfg : ProcessConfig) (scan : PathScan) (line : String) (task : PendingTask)
    (queue : List (String × PendingTask)) : List PullSign → PathScan → Prop
  | struck (h : line ∈ scan.processed ∨ task.dbPath = "" ∨ task.timestamp = "") :
      LineFate cfg scan line task queue [] (scan.strike line queue)
  | exhausted (h : cfg.pullRetryLimit ≤ task.retryCount) :
      LineFate cfg scan line task queue [] (scan.process line queue)
  | failed (htries : scan.tries cfg line task) (outcome : EntryOutcome) (kept : PendingTask)
      (hcount : kept.retryCount = task.retryCount + 1)
      (hfails : failures (outcome.signs scan.aeeType line) scan.aeeType line = 1) :
      LineFate cfg scan line task queue (outcome.signs scan.aeeType line)
        (scan.keep line kept queue)
  | verified (outcome : EntryOutcome)
      (hverified : .verified scan.aeeType line ∈ outcome.signs scan.aeeType line)
      (hfails : failures (outcome.signs scan.aeeType line) scan.aeeType line = 0) :
      LineFate cfg scan line task queue (outcome.signs scan.aeeType line)
        (scan.process line queue)

/-- The run is still at the path when it has come to a line, and the other books are as they
were. -/
theorem PullWorld.handle_fate (w : PullWorld) (scan : PathScan) (budget : Option ℕ)
    (rest : List String) (line : String) (task : PendingTask)
    (queue : List (String × PendingTask)) (outcome : EntryOutcome) :
    ∃ scan', (w.handle cfg scan budget rest line task queue outcome).phase.scan? = some scan' ∧
      LineFate cfg scan line task queue
        (if scan.tries cfg line task then outcome.signs scan.aeeType line else []) scan' ∧
      ∀ other, other ≠ scan.aeeType →
        (w.handle cfg scan budget rest line task queue outcome).books other = w.books other := by
  rw [PullWorld.handle]
  by_cases hstruck : line ∈ scan.processed ∨ task.dbPath = "" ∨ task.timestamp = ""
  · rw [if_pos hstruck, if_neg fun htries => htries.1 hstruck]
    exact ⟨_, rfl, .struck hstruck, fun _ _ => rfl⟩
  rw [if_neg hstruck]
  by_cases hlimit : cfg.pullRetryLimit ≤ task.retryCount
  · rw [if_pos hlimit, if_neg fun htries => htries.2 hlimit]
    exact ⟨_, rfl, .exhausted hlimit, fun other hne => w.store_of_ne _ hne⟩
  have htries : scan.tries cfg line task := ⟨hstruck, hlimit⟩
  rw [if_neg hlimit, if_pos htries, PullWorld.attempt]
  dsimp only
  cases hfiles : outcome.hasFiles with
  | false =>
      rw [if_neg Bool.false_ne_true]
      exact ⟨_, rfl, .failed htries outcome _ rfl (failures_signs (.inl hfiles)), fun _ _ => rfl⟩
  | true =>
      rw [if_pos rfl]
      cases hintent : outcome.intent with
      | error raised =>
          have hfails := @failures_signs scan.aeeType outcome line
            (.inr (by rw [hintent]; rfl))
          refine ⟨_, rfl, .failed htries outcome _ ?_ hfails, fun other hne => ?_⟩
          · exact congrArg (· + 1) (task.enrich_eq outcome).2.2
          · exact w.store_of_ne _ hne
      | ok _ =>
          have hok : outcome.intent.isOk = true := by rw [hintent]; rfl
          refine ⟨_, rfl, .verified outcome ?_ (failures_signs_ok hfiles hok), fun other hne => ?_⟩
          · rw [EntryOutcome.signs, if_pos hfiles]
            exact List.mem_cons_self ..
          · exact w.store_of_ne _ hne

/-- A line leaves the path at the lines after it. -/
theorem LineFate.advance {scan scan' : PathScan} {line : String} {task : PendingTask}
    {queue : List (String × PendingTask)} (h : LineFate cfg scan line task queue signs scan') :
    scan'.aeeType = scan.aeeType ∧ scan'.queue = queue ∧
      ∀ other, other ≠ line → scan'.pending.get? other = scan.pending.get? other ∧
        (other ∈ scan'.processed ↔ other ∈ scan.processed) := by
  have herase : ∀ other, other ≠ line →
      (scan.pending.erase line).get? other = scan.pending.get? other := fun other hne => by
    rw [Dict.get?_erase, if_neg hne]
  have hinsert : ∀ other, other ≠ line →
      (other ∈ insert line scan.processed ↔ other ∈ scan.processed) := fun other hne => by
    rw [Finset.mem_insert, or_iff_right hne]
  cases h with
  | struck _ => exact ⟨rfl, rfl, fun other hne => ⟨herase other hne, Iff.rfl⟩⟩
  | exhausted _ => exact ⟨rfl, rfl, fun other hne => ⟨herase other hne, hinsert other hne⟩⟩
  | failed _ _ kept _ _ =>
      exact ⟨rfl, rfl, fun other hne => ⟨Dict.get?_set_of_ne _ _ hne, Iff.rfl⟩⟩
  | verified _ _ _ => exact ⟨rfl, rfl, fun other hne => ⟨herase other hne, hinsert other hne⟩⟩

/-! ### Lines in both books -/

/-- A line is in both books. -/
def Books.Both (b : Books) (line : String) : Prop :=
  line ∈ b.processed ∧ line ∈ b.pending.keys

/-- A run has gone through all pending lines of a kind of history. -/
def PullWorld.GoesThrough (aeeType : AeeType) (w : PullWorld) (op : PullOp) : Prop :=
  op = .endPath ∧ ∃ scan, w.phase.scan? = some scan ∧ scan.aeeType = aeeType ∧ scan.queue = []

/-- A restart found a line in both books, and no run has gone through the pending lines since. -/
def Torn (tr : List (PullWorld × PullOp)) (aeeType : AeeType) (line : String) : Prop :=
  ∃ pre p post, tr = pre ++ p :: post ∧ p.2 = .restart ∧ (p.1.books aeeType).Both line ∧
    ∀ q ∈ post, ¬ q.1.GoesThrough aeeType q.2

section Torn

variable {tr : List (PullWorld × PullOp)}

/-- A line stays torn until a run goes through the pending lines. -/
theorem Torn.snoc {line : String} {w : PullWorld} {op : PullOp} (h : Torn tr aeeType line)
    (hop : ¬ w.GoesThrough aeeType op) : Torn (tr ++ [(w, op)]) aeeType line := by
  obtain ⟨pre, p, post, rfl, hp, hboth, hpost⟩ := h
  refine ⟨pre, p, post ++ [(w, op)], by simp, hp, hboth, fun q hq => ?_⟩
  rcases List.mem_append.mp hq with hold | hnew
  · exact hpost q hold
  · rw [List.mem_singleton.mp hnew]
    exact hop

/-- A restart tears what is in both books. -/
theorem Torn.restart {line : String} {w : PullWorld} (h : (w.books aeeType).Both line) :
    Torn (tr ++ [(w, .restart)]) aeeType line :=
  ⟨tr, (w, .restart), [], rfl, rfl, h, fun _ hq => absurd hq List.not_mem_nil⟩

/-- Only lines that were torn are in both books. -/
structure ApartInv (tr : List (PullWorld × PullOp)) (w : PullWorld) : Prop where
  stored : ∀ aeeType, (∀ scan, w.phase.scan? = some scan → aeeType ≠ scan.aeeType) →
    ∀ line, (w.books aeeType).Both line → Torn tr aeeType line
  memory : ∀ scan, w.phase.scan? = some scan → ∀ line, scan.books.Both line →
    Torn tr scan.aeeType line ∧ line ∈ scan.queue.map Prod.fst

/-- Entering a new line puts none in both books. -/
theorem both_notePendings {processed : Finset String} {pending : Dict PendingTask}
    {lines : List String} {line : String}
    (h : Books.Both ⟨processed, lines.foldl (notePending aeeType processed) pending⟩ line) :
    Books.Both ⟨processed, pending⟩ line := by
  induction lines generalizing pending with
  | nil => exact h
  | cons first rest ih =>
      obtain ⟨hdone, hkey⟩ := ih h
      refine ⟨hdone, ?_⟩
      dsimp only at hkey
      rw [notePending] at hkey
      split at hkey
      · exact hkey
      · split at hkey
        · rename_i hnew
          have hne : line ≠ first := fun heq => hnew.1 (heq ▸ hdone)
          obtain ⟨task, htask⟩ := Dict.mem_keys_iff.mp hkey
          rw [Dict.get?_set_of_ne _ _ hne] at htask
          exact Dict.mem_keys_iff.mpr ⟨task, htask⟩
        · exact hkey

/-- A step away from all paths. -/
theorem ApartInv.leave {w : PullWorld} {op : PullOp} {phase : PullPhase} (h : ApartInv tr w)
    (hfrom : w.phase.scan? = none) (hphase : phase.scan? = none) :
    ApartInv (tr ++ [(w, op)]) { w with phase := phase } := by
  have hop : ∀ aeeType, ¬ w.GoesThrough aeeType op := by
    rintro aeeType ⟨-, scan, hscan, -⟩
    rw [hfrom] at hscan
    cases hscan
  refine ⟨fun aeeType _ line hboth => ?_, fun scan hscan => ?_⟩
  · refine (h.stored aeeType (fun scan hscan => ?_) line hboth).snoc (hop aeeType)
    rw [hfrom] at hscan
    cases hscan
  · rw [hphase] at hscan
    cases hscan

/-- A line in both books when a path is opened was in both, and the run is to go through it. -/
theorem both_start {word : Char → Bool} {books : Books} {currentLines : List String}
    {line : String}
    (h : (PathScan.start cfg word aeeType books currentLines).books.Both line) :
    books.Both line ∧
      line ∈ (PathScan.start cfg word aeeType books currentLines).queue.map Prod.fst := by
  refine ⟨both_notePendings h, ?_⟩
  obtain ⟨item, hitem, heq⟩ := List.mem_map.mp h.2
  exact List.mem_map.mpr ⟨item, mem_sortBy.mpr hitem, heq⟩

/-- The step a path is opened by. -/
theorem ApartInv.start {w : PullWorld} {op : PullOp} (h : ApartInv tr w)
    (hfrom : w.phase.scan? = none) {word : Char → Bool} {currentLines : List String}
    {phase : PullPhase}
    (hphase : phase.scan? = some (.start cfg word aeeType (w.books aeeType) currentLines)) :
    ApartInv (tr ++ [(w, op)]) { w with phase := phase } := by
  have hnone : ∀ scan, w.phase.scan? ≠ some scan := fun scan hscan => by
    rw [hfrom] at hscan
    cases hscan
  have htorn : ∀ aeeType line, (w.books aeeType).Both line →
      Torn (tr ++ [(w, op)]) aeeType line := fun aeeType line hboth =>
    (h.stored aeeType (fun scan hscan => absurd hscan (hnone scan)) line hboth).snoc
      fun hgoes => hgoes.2.elim fun scan hscan => hnone scan hscan.1
  refine ⟨fun aeeType _ line hboth => htorn aeeType line hboth, fun scan hscan line hboth => ?_⟩
  have heq := Option.some.inj (hphase.symm.trans hscan)
  subst heq
  obtain ⟨hold, hmem⟩ := both_start hboth
  exact ⟨htorn aeeType line hold, hmem⟩

/-- The run goes on to the next line. -/
theorem ApartInv.advance {w w' : PullWorld} {op : PullOp} {scan scan' : PathScan} {line : String}
    {task : PendingTask} {queue : List (String × PendingTask)} (h : ApartInv tr w)
    (hfrom : w.phase.scan? = some scan) (hop : op ≠ .endPath)
    (hqueue : scan.queue = (line, task) :: queue)
    (hto : w'.phase.scan? = some scan') (hfate : LineFate cfg scan line task queue signs scan')
    (hother : ∀ other, other ≠ scan.aeeType → w'.books other = w.books other) :
    ApartInv (tr ++ [(w, op)]) w' := by
  obtain ⟨htype, hqueue', hsame⟩ := hfate.advance
  refine ⟨fun aeeType hne other hboth => ?_, fun found hfound other hboth => ?_⟩
  · have hne' := hne scan' hto
    rw [htype] at hne'
    rw [hother aeeType hne'] at hboth
    refine (h.stored aeeType (fun found hfound => ?_) other hboth).snoc fun hgoes => hop hgoes.1
    rw [← Option.some.inj (hfrom.symm.trans hfound)]
    exact hne'
  · rw [← Option.some.inj (hto.symm.trans hfound)] at hboth ⊢
    have hne : other ≠ line := by
      rintro rfl
      cases hfate with
      | struck _ =>
          obtain ⟨task', htask'⟩ := Dict.mem_keys_iff.mp hboth.2
          exact absurd ((Dict.get?_erase ..).symm.trans htask') (by rw [if_pos rfl]; simp)
      | exhausted _ =>
          obtain ⟨task', htask'⟩ := Dict.mem_keys_iff.mp hboth.2
          exact absurd ((Dict.get?_erase ..).symm.trans htask') (by rw [if_pos rfl]; simp)
      | failed htries _ _ _ _ => exact htries.1 (.inl hboth.1)
      | verified _ _ _ =>
          obtain ⟨task', htask'⟩ := Dict.mem_keys_iff.mp hboth.2
          exact absurd ((Dict.get?_erase ..).symm.trans htask') (by rw [if_pos rfl]; simp)
    have hold : scan.books.Both other := by
      obtain ⟨task', htask'⟩ := Dict.mem_keys_iff.mp hboth.2
      obtain ⟨hpending, hdone⟩ := hsame other hne
      exact ⟨hdone.mp hboth.1, Dict.mem_keys_iff.mpr ⟨task', hpending ▸ htask'⟩⟩
    obtain ⟨htorn, hmem⟩ := h.memory scan hfrom other hold
    rw [hqueue, List.map_cons, List.mem_cons] at hmem
    rw [htype, hqueue']
    exact ⟨htorn.snoc fun hgoes => hop hgoes.1, hmem.resolve_left hne⟩

/-- A run leaves a path. -/
theorem ApartInv.record {w : PullWorld} {op : PullOp} {scan : PathScan} {phase : PullPhase}
    (h : ApartInv tr w) (hok : ScanOk cfg log w scan) (hfrom : w.phase.scan? = some scan)
    (hphase : phase.scan? = none) : ApartInv (tr ++ [(w, op)]) (w.savePending scan phase) := by
  refine ⟨fun aeeType _ line hboth => ?_, fun scan' hscan' => ?_⟩
  · by_cases hsame : aeeType = scan.aeeType
    · subst hsame
      rw [PullWorld.savePending_self phase hok.stored] at hboth
      obtain ⟨htorn, hmem⟩ := h.memory scan hfrom line hboth
      refine htorn.snoc fun hgoes => ?_
      obtain ⟨-, scan', hscan', -, hempty⟩ := hgoes
      rw [← Option.some.inj (hfrom.symm.trans hscan')] at hempty
      rw [hempty] at hmem
      cases hmem
    · rw [w.savePending_of_ne phase hsame] at hboth
      refine (h.stored aeeType (fun scan' hscan' => ?_) line hboth).snoc fun hgoes => ?_
      · rw [← Option.some.inj (hfrom.symm.trans hscan')]
        exact hsame
      · obtain ⟨-, scan', hscan', htype, -⟩ := hgoes
        rw [← Option.some.inj (hfrom.symm.trans hscan')] at htype
        exact hsame htype.symm
  · cases hphase.symm.trans hscan'

/-- The pending lines are stored, and the run stays at the path. -/
theorem ApartInv.savePending {w : PullWorld} {op : PullOp} {scan : PathScan} {phase : PullPhase}
    (h : ApartInv tr w) (hop : op ≠ .endPath) (hfrom : w.phase.scan? = some scan)
    (hphase : phase.scan? = some scan) :
    ApartInv (tr ++ [(w, op)]) (w.savePending scan phase) := by
  refine ⟨fun aeeType hne line hboth => ?_, fun scan' hscan' line hboth => ?_⟩
  · rw [w.savePending_of_ne phase (hne scan hphase)] at hboth
    refine (h.stored aeeType (fun scan' hscan' => ?_) line hboth).snoc fun hgoes => hop hgoes.1
    rw [← Option.some.inj (hfrom.symm.trans hscan')]
    exact hne scan hphase
  · have heq := Option.some.inj (hphase.symm.trans hscan')
    subst heq
    obtain ⟨htorn, hmem⟩ := h.memory scan hfrom line hboth
    exact ⟨htorn.snoc fun hgoes => hop hgoes.1, hmem⟩

/-- **One step**: lines that are not torn stay apart. -/
theorem ApartInv.step {word : Char → Bool} {w w' : PullWorld} {op : PullOp} (h : ApartInv tr w)
    (hinv : PullInv cfg log w) (hstep : w.Step cfg word op w') :
    ApartInv (tr ++ [(w, op)]) w' := by
  cases PullWorld.step_effect hstep with
  | moves _ phase hfrom hto _ _ => exact h.leave hfrom hto
  | opens history path content budget rest hfrom => exact h.start hfrom rfl
  | handles outcome scan budget rest line task queue hphase hqueue =>
      obtain ⟨scan', hto, hfate, hother⟩ :=
        @PullWorld.handle_fate cfg w scan budget rest line task queue outcome
      exact h.advance (by rw [hphase]; rfl) PullOp.noConfusion hqueue hto hfate hother
  | saves scan budget rest hphase =>
      exact h.savePending PullOp.noConfusion (by rw [hphase]; rfl) rfl
  | records _ scan budget rest phase hphase hto _ _ =>
      have hfrom : w.phase.scan? = some scan := by rw [hphase]; rfl
      exact h.record (hinv.scan scan hfrom) hfrom hto
  | restarts =>
      refine ⟨fun aeeType _ line hboth => Torn.restart hboth, fun scan hscan => ?_⟩
      cases hscan

end Torn

/-! ### Failures that are counted -/

/-- A line is in one book only, and its failures are counted. -/
structure LineExact (cfg : ProcessConfig) (log : List PullSign) (aeeType : AeeType) (b : Books)
    (line : String) : Prop where
  pending : ∀ task, b.pending.get? line = some task → line ∉ b.processed ∧
    task.retryCount = failures log aeeType line ∧ task.retryCount ≤ cfg.pullRetryLimit.toNat
  processed : line ∈ b.processed → .verified aeeType line ∈ log ∨
    failures log aeeType line = cfg.pullRetryLimit.toNat
  fresh : line ∉ b.processed → b.pending.get? line = none → failures log aeeType line = 0

/-- What becomes of other lines does not matter. -/
theorem LineExact.congr {b b' : Books} {line : String} (h : LineExact cfg log aeeType b line)
    (hfails : failures signs aeeType line = 0)
    (hpending : b'.pending.get? line = b.pending.get? line)
    (hprocessed : line ∈ b'.processed ↔ line ∈ b.processed) :
    LineExact cfg (log ++ signs) aeeType b' line := by
  have hsame : failures (log ++ signs) aeeType line = failures log aeeType line := by
    rw [failures_append, hfails, Nat.add_zero]
  refine ⟨fun task htask => ?_, fun hdone => ?_, fun hdone hkey => ?_⟩
  · rw [hprocessed, hsame]
    exact h.pending task (hpending ▸ htask)
  · rw [hsame]
    exact (h.processed (hprocessed.mp hdone)).imp_left (List.mem_append_left signs)
  · rw [hsame]
    exact h.fresh (fun hold => hdone (hprocessed.mpr hold)) (hpending ▸ hkey)

/-- A new line is entered with no failures. -/
theorem LineExact.notePending {processed : Finset String} {pending : Dict PendingTask}
    {line : String} (h : LineExact cfg log aeeType ⟨processed, pending⟩ line) (first : String) :
    LineExact cfg log aeeType
      ⟨processed, StabilityPlatform.notePending aeeType processed pending first⟩ line := by
  rw [StabilityPlatform.notePending]
  split
  · exact h
  · split
    · rename_i hnew
      by_cases heq : line = first
      · subst heq
        have hnone : pending.get? line = none := Dict.get?_eq_none_iff.mpr hnew.2
        refine ⟨fun task htask => ?_, h.processed, fun _ hkey => ?_⟩
        · dsimp only at htask
          rw [Dict.get?_set_self] at htask
          rw [← Option.some.inj htask]
          exact ⟨hnew.1, (h.fresh hnew.1 hnone).symm, Nat.zero_le _⟩
        · dsimp only at hkey
          rw [Dict.get?_set_self] at hkey
          cases hkey
      · rw [← List.append_nil log]
        exact h.congr rfl (Dict.get?_set_of_ne _ _ heq) Iff.rfl
    · exact h

/-- New lines are. -/
theorem LineExact.notePendings {processed : Finset String} {pending : Dict PendingTask}
    {line : String} (h : LineExact cfg log aeeType ⟨processed, pending⟩ line)
    (lines : List String) :
    LineExact cfg log aeeType
      ⟨processed, lines.foldl (StabilityPlatform.notePending aeeType processed) pending⟩ line := by
  induction lines generalizing pending with
  | nil => exact h
  | cons first rest ih => exact ih (h.notePending first)

/-- A line goes on with its failures counted. -/
theorem LineExact.fate {scan scan' : PathScan} {line : String} {task : PendingTask}
    {queue : List (String × PendingTask)} (h : LineExact cfg log scan.aeeType scan.books line)
    (hitem : scan.pending.get? line = some task) (hok : task.dbPath ≠ "" ∧ task.timestamp ≠ "")
    (hfate : LineFate cfg scan line task queue signs scan') :
    LineExact cfg (log ++ signs) scan.aeeType scan'.books line := by
  obtain ⟨hnot, hcount, hmost⟩ := h.pending task hitem
  have herase : (scan.pending.erase line).get? line = none := by
    rw [Dict.get?_erase, if_pos rfl]
  have hprocess : ∀ log, .verified scan.aeeType line ∈ log ∨
      failures log scan.aeeType line = cfg.pullRetryLimit.toNat →
      LineExact cfg log scan.aeeType (scan.process line queue).books line := fun log hreason =>
    ⟨fun task' htask' => absurd (herase.symm.trans htask') (by simp), fun _ => hreason,
      fun hdone => absurd (Finset.mem_insert_self ..) hdone⟩
  cases hfate with
  | struck hstruck =>
      exact absurd (hstruck.resolve_right (not_or.mpr hok)) hnot
  | exhausted hlimit =>
      refine hprocess _ (.inr ?_)
      rw [List.append_nil, ← hcount]
      omega
  | failed htries outcome kept hkept hfails =>
      have hlimit := htries.2
      refine ⟨fun task' htask' => ?_, fun hdone => absurd hdone hnot, fun _ hkey => ?_⟩
      · rw [← Option.some.inj ((Dict.get?_set_self ..).symm.trans htask'), failures_append, hfails,
          hkept, hcount]
        refine ⟨hnot, rfl, ?_⟩
        omega
      · cases (Dict.get?_set_self ..).symm.trans hkey
  | verified outcome hverified hfails =>
      exact hprocess _ (.inl (List.mem_append_right _ hverified))

/-- The failures of all lines are counted. -/
structure CountInv (cfg : ProcessConfig) (log : List PullSign) (w : PullWorld) : Prop where
  stored : ∀ aeeType, (∀ scan, w.phase.scan? = some scan → aeeType ≠ scan.aeeType) →
    ∀ line, LineExact cfg log aeeType (w.books aeeType) line
  memory : ∀ scan, w.phase.scan? = some scan →
    ∀ line, LineExact cfg log scan.aeeType scan.books line

/-- Only the line a run comes to tells of failures. -/
theorem LineFate.failures_of_ne {scan scan' : PathScan} {line : String} {task : PendingTask}
    {queue : List (String × PendingTask)} (h : LineFate cfg scan line task queue signs scan')
    {aeeType' : AeeType} {line' : String} (hne : aeeType' = scan.aeeType → line' ≠ line) :
    failures signs aeeType' line' = 0 := by
  cases h with
  | struck _ => rfl
  | exhausted _ => rfl
  | failed _ _ _ _ _ => exact failures_signs_of_ne hne
  | verified _ _ _ => exact failures_signs_of_ne hne

/-- A line that is recorded does not fail by it. -/
theorem failures_recorded (passed : List String) (aeeType aeeType' : AeeType) (line : String) :
    failures (passed.map (.recorded aeeType)) aeeType' line = 0 := by
  refine List.count_eq_zero.mpr fun hline => ?_
  obtain ⟨_, _, heq⟩ := List.mem_map.mp hline
  cases heq

/-- Where no run is at a path, all books count. -/
theorem CountInv.everywhere {w : PullWorld} (h : CountInv cfg log w)
    (hfrom : w.phase.scan? = none) (aeeType : AeeType) (line : String) :
    LineExact cfg log aeeType (w.books aeeType) line := by
  refine h.stored aeeType (fun scan hscan => ?_) line
  rw [hfrom] at hscan
  cases hscan

/-- The run goes on to the next line. -/
theorem CountInv.advance {w w' : PullWorld} {scan scan' : PathScan} {line : String}
    {task : PendingTask} {queue : List (String × PendingTask)} (h : CountInv cfg log w)
    (hok : ScanOk cfg log w scan) (hfrom : w.phase.scan? = some scan)
    (hqueue : scan.queue = (line, task) :: queue) (hto : w'.phase.scan? = some scan')
    (hfate : LineFate cfg scan line task queue signs scan')
    (hother : ∀ other, other ≠ scan.aeeType → w'.books other = w.books other) :
    CountInv cfg (log ++ signs) w' := by
  obtain ⟨htype, -, hsame⟩ := hfate.advance
  refine ⟨fun aeeType hne other => ?_, fun found hfound other => ?_⟩
  · have hne' := hne scan' hto
    rw [htype] at hne'
    rw [hother aeeType hne']
    refine (h.stored aeeType (fun found hfound => ?_) other).congr
      (hfate.failures_of_ne fun heq => absurd heq hne') rfl Iff.rfl
    rw [← Option.some.inj (hfrom.symm.trans hfound)]
    exact hne'
  · rw [← Option.some.inj (hto.symm.trans hfound), htype]
    have hold := h.memory scan hfrom other
    by_cases heq : other = line
    · subst heq
      obtain ⟨hpath, htime, -⟩ := hok.head hqueue
      refine hold.fate (hok.queue (other, task) ?_) ⟨hpath, htime⟩ hfate
      rw [hqueue]
      exact List.mem_cons_self ..
    · exact hold.congr (hfate.failures_of_ne fun _ => heq) (hsame other heq).1 (hsame other heq).2

/-- The failures are counted when a path is opened. -/
theorem LineExact.start {word : Char → Bool} {books : Books} {currentLines : List String}
    {line : String} (h : LineExact cfg log aeeType books line) :
    LineExact cfg log aeeType (PathScan.start cfg word aeeType books currentLines).books line :=
  h.notePendings _

/-- The step a path is opened by. -/
theorem CountInv.start {w : PullWorld} (h : CountInv cfg log w) (hfrom : w.phase.scan? = none)
    {word : Char → Bool} {currentLines : List String} {phase : PullPhase}
    (hphase : phase.scan? = some (.start cfg word aeeType (w.books aeeType) currentLines)) :
    CountInv cfg (log ++ []) { w with phase := phase } := by
  rw [List.append_nil]
  refine ⟨fun other _ line => h.everywhere hfrom other line, fun scan hscan line => ?_⟩
  have heq := Option.some.inj (hphase.symm.trans hscan)
  subst heq
  exact (h.everywhere hfrom aeeType line).start

/-- **One step**: without restarts the failures stay counted. -/
theorem CountInv.step {word : Char → Bool} {w w' : PullWorld} {op : PullOp}
    (h : CountInv cfg log w) (hinv : PullInv cfg log w) (hop : op ≠ .restart)
    (hstep : w.Step cfg word op w') : CountInv cfg (log ++ w.signs cfg op) w' := by
  cases PullWorld.step_effect hstep with
  | moves _ phase hfrom hto hsigns _ =>
      rw [hsigns, List.append_nil]
      refine ⟨fun aeeType _ line => h.everywhere hfrom aeeType line, fun scan hscan => ?_⟩
      cases hto.symm.trans hscan
  | opens history path content budget rest hfrom => exact h.start hfrom rfl
  | handles outcome scan budget rest line task queue hphase hqueue =>
      obtain ⟨scan', hto, hfate, hother⟩ :=
        @PullWorld.handle_fate cfg w scan budget rest line task queue outcome
      have hfrom : w.phase.scan? = some scan := by rw [hphase]; rfl
      rw [PullWorld.signs_entry hphase hqueue]
      exact h.advance (hinv.scan scan hfrom) hfrom hqueue hto hfate hother
  | saves scan budget rest hphase =>
      have hfrom : w.phase.scan? = some scan := by rw [hphase]; rfl
      change CountInv cfg (log ++ []) _
      rw [List.append_nil]
      refine ⟨fun aeeType hne line => ?_, fun scan' hscan' line => ?_⟩
      · rw [w.savePending_of_ne _ (hne scan rfl)]
        refine h.stored aeeType (fun found hfound => ?_) line
        rw [← Option.some.inj (hfrom.symm.trans hfound)]
        exact hne scan rfl
      · rw [← Option.some.inj hscan']
        exact h.memory scan hfrom line
  | records _ scan budget rest phase hphase hto hsigns _ =>
      have hfrom : w.phase.scan? = some scan := by rw [hphase]; rfl
      rw [hsigns]
      refine ⟨fun aeeType _ line => ?_, fun scan' hscan' => ?_⟩
      · by_cases hsame : aeeType = scan.aeeType
        · subst hsame
          rw [PullWorld.savePending_self phase (hinv.scan scan hfrom).stored]
          exact (h.memory scan hfrom line).congr (failures_recorded ..) rfl Iff.rfl
        · rw [w.savePending_of_ne phase hsame]
          refine (h.stored aeeType (fun found hfound => ?_) line).congr (failures_recorded ..) rfl
            Iff.rfl
          rw [← Option.some.inj (hfrom.symm.trans hfound)]
          exact hsame
      · cases hto.symm.trans hscan'
  | restarts => exact absurd rfl hop

/-! ### Runs -/

/-- What holds of the books, given what happened. -/
structure KeptInv (cfg : ProcessConfig) (log : List PullSign) (tr : List (PullWorld × PullOp))
    (w : PullWorld) : Prop where
  order : PullInv cfg log w
  apart : ApartInv tr w
  count : (∀ p ∈ tr, p.2 ≠ .restart) → CountInv cfg log w

/-- Nothing was pulled at the start. -/
theorem KeptInv.initial : KeptInv cfg [] [] .initial := by
  have hnokey : ∀ line, (Dict.empty : Dict PendingTask).get? line = none := fun _ => rfl
  have hnone : ∀ line, line ∉ (∅ : Finset String) := Finset.notMem_empty
  refine ⟨⟨fun aeeType => ⟨fun line task htask => ?_, fun line hline => ?_, fun line hline => ?_⟩,
    fun scan hscan => ?_⟩, ⟨fun aeeType _ line hboth => ?_, fun scan hscan => ?_⟩,
    fun _ => ⟨fun aeeType _ line => ⟨fun task htask => ?_, fun hline => ?_, fun _ _ => rfl⟩,
      fun scan hscan => ?_⟩⟩
  · cases (hnokey line).symm.trans htask
  · exact absurd hline (hnone line)
  · cases hline
  · cases hscan
  · exact absurd hboth.1 (hnone line)
  · cases hscan
  · cases (hnokey line).symm.trans htask
  · exact absurd hline (hnone line)
  · cases hscan

/-- **Whole runs**: the books are kept. -/
theorem KeptInv.run {word : Char → Bool} {tr : List (PullWorld × PullOp)} {w : PullWorld}
    (h : Run (PullWorld.Step cfg word) .initial tr w) :
    KeptInv cfg (emitted (PullWorld.signs cfg) tr) tr w := by
  have hrun := @Run.invariant_logs _ _ _ _ _ (PullWorld.signs cfg) (fun w op => [(w, op)])
    (fun log tr w => KeptInv cfg log tr w)
    (fun {log tr w op w'} hkept hstep => by
      refine ⟨hkept.order.step hstep, hkept.apart.step hkept.order hstep, fun hno => ?_⟩
      rw [List.forall_mem_append, List.forall_mem_singleton] at hno
      exact (hkept.count hno.1).step hkept.order hno.2 hstep) _ _ _ h [] [] KeptInv.initial
  rw [List.nil_append, List.nil_append] at hrun
  have htrace : emitted (fun (w : PullWorld) (op : PullOp) => [(w, op)]) tr = tr :=
    List.flatMap_singleton' tr
  rw [htrace] at hrun
  exact hrun

end Invariant

/-- **No line is lost.** A line that was recorded is processed or pending. It is in both books
only when a restart found it there, and no run has gone through the pending lines since. It is
processed because its files were verified, or because attempts at it failed as often as they may,
and no more often when there was no restart. -/
theorem history_lines_kept (cfg : ProcessConfig) (word : Char → Bool)
    {tr : List (PullWorld × PullOp)} {w : PullWorld}
    (h : Run (PullWorld.Step cfg word) .initial tr w) (aeeType : AeeType) (line : String) :
    (.recorded aeeType line ∈ emitted (PullWorld.signs cfg) tr →
      line ∈ (w.books aeeType).processed ∨ line ∈ (w.books aeeType).pending.keys) ∧
    (w.phase = .idle → (w.books aeeType).Both line → Torn tr aeeType line) ∧
    (line ∈ (w.books aeeType).processed →
      .verified aeeType line ∈ emitted (PullWorld.signs cfg) tr ∨
        cfg.pullRetryLimit ≤ failures (emitted (PullWorld.signs cfg) tr) aeeType line ∧
        ((∀ p ∈ tr, p.2 ≠ .restart) →
          failures (emitted (PullWorld.signs cfg) tr) aeeType line =
            cfg.pullRetryLimit.toNat)) := by
  have hkept := KeptInv.run h
  have hbooks := hkept.order.books aeeType
  refine ⟨hbooks.recorded line, fun hidle hboth => ?_, fun hdone => ?_⟩
  · refine hkept.apart.stored aeeType (fun scan hscan => ?_) line hboth
    rw [hidle] at hscan
    cases hscan
  · by_cases hverified : .verified aeeType line ∈ emitted (PullWorld.signs cfg) tr
    · exact .inl hverified
    refine .inr ⟨(hbooks.processed line hdone).resolve_left hverified, fun hno => ?_⟩
    have hcount := hkept.count hno
    by_cases hscan : ∃ scan, w.phase.scan? = some scan ∧ scan.aeeType = aeeType
    · obtain ⟨scan, hscan, rfl⟩ := hscan
      rw [(hkept.order.scan scan hscan).stored] at hdone
      exact ((hcount.memory scan hscan line).processed hdone).resolve_left hverified
    · refine ((hcount.stored aeeType (fun scan hfound heq => ?_) line).processed
        hdone).resolve_left hverified
      exact hscan ⟨scan, hfound, heq.symm⟩

section Example

/-- A device with one history, whose lines fail after one attempt. -/
def crashConfig : ProcessConfig := ⟨["/data/aee_exp"], true, {"com.app"}, 1, none, true⟩

/-- A line of the history. -/
def crashLine : String := "/data/aee_exp/db.0,ANR,a,b,c,d,e,f,com.app,T"

/-- An attempt that pulls the files, or does not. -/
def pullOutcome (pulled : Bool) : EntryOutcome := ⟨none, pulled, .ok (), .ok (), none, none⟩

/-- The steps of a run that comes to the line, and is done. -/
def wholeRun (pulled : Bool) (rest : List PullOp) : List PullOp :=
  [.begin true, .scan (some crashLine), .entry (pullOutcome pulled)] ++ rest ++
    [.endPath, .finish]

/-- The steps of a run that cannot read the history. -/
def blindRun : List PullOp := [.begin true, .scan none, .finish]

/-- The theorem at work: a line is pulled. -/
theorem history_lines_kept_pulled :
    ∃ tr w, Run (PullWorld.Step crashConfig Char.isAlphanum) .initial tr w ∧
      tr.map Prod.snd = wholeRun true [.savePending] ∧
      crashLine ∈ (w.books .aeeExp).processed ∧
      (.verified .aeeExp crashLine ∈ emitted (PullWorld.signs crashConfig) tr ∨
        crashConfig.pullRetryLimit ≤
            failures (emitted (PullWorld.signs crashConfig) tr) .aeeExp crashLine ∧
          ((∀ p ∈ tr, p.2 ≠ .restart) →
            failures (emitted (PullWorld.signs crashConfig) tr) .aeeExp crashLine =
              crashConfig.pullRetryLimit.toNat)) := by
  have hend : ((wholeRun true [.savePending]).foldlM
      (PullWorld.step crashConfig Char.isAlphanum) .initial).any (fun w =>
        decide (crashLine ∈ (w.books .aeeExp).processed)) = true := by decide +kernel
  rw [Option.any_eq_true] at hend
  obtain ⟨w, hw, hdone⟩ := hend
  have hrun := Run.of_foldlM hw
  exact ⟨_, w, hrun, map_snd_traceOf hw, of_decide_eq_true hdone,
    (history_lines_kept crashConfig Char.isAlphanum hrun .aeeExp crashLine).2.2
      (of_decide_eq_true hdone)⟩

/-- **A line may be lost, be in both books, and fail too often.** A run reads the history and the
agent is restarted: the next run cannot read it, and the line is in no book. A line fails once, is
given up, and the agent is restarted: when the next run cannot read the history, the line is in
both books. A line fails, the agent is restarted, it fails again and is given up: it was not
verified, and did not fail as often as it may but twice. -/
theorem history_line_lost :
    (∃ tr w, Run (PullWorld.Step crashConfig Char.isAlphanum) .initial tr w ∧
      tr.map Prod.snd = [.begin true, .scan (some crashLine), .restart] ++ blindRun ∧
      crashLine ∈ historyLines crashLine ∧ crashConfig.passes .aeeExp crashLine = true ∧
      crashLine ∉ (w.books .aeeExp).processed ∧ crashLine ∉ (w.books .aeeExp).pending.keys) ∧
    (∃ tr w, Run (PullWorld.Step crashConfig Char.isAlphanum) .initial tr w ∧
      tr.map Prod.snd = wholeRun false [] ++
        [.begin true, .scan (some crashLine), .entry (pullOutcome false), .restart] ++ blindRun ∧
      (w.books .aeeExp).Both crashLine) ∧
    ∃ tr w, Run (PullWorld.Step crashConfig Char.isAlphanum) .initial tr w ∧
      tr.map Prod.snd = [.begin true, .scan (some crashLine), .entry (pullOutcome false), .restart] ++
        wholeRun false [] ++ wholeRun false [] ∧
      crashLine ∈ (w.books .aeeExp).processed ∧
      .verified .aeeExp crashLine ∉ emitted (PullWorld.signs crashConfig) tr ∧
      failures (emitted (PullWorld.signs crashConfig) tr) .aeeExp crashLine = 2 ∧
      crashConfig.pullRetryLimit = 1 := by
  let step := PullWorld.step crashConfig Char.isAlphanum
  refine ⟨?_, ?_, ?_⟩
  · let ops : List PullOp := [.begin true, .scan (some crashLine), .restart] ++ blindRun
    have hend : (ops.foldlM step .initial).any (fun w =>
        decide (crashLine ∉ (w.books .aeeExp).processed ∧
          crashLine ∉ (w.books .aeeExp).pending.keys)) = true := by decide +kernel
    rw [Option.any_eq_true] at hend
    obtain ⟨w, hw, hdone⟩ := hend
    exact ⟨_, w, Run.of_foldlM hw, map_snd_traceOf hw, by decide +kernel, by decide +kernel,
      of_decide_eq_true hdone⟩
  · let ops : List PullOp := wholeRun false [] ++
      [.begin true, .scan (some crashLine), .entry (pullOutcome false), .restart] ++ blindRun
    have hend : (ops.foldlM step .initial).any (fun w =>
        decide (crashLine ∈ (w.books .aeeExp).processed ∧
          crashLine ∈ (w.books .aeeExp).pending.keys)) = true := by decide +kernel
    rw [Option.any_eq_true] at hend
    obtain ⟨w, hw, hdone⟩ := hend
    obtain ⟨hprocessed, hpending⟩ := of_decide_eq_true hdone
    exact ⟨_, w, Run.of_foldlM hw, map_snd_traceOf hw, hprocessed, hpending⟩
  · let ops : List PullOp :=
      [.begin true, .scan (some crashLine), .entry (pullOutcome false), .restart] ++
        wholeRun false [] ++ wholeRun false []
    have hlog : .verified .aeeExp crashLine ∉
          emitted (PullWorld.signs crashConfig) (traceOf step .initial ops) ∧
        failures (emitted (PullWorld.signs crashConfig) (traceOf step .initial ops)) .aeeExp
          crashLine = 2 := by decide +kernel
    have hend : (ops.foldlM step .initial).any (fun w =>
        decide (crashLine ∈ (w.books .aeeExp).processed)) = true := by decide +kernel
    rw [Option.any_eq_true] at hend
    obtain ⟨w, hw, hdone⟩ := hend
    exact ⟨_, w, Run.of_foldlM hw, map_snd_traceOf hw, of_decide_eq_true hdone, hlog.1, hlog.2,
      rfl⟩

end Example

end StabilityPlatform
