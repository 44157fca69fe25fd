import StabilityPlatform.Aee.EventDirs
import StabilityPlatform.Agent.EventBatcher
import StabilityPlatform.Lib.Pool
import StabilityPlatform.Lib.Run
import StabilityPlatform.PlanRun.Classification

/-!
# Pulling the files of events

Events with files are submitted to the puller, which queues them for its worker threads. A worker
pulls the file to the storage, unless the quota is used up, and calls back with what it found; an
event that does not get a worker is called back with nothing, by the call that submits it or by the
call that stops the puller. The threads share a queue, two flags and the count of the bytes, and
interleave at every access.

## Main results

* `LogPuller.act`: one moment of a thread.
* `Accounted`: an event is in one place, or called back; **no event is called back twice**.
* `Served`: what is queued is taken by someone, if **no call puts an event after the queue was
  emptied for good**.
* `Counted`: the bytes that stay are the bytes that are counted, and those about to be, if **no
  worker compares while another one counts**.
* `answered_once_within_quota`: both, for every run, and that the threads come to rest.
-/

namespace StabilityPlatform.EventPull

open Lib

/-! ### Events and files -/

/-- An event with a file to pull. -/
structure PullEvent extends WatcherEvent where
  filename : String
  /-- `int(detected_at.timestamp() * 1000)`. -/
  epochMs : ℤ
  deriving DecidableEq

/-- An event as a call submits it; the number tells the calls apart. -/
structure Submission where
  number : ℕ
  event : PullEvent
  deriving DecidableEq

/-- What a callback tells of a file; a callback without is told `{}`. -/
structure Enrichment where
  artifactUri : Option String
  sha256 : Option String
  sizeBytes : Option ℕ
  firstLines : Option String
  deriving DecidableEq

/-- What the puller is made with. -/
structure PullerConfig where
  nfsBaseDir : String
  jobId : ℤ
  maxWorkers : ℤ
  /-- `queue_maxsize`; none if it is not positive. -/
  queueMaxsize : ℤ
  maxFileMb : ℤ
  /-- `nfs_quota_mb`; none if it is zero. -/
  nfsQuotaMb : ℤ
  sonicOutputDir : Option String

/-- `_max_workers`. -/
def PullerConfig.workerCount (cfg : PullerConfig) : ℕ := (max 1 cfg.maxWorkers).toNat

/-- `_max_file_bytes`. -/
def PullerConfig.maxFileBytes (cfg : PullerConfig) : ℤ := cfg.maxFileMb * 1024 * 1024

/-- `_nfs_quota_bytes`. -/
def PullerConfig.nfsQuotaBytes (cfg : PullerConfig) : ℤ := cfg.nfsQuotaMb * 1024 * 1024

/-- `_CATEGORY_TO_SONIC_SUBDIR`, and the category in lower case. -/
def categoryToSonicSubdir (category : String) : String :=
  if category = "AEE" then "aee_exp"
  else if category = "VENDOR_AEE" then "vendor_aee_exp"
  else if category = "MOBILELOG" then "mobilelog"
  else if category = "ANR" then "anr"
  else pyLower category

/-- `_compose_local_path`. -/
def PullerConfig.composeLocalPath (cfg : PullerConfig) (event : PullEvent) : String :=
  let name := composeLocalName event.epochMs event.filename
  match cfg.sonicOutputDir with
  | some dir => dir ++ "/" ++ categoryToSonicSubdir event.category ++ "/" ++ name
  | none => cfg.nfsBaseDir ++ "/jobs/" ++ cfg.jobId.repr ++ "/" ++ event.category ++ "/" ++ name

/-- What a pull brings. -/
inductive Pulled where
  | raises
  | fails
  | gone
  | directory (verified : Bool) (treeBytes : ℕ)
  | file (sizeBytes : ℕ) (sha256 firstLines : Option String)

/-- What a worker meets. -/
structure PullOutcome where
  pulled : Pulled
  residue : ℕ

/-- A file or a directory that was pulled. -/
structure Artifact where
  isDir : Bool
  bytes : ℕ
  sha256 : Option String
  firstLines : Option String
  deriving DecidableEq

/-- What a callback is told of an artifact that stays. -/
def PullerConfig.enrichment (cfg : PullerConfig) (event : PullEvent) (artifact : Artifact) :
    Enrichment :=
  if artifact.isDir then ⟨some (cfg.composeLocalPath event), none, none, none⟩
  else ⟨some (cfg.composeLocalPath event), artifact.sha256, some artifact.bytes,
    artifact.firstLines⟩

/-! ### Threads -/

/-- Where a call of `start` is. -/
inductive StartPhase where
  | clearing
  | spawning (left : ℕ)
  deriving DecidableEq

/-- Where a call of `submit` is. -/
inductive SubmitPhase where
  | asking
  | askingStop
  | putting
  | answering
  deriving DecidableEq

/-- Where a call of `stop` is. -/
inductive StopPhase where
  | waiting
  | joining
  | draining
  | answering (submission : Submission)
  | clearing
  deriving DecidableEq

/-- Where a worker is. -/
inductive WorkPhase where
  | looping
  | getting
  | asking (submission : Submission)
  | pulling (submission : Submission)
  | comparing (submission : Submission) (artifact : Artifact)
  | removing (submission : Submission) (artifact : Artifact)
  | adding (submission : Submission) (artifact : Artifact)
  | storing (submission : Submission) (artifact : Artifact) (total : ℕ)
  | answering (submission : Submission) (enrichment : Option Enrichment)
  deriving DecidableEq

/-- A thread inside of the puller. -/
inductive PullThread where
  /-- A call of `start`. -/
  | start (phase : StartPhase)
  /-- A call of `submit`. -/
  | submit (submission : Submission) (phase : SubmitPhase)
  /-- A call of `stop`. -/
  | stop (phase : StopPhase)
  | worker (phase : WorkPhase)
  deriving DecidableEq

/-! ### The puller -/

/-- `LogPuller`: what its threads share. -/
structure LogPuller where
  started : Bool
  /-- `_stop_evt`. -/
  stopping : Bool
  queue : List Submission
  nfsWrittenBytes : ℕ
  quotaExceeded : Bool
  /-- The bytes that stay: of what a worker keeps, and of what it could not remove. -/
  residentBytes : ℕ
  deriving DecidableEq

/-- The queue has no room. -/
def LogPuller.Full (cfg : PullerConfig) (p : LogPuller) : Prop :=
  0 < cfg.queueMaxsize ∧ cfg.queueMaxsize ≤ p.queue.length

instance (cfg : PullerConfig) (p : LogPuller) : Decidable (p.Full cfg) :=
  inferInstanceAs (Decidable (_ ∧ _))

/-- An artifact does not fit. -/
def LogPuller.Exceeds (cfg : PullerConfig) (p : LogPuller) (artifact : Artifact) : Prop :=
  cfg.nfsQuotaBytes ≠ 0 ∧ cfg.nfsQuotaBytes < (p.nfsWrittenBytes + artifact.bytes : ℕ)

instance (cfg : PullerConfig) (p : LogPuller) (artifact : Artifact) :
    Decidable (p.Exceeds cfg artifact) :=
  inferInstanceAs (Decidable (_ ∧ _))

/-- `category in ("AEE", "VENDOR_AEE")`. -/
def isAeeCategory (category : String) : Bool := category = "AEE" || category = "VENDOR_AEE"

/-- Where a worker goes after a pull, and the bytes it leaves if it gives the file up. -/
def PullerConfig.afterPull (cfg : PullerConfig) (submission : Submission) (outcome : PullOutcome) :
    WorkPhase × ℕ :=
  match outcome.pulled with
  | .raises | .fails | .gone => (.answering submission none, outcome.residue)
  | .directory verified treeBytes =>
    if isAeeCategory submission.event.category && !verified then
      (.answering submission none, outcome.residue)
    else (.comparing submission ⟨true, treeBytes, none, none⟩, 0)
  | .file sizeBytes sha256 firstLines =>
    if cfg.maxFileBytes < sizeBytes then
      (.answering submission (some ⟨none, none, some sizeBytes, none⟩), outcome.residue)
    else (.comparing submission ⟨false, sizeBytes, sha256, firstLines⟩, 0)

/-- A worker takes a step: what is shared afterwards, and where it goes. -/
def LogPuller.workStep (cfg : PullerConfig) (p : LogPuller) (outcome : PullOutcome) :
    WorkPhase → LogPuller × Multiset PullThread
  | .looping => (p, if p.stopping then 0 else {.worker .getting})
  | .getting =>
    match p.queue with
    | submission :: rest => ({ p with queue := rest }, {.worker (.asking submission)})
    | [] => (p, {.worker .looping})
  | .asking submission =>
    (p, {.worker (if p.quotaExceeded then .answering submission (some ⟨none, none, none, none⟩)
      else .pulling submission)})
  | .pulling submission =>
    ({ p with residentBytes := p.residentBytes + (cfg.afterPull submission outcome).2 },
      {.worker (cfg.afterPull submission outcome).1})
  | .comparing submission artifact =>
    if p.Exceeds cfg artifact then (p, {.worker (.removing submission artifact)})
    else
      ({ p with residentBytes := p.residentBytes + artifact.bytes },
        {.worker (.adding submission artifact)})
  | .removing submission artifact =>
    ({ p with quotaExceeded := true, residentBytes := p.residentBytes + outcome.residue },
      {.worker (.answering submission (some ⟨none, none, some artifact.bytes, none⟩))})
  | .adding submission artifact =>
    (p, {.worker (.storing submission artifact (p.nfsWrittenBytes + artifact.bytes))})
  | .storing submission artifact total =>
    ({ p with nfsWrittenBytes := total },
      {.worker (.answering submission (some (cfg.enrichment submission.event artifact)))})
  | .answering _ _ => (p, {.worker .looping})

/-- A call of `stop` takes a step. -/
def LogPuller.stopStep (p : LogPuller) : StopPhase → LogPuller × Multiset PullThread
  | .waiting => ({ p with stopping := true }, {.stop .joining})
  | .joining => (p, {.stop .draining})
  | .draining =>
    match p.queue with
    | submission :: rest => ({ p with queue := rest }, {.stop (.answering submission)})
    | [] => (p, {.stop .clearing})
  | .answering _ => (p, {.stop .draining})
  | .clearing => ({ p with started := false }, 0)

/-- A call of `submit` takes a step. -/
def LogPuller.submitStep (cfg : PullerConfig) (p : LogPuller) (submission : Submission) :
    SubmitPhase → LogPuller × Multiset PullThread
  | .asking => (p, {.submit submission (if p.started then .askingStop else .answering)})
  | .askingStop => (p, {.submit submission (if p.stopping then .answering else .putting)})
  | .putting =>
    if p.Full cfg then (p, {.submit submission .answering})
    else ({ p with queue := p.queue ++ [submission] }, 0)
  | .answering => (p, 0)

/-- A call of `start` takes a step. -/
def LogPuller.startStep (cfg : PullerConfig) (p : LogPuller) :
    StartPhase → LogPuller × Multiset PullThread
  | .clearing => ({ p with stopping := false }, {.start (.spawning cfg.workerCount)})
  | .spawning (left + 1) => (p, {.worker .looping} + {.start (.spawning left)})
  | .spawning 0 => ({ p with started := true }, 0)

/-- A thread takes a step: what is shared afterwards, and where it goes. -/
def LogPuller.act (cfg : PullerConfig) (p : LogPuller) (outcome : PullOutcome) :
    PullThread → LogPuller × Multiset PullThread
  | .start phase => p.startStep cfg phase
  | .submit submission phase => p.submitStep cfg submission phase
  | .stop phase => p.stopStep phase
  | .worker phase => p.workStep cfg outcome phase

/-- The puller and the threads inside of it. -/
structure PullSystem where
  puller : LogPuller
  threads : Multiset PullThread
  made : ℕ

/-- A new puller. -/
def PullSystem.initial : PullSystem := ⟨⟨false, false, [], 0, false, 0⟩, 0, 0⟩

/-- A moment. -/
inductive PullOp where
  /-- `start` is called. -/
  | start
  /-- `submit` is called. -/
  | submit (event : PullEvent)
  /-- `stop` is called. -/
  | stop
  /-- A thread takes a step. -/
  | act (thread : PullThread) (outcome : PullOutcome)

/-- A thread enters. -/
def PullSystem.enter (s : PullSystem) (thread : PullThread) : PullSystem :=
  { s with threads := s.threads + {thread} }

/-- A thread takes a step. -/
def PullSystem.advance (cfg : PullerConfig) (s : PullSystem) (thread : PullThread)
    (outcome : PullOutcome) : PullSystem :=
  { s with
    puller := (s.puller.act cfg outcome thread).1
    threads := Pool.move s.threads thread (s.puller.act cfg outcome thread).2 }

/-- One moment, if it can come. -/
def PullSystem.step (cfg : PullerConfig) (s : PullSystem) : PullOp → Option PullSystem
  | .start => some (if s.puller.started then s else s.enter (.start .clearing))
  | .submit event =>
    some { s.enter (.submit ⟨s.made, event⟩ .asking) with made := s.made + 1 }
  | .stop => some (if s.puller.started then s.enter (.stop .waiting) else s)
  | .act thread outcome =>
    if thread ∈ s.threads then some (s.advance cfg thread outcome) else none

/-- The moments as a relation. -/
def PullSystem.Step (cfg : PullerConfig) (s : PullSystem) (op : PullOp) (s' : PullSystem) : Prop :=
  s.step cfg op = some s'

/-- The event a moment submits. -/
def PullSystem.submits (s : PullSystem) : PullOp → List Submission
  | .submit event => [⟨s.made, event⟩]
  | _ => []

/-- The callback of a thread. -/
def PullThread.answers : PullThread → List (Submission × Option Enrichment)
  | .submit submission .answering => [(submission, none)]
  | .stop (.answering submission) => [(submission, none)]
  | .worker (.answering submission enrichment) => [(submission, enrichment)]
  | _ => []

/-- The callback of a moment. -/
def PullOp.answers : PullOp → List (Submission × Option Enrichment)
  | .act thread _ => thread.answers
  | _ => []

/-- The submissions a run calls back, in order. -/
def answered (tr : List (PullSystem × PullOp)) : List Submission :=
  (emitted (fun _ => PullOp.answers) tr).map Prod.fst

/-- The submissions of a run, in order. -/
def submitted (tr : List (PullSystem × PullOp)) : List Submission :=
  emitted PullSystem.submits tr

/-! ### Every event is in one place -/

variable {cfg : PullerConfig}

/-- The event a worker has in hand. -/
def WorkPhase.tasks : WorkPhase → Multiset Submission
  | .looping | .getting => 0
  | .asking submission | .pulling submission | .comparing submission _ | .removing submission _
  | .adding submission _ | .storing submission _ _ | .answering submission _ => {submission}

/-- The event a thread has in hand. -/
def PullThread.tasks : PullThread → Multiset Submission
  | .submit submission _ | .stop (.answering submission) => {submission}
  | .worker phase => phase.tasks
  | _ => 0

/-- The events in hand and in the queue. -/
def PullSystem.held (s : PullSystem) : Multiset Submission :=
  Pool.total PullThread.tasks s.threads + s.puller.queue

/-- Where a pull leads, the event stays in hand. -/
theorem tasks_afterPull (submission : Submission) (outcome : PullOutcome) :
    (cfg.afterPull submission outcome).1.tasks = {submission} := by
  rw [PullerConfig.afterPull]
  cases outcome.pulled with
  | directory verified treeBytes =>
      dsimp only
      split <;> rfl
  | file sizeBytes sha256 firstLines =>
      dsimp only
      split <;> rfl
  | _ => rfl

/-- What a worker takes from the queue is in its hand, and is so until it calls back. -/
theorem workStep_tasks (p : LogPuller) (outcome : PullOutcome) (phase : WorkPhase) :
    Pool.total PullThread.tasks (p.workStep cfg outcome phase).2 +
        ((p.workStep cfg outcome phase).1.queue : Multiset Submission) +
        ((PullThread.worker phase).answers.map Prod.fst : List Submission) =
      phase.tasks + p.queue := by
  cases phase with
  | looping =>
      rw [LogPuller.workStep]
      split <;> simp [PullThread.answers, PullThread.tasks, WorkPhase.tasks]
  | getting =>
      rw [LogPuller.workStep]
      split
      · rename_i submission rest hqueue
        simp [hqueue, PullThread.answers, PullThread.tasks, WorkPhase.tasks,
          ← Multiset.cons_coe]
      · simp [PullThread.answers, PullThread.tasks, WorkPhase.tasks]
  | asking submission =>
      rw [LogPuller.workStep]
      split <;> simp [PullThread.answers, PullThread.tasks, WorkPhase.tasks]
  | pulling submission =>
      rw [LogPuller.workStep, Pool.total_singleton, PullThread.tasks, tasks_afterPull]
      simp [PullThread.answers, WorkPhase.tasks]
  | comparing submission artifact =>
      rw [LogPuller.workStep]
      split <;> simp [PullThread.answers, PullThread.tasks, WorkPhase.tasks]
  | answering submission enrichment =>
      simp [LogPuller.workStep, PullThread.answers, PullThread.tasks, WorkPhase.tasks, add_comm]
  | _ => simp [LogPuller.workStep, PullThread.answers, PullThread.tasks, WorkPhase.tasks]

/-- A step of a thread moves events between the hands and the queue, or calls them back. -/
theorem act_tasks (p : LogPuller) (outcome : PullOutcome) (thread : PullThread) :
    Pool.total PullThread.tasks (p.act cfg outcome thread).2 +
        ((p.act cfg outcome thread).1.queue : Multiset Submission) +
        (thread.answers.map Prod.fst : List Submission) =
      thread.tasks + p.queue := by
  cases thread with
  | start phase =>
      rw [LogPuller.act, LogPuller.startStep.eq_def]
      split <;> simp [PullThread.answers, PullThread.tasks, WorkPhase.tasks]
  | submit submission phase =>
      rw [LogPuller.act]
      cases phase with
      | putting =>
          rw [LogPuller.submitStep]
          split
          · simp [PullThread.answers, PullThread.tasks]
          · simp [PullThread.answers, PullThread.tasks, ← Multiset.coe_add, add_comm]
      | answering =>
          simp [LogPuller.submitStep, PullThread.answers, PullThread.tasks, add_comm]
      | _ => simp [LogPuller.submitStep, PullThread.answers, PullThread.tasks]
  | stop phase =>
      rw [LogPuller.act]
      cases phase with
      | draining =>
          rw [LogPuller.stopStep]
          split
          · rename_i submission rest hqueue
            simp [hqueue, PullThread.answers, PullThread.tasks, ← Multiset.cons_coe]
          · simp [PullThread.answers, PullThread.tasks]
      | answering submission =>
          simp [LogPuller.stopStep, PullThread.answers, PullThread.tasks, add_comm]
      | _ => simp [LogPuller.stopStep, PullThread.answers, PullThread.tasks]
  | worker phase => exact workStep_tasks p outcome phase

/-- **Every event is accounted for**: what was submitted is in hand, in the queue, or called back.
-/
structure Accounted (subs : List Submission) (answers : List (Submission × Option Enrichment))
    (s : PullSystem) : Prop where
  places : (subs : Multiset Submission) = s.held + (answers.map Prod.fst : List Submission)
  numbers : subs.map Submission.number = List.range s.made

/-- A thread that enters brings the event it has in hand. -/
theorem held_enter (s : PullSystem) (thread : PullThread) :
    (s.enter thread).held = s.held + thread.tasks := by
  rw [PullSystem.held, PullSystem.held, PullSystem.enter, Pool.total_add, Pool.total_singleton]
  abel

/-- Nothing is submitted, and nothing is called back. -/
theorem Accounted.of_held {subs : List Submission}
    {answers : List (Submission × Option Enrichment)} {s s' : PullSystem}
    (h : Accounted subs answers s) (hheld : s'.held = s.held) (hmade : s'.made = s.made) :
    Accounted (subs ++ []) (answers ++ []) s' := by
  rw [List.append_nil, List.append_nil]
  exact ⟨by rw [hheld, h.places], by rw [hmade, h.numbers]⟩

/-- **One moment**: every event stays accounted for. -/
theorem Accounted.step {subs : List Submission} {answers : List (Submission × Option Enrichment)}
    {s s' : PullSystem} {op : PullOp} (h : Accounted subs answers s) (hstep : s.Step cfg op s') :
    Accounted (subs ++ s.submits op) (answers ++ op.answers) s' := by
  rw [PullSystem.Step, PullSystem.step.eq_def] at hstep
  cases op with
  | start =>
      rw [← Option.some.inj hstep]
      refine h.of_held ?_ (by split <;> rfl)
      split
      · rfl
      · exact (held_enter s _).trans (add_zero _)
  | submit event =>
      rw [← Option.some.inj hstep]
      refine ⟨?_, ?_⟩
      · change _ = (s.enter (.submit ⟨s.made, event⟩ .asking)).held + _
        rw [held_enter, ← Multiset.coe_add, h.places]
        simp only [PullSystem.submits, PullOp.answers, List.append_nil, PullThread.tasks,
          Multiset.coe_singleton]
        abel
      · rw [PullSystem.submits, List.map_append, h.numbers, List.range_succ]
        rfl
  | stop =>
      rw [← Option.some.inj hstep]
      refine h.of_held ?_ (by split <;> rfl)
      split
      · exact (held_enter s _).trans (add_zero _)
      · rfl
  | act thread outcome =>
      obtain ⟨hthread, hnext⟩ := Option.ite_none_right_eq_some.mp hstep
      rw [← Option.some.inj hnext]
      have hsubmits : subs ++ s.submits (.act thread outcome) = subs := List.append_nil subs
      refine ⟨?_, by rw [hsubmits]; exact h.numbers⟩
      have hact := @act_tasks cfg s.puller outcome thread
      rw [add_assoc] at hact
      have hmove := Pool.total_move_balance PullThread.tasks hthread hact
      rw [hsubmits, h.places, PullOp.answers, List.map_append, ← Multiset.coe_add, PullSystem.held,
        ← hmove, PullSystem.held, PullSystem.advance]
      abel

/-! ### What is queued is taken -/

/-- A call of `stop` that has yet to empty the queue. -/
def PullThread.drains : PullThread → Bool
  | .stop .clearing => false
  | .stop _ => true
  | _ => false

/-- A worker, or a call of `start` that has yet to start one. -/
def PullThread.serves : PullThread → Bool
  | .worker _ | .start (.spawning (_ + 1)) => true
  | _ => false

/-- A call that has seen the puller started, or that is about to mark it as started. -/
def PullThread.opens : PullThread → Bool
  | .submit _ .askingStop | .submit _ .putting | .start (.spawning 0) => true
  | _ => false

/-- A call that queues its event. -/
def PullThread.puts : PullThread → Bool
  | .submit _ .putting => true
  | _ => false

/-- The thread of a moment. -/
def PullOp.thread? : PullOp → Option PullThread
  | .act thread _ => some thread
  | _ => none

/-- **An event is queued in time**: before the puller stops, or before a call of `stop` has emptied
the queue. -/
def PullSystem.PutsInTime (cfg : PullerConfig) (s : PullSystem) (op : PullOp) : Prop :=
  ∀ thread ∈ op.thread?, thread.puts → ¬s.puller.Full cfg →
    s.puller.stopping = false ∨ ∃ other ∈ s.threads, other.drains

instance (cfg : PullerConfig) (s : PullSystem) (op : PullOp) : Decidable (s.PutsInTime cfg op) :=
  have : Decidable (∃ other ∈ s.threads, PullThread.drains other) :=
    Multiset.decidableExistsMultiset
  inferInstanceAs (Decidable (∀ thread ∈ op.thread?, thread.puts → ¬s.puller.Full cfg →
    s.puller.stopping = false ∨ ∃ other ∈ s.threads, other.drains))

/-- **What is queued is taken** by a worker, by one that is about to start, or by a call of `stop`.
-/
structure Served (s : PullSystem) : Prop where
  serving : s.puller.stopping = false → (∃ thread ∈ s.threads, thread.serves) ∨
    s.puller.started = false ∧ s.puller.queue = [] ∧ ∀ thread ∈ s.threads, ¬thread.opens
  /-- If the puller stops, a call of `stop` takes what is queued. -/
  queued : s.puller.queue ≠ [] →
    s.puller.stopping = false ∨ ∃ thread ∈ s.threads, thread.drains

/-- What a step of a thread does for those who serve. -/
structure KeepsServing (cfg : PullerConfig) (p p' : LogPuller) (thread : PullThread)
    (next : Multiset PullThread) : Prop where
  serving : p'.stopping = false →
    p.stopping = false ∧ (thread.serves → ∃ other ∈ next, other.serves) ∨
      ∃ other ∈ next, other.serves
  opening : ¬thread.opens → ¬thread.serves → p.started = false → p.queue = [] →
    p'.started = false ∧ p'.queue = [] ∧ ∀ other ∈ next, ¬other.opens
  /-- A call of `stop` empties the queue. -/
  draining : thread.drains → (∃ other ∈ next, other.drains) ∨ p'.queue = []
  stopping : p.stopping = false → p'.stopping = false ∨ ∃ other ∈ next, other.drains
  queued : p'.queue ≠ [] → p.queue ≠ [] ∨ thread.puts ∧ ¬p.Full cfg

/-- There is a worker to start. -/
theorem workerCount_pos (cfg : PullerConfig) : 0 < cfg.workerCount := by
  rw [PullerConfig.workerCount]
  omega

/-- A step that leaves the flags alone, of a thread that goes on serving and that does not open the
puller, keeps those who serve. -/
theorem KeepsServing.of_same {p p' : LogPuller} {thread : PullThread} {next : Multiset PullThread}
    (hstarted : p'.started = p.started) (hstopping : p'.stopping = p.stopping)
    (hqueue : p'.queue = p.queue ∨ ∃ submission, p.queue = submission :: p'.queue)
    (hserves : p.stopping = false → thread.serves → ∃ other ∈ next, other.serves)
    (hopens : ¬thread.opens → ¬thread.serves → p.started = false → ∀ other ∈ next, ¬other.opens)
    (hdrains : thread.drains → (∃ other ∈ next, other.drains) ∨ p'.queue = []) :
    KeepsServing cfg p p' thread next := by
  refine ⟨fun hstop => .inl ⟨hstopping ▸ hstop, hserves (hstopping ▸ hstop)⟩,
    fun hthread hserve hstart hempty =>
      ⟨hstarted.trans hstart, ?_, hopens hthread hserve hstart⟩,
    hdrains, fun hstop => .inl (hstopping.trans hstop), fun hne => .inl fun hempty => ?_⟩
  · rcases hqueue with hqueue | ⟨_, hqueue⟩
    · rw [hqueue, hempty]
    · rw [hempty] at hqueue
      cases hqueue
  · rcases hqueue with hqueue | ⟨_, hqueue⟩
    · exact hne (hqueue.trans hempty)
    · rw [hempty] at hqueue
      cases hqueue

/-- A worker leaves the flags alone. -/
theorem workStep_flags (p : LogPuller) (outcome : PullOutcome) (phase : WorkPhase) :
    (p.workStep cfg outcome phase).1.started = p.started ∧
      (p.workStep cfg outcome phase).1.stopping = p.stopping := by
  cases phase with
  | getting =>
      rw [LogPuller.workStep]
      split <;> exact ⟨rfl, rfl⟩
  | comparing submission artifact =>
      rw [LogPuller.workStep]
      split <;> exact ⟨rfl, rfl⟩
  | _ => exact ⟨rfl, rfl⟩

/-- A worker takes an event of the queue, or none. -/
theorem workStep_queue (p : LogPuller) (outcome : PullOutcome) (phase : WorkPhase) :
    (p.workStep cfg outcome phase).1.queue = p.queue ∨
      ∃ submission, p.queue = submission :: (p.workStep cfg outcome phase).1.queue := by
  cases phase with
  | getting =>
      rw [LogPuller.workStep]
      split
      · rename_i submission rest hqueue
        exact .inr ⟨submission, hqueue⟩
      · exact .inl rfl
  | comparing submission artifact =>
      rw [LogPuller.workStep]
      split <;> exact .inl rfl
  | _ => exact .inl rfl

/-- A worker stays a worker, or leaves because the puller stops. -/
theorem workStep_next (p : LogPuller) (outcome : PullOutcome) (phase : WorkPhase) :
    (∃ phase', (p.workStep cfg outcome phase).2 = {.worker phase'}) ∨
      p.stopping = true ∧ (p.workStep cfg outcome phase).2 = 0 := by
  cases phase with
  | looping =>
      rw [LogPuller.workStep]
      by_cases hstop : p.stopping
      · exact .inr ⟨hstop, if_pos hstop⟩
      · exact .inl ⟨.getting, if_neg hstop⟩
  | getting =>
      rw [LogPuller.workStep]
      split <;> exact .inl ⟨_, rfl⟩
  | comparing submission artifact =>
      rw [LogPuller.workStep]
      split <;> exact .inl ⟨_, rfl⟩
  | _ => exact .inl ⟨_, rfl⟩

/-- Workers keep those who serve. -/
theorem workStep_keepsServing (p : LogPuller) (outcome : PullOutcome) (phase : WorkPhase) :
    KeepsServing cfg p (p.workStep cfg outcome phase).1 (.worker phase)
      (p.workStep cfg outcome phase).2 := by
  have hflags := @workStep_flags cfg p outcome phase
  refine .of_same hflags.1 hflags.2 (workStep_queue p outcome phase) (fun hstop _ => ?_)
    (fun _ hserve => ?_) (fun hdrains => ?_)
  · rcases @workStep_next cfg p outcome phase with ⟨phase', hnext⟩ | ⟨htrue, -⟩
    · exact ⟨_, hnext ▸ Multiset.mem_singleton_self _, rfl⟩
    · rw [hstop] at htrue
      cases htrue
  · exact absurd rfl hserve
  · cases hdrains

/-- Calls of `start` keep those who serve. -/
theorem startStep_keepsServing (p : LogPuller) (phase : StartPhase) :
    KeepsServing cfg p (p.startStep cfg phase).1 (.start phase) (p.startStep cfg phase).2 := by
  cases phase with
  | clearing =>
      obtain ⟨left, hleft⟩ := Nat.exists_eq_add_of_lt (workerCount_pos cfg)
      rw [zero_add] at hleft
      rw [LogPuller.startStep, hleft]
      refine ⟨fun _ => .inr ⟨_, Multiset.mem_singleton_self _, rfl⟩,
        fun _ _ hstart hempty => ⟨hstart, hempty, ?_⟩, fun h => ?_, fun _ => .inl rfl, .inl⟩
      · simp [PullThread.opens]
      · cases h
  | spawning left =>
      cases left with
      | zero =>
          refine ⟨fun hstop => .inl ⟨hstop, fun h => ?_⟩, fun h => absurd rfl h, fun h => ?_,
            .inl, .inl⟩
          · cases h
          · cases h
      | succ left =>
          refine .of_same rfl rfl (.inl rfl) (fun _ _ => ?_) (fun _ h => absurd rfl h) fun h => ?_
          · exact ⟨.worker .looping, Multiset.mem_add.mpr (.inl (Multiset.mem_singleton_self _)), rfl⟩
          · cases h

/-- Calls of `submit` keep those who serve. -/
theorem submitStep_keepsServing (p : LogPuller) (submission : Submission) (phase : SubmitPhase) :
    KeepsServing cfg p (p.submitStep cfg submission phase).1 (.submit submission phase)
      (p.submitStep cfg submission phase).2 := by
  cases phase with
  | asking =>
      refine .of_same rfl rfl (.inl rfl) (fun _ h => ?_) (fun _ _ hstart => ?_) fun h => ?_
      · cases h
      · simp [LogPuller.submitStep, hstart, PullThread.opens]
      · cases h
  | askingStop =>
      refine .of_same rfl rfl (.inl rfl) (fun _ h => ?_) (fun h => absurd rfl h) fun h => ?_
      · cases h
      · cases h
  | putting =>
      rw [LogPuller.submitStep]
      split
      · refine .of_same rfl rfl (.inl rfl) (fun _ h => ?_) (fun h => absurd rfl h) fun h => ?_
        · cases h
        · cases h
      · rename_i hfull
        refine ⟨fun hstop => .inl ⟨hstop, fun h => ?_⟩, fun h => absurd rfl h, fun h => ?_, .inl,
          fun _ => .inr ⟨rfl, hfull⟩⟩
        · cases h
        · cases h
  | answering =>
      refine .of_same rfl rfl (.inl rfl) (fun _ h => ?_) (fun _ _ _ => ?_) fun h => ?_
      · cases h
      · simp [LogPuller.submitStep]
      · cases h

/-- Calls of `stop` keep those who serve. -/
theorem stopStep_keepsServing (p : LogPuller) (phase : StopPhase) :
    KeepsServing cfg p (p.stopStep phase).1 (.stop phase) (p.stopStep phase).2 := by
  cases phase with
  | waiting =>
      refine ⟨fun h => ?_, fun _ _ hstart hempty => ⟨hstart, hempty, ?_⟩,
        fun _ => .inl ⟨_, Multiset.mem_singleton_self _, rfl⟩,
        fun _ => .inr ⟨_, Multiset.mem_singleton_self _, rfl⟩, .inl⟩
      · cases h
      · simp [LogPuller.stopStep, PullThread.opens]
  | joining =>
      refine .of_same rfl rfl (.inl rfl) (fun _ h => ?_) (fun _ _ _ => ?_)
        fun _ => .inl ⟨_, Multiset.mem_singleton_self _, rfl⟩
      · cases h
      · simp [LogPuller.stopStep, PullThread.opens]
  | draining =>
      rw [LogPuller.stopStep]
      split
      · rename_i submission rest hqueue
        refine .of_same rfl rfl (.inr ⟨submission, hqueue⟩) (fun _ h => ?_) (fun _ _ _ => ?_)
          fun _ => .inl ⟨_, Multiset.mem_singleton_self _, rfl⟩
        · cases h
        · simp [PullThread.opens]
      · rename_i hqueue
        refine .of_same rfl rfl (.inl rfl) (fun _ h => ?_) (fun _ _ _ => ?_) fun _ => .inr hqueue
        · cases h
        · simp [PullThread.opens]
  | answering submission =>
      refine .of_same rfl rfl (.inl rfl) (fun _ h => ?_) (fun _ _ _ => ?_)
        fun _ => .inl ⟨_, Multiset.mem_singleton_self _, rfl⟩
      · cases h
      · simp [LogPuller.stopStep, PullThread.opens]
  | clearing =>
      refine ⟨fun hstop => .inl ⟨hstop, fun h => ?_⟩, fun _ _ _ hempty => ⟨rfl, hempty, ?_⟩,
        fun h => ?_, .inl, .inl⟩
      · cases h
      · simp [LogPuller.stopStep]
      · cases h

/-- **Every thread keeps those who serve.** -/
theorem act_keepsServing (p : LogPuller) (outcome : PullOutcome) (thread : PullThread) :
    KeepsServing cfg p (p.act cfg outcome thread).1 thread (p.act cfg outcome thread).2 := by
  cases thread with
  | start phase => exact startStep_keepsServing p phase
  | submit submission phase => exact submitStep_keepsServing p submission phase
  | stop phase => exact stopStep_keepsServing p phase
  | worker phase => exact workStep_keepsServing p outcome phase

/-- A call enters, and neither opens the puller nor queues yet. -/
theorem Served.enter {s : PullSystem} (h : Served s) {thread : PullThread}
    (hopens : ¬thread.opens) : Served (s.enter thread) := by
  refine ⟨fun hstop => ?_, fun hne => ?_⟩
  · rcases h.serving hstop with ⟨other, hother, hserves⟩ | ⟨hstart, hempty, hclosed⟩
    · exact .inl ⟨other, Multiset.mem_add.mpr (.inl hother), hserves⟩
    · refine .inr ⟨hstart, hempty, fun other hother => ?_⟩
      rcases Multiset.mem_add.mp hother with hother | hother
      · exact hclosed other hother
      · exact Multiset.mem_singleton.mp hother ▸ hopens
  · exact (h.queued hne).imp_right fun ⟨other, hother, hdrains⟩ =>
      ⟨other, Multiset.mem_add.mpr (.inl hother), hdrains⟩

/-- A step of a thread that queues in time. -/
theorem Served.advance {s : PullSystem} (h : Served s) {thread : PullThread}
    (hthread : thread ∈ s.threads) (outcome : PullOutcome)
    (hok : s.PutsInTime cfg (.act thread outcome)) : Served (s.advance cfg thread outcome) := by
  have hkeep := @act_keepsServing cfg s.puller outcome thread
  refine ⟨fun hstop => ?_, fun hne => ?_⟩
  · rcases hkeep.serving hstop with ⟨hstop', hserves⟩ | hnext
    · by_cases hthis : thread.serves
      · exact .inl (Pool.exists_move_of_next (hserves hthis))
      · rcases h.serving hstop' with hsome | ⟨hstart, hempty, hclosed⟩
        · exact .inl (Pool.exists_move hsome hserves)
        · obtain ⟨hstart', hempty', hclosed'⟩ :=
            hkeep.opening (hclosed thread hthread) hthis hstart hempty
          exact .inr ⟨hstart', hempty', Pool.forall_move hclosed hclosed'⟩
    · exact .inl (Pool.exists_move_of_next hnext)
  · have hbefore : s.puller.stopping = false ∨ ∃ other ∈ s.threads, other.drains := by
      rcases hkeep.queued hne with hne' | ⟨hputs, hfull⟩
      · exact h.queued hne'
      · exact hok thread rfl hputs hfull
    rcases hbefore with hstop | hdrains
    · exact (hkeep.stopping hstop).imp_right Pool.exists_move_of_next
    · exact .inr (Pool.exists_move hdrains fun hthis => (hkeep.draining hthis).resolve_right hne)

/-- **One moment**: what is queued is taken, if events are queued in time. -/
theorem Served.step {s s' : PullSystem} {op : PullOp} (h : Served s) (hok : s.PutsInTime cfg op)
    (hstep : s.Step cfg op s') : Served s' := by
  rw [PullSystem.Step, PullSystem.step.eq_def] at hstep
  cases op with
  | start =>
      rw [← Option.some.inj hstep]
      split
      · exact h
      · exact h.enter Bool.false_ne_true
  | submit event =>
      rw [← Option.some.inj hstep]
      have hentered : Served (s.enter (.submit ⟨s.made, event⟩ .asking)) :=
        h.enter Bool.false_ne_true
      exact ⟨hentered.serving, hentered.queued⟩
  | stop =>
      rw [← Option.some.inj hstep]
      split
      · exact h.enter Bool.false_ne_true
      · exact h
  | act thread outcome =>
      obtain ⟨hthread, hnext⟩ := Option.ite_none_right_eq_some.mp hstep
      rw [← Option.some.inj hnext]
      exact h.advance hthread outcome hok

/-- Nothing is queued in a new puller, and nobody is inside. -/
theorem served_initial : Served .initial :=
  ⟨fun _ => .inr ⟨rfl, rfl, fun _ h => absurd h (Multiset.notMem_zero _)⟩, fun h => absurd rfl h⟩

/-! ### At rest -/

/-- A worker that waits for an event. -/
def PullThread.idle : PullThread → Bool
  | .worker .looping | .worker .getting => true
  | _ => false

/-- **The puller is at rest**: nobody is inside, or workers that wait for an event. -/
def PullSystem.AtRest (s : PullSystem) : Prop :=
  s.threads = 0 ∨
    s.puller.stopping = false ∧ s.puller.queue = [] ∧ ∀ thread ∈ s.threads, thread.idle

/-- A worker that waits has nothing in hand. -/
theorem tasks_of_idle {thread : PullThread} (h : thread.idle) : thread.tasks = 0 := by
  cases thread with
  | worker phase =>
      cases phase with
      | looping => rfl
      | getting => rfl
      | _ => cases h
  | _ => cases h

/-- At rest nothing is queued, if what is queued is taken. -/
theorem Served.queue_eq_nil {s : PullSystem} (h : Served s) (hrest : s.AtRest) :
    s.puller.queue = [] := by
  rcases hrest with hnone | ⟨-, hempty, -⟩
  · by_contra hne
    rcases h.queued hne with hstop | ⟨other, hother, -⟩
    · rcases h.serving hstop with ⟨other, hother, -⟩ | ⟨-, hempty, -⟩
      · rw [hnone] at hother
        exact Multiset.notMem_zero _ hother
      · exact hne hempty
    · rw [hnone] at hother
      exact Multiset.notMem_zero _ hother
  · exact hempty

/-- At rest nothing is in hand. -/
theorem total_tasks_of_atRest {s : PullSystem} (hrest : s.AtRest) :
    Pool.total PullThread.tasks s.threads = 0 := by
  rcases hrest with hnone | ⟨-, -, hidle⟩
  · rw [hnone, Pool.total_zero]
  · exact Pool.total_eq_zero fun thread hthread => tasks_of_idle (hidle thread hthread)

/-! ### The bytes that stay -/

/-- The bytes a thread has yet to count. -/
def PullThread.uncounted : PullThread → ℕ
  | .worker (.adding _ artifact) | .worker (.storing _ artifact _) => artifact.bytes
  | _ => 0

/-- Whether a thread counts. -/
def PullThread.counts : PullThread → ℕ
  | .worker (.adding _ _) | .worker (.storing _ _ _) => 1
  | _ => 0

/-- The bytes a step leaves of a file that is given up. -/
def PullThread.leaves (cfg : PullerConfig) (outcome : PullOutcome) : PullThread → ℕ
  | .worker (.pulling submission) => (cfg.afterPull submission outcome).2
  | .worker (.removing _ _) => outcome.residue
  | _ => 0

/-- The artifact a thread compares. -/
def PullThread.compares? : PullThread → Option Artifact
  | .worker (.comparing _ artifact) => some artifact
  | _ => none

/-- **A worker counts alone**: it leaves nothing of a file it gives up, and finds that a file fits
while no other worker counts. -/
def PullSystem.CountsAlone (cfg : PullerConfig) (s : PullSystem) : PullOp → Prop
  | .act thread outcome =>
    thread.leaves cfg outcome = 0 ∧
      ∀ artifact ∈ thread.compares?, ¬s.puller.Exceeds cfg artifact →
        ∀ other ∈ s.threads, other.counts = 0
  | _ => True

instance (cfg : PullerConfig) (s : PullSystem) (op : PullOp) : Decidable (s.CountsAlone cfg op) :=
  match op with
  | .act _ _ => inferInstanceAs (Decidable (_ ∧ _))
  | .start | .submit _ | .stop => isTrue trivial

/-- **The quota is kept**; zero is none, and below zero there is room for nothing. -/
def PullSystem.WithinQuota (cfg : PullerConfig) (s : PullSystem) : Prop :=
  cfg.nfsQuotaBytes ≠ 0 → (s.puller.residentBytes : ℤ) ≤ max 0 cfg.nfsQuotaBytes

/-- **The bytes that stay** are the bytes that are counted, and those one worker has yet to count.
-/
structure Counted (cfg : PullerConfig) (s : PullSystem) : Prop where
  resident : s.puller.residentBytes =
    s.puller.nfsWrittenBytes + Pool.total PullThread.uncounted s.threads
  alone : Pool.total PullThread.counts s.threads ≤ 1
  storing : ∀ submission artifact total, .worker (.storing submission artifact total) ∈ s.threads →
    total = s.puller.nfsWrittenBytes + artifact.bytes
  within : s.WithinQuota cfg

/-- A thread that does not count has nothing to count. -/
theorem uncounted_of_counts {thread : PullThread} (h : thread.counts = 0) :
    thread.uncounted = 0 := by
  cases thread with
  | worker phase =>
      cases phase with
      | adding _ _ => cases h
      | storing _ _ _ => cases h
      | _ => rfl
  | _ => rfl

/-- A step that touches no bytes, from and to where nobody counts. -/
theorem Counted.of_same {s s' : PullSystem} (h : Counted cfg s)
    (hresident : s'.puller.residentBytes = s.puller.residentBytes)
    (hwritten : s'.puller.nfsWrittenBytes = s.puller.nfsWrittenBytes)
    (huncounted : Pool.total PullThread.uncounted s'.threads =
      Pool.total PullThread.uncounted s.threads)
    (hcounts : Pool.total PullThread.counts s'.threads = Pool.total PullThread.counts s.threads)
    (hthreads : ∀ submission artifact total, .worker (.storing submission artifact total) ∈ s'.threads →
      .worker (.storing submission artifact total) ∈ s.threads) : Counted cfg s' := by
  refine ⟨?_, ?_, fun submission artifact total hmem => ?_, fun hquota => ?_⟩
  · rw [hresident, hwritten, huncounted, h.resident]
  · rw [hcounts]
    exact h.alone
  · rw [hwritten]
    exact h.storing submission artifact total (hthreads _ _ _ hmem)
  · rw [hresident]
    exact h.within hquota

/-- A call enters, and counts nothing. -/
theorem Counted.enter {s : PullSystem} (h : Counted cfg s) {thread : PullThread}
    (hcounts : thread.counts = 0) : Counted cfg (s.enter thread) := by
  refine h.of_same rfl rfl ?_ ?_ fun submission artifact total hmem => ?_
  · rw [PullSystem.enter, Pool.total_add, Pool.total_singleton, uncounted_of_counts hcounts,
      add_zero]
  · rw [PullSystem.enter, Pool.total_add, Pool.total_singleton, hcounts, add_zero]
  · rcases Multiset.mem_add.mp hmem with hmem | hmem
    · exact hmem
    · rw [← Multiset.mem_singleton.mp hmem] at hcounts
      cases hcounts

/-- A worker that neither counts nor finds that a file fits leaves the count, and what it could not
remove. -/
theorem workStep_bytes (p : LogPuller) (outcome : PullOutcome) {phase : WorkPhase}
    (hcounts : (PullThread.worker phase).counts = 0)
    (hcompares : ∀ artifact ∈ (PullThread.worker phase).compares?, p.Exceeds cfg artifact) :
    (p.workStep cfg outcome phase).1.nfsWrittenBytes = p.nfsWrittenBytes ∧
      (p.workStep cfg outcome phase).1.residentBytes =
        p.residentBytes + (PullThread.worker phase).leaves cfg outcome ∧
      ∀ other ∈ (p.workStep cfg outcome phase).2, other.counts = 0 := by
  cases phase with
  | looping =>
      refine ⟨rfl, rfl, ?_⟩
      rw [LogPuller.workStep]
      split <;> simp [PullThread.counts]
  | getting =>
      rw [LogPuller.workStep]
      split <;> exact ⟨rfl, rfl, by simp [PullThread.counts]⟩
  | asking submission =>
      refine ⟨rfl, rfl, ?_⟩
      rw [LogPuller.workStep]
      split <;> simp [PullThread.counts]
  | pulling submission =>
      refine ⟨rfl, rfl, fun other hother => ?_⟩
      rw [Multiset.mem_singleton.mp hother, PullerConfig.afterPull]
      cases outcome.pulled with
      | directory verified treeBytes =>
          dsimp only
          split <;> rfl
      | file sizeBytes sha256 firstLines =>
          dsimp only
          split <;> rfl
      | _ => rfl
  | comparing submission artifact =>
      rw [LogPuller.workStep, if_pos (hcompares artifact rfl)]
      exact ⟨rfl, rfl, by simp [PullThread.counts]⟩
  | adding submission artifact => cases hcounts
  | storing submission artifact total => cases hcounts
  | _ => exact ⟨rfl, rfl, by simp [LogPuller.workStep, PullThread.counts]⟩

/-- A thread that neither counts nor finds that a file fits leaves the count, and what it could not
remove. -/
theorem act_bytes (p : LogPuller) (outcome : PullOutcome) {thread : PullThread}
    (hcounts : thread.counts = 0)
    (hcompares : ∀ artifact ∈ thread.compares?, p.Exceeds cfg artifact) :
    (p.act cfg outcome thread).1.nfsWrittenBytes = p.nfsWrittenBytes ∧
      (p.act cfg outcome thread).1.residentBytes = p.residentBytes + thread.leaves cfg outcome ∧
      ∀ other ∈ (p.act cfg outcome thread).2, other.counts = 0 := by
  cases thread with
  | start phase =>
      rw [LogPuller.act, LogPuller.startStep.eq_def]
      split <;> exact ⟨rfl, rfl, by simp [PullThread.counts]⟩
  | submit submission phase =>
      rw [LogPuller.act]
      cases phase with
      | putting =>
          rw [LogPuller.submitStep]
          split <;> exact ⟨rfl, rfl, by simp [PullThread.counts]⟩
      | _ => exact ⟨rfl, rfl, by simp [LogPuller.submitStep, PullThread.counts]⟩
  | stop phase =>
      rw [LogPuller.act]
      cases phase with
      | draining =>
          rw [LogPuller.stopStep]
          split <;> exact ⟨rfl, rfl, by simp [PullThread.counts]⟩
      | _ => exact ⟨rfl, rfl, by simp [LogPuller.stopStep, PullThread.counts]⟩
  | worker phase => exact workStep_bytes p outcome hcounts hcompares

/-- A thread that stores counts. -/
theorem counts_storing (submission : Submission) (artifact : Artifact) (total : ℕ) :
    (PullThread.worker (.storing submission artifact total)).counts = 1 := rfl

/-- A step of a thread that does not count. -/
theorem Counted.advance_other {s : PullSystem} (h : Counted cfg s) {thread : PullThread}
    (hthread : thread ∈ s.threads) {outcome : PullOutcome} (hcounts : thread.counts = 0)
    (hcompares : ∀ artifact ∈ thread.compares?, s.puller.Exceeds cfg artifact)
    (hleaves : thread.leaves cfg outcome = 0) : Counted cfg (s.advance cfg thread outcome) := by
  obtain ⟨hwritten, hresident, hnext⟩ := act_bytes s.puller outcome hcounts hcompares
  have htotal : ∀ f : PullThread → ℕ, (∀ other, other.counts = 0 → f other = 0) →
      Pool.total f (s.advance cfg thread outcome).threads = Pool.total f s.threads := by
    intro f hf
    have hmove := Pool.total_move f hthread (s.puller.act cfg outcome thread).2
    rw [hf thread hcounts, Pool.total_eq_zero fun other hother => hf other (hnext other hother)]
      at hmove
    exact hmove
  refine h.of_same ?_ hwritten (htotal _ fun _ => uncounted_of_counts) (htotal _ fun _ => id)
    fun submission artifact total hmem => ?_
  · exact hresident.trans (by rw [hleaves, add_zero])
  · rcases Pool.mem_move hmem with hmem | hmem
    · exact hmem
    · have hzero := hnext _ hmem
      rw [counts_storing] at hzero
      cases hzero

/-- When one thread counts, no other one does. -/
theorem Counted.others {s : PullSystem} (h : Counted cfg s) {thread : PullThread}
    {others : Multiset PullThread} (hthreads : s.threads = thread ::ₘ others)
    (hcounts : thread.counts = 1) : ∀ other ∈ others, other.counts = 0 := by
  intro other hother
  obtain ⟨more, rfl⟩ := Multiset.exists_cons_of_mem hother
  have halone := h.alone
  rw [hthreads, Pool.total_cons, Pool.total_cons, hcounts] at halone
  omega

/-- The threads that do not count have nothing to count. -/
theorem uncounted_others {others : Multiset PullThread}
    (h : ∀ other ∈ others, other.counts = 0) : Pool.total PullThread.uncounted others = 0 :=
  Pool.total_eq_zero fun other hother => uncounted_of_counts (h other hother)

/-- A worker finds that a file fits while no other worker counts. -/
theorem Counted.advance_comparing {s : PullSystem} (h : Counted cfg s) {submission : Submission}
    {artifact : Artifact} (hthread : .worker (.comparing submission artifact) ∈ s.threads)
    (outcome : PullOutcome) (hfits : ¬s.puller.Exceeds cfg artifact)
    (halone : ∀ other ∈ s.threads, other.counts = 0) :
    Counted cfg (s.advance cfg (.worker (.comparing submission artifact)) outcome) := by
  obtain ⟨others, hthreads⟩ := Multiset.exists_cons_of_mem hthread
  have hothers : ∀ other ∈ others, other.counts = 0 := fun other hother =>
    halone other (hthreads ▸ Multiset.mem_cons_of_mem hother)
  have hresident := h.resident
  rw [uncounted_others halone, add_zero] at hresident
  rw [PullSystem.advance, LogPuller.act, LogPuller.workStep, if_neg hfits, hthreads, Pool.move_cons]
  refine ⟨?_, ?_, fun submission' artifact' total hmem => ?_, fun hquota => ?_⟩
  · change s.puller.residentBytes + artifact.bytes = _
    rw [Pool.total_add, uncounted_others hothers, Pool.total_singleton, hresident]
    simp [PullThread.uncounted]
  · rw [Pool.total_add, Pool.total_eq_zero hothers, Pool.total_singleton]
    simp [PullThread.counts]
  · rcases Multiset.mem_add.mp hmem with hmem | hmem
    · cases hothers _ hmem
    · cases Multiset.mem_singleton.mp hmem
  · change ((s.puller.residentBytes + artifact.bytes : ℕ) : ℤ) ≤ _
    rw [LogPuller.Exceeds, not_and, not_lt] at hfits
    rw [hresident]
    exact (hfits hquota).trans (le_max_right _ _)

/-- A worker reads the bytes that are written. -/
theorem Counted.advance_adding {s : PullSystem} (h : Counted cfg s) {submission : Submission}
    {artifact : Artifact} (hthread : .worker (.adding submission artifact) ∈ s.threads)
    (outcome : PullOutcome) :
    Counted cfg (s.advance cfg (.worker (.adding submission artifact)) outcome) := by
  obtain ⟨others, hthreads⟩ := Multiset.exists_cons_of_mem hthread
  have hothers := h.others hthreads rfl
  have hresident := h.resident
  have halone := h.alone
  rw [hthreads, Pool.total_cons] at hresident halone
  rw [PullSystem.advance, LogPuller.act, LogPuller.workStep, hthreads, Pool.move_cons]
  refine ⟨?_, ?_, fun submission' artifact' total hmem => ?_, h.within⟩
  · rw [Pool.total_add, Pool.total_singleton, add_comm (Pool.total _ _)]
    exact hresident
  · rw [Pool.total_add, Pool.total_singleton, add_comm (Pool.total _ _)]
    exact halone
  · rcases Multiset.mem_add.mp hmem with hmem | hmem
    · cases hothers _ hmem
    · cases Multiset.mem_singleton.mp hmem
      rfl

/-- A worker writes the bytes that are written. -/
theorem Counted.advance_storing {s : PullSystem} (h : Counted cfg s) {submission : Submission}
    {artifact : Artifact} {total : ℕ}
    (hthread : .worker (.storing submission artifact total) ∈ s.threads) (outcome : PullOutcome) :
    Counted cfg (s.advance cfg (.worker (.storing submission artifact total)) outcome) := by
  obtain ⟨others, hthreads⟩ := Multiset.exists_cons_of_mem hthread
  have hothers := h.others hthreads rfl
  have hresident := h.resident
  rw [hthreads, Pool.total_cons, uncounted_others hothers, add_zero] at hresident
  rw [PullSystem.advance, LogPuller.act, LogPuller.workStep, hthreads, Pool.move_cons]
  refine ⟨?_, ?_, fun submission' artifact' total' hmem => ?_, h.within⟩
  · rw [Pool.total_add, uncounted_others hothers, Pool.total_singleton]
    exact hresident.trans (h.storing submission artifact total hthread).symm
  · rw [Pool.total_add, Pool.total_eq_zero hothers, Pool.total_singleton]
    simp [PullThread.counts]
  · rcases Multiset.mem_add.mp hmem with hmem | hmem
    · cases hothers _ hmem
    · cases Multiset.mem_singleton.mp hmem

/-- **One moment**: the bytes that stay are counted, if workers count alone. -/
theorem Counted.step {s s' : PullSystem} {op : PullOp} (h : Counted cfg s)
    (hok : s.CountsAlone cfg op) (hstep : s.Step cfg op s') : Counted cfg s' := by
  rw [PullSystem.Step, PullSystem.step.eq_def] at hstep
  cases op with
  | start =>
      rw [← Option.some.inj hstep]
      split
      · exact h
      · exact h.enter rfl
  | submit event =>
      rw [← Option.some.inj hstep]
      have hentered : Counted cfg (s.enter (.submit ⟨s.made, event⟩ .asking)) := h.enter rfl
      exact ⟨hentered.resident, hentered.alone, hentered.storing, hentered.within⟩
  | stop =>
      rw [← Option.some.inj hstep]
      split
      · exact h.enter rfl
      · exact h
  | act thread outcome =>
      obtain ⟨hthread, hnext⟩ := Option.ite_none_right_eq_some.mp hstep
      rw [← Option.some.inj hnext]
      obtain ⟨hleaves, halone⟩ := hok
      cases thread with
      | worker phase =>
          cases phase with
          | comparing submission artifact =>
              by_cases hfits : s.puller.Exceeds cfg artifact
              · exact h.advance_other hthread rfl
                  (fun other hother => Option.some.inj hother ▸ hfits) hleaves
              · exact h.advance_comparing hthread outcome hfits (halone artifact rfl hfits)
          | adding submission artifact => exact h.advance_adding hthread outcome
          | storing submission artifact total => exact h.advance_storing hthread outcome
          | _ => exact h.advance_other hthread rfl (by rintro _ ⟨⟩) hleaves
      | _ => exact h.advance_other hthread rfl (by rintro _ ⟨⟩) hleaves

/-- A new puller has written nothing. -/
theorem counted_initial (cfg : PullerConfig) : Counted cfg .initial :=
  ⟨rfl, Nat.zero_le 1, fun _ _ _ h => absurd h (Multiset.notMem_zero _),
    fun _ => le_max_left _ _⟩

/-! ### Threads come to rest -/

/-- What a call of `start` has left to do. -/
def PullThread.startWork (cfg : PullerConfig) : PullThread → ℕ
  | .start .clearing => cfg.workerCount + 2
  | .start (.spawning left) => left + 1
  | _ => 0

/-- What a call of `submit` has left to do. -/
def PullThread.submitWork : PullThread → ℕ
  | .submit _ .asking => 4
  | .submit _ .askingStop => 3
  | .submit _ .putting => 2
  | .submit _ .answering => 1
  | _ => 0

/-- What a call of `stop` has left to do, but for what is queued. -/
def PullThread.stopWork : PullThread → ℕ
  | .stop .waiting => 5
  | .stop .joining => 4
  | .stop (.answering _) => 3
  | .stop .draining => 2
  | .stop .clearing => 1
  | _ => 0

/-- What a worker has left to do; the loop leads to its end if the puller stops, and to the queue if
not. -/
def WorkPhase.work (stopping : Bool) : WorkPhase → ℕ
  | .asking _ => 8
  | .pulling _ => 7
  | .comparing _ _ => 6
  | .removing _ _ | .adding _ _ => 5
  | .storing _ _ _ => 4
  | .answering _ _ => 3
  | .looping => if stopping then 1 else 2
  | .getting => if stopping then 2 else 1

/-- What a worker has left to do. -/
def PullThread.workerWork (stopping : Bool) : PullThread → ℕ
  | .worker phase => phase.work stopping
  | _ => 0

/-- What is left to do: by calls of `start`, of `submit`, of `stop`, and by workers. -/
def PullSystem.work (cfg : PullerConfig) (s : PullSystem) : ℕ ×ₗ ℕ ×ₗ ℕ ×ₗ ℕ :=
  toLex (Pool.total (PullThread.startWork cfg) s.threads,
    toLex (Pool.total PullThread.submitWork s.threads,
      toLex (Pool.total PullThread.stopWork s.threads + 2 * s.puller.queue.length,
        Pool.total (PullThread.workerWork s.puller.stopping) s.threads)))

/-- A step leaves less to do: in the first of the four kinds of work that it changes. -/
def LeavesLess (cfg : PullerConfig) (p p' : LogPuller) (thread : PullThread)
    (next : Multiset PullThread) : Prop :=
  Pool.total (PullThread.startWork cfg) next < thread.startWork cfg ∨
  Pool.total (PullThread.startWork cfg) next = thread.startWork cfg ∧
    (Pool.total PullThread.submitWork next < thread.submitWork ∨
    Pool.total PullThread.submitWork next = thread.submitWork ∧
      (Pool.total PullThread.stopWork next + 2 * p'.queue.length <
          thread.stopWork + 2 * p.queue.length ∨
        Pool.total PullThread.stopWork next + 2 * p'.queue.length =
            thread.stopWork + 2 * p.queue.length ∧
          p'.stopping = p.stopping ∧
            Pool.total (PullThread.workerWork p.stopping) next < thread.workerWork p.stopping))

/-- A worker that goes on without the queue leaves less to do. -/
theorem leavesLess_worker {p p' : LogPuller} {phase phase' : WorkPhase}
    (hqueue : p'.queue = p.queue) (hstopping : p'.stopping = p.stopping)
    (hless : phase'.work p.stopping < phase.work p.stopping) :
    LeavesLess cfg p p' (.worker phase) {.worker phase'} := by
  refine .inr ⟨rfl, .inr ⟨rfl, .inr ⟨?_, hstopping, hless⟩⟩⟩
  rw [hqueue, Pool.total_singleton]
  rfl

/-- The loop is less than anything a worker does with an event. -/
theorem work_looping_le (stopping : Bool) : WorkPhase.looping.work stopping ≤ 2 := by
  cases stopping with
  | false => exact le_rfl
  | true => exact Nat.le_succ 1

/-- A worker leaves less to do, unless it waits and there is nothing for it. -/
theorem workStep_leavesLess (p : LogPuller) (outcome : PullOutcome) {phase : WorkPhase}
    (hdue : ¬(PullThread.worker phase).idle ∨ p.stopping = true ∨ p.queue ≠ []) :
    LeavesLess cfg p (p.workStep cfg outcome phase).1 (.worker phase)
      (p.workStep cfg outcome phase).2 := by
  cases phase with
  | looping =>
      rw [LogPuller.workStep]
      cases hstop : p.stopping with
      | true =>
          refine .inr ⟨rfl, .inr ⟨rfl, .inr ⟨rfl, rfl, ?_⟩⟩⟩
          rw [hstop]
          exact Nat.zero_lt_one
      | false =>
          refine leavesLess_worker rfl rfl ?_
          rw [hstop]
          exact Nat.lt_succ_self 1
  | getting =>
      rw [LogPuller.workStep]
      split
      · rename_i submission rest hqueue
        refine .inr ⟨rfl, .inr ⟨rfl, .inl ?_⟩⟩
        rw [hqueue, Pool.total_singleton, List.length_cons]
        simp [PullThread.stopWork]
      · rename_i hqueue
        have hstop : p.stopping = true := by
          rcases hdue with hidle | hstop | hne
          · exact absurd rfl hidle
          · exact hstop
          · exact absurd hqueue hne
        refine leavesLess_worker rfl rfl ?_
        rw [hstop]
        exact Nat.lt_succ_self 1
  | asking submission =>
      refine leavesLess_worker rfl rfl ?_
      split <;> simp [WorkPhase.work]
  | pulling submission =>
      refine leavesLess_worker rfl rfl ?_
      rw [PullerConfig.afterPull]
      cases outcome.pulled with
      | directory verified treeBytes =>
          dsimp only
          split <;> simp [WorkPhase.work]
      | file sizeBytes sha256 firstLines =>
          dsimp only
          split <;> simp [WorkPhase.work]
      | _ => simp [WorkPhase.work]
  | comparing submission artifact =>
      rw [LogPuller.workStep]
      split
      · exact leavesLess_worker rfl rfl (Nat.lt_succ_self 5)
      · exact leavesLess_worker rfl rfl (Nat.lt_succ_self 5)
  | removing submission artifact =>
      refine leavesLess_worker rfl rfl ?_
      simp [WorkPhase.work]
  | adding submission artifact => exact leavesLess_worker rfl rfl (Nat.lt_succ_self 4)
  | storing submission artifact total => exact leavesLess_worker rfl rfl (Nat.lt_succ_self 3)
  | answering submission enrichment =>
      exact leavesLess_worker rfl rfl (Nat.lt_succ_of_le (work_looping_le _))

/-- A call of `stop` leaves less to do. -/
theorem stopStep_leavesLess (p : LogPuller) (phase : StopPhase) :
    LeavesLess cfg p (p.stopStep phase).1 (.stop phase) (p.stopStep phase).2 := by
  cases phase with
  | draining =>
      rw [LogPuller.stopStep]
      split
      · rename_i submission rest hqueue
        refine .inr ⟨rfl, .inr ⟨rfl, .inl ?_⟩⟩
        rw [hqueue, Pool.total_singleton, List.length_cons, PullThread.stopWork,
          PullThread.stopWork]
        dsimp only
        omega
      · exact .inr ⟨rfl, .inr ⟨rfl, .inl (Nat.add_lt_add_right (Nat.lt_succ_self 1) _)⟩⟩
  | waiting => exact .inr ⟨rfl, .inr ⟨rfl, .inl (Nat.add_lt_add_right (Nat.lt_succ_self 4) _)⟩⟩
  | joining =>
      refine .inr ⟨rfl, .inr ⟨rfl, .inl (Nat.add_lt_add_right ?_ _)⟩⟩
      simp [LogPuller.stopStep, PullThread.stopWork]
  | answering _ =>
      exact .inr ⟨rfl, .inr ⟨rfl, .inl (Nat.add_lt_add_right (Nat.lt_succ_self 2) _)⟩⟩
  | clearing => exact .inr ⟨rfl, .inr ⟨rfl, .inl (Nat.add_lt_add_right Nat.zero_lt_one _)⟩⟩

/-- **A thread leaves less to do**, unless it waits and there is nothing for it. -/
theorem act_leavesLess (p : LogPuller) (outcome : PullOutcome) {thread : PullThread}
    (hdue : ¬thread.idle ∨ p.stopping = true ∨ p.queue ≠ []) :
    LeavesLess cfg p (p.act cfg outcome thread).1 thread (p.act cfg outcome thread).2 := by
  cases thread with
  | start phase =>
      rw [LogPuller.act, LogPuller.startStep.eq_def]
      refine .inl ?_
      split <;> simp [PullThread.startWork]
  | submit submission phase =>
      rw [LogPuller.act]
      cases phase with
      | asking =>
          refine .inr ⟨rfl, .inl ?_⟩
          rw [LogPuller.submitStep]
          split <;> simp [PullThread.submitWork]
      | askingStop =>
          refine .inr ⟨rfl, .inl ?_⟩
          rw [LogPuller.submitStep]
          split <;> simp [PullThread.submitWork]
      | putting =>
          rw [LogPuller.submitStep]
          split <;> exact .inr ⟨rfl, .inl (by simp [PullThread.submitWork])⟩
      | answering => exact .inr ⟨rfl, .inl Nat.zero_lt_one⟩
  | stop phase => exact stopStep_leavesLess p phase
  | worker phase => exact workStep_leavesLess p outcome hdue

/-- A step that leaves less to do leaves less in all. -/
theorem work_advance_lt {s : PullSystem} {thread : PullThread} (hthread : thread ∈ s.threads)
    (outcome : PullOutcome) (hless : LeavesLess cfg s.puller (s.puller.act cfg outcome thread).1
      thread (s.puller.act cfg outcome thread).2) :
    (s.advance cfg thread outcome).work cfg < s.work cfg := by
  have hmove : ∀ f : PullThread → ℕ, Pool.total f (s.advance cfg thread outcome).threads +
      f thread = Pool.total f s.threads + Pool.total f (s.puller.act cfg outcome thread).2 :=
    fun f => Pool.total_move f hthread _
  have hstart := hmove (PullThread.startWork cfg)
  have hsubmit := hmove PullThread.submitWork
  have hstop := hmove PullThread.stopWork
  have hworker := hmove (PullThread.workerWork s.puller.stopping)
  have hlater : (s.advance cfg thread outcome).puller = (s.puller.act cfg outcome thread).1 := rfl
  simp only [PullSystem.work, Prod.Lex.toLex_lt_toLex, hlater]
  rcases hless with hless | ⟨heq, hless | ⟨heq', hless | ⟨heq'', hflag, hless⟩⟩⟩
  · exact .inl (by omega)
  · exact .inr ⟨by omega, .inl (by omega)⟩
  · exact .inr ⟨by omega, .inr ⟨by omega, .inl (by omega)⟩⟩
  · rw [hflag]
    exact .inr ⟨by omega, .inr ⟨by omega, .inr ⟨by omega, by omega⟩⟩⟩

/-- Unless the puller is at rest, a thread takes a step that leaves less to do. -/
theorem exists_advance {s : PullSystem} (hrest : ¬s.AtRest) (outcome : PullOutcome) :
    ∃ thread ∈ s.threads, (s.advance cfg thread outcome).work cfg < s.work cfg := by
  rw [PullSystem.AtRest, not_or] at hrest
  obtain ⟨hsome, hdue⟩ := hrest
  by_cases hidle : ∀ thread ∈ s.threads, thread.idle
  · obtain ⟨thread, hthread⟩ := Multiset.exists_mem_of_ne_zero hsome
    refine ⟨thread, hthread, work_advance_lt hthread outcome (act_leavesLess _ _ (.inr ?_))⟩
    by_cases hstop : s.puller.stopping = true
    · exact .inl hstop
    · exact .inr fun hempty => hdue ⟨Bool.eq_false_of_not_eq_true hstop, hempty, hidle⟩
  · push Not at hidle
    obtain ⟨thread, hthread, hbusy⟩ := hidle
    exact ⟨thread, hthread, work_advance_lt hthread outcome (act_leavesLess _ _ (.inl hbusy))⟩

/-- **Threads come to rest** when no call enters, whatever the pulls bring. -/
theorem exists_run_atRest (s : PullSystem) (outcome : PullOutcome) :
    ∃ tr t, Run (PullSystem.Step cfg) s tr t ∧ t.AtRest ∧
      ∀ p ∈ tr, ∃ thread, p.2 = .act thread outcome := by
  by_cases hrest : s.AtRest
  · exact ⟨[], s, .nil s, hrest, by simp⟩
  · obtain ⟨thread, hthread, hless⟩ := @exists_advance cfg _ hrest outcome
    obtain ⟨tr, t, hrun, hrest', hops⟩ := exists_run_atRest (s.advance cfg thread outcome) outcome
    refine ⟨(s, .act thread outcome) :: tr, t, .cons (if_pos hthread) hrun, hrest', ?_⟩
    intro p hp
    rcases List.mem_cons.mp hp with rfl | hp
    · exact ⟨thread, rfl⟩
    · exact hops p hp
termination_by s.work cfg
decreasing_by exact hless

/-! ### Every run -/

/-- What a run submits and calls back is accounted for. -/
theorem accounted_run {tr : List (PullSystem × PullOp)} {t : PullSystem}
    (h : Run (PullSystem.Step cfg) .initial tr t) :
    Accounted (submitted tr) (emitted (fun _ => PullOp.answers) tr) t := by
  have hlogs := h.invariant_logs Accounted (fun hI hstep => hI.step hstep)
    (⟨rfl, rfl⟩ : Accounted [] [] .initial)
  rwa [List.nil_append, List.nil_append] at hlogs

/-- No event is submitted twice: the numbers tell. -/
theorem Accounted.nodup {subs : List Submission} {answers : List (Submission × Option Enrichment)}
    {s : PullSystem} (h : Accounted subs answers s) : subs.Nodup := by
  refine List.Nodup.of_map Submission.number ?_
  rw [h.numbers]
  exact List.nodup_range

/-- **Every event is called back once.** In every run no event is called back twice, and the threads
come to rest when no call enters, whatever the pulls bring. If every event is queued in time, every
event is called back when the puller is at rest; and if workers count alone, the bytes that stay keep
the quota in every state. -/
theorem answered_once_within_quota {tr : List (PullSystem × PullOp)} {t : PullSystem}
    (h : Run (PullSystem.Step cfg) .initial tr t) :
    (answered tr).Nodup ∧ answered tr ⊆ submitted tr ∧
      (∀ outcome, ∃ tr' t', Run (PullSystem.Step cfg) t tr' t' ∧ t'.AtRest ∧
        ∀ p ∈ tr', ∃ thread, p.2 = .act thread outcome) ∧
      ((∀ p ∈ tr, p.1.PutsInTime cfg p.2) → t.AtRest → (answered tr).Perm (submitted tr)) ∧
      ((∀ p ∈ tr, p.1.CountsAlone cfg p.2) → Holds (PullSystem.WithinQuota cfg) tr t) := by
  have haccounted := accounted_run h
  have hle : (answered tr : Multiset Submission) ≤ submitted tr := by
    rw [haccounted.places]
    exact Multiset.le_add_left _ _
  refine ⟨?_, fun x hx => Multiset.mem_of_le hle hx, exists_run_atRest t, fun hok hrest => ?_,
    fun hok => ?_⟩
  · exact Multiset.coe_nodup.mp (Multiset.nodup_of_le hle haccounted.nodup)
  · have hserved := (h.invariant_of_guard (PullSystem.PutsInTime cfg)
      (fun hP hok hstep => Served.step hP hok hstep) served_initial hok).2
    have hheld : t.held = 0 := by
      rw [PullSystem.held, total_tasks_of_atRest hrest, hserved.queue_eq_nil hrest]
      rfl
    have hplaces := haccounted.places
    rw [hheld, zero_add] at hplaces
    exact (Multiset.coe_eq_coe.mp hplaces).symm
  · exact (h.invariant_of_guard (PullSystem.CountsAlone cfg)
      (fun hP hok hstep => Counted.step hP hok hstep) (counted_initial cfg) hok).mono
        fun _ => Counted.within

section Example

/-- A puller with a quota of one megabyte. -/
def oneMegabyte (maxWorkers : ℤ) : PullerConfig := ⟨"/nfs", 7, maxWorkers, 256, 500, 1, none⟩

/-- An event. -/
def oneCrash : PullEvent := ⟨⟨"AEE", "/data/aee_exp/db.0"⟩, "db.0", 0⟩

/-- A file of less than a megabyte. -/
def oneFile : Artifact := ⟨false, 700000, some "d", some "l"⟩

/-- Steps of threads that pull this file. -/
def steps (threads : List PullThread) : List PullOp :=
  threads.map fun thread => .act thread ⟨.file 700000 (some "d") (some "l"), 0⟩

/-- A puller is started, and its workers wait. -/
def started (workers : ℕ) : List PullOp :=
  .start :: steps (.start .clearing ::
    ((List.range (workers + 1)).reverse.map fun left => .start (.spawning left)))

/-- An event is submitted, up to where it is queued. -/
def submitting (number : ℕ) : List PullOp :=
  .submit oneCrash :: steps [.submit ⟨number, oneCrash⟩ .asking, .submit ⟨number, oneCrash⟩ .askingStop]

/-- A worker takes an event and pulls its file, up to where it compares with the quota. -/
def pullingUp (number : ℕ) : List PullOp :=
  steps [.worker .looping, .worker .getting, .worker (.asking ⟨number, oneCrash⟩),
    .worker (.pulling ⟨number, oneCrash⟩)]

/-- The theorem at work: an event is submitted, pulled, and called back. -/
theorem answered_once_within_quota_pulled :
    ∃ tr t, Run (PullSystem.Step (oneMegabyte 1)) .initial tr t ∧ t.AtRest ∧
      submitted tr = [⟨0, oneCrash⟩] ∧ (answered tr).Perm (submitted tr) ∧
      t.puller.residentBytes = 700000 ∧ t.WithinQuota (oneMegabyte 1) := by
  let ops : List PullOp := started 1 ++ submitting 0 ++
    steps [.submit ⟨0, oneCrash⟩ .putting] ++ pullingUp 0 ++
    steps [.worker (.comparing ⟨0, oneCrash⟩ oneFile), .worker (.adding ⟨0, oneCrash⟩ oneFile),
      .worker (.storing ⟨0, oneCrash⟩ oneFile 700000),
      .worker (.answering ⟨0, oneCrash⟩
        (some ((oneMegabyte 1).enrichment oneCrash oneFile)))]
  have hend : (ops.foldlM (PullSystem.step (oneMegabyte 1)) .initial).any (fun t =>
      decide (t.puller.stopping = false ∧ t.puller.queue = [] ∧
        t.threads = {.worker .looping} ∧ t.puller.residentBytes = 700000)) = true := by
    decide +kernel
  rw [Option.any_eq_true] at hend
  obtain ⟨t, ht, hdone⟩ := hend
  obtain ⟨hstop, hempty, hthreads, hbytes⟩ := of_decide_eq_true hdone
  have hsubmitted : submitted (traceOf (PullSystem.step (oneMegabyte 1)) .initial ops) =
      [⟨0, oneCrash⟩] := by decide +kernel
  have hputs : ∀ p ∈ traceOf (PullSystem.step (oneMegabyte 1)) .initial ops,
      p.1.PutsInTime (oneMegabyte 1) p.2 := by decide +kernel
  have halone : ∀ p ∈ traceOf (PullSystem.step (oneMegabyte 1)) .initial ops,
      p.1.CountsAlone (oneMegabyte 1) p.2 := by decide +kernel
  have hrest : t.AtRest := .inr ⟨hstop, hempty, by simp [hthreads, PullThread.idle]⟩
  have hrun := Run.of_foldlM ht
  obtain ⟨-, -, -, honce, hquota⟩ := answered_once_within_quota hrun
  exact ⟨_, t, hrun, hrest, hsubmitted, honce hputs hrest, hbytes, (hquota halone).2⟩

/-- **An event is lost, and a quota exceeded.** A call of `submit` sees the puller started and queues
its event after a call of `stop` has emptied the queue: nobody is left to take it. Two workers find
one after the other that their files fit, each before the other has counted: both stay. -/
theorem event_lost_and_quota_exceeded :
    (∃ tr t, Run (PullSystem.Step (oneMegabyte 1)) .initial tr t ∧ t.AtRest ∧
      submitted tr = [⟨0, oneCrash⟩] ∧ answered tr = []) ∧
    ∃ tr t, Run (PullSystem.Step (oneMegabyte 2)) .initial tr t ∧
      ¬t.WithinQuota (oneMegabyte 2) := by
  refine ⟨?_, ?_⟩
  · let ops : List PullOp := started 1 ++ submitting 0 ++ .stop :: steps [.stop .waiting,
      .worker .looping, .stop .joining, .stop .draining, .stop .clearing,
      .submit ⟨0, oneCrash⟩ .putting]
    have hend : (ops.foldlM (PullSystem.step (oneMegabyte 1)) .initial).any (fun t =>
        decide (t.threads = 0)) = true := by decide +kernel
    rw [Option.any_eq_true] at hend
    obtain ⟨t, ht, hdone⟩ := hend
    have hlogs : submitted (traceOf (PullSystem.step (oneMegabyte 1)) .initial ops) =
        [⟨0, oneCrash⟩] ∧
        answered (traceOf (PullSystem.step (oneMegabyte 1)) .initial ops) = [] := by
      decide +kernel
    exact ⟨_, t, Run.of_foldlM ht, .inl (of_decide_eq_true hdone), hlogs⟩
  · let ops : List PullOp := started 2 ++ submitting 0 ++ submitting 1 ++
      steps [.submit ⟨0, oneCrash⟩ .putting, .submit ⟨1, oneCrash⟩ .putting] ++ pullingUp 0 ++
      pullingUp 1 ++ steps [.worker (.comparing ⟨0, oneCrash⟩ oneFile),
        .worker (.comparing ⟨1, oneCrash⟩ oneFile)]
    have hend : (ops.foldlM (PullSystem.step (oneMegabyte 2)) .initial).any (fun t =>
        decide (t.puller.residentBytes = 1400000)) = true := by decide +kernel
    rw [Option.any_eq_true] at hend
    obtain ⟨t, ht, hdone⟩ := hend
    refine ⟨_, t, Run.of_foldlM ht, fun hwithin => ?_⟩
    have hbytes := hwithin (by decide)
    rw [of_decide_eq_true hdone] at hbytes
    exact absurd hbytes (by decide)

end Example

end StabilityPlatform.EventPull
