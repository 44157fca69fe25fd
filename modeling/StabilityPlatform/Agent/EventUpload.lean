import StabilityPlatform.Aee.EventDirs
import StabilityPlatform.Agent.DirDigest
import StabilityPlatform.Lib.Run

/-!
# Uploading the directories of events

Poll rounds and the disk monitor hand events to the uploader, which makes a job of each, unless
there is one in flight. A dispatcher gives the jobs to worker threads, which copy the directory of
the event to the central storage, compare the digests, tell the control plane, and may then delete
the local copy. A job that fails comes back after a while by a timer. All that may fail, and the
threads interleave.

## Main results

* `Uploader.step`: one moment of a thread.
* `DeletedInOrder`: **a local copy is deleted** only after it was verified and acknowledged.
* `OneInFlight`: there is one job for an event; **a timer that fires too early** breaks it.
* `upload_before_prune`: both, for runs in which no worker starts a job another one still has.
-/

namespace StabilityPlatform.EventUpload

open Lib

/-! ### Jobs -/

/-- An event that is handed over. -/
structure UploadEvent where
  id : String
  localPath : String
  planRunId : Option ℤ
  hddSpill : Bool
  deriving DecidableEq

/-- `_UploadJob`; what changes of a job is in the uploader. -/
structure UploadJob where
  number : ℕ
  eventId : String
  localPath : String
  planRunId : Option ℤ
  pruneAfterUpload : Bool
  hddSpill : Bool
  deriving DecidableEq

/-- What the uploader is configured with. -/
structure UploaderConfig where
  /-- `_event_uploader_enabled()`, and `_configured`. -/
  enabled : Bool
  /-- `resolve_path_under_aee_local`, if the path is under the root. -/
  resolve : String → Option String
  /-- `get_aee_local_root()`. -/
  localRoot : String
  devicesDir : Option ℤ → String
  sha256 : List UInt8 → String
  /-- `STP_EVENT_UPLOADER_PRUNE_LOCAL`. -/
  prunesLocal : Bool

/-- `_MAX_RETRIES`. -/
def maxRetries : ℕ := 5

/-- `_MAX_CONCURRENT`. -/
def maxConcurrent : ℕ := 2

/-- How many jobs the queue holds. -/
def queueRoom : ℕ := 512

/-- `dst`. -/
def UploaderConfig.remoteDir (cfg : UploaderConfig) (job : UploadJob) (src : String) : String :=
  cfg.devicesDir job.planRunId ++ "/" ++ job.eventId ++ "/" ++ pathBasename src

/-- `_dir_sha256` of what there is at a path. -/
def UploaderConfig.digest (cfg : UploaderConfig) : Option DirTree → String
  | some tree => dirSha256 cfg.sha256 tree
  | none => cfg.sha256 []

/-! ### The uploader -/

/-- Where a worker thread is in `_run_upload_holding_slot`; `fresh` after it has copied. -/
inductive UploadPhase where
  /-- It resets `rescheduled`. -/
  | starting
  /-- It resolves the local path. -/
  | resolving
  /-- It looks for the local directory. -/
  | looking (src dst : String)
  /-- There is none: it looks for the remote one. -/
  | lookingMissing (dst : String)
  /-- It digests the remote directory of a missing local one. -/
  | hashingMissing (dst : String)
  /-- It reports the remote directory of a missing local one. -/
  | patchingMissing (dst : String)
  /-- It reports that there is neither. -/
  | patchingPullFailed
  /-- It looks for a remote directory. -/
  | lookingRemote (src dst : String)
  /-- It digests the remote directory. -/
  | hashingRemote (fresh : Bool) (src dst : String)
  /-- It digests the local directory. -/
  | hashingLocal (fresh : Bool) (src dst digest : String)
  /-- It removes a remote directory that differs. -/
  | removing (fresh : Bool) (src dst : String)
  /-- It reports that it uploads. -/
  | patchingUploading (src dst : String)
  /-- It copies. -/
  | copying (src dst : String)
  /-- It reports the remote directory. -/
  | patchingRemote (fresh : Bool) (src dst digest : String)
  /-- It may delete the local directory. -/
  | pruning (fresh : Bool) (dst : String)
  /-- It reports that the local directory is deleted. -/
  | patchingPruned (fresh : Bool)
  /-- It has failed. -/
  | failing
  /-- It reports that it has failed too often. -/
  | patchingFailed
  /-- It releases its slot. -/
  | releasing
  /-- It forgets the event, unless the job was rescheduled. -/
  | leaving
  deriving DecidableEq

/-- A worker is done with its job, if that was rescheduled. -/
def UploadPhase.ends : UploadPhase → Bool
  | .releasing | .leaving => true
  | _ => false

/-- `EventUploader`, the threads and the directories. -/
structure Uploader where
  /-- `_stop_evt`. -/
  stopping : Bool
  dispatching : Bool
  activeIds : Finset String
  spillIds : Finset String
  attemptCounts : String → Option ℕ
  queue : List (Option UploadJob)
  slots : ℕ
  called : List UploadJob
  entering : List UploadJob
  hand : Option UploadJob
  /-- `_retry_timers`. -/
  timers : List UploadJob
  firing : List UploadJob
  workers : List (UploadJob × UploadPhase)
  /-- The jobs with `rescheduled`. -/
  rescheduled : Finset ℕ
  /-- `attempt` of the jobs. -/
  attempt : ℕ → ℕ
  made : ℕ
  dirs : String → Option DirTree

/-- An uploader that was not started. -/
def Uploader.initial (dirs : String → Option DirTree) : Uploader where
  stopping := false
  dispatching := false
  activeIds := ∅
  spillIds := ∅
  attemptCounts := fun _ => none
  queue := []
  slots := maxConcurrent
  called := []
  entering := []
  hand := none
  timers := []
  firing := []
  workers := []
  rescheduled := ∅
  attempt := fun _ => 0
  made := 0
  dirs := dirs

/-- Where an event comes from. -/
inductive UploadSource where
  /-- `_recover_pending`. -/
  | recover
  /-- `_retry_failed_loop`, with the state of the event. -/
  | retryFailed (state : String)
  /-- The disk monitor. -/
  | spill
  /-- Anyone else. -/
  | plain
  deriving DecidableEq

/-- What a worker meets. -/
structure WorkOutcome where
  raises : Bool
  acked : Bool
  tree : Option DirTree

/-- A moment of a thread. -/
inductive UploadOp where
  | start
  /-- `stop` tells the threads. -/
  | stop
  /-- `stop` cancels the timers. -/
  | cancelTimers
  /-- `stop` wakes the dispatcher. -/
  | wake
  /-- The dispatcher sees that it is to stop. -/
  | dispatcherStops
  /-- An event is handed over; with what the state store tells of it. -/
  | call (source : UploadSource) (event : UploadEvent) (durableSpill : Bool)
      (durableAttempts : Option ℕ)
  /-- The event is marked as active. -/
  | mark (job : UploadJob)
  /-- The job is queued. -/
  | put (job : UploadJob)
  /-- The dispatcher takes a job. -/
  | take
  /-- The dispatcher gets a slot and starts a worker. -/
  | acquire
  /-- The dispatcher stops with a job. -/
  | giveUp
  /-- A worker takes a step. -/
  | work (job : UploadJob) (phase : UploadPhase) (outcome : WorkOutcome)
  /-- A timer fires. -/
  | fire (job : UploadJob)
  /-- The job of a timer is queued. -/
  | requeue (job : UploadJob)
  /-- Someone else changes a directory. -/
  | change (path : String) (tree : Option DirTree)

/-- `_forget_active`. -/
def Uploader.forget (w : Uploader) (eventId : String) : Uploader :=
  { w with activeIds := w.activeIds.erase eventId }

/-- What `_load_attempts` returns, with what the state store tells. -/
def Uploader.loadAttempts (w : Uploader) (eventId : String) (durable : Option ℕ) : ℕ :=
  ((w.attemptCounts eventId).or durable).getD 0

/-- `_store_attempts`. -/
def Uploader.storeAttempts (w : Uploader) (eventId : String) (attempts : Option ℕ) : Uploader :=
  { w with attemptCounts := Function.update w.attemptCounts eventId attempts }

/-- What `_load_attempts` keeps. -/
def Uploader.keepAttempts (w : Uploader) (eventId : String) (durable : Option ℕ) : Uploader :=
  w.storeAttempts eventId ((w.attemptCounts eventId).or durable)

/-- A call makes a job. -/
def Uploader.makeJob (w : Uploader) (event : UploadEvent) (pruneAfterUpload isSpill : Bool)
    (startAttempt : ℕ) : Uploader :=
  let job : UploadJob :=
    ⟨w.made, event.id, event.localPath, event.planRunId, pruneAfterUpload || isSpill, isSpill⟩
  { w with
    spillIds := if isSpill then insert event.id w.spillIds else w.spillIds
    called := w.called ++ [job]
    attempt := Function.update w.attempt w.made startAttempt
    made := w.made + 1 }

/-- `enqueue_local_event` up to where it looks whether the event is active. -/
def Uploader.enqueueLocalEvent (cfg : UploaderConfig) (w : Uploader) (event : UploadEvent)
    (uploadAttempts : Option ℕ) (force pruneAfterUpload durableSpill : Bool)
    (durableAttempts : Option ℕ) : Uploader :=
  if !cfg.enabled || !force then w
  else
    let isSpill :=
      event.hddSpill || pruneAfterUpload || decide (event.id ∈ w.spillIds) || durableSpill
    match uploadAttempts with
    | some attempts => w.makeJob event pruneAfterUpload isSpill attempts
    | none =>
      (w.keepAttempts event.id durableAttempts).makeJob event pruneAfterUpload isSpill
        (w.loadAttempts event.id durableAttempts)

/-- An event is handed over. -/
def Uploader.callFrom (cfg : UploaderConfig) (w : Uploader) (source : UploadSource)
    (event : UploadEvent) (durableSpill : Bool) (durableAttempts : Option ℕ) : Uploader :=
  match source with
  | .recover => w.enqueueLocalEvent cfg event none true false durableSpill durableAttempts
  | .retryFailed state =>
    let attempts := w.loadAttempts event.id durableAttempts
    let loaded := w.keepAttempts event.id durableAttempts
    if state = "UPLOAD_FAILED" ∧ maxRetries ≤ attempts then loaded
    else
      loaded.enqueueLocalEvent cfg event (some attempts) true false durableSpill durableAttempts
  | .spill =>
    w.enqueueLocalEvent cfg { event with hddSpill := true } none true true durableSpill
      durableAttempts
  | .plain => w.enqueueLocalEvent cfg event none false false durableSpill durableAttempts

/-- Where a worker goes when a step raises. -/
def UploadPhase.onError (fresh : Bool) : UploadPhase := if fresh then .failing else .releasing

/-- The local copy is to be deleted. -/
def UploaderConfig.mayPrune (cfg : UploaderConfig) (job : UploadJob) : Bool :=
  job.pruneAfterUpload || cfg.prunesLocal

/-- The local directory `_maybe_prune_local` deletes, if it deletes one. -/
def Uploader.prunes? (cfg : UploaderConfig) (w : Uploader) (job : UploadJob) : Option String :=
  if cfg.mayPrune job then
    (cfg.resolve job.localPath).filter fun src =>
      (w.dirs src).isSome && decide (src ≠ cfg.localRoot)
  else none

/-- Where a worker goes next. -/
def Uploader.nextPhase (cfg : UploaderConfig) (w : Uploader) (job : UploadJob)
    (outcome : WorkOutcome) : UploadPhase → UploadPhase
  | .starting => .resolving
  | .resolving =>
    match cfg.resolve job.localPath with
    | some src => .looking src (cfg.remoteDir job src)
    | none => .releasing
  | .looking src dst =>
    if (w.dirs src).isSome then .lookingRemote src dst else .lookingMissing dst
  | .lookingMissing dst =>
    if (w.dirs dst).isSome then .hashingMissing dst else .patchingPullFailed
  | .hashingMissing dst => if outcome.raises then .releasing else .patchingMissing dst
  | .patchingMissing _ => .releasing
  | .patchingPullFailed => .releasing
  | .lookingRemote src dst =>
    if (w.dirs dst).isSome then .hashingRemote false src dst else .patchingUploading src dst
  | .hashingRemote fresh src dst =>
    if outcome.raises then .onError fresh
    else .hashingLocal fresh src dst (cfg.digest (w.dirs dst))
  | .hashingLocal fresh src dst digest =>
    if outcome.raises then .onError fresh
    else if digest ≠ cfg.digest (w.dirs src) then .removing fresh src dst
    else .patchingRemote fresh src dst digest
  | .removing fresh src dst => if fresh then .failing else .patchingUploading src dst
  | .patchingUploading src dst => .copying src dst
  | .copying src dst => if outcome.raises then .failing else .hashingRemote true src dst
  | .patchingRemote fresh _ dst _ => if outcome.acked then .pruning fresh dst else .releasing
  | .pruning fresh _ =>
    if (w.prunes? cfg job).isSome && !outcome.raises then .patchingPruned fresh else .releasing
  | .patchingPruned fresh => if outcome.raises then .onError fresh else .releasing
  | .failing => if w.attempt job.number + 1 < maxRetries then .releasing else .patchingFailed
  | .patchingFailed => .releasing
  | .releasing => .leaving
  | .leaving => .leaving

/-- The control plane has confirmed that an event is remote. -/
def Uploader.confirmed (w : Uploader) (job : UploadJob) (acked : Bool) : Uploader :=
  if acked then
    { w.storeAttempts job.eventId none with spillIds := w.spillIds.erase job.eventId }
  else w

/-- What is at a path changes. -/
def Uploader.setDir (w : Uploader) (path : String) (tree : Option DirTree) : Uploader :=
  { w with dirs := Function.update w.dirs path tree }

/-- What a step of a worker does. -/
def Uploader.effect (cfg : UploaderConfig) (w : Uploader) (job : UploadJob)
    (outcome : WorkOutcome) : UploadPhase → Uploader
  | .starting => { w with rescheduled := w.rescheduled.erase job.number }
  | .patchingMissing _ | .patchingRemote _ _ _ _ => w.confirmed job outcome.acked
  | .removing _ _ dst | .copying _ dst => w.setDir dst outcome.tree
  | .pruning _ _ =>
    match w.prunes? cfg job with
    | some src => w.setDir src (if outcome.raises then outcome.tree else none)
    | none => w
  | .failing =>
    let attempt := w.attempt job.number + 1
    if attempt < maxRetries then
      { w.storeAttempts job.eventId (some attempt) with
        attempt := Function.update w.attempt job.number attempt
        rescheduled := insert job.number w.rescheduled
        timers := w.timers ++ [job] }
    else w.storeAttempts job.eventId (some maxRetries)
  | .releasing => { w with slots := w.slots + 1 }
  | .leaving => if job.number ∈ w.rescheduled then w else w.forget job.eventId
  | _ => w

/-- A step of a worker. -/
def Uploader.workStep (cfg : UploaderConfig) (w : Uploader) (job : UploadJob)
    (phase : UploadPhase) (outcome : WorkOutcome) : Uploader :=
  let others := w.workers.erase (job, phase)
  { w.effect cfg job outcome phase with
    workers :=
      if phase = .leaving then others
      else others ++ [(job, w.nextPhase cfg job outcome phase)] }

/-- One moment, if it can come. -/
def Uploader.step (cfg : UploaderConfig) (w : Uploader) : UploadOp → Option Uploader
  | .start =>
    some (if cfg.enabled && !w.dispatching then
      { w with stopping := false, dispatching := true } else w)
  | .stop => some { w with stopping := true }
  | .cancelTimers => if w.stopping then some { w with timers := [] } else none
  | .wake =>
    if w.stopping then
      some (if w.queue.length < queueRoom then { w with queue := w.queue ++ [none] } else w)
    else none
  | .dispatcherStops =>
    if w.dispatching ∧ w.stopping ∧ w.hand = none then some { w with dispatching := false }
    else none
  | .call source event durableSpill durableAttempts =>
    some (w.callFrom cfg source event durableSpill durableAttempts)
  | .mark job =>
    if job ∈ w.called then
      let marked := { w with called := w.called.erase job }
      some (if job.eventId ∈ w.activeIds then marked
        else { marked with
          activeIds := insert job.eventId w.activeIds
          entering := w.entering ++ [job] })
    else none
  | .put job =>
    if job ∈ w.entering then
      let left := { w with entering := w.entering.erase job }
      some (if w.queue.length < queueRoom then { left with queue := w.queue ++ [some job] }
        else left.forget job.eventId)
    else none
  | .take =>
    if w.dispatching ∧ w.hand = none then
      match w.queue with
      | some job :: rest => some { w with queue := rest, hand := some job }
      | none :: rest => some { w with queue := rest, dispatching := false }
      | [] => none
    else none
  | .acquire =>
    match w.hand with
    | some job =>
      if 0 < w.slots then
        some { w with
          slots := w.slots - 1
          hand := none
          workers := w.workers ++ [(job, .starting)] }
      else none
    | none => none
  | .giveUp =>
    match w.hand with
    | some job =>
      if w.stopping then
        some { w.forget job.eventId with hand := none, dispatching := false }
      else none
    | none => none
  | .work job phase outcome =>
    if (job, phase) ∈ w.workers then some (w.workStep cfg job phase outcome) else none
  | .fire job =>
    if job ∈ w.timers then
      some { w with timers := w.timers.erase job, firing := w.firing ++ [job] }
    else none
  | .requeue job =>
    if job ∈ w.firing ∧ w.queue.length < queueRoom then
      some { w with firing := w.firing.erase job, queue := w.queue ++ [some job] }
    else none
  | .change path tree => some (w.setDir path tree)

/-- The moments as a relation. -/
def Uploader.Step (cfg : UploaderConfig) (w : Uploader) (op : UploadOp) (w' : Uploader) : Prop :=
  w.step cfg op = some w'

/-! ### What happened -/

/-- What the steps tell of the directories. -/
inductive UploadSign where
  | verified (eventId src dst digest : String)
  | acked (eventId dst : String)
  | deleted (eventId src : String)
  deriving DecidableEq

/-- What a step of a worker tells. -/
def Uploader.workSigns (cfg : UploaderConfig) (w : Uploader) (job : UploadJob)
    (outcome : WorkOutcome) : UploadPhase → List UploadSign
  | .hashingLocal _ src dst digest =>
    if !outcome.raises && decide (digest = cfg.digest (w.dirs src)) then
      [.verified job.eventId src dst digest]
    else []
  | .patchingRemote _ _ dst _ => if outcome.acked then [.acked job.eventId dst] else []
  | .pruning _ _ => ((w.prunes? cfg job).map (.deleted job.eventId)).toList
  | _ => []

/-- What a step tells. -/
def Uploader.signs (cfg : UploaderConfig) (w : Uploader) : UploadOp → List UploadSign
  | .work job phase outcome => w.workSigns cfg job outcome phase
  | _ => []

/-! ### Deleted in order -/

variable {cfg : UploaderConfig} {log signs : List UploadSign}

/-- A remote directory was verified, and then confirmed. -/
def Confirmed (log : List UploadSign) (eventId src dst : String) : Prop :=
  ∃ digest before between after, log =
    before ++ .verified eventId src dst digest :: (between ++ .acked eventId dst :: after)

/-- **A local copy is deleted in order**: after a remote directory with its digest was verified, and
then confirmed by the control plane. -/
def DeletedInOrder (log : List UploadSign) : Prop :=
  ∀ before eventId src after, log = before ++ .deleted eventId src :: after →
    ∃ dst, Confirmed before eventId src dst

/-- What happens later leaves what was confirmed. -/
theorem Confirmed.append {eventId src dst : String} (h : Confirmed log eventId src dst)
    (later : List UploadSign) : Confirmed (log ++ later) eventId src dst := by
  obtain ⟨digest, before, between, after, rfl⟩ := h
  exact ⟨digest, before, between, after ++ later, by simp⟩

/-- What is confirmed was verified. -/
theorem Confirmed.of_verified {eventId src dst digest : String}
    (h : .verified eventId src dst digest ∈ log) :
    Confirmed (log ++ [.acked eventId dst]) eventId src dst := by
  obtain ⟨before, after, rfl⟩ := List.append_of_mem h
  exact ⟨digest, before, after, [], by simp⟩

/-- What is deleted later is, if it was confirmed. -/
theorem DeletedInOrder.append (h : DeletedInOrder log)
    (hsigns : ∀ eventId src, .deleted eventId src ∈ signs → ∃ dst, Confirmed log eventId src dst) :
    DeletedInOrder (log ++ signs) := by
  intro before eventId src after heq
  rcases List.append_eq_append_iff.mp heq with ⟨more, rfl, hsplit⟩ | ⟨more, hlog, hsplit⟩
  · obtain ⟨dst, hdst⟩ := hsigns eventId src (by rw [hsplit]; simp)
    exact ⟨dst, hdst.append more⟩
  · cases more with
    | nil =>
        rw [List.append_nil] at hlog
        obtain ⟨dst, hdst⟩ := hsigns eventId src (by rw [← List.nil_append signs, ← hsplit]; simp)
        exact ⟨dst, hlog ▸ hdst⟩
    | cons sign more =>
        obtain ⟨rfl, -⟩ := List.cons.inj hsplit
        exact h before eventId src more hlog

/-- What a worker has found out where it is. -/
def PhaseOk (cfg : UploaderConfig) (log : List UploadSign) (job : UploadJob) :
    UploadPhase → Prop
  | .looking src _ | .lookingRemote src _ | .hashingRemote _ src _ | .hashingLocal _ src _ _
  | .removing _ src _ | .patchingUploading src _ | .copying src _ =>
    cfg.resolve job.localPath = some src
  | .patchingRemote _ src dst digest =>
    cfg.resolve job.localPath = some src ∧ .verified job.eventId src dst digest ∈ log
  | .pruning _ dst =>
    ∃ src, cfg.resolve job.localPath = some src ∧ Confirmed log job.eventId src dst
  | _ => True

/-- What happens later leaves what a worker has found out. -/
theorem PhaseOk.append {job : UploadJob} {phase : UploadPhase} (h : PhaseOk cfg log job phase)
    (later : List UploadSign) : PhaseOk cfg (log ++ later) job phase := by
  cases phase with
  | patchingRemote _ _ _ _ => exact ⟨h.1, List.mem_append_left _ h.2⟩
  | pruning _ _ =>
      obtain ⟨src, hsrc, hconfirmed⟩ := h
      exact ⟨src, hsrc, hconfirmed.append later⟩
  | _ => exact h

/-- Where a worker goes when a step raises it has found out nothing. -/
theorem phaseOk_onError (job : UploadJob) (fresh : Bool) : PhaseOk cfg log job (.onError fresh) := by
  cases fresh <;> exact trivial

/-- A worker finds out what it needs. -/
theorem PhaseOk.next {w : Uploader} {job : UploadJob} {phase : UploadPhase}
    (h : PhaseOk cfg log job phase) (outcome : WorkOutcome) :
    PhaseOk cfg (log ++ w.workSigns cfg job outcome phase) job
      (w.nextPhase cfg job outcome phase) := by
  cases phase with
  | resolving =>
      rw [Uploader.nextPhase]
      split
      · assumption
      · exact trivial
  | looking src dst =>
      rw [Uploader.nextPhase]
      split
      · exact h
      · exact trivial
  | lookingMissing dst =>
      rw [Uploader.nextPhase]
      split <;> exact trivial
  | hashingMissing dst =>
      rw [Uploader.nextPhase]
      split <;> exact trivial
  | lookingRemote src dst =>
      rw [Uploader.nextPhase]
      split <;> exact h
  | hashingRemote fresh src dst =>
      rw [Uploader.nextPhase]
      split
      · exact phaseOk_onError job fresh
      · exact h
  | hashingLocal fresh src dst digest =>
      rw [Uploader.nextPhase]
      cases hraises : outcome.raises with
      | true => exact phaseOk_onError job fresh
      | false =>
          rw [if_neg Bool.false_ne_true]
          by_cases hdigest : digest = cfg.digest (w.dirs src)
          · rw [if_neg (not_not.mpr hdigest)]
            refine ⟨h, List.mem_append_right _ ?_⟩
            rw [Uploader.workSigns, hraises, decide_eq_true hdigest]
            exact List.mem_singleton_self _
          · rw [if_pos hdigest]
            exact h
  | removing fresh src dst =>
      rw [Uploader.nextPhase]
      split
      · exact trivial
      · exact h
  | patchingUploading src dst => exact h
  | copying src dst =>
      rw [Uploader.nextPhase]
      split
      · exact trivial
      · exact h
  | patchingRemote fresh src dst digest =>
      rw [Uploader.nextPhase, Uploader.workSigns]
      cases outcome.acked with
      | true => exact ⟨src, h.1, .of_verified h.2⟩
      | false => exact trivial
  | pruning fresh dst =>
      rw [Uploader.nextPhase]
      split <;> exact trivial
  | patchingPruned fresh =>
      rw [Uploader.nextPhase]
      split
      · exact phaseOk_onError job fresh
      · exact trivial
  | failing =>
      rw [Uploader.nextPhase]
      split <;> exact trivial
  | _ => exact trivial

/-- A worker deletes what was confirmed. -/
theorem PhaseOk.deleted {w : Uploader} {job : UploadJob} {phase : UploadPhase}
    (h : PhaseOk cfg log job phase) {outcome : WorkOutcome} {eventId src : String}
    (hsign : .deleted eventId src ∈ w.workSigns cfg job outcome phase) :
    ∃ dst, Confirmed log eventId src dst := by
  cases phase with
  | hashingLocal fresh src' dst digest =>
      rw [Uploader.workSigns] at hsign
      split at hsign
      · cases List.mem_singleton.mp hsign
      · cases hsign
  | patchingRemote fresh src' dst digest =>
      rw [Uploader.workSigns] at hsign
      split at hsign
      · cases List.mem_singleton.mp hsign
      · cases hsign
  | pruning fresh dst =>
      rw [Uploader.workSigns, Option.mem_toList, Option.map_eq_some_iff] at hsign
      obtain ⟨found, hprunes, heq⟩ := hsign
      cases heq
      obtain ⟨src', hsrc, hconfirmed⟩ := h
      rw [Uploader.prunes?] at hprunes
      split at hprunes
      · rw [hsrc, Option.filter_some] at hprunes
        split at hprunes
        · rw [← Option.some.inj hprunes]
          exact ⟨dst, hconfirmed⟩
        · cases hprunes
      · cases hprunes
  | _ => cases hsign

/-- The workers have found out what they need, and what was deleted was deleted in order. -/
structure OrderInv (cfg : UploaderConfig) (log : List UploadSign) (w : Uploader) : Prop where
  workers : ∀ x ∈ w.workers, PhaseOk cfg log x.1 x.2
  deleted : DeletedInOrder log

/-- A call leaves the workers and the places of the jobs. -/
theorem Uploader.callFrom_frame (w : Uploader) (source : UploadSource) (event : UploadEvent)
    (durableSpill : Bool) (durableAttempts : Option ℕ) :
    ∃ spillIds called attempt attemptCounts made,
      w.callFrom cfg source event durableSpill durableAttempts = { w with
        spillIds := spillIds, called := called, attempt := attempt
        attemptCounts := attemptCounts, made := made } := by
  have henqueue : ∀ (w : Uploader) (event : UploadEvent) uploadAttempts force prune,
      ∃ spillIds called attempt attemptCounts made,
        w.enqueueLocalEvent cfg event uploadAttempts force prune durableSpill durableAttempts =
          { w with
            spillIds := spillIds, called := called, attempt := attempt
            attemptCounts := attemptCounts, made := made } := by
    intro w event uploadAttempts force prune
    rw [enqueueLocalEvent]
    split
    · exact ⟨_, _, _, _, _, rfl⟩
    · cases uploadAttempts with
      | none => exact ⟨_, _, _, _, _, rfl⟩
      | some _ => exact ⟨_, _, _, _, _, rfl⟩
  rw [callFrom.eq_def]
  cases source with
  | recover => exact henqueue w event _ _ _
  | retryFailed state =>
      dsimp only
      split
      · exact ⟨_, _, _, _, _, rfl⟩
      · exact henqueue (w.keepAttempts event.id durableAttempts) event _ _ _
  | spill => exact henqueue w _ _ _ _
  | plain => exact henqueue w event _ _ _

/-- Nothing is told, and the workers stay. -/
theorem OrderInv.of_same {w w' : Uploader} (h : OrderInv cfg log w) (hsame : w'.workers = w.workers) :
    OrderInv cfg (log ++ []) w' := by
  rw [List.append_nil]
  exact ⟨hsame ▸ h.workers, h.deleted⟩

/-- **One moment**: local copies are deleted in order. -/
theorem OrderInv.step {w w' : Uploader} {op : UploadOp} (h : OrderInv cfg log w)
    (hstep : w.Step cfg op w') : OrderInv cfg (log ++ w.signs cfg op) w' := by
  rw [Uploader.Step, Uploader.step.eq_def] at hstep
  cases op with
  | start =>
      rw [← Option.some.inj hstep]
      exact h.of_same (by split <;> rfl)
  | stop =>
      cases hstep
      exact h.of_same rfl
  | cancelTimers =>
      dsimp only at hstep
      split at hstep
      · cases hstep
        exact h.of_same rfl
      · cases hstep
  | wake =>
      dsimp only at hstep
      split at hstep
      · rw [← Option.some.inj hstep]
        exact h.of_same (by split <;> rfl)
      · cases hstep
  | dispatcherStops =>
      dsimp only at hstep
      split at hstep
      · cases hstep
        exact h.of_same rfl
      · cases hstep
  | call source event durableSpill durableAttempts =>
      rw [← Option.some.inj hstep]
      obtain ⟨_, _, _, _, _, hframe⟩ :=
        @Uploader.callFrom_frame cfg w source event durableSpill durableAttempts
      rw [hframe]
      exact h.of_same rfl
  | mark job =>
      dsimp only at hstep
      split at hstep
      · rw [← Option.some.inj hstep]
        exact h.of_same (by split <;> rfl)
      · cases hstep
  | put job =>
      dsimp only at hstep
      split at hstep
      · rw [← Option.some.inj hstep]
        exact h.of_same (by split <;> rfl)
      · cases hstep
  | take =>
      dsimp only at hstep
      split at hstep
      · split at hstep
        · cases hstep
          exact h.of_same rfl
        · cases hstep
          exact h.of_same rfl
        · cases hstep
      · cases hstep
  | acquire =>
      dsimp only at hstep
      split at hstep
      · split at hstep
        · rw [← Option.some.inj hstep]
          change OrderInv cfg (log ++ []) _
          rw [List.append_nil]
          refine ⟨fun x hx => ?_, h.deleted⟩
          rcases List.mem_append.mp hx with hx | hx
          · exact h.workers x hx
          · rw [List.mem_singleton.mp hx]
            exact trivial
        · cases hstep
      · cases hstep
  | giveUp =>
      dsimp only at hstep
      split at hstep
      · split at hstep
        · cases hstep
          exact h.of_same rfl
        · cases hstep
      · cases hstep
  | work job phase outcome =>
      dsimp only at hstep
      split at hstep
      · rename_i hworker
        rw [← Option.some.inj hstep]
        have hphase := h.workers (job, phase) hworker
        refine ⟨fun x hx => ?_, h.deleted.append fun eventId src hsign => hphase.deleted hsign⟩
        have hothers : ∀ x ∈ w.workers.erase (job, phase),
            PhaseOk cfg (log ++ w.workSigns cfg job outcome phase) x.1 x.2 := fun x hx =>
          (h.workers x (List.mem_of_mem_erase hx)).append _
        change x ∈ ite (phase = .leaving) _ _ at hx
        split at hx
        · exact hothers x hx
        · rcases List.mem_append.mp hx with hx | hx
          · exact hothers x hx
          · rw [List.mem_singleton.mp hx]
            exact hphase.next outcome
      · cases hstep
  | fire job =>
      dsimp only at hstep
      split at hstep
      · cases hstep
        exact h.of_same rfl
      · cases hstep
  | requeue job =>
      dsimp only at hstep
      split at hstep
      · cases hstep
        exact h.of_same rfl
      · cases hstep
  | change path tree =>
      cases hstep
      exact h.of_same rfl

/-! ### One job for an event -/

/-- A worker has its job in flight, unless it is done with it. -/
def inHand (rescheduled : Finset ℕ) (x : UploadJob × UploadPhase) : Bool :=
  !x.2.ends || decide (x.1.number ∉ rescheduled)

/-- The jobs workers have in flight. -/
def heldBy (rescheduled : Finset ℕ) (workers : List (UploadJob × UploadPhase)) :
    Multiset UploadJob :=
  ((workers.filter (inHand rescheduled)).map Prod.fst : List UploadJob)

/-- The jobs that wait for a worker: those that are to be queued, are queued, that the dispatcher
has, and that come back by a timer. -/
def Uploader.waiting (w : Uploader) : Multiset UploadJob :=
  (w.entering : Multiset UploadJob) + (w.queue.filterMap id : List UploadJob) +
    (w.hand.toList : Multiset UploadJob) + (w.timers : Multiset UploadJob) +
    (w.firing : Multiset UploadJob)

/-- The jobs in flight: those that wait for a worker, and those that workers have. -/
def Uploader.flights (w : Uploader) : Multiset UploadJob :=
  w.waiting + heldBy w.rescheduled w.workers

/-- **There is one job in flight for an event.** -/
def OneInFlight (w : Uploader) : Prop := (w.flights.map UploadJob.eventId).Nodup

instance (w : Uploader) : Decidable (OneInFlight w) :=
  inferInstanceAs (Decidable (Multiset.Nodup _))

/-- The job a worker starts. -/
def UploadOp.starts? : UploadOp → Option UploadJob
  | .work job .starting _ => some job
  | _ => none

/-- A worker that starts a job starts one that no other worker has. -/
def Uploader.StartsAlone (w : Uploader) (op : UploadOp) : Prop :=
  ∀ job ∈ op.starts?, ∀ x ∈ w.workers.erase (job, .starting), x.1.number ≠ job.number

instance (w : Uploader) (op : UploadOp) : Decidable (w.StartsAlone op) :=
  inferInstanceAs (Decidable (∀ job ∈ op.starts?, _))

/-- There is one job for an event, and the event is active. -/
structure FlightInv (w : Uploader) : Prop where
  one : OneInFlight w
  active : ∀ job ∈ w.flights, job.eventId ∈ w.activeIds

/-- Fewer jobs are in flight, and the events stay active. -/
theorem FlightInv.of_le {w w' : Uploader} (h : FlightInv w) (hle : w'.flights ≤ w.flights)
    (hactive : w'.activeIds = w.activeIds) : FlightInv w' :=
  ⟨Multiset.nodup_of_le (Multiset.map_le_map hle) h.one,
    fun job hjob => hactive ▸ h.active job (Multiset.mem_of_le hle hjob)⟩

/-- A job is no longer in flight, and its event is forgotten. -/
theorem FlightInv.forget {w w' : Uploader} {job : UploadJob} (h : FlightInv w)
    (hle : job ::ₘ w'.flights ≤ w.flights)
    (hactive : w'.activeIds = w.activeIds.erase job.eventId) : FlightInv w' := by
  have hone := Multiset.nodup_of_le (Multiset.map_le_map hle) h.one
  rw [Multiset.map_cons, Multiset.nodup_cons] at hone
  refine ⟨hone.2, fun other hother => ?_⟩
  rw [hactive, Finset.mem_erase]
  refine ⟨fun heq => hone.1 (heq ▸ Multiset.mem_map_of_mem _ hother), ?_⟩
  exact h.active other (Multiset.mem_of_le hle (Multiset.mem_cons_of_mem hother))

/-- A job is in flight, and its event is active. -/
theorem FlightInv.mark {w w' : Uploader} {job : UploadJob} (h : FlightInv w)
    (hnew : job.eventId ∉ w.activeIds) (hflights : w'.flights = job ::ₘ w.flights)
    (hactive : w'.activeIds = insert job.eventId w.activeIds) : FlightInv w' := by
  refine ⟨?_, fun other hother => ?_⟩
  · rw [OneInFlight, hflights, Multiset.map_cons, Multiset.nodup_cons]
    refine ⟨fun hmem => ?_, h.one⟩
    obtain ⟨other, hother, heq⟩ := Multiset.mem_map.mp hmem
    exact hnew (heq ▸ h.active other hother)
  · rw [hflights, Multiset.mem_cons] at hother
    rw [hactive, Finset.mem_insert]
    rcases hother with rfl | hother
    · exact .inl rfl
    · exact .inr (h.active other hother)

/-- A worker, and the others. -/
theorem heldBy_of_mem {rescheduled : Finset ℕ} {workers : List (UploadJob × UploadPhase)}
    {x : UploadJob × UploadPhase} (h : x ∈ workers) :
    heldBy rescheduled workers = heldBy rescheduled [x] + heldBy rescheduled (workers.erase x) := by
  have hperm := ((List.perm_cons_erase h).filter (inHand rescheduled)).map Prod.fst
  rw [heldBy, Multiset.coe_eq_coe.mpr hperm, heldBy, heldBy, Multiset.coe_add, ← List.map_append,
    ← List.filter_append]
  rfl

/-- One more worker. -/
theorem heldBy_append (rescheduled : Finset ℕ) (workers : List (UploadJob × UploadPhase))
    (x : UploadJob × UploadPhase) :
    heldBy rescheduled (workers ++ [x]) = heldBy rescheduled workers + heldBy rescheduled [x] := by
  rw [heldBy, List.filter_append, List.map_append, ← Multiset.coe_add]
  rfl

/-- A worker that is not at its end has its job. -/
theorem heldBy_singleton {rescheduled : Finset ℕ} {job : UploadJob} {phase : UploadPhase}
    (h : phase.ends = false ∨ job.number ∉ rescheduled) :
    heldBy rescheduled [(job, phase)] = {job} := by
  have hheld : inHand rescheduled (job, phase) = true := by
    rw [inHand, Bool.or_eq_true, Bool.not_eq_true', decide_eq_true_eq]
    exact h
  rw [heldBy, List.filter_cons_of_pos hheld]
  rfl

/-- A worker at its end does not have a job that was rescheduled. -/
theorem heldBy_singleton_of_done {rescheduled : Finset ℕ} {job : UploadJob} {phase : UploadPhase}
    (hends : phase.ends = true) (hdone : job.number ∈ rescheduled) :
    heldBy rescheduled [(job, phase)] = 0 := by
  have hheld : ¬ inHand rescheduled (job, phase) = true := by
    rw [inHand, hends, decide_eq_false (not_not.mpr hdone)]
    exact Bool.false_ne_true
  rw [heldBy, List.filter_cons_of_neg hheld]
  rfl

/-- A worker has at most its job. -/
theorem heldBy_singleton_le (rescheduled : Finset ℕ) (job : UploadJob) (phase : UploadPhase) :
    heldBy rescheduled [(job, phase)] ≤ {job} := by
  by_cases h : phase.ends = false ∨ job.number ∉ rescheduled
  · rw [heldBy_singleton h]
  · rw [not_or, not_not, Bool.not_eq_false] at h
    rw [heldBy_singleton_of_done h.1 h.2]
    exact Multiset.zero_le _

/-- With more jobs rescheduled, workers have fewer. -/
theorem heldBy_anti {rescheduled rescheduled' : Finset ℕ} (h : rescheduled ⊆ rescheduled')
    (workers : List (UploadJob × UploadPhase)) :
    heldBy rescheduled' workers ≤ heldBy rescheduled workers := by
  refine Multiset.coe_le.mpr (List.Sublist.subperm (List.Sublist.map _ ?_))
  refine List.monotone_filter_right workers fun x hx => ?_
  rw [inHand, Bool.or_eq_true, decide_eq_true_eq] at hx ⊢
  exact hx.imp_right fun hnot hin => hnot (h hin)

/-- What is rescheduled of jobs no worker has does not matter. -/
theorem heldBy_erase {rescheduled : Finset ℕ} {workers : List (UploadJob × UploadPhase)} {n : ℕ}
    (h : ∀ x ∈ workers, x.1.number ≠ n) :
    heldBy (rescheduled.erase n) workers = heldBy rescheduled workers := by
  have hsame : workers.filter (inHand (rescheduled.erase n)) =
      workers.filter (inHand rescheduled) := by
    refine List.filter_congr fun x hx => ?_
    rw [inHand, inHand]
    have hiff : x.1.number ∈ rescheduled.erase n ↔ x.1.number ∈ rescheduled := by
      rw [Finset.mem_erase, and_iff_right (h x hx)]
    rw [decide_eq_decide.mpr (not_congr hiff)]
  rw [heldBy, hsame, heldBy]

/-- Most steps of a worker change neither which jobs wait, nor what is rescheduled or active. -/
theorem Uploader.effect_frame (w : Uploader) (job : UploadJob) (outcome : WorkOutcome)
    {phase : UploadPhase} (hstarting : phase ≠ .starting) (hfailing : phase ≠ .failing)
    (hleaving : phase ≠ .leaving) :
    (w.effect cfg job outcome phase).waiting = w.waiting ∧
      (w.effect cfg job outcome phase).rescheduled = w.rescheduled ∧
      (w.effect cfg job outcome phase).activeIds = w.activeIds := by
  have hconfirmed : (w.confirmed job outcome.acked).waiting = w.waiting ∧
      (w.confirmed job outcome.acked).rescheduled = w.rescheduled ∧
      (w.confirmed job outcome.acked).activeIds = w.activeIds := by
    rw [Uploader.confirmed]
    split <;> exact ⟨rfl, rfl, rfl⟩
  cases phase with
  | starting => exact absurd rfl hstarting
  | failing => exact absurd rfl hfailing
  | leaving => exact absurd rfl hleaving
  | patchingMissing _ => exact hconfirmed
  | patchingRemote _ _ _ _ => exact hconfirmed
  | pruning _ _ =>
      rw [Uploader.effect]
      split <;> exact ⟨rfl, rfl, rfl⟩
  | _ => exact ⟨rfl, rfl, rfl⟩

/-- A worker that is not at its end goes on, or releases its slot. -/
theorem Uploader.ends_of_next {phase : UploadPhase} (hends : phase.ends = true)
    (hleaving : phase ≠ .leaving) : phase = .releasing := by
  cases phase with
  | releasing => rfl
  | leaving => exact absurd rfl hleaving
  | _ => cases hends

/-- A worker goes on to a phase. -/
theorem FlightInv.goesOn {w w' : Uploader} {job : UploadJob} {phase next : UploadPhase}
    (h : FlightInv w) (hmem : (job, phase) ∈ w.workers) (hwaiting : w'.waiting = w.waiting)
    (hworkers : w'.workers = w.workers.erase (job, phase) ++ [(job, next)])
    (hactive : w'.activeIds = w.activeIds)
    (hothers : heldBy w'.rescheduled (w.workers.erase (job, phase)) ≤
      heldBy w.rescheduled (w.workers.erase (job, phase)))
    (hnext : heldBy w'.rescheduled [(job, next)] ≤ heldBy w.rescheduled [(job, phase)]) :
    FlightInv w' := by
  refine h.of_le ?_ hactive
  rw [Uploader.flights, Uploader.flights, hwaiting, hworkers, heldBy_append, heldBy_of_mem hmem,
    add_comm (heldBy w.rescheduled [(job, phase)])]
  exact add_le_add_right (add_le_add hothers hnext) _

/-- **One moment of a worker**: there stays one job for an event, if it starts alone. -/
theorem FlightInv.workStep {w : Uploader} {job : UploadJob} {phase : UploadPhase}
    {outcome : WorkOutcome} (h : FlightInv w) (hmem : (job, phase) ∈ w.workers)
    (halone : w.StartsAlone (.work job phase outcome)) :
    FlightInv (w.workStep cfg job phase outcome) := by
  by_cases hstarting : phase = .starting
  · subst hstarting
    refine @FlightInv.goesOn _ _ _ _ .resolving h hmem rfl rfl rfl ?_ ?_
    · exact (heldBy_erase (halone job rfl)).le
    · rw [heldBy_singleton (.inl rfl), heldBy_singleton (.inl rfl)]
  by_cases hfailing : phase = .failing
  · subst hfailing
    by_cases hretries : w.attempt job.number + 1 < maxRetries
    · have hstep : w.workStep cfg job .failing outcome =
          { w.storeAttempts job.eventId (some (w.attempt job.number + 1)) with
            attempt := Function.update w.attempt job.number (w.attempt job.number + 1)
            rescheduled := insert job.number w.rescheduled
            timers := w.timers ++ [job]
            workers := w.workers.erase (job, .failing) ++ [(job, .releasing)] } := by
        rw [Uploader.workStep, Uploader.effect, Uploader.nextPhase, if_pos hretries]
        dsimp only
        rw [if_pos hretries]
        rfl
      rw [hstep]
      refine h.of_le ?_ rfl
      change (w.entering : Multiset UploadJob) + (w.queue.filterMap id : List UploadJob) +
          (w.hand.toList : Multiset UploadJob) + (w.timers ++ [job] : List UploadJob) +
          (w.firing : Multiset UploadJob) +
        heldBy (insert job.number w.rescheduled)
          (w.workers.erase (job, .failing) ++ [(job, .releasing)]) ≤ w.flights
      rw [heldBy_append, heldBy_singleton_of_done rfl (Finset.mem_insert_self ..), add_zero,
        Uploader.flights, Uploader.waiting, heldBy_of_mem hmem, heldBy_singleton (.inl rfl),
        ← Multiset.coe_add, Multiset.coe_singleton]
      refine le_trans (le_of_eq ?_) (add_le_add_right (add_le_add_right
        (heldBy_anti (Finset.subset_insert job.number w.rescheduled) _) {job}) _)
      abel
    · have hstep : w.workStep cfg job .failing outcome =
          { w.storeAttempts job.eventId (some maxRetries) with
            workers := w.workers.erase (job, .failing) ++ [(job, .patchingFailed)] } := by
        rw [Uploader.workStep, Uploader.effect, Uploader.nextPhase, if_neg hretries]
        dsimp only
        rw [if_neg hretries]
        rfl
      rw [hstep]
      refine @FlightInv.goesOn _ _ _ _ .patchingFailed h hmem rfl rfl rfl le_rfl ?_
      rw [heldBy_singleton (.inl rfl), heldBy_singleton (.inl rfl)]
  by_cases hleaving : phase = .leaving
  · subst hleaving
    by_cases hdone : job.number ∈ w.rescheduled
    · have hstep : w.workStep cfg job .leaving outcome =
          { w with workers := w.workers.erase (job, .leaving) } := by
        rw [Uploader.workStep, Uploader.effect, if_pos hdone]
        rfl
      rw [hstep]
      refine h.of_le ?_ rfl
      rw [Uploader.flights, Uploader.flights, heldBy_of_mem hmem]
      exact add_le_add_right (Multiset.le_add_left _ _) _
    · have hstep : w.workStep cfg job .leaving outcome =
          { w.forget job.eventId with workers := w.workers.erase (job, .leaving) } := by
        rw [Uploader.workStep, Uploader.effect, if_neg hdone]
        rfl
      rw [hstep]
      refine @FlightInv.forget _ _ job h ?_ rfl
      rw [Uploader.flights, Uploader.flights, heldBy_of_mem hmem, heldBy_singleton (.inr hdone),
        ← Multiset.singleton_add, add_left_comm]
      exact le_rfl
  · obtain ⟨hwaiting, hrescheduled, hactive⟩ :=
      @Uploader.effect_frame cfg w job outcome _ hstarting hfailing hleaving
    have hworkers : (w.workStep cfg job phase outcome).workers =
        w.workers.erase (job, phase) ++ [(job, w.nextPhase cfg job outcome phase)] :=
      if_neg hleaving
    have hsame : (w.workStep cfg job phase outcome).rescheduled = w.rescheduled := hrescheduled
    refine h.goesOn hmem hwaiting hworkers hactive ?_ ?_
    · rw [hsame]
    · rw [hsame]
      cases hends : phase.ends with
      | false =>
          rw [heldBy_singleton (.inl hends)]
          exact heldBy_singleton_le _ _ _
      | true =>
          rw [Uploader.ends_of_next hends hleaving]
          by_cases hdone : job.number ∈ w.rescheduled
          · rw [Uploader.nextPhase, heldBy_singleton_of_done rfl hdone]
            exact Multiset.zero_le _
          · rw [heldBy_singleton (.inr hdone), heldBy_singleton (.inr hdone)]

/-- One more job is queued. -/
theorem filterMap_queue_append (queue : List (Option UploadJob)) (job : UploadJob) :
    ((queue ++ [some job]).filterMap id : Multiset UploadJob) =
      (queue.filterMap id : List UploadJob) + {job} := by
  rw [List.filterMap_append, ← Multiset.coe_add]
  rfl

/-- **One moment**: there stays one job for an event, if a worker that starts does so alone. -/
theorem FlightInv.step {w w' : Uploader} {op : UploadOp} (h : FlightInv w)
    (halone : w.StartsAlone op) (hstep : w.Step cfg op w') : FlightInv w' := by
  rw [Uploader.Step, Uploader.step.eq_def] at hstep
  cases op with
  | start =>
      rw [← Option.some.inj hstep]
      split
      · exact h.of_le le_rfl rfl
      · exact h
  | stop =>
      cases hstep
      exact h.of_le le_rfl rfl
  | cancelTimers =>
      obtain ⟨-, heq⟩ := Option.ite_none_right_eq_some.mp hstep
      cases heq
      refine h.of_le ?_ rfl
      refine add_le_add_left (add_le_add_left (add_le_add_right (Multiset.zero_le _) _) _) _
  | wake =>
      obtain ⟨-, heq⟩ := Option.ite_none_right_eq_some.mp hstep
      rw [← Option.some.inj heq]
      split
      · refine h.of_le (le_of_eq ?_) rfl
        simp [Uploader.flights, Uploader.waiting]
      · exact h
  | dispatcherStops =>
      obtain ⟨-, heq⟩ := Option.ite_none_right_eq_some.mp hstep
      cases heq
      exact h.of_le le_rfl rfl
  | call source event durableSpill durableAttempts =>
      rw [← Option.some.inj hstep]
      obtain ⟨_, _, _, _, _, hframe⟩ :=
        @Uploader.callFrom_frame cfg w source event durableSpill durableAttempts
      rw [hframe]
      exact h.of_le le_rfl rfl
  | mark job =>
      obtain ⟨-, heq⟩ := Option.ite_none_right_eq_some.mp hstep
      rw [← Option.some.inj heq]
      split
      · exact h.of_le le_rfl rfl
      · rename_i hnew
        refine h.mark hnew ?_ rfl
        simp only [Uploader.flights, Uploader.waiting, ← Multiset.coe_add, Multiset.coe_singleton,
          ← Multiset.singleton_add]
        abel
  | put job =>
      obtain ⟨hmem, heq⟩ := Option.ite_none_right_eq_some.mp hstep
      have hentering : (w.entering : Multiset UploadJob) = job ::ₘ (w.entering.erase job : List _) :=
        Multiset.coe_eq_coe.mpr (List.perm_cons_erase hmem)
      rw [← Option.some.inj heq]
      split
      · refine h.of_le (le_of_eq ?_) rfl
        simp only [Uploader.flights, Uploader.waiting, filterMap_queue_append, hentering,
          ← Multiset.singleton_add]
        abel
      · refine @FlightInv.forget _ _ job h (le_of_eq ?_) rfl
        simp only [Uploader.flights, Uploader.waiting, Uploader.forget, hentering,
          ← Multiset.singleton_add]
        abel
  | take =>
      obtain ⟨⟨-, hhand⟩, heq⟩ := Option.ite_none_right_eq_some.mp hstep
      split at heq
      · rename_i job rest hqueue
        cases heq
        refine h.of_le (le_of_eq ?_) rfl
        simp only [Uploader.flights, Uploader.waiting, hqueue, hhand, List.filterMap_cons, id_eq,
          Option.toList_some, Option.toList_none, ← Multiset.cons_coe, ← Multiset.singleton_add,
          Multiset.coe_nil]
        abel
      · rename_i rest hqueue
        cases heq
        refine h.of_le (le_of_eq ?_) rfl
        simp [Uploader.flights, Uploader.waiting, hqueue]
      · cases heq
  | acquire =>
      dsimp only at hstep
      split at hstep
      · rename_i job hhand
        obtain ⟨-, heq⟩ := Option.ite_none_right_eq_some.mp hstep
        rw [← Option.some.inj heq]
        refine h.of_le (le_of_eq ?_) rfl
        simp only [Uploader.flights, Uploader.waiting, hhand, heldBy_append, Option.toList_some,
          Option.toList_none, Multiset.coe_singleton, Multiset.coe_nil]
        rw [heldBy_singleton (.inl rfl)]
        abel
      · cases hstep
  | giveUp =>
      dsimp only at hstep
      split at hstep
      · rename_i job hhand
        obtain ⟨-, heq⟩ := Option.ite_none_right_eq_some.mp hstep
        cases heq
        refine @FlightInv.forget _ _ job h (le_of_eq ?_) rfl
        simp only [Uploader.flights, Uploader.waiting, Uploader.forget, hhand, Option.toList_some,
          Option.toList_none, Multiset.coe_singleton, Multiset.coe_nil, ← Multiset.singleton_add]
        abel
      · cases hstep
  | work job phase outcome =>
      obtain ⟨hmem, heq⟩ := Option.ite_none_right_eq_some.mp hstep
      rw [← Option.some.inj heq]
      exact h.workStep hmem halone
  | fire job =>
      obtain ⟨hmem, heq⟩ := Option.ite_none_right_eq_some.mp hstep
      have htimers : (w.timers : Multiset UploadJob) = job ::ₘ (w.timers.erase job : List _) :=
        Multiset.coe_eq_coe.mpr (List.perm_cons_erase hmem)
      cases heq
      refine h.of_le (le_of_eq ?_) rfl
      simp only [Uploader.flights, Uploader.waiting, htimers, ← Multiset.coe_add,
        Multiset.coe_singleton, ← Multiset.singleton_add]
      abel
  | requeue job =>
      obtain ⟨⟨hmem, -⟩, heq⟩ := Option.ite_none_right_eq_some.mp hstep
      have hfiring : (w.firing : Multiset UploadJob) = job ::ₘ (w.firing.erase job : List _) :=
        Multiset.coe_eq_coe.mpr (List.perm_cons_erase hmem)
      cases heq
      refine h.of_le (le_of_eq ?_) rfl
      simp only [Uploader.flights, Uploader.waiting, filterMap_queue_append, hfiring,
        ← Multiset.singleton_add]
      abel
  | change path tree =>
      cases hstep
      exact h.of_le le_rfl rfl

/-! ### Runs -/

/-- **Upload before prune.** A local copy is deleted only after a remote directory with its digest
was verified, and then confirmed by the control plane. There is one job in flight for an event in
every state of a run in which workers start alone. -/
theorem upload_before_prune {dirs : String → Option DirTree} {tr : List (Uploader × UploadOp)}
    {w : Uploader} (h : Run (Uploader.Step cfg) (.initial dirs) tr w) :
    DeletedInOrder (emitted (Uploader.signs cfg) tr) ∧
      ((∀ p ∈ tr, p.1.StartsAlone p.2) → Holds OneInFlight tr w) := by
  refine ⟨?_, fun halone => ?_⟩
  · have horder : OrderInv cfg [] (.initial dirs) := by
      refine ⟨fun x hx => ?_, fun before eventId src after heq => ?_⟩
      · cases hx
      · cases before <;> cases heq
    have hrun := @Run.invariant_log _ _ _ _ (Uploader.signs cfg) (OrderInv cfg)
      (fun hinv hstep => hinv.step hstep) _ _ _ h _ horder
    exact hrun.deleted
  · have hflight : FlightInv (.initial dirs) := by
      refine ⟨?_, fun job hjob => ?_⟩
      · rw [OneInFlight]
        exact Multiset.nodup_zero
      · exact absurd hjob (Multiset.notMem_zero job)
    have hrun := h.invariant_of_guard (fun w op => w.StartsAlone op)
      (fun hinv halone hstep => hinv.step halone hstep) hflight halone
    exact hrun.mono fun _ hinv => hinv.one

section Example

/-- A host whose events are under `/aee`. -/
def oneRootConfig : UploaderConfig where
  enabled := true
  resolve path := some path
  localRoot := "/aee"
  devicesDir _ := "/nfs/devices/unassigned"
  sha256 m := toString m.length
  prunesLocal := true

/-- An event. -/
def oneEvent : UploadEvent := ⟨"e1", "/aee/db.0", none, false⟩

/-- The first job of the event, or a later one. -/
def oneJob (number : ℕ) : UploadJob := ⟨number, "e1", "/aee/db.0", none, false, false⟩

/-- There is a directory for the event. -/
def oneDir (path : String) : Option DirTree :=
  if path = "/aee/db.0" then some (.single (fileNamed "db" (by decide +kernel)) []) else none

/-- A step goes well, and leaves a directory; or it raises. -/
def goesWell (well : Bool) : WorkOutcome := ⟨!well, well, oneDir "/aee/db.0"⟩

/-- A job is made of the event, and a worker gets it. -/
def jobStarts (number : ℕ) : List UploadOp :=
  [.call .recover oneEvent false none, .mark (oneJob number), .put (oneJob number), .take, .acquire]

/-- Steps of the worker of the first job. -/
def jobWorks (well : Bool) (phases : List UploadPhase) : List UploadOp :=
  phases.map fun phase => .work (oneJob 0) phase (goesWell well)

/-- Where the directory of the event is uploaded to. -/
def oneRemote : String := "/nfs/devices/unassigned/e1/db.0"

/-- The steps of a worker up to where it copies. -/
def upToCopy : List UploadPhase :=
  [.starting, .resolving, .looking "/aee/db.0" oneRemote, .lookingRemote "/aee/db.0" oneRemote,
    .patchingUploading "/aee/db.0" oneRemote]

/-- The theorem at work: an event is uploaded and its directory deleted. -/
theorem upload_before_prune_once :
    ∃ tr w, Run (Uploader.Step oneRootConfig) (.initial oneDir) tr w ∧
      .deleted "e1" "/aee/db.0" ∈ emitted (Uploader.signs oneRootConfig) tr ∧
      DeletedInOrder (emitted (Uploader.signs oneRootConfig) tr) ∧ OneInFlight w := by
  let digest := oneRootConfig.digest (oneDir "/aee/db.0")
  let ops : List UploadOp := .start :: jobStarts 0 ++ jobWorks true (upToCopy ++
    [.copying "/aee/db.0" oneRemote, .hashingRemote true "/aee/db.0" oneRemote,
      .hashingLocal true "/aee/db.0" oneRemote digest,
      .patchingRemote true "/aee/db.0" oneRemote digest, .pruning true oneRemote])
  have hend : (ops.foldlM (Uploader.step oneRootConfig) (.initial oneDir)).isSome = true := by
    decide +kernel
  obtain ⟨w, hw⟩ := Option.isSome_iff_exists.mp hend
  have hrun := Run.of_foldlM hw
  have hdeleted : .deleted "e1" "/aee/db.0" ∈ emitted (Uploader.signs oneRootConfig)
      (traceOf (Uploader.step oneRootConfig) (.initial oneDir) ops) := by decide +kernel
  have halone : ∀ p ∈ traceOf (Uploader.step oneRootConfig) (.initial oneDir) ops,
      p.1.StartsAlone p.2 := by decide +kernel
  obtain ⟨horder, hone⟩ := upload_before_prune hrun
  exact ⟨_, w, hrun, hdeleted, horder, (hone halone).2⟩

/-- **Two jobs for one event.** A worker fails and sets a timer. The timer fires before the worker
has left, and a second worker starts the job and resets `rescheduled`: the first one now forgets the
event, and the next poll round makes another job of it. -/
theorem two_jobs_in_flight :
    ∃ tr w, Run (Uploader.Step oneRootConfig) (.initial oneDir) tr w ∧ ¬ OneInFlight w ∧
      w.workers = [(oneJob 0, .resolving)] ∧ w.entering = [oneJob 1] := by
  let ops : List UploadOp := .start :: jobStarts 0 ++ jobWorks true upToCopy ++
    jobWorks false [.copying "/aee/db.0" oneRemote, .failing] ++
    [.fire (oneJob 0), .requeue (oneJob 0), .take, .acquire] ++
    jobWorks true [.starting, .releasing, .leaving] ++
    [.call .recover oneEvent false none, .mark (oneJob 1)]
  have hend : (ops.foldlM (Uploader.step oneRootConfig) (.initial oneDir)).any (fun w =>
      decide (¬ OneInFlight w ∧ w.workers = [(oneJob 0, .resolving)] ∧
        w.entering = [oneJob 1])) = true := by decide +kernel
  rw [Option.any_eq_true] at hend
  obtain ⟨w, hw, hdone⟩ := hend
  exact ⟨_, w, Run.of_foldlM hw, of_decide_eq_true hdone⟩

end Example

end StabilityPlatform.EventUpload
