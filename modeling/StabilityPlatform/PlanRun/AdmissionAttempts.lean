import StabilityPlatform.Lease.LeaseManager
import StabilityPlatform.Lib.Run
import StabilityPlatform.PlanRun.AbortRequest
import StabilityPlatform.PlanRun.Aggregation

/-!
# Admission attempts

The pump claims a queued plan run, which begins an admission attempt. An attempt that finds no
capacity puts the run back into the queue. An attempt that dies is found stale by the reaper,
which puts the run back as well, counts the loss in the context of the run, and fails the run
when it has counted enough. Putting a run back cleanly leaves the count as it is.

## Main results

* `claimQueuedPlanRun`, `requeuePlanRun`, `recoverStalePrecheckRun`: the three writers.
* `consecutive_iff`: the count is that of consecutive losses if and only if no run is put back
  cleanly while a loss is counted.
* `AttemptExample.exhausted_after_clean`: losses that are far apart fail a run.
-/

namespace StabilityPlatform

open Lib

/-! ### The writers -/

/-- What the scheduler is configured with. -/
structure AdmissionSettings where
  maxAdmissionRequeueAttempts : ℤ
  admissionRequeueBackoffSeconds : ℤ
  admissionRetryBackoffSeconds : ℤ

/-- What the task queue says of the admission job of an attempt. -/
inductive SaqJob where
  | missing
  | queued
  | active (workerAlive : Bool)
  | other
  deriving DecidableEq, Repr

/-- `t.strftime("%Y-%m-%dT%H:%M:%S.%f") + "Z"`. -/
def utcStamp (t : Time) : String :=
  let (year, month, day) := civilFromDays (t / 86400000000)
  let us := (t % 86400000000).toNat
  let secs := us / 1000000
  zeroPad 4 year.toNat ++ "-" ++ zeroPad 2 month ++ "-" ++ zeroPad 2 day ++ "T" ++
    zeroPad 2 (secs / 3600) ++ ":" ++ zeroPad 2 (secs / 60 % 60) ++ ":" ++
    zeroPad 2 (secs % 60) ++ "." ++ zeroPad 6 (us % 1000000) ++ "Z"

/-- The dispatch state of a run whose admission begins. -/
def startDispatchState (now : Time) (runContext : PyDict) : PyDict :=
  let state := (contextOf (runContext.get "dispatch_state")).set "status" (.str "running")
  if (state.get "started_at").truthy then state
  else state.set "started_at" (.str (utcStamp now))

/-- What `claim_queued_plan_runs` does with one run: it is claimed when it is queued and its time
has come. -/
def claimQueuedPlanRun (now : Time) (attemptId token : String) (run : PlanRunRow) :
    Option PlanRunRow :=
  if run.status = .queued ∧ run.nextAdmissionAt.all (· ≤ now) then
    (run.transition .precheck).map fun run => { run with
      precheckStartedAt := some now
      admissionAttemptId := some attemptId
      admissionToken := some (run.admissionToken.getD token)
      runContext :=
        run.runContext.set "dispatch_state" (.dict (startDispatchState now run.runContext)) }
  else none

/-- `requeue_plan_run`; `none` is a caller that no longer owns the attempt. -/
def requeuePlanRun (settings : AdmissionSettings) (now : Time) (attemptId queueReason : String)
    (blockers : Option (List PyVal)) (backoffSeconds : Option ℤ) (run : PlanRunRow) :
    Option PlanRunRow :=
  if run.status ≠ .precheck ∨ run.admissionAttemptId ≠ some attemptId then none
  else (run.transition .queued).map fun run => { run with
    queueReason := some queueReason
    nextAdmissionAt :=
      some (now.addSeconds (backoffSeconds.getD settings.admissionRetryBackoffSeconds))
    admissionAttemptId := none
    precheckStartedAt := none
    runContext := match blockers with
      | some blockers => run.runContext.set "queue_blockers" (.list blockers)
      | none => run.runContext }

/-- `int(run_ctx.get("admission_requeue_attempts") or 0)`; `none` when it raises. -/
def admissionRequeueAttempts (runContext : PyDict) : Option ℤ :=
  ((runContext.get "admission_requeue_attempts").orElse (.int 0)).int?

/-- What came of a run that looked stale. -/
inductive StaleOutcome where
  | skipped
  | requeued (run : PlanRunRow)
  | failed (run : PlanRunRow)

/-- Put a stale run back into the queue. -/
def requeueStale (settings : AdmissionSettings) (now : Time) (attempts : ℤ) (run : PlanRunRow) :
    PlanRunRow :=
  { run with
    queueReason := some "PRECHECK_STALE"
    nextAdmissionAt :=
      some (now.addSeconds (settings.admissionRequeueBackoffSeconds * (attempts + 1)))
    admissionAttemptId := none
    precheckStartedAt := none
    enqueuedAt := some (run.enqueuedAt.getD now)
    runContext := run.runContext.set "admission_requeue_attempts" (.int (attempts + 1)) }

/-- Fail a run that was found stale too often. -/
def failExhausted (now : Time) (attempts : ℤ) (run : PlanRunRow) : PlanRunRow :=
  { run with
    endedAt := some now
    resultSummary := [("precheck_failed", .bool true),
      ("reason", .str "admission_requeue_exhausted"), ("attempts", .int attempts)] }

/-- `_recover_stale_precheck_run`; `none` when it raises, which the caller takes as nothing done. -/
def recoverStalePrecheckRun (settings : AdmissionSettings) (staleDeadline now : Time)
    (job : SaqJob) (run : PlanRunRow) : Option StaleOutcome :=
  if run.status ≠ .precheck ∨ run.precheckStartedAt.all (staleDeadline ≤ ·) then some .skipped
  else do
    let attempts ← admissionRequeueAttempts run.runContext
    if job = .queued ∨ job = .active true then return .skipped
    else if settings.maxAdmissionRequeueAttempts ≤ attempts then
      let run ← run.transition .failed
      return .failed (failExhausted now attempts run)
    else
      let run ← run.transition .queued
      return .requeued (requeueStale settings now attempts run)

/-! ### Histories -/

/-- How an admission attempt ended that put the run back into the queue. -/
inductive AttemptEnd where
  | clean
  | stale
  deriving DecidableEq, Repr

/-- A run, with what its attempts came to. -/
structure AdmissionHistory where
  run : PlanRunRow
  ends : List AttemptEnd
  exhaustedAfter : Option (List AttemptEnd)

/-- What happens to a run. -/
inductive AdmissionOp where
  | claim (now : Time) (attemptId token : String)
  | requeue (now : Time) (attemptId queueReason : String) (blockers : Option (List PyVal))
      (backoffSeconds : Option ℤ)
  | recover (staleDeadline now : Time) (job : SaqJob)

/-- One step. -/
def admissionStep (settings : AdmissionSettings) (h : AdmissionHistory) :
    AdmissionOp → AdmissionHistory
  | .claim now attemptId token =>
    match claimQueuedPlanRun now attemptId token h.run with
    | some run => { h with run := run }
    | none => h
  | .requeue now attemptId queueReason blockers backoffSeconds =>
    match requeuePlanRun settings now attemptId queueReason blockers backoffSeconds h.run with
    | some run => { h with run := run, ends := .clean :: h.ends }
    | none => h
  | .recover staleDeadline now job =>
    match recoverStalePrecheckRun settings staleDeadline now job h.run with
    | some (.requeued run) => { h with run := run, ends := .stale :: h.ends }
    | some (.failed run) => { h with run := run, exhaustedAfter := some h.ends }
    | some .skipped | none => h

/-- One step, as a relation. -/
def AdmissionStep (settings : AdmissionSettings) (h : AdmissionHistory) (op : AdmissionOp)
    (h' : AdmissionHistory) : Prop := admissionStep settings h op = h'

/-- A run that was just put into the queue. -/
structure AdmissionHistory.New (h : AdmissionHistory) : Prop where
  uncounted : h.run.runContext.get "admission_requeue_attempts" = .null
  ends : h.ends = []
  exhausted : h.exhaustedAfter = none

/-! ### Consecutive losses -/

/-- How many of the last attempts died one after the other. -/
def staleStreak (ends : List AttemptEnd) : ℕ := (ends.takeWhile (· = .stale)).length

@[simp] theorem staleStreak_nil : staleStreak [] = 0 := rfl

@[simp] theorem staleStreak_clean (ends : List AttemptEnd) : staleStreak (.clean :: ends) = 0 := rfl

@[simp] theorem staleStreak_stale (ends : List AttemptEnd) :
    staleStreak (.stale :: ends) = staleStreak ends + 1 := rfl

/-- Only consecutive losses fail a run: the last attempts before it failed all died. -/
def FailsConsecutive (settings : AdmissionSettings) (h : AdmissionHistory) : Prop :=
  ∀ ends, h.exhaustedAfter = some ends →
    ends.take settings.maxAdmissionRequeueAttempts.toNat =
      List.replicate settings.maxAdmissionRequeueAttempts.toNat .stale

/-- The last attempts all died when the streak is that long. -/
theorem take_eq_replicate {n : ℕ} {ends : List AttemptEnd} (h : n ≤ staleStreak ends) :
    ends.take n = List.replicate n .stale := by
  induction n generalizing ends with
  | zero => rfl
  | succ n ih =>
      cases ends with
      | nil => simp at h
      | cons e rest =>
          cases e with
          | clean => simp at h
          | stale =>
              rw [staleStreak_stale] at h
              rw [List.take_succ_cons, List.replicate_succ, ih (by omega)]

/-- A clean end starts the count again, and only consecutive losses fail a run. -/
structure Consecutive (settings : AdmissionSettings) (h : AdmissionHistory) : Prop where
  count : admissionRequeueAttempts h.run.runContext = some (staleStreak h.ends)
  fails : FailsConsecutive settings h

/-- A run is put back cleanly only when no loss is counted. -/
def CountsAfresh (settings : AdmissionSettings) (h : AdmissionHistory) : AdmissionOp → Prop
  | .requeue now attemptId queueReason blockers backoffSeconds =>
    (requeuePlanRun settings now attemptId queueReason blockers backoffSeconds h.run).isSome →
      admissionRequeueAttempts h.run.runContext = some 0
  | _ => True

/-! ### What each writer does to the count -/

/-- The count is read from one item of the context. -/
theorem admissionRequeueAttempts_congr {c c' : PyDict}
    (h : c'.get "admission_requeue_attempts" = c.get "admission_requeue_attempts") :
    admissionRequeueAttempts c' = admissionRequeueAttempts c := by
  rw [admissionRequeueAttempts, admissionRequeueAttempts, h]

/-- Another item leaves the count. -/
theorem admissionRequeueAttempts_set_of_ne (c : PyDict) {key : String} (v : PyVal)
    (h : key ≠ "admission_requeue_attempts") :
    admissionRequeueAttempts (c.set key v) = admissionRequeueAttempts c :=
  admissionRequeueAttempts_congr (PyDict.get_set_of_ne c v h.symm)

/-- A count that is written is read. -/
theorem admissionRequeueAttempts_set (c : PyDict) (n : ℤ) :
    admissionRequeueAttempts (c.set "admission_requeue_attempts" (.int n)) = some n := by
  rw [admissionRequeueAttempts, PyDict.get_set_self, PyVal.orElse]
  by_cases hn : n = 0
  · subst hn
    rfl
  · rw [if_pos (by simpa [PyVal.truthy] using hn)]
    rfl

/-- A run is put back cleanly only from an attempt. -/
theorem requeuePlanRun_spec {settings : AdmissionSettings} {now : Time}
    {attemptId queueReason : String} {blockers : Option (List PyVal)} {backoffSeconds : Option ℤ}
    {run run' : PlanRunRow}
    (h : requeuePlanRun settings now attemptId queueReason blockers backoffSeconds run =
      some run') :
    admissionRequeueAttempts run'.runContext = admissionRequeueAttempts run.runContext := by
  rw [requeuePlanRun] at h
  split_ifs at h
  obtain ⟨moved, hmoved, rfl⟩ := Option.map_eq_some_iff.mp h
  obtain ⟨-, rfl⟩ := PlanRunRow.transition_eq_some hmoved
  cases blockers with
  | none => rfl
  | some blockers => exact admissionRequeueAttempts_set_of_ne _ _ (by decide)

/-- A claim leaves the count. -/
theorem claimQueuedPlanRun_spec {now : Time} {attemptId token : String} {run run' : PlanRunRow}
    (h : claimQueuedPlanRun now attemptId token run = some run') :
    admissionRequeueAttempts run'.runContext = admissionRequeueAttempts run.runContext := by
  rw [claimQueuedPlanRun] at h
  split_ifs at h
  obtain ⟨moved, hmoved, rfl⟩ := Option.map_eq_some_iff.mp h
  obtain ⟨-, rfl⟩ := PlanRunRow.transition_eq_some hmoved
  exact admissionRequeueAttempts_set_of_ne _ _ (by decide)

/-- The reaper adds one to the count of a run it puts back, and fails a run whose count has come
to the limit. -/
theorem recoverStalePrecheckRun_spec {settings : AdmissionSettings} {staleDeadline now : Time}
    {job : SaqJob} {run : PlanRunRow} {outcome : StaleOutcome}
    (h : recoverStalePrecheckRun settings staleDeadline now job run = some outcome) :
    match outcome with
    | .skipped => True
    | .requeued run' => ∃ n, admissionRequeueAttempts run.runContext = some n ∧
        admissionRequeueAttempts run'.runContext = some (n + 1)
    | .failed run' => ∃ n, admissionRequeueAttempts run.runContext = some n ∧
        settings.maxAdmissionRequeueAttempts ≤ n ∧
        admissionRequeueAttempts run'.runContext = some n := by
  rw [recoverStalePrecheckRun] at h
  by_cases hskip : run.status ≠ .precheck ∨ run.precheckStartedAt.all (staleDeadline ≤ ·)
  · rw [if_pos hskip] at h
    cases h
    trivial
  · rw [if_neg hskip] at h
    obtain ⟨n, hn, h⟩ := Option.bind_eq_some_iff.mp h
    by_cases hjob : job = .queued ∨ job = .active true
    · rw [if_pos hjob] at h
      cases h
      trivial
    · rw [if_neg hjob] at h
      by_cases hmax : settings.maxAdmissionRequeueAttempts ≤ n
      · rw [if_pos hmax] at h
        obtain ⟨moved, hmoved, h⟩ := Option.bind_eq_some_iff.mp h
        obtain ⟨-, rfl⟩ := PlanRunRow.transition_eq_some hmoved
        cases h
        exact ⟨n, hn, hmax, hn⟩
      · rw [if_neg hmax] at h
        obtain ⟨moved, hmoved, h⟩ := Option.bind_eq_some_iff.mp h
        obtain ⟨-, rfl⟩ := PlanRunRow.transition_eq_some hmoved
        cases h
        exact ⟨n, hn, admissionRequeueAttempts_set _ _⟩

/-! ### Exactness -/

/-- Where nothing is counted or ended, counting goes on. -/
theorem Consecutive.same {settings : AdmissionSettings} {h : AdmissionHistory}
    (hc : Consecutive settings h) {run : PlanRunRow}
    (hrun : admissionRequeueAttempts run.runContext = admissionRequeueAttempts h.run.runContext) :
    Consecutive settings { h with run := run } where
  count := hrun.trans hc.count
  fails := hc.fails

/-- A clean end starts the count again exactly when nothing was counted. -/
theorem Consecutive.requeue_iff {settings : AdmissionSettings} {h : AdmissionHistory}
    (hc : Consecutive settings h) {run : PlanRunRow}
    (hrun : admissionRequeueAttempts run.runContext = admissionRequeueAttempts h.run.runContext) :
    Consecutive settings { h with run := run, ends := .clean :: h.ends } ↔
      admissionRequeueAttempts h.run.runContext = some 0 := by
  constructor
  · intro hc'
    rw [← hrun]
    exact hc'.count
  · intro hzero
    exact ⟨hrun.trans hzero, hc.fails⟩

/-- **A step keeps the count exactly when it counts afresh.** -/
theorem Consecutive.step_iff {settings : AdmissionSettings} {h h' : AdmissionHistory}
    {op : AdmissionOp} (hc : Consecutive settings h) (hstep : AdmissionStep settings h op h') :
    Consecutive settings h' ↔ CountsAfresh settings h op := by
  rw [AdmissionStep] at hstep
  subst hstep
  cases op with
  | claim now attemptId token =>
      refine iff_of_true ?_ trivial
      rw [admissionStep]
      cases hclaim : claimQueuedPlanRun now attemptId token h.run with
      | none => exact hc
      | some run => exact hc.same (claimQueuedPlanRun_spec hclaim)
  | requeue now attemptId queueReason blockers backoffSeconds =>
      rw [admissionStep, CountsAfresh]
      cases hrequeue :
          requeuePlanRun settings now attemptId queueReason blockers backoffSeconds h.run with
      | none => exact iff_of_true hc fun hsome => by cases hsome
      | some run =>
          refine (hc.requeue_iff (requeuePlanRun_spec hrequeue)).trans ?_
          exact ⟨fun hzero _ => hzero, fun himp => himp rfl⟩
  | recover staleDeadline now job =>
      refine iff_of_true ?_ trivial
      rw [admissionStep]
      cases hrecover : recoverStalePrecheckRun settings staleDeadline now job h.run with
      | none => exact hc
      | some outcome =>
          have hspec := recoverStalePrecheckRun_spec hrecover
          cases outcome with
          | skipped => exact hc
          | requeued run =>
              obtain ⟨n, hn, hrun⟩ := hspec
              rw [hc.count] at hn
              cases hn
              exact ⟨hrun, hc.fails⟩
          | failed run =>
              obtain ⟨n, hn, hmax, hrun⟩ := hspec
              rw [hc.count] at hn
              cases hn
              refine ⟨hrun, fun ends hends => ?_⟩
              cases hends
              exact take_eq_replicate (by omega)

/-- A new run has nothing counted. -/
theorem AdmissionHistory.New.consecutive {h : AdmissionHistory} (hnew : h.New)
    (settings : AdmissionSettings) : Consecutive settings h where
  count := by
    rw [admissionRequeueAttempts, hnew.uncounted, hnew.ends]
    rfl
  fails ends hends := by
    rw [hnew.exhausted] at hends
    cases hends

/-- **Losses are counted one after the other exactly when clean ends meet no count.** In every
history of a plan run, the count is that of consecutive losses, and only consecutive losses fail
the run, at every moment, if and only if it is never put back cleanly while a loss is counted. -/
theorem consecutive_iff {settings : AdmissionSettings} {h₀ h : AdmissionHistory}
    {tr : List (AdmissionHistory × AdmissionOp)} (hnew : h₀.New)
    (hrun : Run (AdmissionStep settings) h₀ tr h) :
    Holds (Consecutive settings) tr h ↔ ∀ p ∈ tr, CountsAfresh settings p.1 p.2 :=
  hrun.invariant_iff_guard (A := fun _ => True) (fun _ _ _ => trivial)
    (fun _ hc hstep => hc.step_iff hstep) trivial (hnew.consecutive settings)

namespace AttemptExample

/-- Three losses are borne. -/
def settings : AdmissionSettings where
  maxAdmissionRequeueAttempts := 3
  admissionRequeueBackoffSeconds := 30
  admissionRetryBackoffSeconds := 30

/-- A run that was just queued. -/
def queued : AdmissionHistory where
  run := {
    id := 1, runType := "MANUAL", status := .queued, runContext := [], resultSummary := []
    queueReason := none, enqueuedAt := none, nextAdmissionAt := none, admissionAttemptId := none
    admissionToken := none, precheckStartedAt := none, startedAt := none, endedAt := none
    totalJobCount := 0, terminalJobCount := 0, completedJobCount := 0, failedJobCount := 0
    abortedJobCount := 0, terminalEffectsState := none }
  ends := []
  exhaustedAfter := none

/-- Nothing is counted. -/
theorem queued_new : queued.New := ⟨rfl, rfl, rfl⟩

/-- An attempt that dies, the claim being made at `t`. -/
def lost (t : Time) : List AdmissionOp :=
  [.claim t "a" "token", .recover (t + 1) (t + 2) .missing]

/-- An attempt that finds no capacity. -/
def waited (t : Time) : List AdmissionOp :=
  [.claim t "a" "token", .requeue (t + 1) "a" "NO_CAPACITY" none none]

/-- One attempt dies, one finds no capacity, and three more die. -/
def ops : List AdmissionOp :=
  lost 0 ++ waited 1000000000 ++ lost 2000000000 ++ lost 3000000000 ++ lost 4000000000

/-- What comes of it. -/
def failed : AdmissionHistory := ops.foldl (admissionStep settings) queued

/-- When the run failed, one of the last three attempts had ended cleanly. -/
theorem exhaustedAfter_failed :
    failed.exhaustedAfter = some [.stale, .stale, .clean, .stale] := by
  rfl

/-- **Losses that are far apart.** A run is failed as exhausted although one of its last three
attempts before had ended cleanly. -/
theorem exhausted_after_clean : ¬ ∀ {settings : AdmissionSettings} {h₀ h : AdmissionHistory}
    {tr : List (AdmissionHistory × AdmissionOp)}, h₀.New →
    Run (AdmissionStep settings) h₀ tr h → FailsConsecutive settings h := by
  intro h
  have hrun : Run (AdmissionStep settings) queued (pathOf (admissionStep settings) queued ops)
      failed := Run.of_foldl (admissionStep settings) queued ops
  have htake := h queued_new hrun _ exhaustedAfter_failed
  revert htake
  decide

/-- Two attempts that die are counted one after the other. -/
theorem consecutive_lost :
    Holds (Consecutive settings)
        (pathOf (admissionStep settings) queued (lost 0 ++ lost 1000000000))
        ((lost 0 ++ lost 1000000000).foldl (admissionStep settings) queued) ↔
      ∀ p ∈ pathOf (admissionStep settings) queued (lost 0 ++ lost 1000000000),
        CountsAfresh settings p.1 p.2 :=
  consecutive_iff queued_new (Run.of_foldl (admissionStep settings) queued _)

end AttemptExample

end StabilityPlatform
