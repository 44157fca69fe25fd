import StabilityPlatform.PlanRun.AbortWindow

/-!
# Jobs that escape an abort

A run-level abort ends the pending jobs, names the running ones, and leaves the rest to what is
recorded: recovery asks whether a job is in the window of an abort before it resumes it. A list
of names covers only the jobs on it, and only an empty one covers all. A job that is neither
pending nor running when the abort reads it, because its agent is lost, is not named.

## Main results

* `covered_iff`: a job is covered when it has a clock it is reaped by.
* `no_escapee_iff`: **no job escapes** just when every live job is named, or none is, or its host
  has a clock.
* `lost_job_escapes`: a lost job that recovery resumes.
-/

namespace StabilityPlatform

open Lib

/-! ### Recovery -/

/-- What a recovery request finds about an active job of the agent. -/
structure RecoveryEntry where
  leaseActive : Bool
  ownershipValid : Bool
  bootMatches : Bool
  resumed : Bool
  sameInstance : Bool

/-- What a recovery request is answered for an active job. -/
inductive RecoveryAction
  | abortLocal
  | cleanup
  | noop
  | resume
  deriving DecidableEq

/-- The action `sync_agent_recovery` answers for an active job. -/
def syncAgentRecovery (w : AbortWorld) (job : AbortJob) (entry : RecoveryEntry) : RecoveryAction :=
  if !entry.leaseActive || !entry.ownershipValid then .abortLocal
  else if !entry.bootMatches then .cleanup
  else if job.id ∈ abortPendingJobIds w.context [(job.id, job.hostId)] then .abortLocal
  else if job.status = .unknown then if entry.resumed then .resume else .cleanup
  else if job.status ≠ .running then .abortLocal
  else if entry.sameInstance then .noop
  else .resume

/-! ### Coverage -/

/-- An abort covers the job: it is in a window, and has a clock it is reaped by. -/
def AbortWorld.Covered (w : AbortWorld) (job : AbortJob) : Prop :=
  job.id ∈ abortPendingJobIds w.context [(job.id, job.hostId)] ∧ (w.reapAt job).isSome

/-- Jobs move, and the run may be ended. -/
def AbortOp.IsWork : AbortOp → Prop
  | .work .. => True
  | .abort .. => False

/-- **No job escapes**: whatever happens to the jobs later, one that is live now has ended or is
covered, and no recovery request is told to resume it. -/
def AbortWorld.NoEscapee (w : AbortWorld) : Prop :=
  ∀ job ∈ w.jobs, ¬job.status.isTerminal → ∀ tr x, Run AbortWorld.Step w tr x →
    (∀ p ∈ tr, p.2.IsWork) → ∀ job' ∈ x.jobs, job'.id = job.id → job'.hostId = job.hostId →
      (job'.status.isTerminal ∨ x.Covered job') ∧
        ∀ entry, syncAgentRecovery x job' entry ≠ .resume

/-- A run-level request reaches the job: it names it, or none, or the host of the job has a
clock. A request that does not come to naming jobs leaves the job the clocks it has. -/
def AbortWorld.Reaches (w : AbortWorld) (call : AbortCall) (moved : List (ℕ × JobStatus))
    (ended : Bool) (job : AbortJob) : Prop :=
  if w.proceeds call then
    w.named call moved ended = [] ∨ job.id ∈ w.named call moved ended ∨ (w.hostClock job).isSome
  else (w.reapAt job).isSome

/-- A job is covered when it has a clock it is reaped by. -/
theorem covered_iff {w : AbortWorld} (hw : w.InOrder) (job : AbortJob) :
    w.Covered job ↔ (w.reapAt job).isSome := by
  obtain ⟨l, h⟩ := hw
  refine ⟨And.right, fun hreap => ⟨?_, hreap⟩⟩
  rw [AbortWorld.reapAt_eq h, AbortLedger.isSome_reapAt] at hreap
  refine h.mem_abortPendingJobIds.mpr ⟨job.hostId, List.mem_singleton_self _, ?_⟩
  obtain hrun | hhost := hreap
  · exact .inl hrun
  · obtain ⟨c, hc⟩ := Option.isSome_iff_exists.mp hhost
    exact .inr (by rw [AbortLedger.hostEntry_of_hostClock hc]; rfl)

/-- While only jobs move, the context stays. -/
theorem context_of_work {w x : AbortWorld} {tr : List (AbortWorld × AbortOp)}
    (h : Run AbortWorld.Step w tr x) (hwork : ∀ p ∈ tr, p.2.IsWork) :
    x.run.runContext = w.run.runContext := by
  have hrun := h.invariant_of_guard (P := fun y => y.run.runContext = w.run.runContext)
    (fun _ op => op.IsWork) (fun {y op y'} hy hop hstep => by
      cases op with
      | work moved ended =>
          cases hstep
          rw [runContext_endRun, hy]
      | abort => exact hop.elim) rfl hwork
  exact hrun.2

/-- A covered job is not resumed. -/
theorem syncAgentRecovery_ne_resume {w : AbortWorld} {job : AbortJob} (h : w.Covered job)
    (entry : RecoveryEntry) : syncAgentRecovery w job entry ≠ .resume := by
  rw [syncAgentRecovery]
  split_ifs with hlease hboot hpending
  · exact RecoveryAction.noConfusion
  · exact RecoveryAction.noConfusion
  · exact RecoveryAction.noConfusion
  all_goals exact absurd h.1 hpending

/-- **After a run-level request** a job has a clock just when the request reaches it. -/
theorem isSome_reapAt_abort {w : AbortWorld} {call : AbortCall} {now : Time} (hw : w.InOrder)
    (hnow : IsMoment now) (hcall : call.hostId = none) (moved : List (ℕ × JobStatus))
    (ended : Bool) {job : AbortJob} (hjob : job ∈ (w.abort call now moved ended).jobs) :
    ((w.abort call now moved ended).reapAt job).isSome ↔ w.Reaches call moved ended job := by
  obtain ⟨l, h⟩ := hw
  rw [AbortWorld.Reaches]
  cases hproceeds : w.proceeds call with
  | true =>
      obtain ⟨-, l', h', hsame⟩ := abort_of_proceeds moved ended hnow h hproceeds
      rw [if_pos rfl, AbortWorld.reapAt_eq h', hsame.reapAt, AbortLedger.isSome_reapAt, hcall,
        AbortWorld.hostClock_eq h, ← or_assoc]
      refine or_congr ?_ Iff.rfl
      rw [AbortLedger.runClock]
      by_cases hcovers : (l.record none now (w.named call moved ended)).Covers job.id
      · exact iff_of_true (by rw [if_pos hcovers]; rfl) hcovers
      · exact iff_of_false (by rw [if_neg hcovers]; exact Bool.false_ne_true) hcovers
  | false =>
      obtain ⟨hjobs, hcases⟩ := abort_of_not_proceeds moved ended hnow h hproceeds
      rw [if_neg Bool.false_ne_true]
      obtain h' | ⟨hnone, -⟩ := hcases
      · rw [AbortWorld.reapAt_eq h', AbortWorld.reapAt_eq h]
      · rw [hjobs, hnone] at hjob
        cases hjob

/-- **No job escapes** a run-level abort just when the request reaches every job that is live when
it commits. -/
theorem no_escapee_iff {w : AbortWorld} {call : AbortCall} {now : Time} (hw : w.InOrder)
    (hnow : IsMoment now) (hcall : call.hostId = none) (moved : List (ℕ × JobStatus))
    (ended : Bool) :
    (w.abort call now moved ended).NoEscapee ↔
      ∀ job ∈ (w.abort call now moved ended).jobs, ¬job.status.isTerminal →
        w.Reaches call moved ended job := by
  have hafter : (w.abort call now moved ended).InOrder := by
    obtain ⟨l, h⟩ := hw
    cases hproceeds : w.proceeds call with
    | true =>
        obtain ⟨-, l', h', -⟩ := abort_of_proceeds moved ended hnow h hproceeds
        exact ⟨l', h'⟩
    | false =>
        obtain ⟨-, h' | ⟨-, h'⟩⟩ := abort_of_not_proceeds moved ended hnow h hproceeds
        · exact ⟨l, h'⟩
        · exact h'
  constructor
  · intro hno job hjob hlive
    obtain ⟨hcovered, -⟩ := hno job hjob hlive [] _ (.nil _) (fun _ hp => nomatch hp) job hjob
      rfl rfl
    exact (isSome_reapAt_abort hw hnow hcall moved ended hjob).mp (hcovered.resolve_left hlive).2
  · intro hreaches job hjob hlive tr x hrun hwork job' _ hid hhost
    have hcovered := (covered_iff hafter job).mpr
      ((isSome_reapAt_abort hw hnow hcall moved ended hjob).mpr (hreaches job hjob hlive))
    have hcovered' : x.Covered job' := by
      rw [AbortWorld.Covered, AbortWorld.reapAt, AbortWorld.context, context_of_work hrun hwork,
        hid, hhost]
      exact hcovered
    exact ⟨.inr hcovered', syncAgentRecovery_ne_resume hcovered'⟩

/-- No job escapes an abort of three running jobs, whatever happens to them. -/
theorem no_escapee_iff_running : (threeJobs.abort (abortCallFor none) 0 [] false).NoEscapee := by
  refine (no_escapee_iff threeJobs_inOrder (by decide) rfl [] false).mpr fun job hjob _ => ?_
  have hall : ∀ job ∈ (threeJobs.abort (abortCallFor none) 0 [] false).jobs,
      job.id ∈ threeJobs.named (abortCallFor none) [] false := by decide
  rw [AbortWorld.Reaches, if_pos (by decide)]
  exact .inr (.inl (hall job hjob))

/-- The third of the jobs has lost its agent. -/
def lostJob : AbortWorld :=
  { threeJobs with
    jobs := [⟨11, some "h1", .running⟩, ⟨12, some "h1", .running⟩, ⟨13, some "h2", .unknown⟩] }

/-- **A lost job escapes**: the abort names the other jobs, and recovery resumes it. -/
theorem lost_job_escapes :
    syncAgentRecovery (lostJob.abort (abortCallFor none) 0 [] false) ⟨13, some "h2", .unknown⟩
        ⟨true, true, true, true, true⟩ = .resume ∧
      ¬(lostJob.abort (abortCallFor none) 0 [] false).NoEscapee := by
  have hresume : syncAgentRecovery (lostJob.abort (abortCallFor none) 0 [] false)
      ⟨13, some "h2", .unknown⟩ ⟨true, true, true, true, true⟩ = .resume := by decide
  refine ⟨hresume, fun hno => ?_⟩
  have hjob : ⟨13, some "h2", .unknown⟩ ∈
      (lostJob.abort (abortCallFor none) 0 [] false).jobs := by decide
  obtain ⟨-, hrecovery⟩ := hno _ hjob Bool.false_ne_true [] _ (.nil _)
    (fun _ hp => nomatch hp) _ hjob rfl rfl
  exact hrecovery _ hresume

end StabilityPlatform
