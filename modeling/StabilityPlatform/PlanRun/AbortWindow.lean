import StabilityPlatform.PlanRun.AbortClock

/-!
# The abort window

Consumers ask whether a job is in an abort window, the reaper asks since when. Both read the
same two sections of a context. They part over a host without a name: the consumers look its
clock up, the reaper does not. The clock of the reaper is one of the two that are stored, and a
run-level request puts its own time over that of an earlier one, so that the stored clock need
not be the earliest time at which the job was asked to end.

## Main results

* `abortPendingJobIds`: the jobs in a window.
* `AbortHistory`: a plan run with the requests made to it.
* `Records.mem_abortPendingJobIds_iff_reapClock`: **the predicates agree** on jobs whose hosts
  have names, whatever was requested.
* `abortPredicates_agree_iff`: **the predicates agree and the clock is the earliest request** in
  every state of a run exactly when every request keeps it so.
-/

namespace StabilityPlatform

open Lib

/-! ### The predicate of the consumers -/

/-- `run_abort_pending`: whether the run has a clock. -/
def runAbortPending (runContext : PyVal) : Bool :=
  match ((contextOf runContext).get "abort_requested").asDict? with
  | none => false
  | some abort => (PyDict.get abort "at").truthy

/-- The jobs the run names, as far as they read as numbers. -/
def requestedIds (runContext : PyVal) : List ℤ :=
  let abort := ((contextOf runContext).get "abort_requested").asDict?.getD []
  ((PyDict.get abort "requested_job_ids").asList?.getD []).filterMap PyVal.int?

/-- Whether the host of a job has a clock. -/
def hostAbortPending (runContext : PyVal) (hostId : Option String) : Bool :=
  match hostId with
  | none => false
  | some hostId =>
    let hosts := ((contextOf runContext).get "abort_requested_hosts").asDict?.getD []
    match (PyDict.get hosts hostId).asDict? with
    | none => false
    | some clock => (PyDict.get clock "at").truthy

/-- `abort_pending_job_ids`: of these jobs with their hosts, those in an abort window. -/
def abortPendingJobIds (runContext : PyVal) (jobs : List (ℕ × Option String)) : Finset ℕ :=
  let requested := requestedIds runContext
  let pending := jobs.filter fun (jobId, hostId) =>
    runAbortPending runContext && (requested.isEmpty || requested.contains (jobId : ℤ)) ||
      hostAbortPending runContext hostId
  (pending.map Prod.fst).toFinset

/-! ### Requests -/

/-- A request that came to naming jobs. -/
structure AbortRequest where
  hostId : Option String
  madeAt : Time
  named : List ℕ
  deriving DecidableEq

/-- Whether a request covers a job: one for the run covers the jobs it names, or all of them when
it names none; one for a host covers the jobs of the host. -/
def AbortRequest.Covers (request : AbortRequest) (job : ℕ × Option String) : Prop :=
  match request.hostId with
  | none => request.named = [] ∨ job.1 ∈ request.named
  | some hostId => job.2 = some hostId

/-- The times of the requests that cover a job. -/
def requestTimes (requests : List AbortRequest) (job : ℕ × Option String) : Set Time :=
  { t | ∃ request ∈ requests, request.Covers job ∧ request.madeAt = t }

/-- A plan run with the requests made to it so far. -/
structure AbortHistory where
  world : AbortWorld
  requests : List AbortRequest

/-- The request a step makes, if it comes to naming jobs. -/
def AbortWorld.requestsOf (w : AbortWorld) : AbortOp → List AbortRequest
  | .work _ _ => []
  | .abort call now moved ended =>
    if w.proceeds call then [⟨call.hostId, now, w.named call moved ended⟩] else []

/-- One step, with the request it makes. -/
def AbortHistory.Step (s : AbortHistory) (op : AbortOp) (s' : AbortHistory) : Prop :=
  s.world.Step op s'.world ∧ s'.requests = s.requests ++ s.world.requestsOf op

/-- The jobs of a run with their hosts. -/
def AbortWorld.jobHosts (w : AbortWorld) : List (ℕ × Option String) :=
  w.jobs.map fun job => (job.id, job.hostId)

/-- **The predicates agree**: of any jobs of the run, those are pending that the reaper has a
clock for, and this is the earliest time of a request that covers the job. -/
structure AbortHistory.PredicatesAgree (s : AbortHistory) : Prop where
  pending : ∀ jobs, jobs ⊆ s.world.jobHosts → ∀ jobId,
    jobId ∈ abortPendingJobIds s.world.context jobs ↔
      ∃ hostId, (jobId, hostId) ∈ jobs ∧ (abortReapClock s.world.context jobId hostId).isSome
  earliest : ∀ job ∈ s.world.jobHosts, ∀ clock,
    abortReapClock s.world.context job.1 job.2 = some clock →
      IsLeast (requestTimes s.requests job) clock.1

/-- No abort has been requested yet. -/
structure AbortHistory.Fresh (s : AbortHistory) : Prop where
  run : s.world.run.runContext.get "abort_requested" = .null
  hosts : s.world.run.runContext.get "abort_requested_hosts" = .null
  requests : s.requests = []

/-! ### The condition on a request -/

/-- When a run-level request keeps the clock of a job the earliest. A job it covers was covered
by earlier requests only if its host has a clock that precedes them. A job it does not cover has
such a clock as soon as its host was asked. -/
def RunRequestKeeps (requests : List AbortRequest) (now : Time) (named : List ℕ)
    (job : ℕ × Option String) (hostClock : Option Time) (hostPending : Bool) : Prop :=
  if named = [] ∨ job.1 ∈ named then
    ∀ t ∈ requestTimes requests job, now ≤ t ∨ ∃ c, hostClock = some c ∧ c ≤ t
  else hostPending = true → ∃ c, hostClock = some c ∧ ∀ t ∈ requestTimes requests job, c ≤ t

/-- When a host-level request keeps the clock of a job the earliest, by what the clock of the run
is to the job before and after. Where neither applies, the clock of the host is not started late.
Where the job comes under the clock of the run, or leaves it, the clock of its host is the earlier
one or it is the first request that covers the job. -/
def HostRequestKeeps (requests : List AbortRequest) (hostId : String) (now : Time)
    (job : ℕ × Option String) (hostClock : Option Time) (hostPending : Bool) :
    Option Time → Option Time → Prop
  | some _, some _ => True
  | none, none => hostClock = none → job.2 = some hostId →
      hostId ≠ "" ∧ ∀ t ∈ requestTimes requests job, now ≤ t
  | none, some r => (∃ c, hostClock = some c ∧ c ≤ r) ∨
      hostClock = none ∧ (r ∈ requestTimes requests job ∨ job.2 = some hostId ∧ r = now) ∧
        ∀ t ∈ requestTimes requests job, r ≤ t
  | some r, none => (∃ c, hostClock = some c ∧ c ≤ r) ∨
      hostClock = none ∧
        if job.2 = some hostId then hostId ≠ "" ∧ now ≤ r else hostPending = false

/-- The clock of the run, for the jobs it covers. -/
def AbortWorld.runClock (w : AbortWorld) (jobId : ℕ) : Option Time :=
  if abortRequestCoversJob w.context jobId then parseAbortAt (runAbortClockAt w.context) else none

/-- The clock of the run, for the jobs it covers when more are named. -/
def AbortWorld.runClockWith (w : AbortWorld) (named : List ℕ) (jobId : ℕ) : Option Time :=
  if w.requestedJobIds ++ named = [] ∨ jobId ∈ w.requestedJobIds ++ named then
    parseAbortAt (runAbortClockAt w.context) else none

/-- **When a step keeps the predicates in agreement.** -/
def AbortHistory.Keeps (s : AbortHistory) : AbortOp → Prop
  | .work _ _ => True
  | .abort call now moved ended => s.world.proceeds call = true → ∀ job ∈ s.world.jobHosts,
    let named := s.world.named call moved ended
    let hostClock := parseAbortAt (hostAbortClockAt s.world.context job.2)
    let hostPending := hostAbortPending s.world.context job.2
    match call.hostId with
    | none => RunRequestKeeps s.requests now named job hostClock hostPending
    | some hostId => HostRequestKeeps s.requests hostId now job hostClock hostPending
        (s.world.runClock job.1) (s.world.runClockWith named job.1)

/-! ### Reading a ledger -/

/-- A clock is there when it was written. -/
theorem truthy_of_records {v : PyVal} {at? : Option Time} (h : RecordsClock v at?) :
    v.truthy = true ↔ at?.isSome := by
  cases at? with
  | none =>
      rw [show v = .null from h]
      simp [PyVal.truthy]
  | some t =>
      obtain ⟨ht, rfl⟩ := h
      simp [PyVal.truthy, isoformat_ne_empty ht]

namespace AbortLedger

/-- The clock stored for a host, also for one without a name. -/
def hostEntry (l : AbortLedger) (hostId : Option String) : Option Time := hostId.bind l.hostAt

/-- A host with a name is reaped by the clock stored for it. -/
theorem hostEntry_of_hostClock {l : AbortLedger} {hostId : Option String} {c : Time}
    (h : l.hostClock hostId = some c) : l.hostEntry hostId = some c := by
  obtain ⟨host, hfilter, hat⟩ := Option.bind_eq_some_iff.mp h
  obtain ⟨rfl, -⟩ := Option.filter_eq_some_iff.mp hfilter
  exact hat

/-- Without a clock of the run, a job is reaped by that of its host. -/
theorem reapAt_of_runClock_none {l : AbortLedger} {jobId : ℕ} (hostId : Option String)
    (h : l.runClock jobId = none) : l.reapAt jobId hostId = l.hostClock hostId := by
  rw [reapAt, h]

/-- Without a clock of its host, a job is reaped by that of the run. -/
theorem reapAt_of_hostClock_none {l : AbortLedger} {jobId : ℕ} {hostId : Option String}
    (h : l.hostClock hostId = none) : l.reapAt jobId hostId = l.runClock jobId := by
  rw [reapAt, h]
  cases l.runClock jobId with
  | none => rfl
  | some r => rfl

/-- With both, by the earlier one. -/
theorem reapAt_of_both {l : AbortLedger} {jobId : ℕ} {hostId : Option String} {r c : Time}
    (hr : l.runClock jobId = some r) (hc : l.hostClock hostId = some c) :
    l.reapAt jobId hostId = some (min r c) := by
  rw [reapAt, hr, hc]

/-- A job has a clock when the run has one that covers it, or its host has one. -/
theorem isSome_reapAt {l : AbortLedger} {jobId : ℕ} {hostId : Option String} :
    (l.reapAt jobId hostId).isSome ↔
      (l.runClock jobId).isSome ∨ (l.hostClock hostId).isSome := by
  rw [reapAt]
  cases l.runClock jobId with
  | none => simp
  | some r =>
      cases l.hostClock hostId with
      | none => simp
      | some c => simp

end AbortLedger

/-- The clock of the run, as the consumers see it. -/
theorem RecordsRequest.runAbortPending_iff {runContext : PyDict} {l : AbortLedger}
    (h : RecordsRequest (runContext.get "abort_requested") l) :
    runAbortPending (.dict runContext) = true ↔ l.runAt.isSome := by
  have hclock := h.clock
  rw [runAbortPending]
  change (match (runContext.get "abort_requested").asDict? with
    | none => false
    | some abort => (PyDict.get abort "at").truthy) = true ↔ _
  rcases h.shape with hnull | ⟨items, hitems⟩
  · rw [hnull] at hclock ⊢
    cases hat : l.runAt with
    | none => simp [PyVal.asDict?]
    | some r =>
        rw [hat] at hclock
        cases hclock.2
  · rw [hitems] at hclock ⊢
    exact truthy_of_records hclock

/-- The jobs the run names, as the consumers see them. -/
theorem RecordsRequest.requestedIds_eq {runContext : PyDict} {l : AbortLedger}
    (h : RecordsRequest (runContext.get "abort_requested") l) :
    requestedIds (.dict runContext) = l.requested.map fun jobId : ℕ => (jobId : ℤ) := by
  change (((contextOf (runContext.get "abort_requested")).get
    "requested_job_ids").asList?.getD []).filterMap PyVal.int? = _
  rcases h.listed with hlisted | ⟨hlisted, hempty⟩
  · rw [hlisted]
    change (jobIdValues l.requested).filterMap PyVal.int? = _
    rw [jobIdValues, List.filterMap_map]
    exact congrFun List.filterMap_eq_map l.requested
  · rw [hlisted, hempty]
    rfl

/-- The clock of a host, as the consumers see it. -/
theorem RecordsHosts.hostAbortPending_eq {runContext : PyDict} {l : AbortLedger}
    (h : RecordsHosts (runContext.get "abort_requested_hosts") l) (hostId : Option String) :
    hostAbortPending (.dict runContext) hostId = (l.hostEntry hostId).isSome := by
  cases hostId with
  | none => rfl
  | some host =>
      have hclock := truthy_of_records (h.clock host)
      rw [Bool.eq_iff_iff]
      refine Iff.trans ?_ hclock
      rw [hostAbortPending]
      change (match ((contextOf (runContext.get "abort_requested_hosts")).get host).asDict? with
        | none => false
        | some clock => (PyDict.get clock "at").truthy) = true ↔ _
      rcases h.entries host with hnone | ⟨clock, hsome⟩
      · rw [hnone]
        exact Iff.rfl
      · rw [hsome]
        exact Iff.rfl

/-- **A job is in a window** when the run has a clock that covers it, or one is stored for its
host. -/
theorem Records.mem_abortPendingJobIds {runContext : PyDict} {l : AbortLedger}
    (h : Records runContext l) {jobs : List (ℕ × Option String)} {jobId : ℕ} :
    jobId ∈ abortPendingJobIds (.dict runContext) jobs ↔ ∃ hostId, (jobId, hostId) ∈ jobs ∧
      ((l.runClock jobId).isSome ∨ (l.hostEntry hostId).isSome) := by
  have hpending : ∀ job : ℕ × Option String,
      (runAbortPending (.dict runContext) && ((requestedIds (.dict runContext)).isEmpty ||
        (requestedIds (.dict runContext)).contains (job.1 : ℤ)) ||
          hostAbortPending (.dict runContext) job.2) = true ↔
        (l.runClock job.1).isSome ∨ (l.hostEntry job.2).isSome := by
    intro job
    rw [Bool.or_eq_true, Bool.and_eq_true, h.request.runAbortPending_iff,
      h.hosts.hostAbortPending_eq, h.request.requestedIds_eq]
    refine or_congr ?_ Iff.rfl
    rw [AbortLedger.runClock]
    by_cases hcov : l.Covers job.1
    · rw [if_pos hcov]
      refine and_iff_left ?_
      rcases hcov with hnil | hmem
      · simp [hnil]
      · simp [hmem]
    · rw [if_neg hcov]
      refine ⟨fun hand => absurd ?_ hcov, fun hnone => by cases hnone⟩
      simpa [AbortLedger.Covers] using hand.2
  rw [abortPendingJobIds, List.mem_toFinset, List.mem_map]
  constructor
  · rintro ⟨job, hjob, rfl⟩
    obtain ⟨hmem, hin⟩ := List.mem_filter.mp hjob
    exact ⟨job.2, hmem, (hpending job).mp hin⟩
  · rintro ⟨hostId, hmem, hin⟩
    exact ⟨(jobId, hostId), List.mem_filter.mpr ⟨hmem, (hpending (jobId, hostId)).mpr hin⟩, rfl⟩

/-- **Whatever was requested**, the consumers and the reaper agree on jobs whose hosts have
names. -/
theorem Records.mem_abortPendingJobIds_iff_reapClock {runContext : PyDict} {l : AbortLedger}
    (h : Records runContext l) {jobs : List (ℕ × Option String)}
    (hnames : ∀ job ∈ jobs, job.2 ≠ some "") {jobId : ℕ} :
    jobId ∈ abortPendingJobIds (.dict runContext) jobs ↔ ∃ hostId, (jobId, hostId) ∈ jobs ∧
      (abortReapClock (.dict runContext) jobId hostId).isSome := by
  rw [h.mem_abortPendingJobIds]
  refine exists_congr fun hostId => and_congr_right fun hmem => ?_
  have hclock : l.hostClock hostId = l.hostEntry hostId := by
    cases hostId with
    | none => rfl
    | some host =>
        have hname : host ≠ "" := fun heq => hnames _ hmem (by rw [heq])
        rw [AbortLedger.hostClock, AbortLedger.hostEntry, Option.filter_some,
          if_pos (by simpa using hname)]
  have hreap : (abortReapClock (.dict runContext) jobId hostId).isSome ↔
      (l.reapAt jobId hostId).isSome := by
    rw [← h.reapClock, Option.isSome_map]
  rw [hreap, AbortLedger.isSome_reapAt, hclock]

/-! ### Agreement in terms of a ledger -/

/-- For one job: a clock stored for its host counts, and the clock it is reaped by is the
earliest. -/
structure AbortLedger.Agrees (l : AbortLedger) (requests : List AbortRequest)
    (job : ℕ × Option String) : Prop where
  pending : (l.hostEntry job.2).isSome → (l.reapAt job.1 job.2).isSome
  earliest : ∀ t, l.reapAt job.1 job.2 = some t → IsLeast (requestTimes requests job) t

/-- **The predicates agree** when they do for each job. -/
theorem predicatesAgree_iff {s : AbortHistory} {l : AbortLedger}
    (h : Records s.world.run.runContext l) :
    s.PredicatesAgree ↔ ∀ job ∈ s.world.jobHosts, l.Agrees s.requests job := by
  have hclock : ∀ jobId hostId, (abortReapClock s.world.context jobId hostId).isSome ↔
      (l.reapAt jobId hostId).isSome := by
    intro jobId hostId
    rw [← h.reapClock, Option.isSome_map, AbortWorld.context]
  constructor
  · intro hagree job hjob
    refine ⟨fun hentry => ?_, fun t ht => ?_⟩
    · have hpending := hagree.pending [job] (by simpa using hjob) job.1
      obtain ⟨hostId, hmem, hsome⟩ := hpending.mp
        (h.mem_abortPendingJobIds.mpr ⟨job.2, List.mem_singleton_self _, .inr hentry⟩)
      rw [← List.mem_singleton.mp hmem]
      exact (hclock job.1 hostId).mp hsome
    · rw [← h.reapClock] at ht
      obtain ⟨clock, hreap, rfl⟩ := Option.map_eq_some_iff.mp ht
      exact hagree.earliest job hjob clock hreap
  · intro hall
    refine ⟨fun jobs hsub jobId => ?_, fun job hjob clock hreap => ?_⟩
    · rw [AbortWorld.context, h.mem_abortPendingJobIds]
      refine exists_congr fun hostId => and_congr_right fun hmem => ?_
      rw [← AbortWorld.context, hclock]
      constructor
      · rintro (hrun | hentry)
        · exact AbortLedger.isSome_reapAt.mpr (.inl hrun)
        · exact (hall _ (hsub hmem)).pending hentry
      · intro hreap
        rcases AbortLedger.isSome_reapAt.mp hreap with hrun | hhost
        · exact .inl hrun
        · obtain ⟨c, hc⟩ := Option.isSome_iff_exists.mp hhost
          exact .inr (by rw [AbortLedger.hostEntry_of_hostClock hc]; rfl)
    · refine (hall job hjob).earliest clock.1 ?_
      rw [← h.reapClock]
      exact Option.map_eq_some_iff.mpr ⟨clock, hreap, rfl⟩

/-! ### One more request -/

/-- Where the clocks of a ledger come from. -/
structure AbortLedger.Stored (l : AbortLedger) (requests : List AbortRequest) (now : Time) :
    Prop where
  times : ∀ request ∈ requests, request.madeAt ≤ now
  host : ∀ hostId c, l.hostAt hostId = some c →
    ∃ request ∈ requests, request.hostId = some hostId ∧ request.madeAt = c
  run : ∀ r, l.runAt = some r → r ≤ now

/-- No request that covers a job is ahead of the time. -/
theorem AbortLedger.Stored.le {l : AbortLedger} {requests : List AbortRequest} {now : Time}
    (h : l.Stored requests now) {job : ℕ × Option String} {t : Time}
    (ht : t ∈ requestTimes requests job) : t ≤ now := by
  obtain ⟨request, hmem, -, rfl⟩ := ht
  exact h.times request hmem

/-- The clock of a host is the time of a request that covers its jobs. -/
theorem AbortLedger.Stored.hostClock_mem {l : AbortLedger} {requests : List AbortRequest}
    {now : Time} (h : l.Stored requests now) {job : ℕ × Option String} {c : Time}
    (hc : l.hostClock job.2 = some c) : c ∈ requestTimes requests job := by
  obtain ⟨hostId, hjob, hat⟩ := Option.bind_eq_some_iff.mp (AbortLedger.hostEntry_of_hostClock hc)
  obtain ⟨request, hmem, hhost, hmade⟩ := h.host hostId c hat
  refine ⟨request, hmem, ?_, hmade⟩
  rw [AbortRequest.Covers, hhost]
  exact hjob

/-- The times of requests with one more request. -/
theorem mem_requestTimes_snoc {requests : List AbortRequest} {request : AbortRequest}
    {job : ℕ × Option String} {t : Time} :
    t ∈ requestTimes (requests ++ [request]) job ↔
      t ∈ requestTimes requests job ∨ request.Covers job ∧ request.madeAt = t := by
  constructor
  · rintro ⟨other, hmem, hcov, hmade⟩
    rcases List.mem_append.mp hmem with hold | hnew
    · exact .inl ⟨other, hold, hcov, hmade⟩
    · rw [List.mem_singleton.mp hnew] at hcov hmade
      exact .inr ⟨hcov, hmade⟩
  · rintro (⟨other, hold, hcov, hmade⟩ | ⟨hcov, hmade⟩)
    · exact ⟨other, List.mem_append_left _ hold, hcov, hmade⟩
    · exact ⟨request, List.mem_append_right _ (List.mem_singleton_self _), hcov, hmade⟩

/-- The earliest time with one more request. -/
theorem isLeast_requestTimes_snoc {requests : List AbortRequest} {request : AbortRequest}
    {job : ℕ × Option String} {t : Time} :
    IsLeast (requestTimes (requests ++ [request]) job) t ↔
      (t ∈ requestTimes requests job ∨ request.Covers job ∧ request.madeAt = t) ∧
        (∀ u ∈ requestTimes requests job, t ≤ u) ∧ (request.Covers job → t ≤ request.madeAt) := by
  constructor
  · rintro ⟨hmem, hlower⟩
    refine ⟨mem_requestTimes_snoc.mp hmem, fun u hu => ?_, fun hcov => ?_⟩
    · exact hlower (mem_requestTimes_snoc.mpr (.inl hu))
    · exact hlower (mem_requestTimes_snoc.mpr (.inr ⟨hcov, rfl⟩))
  · rintro ⟨hmem, hold, hnew⟩
    refine ⟨mem_requestTimes_snoc.mpr hmem, fun u hu => ?_⟩
    rcases mem_requestTimes_snoc.mp hu with hu | ⟨hcov, rfl⟩
    · exact hold u hu
    · exact hnew hcov

/-- Agreement on a job whose host has no clock and that is not under one of the run. -/
theorem agrees_of_no_clock {l : AbortLedger} {requests : List AbortRequest}
    {job : ℕ × Option String} (h : l.reapAt job.1 job.2 = none) :
    l.Agrees requests job ↔ (l.hostEntry job.2).isSome = false := by
  rw [← Bool.not_eq_true]
  constructor
  · intro hagree hentry
    have hsome := hagree.pending hentry
    rw [h] at hsome
    cases hsome
  · intro hentry
    refine ⟨fun hsome => absurd hsome hentry, fun t ht => ?_⟩
    rw [h] at ht
    cases ht

/-- Agreement on a job with a clock. -/
theorem agrees_of_clock {l : AbortLedger} {requests : List AbortRequest}
    {job : ℕ × Option String} {t : Time} (h : l.reapAt job.1 job.2 = some t) :
    l.Agrees requests job ↔ IsLeast (requestTimes requests job) t := by
  constructor
  · exact fun hagree => hagree.earliest t h
  · intro hleast
    refine ⟨fun _ => by rw [h]; rfl, fun t' ht' => ?_⟩
    rw [h] at ht'
    rwa [← Option.some.inj ht']

/-- **A run-level request** keeps the predicates in agreement exactly under its condition. -/
theorem agrees_record_run {l : AbortLedger} {requests : List AbortRequest} {before now : Time}
    (h : l.Stored requests before) (hle : before ≤ now) {named : List ℕ}
    {job : ℕ × Option String} :
    (l.record none now named).Agrees (requests ++ [⟨none, now, named⟩]) job ↔
      RunRequestKeeps requests now named job (l.hostClock job.2) (l.hostEntry job.2).isSome := by
  rw [RunRequestKeeps]
  by_cases hcov : named = [] ∨ job.1 ∈ named
  · have hrun : (l.record none now named).runClock job.1 = some now := if_pos hcov
    rw [if_pos hcov]
    cases hc : l.hostClock job.2 with
    | none =>
        have hreap : (l.record none now named).reapAt job.1 job.2 = some now :=
          (AbortLedger.reapAt_of_hostClock_none (l := l.record none now named) hc).trans hrun
        rw [agrees_of_clock hreap, isLeast_requestTimes_snoc]
        constructor
        · rintro ⟨-, hlower, -⟩ t ht
          exact .inl (hlower t ht)
        · intro hkeeps
          refine ⟨.inr ⟨hcov, rfl⟩, fun t ht => ?_, fun _ => le_refl now⟩
          rcases hkeeps t ht with hnow | ⟨c, hnone, -⟩
          · exact hnow
          · cases hnone
    | some c =>
        have hcnow : c ≤ now := (h.le (h.hostClock_mem hc)).trans hle
        rw [agrees_of_clock (AbortLedger.reapAt_of_both hrun hc), min_eq_right hcnow,
          isLeast_requestTimes_snoc]
        constructor
        · rintro ⟨-, hlower, -⟩ t ht
          exact .inr ⟨c, rfl, hlower t ht⟩
        · intro hkeeps
          refine ⟨.inl (h.hostClock_mem hc), fun t ht => ?_, fun _ => hcnow⟩
          rcases hkeeps t ht with hnow | ⟨c', hsome, hle'⟩
          · exact hcnow.trans hnow
          · rwa [Option.some.inj hsome]
  · have hrun : (l.record none now named).runClock job.1 = none := if_neg hcov
    have hreap : (l.record none now named).reapAt job.1 job.2 = l.hostClock job.2 :=
      AbortLedger.reapAt_of_runClock_none job.2 hrun
    rw [if_neg hcov]
    cases hc : l.hostClock job.2 with
    | none =>
        rw [agrees_of_no_clock (hreap.trans hc)]
        change (l.hostEntry job.2).isSome = false ↔ _
        cases (l.hostEntry job.2).isSome with
        | false => simp
        | true => simp
    | some c =>
        rw [agrees_of_clock (hreap.trans hc), isLeast_requestTimes_snoc,
          AbortLedger.hostEntry_of_hostClock hc]
        constructor
        · rintro ⟨-, hlower, -⟩ -
          exact ⟨c, rfl, hlower⟩
        · intro hkeeps
          obtain ⟨c', hsome, hlower⟩ := hkeeps rfl
          rw [← Option.some.inj hsome] at hlower
          exact ⟨.inl (h.hostClock_mem hc), hlower, fun hcov' => absurd hcov' hcov⟩

/-- The clock of a host with a name after a request for it. -/
theorem hostClock_record_self {l : AbortLedger} {host : String} {hostId : Option String}
    (now : Time) (named : List ℕ) (hon : hostId = some host) (hname : host ≠ "") :
    (l.record (some host) now named).hostClock hostId =
      some ((l.hostClock hostId).getD now) := by
  subst hon
  have hclock : ∀ m : AbortLedger, m.hostClock (some host) = m.hostAt host := by
    intro m
    rw [AbortLedger.hostClock, Option.filter_some, if_pos (by simpa using hname),
      Option.bind_some]
  rw [hclock, hclock]
  exact Function.update_self ..

/-- The clocks of other hosts after a request. -/
theorem hostClock_record_other {l : AbortLedger} {host : String} {hostId : Option String}
    (now : Time) (named : List ℕ) (hother : hostId = some host → host = "") :
    (l.record (some host) now named).hostClock hostId = l.hostClock hostId := by
  cases hostId with
  | none => rfl
  | some hostId =>
      by_cases hname : hostId = ""
      · subst hname
        rfl
      · have hne : hostId ≠ host := fun heq => hname (heq.trans (hother (by rw [heq])))
        rw [AbortLedger.hostClock, AbortLedger.hostClock, Option.filter_some,
          if_pos (by simpa using hname), Option.bind_some, Option.bind_some]
        exact Function.update_of_ne hne ..

/-- What is stored for a host after a request for it. -/
theorem hostEntry_record_self {l : AbortLedger} {host : String} {now : Time} {named : List ℕ}
    {hostId : Option String} (hon : hostId = some host) :
    ((l.record (some host) now named).hostEntry hostId).isSome = true := by
  subst hon
  change (Function.update l.hostAt host _ host).isSome = true
  rw [Function.update_self]
  rfl

/-- What is stored for other hosts after a request. -/
theorem hostEntry_record_other {l : AbortLedger} {host : String} {now : Time} {named : List ℕ}
    {hostId : Option String} (hother : hostId ≠ some host) :
    (l.record (some host) now named).hostEntry hostId = l.hostEntry hostId := by
  cases hostId with
  | none => rfl
  | some hostId => exact Function.update_of_ne (fun heq => hother (by rw [heq])) ..

/-- A clock of a host stays. -/
theorem hostClock_record_some {l : AbortLedger} {host : String} {now : Time} {named : List ℕ}
    {hostId : Option String} {c : Time} (hc : l.hostClock hostId = some c) :
    (l.record (some host) now named).hostClock hostId = some c := by
  by_cases hon : hostId = some host
  · have hname : host ≠ "" := by
      rintro rfl
      rw [hon] at hc
      cases hc
    rw [hostClock_record_self now named hon hname, hc]
    rfl
  · rw [hostClock_record_other now named fun heq => absurd heq hon, hc]

section HostRequest

variable {l : AbortLedger} {requests : List AbortRequest} {before now : Time} {host : String}
  {named : List ℕ} {job : ℕ × Option String}

/-- A clock of a host that starts with a request is no earlier than that of the run. -/
theorem reapAt_record_host_of_run {r : Time} (hc : l.hostClock job.2 = none)
    (hr' : (l.record (some host) now named).runClock job.1 = some r) (hnow : r ≤ now) :
    (l.record (some host) now named).reapAt job.1 job.2 = some r := by
  by_cases hon : job.2 = some host ∧ host ≠ ""
  · have hstart := hostClock_record_self now named (l := l) hon.1 hon.2
    rw [hc, Option.getD_none] at hstart
    rw [AbortLedger.reapAt_of_both hr' hstart, min_eq_left hnow]
  · have hother : job.2 = some host → host = "" := fun heq =>
      not_ne_iff.mp fun hname => hon ⟨heq, hname⟩
    exact (AbortLedger.reapAt_of_hostClock_none
      ((hostClock_record_other now named hother).trans hc)).trans hr'

/-- A job that stays under the clock of the run keeps its clock. -/
theorem agrees_record_host_stays (h : l.Stored requests before) (hle : before ≤ now)
    (hagree : l.Agrees requests job) {r r' : Time} (hr : l.runClock job.1 = some r)
    (hr' : (l.record (some host) now named).runClock job.1 = some r') :
    (l.record (some host) now named).Agrees (requests ++ [⟨some host, now, named⟩]) job := by
  have hat : l.runAt = some r := (covers_of_runClock hr).2
  obtain rfl : r' = r := by
    have hat' : l.runAt = some r' := (covers_of_runClock hr').2
    rw [hat] at hat'
    exact (Option.some.inj hat').symm
  have hnow : r' ≤ now := (h.run r' hat).trans hle
  have hkept : ∃ t, l.reapAt job.1 job.2 = some t ∧ t ≤ now ∧
      (l.record (some host) now named).reapAt job.1 job.2 = some t := by
    cases hc : l.hostClock job.2 with
    | some c =>
        exact ⟨min r' c, AbortLedger.reapAt_of_both hr hc, (min_le_left r' c).trans hnow,
          AbortLedger.reapAt_of_both hr' (hostClock_record_some hc)⟩
    | none =>
        exact ⟨r', (AbortLedger.reapAt_of_hostClock_none hc).trans hr, hnow,
          reapAt_record_host_of_run hc hr' hnow⟩
  obtain ⟨t, hreap, htnow, hreap'⟩ := hkept
  have hleast := hagree.earliest t hreap
  refine (agrees_of_clock hreap').mpr (isLeast_requestTimes_snoc.mpr ?_)
  exact ⟨.inl hleast.1, fun u hu => hleast.2 hu, fun _ => htnow⟩

/-- A job without any clock before a request for a host gets one from it if it is on the host. -/
theorem agrees_record_host_of_none (hc : l.hostClock job.2 = none)
    (hr' : (l.record (some host) now named).runClock job.1 = none) :
    (l.record (some host) now named).Agrees (requests ++ [⟨some host, now, named⟩]) job ↔
      if job.2 = some host then host ≠ "" ∧ ∀ t ∈ requestTimes requests job, now ≤ t
      else (l.hostEntry job.2).isSome = false := by
  have hreap' := AbortLedger.reapAt_of_runClock_none job.2 hr'
  by_cases hon : job.2 = some host
  · rw [if_pos hon]
    by_cases hname : host = ""
    · have hnone := (hostClock_record_other now named
        fun _ : job.2 = some host => hname).trans hc
      rw [agrees_of_no_clock (hreap'.trans hnone), hostEntry_record_self hon]
      exact ⟨fun htrue => (by cases htrue), fun hkeeps => absurd hname hkeeps.1⟩
    · have hstart := hostClock_record_self now named (l := l) hon hname
      rw [hc, Option.getD_none] at hstart
      rw [agrees_of_clock (hreap'.trans hstart), isLeast_requestTimes_snoc]
      constructor
      · rintro ⟨-, hlower, -⟩
        exact ⟨hname, hlower⟩
      · rintro ⟨-, hlower⟩
        exact ⟨.inr ⟨hon, rfl⟩, hlower, fun _ => le_refl now⟩
  · have hnone := (hostClock_record_other now named
      fun heq : job.2 = some host => absurd heq hon).trans hc
    rw [if_neg hon, agrees_of_no_clock (hreap'.trans hnone), hostEntry_record_other hon]

/-- A job that no clock of the run covers is reaped by that of its host. -/
theorem agrees_record_host_apart (h : l.Stored requests before) (hle : before ≤ now)
    (hagree : l.Agrees requests job) (hr : l.runClock job.1 = none)
    (hr' : (l.record (some host) now named).runClock job.1 = none) :
    (l.record (some host) now named).Agrees (requests ++ [⟨some host, now, named⟩]) job ↔
      (l.hostClock job.2 = none → job.2 = some host →
        host ≠ "" ∧ ∀ t ∈ requestTimes requests job, now ≤ t) := by
  have hreap := AbortLedger.reapAt_of_runClock_none job.2 hr
  have hreap' := AbortLedger.reapAt_of_runClock_none job.2 hr'
  cases hc : l.hostClock job.2 with
  | some c =>
      have hleast := hagree.earliest c (hreap.trans hc)
      have hcnow : c ≤ now := (h.le hleast.1).trans hle
      rw [agrees_of_clock (hreap'.trans (hostClock_record_some hc)), isLeast_requestTimes_snoc]
      exact ⟨fun _ hnone => (by cases hnone),
        fun _ => ⟨.inl hleast.1, fun u hu => hleast.2 hu, fun _ => hcnow⟩⟩
  | none =>
      have hentry := (agrees_of_no_clock (hreap.trans hc)).mp hagree
      rw [agrees_record_host_of_none hc hr']
      by_cases hon : job.2 = some host
      · rw [if_pos hon]
        exact ⟨fun hkeeps _ _ => hkeeps, fun hkeeps => hkeeps rfl hon⟩
      · rw [if_neg hon]
        exact ⟨fun _ _ heq => absurd heq hon, fun _ => hentry⟩

/-- A job that comes under the clock of the run. -/
theorem agrees_record_host_joins (h : l.Stored requests before) (hle : before ≤ now)
    (hagree : l.Agrees requests job) {r : Time} (hr : l.runClock job.1 = none)
    (hr' : (l.record (some host) now named).runClock job.1 = some r) :
    (l.record (some host) now named).Agrees (requests ++ [⟨some host, now, named⟩]) job ↔
      (∃ c, l.hostClock job.2 = some c ∧ c ≤ r) ∨
        l.hostClock job.2 = none ∧
          (r ∈ requestTimes requests job ∨ job.2 = some host ∧ r = now) ∧
          ∀ t ∈ requestTimes requests job, r ≤ t := by
  have hat : l.runAt = some r := (covers_of_runClock hr').2
  have hnow : r ≤ now := (h.run r hat).trans hle
  cases hc : l.hostClock job.2 with
  | some c =>
      have hleast := hagree.earliest c
        ((AbortLedger.reapAt_of_runClock_none job.2 hr).trans hc)
      have hcnow : c ≤ now := (h.le hleast.1).trans hle
      rw [agrees_of_clock (AbortLedger.reapAt_of_both hr' (hostClock_record_some hc)),
        isLeast_requestTimes_snoc]
      constructor
      · rintro ⟨hmem, -, -⟩
        refine .inl ⟨c, rfl, ?_⟩
        rcases hmem with hold | ⟨-, hmade⟩
        · exact min_eq_right_iff.mp (le_antisymm (min_le_right r c) (hleast.2 hold))
        · exact (hcnow.trans (le_of_eq hmade)).trans (min_le_left r c)
      · rintro (⟨c', hsome, hcr⟩ | ⟨hnone, -⟩)
        · rw [← Option.some.inj hsome] at hcr
          rw [min_eq_right hcr]
          exact ⟨.inl hleast.1, fun u hu => hleast.2 hu, fun _ => hcnow⟩
        · cases hnone
  | none =>
      rw [agrees_of_clock (reapAt_record_host_of_run hc hr' hnow), isLeast_requestTimes_snoc]
      constructor
      · rintro ⟨hmem, hlower, -⟩
        exact .inr ⟨rfl, hmem.imp_right fun hnew => ⟨hnew.1, hnew.2.symm⟩, hlower⟩
      · rintro (⟨c, hsome, -⟩ | ⟨-, hmem, hlower⟩)
        · cases hsome
        · exact ⟨hmem.imp_right fun hnew => ⟨hnew.1, hnew.2.symm⟩, hlower, fun _ => hnow⟩

/-- A job that leaves the clock of the run. -/
theorem agrees_record_host_leaves (h : l.Stored requests before) (hle : before ≤ now)
    (hagree : l.Agrees requests job) {r : Time} (hr : l.runClock job.1 = some r)
    (hr' : (l.record (some host) now named).runClock job.1 = none) :
    (l.record (some host) now named).Agrees (requests ++ [⟨some host, now, named⟩]) job ↔
      (∃ c, l.hostClock job.2 = some c ∧ c ≤ r) ∨
        l.hostClock job.2 = none ∧
          if job.2 = some host then host ≠ "" ∧ now ≤ r
          else (l.hostEntry job.2).isSome = false := by
  have hreap' := AbortLedger.reapAt_of_runClock_none job.2 hr'
  cases hc : l.hostClock job.2 with
  | some c =>
      have hleast := hagree.earliest (min r c) (AbortLedger.reapAt_of_both hr hc)
      have hcmem := h.hostClock_mem hc
      rw [agrees_of_clock (hreap'.trans (hostClock_record_some hc)), isLeast_requestTimes_snoc]
      constructor
      · rintro ⟨-, hlower, -⟩
        exact .inl ⟨c, rfl, (hlower _ hleast.1).trans (min_le_left r c)⟩
      · rintro (⟨c', hsome, hcr⟩ | ⟨hnone, -⟩)
        · rw [← Option.some.inj hsome] at hcr
          rw [min_eq_right hcr] at hleast
          exact ⟨.inl hcmem, fun u hu => hleast.2 hu, fun _ => (h.le hcmem).trans hle⟩
        · cases hnone
  | none =>
      have hleast := hagree.earliest r ((AbortLedger.reapAt_of_hostClock_none hc).trans hr)
      have hiff : ∀ P : Prop, ((∃ c, (none : Option Time) = some c ∧ c ≤ r) ∨
          (none : Option Time) = none ∧ P) ↔ P := by simp
      rw [hiff]
      have hlower : (∀ t ∈ requestTimes requests job, now ≤ t) ↔ now ≤ r :=
        ⟨fun hall => hall r hleast.1, fun hnow t ht => hnow.trans (hleast.2 ht)⟩
      rw [agrees_record_host_of_none hc hr', hlower]

/-- **A host-level request** keeps the predicates in agreement exactly under its condition. -/
theorem agrees_record_host (h : l.Stored requests before) (hle : before ≤ now)
    (hagree : l.Agrees requests job) :
    (l.record (some host) now named).Agrees (requests ++ [⟨some host, now, named⟩]) job ↔
      HostRequestKeeps requests host now job (l.hostClock job.2) (l.hostEntry job.2).isSome
        (l.runClock job.1) ((l.record (some host) now named).runClock job.1) := by
  cases hr : l.runClock job.1 with
  | none =>
      cases hr' : (l.record (some host) now named).runClock job.1 with
      | none => exact agrees_record_host_apart h hle hagree hr hr'
      | some r => exact agrees_record_host_joins h hle hagree hr hr'
  | some r =>
      cases hr' : (l.record (some host) now named).runClock job.1 with
      | none => exact agrees_record_host_leaves h hle hagree hr hr'
      | some r' =>
          exact ⟨fun _ => trivial, fun _ => agrees_record_host_stays h hle hagree hr hr'⟩

end HostRequest

/-! ### The jobs of a run -/

/-- The jobs stay on their hosts when they move. -/
theorem jobHosts_moveJobs (moved : List (ℕ × JobStatus)) (jobs : List AbortJob) :
    (moveJobs moved jobs).map (fun job => (job.id, job.hostId)) =
      jobs.map fun job => (job.id, job.hostId) := by
  rw [moveJobs, List.map_map]
  rfl

/-- The jobs stay on their hosts when they are aborted. -/
theorem jobHosts_markAborted (abortedIds : List ℕ) (jobs : List AbortJob) :
    (markAborted abortedIds jobs).map (fun job => (job.id, job.hostId)) =
      jobs.map fun job => (job.id, job.hostId) := by
  rw [markAborted, List.map_map]
  refine List.map_congr_left fun job _ => ?_
  change ((if abortedIds.contains job.id then { job with status := .aborted } else job).id,
    (if abortedIds.contains job.id then { job with status := .aborted } else job).hostId) = _
  split
  · rfl
  · rfl

/-- The second transaction of an abort leaves the jobs on their hosts. -/
theorem jobHosts_abortSecond {call : AbortCall} {now : Time} {pendingIds requested : List ℕ}
    {jobs jobs' : List AbortJob} {run run' : PlanRunRow}
    (h : abortSecond call now pendingIds requested jobs run = some (run', jobs')) :
    jobs'.map (fun job => (job.id, job.hostId)) = jobs.map fun job => (job.id, job.hostId) := by
  rw [abortSecond] at h
  split at h
  · cases h
    rfl
  · split at h
    · cases h
    · dsimp only at h
      split at h
      · cases h
      · obtain ⟨settled, -, heq⟩ := Option.map_eq_some_iff.mp h
        cases heq
        exact jobHosts_markAborted _ jobs

/-- **An abort** leaves the jobs on their hosts. -/
theorem jobHosts_abort (w : AbortWorld) (call : AbortCall) (now : Time)
    (moved : List (ℕ × JobStatus)) (ended : Bool) :
    (w.abort call now moved ended).jobHosts = w.jobHosts ∧
      (w.abort call now moved ended).now = now := by
  rw [AbortWorld.abort]
  split
  · exact ⟨rfl, rfl⟩
  · exact ⟨rfl, rfl⟩
  · exact ⟨rfl, rfl⟩
  · split
    · exact ⟨jobHosts_moveJobs moved w.jobs, rfl⟩
    · rename_i hsecond
      exact ⟨(jobHosts_abortSecond hsecond).trans (jobHosts_moveJobs moved w.jobs), rfl⟩

/-! ### One step -/

/-- A history whose context records where its clocks come from; without jobs there is nothing
to say about them. -/
def AbortHistory.InOrder (s : AbortHistory) : Prop :=
  ∃ l, Records s.world.run.runContext l ∧
    (s.world.jobHosts = [] ∨ l.Stored s.requests s.world.now)

/-- Time passes. -/
theorem AbortLedger.Stored.mono {l : AbortLedger} {requests : List AbortRequest}
    {before now : Time} (h : l.Stored requests before) (hle : before ≤ now) :
    l.Stored requests now :=
  ⟨fun request hmem => (h.times request hmem).trans hle, h.host,
    fun r hr => (h.run r hr).trans hle⟩

/-- Where the clocks come from after a request. -/
theorem AbortLedger.Stored.record {l : AbortLedger} {requests : List AbortRequest}
    {before now : Time} (h : l.Stored requests before) (hle : before ≤ now)
    (hostId : Option String) (named : List ℕ) :
    (l.record hostId now named).Stored (requests ++ [⟨hostId, now, named⟩]) now := by
  have htimes : ∀ request ∈ requests ++ [⟨hostId, now, named⟩], request.madeAt ≤ now := by
    intro request hmem
    rcases List.mem_append.mp hmem with hold | hnew
    · exact (h.times request hold).trans hle
    · rw [List.mem_singleton.mp hnew]
  have hold : ∀ host c, l.hostAt host = some c → ∃ request ∈ requests ++ [⟨hostId, now, named⟩],
      request.hostId = some host ∧ request.madeAt = c := by
    intro host c hc
    obtain ⟨request, hmem, hrequest⟩ := h.host host c hc
    exact ⟨request, List.mem_append_left _ hmem, hrequest⟩
  cases hostId with
  | none =>
      refine ⟨htimes, hold, fun r hr => ?_⟩
      rw [← Option.some.inj (show some now = some r from hr)]
  | some host =>
      refine ⟨htimes, fun host' c hc => ?_, fun r hr => (h.run r hr).trans hle⟩
      rw [AbortLedger.record] at hc
      dsimp only at hc
      by_cases hhost : host' = host
      · subst hhost
        rw [Function.update_self] at hc
        cases hat : l.hostAt host' with
        | some c' =>
            rw [hat] at hc
            rw [← Option.some.inj (show some c' = some c from hc)]
            exact hold host' c' hat
        | none =>
            rw [hat] at hc
            rw [← Option.some.inj (show some now = some c from hc)]
            exact ⟨_, List.mem_append_right _ (List.mem_singleton_self _), rfl, rfl⟩
      · rw [Function.update_of_ne hhost] at hc
        exact hold host' c hc

/-- The same clocks come from the same requests. -/
theorem SameClocks.stored {l l' : AbortLedger} (hsame : SameClocks l' l)
    {requests : List AbortRequest} {now : Time} (h : l.Stored requests now) :
    l'.Stored requests now := by
  refine ⟨h.times, fun hostId c hc => h.host hostId c ?_, fun r hr => h.run r ?_⟩
  · rw [← hsame.hostAt]
    exact hc
  · rw [← hsame.runAt]
    exact hr

/-- The same clocks agree on the same jobs. -/
theorem SameClocks.agrees_iff {l l' : AbortLedger} (hsame : SameClocks l' l)
    {requests : List AbortRequest} {job : ℕ × Option String} :
    l'.Agrees requests job ↔ l.Agrees requests job := by
  have hreap := hsame.reapAt job.1 job.2
  have hentry : l'.hostEntry job.2 = l.hostEntry job.2 := by
    rw [AbortLedger.hostEntry, AbortLedger.hostEntry, hsame.hostAt]
  constructor
  · intro h
    exact ⟨fun hsome => hreap ▸ h.pending (hentry ▸ hsome),
      fun t ht => h.earliest t (hreap.trans ht)⟩
  · intro h
    exact ⟨fun hsome => hreap ▸ h.pending (hentry ▸ hsome),
      fun t ht => h.earliest t (hreap.symm.trans ht)⟩

/-- The clock of the run for a job is that of the ledger. -/
theorem AbortWorld.runClock_eq {w : AbortWorld} {l : AbortLedger}
    (h : Records w.run.runContext l) (jobId : ℕ) : w.runClock jobId = l.runClock jobId := by
  rw [AbortWorld.runClock, AbortLedger.runClock, AbortWorld.context, h.request.runAt]
  have hcovers := h.request.covers jobId
  by_cases hcov : l.Covers jobId
  · rw [if_pos (hcovers.mpr hcov), if_pos hcov]
  · rw [if_neg fun hc => hcov (hcovers.mp hc), if_neg hcov]

/-- The clock of the run for a job, when a host-level request names more, is that of the
ledger. -/
theorem AbortWorld.runClockWith_eq {w : AbortWorld} {l : AbortLedger}
    (h : Records w.run.runContext l) (host : String) (now : Time) (named : List ℕ) (jobId : ℕ) :
    w.runClockWith named jobId = (l.record (some host) now named).runClock jobId := by
  have hmem : ∀ id, id ∈ (l.record (some host) now named).requested ↔
      id ∈ l.requested ++ named := by
    intro id
    change id ∈ AbortLedger.addNew [] (l.requested ++ named) ↔ _
    simp [AbortLedger.mem_addNew]
  have hcovers : (l.record (some host) now named).Covers jobId ↔
      l.requested ++ named = [] ∨ jobId ∈ l.requested ++ named := by
    refine or_congr ?_ (hmem jobId)
    rw [List.eq_nil_iff_forall_not_mem, List.eq_nil_iff_forall_not_mem]
    exact forall_congr' fun id => not_congr (hmem id)
  rw [AbortWorld.runClockWith, AbortLedger.runClock, AbortWorld.context, h.request.runAt,
    AbortWorld.requestedJobIds_eq h]
  by_cases hcov : l.requested ++ named = [] ∨ jobId ∈ l.requested ++ named
  · rw [if_pos hcov, if_pos (hcovers.mpr hcov)]
    rfl
  · rw [if_neg hcov, if_neg fun hc => hcov (hcovers.mp hc)]

/-- **Every step** leaves a history in order. -/
theorem AbortHistory.Step.inOrder {s s' : AbortHistory} {op : AbortOp} (hs : s.InOrder)
    (hstep : s.Step op s') : s'.InOrder := by
  obtain ⟨l, h, hstored⟩ := hs
  obtain ⟨hworld, hrequests⟩ := hstep
  cases op with
  | work moved ended =>
      have hworld' : s'.world =
        ⟨s.world.now, endRun ended s.world.run, moveJobs moved s.world.jobs⟩ := hworld
      rw [show s.world.requestsOf (.work moved ended) = [] from rfl, List.append_nil] at hrequests
      rw [InOrder, hworld', hrequests]
      refine ⟨l, ?_, hstored.imp_left fun hnil => ?_⟩
      · dsimp only
        rw [runContext_endRun]
        exact h
      · exact (jobHosts_moveJobs moved s.world.jobs).trans hnil
  | abort call now moved ended =>
      obtain ⟨hle, hnow, hworld'⟩ := hworld
      obtain ⟨hhosts, htime⟩ := jobHosts_abort s.world call now moved ended
      rw [InOrder, hworld', hrequests, AbortWorld.requestsOf, hhosts, htime]
      cases hproceeds : s.world.proceeds call with
      | true =>
          obtain ⟨-, l', h', hsame⟩ := abort_of_proceeds moved ended hnow h hproceeds
          rw [if_pos rfl]
          exact ⟨l', h', hstored.imp_right fun hold =>
            hsame.stored (hold.record hle call.hostId _)⟩
      | false =>
          rw [if_neg Bool.false_ne_true, List.append_nil]
          rcases (abort_of_not_proceeds moved ended hnow h hproceeds).2 with
            h' | ⟨hnone, l', h'⟩
          · exact ⟨l, h', hstored.imp_right fun hold => hold.mono hle⟩
          · exact ⟨l', h', .inl (by rw [AbortWorld.jobHosts, hnone]; rfl)⟩

/-- **One step** keeps the predicates in agreement exactly under its condition. -/
theorem AbortHistory.Step.predicatesAgree_iff_keeps {s s' : AbortHistory} {op : AbortOp}
    (hs : s.InOrder) (hagree : s.PredicatesAgree) (hstep : s.Step op s') :
    s'.PredicatesAgree ↔ s.Keeps op := by
  obtain ⟨l, h, hstored⟩ := hs
  have hall := (predicatesAgree_iff h).mp hagree
  obtain ⟨hworld, hrequests⟩ := hstep
  cases op with
  | work moved ended =>
      have hworld' : s'.world =
        ⟨s.world.now, endRun ended s.world.run, moveJobs moved s.world.jobs⟩ := hworld
      have h' : Records s'.world.run.runContext l := by
        rw [hworld']
        dsimp only
        rw [runContext_endRun]
        exact h
      have hhosts : s'.world.jobHosts = s.world.jobHosts := by
        rw [hworld']
        exact jobHosts_moveJobs moved s.world.jobs
      rw [show s.world.requestsOf (.work moved ended) = [] from rfl, List.append_nil] at hrequests
      rw [predicatesAgree_iff h', hhosts, hrequests]
      exact ⟨fun _ => trivial, fun _ => hall⟩
  | abort call now moved ended =>
      obtain ⟨hle, hnow, hworld'⟩ := hworld
      obtain ⟨hhosts, -⟩ := jobHosts_abort s.world call now moved ended
      rw [← hworld'] at hhosts
      rw [AbortWorld.requestsOf] at hrequests
      cases hproceeds : s.world.proceeds call with
      | false =>
          rw [hproceeds, if_neg Bool.false_ne_true, List.append_nil] at hrequests
          refine ⟨fun _ hgo => ?_, fun _ => ?_⟩
          · rw [hproceeds] at hgo
            cases hgo
          · rcases (abort_of_not_proceeds moved ended hnow h hproceeds).2 with
              h' | ⟨hnone, l', h'⟩
            · rw [← hworld'] at h'
              rw [predicatesAgree_iff h', hhosts, hrequests]
              exact hall
            · rw [← hworld'] at h'
              rw [predicatesAgree_iff h', hhosts, AbortWorld.jobHosts, hnone]
              exact fun job hjob => by cases hjob
      | true =>
          rw [hproceeds, if_pos rfl] at hrequests
          obtain ⟨-, l', h', hsame⟩ := abort_of_proceeds moved ended hnow h hproceeds
          rw [← hworld'] at h'
          rw [predicatesAgree_iff h', hhosts, hrequests, Keeps, hproceeds]
          refine Iff.trans ?_ (forall_prop_of_true rfl).symm
          refine forall_congr' fun job => forall_congr' fun hjob => ?_
          have hstored' : l.Stored s.requests s.world.now := by
            refine hstored.resolve_left fun hnil => ?_
            rw [hnil] at hjob
            cases hjob
          rw [hsame.agrees_iff, AbortWorld.context, h.hosts.hostAt, h.hosts.hostAbortPending_eq]
          dsimp only
          cases call.hostId with
          | none => exact agrees_record_run hstored' hle
          | some host =>
              dsimp only
              rw [AbortWorld.runClock_eq h, AbortWorld.runClockWith_eq h host now]
              exact agrees_record_host hstored' hle (hall job hjob)

/-! ### Every run -/

/-- Before the first request nothing is pending. -/
theorem AbortHistory.Fresh.agrees {s : AbortHistory} (hs : s.Fresh) :
    s.InOrder ∧ s.PredicatesAgree := by
  have h := records_fresh hs.run hs.hosts
  refine ⟨⟨_, h, .inr ⟨?_, fun _ _ hc => (by cases hc), fun _ hr => (by cases hr)⟩⟩, ?_⟩
  · rw [hs.requests]
    exact fun _ hmem => by cases hmem
  · refine (predicatesAgree_iff h).mpr fun job _ => ?_
    have hentry : (⟨none, [], fun _ => none⟩ : AbortLedger).hostEntry job.2 = none := by
      cases job.2 with
      | none => rfl
      | some host => rfl
    have hhost : (⟨none, [], fun _ => none⟩ : AbortLedger).hostClock job.2 = none := by
      rw [Option.eq_none_iff_forall_ne_some]
      intro c hc
      rw [AbortLedger.hostEntry_of_hostClock hc] at hentry
      cases hentry
    have hrun : (⟨none, [], fun _ => none⟩ : AbortLedger).runClock job.1 = none := if_pos (.inl rfl)
    refine (agrees_of_no_clock ((AbortLedger.reapAt_of_runClock_none job.2 hrun).trans hhost)).mpr ?_
    rw [hentry]
    rfl

/-- **The predicates agree, and the clock is that of the earliest request**, in every state of a
run exactly when every request keeps it so. -/
theorem abortPredicates_agree_iff {s₀ s : AbortHistory} {tr : List (AbortHistory × AbortOp)}
    (hs : s₀.Fresh) (hrun : Run AbortHistory.Step s₀ tr s) :
    Holds AbortHistory.PredicatesAgree tr s ↔ ∀ p ∈ tr, p.1.Keeps p.2 :=
  hrun.invariant_iff_guard (fun hA _ hstep => hstep.inOrder hA)
    (fun hA hagree hstep => hstep.predicatesAgree_iff_keeps hA hagree) hs.agrees.1 hs.agrees.2

/-- A run before the first request. -/
def freshHistory : AbortHistory := ⟨threeJobs, []⟩

/-- One more request. -/
def AbortHistory.abort (s : AbortHistory) (call : AbortCall) (now : Time) : AbortHistory :=
  ⟨s.world.abort call now [] false, s.requests ++ s.world.requestsOf (.abort call now [] false)⟩

/-- The theorem at work: a request for a host and, a minute later, one for the run. -/
theorem abortPredicates_agree_host_run :
    let first := freshHistory.abort (abortCallFor (some "h1")) 0
    let second := first.abort (abortCallFor none) 60000000
    let tr := [(freshHistory, AbortOp.abort (abortCallFor (some "h1")) 0 [] false),
      (first, .abort (abortCallFor none) 60000000 [] false)]
    Holds AbortHistory.PredicatesAgree tr second := by
  intro first second tr
  have hrun : Run AbortHistory.Step freshHistory tr second :=
    .cons ⟨⟨le_refl 0, by decide, rfl⟩, rfl⟩ (.cons ⟨⟨by decide, by decide, rfl⟩, rfl⟩ (.nil _))
  refine (abortPredicates_agree_iff ⟨rfl, rfl, rfl⟩ hrun).mpr ?_
  have hclocks : ∀ job ∈ freshHistory.world.jobHosts,
      freshHistory.world.runClock job.1 = none ∧
        freshHistory.world.runClockWith [11, 12] job.1 = none := by decide
  have hhosts : ∀ job ∈ first.world.jobHosts, job.2 = some "h1" →
      parseAbortAt (hostAbortClockAt first.world.context job.2) = some 0 := by decide
  have hnamed : ∀ job ∈ first.world.jobHosts, job.1 ∈ [11, 12, 13] := by decide
  rintro p hp
  rcases List.mem_cons.mp hp with rfl | hp
  · intro _ job hjob
    obtain ⟨hbefore, hafter⟩ := hclocks job hjob
    change HostRequestKeeps [] "h1" 0 job _ _ (freshHistory.world.runClock job.1)
      (freshHistory.world.runClockWith [11, 12] job.1)
    rw [hbefore, hafter]
    refine fun _ _ => ⟨by decide, ?_⟩
    rintro t ⟨request, hmem, -⟩
    cases hmem
  · rw [List.mem_singleton.mp hp]
    intro _ job hjob
    change RunRequestKeeps [⟨some "h1", 0, [11, 12]⟩] 60000000 [11, 12, 13] job _ _
    rw [RunRequestKeeps, if_pos (.inr (hnamed job hjob))]
    rintro t ⟨request, hmem, hcov, rfl⟩
    rw [List.mem_singleton.mp hmem] at hcov ⊢
    exact .inr ⟨0, hhosts job hjob hcov, le_refl 0⟩

/-- **A second run-level request hides the first.** A minute later, the clock of every job is the
time of the second request, though the first one covers the job too. -/
theorem secondRunAbort_hides_first :
    let first := freshHistory.abort (abortCallFor none) 0
    let second := first.abort (abortCallFor none) 60000000
    freshHistory.Fresh ∧ freshHistory.Step (.abort (abortCallFor none) 0 [] false) first ∧
      first.Step (.abort (abortCallFor none) 60000000 [] false) second ∧
      abortReapClock second.world.context 11 (some "h1") = some (60000000, .run) ∧
      ¬ second.PredicatesAgree := by
  intro first second
  have hclock : abortReapClock second.world.context 11 (some "h1") = some (60000000, .run) := by
    decide
  refine ⟨⟨rfl, rfl, rfl⟩, ⟨⟨le_refl 0, by decide, rfl⟩, rfl⟩, ⟨⟨by decide, by decide, rfl⟩, rfl⟩,
    hclock, fun hagree => ?_⟩
  have hleast := hagree.earliest (11, some "h1") (by decide) _ hclock
  have hfirst : (0 : Time) ∈ requestTimes second.requests (11, some "h1") := by
    have hmem : (⟨none, 0, [11, 12, 13]⟩ : AbortRequest) ∈ second.requests := by decide
    exact ⟨_, hmem, .inr (by decide), rfl⟩
  exact absurd (hleast.2 hfirst) (by decide)

end StabilityPlatform
