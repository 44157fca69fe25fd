import StabilityPlatform.Host.UpgradeGate

/-!
# An upgrade has the host to itself

A claim tests the window with a clock that it read before it locked the row of the host, so a
window that is open when the claim commits was open for its test too; and no window is opened
while a claim holds the row. Once an upgrade has found no active job, the jobs of its host can
only be pending or done until its window ends, whatever else happens.

A window is known by the name of its holder. A late call under the same name releases the window
of another upgrade.

## Main results

* `GateInv.step`: what every step keeps.
* `upgrade_window`: what upgrades can rely on.
* `WindowExample.late_end`: a late end under the same name.
-/

namespace StabilityPlatform

open Lib

/-! ### Windows -/

/-- The row of a host that may claim shows no open window. -/
theorem windowOpen_of_mayClaim {host : Option UpgradeHost} {now : Time}
    (h : host.any (fun row => row.toHostGate.mayClaim now) = true) :
    windowOpen host now = false := by
  cases host with
  | none => cases h
  | some row =>
      rw [Option.any_some, HostGate.mayClaim, Bool.and_eq_true, Bool.not_eq_true'] at h
      exact h.2

/-- A window that is open later was open before. -/
theorem windowOpen_anti {host : Option UpgradeHost} {now later : Time} (h : now ≤ later)
    (hopen : windowOpen host later = true) : windowOpen host now = true := by
  cases host with
  | none => cases hopen
  | some row =>
      rw [windowOpen, Option.any_some, inMaintenanceWindow] at hopen ⊢
      cases huntil : row.maintenanceUntil with
      | none =>
          rw [huntil] at hopen
          cases hopen
      | some t =>
          rw [huntil, Option.any_some, decide_eq_true_eq] at hopen
          rw [Option.any_some, decide_eq_true_eq]
          exact lt_of_le_of_lt h hopen

/-- Whether a window is open is seen from its deadline. -/
theorem windowOpen_congr {host host' : Option UpgradeHost} (h : windowOf host' = windowOf host)
    (now : Time) : windowOpen host' now = windowOpen host now := by
  cases host with
  | none =>
      cases host' with
      | none => rfl
      | some row' => cases h
  | some row =>
      cases host' with
      | none => cases h
      | some row' =>
          have huntil := congrArg Prod.fst (Option.some.inj h)
          change row'.maintenanceUntil = row.maintenanceUntil at huntil
          rw [windowOpen, windowOpen, Option.any_some, Option.any_some, huntil]

/-- So is who holds it. -/
theorem heldBy_congr {host host' : Option UpgradeHost} (h : windowOf host' = windowOf host)
    (holder : String) : heldBy host' holder ↔ heldBy host holder := by
  have hnames : host'.map UpgradeHost.maintenanceHolder = host.map UpgradeHost.maintenanceHolder := by
    have h' := congrArg (Option.map Prod.snd) h
    rwa [windowOf, windowOf, Option.map_map, Option.map_map] at h'
  have heq : ∀ host : Option UpgradeHost,
      heldBy host holder ↔ host.map UpgradeHost.maintenanceHolder = some holder := by
    intro host
    rw [heldBy, Option.map_eq_some_iff]
  rw [heq, heq, hnames]

/-- What a release under the name of the holder leaves. -/
theorem release_of_heldBy {host : Option UpgradeHost} {holder : String} (h : heldBy host holder) :
    windowOf (releaseMaintenanceWindow host holder) = some (none, "") := by
  obtain ⟨row, rfl, hrow⟩ := h
  rw [releaseMaintenanceWindow, Option.map_some, if_neg (not_not.mpr hrow)]
  rfl

/-- A release under another name does nothing. -/
theorem release_of_not_heldBy {host : Option UpgradeHost} {holder : String}
    (h : ¬ heldBy host holder) : releaseMaintenanceWindow host holder = host := by
  cases host with
  | none => rfl
  | some row =>
      have hne : row.maintenanceHolder ≠ holder := fun heq => h ⟨row, rfl, heq⟩
      rw [releaseMaintenanceWindow, Option.map_some, if_pos hne]

/-- An open window is not taken. -/
theorem acquire_of_open {host : Option UpgradeHost} {holder : String} {configured : Option ℤ}
    {now later : Time} (h : windowOpen host now = true) :
    acquireMaintenanceWindow host holder configured now later = none := by
  cases host with
  | none => rfl
  | some row =>
      rw [windowOpen, Option.any_some] at h
      rw [acquireMaintenanceWindow, Option.bind_some, if_pos h]

/-- The window that is taken names its holder. -/
theorem heldBy_of_acquire {host : Option UpgradeHost} {holder : String} {configured : Option ℤ}
    {now later : Time} {row : UpgradeHost}
    (h : acquireMaintenanceWindow host holder configured now later = some row) :
    heldBy (some row) holder := by
  obtain ⟨old, rfl, hrow⟩ := Option.bind_eq_some_iff.mp h
  split_ifs at hrow
  cases hrow
  exact ⟨_, rfl, rfl⟩

/-! ### Quiet hosts -/

/-- No job of the host runs, and none may be resumed. -/
def JobsQuiet (hostId : String) (jobs : Table JobInstance) : Prop :=
  ∀ job ∈ jobs.rows, job.hostId = some hostId → job.status ≠ .running ∧ job.status ≠ .unknown

/-- No active job was found. -/
theorem JobsQuiet.of_none {hostId : String} {jobs : Table JobInstance}
    (h : (activeJobsForHost jobs hostId).isEmpty = true) : JobsQuiet hostId jobs := by
  intro job hjob hhost
  have hnot : job ∉ activeJobsForHost jobs hostId := by
    rw [List.isEmpty_iff.mp h]
    exact List.not_mem_nil
  rw [activeJobsForHost, mem_sortBy, Table.mem_select] at hnot
  constructor
  · intro hstatus
    exact hnot ⟨hjob, by simp [hhost, hstatus, JobStatus.isActive]⟩
  · intro hstatus
    exact hnot ⟨hjob, by simp [hhost, hstatus, JobStatus.isActive]⟩

/-- A new job is pending. -/
theorem JobsQuiet.insert {hostId : String} {jobs : Table JobInstance} (h : JobsQuiet hostId jobs)
    (job : JobInstance) :
    JobsQuiet hostId
      (jobs.insert (fun i => { job with id := i, status := .pending }) fun _ => rfl) := by
  intro row hrow hhost
  rcases Table.mem_insert.mp hrow with hrow | rfl
  · exact h row hrow hhost
  · exact ⟨by simp, by simp⟩

/-- A job that keeps its host and does not start to run, or is resumed from being lost. -/
theorem JobsQuiet.save {hostId : String} {jobs : Table JobInstance} (h : JobsQuiet hostId jobs)
    {job moved : JobInstance} (hjob : jobs.get? job.id = some job)
    (hhost : moved.hostId = job.hostId)
    (hmoved : job.status ≠ .running → job.status ≠ .unknown →
      moved.status ≠ .running ∧ moved.status ≠ .unknown) :
    JobsQuiet hostId (jobs.save moved) := by
  intro row hrow hrowhost
  rcases Table.mem_save.mp hrow with ⟨hrow, -⟩ | ⟨rfl, -⟩
  · exact h row hrow hrowhost
  · obtain ⟨hrunning, hunknown⟩ := h job (Table.mem_of_get? hjob) (hhost ▸ hrowhost)
    exact hmoved hrunning hunknown

/-- Jobs that another host claims leave. -/
theorem JobsQuiet.claimElsewhere {hostId other : String} {jobs : Table JobInstance}
    (h : JobsQuiet hostId jobs) (hne : other ≠ hostId) (jobIds : List ℕ) (now : Time) :
    JobsQuiet hostId (claimPending jobs jobIds other now) := by
  intro row hrow hhost
  obtain ⟨old, hold, rfl⟩ := Table.mem_update.mp hrow
  split at hhost
  · exact absurd (Option.some.inj hhost) hne
  · rename_i hcond
    rw [if_neg hcond]
    exact h old hold hhost

/-! ### What a step does -/

/-- The upgrade whose call takes the step. -/
def GateOp.upgrade? : GateOp → Option ℕ
  | .beginUpgrade u _ _ | .acquire u _ _ | .checkActive u _ | .poll u _ | .fail u | .finish u
  | .reject u => some u
  | _ => none

/-- The name under which a step releases the window. -/
def GateOp.releases? (s : GateState) : GateOp → Option String
  | .reject u => (s.upgrades u).map UpgradeCall.holder
  | .endUpgrade _ holder => some holder
  | _ => none

/-- Whether a call in this phase has opened a window and not been refused. -/
def UpgradePhase.hasOpened : UpgradePhase → Bool
  | .entered | .rejected _ => false
  | _ => true

/-- Whether a call in this phase has found no active job. -/
def UpgradePhase.hasPassed : UpgradePhase → Bool
  | .passed | .returned => true
  | _ => false

/-- Where a call may go without touching the window. -/
inductive PhaseGoes (quiet : Prop) : Option UpgradePhase → UpgradePhase → Prop where
  | enters : PhaseGoes quiet none .entered
  | refuses (e : UpgradeError) : PhaseGoes quiet none (.rejected e)
  | conflicts (e : UpgradeError) : PhaseGoes quiet (some .entered) (.rejected e)
  | passes (phase : UpgradePhase) : phase.hasOpened → quiet → PhaseGoes quiet (some phase) .passed
  | drains (phase : UpgradePhase) : phase.hasOpened → PhaseGoes quiet (some phase) .draining
  | raises (phase : UpgradePhase) (e : UpgradeError) :
      phase.hasOpened → PhaseGoes quiet (some phase) (.rejecting e)
  | returns : PhaseGoes quiet (some .passed) .returned

/-- What a step may do. -/
inductive GateEffect (hostId : String) (s : GateState) (op : GateOp) : GateState → Prop where
  | clock (t : Time) : s.now ≤ t → GateEffect hostId s op { s with now := t }
  | row (host : Option UpgradeHost) :
      windowOf host = windowOf s.host → GateEffect hostId s op { s with host := host }
  | jobs (jobs : Table JobInstance) : (JobsQuiet hostId s.jobs → JobsQuiet hostId jobs) →
      GateEffect hostId s op { s with jobs := jobs }
  | claim (c : ℕ) (phase : ClaimPhase) : phase = .started s.now ∨ phase = .finished →
      GateEffect hostId s op (s.setClaim c phase)
  | lock (c : ℕ) (now : Time) : s.claims c = some (.started now) → s.lock = none →
      windowOpen s.host now = false →
      GateEffect hostId s op { s.setClaim c (.locked now) with lock := some c }
  | commit (c : ℕ) (now : Time) (jobIds : List ℕ) : s.claims c = some (.locked now) →
      GateEffect hostId s op { s.setClaim c .finished with
        lock := none, jobs := claimPending s.jobs jobIds hostId now }
  | goes (u : ℕ) (call : UpgradeCall) (phase : UpgradePhase) : op.upgrade? = some u →
      (∀ call', s.upgrades u = some call' → call' = call) →
      PhaseGoes (JobsQuiet hostId s.jobs) ((s.upgrades u).map UpgradeCall.phase) phase →
      GateEffect hostId s op (s.setUpgrade u call phase)
  | opens (u : ℕ) (call : UpgradeCall) (row : UpgradeHost) (later : Time) :
      op.upgrade? = some u → s.upgrades u = some call → call.phase = .entered → s.lock = none →
      windowOpen s.host s.now = false → row.maintenanceHolder = call.holder → s.now ≤ later →
      GateEffect hostId s op
        { s.setUpgrade u call .opened with now := later, host := some row, opener := some u }
  | rejects (u : ℕ) (call : UpgradeCall) (e : UpgradeError) : op = .reject u →
      s.upgrades u = some call → call.phase = .rejecting e → s.lock = none →
      GateEffect hostId s op ((s.release call.holder).setUpgrade u call (.rejected e))
  | ends (u : ℕ) (holder : String) : op = .endUpgrade u holder → s.lock = none →
      GateEffect hostId s op (s.release holder)

/-- A call that is asked for is the one that is found. -/
theorem call_unique {s : GateState} {u : ℕ} {call : UpgradeCall} (h : s.upgrades u = some call) :
    ∀ call', s.upgrades u = some call' → call' = call := by
  intro call' h'
  exact Option.some.inj (h'.symm.trans h)

/-- A transition other than a claim does not start a quiet job. -/
theorem transition_quiet {job moved : JobInstance} {newStatus : JobStatus} {reason : String}
    {now : Time} (hclaim : ¬(job.status = .pending ∧ newStatus = .running))
    (h : job.transition newStatus reason now = some moved) (hrunning : job.status ≠ .running)
    (hunknown : job.status ≠ .unknown) : moved.status ≠ .running ∧ moved.status ≠ .unknown := by
  obtain ⟨hvalid, rfl⟩ := JobInstance.transition_eq_some_iff.mp h
  change newStatus ≠ .running ∧ newStatus ≠ .unknown
  cases hstatus : job.status with
  | pending =>
      rw [hstatus] at hvalid hclaim
      refine ⟨fun hnew => hclaim ⟨rfl, hnew⟩, ?_⟩
      rintro rfl
      simp [JobStatus.validTransitions] at hvalid
  | running => exact absurd hstatus hrunning
  | unknown => exact absurd hstatus hunknown
  | completed | failed | aborted =>
      rw [hstatus] at hvalid
      cases hvalid

/-- Looking for active jobs. -/
theorem checkActiveJobs_goes {hostId : String} {jobs : Table JobInstance} (pendingIds : List ℕ)
    (abortRunningJobs : Bool) :
    PhaseGoes (JobsQuiet hostId jobs) (some .opened)
      (checkActiveJobs (activeJobsForHost jobs hostId) pendingIds abortRunningJobs) := by
  rw [checkActiveJobs]
  split_ifs with hnone
  · exact .passes _ rfl (.of_none hnone)
  · exact .drains _ rfl
  · exact .raises _ _ rfl
  · exact .raises _ _ rfl

/-- Looking whether they are gone. -/
theorem pollActiveJobs_goes {hostId : String} {jobs : Table JobInstance} (timedOut : Bool) :
    PhaseGoes (JobsQuiet hostId jobs) (some .draining)
      (pollActiveJobs (activeJobsForHost jobs hostId) timedOut) := by
  rw [pollActiveJobs]
  split_ifs with hnone
  · exact .passes _ rfl (.of_none hnone)
  · exact .raises _ _ rfl
  · exact .drains _ rfl

/-- **What a step does.** -/
theorem gateEffect_of_step {hostId : String} {s s' : GateState} {op : GateOp}
    (h : GateStep hostId s op s') : GateEffect hostId s op s' := by
  rw [GateStep] at h
  cases op with
  | advance t =>
      rw [gateStep] at h
      split_ifs at h with hle
      cases h
      exact .clock t hle
  | hostChanges status retiredAt =>
      cases h
      refine .row _ ?_
      cases s.host with
      | none => rfl
      | some row => rfl
  | materialise job =>
      cases h
      exact .jobs _ fun hquiet => hquiet.insert job
  | transition jobId newStatus reason =>
      rw [gateStep] at h
      obtain ⟨job, hjob, h⟩ := Option.bind_eq_some_iff.mp h
      split_ifs at h with hclaim
      obtain ⟨moved, hmoved, h⟩ := Option.bind_eq_some_iff.mp h
      cases h
      obtain rfl := Table.id_of_get? hjob
      have hhost : moved.hostId = job.hostId := by
        obtain ⟨-, rfl⟩ := JobInstance.transition_eq_some_iff.mp hmoved
        rfl
      exact .jobs _ fun hquiet => hquiet.save hjob hhost (transition_quiet hclaim hmoved)
  | recover jobId lease agentInstanceId =>
      rw [gateStep] at h
      obtain ⟨job, hjob, h⟩ := Option.bind_eq_some_iff.mp h
      obtain ⟨renewed, hrenewed, h⟩ := Option.bind_eq_some_iff.mp h
      obtain ⟨moved, hmoved, h⟩ := Option.bind_eq_some_iff.mp h
      cases h
      obtain rfl := Table.id_of_get? hjob
      obtain ⟨-, rfl⟩ := JobInstance.transition_eq_some_iff.mp hmoved
      rw [resumeExpiredLease] at hrenewed
      split_ifs at hrenewed with hlost
      exact .jobs _ fun hquiet =>
        hquiet.save hjob rfl fun _ hunknown => absurd hlost.2.1 hunknown
  | claimElsewhere jobId other =>
      rw [gateStep] at h
      split_ifs at h with hne
      cases h
      exact .jobs _ fun hquiet => hquiet.claimElsewhere hne _ _
  | startClaim c =>
      rw [gateStep] at h
      split_ifs at h
      cases h
      exact .claim c _ (.inl rfl)
  | lockClaim c =>
      rw [gateStep] at h
      split at h
      · rename_i now hclaim hlock
        split_ifs at h with hmay
        · cases h
          exact .lock c now hclaim hlock (windowOpen_of_mayClaim hmay)
        · cases h
          exact .claim c _ (.inr rfl)
      · cases h
  | commitClaim c jobIds =>
      rw [gateStep] at h
      split at h
      · rename_i now hclaim
        cases h
        exact .commit c now jobIds hclaim
      · cases h
  | beginUpgrade u holder abortRunningJobs =>
      rw [gateStep] at h
      split_ifs at h with hnew
      cases h
      rw [Bool.not_eq_true, Option.isSome_eq_false_iff, Option.isNone_iff_eq_none] at hnew
      refine .goes u _ _ rfl (fun call' hcall' => ?_) ?_
      · rw [hnew] at hcall'
        cases hcall'
      · rw [hnew, enterUpgrade.eq_def]
        split
        · exact .refuses _
        · split_ifs
          · exact .refuses _
          · exact .enters
  | acquire u later configured =>
      rw [gateStep] at h
      obtain ⟨call, hcall, h⟩ := Option.bind_eq_some_iff.mp h
      split_ifs at h with hguard
      split at h
      · cases h
        refine .goes u call _ rfl (call_unique hcall) ?_
        rw [hcall, Option.map_some, hguard.1]
        exact .conflicts _
      · rename_i row hrow
        cases h
        obtain ⟨row', hrow', hholder⟩ := heldBy_of_acquire hrow
        cases hrow'
        refine .opens u call row later rfl hcall hguard.1 hguard.2.1 ?_ hholder hguard.2.2
        by_contra hopen
        rw [Bool.not_eq_false] at hopen
        rw [acquire_of_open hopen] at hrow
        cases hrow
  | checkActive u pendingIds =>
      rw [gateStep] at h
      obtain ⟨call, hcall, h⟩ := Option.bind_eq_some_iff.mp h
      split_ifs at h with hphase
      cases h
      refine .goes u call _ rfl (call_unique hcall) ?_
      rw [hcall, Option.map_some, hphase]
      exact checkActiveJobs_goes _ _
  | poll u timedOut =>
      rw [gateStep] at h
      obtain ⟨call, hcall, h⟩ := Option.bind_eq_some_iff.mp h
      split_ifs at h with hphase
      cases h
      refine .goes u call _ rfl (call_unique hcall) ?_
      rw [hcall, Option.map_some, hphase]
      exact pollActiveJobs_goes _
  | fail u =>
      rw [gateStep] at h
      obtain ⟨call, hcall, h⟩ := Option.bind_eq_some_iff.mp h
      split_ifs at h with hphase
      cases h
      refine .goes u call _ rfl (call_unique hcall) ?_
      rw [hcall, Option.map_some]
      refine .raises _ _ ?_
      cases hcallphase : call.phase <;> simp_all [UpgradePhase.mayFail, UpgradePhase.hasOpened]
  | finish u =>
      rw [gateStep] at h
      obtain ⟨call, hcall, h⟩ := Option.bind_eq_some_iff.mp h
      split_ifs at h with hphase
      cases h
      refine .goes u call _ rfl (call_unique hcall) ?_
      rw [hcall, Option.map_some, hphase]
      exact .returns
  | reject u =>
      rw [gateStep] at h
      obtain ⟨call, hcall, h⟩ := Option.bind_eq_some_iff.mp h
      split at h
      · rename_i e hphase
        split_ifs at h with hlock
        cases h
        exact .rejects u call e rfl hcall hphase hlock
      · cases h
  | endUpgrade u holder =>
      rw [gateStep] at h
      split_ifs at h with hlock
      cases h
      exact .ends u holder rfl hlock

/-- A release under the name in the row clears the window; under another name it does nothing. -/
theorem release_cases (s : GateState) (holder : String) :
    (heldBy s.host holder ∧ windowOf (s.release holder).host = some (none, "") ∧
        (s.release holder).opener = none) ∨
      (¬ heldBy s.host holder ∧ s.release holder = s) := by
  have hiff : heldBy s.host holder ↔ s.host.map UpgradeHost.maintenanceHolder = some holder := by
    rw [heldBy, Option.map_eq_some_iff]
  by_cases h : heldBy s.host holder
  · exact .inl ⟨h, release_of_heldBy h, if_pos (hiff.mp h)⟩
  · refine .inr ⟨h, ?_⟩
    rw [GateState.release, release_of_not_heldBy h, if_neg fun h' => h (hiff.mpr h')]

/-! ### The invariant -/

/-- What holds at every moment. -/
structure GateInv (hostId : String) (s : GateState) : Prop where
  started : ∀ c t, s.claims c = some (.started t) → t ≤ s.now
  locked : ∀ c t, s.claims c = some (.locked t) →
    s.lock = some c ∧ t ≤ s.now ∧ windowOpen s.host t = false
  opener : ∀ u, s.opener = some u → ∃ call, s.upgrades u = some call ∧
    heldBy s.host call.holder ∧ call.phase.hasOpened = true
  quiet : ∀ u call, s.opener = some u → s.upgrades u = some call →
    call.phase.hasPassed = true → windowOpen s.host s.now = true → JobsQuiet hostId s.jobs

/-- It holds at the start. -/
theorem GateState.Fresh.inv {s : GateState} (h : s.Fresh) (hostId : String) :
    GateInv hostId s where
  started c t hc := by
    rw [h.claims] at hc
    cases hc
  locked c t hc := by
    rw [h.claims] at hc
    cases hc
  opener u hu := by
    rw [h.opener] at hu
    cases hu
  quiet u call hu := by
    rw [h.opener] at hu
    cases hu

/-- While a window is open no claim is about to commit. -/
theorem GateInv.not_locked {hostId : String} {s : GateState} (h : GateInv hostId s)
    (hopen : windowOpen s.host s.now = true) (c : ℕ) (t : Time) :
    s.claims c ≠ some (.locked t) := by
  intro hc
  obtain ⟨-, hle, hclosed⟩ := h.locked c t hc
  rw [windowOpen_anti hle hopen] at hclosed
  cases hclosed

/-- Time may pass. -/
theorem GateInv.clock {hostId : String} {s : GateState} (h : GateInv hostId s) {t : Time}
    (ht : s.now ≤ t) : GateInv hostId { s with now := t } where
  started c t' hc := (h.started c t' hc).trans ht
  locked c t' hc := by
    obtain ⟨hlock, hle, hclosed⟩ := h.locked c t' hc
    exact ⟨hlock, hle.trans ht, hclosed⟩
  opener := h.opener
  quiet u call hu hcall hpassed hopen :=
    h.quiet u call hu hcall hpassed (windowOpen_anti ht hopen)

/-- The row may change, but for its window. -/
theorem GateInv.row {hostId : String} {s : GateState} (h : GateInv hostId s)
    {host : Option UpgradeHost} (hwindow : windowOf host = windowOf s.host) :
    GateInv hostId { s with host := host } where
  started := h.started
  locked c t hc := by
    obtain ⟨hlock, hle, hclosed⟩ := h.locked c t hc
    exact ⟨hlock, hle, (windowOpen_congr hwindow t).trans hclosed⟩
  opener u hu := by
    obtain ⟨call, hcall, hheld, hopened⟩ := h.opener u hu
    exact ⟨call, hcall, (heldBy_congr hwindow _).mpr hheld, hopened⟩
  quiet u call hu hcall hpassed hopen :=
    h.quiet u call hu hcall hpassed ((windowOpen_congr hwindow s.now).symm.trans hopen)

/-- Jobs may move when no job of a quiet host starts. -/
theorem GateInv.jobs {hostId : String} {s : GateState} (h : GateInv hostId s)
    {jobs : Table JobInstance} (hjobs : JobsQuiet hostId s.jobs → JobsQuiet hostId jobs) :
    GateInv hostId { s with jobs := jobs } where
  started := h.started
  locked := h.locked
  opener := h.opener
  quiet u call hu hcall hpassed hopen := hjobs (h.quiet u call hu hcall hpassed hopen)

/-- A claim may read the clock or give up. -/
theorem GateInv.claim {hostId : String} {s : GateState} (h : GateInv hostId s) {c : ℕ}
    {phase : ClaimPhase} (hphase : phase = .started s.now ∨ phase = .finished) :
    GateInv hostId (s.setClaim c phase) where
  started c' t hc := by
    change Function.update s.claims c (some phase) c' = _ at hc
    by_cases hne : c' = c
    · subst hne
      rw [Function.update_self] at hc
      rcases hphase with rfl | rfl
      · cases hc
        exact le_rfl
      · cases hc
    · rw [Function.update_of_ne hne] at hc
      exact h.started c' t hc
  locked c' t hc := by
    change Function.update s.claims c (some phase) c' = _ at hc
    by_cases hne : c' = c
    · subst hne
      rw [Function.update_self] at hc
      rcases hphase with rfl | rfl <;> cases hc
    · rw [Function.update_of_ne hne] at hc
      exact h.locked c' t hc
  opener := h.opener
  quiet := h.quiet

/-- A claim that saw no open window may lock the row. -/
theorem GateInv.lock {hostId : String} {s : GateState} (h : GateInv hostId s) {c : ℕ} {now : Time}
    (hclaim : s.claims c = some (.started now)) (hlock : s.lock = none)
    (hclosed : windowOpen s.host now = false) :
    GateInv hostId { s.setClaim c (.locked now) with lock := some c } where
  started c' t hc := by
    change Function.update s.claims c (some (.locked now)) c' = _ at hc
    by_cases hne : c' = c
    · subst hne
      rw [Function.update_self] at hc
      cases hc
    · rw [Function.update_of_ne hne] at hc
      exact h.started c' t hc
  locked c' t hc := by
    change Function.update s.claims c (some (.locked now)) c' = _ at hc
    by_cases hne : c' = c
    · subst hne
      rw [Function.update_self] at hc
      cases hc
      exact ⟨rfl, h.started c' now hclaim, hclosed⟩
    · rw [Function.update_of_ne hne] at hc
      have hheld := (h.locked c' t hc).1
      rw [hlock] at hheld
      cases hheld
  opener := h.opener
  quiet := h.quiet

/-- A claim may commit. -/
theorem GateInv.commit {hostId : String} {s : GateState} (h : GateInv hostId s) {c : ℕ}
    {now : Time} (jobIds : List ℕ) (hclaim : s.claims c = some (.locked now)) :
    GateInv hostId { s.setClaim c .finished with
      lock := none, jobs := claimPending s.jobs jobIds hostId now } where
  started := (h.claim (.inr rfl)).started
  locked c' t hc := by
    change Function.update s.claims c (some .finished) c' = _ at hc
    by_cases hne : c' = c
    · subst hne
      rw [Function.update_self] at hc
      cases hc
    · rw [Function.update_of_ne hne] at hc
      have hheld := (h.locked c' t hc).1
      rw [(h.locked c now hclaim).1] at hheld
      exact absurd (Option.some.inj hheld).symm hne
  opener := h.opener
  quiet u call hu hcall hpassed hopen := absurd hclaim (h.not_locked hopen c now)

/-- Only a call that found no active job gets past the drain. -/
theorem PhaseGoes.passed {quiet : Prop} {before : Option UpgradePhase} {phase : UpgradePhase}
    (h : PhaseGoes quiet before phase) (hpassed : phase.hasPassed = true) :
    quiet ∨ before = some .passed := by
  cases h with
  | passes _ _ hquiet => exact .inl hquiet
  | returns => exact .inr rfl
  | enters | refuses | conflicts | drains | raises => cases hpassed

/-- A call that has opened the window stays so until it releases it. -/
theorem PhaseGoes.opened {quiet : Prop} {before phase : UpgradePhase}
    (h : PhaseGoes quiet (some before) phase) (hopened : before.hasOpened = true) :
    phase.hasOpened = true := by
  cases h with
  | conflicts => cases hopened
  | passes | drains | raises | returns => rfl

/-- An upgrade may go on. -/
theorem GateInv.goes {hostId : String} {s : GateState} (h : GateInv hostId s) {u : ℕ}
    {call : UpgradeCall} {phase : UpgradePhase}
    (hcall : ∀ call', s.upgrades u = some call' → call' = call)
    (hgoes : PhaseGoes (JobsQuiet hostId s.jobs) ((s.upgrades u).map UpgradeCall.phase) phase) :
    GateInv hostId (s.setUpgrade u call phase) where
  started := h.started
  locked := h.locked
  opener u' hu := by
    obtain ⟨call', hcall', hheld, hopened⟩ := h.opener u' hu
    by_cases hne : u' = u
    · subst hne
      obtain rfl := hcall call' hcall'
      rw [hcall', Option.map_some] at hgoes
      exact ⟨{ call' with phase := phase }, Function.update_self .., hheld, hgoes.opened hopened⟩
    · exact ⟨call', (Function.update_of_ne hne ..).trans hcall', hheld, hopened⟩
  quiet u' call' hu hcall' hpassed hopen := by
    change Function.update s.upgrades u _ u' = _ at hcall'
    by_cases hne : u' = u
    · subst hne
      rw [Function.update_self] at hcall'
      cases hcall'
      rcases hgoes.passed hpassed with hquiet | hbefore
      · exact hquiet
      · obtain ⟨old, hold, hphase⟩ := Option.map_eq_some_iff.mp hbefore
        exact h.quiet u' old hu hold (hphase ▸ rfl) hopen
    · rw [Function.update_of_ne hne] at hcall'
      exact h.quiet u' call' hu hcall' hpassed hopen

/-- An upgrade may open the window. -/
theorem GateInv.opens {hostId : String} {s : GateState} (h : GateInv hostId s) {u : ℕ}
    {call : UpgradeCall} {row : UpgradeHost} {later : Time} (hlock : s.lock = none)
    (hholder : row.maintenanceHolder = call.holder) (hlater : s.now ≤ later) :
    GateInv hostId
      { s.setUpgrade u call .opened with now := later, host := some row, opener := some u } where
  started c t hc := (h.started c t hc).trans hlater
  locked c t hc := by
    have hheld := (h.locked c t hc).1
    rw [hlock] at hheld
    cases hheld
  opener u' hu := by
    cases hu
    exact ⟨_, Function.update_self .., ⟨row, rfl, hholder⟩, rfl⟩
  quiet u' call' hu hcall' hpassed := by
    cases hu
    change Function.update s.upgrades u _ u = _ at hcall'
    rw [Function.update_self] at hcall'
    cases hcall'
    cases hpassed

/-- A window may be released. -/
theorem GateInv.release {hostId : String} {s : GateState} (h : GateInv hostId s)
    (hlock : s.lock = none) (holder : String) : GateInv hostId (s.release holder) := by
  rcases release_cases s holder with ⟨-, -, hopener⟩ | ⟨-, hsame⟩
  · refine ⟨h.started, fun c t hc => ?_, fun u hu => ?_, fun u call hu => ?_⟩
    · have hheld := (h.locked c t hc).1
      rw [hlock] at hheld
      cases hheld
    · rw [hopener] at hu
      cases hu
    · rw [hopener] at hu
      cases hu
  · rw [hsame]
    exact h

/-- A call that raised may be refused, once the window is no longer its own. -/
theorem GateInv.refused {hostId : String} {s : GateState} (h : GateInv hostId s) {u : ℕ}
    (call : UpgradeCall) (e : UpgradeError) (hopener : s.opener ≠ some u) :
    GateInv hostId (s.setUpgrade u call (.rejected e)) where
  started := h.started
  locked := h.locked
  opener u' hu := by
    have hne : u' ≠ u := fun heq => hopener (heq ▸ hu)
    obtain ⟨call', hcall', hrest⟩ := h.opener u' hu
    exact ⟨call', (Function.update_of_ne hne ..).trans hcall', hrest⟩
  quiet u' call' hu hcall' := by
    have hne : u' ≠ u := fun heq => hopener (heq ▸ hu)
    change Function.update s.upgrades u _ u' = _ at hcall'
    rw [Function.update_of_ne hne] at hcall'
    exact h.quiet u' call' hu hcall'

/-- The release of a call that raised takes its own window away. -/
theorem GateInv.not_opener_of_release {hostId : String} {s : GateState} (h : GateInv hostId s)
    {u : ℕ} {call : UpgradeCall} (hcall : s.upgrades u = some call) :
    (s.release call.holder).opener ≠ some u := by
  intro hu
  rcases release_cases s call.holder with ⟨-, -, hopener⟩ | ⟨hnot, hsame⟩
  · rw [hopener] at hu
    cases hu
  · rw [hsame] at hu
    obtain ⟨call', hcall', hheld, -⟩ := h.opener u hu
    obtain rfl := call_unique hcall call' hcall'
    exact hnot hheld

/-- **Every step keeps it.** -/
theorem GateInv.step {hostId : String} {s s' : GateState} {op : GateOp} (h : GateInv hostId s)
    (hstep : GateStep hostId s op s') : GateInv hostId s' := by
  cases gateEffect_of_step hstep with
  | clock t ht => exact h.clock ht
  | row host hwindow => exact h.row hwindow
  | jobs jobs hjobs => exact h.jobs hjobs
  | claim c phase hphase => exact h.claim hphase
  | lock c now hclaim hlock hclosed => exact h.lock hclaim hlock hclosed
  | commit c now jobIds hclaim => exact h.commit jobIds hclaim
  | goes u call phase _ hcall hgoes => exact h.goes hcall hgoes
  | opens u call row later _ _ _ hlock _ hholder hlater => exact h.opens hlock hholder hlater
  | rejects u call e _ hcall _ hlock =>
      exact (h.release hlock _).refused call e (h.not_opener_of_release hcall)
  | ends u holder _ hlock => exact h.release hlock holder

/-! ### What upgrades can rely on -/

/-- Where a call is. -/
def GateState.phaseOf (s : GateState) (u : ℕ) : Option UpgradePhase :=
  (s.upgrades u).map UpgradeCall.phase

/-- As long as the window of a call that has returned is open, no job of the host runs. -/
def HostQuiet (hostId : String) (s : GateState) : Prop :=
  ∀ u, s.opener = some u → s.phaseOf u = some .returned → windowOpen s.host s.now = true →
    ∀ job ∈ s.jobs.rows, job.hostId = some hostId → job.status ≠ .running

/-- An open window stays that of the call that opened it, unless the step ends this call. -/
def OnlyOwnEnd (s : GateState) (op : GateOp) (s' : GateState) : Prop :=
  ∀ u, s.opener = some u → windowOpen s.host s.now = true →
    (windowOf s'.host = windowOf s.host ∧ s'.opener = some u) ∨
      op = .reject u ∨ ∃ holder, op = .endUpgrade u holder

/-- An open window stays that of the call that opened it, unless the step releases it under the
name of this call. -/
def WindowKept (s : GateState) (op : GateOp) (s' : GateState) : Prop :=
  ∀ u call, s.opener = some u → s.upgrades u = some call → windowOpen s.host s.now = true →
    (windowOf s'.host = windowOf s.host ∧ s'.opener = some u) ∨ op.releases? s = some call.holder

/-- A call that is refused before it opened a window leaves the row; one that had opened a window
clears the row if the row still shows its name, which it does as long as the window is its own,
and otherwise leaves it. No other step of a call but the one that opens the window changes it. -/
structure RefusalLeaves (s : GateState) (op : GateOp) (s' : GateState) : Prop where
  unopened : ∀ u e, s.phaseOf u ≠ some (.rejected e) → s'.phaseOf u = some (.rejected e) →
    (s.phaseOf u).any UpgradePhase.hasOpened = false → windowOf s'.host = windowOf s.host
  opened : ∀ u e call, s'.phaseOf u = some (.rejected e) → s.upgrades u = some call →
    call.phase.hasOpened = true →
    (heldBy s.host call.holder ∧ windowOf s'.host = some (none, "")) ∨
      (¬ heldBy s.host call.holder ∧ s.opener ≠ some u ∧ windowOf s'.host = windowOf s.host)
  meanwhile : ∀ u, op.upgrade? = some u → s'.phaseOf u ≠ some .opened →
    (∀ e, s'.phaseOf u ≠ some (.rejected e)) → windowOf s'.host = windowOf s.host

/-- Where a call is that was just put somewhere. -/
theorem phaseOf_setUpgrade (s : GateState) (u v : ℕ) (call : UpgradeCall) (phase : UpgradePhase) :
    (s.setUpgrade u call phase).phaseOf v = if v = u then some phase else s.phaseOf v := by
  rw [GateState.phaseOf, GateState.setUpgrade]
  dsimp only
  split_ifs with h
  · rw [h, Function.update_self]
    rfl
  · rw [Function.update_of_ne h]
    rfl

/-- A step that leaves the window and the openings is safe. -/
theorem RefusalLeaves.of_same {s s' : GateState} {op : GateOp}
    (hwindow : windowOf s'.host = windowOf s.host)
    (hphase : ∀ u e, s'.phaseOf u = some (.rejected e) →
      (s.phaseOf u).any UpgradePhase.hasOpened = false) : RefusalLeaves s op s' where
  unopened _ _ _ _ _ := hwindow
  opened u e call hrejected hcall hopened := by
    have hnot := hphase u e hrejected
    rw [GateState.phaseOf, hcall, Option.map_some, Option.any_some, hopened] at hnot
    cases hnot
  meanwhile _ _ _ _ := hwindow

/-- A refusal that is there already was not opened. -/
theorem any_hasOpened_of_rejected {s : GateState} {u : ℕ} {e : UpgradeError}
    (h : s.phaseOf u = some (.rejected e)) :
    (s.phaseOf u).any UpgradePhase.hasOpened = false := by
  rw [h]
  rfl

/-- A call that goes on is refused only before it opened a window. -/
theorem PhaseGoes.refused {quiet : Prop} {before : Option UpgradePhase} {e : UpgradeError}
    (h : PhaseGoes quiet before (.rejected e)) : before.any UpgradePhase.hasOpened = false := by
  cases h with
  | refuses | conflicts => rfl

/-- A row names one holder. -/
theorem heldBy_unique {host : Option UpgradeHost} {holder holder' : String}
    (h : heldBy host holder) (h' : heldBy host holder') : holder = holder' := by
  obtain ⟨row, rfl, rfl⟩ := h
  obtain ⟨row', hrow, rfl⟩ := h'
  cases hrow
  rfl

/-- Every step keeps an open window, or releases it under its name. -/
theorem GateInv.windowKept {hostId : String} {s s' : GateState} {op : GateOp}
    (h : GateInv hostId s) (hstep : GateStep hostId s op s') : WindowKept s op s' := by
  intro u call hu hcall hopen
  have hown : heldBy s.host call.holder := by
    obtain ⟨call', hcall', hheld, -⟩ := h.opener u hu
    obtain rfl := call_unique hcall call' hcall'
    exact hheld
  cases gateEffect_of_step hstep with
  | clock | jobs | claim | lock | commit | goes => exact .inl ⟨rfl, hu⟩
  | row host hwindow => exact .inl ⟨hwindow, hu⟩
  | opens _ _ _ _ _ _ _ _ hclosed =>
      rw [hopen] at hclosed
      cases hclosed
  | rejects v call' e hop hcall' =>
      rcases release_cases s call'.holder with ⟨hheld, -, -⟩ | ⟨-, hsame⟩
      · rw [hop, GateOp.releases?, hcall', Option.map_some, heldBy_unique hheld hown]
        exact .inr rfl
      · rw [hsame]
        exact .inl ⟨rfl, hu⟩
  | ends v holder hop =>
      rcases release_cases s holder with ⟨hheld, -, -⟩ | ⟨-, hsame⟩
      · rw [hop, GateOp.releases?, heldBy_unique hheld hown]
        exact .inr rfl
      · rw [hsame]
        exact .inl ⟨rfl, hu⟩

/-- A refused call leaves the row, or clears its own window. -/
theorem GateInv.refusalLeaves {hostId : String} {s s' : GateState} {op : GateOp}
    (h : GateInv hostId s) (hstep : GateStep hostId s op s') : RefusalLeaves s op s' := by
  cases gateEffect_of_step hstep with
  | clock | jobs | claim | lock | commit =>
      exact .of_same rfl fun u e hrejected => any_hasOpened_of_rejected (s := s) hrejected
  | row host hwindow =>
      exact .of_same hwindow fun u e hrejected => any_hasOpened_of_rejected (s := s) hrejected
  | goes u call phase _ _ hgoes =>
      refine .of_same rfl fun v e hrejected => ?_
      rw [phaseOf_setUpgrade] at hrejected
      split_ifs at hrejected with hv
      · cases hrejected
        rw [hv]
        exact hgoes.refused
      · exact any_hasOpened_of_rejected hrejected
  | opens u call row later hop hcall hphase =>
      have hphases : ∀ v, GateState.phaseOf { s.setUpgrade u call .opened with
          now := later, host := some row, opener := some u } v =
            if v = u then some .opened else s.phaseOf v :=
        fun v => phaseOf_setUpgrade s u v call .opened
      refine ⟨fun v e hbefore hrejected => ?_, fun v e call' hrejected hcall' hopened => ?_,
        fun v hv hnot => ?_⟩
      · rw [hphases] at hrejected
        split_ifs at hrejected
        · cases hrejected
        · exact absurd hrejected hbefore
      · rw [hphases] at hrejected
        split_ifs at hrejected
        · cases hrejected
        · have hunopened := any_hasOpened_of_rejected hrejected
          rw [GateState.phaseOf, hcall', Option.map_some, Option.any_some, hopened] at hunopened
          cases hunopened
      · rw [hop] at hv
        obtain rfl := Option.some.inj hv
        exact absurd (by rw [hphases, if_pos rfl]) hnot
  | rejects u call e hop hcall hphase =>
      have hphases : ∀ v, ((s.release call.holder).setUpgrade u call (.rejected e)).phaseOf v =
          if v = u then some (.rejected e) else s.phaseOf v :=
        fun v => phaseOf_setUpgrade (s.release call.holder) u v call (.rejected e)
      have hopened : call.phase.hasOpened = true := by
        rw [hphase]
        rfl
      refine ⟨fun v e' hbefore hrejected hunopened => ?_,
        fun v e' call' hrejected hcall' hopened' => ?_, fun v hv _ hnot => ?_⟩
      · rw [hphases] at hrejected
        split_ifs at hrejected with hvu
        · rw [hvu, GateState.phaseOf, hcall, Option.map_some, Option.any_some, hopened] at hunopened
          cases hunopened
        · exact absurd hrejected hbefore
      · rw [hphases] at hrejected
        split_ifs at hrejected with hvu
        · subst hvu
          obtain rfl := call_unique hcall call' hcall'
          rcases release_cases s call'.holder with ⟨hheld, hcleared, -⟩ | ⟨hnot, hsame⟩
          · exact .inl ⟨hheld, hcleared⟩
          · refine .inr ⟨hnot, ?_, ?_⟩
            · rw [← hsame]
              exact h.not_opener_of_release hcall'
            · rw [hsame]
              rfl
        · have hunopened := any_hasOpened_of_rejected hrejected
          rw [GateState.phaseOf, hcall', Option.map_some, Option.any_some, hopened'] at hunopened
          cases hunopened
      · rw [hop] at hv
        obtain rfl := Option.some.inj hv
        exact absurd (by rw [hphases, if_pos rfl]) (hnot e)
  | ends u holder hop =>
      refine ⟨fun v e hbefore hrejected => absurd hrejected hbefore,
        fun v e call' hrejected hcall' hopened => ?_, fun v hv => ?_⟩
      · have hunopened := any_hasOpened_of_rejected (s := s) hrejected
        rw [GateState.phaseOf, hcall', Option.map_some, Option.any_some, hopened] at hunopened
        cases hunopened
      · rw [hop] at hv
        cases hv

/-- **An upgrade has the host to itself.** In any run of upgrades, ends, claims and anything else
that moves jobs, on a host whatever its row and its jobs are: while the window of an upgrade that
has returned is open no job of the host runs; an open window is not taken by another call, and it
is not released but under the name of the call that opened it; and a call that is refused leaves
the row or clears its own window. -/
theorem upgrade_window {hostId : String} {s₀ s : GateState} {tr : List (GateState × GateOp)}
    (hfresh : s₀.Fresh) (h : Run (GateStep hostId) s₀ tr s) :
    HostQuiet hostId s ∧
      ∀ op s', GateStep hostId s op s' → WindowKept s op s' ∧ RefusalLeaves s op s' := by
  have hinv : GateInv hostId s :=
    (h.invariant (fun hs hstep => GateInv.step hs hstep) (hfresh.inv hostId)).2
  refine ⟨fun u hu hphase hopen job hjob hhost => ?_, fun op s' hstep => ?_⟩
  · obtain ⟨call, hcall, hreturned⟩ := Option.map_eq_some_iff.mp hphase
    have hpassed : call.phase.hasPassed = true := by
      rw [hreturned]
      rfl
    exact (hinv.quiet u call hu hcall hpassed hopen job hjob hhost).1
  · exact ⟨hinv.windowKept hstep, hinv.refusalLeaves hstep⟩

namespace WindowExample

/-- A host that is online, and nothing else. -/
def start : GateState where
  now := 0
  host := some {
    status := .online, retiredAt := none, maintenanceUntil := none, maintenanceHolder := "" }
  jobs := Table.empty
  lock := none
  upgrades := fun _ => none
  claims := fun _ => none
  opener := none

/-- Nothing was called. -/
theorem start_fresh : start.Fresh := ⟨fun _ => rfl, fun _ => rfl, rfl, rfl⟩

/-- A call that returns. -/
def upgrade (u : ℕ) (t : Time) : List GateOp :=
  [.beginUpgrade u "ansible" false, .acquire u t none, .checkActive u [], .finish u]

/-- A call returns, its window expires, and another call under the same name returns. -/
def ops : List GateOp := upgrade 1 0 ++ .advance 900000000 :: upgrade 2 900000000

/-- The state after these steps. -/
def reopened : GateState := (ops.foldlM (gateStep "host") start).getD start

/-- The steps are possible. -/
theorem ops_run : Run (GateStep "host") start (traceOf (gateStep "host") start ops) reopened := by
  refine Run.of_foldlM (Option.eq_some_of_isSome (o := ops.foldlM (gateStep "host") start) ?_)
  rfl

/-- The second call has returned, and its window is open. -/
theorem reopened_open : reopened.opener = some 2 ∧ reopened.phaseOf 2 = some .returned ∧
    windowOpen reopened.host reopened.now = true := by decide +kernel

/-- It can rely on its window. -/
theorem upgrade_window_reopened :
    (reopened.opener = some 2 ∧ windowOpen reopened.host reopened.now = true) ∧
      HostQuiet "host" reopened ∧ ∀ op s', GateStep "host" reopened op s' →
        WindowKept reopened op s' ∧ RefusalLeaves reopened op s' :=
  ⟨⟨reopened_open.1, reopened_open.2.2⟩, upgrade_window start_fresh ops_run⟩

/-- The state after the first call is ended at last. -/
def ended : GateState := (gateStep "host" reopened (.endUpgrade 1 "ansible")).getD reopened

/-- **A late end under the same name.** The first call is ended after its window expired, and the
window of the second is gone. -/
theorem late_end : ¬ ∀ {hostId : String} {s₀ s s' : GateState} {tr : List (GateState × GateOp)}
    {op : GateOp}, s₀.Fresh → Run (GateStep hostId) s₀ tr s → GateStep hostId s op s' →
    OnlyOwnEnd s op s' := by
  intro h
  have hstep : GateStep "host" reopened (.endUpgrade 1 "ansible") ended :=
    Option.eq_some_of_isSome (o := gateStep "host" reopened (.endUpgrade 1 "ansible")) rfl
  rcases h start_fresh ops_run hstep 2 reopened_open.1 reopened_open.2.2 with
    ⟨-, hopener⟩ | hop | ⟨holder, hop⟩
  · revert hopener
    decide +kernel
  · cases hop
  · cases hop

end WindowExample

end StabilityPlatform
