import StabilityPlatform.PlanRun.Admission

/-!
# What an admission counts

An admission makes one job for every target it keeps and one for every rejected target, and the
run counts them all. The rows of the hosts count the kept targets only, while aggregation counts
the ended jobs of a host whichever way they were made.

## Main results

* `admit_spec`: what an admission leaves behind.
* `admission_consistent_iff`: **the counts agree** when no rejected target is on a host of the run.
-/

namespace StabilityPlatform

open Lib

/-! ### Jobs -/

/-- What a job was made for, where, and how it stands. -/
def JobInstance.kind (job : JobInstance) : ℕ × ℕ × Option String × JobStatus :=
  (job.planRunId, job.deviceId, job.hostId, job.status)

/-- **A job that is added** is added at the end. -/
theorem addJob_spec {jobs jobs' : Table JobInstance} {planRunId deviceId : ℕ}
    {hostId statusReason : Option String} {status : JobStatus} {pipelineDef : PyVal}
    {startedAt endedAt : Option Time} {now : Time}
    (h : addJob jobs planRunId deviceId hostId status statusReason pipelineDef startedAt endedAt
      now = .ok jobs') :
    ∃ job, jobs'.rows = jobs.rows ++ [job] ∧ job.kind = (planRunId, deviceId, hostId, status) := by
  rw [addJob] at h
  split at h
  · cases h
  · split at h
    · cases h
    · cases h
      exact ⟨_, rfl, rfl⟩

/-! ### Targets that are kept -/

section Steps

variable {core : LifecycleCore} {now : Time} {db db' : AdmissionDb} {run run' : PlanRunRow}

/-- **The jobs of the kept targets.** -/
theorem materializeJobs_spec {lifecycle : PyVal} {deviceIds : List ℕ}
    {hostMap : List (ℕ × String)}
    (h : materializeJobsAndAllocations core now db run lifecycle deviceIds hostMap =
      .ok (run', db')) :
    run' = { run with totalJobCount := deviceIds.length } ∧
      ∃ made, db'.view.db.jobs.rows = db.view.db.jobs.rows ++ made ∧
        made.map JobInstance.kind =
          deviceIds.map fun did : ℕ => (run.id, did, hostMap.lookup did, .pending) := by
  rw [materializeJobsAndAllocations] at h
  obtain ⟨assignments, -, h⟩ := Except.bind_eq_ok_iff.mp h
  obtain ⟨suiteParams, -, h⟩ := Except.bind_eq_ok_iff.mp h
  obtain ⟨pipelines, hpipelines, h⟩ := Except.bind_eq_ok_iff.mp h
  obtain ⟨jobs, hjobs, h⟩ := Except.bind_eq_ok_iff.mp h
  cases h
  have hlength : deviceIds.length ≤ pipelines.length := (length_of_mapM hpipelines).ge
  obtain ⟨made, hmade, hkinds⟩ := foldlM_appends Table.rows JobInstance.kind
    (fun p : ℕ × PyVal => (run.id, p.1, hostMap.lookup p.1, JobStatus.pending))
    (fun hstep => addJob_spec hstep) hjobs
  refine ⟨rfl, made, hmade, hkinds.trans ?_⟩
  have hfst : (deviceIds.zip pipelines).map Prod.fst = deviceIds :=
    List.map_fst_zip hlength
  conv_rhs => rw [← hfst, List.map_map]
  rfl

/-! ### Rejected targets -/

/-- **The jobs of the rejected targets.** -/
theorem materializeSerialRejected_spec
    (h : materializeSerialRejectedJobs core now db run = .ok (run', db')) :
    ∃ rejected, rejectedTargets run = .ok rejected ∧
      run'.totalJobCount = run.totalJobCount + rejected.length ∧
      ∃ made, db'.view.db.jobs.rows = db.view.db.jobs.rows ++ made ∧
        made.map JobInstance.kind =
          rejected.map fun e : ℕ × Option String => (run.id, e.1, e.2, .failed) := by
  rw [materializeSerialRejectedJobs] at h
  obtain ⟨rejected, hrejected, h⟩ := Except.bind_eq_ok_iff.mp h
  refine ⟨rejected, hrejected, ?_⟩
  split at h
  · rename_i hempty
    cases h
    rw [List.isEmpty_iff.mp hempty]
    exact ⟨rfl, [], (List.append_nil _).symm, rfl⟩
  · split at h
    · cases h
    · obtain ⟨jobs, hjobs, h⟩ := Except.bind_eq_ok_iff.mp h
      cases h
      obtain ⟨made, hmade, hkinds⟩ := foldlM_appends Table.rows JobInstance.kind
        (fun e : ℕ × Option String => (run.id, e.1, e.2, JobStatus.failed))
        (fun hstep => addJob_spec hstep) hjobs
      exact ⟨rfl, made, hmade, hkinds⟩

/-! ### The whole transaction -/

/-- The targets that are kept are among all of them. -/
theorem keptTargets_spec {runType : String} {unavailable : List Unavailable}
    {all targets : List PlanRunTargetDevice} {excluded : Option (List Unavailable)}
    (h : keptTargets runType unavailable all = .ok (targets, excluded)) :
    ∃ p : PlanRunTargetDevice → Bool, targets = all.filter p := by
  rw [keptTargets] at h
  split at h
  · cases h
    exact ⟨fun _ => true, (List.filter_true _).symm⟩
  · split at h
    · dsimp only at h
      split at h
      · cases h
      · cases h
        exact ⟨_, rfl⟩
    · cases h

/-- Targets that have not drifted are on the hosts they were on. -/
theorem lookup_of_checkDrift {hostMap : List (ℕ × String)} {targets : List PlanRunTargetDevice}
    (h : checkDrift hostMap targets = .ok ()) {t : PlanRunTargetDevice} (ht : t ∈ targets) :
    hostMap.lookup t.deviceId = some t.hostIdSnapshot := by
  by_contra hdrift
  rw [checkDrift] at h
  split at h
  · rename_i hnone
    have hmem : t ∈ targets.filter fun t => hostMap.lookup t.deviceId ≠ some t.hostIdSnapshot := by
      rw [List.mem_filter]
      exact ⟨ht, decide_eq_true hdrift⟩
    rw [List.isEmpty_iff.mp hnone] at hmem
    cases hmem
  · cases h

/-- The rows of the kept targets stay, and no others. -/
theorem perm_filter_contains {all rows targets : List PlanRunTargetDevice}
    {p : PlanRunTargetDevice → Bool} (hall : all.Perm rows) (htargets : targets = all.filter p) :
    (rows.filter fun t => targets.contains t).Perm targets := by
  have hsame : rows.filter (fun t => targets.contains t) = rows.filter p := by
    refine List.filter_congr fun t ht => ?_
    have hmem : t ∈ all := hall.mem_iff.mpr ht
    rw [htargets, List.contains_eq_mem, Bool.eq_iff_iff, decide_eq_true_eq, List.mem_filter]
    exact ⟨fun h => h.2, fun h => ⟨hmem, h⟩⟩
  rw [hsame, htargets]
  exact (hall.filter p).symm

/-- What an admission leaves behind: jobs for the kept and for the rejected targets, a run that
counts all of them, and hosts that count the kept ones. -/
structure Admitted (db db' : AdmissionDb) (run : PlanRunRow)
    (rejected : List (ℕ × Option String)) : Prop where
  entries : rejectedTargets run = .ok rejected
  targets : db'.targets.Sublist db.targets
  jobs : ∃ made, db'.view.db.jobs.rows = db.view.db.jobs.rows ++ made ∧
    (made.map JobInstance.kind).Perm
      ((db'.targets.map fun t => (run.id, t.deviceId, some t.hostIdSnapshot, .pending)) ++
        rejected.map fun e : ℕ × Option String => (run.id, e.1, e.2, .failed))
  total : ∃ run', db'.run = some run' ∧
    run'.totalJobCount = db'.targets.length + rejected.length
  hosts : db'.runHosts.map (fun h => (h.hostId, h.totalJobCount)) =
    db.runHosts.map fun h =>
      (h.hostId, (db'.targets.filter fun t => t.hostIdSnapshot == h.hostId).length)

/-- A transition changes the status only. -/
theorem totalJobCount_transition {status : PlanRunStatus} (h : run.transition status = some run') :
    run'.totalJobCount = run.totalJobCount := by
  obtain ⟨-, rfl⟩ := PlanRunRow.transition_eq_some h
  rfl

/-- **What an admission leaves behind.** -/
theorem admit_spec {attemptId : String} (hrun : db.run = some run)
    (h : admitRun core now attemptId db = .ok db') : ∃ rejected, Admitted db db' run rejected := by
  rw [admitRun] at h
  obtain ⟨owned, howned, h⟩ := Except.bind_eq_ok_iff.mp h
  have hown : run = owned := by
    rw [ownedRun, hrun] at howned
    dsimp only at howned
    split at howned
    · cases howned
      rfl
    · cases howned
  subst hown
  dsimp only at h
  split at h
  · cases h
  · obtain ⟨-, -, h⟩ := Except.bind_eq_ok_iff.mp h
    obtain ⟨⟨targets, excluded⟩, hkept, h⟩ := Except.bind_eq_ok_iff.mp h
    obtain ⟨⟨⟩, hdrift, h⟩ := Except.bind_eq_ok_iff.mp h
    split at h
    · cases h
    · split at h
      · cases h
      · rename_i run₁ made₁ hmade₁
        split at h
        · cases h
        · rename_i run₂ made₂ hmade₂
          split at h
          · cases h
          · rename_i run₃ hmove
            cases h
            obtain ⟨rfl, madeKept, hrowsKept, hkindsKept⟩ := materializeJobs_spec hmade₁
            obtain ⟨rejected, hrejected, htotal, madeFailed, hrowsFailed, hkindsFailed⟩ :=
              materializeSerialRejected_spec hmade₂
            obtain ⟨p, htargets⟩ := keptTargets_spec hkept
            have hperm := perm_filter_contains (List.perm_insertionSort _ db.targets) htargets
            refine ⟨rejected, hrejected, List.filter_sublist, ⟨madeKept ++ madeFailed, ?_, ?_⟩,
              ⟨_, rfl, ?_⟩, ?_⟩
            · change made₂.view.db.jobs.rows = _
              rw [hrowsFailed, hrowsKept, List.append_assoc]
            · rw [List.map_append, hkindsKept, hkindsFailed, List.map_map]
              refine List.Perm.append_right _ ?_
              have hplaces : targets.map ((fun did : ℕ => (run.id, did,
                  (List.filter _ _ : List (ℕ × String)).lookup did, JobStatus.pending)) ∘
                    PlanRunTargetDevice.deviceId) =
                  targets.map fun t => (run.id, t.deviceId, some t.hostIdSnapshot, .pending) :=
                List.map_congr_left fun t ht => by
                  rw [Function.comp_apply, lookup_of_checkDrift hdrift ht]
              rw [hplaces]
              exact (hperm.map _).symm
            · change run₃.totalJobCount = _
              rw [totalJobCount_transition hmove, htotal]
              change (targets.map PlanRunTargetDevice.deviceId).length + _ = _
              rw [List.length_map, hperm.length_eq]
            · rw [List.map_map]
              refine List.map_congr_left fun h _ => Prod.ext rfl ?_
              change ((targets.map PlanRunTargetDevice.deviceId).filter fun did =>
                (List.filter _ _ : List (ℕ × String)).lookup did == some h.hostId).length = _
              rw [List.filter_map, List.length_map]
              have hsame : targets.filter ((fun did => (List.filter _ _ :
                  List (ℕ × String)).lookup did == some h.hostId) ∘
                    PlanRunTargetDevice.deviceId) =
                  targets.filter fun t => t.hostIdSnapshot == h.hostId :=
                List.filter_congr fun t ht => by
                  rw [Function.comp_apply, lookup_of_checkDrift hdrift ht]
                  rfl
              rw [hsame]
              exact ((hperm.filter _).length_eq).symm

end Steps

/-! ### The counts -/

/-- The jobs of a plan run on a host. -/
def AdmissionDb.jobsOn (db : AdmissionDb) (runId : ℕ) (host : String) : List JobInstance :=
  (db.jobsOf runId).filter fun job => job.hostId == some host

/-- Every host counts the jobs of the run on it. -/
def AdmissionDb.HostsCount (db : AdmissionDb) (runId : ℕ) : Prop :=
  ∀ h ∈ db.runHosts, h.totalJobCount = (db.jobsOn runId h.hostId).length

/-- However the jobs stand later, aggregation counts no more ended jobs on a host than it has. -/
def AdmissionDb.RecountsWithin (db : AdmissionDb) (runId : ℕ) : Prop :=
  ∀ later : JobInstance → JobStatus, ∀ h ∈ db.runHosts,
    (recountHostCounters ((db.jobsOn runId h.hostId).map later) h).terminalJobCount ≤
      h.totalJobCount

/-- Aggregation counts some of the jobs it looks at. -/
theorem terminalJobCount_recount_le (jobs : List JobStatus) (h : PlanRunHost) :
    (recountHostCounters jobs h).terminalJobCount ≤ jobs.length := by
  induction jobs with
  | nil => exact le_refl 0
  | cons status rest ih =>
      simp only [recountHostCounters, List.count_cons, List.length_cons] at ih ⊢
      cases status with
      | pending => simpa using Nat.le_succ_of_le ih
      | running => simpa using Nat.le_succ_of_le ih
      | unknown => simpa using Nat.le_succ_of_le ih
      | completed => simp; omega
      | failed => simp; omega
      | aborted => simp; omega

section Counts

variable {db db' : AdmissionDb} {run : PlanRunRow} {rejected : List (ℕ × Option String)}

/-- **The jobs of the run** are those of the kept and of the rejected targets, when it had none
before. -/
theorem Admitted.perm_jobsOf (h : Admitted db db' run rejected) (hnone : db.jobsOf run.id = []) :
    ((db'.jobsOf run.id).map JobInstance.kind).Perm
      ((db'.targets.map fun t => (run.id, t.deviceId, some t.hostIdSnapshot, .pending)) ++
        rejected.map fun e : ℕ × Option String => (run.id, e.1, e.2, .failed)) := by
  obtain ⟨made, hrows, hkinds⟩ := h.jobs
  have hown : ∀ job ∈ made, (job.planRunId == run.id) = true := by
    intro job hjob
    have hmem := hkinds.mem_iff.mp (List.mem_map_of_mem (f := JobInstance.kind) hjob)
    rcases List.mem_append.mp hmem with hmem | hmem
    · obtain ⟨t, -, ht⟩ := List.mem_map.mp hmem
      exact beq_iff_eq.mpr (congrArg Prod.fst ht).symm
    · obtain ⟨e, -, he⟩ := List.mem_map.mp hmem
      exact beq_iff_eq.mpr (congrArg Prod.fst he).symm
  have hmade : db'.jobsOf run.id = made := by
    rw [AdmissionDb.jobsOf, Table.select] at hnone ⊢
    rw [hrows, List.filter_append, hnone, List.filter_eq_self.mpr hown, List.nil_append]
  rw [hmade]
  exact hkinds

/-- How many jobs the run has on a host. -/
theorem Admitted.length_jobsOn (h : Admitted db db' run rejected) (hnone : db.jobsOf run.id = [])
    (host : String) :
    (db'.jobsOn run.id host).length =
      (db'.targets.filter fun t => t.hostIdSnapshot == host).length +
        (rejected.filter fun e => e.2 == some host).length := by
  have hplace : (fun job : JobInstance => job.hostId == some host) =
      (fun k : ℕ × ℕ × Option String × JobStatus => k.2.2.1 == some host) ∘ JobInstance.kind := rfl
  have hcount := ((h.perm_jobsOf hnone).filter fun k => k.2.2.1 == some host).length_eq
  rw [List.filter_map, List.length_map, ← hplace, List.filter_append, List.length_append,
    List.filter_map, List.filter_map, List.length_map, List.length_map] at hcount
  exact hcount

/-- What a host counts are the kept targets on it. -/
theorem Admitted.totalJobCount_host (h : Admitted db db' run rejected) {host : PlanRunHost}
    (hhost : host ∈ db'.runHosts) :
    host.totalJobCount =
      (db'.targets.filter fun t => t.hostIdSnapshot == host.hostId).length := by
  have hmem := List.mem_map_of_mem (f := fun h : PlanRunHost => (h.hostId, h.totalJobCount)) hhost
  rw [h.hosts] at hmem
  obtain ⟨host₀, -, heq⟩ := List.mem_map.mp hmem
  obtain ⟨hid, hcount⟩ := Prod.ext_iff.mp heq
  exact hcount.symm.trans (by rw [show host₀.hostId = host.hostId from hid])

/-- No rejected target is on a host of the run. -/
def RejectedElsewhere (db : AdmissionDb) (rejected : List (ℕ × Option String)) : Prop :=
  ∀ e ∈ rejected, ∀ h ∈ db.runHosts, e.2 ≠ some h.hostId

/-- The hosts of a run stay. -/
theorem Admitted.rejectedElsewhere_iff (h : Admitted db db' run rejected) :
    RejectedElsewhere db rejected ↔
      ∀ host ∈ db'.runHosts, (rejected.filter fun e => e.2 == some host.hostId).length = 0 := by
  have hids : db'.runHosts.map PlanRunHost.hostId = db.runHosts.map PlanRunHost.hostId := by
    have hfst := congrArg (List.map Prod.fst) h.hosts
    rw [List.map_map, List.map_map] at hfst
    exact hfst
  have hmem : ∀ host : String, host ∈ db'.runHosts.map PlanRunHost.hostId ↔
      host ∈ db.runHosts.map PlanRunHost.hostId := fun host => by rw [hids]
  simp only [List.mem_map] at hmem
  constructor
  · intro helse host hhost
    rw [List.length_eq_zero_iff, List.filter_eq_nil_iff]
    intro e he hon
    obtain ⟨host₀, hhost₀, hid⟩ := (hmem host.hostId).mp ⟨host, hhost, rfl⟩
    rw [← hid] at hon
    exact helse e he host₀ hhost₀ (beq_iff_eq.mp hon)
  · intro hnone e he host₀ hhost₀ hon
    obtain ⟨host, hhost, hid⟩ := (hmem host₀.hostId).mpr ⟨host₀, hhost₀, rfl⟩
    have hempty := hnone host hhost
    rw [List.length_eq_zero_iff, List.filter_eq_nil_iff] at hempty
    exact hempty e he (beq_iff_eq.mpr (hon.trans (congrArg some hid.symm)))

/-- **The hosts count their jobs** when no rejected target is on them, and only then. -/
theorem Admitted.hostsCount_iff (h : Admitted db db' run rejected)
    (hnone : db.jobsOf run.id = []) :
    db'.HostsCount run.id ↔ RejectedElsewhere db rejected := by
  rw [h.rejectedElsewhere_iff, AdmissionDb.HostsCount]
  refine forall_congr' fun host => forall_congr' fun hhost => ?_
  rw [h.totalJobCount_host hhost, h.length_jobsOn hnone]
  omega

/-- **Recounting stays within the totals** when no rejected target is on the hosts, and only
then. -/
theorem Admitted.recountsWithin_iff (h : Admitted db db' run rejected)
    (hnone : db.jobsOf run.id = []) :
    db'.RecountsWithin run.id ↔ RejectedElsewhere db rejected := by
  constructor
  · intro hwithin
    refine (h.hostsCount_iff hnone).mp fun host hhost => le_antisymm ?_ ?_
    · rw [h.totalJobCount_host hhost, h.length_jobsOn hnone]
      exact Nat.le_add_right _ _
    · have hle := hwithin (fun _ => .completed) host hhost
      have hall : ((db'.jobsOn run.id host.hostId).map fun _ => JobStatus.completed) =
          List.replicate (db'.jobsOn run.id host.hostId).length .completed :=
        List.map_const' ..
      rw [hall] at hle
      simpa [recountHostCounters, List.count_replicate] using hle
  · intro helse later host hhost
    rw [(h.hostsCount_iff hnone).mpr helse host hhost]
    have hle := terminalJobCount_recount_le ((db'.jobsOn run.id host.hostId).map later) host
    rwa [List.length_map] at hle

end Counts

/-- **Admission is all or nothing, and counts what it makes**: when it succeeds, the jobs of the
run are one for each kept target and a failed one for each rejected target, on their hosts, and
the run counts them all; every host counts its jobs, and what aggregation recounts stays within
that, exactly when no rejected target is on a host of the run. When it does not succeed, nothing
has changed. -/
theorem admission_consistent_iff (core : LifecycleCore) (now : Time) (attemptId : String)
    {db : AdmissionDb} {run : PlanRunRow} (hrun : db.run = some run)
    (hnone : db.jobsOf run.id = []) :
    (∀ db', admissionTransaction core now attemptId db = (none, db') →
      ∃ rejected, rejectedTargets run = .ok rejected ∧ db'.targets.Sublist db.targets ∧
        ((db'.jobsOf run.id).map JobInstance.kind).Perm
          ((db'.targets.map fun t => (run.id, t.deviceId, some t.hostIdSnapshot, .pending)) ++
            rejected.map fun e : ℕ × Option String => (run.id, e.1, e.2, .failed)) ∧
        (∃ run', db'.run = some run' ∧ run'.totalJobCount = (db'.jobsOf run.id).length) ∧
        (db'.HostsCount run.id ∧ db'.RecountsWithin run.id ↔ RejectedElsewhere db rejected)) ∧
    ∀ early db', admissionTransaction core now attemptId db = (some early, db') → db' = db := by
  constructor
  · intro db' h
    rw [admissionTransaction] at h
    split at h
    · cases h
    · rename_i done hdone
      cases h
      obtain ⟨rejected, hadmitted⟩ := admit_spec hrun hdone
      have hperm := hadmitted.perm_jobsOf hnone
      refine ⟨rejected, hadmitted.entries, hadmitted.targets, hperm, ?_, ?_⟩
      · obtain ⟨run', hrun', htotal⟩ := hadmitted.total
        refine ⟨run', hrun', htotal.trans ?_⟩
        have hlength := hperm.length_eq
        rw [List.length_map, List.length_append, List.length_map, List.length_map] at hlength
        exact hlength.symm
      · rw [hadmitted.hostsCount_iff hnone, hadmitted.recountsWithin_iff hnone, and_self]
  · intro early db' h
    rw [admissionTransaction] at h
    split at h
    · cases h
      rfl
    · cases h

/-- A plan without steps. -/
def plainCore : LifecycleCore where
  buildLifecycleFromSnapshot _ := .ok (.dict [("init", .list []), ("teardown", .list [])])
  stepParamsForDispatch _ := .ok []
  injectWifiParams pipeline _ := pipeline
  injectSuiteParams pipeline _ := .ok pipeline

/-- A run in precheck with one target, and these rejected targets. -/
def precheckRun (rejected : List PyVal) : PlanRunRow where
  id := 1
  runType := "MANUAL"
  status := .precheck
  runContext := [("dispatch_rejected_devices", .list rejected)]
  resultSummary := []
  queueReason := none
  enqueuedAt := some 0
  nextAdmissionAt := none
  admissionAttemptId := some "a"
  admissionToken := none
  precheckStartedAt := some 0
  startedAt := some 0
  endedAt := none
  totalJobCount := 0
  terminalJobCount := 0
  completedJobCount := 0
  failedJobCount := 0
  abortedJobCount := 0
  terminalEffectsState := none

/-- A database with this run and its target on one host. -/
def precheckDb (rejected : List PyVal) : AdmissionDb where
  run := some (precheckRun rejected)
  planSnapshot := .dict []
  runHosts := [⟨1, "h1", "PENDING_ADMISSION", none, none, 0, 0, 0, 0, 0⟩]
  targets := [⟨1, "h1", 0⟩]
  view :=
    { devices := [⟨1, some "h1", .online, none, "R58M1"⟩,
        ⟨2, some "h1", .online, none, "0123456789ABCDEF"⟩]
      hosts := [⟨"h1", none, none, .online, none, none, .null⟩]
      db := ⟨.empty, .empty, .empty, .empty, .empty, .empty, []⟩ }
  pools := []
  allocations := []

/-- A target that was rejected on that host. -/
def serialConflictEntry : PyVal :=
  .dict [("id", .int 2), ("reason", .str "serial_conflict"), ("serial", .str "0123456789ABCDEF"),
    ("host_id", .str "h1")]

/-- The theorem at work: without rejected targets the counts agree. -/
theorem admission_consistent_plain :
    ∃ db', admissionTransaction plainCore 0 "a" (precheckDb []) = (none, db') ∧
      db'.HostsCount 1 ∧ db'.RecountsWithin 1 := by
  have hdone : (admitRun plainCore 0 "a" (precheckDb [])).toOption.isSome = true := by decide
  obtain ⟨db', hdb'⟩ := Option.isSome_iff_exists.mp hdone
  have hadmit := Except.toOption_eq_some_iff.mp hdb'
  have htransaction : admissionTransaction plainCore 0 "a" (precheckDb []) = (none, db') := by
    rw [admissionTransaction, hadmit]
  have hrun : (precheckDb []).run = some (precheckRun []) := rfl
  obtain ⟨rejected, hrejected, -, -, -, hiff⟩ :=
    (admission_consistent_iff plainCore 0 "a" hrun rfl).1 db' htransaction
  cases hrejected
  exact ⟨db', htransaction, hiff.mpr fun e he => (by cases he)⟩

/-- **A rejected target on a host of the run** is not among the jobs the host counts, and once
all jobs have ended aggregation counts more of them than that. -/
theorem rejected_target_outnumbers_host :
    ∃ db', admissionTransaction plainCore 0 "a" (precheckDb [serialConflictEntry]) =
        (none, db') ∧ ¬ db'.HostsCount 1 ∧ ¬ db'.RecountsWithin 1 := by
  have hdone : (admitRun plainCore 0 "a" (precheckDb [serialConflictEntry])).toOption.any (fun db' =>
      db'.runHosts.any fun h => decide (h.totalJobCount < (recountHostCounters
        ((db'.jobsOn 1 h.hostId).map fun _ => JobStatus.completed) h).terminalJobCount) &&
          decide (h.totalJobCount ≠ (db'.jobsOn 1 h.hostId).length)) = true := by decide
  obtain ⟨db', hdb', hany⟩ := (Option.any_eq_true _ _).mp hdone
  obtain ⟨host, hhost, hcounts⟩ := List.any_eq_true.mp hany
  rw [Bool.and_eq_true, decide_eq_true_eq, decide_eq_true_eq] at hcounts
  refine ⟨db', ?_, fun hagree => hcounts.2 (hagree host hhost), fun hwithin => ?_⟩
  · rw [admissionTransaction, Except.toOption_eq_some_iff.mp hdb']
  · exact absurd (hwithin (fun _ => .completed) host hhost) (not_le.mpr hcounts.1)

end StabilityPlatform
