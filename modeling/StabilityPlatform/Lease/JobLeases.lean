import StabilityPlatform.Lease.Claim
import StabilityPlatform.Lease.Fencing

/-!
# The lease of a job

A job is claimed once: a claim takes pending jobs, and no job becomes pending again. So a job
has one lease, whatever is done to leases and jobs afterwards, until the lease is converted.

## Main results

* `LeasesFrom`: the leases a job has are among those it had.
* `claimedOnce_of_run`: **a job has one lease** after every run of claims and other operations.
-/

namespace StabilityPlatform

open Lib

/-- A lease of a job. -/
def isJobLease (jobId : ℕ) (l : DeviceLease) : Bool :=
  l.jobId == some jobId && l.leaseType == .job

/-! ### Leases a job had before -/

/-- Two versions of one lease row of a device. -/
structure SameRow (old l : DeviceLease) : Prop where
  key : old.id = l.id
  device : old.deviceId = l.deviceId

/-- Two versions of one lease row of a device, with one token. -/
structure SameToken (old l : DeviceLease) : Prop extends SameRow old l where
  token : old.fencingToken = l.fencingToken

/-- Each lease of a job is related to one it had before. -/
def LeasesFrom (R : DeviceLease → DeviceLease → Prop) (jobId : ℕ) (db db' : Db) : Prop :=
  ∀ l ∈ db'.leases.rows, isJobLease jobId l = true →
    ∃ old ∈ db.leases.rows, isJobLease jobId old = true ∧ R old l

section From

variable {R : DeviceLease → DeviceLease → Prop} {jobId : ℕ} {db db' db'' : Db}

/-- The leases are as they were. -/
theorem LeasesFrom.of_leases (hrefl : ∀ l, R l l) (h : db'.leases = db.leases) :
    LeasesFrom R jobId db db' := fun l hl hjob => ⟨l, h ▸ hl, hjob, hrefl l⟩

/-- One thing after another. -/
theorem LeasesFrom.trans (htrans : ∀ {a b c}, R a b → R b c → R a c)
    (h : LeasesFrom R jobId db db') (h' : LeasesFrom R jobId db' db'') :
    LeasesFrom R jobId db db'' := by
  intro l hl hjob
  obtain ⟨mid, hmid, hmidjob, hR'⟩ := h' l hl hjob
  obtain ⟨old, hold, holdjob, hR⟩ := h mid hmid hmidjob
  exact ⟨old, hold, holdjob, htrans hR hR'⟩

/-- An update that gives no lease to a job. -/
theorem LeasesFrom.of_update (hrefl : ∀ l, R l l) {p : DeviceLease → Bool}
    {f : DeviceLease → DeviceLease} (hf : ∀ l, Row.id (f l) = Row.id l)
    (h : db'.leases = db.leases.update p f hf)
    (hjob : ∀ l, isJobLease jobId (f l) = true → isJobLease jobId l = true ∧ R l (f l)) :
    LeasesFrom R jobId db db' := by
  intro l hl hl'
  rw [h] at hl
  obtain ⟨old, hold, rfl⟩ := Table.mem_update.mp hl
  by_cases hp : p old = true
  · rw [if_pos hp] at hl' ⊢
    exact ⟨old, hold, hjob old hl'⟩
  · rw [if_neg hp] at hl' ⊢
    exact ⟨old, hold, hl', hrefl old⟩

/-- A row written back, still of that job or of none. -/
theorem LeasesFrom.of_save (hrefl : ∀ l, R l l) {old lease : DeviceLease}
    (h : db'.leases = db.leases.save lease) (hold : old ∈ db.leases.rows)
    (hjob : isJobLease jobId lease = true → isJobLease jobId old = true ∧ R old lease) :
    LeasesFrom R jobId db db' := by
  intro l hl hl'
  rw [h] at hl
  rcases Table.mem_save.mp hl with ⟨hmem, -⟩ | ⟨rfl, -⟩
  · exact ⟨l, hmem, hl', hrefl l⟩
  · exact ⟨old, hold, hjob hl'⟩

/-- A row inserted that is no lease of that job. -/
theorem LeasesFrom.of_insert (hrefl : ∀ l, R l l) {mk : ℕ → DeviceLease}
    (hmk : ∀ i, Row.id (mk i) = i) (h : db'.leases = db.leases.insert mk hmk)
    (hjob : ∀ i, isJobLease jobId (mk i) = false) : LeasesFrom R jobId db db' := by
  intro l hl hl'
  rw [h] at hl
  rcases Table.mem_insert.mp hl with hmem | rfl
  · exact ⟨l, hmem, hl', hrefl l⟩
  · rw [hjob] at hl'
    cases hl'

end From

/-- A row is itself. -/
theorem SameRow.refl (l : DeviceLease) : SameRow l l := ⟨rfl, rfl⟩

/-- A row is itself, with its token. -/
theorem SameToken.refl (l : DeviceLease) : SameToken l l := ⟨.refl l, rfl⟩

/-- Versions of versions. -/
theorem SameToken.trans {a b c : DeviceLease} (h : SameToken a b) (h' : SameToken b c) :
    SameToken a c :=
  ⟨⟨h.key.trans h'.key, h.device.trans h'.device⟩, h.token.trans h'.token⟩

/-! ### The operations on leases -/

/-- Whether an operation acquires a lease for a job. -/
def LeaseOp.acquiresJob : LeaseOp → Bool
  | .acquire _ _ _ leaseType _ _ _ _ _ => leaseType == .job
  | _ => false

/-- A lease that is converted is no lease of a job any more. -/
theorem isJobLease_toDebt (jobId : ℕ) (l : DeviceLease) (device : Device) (hostId : String)
    (now : Time) : isJobLease jobId (l.toDebt device hostId now) = false := rfl

/-- An operation on leases gives a job no lease, unless it acquires one for a job. -/
theorem leasesFrom_of_leaseStep {db db' : Db} {op : LeaseOp} (h : LeaseStep db op db')
    (hop : op.acquiresJob = false) (jobId : ℕ) : LeasesFrom SameRow jobId db db' := by
  obtain ⟨⟨opened, db₁⟩, hstep, rfl⟩ := Option.map_eq_some_iff.mp h
  cases op with
  | acquire now d hostId leaseType agentInstanceId job reason holder leaseSeconds =>
      have hstep := Except.toOption_eq_some_iff.mp hstep
      cases opened with
      | none => exact .of_leases .refl (by rw [acquireLease_eq_none hstep])
      | some l =>
          obtain ⟨device, -, -, -, -, rfl⟩ := acquireLease_eq_some hstep
          refine .of_insert .refl (fun _ => rfl) rfl fun i => ?_
          have hne : (leaseType == LeaseType.job) = false := hop
          simp [isJobLease, newLease, hne]
  | extend now d job leaseType ttl =>
      cases hstep
      exact .of_update
        (f := fun l => { l with renewedAt := now, expiresAt := now.addSeconds ttl }) .refl
        (fun _ => rfl) rfl fun l hl => ⟨hl, ⟨rfl, rfl⟩⟩
  | release now d job leaseType =>
      cases hstep
      exact .of_update (p := isLeaseOf d job leaseType) (f := DeviceLease.release now) .refl
        (fun _ => rfl) rfl fun l hl => ⟨hl, ⟨rfl, rfl⟩⟩
  | convert now d job =>
      obtain ⟨device, hget, hstep⟩ := Option.bind_eq_some_iff.mp hstep
      obtain ⟨lease, hlease, hstep⟩ := Option.bind_eq_some_iff.mp hstep
      obtain ⟨-, -, hstep⟩ := Option.bind_eq_some_iff.mp hstep
      obtain ⟨⟨l, db₂⟩, hconv, hstep⟩ := Option.bind_eq_some_iff.mp hstep
      replace hconv := Except.toOption_eq_some_iff.mp hconv
      cases hstep
      rw [convertActiveJobToDebtLeaseSync] at hconv
      dsimp only at hconv
      split at hconv
      · cases hconv
      · cases hconv
        refine .of_save .refl rfl (Table.mem_of_holder hlease).1 fun hl => ?_
        rw [isJobLease_toDebt] at hl
        cases hl
  | acquireDebt now d =>
      obtain ⟨device, hget, hstep⟩ := Option.bind_eq_some_iff.mp hstep
      cases hacq : acquireDebtLeaseSync db device now with
      | mk acquired rest =>
          obtain ⟨device', db₂⟩ := rest
          rw [hacq] at hstep
          cases hstep
          cases opened with
          | none =>
              rcases acquireDebtLeaseSync_eq_none hacq with ⟨-, rfl, -⟩ | ⟨-, rfl, -⟩
              · exact .of_leases .refl rfl
              · exact .of_leases .refl rfl
          | some l =>
              obtain ⟨hostId, -, -, -, -, -, rfl, rfl⟩ := acquireDebtLeaseSync_eq_some hacq
              exact @LeasesFrom.of_insert _ _ _ _ .refl
                (fun i => { debtLease device.bump hostId now with id := i }) (fun _ => rfl) rfl
                fun _ => rfl
  | rotate now d job agentInstanceId =>
      obtain ⟨lease, hlease, hstep⟩ := Option.bind_eq_some_iff.mp hstep
      obtain ⟨⟨token, db₂⟩, hrot, hstep⟩ := Option.bind_eq_some_iff.mp hstep
      replace hrot := Except.toOption_eq_some_iff.mp hrot
      cases hstep
      rw [rotateRecoveryLeaseToken] at hrot
      split at hrot
      · cases hrot
      · cases hrot
        exact .of_save .refl rfl (Table.mem_of_first hlease).1 fun hl => ⟨hl, ⟨rfl, rfl⟩⟩
  | changeDevice device =>
      obtain ⟨old, hget, hstep⟩ := Option.bind_eq_some_iff.mp hstep
      obtain ⟨_, -, hstep⟩ := Option.bind_eq_some_iff.mp hstep
      cases hstep
      exact .of_leases .refl rfl

/-! ### Claimed once -/

/-- What happens to leases and jobs. -/
inductive JobLeaseOp where
  | claim (now : Time) (hostId agentInstanceId : String) (st : ClaimState) (job : JobInstance)
  | lease (op : LeaseOp)
  | saveJob (job : JobInstance)
  | insertJob (job : ℕ → JobInstance)
  | elsewhere (db : Db)

/-- One thing that happens: a claim tries a pending job; leases are extended, released,
converted, rotated, or acquired for something else; a job goes to a status it may go to, or
stays; a job is inserted; other tables change. -/
def JobLeaseStep (db : Db) : JobLeaseOp → Db → Prop
  | .claim now hostId agentInstanceId st job, db' =>
    st.db = db ∧ db.jobs.get? job.id = some job ∧ job.status = .pending ∧
      ∃ st', claimAttempt now hostId agentInstanceId st job = .ok st' ∧ st'.db = db'
  | .lease op, db' => op.acquiresJob = false ∧ LeaseStep db op db' ∧ db'.jobs = db.jobs
  | .saveJob job, db' => ∃ old, db.jobs.get? job.id = some old ∧
      (job.status = old.status ∨ job.status ∈ old.status.validTransitions) ∧
      db' = { db with jobs := db.jobs.save job }
  | .insertJob mk, db' => ∃ hmk : ∀ i, Row.id (mk i) = i,
      db' = { db with jobs := db.jobs.insert mk hmk }
  | .elsewhere db', db'' => db' = db'' ∧ db'.leases = db.leases ∧ db'.jobs = db.jobs

/-- Jobs with a lease are not pending, and a job has one lease. -/
structure ClaimedOnce (db : Db) : Prop where
  claimed : ∀ jobId, ∀ l ∈ db.leases.rows, isJobLease jobId l = true →
    ∃ job, db.jobs.get? jobId = some job ∧ job.status ≠ .pending
  once : ∀ jobId, ∀ l ∈ db.leases.rows, ∀ l' ∈ db.leases.rows, isJobLease jobId l = true →
    isJobLease jobId l' = true → l = l'

/-- Without leases no job has one. -/
theorem claimedOnce_of_nil {db : Db} (h : db.leases.rows = []) : ClaimedOnce db := by
  constructor
  · intro jobId l hl
    rw [h] at hl
    cases hl
  · intro jobId l hl
    rw [h] at hl
    cases hl

/-- No lease is gained, and no job is pending again. -/
theorem ClaimedOnce.keep {db db' : Db} (h : ClaimedOnce db)
    (hleases : ∀ jobId, LeasesFrom SameRow jobId db db')
    (hjobs : ∀ jobId job, db.jobs.get? jobId = some job → job.status ≠ .pending →
      ∃ job', db'.jobs.get? jobId = some job' ∧ job'.status ≠ .pending) : ClaimedOnce db' := by
  constructor
  · intro jobId l hl hjob
    obtain ⟨old, hold, holdjob, -⟩ := hleases jobId l hl hjob
    obtain ⟨job, hget, hne⟩ := h.claimed jobId old hold holdjob
    exact hjobs jobId job hget hne
  · intro jobId l hl l' hl' hjob hjob'
    obtain ⟨old, hold, holdjob, hrow⟩ := hleases jobId l hl hjob
    obtain ⟨old', hold', holdjob', hrow'⟩ := hleases jobId l' hl' hjob'
    have heq := h.once jobId old hold old' hold' holdjob holdjob'
    refine Table.eq_of_id_eq hl hl' ?_
    have hkey : l.id = l'.id := by rw [← hrow.key, ← hrow'.key, heq]
    exact hkey

/-- A job that is written is read back. -/
theorem get?_saveJob {jobs : Table JobInstance} {job old : JobInstance}
    (h : jobs.get? job.id = some old) : (jobs.save job).get? job.id = some job := by
  have hid : Row.id job = job.id := rfl
  rw [Table.get?_save, h]
  simp [hid]

/-- The others are as they were. -/
theorem get?_saveJob_of_ne (jobs : Table JobInstance) {job : JobInstance} {jobId : ℕ}
    (hne : job.id ≠ jobId) : (jobs.save job).get? jobId = jobs.get? jobId := by
  have hid : Row.id job ≠ jobId := hne
  rw [Table.get?_save]
  simp [hid]

/-- No status leads back to pending. -/
theorem pending_notMem_validTransitions (status : JobStatus) :
    JobStatus.pending ∉ status.validTransitions := by
  cases status <;> decide

/-- **One step**: a job still has one lease. -/
theorem ClaimedOnce.step {db db' : Db} {op : JobLeaseOp} (h : ClaimedOnce db)
    (hstep : JobLeaseStep db op db') : ClaimedOnce db' := by
  cases op with
  | claim now hostId agentInstanceId st job =>
      obtain ⟨rfl, hjob, hpending, st', hclaim, rfl⟩ := hstep
      obtain ⟨_, hclaim', hcases⟩ := claimAttempt_cases now hostId agentInstanceId st job
      rw [hclaim] at hclaim'
      cases hclaim'
      rcases hcases with rfl | ⟨lease, hatt⟩
      · exact h
      · have hfree : ∀ l ∈ st.db.leases.rows, isJobLease job.id l = false := by
          intro l hl
          by_contra hne
          obtain ⟨row, hget, hnot⟩ := h.claimed job.id l hl (Bool.eq_true_of_not_eq_false hne)
          rw [hjob] at hget
          cases hget
          exact hnot hpending
        have hown : ∀ jobId, isJobLease jobId lease = true → jobId = job.id := by
          intro jobId hlease
          rw [isJobLease, hatt.jobId.1, Bool.and_eq_true, beq_iff_eq] at hlease
          exact (Option.some.inj hlease.1).symm
        have hrow : ∀ jobId row, st.db.jobs.get? jobId = some row → row.status ≠ .pending →
            ∃ row', st'.db.jobs.get? jobId = some row' ∧ row'.status ≠ .pending := by
          intro jobId row hget hne
          have hother : jobId ≠ job.id := by
            rintro rfl
            rw [hjob] at hget
            cases hget
            exact hne hpending
          refine ⟨row, ?_, hne⟩
          rw [(hatt.same hother).jobs jobId (List.mem_singleton_self _), hget]
        constructor
        · intro jobId l hl hlease
          rw [hatt.leases, List.mem_append, List.mem_singleton] at hl
          rcases hl with hl | rfl
          · obtain ⟨row, hget, hne⟩ := h.claimed jobId l hl hlease
            exact hrow jobId row hget hne
          · obtain rfl := hown jobId hlease
            refine ⟨job.claim hostId now, ?_, by simp [JobInstance.claim, JobInstance.start]⟩
            rw [hatt.jobs]
            exact @get?_saveJob _ (job.claim hostId now) _ hjob
        · intro jobId l hl l' hl' hlease hlease'
          rw [hatt.leases, List.mem_append, List.mem_singleton] at hl hl'
          rcases hl with hl | rfl
          · rcases hl' with hl' | rfl
            · exact h.once jobId l hl l' hl' hlease hlease'
            · obtain rfl := hown jobId hlease'
              rw [hfree l hl] at hlease
              cases hlease
          · rcases hl' with hl' | rfl
            · obtain rfl := hown jobId hlease
              rw [hfree l' hl'] at hlease'
              cases hlease'
            · rfl
  | lease op =>
      obtain ⟨hop, hlease, hjobs⟩ := hstep
      exact h.keep (leasesFrom_of_leaseStep hlease hop) fun jobId job hget hne =>
        ⟨job, by rw [hjobs, hget], hne⟩
  | saveJob job =>
      obtain ⟨old, hold, hstatus, rfl⟩ := hstep
      refine h.keep (fun _ => .of_leases .refl rfl) fun jobId row hget hne => ?_
      by_cases hid : job.id = jobId
      · subst hid
        rw [hold] at hget
        cases hget
        refine ⟨job, ?_, fun hpending => ?_⟩
        · exact get?_saveJob hold
        · rcases hstatus with hsame | hvalid
          · exact hne (hsame ▸ hpending)
          · rw [hpending] at hvalid
            exact pending_notMem_validTransitions _ hvalid
      · refine ⟨row, ?_, hne⟩
        change (db.jobs.save job).get? jobId = some row
        rw [get?_saveJob_of_ne db.jobs hid, hget]
  | insertJob mk =>
      obtain ⟨hmk, rfl⟩ := hstep
      refine h.keep (fun _ => .of_leases .refl rfl) fun jobId row hget hne => ⟨row, ?_, hne⟩
      obtain ⟨hmem, hid⟩ := Table.get?_eq_some_iff.mp hget
      have hmem' : row ∈ (db.jobs.insert mk hmk).rows := Table.mem_insert.mpr (.inl hmem)
      exact Table.get?_eq_some_iff.mpr ⟨hmem', hid⟩
  | elsewhere other =>
      obtain ⟨rfl, hleases, hjobs⟩ := hstep
      exact h.keep (fun _ => .of_leases .refl hleases) fun jobId row hget hne =>
        ⟨row, by rw [hjobs, hget], hne⟩

/-- **A job has one lease**, after every run of claims and other operations that starts without
leases. -/
theorem claimedOnce_of_run {db db' : Db} {tr : List (Db × JobLeaseOp)}
    (h : Run JobLeaseStep db tr db') (hnil : db.leases.rows = []) : ClaimedOnce db' :=
  (h.invariant (fun hinv hstep => ClaimedOnce.step hinv hstep) (claimedOnce_of_nil hnil)).2

end StabilityPlatform
