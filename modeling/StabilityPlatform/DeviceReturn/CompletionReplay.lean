import StabilityPlatform.DeviceReturn.Completion
import StabilityPlatform.DeviceReturn.ProbeTrust

/-!
# Completions are idempotent

A completion is reported until it is answered, so it arrives again: while the lease of the job is
there, after it was released, after it was converted. The same report is recognised by its digest
and changes nothing. Another report is refused, unless it confirms on evidence what the job left
undone.

## Main results

* `acceptedAs_of_accepted`: what an accepted completion leaves behind.
* `AcceptedAs.later`: conversions, releases and further reports keep it.
* `completion_replay`: **the same report is answered the same and changes nothing**, and a
  different one is refused or confirms late.
-/

namespace StabilityPlatform

open Lib

/-! ### Releases leave jobs and their leases -/

/-- A release leaves the jobs, and gives no job a lease or a token. -/
theorem ReleaseEnding.keeps {d jobId : ℕ} {now now' : Time} {lease : Option DeviceLease}
    {device : Device} {db db' : Db} (h : ReleaseEnding d jobId now now' lease device db db')
    (hlease : lease = db.activeLease d) (i : ℕ) :
    db'.jobs = db.jobs ∧ LeasesFrom SameToken i db db' := by
  have hreleased : (releaseJobLeaseSync db now' d jobId).2.jobs = db.jobs ∧
      LeasesFrom SameToken i db (releaseJobLeaseSync db now' d jobId).2 := by
    refine ⟨rfl, .of_update (p := isLeaseOf d jobId .job) (f := DeviceLease.release now') .refl
      (fun _ => rfl) rfl fun l hl => ⟨hl, ⟨rfl, rfl⟩, rfl⟩⟩
  cases h with
  | converted owed held job own host =>
      rw [hlease] at held
      refine ⟨rfl, .of_save .refl rfl (Table.mem_of_holder held).1 fun hl => ?_⟩
      rw [isJobLease_toDebt] at hl
      cases hl
  | kept owed held debt => exact ⟨rfl, .of_leases .refl rfl⟩
  | other owed held notOwn => exact hreleased
  | released paid => exact hreleased
  | taken owed free =>
      cases hacq : acquireDebtLeaseSync db device now with
      | mk acquired rest =>
          obtain ⟨device', db₁⟩ := rest
          cases acquired with
          | none =>
              rcases acquireDebtLeaseSync_eq_none hacq with ⟨-, rfl, -⟩ | ⟨-, rfl, -⟩
              · exact ⟨rfl, .of_leases .refl rfl⟩
              · exact ⟨rfl, .of_leases .refl rfl⟩
          | some l =>
              obtain ⟨hostId, -, -, -, -, -, rfl, rfl⟩ := acquireDebtLeaseSync_eq_some hacq
              exact ⟨rfl, @LeasesFrom.of_insert _ _ _ _ .refl
                (fun i => { debtLease device.bump hostId now with id := i }) (fun _ => rfl) rfl
                fun _ => rfl⟩

/-- **A release** leaves the jobs, and gives no job a lease or a token. -/
theorem handleJobLeaseRelease_keeps {db db' : Db} {now now' : Time} {d jobId : ℕ}
    {job : Option JobInstance} {outcome : LeaseOutcome}
    (h : handleJobLeaseRelease db now now' d jobId job = .ok (outcome, db')) (i : ℕ) :
    db'.jobs = db.jobs ∧ LeasesFrom SameToken i db db' := by
  rw [handleJobLeaseRelease_eq_sync] at h
  rcases handleJobLeaseReleaseSync_cases h with ⟨-, rfl⟩ |
    ⟨device, device₁, db₁, hget, happlied, hend⟩
  · exact ⟨rfl, .of_leases .refl rfl⟩
  · have hlease : db.activeLease d = db₁.activeLease d := by
      rw [Db.activeLease, Db.activeLease, happlied.leases]
    obtain ⟨hjobs, hfrom⟩ := hend.keeps hlease i
    exact ⟨hjobs.trans happlied.jobs,
      .trans SameToken.trans (.of_leases .refl happlied.leases) hfrom⟩

/-! ### What an accepted completion leaves behind -/

section Complete

variable (manifestPackageSha : String → String → Option String) (sha : Sha256)
  (floatValue : FloatText → ℚ)

/-- A job ended by a report: it has its status and digest, and its leases the token. -/
structure AcceptedAs (jobId : ℕ) (p : RunComplete) (status : JobStatus) (s : CompletionDb) :
    Prop where
  row : ∃ job, s.db.jobs.get? jobId = some job ∧ job.status = status ∧
    job.terminalPayloadDigest = some (payloadDigest sha p)
  terminal : status.isTerminal = true
  tokens : ∀ l ∈ s.db.leases.rows, isJobLease jobId l = true → l.fencingToken = p.fencingToken

variable {manifestPackageSha sha floatValue}

/-- What is kept by a change that leaves the job, and gives it no lease. -/
theorem AcceptedAs.keep {jobId : ℕ} {p : RunComplete} {status : JobStatus} {s s' : CompletionDb}
    (h : AcceptedAs sha jobId p status s) (hjobs : s'.db.jobs = s.db.jobs)
    (hfrom : LeasesFrom SameToken jobId s.db s'.db) : AcceptedAs sha jobId p status s' := by
  refine ⟨by rw [hjobs]; exact h.row, h.terminal, fun l hl hjob => ?_⟩
  obtain ⟨old, hold, holdjob, hsame⟩ := hfrom l hl hjob
  rw [← hsame.token]
  exact h.tokens old hold holdjob

/-- The lease a first report is accepted under. -/
theorem underLease_spec {now : Time} {db db' : Db} {job job' : JobInstance} {token : String}
    (h : underLease now db job token = some (job', db')) :
    job'.id = job.id ∧ job'.deviceId = job.deviceId ∧ db'.jobs = db.jobs ∧
      LeasesFrom SameToken job.id db db' ∧
      ∃ l ∈ db.leases.rows, isJobLease job.id l = true ∧ l.fencingToken = token := by
  have hactive : ∀ {l}, activeJobLease db job = some l →
      l ∈ db.leases.rows ∧ isJobLease job.id l = true := by
    intro l hl
    obtain ⟨hmem, hp⟩ := Table.mem_of_first hl
    simp only [Bool.and_eq_true] at hp
    exact ⟨hmem, hp.1.2⟩
  rw [underLease] at h
  split at h
  · rename_i lease hresume
    obtain ⟨l, hl, hresume⟩ := Option.bind_eq_some_iff.mp hresume
    obtain ⟨running, htransition, h⟩ := Option.map_eq_some_iff.mp h
    obtain ⟨-, rfl⟩ := JobInstance.transition_eq_some_iff.mp htransition
    cases h
    split at hl
    · obtain ⟨hfirst, htoken⟩ := Option.filter_eq_some_iff.mp hl
      obtain ⟨hmem, hjob⟩ := hactive hfirst
      rw [resumeExpiredLease] at hresume
      split at hresume
      · cases hresume
        exact ⟨rfl, rfl, rfl, .of_save .refl rfl hmem fun hl => ⟨hl, ⟨rfl, rfl⟩, rfl⟩,
          l, hmem, hjob, by simpa using htoken⟩
      · cases hresume
    · cases hl
  · obtain ⟨l, hl, h⟩ := Option.map_eq_some_iff.mp h
    cases h
    obtain ⟨hfirst, hvalid⟩ := Option.filter_eq_some_iff.mp hl
    obtain ⟨hmem, hjob⟩ := hactive hfirst
    simp only [Bool.and_eq_true, beq_iff_eq] at hvalid
    exact ⟨rfl, rfl, rfl, .of_leases .refl rfl, l, hmem, hjob, hvalid.1.1⟩

/-- Ending a job writes its status and digest, and leaves it no lease it had not. -/
theorem endJob_spec {now now' : Time} {s s' : CompletionDb} {job : JobInstance} {p : RunComplete}
    {target : JobStatus} {message : String} {old : JobInstance}
    (hget : s.db.jobs.get? job.id = some old)
    (h : endJob manifestPackageSha sha floatValue now now' s job p target message = .ok s') :
    (∃ ended, s'.db.jobs.get? job.id = some ended ∧ ended.status = target ∧
      ended.terminalPayloadDigest = some (payloadDigest sha p)) ∧
      LeasesFrom SameToken job.id s.db s'.db := by
  rw [endJob] at h
  obtain ⟨results, -, h⟩ := Except.bind_eq_ok_iff.mp h
  obtain ⟨⟨outcome, db'⟩, hrelease, h⟩ := Except.bind_eq_ok_iff.mp h
  cases h
  have hkept : (keepSnapshot s job.id p target now).db.jobs = s.db.jobs ∧
      (keepSnapshot s job.id p target now).db.leases = s.db.leases := by
    rw [keepSnapshot]
    split
    · exact ⟨rfl, rfl⟩
    · exact ⟨rfl, rfl⟩
  obtain ⟨hjobs, hfrom⟩ := handleJobLeaseRelease_keeps hrelease job.id
  constructor
  · have hget' : (keepSnapshot s job.id p target now).db.jobs.get? job.id = some old := by
      rw [hkept.1]
      exact hget
    rw [hjobs]
    exact ⟨_, @get?_saveJob _ { job with
      status := target
      statusReason := some message
      updatedAt := now
      endedAt := some now
      terminalPayloadDigest := some (payloadDigest sha p)
      disarmResults := results } _ hget', rfl, rfl⟩
  · exact .trans SameToken.trans (.of_leases .refl hkept.2) hfrom

/-- **An accepted completion** ended its job, under the only lease the job has. -/
theorem acceptedAs_of_accepted {now now' : Time} {s s' : CompletionDb} {jobId : ℕ}
    {p : RunComplete} {status : JobStatus} (honce : ClaimedOnce s.db)
    (h : completeAgentJob manifestPackageSha sha floatValue now now' s jobId p =
      .ok (.accepted status, s')) :
    terminalTarget floatValue p = some status ∧ AcceptedAs sha jobId p status s' := by
  rw [completeAgentJob] at h
  cases hget : s.db.jobs.get? jobId with
  | none =>
      rw [hget] at h
      cases h
  | some job =>
      obtain rfl : job.id = jobId := Table.id_of_get? hget
      rw [hget] at h
      dsimp only at h
      cases htarget : terminalTarget floatValue p with
      | none =>
          rw [htarget] at h
          cases h
      | some target =>
          rw [htarget] at h
          dsimp only at h
          split at h
          · rw [replayTerminal] at h
            have hlate : ∀ {r}, lateOrStale manifestPackageSha floatValue now s job p = .ok r →
                r.1 ≠ .accepted status := by
              intro r hr
              rw [lateOrStale] at hr
              split at hr
              · cases hr
              · cases hr
                simp
              · cases hr
            split at h
            · split at h
              · cases h
              · exact absurd rfl (hlate h)
            · split at h
              · exact absurd rfl (hlate h)
              · split at h
                · cases h
                · cases h
          · rw [acceptTerminal] at h
            split at h
            · cases h
            · split at h
              · cases h
              · rename_i job' db hunder
                obtain ⟨hid, -, hjobs, hfrom, lease, hmem, hlease, htoken⟩ := underLease_spec hunder
                split at h
                · cases h
                · split at h
                  · cases h
                  · split at h
                    · cases h
                    · rename_i s₁ hend
                      cases h
                      obtain ⟨hrow, hfrom'⟩ :=
                        @endJob_spec _ _ _ _ _ _ _ _ _ _ _ job
                          (by rw [hid]; exact hjobs ▸ hget) hend
                      rw [hid] at hrow hfrom'
                      refine ⟨rfl, hrow, ?_, fun l hl hl' => ?_⟩
                      · exact (Option.filter_eq_some_iff.mp htarget).2
                      · obtain ⟨old, hold, holdjob, hsame⟩ :=
                          LeasesFrom.trans (R := SameToken) SameToken.trans hfrom hfrom' l hl hl'
                        rw [← hsame.token, honce.once job.id old hold lease hmem holdjob hlease,
                          htoken]

/-! ### What happens later -/

variable (manifestPackageSha sha floatValue)

/-- What happens after a completion was accepted: leases are released or converted, and the job
is reported again, in whatever way. -/
inductive LaterOp where
  | release (now now' : Time) (deviceId jobId : ℕ) (job : Option JobInstance)
  | releaseLease (now : Time) (deviceId jobId : ℕ) (leaseType : LeaseType)
  | report (now now' : Time) (p : RunComplete)

/-- One thing that happens later. -/
def LaterStep (jobId : ℕ) (s : CompletionDb) : LaterOp → CompletionDb → Prop
  | .release now now' d i job, s' => ∃ outcome db,
      handleJobLeaseRelease s.db now now' d i job = .ok (outcome, db) ∧ s' = { s with db := db }
  | .releaseLease now d i leaseType, s' =>
    s' = { s with db := (StabilityPlatform.releaseLease s.db now d i leaseType).2 }
  | .report now now' p, s' => ∃ reply,
      completeAgentJob manifestPackageSha sha floatValue now now' s jobId p = .ok (reply, s')

variable {manifestPackageSha sha floatValue}

/-- A late confirmation leaves the leases of jobs. -/
theorem LateWrites.leasesFrom {d jobId : ℕ} {token : String} {ok : String → Prop} {now : Time}
    {db db' : Db} (h : LateWrites d jobId token ok now db db') (i : ℕ) :
    LeasesFrom SameToken i db db' := by
  rcases h.leases with hsame | ⟨-, l, hl, -, hsave⟩
  · exact .of_leases .refl hsame
  · exact .of_save .refl hsave (Table.mem_of_holder hl).1 fun hjob => ⟨hjob, ⟨rfl, rfl⟩, rfl⟩

/-- When a report may confirm late: no lease of the job has its token, and it says that a family
with an open debt of that job and token is confirmed. -/
def MayConfirmLate (floatValue : FloatText → ℚ) (s : CompletionDb) (job : JobInstance)
    (p : RunComplete) : Prop :=
  (∀ l, historicalLease s.db job = some l → l.fencingToken ≠ p.fencingToken) ∧
    ∃ r ∈ s.db.openDebts job.deviceId,
      ∃ f ∈ confirmedFamiliesOf (normalizeDisarmResults (p.disarm floatValue)),
        isOwnDebt f job.id p.fencingToken r = true

/-- What a different report of an ended job is answered. -/
inductive Refused (manifestPackageSha : String → String → Option String)
    (floatValue : FloatText → ℚ) (now : Time) (s : CompletionDb) (job : JobInstance)
    (p : RunComplete) : Except CompleteError (CompleteReply × CompletionDb) → Prop
  | conflict (code : String) :
      Refused manifestPackageSha floatValue now s job p (.error (.conflict code job.status))
  | raised (e : PyError) (late : MayConfirmLate floatValue s job p) :
      Refused manifestPackageSha floatValue now s job p (.error (.raised e))
  | late {outcome : LateOutcome} {db : Db} (late : MayConfirmLate floatValue s job p)
      (writes : LateWrites job.deviceId job.id p.fencingToken
        (LateVerified manifestPackageSha s.db job.deviceId job.id (p.disarm floatValue)) now
        s.db db) :
      Refused manifestPackageSha floatValue now s job p
        (.ok (.lateConfirmed job.status outcome, { s with db := db }))

/-- A report without the token of the job is refused, or confirms late. -/
theorem refused_lateOrStale (now : Time) (s : CompletionDb) (job : JobInstance) (p : RunComplete)
    (htoken : ∀ l, historicalLease s.db job = some l → l.fencingToken ≠ p.fencingToken) :
    Refused manifestPackageSha floatValue now s job p
      (lateOrStale manifestPackageSha floatValue now s job p) := by
  have hmay : tryApplyLateConfirmed manifestPackageSha s.db now job.deviceId job.id
      p.fencingToken (p.disarm floatValue) = .ok (none, s.db) ∨
      MayConfirmLate floatValue s job p := by
    rw [tryApplyLateConfirmed]
    dsimp only
    split
    · exact .inl rfl
    · split
      · exact .inl rfl
      · rename_i howed
        rw [Bool.not_eq_true', Bool.not_eq_false, List.any_eq_true] at howed
        obtain ⟨r, hr, hf⟩ := howed
        obtain ⟨f, hf, hown⟩ := List.any_eq_true.mp hf
        exact .inr ⟨htoken, r, hr, f, hf, hown⟩
  rw [lateOrStale]
  rcases hmay with hnone | hmay
  · rw [hnone]
    exact .conflict _
  · split
    · exact .raised _ hmay
    · rename_i hlate
      exact .late hmay (tryApplyLateConfirmed_writes hlate)
    · exact .conflict _

/-- The same report is recognised. -/
theorem AcceptedAs.replay_same {jobId : ℕ} {p : RunComplete} {status : JobStatus}
    {s : CompletionDb} (h : AcceptedAs sha jobId p status s)
    (htarget : (terminalTarget floatValue p).isSome = true) (now now' : Time) :
    completeAgentJob manifestPackageSha sha floatValue now now' s jobId p =
      .ok (.idempotent status, s) := by
  obtain ⟨job, hget, rfl, hdigest⟩ := h.row
  obtain rfl : job.id = jobId := Table.id_of_get? hget
  obtain ⟨target, htarget⟩ := Option.isSome_iff_exists.mp htarget
  have hmatch : digestsMatch (some (payloadDigest sha p)) (payloadDigest sha p) = true := by
    have hne : payloadDigest sha p ≠ "" := sha.hex_ne_empty _
    simp [digestsMatch, hne]
  rw [completeAgentJob, hget, htarget]
  dsimp only
  rw [if_pos h.terminal, replayTerminal]
  cases hlease : historicalLease s.db job with
  | none =>
      dsimp only
      rw [hdigest, if_pos hmatch]
  | some lease =>
      have hmem := List.argmax_mem hlease
      rw [Table.mem_select, Bool.and_eq_true] at hmem
      dsimp only
      rw [if_neg (not_not.mpr (h.tokens lease hmem.1 hmem.2.2)), comparedDigests, hdigest]
      dsimp only
      rw [if_pos hmatch]

/-- Any other report is recognised by its digest, is refused, or confirms late. -/
theorem AcceptedAs.replay_cases {jobId : ℕ} {p p' : RunComplete} {status : JobStatus}
    {s : CompletionDb} (h : AcceptedAs sha jobId p status s)
    (htarget : (terminalTarget floatValue p').isSome = true) (now now' : Time) :
    ∃ job, s.db.jobs.get? jobId = some job ∧ job.status = status ∧
      ((completeAgentJob manifestPackageSha sha floatValue now now' s jobId p' =
          .ok (.idempotent status, s) ∧ payloadDigest sha p' = payloadDigest sha p) ∨
        Refused manifestPackageSha floatValue now s job p'
          (completeAgentJob manifestPackageSha sha floatValue now now' s jobId p')) := by
  obtain ⟨job, hget, rfl, hdigest⟩ := h.row
  obtain rfl : job.id = jobId := Table.id_of_get? hget
  obtain ⟨target, htarget⟩ := Option.isSome_iff_exists.mp htarget
  have hmatch : digestsMatch (some (payloadDigest sha p)) (payloadDigest sha p') = true →
      payloadDigest sha p' = payloadDigest sha p := by
    intro heq
    simp only [digestsMatch, Option.any_some, Bool.and_eq_true, beq_iff_eq] at heq
    exact heq.2.symm
  refine ⟨job, hget, rfl, ?_⟩
  rw [completeAgentJob, hget, htarget]
  dsimp only
  rw [if_pos h.terminal, replayTerminal]
  cases hlease : historicalLease s.db job with
  | none =>
      dsimp only
      rw [hdigest]
      split
      · rename_i heq
        exact .inl ⟨rfl, hmatch heq⟩
      · refine .inr (refused_lateOrStale now s job p' fun l hl => ?_)
        rw [hlease] at hl
        cases hl
  | some lease =>
      dsimp only
      split
      · rename_i hne
        refine .inr (refused_lateOrStale now s job p' fun l hl => ?_)
        rw [hlease] at hl
        cases hl
        exact hne
      · rw [comparedDigests, hdigest]
        dsimp only
        split
        · rename_i heq
          exact .inl ⟨rfl, hmatch heq⟩
        · exact .inr (.conflict _)

/-- A report that names no terminal status is refused. -/
theorem AcceptedAs.replay_invalid {jobId : ℕ} {p p' : RunComplete} {status : JobStatus}
    {s : CompletionDb} (h : AcceptedAs sha jobId p status s)
    (htarget : terminalTarget floatValue p' = none) (now now' : Time) :
    completeAgentJob manifestPackageSha sha floatValue now now' s jobId p' =
      .error (.badRequest (requestedStatus floatValue p')) := by
  obtain ⟨job, hget, -, -⟩ := h.row
  rw [completeAgentJob, hget, htarget]

/-- **One step later** the job is still ended by the same report. -/
theorem AcceptedAs.step {jobId : ℕ} {p : RunComplete} {status : JobStatus}
    {s s' : CompletionDb} {op : LaterOp} (h : AcceptedAs sha jobId p status s)
    (hstep : LaterStep manifestPackageSha sha floatValue jobId s op s') :
    AcceptedAs sha jobId p status s' := by
  cases op with
  | release now now' d i job =>
      obtain ⟨outcome, db, hrelease, rfl⟩ := hstep
      obtain ⟨hjobs, hfrom⟩ := handleJobLeaseRelease_keeps hrelease jobId
      exact h.keep hjobs hfrom
  | releaseLease now d i leaseType =>
      obtain rfl := hstep
      exact h.keep rfl (.of_update (p := isLeaseOf d i leaseType) (f := DeviceLease.release now)
        .refl (fun _ => rfl) rfl fun l hl => ⟨hl, ⟨rfl, rfl⟩, rfl⟩)
  | report now now' p' =>
      obtain ⟨reply, hreport⟩ := hstep
      cases htarget : terminalTarget floatValue p' with
      | none =>
          rw [h.replay_invalid htarget] at hreport
          cases hreport
      | some target =>
          have hsome : (terminalTarget floatValue p').isSome = true := by
            rw [htarget]
            rfl
          obtain ⟨job, -, -, ⟨hsame, -⟩ | hrefused⟩ := h.replay_cases hsome now now'
          · rw [hsame] at hreport
            cases hreport
            exact h
          · rw [hreport] at hrefused
            cases hrefused with
            | late hmay hwrites => exact h.keep hwrites.jobs (hwrites.leasesFrom jobId)

/-- Reports with different content have different digests, unless these collide. -/
theorem payloadDigest_ne {p p' : RunComplete}
    (hdiffers : (completionFact p').norm ≠ (completionFact p).norm)
    (hcollision : payloadDigest sha p' = payloadDigest sha p →
      (completionFact p').dumps = (completionFact p).dumps) :
    payloadDigest sha p' ≠ payloadDigest sha p :=
  fun heq => hdiffers (Json.dumps_eq_dumps_iff.mp (hcollision heq))

/-- **Completions are idempotent.** A completion of a job that was claimed once was accepted;
leases were released or converted since, and the job was reported again. The same report is
answered with the status of the job, and changes nothing. A report of different content is
refused, with nothing changed, or it confirms late: then no lease of the job has its token, its
evidence satisfies the policy, and it closes the debts of that job and token alone. -/
theorem completion_replay {db : Db} {before : List (Db × JobLeaseOp)} {s s' s'' : CompletionDb}
    {later : List (CompletionDb × LaterOp)} {jobId : ℕ} {p : RunComplete} {status : JobStatus}
    {now now' : Time} (hnil : db.leases.rows = []) (hbefore : Run JobLeaseStep db before s.db)
    (haccepted : completeAgentJob manifestPackageSha sha floatValue now now' s jobId p =
      .ok (.accepted status, s'))
    (hlater : Run (LaterStep manifestPackageSha sha floatValue jobId) s' later s'')
    (t t' : Time) :
    completeAgentJob manifestPackageSha sha floatValue t t' s'' jobId p =
        .ok (.idempotent status, s'') ∧
      ∀ p', (completionFact p').norm ≠ (completionFact p).norm →
        (payloadDigest sha p' = payloadDigest sha p →
          (completionFact p').dumps = (completionFact p).dumps) →
        (terminalTarget floatValue p' = none →
          completeAgentJob manifestPackageSha sha floatValue t t' s'' jobId p' =
            .error (.badRequest (requestedStatus floatValue p'))) ∧
        ((terminalTarget floatValue p').isSome = true →
          ∃ job, s''.db.jobs.get? jobId = some job ∧ job.status = status ∧
            Refused manifestPackageSha floatValue t s'' job p'
              (completeAgentJob manifestPackageSha sha floatValue t t' s'' jobId p')) := by
  obtain ⟨htarget, hfirst⟩ :=
    acceptedAs_of_accepted (claimedOnce_of_run hbefore hnil) haccepted
  have hlast : AcceptedAs sha jobId p status s'' :=
    (hlater.invariant (fun h hstep => AcceptedAs.step h hstep) hfirst).2
  refine ⟨hlast.replay_same (by rw [htarget]; rfl) t t', fun p' hdiffers hcollision =>
    ⟨fun hnone => hlast.replay_invalid hnone t t', fun hsome => ?_⟩⟩
  obtain ⟨job, hget, hstatus, ⟨-, hsame⟩ | hrefused⟩ := hlast.replay_cases hsome t t'
  · exact absurd hsame (payloadDigest_ne hdiffers hcollision)
  · exact ⟨job, hget, hstatus, hrefused⟩

end Complete

/-! ### A report that confirms late -/

namespace LateExample

/-- A pipeline that disarms the gpu family at its end. -/
def pipeline : PyVal := .dict [("lifecycle", .dict [("teardown", .list [.dict
  [("step_id", .str "disarm"), ("action", .str "script:gpu_disarm"),
    ("version", .str "1.0.0")]])])]

/-- A pending job with this pipeline. -/
def job (id : ℕ) : JobInstance :=
  { plainJob 1 .null id with status := .pending, pipelineDef := pipeline }

/-- It waits for a device of a registered model. -/
def waiting : Db := { ProbeExample.start with jobs := Table.empty.insert job fun _ => rfl }

/-- The attempt to claim it. -/
def claimed : Except PyError ClaimState := claimAttempt 0 "h1" "a1" { db := waiting } (job 1)

/-- The job was claimed; there are no snapshots. -/
def started : CompletionDb :=
  ⟨(claimed.toOption.map ClaimState.db).getD waiting, fun _ => none⟩

/-- Some digest. -/
def sha : Sha256 where
  hex := fun m => String.ofList (List.replicate 64 (if m.size % 2 = 0 then '0' else '1'))
  length := fun m => by rw [String.length_ofList, List.length_replicate]

/-- There are no fractions in these reports. -/
def floatValue : FloatText → ℚ := fun _ => 0

/-- The job failed, and left the gpu family undone. -/
def first : RunComplete where
  update := Dict.empty.set "status" (.str "FAILED")
  artifact := none
  watcherSummary := none
  disarmResults := some (Dict.empty.set "gpu" (.str "not_executed"))
  fencingToken := "1:1"

/-- The same, with the evidence that the family was disarmed. -/
def second : RunComplete :=
  { first with disarmResults := some (Dict.empty.set "gpu" (.obj
      [("result", .str "confirmed"), ("step_id", .str "disarm"), ("evidence", .obj
        [("permission_model", .str "root"), ("script_name", .str "gpu_disarm"),
          ("script_version", .str "1.0.0"), ("package_sha256", .str ProbeExample.package),
          ("apk_sha256", .str "47a059398943e8dc0943269c99a30264f70c7175ae943a69c48ec733ea84e8c5"),
          ("boot_completed", .str "1"), ("mode", .str "probe"), ("readback", .str "clear"),
          ("kind", .str "ok")])])) }

/-- A report to this control plane, and what it leaves. -/
def report (t : Time) (s : CompletionDb) (p : RunComplete) :
    Except CompleteError (CompleteReply × CompletionDb) :=
  completeAgentJob ProbeExample.packages sha floatValue t (t + 1) s 1 p

/-- Whether a job was ended as failed. -/
def isFailed : CompleteReply → Bool
  | .accepted .failed => true
  | _ => false

/-- How many debts a failed job confirmed late. -/
def confirmedLate : CompleteReply → ℕ
  | .lateConfirmed .failed outcome => outcome.closedCount
  | _ => 0

/-- The first report is accepted. -/
theorem first_accepted : ∃ s, report 10 started first = .ok (.accepted .failed, s) := by
  have hfirst : (report 10 started first).toOption.map (fun r => isFailed r.1) = some true := by
    decide +kernel
  obtain ⟨⟨reply, s⟩, hok, hreply⟩ := Option.map_eq_some_iff.mp hfirst
  refine ⟨s, ?_⟩
  rw [Except.toOption_eq_some_iff.mp hok]
  cases reply with
  | accepted status => cases status <;> first | rfl | cases hreply
  | idempotent status => cases hreply
  | lateConfirmed status outcome => cases hreply

/-- The claim of the job. -/
theorem claimed_run : ∃ tr, Run JobLeaseStep waiting tr started.db := by
  have hclaimed : claimed.toOption.isSome = true := by decide
  obtain ⟨st, hst⟩ := Option.isSome_iff_exists.mp hclaimed
  have hdb : started.db = st.db := by
    rw [started, hst]
    rfl
  have hstep : JobLeaseStep waiting (.claim 0 "h1" "a1" { db := waiting } (job 1)) started.db :=
    ⟨rfl, rfl, rfl, st, Except.toOption_eq_some_iff.mp hst, hdb.symm⟩
  exact ⟨_, .single hstep⟩

/-- The reports differ. -/
theorem second_differs : (completionFact second).norm ≠ (completionFact first).norm := by
  intro heq
  have hdumps : (completionFact second).dumps = (completionFact first).dumps :=
    Json.dumps_eq_dumps_iff.mpr heq
  exact absurd hdumps (by decide +kernel)

/-- The theorem at work: the first report, once accepted, is recognised after its lease was
converted, and the second one is refused or confirms late. -/
theorem completion_replay_first : ∃ s, report 10 started first = .ok (.accepted .failed, s) ∧
    report 20 s first = .ok (.idempotent .failed, s) ∧
    ∃ job, s.db.jobs.get? 1 = some job ∧ job.status = .failed ∧
      Refused ProbeExample.packages floatValue 20 s job second (report 20 s second) := by
  obtain ⟨s, hfirst⟩ := first_accepted
  obtain ⟨tr, hrun⟩ := claimed_run
  have hnil : waiting.leases.rows = [] := rfl
  have hreplay := completion_replay hnil hrun hfirst (.nil s) 20 21
  refine ⟨s, hfirst, hreplay.1, ?_⟩
  exact (hreplay.2 second second_differs (fun hcollision =>
    absurd hcollision (by decide +kernel))).2 (by decide +kernel)

/-- **A different report is no conflict**: the second report is answered that it confirmed late,
and it closed a debt. -/
theorem second_confirms : ∃ s s' outcome,
    report 10 started first = .ok (.accepted .failed, s) ∧
    (completionFact second).norm ≠ (completionFact first).norm ∧
    report 20 s second = .ok (.lateConfirmed .failed outcome, s') ∧ outcome.closedCount = 1 := by
  obtain ⟨s, hfirst⟩ := first_accepted
  have hsecond : (report 10 started first).toOption.bind (fun r =>
      (report 20 r.2 second).toOption.map fun r' => confirmedLate r'.1) = some 1 := by
    decide +kernel
  rw [hfirst] at hsecond
  obtain ⟨⟨reply, s'⟩, hok, hcount⟩ := Option.map_eq_some_iff.mp hsecond
  replace hok := Except.toOption_eq_some_iff.mp hok
  cases reply with
  | accepted status => cases hcount
  | idempotent status => cases hcount
  | lateConfirmed status outcome =>
      cases status with
      | failed => exact ⟨s, s', outcome, hfirst, second_differs, hok, hcount⟩
      | pending => cases hcount
      | running => cases hcount
      | completed => cases hcount
      | aborted => cases hcount
      | unknown => cases hcount

end LateExample

end StabilityPlatform
