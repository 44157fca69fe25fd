import StabilityPlatform.Agent.LeaseLost

/-!
# Cleaning up after an attempt

An attempt to run a job is known by its worker token. The registries are cleaned up after it by
the rollback of a failed claim, by the exit and the release of its worker, and by the renewer once
its lease is lost. What is cleaned up for one job leaves the entries of all others; the sections
that compare tokens leave those of another attempt at the job as well.

A device is taken together with the record of its owner. The claim loop takes it before the job is
registered, and a job may be unregistered before its device is given up. In between, the owner of
the device is not a registered job.

## Main results

* `AgentWorld.step_cleansOwnAttempt`: what a clean-up leaves alone.
* `attempts_cleaned_up`: **over every run**, clean-ups leave the entries of other attempts, and a
  device that is taken has an owner, which is registered, or still to be, or cleaned up after.
-/

namespace StabilityPlatform

open Lib

/-! ### Attempts -/

/-- The entries of a job are kept. -/
structure EntriesKept (m m' : AgentMemory) (jobId : ℕ) : Prop where
  active : jobId ∈ m.jobIds → jobId ∈ m'.jobIds
  worker : m'.jobTokens.lookup jobId = m.jobTokens.lookup jobId
  fencingToken : m'.leases.fencingTokens.lookup jobId = m.leases.fencingTokens.lookup jobId
  localWorkerToken :
    m'.leases.localWorkerTokens.lookup jobId = m.leases.localWorkerTokens.lookup jobId
  device : m'.leases.deviceIds.lookup jobId = m.leases.deviceIds.lookup jobId
  owner : ∀ deviceId, m.deviceOwner.lookup deviceId = some jobId →
    m'.deviceOwner.lookup deviceId = some jobId
  running : m'.runningWorkerTokens.lookup jobId = m.runningWorkerTokens.lookup jobId
  runner : m'.activeRunners.lookup jobId = m.activeRunners.lookup jobId

/-- The entries of an attempt at a job are kept. -/
structure AttemptKept (m m' : AgentMemory) (jobId : ℕ) (workerToken : String) : Prop where
  active : m.jobTokens.lookup jobId = some workerToken → jobId ∈ m.jobIds → jobId ∈ m'.jobIds
  worker : m.jobTokens.lookup jobId = some workerToken →
    m'.jobTokens.lookup jobId = some workerToken
  lease : m.leases.localWorkerTokens.lookup jobId = some workerToken →
    m'.leases.localWorkerTokens.lookup jobId = some workerToken ∧
      m'.leases.fencingTokens.lookup jobId = m.leases.fencingTokens.lookup jobId ∧
      m'.leases.deviceIds.lookup jobId = m.leases.deviceIds.lookup jobId
  owner : m.jobTokens.lookup jobId = some workerToken → ∀ deviceId,
    m.deviceOwner.lookup deviceId = some jobId → m'.deviceOwner.lookup deviceId = some jobId
  running : m.runningWorkerTokens.lookup jobId = some workerToken →
    m'.runningWorkerTokens.lookup jobId = some workerToken
  runner : ∀ r, m.activeRunners.lookup jobId = some (workerToken, r) →
    m'.activeRunners.lookup jobId = some (workerToken, r)

/-- Entries are kept when nothing changes. -/
theorem EntriesKept.refl (m : AgentMemory) (jobId : ℕ) : EntriesKept m m jobId :=
  ⟨id, rfl, rfl, rfl, rfl, fun _ h => h, rfl, rfl⟩

/-- What is kept twice is kept. -/
theorem EntriesKept.trans {m m' m'' : AgentMemory} {jobId : ℕ} (h : EntriesKept m m' jobId)
    (h' : EntriesKept m' m'' jobId) : EntriesKept m m'' jobId where
  active ha := h'.active (h.active ha)
  worker := h'.worker.trans h.worker
  fencingToken := h'.fencingToken.trans h.fencingToken
  localWorkerToken := h'.localWorkerToken.trans h.localWorkerToken
  device := h'.device.trans h.device
  owner d ho := h'.owner d (h.owner d ho)
  running := h'.running.trans h.running
  runner := h'.runner.trans h.runner

/-- An attempt is kept when nothing changes. -/
theorem AttemptKept.refl (m : AgentMemory) (jobId : ℕ) (workerToken : String) :
    AttemptKept m m jobId workerToken :=
  ⟨fun _ h => h, id, fun h => ⟨h, rfl, rfl⟩, fun _ _ h => h, id, fun _ h => h⟩

/-- The job a step cleans up for. -/
def AgentWorld.cleansUp (w : AgentWorld) : AgentOp → Option ℕ
  | .thread (.clearFencingToken jobId) => some jobId
  | .thread (.clearFencingTokenIfCurrent jobId _ _) => some jobId
  | .thread (.exitOccupancy jobId _ _) => some jobId
  | .thread (.rollbackOccupancy jobId) => some jobId
  | .thread (.dropDevice _ jobId) => some jobId
  | .thread (.release jobId _ _) => some jobId
  | .handle => (w.lostLease .handle).map Prod.fst
  | .callback => (w.lostLease .callback).map Prod.fst
  | _ => none

/-- The attempt a step cleans up after, where it compares tokens. -/
def AgentOp.cleansUpAttempt : AgentOp → Option (ℕ × String)
  | .thread (.clearFencingTokenIfCurrent jobId token localWorkerToken) =>
    some (jobId, effectiveWorkerToken token localWorkerToken)
  | .thread (.exitOccupancy jobId workerToken _) => some (jobId, workerToken)
  | .thread (.release jobId workerToken _) => some (jobId, workerToken)
  | _ => none

/-- A step cleans up for no attempt but its own. -/
structure CleansOwnAttempt (w : AgentWorld) (op : AgentOp) (w' : AgentWorld) : Prop where
  otherJobs : ∀ jobId, w.cleansUp op = some jobId → ∀ other, other ≠ jobId →
    EntriesKept w.memory w'.memory other
  otherAttempts : ∀ jobId workerToken, op.cleansUpAttempt = some (jobId, workerToken) →
    workerToken ≠ "" → ∀ other, other ≠ "" → other ≠ workerToken →
    AttemptKept w.memory w'.memory jobId other
  staleLease : ∀ jobId token, w.lostLease op = some (jobId, token) → op = .handle →
    w.memory.staleToken jobId token = true → w'.memory = w.memory

/-! ### Other jobs -/

/-- Forgetting the lease of a job leaves the entries of other jobs. -/
theorem EntriesKept.forget (m : AgentMemory) {jobId other : ℕ} (hne : other ≠ jobId) :
    EntriesKept m { m with leases := m.leases.forget jobId } other where
  active := id
  worker := rfl
  fencingToken := AList.lookup_erase_ne hne
  localWorkerToken := AList.lookup_erase_ne hne
  device := AList.lookup_erase_ne hne
  owner _ h := h
  running := rfl
  runner := rfl

/-- Unregistering a job leaves the entries of other jobs. -/
theorem EntriesKept.unregister (m : AgentMemory) {jobId other : ℕ} (hne : other ≠ jobId) :
    EntriesKept m { m with
      jobIds := m.jobIds.erase jobId
      jobTokens := m.jobTokens.erase jobId } other where
  active h := Finset.mem_erase.mpr ⟨hne, h⟩
  worker := AList.lookup_erase_ne hne
  fencingToken := rfl
  localWorkerToken := rfl
  device := rfl
  owner _ h := h
  running := rfl
  runner := rfl

/-- Giving a device up leaves the record of every owner but the job it is given up for. -/
theorem EntriesKept.dropDevice (m : AgentMemory) (deviceId : ℕ) {jobId other : ℕ}
    (hne : other ≠ jobId) : EntriesKept m (m.dropDevice deviceId jobId) other where
  active := id
  worker := rfl
  fencingToken := rfl
  localWorkerToken := rfl
  device := rfl
  owner d h := by
    rw [AgentMemory.dropDevice]
    dsimp only
    split
    · rename_i howner
      have hd : d ≠ deviceId := by
        rintro rfl
        exact hne (Option.some.inj (h.symm.trans howner))
      rw [AList.lookup_erase_ne hd, h]
    · exact h
  running := rfl
  runner := rfl

/-- The exit of a worker leaves the entries of other jobs. -/
theorem EntriesKept.exitOccupancy (m : AgentMemory) {jobId other : ℕ} (hne : other ≠ jobId)
    (exiting : String) (deviceId : Option ℕ) :
    EntriesKept m (m.exitOccupancy jobId exiting deviceId) other := by
  rw [AgentMemory.exitOccupancy]
  split
  · cases deviceId with
    | none => exact .unregister m hne
    | some deviceId => exact (EntriesKept.unregister m hne).trans (.dropDevice _ _ hne)
  · exact .refl m other

/-- Clearing the lease of an attempt leaves the entries of other jobs. -/
theorem EntriesKept.clearFencingTokenIfCurrent (m : AgentMemory) {jobId other : ℕ}
    (hne : other ≠ jobId) (token localWorkerToken : String) :
    EntriesKept m
      { m with leases := (m.leases.clearFencingTokenIfCurrent jobId token localWorkerToken).1 }
      other := by
  rw [LeaseRegistry.clearFencingTokenIfCurrent]
  split
  · exact .refl m other
  · split
    · exact .refl m other
    · exact .forget m hne

/-- What a release does first: the worker has neither started nor a runner any more. -/
def AgentMemory.forgetWorker (m : AgentMemory) (jobId : ℕ) (workerToken : String) : AgentMemory :=
  { m with
    runningWorkerTokens := if m.runningWorkerTokens.lookup jobId = some workerToken then
      m.runningWorkerTokens.erase jobId else m.runningWorkerTokens
    activeRunners := if (m.activeRunners.lookup jobId).any (·.1 == workerToken) then
      m.activeRunners.erase jobId else m.activeRunners }

/-- What a release does then, for the current worker. -/
def AgentMemory.giveUp (m : AgentMemory) (jobId : ℕ) (deviceId : Option ℕ) : AgentMemory :=
  let m := { m with abortRequestedJobIds := m.abortRequestedJobIds.erase jobId }
  match deviceId with
  | some deviceId =>
    if (m.deviceOwner.lookup deviceId).all (· == jobId) then
      { m with
        deviceIds := m.deviceIds.erase deviceId
        deviceOwner := m.deviceOwner.erase deviceId }
    else m
  | none => m

/-- A release in two parts. -/
theorem AgentMemory.release_eq (m : AgentMemory) (jobId : ℕ) (workerToken : String)
    (deviceId : Option ℕ) :
    m.release jobId workerToken deviceId =
      if (m.jobTokens.lookup jobId).all (· == workerToken) then
        (m.forgetWorker jobId workerToken).giveUp jobId deviceId
      else m.forgetWorker jobId workerToken := rfl

/-- Forgetting a worker leaves the entries of other jobs. -/
theorem EntriesKept.forgetWorker (m : AgentMemory) {jobId other : ℕ} (hne : other ≠ jobId)
    (workerToken : String) : EntriesKept m (m.forgetWorker jobId workerToken) other where
  active := id
  worker := rfl
  fencingToken := rfl
  localWorkerToken := rfl
  device := rfl
  owner _ h := h
  running := by
    rw [AgentMemory.forgetWorker]
    dsimp only
    split
    · exact AList.lookup_erase_ne hne
    · rfl
  runner := by
    rw [AgentMemory.forgetWorker]
    dsimp only
    split
    · exact AList.lookup_erase_ne hne
    · rfl

/-- A release gives a device up that is recorded for its own job, or for none. -/
theorem EntriesKept.giveUp (m : AgentMemory) {jobId other : ℕ} (hne : other ≠ jobId)
    (deviceId : Option ℕ) : EntriesKept m (m.giveUp jobId deviceId) other := by
  rw [AgentMemory.giveUp.eq_def]
  cases deviceId with
  | none => exact ⟨id, rfl, rfl, rfl, rfl, fun _ h => h, rfl, rfl⟩
  | some deviceId =>
      dsimp only
      split
      · rename_i howner
        refine ⟨id, rfl, rfl, rfl, rfl, fun d h => ?_, rfl, rfl⟩
        have hd : d ≠ deviceId := by
          rintro rfl
          rw [h, Option.all_some, beq_iff_eq] at howner
          exact hne howner
        rw [AList.lookup_erase_ne hd, h]
      · exact ⟨id, rfl, rfl, rfl, rfl, fun _ h => h, rfl, rfl⟩

/-- A release leaves the entries of other jobs. -/
theorem EntriesKept.release (m : AgentMemory) {jobId other : ℕ} (hne : other ≠ jobId)
    (workerToken : String) (deviceId : Option ℕ) :
    EntriesKept m (m.release jobId workerToken deviceId) other := by
  rw [AgentMemory.release_eq]
  have hforgot := EntriesKept.forgetWorker m hne workerToken
  split
  · exact hforgot.trans (.giveUp _ hne deviceId)
  · exact hforgot

/-- A callback leaves the entries of other jobs. -/
theorem EntriesKept.callback (m : AgentMemory) (lost : LostLease) (stage : CallbackStage)
    {other : ℕ} (hne : other ≠ lost.jobId) : EntriesKept m (m.callback lost stage).1 other := by
  cases stage with
  | notify =>
      rw [AgentMemory.callback, AgentMemory.notifyLeaseLostForDisarm]
      dsimp only
      split
      · exact ⟨id, rfl, rfl, rfl, rfl, fun _ h => h, rfl, rfl⟩
      · exact .refl m other
  | requestAbort =>
      rw [AgentMemory.callback, AgentMemory.requestAbort]
      dsimp only
      split
      · exact ⟨id, rfl, rfl, rfl, rfl, fun _ h => h, rfl, rfl⟩
      · exact .refl m other
  | cancelRunner =>
      rw [AgentMemory.callback, AgentMemory.cancelRunner]
      dsimp only
      split
      · exact ⟨id, rfl, rfl, rfl, rfl, fun _ h => h, rfl, rfl⟩
      · exact .refl m other
  | cleanup abortDispatched =>
      obtain ⟨jobId, token, deviceId⟩ := lost
      have hgone := EntriesKept.unregister m hne
      cases deviceId with
      | none => exact hgone
      | some deviceId =>
          cases abortDispatched with
          | true => exact hgone
          | false => exact hgone.trans (.dropDevice _ deviceId hne)

/-- What the check of a lost lease forgets leaves the entries of other jobs. -/
theorem EntriesKept.handleLeaseLost {m m' : AgentMemory} {jobId other : ℕ} {token : String}
    {lost : LostLease} (h : m.handleLeaseLost jobId token = some (m', lost)) (hne : other ≠ jobId) :
    EntriesKept m m' other := by
  rw [AgentMemory.handleLeaseLost] at h
  split at h
  · cases h
  · cases h
    exact { EntriesKept.forget m hne with
      active := fun ha => Finset.mem_erase.mpr ⟨hne, ha⟩ }

/-! ### Other attempts -/

/-- The exit of a worker leaves the other attempts at its job. -/
theorem AttemptKept.exitOccupancy_of_ne (m : AgentMemory) (jobId : ℕ) {exiting workerToken : String}
    (deviceId : Option ℕ) (hexiting : exiting ≠ "") (hne : workerToken ≠ exiting) :
    AttemptKept m (m.exitOccupancy jobId exiting deviceId) jobId workerToken := by
  rw [AgentMemory.exitOccupancy]
  split
  · rename_i hguard
    have hcurrent : (m.jobTokens.lookup jobId).getD "" = exiting :=
      hguard.2.resolve_left hexiting
    have hnot : m.jobTokens.lookup jobId ≠ some workerToken := by
      intro h
      rw [h, Option.getD_some] at hcurrent
      exact hne hcurrent
    cases deviceId with
    | none =>
        exact ⟨fun h => absurd h hnot, fun h => absurd h hnot, fun h => ⟨h, rfl, rfl⟩,
          fun h => absurd h hnot, id, fun _ h => h⟩
    | some deviceId =>
        exact ⟨fun h => absurd h hnot, fun h => absurd h hnot, fun h => ⟨h, rfl, rfl⟩,
          fun h => absurd h hnot, id, fun _ h => h⟩
  · exact .refl m jobId workerToken

/-- Clearing the lease of an attempt leaves that of another attempt. -/
theorem AttemptKept.clearFencingTokenIfCurrent_of_ne (m : AgentMemory) (jobId : ℕ)
    {token localWorkerToken workerToken : String} (hworker : workerToken ≠ "")
    (hexpected : effectiveWorkerToken token localWorkerToken ≠ "")
    (hne : workerToken ≠ effectiveWorkerToken token localWorkerToken) :
    AttemptKept m
      { m with leases := (m.leases.clearFencingTokenIfCurrent jobId token localWorkerToken).1 }
      jobId workerToken where
  active _ h := h
  worker := id
  lease h := by
    have hkept : (m.leases.clearFencingTokenIfCurrent jobId token localWorkerToken).1 =
        m.leases := by
      rw [LeaseRegistry.clearFencingTokenIfCurrent]
      split
      · rfl
      · rw [h, Option.getD_some, if_pos ⟨hexpected, hworker, hne⟩]
    rw [hkept]
    exact ⟨h, rfl, rfl⟩
  owner _ _ h := h
  running := id
  runner _ h := h

/-- A release leaves the other attempts at its job. -/
theorem AttemptKept.release_of_ne (m : AgentMemory) (jobId : ℕ) {released workerToken : String}
    (deviceId : Option ℕ) (hne : workerToken ≠ released) :
    AttemptKept m (m.release jobId released deviceId) jobId workerToken := by
  have hforgot : AttemptKept m (m.forgetWorker jobId released) jobId workerToken := by
    refine ⟨fun _ h => h, id, fun h => ⟨h, rfl, rfl⟩, fun _ _ h => h, fun h => ?_, fun r h => ?_⟩
    · rw [AgentMemory.forgetWorker]
      have hother : m.runningWorkerTokens.lookup jobId ≠ some released := by
        rw [h]
        exact fun heq => hne (Option.some.inj heq)
      dsimp only
      rw [if_neg hother, h]
    · rw [AgentMemory.forgetWorker]
      have hother : ¬ (m.activeRunners.lookup jobId).any (·.1 == released) = true := by
        rw [h, Option.any_some, beq_iff_eq]
        exact hne
      dsimp only
      rw [if_neg hother, h]
  rw [AgentMemory.release_eq]
  split
  · rename_i hcurrent
    have hnot : m.jobTokens.lookup jobId ≠ some workerToken := by
      intro h
      rw [h, Option.all_some, beq_iff_eq] at hcurrent
      exact hne hcurrent
    rw [AgentMemory.giveUp.eq_def]
    cases deviceId with
    | none =>
        exact ⟨fun h => absurd h hnot, fun h => absurd h hnot, fun h => ⟨h, rfl, rfl⟩,
          fun h => absurd h hnot, hforgot.running, hforgot.runner⟩
    | some deviceId =>
        dsimp only
        split
        · exact ⟨fun h => absurd h hnot, fun h => absurd h hnot, fun h => ⟨h, rfl, rfl⟩,
            fun h => absurd h hnot, hforgot.running, hforgot.runner⟩
        · exact ⟨fun h => absurd h hnot, fun h => absurd h hnot, fun h => ⟨h, rfl, rfl⟩,
            fun h => absurd h hnot, hforgot.running, hforgot.runner⟩
  · exact hforgot

/-! ### One step -/

/-- The result of looking at a lease: nothing for a stale token, else the check and its call. -/
theorem AgentWorld.step_handle {batchChunk : ℕ} {w w' : AgentWorld} {jobId : ℕ} {token : String}
    (hstep : AgentWorld.Step batchChunk w .handle w')
    (hlost : w.lostLease .handle = some (jobId, token)) :
    (w.memory.staleToken jobId token = true ∧ w'.memory = w.memory) ∨
      ∃ lost, w.memory.handleLeaseLost jobId token = some (w'.memory, lost) := by
  rw [AgentWorld.Step, AgentWorld.step.eq_def] at hstep
  rw [AgentWorld.lostLease] at hlost
  split at hlost
  · rename_i leases j status items rest hphase
    split at hlost
    · rename_i hstatus
      cases hlost
      simp only [hphase, hstatus, if_true] at hstep
      cases hhandled : w.memory.handleLeaseLost jobId (sentToken leases jobId) with
      | none =>
          rw [hhandled] at hstep
          cases hstep
          refine .inl ⟨?_, rfl⟩
          rw [AgentMemory.handleLeaseLost] at hhandled
          by_contra hfresh
          rw [if_neg hfresh] at hhandled
          cases hhandled
      | some r =>
          obtain ⟨memory, lost⟩ := r
          rw [hhandled] at hstep
          cases hstep
          exact .inr ⟨lost, rfl⟩
    · cases hlost
  · cases hlost

/-- A step of the callback changes the memory by one of its stages. -/
theorem AgentWorld.step_callback {batchChunk : ℕ} {w w' : AgentWorld}
    (hstep : AgentWorld.Step batchChunk w .callback w') :
    ∃ stage lost, w.phase.called? = some lost ∧ w'.memory = (w.memory.callback lost stage).1 := by
  rw [AgentWorld.Step, AgentWorld.step.eq_def] at hstep
  dsimp only at hstep
  split at hstep
  · rename_i stage lost leases items rest hphase
    refine ⟨stage, lost, by rw [hphase]; rfl, ?_⟩
    split at hstep
    · rename_i hcallback
      cases hstep
      rw [hcallback]
    · rename_i hcallback
      cases hstep
      rw [hcallback]
  · cases hstep

/-- The lost lease of a callback is the one it is called for. -/
theorem AgentWorld.lostLease_callback {w : AgentWorld} {jobId : ℕ} {token : String}
    (h : w.lostLease .callback = some (jobId, token)) :
    ∃ lost, w.phase.called? = some lost ∧ lost.jobId = jobId := by
  rw [AgentWorld.lostLease] at h
  split at h
  · rename_i stage lost leases items rest hphase
    cases h
    exact ⟨lost, by rw [hphase]; rfl, rfl⟩
  · cases h

/-- **Every step cleans up for no attempt but its own.** -/
theorem AgentWorld.step_cleansOwnAttempt {batchChunk : ℕ} {w w' : AgentWorld} {op : AgentOp}
    (hstep : AgentWorld.Step batchChunk w op w') : CleansOwnAttempt w op w' where
  otherJobs jobId hcleans other hne := by
    cases op with
    | thread op =>
        cases hstep
        cases op with
        | clearFencingToken _ =>
            cases hcleans
            exact .forget _ hne
        | clearFencingTokenIfCurrent _ token localWorkerToken =>
            cases hcleans
            exact .clearFencingTokenIfCurrent _ hne token localWorkerToken
        | exitOccupancy _ exiting deviceId =>
            cases hcleans
            exact .exitOccupancy _ hne exiting deviceId
        | rollbackOccupancy _ =>
            cases hcleans
            exact .unregister _ hne
        | dropDevice deviceId _ =>
            cases hcleans
            exact .dropDevice _ deviceId hne
        | release _ released deviceId =>
            cases hcleans
            exact .release _ hne released deviceId
        | _ => cases hcleans
    | handle =>
        obtain ⟨⟨j, token⟩, hlost, rfl⟩ := Option.map_eq_some_iff.mp hcleans
        rcases AgentWorld.step_handle hstep hlost with ⟨-, hsame⟩ | ⟨lost, hhandled⟩
        · rw [hsame]
          exact .refl _ other
        · exact .handleLeaseLost hhandled hne
    | callback =>
        obtain ⟨⟨j, token⟩, hlost, rfl⟩ := Option.map_eq_some_iff.mp hcleans
        obtain ⟨lost, hcalled, hjob⟩ := AgentWorld.lostLease_callback hlost
        obtain ⟨stage, lost', hcalled', hmemory⟩ := AgentWorld.step_callback hstep
        cases hcalled.symm.trans hcalled'
        rw [hmemory]
        exact .callback _ lost stage (hjob ▸ hne)
    | _ => cases hcleans
  otherAttempts jobId workerToken hcleans hworker other hother hne := by
    cases op with
    | thread op =>
        cases hstep
        cases op with
        | clearFencingTokenIfCurrent _ token localWorkerToken =>
            cases hcleans
            exact .clearFencingTokenIfCurrent_of_ne _ jobId hother hworker hne
        | exitOccupancy _ exiting deviceId =>
            cases hcleans
            exact .exitOccupancy_of_ne _ jobId deviceId hworker hne
        | release _ released deviceId =>
            cases hcleans
            exact .release_of_ne _ jobId deviceId hne
        | _ => cases hcleans
    | _ => cases hcleans
  staleLease jobId token hlost hop hstale := by
    cases hop
    rcases AgentWorld.step_handle hstep hlost with ⟨-, hsame⟩ | ⟨lost, hhandled⟩
    · exact hsame
    · rw [AgentMemory.handleLeaseLost, if_pos hstale] at hhandled
      cases hhandled

/-! ### Devices and their owners -/

/-- The device is recorded for the job, or for none. -/
def AgentMemory.OwnedBy (m : AgentMemory) (deviceId jobId : ℕ) : Prop :=
  ∀ owner ∈ m.deviceOwner.lookup deviceId, owner = jobId

instance (m : AgentMemory) (deviceId jobId : ℕ) : Decidable (m.OwnedBy deviceId jobId) :=
  inferInstanceAs (Decidable (∀ owner ∈ m.deviceOwner.lookup deviceId, _))

/-- A step gives up no device that is recorded for another job. -/
def GivesUpOwn (w : AgentWorld) : AgentOp → Prop
  | .thread (.dropDevice deviceId jobId) => w.memory.OwnedBy deviceId jobId
  | .thread (.exitOccupancy jobId _ deviceId) => ∀ d ∈ deviceId, w.memory.OwnedBy d jobId
  | .thread (.discardDevice deviceId) => w.memory.deviceOwner.lookup deviceId = none
  | .callback => ∀ lost ∈ w.phase.called?, ∀ d ∈ lost.deviceId, w.memory.OwnedBy d lost.jobId
  | _ => True

instance (w : AgentWorld) : (op : AgentOp) → Decidable (GivesUpOwn w op)
  | .thread (.dropDevice deviceId jobId) =>
    inferInstanceAs (Decidable (w.memory.OwnedBy deviceId jobId))
  | .thread (.exitOccupancy jobId _ deviceId) =>
    inferInstanceAs (Decidable (∀ d ∈ deviceId, w.memory.OwnedBy d jobId))
  | .thread (.discardDevice deviceId) =>
    inferInstanceAs (Decidable (w.memory.deviceOwner.lookup deviceId = none))
  | .callback => inferInstanceAs (Decidable (∀ lost ∈ w.phase.called?, ∀ d ∈ lost.deviceId, _))
  | .thread (.claimDevice ..) | .thread (.registerOccupancy ..) | .thread (.setFencingToken ..)
  | .thread (.clearFencingToken _) | .thread (.clearFencingTokenIfCurrent ..)
  | .thread (.rollbackOccupancy _) | .thread (.tryMarkWorkerStarted ..)
  | .thread (.attachRunner ..) | .thread (.detachRunner ..) | .thread (.requestAbort _)
  | .thread (.cancelRunner _) | .thread (.release ..) | .tick | .extend | .response _
  | .requestFailed | .handle | .endRound => .isTrue trivial

/-- Every device that is taken has an owner. -/
def DevicesOwned (m : AgentMemory) : Prop :=
  ∀ deviceId ∈ m.deviceIds, (m.deviceOwner.lookup deviceId).isSome

/-- The devices that are taken are those with an owner. -/
def DevicesRecorded (m : AgentMemory) : Prop :=
  ∀ deviceId, deviceId ∈ m.deviceIds ↔ (m.deviceOwner.lookup deviceId).isSome

/-- How a step may change the devices and their owners. It takes devices for jobs where `takes`
tells, and `own` tells that it gives up no device that is recorded for another job. -/
inductive DeviceChange (own : Prop) (takes : ℕ → ℕ → Prop) (m m' : AgentMemory) : Prop where
  | same : m'.deviceIds = m.deviceIds → m'.deviceOwner = m.deviceOwner →
      DeviceChange own takes m m'
  | taken (deviceId jobId : ℕ) : takes deviceId jobId →
      m'.deviceIds = insert deviceId m.deviceIds →
      m'.deviceOwner = m.deviceOwner.insert deviceId jobId → DeviceChange own takes m m'
  | givenUp (deviceId : ℕ) : m'.deviceIds = m.deviceIds.erase deviceId →
      m'.deviceOwner = m.deviceOwner.erase deviceId → DeviceChange own takes m m'
  | freed (deviceId : ℕ) : (own → m.deviceOwner.lookup deviceId = none) →
      m'.deviceIds = m.deviceIds.erase deviceId →
      m'.deviceOwner = m.deviceOwner → DeviceChange own takes m m'

section Changes

variable {own : Prop} {takes : ℕ → ℕ → Prop} {m m' : AgentMemory}

/-- Every device keeps an owner. -/
theorem DeviceChange.devicesOwned (h : DeviceChange own takes m m') (howned : DevicesOwned m) :
    DevicesOwned m' := by
  intro d hd
  cases h with
  | same hids howner =>
      rw [hids] at hd
      rw [howner]
      exact howned d hd
  | taken deviceId jobId _ hids howner =>
      rw [hids] at hd
      rw [howner]
      by_cases hsame : d = deviceId
      · rw [hsame, AList.lookup_insert]
        rfl
      · rw [AList.lookup_insert_ne hsame]
        exact howned d (Finset.mem_of_mem_insert_of_ne hd hsame)
  | givenUp deviceId hids howner =>
      rw [hids, Finset.mem_erase] at hd
      rw [howner, AList.lookup_erase_ne hd.1]
      exact howned d hd.2
  | freed deviceId _ hids howner =>
      rw [hids, Finset.mem_erase] at hd
      rw [howner]
      exact howned d hd.2

/-- The devices that are taken stay those with an owner, unless one is given up that is recorded
for another job. -/
theorem DeviceChange.devicesRecorded (h : DeviceChange own takes m m') (hown : own)
    (hrecorded : DevicesRecorded m) : DevicesRecorded m' := by
  intro d
  cases h with
  | same hids howner =>
      rw [hids, howner]
      exact hrecorded d
  | taken deviceId jobId _ hids howner =>
      rw [hids, howner]
      by_cases hsame : d = deviceId
      · rw [hsame, AList.lookup_insert]
        exact ⟨fun _ => rfl, fun _ => Finset.mem_insert_self _ _⟩
      · rw [AList.lookup_insert_ne hsame, Finset.mem_insert, ← hrecorded d]
        exact ⟨fun hd => hd.resolve_left hsame, .inr⟩
  | givenUp deviceId hids howner =>
      rw [hids, howner]
      by_cases hsame : d = deviceId
      · rw [hsame, AList.lookup_erase]
        exact ⟨fun hd => absurd hd (Finset.notMem_erase _ _), fun hd => by cases hd⟩
      · rw [AList.lookup_erase_ne hsame, Finset.mem_erase, ← hrecorded d]
        exact ⟨And.right, fun hd => ⟨hsame, hd⟩⟩
  | freed deviceId hnone hids howner =>
      rw [hids, howner, ← hrecorded d, Finset.mem_erase]
      refine ⟨And.right, fun hd => ⟨?_, hd⟩⟩
      rintro rfl
      have hsome := (hrecorded d).mp hd
      rw [hnone hown] at hsome
      cases hsome

/-- A job gets a device when the device is taken for it only. -/
theorem DeviceChange.owner (h : DeviceChange own takes m m') {deviceId jobId : ℕ}
    (howner' : m'.deviceOwner.lookup deviceId = some jobId) :
    m.deviceOwner.lookup deviceId = some jobId ∨ takes deviceId jobId := by
  cases h with
  | same _ howner =>
      rw [howner] at howner'
      exact .inl howner'
  | taken d j htakes _ howner =>
      rw [howner] at howner'
      by_cases hsame : deviceId = d
      · rw [hsame, AList.lookup_insert] at howner'
        cases howner'
        exact .inr (hsame ▸ htakes)
      · rw [AList.lookup_insert_ne hsame] at howner'
        exact .inl howner'
  | givenUp d _ howner =>
      rw [howner] at howner'
      by_cases hsame : deviceId = d
      · rw [hsame, AList.lookup_erase] at howner'
        cases howner'
      · rw [AList.lookup_erase_ne hsame] at howner'
        exact .inl howner'
  | freed d _ _ howner =>
      rw [howner] at howner'
      exact .inl howner'

/-- Giving a device up for a job, in a memory with the same devices. -/
theorem AgentMemory.dropDevice_change (deviceId jobId : ℕ)
    (hids : m'.deviceIds = m.deviceIds) (howner : m'.deviceOwner = m.deviceOwner)
    (hown : own → m.OwnedBy deviceId jobId) :
    DeviceChange own takes m (m'.dropDevice deviceId jobId) := by
  rw [AgentMemory.dropDevice, hids, howner]
  split
  · exact .givenUp deviceId rfl rfl
  · rename_i hother
    refine .freed deviceId (fun h => ?_) rfl rfl
    cases hlookup : m.deviceOwner.lookup deviceId with
    | none => rfl
    | some owner =>
        rw [hown h owner hlookup] at hlookup
        exact absurd hlookup hother

/-- A release changes the devices with their owners only. -/
theorem AgentMemory.release_change (m : AgentMemory) (jobId : ℕ) (workerToken : String)
    (deviceId : Option ℕ) : DeviceChange own takes m (m.release jobId workerToken deviceId) := by
  rw [AgentMemory.release_eq]
  split
  · rw [AgentMemory.giveUp.eq_def]
    cases deviceId with
    | none => exact .same rfl rfl
    | some deviceId =>
        dsimp only
        split
        · exact .givenUp deviceId rfl rfl
        · exact .same rfl rfl
  · exact .same rfl rfl

end Changes

/-- The job a step registers. -/
def AgentOp.registers : AgentOp → Option ℕ
  | .thread op => op.registers.map Prod.fst
  | _ => none

/-- A step takes the device for the job: the claim loop does, or a registration. -/
def AgentOp.Takes (op : AgentOp) (deviceId jobId : ℕ) : Prop :=
  op = .thread (.claimDevice jobId deviceId) ∨ op.registers = some jobId

/-- What a section does to the devices. -/
theorem AgentMemory.apply_change (w : AgentWorld) (op : RegistryOp) :
    DeviceChange (GivesUpOwn w (.thread op)) (AgentOp.thread op).Takes w.memory
      (w.memory.apply op) := by
  cases op with
  | claimDevice jobId deviceId =>
      rw [AgentMemory.apply, AgentMemory.claimDevice]
      split
      · exact .same rfl rfl
      · exact .taken deviceId jobId (.inl rfl) rfl rfl
  | registerOccupancy jobId fencingToken deviceId localWorkerToken =>
      cases deviceId with
      | none => exact .same rfl rfl
      | some deviceId => exact .taken deviceId jobId (.inr rfl) rfl rfl
  | exitOccupancy jobId workerToken deviceId =>
      rw [AgentMemory.apply, AgentMemory.exitOccupancy]
      split
      · cases deviceId with
        | none => exact .same rfl rfl
        | some deviceId =>
            exact AgentMemory.dropDevice_change deviceId jobId rfl rfl fun hown => hown deviceId rfl
      · exact .same rfl rfl
  | dropDevice deviceId jobId => exact AgentMemory.dropDevice_change deviceId jobId rfl rfl id
  | discardDevice deviceId => exact .freed deviceId id rfl rfl
  | attachRunner jobId workerToken runner =>
      rw [AgentMemory.apply, AgentMemory.attachRunner]
      split
      · exact .same rfl rfl
      · exact .same rfl rfl
  | detachRunner jobId workerToken runner =>
      rw [AgentMemory.apply, AgentMemory.detachRunner]
      split
      · exact .same rfl rfl
      · exact .same rfl rfl
  | requestAbort jobId =>
      rw [AgentMemory.apply, AgentMemory.requestAbort]
      split
      · exact .same rfl rfl
      · exact .same rfl rfl
  | cancelRunner jobId =>
      rw [AgentMemory.apply, AgentMemory.cancelRunner]
      split
      · exact .same rfl rfl
      · exact .same rfl rfl
  | release jobId workerToken deviceId => exact w.memory.release_change jobId workerToken deviceId
  | _ => exact .same rfl rfl

/-- What a stage of the callback does to the devices. -/
theorem AgentMemory.callback_change (m : AgentMemory) (lost : LostLease) (stage : CallbackStage)
    {takes : ℕ → ℕ → Prop} :
    DeviceChange (∀ d ∈ lost.deviceId, m.OwnedBy d lost.jobId) takes m
      (m.callback lost stage).1 := by
  cases stage with
  | notify =>
      rw [AgentMemory.callback, AgentMemory.notifyLeaseLostForDisarm]
      dsimp only
      split
      · exact .same rfl rfl
      · exact .same rfl rfl
  | requestAbort =>
      rw [AgentMemory.callback, AgentMemory.requestAbort]
      dsimp only
      split
      · exact .same rfl rfl
      · exact .same rfl rfl
  | cancelRunner =>
      rw [AgentMemory.callback, AgentMemory.cancelRunner]
      dsimp only
      split
      · exact .same rfl rfl
      · exact .same rfl rfl
  | cleanup abortDispatched =>
      obtain ⟨jobId, token, deviceId⟩ := lost
      cases deviceId with
      | none => exact .same rfl rfl
      | some deviceId =>
          cases abortDispatched with
          | true => exact .same rfl rfl
          | false =>
              exact AgentMemory.dropDevice_change deviceId jobId rfl rfl fun hown =>
                hown deviceId rfl

/-- The check of a lost lease leaves the devices. -/
theorem AgentMemory.handleLeaseLost_devices {m m' : AgentMemory} {jobId : ℕ} {token : String}
    {lost : LostLease} (h : m.handleLeaseLost jobId token = some (m', lost)) :
    m'.deviceIds = m.deviceIds ∧ m'.deviceOwner = m.deviceOwner ∧
      m'.jobIds = m.jobIds.erase jobId := by
  rw [AgentMemory.handleLeaseLost] at h
  split at h
  · cases h
  · cases h
    exact ⟨rfl, rfl, rfl⟩

/-- A step that deals with no lost lease, and is no section, leaves jobs and devices. -/
theorem AgentWorld.step_idle {batchChunk : ℕ} {w w' : AgentWorld} {op : AgentOp}
    (hstep : AgentWorld.Step batchChunk w op w') (hlost : w.lostLease op = none)
    (hthread : ∀ section', op ≠ .thread section') :
    w'.memory.jobIds = w.memory.jobIds ∧ w'.memory.deviceIds = w.memory.deviceIds ∧
      w'.memory.deviceOwner = w.memory.deviceOwner := by
  rw [AgentWorld.Step, AgentWorld.step.eq_def] at hstep
  cases op with
  | thread op => exact absurd rfl (hthread op)
  | tick =>
      dsimp only at hstep
      split at hstep
      · cases hstep
        exact ⟨rfl, rfl, rfl⟩
      · cases hstep
  | extend =>
      dsimp only at hstep
      split at hstep
      · cases hstep
        exact ⟨rfl, rfl, rfl⟩
      · cases hstep
  | response items =>
      dsimp only at hstep
      split at hstep
      · cases hstep
        exact ⟨rfl, rfl, rfl⟩
      · cases hstep
  | requestFailed =>
      dsimp only at hstep
      split at hstep
      · cases hstep
        exact ⟨rfl, rfl, rfl⟩
      · cases hstep
  | handle =>
      rw [AgentWorld.lostLease] at hlost
      dsimp only at hstep
      split at hstep
      · cases hstep
        exact ⟨rfl, rfl, rfl⟩
      · rename_i hphase
        simp only [hphase] at hlost
        split at hlost
        · cases hlost
        · rename_i hstatus
          rw [if_neg hstatus] at hstep
          cases hstep
          exact ⟨rfl, rfl, rfl⟩
      · cases hstep
  | callback =>
      rw [AgentWorld.lostLease] at hlost
      dsimp only at hstep
      split at hstep
      · rename_i hphase
        simp only [hphase] at hlost
        cases hlost
      · cases hstep
  | endRound =>
      cases hstep
      exact ⟨rfl, rfl, rfl⟩

/-- **What a step does to the devices.** -/
theorem AgentWorld.step_change {batchChunk : ℕ} {w w' : AgentWorld} {op : AgentOp}
    (hstep : AgentWorld.Step batchChunk w op w') :
    DeviceChange (GivesUpOwn w op) op.Takes w.memory w'.memory := by
  by_cases hthread : ∀ section', op ≠ .thread section'
  · cases hlost : w.lostLease op with
    | none =>
        obtain ⟨-, hids, howner⟩ := AgentWorld.step_idle hstep hlost hthread
        exact .same hids howner
    | some lease =>
        obtain ⟨jobId, token⟩ := lease
        cases op with
        | handle =>
            rcases AgentWorld.step_handle hstep hlost with ⟨-, hsame⟩ | ⟨lost, hhandled⟩
            · exact .same (by rw [hsame]) (by rw [hsame])
            · obtain ⟨hids, howner, -⟩ := AgentMemory.handleLeaseLost_devices hhandled
              exact .same hids howner
        | callback =>
            obtain ⟨stage, lost, hcalled, hmemory⟩ := AgentWorld.step_callback hstep
            rw [hmemory]
            cases w.memory.callback_change lost stage with
            | same hids howner => exact .same hids howner
            | taken d j htakes hids howner => exact .taken d j htakes hids howner
            | givenUp d hids howner => exact .givenUp d hids howner
            | freed d hnone hids howner =>
                exact .freed d (fun hown => hnone (hown lost hcalled)) hids howner
        | _ => cases hlost
  · push Not at hthread
    obtain ⟨section', rfl⟩ := hthread
    cases hstep
    exact AgentMemory.apply_change w section'

/-! ### Owners and registrations -/

/-- The claim loop has taken the device for the job, or a clean-up has unregistered the job; and
the job has not been registered since. -/
def Unregistered (tr : List (AgentWorld × AgentOp)) (deviceId jobId : ℕ) : Prop :=
  ∃ pre p post, tr = pre ++ p :: post ∧ (∀ q ∈ post, q.2.registers ≠ some jobId) ∧
    (p.2 = .thread (.claimDevice jobId deviceId) ∨
      (p.1.cleansUp p.2 = some jobId ∧ jobId ∈ p.1.memory.jobIds))

/-- A later step that does not register the job leaves it unregistered. -/
theorem Unregistered.snoc {tr : List (AgentWorld × AgentOp)} {deviceId jobId : ℕ}
    (h : Unregistered tr deviceId jobId) {p : AgentWorld × AgentOp}
    (hp : p.2.registers ≠ some jobId) : Unregistered (tr ++ [p]) deviceId jobId := by
  obtain ⟨pre, q, post, rfl, hpost, hq⟩ := h
  refine ⟨pre, q, post ++ [p], by rw [List.append_assoc, List.cons_append], ?_, hq⟩
  intro r hr
  rcases List.mem_append.mp hr with hr | hr
  · exact hpost r hr
  · rw [List.mem_singleton.mp hr]
    exact hp

/-- A step that takes the device for the job, or unregisters the job, leaves it unregistered. -/
theorem Unregistered.last {tr : List (AgentWorld × AgentOp)} {deviceId jobId : ℕ}
    {p : AgentWorld × AgentOp} (h : p.2 = .thread (.claimDevice jobId deviceId) ∨
      (p.1.cleansUp p.2 = some jobId ∧ jobId ∈ p.1.memory.jobIds)) :
    Unregistered (tr ++ [p]) deviceId jobId :=
  ⟨tr, p, [], rfl, by simp, h⟩

/-- A registered job is active. -/
theorem AgentWorld.step_registers {batchChunk : ℕ} {w w' : AgentWorld} {op : AgentOp} {jobId : ℕ}
    (hstep : AgentWorld.Step batchChunk w op w') (h : op.registers = some jobId) :
    jobId ∈ w'.memory.jobIds := by
  cases op with
  | thread op =>
      cases op with
      | registerOccupancy j fencingToken deviceId localWorkerToken =>
          cases hstep
          cases h
          rw [AgentMemory.apply,
            (w.memory.registerOccupancy_spec j fencingToken deviceId localWorkerToken).1]
          exact Finset.mem_insert_self _ _
      | _ => cases h
  | _ => cases h

/-- A section that unregisters a job cleans up for it. -/
theorem AgentMemory.apply_unregisters (w : AgentWorld) (op : RegistryOp) {jobId : ℕ}
    (hactive : jobId ∈ w.memory.jobIds) (hgone : jobId ∉ (w.memory.apply op).jobIds) :
    w.cleansUp (.thread op) = some jobId := by
  cases op with
  | claimDevice j deviceId =>
      rw [AgentMemory.apply, AgentMemory.claimDevice] at hgone
      split at hgone
      · exact absurd hactive hgone
      · exact absurd hactive hgone
  | registerOccupancy j fencingToken deviceId localWorkerToken =>
      rw [AgentMemory.apply,
        (w.memory.registerOccupancy_spec j fencingToken deviceId localWorkerToken).1] at hgone
      exact absurd (Finset.mem_insert_of_mem hactive) hgone
  | exitOccupancy j workerToken deviceId =>
      rw [AgentMemory.apply, AgentMemory.exitOccupancy] at hgone
      split at hgone
      · have hids : jobId ∉ w.memory.jobIds.erase j := by
          cases deviceId with
          | none => exact hgone
          | some deviceId => exact hgone
        by_contra hne
        exact hids (Finset.mem_erase.mpr ⟨fun h => hne (h ▸ rfl), hactive⟩)
      · exact absurd hactive hgone
  | rollbackOccupancy j =>
      by_contra hne
      exact hgone (Finset.mem_erase.mpr ⟨fun h => hne (h ▸ rfl), hactive⟩)
  | attachRunner j workerToken runner =>
      rw [AgentMemory.apply, AgentMemory.attachRunner] at hgone
      split at hgone
      · exact absurd hactive hgone
      · exact absurd hactive hgone
  | detachRunner j workerToken runner =>
      rw [AgentMemory.apply, AgentMemory.detachRunner] at hgone
      split at hgone
      · exact absurd hactive hgone
      · exact absurd hactive hgone
  | requestAbort j =>
      rw [AgentMemory.apply, AgentMemory.requestAbort] at hgone
      split at hgone
      · exact absurd hactive hgone
      · exact absurd hactive hgone
  | cancelRunner j =>
      rw [AgentMemory.apply, AgentMemory.cancelRunner] at hgone
      split at hgone
      · exact absurd hactive hgone
      · exact absurd hactive hgone
  | release j workerToken deviceId =>
      rw [AgentMemory.apply, AgentMemory.release_eq, AgentMemory.giveUp.eq_def] at hgone
      split at hgone
      · cases deviceId with
        | none => exact absurd hactive hgone
        | some deviceId =>
            dsimp only at hgone
            split at hgone
            · exact absurd hactive hgone
            · exact absurd hactive hgone
      · exact absurd hactive hgone
  | _ => exact absurd hactive hgone

/-- **A step that unregisters a job cleans up for it.** -/
theorem AgentWorld.step_unregisters {batchChunk : ℕ} {w w' : AgentWorld} {op : AgentOp}
    {jobId : ℕ} (hstep : AgentWorld.Step batchChunk w op w') (hactive : jobId ∈ w.memory.jobIds)
    (hgone : jobId ∉ w'.memory.jobIds) : w.cleansUp op = some jobId := by
  by_cases hthread : ∀ section', op ≠ .thread section'
  · cases hlost : w.lostLease op with
    | none =>
        obtain ⟨hids, -, -⟩ := AgentWorld.step_idle hstep hlost hthread
        exact absurd (hids ▸ hactive) hgone
    | some lease =>
        obtain ⟨j, token⟩ := lease
        cases op with
        | handle =>
            rw [AgentWorld.cleansUp, hlost]
            rcases AgentWorld.step_handle hstep hlost with ⟨-, hsame⟩ | ⟨lost, hhandled⟩
            · exact absurd (hsame ▸ hactive) hgone
            · obtain ⟨-, -, hids⟩ := AgentMemory.handleLeaseLost_devices hhandled
              rw [hids] at hgone
              by_contra hne
              exact hgone (Finset.mem_erase.mpr ⟨fun h => hne (h ▸ rfl), hactive⟩)
        | callback =>
            rw [AgentWorld.cleansUp, hlost]
            obtain ⟨lost, hcalled, hjob⟩ := AgentWorld.lostLease_callback hlost
            obtain ⟨stage, lost', hcalled', hmemory⟩ := AgentWorld.step_callback hstep
            cases hcalled.symm.trans hcalled'
            by_contra hne
            have hother : jobId ≠ lost.jobId := fun h => hne (h.trans hjob ▸ rfl)
            rw [hmemory] at hgone
            exact hgone ((EntriesKept.callback w.memory lost stage hother).active hactive)
        | _ => cases hlost
  · push Not at hthread
    obtain ⟨section', rfl⟩ := hthread
    cases hstep
    exact AgentMemory.apply_unregisters w section' hactive hgone

/-- Every owner is a registered job, or it has been left unregistered. -/
def OwnersKnown (tr : List (AgentWorld × AgentOp)) (w : AgentWorld) : Prop :=
  ∀ deviceId jobId, w.memory.deviceOwner.lookup deviceId = some jobId →
    jobId ∈ w.memory.jobIds ∨ Unregistered tr deviceId jobId

/-- **One step** keeps the owners known. -/
theorem OwnersKnown.step {batchChunk : ℕ} {tr : List (AgentWorld × AgentOp)} {w w' : AgentWorld}
    {op : AgentOp} (h : OwnersKnown tr w) (hstep : AgentWorld.Step batchChunk w op w') :
    OwnersKnown (tr ++ [(w, op)]) w' := by
  intro deviceId jobId howner'
  by_cases hactive : jobId ∈ w'.memory.jobIds
  · exact .inl hactive
  have hnot : op.registers ≠ some jobId := fun hreg =>
    hactive (AgentWorld.step_registers hstep hreg)
  right
  rcases (AgentWorld.step_change hstep).owner howner' with howner | hclaim | hreg
  · rcases h deviceId jobId howner with hwas | hunregistered
    · exact .last (.inr ⟨AgentWorld.step_unregisters hstep hwas hactive, hwas⟩)
    · exact hunregistered.snoc hnot
  · exact .last (.inl hclaim)
  · exact absurd hreg hnot

/-! ### Every run -/

/-- **Attempts are cleaned up for themselves.** In every run, a clean-up for a job leaves the
entries of all other jobs, and where it compares tokens those of the other attempts at the job.
A device that is taken has an owner, and the owner is a registered job, unless the device was
claimed for it and the job has not been registered since, or the job has been unregistered since.
As long as no device is given up that is recorded for another job, a device has an owner just
when it is taken. -/
theorem attempts_cleaned_up {batchChunk : ℕ} {w : AgentWorld} {tr : List (AgentWorld × AgentOp)}
    (hrun : Run (AgentWorld.Step batchChunk) .initial tr w) :
    (∀ p ∈ tr, ∀ w', AgentWorld.Step batchChunk p.1 p.2 w' → CleansOwnAttempt p.1 p.2 w') ∧
      (∀ deviceId ∈ w.memory.deviceIds, ∃ jobId,
        w.memory.deviceOwner.lookup deviceId = some jobId ∧
          (jobId ∈ w.memory.jobIds ∨ Unregistered tr deviceId jobId)) ∧
      ((∀ p ∈ tr, GivesUpOwn p.1 p.2) → DevicesRecorded w.memory) := by
  refine ⟨fun p _ w' hstep => AgentWorld.step_cleansOwnAttempt hstep, ?_, fun hown => ?_⟩
  · have howned : Holds (fun w => DevicesOwned w.memory) tr w :=
      hrun.invariant (P := fun w => DevicesOwned w.memory)
        (fun h hstep => (AgentWorld.step_change hstep).devicesOwned h)
        fun deviceId hd => absurd hd (Finset.notMem_empty _)
    have hknown : OwnersKnown ([] ++ emitted (fun w op => [(w, op)]) tr) w :=
      hrun.invariant_log OwnersKnown (fun h hstep => h.step hstep) fun d j h => by cases h
    have htr : emitted (fun w op => [(w, op)]) tr = tr := List.flatMap_singleton' tr
    rw [List.nil_append, htr] at hknown
    intro deviceId hd
    obtain ⟨jobId, howner⟩ := Option.isSome_iff_exists.mp (howned.2 deviceId hd)
    exact ⟨jobId, howner, hknown deviceId jobId howner⟩
  · have hstart : DevicesRecorded AgentMemory.initial := fun deviceId =>
      ⟨fun hd => absurd hd (Finset.notMem_empty _), fun hd => absurd hd Bool.false_ne_true⟩
    have hrecorded : Holds (fun w => DevicesRecorded w.memory) tr w :=
      hrun.invariant_of_guard (P := fun w => DevicesRecorded w.memory) GivesUpOwn
        (fun h hok hstep => (AgentWorld.step_change hstep).devicesRecorded hok h) hstart hown
    exact hrecorded.2

/-- The theorem at work: a claim is rolled back while another job goes on. -/
theorem attempts_cleaned_up_rollback :
    let ops : List AgentOp := (registerActiveJob 9 "9:1" (some 6) "worker-9-a" ++
      .claimDevice 7 5 :: registerActiveJob 7 "7:1" (some 5) "worker-7-a" ++
      rollbackFailedClaim 7 "7:1" "worker-7-a" (some 5) (some 5)).map .thread
    ∃ w, ops.foldlM (AgentWorld.step 50) .initial = some w ∧
      DevicesRecorded w.memory ∧ 6 ∈ w.memory.deviceIds ∧ 5 ∉ w.memory.deviceIds := by
  intro ops
  have hend : (ops.foldlM (AgentWorld.step 50) .initial).any (fun w =>
      decide (6 ∈ w.memory.deviceIds ∧ 5 ∉ w.memory.deviceIds)) = true := by decide
  rw [Option.any_eq_true] at hend
  obtain ⟨w, hw, hdevices⟩ := hend
  exact ⟨w, hw, (attempts_cleaned_up (Run.of_foldlM hw)).2.2 (by decide), of_decide_eq_true hdevices⟩

/-- A device is taken just when it has an owner, and the owner is a registered job. -/
def DevicesOfRegistered (m : AgentMemory) : Prop :=
  ∀ deviceId, deviceId ∈ m.deviceIds ↔
    ∃ jobId ∈ m.jobIds, m.deviceOwner.lookup deviceId = some jobId

/-- **The owner need not be registered.** Once the claim loop has taken a device for a job, and
before it registers the job, the device is taken and its owner is no registered job. -/
theorem claimed_device_unregistered :
    ∃ tr w, Run (AgentWorld.Step 50) .initial tr w ∧
      tr.map Prod.snd = [.thread (.claimDevice 7 5)] ∧ ¬ DevicesOfRegistered w.memory := by
  let ops : List AgentOp := [.thread (.claimDevice 7 5)]
  have hend : (ops.foldlM (AgentWorld.step 50) .initial).any (fun w => decide
      (5 ∈ w.memory.deviceIds ∧ w.memory.jobIds = ∅)) = true := by decide
  rw [Option.any_eq_true] at hend
  obtain ⟨w, hw, hdone⟩ := hend
  obtain ⟨htaken, hnone⟩ := of_decide_eq_true hdone
  refine ⟨_, w, Run.of_foldlM hw, map_snd_traceOf hw, fun h => ?_⟩
  obtain ⟨jobId, hactive, -⟩ := (h 5).mp htaken
  rw [hnone] at hactive
  exact Finset.notMem_empty _ hactive

end StabilityPlatform
