import Mathlib

/-!
# What the threads of an agent share

The claim loop, the recovery, the workers and the renewer of an agent share the jobs that are
active, the devices they occupy and the tokens they hold, all behind one lock. A function that
takes the lock more than once works in several sections, and other threads may come in between.
Each section is one definition here.

A worker is known to the registries by its worker token only. The fencing token it was registered
under is remembered beside them, as history.

## Main results

* `RegistryOp`: the sections of the threads other than the renewer.
* `registerActiveJob`, `rollbackFailedClaim`: functions as the sections they consist of.
* `AgentMemory.apply_spec`: a job becomes active by registration only.
-/

namespace StabilityPlatform

/-- A dictionary by number. -/
abbrev Registry (α : Type) := AList fun _ : ℕ => α

/-- Forget several keys. -/
def eraseAll {α : Type} (registry : Registry α) (keys : List ℕ) : Registry α :=
  keys.foldl (fun r k => r.erase k) registry

/-! ### Memory -/

/-- The registries of the lease renewer. -/
structure LeaseRegistry where
  fencingTokens : Registry String
  localWorkerTokens : Registry String
  deviceIds : Registry ℕ

/-- The memory the threads share. -/
structure AgentMemory where
  jobIds : Finset ℕ
  deviceIds : Finset ℕ
  jobTokens : Registry String
  deviceOwner : Registry ℕ
  leases : LeaseRegistry
  runningWorkerTokens : Registry String
  activeRunners : Registry (String × ℕ)
  abortRequestedJobIds : Finset ℕ
  cancelled : Finset ℕ
  leaseLostForDisarm : Finset ℕ
  registeredUnder : Registry String

/-- An agent that has just started. -/
def AgentMemory.initial : AgentMemory :=
  ⟨∅, ∅, ∅, ∅, ⟨∅, ∅, ∅⟩, ∅, ∅, ∅, ∅, ∅, ∅⟩

/-! ### The lease registries -/

/-- Forget a job. -/
def LeaseRegistry.forget (l : LeaseRegistry) (jobId : ℕ) : LeaseRegistry :=
  ⟨l.fencingTokens.erase jobId, l.localWorkerTokens.erase jobId, l.deviceIds.erase jobId⟩

/-- `effective_worker_token`. -/
def effectiveWorkerToken (fencingToken localWorkerToken : String) : String :=
  if localWorkerToken = "" then fencingToken else localWorkerToken

/-- `set_fencing_token`. -/
def LeaseRegistry.setFencingToken (l : LeaseRegistry) (jobId : ℕ) (token : String)
    (deviceId : Option ℕ) (localWorkerToken : String) : LeaseRegistry where
  fencingTokens := l.fencingTokens.insert jobId token
  localWorkerTokens := l.localWorkerTokens.insert jobId (effectiveWorkerToken token localWorkerToken)
  deviceIds := match deviceId with
    | some deviceId => l.deviceIds.insert jobId deviceId
    | none => l.deviceIds.erase jobId

/-- `clear_fencing_token_if_current`, with the device that was given up. -/
def LeaseRegistry.clearFencingTokenIfCurrent (l : LeaseRegistry) (jobId : ℕ)
    (token localWorkerToken : String) : LeaseRegistry × Option ℕ :=
  let current := (l.fencingTokens.lookup jobId).getD ""
  let currentWorker := (l.localWorkerTokens.lookup jobId).getD current
  let expectedWorker := effectiveWorkerToken token localWorkerToken
  if token ≠ "" ∧ current ≠ "" ∧ current ≠ token then (l, none)
  else if expectedWorker ≠ "" ∧ currentWorker ≠ "" ∧ currentWorker ≠ expectedWorker then (l, none)
  else (l.forget jobId, l.deviceIds.lookup jobId)

/-- What a round of renewals begins with: the tokens of jobs that are not active are purged. -/
def LeaseRegistry.purgeOrphans (l : LeaseRegistry) (jobIds : Finset ℕ) : LeaseRegistry :=
  let orphans := l.fencingTokens.keys.filter fun jobId => jobId ∉ jobIds
  ⟨eraseAll l.fencingTokens orphans, eraseAll l.localWorkerTokens orphans,
    eraseAll l.deviceIds orphans⟩

/-! ### Sections of the other threads -/

/-- Give a device up that belongs to a job; the device itself goes whoever has it. -/
def AgentMemory.dropDevice (m : AgentMemory) (deviceId jobId : ℕ) : AgentMemory :=
  { m with
    deviceIds := m.deviceIds.erase deviceId
    deviceOwner := if m.deviceOwner.lookup deviceId = some jobId then m.deviceOwner.erase deviceId
      else m.deviceOwner }

/-- The claim loop takes a device that is free. -/
def AgentMemory.claimDevice (m : AgentMemory) (jobId deviceId : ℕ) : AgentMemory :=
  if deviceId ∈ m.deviceIds then m
  else { m with
    deviceIds := insert deviceId m.deviceIds
    deviceOwner := m.deviceOwner.insert deviceId jobId }

/-- The section of `register_active_job` that makes a job active. -/
def AgentMemory.registerOccupancy (m : AgentMemory) (jobId : ℕ) (fencingToken : String)
    (deviceId : Option ℕ) (localWorkerToken : String) : AgentMemory :=
  let m := { m with
    jobIds := insert jobId m.jobIds
    jobTokens := m.jobTokens.insert jobId (effectiveWorkerToken fencingToken localWorkerToken)
    registeredUnder := m.registeredUnder.insert jobId fencingToken }
  match deviceId with
  | some deviceId => { m with
    deviceIds := insert deviceId m.deviceIds
    deviceOwner := m.deviceOwner.insert deviceId jobId }
  | none => m

/-- The section of `_cleanup_after_job_exit` that follows the lease registries. -/
def AgentMemory.exitOccupancy (m : AgentMemory) (jobId : ℕ) (workerToken : String)
    (deviceId : Option ℕ) : AgentMemory :=
  if jobId ∈ m.jobIds ∧
      (workerToken = "" ∨ (m.jobTokens.lookup jobId).getD "" = workerToken) then
    let m := { m with jobIds := m.jobIds.erase jobId, jobTokens := m.jobTokens.erase jobId }
    match deviceId with
    | some deviceId => m.dropDevice deviceId jobId
    | none => m
  else m

/-- `try_mark_worker_started`. -/
def AgentMemory.tryMarkWorkerStarted (m : AgentMemory) (jobId : ℕ) (workerToken : String) :
    AgentMemory :=
  { m with runningWorkerTokens := m.runningWorkerTokens.insert jobId workerToken }

/-- `attach_runner`. -/
def AgentMemory.attachRunner (m : AgentMemory) (jobId : ℕ) (workerToken : String) (runner : ℕ) :
    AgentMemory :=
  if jobId ∉ m.jobIds ∨ (m.jobTokens.lookup jobId).getD "" ≠ workerToken ∨
      jobId ∈ m.abortRequestedJobIds then
    { m with cancelled := insert runner m.cancelled }
  else { m with activeRunners := m.activeRunners.insert jobId (workerToken, runner) }

/-- `detach_runner`. -/
def AgentMemory.detachRunner (m : AgentMemory) (jobId : ℕ) (workerToken : String) (runner : ℕ) :
    AgentMemory :=
  if m.activeRunners.lookup jobId = some (workerToken, runner) then
    { m with activeRunners := m.activeRunners.erase jobId }
  else m

/-- `cancel_runner`: the runner that was read is cancelled. -/
def AgentMemory.cancelRunner (m : AgentMemory) (jobId : ℕ) : AgentMemory :=
  match m.activeRunners.lookup jobId with
  | some (_, runner) => { m with cancelled := insert runner m.cancelled }
  | none => m

/-- `notify_lease_lost_for_disarm`. -/
def AgentMemory.notifyLeaseLostForDisarm (m : AgentMemory) (jobId : ℕ) : AgentMemory :=
  match m.activeRunners.lookup jobId with
  | some (_, runner) => { m with leaseLostForDisarm := insert runner m.leaseLostForDisarm }
  | none => m

/-- The section of `request_abort`, with whether the job is active. -/
def AgentMemory.requestAbort (m : AgentMemory) (jobId : ℕ) : AgentMemory × Bool :=
  if jobId ∈ m.jobIds then
    ({ m with abortRequestedJobIds := insert jobId m.abortRequestedJobIds }, true)
  else (m, false)

/-- The section of `release` that follows `lock_deregister`. -/
def AgentMemory.release (m : AgentMemory) (jobId : ℕ) (workerToken : String)
    (deviceId : Option ℕ) : AgentMemory :=
  let isCurrentWorker := (m.jobTokens.lookup jobId).all (· == workerToken)
  let m := { m with
    runningWorkerTokens := if m.runningWorkerTokens.lookup jobId = some workerToken then
      m.runningWorkerTokens.erase jobId else m.runningWorkerTokens
    activeRunners := if (m.activeRunners.lookup jobId).any (·.1 == workerToken) then
      m.activeRunners.erase jobId else m.activeRunners }
  if isCurrentWorker then
    let m := { m with abortRequestedJobIds := m.abortRequestedJobIds.erase jobId }
    match deviceId with
    | some deviceId =>
      if (m.deviceOwner.lookup deviceId).all (· == jobId) then
        { m with
          deviceIds := m.deviceIds.erase deviceId
          deviceOwner := m.deviceOwner.erase deviceId }
      else m
    | none => m
  else m

/-- `is_aborted`, which a worker asks about itself. -/
def AgentMemory.isAborted (m : AgentMemory) (jobId : ℕ) (workerToken : String) : Bool :=
  jobId ∈ m.abortRequestedJobIds || jobId ∉ m.jobIds ||
    (m.jobTokens.lookup jobId).getD "" != workerToken

/-- The sections of the threads other than the renewer. What one section found and another one
uses is an argument of the latter. -/
inductive RegistryOp where
  | claimDevice (jobId deviceId : ℕ)
  | registerOccupancy (jobId : ℕ) (fencingToken : String) (deviceId : Option ℕ)
      (localWorkerToken : String)
  | setFencingToken (jobId : ℕ) (token : String) (deviceId : Option ℕ) (localWorkerToken : String)
  | clearFencingToken (jobId : ℕ)
  | clearFencingTokenIfCurrent (jobId : ℕ) (token localWorkerToken : String)
  | exitOccupancy (jobId : ℕ) (workerToken : String) (deviceId : Option ℕ)
  | rollbackOccupancy (jobId : ℕ)
  | dropDevice (deviceId jobId : ℕ)
  | discardDevice (deviceId : ℕ)
  | tryMarkWorkerStarted (jobId : ℕ) (workerToken : String)
  | attachRunner (jobId : ℕ) (workerToken : String) (runner : ℕ)
  | detachRunner (jobId : ℕ) (workerToken : String) (runner : ℕ)
  | requestAbort (jobId : ℕ)
  | cancelRunner (jobId : ℕ)
  | release (jobId : ℕ) (workerToken : String) (deviceId : Option ℕ)

/-- One section. -/
def AgentMemory.apply (m : AgentMemory) : RegistryOp → AgentMemory
  | .claimDevice jobId deviceId => m.claimDevice jobId deviceId
  | .registerOccupancy jobId fencingToken deviceId localWorkerToken =>
    m.registerOccupancy jobId fencingToken deviceId localWorkerToken
  | .setFencingToken jobId token deviceId localWorkerToken =>
    { m with leases := m.leases.setFencingToken jobId token deviceId localWorkerToken }
  | .clearFencingToken jobId => { m with leases := m.leases.forget jobId }
  | .clearFencingTokenIfCurrent jobId token localWorkerToken =>
    { m with leases := (m.leases.clearFencingTokenIfCurrent jobId token localWorkerToken).1 }
  | .exitOccupancy jobId workerToken deviceId => m.exitOccupancy jobId workerToken deviceId
  | .rollbackOccupancy jobId =>
    { m with jobIds := m.jobIds.erase jobId, jobTokens := m.jobTokens.erase jobId }
  | .dropDevice deviceId jobId => m.dropDevice deviceId jobId
  | .discardDevice deviceId => { m with deviceIds := m.deviceIds.erase deviceId }
  | .tryMarkWorkerStarted jobId workerToken => m.tryMarkWorkerStarted jobId workerToken
  | .attachRunner jobId workerToken runner => m.attachRunner jobId workerToken runner
  | .detachRunner jobId workerToken runner => m.detachRunner jobId workerToken runner
  | .requestAbort jobId => (m.requestAbort jobId).1
  | .cancelRunner jobId => m.cancelRunner jobId
  | .release jobId workerToken deviceId => m.release jobId workerToken deviceId

/-! ### Functions as sections -/

/-- `register_active_job`. -/
def registerActiveJob (jobId : ℕ) (fencingToken : String) (deviceId : Option ℕ)
    (localWorkerToken : String) : List RegistryOp :=
  let workerToken := effectiveWorkerToken fencingToken localWorkerToken
  .registerOccupancy jobId fencingToken deviceId localWorkerToken ::
    if fencingToken = "" then [] else [.setFencingToken jobId fencingToken deviceId workerToken]

/-- `_rollback_failed_claim`, with the device the lease registries gave up. -/
def rollbackFailedClaim (jobId : ℕ) (fencingToken localWorkerToken : String)
    (releasedDevice deviceId : Option ℕ) : List RegistryOp :=
  [.clearFencingTokenIfCurrent jobId fencingToken localWorkerToken, .rollbackOccupancy jobId] ++
    ((releasedDevice <|> deviceId).toList.map fun deviceId => .dropDevice deviceId jobId)

/-! ### What sections do to the active jobs -/

/-- The job a section registers, and the token it registers it under. -/
def RegistryOp.registers : RegistryOp → Option (ℕ × String)
  | .registerOccupancy jobId fencingToken _ _ => some (jobId, fencingToken)
  | _ => none

/-- No job becomes active, and the tokens of the registrations stay. -/
structure GainsNoJob (m m' : AgentMemory) : Prop where
  jobIds : m'.jobIds ⊆ m.jobIds
  registeredUnder : m'.registeredUnder = m.registeredUnder

/-- The active jobs and their tokens stay. -/
theorem GainsNoJob.of_eq {m m' : AgentMemory} (hids : m'.jobIds = m.jobIds)
    (hunder : m'.registeredUnder = m.registeredUnder) : GainsNoJob m m' :=
  ⟨hids ▸ Finset.Subset.refl _, hunder⟩

/-- Registration makes the job active, under its token. -/
theorem AgentMemory.registerOccupancy_spec (m : AgentMemory) (jobId : ℕ) (fencingToken : String)
    (deviceId : Option ℕ) (localWorkerToken : String) :
    (m.registerOccupancy jobId fencingToken deviceId localWorkerToken).jobIds =
        insert jobId m.jobIds ∧
      (m.registerOccupancy jobId fencingToken deviceId localWorkerToken).registeredUnder =
        m.registeredUnder.insert jobId fencingToken := by
  cases deviceId with
  | none => exact ⟨rfl, rfl⟩
  | some deviceId => exact ⟨rfl, rfl⟩

/-- Cancelling a runner leaves the jobs. -/
theorem AgentMemory.cancelRunner_spec (m : AgentMemory) (jobId : ℕ) :
    GainsNoJob m (m.cancelRunner jobId) := by
  rw [AgentMemory.cancelRunner]
  split
  · exact .of_eq rfl rfl
  · exact .of_eq rfl rfl

/-- Telling a runner leaves the jobs. -/
theorem AgentMemory.notifyLeaseLostForDisarm_spec (m : AgentMemory) (jobId : ℕ) :
    GainsNoJob m (m.notifyLeaseLostForDisarm jobId) := by
  rw [AgentMemory.notifyLeaseLostForDisarm]
  split
  · exact .of_eq rfl rfl
  · exact .of_eq rfl rfl

/-- Asking a job to stop leaves it active. -/
theorem AgentMemory.requestAbort_spec (m : AgentMemory) (jobId : ℕ) :
    GainsNoJob m (m.requestAbort jobId).1 := by
  rw [AgentMemory.requestAbort]
  split
  · exact .of_eq rfl rfl
  · exact .of_eq rfl rfl

/-- An exit ends its own job at most. -/
theorem AgentMemory.exitOccupancy_spec (m : AgentMemory) (jobId : ℕ) (workerToken : String)
    (deviceId : Option ℕ) : GainsNoJob m (m.exitOccupancy jobId workerToken deviceId) := by
  rw [AgentMemory.exitOccupancy]
  split
  · cases deviceId with
    | none => exact ⟨Finset.erase_subset .., rfl⟩
    | some deviceId => exact ⟨Finset.erase_subset .., rfl⟩
  · exact .of_eq rfl rfl

/-- A release leaves the jobs. -/
theorem AgentMemory.release_spec (m : AgentMemory) (jobId : ℕ) (workerToken : String)
    (deviceId : Option ℕ) : GainsNoJob m (m.release jobId workerToken deviceId) := by
  rw [AgentMemory.release]
  dsimp only
  split
  · cases deviceId with
    | none => exact .of_eq rfl rfl
    | some deviceId =>
        dsimp only
        split
        · exact .of_eq rfl rfl
        · exact .of_eq rfl rfl
  · exact .of_eq rfl rfl

/-- **A job becomes active by registration only.** -/
theorem AgentMemory.apply_spec (m : AgentMemory) (op : RegistryOp) (h : op.registers = none) :
    GainsNoJob m (m.apply op) := by
  cases op with
  | claimDevice jobId deviceId =>
      rw [AgentMemory.apply, AgentMemory.claimDevice]
      split
      · exact .of_eq rfl rfl
      · exact .of_eq rfl rfl
  | registerOccupancy jobId fencingToken deviceId localWorkerToken => cases h
  | setFencingToken jobId token deviceId localWorkerToken => exact .of_eq rfl rfl
  | clearFencingToken jobId => exact .of_eq rfl rfl
  | clearFencingTokenIfCurrent jobId token localWorkerToken => exact .of_eq rfl rfl
  | exitOccupancy jobId workerToken deviceId => exact m.exitOccupancy_spec jobId workerToken deviceId
  | rollbackOccupancy jobId => exact ⟨Finset.erase_subset .., rfl⟩
  | dropDevice deviceId jobId => exact .of_eq rfl rfl
  | discardDevice deviceId => exact .of_eq rfl rfl
  | tryMarkWorkerStarted jobId workerToken => exact .of_eq rfl rfl
  | attachRunner jobId workerToken runner =>
      rw [AgentMemory.apply, AgentMemory.attachRunner]
      split
      · exact .of_eq rfl rfl
      · exact .of_eq rfl rfl
  | detachRunner jobId workerToken runner =>
      rw [AgentMemory.apply, AgentMemory.detachRunner]
      split
      · exact .of_eq rfl rfl
      · exact .of_eq rfl rfl
  | requestAbort jobId => exact m.requestAbort_spec jobId
  | cancelRunner jobId => exact m.cancelRunner_spec jobId
  | release jobId workerToken deviceId => exact m.release_spec jobId workerToken deviceId

end StabilityPlatform
