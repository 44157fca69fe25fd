import StabilityPlatform.Agent.Occupancy
import StabilityPlatform.Lib.Run

/-!
# Lost leases

The lease renewer of an agent sends the tokens of all jobs in one request. Where the answer says
that a lease is lost, it checks under the lock that the job still has the token that was sent,
forgets the job, releases the lock and then calls back: the runner is told, the worker is asked to
stop, and the registries are cleaned up. The callback goes by the number of the job alone.

So the check protects a worker that registers before it, under a newer token, but not one that
registers between the check and the callback; nor one whose own token is not yet, or no longer,
in the registries of the renewer when the check is made.

## Main results

* `AgentWorld.step`: the steps of the renewer and the sections of the other threads, in any order.
* `successor_spared`: a worker under another token is spared by every lost lease as long as no
  registration falls into a callback, and its token is there whenever a check is made.
* `callback_aborts_successor`: the callback for an old token ends a worker that has registered
  under a newer one.
-/

namespace StabilityPlatform

open Lib

/-! ### The renewer -/

/-- What an answer says of a lease. -/
inductive BatchStatus where
  | renewed
  | staleToken
  | jobNotRunning
  | leaseMissing
  | other
  deriving DecidableEq, Repr

/-- `_BATCH_LOST_STATUSES`. -/
def BatchStatus.lost : BatchStatus → Bool
  | staleToken | jobNotRunning | leaseMissing => true
  | renewed | other => false

/-- A lost lease that passed the check. -/
structure LostLease where
  jobId : ℕ
  token : String
  deviceId : Option ℕ
  deriving DecidableEq

/-- How far `handle_lease_lost` is. -/
inductive CallbackStage where
  | notify
  | requestAbort
  | cancelRunner
  | cleanup (abortDispatched : Bool)
  deriving DecidableEq

/-- What the renewer is doing. -/
inductive RenewerPhase where
  | idle
  | extending (jobIds : List ℕ)
  | sent (leases : List (ℕ × String)) (rest : List ℕ)
  | results (leases : List (ℕ × String)) (items : List (ℕ × BatchStatus)) (rest : List ℕ)
  | calling (stage : CallbackStage) (lost : LostLease) (leases : List (ℕ × String))
      (items : List (ℕ × BatchStatus)) (rest : List ℕ)

/-- The agent: what its threads share, and the renewer. -/
structure AgentWorld where
  memory : AgentMemory
  phase : RenewerPhase

/-- The agent after its start. -/
def AgentWorld.initial : AgentWorld := ⟨.initial, .idle⟩

/-- The token that was sent for a job; empty when none was. -/
def sentToken (leases : List (ℕ × String)) (jobId : ℕ) : String :=
  (leases.lookup jobId).getD ""

/-- The guard of `_handle_lease_lost`: the job has another token by now. -/
def AgentMemory.staleToken (m : AgentMemory) (jobId : ℕ) (token : String) : Bool :=
  token != "" && (m.leases.fencingTokens.lookup jobId).any fun current =>
    current != "" && current != token

/-- The section of `_handle_lease_lost`: nothing for a stale token, else the job is forgotten. -/
def AgentMemory.handleLeaseLost (m : AgentMemory) (jobId : ℕ) (token : String) :
    Option (AgentMemory × LostLease) :=
  if m.staleToken jobId token then none
  else some ({ m with jobIds := m.jobIds.erase jobId, leases := m.leases.forget jobId },
    ⟨jobId, token, m.leases.deviceIds.lookup jobId⟩)

/-- `_cleanup_after_lease_lost`. -/
def AgentMemory.cleanupAfterLeaseLost (m : AgentMemory) (lost : LostLease)
    (keepDeviceSlot : Bool) : AgentMemory :=
  let m := { m with
    jobIds := m.jobIds.erase lost.jobId
    jobTokens := m.jobTokens.erase lost.jobId }
  match lost.deviceId, keepDeviceSlot with
  | some deviceId, false => m.dropDevice deviceId lost.jobId
  | _, _ => m

/-- One stage of `handle_lease_lost`, with the next one. -/
def AgentMemory.callback (m : AgentMemory) (lost : LostLease) :
    CallbackStage → AgentMemory × Option CallbackStage
  | .notify => (m.notifyLeaseLostForDisarm lost.jobId, some .requestAbort)
  | .requestAbort =>
    let (m, dispatched) := m.requestAbort lost.jobId
    (m, some (if dispatched then .cancelRunner else .cleanup false))
  | .cancelRunner => (m.cancelRunner lost.jobId, some (.cleanup true))
  | .cleanup abortDispatched => (m.cleanupAfterLeaseLost lost abortDispatched, none)

/-- What happens in the agent. -/
inductive AgentOp where
  /-- A section of another thread. -/
  | thread (op : RegistryOp)
  /-- A round of renewals begins. -/
  | tick
  /-- The renewer reads the tokens of the next chunk and sends them. -/
  | extend
  /-- The answer comes. -/
  | response (items : List (ℕ × BatchStatus))
  /-- There is no answer, and the next chunk is tried. -/
  | requestFailed
  /-- The renewer looks at the next result. -/
  | handle
  /-- The callback goes on. -/
  | callback
  /-- The round ends: it is done, the renewer is stopped, the endpoint is missing, or something
  was raised. -/
  | endRound

/-- One step, if it can be taken; `batchChunk` is the number of jobs in a request. -/
def AgentWorld.step (batchChunk : ℕ) (w : AgentWorld) : AgentOp → Option AgentWorld
  | .thread op => some { w with memory := w.memory.apply op }
  | .tick =>
    match w.phase with
    | .idle =>
      let leases := w.memory.leases.purgeOrphans w.memory.jobIds
      some ⟨{ w.memory with leases := leases }, .extending leases.fencingTokens.keys⟩
    | _ => none
  | .extend =>
    match w.phase with
    | .extending jobIds =>
      let leases := (jobIds.take batchChunk).filterMap fun jobId =>
        (w.memory.leases.fencingTokens.lookup jobId).map fun token => (jobId, token)
      let rest := jobIds.drop batchChunk
      some { w with phase := if leases = [] then .extending rest else .sent leases rest }
    | _ => none
  | .response items =>
    match w.phase with
    | .sent leases rest => some { w with phase := .results leases items rest }
    | _ => none
  | .requestFailed =>
    match w.phase with
    | .sent _ rest => some { w with phase := .extending rest }
    | _ => none
  | .handle =>
    match w.phase with
    | .results _ [] rest => some { w with phase := .extending rest }
    | .results leases ((jobId, status) :: items) rest =>
      if status.lost then
        match w.memory.handleLeaseLost jobId (sentToken leases jobId) with
        | none => some { w with phase := .results leases items rest }
        | some (memory, lost) => some ⟨memory, .calling .notify lost leases items rest⟩
      else some { w with phase := .results leases items rest }
    | _ => none
  | .callback =>
    match w.phase with
    | .calling stage lost leases items rest =>
      match w.memory.callback lost stage with
      | (memory, some stage) => some ⟨memory, .calling stage lost leases items rest⟩
      | (memory, none) => some ⟨memory, .results leases items rest⟩
    | _ => none
  | .endRound => some { w with phase := .idle }

/-- The steps as a relation. -/
def AgentWorld.Step (batchChunk : ℕ) (w : AgentWorld) (op : AgentOp) (w' : AgentWorld) : Prop :=
  w.step batchChunk op = some w'

/-! ### What a lost lease may do -/

/-- The lost lease a step deals with: the job, and the token that was sent for it. -/
def AgentWorld.lostLease (w : AgentWorld) : AgentOp → Option (ℕ × String)
  | .handle =>
    match w.phase with
    | .results leases ((jobId, status) :: _) _ =>
      if status.lost then some (jobId, sentToken leases jobId) else none
    | _ => none
  | .callback =>
    match w.phase with
    | .calling _ lost _ _ _ => some (lost.jobId, lost.token)
    | _ => none
  | _ => none

/-- A worker of the job is registered under another token than this one. -/
def AgentMemory.Superseded (m : AgentMemory) (jobId : ℕ) (token : String) : Prop :=
  jobId ∈ m.jobIds ∧ m.registeredUnder.lookup jobId ≠ some token

/-- The worker of a job is left alone: it stays in the registries and is not asked to stop. -/
structure WorkerKept (m m' : AgentMemory) (jobId : ℕ) : Prop where
  active : jobId ∈ m'.jobIds
  worker : m'.jobTokens.lookup jobId = m.jobTokens.lookup jobId
  fencingToken : m'.leases.fencingTokens.lookup jobId = m.leases.fencingTokens.lookup jobId
  localWorkerToken :
    m'.leases.localWorkerTokens.lookup jobId = m.leases.localWorkerTokens.lookup jobId
  device : m'.leases.deviceIds.lookup jobId = m.leases.deviceIds.lookup jobId
  devices : ∀ deviceId, m.deviceOwner.lookup deviceId = some jobId →
    m'.deviceOwner.lookup deviceId = some jobId ∧
      (deviceId ∈ m.deviceIds → deviceId ∈ m'.deviceIds)
  abort : jobId ∈ m'.abortRequestedJobIds → jobId ∈ m.abortRequestedJobIds
  runner : ∀ r, m.activeRunners.lookup jobId = some r →
    (r.2 ∈ m'.cancelled → r.2 ∈ m.cancelled) ∧
      (r.2 ∈ m'.leaseLostForDisarm → r.2 ∈ m.leaseLostForDisarm)

/-- The worker is kept when nothing changes. -/
theorem WorkerKept.refl {m : AgentMemory} {jobId : ℕ} (h : jobId ∈ m.jobIds) :
    WorkerKept m m jobId :=
  ⟨h, rfl, rfl, rfl, rfl, fun _ ho => ⟨ho, id⟩, id, fun _ _ => ⟨id, id⟩⟩

/-- A step spares the successor: where it deals with a lease that was lost under one token, it
leaves a worker alone that is registered under another one. -/
def SparesSuccessor (w : AgentWorld) (op : AgentOp) (w' : AgentWorld) : Prop :=
  ∀ jobId token, w.lostLease op = some (jobId, token) → token ≠ "" →
    w.memory.Superseded jobId token → WorkerKept w.memory w'.memory jobId

/-! ### Undisturbed handlings -/

/-- The lost lease the callback is running for. -/
def RenewerPhase.called? : RenewerPhase → Option LostLease
  | .calling _ lost _ _ _ => some lost
  | _ => none

/-- **Nothing disturbs** the handling of lost leases: no job is registered under another token
while the callback is running for it, and when the check is made for a job that is registered
under another token than the one sent, then another token than that is there to check against. -/
def Undisturbed (w : AgentWorld) : AgentOp → Prop
  | .thread op => ∀ registered ∈ op.registers, ∀ lost ∈ w.phase.called?,
    lost.jobId = registered.1 → lost.token ≠ "" → lost.token = registered.2
  | .handle => ∀ lost ∈ w.lostLease .handle, lost.2 ≠ "" → w.memory.Superseded lost.1 lost.2 →
    w.memory.staleToken lost.1 lost.2 = true
  | _ => True

instance (m : AgentMemory) (jobId : ℕ) (token : String) : Decidable (m.Superseded jobId token) :=
  inferInstanceAs (Decidable (_ ∧ _))

instance (w : AgentWorld) : (op : AgentOp) → Decidable (Undisturbed w op)
  | .thread op => inferInstanceAs (Decidable (∀ registered ∈ op.registers, _))
  | .handle => inferInstanceAs (Decidable (∀ lost ∈ w.lostLease .handle, _))
  | .tick | .extend | .response _ | .requestFailed | .callback | .endRound => .isTrue trivial

/-- While the callback is running for a job, no worker is registered for it under another
token. -/
def CallbackInv (w : AgentWorld) : Prop :=
  ∀ lost, w.phase.called? = some lost → lost.token ≠ "" →
    ¬ w.memory.Superseded lost.jobId lost.token

/-- A job that is superseded afterwards was so before, if none became active. -/
theorem AgentMemory.Superseded.of_gainsNoJob {m m' : AgentMemory} {jobId : ℕ} {token : String}
    (h : m'.Superseded jobId token) (hgains : GainsNoJob m m') : m.Superseded jobId token :=
  ⟨hgains.jobIds h.1, hgains.registeredUnder ▸ h.2⟩

/-- Forgetting a job makes none active. -/
theorem AgentMemory.cleanupAfterLeaseLost_spec (m : AgentMemory) (lost : LostLease)
    (keepDeviceSlot : Bool) : GainsNoJob m (m.cleanupAfterLeaseLost lost keepDeviceSlot) := by
  obtain ⟨jobId, token, deviceId⟩ := lost
  cases deviceId with
  | none => exact ⟨Finset.erase_subset .., rfl⟩
  | some deviceId =>
      cases keepDeviceSlot with
      | true => exact ⟨Finset.erase_subset .., rfl⟩
      | false => exact ⟨Finset.erase_subset .., rfl⟩

/-- The callback makes no job active. -/
theorem AgentMemory.callback_spec (m : AgentMemory) (lost : LostLease) (stage : CallbackStage) :
    GainsNoJob m (m.callback lost stage).1 := by
  cases stage with
  | notify => exact m.notifyLeaseLostForDisarm_spec lost.jobId
  | requestAbort => exact m.requestAbort_spec lost.jobId
  | cancelRunner => exact m.cancelRunner_spec lost.jobId
  | cleanup abortDispatched => exact m.cleanupAfterLeaseLost_spec lost abortDispatched

/-- A stale token changes nothing; for any other one the job is not active any more. -/
theorem AgentMemory.handleLeaseLost_spec {m m' : AgentMemory} {jobId : ℕ} {token : String}
    {lost : LostLease} (h : m.handleLeaseLost jobId token = some (m', lost)) :
    m.staleToken jobId token = false ∧ jobId ∉ m'.jobIds ∧ lost.jobId = jobId ∧
      lost.token = token := by
  rw [AgentMemory.handleLeaseLost] at h
  split at h
  · cases h
  · rename_i hstale
    cases h
    exact ⟨Bool.eq_false_iff.mpr hstale, Finset.notMem_erase _ _, rfl, rfl⟩

/-- **One step** keeps the invariant. -/
theorem CallbackInv.step {batchChunk : ℕ} {w w' : AgentWorld} {op : AgentOp} (h : CallbackInv w)
    (hstep : AgentWorld.Step batchChunk w op w') (hok : Undisturbed w op) : CallbackInv w' := by
  rw [AgentWorld.Step] at hstep
  intro lost hcalled htoken hsuper
  cases op with
  | thread op' =>
      cases hstep
      cases hregisters : op'.registers with
      | none => exact h lost hcalled htoken (hsuper.of_gainsNoJob (w.memory.apply_spec op' hregisters))
      | some registration =>
          cases op' with
          | registerOccupancy jobId fencingToken deviceId localWorkerToken =>
              obtain ⟨hids, hunder⟩ :=
                w.memory.registerOccupancy_spec jobId fencingToken deviceId localWorkerToken
              obtain ⟨hactive, hother⟩ := hsuper
              rw [AgentMemory.apply, hids] at hactive
              rw [AgentMemory.apply, hunder] at hother
              by_cases hjob : lost.jobId = jobId
              · have hsame := hok _ rfl lost hcalled hjob htoken
                rw [hjob, AList.lookup_insert, hsame] at hother
                exact hother rfl
              · rw [AList.lookup_insert_ne hjob] at hother
                exact h lost hcalled htoken ⟨Finset.mem_of_mem_insert_of_ne hactive hjob, hother⟩
          | _ => cases hregisters
  | tick =>
      rw [AgentWorld.step] at hstep
      split at hstep
      · cases hstep
        cases hcalled
      · cases hstep
  | extend =>
      rw [AgentWorld.step] at hstep
      split at hstep
      · cases hstep
        dsimp only at hcalled
        split at hcalled
        · cases hcalled
        · cases hcalled
      · cases hstep
  | response items =>
      rw [AgentWorld.step] at hstep
      split at hstep
      · cases hstep
        cases hcalled
      · cases hstep
  | requestFailed =>
      rw [AgentWorld.step] at hstep
      split at hstep
      · cases hstep
        cases hcalled
      · cases hstep
  | handle =>
      rw [AgentWorld.step] at hstep
      split at hstep
      · cases hstep
        cases hcalled
      · split at hstep
        · split at hstep
          · cases hstep
            cases hcalled
          · rename_i hhandled
            cases hstep
            cases hcalled
            obtain ⟨-, hgone, hjob, -⟩ := AgentMemory.handleLeaseLost_spec hhandled
            exact hgone (hjob ▸ hsuper.1)
        · cases hstep
          cases hcalled
      · cases hstep
  | callback =>
      rw [AgentWorld.step] at hstep
      split at hstep
      · rename_i stage lost' leases items rest hphase
        have hspec := w.memory.callback_spec lost' stage
        split at hstep
        · rename_i memory next hcallback
          cases hstep
          cases hcalled
          rw [hcallback] at hspec
          exact h _ (by rw [hphase]; rfl) htoken (hsuper.of_gainsNoJob hspec)
        · cases hstep
          cases hcalled
      · cases hstep
  | endRound =>
      cases hstep
      cases hcalled

/-- An undisturbed step spares the successor. -/
theorem CallbackInv.spares {batchChunk : ℕ} {w w' : AgentWorld} {op : AgentOp} (h : CallbackInv w)
    (hstep : AgentWorld.Step batchChunk w op w') (hok : Undisturbed w op) :
    SparesSuccessor w op w' := by
  rw [AgentWorld.Step] at hstep
  intro jobId token hlost htoken hsuper
  cases op with
  | handle =>
      have hstale := hok _ hlost htoken hsuper
      rw [AgentWorld.lostLease] at hlost
      split at hlost
      · rename_i leases j status items rest hphase
        split at hlost
        · rename_i hstatus
          cases hlost
          rw [AgentWorld.step, hphase] at hstep
          dsimp only at hstep
          rw [if_pos hstatus, AgentMemory.handleLeaseLost, if_pos hstale] at hstep
          cases hstep
          exact .refl hsuper.1
        · cases hlost
      · cases hlost
  | callback =>
      rw [AgentWorld.lostLease] at hlost
      split at hlost
      · rename_i stage lost leases items rest hphase
        cases hlost
        exact absurd hsuper (h lost (by rw [hphase]; rfl) htoken)
      · cases hlost
  | _ => cases hlost

/-- **A lost lease spares the successor** in every run whose steps are undisturbed: whatever order
the sections of the threads and the steps of the renewer come in, a lease that was lost under one
token leaves a worker of the job alone that is registered under another one. -/
theorem successor_spared {batchChunk : ℕ} {w : AgentWorld} {tr : List (AgentWorld × AgentOp)}
    (hrun : Run (AgentWorld.Step batchChunk) .initial tr w)
    (hok : ∀ p ∈ tr, Undisturbed p.1 p.2) :
    ∀ p ∈ tr, ∀ w', p.1.step batchChunk p.2 = some w' → SparesSuccessor p.1 p.2 w' := by
  have hinv : Holds CallbackInv tr w :=
    hrun.invariant_of_guard Undisturbed (fun h hok hstep => h.step hstep hok)
      (fun lost hcalled => by cases hcalled) hok
  exact fun p hp w' hstep => (hinv.1 p hp).spares hstep (hok p hp)

/-- The theorem at work: a worker registers under a newer token while the answer for the old one
is on its way, and the lost lease leaves it alone. -/
theorem successor_spared_registered :
    let ops : List AgentOp := (registerActiveJob 7 "5:1" (some 5) "worker-7-a").map .thread ++
      [.tick, .extend] ++ (registerActiveJob 7 "5:2" (some 5) "resume-7-b").map .thread ++
      [.response [(7, .staleToken)], .handle]
    ∀ p ∈ traceOf (AgentWorld.step 50) .initial ops, ∀ w', p.1.step 50 p.2 = some w' →
      SparesSuccessor p.1 p.2 w' := by
  intro ops
  have htaken : (ops.foldlM (AgentWorld.step 50) .initial).isSome = true := by decide
  obtain ⟨w, hw⟩ := Option.isSome_iff_exists.mp htaken
  exact successor_spared (Run.of_foldlM hw) (by decide)

/-- **The callback ends the successor.** Between the check for the old token and the callback a
worker registers under a newer one and attaches its runner; the callback asks it to stop, cancels
its runner and takes its job out of the active ones. -/
theorem callback_aborts_successor :
    ∃ tr w, Run (AgentWorld.Step 50) .initial tr w ∧
      (7 ∉ w.memory.jobIds ∧ 2 ∈ w.memory.cancelled) ∧
      ¬ ∀ p ∈ tr, ∀ w', p.1.step 50 p.2 = some w' → SparesSuccessor p.1 p.2 w' := by
  let ops : List AgentOp := (registerActiveJob 7 "5:1" (some 5) "worker-7-a").map .thread ++
    [.tick, .extend, .response [(7, .staleToken)], .handle] ++
    (registerActiveJob 7 "5:2" (some 5) "resume-7-b").map .thread ++
    [.thread (.attachRunner 7 "resume-7-b" 2), .callback, .callback, .callback, .callback]
  have htaken : (ops.foldlM (AgentWorld.step 50) .initial).isSome = true := by decide
  obtain ⟨w, hw⟩ := Option.isSome_iff_exists.mp htaken
  have hend : (ops.foldlM (AgentWorld.step 50) .initial).all (fun w =>
      decide (7 ∉ w.memory.jobIds ∧ 2 ∈ w.memory.cancelled)) = true := by decide
  rw [hw, Option.all_some, decide_eq_true_eq] at hend
  refine ⟨_, w, Run.of_foldlM hw, hend, fun hall => ?_⟩
  have hstep : ∃ p ∈ traceOf (AgentWorld.step 50) .initial ops, (p.1.step 50 p.2).any (fun w' =>
      p.1.lostLease p.2 = some (7, "5:1") ∧ p.1.memory.Superseded 7 "5:1" ∧
        7 ∉ w'.memory.jobIds) = true := by decide
  obtain ⟨p, hp, hany⟩ := hstep
  rw [Option.any_eq_true] at hany
  obtain ⟨w', hw', hdone⟩ := hany
  obtain ⟨hlost, hsuper, hgone⟩ := of_decide_eq_true hdone
  exact hgone (hall p hp w' hw' 7 "5:1" hlost (by decide) hsuper).active

end StabilityPlatform
