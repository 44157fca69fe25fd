import StabilityPlatform.Lib.ExpiringKeys
import StabilityPlatform.Lib.Run

/-!
# Console runs and their keys

Several control planes start commands for each other's users. A run is started under a key, of
which there is to be one at a time: an instance first takes the key in a set of its own, then in
a registry that all instances share and in which a key disappears unless it is renewed, lists the
run, registers itself as its owner, sees to it that its ticker runs, spawns the command, and
starts a thread that reads what the command writes. That thread finalises the run when the
command has ended.

The steps below are the statements of `RunConsole` that touch the set, the registry or the list
of runs. A run is known by its id, which is made for it and unique. A command to the registry
may fail, with or without having been carried out. Snapshots, owner entries and what the command
writes play no part in who may start, and are left out; a request of another instance to cancel a
run ends in `cancel` on the instance that has it.

## Main results

* `consoleStep`: one step.
* `RunPhase`: where a run is.
-/

namespace StabilityPlatform

open Lib

/-- `console_registry_ttl_seconds`, in milliseconds, given the configured value if it is a
number. -/
def registryTtl (configured : Option ℤ) : ℕ := (max 30 (configured.getD 120)).toNat * 1000

/-- A key lives for a while. -/
theorem registryTtl_pos (configured : Option ℤ) : 0 < registryTtl configured := by
  rw [registryTtl]
  omega

/-! ### Runs -/

/-- The status of a run. -/
inductive RunStatus where
  | running
  | success
  | failed
  | canceled
  deriving DecidableEq, Repr

/-- Where a run is. -/
inductive RunPhase where
  /-- The key is in the set of the instance. -/
  | reserved
  /-- The registry refused the key, or failed; whether it surely stores nothing. -/
  | refused (clean : Bool)
  /-- The registry granted the key. -/
  | acquired
  /-- The run is listed. -/
  | listed
  /-- The owner could not be registered. -/
  | unregistered
  /-- The key was given back to the registry after that; whether it surely stores nothing. -/
  | dropping (clean : Bool)
  /-- The owner is registered. -/
  | registered
  /-- The thread of the ticker could not be started, and this exception has left `start`. -/
  | stranded
  /-- The ticker runs. -/
  | ready
  /-- The command is spawned. -/
  | spawned
  /-- The thread of the reader could not be started, and the command is being killed. -/
  | orphaned
  /-- The command is being read. -/
  | reading
  /-- The run has its last status. -/
  | ending
  /-- The key is out of the set of the instance. -/
  | freed
  /-- The key was given back to the registry; whether it surely stores nothing. -/
  | ended (clean : Bool)
  /-- The start failed before there was a run; whether the registry surely stores nothing. -/
  | failed (clean : Bool)
  deriving DecidableEq, Repr

namespace RunPhase

/-- Whether there is a command that the instance has not finalised. -/
def hasChild : RunPhase → Bool
  | spawned | orphaned | reading => true
  | _ => false

/-- Whether the run needs its key in the registry. -/
def needsKey : RunPhase → Bool
  | acquired | listed | registered | ready | spawned | orphaned | reading => true
  | _ => false

/-- Whether the key is in the set of the instance on account of this run. -/
def holdsLocal : RunPhase → Bool
  | freed | ended _ | failed _ => false
  | _ => true

/-- Whether the run is over: finalised, or its start has failed. -/
def isOver : RunPhase → Bool
  | stranded => true
  | phase => !phase.holdsLocal

/-- Whether the registry surely stores nothing for the run. -/
def clean : RunPhase → Bool
  | reserved => true
  | refused c | dropping c | ended c | failed c => c
  | _ => false

/-- Whether the run is in the list of its instance. -/
def isListed : RunPhase → Bool
  | reserved | refused _ | acquired | failed _ => false
  | _ => true

/-- Whether a ticker that was started renews the key of the run while its status is running. -/
def ticks : RunPhase → Bool
  | ready | spawned | orphaned | reading => true
  | _ => false

end RunPhase

/-- A run. -/
structure ConsoleRun where
  inst : ℕ
  runKey : String
  status : RunStatus
  phase : RunPhase

/-- A shutdown under way. -/
structure Shutdown where
  cancels : List ℕ
  releases : List ℕ
  freed : Bool

/-- The runs and who holds which key. -/
structure ConsoleKeys where
  now : ℕ
  runs : ℕ → Option ConsoleRun
  inflight : Finset (ℕ × String)
  registry : Keys String ℕ

/-- The instances and their registry. -/
structure ConsoleState extends ConsoleKeys where
  round : ℕ → List ℕ
  shutdowns : ℕ → Option Shutdown

namespace ConsoleState

/-- Write a run. -/
def setRun (s : ConsoleState) (r : ℕ) (run : ConsoleRun) : ConsoleState :=
  { s with runs := Function.update s.runs r (some run) }

/-- Put a run somewhere. -/
def goto (s : ConsoleState) (r : ℕ) (run : ConsoleRun) (phase : RunPhase) : ConsoleState :=
  s.setRun r { run with phase := phase }

/-- Take a key out of the set of an instance. -/
def discard (s : ConsoleState) (inst : ℕ) (runKey : String) : ConsoleState :=
  { s with inflight := s.inflight.erase (inst, runKey) }

/-- `release_run_key`, if it is carried out. -/
def releaseRunKey (s : ConsoleState) (r : ℕ) (runKey : String) (applied : Bool) : ConsoleState :=
  if applied then { s with registry := s.registry.release s.now runKey r } else s

/-- What is left of the round of a ticker. -/
def setRound (s : ConsoleState) (inst : ℕ) (rest : List ℕ) : ConsoleState :=
  { s with round := Function.update s.round inst rest }

/-- What is left of a shutdown. -/
def setShutdown (s : ConsoleState) (inst : ℕ) (down : Option Shutdown) : ConsoleState :=
  { s with shutdowns := Function.update s.shutdowns inst down }

/-- Whether a run is in the list of an instance. -/
def lists (s : ConsoleState) (inst r : ℕ) : Bool :=
  (s.runs r).any fun run => run.inst == inst && run.phase.isListed

/-- Whether a round of the ticker takes up a run. -/
def renews (s : ConsoleState) (inst r : ℕ) : Bool :=
  s.lists inst r && (s.runs r).any fun run => run.status == .running

/-- `cancel`: a run that has a command and no last status is cancelled; its command is killed,
which takes its time. -/
def cancel (s : ConsoleState) (r : ℕ) : ConsoleState :=
  match s.runs r with
  | none => s
  | some run =>
    if run.phase.hasChild ∧ run.status = .running then s.setRun r { run with status := .canceled }
    else s

end ConsoleState

/-- The status `_finalize` gives a run. -/
def finalStatus (status : RunStatus) (returncode : ℤ) : RunStatus :=
  if status ≠ .running then status
  else if returncode = -15 ∨ returncode = -9 then .canceled
  else if returncode = 0 then .success
  else .failed

/-! ### Steps -/

/-- A step. `ok` says whether the statement succeeds, `applied` whether a command was carried out
by the registry, `replied` whether its reply came back. -/
inductive ConsoleOp where
  /-- Time passes. -/
  | advance (t : ℕ)
  /-- A run is to be started. -/
  | start (r inst : ℕ) (runKey : String)
  /-- `acquire_run_key`. -/
  | acquire (r : ℕ) (applied replied : Bool)
  /-- A refused start takes its key out of the set. -/
  | refuse (r : ℕ)
  /-- The run is listed. -/
  | list (r : ℕ)
  /-- `register_owner`. -/
  | register (r : ℕ) (ok : Bool)
  /-- `release_run_key` after that failed. -/
  | unregister (r : ℕ) (applied : Bool)
  /-- The run is taken off the list, and its key out of the set. -/
  | drop (r : ℕ)
  /-- `_ensure_registry_ticker`. -/
  | ensureTicker (r : ℕ) (ok : Bool)
  /-- The command is spawned. -/
  | spawn (r : ℕ) (ok : Bool)
  /-- The thread of the reader is started. -/
  | startReader (r : ℕ) (ok : Bool)
  /-- `_kill_orphan_proc` is done. -/
  | reap (r : ℕ)
  /-- `_finalize` gives the run its last status. -/
  | finalize (r : ℕ) (returncode : ℤ)
  /-- `_release_key` takes the key out of the set. -/
  | freeLocal (r : ℕ)
  /-- `_release_key` gives the key back to the registry. -/
  | freeRegistry (r : ℕ) (applied : Bool)
  /-- `cancel`, by a user, a ticker or another instance. -/
  | cancel (r : ℕ)
  /-- A round of a ticker begins: it collects the runs without a last status. -/
  | tick (inst : ℕ) (runs : List ℕ)
  /-- The round renews the next key; a run that has lost its key is cancelled. -/
  | renew (inst : ℕ) (applied : Bool)
  /-- `shutdown` collects the runs. -/
  | shutdown (inst : ℕ) (runs : List ℕ)
  /-- `shutdown` cancels the next run. -/
  | shutdownCancel (inst : ℕ)
  /-- `shutdown` takes the next key out of the set. -/
  | shutdownFree (inst : ℕ)
  /-- `shutdown` gives it back to the registry. -/
  | shutdownRelease (inst : ℕ) (applied : Bool)

/-- The runs that are in some phase, moved by a step of their own. -/
def ConsoleState.at (s : ConsoleState) (r : ℕ) (phase : RunPhase) : Option ConsoleRun :=
  (s.runs r).filter fun run => run.phase == phase

/-- Where a run is after `acquire_run_key`, and the registry. -/
def acquireRunKey (s : ConsoleState) (ttl r : ℕ) (run : ConsoleRun) (applied replied : Bool) :
    ConsoleState :=
  match if applied then s.registry.acquire s.now ttl run.runKey r else none with
  | some registry =>
    { s.goto r run (if replied then .acquired else .refused false) with registry := registry }
  | none => s.goto r run (.refused true)

/-- The next key of a round is renewed. -/
def renewNext (s : ConsoleState) (ttl inst r : ℕ) (rest : List ℕ) (applied : Bool) :
    Option ConsoleState :=
  (s.runs r).map fun run =>
    if applied then
      match s.registry.renew s.now ttl run.runKey r with
      | some registry => { s.setRound inst rest with registry := registry }
      | none => (s.setRound inst rest).cancel r
    else s.setRound inst rest

/-- The next key of a shutdown is taken out of the set. -/
def shutdownFree (s : ConsoleState) (inst : ℕ) (down : Shutdown) : Option ConsoleState :=
  match down with
  | ⟨[], r :: rest, false⟩ => (s.runs r).map fun run =>
      (s.discard run.inst run.runKey).setShutdown inst (some ⟨[], r :: rest, true⟩)
  | _ => none

/-- It is given back to the registry. -/
def shutdownRelease (s : ConsoleState) (inst : ℕ) (down : Shutdown) (applied : Bool) :
    Option ConsoleState :=
  match down with
  | ⟨[], r :: rest, true⟩ => (s.runs r).map fun run =>
      (s.releaseRunKey r run.runKey applied).setShutdown inst (some ⟨[], rest, false⟩)
  | _ => none

/-- One step; `none` is a step that is not possible. -/
def consoleStep (ttl : ℕ) (s : ConsoleState) : ConsoleOp → Option ConsoleState
  | .advance t => if s.now ≤ t then some { s with now := t } else none
  | .start r inst runKey =>
    if (s.runs r).isSome then none
    else if (inst, runKey) ∈ s.inflight then some s
    else some { s.setRun r ⟨inst, runKey, .running, .reserved⟩ with
      inflight := insert (inst, runKey) s.inflight }
  | .acquire r applied replied =>
    (s.at r .reserved).map fun run => acquireRunKey s ttl r run applied replied
  | .refuse r => (s.runs r).bind fun run =>
    match run.phase with
    | .refused clean => some ((s.goto r run (.failed clean)).discard run.inst run.runKey)
    | _ => none
  | .list r => (s.at r .acquired).map fun run => s.goto r run .listed
  | .register r ok =>
    (s.at r .listed).map fun run => s.goto r run (if ok then .registered else .unregistered)
  | .unregister r applied => (s.at r .unregistered).map fun run =>
    (s.goto r run (.dropping applied)).releaseRunKey r run.runKey applied
  | .drop r => (s.runs r).bind fun run =>
    match run.phase with
    | .dropping clean => some ((s.goto r run (.failed clean)).discard run.inst run.runKey)
    | _ => none
  | .ensureTicker r ok =>
    (s.at r .registered).map fun run => s.goto r run (if ok then .ready else .stranded)
  | .spawn r ok => (s.at r .ready).map fun run =>
    if ok then s.goto r run .spawned else s.goto r { run with status := .failed } .ending
  | .startReader r ok =>
    (s.at r .spawned).map fun run => s.goto r run (if ok then .reading else .orphaned)
  | .reap r =>
    (s.at r .orphaned).map fun run => s.goto r { run with status := .failed } .ending
  | .finalize r returncode => (s.at r .reading).map fun run =>
    s.goto r { run with status := finalStatus run.status returncode } .ending
  | .freeLocal r =>
    (s.at r .ending).map fun run => (s.goto r run .freed).discard run.inst run.runKey
  | .freeRegistry r applied => (s.at r .freed).map fun run =>
    (s.goto r run (.ended applied)).releaseRunKey r run.runKey applied
  | .cancel r => some (s.cancel r)
  | .tick inst runs =>
    if ∀ r ∈ runs, s.renews inst r then some (s.setRound inst runs) else none
  | .renew inst applied =>
    match s.round inst with
    | [] => none
    | r :: rest => renewNext s ttl inst r rest applied
  | .shutdown inst runs =>
    if ∀ r ∈ runs, s.lists inst r then some (s.setShutdown inst (some ⟨runs, runs, false⟩))
    else none
  | .shutdownCancel inst =>
    match s.shutdowns inst with
    | some ⟨r :: rest, releases, freed⟩ =>
      some ((s.cancel r).setShutdown inst (some ⟨rest, releases, freed⟩))
    | _ => none
  | .shutdownFree inst => (s.shutdowns inst).bind fun down => shutdownFree s inst down
  | .shutdownRelease inst applied =>
    (s.shutdowns inst).bind fun down => shutdownRelease s inst down applied

/-- A step, as a relation. -/
def ConsoleStep (ttl : ℕ) (s : ConsoleState) (op : ConsoleOp) (s' : ConsoleState) : Prop :=
  consoleStep ttl s op = some s'

/-- Before anything was started. -/
def ConsoleState.initial : ConsoleState where
  now := 0
  runs := fun _ => none
  inflight := ∅
  registry := ⟨fun _ => none⟩
  round := fun _ => []
  shutdowns := fun _ => none

end StabilityPlatform
