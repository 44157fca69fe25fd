import Mathlib

/-!
# The operation scheduler of a host

A host-global semaphore over script operations. An acquire that finds no free slot joins a
first-in-first-out queue, at most one entry a device, and waits for its event outside the
lock; a release promotes the oldest waiters and hands the slot over before they wake.
Cancelling a device, timing out and shutting down race with the promotion and are settled
when the waiter takes the lock again.

The methods of the scheduler are functions on its state, one for each locked section. An
agent is a scheduler with the acquires that wait on it, the events that a cancel or a
shutdown has still to set after leaving the lock, and the permits that have not been
released. A waiting acquire is identified by its event, which is its own.

## Main results

* `wakeOne_eq_promote`: waking promotes waiters one by one, each below the maximum.
-/

namespace StabilityPlatform

/-! ### The scheduler -/

/-- The state the lock protects. -/
structure OperationScheduler where
  maxConcurrent : ℤ
  held : ℕ
  waiters : List (ℕ × ℕ)
  shutdown : Bool
  cancelled : Finset ℕ
  heldDevices : Finset ℕ
  pendingHandoff : Finset ℕ
  deriving DecidableEq

namespace OperationScheduler

/-- A scheduler with a given cap. -/
def init (maxConcurrent : ℤ) : OperationScheduler :=
  ⟨maxConcurrent, 0, [], false, ∅, ∅, ∅⟩

/-- Whether a device has a waiter in the queue. -/
def isWaiting (s : OperationScheduler) (device : ℕ) : Bool :=
  (s.waiters.map Prod.fst).contains device

/-- `_waiters.pop(device, None)`. -/
def popWaiter (s : OperationScheduler) (device : ℕ) : OperationScheduler :=
  { s with waiters := s.waiters.filter fun w => w.1 ≠ device }

/-- Take a slot for a device. -/
def takeSlot (s : OperationScheduler) (device : ℕ) : OperationScheduler :=
  { s with held := s.held + 1, heldDevices := insert device s.heldDevices }

/-- Give the slot of a device back. -/
def giveSlot (s : OperationScheduler) (device : ℕ) : OperationScheduler :=
  { s with held := s.held - 1, heldDevices := s.heldDevices.erase device }

/-- Release a slot reserved for a waiter that never took ownership. -/
def releasePendingHandoff (s : OperationScheduler) (device : ℕ) : OperationScheduler :=
  if device ∈ s.pendingHandoff then
    { s with pendingHandoff := s.pendingHandoff.erase device }.giveSlot device
  else s

/-- Take the oldest waiter out of the queue and hand it a slot. -/
def promote (s : OperationScheduler) (device : ℕ) (rest : List (ℕ × ℕ)) :
    OperationScheduler :=
  { s.takeSlot device with
    waiters := rest, pendingHandoff := insert device s.pendingHandoff }

/-- Promote the oldest waiters while there are slots; the events set on the way. -/
def promoteAll : List (ℕ × ℕ) → OperationScheduler → OperationScheduler × List ℕ
  | [], s => (s, [])
  | (device, event) :: rest, s =>
    if (s.held : ℤ) < s.maxConcurrent then
      let (s', events) := promoteAll rest (s.promote device rest)
      (s', event :: events)
    else (s, [])

/-- Promote waiters if slots are available, unless the agent is shutting down. -/
def wakeOne (s : OperationScheduler) : OperationScheduler × List ℕ :=
  if s.shutdown then (s, []) else promoteAll s.waiters s

/-- What the first locked section of an acquire decides. -/
inductive Entry where
  | shutdown
  | alreadyWaiting
  | alreadyHolding
  | granted
  | queued
  deriving DecidableEq

/-- The first locked section of an acquire. -/
def enter (s : OperationScheduler) (device event : ℕ) : Entry × OperationScheduler :=
  if s.shutdown then (.shutdown, s)
  else if s.isWaiting device then (.alreadyWaiting, s)
  else if device ∈ s.heldDevices then (.alreadyHolding, s)
  else if (s.held : ℤ) < s.maxConcurrent ∧ s.waiters = [] then (.granted, s.takeSlot device)
  else (.queued, { s with waiters := s.waiters ++ [(device, event)] })

/-- The locked check of a wait that ran out: whether the acquire gives up. -/
def timeoutCheck (s : OperationScheduler) (device : ℕ) : Bool × OperationScheduler :=
  if device ∉ s.pendingHandoff ∧ device ∉ s.cancelled ∧ s.shutdown = false then
    (true, s.popWaiter device)
  else (false, s)

/-- How an acquire that waited ends. -/
inductive Exit where
  | shutdown
  | cancelled
  | granted
  deriving DecidableEq

/-- The last locked section of an acquire, and the events it sets. -/
def leave (s : OperationScheduler) (device : ℕ) : Exit × OperationScheduler × List ℕ :=
  if s.shutdown then (.shutdown, s.releasePendingHandoff device, [])
  else if device ∈ s.cancelled then
    let s := { s with cancelled := s.cancelled.erase device }
    if device ∈ s.pendingHandoff then
      (.cancelled, (s.releasePendingHandoff device).wakeOne)
    else (.cancelled, s, [])
  else (.granted, { s with pendingHandoff := s.pendingHandoff.erase device }, [])

/-- The locked section of a release. -/
def release (s : OperationScheduler) (device : ℕ) : OperationScheduler × List ℕ :=
  (s.giveSlot device).wakeOne

/-- Adjust the cap; growing it may promote waiters. -/
def setMaxConcurrent (s : OperationScheduler) (n : ℤ) : OperationScheduler × List ℕ :=
  let s := { s with maxConcurrent := max n 1 }
  if (s.held : ℤ) < s.maxConcurrent then s.wakeOne else (s, [])

/-- The event a device waits on, if it is queued. -/
def waiterOf (s : OperationScheduler) (device : ℕ) : Option ℕ := s.waiters.lookup device

/-- Cancel a waiting device; the event to set once the lock is left. -/
def cancelDevice (s : OperationScheduler) (device : ℕ) : OperationScheduler × List ℕ :=
  let event := s.waiterOf device
  let out := s.popWaiter device
  if event.isSome ∨ device ∈ s.pendingHandoff then
    ({ out with cancelled := insert device s.cancelled }, event.toList)
  else (out, [])

/-- Shut down; the events to set once the lock is left. -/
def shutDown (s : OperationScheduler) : OperationScheduler × List ℕ :=
  ({ s with shutdown := true, waiters := [] }, s.waiters.map Prod.snd)

/-- **Waking.** What every promotion of the oldest waiter below the maximum keeps, waking
keeps. -/
theorem wakeOne_eq_promote {P : OperationScheduler → Prop}
    (hstep : ∀ {s device event rest}, P s → s.shutdown = false →
      s.waiters = (device, event) :: rest → (s.held : ℤ) < s.maxConcurrent →
      P (s.promote device rest))
    {s : OperationScheduler} (hs : P s) : P s.wakeOne.1 := by
  unfold wakeOne
  split
  · exact hs
  · rename_i hopen
    have hall : ∀ (ws : List (ℕ × ℕ)) (s : OperationScheduler), P s →
        s.shutdown = false → s.waiters = ws → P (promoteAll ws s).1 := by
      intro ws
      induction ws with
      | nil => exact fun s hs _ _ => hs
      | cons w rest ih =>
          obtain ⟨device, event⟩ := w
          intro s hs hopen hws
          unfold promoteAll
          split
          · rename_i hlt
            exact ih _ (hstep hs hopen hws hlt) hopen rfl
          · exact hs
    exact hall s.waiters s hs (by simpa using hopen) rfl

end OperationScheduler

/-! ### An agent -/

/-- Where an acquire that joined the queue is: waiting for its event, past a wait that ran
out, or past its wait. -/
inductive Stage where
  | waiting
  | expired
  | resolving
  deriving DecidableEq

/-- An acquire that joined the queue. -/
structure Acquire where
  event : ℕ
  device : ℕ
  timed : Bool
  stage : Stage
  signaled : Bool
  deriving DecidableEq

/-- A permit that has not been released. -/
structure OperationPermit where
  id : ℕ
  device : ℕ
  deriving DecidableEq

/-- A scheduler and what its callers hold of it. -/
structure Agent where
  scheduler : OperationScheduler
  acquires : List Acquire
  signals : List ℕ
  permits : List OperationPermit
  next : ℕ
  deriving DecidableEq

/-- What a thread does next. -/
inductive Op where
  | acquire (device : ℕ) (timed : Bool)
  | waitReturns (event : ℕ)
  | waitExpires (event : ℕ)
  | checkTimeout (event : ℕ)
  | resolve (event : ℕ)
  | release (permit : OperationPermit)
  | cancelDevice (device : ℕ)
  | setMaxConcurrent (n : ℤ)
  | shutdown
  | signal (event : ℕ)
  deriving DecidableEq

namespace Agent

/-- An agent nobody has called yet. -/
def init (maxConcurrent : ℤ) : Agent := ⟨.init maxConcurrent, [], [], [], 0⟩

/-- The waiting acquire with a given event. -/
def acquire? (a : Agent) (event : ℕ) : Option Acquire :=
  a.acquires.find? fun c => c.event = event

/-- Set the given events. -/
def setEvents (a : Agent) (events : List ℕ) : Agent :=
  { a with acquires := a.acquires.map fun c =>
      if events.contains c.event then { c with signaled := true } else c }

/-- Move a waiting acquire to another stage. -/
def setStage (a : Agent) (event : ℕ) (stage : Stage) : Agent :=
  { a with acquires := a.acquires.map fun c =>
      if c.event = event then { c with stage := stage } else c }

/-- An acquire that waited is over. -/
def finish (a : Agent) (event : ℕ) : Agent :=
  { a with acquires := a.acquires.filter fun c => c.event ≠ event }

/-- A locked section leaves the scheduler in a new state and sets some events. -/
def update (a : Agent) (s : OperationScheduler) (events : List ℕ) : Agent :=
  { a with scheduler := s }.setEvents events

/-- A locked section leaves events to be set once the lock is free. -/
def defer (a : Agent) (s : OperationScheduler) (events : List ℕ) : Agent :=
  { a with scheduler := s, signals := a.signals ++ events }

/-- An acquire returns a permit. -/
def grant (a : Agent) (id device : ℕ) : Agent :=
  { a with permits := a.permits ++ [OperationPermit.mk id device] }

/-- The first locked section of an acquire. -/
def stepAcquire (a : Agent) (device : ℕ) (timed : Bool) : Agent :=
  let (entry, s) := a.scheduler.enter device a.next
  match entry with
  | .granted => { (a.update s []).grant a.next device with next := a.next + 1 }
  | .queued =>
    { a.update s [] with
      acquires := a.acquires ++ [Acquire.mk a.next device timed .waiting false]
      next := a.next + 1 }
  | _ => a

/-- The locked check after a wait that ran out. -/
def stepCheckTimeout (a : Agent) (c : Acquire) : Agent :=
  let (timedOut, s) := a.scheduler.timeoutCheck c.device
  if timedOut then (a.finish c.event).update s [] else a.setStage c.event .resolving

/-- The last locked section of an acquire that waited. -/
def stepResolve (a : Agent) (c : Acquire) : Agent :=
  let (exit, s, events) := a.scheduler.leave c.device
  let out := (a.finish c.event).update s events
  if exit = .granted then out.grant c.event c.device else out

/-- A live permit is released. -/
def stepRelease (a : Agent) (permit : OperationPermit) : Agent :=
  let (s, events) := a.scheduler.release permit.device
  { a with permits := a.permits.erase permit }.update s events

/-- One step of some thread; `none` when it cannot be taken. -/
def step (a : Agent) : Op → Option Agent
  | .acquire device timed => some (a.stepAcquire device timed)
  | .waitReturns event => (a.acquire? event).bind fun c =>
      if c.stage = .waiting ∧ c.signaled = true then some (a.setStage event .resolving)
      else none
  | .waitExpires event => (a.acquire? event).bind fun c =>
      if c.stage = .waiting ∧ c.timed = true ∧ c.signaled = false then
        some (a.setStage event .expired)
      else none
  | .checkTimeout event => (a.acquire? event).bind fun c =>
      if c.stage = .expired then some (a.stepCheckTimeout c) else none
  | .resolve event => (a.acquire? event).bind fun c =>
      if c.stage = .resolving then some (a.stepResolve c) else none
  | .release permit => if permit ∈ a.permits then some (a.stepRelease permit) else none
  | .cancelDevice device =>
      let (s, events) := a.scheduler.cancelDevice device
      some (a.defer s events)
  | .setMaxConcurrent n =>
      let (s, events) := a.scheduler.setMaxConcurrent n
      some (a.update s events)
  | .shutdown =>
      let (s, events) := a.scheduler.shutDown
      some (a.defer s events)
  | .signal event =>
      if event ∈ a.signals then
        some ({ a with signals := a.signals.erase event }.setEvents [event])
      else none

end Agent

end StabilityPlatform
