import StabilityPlatform.Core.PyVal
import StabilityPlatform.Lib.Run

/-!
# Batching watcher events

Threads that add events, a flusher, forced flushes and stops share a batcher. Each takes its lock
for a moment at a time and calls back without it, so that an event may be in the hands of a
thread between two moments. An event that is added is counted, and then passed to a callback at
once, refused, or queued; a flush takes the queue and passes it on. Whatever the threads do in
between, no event is lost or passed twice. The counters, though, leave out a batch whose callback
raises.

## Main results

* `BatcherWorld.step`: one moment of a thread.
* `Accounted`: **where the events are** that were added; `BatcherWorld.Step.accounted`.
* `BatcherWorld.queued_flush_force`: a forced flush leaves nothing queued.
* `batcher_conserves_iff`: **events are conserved and the counters balance** whenever no thread
  has an event in its hands, exactly when no batch callback has raised.
-/

namespace StabilityPlatform

open Lib

/-! ### The batcher -/

/-- An event of a watcher. -/
structure WatcherEvent where
  category : String
  fullPath : String
  deriving DecidableEq

/-- An event as a call adds it; the number tells the calls apart. -/
structure AddedEvent where
  number : ℕ
  event : WatcherEvent
  deriving DecidableEq

/-- `_PendingItem`. -/
structure PendingItem where
  added : AddedEvent
  enqueuedAt : Time
  deriving DecidableEq

/-- `BatcherStats`. -/
structure BatcherStats where
  eventsTotal : ℕ
  eventsDeduped : ℕ
  immediateEmits : ℕ
  batchEmits : ℕ
  signalsTotal : ℕ
  deriving DecidableEq

/-- What a batcher is set up with. -/
structure BatcherConfig where
  batchInterval : Time
  batchMax : ℤ
  immediateCategories : List String
  queueMaxsize : ℤ

/-- `EventBatcher`. -/
structure EventBatcher where
  pending : List PendingItem
  dedupKeys : List (String × String)
  stopEvt : Bool
  wakeEvt : Bool
  thread : Option ℕ
  firstEnqueueAt : Option Time
  stats : BatcherStats
  deriving DecidableEq

namespace EventBatcher

/-- `__init__`. -/
def init : EventBatcher := ⟨[], [], false, false, none, none, ⟨0, 0, 0, 0, 0⟩⟩

/-- An event is counted. -/
def countEvent (b : EventBatcher) : EventBatcher :=
  { b with stats := { b.stats with eventsTotal := b.stats.eventsTotal + 1 } }

/-- An event that was passed on at once is counted. -/
def countImmediate (b : EventBatcher) : EventBatcher :=
  { b with stats := { b.stats with
      immediateEmits := b.stats.immediateEmits + 1
      signalsTotal := b.stats.signalsTotal + 1 } }

/-- A batch that was passed on is counted. -/
def countBatch (b : EventBatcher) (size : ℕ) : EventBatcher :=
  { b with stats := { b.stats with
      batchEmits := b.stats.batchEmits + 1
      signalsTotal := b.stats.signalsTotal + size } }

/-- An event that is not queued is counted. -/
def countRefused (b : EventBatcher) : EventBatcher :=
  { b with stats := { b.stats with eventsDeduped := b.stats.eventsDeduped + 1 } }

/-- Whether an event is not queued: one like it is, or the queue is full. -/
def refuses (cfg : BatcherConfig) (b : EventBatcher) (event : WatcherEvent) : Bool :=
  b.dedupKeys.contains (event.category, event.fullPath) ||
    decide (cfg.queueMaxsize ≤ b.pending.length)

/-- An event is queued. -/
def enqueue (b : EventBatcher) (now : Time) (added : AddedEvent) : EventBatcher :=
  { b with
    dedupKeys := (added.event.category, added.event.fullPath) :: b.dedupKeys
    pending := b.pending ++ [⟨added, now⟩]
    firstEnqueueAt := some (b.firstEnqueueAt.getD now) }

/-- Whether the queue is long enough to be passed on. -/
def isFull (cfg : BatcherConfig) (b : EventBatcher) : Bool :=
  decide (cfg.batchMax ≤ b.pending.length)

/-- Whether the queue is to be passed on. -/
def isDue (cfg : BatcherConfig) (now : Time) (b : EventBatcher) : Bool :=
  (b.firstEnqueueAt.any fun first => decide (cfg.batchInterval ≤ now - first)) || b.isFull cfg

/-- The queue is taken, if there is one and it is due or the flush is forced. -/
def takeBatch (cfg : BatcherConfig) (force : Bool) (now : Time) (b : EventBatcher) :
    Option (List AddedEvent × EventBatcher) :=
  if b.pending.isEmpty then none
  else if !force && !b.isDue cfg now then none
  else some (b.pending.map PendingItem.added,
    { b with pending := [], dedupKeys := [], firstEnqueueAt := none })

end EventBatcher

/-! ### The threads -/

/-- Who flushes: a caller of the batcher, or a flusher in a round or on its way out. -/
inductive FlushCaller where
  | forced
  | round (thread : ℕ)
  | final (thread : ℕ)
  deriving DecidableEq

/-- Where a flusher is in its loop. -/
inductive FlusherStage where
  | looping
  | waiting
  | clearing
  | checking
  | flushing
  | leaving
  deriving DecidableEq

/-- What a thread is about to do. -/
inductive BatcherThread where
  /-- `add_event`, when the event is counted. -/
  | adding (added : AddedEvent)
  /-- `add_event`, when the event was passed on at once. -/
  | counting (added : AddedEvent)
  /-- `add_event`, when the queue is long enough. -/
  | waking
  /-- `_flusher_loop`. -/
  | flusher (thread : ℕ) (stage : FlusherStage)
  /-- `stop`, waiting for the flusher. -/
  | joining (drain : Bool) (joined : Option ℕ)
  /-- `stop`, before its own flush. -/
  | draining
  /-- `flush_pending`, with a batch. -/
  | emitting (batch : List AddedEvent) (caller : FlushCaller)
  /-- `flush_pending`, when the batch was passed on. -/
  | emitted (batch : List AddedEvent) (caller : FlushCaller)
  deriving DecidableEq

/-- The flusher of a flush. -/
def FlushCaller.flusher? : FlushCaller → Option ℕ
  | .forced => none
  | .round thread => some thread
  | .final thread => some thread

/-- The flusher a thread is. -/
def BatcherThread.flusher? : BatcherThread → Option ℕ
  | .flusher thread _ => some thread
  | .emitting _ caller => caller.flusher?
  | .emitted _ caller => caller.flusher?
  | _ => none

/-- What becomes of a thread after its flush. -/
def FlushCaller.resume : FlushCaller → List BatcherThread
  | .forced => []
  | .round thread => [.flusher thread .looping]
  | .final _ => []

/-- A batcher with the threads that are at work on it. -/
structure BatcherWorld where
  batcher : EventBatcher
  threads : List BatcherThread
  nextThread : ℕ
  deriving DecidableEq

/-- What happens: a call, or a thread goes on, at a time, with a callback that raises or not and
a wait that times out or not. -/
inductive BatcherAction where
  | addEvent (event : WatcherEvent)
  | flushPending (force : Bool) (now : Time)
  | start
  | stop (drain : Bool)
  | advance (i : ℕ) (now : Time) (raises timedOut : Bool)

/-- What is seen from outside: an event is passed on at once, a batch is, or an event is not
queued. -/
inductive BatcherSign where
  | immediate (added : AddedEvent)
  | batch (batch : List AddedEvent) (raised : Bool)
  | refused (added : AddedEvent)

namespace BatcherWorld

/-- Before any call. -/
def fresh : BatcherWorld := ⟨.init, [], 0⟩

/-- Whether a flusher is still at work. -/
def isAlive (w : BatcherWorld) (thread : ℕ) : Bool :=
  w.threads.any fun t => t.flusher? == some thread

/-- The lock section of `flush_pending`. -/
def flush (cfg : BatcherConfig) (force : Bool) (now : Time) (caller : FlushCaller)
    (others : List BatcherThread) (w : BatcherWorld) : BatcherWorld :=
  match w.batcher.takeBatch cfg force now with
  | none => { w with threads := caller.resume ++ others }
  | some (batch, b) => { w with batcher := b, threads := .emitting batch caller :: others }

/-- The event of a call that was counted is passed on, refused or queued. -/
def add (cfg : BatcherConfig) (now : Time) (added : AddedEvent) (others : List BatcherThread)
    (w : BatcherWorld) : BatcherWorld :=
  if cfg.immediateCategories.contains added.event.category then
    { w with threads := .counting added :: others }
  else if w.batcher.refuses cfg added.event then
    { w with batcher := w.batcher.countRefused, threads := others }
  else
    let b := w.batcher.enqueue now added
    { w with batcher := b, threads := if b.isFull cfg then .waking :: others else others }

/-- A flusher goes on. -/
def turn (cfg : BatcherConfig) (now : Time) (timedOut : Bool) (thread : ℕ)
    (others : List BatcherThread) (w : BatcherWorld) : FlusherStage → Option BatcherWorld
  | .looping => some { w with
      threads := .flusher thread (if w.batcher.stopEvt then .leaving else .waiting) :: others }
  | .waiting =>
    if w.batcher.wakeEvt || timedOut then
      some { w with threads := .flusher thread .clearing :: others }
    else none
  | .clearing => some { w with
      batcher := { w.batcher with wakeEvt := false }
      threads := .flusher thread .checking :: others }
  | .checking => some { w with
      threads := .flusher thread (if w.batcher.stopEvt then .leaving else .flushing) :: others }
  | .flushing => some (w.flush cfg false now (.round thread) others)
  | .leaving => some (w.flush cfg true now (.final thread) others)

/-- A thread goes on. -/
def go (cfg : BatcherConfig) (now : Time) (raises timedOut : Bool) (others : List BatcherThread)
    (w : BatcherWorld) : BatcherThread → Option BatcherWorld
  | .adding added => some (w.add cfg now added others)
  | .counting _ => some { w with batcher := w.batcher.countImmediate, threads := others }
  | .waking => some { w with batcher := { w.batcher with wakeEvt := true }, threads := others }
  | .flusher thread stage => w.turn cfg now timedOut thread others stage
  | .joining drain joined =>
    if timedOut || !joined.any w.isAlive then
      some { w with threads := if drain then .draining :: others else others }
    else none
  | .draining => some (w.flush cfg true now .forced others)
  | .emitting batch caller => some { w with
      threads := if raises then caller.resume ++ others else .emitted batch caller :: others }
  | .emitted batch caller => some { w with
      batcher := w.batcher.countBatch batch.length
      threads := caller.resume ++ others }

/-- **One moment.** -/
def step (cfg : BatcherConfig) (w : BatcherWorld) : BatcherAction → Option BatcherWorld
  | .addEvent event => some { w with
      batcher := w.batcher.countEvent
      threads := .adding ⟨w.batcher.stats.eventsTotal, event⟩ :: w.threads }
  | .flushPending force now => some (w.flush cfg force now .forced w.threads)
  | .start =>
    if w.batcher.thread.any w.isAlive then some w
    else some {
      batcher := { w.batcher with stopEvt := false, thread := some w.nextThread }
      threads := .flusher w.nextThread .looping :: w.threads
      nextThread := w.nextThread + 1 }
  | .stop drain => some { w with
      batcher := { w.batcher with stopEvt := true, wakeEvt := true, thread := none }
      threads := .joining drain w.batcher.thread :: w.threads }
  | .advance i now raises timedOut =>
    w.threads[i]?.bind fun t => w.go cfg now raises timedOut (w.threads.eraseIdx i) t

/-- The step relation. -/
def Step (cfg : BatcherConfig) (w : BatcherWorld) (a : BatcherAction) (w' : BatcherWorld) : Prop :=
  w.step cfg a = some w'

/-- What is seen of a thread that goes on. -/
def signsOf (cfg : BatcherConfig) (raises : Bool) (b : EventBatcher) :
    BatcherThread → List BatcherSign
  | .adding added =>
    if cfg.immediateCategories.contains added.event.category then [.immediate added]
    else if b.refuses cfg added.event then [.refused added] else []
  | .emitting batch _ => [.batch batch raises]
  | _ => []

/-- What is seen of a step. -/
def signs (cfg : BatcherConfig) (w : BatcherWorld) : BatcherAction → List BatcherSign
  | .advance i _ raises _ => w.threads[i]?.elim [] (signsOf cfg raises w.batcher)
  | _ => []

end BatcherWorld

/-! ### Where the events are -/

/-- The events a thread has in its hands, by number. -/
def BatcherThread.held : BatcherThread → List ℕ
  | .adding added => [added.number]
  | .emitting batch _ => batch.map AddedEvent.number
  | _ => []

/-- How many events a thread has passed on and not counted yet. -/
def BatcherThread.uncounted : BatcherThread → ℕ
  | .counting _ => 1
  | .emitted batch _ => batch.length
  | _ => 0

/-- The events a sign says were passed to a callback. -/
def BatcherSign.passed : BatcherSign → List ℕ
  | .immediate added => [added.number]
  | .batch events _ => events.map AddedEvent.number
  | .refused _ => []

/-- The events a sign says were not queued. -/
def BatcherSign.refusal : BatcherSign → List ℕ
  | .refused added => [added.number]
  | _ => []

/-- How many events were in a batch whose callback raised. -/
def BatcherSign.lost : BatcherSign → ℕ
  | .batch events raised => if raised then events.length else 0
  | _ => 0

/-- The events in the hands of threads. -/
def heldIn (threads : List BatcherThread) : List ℕ := threads.flatMap BatcherThread.held

/-- How many events threads have passed on and not counted yet. -/
def uncountedIn (threads : List BatcherThread) : ℕ := (threads.map BatcherThread.uncounted).sum

/-- The events that were passed to a callback. -/
def passedIn (log : List BatcherSign) : List ℕ := log.flatMap BatcherSign.passed

/-- The events that were not queued. -/
def refusedIn (log : List BatcherSign) : List ℕ := log.flatMap BatcherSign.refusal

/-- How many events were in batches whose callback raised. -/
def lostIn (log : List BatcherSign) : ℕ := (log.map BatcherSign.lost).sum

/-- The queued events. -/
def EventBatcher.queued (b : EventBatcher) : List ℕ := b.pending.map fun item => item.added.number

/-- **Where the events are** that were added: each in one place, and once. What was passed on is
counted, about to be, or lost to the counters. -/
structure Accounted (log : List BatcherSign) (w : BatcherWorld) : Prop where
  places : (heldIn w.threads ++ (w.batcher.queued ++ (passedIn log ++ refusedIn log))).Perm
    (List.range w.batcher.stats.eventsTotal)
  deduped : w.batcher.stats.eventsDeduped = (refusedIn log).length
  signals : w.batcher.stats.signalsTotal + uncountedIn w.threads + lostIn log =
    (passedIn log).length

/-- Four lists that come to one, member by member. -/
theorem perm_four_iff {held queued passed refused all : List ℕ} :
    (held ++ (queued ++ (passed ++ refused))).Perm all ↔ ∀ x,
      held.count x + queued.count x + passed.count x + refused.count x = all.count x := by
  rw [List.perm_iff_count]
  refine forall_congr' fun x => ?_
  rw [List.count_append, List.count_append, List.count_append]
  omega

/-- A thread among the others. -/
theorem perm_cons_eraseIdx {threads : List BatcherThread} {i : ℕ} {t : BatcherThread}
    (h : threads[i]? = some t) : threads.Perm (t :: threads.eraseIdx i) := by
  obtain ⟨hi, rfl⟩ := List.getElem?_eq_some_iff.mp h
  exact (List.getElem_cons_eraseIdx_perm hi).symm

/-- What threads have in their hands does not depend on their order. -/
theorem heldIn_perm {threads threads' : List BatcherThread} (h : threads.Perm threads') :
    (heldIn threads).Perm (heldIn threads') := h.flatMap_right _

/-- Nor does what they have passed on. -/
theorem uncountedIn_perm {threads threads' : List BatcherThread} (h : threads.Perm threads') :
    uncountedIn threads = uncountedIn threads' := (h.map _).sum_eq

@[simp] theorem heldIn_nil : heldIn [] = [] := rfl

@[simp] theorem heldIn_cons (t : BatcherThread) (threads : List BatcherThread) :
    heldIn (t :: threads) = t.held ++ heldIn threads := rfl

@[simp] theorem heldIn_append (threads threads' : List BatcherThread) :
    heldIn (threads ++ threads') = heldIn threads ++ heldIn threads' := List.flatMap_append

@[simp] theorem uncountedIn_nil : uncountedIn [] = 0 := rfl

@[simp] theorem uncountedIn_cons (t : BatcherThread) (threads : List BatcherThread) :
    uncountedIn (t :: threads) = t.uncounted + uncountedIn threads := rfl

@[simp] theorem uncountedIn_append (threads threads' : List BatcherThread) :
    uncountedIn (threads ++ threads') = uncountedIn threads + uncountedIn threads' := by
  rw [uncountedIn, List.map_append, List.sum_append]
  rfl

@[simp] theorem passedIn_append (log log' : List BatcherSign) :
    passedIn (log ++ log') = passedIn log ++ passedIn log' := List.flatMap_append

@[simp] theorem refusedIn_append (log log' : List BatcherSign) :
    refusedIn (log ++ log') = refusedIn log ++ refusedIn log' := List.flatMap_append

@[simp] theorem lostIn_append (log log' : List BatcherSign) :
    lostIn (log ++ log') = lostIn log + lostIn log' := by
  rw [lostIn, List.map_append, List.sum_append]
  rfl

/-- After its flush a thread has nothing in its hands. -/
@[simp] theorem heldIn_resume (caller : FlushCaller) : heldIn caller.resume = [] := by
  cases caller with
  | forced => rfl
  | round thread => rfl
  | final thread => rfl

/-- After its flush a thread has counted everything. -/
@[simp] theorem uncountedIn_resume (caller : FlushCaller) : uncountedIn caller.resume = 0 := by
  cases caller with
  | forced => rfl
  | round thread => rfl
  | final thread => rfl

/-- What is taken is the queue, which is empty after that. -/
theorem EventBatcher.takeBatch_eq_some {cfg : BatcherConfig} {force : Bool} {now : Time}
    {b b' : EventBatcher} {batch : List AddedEvent}
    (h : b.takeBatch cfg force now = some (batch, b')) :
    batch.map AddedEvent.number = b.queued ∧ b'.queued = [] ∧ b'.stats = b.stats ∧
      batch ≠ [] := by
  rw [takeBatch] at h
  split at h
  · cases h
  · rename_i hne
    split at h
    · cases h
    · cases h
      refine ⟨List.map_map, rfl, rfl, fun hnil => hne ?_⟩
      rw [List.map_eq_nil_iff.mp hnil]
      rfl

/-! ### One moment -/

namespace Accounted

variable {cfg : BatcherConfig} {log : List BatcherSign} {w : BatcherWorld}

/-- Nothing of this depends on the order of the threads, or on the rest of the batcher. -/
theorem of_same {w' : BatcherWorld} (h : Accounted log w)
    (hheld : (heldIn w'.threads).Perm (heldIn w.threads))
    (huncounted : uncountedIn w'.threads = uncountedIn w.threads)
    (hqueued : w'.batcher.queued = w.batcher.queued) (hstats : w'.batcher.stats = w.batcher.stats) :
    Accounted log w' := by
  refine ⟨?_, ?_, ?_⟩
  · rw [hstats, hqueued]
    exact (hheld.append_right _).trans h.places
  · rw [hstats]
    exact h.deduped
  · rw [hstats, huncounted]
    exact h.signals

/-- A flush takes the queue into the hands of the thread. -/
theorem flush {others : List BatcherThread} (force : Bool) (now : Time) (caller : FlushCaller)
    (h : Accounted log w) (hheld : (heldIn others).Perm (heldIn w.threads))
    (huncounted : uncountedIn others = uncountedIn w.threads) :
    Accounted log (w.flush cfg force now caller others) := by
  rw [BatcherWorld.flush]
  cases hbatch : w.batcher.takeBatch cfg force now with
  | none =>
      refine h.of_same ?_ ?_ rfl rfl
      · rw [heldIn_append, heldIn_resume]
        exact hheld
      · rw [uncountedIn_append, uncountedIn_resume, Nat.zero_add, huncounted]
  | some taken =>
      obtain ⟨batch, b⟩ := taken
      obtain ⟨hnumbers, hempty, hstats, -⟩ := EventBatcher.takeBatch_eq_some hbatch
      refine ⟨?_, ?_, ?_⟩
      · dsimp only
        rw [hstats, hempty, heldIn_cons, BatcherThread.held, hnumbers, List.nil_append,
          List.append_assoc]
        refine List.Perm.trans ?_ h.places
        refine (List.perm_append_comm_assoc _ _ _).trans ?_
        exact hheld.append_right _
      · dsimp only
        rw [hstats]
        exact h.deduped
      · dsimp only
        rw [hstats, uncountedIn_cons, huncounted,
          show BatcherThread.uncounted (.emitting batch caller) = 0 from rfl, Nat.zero_add]
        exact h.signals

/-- An event that was counted is in the hands of its call until it is passed on, refused or
queued. -/
theorem add {others : List BatcherThread} {added : AddedEvent} (now : Time) (raises : Bool)
    (h : Accounted log w) (hthreads : w.threads.Perm (.adding added :: others)) :
    Accounted (log ++ BatcherWorld.signsOf cfg raises w.batcher (.adding added))
      (w.add cfg now added others) := by
  have hheld : ∀ x, (heldIn w.threads).count x =
      [added.number].count x + (heldIn others).count x := by
    intro x
    rw [(heldIn_perm hthreads).count_eq, heldIn_cons, List.count_append]
    rfl
  have huncounted : uncountedIn w.threads = uncountedIn others := by
    rw [uncountedIn_perm hthreads, uncountedIn_cons,
      show BatcherThread.uncounted (.adding added) = 0 from rfl, Nat.zero_add]
  have hplaces := perm_four_iff.mp h.places
  have hsignals := h.signals
  rw [huncounted] at hsignals
  rw [BatcherWorld.add, BatcherWorld.signsOf]
  by_cases himmediate : cfg.immediateCategories.contains added.event.category = true
  · rw [if_pos himmediate, if_pos himmediate]
    have hpassed : passedIn (log ++ [.immediate added]) = passedIn log ++ [added.number] :=
      passedIn_append log _
    have hrefused : refusedIn (log ++ [.immediate added]) = refusedIn log :=
      (refusedIn_append log _).trans (List.append_nil _)
    refine ⟨perm_four_iff.mpr fun x => ?_, ?_, ?_⟩
    · have hx := hplaces x
      rw [hheld] at hx
      rw [hpassed, hrefused, List.count_append]
      change (heldIn others).count x + w.batcher.queued.count x + _ + _ =
        (List.range w.batcher.stats.eventsTotal).count x
      omega
    · rw [hrefused]
      exact h.deduped
    · have hlost : lostIn (log ++ [.immediate added]) = lostIn log := lostIn_append log _
      rw [hlost, hpassed, List.length_append, ← hsignals]
      change w.batcher.stats.signalsTotal + (1 + uncountedIn others) + lostIn log = _ + 1
      omega
  · rw [if_neg himmediate, if_neg himmediate]
    by_cases hrefuses : w.batcher.refuses cfg added.event = true
    · rw [if_pos hrefuses, if_pos hrefuses]
      have hpassed : passedIn (log ++ [.refused added]) = passedIn log :=
        (passedIn_append log _).trans (List.append_nil _)
      have hrefused : refusedIn (log ++ [.refused added]) = refusedIn log ++ [added.number] :=
        refusedIn_append log _
      refine ⟨perm_four_iff.mpr fun x => ?_, ?_, ?_⟩
      · have hx := hplaces x
        rw [hheld] at hx
        rw [hpassed, hrefused, List.count_append]
        change (heldIn others).count x + w.batcher.queued.count x + _ + _ =
          (List.range w.batcher.stats.eventsTotal).count x
        omega
      · rw [hrefused, List.length_append, ← h.deduped]
        rfl
      · have hlost : lostIn (log ++ [.refused added]) = lostIn log := lostIn_append log _
        rw [hlost, hpassed]
        exact hsignals
    · rw [if_neg hrefuses, if_neg hrefuses, List.append_nil]
      have hwake : heldIn (if (w.batcher.enqueue now added).isFull cfg then .waking :: others
          else others) = heldIn others ∧
            uncountedIn (if (w.batcher.enqueue now added).isFull cfg then .waking :: others
              else others) = uncountedIn others := by
        split
        · exact ⟨rfl, Nat.zero_add _⟩
        · exact ⟨rfl, rfl⟩
      have hqueued : (w.batcher.enqueue now added).queued =
          w.batcher.queued ++ [added.number] := List.map_append
      refine ⟨perm_four_iff.mpr fun x => ?_, h.deduped, ?_⟩
      · have hx := hplaces x
        rw [hheld] at hx
        dsimp only
        rw [hwake.1, hqueued, List.count_append]
        change _ = (List.range w.batcher.stats.eventsTotal).count x
        omega
      · dsimp only
        rw [hwake.2]
        exact hsignals

/-- The thread of a flush passes its batch on. -/
theorem emit {others : List BatcherThread} {batch : List AddedEvent} {caller : FlushCaller}
    (raises : Bool) (h : Accounted log w)
    (hthreads : w.threads.Perm (.emitting batch caller :: others)) :
    Accounted (log ++ [.batch batch raises])
      { w with threads := if raises then caller.resume ++ others
        else .emitted batch caller :: others } := by
  have hheld : ∀ x, (heldIn w.threads).count x =
      (batch.map AddedEvent.number).count x + (heldIn others).count x := by
    intro x
    rw [(heldIn_perm hthreads).count_eq, heldIn_cons, List.count_append]
    rfl
  have huncounted : uncountedIn w.threads = uncountedIn others := by
    rw [uncountedIn_perm hthreads, uncountedIn_cons,
      show BatcherThread.uncounted (.emitting batch caller) = 0 from rfl, Nat.zero_add]
  have hpassed : passedIn (log ++ [.batch batch raises]) =
      passedIn log ++ batch.map AddedEvent.number := (passedIn_append log _).trans
        (congrArg _ (List.append_nil _))
  have hrefused : refusedIn (log ++ [.batch batch raises]) = refusedIn log :=
    (refusedIn_append log _).trans (List.append_nil _)
  have hthreads' : heldIn (if raises then caller.resume ++ others
      else .emitted batch caller :: others) = heldIn others := by
    split
    · rw [heldIn_append, heldIn_resume, List.nil_append]
    · rfl
  have hcounts : uncountedIn (if raises then caller.resume ++ others
      else .emitted batch caller :: others) + lostIn (log ++ [.batch batch raises]) =
        uncountedIn others + lostIn log + batch.length := by
    rw [lostIn_append]
    cases raises with
    | true =>
        rw [if_pos rfl, uncountedIn_append, uncountedIn_resume,
          show lostIn [.batch batch true] = batch.length from Nat.add_zero _]
        omega
    | false =>
        rw [if_neg Bool.false_ne_true, uncountedIn_cons,
          show lostIn [.batch batch false] = 0 from rfl,
          show BatcherThread.uncounted (.emitted batch caller) = batch.length from rfl]
        omega
  refine ⟨perm_four_iff.mpr fun x => ?_, ?_, ?_⟩
  · have hx := perm_four_iff.mp h.places x
    rw [hheld] at hx
    dsimp only
    rw [hthreads', hpassed, hrefused, List.count_append]
    omega
  · rw [hrefused]
    exact h.deduped
  · have hsignals := h.signals
    rw [huncounted] at hsignals
    dsimp only
    rw [Nat.add_assoc, hcounts, hpassed, List.length_append, List.length_map]
    omega

/-- A thread counts what it has passed on. -/
theorem count {t : BatcherThread} {others : List BatcherThread} {b : EventBatcher}
    (resumed : List BatcherThread) (h : Accounted log w) (hthreads : w.threads.Perm (t :: others)) (hheld : t.held = [])
    (hresumed : heldIn resumed = [] ∧ uncountedIn resumed = 0)
    (hqueued : b.queued = w.batcher.queued)
    (hstats : b.stats.eventsTotal = w.batcher.stats.eventsTotal ∧
      b.stats.eventsDeduped = w.batcher.stats.eventsDeduped ∧
      b.stats.signalsTotal = w.batcher.stats.signalsTotal + t.uncounted) :
    Accounted log { w with batcher := b, threads := resumed ++ others } := by
  obtain ⟨htotal, hdeduped, hsignals⟩ := hstats
  refine ⟨?_, ?_, ?_⟩
  · dsimp only
    rw [htotal, hqueued, heldIn_append, hresumed.1, List.nil_append]
    refine List.Perm.trans (List.Perm.append_right _ ?_) h.places
    have hperm := heldIn_perm hthreads
    rw [heldIn_cons, hheld, List.nil_append] at hperm
    exact hperm.symm
  · dsimp only
    rw [hdeduped]
    exact h.deduped
  · have hold := h.signals
    rw [uncountedIn_perm hthreads, uncountedIn_cons] at hold
    dsimp only
    rw [hsignals, uncountedIn_append, hresumed.2, ← hold]
    omega

/-- A flusher goes on. -/
theorem turn {others : List BatcherThread} {thread : ℕ} {stage : FlusherStage} {now : Time}
    {timedOut : Bool} {w' : BatcherWorld} (h : Accounted log w)
    (hthreads : w.threads.Perm (.flusher thread stage :: others))
    (hturn : w.turn cfg now timedOut thread others stage = some w') : Accounted log w' := by
  have hheld : (heldIn others).Perm (heldIn w.threads) := (heldIn_perm hthreads).symm
  have huncounted : uncountedIn others = uncountedIn w.threads := by
    rw [uncountedIn_perm hthreads, uncountedIn_cons]
    exact (Nat.zero_add _).symm
  have hstays : ∀ stage', uncountedIn (.flusher thread stage' :: others) =
      uncountedIn w.threads := fun stage' => (Nat.zero_add _).trans huncounted
  cases stage with
  | looping =>
      cases hturn
      exact h.of_same hheld (hstays _) rfl rfl
  | waiting =>
      rw [BatcherWorld.turn] at hturn
      split at hturn
      · cases hturn
        exact h.of_same hheld (hstays _) rfl rfl
      · cases hturn
  | clearing =>
      cases hturn
      exact h.of_same hheld (hstays _) rfl rfl
  | checking =>
      cases hturn
      exact h.of_same hheld (hstays _) rfl rfl
  | flushing =>
      cases hturn
      exact h.flush false now (.round thread) hheld huncounted
  | leaving =>
      cases hturn
      exact h.flush true now (.final thread) hheld huncounted

end Accounted

/-- **Every step** accounts for the events. -/
theorem BatcherWorld.Step.accounted {cfg : BatcherConfig} {log : List BatcherSign}
    {w w' : BatcherWorld} {a : BatcherAction} (h : Accounted log w) (hstep : w.Step cfg a w') :
    Accounted (log ++ w.signs cfg a) w' := by
  cases a with
  | addEvent event =>
      cases hstep
      rw [show w.signs cfg (.addEvent event) = [] from rfl, List.append_nil]
      refine ⟨perm_four_iff.mpr fun x => ?_, h.deduped, ?_⟩
      · have hx := perm_four_iff.mp h.places x
        change ([w.batcher.stats.eventsTotal] ++ heldIn w.threads).count x +
          w.batcher.queued.count x + _ + _ =
            (List.range (w.batcher.stats.eventsTotal + 1)).count x
        rw [List.range_succ, List.count_append, List.count_append]
        omega
      · have hsignals := h.signals
        dsimp only
        rw [uncountedIn_cons, ← hsignals]
        change _ + (0 + _) + _ = _
        rw [Nat.zero_add]
        rfl
  | flushPending force now =>
      cases hstep
      rw [show w.signs cfg (.flushPending force now) = [] from rfl, List.append_nil]
      exact h.flush force now .forced (List.Perm.refl _) rfl
  | start =>
      rw [show w.signs cfg .start = [] from rfl, List.append_nil]
      rw [Step, step] at hstep
      split at hstep
      · cases hstep
        exact h
      · cases hstep
        exact h.of_same (List.Perm.refl _) (Nat.zero_add _) rfl rfl
  | stop drain =>
      cases hstep
      rw [show w.signs cfg (.stop drain) = [] from rfl, List.append_nil]
      exact h.of_same (List.Perm.refl _) (Nat.zero_add _) rfl rfl
  | advance i now raises timedOut =>
      obtain ⟨t, ht, hgo⟩ := Option.bind_eq_some_iff.mp hstep
      have hthreads := perm_cons_eraseIdx ht
      have hsigns : w.signs cfg (.advance i now raises timedOut) =
          signsOf cfg raises w.batcher t := by
        rw [signs, ht]
        rfl
      rw [hsigns]
      cases t with
      | adding added =>
          cases hgo
          exact h.add now raises hthreads
      | counting added =>
          cases hgo
          rw [show signsOf cfg raises w.batcher (.counting added) = [] from rfl, List.append_nil]
          exact h.count [] hthreads rfl ⟨rfl, rfl⟩ rfl ⟨rfl, rfl, rfl⟩
      | waking =>
          cases hgo
          rw [show signsOf cfg raises w.batcher .waking = [] from rfl, List.append_nil]
          exact h.count [] hthreads rfl ⟨rfl, rfl⟩ rfl ⟨rfl, rfl, rfl⟩
      | flusher thread stage =>
          rw [show signsOf cfg raises w.batcher (.flusher thread stage) = [] from rfl,
            List.append_nil]
          exact h.turn hthreads hgo
      | joining drain joined =>
          rw [show signsOf cfg raises w.batcher (.joining drain joined) = [] from rfl,
            List.append_nil]
          rw [go] at hgo
          split at hgo
          · cases hgo
            have hresumed : heldIn (if drain then [BatcherThread.draining] else []) = [] ∧
                uncountedIn (if drain then [BatcherThread.draining] else []) = 0 := by
              cases drain with
              | true => exact ⟨rfl, rfl⟩
              | false => exact ⟨rfl, rfl⟩
            have hcount := h.count _ hthreads rfl hresumed rfl ⟨rfl, rfl, rfl⟩
            cases drain with
            | true => exact hcount
            | false => exact hcount
          · cases hgo
      | draining =>
          cases hgo
          rw [show signsOf cfg raises w.batcher .draining = [] from rfl, List.append_nil]
          refine h.flush true now .forced (heldIn_perm hthreads).symm ?_
          rw [uncountedIn_perm hthreads]
          exact (Nat.zero_add _).symm
      | emitting batch caller =>
          cases hgo
          exact h.emit raises hthreads
      | emitted batch caller =>
          cases hgo
          rw [show signsOf cfg raises w.batcher (.emitted batch caller) = [] from rfl,
            List.append_nil]
          exact h.count _ hthreads rfl ⟨heldIn_resume caller, uncountedIn_resume caller⟩ rfl
            ⟨rfl, rfl, rfl⟩

/-- Before any call there are no events. -/
theorem accounted_fresh : Accounted [] .fresh := ⟨List.Perm.refl _, rfl, rfl⟩

/-- **Every run** accounts for the events. -/
theorem accounted_of_run {cfg : BatcherConfig} {w : BatcherWorld}
    {tr : List (BatcherWorld × BatcherAction)}
    (hrun : Run (BatcherWorld.Step cfg) .fresh tr w) :
    Accounted (emitted (BatcherWorld.signs cfg) tr) w :=
  hrun.invariant_log Accounted (fun h hstep => hstep.accounted h) accounted_fresh

/-! ### Batches -/

/-- A batch that is about to be passed on has events. -/
def BatchesFull (w : BatcherWorld) : Prop :=
  ∀ batch caller, BatcherThread.emitting batch caller ∈ w.threads → batch ≠ []

/-- A flush that ends leaves no batch. -/
theorem emitting_not_mem_resume {batch : List AddedEvent} {caller : FlushCaller}
    (other : FlushCaller) : BatcherThread.emitting batch caller ∉ other.resume := by
  cases other with
  | forced => exact List.not_mem_nil
  | round thread => exact fun h => by cases List.mem_singleton.mp h
  | final thread => exact List.not_mem_nil

/-- The batch of a flush has events. -/
theorem BatcherWorld.ne_nil_of_mem_flush {cfg : BatcherConfig} {force : Bool} {now : Time}
    {caller caller' : FlushCaller} {others : List BatcherThread} {w : BatcherWorld}
    {batch : List AddedEvent}
    (hold : ∀ batch caller, BatcherThread.emitting batch caller ∈ others → batch ≠ [])
    (h : .emitting batch caller' ∈ (w.flush cfg force now caller others).threads) :
    batch ≠ [] := by
  rw [flush] at h
  split at h
  · rcases List.mem_append.mp h with hresumed | hother
    · exact absurd hresumed (emitting_not_mem_resume caller)
    · exact hold batch caller' hother
  · rename_i taken b htaken
    rcases List.mem_cons.mp h with hnew | hother
    · cases hnew
      exact (EventBatcher.takeBatch_eq_some htaken).2.2.2
    · exact hold batch caller' hother

/-- A thread that goes on takes no empty batch. -/
theorem BatcherWorld.ne_nil_of_mem_go {cfg : BatcherConfig} {now : Time} {raises timedOut : Bool}
    {others : List BatcherThread} {w w' : BatcherWorld} {t : BatcherThread}
    (hold : ∀ batch caller, BatcherThread.emitting batch caller ∈ others → batch ≠ [])
    (hgo : w.go cfg now raises timedOut others t = some w') : BatchesFull w' := by
  have hcons : ∀ (t : BatcherThread) (batch : List AddedEvent) (caller : FlushCaller),
      t ≠ .emitting batch caller → .emitting batch caller ∈ t :: others → batch ≠ [] := by
    intro t batch caller hne hmem
    rcases List.mem_cons.mp hmem with hnew | hother
    · exact absurd hnew.symm hne
    · exact hold batch caller hother
  have hresume : ∀ (other caller : FlushCaller) (batch : List AddedEvent),
      .emitting batch caller ∈ other.resume ++ others → batch ≠ [] := by
    intro other caller batch hmem
    rcases List.mem_append.mp hmem with hresumed | hother
    · exact absurd hresumed (emitting_not_mem_resume other)
    · exact hold batch caller hother
  intro batch caller hmem
  cases t with
  | adding added =>
      cases hgo
      rw [add] at hmem
      split at hmem
      · exact hcons _ batch caller (fun h => by cases h) hmem
      · split at hmem
        · exact hold batch caller hmem
        · dsimp only at hmem
          split at hmem
          · exact hcons _ batch caller (fun h => by cases h) hmem
          · exact hold batch caller hmem
  | counting added =>
      cases hgo
      exact hold batch caller hmem
  | waking =>
      cases hgo
      exact hold batch caller hmem
  | flusher thread stage =>
      cases stage with
      | looping =>
          cases hgo
          exact hcons _ batch caller (fun h => by cases h) hmem
      | waiting =>
          rw [go, turn] at hgo
          split at hgo
          · cases hgo
            exact hcons _ batch caller (fun h => by cases h) hmem
          · cases hgo
      | clearing =>
          cases hgo
          exact hcons _ batch caller (fun h => by cases h) hmem
      | checking =>
          cases hgo
          exact hcons _ batch caller (fun h => by cases h) hmem
      | flushing =>
          cases hgo
          exact ne_nil_of_mem_flush hold hmem
      | leaving =>
          cases hgo
          exact ne_nil_of_mem_flush hold hmem
  | joining drain joined =>
      rw [go] at hgo
      split at hgo
      · cases hgo
        dsimp only at hmem
        split at hmem
        · exact hcons _ batch caller (fun h => by cases h) hmem
        · exact hold batch caller hmem
      · cases hgo
  | draining =>
      cases hgo
      exact ne_nil_of_mem_flush hold hmem
  | emitting events other =>
      cases hgo
      dsimp only at hmem
      split at hmem
      · exact hresume other caller batch hmem
      · exact hcons _ batch caller (fun h => by cases h) hmem
  | emitted events other =>
      cases hgo
      exact hresume other caller batch hmem

/-- **No batch is empty** in any state. -/
theorem BatcherWorld.Step.batchesFull {cfg : BatcherConfig} {w w' : BatcherWorld}
    {a : BatcherAction} (h : BatchesFull w) (hstep : w.Step cfg a w') : BatchesFull w' := by
  cases a with
  | addEvent event =>
      cases hstep
      intro batch caller hmem
      rcases List.mem_cons.mp hmem with hnew | hother
      · cases hnew
      · exact h batch caller hother
  | flushPending force now =>
      cases hstep
      exact fun batch caller hmem => ne_nil_of_mem_flush h hmem
  | start =>
      rw [Step, step] at hstep
      split at hstep
      · cases hstep
        exact h
      · cases hstep
        intro batch caller hmem
        rcases List.mem_cons.mp hmem with hnew | hother
        · cases hnew
        · exact h batch caller hother
  | stop drain =>
      cases hstep
      intro batch caller hmem
      rcases List.mem_cons.mp hmem with hnew | hother
      · cases hnew
      · exact h batch caller hother
  | advance i now raises timedOut =>
      obtain ⟨t, -, hgo⟩ := Option.bind_eq_some_iff.mp hstep
      exact ne_nil_of_mem_go (fun batch caller hmem =>
        h batch caller (List.mem_of_mem_eraseIdx hmem)) hgo

/-! ### Conservation -/

/-- Whether a thread has an event in its hands, or has passed one on and not counted it yet. -/
def BatcherThread.isBusy : BatcherThread → Bool
  | .adding _ => true
  | .counting _ => true
  | .emitting _ _ => true
  | .emitted _ _ => true
  | _ => false

/-- No thread is between two moments with an event; so it is when no call is under way. -/
def BatcherWorld.Quiescent (w : BatcherWorld) : Prop := ∀ t ∈ w.threads, t.isBusy = false

instance (w : BatcherWorld) : Decidable w.Quiescent := inferInstanceAs (Decidable (∀ _ ∈ _, _))

/-- **Events are conserved**: one that is neither refused nor queued was passed to one callback,
once, and the others to none. -/
structure EventsConserved (log : List BatcherSign) (w : BatcherWorld) : Prop where
  once : ∀ number < w.batcher.stats.eventsTotal, number ∉ refusedIn log →
    number ∉ w.batcher.queued → (passedIn log).count number = 1
  queued : ∀ number ∈ w.batcher.queued, number ∉ passedIn log
  refused : ∀ number ∈ refusedIn log, number ∉ passedIn log

/-- **The counters balance.** -/
def BatcherWorld.Balanced (w : BatcherWorld) : Prop :=
  w.batcher.stats.eventsTotal =
    w.batcher.stats.eventsDeduped + w.batcher.stats.signalsTotal + w.batcher.pending.length

instance (w : BatcherWorld) : Decidable w.Balanced := inferInstanceAs (Decidable (_ = _))

/-- A thread that is not busy has nothing to account for. -/
theorem BatcherThread.of_isBusy_eq_false {t : BatcherThread} (h : t.isBusy = false) :
    t.held = [] ∧ t.uncounted = 0 := by
  cases t with
  | adding added => cases h
  | counting added => cases h
  | waking => exact ⟨rfl, rfl⟩
  | flusher thread stage => exact ⟨rfl, rfl⟩
  | joining drain joined => exact ⟨rfl, rfl⟩
  | draining => exact ⟨rfl, rfl⟩
  | emitting batch caller => cases h
  | emitted batch caller => cases h

/-- In a quiescent state nothing is on its way. -/
theorem BatcherWorld.Quiescent.nothing {w : BatcherWorld} (h : w.Quiescent) :
    heldIn w.threads = [] ∧ uncountedIn w.threads = 0 := by
  refine ⟨List.flatMap_eq_nil_iff.mpr fun t ht => ?_, List.sum_eq_zero fun n hn => ?_⟩
  · exact (BatcherThread.of_isBusy_eq_false (h t ht)).1
  · obtain ⟨t, ht, rfl⟩ := List.mem_map.mp hn
    exact (BatcherThread.of_isBusy_eq_false (h t ht)).2

/-- **Events are conserved**, whatever the callbacks do. -/
theorem Accounted.conserved {log : List BatcherSign} {w : BatcherWorld} (h : Accounted log w)
    (hq : w.Quiescent) : EventsConserved log w := by
  have hplaces := perm_four_iff.mp h.places
  rw [hq.nothing.1] at hplaces
  simp only [List.count_nil, Nat.zero_add] at hplaces
  have hle : ∀ number, (List.range w.batcher.stats.eventsTotal).count number ≤ 1 :=
    fun number => List.nodup_iff_count_le_one.mp List.nodup_range number
  refine ⟨fun number hlt hrefused hqueued => ?_, fun number hmem hpassed => ?_,
    fun number hmem hpassed => ?_⟩
  · have hnumber := hplaces number
    rw [List.count_eq_zero.mpr hqueued, List.count_eq_zero.mpr hrefused,
      List.count_eq_one_of_mem List.nodup_range (List.mem_range.mpr hlt)] at hnumber
    omega
  · have hnumber := hplaces number
    have hqueued := List.count_pos_iff.mpr hmem
    have hcalled := List.count_pos_iff.mpr hpassed
    have hone := hle number
    omega
  · have hnumber := hplaces number
    have hrefused := List.count_pos_iff.mpr hmem
    have hcalled := List.count_pos_iff.mpr hpassed
    have hone := hle number
    omega

/-- **The counters balance** when they have lost nothing. -/
theorem Accounted.balanced_iff {log : List BatcherSign} {w : BatcherWorld} (h : Accounted log w)
    (hq : w.Quiescent) : w.Balanced ↔ lostIn log = 0 := by
  have hsignals := h.signals
  have hdeduped := h.deduped
  have htotal := h.places.length_eq
  rw [hq.nothing.1, List.nil_append, List.length_append, List.length_append, List.length_range,
    EventBatcher.queued, List.length_map] at htotal
  rw [hq.nothing.2] at hsignals
  rw [BatcherWorld.Balanced]
  omega

/-! ### Callbacks that raise -/

/-- Whether a thread is about to pass a batch on. -/
def BatcherThread.isEmitting : BatcherThread → Bool
  | .emitting _ _ => true
  | _ => false

/-- Whether the callback of a batch raises in a step. -/
def BatcherWorld.batchCallbackRaises (w : BatcherWorld) : BatcherAction → Bool
  | .advance i _ raises _ => raises && w.threads[i]?.any BatcherThread.isEmitting
  | _ => false

/-- A step loses events to the counters when the callback of a batch raises in it. -/
theorem BatcherWorld.lost_signs_iff {cfg : BatcherConfig} {w : BatcherWorld} {a : BatcherAction}
    (h : BatchesFull w) :
    (∀ sign ∈ w.signs cfg a, sign.lost = 0) ↔ w.batchCallbackRaises a = false := by
  cases a with
  | addEvent event => simp [signs, batchCallbackRaises]
  | flushPending force now => simp [signs, batchCallbackRaises]
  | start => simp [signs, batchCallbackRaises]
  | stop drain => simp [signs, batchCallbackRaises]
  | advance i now raises timedOut =>
      rw [signs, batchCallbackRaises]
      cases ht : w.threads[i]? with
      | none => simp
      | some t =>
          rw [Option.elim_some, Option.any_some]
          cases t with
          | adding added =>
              rw [signsOf]
              split
              · simp [BatcherSign.lost, BatcherThread.isEmitting]
              · split
                · simp [BatcherSign.lost, BatcherThread.isEmitting]
                · simp [BatcherThread.isEmitting]
          | counting added => simp [signsOf, BatcherThread.isEmitting]
          | waking => simp [signsOf, BatcherThread.isEmitting]
          | flusher thread stage => simp [signsOf, BatcherThread.isEmitting]
          | joining drain joined => simp [signsOf, BatcherThread.isEmitting]
          | draining => simp [signsOf, BatcherThread.isEmitting]
          | emitting batch caller =>
              have hne := h batch caller (List.mem_of_getElem? ht)
              cases raises with
              | true => simp [signsOf, BatcherThread.isEmitting, BatcherSign.lost, hne]
              | false => simp [signsOf, BatcherThread.isEmitting, BatcherSign.lost]
          | emitted batch caller => simp [signsOf, BatcherThread.isEmitting]

/-- A run loses events to the counters when the callback of a batch raises in it. -/
theorem lostIn_emitted_iff {cfg : BatcherConfig} {w : BatcherWorld}
    {tr : List (BatcherWorld × BatcherAction)}
    (hrun : Run (BatcherWorld.Step cfg) .fresh tr w) :
    lostIn (emitted (BatcherWorld.signs cfg) tr) = 0 ↔
      ∀ p ∈ tr, p.1.batchCallbackRaises p.2 = false := by
  have hfull := hrun.invariant (P := BatchesFull) (fun h hstep => hstep.batchesFull h)
    fun _ _ hmem => by cases hmem
  have hlost : lostIn (emitted (BatcherWorld.signs cfg) tr) = 0 ↔
      ∀ sign ∈ emitted (BatcherWorld.signs cfg) tr, sign.lost = 0 := by
    rw [lostIn, List.sum_eq_zero_iff]
    simp only [List.mem_map, forall_exists_index, and_imp, forall_apply_eq_imp_iff₂]
  rw [hlost]
  constructor
  · intro h p hp
    exact (BatcherWorld.lost_signs_iff (hfull.1 p hp)).mp fun sign hsign =>
      h sign (List.mem_flatMap.mpr ⟨p, hp, hsign⟩)
  · intro h sign hsign
    obtain ⟨p, hp, hmem⟩ := List.mem_flatMap.mp hsign
    exact (BatcherWorld.lost_signs_iff (hfull.1 p hp)).mpr (h p hp) sign hmem

/-- **Events are conserved and the counters balance** in a quiescent state exactly when no
callback of a batch has raised. -/
theorem batcher_conserves_iff {cfg : BatcherConfig} {w : BatcherWorld}
    {tr : List (BatcherWorld × BatcherAction)}
    (hrun : Run (BatcherWorld.Step cfg) .fresh tr w) (hq : w.Quiescent) :
    EventsConserved (emitted (BatcherWorld.signs cfg) tr) w ∧ w.Balanced ↔
      ∀ p ∈ tr, p.1.batchCallbackRaises p.2 = false := by
  have haccounted := accounted_of_run hrun
  rw [haccounted.balanced_iff hq, lostIn_emitted_iff hrun]
  exact and_iff_right (haccounted.conserved hq)

/-- A batcher as `EventBatcher` sets it up by default. -/
def defaultBatcher : BatcherConfig := ⟨5000000, 20, ["AEE", "VENDOR_AEE", "UNIVIEW"], 1000⟩

/-- A file is reported twice, and the queue is flushed by force with a callback that raises or
not. -/
def twoReports (raises : Bool) : List BatcherAction :=
  [.addEvent ⟨"ANR", "/data/anr/trace_00"⟩, .advance 0 0 false false,
    .addEvent ⟨"ANR", "/data/anr/trace_00"⟩, .advance 0 0 false false, .flushPending true 0,
    .advance 0 0 raises false] ++ if raises then [] else [.advance 0 0 false false]

/-- The batcher after these. -/
def afterReports (batchEmits signalsTotal : ℕ) : BatcherWorld :=
  ⟨⟨[], [], false, false, none, none, ⟨2, 1, 0, batchEmits, signalsTotal⟩⟩, [], 0⟩

/-- The theorem at work: one event is deduplicated, the other is in the batch. -/
theorem batcher_conserves_iff_returned :
    ∃ tr, Run (BatcherWorld.Step defaultBatcher) .fresh tr (afterReports 1 1) ∧
      EventsConserved (emitted (BatcherWorld.signs defaultBatcher) tr) (afterReports 1 1) ∧
      (afterReports 1 1).Balanced := by
  have hsteps : (twoReports false).foldlM (BatcherWorld.step defaultBatcher) .fresh =
      some (afterReports 1 1) := by decide
  have hrun := Run.of_foldlM hsteps
  exact ⟨_, hrun, (batcher_conserves_iff hrun (by decide)).mpr (by decide)⟩

/-- **A callback that raises unbalances the counters**: the event of its batch is in none of
them. -/
theorem raisedBatch_unbalances :
    ∃ tr, Run (BatcherWorld.Step defaultBatcher) .fresh tr (afterReports 0 0) ∧
      (afterReports 0 0).Quiescent ∧ (afterReports 0 0).threads = [] ∧
      ¬ (afterReports 0 0).Balanced := by
  have hsteps : (twoReports true).foldlM (BatcherWorld.step defaultBatcher) .fresh =
      some (afterReports 0 0) := by decide
  exact ⟨_, Run.of_foldlM hsteps, by decide, rfl, by decide⟩

end StabilityPlatform
