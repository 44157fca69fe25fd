import StabilityPlatform.Agent.SchedulerAccounting
import StabilityPlatform.Lib.Dict
import StabilityPlatform.Lib.Fifo
import StabilityPlatform.Lib.Run

/-!
# Order and work conservation of the operation scheduler

A live waiter is an acquire that joined the queue and still waits: no promotion, cancel or
shutdown has reached its event. The queue never holds an entry below the cap, entries are
promoted in the order they joined, and the fast path is taken past an empty queue only.
That a live waiter still has its entry is another matter: a wait that ran out takes the
entry of its device out of the queue, and after a cancel this can be the entry of a later
acquire of the same device.

## Main results

* `promoteAll_spec`: waking takes a front part of the queue, all of it or up to the cap.
* `queueMove_step`: what a step does to the queue.
* `order_of_ownsTimeout`: **the order**, along every run whose timeouts give up their own
  entries only.
* `lost_waiter`: a run that ends with a live waiter, a free slot and an empty queue.
-/

namespace StabilityPlatform

open Lib

/-! ### Waking -/

/-- An open scheduler with waiters has no free slot. -/
def Saturated (s : OperationScheduler) : Prop :=
  s.shutdown = false → s.waiters ≠ [] → s.maxConcurrent ≤ s.held

/-- **Promotion.** A front part of the queue is promoted and signalled, and what is left
has no free slot. -/
theorem promoteAll_spec (ws : List (ℕ × ℕ)) :
    ∀ s : OperationScheduler, s.waiters = ws →
      ∃ front, ws = front ++ (OperationScheduler.promoteAll ws s).1.waiters ∧
        (OperationScheduler.promoteAll ws s).2 = front.map Prod.snd ∧
        ((OperationScheduler.promoteAll ws s).1.waiters = [] ∨
          (OperationScheduler.promoteAll ws s).1.maxConcurrent ≤
            (OperationScheduler.promoteAll ws s).1.held) := by
  induction ws with
  | nil =>
      intro s hs
      exact ⟨[], hs.symm, rfl, .inl hs⟩
  | cons w rest ih =>
      obtain ⟨device, event⟩ := w
      intro s hs
      rw [OperationScheduler.promoteAll]
      split_ifs with hlt
      · obtain ⟨front, hfront, hevents, hfull⟩ := ih (s.promote device rest) rfl
        refine ⟨(device, event) :: front, ?_, ?_, hfull⟩
        · rw [List.cons_append, ← hfront]
        · rw [List.map_cons, ← hevents]
      · exact ⟨[], hs.symm, rfl, .inr (not_lt.mp hlt)⟩

/-- Waking takes a front part of the queue. -/
theorem wakeOne_front (s : OperationScheduler) :
    ∃ front, s.waiters = front ++ s.wakeOne.1.waiters ∧
      s.wakeOne.2 = front.map Prod.snd := by
  rw [OperationScheduler.wakeOne]
  split_ifs with hshut
  · exact ⟨[], rfl, rfl⟩
  · obtain ⟨front, hfront, hevents, -⟩ := promoteAll_spec s.waiters s rfl
    exact ⟨front, hfront, hevents⟩

/-- Waking leaves no free slot behind. -/
theorem saturated_wakeOne (s : OperationScheduler) : Saturated s.wakeOne.1 := by
  rw [OperationScheduler.wakeOne]
  split_ifs with hshut
  · intro hopen
    exact absurd (hopen.symm.trans hshut) (by decide)
  · obtain ⟨-, -, -, hfull⟩ := promoteAll_spec s.waiters s rfl
    exact fun _ hne => hfull.resolve_left hne

/-! ### The queue of an agent -/

namespace Agent

/-- The entry a step puts at the end of the queue. -/
def enqueued (a : Agent) : Op → List (ℕ × ℕ)
  | .acquire device _ =>
    if (a.scheduler.enter device a.next).1 = .queued then [(device, a.next)] else []
  | _ => []

/-- The events of the waiters a step promotes, in order. -/
def promoted (a : Agent) : Op → List ℕ
  | .release permit => (a.scheduler.release permit.device).2
  | .resolve event =>
    match a.acquire? event with
    | some c => (a.scheduler.leave c.device).2.2
    | none => []
  | .setMaxConcurrent n => (a.scheduler.setMaxConcurrent n).2
  | _ => []

/-- Whether a step is an acquire that takes the fast path. -/
def takesFastPath (a : Agent) : Op → Bool
  | .acquire device _ => (a.scheduler.enter device a.next).1 = .granted
  | _ => false

/-- Whether an acquire still waits: its wait is not over, and its event is neither set nor
about to be set. -/
def live (a : Agent) (c : Acquire) : Bool :=
  c.stage ≠ .resolving && !c.signaled && !a.signals.contains c.event

/-- The acquires that still wait for a slot. -/
def liveWaiters (a : Agent) : List Acquire := a.acquires.filter a.live

/-- Whether a wait that ran out and gives up leaves the entries of other acquires in the
queue. -/
def ownsTimeout (a : Agent) : Op → Bool
  | .checkTimeout event =>
    match a.acquire? event with
    | some c => !(a.scheduler.timeoutCheck c.device).1 ||
        a.scheduler.waiters.all fun w => w.1 != c.device || w.2 == c.event
    | none => true
  | _ => true

end Agent

/-- An entry leaves the queue only by a promotion, a cancel, a timeout or a shutdown: a
part of the queue stays, the step's own entry joins it, and a front part is promoted. -/
def QueueMove (a : Agent) (op : Op) (s : OperationScheduler) : Prop :=
  ∃ stay front, stay.Sublist a.scheduler.waiters ∧
    stay ++ a.enqueued op = front ++ s.waiters ∧ a.promoted op = front.map Prod.snd

/-- A step that neither joins nor promotes only shortens the queue. -/
theorem queueMove_of_sublist {a : Agent} {op : Op} {s : OperationScheduler}
    (hjoin : a.enqueued op = []) (hpromote : a.promoted op = [])
    (h : s.waiters.Sublist a.scheduler.waiters) : QueueMove a op s := by
  refine ⟨s.waiters, [], h, ?_, hpromote⟩
  rw [hjoin, List.append_nil, List.nil_append]

/-- A step that wakes a scheduler with the queue of the agent. -/
theorem queueMove_of_wakeOne {a : Agent} {op : Op} {s : OperationScheduler}
    (hjoin : a.enqueued op = []) (hpromote : a.promoted op = s.wakeOne.2)
    (h : s.waiters = a.scheduler.waiters) : QueueMove a op s.wakeOne.1 := by
  obtain ⟨front, hfront, hevents⟩ := wakeOne_front s
  refine ⟨s.waiters, front, h ▸ .refl _, ?_, hpromote.trans hevents⟩
  rw [hjoin, List.append_nil]
  exact hfront

/-- What the first locked section of an acquire does: it refuses, takes a free slot past an
empty queue, or joins the queue. -/
theorem enter_cases (s : OperationScheduler) (device event : ℕ) :
    ((s.enter device event).1 ≠ .granted ∧ (s.enter device event).1 ≠ .queued ∧
      (s.enter device event).2 = s) ∨
    ((s.enter device event).1 = .granted ∧ (s.enter device event).2 = s.takeSlot device ∧
      (s.held : ℤ) < s.maxConcurrent ∧ s.waiters = []) ∨
    ((s.enter device event).1 = .queued ∧
      (s.enter device event).2 = { s with waiters := s.waiters ++ [(device, event)] } ∧
      device ∉ s.waiters.map Prod.fst ∧ (s.waiters = [] → s.maxConcurrent ≤ s.held)) := by
  rw [OperationScheduler.enter]
  split_ifs with hshut hwait hheld hfast
  · exact .inl ⟨nofun, nofun, rfl⟩
  · exact .inl ⟨nofun, nofun, rfl⟩
  · exact .inl ⟨nofun, nofun, rfl⟩
  · exact .inr (.inl ⟨rfl, rfl, hfast.1, hfast.2⟩)
  · refine .inr (.inr ⟨rfl, rfl, by simpa [OperationScheduler.isWaiting] using hwait, ?_⟩)
    intro hempty
    exact not_lt.mp fun hlt => hfast ⟨hlt, hempty⟩

/-- An acquire leaves the scheduler as its first locked section does. -/
theorem scheduler_stepAcquire (a : Agent) (device : ℕ) (timed : Bool) :
    (a.stepAcquire device timed).scheduler = (a.scheduler.enter device a.next).2 := by
  rw [Agent.stepAcquire, OperationScheduler.enter]
  split_ifs <;> rfl

/-- What the first locked section of an acquire leaves of the agent. -/
theorem stepAcquire_cases (a : Agent) (device : ℕ) (timed : Bool) :
    ((a.scheduler.enter device a.next).1 ≠ .granted ∧
      (a.scheduler.enter device a.next).1 ≠ .queued ∧ a.stepAcquire device timed = a) ∨
    ((a.scheduler.enter device a.next).1 = .granted ∧
      a.stepAcquire device timed = { (a.update (a.scheduler.takeSlot device) []).grant a.next
        device with next := a.next + 1 } ∧ a.scheduler.waiters = []) ∨
    ((a.scheduler.enter device a.next).1 = .queued ∧ a.stepAcquire device timed =
      { a.update { a.scheduler with waiters := a.scheduler.waiters ++ [(device, a.next)] } []
        with
        acquires := a.acquires ++ [Acquire.mk a.next device timed .waiting false]
        next := a.next + 1 }) := by
  rw [Agent.stepAcquire]
  rcases enter_cases a.scheduler device a.next with ⟨hng, hnq, -⟩ | ⟨hg, hs, -, hnil⟩ |
    ⟨hq, hs, -, -⟩
  · refine .inl ⟨hng, hnq, ?_⟩
    generalize a.scheduler.enter device a.next = entry at hng hnq ⊢
    obtain ⟨entry, s⟩ := entry
    cases entry <;> first | rfl | exact absurd rfl hng | exact absurd rfl hnq
  · have henter : a.scheduler.enter device a.next = (.granted, _) := Prod.ext hg hs
    rw [henter]
    exact .inr (.inl ⟨rfl, rfl, hnil⟩)
  · have henter : a.scheduler.enter device a.next = (.queued, _) := Prod.ext hq hs
    rw [henter]
    exact .inr (.inr ⟨rfl, rfl⟩)

/-- The end of an acquire leaves the scheduler as its last locked section does. -/
theorem scheduler_stepResolve (a : Agent) (c : Acquire) :
    (a.stepResolve c).scheduler = (a.scheduler.leave c.device).2.1 := by
  rw [Agent.stepResolve]
  dsimp only
  split_ifs <;> rfl

/-- A hand-off that comes back leaves the queue alone. -/
@[simp] theorem waiters_releasePendingHandoff (s : OperationScheduler) (device : ℕ) :
    (s.releasePendingHandoff device).waiters = s.waiters := by
  rw [OperationScheduler.releasePendingHandoff]
  split_ifs <;> rfl

/-- Leaving a wait changes the queue by waking only. -/
theorem leave_cases (s : OperationScheduler) (device : ℕ) :
    (s.shutdown = true ∧ (s.leave device).2.1 = s.releasePendingHandoff device ∧
      (s.leave device).2.2 = []) ∨
    (∃ s' : OperationScheduler, s'.waiters = s.waiters ∧ (s.leave device).2 = s'.wakeOne) ∨
    ((s.leave device).2.1.waiters = s.waiters ∧ (s.leave device).2.1.held = s.held ∧
      (s.leave device).2.1.maxConcurrent = s.maxConcurrent ∧
      (s.leave device).2.1.shutdown = s.shutdown ∧ (s.leave device).2.2 = []) := by
  rw [OperationScheduler.leave]
  dsimp only
  split_ifs with hshut hcancel hpending
  · exact .inl ⟨hshut, rfl, rfl⟩
  · exact .inr (.inl ⟨({ s with cancelled := s.cancelled.erase device }
      : OperationScheduler).releasePendingHandoff device,
      waiters_releasePendingHandoff _ _, rfl⟩)
  · exact .inr (.inr ⟨rfl, rfl, rfl, rfl, rfl⟩)
  · exact .inr (.inr ⟨rfl, rfl, rfl, rfl, rfl⟩)

/-! ### One step -/

/-- What every step keeps: the queue names no device twice and has no free slot below it,
and the events of the acquires are distinct and past. -/
structure Orderly (a : Agent) : Prop where
  devices_nodup : (a.scheduler.waiters.map Prod.fst).Nodup
  saturated : Saturated a.scheduler
  events_nodup : (a.waits.map Prod.snd).Nodup
  fresh : ∀ w ∈ a.waits, w.2 < a.next

/-- Every live waiter has its entry in the queue. -/
def Queued (a : Agent) : Prop :=
  ∀ c ∈ a.acquires, a.live c = true → (c.device, c.event) ∈ a.scheduler.waiters

/-- **One step** moves the queue. -/
theorem queueMove_step {a a' : Agent} {op : Op} (hstep : a.step op = some a') :
    QueueMove a op a'.scheduler := by
  cases op with
  | acquire device timed =>
      cases hstep
      rw [scheduler_stepAcquire]
      rcases enter_cases a.scheduler device a.next with ⟨-, hne, hs⟩ | ⟨hg, hs, -, -⟩ |
        ⟨hq, hs, -, -⟩
      · rw [hs]
        exact queueMove_of_sublist (if_neg hne) rfl (.refl _)
      · rw [hs]
        exact queueMove_of_sublist (if_neg (hg ▸ by decide)) rfl (.refl _)
      · refine ⟨a.scheduler.waiters, [], .refl _, ?_, rfl⟩
        rw [hs, Agent.enqueued, if_pos hq]
        rfl
  | waitReturns event =>
      obtain ⟨c, -, hc⟩ := Option.bind_eq_some_iff.mp hstep
      split_ifs at hc
      cases hc
      exact queueMove_of_sublist rfl rfl (.refl _)
  | waitExpires event =>
      obtain ⟨c, -, hc⟩ := Option.bind_eq_some_iff.mp hstep
      split_ifs at hc
      cases hc
      exact queueMove_of_sublist rfl rfl (.refl _)
  | checkTimeout event =>
      obtain ⟨c, -, hc⟩ := Option.bind_eq_some_iff.mp hstep
      split_ifs at hc
      cases hc
      refine queueMove_of_sublist rfl rfl ?_
      rw [Agent.stepCheckTimeout, OperationScheduler.timeoutCheck]
      split_ifs
      · exact List.filter_sublist
      · exact .refl _
  | resolve event =>
      obtain ⟨c, hfind, hc⟩ := Option.bind_eq_some_iff.mp hstep
      split_ifs at hc
      cases hc
      have hprom : a.promoted (.resolve event) = (a.scheduler.leave c.device).2.2 := by
        rw [Agent.promoted, hfind]
      rw [scheduler_stepResolve]
      rcases leave_cases a.scheduler c.device with ⟨-, hs, hev⟩ | ⟨s', hs', hleave⟩ |
        ⟨hw, -, -, -, hev⟩
      · refine queueMove_of_sublist rfl (hprom.trans hev) ?_
        rw [hs, waiters_releasePendingHandoff]
      · rw [hleave] at hprom ⊢
        exact queueMove_of_wakeOne rfl hprom hs'
      · exact queueMove_of_sublist rfl (hprom.trans hev) (hw ▸ .refl _)
  | release permit =>
      simp only [Agent.step] at hstep
      split_ifs at hstep
      cases hstep
      exact queueMove_of_wakeOne rfl rfl rfl
  | cancelDevice device =>
      cases hstep
      refine queueMove_of_sublist rfl rfl ?_
      change (a.scheduler.cancelDevice device).1.waiters.Sublist _
      rw [OperationScheduler.cancelDevice]
      split_ifs <;> exact List.filter_sublist
  | setMaxConcurrent n =>
      cases hstep
      change QueueMove a _ (a.scheduler.setMaxConcurrent n).1
      have hprom : a.promoted (.setMaxConcurrent n) = (a.scheduler.setMaxConcurrent n).2 := rfl
      rw [OperationScheduler.setMaxConcurrent] at hprom ⊢
      dsimp only at hprom ⊢
      split_ifs at hprom ⊢
      · exact queueMove_of_wakeOne rfl hprom rfl
      · exact queueMove_of_sublist rfl hprom (.refl _)
  | shutdown =>
      cases hstep
      exact queueMove_of_sublist rfl rfl (List.nil_sublist _)
  | signal event =>
      simp only [Agent.step] at hstep
      split_ifs at hstep
      cases hstep
      exact queueMove_of_sublist rfl rfl (.refl _)

/-- A shorter queue with the same slots has no free slot. -/
theorem Saturated.of_sublist {s s' : OperationScheduler} (h : Saturated s)
    (hopen : s'.shutdown = s.shutdown) (hheld : s'.held = s.held)
    (hcap : s'.maxConcurrent = s.maxConcurrent) (hw : s'.waiters.Sublist s.waiters) :
    Saturated s' := by
  intro hs hne
  rw [hheld, hcap]
  refine h (hopen ▸ hs) fun hnil => hne ?_
  rw [hnil] at hw
  exact List.sublist_nil.mp hw

/-- A scheduler that shuts down promotes nobody. -/
theorem saturated_of_shutdown {s : OperationScheduler} (h : s.shutdown = true) :
    Saturated s :=
  fun hopen => absurd (hopen.symm.trans h) (by decide)

/-- A hand-off that comes back during a shutdown. -/
@[simp] theorem shutdown_releasePendingHandoff (s : OperationScheduler) (device : ℕ) :
    (s.releasePendingHandoff device).shutdown = s.shutdown := by
  rw [OperationScheduler.releasePendingHandoff]
  split_ifs <;> rfl

/-- The first locked section of an acquire leaves no free slot below a waiter. -/
theorem saturated_enter {s : OperationScheduler} (h : Saturated s) (device event : ℕ) :
    Saturated (s.enter device event).2 := by
  rcases enter_cases s device event with ⟨-, -, hs⟩ | ⟨-, hs, -, hnil⟩ | ⟨-, hs, -, hfull⟩
  · rw [hs]
    exact h
  · rw [hs]
    exact fun _ hne => absurd hnil hne
  · rw [hs]
    intro hopen _
    by_cases hnil : s.waiters = []
    · exact hfull hnil
    · exact h hopen hnil

/-- The last locked section of an acquire leaves no free slot below a waiter. -/
theorem saturated_leave {s : OperationScheduler} (h : Saturated s) (device : ℕ) :
    Saturated (s.leave device).2.1 := by
  rcases leave_cases s device with ⟨hshut, hs, -⟩ | ⟨s', -, hleave⟩ |
    ⟨hw, hheld, hcap, hopen, -⟩
  · rw [hs]
    exact saturated_of_shutdown (by simpa using hshut)
  · rw [hleave]
    exact saturated_wakeOne s'
  · exact h.of_sublist hopen hheld hcap (hw ▸ .refl _)

/-- A new cap leaves no free slot below a waiter. -/
theorem saturated_setMaxConcurrent (s : OperationScheduler) (n : ℤ) :
    Saturated (s.setMaxConcurrent n).1 := by
  rw [OperationScheduler.setMaxConcurrent]
  dsimp only
  split_ifs with hlt
  · exact saturated_wakeOne _
  · exact fun _ _ => not_lt.mp hlt

/-- **One step** leaves no free slot below a waiter. -/
theorem saturated_step {a a' : Agent} {op : Op} (h : Saturated a.scheduler)
    (hstep : a.step op = some a') : Saturated a'.scheduler := by
  cases op with
  | acquire device timed =>
      cases hstep
      rw [scheduler_stepAcquire]
      exact saturated_enter h device a.next
  | waitReturns event =>
      obtain ⟨c, -, hc⟩ := Option.bind_eq_some_iff.mp hstep
      split_ifs at hc
      cases hc
      exact h
  | waitExpires event =>
      obtain ⟨c, -, hc⟩ := Option.bind_eq_some_iff.mp hstep
      split_ifs at hc
      cases hc
      exact h
  | checkTimeout event =>
      obtain ⟨c, -, hc⟩ := Option.bind_eq_some_iff.mp hstep
      split_ifs at hc
      cases hc
      rw [Agent.stepCheckTimeout, OperationScheduler.timeoutCheck]
      split_ifs
      · exact h.of_sublist rfl rfl rfl List.filter_sublist
      · exact h
  | resolve event =>
      obtain ⟨c, -, hc⟩ := Option.bind_eq_some_iff.mp hstep
      split_ifs at hc
      cases hc
      rw [scheduler_stepResolve]
      exact saturated_leave h c.device
  | release permit =>
      simp only [Agent.step] at hstep
      split_ifs at hstep
      cases hstep
      exact saturated_wakeOne _
  | cancelDevice device =>
      cases hstep
      change Saturated (a.scheduler.cancelDevice device).1
      rw [OperationScheduler.cancelDevice]
      split_ifs <;> exact h.of_sublist rfl rfl rfl List.filter_sublist
  | setMaxConcurrent n =>
      cases hstep
      exact saturated_setMaxConcurrent a.scheduler n
  | shutdown =>
      cases hstep
      exact saturated_of_shutdown rfl
  | signal event =>
      simp only [Agent.step] at hstep
      split_ifs at hstep
      cases hstep
      exact h

/-! ### Live waiters -/

/-- A live waiter, spelled out. -/
theorem live_iff {a : Agent} {c : Acquire} :
    a.live c = true ↔ c.stage ≠ .resolving ∧ c.signaled = false ∧ c.event ∉ a.signals := by
  simp [Agent.live, and_assoc]

/-- A waiter that is live after some events were set was live before, and its event is
none of them. -/
theorem live_setEvents {a : Agent} {events : List ℕ} {c : Acquire}
    (hc : c ∈ (a.setEvents events).acquires) (hlive : (a.setEvents events).live c = true) :
    c ∈ a.acquires ∧ a.live c = true ∧ c.event ∉ events := by
  obtain ⟨c₀, hc₀, rfl⟩ := List.mem_map.mp hc
  rw [live_iff] at hlive
  by_cases hev : c₀.event ∈ events
  · simp [hev] at hlive
  · have hkeep : (if events.contains c₀.event then { c₀ with signaled := true } else c₀) =
        c₀ := by
      simp [hev]
    rw [hkeep] at hlive ⊢
    exact ⟨hc₀, live_iff.mpr hlive, hev⟩

/-- A locked section keeps the entries of live waiters when the entries that leave the
queue belong to a finished acquire or are signalled. -/
theorem queued_update {a b : Agent} (h : Queued a) {s : OperationScheduler}
    {events : List ℕ} (hsub : ∀ c ∈ b.acquires, c ∈ a.acquires)
    (hsig : b.signals = a.signals)
    (hkeep : ∀ c ∈ b.acquires, (c.device, c.event) ∈ a.scheduler.waiters →
      c.event ∉ events → (c.device, c.event) ∈ s.waiters) :
    Queued (b.update s events) := by
  intro c hc hlive
  obtain ⟨hc, hlive, hev⟩ := live_setEvents hc hlive
  refine hkeep c hc (h c (hsub c hc) ?_) hev
  rw [live_iff] at hlive ⊢
  exact hsig ▸ hlive

/-- An acquire found by its event is the only one with it. -/
theorem eq_of_acquire? {a : Agent} (h : Orderly a) {event : ℕ} {c c' : Acquire}
    (hfind : a.acquire? event = some c) (hc' : c' ∈ a.acquires) (hev : c'.event = event) :
    c' = c := by
  have hnodup : (a.acquires.map Acquire.event).Nodup := by
    have hmap := h.events_nodup
    rw [Agent.waits, List.map_map] at hmap
    exact hmap
  refine List.inj_on_of_nodup_map hnodup hc' (List.mem_of_find?_eq_some hfind) ?_
  exact hev.trans (mem_waits_of_acquire? hfind).1.symm

/-- An acquire that moves to another stage of its wait keeps the entries of live waiters. -/
theorem queued_setStage {a : Agent} (ho : Orderly a) (h : Queued a) {event : ℕ}
    {c : Acquire} (hfind : a.acquire? event = some c) (hstage : c.stage ≠ .resolving)
    (stage : Stage) : Queued (a.setStage event stage) := by
  intro c' hc' hlive
  obtain ⟨c₀, hc₀, rfl⟩ := List.mem_map.mp hc'
  rw [live_iff] at hlive
  by_cases hev : c₀.event = event
  · have hsame := eq_of_acquire? ho hfind hc₀ hev
    simp only [if_pos hev] at hlive ⊢
    exact h c₀ hc₀ (live_iff.mpr ⟨hsame ▸ hstage, hlive.2⟩)
  · simp only [if_neg hev] at hlive ⊢
    exact h c₀ hc₀ (live_iff.mpr hlive)

/-- The acquires a step leaves are old ones and the one that joined the queue. -/
theorem waits_step {a a' : Agent} {op : Op} (hstep : a.step op = some a') :
    a'.waits.Sublist (a.waits ++ a.enqueued op) ∧ a.next ≤ a'.next ∧
      ∀ w ∈ a.enqueued op, w.2 = a.next ∧ w.2 < a'.next := by
  have hkeep : ∀ {b : Agent} {ws : List (ℕ × ℕ)}, b.waits = a.waits → b.next = a.next →
      ws = [] → b.waits.Sublist (a.waits ++ ws) ∧ a.next ≤ b.next ∧
        ∀ w ∈ ws, w.2 = a.next ∧ w.2 < b.next := by
    rintro b ws hw hn rfl
    rw [hw, hn, List.append_nil]
    exact ⟨.refl _, le_refl _, fun w hw => absurd hw List.not_mem_nil⟩
  have hdrop : ∀ {b : Agent} {event : ℕ}, b.waits = without a.waits event →
      b.next = a.next → b.waits.Sublist (a.waits ++ []) ∧ a.next ≤ b.next ∧
        ∀ w ∈ ([] : List (ℕ × ℕ)), w.2 = a.next ∧ w.2 < b.next := by
    rintro b event hw hn
    rw [hw, hn, List.append_nil]
    exact ⟨List.filter_sublist, le_refl _, fun w hw => absurd hw List.not_mem_nil⟩
  cases op with
  | acquire device timed =>
      cases hstep
      rcases stepAcquire_cases a device timed with ⟨-, hnq, ha'⟩ | ⟨hg, ha', -⟩ | ⟨hq, ha'⟩
      · rw [ha', Agent.enqueued, if_neg hnq]
        exact hkeep rfl rfl rfl
      · rw [ha', Agent.enqueued, if_neg (by rw [hg]; nofun), List.append_nil]
        refine ⟨?_, Nat.le_succ _, fun w hw => absurd hw List.not_mem_nil⟩
        have hsame := waits_update a (a.scheduler.takeSlot device) []
        exact hsame ▸ .refl _
      · rw [ha', Agent.enqueued, if_pos hq]
        refine ⟨?_, Nat.le_succ _, ?_⟩
        · rw [Agent.waits, List.map_append]
          exact .refl _
        · intro w hw
          rw [List.mem_singleton.mp hw]
          exact ⟨rfl, Nat.lt_succ_self _⟩
  | waitReturns event =>
      obtain ⟨c, -, hc⟩ := Option.bind_eq_some_iff.mp hstep
      split_ifs at hc
      cases hc
      exact hkeep (waits_setStage ..) rfl rfl
  | waitExpires event =>
      obtain ⟨c, -, hc⟩ := Option.bind_eq_some_iff.mp hstep
      split_ifs at hc
      cases hc
      exact hkeep (waits_setStage ..) rfl rfl
  | checkTimeout event =>
      obtain ⟨c, -, hc⟩ := Option.bind_eq_some_iff.mp hstep
      split_ifs at hc
      cases hc
      rw [Agent.stepCheckTimeout, OperationScheduler.timeoutCheck]
      split_ifs
      · exact hdrop ((waits_update ..).trans (waits_finish ..)) rfl
      · exact hkeep (waits_setStage ..) rfl rfl
  | resolve event =>
      obtain ⟨c, -, hc⟩ := Option.bind_eq_some_iff.mp hstep
      split_ifs at hc
      cases hc
      rw [Agent.stepResolve]
      dsimp only
      split_ifs
      · exact hdrop ((waits_update ..).trans (waits_finish ..)) rfl
      · exact hdrop ((waits_update ..).trans (waits_finish ..)) rfl
  | release permit =>
      simp only [Agent.step] at hstep
      split_ifs at hstep
      cases hstep
      exact hkeep (waits_update ..) rfl rfl
  | cancelDevice device =>
      cases hstep
      exact hkeep rfl rfl rfl
  | setMaxConcurrent n =>
      cases hstep
      exact hkeep (waits_update ..) rfl rfl
  | shutdown =>
      cases hstep
      exact hkeep rfl rfl rfl
  | signal event =>
      simp only [Agent.step] at hstep
      split_ifs at hstep
      cases hstep
      exact hkeep (waits_setEvents ..) rfl rfl

/-- An entry that joins the queue is the first of its device. -/
theorem enqueued_free (a : Agent) (op : Op) :
    ∀ w ∈ a.enqueued op, w.1 ∉ a.scheduler.waiters.map Prod.fst := by
  intro w hw
  cases op with
  | acquire device timed =>
      rw [Agent.enqueued] at hw
      split_ifs at hw with hq
      · rcases enter_cases a.scheduler device a.next with ⟨-, hnq, -⟩ | ⟨hg, -, -, -⟩ |
          ⟨-, -, hfree, -⟩
        · exact absurd hq hnq
        · exact absurd (hg.symm.trans hq) nofun
        · rw [List.mem_singleton.mp hw]
          exact hfree
      · exact absurd hw List.not_mem_nil
  | _ => exact absurd hw List.not_mem_nil

/-- Putting a list of at most one new element at the end keeps elements distinct. -/
theorem nodup_append_new {l new : List ℕ} (hl : l.Nodup) (hnew : new.Nodup)
    (hfree : ∀ x ∈ new, x ∉ l) : (l ++ new).Nodup :=
  List.nodup_append'.mpr ⟨hl, hnew, fun x hx hx' => hfree x hx' hx⟩

/-- A step joins the queue with at most one entry. -/
theorem enqueued_nodup {β : Type*} (a : Agent) (op : Op) (f : ℕ × ℕ → β) :
    ((a.enqueued op).map f).Nodup := by
  cases op with
  | acquire device timed =>
      rw [Agent.enqueued]
      split_ifs
      · exact List.nodup_singleton _
      · exact List.nodup_nil
  | _ => exact List.nodup_nil

/-- A step keeps the queue and the acquires in order. -/
theorem orderly_step {a a' : Agent} {op : Op} (h : Orderly a) (hstep : a.step op = some a') :
    Orderly a' := by
  obtain ⟨stay, front, hstay, hmove, -⟩ := queueMove_step hstep
  obtain ⟨hwaits, hnext, hnew⟩ := waits_step hstep
  refine ⟨?_, saturated_step h.saturated hstep, ?_, ?_⟩
  · have hall : ((stay ++ a.enqueued op).map Prod.fst).Nodup := by
      rw [List.map_append]
      refine nodup_append_new (h.devices_nodup.sublist (hstay.map _))
        (enqueued_nodup a op _) fun x hx hx' => ?_
      obtain ⟨w, hw, rfl⟩ := List.mem_map.mp hx
      exact enqueued_free a op w hw ((hstay.map _).subset hx')
    rw [hmove, List.map_append] at hall
    exact hall.of_append_right
  · refine List.Nodup.sublist (hwaits.map _) ?_
    rw [List.map_append]
    refine nodup_append_new h.events_nodup (enqueued_nodup a op _) fun x hx hx' => ?_
    obtain ⟨w, hw, rfl⟩ := List.mem_map.mp hx
    obtain ⟨v, hv, hveq⟩ := List.mem_map.mp hx'
    have hlt := h.fresh v hv
    have heq := (hnew w hw).1
    omega
  · intro w hw
    rcases List.mem_append.mp (hwaits.subset hw) with hw | hw
    · exact (h.fresh w hw).trans_le hnext
    · exact (hnew w hw).2

/-- A waiter that a cancel takes out of the queue is the one it signals. -/
theorem cancelDevice_keeps {s : OperationScheduler} (hnd : (s.waiters.map Prod.fst).Nodup)
    (device : ℕ) {w : ℕ × ℕ} (hw : w ∈ s.waiters)
    (hev : w.2 ∉ (s.cancelDevice device).2) : w ∈ (s.cancelDevice device).1.waiters := by
  have hpop : (s.cancelDevice device).1.waiters = (s.popWaiter device).waiters := by
    rw [OperationScheduler.cancelDevice]
    split_ifs <;> rfl
  rw [hpop]
  refine List.mem_filter.mpr ⟨hw, ?_⟩
  rw [decide_eq_true_eq]
  rintro rfl
  refine hev ?_
  have hlook : s.waiterOf w.1 = some w.2 := (Dict.lookup_eq_some_iff hnd).mpr hw
  rw [OperationScheduler.cancelDevice, hlook]
  simp

/-- A waiter that waking takes out of the queue is signalled. -/
theorem wakeOne_keeps {s : OperationScheduler} {w : ℕ × ℕ} (hw : w ∈ s.waiters)
    (hev : w.2 ∉ s.wakeOne.2) : w ∈ s.wakeOne.1.waiters := by
  obtain ⟨front, hfront, hevents⟩ := wakeOne_front s
  rw [hfront] at hw
  refine (List.mem_append.mp hw).resolve_left fun hmem => hev ?_
  rw [hevents]
  exact List.mem_map_of_mem hmem

/-- A waiter that a new cap takes out of the queue is signalled. -/
theorem setMaxConcurrent_keeps {s : OperationScheduler} (n : ℤ) {w : ℕ × ℕ}
    (hw : w ∈ s.waiters) (hev : w.2 ∉ (s.setMaxConcurrent n).2) :
    w ∈ (s.setMaxConcurrent n).1.waiters := by
  revert hev
  rw [OperationScheduler.setMaxConcurrent]
  dsimp only
  split_ifs
  · exact fun hev => wakeOne_keeps (s := { s with maxConcurrent := max n 1 }) hw hev
  · exact fun _ => hw

/-- A waiter that the end of an acquire takes out of the queue is signalled. -/
theorem leave_keeps {s : OperationScheduler} (device : ℕ) {w : ℕ × ℕ}
    (hw : w ∈ s.waiters) (hev : w.2 ∉ (s.leave device).2.2) :
    w ∈ (s.leave device).2.1.waiters := by
  rcases leave_cases s device with ⟨-, hs, -⟩ | ⟨s', hs', hleave⟩ | ⟨hsame, -⟩
  · rw [hs, waiters_releasePendingHandoff]
    exact hw
  · rw [hleave] at hev ⊢
    exact wakeOne_keeps (hs' ▸ hw) hev
  · exact hsame ▸ hw

/-- A timeout that gives up leaves the entries of the other acquires. -/
theorem timeout_keeps {a : Agent} {event : ℕ} {c : Acquire}
    (hfind : a.acquire? event = some c) (hown : a.ownsTimeout (.checkTimeout event) = true)
    (c' : Acquire) (hout : (a.scheduler.timeoutCheck c.device).1 = true)
    (hw : (c'.device, c'.event) ∈ a.scheduler.waiters) (hne : c'.event ≠ c.event) :
    (c'.device, c'.event) ∈ (a.scheduler.popWaiter c.device).waiters := by
  simp only [Agent.ownsTimeout, hfind, hout, Bool.not_true, Bool.false_or, List.all_eq_true,
    Bool.or_eq_true, bne_iff_ne, beq_iff_eq] at hown
  refine List.mem_filter.mpr ⟨hw, ?_⟩
  rw [decide_eq_true_eq]
  exact (hown _ hw).resolve_right hne

/-- **One step** keeps the entries of live waiters, when a timeout gives up its own. -/
theorem queued_step {a a' : Agent} {op : Op} (ho : Orderly a) (h : Queued a)
    (hown : a.ownsTimeout op = true) (hstep : a.step op = some a') : Queued a' := by
  cases op with
  | acquire device timed =>
      cases hstep
      rcases stepAcquire_cases a device timed with ⟨-, -, ha'⟩ | ⟨-, ha', -⟩ | ⟨-, ha'⟩
      · rw [ha']
        exact h
      · rw [ha']
        exact queued_update h (b := a) (fun _ hc => hc) rfl fun _ _ hw _ => hw
      · rw [ha']
        intro c hc hlive
        rcases List.mem_append.mp hc with hc | hc
        · exact List.mem_append_left _ (h c hc hlive)
        · rw [List.mem_singleton.mp hc]
          exact List.mem_append_right _ (List.mem_singleton_self _)
  | waitReturns event =>
      obtain ⟨c, hfind, hc⟩ := Option.bind_eq_some_iff.mp hstep
      split_ifs at hc with hstage
      cases hc
      exact queued_setStage ho h hfind (by rw [hstage.1]; nofun) _
  | waitExpires event =>
      obtain ⟨c, hfind, hc⟩ := Option.bind_eq_some_iff.mp hstep
      split_ifs at hc with hstage
      cases hc
      exact queued_setStage ho h hfind (by rw [hstage.1]; nofun) _
  | checkTimeout event =>
      obtain ⟨c, hfind, hc⟩ := Option.bind_eq_some_iff.mp hstep
      split_ifs at hc with hstage
      cases hc
      rw [Agent.stepCheckTimeout]
      have hkeep := timeout_keeps hfind hown
      rw [OperationScheduler.timeoutCheck] at hkeep ⊢
      split_ifs at hkeep ⊢
      · refine queued_update h (fun c' hc' => List.mem_of_mem_filter hc') rfl ?_
        intro c' hc' hw _
        exact hkeep c' rfl hw (by simpa using (List.mem_filter.mp hc').2)
      · have hev := (mem_waits_of_acquire? hfind).1
        exact queued_setStage ho h (hev.symm ▸ hfind) (by rw [hstage]; nofun) _
  | resolve event =>
      obtain ⟨c, -, hc⟩ := Option.bind_eq_some_iff.mp hstep
      split_ifs at hc
      cases hc
      have hupdate : Queued ((a.finish c.event).update (a.scheduler.leave c.device).2.1
          (a.scheduler.leave c.device).2.2) :=
        queued_update h (fun c' hc' => List.mem_of_mem_filter hc') rfl
          fun _ _ hw hev => leave_keeps c.device hw hev
      rw [Agent.stepResolve]
      dsimp only
      split_ifs <;> exact hupdate
  | release permit =>
      simp only [Agent.step] at hstep
      split_ifs at hstep
      cases hstep
      exact queued_update (a := a) h (fun _ hc => hc) rfl fun _ _ hw hev =>
        wakeOne_keeps (s := a.scheduler.giveSlot permit.device) hw hev
  | cancelDevice device =>
      cases hstep
      intro c hc hlive
      obtain ⟨hstage, hsig, hev⟩ := live_iff.mp hlive
      have hnot := mt (List.mem_append (t := (a.scheduler.cancelDevice device).2)).mpr hev
      rw [not_or] at hnot
      exact cancelDevice_keeps ho.devices_nodup device
        (h c hc (live_iff.mpr ⟨hstage, hsig, hnot.1⟩)) hnot.2
  | setMaxConcurrent n =>
      cases hstep
      exact queued_update (a := a) h (fun _ hc => hc) rfl fun _ _ hw hev =>
        setMaxConcurrent_keeps n hw hev
  | shutdown =>
      cases hstep
      intro c hc hlive
      obtain ⟨hstage, hsig, hev⟩ := live_iff.mp hlive
      have hnot := mt (List.mem_append (t := a.scheduler.shutDown.2)).mpr hev
      rw [not_or] at hnot
      have hw := h c hc (live_iff.mpr ⟨hstage, hsig, hnot.1⟩)
      exact absurd (List.mem_map_of_mem (f := Prod.snd) hw) hnot.2
  | signal event =>
      simp only [Agent.step] at hstep
      split_ifs at hstep
      cases hstep
      intro c hc hlive
      obtain ⟨hc, hlive, hev⟩ := live_setEvents hc hlive
      obtain ⟨hstage, hsig, hout⟩ := live_iff.mp hlive
      refine h c hc (live_iff.mpr ⟨hstage, hsig, fun hmem => hout ?_⟩)
      exact (List.mem_erase_of_ne (by simpa using hev)).mpr hmem

/-! ### The order -/

/-- A live waiter means that no slot is free, unless the agent shuts down. -/
def WorkConserving (a : Agent) : Prop :=
  a.scheduler.shutdown = false → a.liveWaiters ≠ [] →
    a.scheduler.maxConcurrent ≤ a.scheduler.held

instance (a : Agent) : Decidable (WorkConserving a) := inferInstanceAs (Decidable (_ → _))

/-- A fresh agent is in order. -/
theorem orderly_init (n : ℤ) : Orderly (.init n) :=
  ⟨List.nodup_nil, fun _ hne => absurd rfl hne, List.nodup_nil,
    fun _ hw => absurd hw List.not_mem_nil⟩

/-- An agent whose live waiters are queued conserves work. -/
theorem Orderly.workConserving {a : Agent} (h : Orderly a) (hq : Queued a) :
    WorkConserving a := by
  intro hopen hne
  obtain ⟨c, hc⟩ := List.exists_mem_of_ne_nil _ hne
  obtain ⟨hmem, hlive⟩ := List.mem_filter.mp hc
  exact h.saturated hopen (List.ne_nil_of_mem (hq c hmem hlive))

/-- The fast path is taken past an empty queue. -/
theorem waiters_of_takesFastPath {a : Agent} {op : Op} (h : a.takesFastPath op = true) :
    a.scheduler.waiters = [] := by
  cases op with
  | acquire device timed =>
      have hg : (a.scheduler.enter device a.next).1 = .granted := of_decide_eq_true h
      rcases enter_cases a.scheduler device a.next with ⟨hng, -, -⟩ | ⟨-, -, -, hnil⟩ |
        ⟨hq, -, -, -⟩
      · exact absurd hg hng
      · exact hnil
      · exact absurd (hq.symm.trans hg) nofun
  | _ => exact absurd h Bool.false_ne_true

/-- What joined the queue and what was promoted, with the entries that are still queued. -/
def QueueLog (joined : List (ℕ × ℕ)) (promoted : List ℕ) (a : Agent) : Prop :=
  Fifo (joined.map Prod.snd) promoted (a.scheduler.waiters.map Prod.snd) ∧
    (joined.map Prod.snd).Nodup ∧ ∀ w ∈ joined, w.2 < a.next

/-- A step keeps the logs. -/
theorem queueLog_step {joined : List (ℕ × ℕ)} {promoted : List ℕ} {a a' : Agent} {op : Op}
    (h : QueueLog joined promoted a) (hstep : a.step op = some a') :
    QueueLog (joined ++ a.enqueued op) (promoted ++ a.promoted op) a' := by
  obtain ⟨hfifo, hnd, hpast⟩ := h
  obtain ⟨stay, front, hstay, hmove, hpromoted⟩ := queueMove_step hstep
  obtain ⟨-, hnext, hnew⟩ := waits_step hstep
  refine ⟨?_, ?_, fun w hw => ?_⟩
  · rw [List.map_append, hpromoted]
    refine hfifo.move (hstay.map Prod.snd) ?_
    rw [← List.map_append, ← List.map_append, hmove]
  · rw [List.map_append]
    refine nodup_append_new hnd (enqueued_nodup a op _) fun x hx hx' => ?_
    obtain ⟨w, hw, rfl⟩ := List.mem_map.mp hx
    obtain ⟨v, hv, hveq⟩ := List.mem_map.mp hx'
    have hlt := hpast v hv
    have heq := (hnew w hw).1
    omega
  · rcases List.mem_append.mp hw with hw | hw
    · exact (hpast w hw).trans_le hnext
    · exact (hnew w hw).2

/-- The logs of a run. -/
theorem queueLog_run {n : ℤ} {tr : List (Agent × Op)} {a : Agent}
    (hrun : Run AgentStep (.init n) tr a) :
    QueueLog (emitted Agent.enqueued tr) (emitted Agent.promoted tr) a := by
  have hstart : QueueLog [] [] (Agent.init n) :=
    ⟨Fifo.nil, List.nodup_nil, fun _ hw => absurd hw List.not_mem_nil⟩
  exact hrun.invariant_logs QueueLog (fun h hstep => queueLog_step h hstep) hstart

/-- **The order of the scheduler.** Take any interleaving of acquires, releases, cancels,
changes of the cap and shutdowns in which no timeout gives up the queue entry of another
acquire. In every state reached without shutdown a live waiter means that no slot is free;
the waiters promoted are, in order, among those that joined the queue, each of them once;
and an acquire takes the fast path only when there is no live waiter. -/
theorem order_of_ownsTimeout (n : ℤ) {tr : List (Agent × Op)} {a : Agent}
    (hrun : Run AgentStep (.init n) tr a)
    (hown : ∀ p ∈ tr, p.1.ownsTimeout p.2 = true) :
    Holds WorkConserving tr a ∧
      (emitted Agent.promoted tr).Sublist ((emitted Agent.enqueued tr).map Prod.snd) ∧
      ((emitted Agent.enqueued tr).map Prod.snd).Nodup ∧
      ∀ p ∈ tr, p.1.takesFastPath p.2 = true → p.1.liveWaiters = [] := by
  have hinv : Holds (fun a => Orderly a ∧ Queued a) tr a :=
    hrun.invariant_of_guard (fun a op => a.ownsTimeout op = true)
      (fun h hown hstep => ⟨orderly_step h.1 hstep, queued_step h.1 h.2 hown hstep⟩)
      ⟨orderly_init n, fun _ hc => absurd hc List.not_mem_nil⟩ hown
  obtain ⟨hfifo, hnd, -⟩ := queueLog_run hrun
  refine ⟨⟨fun p hp => ?_, hinv.2.1.workConserving hinv.2.2⟩, hfifo.served_sublist, hnd,
    fun p hp hfast => ?_⟩
  · exact (hinv.1 p hp).1.workConserving (hinv.1 p hp).2
  · have hnil := waiters_of_takesFastPath hfast
    refine List.filter_eq_nil_iff.mpr fun c hc hlive => ?_
    have hw := (hinv.1 p hp).2 c hc hlive
    rw [hnil] at hw
    exact List.not_mem_nil hw

/-- The theorem at work: two devices wait for the only slot, the first one is promoted by
the release and the second one times out. -/
theorem order_of_ownsTimeout_timeout :
    let ops : List Op := [.acquire 7 false, .acquire 1 false, .acquire 2 true,
      .release ⟨0, 7⟩, .waitExpires 2, .checkTimeout 2, .waitReturns 1, .resolve 1]
    ∃ a, ops.foldlM Agent.step (.init 1) = some a ∧ a.acquires = [] ∧
      Holds WorkConserving (traceOf Agent.step (.init 1) ops) a := by
  intro ops
  obtain ⟨a, ha⟩ : ∃ a, ops.foldlM Agent.step (.init 1) = some a :=
    Option.isSome_iff_exists.mp (by decide)
  have h := order_of_ownsTimeout 1 (Run.of_foldlM ha) (by decide)
  refine ⟨a, ha, ?_, h.1⟩
  have hend : (ops.foldlM Agent.step (.init 1)).map Agent.acquires = some [] := by
    decide
  rw [ha] at hend
  exact Option.some.inj hend

/-- **A lost waiter.** Device 7 holds the only slot. The wait of a first acquire of device
1 runs out, and before it takes the lock again the device is cancelled, a second acquire of
it joins the queue, is cancelled as well and leaves with the flag, and a third one joins.
The first one then finds neither hand-off nor flag and takes the entry of the third out of
the queue. When device 7 releases its permit nobody is promoted: the third one waits beside
a free slot, and a later acquire overtakes it on the fast path. -/
theorem lost_waiter :
    ∃ tr a, Run AgentStep (.init 1) tr a ∧ ¬ WorkConserving a ∧
      a.liveWaiters = [Acquire.mk 3 1 false .waiting false] ∧ a.scheduler.held = 0 ∧
      a.takesFastPath (.acquire 2 false) = true := by
  let ops : List Op := [.acquire 7 false, .acquire 1 true, .waitExpires 1,
    .cancelDevice 1, .acquire 1 false, .cancelDevice 1, .signal 2, .waitReturns 2,
    .resolve 2, .acquire 1 false, .checkTimeout 1, .release ⟨0, 7⟩]
  obtain ⟨a, ha⟩ : ∃ a, ops.foldlM Agent.step (.init 1) = some a :=
    Option.isSome_iff_exists.mp (by decide)
  have hend : (ops.foldlM Agent.step (.init 1)).map (fun a =>
      decide (¬ WorkConserving a ∧ a.liveWaiters = [Acquire.mk 3 1 false .waiting false] ∧
        a.scheduler.held = 0 ∧ a.takesFastPath (.acquire 2 false) = true)) = some true := by
    decide
  rw [ha] at hend
  exact ⟨_, a, Run.of_foldlM ha, of_decide_eq_true (Option.some.inj hend)⟩

end StabilityPlatform
