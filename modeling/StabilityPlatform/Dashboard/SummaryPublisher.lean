import StabilityPlatform.Lib.Run

/-!
# Pushing the dashboard summary

Writers of any thread mark the summary as out of date; a timer starts a flush task on the event
loop, which clears the mark, has a thread compute the summary, and broadcasts it. A flush that
times out leaves its computation behind; a failure tries again, a few times. The callbacks of the
loop run one at a time, the threads of other callers and of computations go on in between.

## Main results

* `Publisher.step`: one moment of the loop, of a caller or of a computation.
* `Sound`: what holds of the task, of the computation and of the mark in every state.
* `Covered`: **what will lead to a computation** when one is called for.
* `pushes_single_flight`: **at most one computation runs**, and no call is forgotten.
-/

namespace StabilityPlatform.Dashboard

open Lib

/-! ### The publisher -/

/-- Where a flush task is. -/
inductive FlushPhase where
  /-- Before its first step. -/
  | created
  /-- The mark is cleared, the computation is about to begin. -/
  | cleared
  /-- Waiting for a computation. -/
  | computing (c : ℕ)
  /-- Broadcasting the summary. -/
  | broadcasting
  /-- `_schedule_retry`, about to read the streak. -/
  | failing
  /-- `_schedule_retry`, with the streak it has read. -/
  | counting (streak : ℕ)
  /-- `_schedule_retry`, when the streak is written. -/
  | retrying
  /-- Done; its callback is to come. -/
  | finished
  /-- Done, and so is its callback. -/
  | closed
  deriving DecidableEq

/-- `not task.done()`. -/
def FlushPhase.unfinished : FlushPhase → Bool
  | .finished => false
  | .closed => false
  | _ => true

/-- A task whose computation has not begun. -/
def FlushPhase.early : FlushPhase → Bool
  | .created => true
  | .cleared => true
  | _ => false

/-- Where a computation is. -/
inductive ComputePhase where
  | running
  | returned
  | done
  | closed
  deriving DecidableEq

/-- `not fut.done()`. -/
def ComputePhase.unfinished : ComputePhase → Bool
  | .running => true
  | .returned => true
  | _ => false

/-- Where a call of `schedule_dashboard_summary_push` from another thread is. -/
inductive CallPhase where
  /-- About to reset the streak. -/
  | resetting
  /-- About to mark the summary. -/
  | marking
  /-- It marked the summary when so many computations had begun, and is about to look at the
  timer. -/
  | looking (seen : ℕ)
  /-- There was no timer; it is about to queue the arming. -/
  | enqueuing (seen : ℕ)
  deriving DecidableEq

/-- How many computations had begun when the call marked the summary. -/
def CallPhase.seen? : CallPhase → Option ℕ
  | .looking seen => some seen
  | .enqueuing seen => some seen
  | _ => none

/-- The state of the module, with its tasks, computations and callers. -/
structure Publisher where
  dirty : Bool
  /-- `_flush_handle is not None`. -/
  flushHandle : Bool
  /-- How many `_schedule_on_loop` are queued on the loop. -/
  queued : ℕ
  flushTask : Option ℕ
  failureStreak : ℕ
  computeFuture : Option ℕ
  tasks : List FlushPhase
  computes : List ComputePhase
  callers : List CallPhase
  /-- How many computations have to have begun for the calls that have returned: one more than when
  the last of them marked the summary. -/
  needed : ℕ
  deriving DecidableEq

namespace Publisher

/-- The module with a bound loop, before any call. -/
def bound : Publisher := ⟨false, false, 0, none, 0, none, [], [], [], 0⟩

/-- `_MAX_RETRY_STREAK`. -/
def maxRetryStreak : ℕ := 5

/-- How many computations have begun. -/
def begun (p : Publisher) : ℕ := p.computes.length

/-- Whether a task is unfinished. -/
def taskUnfinished (p : Publisher) (t : ℕ) : Bool := p.tasks[t]?.any FlushPhase.unfinished

/-- Whether a computation is unfinished. -/
def computeUnfinished (p : Publisher) (c : ℕ) : Bool :=
  p.computes[c]?.any ComputePhase.unfinished

/-- A task goes on to a phase. -/
def withTask (p : Publisher) (t : ℕ) (phase : FlushPhase) : Publisher :=
  { p with tasks := p.tasks.set t phase }

/-- A computation goes on to a phase. -/
def withCompute (p : Publisher) (c : ℕ) (phase : ComputePhase) : Publisher :=
  { p with computes := p.computes.set c phase }

/-- `_arm_flush` on the loop. -/
def armFlush (p : Publisher) : Publisher := { p with dirty := true, flushHandle := true }

/-- What the callbacks of a task and of a computation end with. -/
def rearm (p : Publisher) : Publisher :=
  if p.dirty ∧ p.flushHandle = false then p.armFlush else p

/-- A call returns that marked the summary when so many computations had begun. -/
def returns (p : Publisher) (seen : ℕ) : Publisher := { p with needed := max p.needed (seen + 1) }

/-- `schedule_dashboard_summary_push` on the loop. -/
def scheduleOnLoop (p : Publisher) : Publisher :=
  { p with failureStreak := 0 }.armFlush.returns p.begun

/-- A call of another thread goes on. -/
def advanceCall (p : Publisher) (i : ℕ) : CallPhase → Publisher
  | .resetting => { p with failureStreak := 0, callers := p.callers.set i .marking }
  | .marking => { p with dirty := true, callers := p.callers.set i (.looking p.begun) }
  | .looking seen =>
    if p.flushHandle then { p with callers := p.callers.eraseIdx i }.returns seen
    else { p with callers := p.callers.set i (.enqueuing seen) }
  | .enqueuing seen =>
    { p with callers := p.callers.eraseIdx i, queued := p.queued + 1 }.returns seen

/-- `_arm_flush_cb`. -/
def armFlushCb (p : Publisher) : Publisher :=
  if p.flushTask.any p.taskUnfinished then { p with flushHandle := false }
  else if p.computeFuture.any p.computeUnfinished then { p with flushHandle := false }
  else { p with
    flushHandle := false
    tasks := p.tasks ++ [.created]
    flushTask := some p.tasks.length }

/-- A flush task goes on; `ok` where what it waits for may fail. -/
def advanceTask (p : Publisher) (t : ℕ) (ok : Bool) : FlushPhase → Option Publisher
  | .created =>
    if p.dirty then some ({ p with dirty := false }.withTask t .cleared)
    else some (p.withTask t .finished)
  | .cleared => some { p.withTask t (.computing p.begun) with
      computes := p.computes ++ [.running]
      computeFuture := some p.begun }
  | .computing c =>
    if p.computeUnfinished c then none
    else some (p.withTask t (if ok then .broadcasting else .failing))
  | .broadcasting =>
    if ok then some ({ p with failureStreak := 0 }.withTask t .finished)
    else some (p.withTask t .failing)
  | .failing => some (p.withTask t (.counting p.failureStreak))
  | .counting streak => some ({ p with failureStreak := streak + 1 }.withTask t .retrying)
  | .retrying =>
    if maxRetryStreak < p.failureStreak then some (p.withTask t .finished)
    else some (p.armFlush.withTask t .finished)
  | .finished => none
  | .closed => none

/-- `_clear_flush_task`. -/
def clearFlushTask (p : Publisher) (t : ℕ) : Publisher :=
  { p.withTask t .closed with
    flushTask := if p.flushTask = some t then none else p.flushTask }.rearm

/-- `_on_compute_done`. -/
def onComputeDone (p : Publisher) (c : ℕ) : Publisher :=
  { p.withCompute c .closed with
    computeFuture := if p.computeFuture = some c then none else p.computeFuture }.rearm

end Publisher

/-- What happens next. -/
inductive PublisherAction where
  /-- A call on the loop. -/
  | schedule
  /-- A call on another thread starts. -/
  | call
  /-- A call on another thread goes on. -/
  | advanceCall (i : ℕ)
  /-- The loop runs a queued `_schedule_on_loop`. -/
  | scheduleOnLoop
  /-- The timer fires. -/
  | fire
  /-- A flush task goes on. -/
  | advanceTask (t : ℕ) (ok : Bool)
  /-- A flush task has waited too long for its computation. -/
  | timeout (t : ℕ)
  /-- The thread of a computation is through, with a summary or an error. -/
  | computeReturns (c : ℕ)
  /-- The loop learns of it. -/
  | futureDone (c : ℕ)
  /-- The callback of a task. -/
  | clearFlushTask (t : ℕ)
  /-- The callback of a computation. -/
  | onComputeDone (c : ℕ)
  deriving DecidableEq

namespace Publisher

/-- **One moment.** -/
def step (p : Publisher) : PublisherAction → Option Publisher
  | .schedule => some p.scheduleOnLoop
  | .call => some { p with callers := p.callers ++ [.resetting] }
  | .advanceCall i => p.callers[i]?.map (p.advanceCall i)
  | .scheduleOnLoop =>
    if 0 < p.queued then some { p with queued := p.queued - 1, flushHandle := true } else none
  | .fire => if p.flushHandle then some p.armFlushCb else none
  | .advanceTask t ok => p.tasks[t]?.bind (p.advanceTask t ok)
  | .timeout t =>
    match p.tasks[t]? with
    | some (.computing _) => some (p.withTask t .failing)
    | _ => none
  | .computeReturns c =>
    if p.computes[c]? = some .running then some (p.withCompute c .returned) else none
  | .futureDone c =>
    if p.computes[c]? = some .returned then some (p.withCompute c .done) else none
  | .clearFlushTask t =>
    if p.tasks[t]? = some .finished then some (p.clearFlushTask t) else none
  | .onComputeDone c =>
    if p.computes[c]? = some .done then some (p.onComputeDone c) else none

/-- The step relation. -/
def Step (p : Publisher) (a : PublisherAction) (p' : Publisher) : Prop := p.step a = some p'

end Publisher

/-! ### The invariant -/

/-- The mark is set, or a task is about to begin a computation. -/
def Pending (p : Publisher) : Prop := p.dirty = true ∨ ∃ t : ℕ, p.tasks[t]? = some .cleared

/-- Something is on its way: a flush is armed, or its arming is queued, or a flush task, or a
computation, is not over with its callback. -/
def Awaited (p : Publisher) : Prop :=
  p.flushHandle = true ∨ 0 < p.queued ∨
    (∃ (t : ℕ) (phase : FlushPhase), p.tasks[t]? = some phase ∧ phase ≠ .closed) ∨
    ∃ (c : ℕ) (phase : ComputePhase), p.computes[c]? = some phase ∧ phase ≠ .closed

/-- What holds in every state. -/
structure Sound (p : Publisher) : Prop where
  /-- The task that is unfinished is `_flush_task`. -/
  current : ∀ t, p.taskUnfinished t = true → p.flushTask = some t
  /-- The computation that is unfinished is `_compute_future`. -/
  flying : ∀ c, p.computeUnfinished c = true → p.computeFuture = some c
  idle : ∀ (t : ℕ) (phase : FlushPhase), p.tasks[t]? = some phase → phase.early = true →
    ∀ c, p.computeUnfinished c = false
  seen_le : ∀ call ∈ p.callers, ∀ seen ∈ call.seen?, seen ≤ p.begun
  marked : ∀ call ∈ p.callers, p.begun ∈ call.seen? → Pending p
  needed_le : p.needed ≤ p.begun + 1
  /-- The mark of a call that has returned is there until a computation begins. -/
  pending : p.begun < p.needed → Pending p
  awaited : p.begun < p.needed → Awaited p

/-- Nothing is needed at the start. -/
theorem sound_bound : Sound .bound where
  current t h := by simp [Publisher.bound, Publisher.taskUnfinished] at h
  flying c h := by simp [Publisher.bound, Publisher.computeUnfinished] at h
  idle t phase h := by simp [Publisher.bound] at h
  seen_le call h := by simp [Publisher.bound] at h
  marked call h := by simp [Publisher.bound] at h
  needed_le := Nat.zero_le _
  pending h := by simp [Publisher.bound] at h
  awaited h := by simp [Publisher.bound] at h

namespace Sound

variable {p : Publisher}

/-- Whether a task that goes on is unfinished. -/
theorem taskUnfinished_withTask {t : ℕ} {old : FlushPhase} (hold : p.tasks[t]? = some old)
    (new : FlushPhase) (t' : ℕ) :
    (p.withTask t new).taskUnfinished t' =
      if t = t' then new.unfinished else p.taskUnfinished t' := by
  have hlt : t < p.tasks.length := (List.getElem?_eq_some_iff.mp hold).1
  rw [Publisher.taskUnfinished, Publisher.withTask, List.getElem?_set, Publisher.taskUnfinished]
  by_cases h : t = t'
  · rw [if_pos h, if_pos h, if_pos hlt, Option.any_some]
  · rw [if_neg h, if_neg h]

/-- Whether a computation that goes on is unfinished. -/
theorem computeUnfinished_withCompute {c : ℕ} {old : ComputePhase}
    (hold : p.computes[c]? = some old) (new : ComputePhase) (c' : ℕ) :
    (p.withCompute c new).computeUnfinished c' =
      if c = c' then new.unfinished else p.computeUnfinished c' := by
  have hlt : c < p.computes.length := (List.getElem?_eq_some_iff.mp hold).1
  rw [Publisher.computeUnfinished, Publisher.withCompute, List.getElem?_set,
    Publisher.computeUnfinished]
  by_cases h : c = c'
  · rw [if_pos h, if_pos h, if_pos hlt, Option.any_some]
  · rw [if_neg h, if_neg h]

/-- A flush is armed. -/
theorem armFlush (h : Sound p) : Sound p.armFlush :=
  { h with
    marked := fun _ _ _ => .inl rfl
    pending := fun _ => .inl rfl
    awaited := fun _ => .inl rfl }

/-- A call returns. -/
theorem returns (h : Sound p) {seen : ℕ} (hseen : seen ≤ p.begun)
    (hpending : seen = p.begun → Pending p) (hawaited : seen = p.begun → Awaited p) :
    Sound (p.returns seen) :=
  have hsplit : p.begun < max p.needed (seen + 1) → p.begun < p.needed ∨ seen = p.begun := by omega
  { h with
    needed_le := max_le h.needed_le (Nat.succ_le_succ hseen)
    pending := fun hlt => (hsplit hlt).elim h.pending hpending
    awaited := fun hlt => (hsplit hlt).elim h.awaited hawaited }

/-- The calls of other threads change. -/
theorem withCallers (h : Sound p) {callers : List CallPhase}
    (hseen : ∀ call ∈ callers, ∀ seen ∈ call.seen?, seen ≤ p.begun)
    (hmarked : ∀ call ∈ callers, p.begun ∈ call.seen? → Pending p) :
    Sound { p with callers := callers } :=
  { h with seen_le := hseen, marked := hmarked }

/-- A call is set to a phase. -/
theorem setCaller (h : Sound p) (i : ℕ) {call : CallPhase}
    (hseen : ∀ seen ∈ call.seen?, seen ≤ p.begun) (hmarked : p.begun ∈ call.seen? → Pending p) :
    Sound { p with callers := p.callers.set i call } := by
  refine h.withCallers (fun call' hmem => ?_) fun call' hmem => ?_
  · rcases List.mem_or_eq_of_mem_set hmem with hmem | rfl
    · exact h.seen_le call' hmem
    · exact hseen
  · rcases List.mem_or_eq_of_mem_set hmem with hmem | rfl
    · exact h.marked call' hmem
    · exact hmarked

/-- A call is over. -/
theorem eraseCaller (h : Sound p) (i : ℕ) :
    Sound { p with callers := p.callers.eraseIdx i } :=
  h.withCallers (fun call hmem => h.seen_le call (List.mem_of_mem_eraseIdx hmem))
    fun call hmem => h.marked call (List.mem_of_mem_eraseIdx hmem)

/-- The streak does not matter. -/
theorem withStreak (h : Sound p) (streak : ℕ) : Sound { p with failureStreak := streak } :=
  { h with }

/-- A task that has not just cleared the mark goes on: the mark is there as before. -/
theorem pending_withTask {t : ℕ} {old : FlushPhase} (hold : p.tasks[t]? = some old)
    (hcleared : old ≠ .cleared) (new : FlushPhase) (h : Pending p) : Pending (p.withTask t new) := by
  rcases h with h | ⟨t', h⟩
  · exact .inl h
  · refine .inr ⟨t', ?_⟩
    have hne : t ≠ t' := by
      rintro rfl
      rw [hold, Option.some.injEq] at h
      exact hcleared h
    rw [Publisher.withTask, List.getElem?_set, if_neg hne, h]

/-- A task goes on, and is not over: something is on its way as before. -/
theorem awaited_withTask {t : ℕ} {old : FlushPhase} (hold : p.tasks[t]? = some old)
    {new : FlushPhase} (hopen : new ≠ .closed) : Awaited (p.withTask t new) := by
  have hlt : t < p.tasks.length := (List.getElem?_eq_some_iff.mp hold).1
  refine .inr (.inr (.inl ⟨t, new, ?_, hopen⟩))
  rw [Publisher.withTask, List.getElem?_set, if_pos rfl, if_pos hlt]

/-- **A task goes on** to a phase in which its computation has begun. -/
theorem withTask (h : Sound p) {t : ℕ} {old new : FlushPhase} (hold : p.tasks[t]? = some old)
    (hunfinished : old.unfinished = true) (hcleared : old ≠ .cleared) (hlate : new.early = false)
    (hopen : new ≠ .closed) : Sound (p.withTask t new) where
  current t' ht' := by
    rw [taskUnfinished_withTask hold] at ht'
    split at ht'
    · rename_i heq
      subst heq
      refine h.current t ?_
      rw [Publisher.taskUnfinished, hold, Option.any_some, hunfinished]
    · exact h.current t' ht'
  flying := h.flying
  idle t' phase hphase hearly := by
    rw [Publisher.withTask, List.getElem?_set] at hphase
    split at hphase
    · split at hphase
      · obtain rfl := Option.some.inj hphase
        rw [hlate] at hearly
        cases hearly
      · cases hphase
    · exact h.idle t' phase hphase hearly
  seen_le := h.seen_le
  marked call hmem hseen := pending_withTask hold hcleared new (h.marked call hmem hseen)
  needed_le := h.needed_le
  pending hlt := pending_withTask hold hcleared new (h.pending hlt)
  awaited _ := awaited_withTask hold hopen

/-- The task that is unfinished is the only one. -/
theorem eq_of_unfinished (h : Sound p) {t t' : ℕ} (ht : p.taskUnfinished t = true)
    (ht' : p.taskUnfinished t' = true) : t = t' :=
  Option.some.inj ((h.current t ht).symm.trans (h.current t' ht'))

theorem unfinished_of_get {t : ℕ} {phase : FlushPhase} (h : p.tasks[t]? = some phase)
    (hphase : phase.unfinished = true) : p.taskUnfinished t = true := by
  rw [Publisher.taskUnfinished, h, Option.any_some, hphase]

/-- A flush task starts with the mark set: it clears it and is about to begin a computation. -/
theorem clear (h : Sound p) {t : ℕ} (hold : p.tasks[t]? = some .created) :
    Sound ({ p with dirty := false }.withTask t .cleared) := by
  have hlt : t < p.tasks.length := (List.getElem?_eq_some_iff.mp hold).1
  have hpending : Pending ({ p with dirty := false }.withTask t .cleared) := by
    refine .inr ⟨t, ?_⟩
    rw [Publisher.withTask, List.getElem?_set, if_pos rfl]
    exact if_pos hlt
  refine ⟨fun t' ht' => ?_, h.flying, fun t' phase hphase hearly c => ?_, h.seen_le,
    fun _ _ _ => hpending, h.needed_le, fun _ => hpending, fun _ => ?_⟩
  · have hwith := @taskUnfinished_withTask { p with dirty := false } t .created hold .cleared t'
    rw [hwith] at ht'
    split at ht'
    · rename_i heq
      subst heq
      exact h.current t (unfinished_of_get hold rfl)
    · exact h.current t' ht'
  · exact h.idle t .created hold rfl c
  · exact @awaited_withTask { p with dirty := false } t .created hold .cleared (by decide)

/-- **A computation begins**: it is the only one, and whatever was called for is served. -/
theorem submit (h : Sound p) {t : ℕ} (hold : p.tasks[t]? = some .cleared) :
    Sound { p.withTask t (.computing p.begun) with
      computes := p.computes ++ [.running]
      computeFuture := some p.begun } := by
  have hbegun : (p.computes ++ [ComputePhase.running]).length = p.computes.length + 1 := by
    rw [List.length_append, List.length_singleton]
  have hneeded : p.needed ≤ p.computes.length + 1 := h.needed_le
  refine ⟨fun t' ht' => ?_, fun c hc => ?_, fun t' phase hphase hearly c => ?_,
    fun call hmem seen hseen => ?_, fun call hmem hseen => ?_, ?_, fun hlt => ?_, fun hlt => ?_⟩
  · change (p.withTask t (.computing p.begun)).taskUnfinished t' = true at ht'
    rw [taskUnfinished_withTask hold] at ht'
    split at ht'
    · rename_i heq
      subst heq
      exact h.current t (unfinished_of_get hold rfl)
    · exact h.current t' ht'
  · change ((p.computes ++ [ComputePhase.running])[c]?).any _ = true at hc
    by_cases hlt : c < p.computes.length
    · rw [List.getElem?_append_left hlt] at hc
      have hidle := h.idle t .cleared hold rfl c
      rw [Publisher.computeUnfinished, hc] at hidle
      cases hidle
    · by_cases heq : c = p.computes.length
      · rw [heq]
        rfl
      · rw [List.getElem?_eq_none (by rw [List.length_append, List.length_singleton]; omega)] at hc
        cases hc
  · exfalso
    change (p.tasks.set t _)[t']? = some phase at hphase
    rw [List.getElem?_set] at hphase
    split at hphase
    · split at hphase
      · obtain rfl := Option.some.inj hphase
        cases hearly
      · cases hphase
    · rename_i hne
      have hunfinished : phase.unfinished = true := by
        cases phase with
        | created => rfl
        | cleared => rfl
        | _ => cases hearly
      exact hne (h.eq_of_unfinished (unfinished_of_get hold rfl)
        (unfinished_of_get hphase hunfinished))
  · have hle : seen ≤ p.computes.length := h.seen_le call hmem seen hseen
    change seen ≤ (p.computes ++ [ComputePhase.running]).length
    omega
  · have hle : (p.computes ++ [ComputePhase.running]).length ≤ p.computes.length :=
      h.seen_le call hmem _ hseen
    omega
  · change p.needed ≤ (p.computes ++ [ComputePhase.running]).length + 1
    omega
  · change (p.computes ++ [ComputePhase.running]).length < p.needed at hlt
    omega
  · change (p.computes ++ [ComputePhase.running]).length < p.needed at hlt
    omega

/-- **The timer fires.** -/
theorem armFlushCb (h : Sound p) : Sound p.armFlushCb := by
  rw [Publisher.armFlushCb]
  split
  · rename_i hrunning
    obtain ⟨t, ht, hunfinished⟩ := (Option.any_eq_true ..).mp hrunning
    refine { h with awaited := fun _ => ?_ }
    obtain ⟨phase, hphase, hopen⟩ := (Option.any_eq_true ..).mp hunfinished
    refine .inr (.inr (.inl ⟨t, phase, hphase, ?_⟩))
    rintro rfl
    cases hopen
  split
  · rename_i hflying
    obtain ⟨c, hc, hunfinished⟩ := (Option.any_eq_true ..).mp hflying
    refine { h with awaited := fun _ => ?_ }
    obtain ⟨phase, hphase, hopen⟩ := (Option.any_eq_true ..).mp hunfinished
    refine .inr (.inr (.inr ⟨c, phase, hphase, ?_⟩))
    rintro rfl
    cases hopen
  · rename_i hnone hquiet
    have htask : ∀ t, p.taskUnfinished t = false := by
      intro t
      by_contra hne
      have hun : p.taskUnfinished t = true := by simpa using hne
      refine hnone ?_
      rw [h.current t hun, Option.any_some, hun]
    have hcompute : ∀ c, p.computeUnfinished c = false := by
      intro c
      by_contra hne
      have hun : p.computeUnfinished c = true := by simpa using hne
      refine hquiet ?_
      rw [h.flying c hun, Option.any_some, hun]
    have hlast : ∀ (t : ℕ) (phase : FlushPhase), (p.tasks ++ [FlushPhase.created])[t]? = some phase →
        p.tasks[t]? = some phase ∨ t = p.tasks.length := by
      intro t phase ht
      by_cases hlt : t < p.tasks.length
      · rw [List.getElem?_append_left hlt] at ht
        exact .inl ht
      · have := (List.getElem?_eq_some_iff.mp ht).1
        rw [List.length_append, List.length_singleton] at this
        exact .inr (by omega)
    have hpending : Pending p → Pending { p with
        flushHandle := false
        tasks := p.tasks ++ [.created]
        flushTask := some p.tasks.length } := by
      rintro (hdirty | ⟨t, ht⟩)
      · exact .inl hdirty
      · refine .inr ⟨t, ?_⟩
        rw [List.getElem?_append_left (List.getElem?_eq_some_iff.mp ht).1]
        exact ht
    refine ⟨fun t ht => ?_, fun c hc => ?_, fun t phase _ _ => hcompute, h.seen_le,
      fun call hmem hseen => hpending (h.marked call hmem hseen), h.needed_le,
      fun hlt => hpending (h.pending hlt), fun _ => ?_⟩
    · obtain ⟨phase, hphase, hunfinished⟩ := (Option.any_eq_true ..).mp ht
      rcases hlast t phase hphase with hold | rfl
      · have hfalse := htask t
        rw [Publisher.taskUnfinished, hold, Option.any_some, hunfinished] at hfalse
        cases hfalse
      · rfl
    · exact absurd ((hcompute c).symm.trans hc) Bool.false_ne_true
    · refine .inr (.inr (.inl ⟨p.tasks.length, .created, ?_, by decide⟩))
      rw [List.getElem?_append_right le_rfl, Nat.sub_self]
      rfl

/-- **What the callbacks end with** sees to it that something is on its way. -/
theorem rearm (hcurrent : ∀ t, p.taskUnfinished t = true → p.flushTask = some t)
    (hflying : ∀ c, p.computeUnfinished c = true → p.computeFuture = some c)
    (hidle : ∀ (t : ℕ) (phase : FlushPhase), p.tasks[t]? = some phase → phase.early = true →
      ∀ c, p.computeUnfinished c = false)
    (hseen : ∀ call ∈ p.callers, ∀ seen ∈ call.seen?, seen ≤ p.begun)
    (hmarked : ∀ call ∈ p.callers, p.begun ∈ call.seen? → Pending p)
    (hneeded : p.needed ≤ p.begun + 1) (hpending : p.begun < p.needed → Pending p) :
    Sound p.rearm := by
  rw [Publisher.rearm]
  split
  · exact ⟨hcurrent, hflying, hidle, hseen, fun _ _ _ => .inl rfl, hneeded, fun _ => .inl rfl,
      fun _ => .inl rfl⟩
  · rename_i hkeep
    refine ⟨hcurrent, hflying, hidle, hseen, hmarked, hneeded, hpending, fun hlt => ?_⟩
    rcases hpending hlt with hdirty | ⟨t, ht⟩
    · refine .inl ?_
      by_contra hhandle
      exact hkeep ⟨hdirty, by simpa using hhandle⟩
    · exact .inr (.inr (.inl ⟨t, .cleared, ht, by decide⟩))

/-- The callback of a task. -/
theorem clearFlushTask (h : Sound p) {t : ℕ} (hold : p.tasks[t]? = some .finished) :
    Sound (p.clearFlushTask t) := by
  have hpending : Pending p → Pending (p.withTask t .closed) :=
    pending_withTask hold (by decide) .closed
  refine rearm (fun t' ht' => ?_) h.flying (fun t' phase hphase hearly => ?_) h.seen_le
    (fun call hmem hseen => hpending (h.marked call hmem hseen)) h.needed_le
    fun hlt => hpending (h.pending hlt)
  · change (p.withTask t .closed).taskUnfinished t' = true at ht'
    rw [taskUnfinished_withTask hold] at ht'
    split at ht'
    · cases ht'
    · rename_i hne
      have hcurrent := h.current t' ht'
      change (if p.flushTask = some t then none else p.flushTask) = some t'
      rw [if_neg, hcurrent]
      rw [hcurrent, Option.some.injEq]
      exact fun heq => hne heq.symm
  · change (p.tasks.set t .closed)[t']? = some phase at hphase
    rw [List.getElem?_set] at hphase
    split at hphase
    · split at hphase
      · obtain rfl := Option.some.inj hphase
        cases hearly
      · cases hphase
    · exact h.idle t' phase hphase hearly

/-- How many computations have begun does not change when one goes on. -/
theorem begun_withCompute (c : ℕ) (new : ComputePhase) :
    (p.withCompute c new).begun = p.begun := List.length_set ..

/-- A computation that goes on is not unfinished anew. -/
theorem unfinished_of_withCompute {c : ℕ} {old new : ComputePhase} (hold : p.computes[c]? = some old)
    (hnew : new.unfinished = true → old.unfinished = true) {c' : ℕ}
    (hc' : (p.withCompute c new).computeUnfinished c' = true) : p.computeUnfinished c' = true := by
  rw [computeUnfinished_withCompute hold] at hc'
  split at hc'
  · rename_i heq
    subst heq
    rw [Publisher.computeUnfinished, hold, Option.any_some, hnew hc']
  · exact hc'

/-- A computation goes on, and is not over. -/
theorem withCompute (h : Sound p) {c : ℕ} {old new : ComputePhase}
    (hold : p.computes[c]? = some old) (hnew : new.unfinished = true → old.unfinished = true)
    (hopen : new ≠ .closed) : Sound (p.withCompute c new) where
  current := h.current
  flying c' hc' := h.flying c' (unfinished_of_withCompute hold hnew hc')
  idle t phase hphase hearly c' := by
    by_contra hne
    have hun := unfinished_of_withCompute hold hnew (Bool.eq_true_of_not_eq_false hne)
    rw [h.idle t phase hphase hearly c'] at hun
    cases hun
  seen_le call hmem seen hseen := by
    rw [begun_withCompute]
    exact h.seen_le call hmem seen hseen
  marked call hmem hseen := by
    rw [begun_withCompute] at hseen
    exact h.marked call hmem hseen
  needed_le := by
    rw [begun_withCompute]
    exact h.needed_le
  pending hlt := by
    rw [begun_withCompute] at hlt
    exact h.pending hlt
  awaited _ := by
    refine .inr (.inr (.inr ⟨c, new, ?_, hopen⟩))
    rw [Publisher.withCompute, List.getElem?_set, if_pos rfl,
      if_pos (List.getElem?_eq_some_iff.mp hold).1]

/-- The callback of a computation. -/
theorem onComputeDone (h : Sound p) {c : ℕ} (hold : p.computes[c]? = some .done) :
    Sound (p.onComputeDone c) := by
  have hbegun : (p.computes.set c .closed).length = p.computes.length := List.length_set ..
  have hun : ∀ c', (p.withCompute c .closed).computeUnfinished c' = true →
      p.computeUnfinished c' = true ∧ c ≠ c' := by
    intro c' hc'
    refine ⟨unfinished_of_withCompute hold (fun h => by cases h) hc', ?_⟩
    rintro rfl
    rw [computeUnfinished_withCompute hold, if_pos rfl] at hc'
    cases hc'
  refine rearm h.current (fun c' hc' => ?_) (fun t phase hphase hearly c' => ?_)
    (fun call hmem seen hseen => ?_) (fun call hmem hseen => ?_) ?_ fun hlt => ?_
  · obtain ⟨hc', hne⟩ := hun c' hc'
    have hflying := h.flying c' hc'
    change (if p.computeFuture = some c then none else p.computeFuture) = some c'
    rw [if_neg, hflying]
    rw [hflying, Option.some.injEq]
    exact fun heq => hne heq.symm
  · by_contra hne
    have hc' := (hun c' (Bool.eq_true_of_not_eq_false hne)).1
    rw [h.idle t phase hphase hearly c'] at hc'
    cases hc'
  · change seen ≤ (p.computes.set c .closed).length
    rw [hbegun]
    exact h.seen_le call hmem seen hseen
  · change (p.computes.set c .closed).length ∈ call.seen? at hseen
    rw [hbegun] at hseen
    exact h.marked call hmem hseen
  · change p.needed ≤ (p.computes.set c .closed).length + 1
    rw [hbegun]
    exact h.needed_le
  · change (p.computes.set c .closed).length < p.needed at hlt
    rw [hbegun] at hlt
    exact h.pending hlt

/-- A call of another thread goes on. -/
theorem advanceCall (h : Sound p) {i : ℕ} {call : CallPhase} (hcall : p.callers[i]? = some call) :
    Sound (p.advanceCall i call) := by
  have hmem : call ∈ p.callers := List.mem_of_getElem? hcall
  cases call with
  | resetting =>
      exact (h.withStreak 0).setCaller i (fun seen hseen => by cases hseen)
        fun hseen => by cases hseen
  | marking =>
      have hmarked : Sound { p with dirty := true } :=
        { h with
          marked := fun _ _ _ => .inl rfl
          pending := fun _ => .inl rfl
          awaited := h.awaited }
      exact hmarked.setCaller i (fun seen hseen => by cases hseen; exact le_rfl)
        fun _ => .inl rfl
  | looking seen =>
      have hle := h.seen_le _ hmem seen rfl
      have hpending : seen = p.begun → Pending p := fun heq =>
        h.marked _ hmem (by rw [heq]; rfl)
      rw [Publisher.advanceCall]
      split
      · rename_i harmed
        exact (h.eraseCaller i).returns hle hpending fun _ => .inl harmed
      · exact h.setCaller i (fun seen' hseen' => by cases hseen'; exact hle)
          fun hseen' => hpending (Option.some.inj hseen')
  | enqueuing seen =>
      have hle := h.seen_le _ hmem seen rfl
      have hpending : seen = p.begun → Pending p := fun heq =>
        h.marked _ hmem (by rw [heq]; rfl)
      have hqueued : Sound { p with
          callers := p.callers.eraseIdx i, queued := p.queued + 1 } :=
        { h.eraseCaller i with awaited := fun _ => .inr (.inl (Nat.succ_pos _)) }
      exact hqueued.returns hle hpending fun _ => .inr (.inl (Nat.succ_pos _))

/-- A flush task goes on. -/
theorem advanceTask (h : Sound p) {t : ℕ} {ok : Bool} {phase : FlushPhase} {p' : Publisher}
    (hold : p.tasks[t]? = some phase) (hstep : p.advanceTask t ok phase = some p') : Sound p' := by
  cases phase with
  | created =>
      rw [Publisher.advanceTask] at hstep
      split at hstep
      · obtain rfl := Option.some.inj hstep
        exact h.clear hold
      · obtain rfl := Option.some.inj hstep
        exact h.withTask hold rfl (by decide) rfl (by decide)
  | cleared =>
      obtain rfl := Option.some.inj hstep
      exact h.submit hold
  | computing c =>
      rw [Publisher.advanceTask] at hstep
      split at hstep
      · cases hstep
      · obtain rfl := Option.some.inj hstep
        cases ok with
        | true => exact h.withTask hold rfl (fun heq => by cases heq) rfl (by decide)
        | false => exact h.withTask hold rfl (fun heq => by cases heq) rfl (by decide)
  | broadcasting =>
      rw [Publisher.advanceTask] at hstep
      split at hstep
      · obtain rfl := Option.some.inj hstep
        exact (h.withStreak 0).withTask hold rfl (by decide) rfl (by decide)
      · obtain rfl := Option.some.inj hstep
        exact h.withTask hold rfl (by decide) rfl (by decide)
  | failing =>
      obtain rfl := Option.some.inj hstep
      exact h.withTask hold rfl (by decide) rfl (fun heq => by cases heq)
  | counting streak =>
      obtain rfl := Option.some.inj hstep
      exact (h.withStreak _).withTask hold rfl (fun heq => by cases heq) rfl (by decide)
  | retrying =>
      rw [Publisher.advanceTask] at hstep
      split at hstep
      · obtain rfl := Option.some.inj hstep
        exact h.withTask hold rfl (by decide) rfl (by decide)
      · obtain rfl := Option.some.inj hstep
        exact h.armFlush.withTask hold rfl (by decide) rfl (by decide)
  | finished => cases hstep
  | closed => cases hstep

/-- **Every moment** keeps the invariant. -/
theorem step (h : Sound p) {a : PublisherAction} {p' : Publisher} (hstep : p.Step a p') :
    Sound p' := by
  rw [Publisher.Step] at hstep
  cases a with
  | schedule =>
      obtain rfl := Option.some.inj hstep
      exact (h.withStreak 0).armFlush.returns le_rfl (fun _ => .inl rfl) fun _ => .inl rfl
  | call =>
      obtain rfl := Option.some.inj hstep
      refine h.withCallers (fun call hmem => ?_) fun call hmem => ?_
      · rcases List.mem_append.mp hmem with hmem | hmem
        · exact h.seen_le call hmem
        · rw [List.mem_singleton.mp hmem]
          exact fun seen hseen => by cases hseen
      · rcases List.mem_append.mp hmem with hmem | hmem
        · exact h.marked call hmem
        · rw [List.mem_singleton.mp hmem]
          exact fun hseen => by cases hseen
  | advanceCall i =>
      obtain ⟨call, hcall, rfl⟩ := Option.map_eq_some_iff.mp hstep
      exact h.advanceCall hcall
  | scheduleOnLoop =>
      obtain ⟨-, hsome⟩ := Option.ite_none_right_eq_some.mp hstep
      obtain rfl := Option.some.inj hsome
      exact { h with awaited := fun _ => .inl rfl }
  | fire =>
      obtain ⟨-, hsome⟩ := Option.ite_none_right_eq_some.mp hstep
      obtain rfl := Option.some.inj hsome
      exact h.armFlushCb
  | advanceTask t ok =>
      obtain ⟨phase, hold, hstep⟩ := Option.bind_eq_some_iff.mp hstep
      exact h.advanceTask hold hstep
  | timeout t =>
      rw [Publisher.step] at hstep
      split at hstep
      · rename_i c hold
        obtain rfl := Option.some.inj hstep
        exact h.withTask hold rfl (fun heq => by cases heq) rfl (by decide)
      · cases hstep
  | computeReturns c =>
      obtain ⟨hold, hsome⟩ := Option.ite_none_right_eq_some.mp hstep
      obtain rfl := Option.some.inj hsome
      exact h.withCompute hold (fun _ => rfl) (by decide)
  | futureDone c =>
      obtain ⟨hold, hsome⟩ := Option.ite_none_right_eq_some.mp hstep
      obtain rfl := Option.some.inj hsome
      exact h.withCompute hold (fun hnew => by cases hnew) (by decide)
  | clearFlushTask t =>
      obtain ⟨hold, hsome⟩ := Option.ite_none_right_eq_some.mp hstep
      obtain rfl := Option.some.inj hsome
      exact h.clearFlushTask hold
  | onComputeDone c =>
      obtain ⟨hold, hsome⟩ := Option.ite_none_right_eq_some.mp hstep
      obtain rfl := Option.some.inj hsome
      exact h.onComputeDone hold

end Sound

/-! ### Runs -/

/-- **What will lead to a computation.** -/
inductive Covered (p : Publisher) : Prop where
  | armed (h : p.flushHandle = true)
  | queued (h : 0 < p.queued)
  | beginning (t : ℕ) (h : p.tasks[t]? = some .cleared)
  | flush (t : ℕ) (phase : FlushPhase) (h : p.tasks[t]? = some phase) (hopen : phase ≠ .closed)
      (hrearms : (p.clearFlushTask t).flushHandle = true)
  | compute (c : ℕ) (phase : ComputePhase) (h : p.computes[c]? = some phase)
      (hopen : phase ≠ .closed) (hrearms : (p.onComputeDone c).flushHandle = true)

/-- While the mark is set, what the callbacks end with arms a flush. -/
theorem flushHandle_rearm {p : Publisher} (h : p.dirty = true) : p.rearm.flushHandle = true := by
  rw [Publisher.rearm]
  split
  · rfl
  · rename_i hkeep
    by_contra hhandle
    exact hkeep ⟨h, by simpa using hhandle⟩

/-- What is marked and on its way leads to a computation. -/
theorem covered_of_pending {p : Publisher} (hpending : Pending p) (hawaited : Awaited p) :
    Covered p := by
  rcases hpending with hdirty | ⟨t, ht⟩
  · rcases hawaited with harmed | hqueued | ⟨t, phase, ht, hopen⟩ | ⟨c, phase, hc, hopen⟩
    · exact .armed harmed
    · exact .queued hqueued
    · exact .flush t phase ht hopen (flushHandle_rearm hdirty)
    · exact .compute c phase hc hopen (flushHandle_rearm hdirty)
  · exact .beginning t ht

/-- **Pushes are single-flight and lose no wake-up**: in every state of a run at most one
computation runs, and either one has begun since the last call marked the summary or something
will lead to one. -/
theorem pushes_single_flight {p : Publisher} {tr : List (Publisher × PublisherAction)}
    (h : Run Publisher.Step .bound tr p) :
    Holds (fun s => (∀ c c' : ℕ, s.computes[c]? = some .running → s.computes[c']? = some .running →
      c = c') ∧ (s.needed ≤ s.begun ∨ Covered s)) tr p := by
  have hsound := h.invariant (fun hs hstep => Sound.step hs hstep) sound_bound
  refine hsound.mono fun s hs => ⟨fun c c' hc hc' => ?_, ?_⟩
  · have hflying : ∀ c, s.computes[c]? = some .running → s.computeFuture = some c := fun c hc =>
      hs.flying c (by rw [Publisher.computeUnfinished, hc]; rfl)
    exact Option.some.inj ((hflying c hc).symm.trans (hflying c' hc'))
  · rcases Nat.lt_or_ge s.begun s.needed with hlt | hge
    · exact .inr (covered_of_pending (hs.pending hlt) (hs.awaited hlt))
    · exact .inl hge

/-- A call from another thread, a computation that is given up and goes on, a call in the meantime:
the timer that fires then starts nothing, and the end of the computation arms another flush. -/
theorem pushes_single_flight_late :
    let actions : List PublisherAction := [.call, .advanceCall 0, .advanceCall 0, .advanceCall 0,
      .advanceCall 0, .scheduleOnLoop, .fire, .advanceTask 0 true, .advanceTask 0 true, .timeout 0,
      .advanceTask 0 true, .advanceTask 0 true, .advanceTask 0 true, .schedule, .clearFlushTask 0,
      .fire, .computeReturns 0, .futureDone 0, .onComputeDone 0]
    ∃ p, actions.foldlM Publisher.step .bound = some p ∧ p.begun = 1 ∧ p.flushHandle = true ∧
      Holds (fun s => (∀ c c' : ℕ, s.computes[c]? = some .running →
        s.computes[c']? = some .running → c = c') ∧ (s.needed ≤ s.begun ∨ Covered s))
        (traceOf Publisher.step .bound actions) p := by
  intro actions
  obtain ⟨p, hp⟩ : ∃ p, actions.foldlM Publisher.step .bound = some p :=
    Option.isSome_iff_exists.mp (by decide +kernel)
  have hend : (actions.foldlM Publisher.step .bound).any (fun p =>
      decide (p.begun = 1 ∧ p.flushHandle = true)) = true := by decide +kernel
  rw [hp, Option.any_some, decide_eq_true_eq] at hend
  exact ⟨p, hp, hend.1, hend.2, pushes_single_flight (Run.of_foldlM hp)⟩

end StabilityPlatform.Dashboard
