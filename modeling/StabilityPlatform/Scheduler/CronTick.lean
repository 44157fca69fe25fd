import StabilityPlatform.Core.PyVal
import StabilityPlatform.Lib.Fold
import StabilityPlatform.Lib.SharedBatch

/-!
# One tick of the cron scheduler

A tick fires the schedules that are due, one after the other in one database session, and commits
at the end. A query that fails and a schedule that raises roll the session back, so that what
earlier schedules of the tick wrote is lost. A rollback also expires all rows of the session. In
a synchronous session they are loaded again when they are read; in an asynchronous one, such as
the scheduler has, reading them raises.

## Main results

* `fireSchedule`, `checkAndFireSchedules`: the tick.
* `tick_isolated_iff`: **schedules do not disturb each other** exactly when none rolls back after
  one that goes through.
* `CronExample.lost_update`: a schedule that fires, and is still due.
-/

namespace StabilityPlatform

open Lib

/-! ### Rows and what happens to them -/

/-- The row of a schedule. -/
structure TaskSchedule where
  id : ℕ
  name : String
  cronExpression : String
  planId : Option ℕ
  deviceIds : List ℕ
  enabled : Bool
  lastRunAt : Option Time
  nextRunAt : Option Time

/-- What a query says that looks for a run. -/
inductive Probe where
  | hit
  | miss
  | raised
  deriving DecidableEq, Repr

/-- What becomes of a dispatch. -/
inductive CronDispatch where
  /-- A plan run was made. -/
  | dispatched
  /-- `PlanDispatchError`, which is logged. -/
  | refused
  /-- It raises anything else, after a plan run was made or before. -/
  | raised (made : Bool)
  deriving DecidableEq, Repr

/-- Whether it raises. -/
def CronDispatch.raises : CronDispatch → Bool
  | .raised _ => true
  | .dispatched | .refused => false

/-- What happens while a schedule is processed. -/
structure Firing where
  dedup : Probe
  overlap : Probe
  dispatch : CronDispatch

/-- `if plan_id`. -/
def TaskSchedule.hasPlan (sched : TaskSchedule) : Bool := sched.planId.any (· ≠ 0)

/-- The schedules a tick is for. -/
def TaskSchedule.isDue (now : Time) (sched : TaskSchedule) : Bool :=
  sched.enabled && sched.nextRunAt.any (· ≤ now)

/-! ### The session -/

/-- The session of a tick. -/
structure CronSession where
  saved : List TaskSchedule
  rows : List TaskSchedule
  expired : Bool
  made : List (ℕ × Option ℕ × List ℕ)

/-- Change one row. -/
def CronSession.modify (s : CronSession) (id : ℕ) (f : TaskSchedule → TaskSchedule) : CronSession :=
  { s with rows := s.rows.map fun r => if r.id = id then f r else r }

/-- `sched.next_run_at = t`. -/
def CronSession.setNextRun (s : CronSession) (id : ℕ) (t : Time) : CronSession :=
  s.modify id fun r => { r with nextRunAt := some t }

/-- `sched.last_run_at = t`. -/
def CronSession.setLastRun (s : CronSession) (id : ℕ) (t : Time) : CronSession :=
  s.modify id fun r => { r with lastRunAt := some t }

/-- `await db.rollback()`. -/
def CronSession.rollback (s : CronSession) : CronSession :=
  { s with rows := s.saved, expired := true }

/-- `await db.commit()`. -/
def CronSession.commit (s : CronSession) : CronSession := { s with saved := s.rows }

/-- A plan run is made. -/
def CronSession.log (s : CronSession) (sched : TaskSchedule) : CronSession :=
  { s with made := s.made ++ [(sched.id, sched.planId, sched.deviceIds)] }

/-- How a call ends. -/
inductive Fired where
  | returned (s : CronSession)
  | raised (s : CronSession)

/-! ### One schedule -/

/-- `sched.next_run_at = _next_schedule_run(cron_expression, now)`; `none` is an expression that
has no next time, which raises. -/
def advanceSchedule (next : Option Time) (s : CronSession) (id : ℕ) : Fired :=
  match next with
  | some t => .returned (s.setNextRun id t)
  | none => .raised s

/-- The end of `_fire_schedule`. -/
def recordSchedule (now : Time) (next : Option Time) (s : CronSession) (id : ℕ) : Fired :=
  advanceSchedule next (s.setLastRun id now) id

/-- The dispatch of a schedule. -/
def dispatchSchedule (now : Time) (next : Option Time) (sched : TaskSchedule) (firing : Firing)
    (s : CronSession) : Fired :=
  match firing.dispatch with
  | .dispatched => recordSchedule now next (s.log sched) sched.id
  | .refused => recordSchedule now next s sched.id
  | .raised made => .raised (if made then s.log sched else s)

/-- The check that the plan is not running. -/
def checkOverlap (now : Time) (next : Option Time) (sched : TaskSchedule) (firing : Firing)
    (s : CronSession) : Fired :=
  match firing.overlap with
  | .hit =>
    match next with
    | some t => .returned (s.setNextRun sched.id t)
    | none => advanceSchedule next s.rollback sched.id
  | .raised => advanceSchedule next s.rollback sched.id
  | .miss => dispatchSchedule now next sched firing s

/-- The check that the schedule did not fire a moment ago. -/
def checkDedup (now : Time) (next : Option Time) (sched : TaskSchedule) (firing : Firing)
    (s : CronSession) : Fired :=
  match firing.dedup with
  | .hit =>
    match next with
    | some t => .returned (s.setNextRun sched.id t)
    | none => checkOverlap now next sched firing s.rollback
  | .raised => checkOverlap now next sched firing s.rollback
  | .miss => checkOverlap now next sched firing s

/-- `_fire_schedule`. `expiredRaises` says whether reading an expired row raises, which the first
line does. -/
def fireSchedule (expiredRaises : Bool) (now : Time) (next : Option Time) (sched : TaskSchedule)
    (firing : Firing) (s : CronSession) : Fired :=
  if expiredRaises && s.expired then .raised s
  else if sched.hasPlan then checkDedup now next sched firing s
  else recordSchedule now next s sched.id

/-- What the scheduler is given: how expired rows are read, the next time of a cron expression
after a time, and what happens to the schedules. -/
structure CronEnv where
  expiredRaises : Bool
  /-- `croniter(cron_expression, after).get_next(datetime)`. -/
  nextRun : String → Time → Option Time
  firing : TaskSchedule → Firing

/-- One round of the loop of a tick; an error is an exception that leaves the loop: the handler
reads the row as well. -/
def fireOne (env : CronEnv) (now : Time) (s : CronSession) (sched : TaskSchedule) :
    Except CronSession CronSession :=
  match fireSchedule env.expiredRaises now (env.nextRun sched.cronExpression now) sched
      (env.firing sched) s with
  | .returned s' => .ok s'
  | .raised s' => if env.expiredRaises && s'.expired then .error s' else .ok s'.rollback

/-- The session when it is opened. -/
def CronSession.start (rows : List TaskSchedule) : CronSession := ⟨rows, rows, false, []⟩

/-- `check_and_fire_schedules`, from the rows of the table in the order the query gives them: the
session when it is closed. -/
def checkAndFireSchedules (env : CronEnv) (now : Time) (rows : List TaskSchedule) : CronSession :=
  let due := rows.filter (·.isDue now)
  match due.foldlM (fireOne env now) (.start rows) with
  | .error s => s.rollback
  | .ok s => if due.isEmpty then s else s.commit

/-! ### What a schedule does by itself -/

/-- Whether a schedule is recorded as fired. -/
def Firing.fires (firing : Firing) (hasPlan : Bool) : Bool :=
  !hasPlan || (firing.dedup != .hit && firing.overlap == .miss)

/-- Whether the processing of a schedule fails: its cron expression has no next time, or it comes
to a dispatch that raises. -/
def Firing.fails (firing : Firing) (hasPlan : Bool) (next : Option Time) : Bool :=
  next.isNone ||
    (hasPlan && firing.dedup != .hit && firing.overlap == .miss && firing.dispatch.raises)

/-- Whether it rolls the session back: it fails, or it comes to a query that raises. -/
def Firing.shakes (firing : Firing) (hasPlan : Bool) (next : Option Time) : Bool :=
  next.isNone || (hasPlan && (firing.dedup == .raised || (firing.dedup == .miss &&
    (firing.overlap == .raised || (firing.overlap == .miss && firing.dispatch.raises)))))

/-- The next time of a schedule. -/
def CronEnv.next (env : CronEnv) (now : Time) (sched : TaskSchedule) : Option Time :=
  env.nextRun sched.cronExpression now

/-- Whether a schedule fails. -/
def CronEnv.fails (env : CronEnv) (now : Time) (sched : TaskSchedule) : Bool :=
  (env.firing sched).fails sched.hasPlan (env.next now sched)

/-- Whether a schedule rolls the session back. -/
def CronEnv.shakes (env : CronEnv) (now : Time) (sched : TaskSchedule) : Bool :=
  (env.firing sched).shakes sched.hasPlan (env.next now sched)

/-- Whether a schedule is recorded as fired. -/
def CronEnv.fires (env : CronEnv) (sched : TaskSchedule) : Bool :=
  (env.firing sched).fires sched.hasPlan

/-- After a tick, every schedule that was due and did not fail has moved on. -/
structure TickIsolated (env : CronEnv) (now : Time) (rows : List TaskSchedule) (s : CronSession) :
    Prop where
  advanced : ∀ sched ∈ rows, sched.isDue now = true → env.fails now sched = false →
    ∃ row ∈ s.saved, row.id = sched.id ∧ ∃ t, row.nextRunAt = some t ∧ now < t
  recorded : ∀ sched ∈ rows, sched.isDue now = true → env.fails now sched = false →
    env.fires sched = true → ∃ row ∈ s.saved, row.id = sched.id ∧ row.lastRunAt = some now
  notDue : ∀ sched ∈ rows, sched.isDue now = true → env.fails now sched = false →
    sched.id ∈ s.made.map Prod.fst → ∀ row ∈ s.saved, row.id = sched.id → row.isDue now = false

/-- Schedules do not disturb each other. With rows that are loaded again: none rolls back after
one that does not fail. With expired rows that raise: there is one schedule, or none rolls back,
or all fail. -/
def TickUndisturbed (env : CronEnv) (now : Time) (due : List TaskSchedule) : Prop :=
  if env.expiredRaises then
    due.length ≤ 1 ∨ (∀ sched ∈ due, env.shakes now sched = false) ∨
      ∀ sched ∈ due, env.fails now sched = true
  else due.Pairwise fun a b => env.fails now a = false → env.shakes now b = false

/-! ### One schedule in a session -/

/-- What is written to the row of a schedule. -/
def writeSchedule (now t : Time) (fires : Bool) (r : TaskSchedule) : TaskSchedule :=
  { r with nextRunAt := some t, lastRunAt := if fires then some now else r.lastRunAt }

/-- Write to one row of a table. -/
def writeRow (now t : Time) (fires : Bool) (id : ℕ) (rows : List TaskSchedule) :
    List TaskSchedule :=
  rows.map fun r => if r.id = id then writeSchedule now t fires r else r

/-- What a call does: it raises when it fails. When it returns, it has written to its row, in the
table as it was committed when it has rolled back, else as the transaction saw it. -/
def CronGoes (now : Time) (next : Option Time) (id : ℕ) (s : CronSession)
    (shakes fails fires : Bool) : Fired → Prop
  | .returned s' => fails = false ∧ s'.saved = s.saved ∧ s'.expired = (s.expired || shakes) ∧
      ∃ t, next = some t ∧
        s'.rows = writeRow now t fires id (if shakes then s.saved else s.rows)
  | .raised s' => fails = true ∧ s'.saved = s.saved

section Stages

variable {now : Time} {next : Option Time} {sched : TaskSchedule} {firing : Firing}
  {s : CronSession} {id : ℕ}

/-- After a rollback. -/
theorem CronGoes.of_rollback {shakes fails fires : Bool} {r : Fired}
    (h : CronGoes now next id s.rollback shakes fails fires r) :
    CronGoes now next id s true fails fires r := by
  cases r with
  | raised s' => exact h
  | returned s' =>
      obtain ⟨hfails, hsaved, hexpired, t, ht, hrows⟩ := h
      refine ⟨hfails, hsaved, ?_, t, ht, ?_⟩
      · rw [hexpired, CronSession.rollback, Bool.true_or, Bool.or_true]
      · rw [hrows, if_pos rfl]
        cases shakes with
        | true => rfl
        | false => rfl

/-- A call that fails writes nothing. -/
theorem CronGoes.of_fails {shakes shakes' fires fires' : Bool} {r : Fired}
    (h : CronGoes now next id s shakes true fires r) :
    CronGoes now next id s shakes' true fires' r := by
  cases r with
  | raised s' => exact h
  | returned s' => cases h.1

/-- A schedule that only moves on. -/
theorem advanceSchedule_goes :
    CronGoes now next id s false next.isNone false (advanceSchedule next s id) := by
  cases next with
  | none => exact ⟨rfl, rfl⟩
  | some t => exact ⟨rfl, rfl, (Bool.or_false _).symm, t, rfl, rfl⟩

/-- A schedule that is recorded as fired. -/
theorem recordSchedule_goes :
    CronGoes now next id s false next.isNone true (recordSchedule now next s id) := by
  cases next with
  | none => exact ⟨rfl, rfl⟩
  | some t =>
      refine ⟨rfl, rfl, (Bool.or_false _).symm, t, rfl, ?_⟩
      show (s.rows.map _).map _ = s.rows.map _
      rw [List.map_map]
      refine List.map_congr_left fun r _ => ?_
      rw [Function.comp_apply]
      by_cases hid : r.id = id
      · rw [if_pos hid, if_pos hid, if_pos hid]
        rfl
      · rw [if_neg hid, if_neg hid, if_neg hid]

/-- The dispatch. -/
theorem dispatchSchedule_goes :
    CronGoes now next sched.id s (next.isNone || firing.dispatch.raises)
      (next.isNone || firing.dispatch.raises) true (dispatchSchedule now next sched firing s) := by
  have hrecord : ∀ s₀ : CronSession, s₀.saved = s.saved → s₀.rows = s.rows →
      s₀.expired = s.expired → CronGoes now next sched.id s (next.isNone || false)
        (next.isNone || false) true (recordSchedule now next s₀ sched.id) := by
    intro s₀ hsaved hrows hexpired
    have hgoes := @recordSchedule_goes now next s₀ sched.id
    rw [Bool.or_false]
    cases next with
    | none => exact ⟨rfl, hsaved⟩
    | some t =>
        obtain ⟨-, hsaved', hexpired', t', ht', hrows'⟩ := hgoes
        refine ⟨rfl, hsaved'.trans hsaved, hexpired'.trans (by rw [hexpired]; rfl), t', ht', ?_⟩
        rw [hrows', if_neg Bool.false_ne_true, hrows]
        rfl
  rw [dispatchSchedule]
  cases firing.dispatch with
  | dispatched => exact hrecord (s.log sched) rfl rfl rfl
  | refused => exact hrecord s rfl rfl rfl
  | raised made =>
      refine ⟨by rw [CronDispatch.raises, Bool.or_true], ?_⟩
      cases made with
      | true => rfl
      | false => rfl

/-- The check that the plan is not running. -/
theorem checkOverlap_goes :
    CronGoes now next sched.id s
      (next.isNone || (firing.overlap == .raised || (firing.overlap == .miss &&
        firing.dispatch.raises)))
      (next.isNone || (firing.overlap == .miss && firing.dispatch.raises))
      (firing.overlap == .miss) (checkOverlap now next sched firing s) := by
  rw [checkOverlap.eq_def]
  cases firing.overlap with
  | hit =>
      cases next with
      | none => exact ⟨rfl, rfl⟩
      | some t => exact ⟨rfl, rfl, (Bool.or_false _).symm, t, rfl, rfl⟩
  | raised =>
      have hgoes := (@advanceSchedule_goes now next s.rollback sched.id).of_rollback
      cases next with
      | none => exact hgoes
      | some t => exact hgoes
  | miss => exact dispatchSchedule_goes

/-- The check that the schedule did not fire a moment ago. -/
theorem checkDedup_goes :
    CronGoes now next sched.id s (firing.shakes true next) (firing.fails true next)
      (firing.fires true) (checkDedup now next sched firing s) := by
  have hoverlap := fun s₀ => @checkOverlap_goes now next sched firing s₀
  rw [checkDedup.eq_def, Firing.shakes, Firing.fails, Firing.fires]
  cases firing.dedup with
  | hit =>
      cases next with
      | none => exact (hoverlap s.rollback).of_rollback.of_fails
      | some t => exact ⟨rfl, rfl, (Bool.or_false _).symm, t, rfl, rfl⟩
  | raised =>
      have hgoes := (hoverlap s.rollback).of_rollback
      cases next with
      | none => exact hgoes
      | some t => exact hgoes
  | miss => exact hoverlap s

/-- **One schedule** in a session whose rows can be read. -/
theorem fireSchedule_goes {expiredRaises : Bool} (hopen : (expiredRaises && s.expired) = false) :
    CronGoes now next sched.id s (firing.shakes sched.hasPlan next)
      (firing.fails sched.hasPlan next) (firing.fires sched.hasPlan)
      (fireSchedule expiredRaises now next sched firing s) := by
  rw [fireSchedule, hopen, if_neg Bool.false_ne_true]
  cases hplan : sched.hasPlan with
  | true => exact checkDedup_goes
  | false =>
      have hgoes := @recordSchedule_goes now next s sched.id
      cases next with
      | none => exact hgoes
      | some t => exact hgoes

end Stages

/-- A schedule that fails rolls the session back. -/
theorem shakes_of_fails {env : CronEnv} {now : Time} {sched : TaskSchedule}
    (h : env.fails now sched = true) : env.shakes now sched = true := by
  rw [CronEnv.fails, Firing.fails] at h
  rw [CronEnv.shakes, Firing.shakes]
  rcases Bool.or_eq_true_iff.mp h with hnext | h
  · rw [hnext, Bool.true_or]
  · simp only [Bool.and_eq_true, bne_iff_ne, ne_eq, beq_iff_eq] at h
    obtain ⟨⟨⟨hplan, hdedup⟩, hoverlap⟩, hraises⟩ := h
    rw [hplan, hoverlap, hraises]
    cases hprobe : (env.firing sched).dedup with
    | hit => exact absurd hprobe hdedup
    | raised => simp
    | miss => simp

/-! ### The loop -/

/-- The rows of a table, those of some schedules written. -/
def markRows (env : CronEnv) (now : Time) (rows kept : List TaskSchedule) : List TaskSchedule :=
  rows.map fun r =>
    if r.id ∈ kept.map TaskSchedule.id then
      { r with
        nextRunAt := env.next now r
        lastRunAt := if env.fires r then some now else r.lastRunAt }
    else r

@[simp] theorem markRows_nil (env : CronEnv) (now : Time) (rows : List TaskSchedule) :
    markRows env now rows [] = rows := by
  simp [markRows]

section Loop

variable {env : CronEnv} {now : Time} {rows : List TaskSchedule}
  (hkeys : (rows.map TaskSchedule.id).Nodup)

include hkeys

/-- The id is a key. -/
theorem schedule_eq_of_id {a b : TaskSchedule} (ha : a ∈ rows) (hb : b ∈ rows) (h : a.id = b.id) :
    a = b :=
  List.inj_on_of_nodup_map hkeys ha hb h

/-- One more row is written. -/
theorem writeRow_markRows {kept : List TaskSchedule} {sched : TaskSchedule} {t : Time}
    (hsched : sched ∈ rows) (hkept : ∀ a ∈ kept, a ∈ rows) (hnew : sched ∉ kept)
    (ht : env.next now sched = some t) :
    writeRow now t (env.fires sched) sched.id (markRows env now rows kept) =
      markRows env now rows (kept ++ [sched]) := by
  rw [writeRow, markRows, markRows, List.map_map]
  refine List.map_congr_left fun r hr => ?_
  rw [Function.comp_apply]
  by_cases hid : r.id = sched.id
  · obtain rfl := schedule_eq_of_id hkeys hr hsched hid
    have hout : r.id ∉ kept.map TaskSchedule.id := by
      intro hmem
      obtain ⟨a, ha, heq⟩ := List.mem_map.mp hmem
      exact hnew (schedule_eq_of_id hkeys (hkept a ha) hr heq ▸ ha)
    rw [if_neg hout, if_pos rfl, if_pos (by simp), writeSchedule, ht]
  · have hmem : r.id ∈ (kept ++ [sched]).map TaskSchedule.id ↔ r.id ∈ kept.map TaskSchedule.id := by
      simp [hid]
    by_cases hin : r.id ∈ kept.map TaskSchedule.id
    · rw [if_pos hin, if_pos (hmem.mpr hin), if_neg hid]
    · rw [if_neg hin, if_neg fun h => hin (hmem.mp h), if_neg hid]

omit hkeys in
/-- Before the loop leaves: what is committed, and what the transaction sees. -/
structure TickState (env : CronEnv) (now : Time) (rows kept : List TaskSchedule)
    (s : CronSession) : Prop where
  saved : s.saved = rows
  rows : s.rows = markRows env now rows kept

/-- **One round** of the loop, while rows can be read. -/
theorem TickState.round {kept : List TaskSchedule} {s : CronSession} {sched : TaskSchedule}
    (h : TickState env now rows kept s) (hsched : sched ∈ rows) (hkept : ∀ a ∈ kept, a ∈ rows)
    (hnew : sched ∉ kept) (hopen : (env.expiredRaises && s.expired) = false) :
    (∃ s', fireOne env now s sched = .ok s' ∧
        TickState env now rows (keepOne (env.fails now) (env.shakes now) kept sched) s' ∧
        s'.expired = (s.expired || env.shakes now sched)) ∨
      (env.expiredRaises = true ∧ env.fails now sched = true ∧
        ∃ s', fireOne env now s sched = .error s' ∧ s'.saved = rows) := by
  have hgoes := @fireSchedule_goes now (env.next now sched) sched (env.firing sched) s
    env.expiredRaises hopen
  rw [fireOne, ← CronEnv.next]
  cases hfired : fireSchedule env.expiredRaises now (env.next now sched) sched (env.firing sched)
      s with
  | returned s' =>
      rw [hfired] at hgoes
      obtain ⟨hfails, hsaved, hexpired, t, ht, hrows⟩ := hgoes
      refine .inl ⟨s', rfl, ⟨hsaved.trans h.saved, ?_⟩, hexpired⟩
      have hoff : env.fails now sched = false := hfails
      rw [keepOne, hoff, if_neg Bool.false_ne_true, hrows]
      cases hshakes : env.shakes now sched with
      | false =>
          have hs : (env.firing sched).shakes sched.hasPlan (env.next now sched) = false := hshakes
          rw [hs, if_neg Bool.false_ne_true, if_neg Bool.false_ne_true, h.rows]
          exact writeRow_markRows hkeys hsched hkept hnew ht
      | true =>
          have hs : (env.firing sched).shakes sched.hasPlan (env.next now sched) = true := hshakes
          rw [hs, if_pos rfl, if_pos rfl, h.saved]
          have hwrite := @writeRow_markRows env now rows hkeys [] sched t hsched
            (fun a ha => absurd ha List.not_mem_nil) List.not_mem_nil ht
          rw [markRows_nil] at hwrite
          exact hwrite
  | raised s' =>
      rw [hfired] at hgoes
      obtain ⟨hfails, hsaved⟩ := hgoes
      have hon : env.fails now sched = true := hfails
      dsimp only
      by_cases hleave : (env.expiredRaises && s'.expired) = true
      · rw [if_pos hleave]
        exact .inr ⟨(Bool.and_eq_true_iff.mp hleave).1, hon, s', rfl, hsaved.trans h.saved⟩
      · rw [if_neg hleave]
        refine .inl ⟨s'.rollback, rfl, ⟨hsaved.trans h.saved, ?_⟩, ?_⟩
        · rw [keepOne, hon, if_pos rfl, markRows_nil]
          exact hsaved.trans h.saved
        · rw [shakes_of_fails hon, Bool.or_true]
          rfl

/-- **The whole loop**, with rows that are loaded again. -/
theorem run_reloads (hreloads : env.expiredRaises = false) {due : List TaskSchedule}
    (hdue : ∀ a ∈ due, a ∈ rows) (hnd : due.Nodup) :
    ∃ s, due.foldlM (fireOne env now) (.start rows) = .ok s ∧
      TickState env now rows (keptOf (env.fails now) (env.shakes now) due) s := by
  refine @foldlM_ok _ _ _ (fireOne env now)
    (fun done s => TickState env now rows (keptOf (env.fails now) (env.shakes now) done) s)
    due [] ?_ (.start rows) ⟨rfl, (markRows_nil env now rows).symm⟩
  · intro before i rest s heq hs
    rw [List.nil_append] at heq
    subst heq
    have hnew : i ∉ before := by
      rw [List.nodup_append] at hnd
      exact fun hmem => hnd.2.2 i hmem i List.mem_cons_self rfl
    have hopen : (env.expiredRaises && s.expired) = false := by
      rw [hreloads, Bool.false_and]
    rcases hs.round hkeys (hdue i (List.mem_append_right _ List.mem_cons_self))
      (fun a ha => hdue a (List.mem_append_left _ (mem_of_mem_keptOf ha)))
      (fun hmem => hnew (mem_of_mem_keptOf hmem)) hopen with ⟨s', hok, hs', -⟩ | ⟨hraises, -⟩
    · rw [keptOf_concat]
      exact ⟨s', hok, hs'⟩
    · rw [hreloads] at hraises
      cases hraises

/-- **The loop up to the first schedule that rolls back.** -/
theorem run_unshaken {due : List TaskSchedule} (hdue : ∀ a ∈ due, a ∈ rows) (hnd : due.Nodup)
    (hquiet : ∀ a ∈ due, env.shakes now a = false) :
    ∃ s, due.foldlM (fireOne env now) (.start rows) = .ok s ∧ TickState env now rows due s ∧
      s.expired = false := by
  refine @foldlM_ok _ _ _ (fireOne env now)
    (fun done s => TickState env now rows done s ∧ s.expired = false)
    due [] ?_ (.start rows) ⟨⟨rfl, (markRows_nil env now rows).symm⟩, rfl⟩
  · rintro before i rest s heq ⟨hs, hfresh⟩
    rw [List.nil_append] at heq
    subst heq
    have hmem : i ∈ before ++ i :: rest := List.mem_append_right _ List.mem_cons_self
    have hnew : i ∉ before := by
      rw [List.nodup_append] at hnd
      exact fun hin => hnd.2.2 i hin i List.mem_cons_self rfl
    have hopen : (env.expiredRaises && s.expired) = false := by
      rw [hfresh, Bool.and_false]
    have hgoes : env.fails now i = false := by
      by_contra hfails
      have hshakes := shakes_of_fails (by simpa using hfails)
      rw [hquiet i hmem] at hshakes
      cases hshakes
    rcases hs.round hkeys (hdue i hmem) (fun a ha => hdue a (List.mem_append_left _ ha)) hnew
      hopen with ⟨s', hok, hs', hexpired⟩ | ⟨-, hfails, -⟩
    · rw [keepOne, hgoes, hquiet i hmem, if_neg Bool.false_ne_true, if_neg Bool.false_ne_true] at hs'
      rw [hfresh, hquiet i hmem] at hexpired
      exact ⟨s', hok, hs', hexpired⟩
    · rw [hgoes] at hfails
      cases hfails

/-! ### What is committed -/

/-- Some of the schedules that were due are committed. -/
theorem isolated_iff_kept (hlater : ∀ e t u, env.nextRun e t = some u → t < u)
    {kept : List TaskSchedule} (hkept : ∀ a ∈ kept, a ∈ rows) {s : CronSession}
    (hs : s.saved = markRows env now rows kept) :
    TickIsolated env now rows s ↔
      ∀ a ∈ rows.filter (·.isDue now), env.fails now a = false → a ∈ kept := by
  have hrow : ∀ a ∈ rows, ∀ row ∈ s.saved, row.id = a.id →
      row = if a.id ∈ kept.map TaskSchedule.id then
        { a with
          nextRunAt := env.next now a
          lastRunAt := if env.fires a then some now else a.lastRunAt } else a := by
    intro a ha row hmem hid
    rw [hs] at hmem
    obtain ⟨r, hr, rfl⟩ := List.mem_map.mp hmem
    have hra : r.id = a.id := by
      by_cases hids : r.id ∈ kept.map TaskSchedule.id
      · rw [if_pos hids] at hid
        exact hid
      · rw [if_neg hids] at hid
        exact hid
    obtain rfl := schedule_eq_of_id hkeys hr ha hra
    rfl
  have hin : ∀ a ∈ kept, a.id ∈ kept.map TaskSchedule.id := fun a ha => List.mem_map_of_mem ha
  have hnext : ∀ a, env.fails now a = false → ∃ t, env.next now a = some t ∧ now < t := by
    intro a hfails
    cases hn : env.next now a with
    | none =>
        rw [CronEnv.fails, Firing.fails, hn] at hfails
        cases hfails
    | some t => exact ⟨t, rfl, hlater _ _ _ hn⟩
  constructor
  · intro hisolated a ha hfails
    obtain ⟨hmem, hdue⟩ := List.mem_filter.mp ha
    obtain ⟨row, hrows, hid, t, ht, hlt⟩ := hisolated.advanced a hmem hdue hfails
    by_contra hout
    have hnot : a.id ∉ kept.map TaskSchedule.id := by
      intro hids
      obtain ⟨b, hb, heq⟩ := List.mem_map.mp hids
      exact hout (schedule_eq_of_id hkeys (hkept b hb) hmem heq ▸ hb)
    obtain rfl := (hrow a hmem row hrows hid).trans (if_neg hnot)
    rw [TaskSchedule.isDue, ht] at hdue
    have hle : t ≤ now := by simpa using (Bool.and_eq_true_iff.mp hdue).2
    exact absurd hle (not_le_of_gt hlt)
  · intro hall
    have hwritten : ∀ a ∈ rows, a.isDue now = true → env.fails now a = false →
        ({ a with
          nextRunAt := env.next now a
          lastRunAt := if env.fires a then some now else a.lastRunAt } : TaskSchedule) ∈ s.saved := by
      intro a ha hdue hfails
      rw [hs]
      refine List.mem_map.mpr ⟨a, ha, ?_⟩
      rw [if_pos (hin a (hall a (List.mem_filter.mpr ⟨ha, hdue⟩) hfails))]
    refine ⟨fun a ha hdue hfails => ?_, fun a ha hdue hfails hfires => ?_,
      fun a ha hdue hfails _ row hmem hid => ?_⟩
    · obtain ⟨t, ht, hlt⟩ := hnext a hfails
      exact ⟨_, hwritten a ha hdue hfails, rfl, t, ht, hlt⟩
    · refine ⟨_, hwritten a ha hdue hfails, rfl, ?_⟩
      exact if_pos hfires
    · have hkeptRow := hrow a ha row hmem hid
      rw [if_pos (hin a (hall a (List.mem_filter.mpr ⟨ha, hdue⟩) hfails))] at hkeptRow
      obtain ⟨t, ht, hlt⟩ := hnext a hfails
      rw [hkeptRow, TaskSchedule.isDue]
      dsimp only
      rw [ht, Option.any_some, decide_eq_false (not_le_of_gt hlt), Bool.and_false]

/-- The schedules that are due are rows of the table, each once. -/
theorem due_nodup : (rows.filter (·.isDue now)).Nodup :=
  (List.Nodup.of_map _ hkeys).filter _

/-- A tick with rows that are loaded again commits what was kept. -/
theorem saved_reloads (hreloads : env.expiredRaises = false) :
    (checkAndFireSchedules env now rows).saved = markRows env now rows
      (keptOf (env.fails now) (env.shakes now) (rows.filter (·.isDue now))) := by
  obtain ⟨s, hrun, hs⟩ := run_reloads hkeys hreloads (fun a ha => (List.mem_filter.mp ha).1)
    (@due_nodup now rows hkeys)
  rw [checkAndFireSchedules]
  rw [hrun]
  dsimp only
  by_cases hempty : (rows.filter (·.isDue now)).isEmpty = true
  · rw [if_pos hempty, hs.saved, List.isEmpty_iff.mp hempty, keptOf_nil, markRows_nil]
  · rw [if_neg hempty]
    exact hs.rows

/-- A tick in which nothing is rolled back commits everything. -/
theorem saved_unshaken
    (hquiet : ∀ a ∈ rows.filter (·.isDue now), env.shakes now a = false) :
    (checkAndFireSchedules env now rows).saved =
      markRows env now rows (rows.filter (·.isDue now)) := by
  obtain ⟨s, hrun, hs, -⟩ := run_unshaken hkeys (fun a ha => (List.mem_filter.mp ha).1)
    (@due_nodup now rows hkeys) hquiet
  rw [checkAndFireSchedules]
  rw [hrun]
  dsimp only
  by_cases hempty : (rows.filter (·.isDue now)).isEmpty = true
  · rw [if_pos hempty, hs.saved, List.isEmpty_iff.mp hempty, markRows_nil]
  · rw [if_neg hempty]
    exact hs.rows

/-- A tick with expired rows that raise commits at most the first schedule that rolls back: if it
is the last one, and does not fail. -/
theorem saved_raises (hraises : env.expiredRaises = true) {before rest : List TaskSchedule}
    {a : TaskSchedule} (hdue : rows.filter (·.isDue now) = before ++ a :: rest)
    (hquiet : ∀ b ∈ before, env.shakes now b = false) (hshakes : env.shakes now a = true) :
    (checkAndFireSchedules env now rows).saved =
      markRows env now rows (if rest.isEmpty && !env.fails now a then [a] else []) := by
  have hnd := @due_nodup now rows hkeys
  rw [hdue, List.nodup_append] at hnd
  have hrows : ∀ b ∈ before ++ a :: rest, b ∈ rows := by
    intro b hb
    rw [← hdue] at hb
    exact (List.mem_filter.mp hb).1
  obtain ⟨s, hrun, hs, hfresh⟩ := run_unshaken hkeys
    (fun b hb => hrows b (List.mem_append_left _ hb)) hnd.1 hquiet
  have hopen : (env.expiredRaises && s.expired) = false := by
    rw [hfresh, Bool.and_false]
  have hnew : a ∉ before := fun hmem => hnd.2.2 a hmem a List.mem_cons_self rfl
  have hround := hs.round hkeys (hrows a (List.mem_append_right _ List.mem_cons_self))
    (fun b hb => hrows b (List.mem_append_left _ hb)) hnew hopen
  have hnonempty : (before ++ a :: rest).isEmpty = false := by
    cases before with
    | nil => rfl
    | cons b bs => rfl
  have hfold : (before ++ a :: rest).foldlM (fireOne env now) (.start rows) =
      fireOne env now s a >>= fun s' => rest.foldlM (fireOne env now) s' := by
    rw [List.foldlM_append, hrun]
    rfl
  rw [checkAndFireSchedules]
  rw [hdue, hfold, hnonempty]
  rcases hround with ⟨s', hok, hs', hexpired⟩ | ⟨-, hfails, s', herror, hsaved⟩
  · rw [hshakes, Bool.or_true] at hexpired
    rw [hok]
    show (match rest.foldlM (fireOne env now) s' with
      | .error s => s.rollback
      | .ok s => if false = true then s else s.commit).saved = _
    cases rest with
    | nil =>
        rw [keepOne, hshakes, if_pos rfl] at hs'
        refine hs'.rows.trans ?_
        cases env.fails now a with
        | true => rfl
        | false => rfl
    | cons b bs =>
        have hstuck : fireOne env now s' b = .error s' := by
          rw [fireOne, fireSchedule, hraises, hexpired]
          show (if (true && s'.expired) = true then Except.error s' else .ok s'.rollback) = _
          rw [hexpired]
          rfl
        rw [List.foldlM_cons, hstuck]
        exact hs'.saved.trans (markRows_nil env now rows).symm
  · rw [herror, hfails, Bool.not_true, Bool.and_false]
    exact hsaved.trans (markRows_nil env now rows).symm

end Loop

/-- **When schedules do not disturb each other.** A tick isolates its schedules if and only if, in
the order of the tick, none rolls back after one that does not fail; with expired rows that raise,
if and only if there is at most one schedule, or none rolls back, or all fail. -/
theorem tick_isolated_iff {env : CronEnv} {now : Time} {rows : List TaskSchedule}
    (hkeys : (rows.map TaskSchedule.id).Nodup)
    (hlater : ∀ e t u, env.nextRun e t = some u → t < u) :
    TickIsolated env now rows (checkAndFireSchedules env now rows) ↔
      TickUndisturbed env now (rows.filter (·.isDue now)) := by
  have hnd := @due_nodup now rows hkeys
  have hin : ∀ a ∈ rows.filter (·.isDue now), a ∈ rows := fun a ha => (List.mem_filter.mp ha).1
  rw [TickUndisturbed]
  cases hraises : env.expiredRaises with
  | false =>
      rw [if_neg Bool.false_ne_true, isolated_iff_kept hkeys hlater
        (fun a ha => hin a (mem_of_mem_keptOf ha)) (saved_reloads hkeys hraises)]
      exact forall_mem_keptOf_iff (fun a => shakes_of_fails) hnd
  | true =>
      rw [if_pos rfl]
      cases hfind : (rows.filter (·.isDue now)).find? (env.shakes now) with
      | none =>
          have hquiet : ∀ a ∈ rows.filter (·.isDue now), env.shakes now a = false := by
            intro a ha
            simpa using List.find?_eq_none.mp hfind a ha
          rw [isolated_iff_kept hkeys hlater hin (saved_unshaken hkeys hquiet)]
          exact ⟨fun _ => .inr (.inl hquiet), fun _ a ha _ => ha⟩
      | some a =>
          obtain ⟨hshakes, before, rest, hdue, hbefore⟩ :=
            List.find?_eq_some_iff_append.mp hfind
          have hquiet : ∀ b ∈ before, env.shakes now b = false := by
            intro b hb
            simpa using hbefore b hb
          have hsaved := saved_raises hkeys hraises hdue hquiet hshakes
          rw [hdue] at hnd hin
          have hmem : a ∈ before ++ a :: rest := List.mem_append_right _ List.mem_cons_self
          rw [isolated_iff_kept hkeys hlater (by
            intro b hb
            split_ifs at hb
            · obtain rfl := List.mem_singleton.mp hb
              exact hin b hmem
            · cases hb) hsaved, hdue]
          constructor
          · intro h
            by_cases hlast : (rest.isEmpty && !env.fails now a) = true
            · rw [if_pos hlast] at h
              have hrest := List.isEmpty_iff.mp (Bool.and_eq_true_iff.mp hlast).1
              cases before with
              | nil =>
                  rw [hrest]
                  exact .inl (le_refl 1)
              | cons b bs =>
                  exfalso
                  have hb : b ∈ (b :: bs) ++ a :: rest := List.mem_cons_self
                  have hfails : env.fails now b = false := by
                    by_contra hfb
                    have hsb := shakes_of_fails (Bool.eq_true_of_not_eq_false hfb)
                    rw [hquiet b List.mem_cons_self] at hsb
                    cases hsb
                  have hba := List.mem_singleton.mp (h b hb hfails)
                  rw [List.nodup_append] at hnd
                  exact hnd.2.2 b List.mem_cons_self a List.mem_cons_self hba
            · rw [if_neg hlast] at h
              refine .inr (.inr fun b hb => ?_)
              by_contra hfb
              cases h b hb (Bool.eq_false_of_not_eq_true hfb)
          · rintro (hone | hnone | hall) b hb hfails
            · cases before with
              | cons c cs =>
                  rw [List.length_append, List.length_cons, List.length_cons] at hone
                  omega
              | nil =>
                  cases rest with
                  | cons c cs =>
                      rw [List.nil_append, List.length_cons, List.length_cons] at hone
                      omega
                  | nil =>
                      obtain rfl := List.mem_singleton.mp hb
                      rw [hfails]
                      exact List.mem_cons_self
            · rw [hnone a hmem] at hshakes
              cases hshakes
            · rw [hall b hb] at hfails
              cases hfails

namespace CronExample

/-- A schedule that has been due since time 5. -/
def due (id : ℕ) : TaskSchedule := ⟨id, "nightly", "* * * * *", some id, [1], true, none, some 5⟩

/-- Schedule 1 fires; the dispatch of schedule 2 raises. -/
def firing (sched : TaskSchedule) : Firing :=
  ⟨.miss, .miss, if sched.id = 2 then .raised false else .dispatched⟩

/-- Every schedule fires a minute later. -/
def env (expiredRaises : Bool) : CronEnv := ⟨expiredRaises, fun _ t => some (t + 60), firing⟩

/-- The order in which a schedule that fails comes first, with rows that are loaded again. -/
theorem isolated : TickIsolated (env false) 10 [due 2, due 1]
    (checkAndFireSchedules (env false) 10 [due 2, due 1]) := by
  refine (tick_isolated_iff (by decide) ?_).mpr ?_
  · intro e t u h
    cases h
    exact lt_add_of_pos_right t (by decide)
  · show [due 2, due 1].Pairwise _
    refine List.pairwise_cons.mpr ⟨?_, List.pairwise_singleton _ _⟩
    intro b hb hfails
    cases hfails

/-- **A schedule that fires and is still due**: the next one rolls back what was written for it. -/
theorem lost_update : ¬ ∀ (env : CronEnv) (now : Time) (rows : List TaskSchedule),
    (rows.map TaskSchedule.id).Nodup → (∀ e t u, env.nextRun e t = some u → t < u) →
    TickIsolated env now rows (checkAndFireSchedules env now rows) := by
  intro h
  have hisolated := h (env true) 10 [due 1, due 2] (by decide) (by
    intro e t u h
    cases h
    exact lt_add_of_pos_right t (by decide))
  have hdue := hisolated.notDue (due 1) List.mem_cons_self rfl rfl List.mem_cons_self (due 1)
    List.mem_cons_self rfl
  cases hdue

end CronExample

end StabilityPlatform
