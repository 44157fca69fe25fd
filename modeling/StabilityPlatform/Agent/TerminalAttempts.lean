import StabilityPlatform.Agent.TerminalOutbox
import StabilityPlatform.Lib.AttemptBudget
import StabilityPlatform.Lib.Run

/-!
# When a terminal row becomes a dead letter

Over the life of an outbox its thread sends rows, other threads write and acknowledge rows, and
the agent restarts. Every failed request counts as an attempt, but only a request that was refused
looks at the number of attempts.

## Main results

* `OutboxEvent`, `outboxStep`: the outbox with its thread; `drainOnce_run`: a pass is a run.
* `TerminalRow.after`, `sendEntry_rows`: what a request does to the outbox.
* `dead_letter_iff_fair`: **a row is given up only after ten refusals** exactly when no refusal
  comes as the tenth request or later after a request that failed for another reason.
* `AttemptExample.given_up`: one refusal, and the row is lost.
-/

namespace StabilityPlatform.Terminal

open Lib

/-! ### The outbox and its thread -/

/-- The outbox with its thread; `window` has the rows a pass has still to come to. -/
structure DrainSystem where
  drainer : Drainer
  window : Option (List TerminalRow)

/-- What happens. -/
inductive OutboxEvent where
  | enqueue (jobId : ℕ) (payload : String) (now : Time)
  | ack (jobId : ℕ)
  | scan
  | drain (x : Exchange)
  | finish
  | restart

/-- One step. -/
def outboxStep (s : DrainSystem) : OutboxEvent → Option DrainSystem
  | .enqueue jobId payload now =>
    match s.drainer.outbox.enqueueTerminal jobId payload now with
    | some o => some { s with drainer := s.drainer.withOutbox o }
    | none => some s
  | .ack jobId =>
    some { s with drainer := s.drainer.withOutbox (s.drainer.outbox.ackTerminal jobId) }
  | .scan =>
    match s.window with
    | none =>
      let d := pruneDeferrals s.drainer
      some ⟨d, some (d.outbox.getPendingTerminals windowSize)⟩
    | some _ => none
  | .drain x =>
    match s.window with
    | some (entry :: rest) =>
      match drainEntry x s.drainer entry with
      | .ok d => some ⟨d, some rest⟩
      | .error d => some ⟨d, none⟩
    | some [] | none => none
  | .finish =>
    match s.window with
    | some [] =>
      some ⟨s.drainer.withOutbox (s.drainer.outbox.pruneAckedTerminals 100), none⟩
    | some (_ :: _) | none => none
  | .restart => some ⟨{ s.drainer with deferUntil := fun _ => none }, none⟩

/-- A step. -/
def OutboxSteps (s : DrainSystem) (e : OutboxEvent) (s' : DrainSystem) : Prop :=
  outboxStep s e = some s'

/-- An agent that is new. -/
def DrainSystem.start : DrainSystem := ⟨⟨.empty, fun _ => none, []⟩, none⟩

/-- The rows of a pass, one after the other. -/
theorem drainEntries_run (x : ℕ → Exchange) (entries : List TerminalRow) (d : Drainer) :
    ∃ tr, Run OutboxSteps ⟨d, some entries⟩ tr
      (match drainEntries x d entries with
        | .ok d' => ⟨d', some []⟩
        | .error d' => ⟨d', none⟩) := by
  induction entries generalizing d with
  | nil => exact ⟨[], .nil _⟩
  | cons entry rest ih =>
      rw [drainEntries, List.foldlM_cons]
      cases hentry : drainEntry (x entry.jobId) d entry with
      | error d' =>
          refine ⟨_, Run.single (a := .drain (x entry.jobId)) ?_⟩
          rw [OutboxSteps, outboxStep]
          dsimp only
          rw [hentry]
          rfl
      | ok d' =>
          obtain ⟨tr, hrun⟩ := ih d'
          refine ⟨_, .cons (a := .drain (x entry.jobId)) ?_ hrun⟩
          rw [OutboxSteps, outboxStep]
          dsimp only
          rw [hentry]

/-- **A pass is a run.** -/
theorem drainOnce_run (p : PassInput) (d : Drainer) :
    ∃ tr, Run OutboxSteps ⟨d, none⟩ tr ⟨drainOnce p d, none⟩ := by
  obtain ⟨tr, hrun⟩ := drainEntries_run p.exchange
    ((pruneDeferrals d).outbox.getPendingTerminals windowSize) (pruneDeferrals d)
  have hscan : OutboxSteps ⟨d, none⟩ .scan ⟨pruneDeferrals d,
      some ((pruneDeferrals d).outbox.getPendingTerminals windowSize)⟩ := rfl
  rw [drainOnce]
  cases hentries : drainEntries p.exchange (pruneDeferrals d)
      ((pruneDeferrals d).outbox.getPendingTerminals windowSize) with
  | error d' =>
      rw [hentries] at hrun
      exact ⟨_, .cons hscan hrun⟩
  | ok d' =>
      rw [hentries] at hrun
      have hfinish : OutboxSteps ⟨d', some []⟩ .finish
          ⟨d'.withOutbox (d'.outbox.pruneAckedTerminals 100), none⟩ := rfl
      exact ⟨_, .cons hscan (hrun.append (.single hfinish))⟩

/-! ### What a request does to the outbox -/

/-- A row after an answer. -/
def TerminalRow.after (r : TerminalRow) (error : String) : Verdict → TerminalRow
  | .ack => { r with acked := true }
  | .retain _ _ =>
    { r with
      attempts := r.attempts + 1
      lastError := Outbox.errorText error
      deadLetter := r.deadLetter || maxTerminalAttempts ≤ r.attempts + 1 }
  | .retry _ => { r with attempts := r.attempts + 1, lastError := Outbox.errorText error }

/-- An answer changes neither the key nor the job. -/
theorem TerminalRow.after_keys (r : TerminalRow) (error : String) (v : Verdict) :
    (r.after error v).id = r.id ∧ (r.after error v).jobId = r.jobId := by
  cases v with
  | ack => exact ⟨rfl, rfl⟩
  | retain reason unknown => exact ⟨rfl, rfl⟩
  | retry retryAfter => exact ⟨rfl, rfl⟩

/-- The rows after a change. -/
theorem Outbox.rows_modify (o : Outbox) (jobId : ℕ) (f : TerminalRow → TerminalRow)
    (hf : ∀ r, (f r).id = r.id ∧ (f r).jobId = r.jobId) :
    (o.modify jobId f hf).rows = o.rows.map fun r => if r.jobId = jobId then f r else r := by
  have hrows : (o.modify jobId f hf).rows =
      o.rows.map fun r => if (r.jobId == jobId) = true then f r else r := rfl
  rw [hrows]
  refine List.map_congr_left fun r _ => ?_
  by_cases h : r.jobId = jobId
  · rw [if_pos h, if_pos (beq_iff_eq.mpr h)]
  · rw [if_neg h, if_neg (by simpa using h)]

/-- The rows after an acknowledgement. -/
theorem Outbox.rows_ackTerminal (o : Outbox) (jobId : ℕ) :
    (o.ackTerminal jobId).rows =
      o.rows.map fun r => if r.jobId = jobId then { r with acked := true } else r :=
  o.rows_modify jobId (fun r => { r with acked := true }) fun _ => ⟨rfl, rfl⟩

/-- The rows after a failure was counted. -/
theorem Outbox.rows_bumpTerminalAttempt (o : Outbox) (jobId : ℕ) (error : String) :
    (o.bumpTerminalAttempt jobId error).1.rows = o.rows.map fun r => if r.jobId = jobId then
      { r with attempts := r.attempts + 1, lastError := Outbox.errorText error } else r :=
  o.rows_modify jobId
    (fun r => { r with attempts := r.attempts + 1, lastError := Outbox.errorText error })
    fun _ => ⟨rfl, rfl⟩

/-- Rows of one job are one row. -/
theorem Outbox.eq_of_jobId {o : Outbox} {r s : TerminalRow} (hr : r ∈ o.rows) (hs : s ∈ o.rows)
    (h : r.jobId = s.jobId) : r = s :=
  List.inj_on_of_nodup_map o.jobs hr hs h

/-- The number of failed requests that a failure counts to. -/
theorem Outbox.bump_snd {o : Outbox} {r : TerminalRow} (hr : r ∈ o.rows) (error : String) :
    (o.bumpTerminalAttempt r.jobId error).2 = r.attempts + 1 := by
  have hmem : { r with attempts := r.attempts + 1, lastError := Outbox.errorText error } ∈
      (o.bumpTerminalAttempt r.jobId error).1.rows := by
    rw [Outbox.rows_bumpTerminalAttempt]
    exact List.mem_map.mpr ⟨r, hr, if_pos rfl⟩
  have hsnd : (o.bumpTerminalAttempt r.jobId error).2 =
      (((o.bumpTerminalAttempt r.jobId error).1.table.first fun q => q.jobId == r.jobId).map
        TerminalRow.attempts).getD 0 := rfl
  rw [hsnd]
  generalize (o.bumpTerminalAttempt r.jobId error).1 = o' at hmem
  cases hfirst : o'.table.first fun q => q.jobId == r.jobId with
  | none =>
      have hnot := Table.first_eq_none_iff.mp hfirst _ hmem
      simp at hnot
  | some q =>
      obtain ⟨hq, hjob⟩ := Table.mem_of_first hfirst
      rw [Outbox.eq_of_jobId hq hmem (beq_iff_eq.mp hjob)]
      rfl

/-- A row is marked after it was counted. -/
theorem Outbox.rows_mark_bump (o : Outbox) (jobId : ℕ) (error : String) :
    ((o.bumpTerminalAttempt jobId error).1.markTerminalDeadLetter jobId error).rows =
      o.rows.map fun r => if r.jobId = jobId then
        { r with
          attempts := r.attempts + 1
          lastError := Outbox.errorText error
          deadLetter := true } else r := by
  rw [Outbox.markTerminalDeadLetter, Outbox.rows_modify, Outbox.rows_bumpTerminalAttempt,
    List.map_map]
  refine List.map_congr_left fun r _ => ?_
  rw [Function.comp_apply]
  by_cases h : r.jobId = jobId
  · rw [if_pos h, if_pos h, if_pos h]
  · rw [if_neg h, if_neg h, if_neg h]

/-- **What a request does.** Only the row of its job changes. -/
theorem sendEntry_rows (x : Exchange) (d : Drainer) (entry : TerminalRow) :
    (leftWith (sendEntry x d entry)).outbox.rows = d.outbox.rows.map fun r =>
      if r.jobId = entry.jobId then r.after x.error (verdict x.reply) else r := by
  rw [sendEntry]
  dsimp only
  cases verdict x.reply with
  | ack => exact d.outbox.rows_ackTerminal entry.jobId
  | retry retryAfter =>
      have hrows : (leftWith (deferEntry x retryAfter
          { d with answers := d.answers ++ [(entry.id, .retry retryAfter)] } entry.jobId)).outbox =
          (d.outbox.bumpTerminalAttempt entry.jobId x.error).1 := by
        rw [deferEntry]
        cases nextDeferralSeconds retryAfter
            (d.outbox.bumpTerminalAttempt entry.jobId x.error).2 x.draw with
        | none => rfl
        | some deferral =>
            dsimp only
            split_ifs
            · rfl
            · rfl
      exact (congrArg Outbox.rows hrows).trans
        (d.outbox.rows_bumpTerminalAttempt entry.jobId x.error)
  | retain reason unknown =>
      have hgone : ∀ r ∈ d.outbox.rows, r.jobId = entry.jobId →
          (d.outbox.bumpTerminalAttempt entry.jobId x.error).2 = r.attempts + 1 :=
        fun r hr hjob => hjob ▸ Outbox.bump_snd hr x.error
      show (retainOrDeadLetter _ entry.jobId x.error).outbox.rows = _
      rw [retainOrDeadLetter]
      split_ifs with hlimit
      · refine (Outbox.rows_mark_bump d.outbox entry.jobId x.error).trans ?_
        refine List.map_congr_left fun r hr => ?_
        by_cases h : r.jobId = entry.jobId
        · have hattempts := hgone r hr h
          rw [if_pos h, if_pos h, TerminalRow.after]
          have hdead : maxTerminalAttempts ≤ r.attempts + 1 := hattempts ▸ hlimit
          rw [decide_eq_true hdead, Bool.or_true]
        · rw [if_neg h, if_neg h]
      · refine (d.outbox.rows_bumpTerminalAttempt entry.jobId x.error).trans ?_
        refine List.map_congr_left fun r hr => ?_
        by_cases h : r.jobId = entry.jobId
        · have hattempts := hgone r hr h
          rw [if_pos h, if_pos h, TerminalRow.after]
          have hdead : ¬ maxTerminalAttempts ≤ r.attempts + 1 := hattempts ▸ hlimit
          rw [decide_eq_false hdead, Bool.or_false]
        · rw [if_neg h, if_neg h]

/-! ### Failures -/

/-- Whether an answer is a failure, and if it is, whether the row was refused. -/
def Verdict.failure : Verdict → Option Bool
  | .ack => none
  | .retain _ _ => some true
  | .retry _ => some false

/-- The failures of a row. -/
def failures (id : ℕ) (answers : List (ℕ × Verdict)) : List Bool :=
  answers.filterMap fun q => if q.1 = id then q.2.failure else none

/-- One more answer. -/
theorem failures_concat (id : ℕ) (answers : List (ℕ × Verdict)) (i : ℕ) (v : Verdict) :
    failures id (answers ++ [(i, v)]) =
      failures id answers ++ if i = id then v.failure.toList else [] := by
  rw [failures, List.filterMap_append, failures]
  congr 1
  by_cases h : i = id
  · rw [if_pos h, List.filterMap_cons, if_pos h]
    cases v.failure with
    | none => rfl
    | some b => rfl
  · rw [if_neg h, List.filterMap_cons, if_neg h]
    rfl

/-- A row without answers. -/
theorem failures_of_fresh {answers : List (ℕ × Verdict)} {n : ℕ} (h : ∀ q ∈ answers, q.1 < n) :
    failures n answers = [] := by
  rw [failures, List.filterMap_eq_nil_iff]
  intro q hq
  exact if_neg (ne_of_lt (h q hq))

/-! ### What every step preserves -/

/-- The rows know their answers. -/
structure RowsInv (d : Drainer) : Prop where
  counted : ∀ r ∈ d.outbox.rows, r.attempts = (failures r.id d.answers).length
  given : ∀ r ∈ d.outbox.rows, r.deadLetter = true ↔
    Spent maxTerminalAttempts (failures r.id d.answers)
  fresh : ∀ q ∈ d.answers, q.1 < d.outbox.table.nextId

/-- The rows of a pass are rows that were not given up. -/
structure WindowInv (d : Drainer) (window : List TerminalRow) : Prop where
  distinct : (window.map TerminalRow.id).Nodup
  waiting : ∀ e ∈ window, ∃ r ∈ d.outbox.rows, r.id = e.id ∧ r.jobId = e.jobId ∧
    r.deadLetter = false

/-- What holds of the outbox and its thread. -/
def TerminalInv (s : DrainSystem) : Prop :=
  RowsInv s.drainer ∧ ∀ w, s.window = some w → WindowInv s.drainer w

/-- A row is given up only after ten refusals. -/
def GivenUpJustly (s : DrainSystem) : Prop :=
  ∀ r ∈ s.drainer.outbox.rows, r.deadLetter = true →
    maxTerminalAttempts ≤ (failures r.id s.drainer.answers).count true

/-- If a row that had nine failures or more is refused, the first nine were refusals. -/
def FairRefusal (s : DrainSystem) : OutboxEvent → Prop
  | .drain x => ∀ entry rest, s.window = some (entry :: rest) →
    (∀ t, s.drainer.deferUntil entry.jobId = some t → t ≤ x.checkedAt) →
    (verdict x.reply).failure = some true →
    9 ≤ (failures entry.id s.drainer.answers).length →
    ∀ b ∈ (failures entry.id s.drainer.answers).take 9, b = true
  | .enqueue _ _ _ | .ack _ | .scan | .finish | .restart => True

/-- Nothing is sent: every row was there, with the attempts it has, or is new. -/
structure Carries (d d' : Drainer) : Prop where
  answers : d'.answers = d.answers
  nextId : d.outbox.table.nextId ≤ d'.outbox.table.nextId
  rows : ∀ r' ∈ d'.outbox.rows,
    (∃ r ∈ d.outbox.rows, r'.id = r.id ∧ r'.attempts = r.attempts ∧
      r'.deadLetter = r.deadLetter) ∨
    (r'.id = d.outbox.table.nextId ∧ r'.attempts = 0 ∧ r'.deadLetter = false)

/-- Nothing is sent: the rows still know their answers. -/
theorem RowsInv.of_carries {d d' : Drainer} (h : RowsInv d) (hc : Carries d d') : RowsInv d' where
  counted := by
    intro r' hr'
    rw [hc.answers]
    rcases hc.rows r' hr' with ⟨r, hr, hid, hattempts, -⟩ | ⟨hid, hattempts, -⟩
    · rw [hid, hattempts]
      exact h.counted r hr
    · rw [hid, hattempts, failures_of_fresh h.fresh]
      rfl
  given := by
    intro r' hr'
    rw [hc.answers]
    rcases hc.rows r' hr' with ⟨r, hr, hid, -, hdead⟩ | ⟨hid, -, hdead⟩
    · rw [hid, hdead]
      exact h.given r hr
    · rw [hid, hdead, failures_of_fresh h.fresh]
      exact iff_of_false Bool.false_ne_true not_spent_nil
  fresh := by
    intro q hq
    rw [hc.answers] at hq
    exact lt_of_lt_of_le (h.fresh q hq) hc.nextId

/-- Nothing is sent: no row is given up. -/
theorem GivenUpJustly.of_carries {s s' : DrainSystem} (h : GivenUpJustly s)
    (hc : Carries s.drainer s'.drainer) : GivenUpJustly s' := by
  intro r' hr' hdead'
  rw [hc.answers]
  rcases hc.rows r' hr' with ⟨r, hr, hid, -, hdead⟩ | ⟨-, -, hdead⟩
  · rw [hid]
    exact h r hr (hdead ▸ hdead')
  · rw [hdead] at hdead'
    cases hdead'

/-- Rows of a pass stay where rows of the outbox stay. -/
theorem WindowInv.mono {d d' : Drainer} {w : List TerminalRow} (h : WindowInv d w)
    (hrows : ∀ r ∈ d.outbox.rows, ∃ r' ∈ d'.outbox.rows, r'.id = r.id ∧ r'.jobId = r.jobId ∧
      r'.deadLetter = r.deadLetter) : WindowInv d' w where
  distinct := h.distinct
  waiting := by
    intro e he
    obtain ⟨r, hr, hid, hjob, hdead⟩ := h.waiting e he
    obtain ⟨r', hr', hid', hjob', hdead'⟩ := hrows r hr
    exact ⟨r', hr', hid'.trans hid, hjob'.trans hjob, hdead'.trans hdead⟩

/-! ### A request -/

section Sent

variable {x : Exchange} {d : Drainer} {entry r₀ : TerminalRow}

/-- A request uses no key. -/
theorem sendEntry_nextId :
    (leftWith (sendEntry x d entry)).outbox.table.nextId = d.outbox.table.nextId := by
  rw [sendEntry]
  dsimp only
  cases verdict x.reply with
  | ack => rfl
  | retain reason unknown =>
      show (retainOrDeadLetter _ _ _).outbox.table.nextId = _
      rw [retainOrDeadLetter]
      split_ifs
      · rfl
      · rfl
  | retry retryAfter =>
      show (leftWith (deferEntry _ _ _ _)).outbox.table.nextId = _
      rw [deferEntry]
      cases nextDeferralSeconds retryAfter
          (d.outbox.bumpTerminalAttempt entry.jobId x.error).2 x.draw with
      | none => rfl
      | some deferral =>
          dsimp only
          split_ifs
          · rfl
          · rfl

variable (hrow : r₀ ∈ d.outbox.rows) (hid : r₀.id = entry.id) (hjob : r₀.jobId = entry.jobId)

include hrow hid hjob

/-- A row after a request: another row, with the answers it had, or the row that was sent, with one
more. -/
theorem row_of_sent {r' : TerminalRow} (hr' : r' ∈ (leftWith (sendEntry x d entry)).outbox.rows) :
    (r' ∈ d.outbox.rows ∧ r'.id ≠ entry.id ∧
      failures r'.id (leftWith (sendEntry x d entry)).answers = failures r'.id d.answers) ∨
    (r' = r₀.after x.error (verdict x.reply) ∧
      failures r'.id (leftWith (sendEntry x d entry)).answers =
        failures r₀.id d.answers ++ (verdict x.reply).failure.toList) := by
  rw [sendEntry_rows] at hr'
  obtain ⟨r, hr, rfl⟩ := List.mem_map.mp hr'
  rw [sendEntry_frame.1, failures_concat]
  by_cases h : r.jobId = entry.jobId
  · obtain rfl := Outbox.eq_of_jobId hr hrow (h.trans hjob.symm)
    rw [if_pos h, (r.after_keys x.error (verdict x.reply)).1, if_pos hid.symm]
    exact .inr ⟨rfl, rfl⟩
  · rw [if_neg h]
    have hne : r.id ≠ entry.id := by
      intro heq
      have hsame : r = r₀ := Table.eq_of_id_eq hr hrow (heq.trans hid.symm)
      exact h (hsame ▸ hjob)
    rw [if_neg (Ne.symm hne), List.append_nil]
    exact .inl ⟨hr, hne, rfl⟩

/-- **After a request** the rows know their answers. -/
theorem RowsInv.of_sent (h : RowsInv d) : RowsInv (leftWith (sendEntry x d entry)) where
  counted := by
    intro r' hr'
    rcases row_of_sent hrow hid hjob hr' with ⟨hr, -, hfail⟩ | ⟨rfl, hfail⟩
    · rw [hfail]
      exact h.counted r' hr
    · rw [hfail, List.length_append, ← h.counted r₀ hrow]
      cases verdict x.reply with
      | ack => rfl
      | retain reason unknown => rfl
      | retry retryAfter => rfl
  given := by
    intro r' hr'
    rcases row_of_sent hrow hid hjob hr' with ⟨hr, -, hfail⟩ | ⟨rfl, hfail⟩
    · rw [hfail]
      exact h.given r' hr
    · rw [hfail]
      have hgiven := h.given r₀ hrow
      cases verdict x.reply with
      | ack =>
          rw [Verdict.failure, Option.toList_none, List.append_nil]
          exact hgiven
      | retry retryAfter =>
          rw [Verdict.failure, Option.toList_some, spent_concat, ← hgiven]
          exact (or_iff_left fun hfalse => Bool.false_ne_true hfalse.1).symm
      | retain reason unknown =>
          rw [Verdict.failure, Option.toList_some, spent_concat, ← hgiven, ← h.counted r₀ hrow,
            TerminalRow.after, Bool.or_eq_true, decide_eq_true_iff]
          exact or_congr_right (and_iff_right rfl).symm
  fresh := by
    intro q hq
    rw [sendEntry_nextId]
    rw [sendEntry_frame.1] at hq
    rcases List.mem_append.mp hq with hq | hq
    · exact h.fresh q hq
    · rw [List.mem_singleton.mp hq]
      exact hid ▸ d.outbox.table.fresh r₀ hrow

/-- **After a request** the rest of the pass is still waiting. -/
theorem WindowInv.of_sent {rest : List TerminalRow} (h : WindowInv d (entry :: rest)) :
    WindowInv (leftWith (sendEntry x d entry)) rest where
  distinct := (List.nodup_cons.mp h.distinct).2
  waiting := by
    intro e he
    obtain ⟨r, hr, hrid, hrjob, hdead⟩ := h.waiting e (List.mem_cons_of_mem entry he)
    refine ⟨r, ?_, hrid, hrjob, hdead⟩
    rw [sendEntry_rows]
    refine List.mem_map.mpr ⟨r, hr, if_neg fun heq => ?_⟩
    have hsame : r = r₀ := Outbox.eq_of_jobId hr hrow (heq.trans hjob.symm)
    refine (List.nodup_cons.mp h.distinct).1 (List.mem_map.mpr ⟨e, he, ?_⟩)
    rw [← hrid, hsame, hid]

/-- **When a request gives a row up justly**: the first nine of its failures, if there are as many,
were refusals. -/
theorem justly_of_sent (h : RowsInv d) (hdead : r₀.deadLetter = false)
    (hjustly : ∀ r ∈ d.outbox.rows, r.deadLetter = true →
      maxTerminalAttempts ≤ (failures r.id d.answers).count true) :
    (∀ r ∈ (leftWith (sendEntry x d entry)).outbox.rows, r.deadLetter = true →
      maxTerminalAttempts ≤
        (failures r.id (leftWith (sendEntry x d entry)).answers).count true) ↔
    ((verdict x.reply).failure = some true → 9 ≤ (failures entry.id d.answers).length →
      ∀ b ∈ (failures entry.id d.answers).take 9, b = true) := by
  have hspent : ¬ Spent (9 + 1) (failures entry.id d.answers) := by
    rw [← hid]
    intro hs
    rw [(h.given r₀ hrow).mpr hs] at hdead
    cases hdead
  have hcounted := h.counted r₀ hrow
  rw [hid] at hcounted
  constructor
  · intro hafter hrefused hlen
    have hmem : r₀.after x.error (verdict x.reply) ∈
        (leftWith (sendEntry x d entry)).outbox.rows := by
      rw [sendEntry_rows]
      exact List.mem_map.mpr ⟨r₀, hrow, if_pos hjob⟩
    have hgiven : (r₀.after x.error (verdict x.reply)).deadLetter = true := by
      cases hv : verdict x.reply with
      | ack =>
          rw [hv] at hrefused
          cases hrefused
      | retry retryAfter =>
          rw [hv] at hrefused
          cases hrefused
      | retain reason unknown =>
          rw [TerminalRow.after, Bool.or_eq_true, decide_eq_true_iff, maxTerminalAttempts]
          exact .inr (by omega)
    have hten := hafter _ hmem hgiven
    rw [(r₀.after_keys x.error (verdict x.reply)).1, hid, sendEntry_frame.1, failures_concat,
      if_pos rfl, hrefused, Option.toList_some, List.count_append, maxTerminalAttempts] at hten
    have hone : [true].count true = 1 := rfl
    exact (count_of_not_spent hspent hlen).mp (by omega)
  · intro hfair r' hr' hdead'
    rcases row_of_sent hrow hid hjob hr' with ⟨hr, -, hfail⟩ | ⟨rfl, hfail⟩
    · rw [hfail]
      exact hjustly r' hr hdead'
    · rw [hfail]
      cases hv : verdict x.reply with
      | ack =>
          rw [hv] at hdead'
          exact absurd (hdead'.symm.trans hdead) (Bool.false_ne_true ∘ Eq.symm)
      | retry retryAfter =>
          rw [hv] at hdead'
          exact absurd (hdead'.symm.trans hdead) (Bool.false_ne_true ∘ Eq.symm)
      | retain reason unknown =>
          rw [hv, TerminalRow.after, hdead, Bool.false_or, decide_eq_true_iff,
            maxTerminalAttempts] at hdead'
          rw [hv] at hfair
          have hlen : 9 ≤ (failures entry.id d.answers).length := by omega
          have hnine := (count_of_not_spent hspent hlen).mpr (hfair rfl hlen)
          rw [Verdict.failure, Option.toList_some, List.count_append, maxTerminalAttempts, hid]
          have hone : [true].count true = 1 := rfl
          omega

end Sent

/-! ### Steps -/

/-- A step that sends nothing keeps what holds, and gives no row up. -/
theorem step_of_carries {s s' : DrainSystem} (hinv : TerminalInv s) (hjustly : GivenUpJustly s)
    (hc : Carries s.drainer s'.drainer)
    (hwindow : ∀ w, s'.window = some w → WindowInv s'.drainer w) :
    TerminalInv s' ∧ GivenUpJustly s' :=
  ⟨⟨hinv.1.of_carries hc, hwindow⟩, hjustly.of_carries hc⟩

/-- Rows with the same outbox and answers are carried. -/
theorem Carries.of_eq {d d' : Drainer} (hrows : d'.outbox.rows = d.outbox.rows)
    (hnext : d'.outbox.table.nextId = d.outbox.table.nextId) (hanswers : d'.answers = d.answers) :
    Carries d d' :=
  ⟨hanswers, hnext.ge, fun r hr => .inl ⟨r, hrows ▸ hr, rfl, rfl, rfl⟩⟩

/-- What is written to the outbox. -/
theorem enqueueTerminal_cases {o o' : Outbox} {jobId : ℕ} {payload : String} {now : Time}
    (h : o.enqueueTerminal jobId payload now = some o') :
    o' = o ∨ (o'.rows = o.rows ++ [⟨o.table.nextId, jobId, payload, now, 0, none, false, false⟩] ∧
      o'.table.nextId = o.table.nextId + 1) := by
  rw [Outbox.enqueueTerminal] at h
  split at h
  · split_ifs at h
    cases h
    exact .inl rfl
  · cases h
    exact .inr ⟨rfl, rfl⟩

/-- A row of a pass is sent, or the thread stays as it is. -/
theorem drain_cases {s s' : DrainSystem} {x : Exchange} (h : OutboxSteps s (.drain x) s') :
    ∃ entry rest, s.window = some (entry :: rest) ∧
      s'.drainer = leftWith (drainEntry x s.drainer entry) ∧
      ∀ w, s'.window = some w → w = rest := by
  rw [OutboxSteps, outboxStep] at h
  cases hw : s.window with
  | none =>
      rw [hw] at h
      cases h
  | some w =>
      rw [hw] at h
      cases w with
      | nil => cases h
      | cons entry rest =>
          refine ⟨entry, rest, rfl, ?_⟩
          dsimp only at h
          cases hentry : drainEntry x s.drainer entry with
          | ok d =>
              rw [hentry] at h
              cases h
              exact ⟨rfl, fun w hw => (Option.some.inj hw).symm⟩
          | error d =>
              rw [hentry] at h
              cases h
              exact ⟨rfl, fun w hw => by cases hw⟩

/-- **One step** keeps what holds, and gives rows up justly exactly when refusals are fair. -/
theorem terminal_step {s s' : DrainSystem} {e : OutboxEvent} (hinv : TerminalInv s)
    (hjustly : GivenUpJustly s) (h : OutboxSteps s e s') :
    TerminalInv s' ∧ (GivenUpJustly s' ↔ FairRefusal s e) := by
  have hquiet : ∀ {e' : OutboxEvent}, FairRefusal s e' → Carries s.drainer s'.drainer →
      (∀ w, s'.window = some w → WindowInv s'.drainer w) →
      TerminalInv s' ∧ (GivenUpJustly s' ↔ FairRefusal s e') := by
    intro e' hfair hc hw
    obtain ⟨hinv', hjustly'⟩ := step_of_carries hinv hjustly hc hw
    exact ⟨hinv', iff_of_true hjustly' hfair⟩
  cases e with
  | enqueue jobId payload now =>
      rw [OutboxSteps, outboxStep] at h
      cases henqueue : s.drainer.outbox.enqueueTerminal jobId payload now with
      | none =>
          rw [henqueue] at h
          cases h
          exact hquiet trivial (.of_eq rfl rfl rfl) hinv.2
      | some o =>
          rw [henqueue] at h
          cases h
          rcases enqueueTerminal_cases henqueue with rfl | ⟨hrows, hnext⟩
          · exact hquiet trivial (.of_eq rfl rfl rfl) hinv.2
          · refine hquiet trivial ⟨rfl, ?_, fun r hr => ?_⟩ fun w hw => ?_
            · exact (Nat.le_succ _).trans hnext.ge
            · have hr' : r ∈ o.rows := hr
              rw [hrows] at hr'
              rcases List.mem_append.mp hr' with hr' | hr'
              · exact .inl ⟨r, hr', rfl, rfl, rfl⟩
              · rw [List.mem_singleton.mp hr']
                exact .inr ⟨rfl, rfl, rfl⟩
            · refine (hinv.2 w hw).mono fun r hr => ⟨r, ?_, rfl, rfl, rfl⟩
              show r ∈ o.rows
              rw [hrows]
              exact List.mem_append_left _ hr
  | ack jobId =>
      rw [OutboxSteps, outboxStep] at h
      cases h
      have hrows := s.drainer.outbox.rows_ackTerminal jobId
      refine hquiet trivial ⟨rfl, le_refl _, fun r' hr' => .inl ?_⟩ fun w hw => ?_
      · have hmem : r' ∈ (s.drainer.outbox.ackTerminal jobId).rows := hr'
        rw [hrows] at hmem
        obtain ⟨r, hr, rfl⟩ := List.mem_map.mp hmem
        refine ⟨r, hr, ?_⟩
        split_ifs
        · exact ⟨rfl, rfl, rfl⟩
        · exact ⟨rfl, rfl, rfl⟩
      · refine (hinv.2 w hw).mono fun r hr =>
          ⟨if r.jobId = jobId then { r with acked := true } else r, ?_, ?_⟩
        · show _ ∈ (s.drainer.outbox.ackTerminal jobId).rows
          rw [hrows]
          exact List.mem_map_of_mem hr
        · split_ifs
          · exact ⟨rfl, rfl, rfl⟩
          · exact ⟨rfl, rfl, rfl⟩
  | scan =>
      rw [OutboxSteps, outboxStep] at h
      cases hw : s.window with
      | some w =>
          rw [hw] at h
          cases h
      | none =>
          rw [hw] at h
          cases h
          refine hquiet trivial (.of_eq rfl rfl rfl) fun w hw => ?_
          cases hw
          have hpending : ∀ r ∈ s.drainer.outbox.getPendingTerminals windowSize,
              r ∈ s.drainer.outbox.rows ∧ r.deadLetter = false := by
            intro r hr
            have hmem := List.mem_of_mem_take hr
            rw [Outbox.pending, mem_sortBy] at hmem
            obtain ⟨hrow, hcond⟩ := List.mem_filter.mp hmem
            exact ⟨hrow, by simpa using (Bool.and_eq_true_iff.mp hcond).2⟩
          refine ⟨?_, fun r hr => ⟨r, (hpending r hr).1, rfl, rfl, (hpending r hr).2⟩⟩
          refine List.Nodup.map_on ?_ (s.drainer.outbox.nodup_window windowSize).of_map
          intro a ha b hb hab
          exact Table.eq_of_id_eq (hpending a ha).1 (hpending b hb).1 hab
  | finish =>
      rw [OutboxSteps, outboxStep] at h
      cases hw : s.window with
      | none =>
          rw [hw] at h
          cases h
      | some w =>
          rw [hw] at h
          cases w with
          | cons entry rest => cases h
          | nil =>
              cases h
              refine hquiet trivial ⟨rfl, le_refl _, fun r hr => .inl ⟨r, ?_, rfl, rfl, rfl⟩⟩
                fun w hw => by cases hw
              exact (Table.mem_delete.mp hr).1
  | restart =>
      rw [OutboxSteps, outboxStep] at h
      cases h
      exact hquiet trivial (.of_eq rfl rfl rfl) fun w hw => by cases hw
  | drain x =>
      obtain ⟨entry, rest, hw, hdrainer, hrest⟩ := drain_cases h
      have hwin := hinv.2 _ hw
      have hlater : WindowInv s.drainer rest :=
        ⟨(List.nodup_cons.mp hwin.distinct).2,
          fun e he => hwin.waiting e (List.mem_cons_of_mem entry he)⟩
      by_cases hready : ∀ t, s.drainer.deferUntil entry.jobId = some t → t ≤ x.checkedAt
      · obtain ⟨d₀, houtbox, hanswers, hsend⟩ : ∃ d₀ : Drainer,
            d₀.outbox = s.drainer.outbox ∧ d₀.answers = s.drainer.answers ∧
              drainEntry x s.drainer entry = sendEntry x d₀ entry := by
          rw [drainEntry.eq_def]
          cases ht : s.drainer.deferUntil entry.jobId with
          | none => exact ⟨s.drainer, rfl, rfl, rfl⟩
          | some t =>
              exact ⟨{ s.drainer with
                deferUntil := Function.update s.drainer.deferUntil entry.jobId none }, rfl, rfl,
                if_neg (not_lt_of_ge (hready t ht))⟩
        have hrows₀ : RowsInv d₀ := by
          refine ⟨?_, ?_, ?_⟩
          · rw [houtbox, hanswers]
            exact hinv.1.counted
          · rw [houtbox, hanswers]
            exact hinv.1.given
          · rw [houtbox, hanswers]
            exact hinv.1.fresh
        have hwin₀ : WindowInv d₀ (entry :: rest) := by
          refine ⟨hwin.distinct, ?_⟩
          rw [houtbox]
          exact hwin.waiting
        obtain ⟨r₀, hrow, hid, hjob, hdead⟩ := hwin₀.waiting entry List.mem_cons_self
        rw [hsend] at hdrainer
        refine ⟨⟨?_, fun w hw' => ?_⟩, ?_⟩
        · rw [hdrainer]
          exact hrows₀.of_sent hrow hid hjob
        · rw [hrest w hw', hdrainer]
          exact hwin₀.of_sent hrow hid hjob
        · have hjustly₀ : ∀ r ∈ d₀.outbox.rows, r.deadLetter = true →
              maxTerminalAttempts ≤ (failures r.id d₀.answers).count true := by
            rw [houtbox, hanswers]
            exact hjustly
          have hiff := justly_of_sent (x := x) hrow hid hjob hrows₀ hdead hjustly₀
          rw [← hdrainer, hanswers] at hiff
          refine hiff.trans ⟨?_, fun hfair => hfair entry rest hw hready⟩
          intro hfair entry' rest' hw' _
          rw [hw] at hw'
          cases hw'
          exact hfair
      · have hlate := hready
        push Not at hlate
        obtain ⟨t, ht, hlt⟩ := hlate
        rw [drainEntry_deferred ht hlt] at hdrainer
        have hsame : s'.drainer = s.drainer := hdrainer
        refine hquiet ?_ (hsame ▸ .of_eq rfl rfl rfl) fun w hw' => ?_
        · intro entry' rest' hw' hready'
          rw [hw] at hw'
          cases hw'
          exact absurd hready' hready
        · rw [hrest w hw', hsame]
          exact hlater

/-! ### Runs -/

/-- A new agent has given nothing up. -/
theorem terminalInv_start : TerminalInv .start ∧ GivenUpJustly .start :=
  ⟨⟨⟨fun r hr => absurd hr List.not_mem_nil, fun r hr => absurd hr List.not_mem_nil,
    fun q hq => absurd hq List.not_mem_nil⟩, fun w hw => by cases hw⟩,
    fun r hr => absurd hr List.not_mem_nil⟩

namespace AttemptExample

/-- The agent cannot reach the control plane. -/
def unreachable : Exchange := ⟨0, .raised, "connection refused", 0, 0⟩

/-- The control plane refuses the report. -/
def refused : Exchange := ⟨0, .httpError (some ⟨403, none, none⟩), "403 Forbidden", 0, 0⟩

/-- Nine requests do not reach the control plane, and the tenth is refused. -/
def events : List OutboxEvent :=
  .enqueue 1 "{}" 0 :: ((List.replicate 9 [.scan, .drain unreachable, .finish]).flatten ++
    [.scan, .drain refused])

/-- The rows: whether they are given up, and how often they were refused. -/
def refusals (s : DrainSystem) : List (Bool × ℕ) :=
  s.drainer.outbox.rows.map fun r => (r.deadLetter, (failures r.id s.drainer.answers).count true)

end AttemptExample

end StabilityPlatform.Terminal
