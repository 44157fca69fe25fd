import StabilityPlatform.Contract.GuardHistory

/-!
# Evidence that arrives again

Both channels may deliver an item of evidence more than once. A redelivery on the channel of
the lease extension, or on the coordinator's channel once the coordinator's mark is there or
newer evidence is, is received like any other item and moves the server time; nothing else of
the guard changes. Moving the server time, or seeing it go back, can only end a protection.

## Main results

* `seq_of_accepts`: an accepted item carries the number the guard takes from it.
* `receive_again`: a redelivery moves the server time only.
* `Behind.step`, `Behind.deadline`: a guard whose server time moved protects at most as the
  guard it was, whatever happens afterwards.
* `evidence_replay_inert`: **redeliveries are inert**.
-/

namespace StabilityPlatform

open Lib

variable {T : Type} [Ring T] [LinearOrder T]

/-! ### Accepted evidence -/

/-- The guard accepts an item of evidence: it takes a new sequence number from it. -/
def Accepts (guard : DisarmGuard T) (evidence : PyDict) (now : T) (via : Bool) : Prop :=
  ∃ out, receiveDisarmEvidence guard evidence now via = .ok out ∧ guard.seq < out.seq

omit [Ring T] [LinearOrder T] in
/-- A replay on the coordinator's channel takes no number. -/
@[simp] theorem seq_replayCoordinator (guard : DisarmGuard T) (v : PyVal) (now : T)
    (via : Bool) : (replayCoordinator guard v now via).seq = guard.seq := by
  rw [replayCoordinator]
  split <;> rfl

/-- New evidence leaves the guard or gives it its number. -/
theorem seq_receiveNewEvidence {guard out : DisarmGuard T} {evidence : PyDict} {seq : ℤ}
    {now : T} {via : Bool} (h : receiveNewEvidence guard evidence seq now via = .ok out) :
    out.seq = guard.seq ∨ out.seq = seq := by
  rw [receiveNewEvidence] at h
  cases hb : budgetOfEvidence guard evidence with
  | error e =>
      rw [hb] at h
      cases h
  | ok found =>
      rw [hb] at h
      cases found with
      | none =>
          cases h
          exact .inl rfl
      | some found =>
          obtain ⟨key, step⟩ := found
          simp only [bind, Except.bind, pure, Except.pure] at h
          split at h
          · cases h
            exact .inl rfl
          · split at h
            · cases h
              exact .inl rfl
            · split at h
              · cases h
                exact .inr rfl
              · cases h
                obtain ⟨p, seen, -, heq⟩ := acceptProgress_eq
                  { acceptEvidence guard seq key now via with
                    phase := some .execute
                    stepDeadlines := setDefault guard.stepDeadlines key
                      (min (now + (step.seconds : T)) guard.jobDeadline)
                    stepStartedAt := setDefault guard.stepStartedAt key now }
                  (PyDict.get evidence "progress_seq") now
                exact .inr (congrArg DisarmGuard.seq heq)

/-- **An accepted item carries the number** the guard takes from it. -/
theorem seq_of_accepts {guard : DisarmGuard T} {evidence : PyDict} {now : T} {via : Bool}
    (h : Accepts guard evidence now via) :
    ∃ out seq, receiveDisarmEvidence guard evidence now via = .ok out ∧
      PyDict.get evidence "seq" = .int seq ∧ out.seq = seq := by
  obtain ⟨out, hout, hlt⟩ := h
  refine ⟨out, out.seq, hout, ?_, rfl⟩
  rw [receiveDisarmEvidence] at hout
  split at hout
  · cases hout
    exact absurd hlt (lt_irrefl _)
  · dsimp only at hout
    split at hout
    · cases hout
      exact absurd hlt (lt_irrefl _)
    · split at hout
      · rename_i seq hseq
        split at hout
        · cases hout
          exact absurd hlt (by rw [seq_replayCoordinator]; exact lt_irrefl _)
        · rcases seq_receiveNewEvidence hout with h | h
          · exact absurd hlt (by rw [h]; exact lt_irrefl _)
          · rw [h, hseq]
      · cases hout
        exact absurd hlt (by rw [seq_replayCoordinator]; exact lt_irrefl _)

/-! ### One redelivery -/

/-- The coordinator's channel has nothing to gain from a number: its mark is there already, or
the guard has a newer one. -/
def Received (guard : DisarmGuard T) (seq : ℤ) : Prop :=
  seq ≤ coordinatorSeq guard ∨ seq < guard.seq

/-- **A redelivery moves the server time only.** -/
theorem receive_again {guard : DisarmGuard T} {evidence : PyDict} {seq : ℤ} {now : T}
    {via : Bool} (hseq : PyDict.get evidence "seq" = .int seq) (hle : seq ≤ guard.seq)
    (hvia : via = true → Received guard seq) (hnow : guard.lastServerAt ≤ now) :
    receiveDisarmEvidence guard evidence now via = .ok { guard with lastServerAt := now } := by
  rw [receiveDisarmEvidence, if_neg (not_lt.mpr hnow)]
  dsimp only
  split
  · rfl
  · rw [hseq]
    dsimp only
    rw [if_pos hle, replayCoordinator, if_neg]
    intro hc
    simp only [Bool.and_eq_true, decide_eq_true_eq] at hc
    obtain ⟨⟨hv, heq⟩, hlt⟩ := hc
    have hsame : seq = guard.seq := by simpa [PyVal.pyEq, PyVal.eqWith] using heq
    rcases hvia hv with h | h
    · exact absurd (hsame ▸ h) (not_le.mpr hlt)
    · omega

/-! ### Guards whose server time moved -/

/-- `later` is `guard` with a later server time, or its clock was seen to go back. -/
def Behind (guard later : DisarmGuard T) : Prop :=
  (guard.lastServerAt ≤ later.lastServerAt ∧
    later = { guard with lastServerAt := later.lastServerAt }) ∨
  later.clockRegressed = true

omit [Ring T] in
/-- Every guard is behind itself. -/
theorem Behind.refl (guard : DisarmGuard T) : Behind guard guard := .inl ⟨le_rfl, rfl⟩

/-- Evidence at a time the later guard accepts does the same to both. -/
theorem receive_setServerAt (guard : DisarmGuard T) (evidence : PyDict) {t now : T} (via : Bool)
    (hg : guard.lastServerAt ≤ now) (ht : t ≤ now) :
    receiveDisarmEvidence { guard with lastServerAt := t } evidence now via =
      receiveDisarmEvidence guard evidence now via := by
  rw [receiveDisarmEvidence, receiveDisarmEvidence, if_neg (not_lt.mpr ht),
    if_neg (not_lt.mpr hg)]

/-- A regressed clock stays regressed. -/
theorem clockRegressed_step {guard : DisarmGuard T} (h : guard.clockRegressed = true)
    (event : GuardEvent T) : (guardStep guard event).clockRegressed = true := by
  cases event with
  | receive evidence now via =>
      rw [guardStep, receiveDisarmEvidence]
      dsimp only
      by_cases hlt : now < guard.lastServerAt
      · rw [if_pos hlt]
      · rw [if_neg hlt, if_pos h]
        exact h
  | rebind token instanceId boot => exact h
  | read now =>
      rw [guardStep]
      split
      · rfl
      · exact h

/-- What happens next keeps the later guard later. -/
theorem Behind.step {guard later : DisarmGuard T} (h : Behind guard later)
    (event : GuardEvent T) : Behind (guardStep guard event) (guardStep later event) := by
  rcases h with ⟨hle, heq⟩ | hreg
  · generalize later.lastServerAt = t at hle heq
    subst heq
    cases event with
    | receive evidence now via =>
        by_cases hlt : now < t
        · refine .inr ?_
          rw [guardStep, receiveDisarmEvidence, if_pos hlt]
        · rw [guardStep, guardStep, receive_setServerAt guard evidence via
            (hle.trans (not_lt.mp hlt)) (not_lt.mp hlt)]
          split
          · exact .refl _
          · exact .inl ⟨hle, rfl⟩
    | rebind token instanceId boot => exact .inl ⟨hle, rfl⟩
    | read now =>
        by_cases hlt : now < t
        · refine .inr ?_
          rw [guardStep, if_pos hlt]
        · rw [guardStep, guardStep, if_neg hlt, if_neg (fun h => hlt (h.trans_le hle))]
          exact .inl ⟨hle, rfl⟩
  · exact .inr (clockRegressed_step hreg event)

/-- Whatever happens next keeps the later guard later. -/
theorem Behind.deliver {guard later : DisarmGuard T} (h : Behind guard later)
    (events : List (GuardEvent T)) :
    Behind (deliver guard events) (deliver later events) := by
  induction events generalizing guard later with
  | nil => exact h
  | cons event rest ih => exact ih (h.step event)

/-- **The later guard protects at most as the guard it was.** -/
theorem Behind.deadline {guard later : DisarmGuard T} (h : Behind guard later) {now d : T}
    {owner : Bool} {beat : Option T} {timeout : T}
    (hd : disarmGuardDeadline (some later) now owner beat timeout = some d) :
    disarmGuardDeadline (some guard) now owner beat timeout = some d := by
  rcases h with ⟨hle, heq⟩ | hreg
  · generalize later.lastServerAt = t at hle heq
    subst heq
    rw [disarmGuardDeadline] at hd ⊢
    dsimp only at hd ⊢
    split at hd
    · cases hd
    · rename_i howner
      rw [if_neg howner]
      split at hd
      · cases hd
      · rename_i hnow
        rw [if_neg (fun h => hnow (h.trans_le hle))]
        exact hd
  · have hfalse := (disarmGuardDeadline_eq_some hd).2.1
    rw [hreg] at hfalse
    cases hfalse

/-! ### Redeliveries -/

/-- A message that arrives again. -/
structure Redelivery (T : Type) where
  evidence : PyDict
  now : T
  viaCoordinator : Bool

/-- The arrival as an event. -/
def Redelivery.event (r : Redelivery T) : GuardEvent T :=
  .receive r.evidence r.now r.viaCoordinator

/-- The message was accepted at some moment of a history, on either channel. -/
def AcceptedIn (guard : DisarmGuard T) (events : List (GuardEvent T)) (evidence : PyDict) :
    Prop :=
  ∃ before now via after, events = before ++ .receive evidence now via :: after ∧
    Accepts (deliver guard before) evidence now via

/-- What was accepted in a history is not newer than the guard. -/
theorem AcceptedIn.seq_le [IsStrictOrderedRing T] {guard : DisarmGuard T}
    (hok : GuardOk guard) {events : List (GuardEvent T)} {evidence : PyDict}
    (h : AcceptedIn guard events evidence) :
    ∃ seq, PyDict.get evidence "seq" = .int seq ∧ seq ≤ (deliver guard events).seq := by
  obtain ⟨before, now, via, after, rfl, hacc⟩ := h
  obtain ⟨out, seq, hout, hseq, heq⟩ := seq_of_accepts hacc
  have hmid := guardOk_deliver hok before
  have hrest := (guardLe_deliver (guardOk_receive hmid hout) after).seq
  refine ⟨seq, hseq, ?_⟩
  rw [deliver_append]
  change seq ≤ (deliver (guardStep (deliver guard before) (.receive evidence now via)) after).seq
  rw [guardStep, hout, ← heq]
  exact hrest

/-- A message that was accepted in a history arrives again: on the channel of the lease
extension, or on the coordinator's channel when that has nothing to gain. -/
def ArrivesAgain (start : DisarmGuard T) (events : List (GuardEvent T)) (r : Redelivery T) :
    Prop :=
  AcceptedIn start events r.evidence ∧
    (r.viaCoordinator = true →
      ∃ seq, PyDict.get r.evidence "seq" = .int seq ∧ Received (deliver start events) seq)

/-- One of them, received at a time that does not go back. -/
theorem ArrivesAgain.receive [IsStrictOrderedRing T] {start : DisarmGuard T}
    (hok : GuardOk start) {events : List (GuardEvent T)} {r : Redelivery T}
    (h : ArrivesAgain start events r) {t : T} (ht : t ≤ r.now) :
    guardStep { deliver start events with lastServerAt := t } r.event =
      { deliver start events with lastServerAt := r.now } := by
  obtain ⟨hacc, hvia⟩ := h
  obtain ⟨seq, hseq, hle⟩ := hacc.seq_le hok
  have hone : receiveDisarmEvidence { deliver start events with lastServerAt := t }
      r.evidence r.now r.viaCoordinator =
      .ok { deliver start events with lastServerAt := r.now } := by
    refine receive_again hseq hle (fun hv => ?_) ht
    obtain ⟨seq', hseq', hsettled⟩ := hvia hv
    rw [hseq] at hseq'
    cases hseq'
    exact hsettled
  rw [Redelivery.event, guardStep, hone]

/-- What a guard is told again, at times that do not go back, moves its server time only. -/
theorem deliver_again [IsStrictOrderedRing T] {start : DisarmGuard T} (hok : GuardOk start)
    (events : List (GuardEvent T)) {again : List (Redelivery T)}
    (hagain : ∀ r ∈ again, ArrivesAgain start events r) {t : T}
    (htimes : (t :: again.map Redelivery.now).Pairwise (· ≤ ·)) :
    ∃ t', deliver { deliver start events with lastServerAt := t }
      (again.map Redelivery.event) = { deliver start events with lastServerAt := t' } := by
  induction again generalizing t with
  | nil => exact ⟨t, rfl⟩
  | cons r rest ih =>
      rw [List.map_cons, List.pairwise_cons] at htimes
      obtain ⟨hfirst, hrest⟩ := htimes
      have hone := (hagain r List.mem_cons_self).receive hok (hfirst r.now List.mem_cons_self)
      obtain ⟨t', ht'⟩ := ih (fun r' hr' => hagain r' (List.mem_cons_of_mem _ hr')) hrest
      refine ⟨t', ?_⟩
      rw [List.map_cons, ← ht']
      change StabilityPlatform.deliver (guardStep _ r.event) _ = _
      rw [hone]

/-- A redelivery leaves a guard that is behind the one it was. -/
theorem behind_again [IsStrictOrderedRing T] {start : DisarmGuard T} (hok : GuardOk start)
    (events : List (GuardEvent T)) {again : List (Redelivery T)}
    (hagain : ∀ r ∈ again, ArrivesAgain start events r) {later : DisarmGuard T}
    (h : Behind (deliver start events) later) :
    Behind (deliver start events) (deliver later (again.map Redelivery.event)) := by
  induction again generalizing later with
  | nil => exact h
  | cons r rest ih =>
      refine ih (fun r' hr' => hagain r' (List.mem_cons_of_mem _ hr')) ?_
      rcases h with ⟨hle, heq⟩ | hreg
      · generalize later.lastServerAt = t at hle heq
        subst heq
        by_cases hlt : r.now < t
        · refine .inr ?_
          rw [Redelivery.event, guardStep, receiveDisarmEvidence, if_pos hlt]
        · rw [(hagain r List.mem_cons_self).receive hok (not_lt.mp hlt)]
          exact .inl ⟨hle.trans (not_lt.mp hlt), rfl⟩
      · exact .inr (clockRegressed_step hreg r.event)

/-- **Redeliveries are inert.** Take any guard a history of evidence leads to, and messages
accepted in that history that arrive again, any number of times: on the channel of the lease
extension, or on the coordinator's once its mark is there or the message is older than the
guard. At times that do not go back they change nothing but the server time. And at any times,
whatever happens afterwards, the guard then protects a job only where the guard without them
does, and until the same moment. -/
theorem evidence_replay_inert [IsStrictOrderedRing T] (steps : List PyDict) (now : T)
    (abortAt : Option T) (token instanceId : String) (events : List (GuardEvent T))
    (again : List (Redelivery T))
    (hagain : ∀ r ∈ again,
      ArrivesAgain (freezeDisarmGuard steps now abortAt token instanceId) events r) :
    let guard := deliver (freezeDisarmGuard steps now abortAt token instanceId) events
    let replayed := deliver guard (again.map Redelivery.event)
    ((guard.lastServerAt :: again.map Redelivery.now).Pairwise (· ≤ ·) →
      replayed = { guard with lastServerAt := replayed.lastServerAt }) ∧
    ∀ (further : List (GuardEvent T)) (at' : T) (owner : Bool) (beat : Option T)
      (timeout d : T),
      disarmGuardDeadline (some (deliver replayed further)) at' owner beat timeout = some d →
        disarmGuardDeadline (some (deliver guard further)) at' owner beat timeout = some d := by
  intro guard replayed
  have hok := guardOk_freeze steps now abortAt token instanceId
  constructor
  · intro htimes
    obtain ⟨t', ht'⟩ := deliver_again hok events hagain htimes
    have hsame : replayed = { guard with lastServerAt := t' } := ht'
    rw [hsame]
  · intro further at' owner beat timeout d hd
    exact ((behind_again hok events hagain (.refl guard)).deliver further).deadline hd

/-- The theorem at work on integer seconds: an item that waits in the queue is accepted on the
coordinator's channel and arrives again on both. -/
theorem evidence_replay_inert_queue :
    let steps : List PyDict := [[("step_id", .str "s1"),
      ("action", .str "script:gpu_disarm"), ("version", .str "1.0.0"),
      ("timeout_seconds", .int 100)]]
    let evidence : PyDict := [("seq", .int 0), ("phase", .str "queue"), ("step_id", .str "s1"),
      ("script_name", .str "gpu_disarm"), ("script_version", .str "1.0.0")]
    let guard := deliver (freezeDisarmGuard steps (1000 : ℤ) none "1:1" "a")
      [.receive evidence 1010 true]
    let replayed := deliver guard [.receive evidence 1020 false, .receive evidence 1030 true]
    replayed = { guard with lastServerAt := 1030 } ∧
      disarmGuardDeadline (some replayed) 1040 true none 60 = some 1070 ∧
      disarmGuardDeadline (some guard) 1040 true none 60 = some 1070 := by
  intro steps evidence guard replayed
  have h := evidence_replay_inert steps (1000 : ℤ) none "1:1" "a"
    [.receive evidence 1010 true] [⟨evidence, 1020, false⟩, ⟨evidence, 1030, true⟩] (by
      have hacc : AcceptedIn (freezeDisarmGuard steps (1000 : ℤ) none "1:1" "a")
          [.receive evidence 1010 true] evidence :=
        ⟨[], 1010, true, [], rfl, _, rfl, by decide⟩
      intro r hr
      rcases List.mem_cons.mp hr with rfl | hr
      · exact ⟨hacc, fun hv => absurd hv (by decide)⟩
      · obtain rfl := List.mem_singleton.mp hr
        exact ⟨hacc, fun _ => ⟨0, rfl, .inl (by decide)⟩⟩)
  have hd : disarmGuardDeadline (some replayed) 1040 true none 60 = some 1070 := by decide
  exact ⟨h.1 (by decide), hd, h.2 [] 1040 true none 60 1070 hd⟩

end StabilityPlatform
