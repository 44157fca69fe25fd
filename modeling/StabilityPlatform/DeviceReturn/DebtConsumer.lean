import StabilityPlatform.Lib.Run

/-!
# The work on return debts

The agent learns from its heartbeats which devices it owes work, and of which families. The
families of a debt are executed one after the other by a single thread, when no job is active on
the device. A family is executed once, again some time after it failed, and again after the
device was reconnected: a debt knows the connection in which it was worked on last.

## Main results

* `Consumer`, `WorkEvent`, `workStep`: the consumer, with its lock regions as steps.
* `served_iff_fair`: **a reconnection reaches every family that is owed** exactly when no family is
  left without a trigger, by a round that begins with only some of them or that is cut short.
* `ReconnectExample.forgotten`: a family that is not executed after a reconnection, and not due.
-/

namespace StabilityPlatform.DebtWork

open Lib

/-! ### Debts -/

/-- A debt of a device, with its history. -/
structure Debt where
  deviceId : ℕ
  serial : String
  token : String
  families : List String
  attempts : String → Option (ℚ × String)
  /-- The connection in which it was worked on last; none is `-1`. -/
  connectionEpoch : Option ℕ
  /-- The families that were executed, and the connections in which they were begun. -/
  executed : List (String × ℕ)
  stillOwed : List String

/-- A new debt. -/
def Debt.new (deviceId : ℕ) (serial token : String) (families : List String) : Debt :=
  ⟨deviceId, serial, token, families, fun _ => none, none, [], families⟩

/-- `_RETRY_RESULTS`. -/
def retryResults : List String := ["failed", "incomplete", "not_executed", "unreported"]

/-- `_RETRY_SECONDS`. -/
def retrySeconds : ℚ := 1800

/-- Whether a family is due without a reconnection: it was not attempted, or it failed some time
ago. -/
def Debt.attemptDue (d : Debt) (now : ℚ) (family : String) : Bool :=
  match d.attempts family with
  | none => true
  | some (time, value) => retryResults.contains value && retrySeconds ≤ now - time

/-- Whether a family is due: the device was reconnected, or the family is due anyway. -/
def Debt.due (d : Debt) (epoch : ℕ) (now : ℚ) (family : String) : Bool :=
  d.connectionEpoch != some epoch || d.attemptDue now family

/-- An attempt is recorded. -/
def Debt.attempt (d : Debt) (family : String) (now : ℚ) (value : String) : Debt :=
  { d with attempts := Function.update d.attempts family (some (now, value)) }

/-- An execution begins. -/
def Debt.begin (d : Debt) (epoch : ℕ) (now : ℚ) (family : String) : Debt :=
  { d.attempt family now "unreported" with
    connectionEpoch := some epoch
    executed := (family, epoch) :: d.executed }

/-- Other families are owed. -/
def Debt.owes (d : Debt) (families : List String) : Debt :=
  { d with families := families, stillOwed := d.stillOwed.filter (families.contains ·) }

/-- The device is connected again. -/
def Debt.reconnected (d : Debt) : Debt := { d with stillOwed := d.families }

/-! ### The consumer -/

/-- What the thread is at. -/
inductive DrainPhase where
  | idle
  | looking
  | taken (ref : ℕ) (families : List String)
  | working (ref : ℕ) (families : List String)
  | executing (ref : ℕ) (family : String) (rest : List String)

/-- The consumer. Debts are objects that are shared; a reference is the number of one. -/
structure Consumer where
  objects : ℕ → Debt
  nextRef : ℕ
  /-- `_debts`, in its order. -/
  debts : List ℕ
  online : List String
  epochs : String → ℕ
  /-- `_rejected`: devices, and digests of tokens. -/
  rejected : List (ℕ × String)
  pending : List (ℕ × List String)
  inflight : List ℕ
  phase : DrainPhase
  initCheckAvailable : Bool
  now : ℚ

/-- The connection of a debt. -/
def Consumer.epochOf (c : Consumer) (ref : ℕ) : ℕ := c.epochs (c.objects ref).serial

/-- The families of a debt that are due. -/
def Consumer.dueFamilies (c : Consumer) (ref : ℕ) : List String :=
  (c.objects ref).families.filter fun f => (c.objects ref).due (c.epochOf ref) c.now f

/-- One object is changed. -/
def Consumer.setDebt (c : Consumer) (ref : ℕ) (d : Debt) : Consumer :=
  { c with objects := Function.update c.objects ref d }

/-! ### Heartbeats -/

/-- A row of a response; what has a wrong type is none. -/
structure DebtRow where
  deviceId : Option ℕ
  serial : Option String
  fencingToken : Option String
  families : Option (List String)

/-- A response; `rows` is none when it has no list, and a row is none when it is no mapping. -/
structure DebtResponse where
  initCheckAvailable : Bool
  rows : Option (List (Option DebtRow))

/-- The families that are known, and the digest of a token. -/
structure WorkEnv where
  onboarded : List String
  /-- `_token_digest`. -/
  digest : String → String

/-- A device comes online. -/
def cameOnline (c : Consumer) (online : List String) (serial : String) : Bool :=
  online.contains serial && !c.online.contains serial

/-- The first part of `receive`: connections are counted. -/
def connect (c : Consumer) (online : List String) : Consumer :=
  { c with
    objects := fun ref =>
      if cameOnline c online (c.objects ref).serial then (c.objects ref).reconnected
      else c.objects ref
    epochs := fun serial => if cameOnline c online serial then c.epochs serial + 1
      else c.epochs serial
    online := online }

/-- While the rows of a response are read: the objects, and the debts so far. -/
structure Reading where
  objects : ℕ → Debt
  nextRef : ℕ
  current : List ℕ

/-- `current[did] = debt`. -/
def Reading.put (r : Reading) (deviceId ref : ℕ) : Reading :=
  { r with
    current :=
      if r.current.any fun i => (r.objects i).deviceId == deviceId then
        r.current.map fun i => if (r.objects i).deviceId = deviceId then ref else i
      else r.current ++ [ref] }

/-- A row that is well formed. -/
def readDebt (c : Consumer) (r : Reading) (deviceId : ℕ) (serial token : String)
    (families : List String) : Reading :=
  match c.debts.find? fun ref => (r.objects ref).deviceId == deviceId &&
      (r.objects ref).token == token && (r.objects ref).serial == serial with
  | some ref =>
    { r with objects := Function.update r.objects ref ((r.objects ref).owes families) }.put
      deviceId ref
  | none =>
    { r with
      objects := Function.update r.objects r.nextRef (.new deviceId serial token families)
      nextRef := r.nextRef + 1 }.put deviceId r.nextRef

/-- A row of a response. -/
def readRow (env : WorkEnv) (c : Consumer) (r : Reading) : Option DebtRow → Reading
  | some ⟨some deviceId, some serial, some token, families⟩ =>
    if token = "" ∨ (deviceId, env.digest token) ∈ c.rejected then r
    else readDebt c r deviceId serial token
      ((families.getD []).filter (env.onboarded.contains ·))
  | some ⟨none, _, _, _⟩ | some ⟨some _, none, _, _⟩ | some ⟨some _, some _, none, _⟩ | none => r

/-- `receive`, with the serial numbers that are online. -/
def receive (env : WorkEnv) (c : Consumer) (response : Option DebtResponse)
    (online : List String) : Consumer :=
  let c := connect c online
  match response with
  | none => c
  | some response =>
    let c := { c with initCheckAvailable := response.initCheckAvailable }
    match response.rows with
    | none => { c with debts := [] }
    | some rows =>
      let r := rows.foldl (readRow env c) ⟨c.objects, c.nextRef, []⟩
      { c with objects := r.objects, nextRef := r.nextRef, debts := r.current }

/-! ### Work -/

/-- A debt in `_schedule`. -/
def scheduleDebt (reconnected : Option (List String)) (c : Consumer) (ref : ℕ) : Consumer :=
  let d := c.objects ref
  if reconnected.any fun serials => !serials.contains d.serial then c
  else if !c.online.contains d.serial || c.inflight.contains d.deviceId then c
  else if (c.dueFamilies ref).isEmpty then c
  else
    { c with
      inflight := c.inflight ++ [d.deviceId]
      pending := c.pending ++ [(ref, c.dueFamilies ref)] }

/-- `_schedule`: the thread is started if it has work and does not run. -/
def schedule (c : Consumer) (reconnected : Option (List String)) : Consumer :=
  let c := c.debts.foldl (scheduleDebt reconnected) c
  match c.phase with
  | .idle => if c.pending.isEmpty then c else { c with phase := .looking }
  | .looking | .taken _ _ | .working _ _ | .executing _ _ _ => c

/-- The work on a debt ends. -/
def finish (c : Consumer) (ref : ℕ) : Consumer :=
  { c with
    inflight := c.inflight.filter (· ≠ (c.objects ref).deviceId)
    phase := .looking }

/-- What happens. -/
inductive WorkEvent where
  | tick (now : ℚ)
  | receive (response : Option DebtResponse) (online : List String)
  | schedule (reconnected : Option (List String))
  | pop
  | refuse
  | permit
  | busy
  | next
  | done (value : String)
  | reject
  | raise

/-- The thread comes to the next family: it begins unless the debt was replaced. -/
def beginFamily (c : Consumer) (ref : ℕ) (family : String) (rest : List String) : Consumer :=
  if c.debts.contains ref then
    { c.setDebt ref ((c.objects ref).begin (c.epochOf ref) c.now family) with
      phase := .executing ref family rest }
  else finish c ref

/-- A family was executed. -/
def endFamily (c : Consumer) (ref : ℕ) (family : String) (rest : List String) (value : String) :
    Consumer :=
  let c := c.setDebt ref ((c.objects ref).attempt family c.now value)
  if rest.isEmpty then finish c ref else { c with phase := .working ref rest }

/-- The token of a debt is rejected. -/
def rejectDebt (env : WorkEnv) (c : Consumer) (ref : ℕ) : Consumer :=
  let d := c.objects ref
  finish { c with
    rejected := (d.deviceId, env.digest d.token) :: c.rejected
    debts := c.debts.filter (· ≠ ref) } ref

/-- One step. -/
def workStep (env : WorkEnv) (c : Consumer) : WorkEvent → Option Consumer
  | .tick now => if c.now ≤ now then some { c with now := now } else none
  | .receive response online => some (receive env c response online)
  | .schedule reconnected => some (schedule c reconnected)
  | .pop =>
    match c.phase, c.pending with
    | .looking, [] => some { c with phase := .idle }
    | .looking, (ref, families) :: rest =>
      some { c with pending := rest, phase := .taken ref families }
    | _, _ => none
  | .refuse =>
    match c.phase with
    | .taken ref _ => some (finish c ref)
    | _ => none
  | .permit =>
    match c.phase with
    | .taken ref families => some { c with phase := .working ref families }
    | _ => none
  | .busy =>
    match c.phase with
    | .working ref _ => some (finish c ref)
    | _ => none
  | .next =>
    match c.phase with
    | .working ref (family :: rest) => some (beginFamily c ref family rest)
    | _ => none
  | .done value =>
    match c.phase with
    | .executing ref family rest => some (endFamily c ref family rest value)
    | _ => none
  | .reject =>
    match c.phase with
    | .executing ref _ _ => some (rejectDebt env c ref)
    | _ => none
  | .raise =>
    match c.phase with
    | .executing ref _ _ => some (finish c ref)
    | _ => none

/-- A step. -/
def WorkSteps (env : WorkEnv) (c : Consumer) (e : WorkEvent) (c' : Consumer) : Prop :=
  workStep env c e = some c'

/-- A new consumer. -/
def Consumer.start : Consumer :=
  ⟨fun _ => .new 0 "" "" [], 0, [], [], fun _ => 0, [], [], [], .idle, false, 0⟩

/-! ### Families that are served -/

/-- The families that the thread has still to come to. -/
def Consumer.remaining (c : Consumer) (ref : ℕ) : List String :=
  match c.phase with
  | .working r families => if r = ref then families else []
  | .executing r _ rest => if r = ref then rest else []
  | .idle | .looking | .taken _ _ => []

/-- A family was begun since the last connection was made, or it is due, or the thread will come to
it. -/
def Served (c : Consumer) (ref : ℕ) (family : String) : Prop :=
  (family, c.epochOf ref) ∈ (c.objects ref).executed ∨ family ∈ c.dueFamilies ref ∨
    family ∈ c.remaining ref

/-- Every family that is owed since the last connection is served. -/
def AllServed (c : Consumer) : Prop :=
  ∀ ref ∈ c.debts, ∀ f ∈ (c.objects ref).stillOwed, Served c ref f

/-- A family that the thread does not come to needs no trigger: it was begun since the last
connection, or it is due. -/
def CanWait (c : Consumer) (ref : ℕ) (family : String) : Prop :=
  (family, c.epochOf ref) ∈ (c.objects ref).executed ∨ family ∈ c.dueFamilies ref

/-- No family is left without a trigger. When a family is begun, which uses the trigger of its
debt, the other families are still to come, or were begun since the last connection, or are due
anyway; when a round is cut short, the families that were to come can wait. -/
def WorkFair (c : Consumer) : WorkEvent → Prop
  | .next => ∀ ref family rest, c.phase = .working ref (family :: rest) → ref ∈ c.debts →
    ∀ f ∈ (c.objects ref).stillOwed, f = family ∨ f ∈ rest ∨
      (f, c.epochOf ref) ∈ (c.objects ref).executed ∨ (c.objects ref).attemptDue c.now f = true
  | .busy => ∀ ref families, c.phase = .working ref families → ref ∈ c.debts →
    ∀ f ∈ (c.objects ref).stillOwed, f ∈ families → CanWait c ref f
  | .raise => ∀ ref family rest, c.phase = .executing ref family rest → ref ∈ c.debts →
    ∀ f ∈ (c.objects ref).stillOwed, f ∈ rest → CanWait c ref f
  | .tick _ | .receive _ _ | .schedule _ | .pop | .refuse | .permit | .done _ | .reject => True

/-- The debt the thread works on. -/
def DrainPhase.ref : DrainPhase → Option ℕ
  | .idle | .looking => none
  | .taken r _ => some r
  | .working r _ => some r
  | .executing r _ _ => some r

/-- What holds of a consumer. -/
structure WorkInv (c : Consumer) : Prop where
  debts : ∀ ref ∈ c.debts, ref < c.nextRef
  pending : ∀ p ∈ c.pending, p.1 < c.nextRef
  phase : ∀ ref, c.phase.ref = some ref → ref < c.nextRef
  epoch : ∀ ref < c.nextRef, ∀ e, (c.objects ref).connectionEpoch = some e → e ≤ c.epochOf ref
  owed : ∀ ref < c.nextRef, ∀ f ∈ (c.objects ref).stillOwed, f ∈ (c.objects ref).families
  executing : ∀ ref f rest, c.phase = .executing ref f rest →
    ∃ e, (c.objects ref).connectionEpoch = some e ∧ (f, e) ∈ (c.objects ref).executed

/-- The families that are due. -/
theorem mem_dueFamilies {c : Consumer} {ref : ℕ} {f : String} :
    f ∈ c.dueFamilies ref ↔ f ∈ (c.objects ref).families ∧
      ((c.objects ref).connectionEpoch ≠ some (c.epochOf ref) ∨
        (c.objects ref).attemptDue c.now f = true) := by
  rw [Consumer.dueFamilies, List.mem_filter, Debt.due, Bool.or_eq_true, bne_iff_ne]

/-- What is due stays due as time passes. -/
theorem attemptDue_mono {d : Debt} {now later : ℚ} (hle : now ≤ later) {f : String}
    (h : d.attemptDue now f = true) : d.attemptDue later f = true := by
  rw [Debt.attemptDue] at h ⊢
  cases hattempt : d.attempts f with
  | none => rfl
  | some attempt =>
      rw [hattempt] at h
      obtain ⟨hresult, htime⟩ := Bool.and_eq_true_iff.mp h
      have hlater : retrySeconds ≤ later - attempt.1 :=
        (of_decide_eq_true htime).trans (sub_le_sub_right hle _)
      exact Bool.and_eq_true_iff.mpr ⟨hresult, decide_eq_true hlater⟩

/-! ### Steps that leave the debts as they are -/

/-- The debts are as they were, no clock goes back, and the thread comes to what it would come
to. -/
structure Untouched (c c' : Consumer) : Prop where
  objects : c'.objects = c.objects
  nextRef : c'.nextRef = c.nextRef
  debts : c'.debts = c.debts
  epochs : c'.epochs = c.epochs
  now : c.now ≤ c'.now
  remaining : ∀ ref, ∀ f ∈ c.remaining ref, f ∈ c'.remaining ref
  executing : ∀ ref f rest, c'.phase = .executing ref f rest → c.phase = .executing ref f rest
  phase : ∀ ref, c'.phase.ref = some ref →
    c.phase.ref = some ref ∨ ref ∈ c.debts ∨ ref ∈ c.pending.map Prod.fst
  pending : ∀ p ∈ c'.pending, p ∈ c.pending ∨ p.1 ∈ c.debts

section Untouched

variable {c c' : Consumer}

/-- A family that is due stays due. -/
theorem Untouched.due (h : Untouched c c') {ref : ℕ} {f : String} (hf : f ∈ c.dueFamilies ref) :
    f ∈ c'.dueFamilies ref := by
  rw [mem_dueFamilies] at hf ⊢
  rw [Consumer.epochOf, h.objects, h.epochs]
  exact ⟨hf.1, hf.2.imp_right (attemptDue_mono h.now)⟩

/-- Served families stay served. -/
theorem AllServed.of_untouched (hserved : AllServed c) (h : Untouched c c') : AllServed c' := by
  intro ref hr f hf
  rw [h.debts] at hr
  rw [h.objects] at hf
  rcases hserved ref hr f hf with hex | hdue | hrem
  · rw [Served, Consumer.epochOf, h.objects, h.epochs]
    exact .inl hex
  · exact .inr (.inl (h.due hdue))
  · exact .inr (.inr (h.remaining ref f hrem))

/-- What holds of a consumer holds after such a step. -/
theorem WorkInv.of_untouched (hinv : WorkInv c) (h : Untouched c c') : WorkInv c' where
  debts := by
    rw [h.debts, h.nextRef]
    exact hinv.debts
  pending := by
    intro p hp
    rw [h.nextRef]
    exact (h.pending p hp).elim (hinv.pending p) (hinv.debts p.1)
  phase := by
    intro ref hr
    rw [h.nextRef]
    rcases h.phase ref hr with hphase | hdebt | hpending
    · exact hinv.phase ref hphase
    · exact hinv.debts ref hdebt
    · obtain ⟨p, hp, rfl⟩ := List.mem_map.mp hpending
      exact hinv.pending p hp
  epoch := by
    intro ref hr e he
    rw [h.nextRef] at hr
    rw [h.objects] at he
    rw [Consumer.epochOf, h.objects, h.epochs]
    exact hinv.epoch ref hr e he
  owed := by
    intro ref hr
    rw [h.nextRef] at hr
    rw [h.objects]
    exact hinv.owed ref hr
  executing := by
    intro ref f rest hphase
    rw [h.objects]
    exact hinv.executing ref f rest (h.executing ref f rest hphase)

end Untouched

/-! ### Heartbeats -/

section Connect

variable {c : Consumer} {online : List String}

/-- A debt whose device did not come online. -/
theorem objects_connect_of_not {ref : ℕ} (h : cameOnline c online (c.objects ref).serial = false) :
    (connect c online).objects ref = c.objects ref ∧
      (connect c online).epochOf ref = c.epochOf ref := by
  have hobject : (connect c online).objects ref = c.objects ref := by
    show (if cameOnline c online (c.objects ref).serial = true then _ else _) = _
    rw [h, if_neg Bool.false_ne_true]
  refine ⟨hobject, ?_⟩
  rw [Consumer.epochOf, hobject]
  show (if cameOnline c online (c.objects ref).serial = true then _ else _) = _
  rw [h, if_neg Bool.false_ne_true]
  rfl

/-- A debt whose device came online. -/
theorem objects_connect_of_came {ref : ℕ} (h : cameOnline c online (c.objects ref).serial = true) :
    (connect c online).objects ref = (c.objects ref).reconnected ∧
      (connect c online).epochOf ref = c.epochOf ref + 1 := by
  have hobject : (connect c online).objects ref = (c.objects ref).reconnected := by
    show (if cameOnline c online (c.objects ref).serial = true then _ else _) = _
    rw [h, if_pos rfl]
  refine ⟨hobject, ?_⟩
  rw [Consumer.epochOf, hobject]
  show (if cameOnline c online (c.objects ref).serial = true then _ else _) = _
  rw [h, if_pos rfl]
  rfl

/-- What holds of a consumer holds after connections were counted. -/
theorem WorkInv.connect (hinv : WorkInv c) : WorkInv (connect c online) where
  debts := hinv.debts
  pending := hinv.pending
  phase := hinv.phase
  epoch := by
    intro ref hr e he
    cases hcame : cameOnline c online (c.objects ref).serial with
    | false =>
        obtain ⟨hobject, hepoch⟩ := objects_connect_of_not hcame
        rw [hobject] at he
        rw [hepoch]
        exact hinv.epoch ref hr e he
    | true =>
        obtain ⟨hobject, hepoch⟩ := objects_connect_of_came hcame
        rw [hobject] at he
        rw [hepoch]
        exact Nat.le_succ_of_le (hinv.epoch ref hr e he)
  owed := by
    intro ref hr f hf
    cases hcame : cameOnline c online (c.objects ref).serial with
    | false =>
        rw [(objects_connect_of_not hcame).1] at hf ⊢
        exact hinv.owed ref hr f hf
    | true =>
        rw [(objects_connect_of_came hcame).1] at hf ⊢
        exact hf
  executing := by
    intro ref f rest hphase
    have hexecuting := hinv.executing ref f rest hphase
    cases hcame : cameOnline c online (c.objects ref).serial with
    | false =>
        rw [(objects_connect_of_not hcame).1]
        exact hexecuting
    | true =>
        rw [(objects_connect_of_came hcame).1]
        exact hexecuting

/-- **A connection makes every family due** that is owed. -/
theorem AllServed.connect (hserved : AllServed c) (hinv : WorkInv c) :
    AllServed (connect c online) := by
  intro ref hr f hf
  cases hcame : cameOnline c online (c.objects ref).serial with
  | false =>
      obtain ⟨hobject, hepoch⟩ := objects_connect_of_not hcame
      rw [hobject] at hf
      rcases hserved ref hr f hf with hex | hdue | hrem
      · refine .inl ?_
        rw [hobject, hepoch]
        exact hex
      · refine .inr (.inl ?_)
        rw [mem_dueFamilies] at hdue ⊢
        rw [hobject, hepoch]
        exact hdue
      · exact .inr (.inr hrem)
  | true =>
      obtain ⟨hobject, hepoch⟩ := objects_connect_of_came hcame
      refine .inr (.inl (mem_dueFamilies.mpr ?_))
      rw [hobject] at hf ⊢
      refine ⟨hf, .inl fun heq => ?_⟩
      have hle := hinv.epoch ref (hinv.debts ref hr) _ heq
      rw [hepoch] at hle
      omega

end Connect

/-- A debt with the work that was done on it: only what is owed may be other. -/
structure SameWork (d d' : Debt) : Prop where
  serial : d'.serial = d.serial
  attempts : d'.attempts = d.attempts
  connectionEpoch : d'.connectionEpoch = d.connectionEpoch
  executed : d'.executed = d.executed
  stillOwed : ∀ f ∈ d'.stillOwed, f ∈ d.stillOwed

/-- Debts are read anew: objects keep the work that was done on them, and a debt that is new was
not worked on. -/
structure Refreshed (c c' : Consumer) : Prop where
  nextRef : c.nextRef ≤ c'.nextRef
  old : ∀ ref < c.nextRef, SameWork (c.objects ref) (c'.objects ref)
  new : ∀ ref, c.nextRef ≤ ref → ref < c'.nextRef → (c'.objects ref).connectionEpoch = none
  owed : ∀ ref < c'.nextRef, ∀ f ∈ (c'.objects ref).stillOwed, f ∈ (c'.objects ref).families
  debts : ∀ ref ∈ c'.debts, (ref ∈ c.debts ∨ c.nextRef ≤ ref) ∧ ref < c'.nextRef
  epochs : c'.epochs = c.epochs
  now : c'.now = c.now
  phase : c'.phase = c.phase
  pending : c'.pending = c.pending

section Refreshed

variable {c c' : Consumer}

/-- The connection of a debt that is kept. -/
theorem Refreshed.epochOf (h : Refreshed c c') {ref : ℕ} (hr : ref < c.nextRef) :
    c'.epochOf ref = c.epochOf ref := by
  rw [Consumer.epochOf, Consumer.epochOf, h.epochs, (h.old ref hr).serial]

/-- What holds of a consumer holds after its debts were read. -/
theorem WorkInv.of_refreshed (hinv : WorkInv c) (h : Refreshed c c') : WorkInv c' where
  debts := fun ref hr => (h.debts ref hr).2
  pending := by
    rw [h.pending]
    exact fun p hp => lt_of_lt_of_le (hinv.pending p hp) h.nextRef
  phase := by
    rw [h.phase]
    exact fun ref hr => lt_of_lt_of_le (hinv.phase ref hr) h.nextRef
  epoch := by
    intro ref hr e he
    by_cases hold : ref < c.nextRef
    · rw [(h.old ref hold).connectionEpoch] at he
      rw [h.epochOf hold]
      exact hinv.epoch ref hold e he
    · rw [h.new ref (not_lt.mp hold) hr] at he
      cases he
  owed := h.owed
  executing := by
    intro ref f rest hphase
    rw [h.phase] at hphase
    have hsame := h.old ref (hinv.phase ref (by rw [hphase]; rfl))
    rw [hsame.connectionEpoch, hsame.executed]
    exact hinv.executing ref f rest hphase

/-- Reading the debts leaves every family served. -/
theorem AllServed.of_refreshed (hserved : AllServed c) (h : Refreshed c c') : AllServed c' := by
  intro ref hr f hf
  obtain ⟨hfrom, hlt⟩ := h.debts ref hr
  by_cases hold : ref < c.nextRef
  · have hdebt : ref ∈ c.debts := hfrom.resolve_right (not_le_of_gt hold)
    have hsame := h.old ref hold
    rcases hserved ref hdebt f (hsame.stillOwed f hf) with hex | hdue | hrem
    · refine .inl ?_
      rw [h.epochOf hold, hsame.executed]
      exact hex
    · refine .inr (.inl (mem_dueFamilies.mpr ⟨h.owed ref hlt f hf, ?_⟩))
      rw [h.epochOf hold, hsame.connectionEpoch, Debt.attemptDue, hsame.attempts, h.now]
      exact (mem_dueFamilies.mp hdue).2
    · refine .inr (.inr ?_)
      rw [Consumer.remaining, h.phase]
      exact hrem
  · refine .inr (.inl (mem_dueFamilies.mpr ⟨h.owed ref hlt f hf, .inl ?_⟩))
    rw [h.new ref (not_lt.mp hold) hlt]
    exact fun heq => by cases heq

end Refreshed

/-- While the rows of a response are read. -/
structure ReadInv (c : Consumer) (r : Reading) : Prop where
  nextRef : c.nextRef ≤ r.nextRef
  old : ∀ ref < c.nextRef, SameWork (c.objects ref) (r.objects ref)
  new : ∀ ref, c.nextRef ≤ ref → ref < r.nextRef → (r.objects ref).connectionEpoch = none
  owed : ∀ ref < r.nextRef, ∀ f ∈ (r.objects ref).stillOwed, f ∈ (r.objects ref).families
  current : ∀ ref ∈ r.current, (ref ∈ c.debts ∨ c.nextRef ≤ ref) ∧ ref < r.nextRef

section Read

variable {c : Consumer} {r : Reading}

/-- A debt is put in its place. -/
theorem ReadInv.put (h : ReadInv c r) (deviceId : ℕ) {ref : ℕ}
    (hfrom : ref ∈ c.debts ∨ c.nextRef ≤ ref) (hlt : ref < r.nextRef) :
    ReadInv c (r.put deviceId ref) where
  nextRef := h.nextRef
  old := h.old
  new := h.new
  owed := h.owed
  current := by
    intro i hi
    rw [Reading.put] at hi
    dsimp only at hi
    split_ifs at hi
    · obtain ⟨j, hj, rfl⟩ := List.mem_map.mp hi
      split_ifs
      · exact ⟨hfrom, hlt⟩
      · exact h.current j hj
    · rcases List.mem_append.mp hi with hi | hi
      · exact h.current i hi
      · rw [List.mem_singleton.mp hi]
        exact ⟨hfrom, hlt⟩

/-- A debt that is known owes other families. -/
theorem ReadInv.owes (h : ReadInv c r) {ref : ℕ} (hr : ref < c.nextRef) (families : List String) :
    ReadInv c { r with
      objects := Function.update r.objects ref ((r.objects ref).owes families) } where
  nextRef := h.nextRef
  old := by
    intro i hi
    dsimp only
    have hsame := h.old i hi
    by_cases heq : i = ref
    · subst heq
      rw [Function.update_self]
      exact ⟨hsame.serial, hsame.attempts, hsame.connectionEpoch, hsame.executed,
        fun f hf => hsame.stillOwed f (List.mem_of_mem_filter hf)⟩
    · rw [Function.update_of_ne heq]
      exact hsame
  new := by
    intro i hi hlt
    dsimp only at hlt ⊢
    rw [Function.update_of_ne (by omega)]
    exact h.new i hi hlt
  owed := by
    intro i hi f hf
    dsimp only at hi hf ⊢
    by_cases heq : i = ref
    · subst heq
      rw [Function.update_self] at hf ⊢
      exact List.contains_iff_mem.mp (List.mem_filter.mp hf).2
    · rw [Function.update_of_ne heq] at hf ⊢
      exact h.owed i hi f hf
  current := h.current

/-- A new debt. -/
theorem ReadInv.insert (h : ReadInv c r) (deviceId : ℕ) (serial token : String)
    (families : List String) :
    ReadInv c { r with
      objects := Function.update r.objects r.nextRef (.new deviceId serial token families)
      nextRef := r.nextRef + 1 } where
  nextRef := Nat.le_succ_of_le h.nextRef
  old := by
    intro i hi
    have hne : i ≠ r.nextRef := ne_of_lt (lt_of_lt_of_le hi h.nextRef)
    dsimp only
    rw [Function.update_of_ne hne]
    exact h.old i hi
  new := by
    intro i hi hlt
    dsimp only at hlt ⊢
    by_cases heq : i = r.nextRef
    · subst heq
      rw [Function.update_self]
      rfl
    · rw [Function.update_of_ne heq]
      exact h.new i hi (lt_of_le_of_ne (Nat.le_of_lt_succ hlt) heq)
  owed := by
    intro i hi f hf
    dsimp only at hi hf ⊢
    by_cases heq : i = r.nextRef
    · subst heq
      rw [Function.update_self] at hf ⊢
      exact hf
    · rw [Function.update_of_ne heq] at hf ⊢
      exact h.owed i (lt_of_le_of_ne (Nat.le_of_lt_succ hi) heq) f hf
  current := fun i hi => ⟨(h.current i hi).1, Nat.lt_succ_of_lt (h.current i hi).2⟩

/-- A row of a response. -/
theorem ReadInv.row (env : WorkEnv) (hinv : WorkInv c) (h : ReadInv c r)
    (row : Option DebtRow) : ReadInv c (readRow env c r row) := by
  rw [readRow.eq_def]
  split
  · split_ifs
    · exact h
    · rw [readDebt.eq_def]
      split
      · rename_i ref hfind
        have hdebt := List.mem_of_find?_eq_some hfind
        have hlt := hinv.debts ref hdebt
        exact (h.owes hlt _).put _ (.inl hdebt) (lt_of_lt_of_le hlt h.nextRef)
      · exact (h.insert _ _ _ _).put _ (.inr h.nextRef) (Nat.lt_succ_self _)
  · exact h
  · exact h
  · exact h
  · exact h

/-- The rows of a response. -/
theorem ReadInv.rows (env : WorkEnv) (hinv : WorkInv c) (h : ReadInv c r)
    (rows : List (Option DebtRow)) : ReadInv c (rows.foldl (readRow env c) r) := by
  induction rows generalizing r with
  | nil => exact h
  | cons row rest ih => exact ih (h.row env hinv row)

end Read

/-- **A heartbeat** keeps what holds, and leaves every family served. -/
theorem receive_step (env : WorkEnv) {c : Consumer} (hinv : WorkInv c) (hserved : AllServed c)
    (response : Option DebtResponse) (online : List String) :
    WorkInv (receive env c response online) ∧ AllServed (receive env c response online) := by
  have hinv' := @WorkInv.connect c online hinv
  have hserved' := @AllServed.connect c online hserved hinv
  have hsame : ∀ ref < (connect c online).nextRef,
      SameWork ((connect c online).objects ref) ((connect c online).objects ref) :=
    fun _ _ => ⟨rfl, rfl, rfl, rfl, fun _ hf => hf⟩
  rw [receive.eq_def]
  cases response with
  | none => exact ⟨hinv', hserved'⟩
  | some response =>
      dsimp only
      cases response.rows with
      | none =>
          have href : Refreshed (connect c online)
              { connect c online with
                initCheckAvailable := response.initCheckAvailable, debts := [] } :=
            ⟨le_refl _, hsame, fun ref hle hlt => absurd hlt (not_lt_of_ge hle), hinv'.owed,
              fun ref hr => absurd hr List.not_mem_nil, rfl, rfl, rfl, rfl⟩
          exact ⟨hinv'.of_refreshed href, hserved'.of_refreshed href⟩
      | some rows =>
          have hread : ReadInv (connect c online)
              ⟨(connect c online).objects, (connect c online).nextRef, []⟩ :=
            ⟨le_refl _, hsame, fun ref hle hlt => absurd hlt (not_lt_of_ge hle), hinv'.owed,
              fun ref hr => absurd hr List.not_mem_nil⟩
          have hrows := hread.rows env hinv' rows
          have href : Refreshed (connect c online) { connect c online with
              initCheckAvailable := response.initCheckAvailable
              objects := (rows.foldl (readRow env (connect c online))
                ⟨(connect c online).objects, (connect c online).nextRef, []⟩).objects
              nextRef := (rows.foldl (readRow env (connect c online))
                ⟨(connect c online).objects, (connect c online).nextRef, []⟩).nextRef
              debts := (rows.foldl (readRow env (connect c online))
                ⟨(connect c online).objects, (connect c online).nextRef, []⟩).current } :=
            ⟨hrows.nextRef, hrows.old, hrows.new, hrows.owed, hrows.current, rfl, rfl, rfl, rfl⟩
          exact ⟨hinv'.of_refreshed href, hserved'.of_refreshed href⟩

/-! ### Looking for work -/

/-- What `_schedule` does to a debt: at most, work on it is put on the list. -/
theorem scheduleDebt_frame (reconnected : Option (List String)) (c : Consumer) (ref : ℕ) :
    ∃ inflight pending, scheduleDebt reconnected c ref =
        { c with inflight := inflight, pending := pending } ∧
      ∀ p ∈ pending, p ∈ c.pending ∨ p.1 = ref := by
  rw [scheduleDebt]
  split_ifs
  · exact ⟨c.inflight, c.pending, rfl, fun p hp => .inl hp⟩
  · exact ⟨c.inflight, c.pending, rfl, fun p hp => .inl hp⟩
  · exact ⟨c.inflight, c.pending, rfl, fun p hp => .inl hp⟩
  · refine ⟨_, _, rfl, fun p hp => ?_⟩
    rcases List.mem_append.mp hp with hp | hp
    · exact .inl hp
    · rw [List.mem_singleton.mp hp]
      exact .inr rfl

/-- What `_schedule` does to some debts. -/
theorem foldl_scheduleDebt_frame (reconnected : Option (List String)) (refs : List ℕ)
    (c : Consumer) :
    ∃ inflight pending, refs.foldl (scheduleDebt reconnected) c =
        { c with inflight := inflight, pending := pending } ∧
      ∀ p ∈ pending, p ∈ c.pending ∨ p.1 ∈ refs := by
  induction refs generalizing c with
  | nil => exact ⟨c.inflight, c.pending, rfl, fun p hp => .inl hp⟩
  | cons ref rest ih =>
      obtain ⟨inflight, pending, hc, hfrom⟩ := scheduleDebt_frame reconnected c ref
      obtain ⟨inflight', pending', hc', hfrom'⟩ := ih (scheduleDebt reconnected c ref)
      refine ⟨inflight', pending', ?_, fun p hp => ?_⟩
      · rw [List.foldl_cons, hc', hc]
      · rcases hfrom' p hp with hp | hp
        · rw [hc] at hp
          exact (hfrom p hp).imp_right fun heq => List.mem_cons.mpr (.inl heq)
        · exact .inr (List.mem_cons_of_mem ref hp)

/-- `_schedule` leaves the debts as they are. -/
theorem schedule_untouched (c : Consumer) (reconnected : Option (List String)) :
    Untouched c (schedule c reconnected) := by
  obtain ⟨inflight, pending, hc, hfrom⟩ := foldl_scheduleDebt_frame reconnected c.debts c
  rw [schedule.eq_def]
  dsimp only
  rw [hc]
  have hsame : Untouched c { c with inflight := inflight, pending := pending } :=
    ⟨rfl, rfl, rfl, rfl, le_refl _, fun _ _ hf => hf, fun _ _ _ h => h, fun _ h => .inl h, hfrom⟩
  cases hphase : c.phase with
  | idle =>
      dsimp only
      split_ifs
      · exact hphase ▸ hsame
      · refine ⟨rfl, rfl, rfl, rfl, le_refl _, fun ref f hf => ?_, (fun _ _ _ h => by cases h),
          (fun _ h => by cases h), hfrom⟩
        rw [Consumer.remaining, hphase] at hf
        cases hf
  | looking =>
      dsimp only
      exact hphase ▸ hsame
  | taken ref families =>
      dsimp only
      exact hphase ▸ hsame
  | working ref families =>
      dsimp only
      exact hphase ▸ hsame
  | executing ref family rest =>
      dsimp only
      exact hphase ▸ hsame

/-! ### Work on a debt -/

section Work

variable {c : Consumer} {ref : ℕ}

/-- What holds of a consumer holds when the work on a debt ends. -/
theorem WorkInv.finish (hinv : WorkInv c) : WorkInv (finish c ref) where
  debts := hinv.debts
  pending := hinv.pending
  phase := fun _ h => by cases h
  epoch := hinv.epoch
  owed := hinv.owed
  executing := fun _ _ _ h => by cases h

/-- **When a round that ends leaves every family served**: those it had still to come to can
wait. -/
theorem served_finish_iff (hserved : AllServed c) :
    AllServed (finish c ref) ↔ ∀ i ∈ c.debts, ∀ f ∈ (c.objects i).stillOwed,
      f ∈ c.remaining i → CanWait c i f := by
  constructor
  · intro h i hi f hf _
    rcases h i hi f hf with hex | hdue | hrem
    · exact .inl hex
    · exact .inr hdue
    · cases hrem
  · intro h i hi f hf
    rcases hserved i hi f hf with hex | hdue | hrem
    · exact .inl hex
    · exact .inr (.inl hdue)
    · rcases h i hi f hf hrem with hex | hdue
      · exact .inl hex
      · exact .inr (.inl hdue)

/-- The other debts when one is changed. -/
theorem setDebt_of_ne {d : Debt} {i : ℕ} (h : i ≠ ref) : (c.setDebt ref d).objects i = c.objects i :=
  Function.update_of_ne h _ _

/-- The debt that is changed. -/
theorem setDebt_self {d : Debt} : (c.setDebt ref d).objects ref = d :=
  Function.update_self _ _ _

/-- A debt that keeps its device and what it owes is changed. -/
theorem WorkInv.setDebt (hinv : WorkInv c) {d : Debt} (hserial : d.serial = (c.objects ref).serial)
    (hfamilies : d.families = (c.objects ref).families)
    (howed : d.stillOwed = (c.objects ref).stillOwed)
    (hepoch : ref < c.nextRef → ∀ e, d.connectionEpoch = some e → e ≤ c.epochOf ref)
    {phase : DrainPhase} (hphase : ∀ i, phase.ref = some i → i < c.nextRef)
    (hexecuting : ∀ i f rest, phase = .executing i f rest → i = ref ∧
      ∃ e, d.connectionEpoch = some e ∧ (f, e) ∈ d.executed) :
    WorkInv { c.setDebt ref d with phase := phase } where
  debts := hinv.debts
  pending := hinv.pending
  phase := hphase
  epoch := by
    intro i hi e he
    show e ≤ c.epochs ((c.setDebt ref d).objects i).serial
    change ((c.setDebt ref d).objects i).connectionEpoch = some e at he
    by_cases heq : i = ref
    · subst heq
      rw [setDebt_self] at he ⊢
      rw [hserial]
      exact hepoch hi e he
    · rw [setDebt_of_ne heq] at he ⊢
      exact hinv.epoch i hi e he
  owed := by
    intro i hi f hf
    change f ∈ ((c.setDebt ref d).objects i).stillOwed at hf
    show f ∈ ((c.setDebt ref d).objects i).families
    by_cases heq : i = ref
    · subst heq
      rw [setDebt_self] at hf ⊢
      rw [hfamilies]
      rw [howed] at hf
      exact hinv.owed i hi f hf
    · rw [setDebt_of_ne heq] at hf ⊢
      exact hinv.owed i hi f hf
  executing := by
    intro i f rest h
    obtain ⟨rfl, e, he, hmem⟩ := hexecuting i f rest h
    show ∃ e, ((c.setDebt i d).objects i).connectionEpoch = some e ∧
      (f, e) ∈ ((c.setDebt i d).objects i).executed
    rw [setDebt_self]
    exact ⟨e, he, hmem⟩

/-- A family of another debt, when one is changed and the thread comes to no other debt. -/
theorem served_setDebt_of_ne {d : Debt} {phase : DrainPhase} {i : ℕ} (hne : i ≠ ref)
    (hrem : c.remaining i = []) (hrem' : ({ c.setDebt ref d with phase := phase } :
      Consumer).remaining i = []) {f : String} :
    Served { c.setDebt ref d with phase := phase } i f ↔ Served c i f := by
  have hobject : ({ c.setDebt ref d with phase := phase } : Consumer).objects i = c.objects i :=
    setDebt_of_ne hne
  have hepoch : ({ c.setDebt ref d with phase := phase } : Consumer).epochOf i = c.epochOf i := by
    rw [Consumer.epochOf, hobject]
    rfl
  rw [Served, Served, mem_dueFamilies, mem_dueFamilies, hobject, hepoch, hrem, hrem']
  exact Iff.rfl

/-- A family is begun. -/
theorem attemptDue_begin {d : Debt} {epoch : ℕ} {now : ℚ} {family f : String} (hne : f ≠ family) :
    (d.begin epoch now family).attemptDue now f = d.attemptDue now f := by
  have hattempts : (d.begin epoch now family).attempts f = d.attempts f :=
    Function.update_of_ne hne _ _
  rw [Debt.attemptDue, hattempts, Debt.attemptDue]

/-- **The thread comes to the next family.** -/
theorem next_step {family : String} {rest : List String} (hinv : WorkInv c)
    (hserved : AllServed c) (hphase : c.phase = .working ref (family :: rest)) :
    WorkInv (beginFamily c ref family rest) ∧
      (AllServed (beginFamily c ref family rest) ↔ WorkFair c .next) := by
  have hrem : ∀ i, i ≠ ref → c.remaining i = [] := by
    intro i hi
    rw [Consumer.remaining, hphase]
    exact if_neg (Ne.symm hi)
  rw [beginFamily]
  by_cases hdebt : ref ∈ c.debts
  · rw [if_pos (List.contains_iff_mem.mpr hdebt)]
    refine ⟨@WorkInv.setDebt c ref hinv ((c.objects ref).begin (c.epochOf ref) c.now family) rfl
      rfl rfl (fun _ e he => ?_) (.executing ref family rest) (fun i hi => ?_) fun i f r h => ?_, ?_⟩
    · cases he
      exact le_refl _
    · cases hi
      exact hinv.debts ref hdebt
    · cases h
      exact ⟨rfl, c.epochOf ref, rfl, List.mem_cons_self⟩
    · have hself : ∀ f ∈ (c.objects ref).stillOwed,
          (Served { c.setDebt ref ((c.objects ref).begin (c.epochOf ref) c.now family) with
              phase := .executing ref family rest } ref f ↔
            f = family ∨ f ∈ rest ∨ (f, c.epochOf ref) ∈ (c.objects ref).executed ∨
              (c.objects ref).attemptDue c.now f = true) := by
        intro f hf
        have hobject : ({ c.setDebt ref ((c.objects ref).begin (c.epochOf ref) c.now family) with
            phase := .executing ref family rest } : Consumer).objects ref =
            (c.objects ref).begin (c.epochOf ref) c.now family := setDebt_self
        have hepoch : ({ c.setDebt ref ((c.objects ref).begin (c.epochOf ref) c.now family) with
            phase := .executing ref family rest } : Consumer).epochOf ref = c.epochOf ref := by
          rw [Consumer.epochOf, hobject]
          rfl
        have hrest : ({ c.setDebt ref ((c.objects ref).begin (c.epochOf ref) c.now family) with
            phase := .executing ref family rest } : Consumer).remaining ref = rest := if_pos rfl
        rw [Served, mem_dueFamilies, hobject, hepoch, hrest]
        have hfamilies := hinv.owed ref (hinv.debts ref hdebt) f hf
        show (f, c.epochOf ref) ∈ (family, c.epochOf ref) :: (c.objects ref).executed ∨
          (f ∈ (c.objects ref).families ∧ (some (c.epochOf ref) ≠ some (c.epochOf ref) ∨
            ((c.objects ref).begin (c.epochOf ref) c.now family).attemptDue c.now f = true)) ∨
          f ∈ rest ↔ _
        by_cases hfam : f = family
        · rw [hfam]
          exact iff_of_true (.inl List.mem_cons_self) (.inl rfl)
        · rw [attemptDue_begin hfam, List.mem_cons, Prod.mk.injEq]
          constructor
          · rintro ((⟨heq, -⟩ | hex) | ⟨-, hne | hdue⟩ | hr)
            · exact .inl heq
            · exact .inr (.inr (.inl hex))
            · exact absurd rfl hne
            · exact .inr (.inr (.inr hdue))
            · exact .inr (.inl hr)
          · rintro (heq | hr | hex | hdue)
            · exact absurd heq hfam
            · exact .inr (.inr hr)
            · exact .inl (.inr hex)
            · exact .inr (.inl ⟨hfamilies, .inr hdue⟩)
      constructor
      · intro h ref' family' rest' hphase' _ f hf
        rw [hphase] at hphase'
        cases hphase'
        refine (hself f hf).mp (h ref hdebt f ?_)
        show f ∈ ((c.setDebt ref _).objects ref).stillOwed
        rw [setDebt_self]
        exact hf
      · intro hfair i hi f hf
        by_cases heq : i = ref
        · subst heq
          have hf' : f ∈ (c.objects i).stillOwed := by
            change f ∈ ((c.setDebt i _).objects i).stillOwed at hf
            rw [setDebt_self] at hf
            exact hf
          exact (hself f hf').mpr (hfair i family rest hphase hdebt f hf')
        · refine (@served_setDebt_of_ne c ref ((c.objects ref).begin (c.epochOf ref) c.now family)
            (.executing ref family rest) i heq (hrem i heq) (if_neg (Ne.symm heq)) f).mpr ?_
          refine hserved i hi f ?_
          change f ∈ ((c.setDebt ref _).objects i).stillOwed at hf
          rw [setDebt_of_ne heq] at hf
          exact hf
  · rw [if_neg fun h => hdebt (List.contains_iff_mem.mp h)]
    refine ⟨hinv.finish, iff_of_true ((served_finish_iff hserved).mpr fun i hi f _ hf => ?_) ?_⟩
    · rw [hrem i fun heq => hdebt (heq ▸ hi)] at hf
      cases hf
    · intro ref' family' rest' hphase' hdebt'
      rw [hphase] at hphase'
      cases hphase'
      exact absurd hdebt' hdebt

/-- **A family was executed.** -/
theorem done_step {family : String} {rest : List String} {value : String} (hinv : WorkInv c)
    (hserved : AllServed c) (hphase : c.phase = .executing ref family rest) :
    WorkInv (endFamily c ref family rest value) ∧ AllServed (endFamily c ref family rest value) := by
  obtain ⟨e, he, hmem⟩ := hinv.executing ref family rest hphase
  have hlt := hinv.phase ref (by rw [hphase]; rfl)
  have hset : WorkInv { c.setDebt ref ((c.objects ref).attempt family c.now value) with
      phase := .working ref rest } := by
    refine @WorkInv.setDebt c ref hinv ((c.objects ref).attempt family c.now value) rfl rfl rfl
      (fun hr => hinv.epoch ref hr) (.working ref rest) (fun i hi => ?_) fun i f r h => by cases h
    cases hi
    exact hlt
  have hall : AllServed { c.setDebt ref ((c.objects ref).attempt family c.now value) with
      phase := .working ref rest } := by
    intro i hi f hf
    by_cases heq : i = ref
    · subst heq
      have hobject : ({ c.setDebt i ((c.objects i).attempt family c.now value) with
          phase := .working i rest } : Consumer).objects i =
          (c.objects i).attempt family c.now value := setDebt_self
      have hepoch : ({ c.setDebt i ((c.objects i).attempt family c.now value) with
          phase := .working i rest } : Consumer).epochOf i = c.epochOf i := by
        rw [Consumer.epochOf, hobject]
        rfl
      rw [hobject] at hf
      have hfamilies := hinv.owed i hlt f hf
      rw [Served, mem_dueFamilies, hobject, hepoch]
      by_cases hnow : e = c.epochOf i
      · rcases hserved i hi f hf with hex | hdue | hrem
        · exact .inl hex
        · by_cases hfam : f = family
          · rw [hfam]
            exact .inl (hnow ▸ hmem)
          · refine .inr (.inl ⟨hfamilies, ?_⟩)
            have hattempts : ((c.objects i).attempt family c.now value).attempts f =
                (c.objects i).attempts f := Function.update_of_ne hfam _ _
            rw [Debt.attemptDue, hattempts]
            exact (mem_dueFamilies.mp hdue).2
        · refine .inr (.inr ?_)
          rw [Consumer.remaining, hphase] at hrem
          exact hrem
      · refine .inr (.inl ⟨hfamilies, .inl fun hcontra => hnow ?_⟩)
        exact Option.some.inj (he.symm.trans hcontra)
    · refine (@served_setDebt_of_ne c ref ((c.objects ref).attempt family c.now value)
        (.working ref rest) i heq ?_ (if_neg (Ne.symm heq)) f).mpr ?_
      · rw [Consumer.remaining, hphase]
        exact if_neg (Ne.symm heq)
      · refine hserved i hi f ?_
        change f ∈ ((c.setDebt ref _).objects i).stillOwed at hf
        rw [setDebt_of_ne heq] at hf
        exact hf
  rw [endFamily]
  split_ifs with hrest
  · refine ⟨hset.finish, (served_finish_iff hall).mpr fun i _ f _ hf => ?_⟩
    have hnil : ({ c.setDebt ref ((c.objects ref).attempt family c.now value) with
        phase := .working ref rest } : Consumer).remaining i = [] := by
      rw [Consumer.remaining]
      show (if ref = i then rest else []) = []
      rw [List.isEmpty_iff.mp hrest, ite_self]
    rw [hnil] at hf
    cases hf
  · exact ⟨hset, hall⟩

/-- **A token is rejected**: its debt is gone. -/
theorem reject_step (env : WorkEnv) {family : String} {rest : List String} (hinv : WorkInv c)
    (hserved : AllServed c) (hphase : c.phase = .executing ref family rest) :
    WorkInv (rejectDebt env c ref) ∧ AllServed (rejectDebt env c ref) := by
  have hdebts : ∀ i ∈ (rejectDebt env c ref).debts, i ∈ c.debts ∧ i ≠ ref := by
    intro i hi
    obtain ⟨hmem, hne⟩ := List.mem_filter.mp hi
    exact ⟨hmem, of_decide_eq_true hne⟩
  refine ⟨⟨fun i hi => hinv.debts i (hdebts i hi).1, hinv.pending, (fun _ h => by cases h),
    hinv.epoch, hinv.owed, (fun _ _ _ h => by cases h)⟩, fun i hi f hf => ?_⟩
  obtain ⟨hmem, hne⟩ := hdebts i hi
  rcases hserved i hmem f hf with hex | hdue | hrem
  · exact .inl hex
  · exact .inr (.inl hdue)
  · have hnil : c.remaining i = [] := by
      rw [Consumer.remaining, hphase]
      exact if_neg (Ne.symm hne)
    rw [hnil] at hrem
    cases hrem

end Work

/-! ### Runs -/

section Step

variable {env : WorkEnv} {c c' : Consumer}

/-- What the thread comes to, when it is at work on a debt or has stopped. -/
theorem remaining_eq_nil (h : c.phase = .idle ∨ c.phase = .looking ∨ ∃ r fs, c.phase = .taken r fs)
    (ref : ℕ) : c.remaining ref = [] := by
  rw [Consumer.remaining]
  rcases h with h | h | ⟨r, fs, h⟩
  · rw [h]
  · rw [h]
  · rw [h]

/-- Time passes. -/
theorem tick_untouched {now : ℚ} (h : c.now ≤ now) : Untouched c { c with now := now } :=
  ⟨rfl, rfl, rfl, rfl, h, fun _ _ hf => hf, fun _ _ _ hp => hp, fun _ hp => .inl hp,
    fun _ hp => .inl hp⟩

/-- The thread takes work, or stops. -/
theorem pop_untouched (h : WorkSteps env c .pop c') : Untouched c c' := by
  rw [WorkSteps, workStep] at h
  split at h
  · rename_i hphase _
    cases h
    refine ⟨rfl, rfl, rfl, rfl, le_refl _, fun ref f hf => ?_, (fun _ _ _ hp => by cases hp),
      (fun _ hp => by cases hp), fun _ hp => .inl hp⟩
    rw [remaining_eq_nil (.inr (.inl hphase)) ref] at hf
    cases hf
  · rename_i ref families rest hphase hpending
    cases h
    refine ⟨rfl, rfl, rfl, rfl, le_refl _, fun i f hf => ?_, (fun _ _ _ hp => by cases hp),
      fun i hi => ?_, fun p hp => ?_⟩
    · rw [remaining_eq_nil (.inr (.inl hphase)) i] at hf
      cases hf
    · cases hi
      refine .inr (.inr (List.mem_map.mpr ⟨(ref, families), ?_, rfl⟩))
      rw [hpending]
      exact List.mem_cons_self
    · rw [hpending]
      exact .inl (List.mem_cons_of_mem _ hp)
  · cases h

/-- The thread may not work. -/
theorem refuse_untouched (h : WorkSteps env c .refuse c') : Untouched c c' := by
  rw [WorkSteps, workStep] at h
  split at h
  · rename_i ref families hphase
    cases h
    refine ⟨rfl, rfl, rfl, rfl, le_refl _, fun i f hf => ?_, (fun _ _ _ hp => by cases hp),
      (fun _ hp => by cases hp), fun _ hp => .inl hp⟩
    rw [remaining_eq_nil (.inr (.inr ⟨ref, families, hphase⟩)) i] at hf
    cases hf
  · cases h

/-- The thread has the permit. -/
theorem permit_untouched (h : WorkSteps env c .permit c') : Untouched c c' := by
  rw [WorkSteps, workStep] at h
  split at h
  · rename_i ref families hphase
    cases h
    refine ⟨rfl, rfl, rfl, rfl, le_refl _, fun i f hf => ?_, (fun _ _ _ hp => by cases hp),
      fun i hi => ?_, fun _ hp => .inl hp⟩
    · rw [remaining_eq_nil (.inr (.inr ⟨ref, families, hphase⟩)) i] at hf
      cases hf
    · rw [hphase]
      exact .inl hi
  · cases h

/-- A job is active before the next family. -/
theorem busy_step (hinv : WorkInv c) (hserved : AllServed c) (h : WorkSteps env c .busy c') :
    WorkInv c' ∧ (AllServed c' ↔ WorkFair c .busy) := by
  rw [WorkSteps, workStep] at h
  split at h
  · rename_i ref families hphase
    cases h
    have hrem : ∀ i, c.remaining i = if ref = i then families else [] := by
      intro i
      rw [Consumer.remaining, hphase]
    refine ⟨hinv.finish, (served_finish_iff hserved).trans ⟨fun hw r fs hp hr f hf hmem => ?_,
      fun hw i hi f hf hmem => ?_⟩⟩
    · rw [hphase] at hp
      cases hp
      refine hw ref hr f hf ?_
      rw [hrem, if_pos rfl]
      exact hmem
    · rw [hrem] at hmem
      split_ifs at hmem with heq
      · subst heq
        exact hw ref families hphase hi f hf hmem
      · cases hmem
  · cases h

/-- An exception leaves the work. -/
theorem raise_step (hinv : WorkInv c) (hserved : AllServed c) (h : WorkSteps env c .raise c') :
    WorkInv c' ∧ (AllServed c' ↔ WorkFair c .raise) := by
  rw [WorkSteps, workStep] at h
  split at h
  · rename_i ref family rest hphase
    cases h
    have hrem : ∀ i, c.remaining i = if ref = i then rest else [] := by
      intro i
      rw [Consumer.remaining, hphase]
    refine ⟨hinv.finish, (served_finish_iff hserved).trans ⟨fun hw r g fs hp hr f hf hmem => ?_,
      fun hw i hi f hf hmem => ?_⟩⟩
    · rw [hphase] at hp
      cases hp
      refine hw ref hr f hf ?_
      rw [hrem, if_pos rfl]
      exact hmem
    · rw [hrem] at hmem
      split_ifs at hmem with heq
      · subst heq
        exact hw ref family rest hphase hi f hf hmem
      · cases hmem
  · cases h

/-- **A step** keeps what holds, and leaves every family served exactly when it leaves none without
a trigger. -/
theorem work_step {e : WorkEvent} (hinv : WorkInv c) (hserved : AllServed c)
    (h : WorkSteps env c e c') : WorkInv c' ∧ (AllServed c' ↔ WorkFair c e) := by
  have huntouched : Untouched c c' → WorkInv c' ∧ (AllServed c' ↔ True) := fun hsame =>
    ⟨hinv.of_untouched hsame, iff_of_true (hserved.of_untouched hsame) trivial⟩
  cases e with
  | tick now =>
      rw [WorkSteps, workStep] at h
      split_ifs at h with hle
      cases h
      exact huntouched (tick_untouched hle)
  | receive response online =>
      cases h
      obtain ⟨hinv', hserved'⟩ := receive_step env hinv hserved response online
      exact ⟨hinv', iff_of_true hserved' trivial⟩
  | schedule reconnected =>
      cases h
      exact huntouched (schedule_untouched c reconnected)
  | pop => exact huntouched (pop_untouched h)
  | refuse => exact huntouched (refuse_untouched h)
  | permit => exact huntouched (permit_untouched h)
  | busy => exact busy_step hinv hserved h
  | next =>
      rw [WorkSteps, workStep] at h
      split at h
      · rename_i ref family rest hphase
        cases h
        exact next_step hinv hserved hphase
      · cases h
  | done value =>
      rw [WorkSteps, workStep] at h
      split at h
      · rename_i ref family rest hphase
        cases h
        obtain ⟨hinv', hserved'⟩ := @done_step c ref family rest value hinv hserved hphase
        exact ⟨hinv', iff_of_true hserved' trivial⟩
      · cases h
  | reject =>
      rw [WorkSteps, workStep] at h
      split at h
      · rename_i ref family rest hphase
        cases h
        obtain ⟨hinv', hserved'⟩ := reject_step env hinv hserved hphase
        exact ⟨hinv', iff_of_true hserved' trivial⟩
      · cases h
  | raise => exact raise_step hinv hserved h

end Step

/-- A new consumer owes nothing. -/
theorem workInv_start : WorkInv .start ∧ AllServed .start :=
  ⟨⟨fun _ h => (List.not_mem_nil h).elim, fun _ h => (List.not_mem_nil h).elim,
    (fun _ h => by cases h), fun _ h => (Nat.not_lt_zero _ h).elim,
    fun _ h => (Nat.not_lt_zero _ h).elim, (fun _ _ _ h => by cases h)⟩,
    fun _ h => (List.not_mem_nil h).elim⟩

namespace ReconnectExample

/-- The families that are known. -/
def env : WorkEnv := ⟨["power-cycle", "gpu"], id⟩

/-- The device, and the debt on it. -/
def response : DebtResponse :=
  ⟨true, some [some ⟨some 7, some "S1", some "token", some ["power-cycle", "gpu"]⟩]⟩

/-- Both families are executed; the device is connected again; a job is active after the first
family. -/
def events : List WorkEvent :=
  [.receive response ["S1"], .schedule none, .pop, .permit, .next, .done "confirmed", .next,
    .done "confirmed", .pop, .receive response [], .schedule none, .receive response ["S1"],
    .schedule none, .pop, .permit, .next, .done "confirmed", .busy]

/-- What is known of a debt. -/
structure Summary where
  owed : List String
  due : List String
  remaining : List String
  executed : List String
  deriving DecidableEq

/-- The debts. -/
def summary (c : Consumer) : List Summary :=
  c.debts.map fun ref =>
    { owed := (c.objects ref).stillOwed
      due := c.dueFamilies ref
      remaining := c.remaining ref
      executed := ((c.objects ref).executed.filter (·.2 = c.epochOf ref)).map Prod.fst }

end ReconnectExample

end StabilityPlatform.DebtWork
