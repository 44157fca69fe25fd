import StabilityPlatform.Lib.BoundedDeque
import StabilityPlatform.Lib.Pool
import StabilityPlatform.Lib.Run

/-!
# The step logs an Agent streams

The lines of a job are numbered and collected in a batch under a lock. A flush takes batches under
the lock and emits them after releasing it, each under the lock again; what cannot be emitted goes
to a bounded buffer. When the Agent is connected again the buffer is emptied under the lock and
replayed without it, and what cannot be replayed is put back in front.

## Main results

* `Client.act`: one moment of a thread.
* `Conserved`: **every accepted line is in one place**, and the messages that were dropped are
  counted.
* `InTurn`: no earlier line of a job waits elsewhere when one of its messages is delivered.
* `step_logs_conserved`: conservation in every run, and **the order of the lines of each job** in
  every run whose deliveries are all in turn.
-/

namespace StabilityPlatform.StepLogs

open Lib

/-! ### Lines and messages -/

/-- A line of a batch. -/
structure LogLine where
  stepId : String
  seq : ℕ
  level : String
  msg : String
  deriving DecidableEq

/-- What is emitted. -/
inductive Message where
  /-- `step_log`: the lines of a job. -/
  | stepLog (runId : ℤ) (lines : List LogLine)
  /-- Another event. -/
  | other (event : String)
  deriving DecidableEq

/-- The lines of a message, each with its job. -/
def Message.lines : Message → List (ℤ × LogLine)
  | .stepLog runId lines => lines.map (Prod.mk runId)
  | .other _ => []

/-- The lines of messages. -/
def linesOf (messages : List Message) : List (ℤ × LogLine) := messages.flatMap Message.lines

@[simp] theorem linesOf_nil : linesOf [] = [] := rfl

@[simp] theorem linesOf_cons (m : Message) (rest : List Message) :
    linesOf (m :: rest) = m.lines ++ linesOf rest := List.flatMap_cons ..

@[simp] theorem linesOf_append (ms ms' : List Message) :
    linesOf (ms ++ ms') = linesOf ms ++ linesOf ms' := List.flatMap_append ..

/-- `_log_batches`. -/
abbrev Batches := List (ℤ × List LogLine)

/-- The lines of batches, each with its job. -/
def batchLines (batches : Batches) : List (ℤ × LogLine) :=
  batches.flatMap fun b => b.2.map (Prod.mk b.1)

/-- `_log_batches.setdefault(run_id, []).append(line)`. -/
def addLine (runId : ℤ) (line : LogLine) : Batches → Batches
  | [] => [(runId, [line])]
  | b :: rest =>
    if b.1 = runId then (b.1, b.2 ++ [line]) :: rest else b :: addLine runId line rest

/-- The batch of a job. -/
def batchOf (batches : Batches) (runId : ℤ) : List LogLine := (batches.lookup runId).getD []

/-- The batches a flush takes: of one job, or all. -/
def takenBatches : Option ℤ → Batches → Batches
  | none, batches => batches
  | some runId, batches => batches.filter fun b => b.1 = runId

/-- The batches a flush leaves. -/
def leftBatches : Option ℤ → Batches → Batches
  | none, _ => []
  | some runId, batches => batches.filter fun b => b.1 ≠ runId

/-- The messages of a flush. -/
def messagesOf (batches : Batches) : List Message :=
  (batches.filter fun b => b.2 ≠ []).map fun b => .stepLog b.1 b.2

/-! ### The client -/

/-- The class variables. -/
structure ClientConfig where
  maxBuffer : ℕ
  logBatchMaxLines : ℤ

/-- `AgentSocketIOClient`: what its threads share. -/
structure Client where
  connected : Bool
  /-- `_sio` is not `None`. -/
  hasSio : Bool
  buffer : List Message
  droppedCount : ℕ
  seqCounters : ℤ → ℕ
  logBatches : Batches
  /-- `_log_flush_timer` is not `None`. -/
  logFlushTimer : Bool
  /-- How many timers were started and have neither fired nor been cancelled. -/
  timers : ℕ
  logRateLimit : Option ℤ
  logRateCount : ℕ
  /-- `_log_rate_window_start`, in microseconds. -/
  logRateWindowStart : ℤ

/-- A new client. -/
def Client.initial : Client := ⟨false, false, [], 0, fun _ => 0, [], false, 0, none, 0, 0⟩

/-- `_append_locked`: the client, and what falls off the buffer. -/
def Client.appendLocked (c : Client) (maxBuffer : ℕ) (m : Message) : Client × List Message :=
  ({ c with
      buffer := BoundedDeque.kept maxBuffer c.buffer m
      droppedCount := c.droppedCount + if maxBuffer ≤ c.buffer.length then 1 else 0 },
    BoundedDeque.fallen maxBuffer c.buffer m)

/-- One turn of the loop of `_prepend_locked`. -/
def Client.appendLeft (c : Client) (maxBuffer : ℕ) (m : Message) : Client × List Message :=
  ({ c with
      buffer := BoundedDeque.keptFront maxBuffer c.buffer m
      droppedCount := c.droppedCount + if maxBuffer ≤ c.buffer.length then 1 else 0 },
    BoundedDeque.fallenFront maxBuffer c.buffer m)

/-- `_prepend_locked`: from the last item to the first. -/
def Client.prependLocked (c : Client) (maxBuffer : ℕ) : List Message → Client × List Message
  | [] => (c, [])
  | m :: rest =>
    let x := c.prependLocked maxBuffer rest
    let y := x.1.appendLeft maxBuffer m
    (y.1, y.2 ++ x.2)

/-- `_allow_log_locked`. -/
def Client.allowLogLocked (c : Client) (now : ℤ) : Bool × Client :=
  match c.logRateLimit with
  | none => (true, c)
  | some limit =>
    if limit ≤ 0 then (false, c)
    else
      let c := if 1000000 ≤ now - c.logRateWindowStart then
          { c with logRateWindowStart := now, logRateCount := 0 }
        else c
      if limit ≤ c.logRateCount then (false, c)
      else (true, { c with logRateCount := c.logRateCount + 1 })

/-! ### Threads -/

/-- Where a thread is. -/
inductive SendThread where
  /-- A timer that has fired. -/
  | timer
  /-- `flush_logs`, before it takes the lock. -/
  | flush (runId : Option ℤ)
  /-- It emits these messages, one after the other. -/
  | emitting (messages : List Message)
  /-- `_replay_buffer`, before it takes the lock. -/
  | draining
  /-- It replays these messages, one after the other. -/
  | replaying (messages : List Message)
  /-- It puts back what it could not replay. -/
  | puttingBack (messages : List Message)
  /-- It notes that the connection is gone. -/
  | marking
  deriving DecidableEq

/-- What a thread has taken. -/
def SendThread.hand : SendThread → List Message
  | .emitting messages => messages
  | .replaying messages => messages
  | .puttingBack messages => messages
  | _ => []

/-- What a step of a thread does. -/
structure Effect where
  client : Client
  next : Multiset SendThread
  delivered : List Message
  dropped : List Message

/-- `flush_logs` under the lock. The outcome says whether it cancels the timer before it fires. -/
def Client.flushStep (c : Client) (outcome : Bool) (runId : Option ℤ) : Effect :=
  let cancels := c.logFlushTimer && runId.isNone
  ⟨{ c with
      logBatches := leftBatches runId c.logBatches
      logFlushTimer := c.logFlushTimer && !cancels
      timers := c.timers - if cancels && outcome then 1 else 0 },
    {.emitting (messagesOf (takenBatches runId c.logBatches))}, [], []⟩

/-- `_emit`. The outcome says whether the message is delivered, if it can be. -/
def Client.emitStep (cfg : ClientConfig) (c : Client) (outcome : Bool) (m : Message)
    (rest : List Message) : Effect :=
  if c.connected && c.hasSio && outcome then ⟨c, {.emitting rest}, [m], []⟩
  else
    let x := Client.appendLocked { c with connected := c.connected && !c.hasSio } cfg.maxBuffer m
    ⟨x.1, {.emitting rest}, [], x.2⟩

/-- A thread takes a step. -/
def Client.act (cfg : ClientConfig) (c : Client) (outcome : Bool) : SendThread → Effect
  | .timer => ⟨{ c with logFlushTimer := false }, {.flush none}, [], []⟩
  | .flush runId => c.flushStep outcome runId
  | .emitting [] => ⟨c, 0, [], []⟩
  | .emitting (m :: rest) => c.emitStep cfg outcome m rest
  | .draining =>
    if c.buffer = [] then ⟨c, 0, [], []⟩
    else ⟨{ c with buffer := [] }, {.replaying c.buffer}, [], []⟩
  | .replaying [] => ⟨c, 0, [], []⟩
  | .replaying (m :: rest) =>
    if c.hasSio && outcome then ⟨c, {.replaying rest}, [m], []⟩
    else ⟨c, {.puttingBack (m :: rest)}, [], []⟩
  | .puttingBack messages =>
    let x := c.prependLocked cfg.maxBuffer messages
    ⟨x.1, {.marking}, [], x.2⟩
  | .marking => ⟨{ c with connected := false }, 0, [], []⟩

/-! ### The client and its threads -/

/-- The client with its threads, and what has happened. -/
structure LogSystem where
  client : Client
  threads : Multiset SendThread
  /-- The lines `send_log` has accepted. -/
  accepted : List (ℤ × LogLine)
  delivered : List Message
  dropped : List Message
  reported : ℕ

/-- A new client without threads. -/
def LogSystem.initial : LogSystem := ⟨.initial, 0, [], [], [], 0⟩

/-- A moment. -/
inductive SendOp where
  /-- `send_log` up to where it releases the lock. -/
  | sendLog (runId : ℤ) (stepId level msg : String) (now : ℤ)
  | setLogRateLimit (limit : Option ℤ) (now : ℤ)
  /-- `flush_logs` is called, also by `disconnect`. -/
  | flushLogs (runId : Option ℤ)
  /-- Another event is emitted. -/
  | emit (event : String)
  | timerFires
  /-- The connection is there, and the buffer is to be replayed. -/
  | onConnect
  /-- The connection is gone, or `disconnect` notes so. -/
  | onDisconnect
  /-- `_sio` is set, by `connect`, or to `None`, by `disconnect` and the reconnect loop. -/
  | setSio (present : Bool)
  | resetDroppedCount
  /-- A thread takes a step. -/
  | act (thread : SendThread) (outcome : Bool)

/-- A thread enters. -/
def LogSystem.enter (s : LogSystem) (thread : SendThread) : LogSystem :=
  { s with threads := s.threads + {thread} }

/-- `send_log`, once its line is accepted: the line is numbered and put to its batch, and the batch
is flushed, or a timer started. -/
def LogSystem.accept (cfg : ClientConfig) (s : LogSystem) (c : Client) (runId : ℤ)
    (stepId level msg : String) : LogSystem :=
  let line : LogLine := ⟨stepId, c.seqCounters runId + 1, level, msg⟩
  let batches := addLine runId line c.logBatches
  let c := { c with
    seqCounters := Function.update c.seqCounters runId (c.seqCounters runId + 1)
    logBatches := batches }
  let s := { s with accepted := s.accepted ++ [(runId, line)] }
  if max 1 cfg.logBatchMaxLines ≤ (batchOf batches runId).length then
    { s with client := c, threads := s.threads + {.flush (some runId)} }
  else if c.logFlushTimer then { s with client := c }
  else { s with client := { c with logFlushTimer := true, timers := c.timers + 1 } }

/-- A thread takes a step. -/
def LogSystem.advance (cfg : ClientConfig) (s : LogSystem) (thread : SendThread)
    (outcome : Bool) : LogSystem :=
  let e := s.client.act cfg outcome thread
  { s with
    client := e.client
    threads := Pool.move s.threads thread e.next
    delivered := s.delivered ++ e.delivered
    dropped := s.dropped ++ e.dropped }

/-- One moment, if it can come. -/
def LogSystem.step (cfg : ClientConfig) (s : LogSystem) : SendOp → Option LogSystem
  | .sendLog runId stepId level msg now =>
    let x := s.client.allowLogLocked now
    some (if x.1 then s.accept cfg x.2 runId stepId level msg else { s with client := x.2 })
  | .setLogRateLimit limit now =>
    some { s with
      client := { s.client with
        logRateLimit := limit
        logRateCount := 0
        logRateWindowStart := now } }
  | .flushLogs runId => some (s.enter (.flush runId))
  | .emit event => some (s.enter (.emitting [.other event]))
  | .timerFires =>
    if s.client.timers = 0 then none
    else some { s with
      client := { s.client with timers := s.client.timers - 1 }
      threads := s.threads + {.timer} }
  | .onConnect =>
    some { s with
      client := { s.client with connected := true }
      threads := s.threads + {.draining} }
  | .onDisconnect => some { s with client := { s.client with connected := false } }
  | .setSio present => some { s with client := { s.client with hasSio := present } }
  | .resetDroppedCount =>
    some { s with client := { s.client with droppedCount := 0 }, reported := s.dropped.length }
  | .act thread outcome =>
    if thread ∈ s.threads then some (s.advance cfg thread outcome) else none

/-- The moments as a relation. -/
def LogSystem.Step (cfg : ClientConfig) (s : LogSystem) (op : SendOp) (s' : LogSystem) : Prop :=
  s.step cfg op = some s'

/-! ### Batches -/

/-- A line that is added is among the lines. -/
theorem perm_addLine (runId : ℤ) (line : LogLine) (batches : Batches) :
    (batchLines (addLine runId line batches)).Perm ((runId, line) :: batchLines batches) := by
  induction batches with
  | nil => exact List.Perm.refl _
  | cons b rest ih =>
      rw [addLine]
      split_ifs with h
      · subst h
        simp only [batchLines, List.flatMap_cons, List.map_append, List.map_cons, List.map_nil,
          List.append_assoc, List.singleton_append]
        exact List.perm_middle
      · simp only [batchLines, List.flatMap_cons] at ih ⊢
        exact (ih.append_left _).trans List.perm_middle

/-- The batches after a line was added: each of them, or one with the line at its end. -/
theorem mem_addLine {runId : ℤ} {line : LogLine} {batches : Batches} {b : ℤ × List LogLine}
    (h : b ∈ addLine runId line batches) :
    b ∈ batches ∨ b = (runId, [line]) ∨
      ∃ ls, (runId, ls) ∈ batches ∧ b = (runId, ls ++ [line]) := by
  induction batches with
  | nil => exact .inr (.inl (List.mem_singleton.mp h))
  | cons c rest ih =>
      rw [addLine] at h
      split_ifs at h with hc
      · subst hc
        rcases List.mem_cons.mp h with rfl | h
        · exact .inr (.inr ⟨c.2, List.mem_cons_self, rfl⟩)
        · exact .inl (List.mem_cons_of_mem c h)
      · rcases List.mem_cons.mp h with rfl | h
        · exact .inl List.mem_cons_self
        · rcases ih h with h | h | ⟨ls, hls, h⟩
          · exact .inl (List.mem_cons_of_mem c h)
          · exact .inr (.inl h)
          · exact .inr (.inr ⟨ls, List.mem_cons_of_mem c hls, h⟩)

/-- A flush takes batches and leaves the others. -/
theorem perm_takenBatches (runId : Option ℤ) (batches : Batches) :
    (batchLines (takenBatches runId batches) ++ batchLines (leftBatches runId batches)).Perm
      (batchLines batches) := by
  cases runId with
  | none =>
      rw [takenBatches, leftBatches]
      exact (List.append_nil _).symm ▸ List.Perm.refl _
  | some runId =>
      rw [batchLines, batchLines, ← List.flatMap_append]
      refine List.Perm.flatMap_right _ ?_
      have hperm := List.filter_append_perm (fun b : ℤ × List LogLine => decide (b.1 = runId))
        batches
      simpa [takenBatches, leftBatches] using hperm

/-- The job of a line of batches has a batch. -/
theorem mem_batchLines {batches : Batches} {x : ℤ × LogLine} :
    x ∈ batchLines batches ↔ ∃ b ∈ batches, b.1 = x.1 ∧ x.2 ∈ b.2 := by
  rw [batchLines, List.mem_flatMap]
  refine exists_congr fun b => and_congr_right fun _ => ?_
  rw [List.mem_map]
  constructor
  · rintro ⟨l, hl, rfl⟩
    exact ⟨rfl, hl⟩
  · rintro ⟨hb, hl⟩
    exact ⟨x.2, hl, by rw [hb]⟩

/-- No line is left of a job of which a flush takes one. -/
theorem ne_of_taken {runId : Option ℤ} {batches : Batches} {x y : ℤ × LogLine}
    (hx : x ∈ batchLines (takenBatches runId batches))
    (hy : y ∈ batchLines (leftBatches runId batches)) : x.1 ≠ y.1 := by
  cases runId with
  | none => cases hy
  | some runId =>
      obtain ⟨b, hb, hbx, -⟩ := mem_batchLines.mp hx
      obtain ⟨b', hb', hby, -⟩ := mem_batchLines.mp hy
      have h1 := of_decide_eq_true (List.mem_filter.mp hb).2
      have h2 := of_decide_eq_true (List.mem_filter.mp hb').2
      rw [← hbx, ← hby, h1]
      exact Ne.symm h2

/-- The messages of a flush have the lines of its batches. -/
theorem linesOf_messagesOf (batches : Batches) :
    linesOf (messagesOf batches) = batchLines batches := by
  induction batches with
  | nil => rfl
  | cons b rest ih =>
      rw [messagesOf, List.filter_cons]
      split_ifs with h
      · rw [List.map_cons, linesOf_cons, batchLines, List.flatMap_cons]
        exact congrArg _ ih
      · have hnil : b.2 = [] := by simpa using h
        rw [batchLines, List.flatMap_cons, hnil]
        exact ih

/-- A message of a flush is one of its batches. -/
theorem mem_messagesOf {batches : Batches} {m : Message} (h : m ∈ messagesOf batches) :
    ∃ b ∈ batches, m = .stepLog b.1 b.2 := by
  obtain ⟨b, hb, rfl⟩ := List.mem_map.mp h
  exact ⟨b, List.mem_of_mem_filter hb, rfl⟩

/-! ### What a step of a thread keeps -/

/-- **Putting back** loses nothing but what falls off, and counts it. -/
theorem prependLocked_spec {c : Client} {maxBuffer : ℕ} (hfit : c.buffer.length ≤ maxBuffer)
    (messages : List Message) :
    (c.prependLocked maxBuffer messages).1 =
        { c with
          buffer := (c.prependLocked maxBuffer messages).1.buffer
          droppedCount := c.droppedCount + (c.prependLocked maxBuffer messages).2.length } ∧
      (c.prependLocked maxBuffer messages).1.buffer.length ≤ maxBuffer ∧
      (c.prependLocked maxBuffer messages).1.buffer ++ (c.prependLocked maxBuffer messages).2 =
        messages ++ c.buffer := by
  induction messages with
  | nil => exact ⟨rfl, hfit, List.append_nil _⟩
  | cons m rest ih =>
      rw [Client.prependLocked]
      obtain ⟨heq, hlen, happ⟩ := ih
      generalize c.prependLocked maxBuffer rest = x at heq hlen happ ⊢
      refine ⟨?_, BoundedDeque.length_keptFront_le .., ?_⟩
      · dsimp only [Client.appendLeft]
        rw [List.length_append, BoundedDeque.length_fallenFront hlen]
        rw [heq]
        simp only [Client.mk.injEq, true_and, and_true]
        omega
      · dsimp only [Client.appendLeft]
        rw [← List.append_assoc, BoundedDeque.keptFront_append_fallenFront, List.cons_append, happ]
        rfl

section Act

variable {cfg : ClientConfig} {c : Client} {outcome : Bool} {thread : SendThread}

/-- Where the lines are that a client and one of its threads have. -/
def held (c : Client) (hand : Multiset (ℤ × LogLine)) : Multiset (ℤ × LogLine) :=
  hand + ↑(linesOf c.buffer) + ↑(batchLines c.logBatches)

/-- The lines a thread has taken. -/
def SendThread.lines (thread : SendThread) : Multiset (ℤ × LogLine) := ↑(linesOf thread.hand)

/-- Nothing is delivered and nothing falls off. -/
theorem held_same {lines lines' : Multiset (ℤ × LogLine)} (h : lines = lines') :
    lines + ↑(linesOf []) + ↑(linesOf []) = lines' := by
  rw [h, linesOf_nil, Multiset.coe_nil, add_zero, add_zero]

/-- An emission keeps the lines. -/
theorem emitStep_spec (hfit : c.buffer.length ≤ cfg.maxBuffer) (m : Message)
    (rest : List Message) :
    held (c.emitStep cfg outcome m rest).client
          (Pool.total SendThread.lines (c.emitStep cfg outcome m rest).next) +
        ↑(linesOf (c.emitStep cfg outcome m rest).delivered) +
        ↑(linesOf (c.emitStep cfg outcome m rest).dropped) =
          held c (SendThread.emitting (m :: rest)).lines ∧
      (c.emitStep cfg outcome m rest).client.buffer.length ≤ cfg.maxBuffer ∧
      (c.emitStep cfg outcome m rest).client.droppedCount =
        c.droppedCount + (c.emitStep cfg outcome m rest).dropped.length ∧
      (c.emitStep cfg outcome m rest).client.seqCounters = c.seqCounters := by
  rw [Client.emitStep]
  split_ifs
  · refine ⟨?_, hfit, rfl, rfl⟩
    rw [Pool.total_singleton, held, held, SendThread.lines, SendThread.lines]
    simp only [SendThread.hand, linesOf_cons, linesOf_nil, List.append_nil, Multiset.coe_nil,
      add_zero, ← Multiset.coe_add]
    abel
  · refine ⟨?_, BoundedDeque.length_kept_le .., ?_, rfl⟩
    · have hsplit := congrArg (fun l => (↑(linesOf l) : Multiset (ℤ × LogLine)))
        (BoundedDeque.fallen_append_kept cfg.maxBuffer c.buffer m)
      simp only [linesOf_append, linesOf_cons, linesOf_nil, List.append_nil,
        ← Multiset.coe_add] at hsplit
      rw [Pool.total_singleton, held, held, SendThread.lines, SendThread.lines]
      simp only [SendThread.hand, Client.appendLocked, linesOf_cons, linesOf_nil, Multiset.coe_nil,
        add_zero, ← Multiset.coe_add]
      calc _ = ↑(linesOf rest) + (↑(linesOf (BoundedDeque.fallen cfg.maxBuffer c.buffer m)) +
              ↑(linesOf (BoundedDeque.kept cfg.maxBuffer c.buffer m))) +
              (↑(batchLines c.logBatches) : Multiset (ℤ × LogLine)) := by abel
        _ = _ := by
          rw [hsplit]
          abel
    · exact congrArg (c.droppedCount + ·) (BoundedDeque.length_fallen hfit m).symm

/-- **A step of a thread keeps the lines**: they stay with the thread and the client, are delivered,
or fall off the buffer, which counts. -/
theorem act_spec (hfit : c.buffer.length ≤ cfg.maxBuffer) :
    held (c.act cfg outcome thread).client
          (Pool.total SendThread.lines (c.act cfg outcome thread).next) +
        ↑(linesOf (c.act cfg outcome thread).delivered) +
        ↑(linesOf (c.act cfg outcome thread).dropped) = held c thread.lines ∧
      (c.act cfg outcome thread).client.buffer.length ≤ cfg.maxBuffer ∧
      (c.act cfg outcome thread).client.droppedCount =
        c.droppedCount + (c.act cfg outcome thread).dropped.length ∧
      (c.act cfg outcome thread).client.seqCounters = c.seqCounters := by
  cases thread with
  | timer =>
      refine ⟨?_, hfit, rfl, rfl⟩
      rw [Client.act, Pool.total_singleton]
      exact held_same rfl
  | flush runId =>
      refine ⟨?_, hfit, rfl, rfl⟩
      have hperm := Multiset.coe_eq_coe.mpr (perm_takenBatches runId c.logBatches)
      rw [← Multiset.coe_add] at hperm
      rw [Client.act, Client.flushStep, Pool.total_singleton, held, held, SendThread.lines,
        SendThread.lines, SendThread.hand, linesOf_messagesOf, ← hperm]
      simp only [SendThread.hand, linesOf_nil, Multiset.coe_nil, add_zero, zero_add]
      abel
  | emitting messages =>
      cases messages with
      | nil => exact ⟨held_same rfl, hfit, rfl, rfl⟩
      | cons m rest => exact emitStep_spec hfit m rest
  | draining =>
      rw [Client.act]
      split_ifs with hnil
      · exact ⟨held_same rfl, hfit, rfl, rfl⟩
      · refine ⟨?_, Nat.zero_le _, rfl, rfl⟩
        rw [Pool.total_singleton, held, held, SendThread.lines, SendThread.lines]
        simp only [SendThread.hand, linesOf_nil, Multiset.coe_nil, add_zero, zero_add]
  | replaying messages =>
      cases messages with
      | nil => exact ⟨held_same rfl, hfit, rfl, rfl⟩
      | cons m rest =>
          rw [Client.act]
          split_ifs
          · refine ⟨?_, hfit, rfl, rfl⟩
            rw [Pool.total_singleton, held, held, SendThread.lines, SendThread.lines]
            simp only [SendThread.hand, linesOf_cons, linesOf_nil, List.append_nil,
              Multiset.coe_nil, add_zero, ← Multiset.coe_add]
            abel
          · refine ⟨?_, hfit, rfl, rfl⟩
            rw [Pool.total_singleton]
            exact held_same rfl
  | puttingBack messages =>
      obtain ⟨heq, hlen, happ⟩ := prependLocked_spec hfit messages
      have hsplit := congrArg (fun l => (↑(linesOf l) : Multiset (ℤ × LogLine))) happ
      simp only [linesOf_append, ← Multiset.coe_add] at hsplit
      have hbatches := congrArg Client.logBatches heq
      have hcount := congrArg Client.droppedCount heq
      have hseq := congrArg Client.seqCounters heq
      refine ⟨?_, hlen, hcount, hseq⟩
      rw [Client.act, Pool.total_singleton, held, held, SendThread.lines, SendThread.lines,
        hbatches]
      simp only [SendThread.hand, linesOf_nil, Multiset.coe_nil, add_zero, zero_add]
      rw [← hsplit]
      abel
  | marking => exact ⟨held_same rfl, hfit, rfl, rfl⟩

/-- The rate limit looks at nothing but its own fields. -/
theorem allowLogLocked_spec (c : Client) (now : ℤ) :
    (c.allowLogLocked now).2.buffer = c.buffer ∧
      (c.allowLogLocked now).2.droppedCount = c.droppedCount ∧
      (c.allowLogLocked now).2.seqCounters = c.seqCounters ∧
      (c.allowLogLocked now).2.logBatches = c.logBatches := by
  rw [Client.allowLogLocked]
  split
  · exact ⟨rfl, rfl, rfl, rfl⟩
  · dsimp only
    split_ifs
    · exact ⟨rfl, rfl, rfl, rfl⟩
    · exact ⟨rfl, rfl, rfl, rfl⟩
    · exact ⟨rfl, rfl, rfl, rfl⟩
    · exact ⟨rfl, rfl, rfl, rfl⟩
    · exact ⟨rfl, rfl, rfl, rfl⟩

/-! ### Every line is in one place -/

/-- The lines that were taken from their batches and are not delivered: with a thread, or in the
buffer. -/
def LogSystem.waiting (s : LogSystem) : Multiset (ℤ × LogLine) :=
  Pool.total SendThread.lines s.threads + ↑(linesOf s.client.buffer)

/-- The lines of all places. -/
def LogSystem.places (s : LogSystem) : Multiset (ℤ × LogLine) :=
  s.waiting + ↑(batchLines s.client.logBatches) + ↑(linesOf s.delivered) + ↑(linesOf s.dropped)

/-- **The lines are conserved.** -/
structure Conserved (cfg : ClientConfig) (s : LogSystem) : Prop where
  fits : s.client.buffer.length ≤ cfg.maxBuffer
  counted : s.client.droppedCount + s.reported = s.dropped.length
  placed : s.places = ↑s.accepted
  numbered : ∀ x ∈ s.accepted, x.2.seq ≤ s.client.seqCounters x.1
  distinct : (s.accepted.map fun x => (x.1, x.2.seq)).Nodup

/-- A moment that leaves the lines where they are. -/
theorem Conserved.of_same {s s' : LogSystem} (h : Conserved cfg s)
    (hbuffer : s'.client.buffer = s.client.buffer)
    (hbatches : s'.client.logBatches = s.client.logBatches)
    (hseq : s'.client.seqCounters = s.client.seqCounters)
    (hcount : s'.client.droppedCount + s'.reported = s'.dropped.length)
    (hthreads : Pool.total SendThread.lines s'.threads = Pool.total SendThread.lines s.threads)
    (haccepted : s'.accepted = s.accepted) (hdelivered : s'.delivered = s.delivered)
    (hdropped : s'.dropped = s.dropped) : Conserved cfg s' := by
  refine ⟨hbuffer ▸ h.fits, hcount, ?_, ?_, haccepted ▸ h.distinct⟩
  · rw [LogSystem.places, LogSystem.waiting, hthreads, hbuffer, hbatches, hdelivered, hdropped,
      haccepted]
    exact h.placed
  · rw [haccepted, hseq]
    exact h.numbered

/-- What a thread that enters has. -/
theorem total_enter {threads : Multiset SendThread} {thread : SendThread}
    (h : thread.lines = 0) :
    Pool.total SendThread.lines (threads + {thread}) = Pool.total SendThread.lines threads := by
  rw [Pool.total_add, Pool.total_singleton, h, add_zero]

/-- What `send_log` does with a line it accepts. -/
theorem accept_spec {s : LogSystem} {runId : ℤ} {stepId level msg : String} :
    (s.accept cfg c runId stepId level msg).client.buffer = c.buffer ∧
      (s.accept cfg c runId stepId level msg).client.droppedCount = c.droppedCount ∧
      (s.accept cfg c runId stepId level msg).client.seqCounters =
        Function.update c.seqCounters runId (c.seqCounters runId + 1) ∧
      (s.accept cfg c runId stepId level msg).client.logBatches =
        addLine runId ⟨stepId, c.seqCounters runId + 1, level, msg⟩ c.logBatches ∧
      Pool.total SendThread.lines (s.accept cfg c runId stepId level msg).threads =
        Pool.total SendThread.lines s.threads ∧
      (s.accept cfg c runId stepId level msg).accepted =
        s.accepted ++ [(runId, ⟨stepId, c.seqCounters runId + 1, level, msg⟩)] ∧
      (s.accept cfg c runId stepId level msg).delivered = s.delivered ∧
      (s.accept cfg c runId stepId level msg).dropped = s.dropped ∧
      (s.accept cfg c runId stepId level msg).reported = s.reported := by
  rw [LogSystem.accept]
  dsimp only
  split_ifs
  · exact ⟨rfl, rfl, rfl, rfl, total_enter rfl, rfl, rfl, rfl, rfl⟩
  · exact ⟨rfl, rfl, rfl, rfl, rfl, rfl, rfl, rfl, rfl⟩
  · exact ⟨rfl, rfl, rfl, rfl, rfl, rfl, rfl, rfl, rfl⟩

/-- A line that is accepted. -/
theorem Conserved.accept {s : LogSystem} (h : Conserved cfg s) {runId : ℤ}
    {stepId level msg : String} (hbuffer : c.buffer = s.client.buffer)
    (hcount : c.droppedCount = s.client.droppedCount)
    (hseq : c.seqCounters = s.client.seqCounters)
    (hbatches : c.logBatches = s.client.logBatches) :
    Conserved cfg (s.accept cfg c runId stepId level msg) := by
  obtain ⟨h1, h2, h3, h4, h5, h6, h7, h8, h9⟩ := @accept_spec cfg c s runId stepId level msg
  have hlast : ∀ x ∈ s.accepted, x.1 = runId → x.2.seq < c.seqCounters runId + 1 := by
    intro x hx hrun
    rw [hseq, Nat.lt_succ_iff, ← hrun]
    exact h.numbered x hx
  refine ⟨?_, ?_, ?_, ?_, ?_⟩
  · rw [h1, hbuffer]
    exact h.fits
  · rw [h2, h8, h9, hcount]
    exact h.counted
  · have hperm := Multiset.coe_eq_coe.mpr
      (perm_addLine runId ⟨stepId, c.seqCounters runId + 1, level, msg⟩ c.logBatches)
    rw [← Multiset.cons_coe] at hperm
    rw [LogSystem.places, LogSystem.waiting, h5, h1, h4, h7, h8, h6, hperm, hbuffer, hbatches,
      ← Multiset.coe_add, Multiset.coe_singleton, ← h.placed, LogSystem.places, LogSystem.waiting,
      ← Multiset.singleton_add]
    abel
  · rw [h6, h3]
    intro x hx
    rcases List.mem_append.mp hx with hx | hx
    · by_cases hrun : x.1 = runId
      · rw [hrun, Function.update_self]
        exact (hlast x hx hrun).le
      · rw [Function.update_of_ne hrun, hseq]
        exact h.numbered x hx
    · rw [List.mem_singleton.mp hx, Function.update_self]
  · rw [h6, List.map_append, List.nodup_append]
    refine ⟨h.distinct, by simp, ?_⟩
    rintro a ha b hb rfl
    obtain ⟨x, hx, rfl⟩ := List.mem_map.mp ha
    have heq := List.mem_singleton.mp hb
    rw [Prod.mk.injEq] at heq
    exact absurd (hlast x hx heq.1) (by rw [heq.2]; exact lt_irrefl _)

/-- What a thread and the client keep between them: what waits or is in a batch afterwards, is
delivered or is dropped, waited or was in a batch. -/
theorem waiting_advance {s : LogSystem} (hfit : s.client.buffer.length ≤ cfg.maxBuffer)
    (hmem : thread ∈ s.threads) :
    (s.advance cfg thread outcome).waiting +
        ↑(batchLines (s.advance cfg thread outcome).client.logBatches) +
        ↑(linesOf (s.client.act cfg outcome thread).delivered) +
        ↑(linesOf (s.client.act cfg outcome thread).dropped) =
      s.waiting + ↑(batchLines s.client.logBatches) := by
  have hmove := Pool.total_move SendThread.lines hmem (s.client.act cfg outcome thread).next
  have hheld := (@act_spec cfg s.client outcome thread hfit).1
  refine add_right_cancel (b := thread.lines) ?_
  rw [LogSystem.waiting, LogSystem.waiting, LogSystem.advance]
  dsimp only
  rw [held, held] at hheld
  generalize Pool.total SendThread.lines
    (Pool.move s.threads thread (s.client.act cfg outcome thread).next) = pool' at hmove ⊢
  generalize Pool.total SendThread.lines s.threads = pool at hmove ⊢
  generalize Pool.total SendThread.lines (s.client.act cfg outcome thread).next = next
    at hmove hheld
  generalize thread.lines = hand at hmove hheld ⊢
  calc _ = pool' + hand + ↑(linesOf (s.client.act cfg outcome thread).client.buffer) +
        ↑(batchLines (s.client.act cfg outcome thread).client.logBatches) +
        ↑(linesOf (s.client.act cfg outcome thread).delivered) +
        ↑(linesOf (s.client.act cfg outcome thread).dropped) := by abel
    _ = pool + (next + ↑(linesOf (s.client.act cfg outcome thread).client.buffer) +
        ↑(batchLines (s.client.act cfg outcome thread).client.logBatches) +
        ↑(linesOf (s.client.act cfg outcome thread).delivered) +
        ↑(linesOf (s.client.act cfg outcome thread).dropped)) := by
          rw [hmove]
          abel
    _ = _ := by
          rw [hheld]
          abel

/-- A step of a thread leaves the lines in the places. -/
theorem places_advance {s : LogSystem} (hfit : s.client.buffer.length ≤ cfg.maxBuffer)
    (hmem : thread ∈ s.threads) : (s.advance cfg thread outcome).places = s.places := by
  have hwait := @waiting_advance cfg outcome thread s hfit hmem
  rw [LogSystem.places, LogSystem.places, ← hwait,
    show (s.advance cfg thread outcome).delivered =
      s.delivered ++ (s.client.act cfg outcome thread).delivered from rfl,
    show (s.advance cfg thread outcome).dropped =
      s.dropped ++ (s.client.act cfg outcome thread).dropped from rfl,
    linesOf_append, linesOf_append, ← Multiset.coe_add, ← Multiset.coe_add]
  abel

/-- **Every moment conserves the lines.** -/
theorem Conserved.step {s s' : LogSystem} {op : SendOp} (h : Conserved cfg s)
    (hstep : LogSystem.Step cfg s op s') : Conserved cfg s' := by
  rw [LogSystem.Step] at hstep
  cases op with
  | sendLog runId stepId level msg now =>
      obtain ⟨hbuffer, hcount, hseq, hbatches⟩ := allowLogLocked_spec s.client now
      rw [LogSystem.step, Option.some.injEq] at hstep
      subst hstep
      split_ifs
      · exact h.accept hbuffer hcount hseq hbatches
      · refine h.of_same hbuffer hbatches hseq ?_ rfl rfl rfl rfl
        exact (congrArg (· + s.reported) hcount).trans h.counted
  | setLogRateLimit limit now =>
      rw [LogSystem.step, Option.some.injEq] at hstep
      subst hstep
      exact h.of_same rfl rfl rfl h.counted rfl rfl rfl rfl
  | flushLogs runId =>
      rw [LogSystem.step, Option.some.injEq] at hstep
      subst hstep
      exact h.of_same rfl rfl rfl h.counted (total_enter rfl) rfl rfl rfl
  | emit event =>
      rw [LogSystem.step, Option.some.injEq] at hstep
      subst hstep
      exact h.of_same rfl rfl rfl h.counted (total_enter rfl) rfl rfl rfl
  | timerFires =>
      rw [LogSystem.step] at hstep
      split_ifs at hstep
      cases hstep
      exact h.of_same rfl rfl rfl h.counted (total_enter rfl) rfl rfl rfl
  | onConnect =>
      rw [LogSystem.step, Option.some.injEq] at hstep
      subst hstep
      exact h.of_same rfl rfl rfl h.counted (total_enter rfl) rfl rfl rfl
  | onDisconnect =>
      rw [LogSystem.step, Option.some.injEq] at hstep
      subst hstep
      exact h.of_same rfl rfl rfl h.counted rfl rfl rfl rfl
  | setSio present =>
      rw [LogSystem.step, Option.some.injEq] at hstep
      subst hstep
      exact h.of_same rfl rfl rfl h.counted rfl rfl rfl rfl
  | resetDroppedCount =>
      rw [LogSystem.step, Option.some.injEq] at hstep
      subst hstep
      exact h.of_same rfl rfl rfl (Nat.zero_add _) rfl rfl rfl rfl
  | act thread outcome =>
      rw [LogSystem.step] at hstep
      split_ifs at hstep with hmem
      cases hstep
      obtain ⟨-, hfits, hcount, hseq⟩ := @act_spec cfg s.client outcome thread h.fits
      refine ⟨hfits, ?_, ?_, ?_, h.distinct⟩
      · rw [LogSystem.advance]
        dsimp only
        rw [hcount, List.length_append]
        have := h.counted
        omega
      · rw [← show s.accepted = (s.advance cfg thread outcome).accepted from rfl, ← h.placed]
        exact places_advance h.fits hmem
      · rw [LogSystem.advance]
        dsimp only
        rw [hseq]
        exact h.numbered

/-- No line is in two places. -/
theorem Conserved.nodup {s : LogSystem} (h : Conserved cfg s) : s.places.Nodup := by
  rw [h.placed, Multiset.coe_nodup]
  exact h.distinct.of_map _

/-- A line that waits or was delivered is in no batch. -/
theorem Conserved.notMem_batch {s : LogSystem} (h : Conserved cfg s) {x : ℤ × LogLine}
    (hx : x ∈ s.waiting ∨ x ∈ linesOf s.delivered) : x ∉ batchLines s.client.logBatches := by
  have hnd := h.nodup
  rw [LogSystem.places, Multiset.nodup_add, Multiset.nodup_add, Multiset.nodup_add] at hnd
  obtain ⟨⟨⟨-, -, hwait⟩, -, hdel⟩, -, -⟩ := hnd
  intro hbatch
  rcases hx with hx | hx
  · exact Multiset.disjoint_left.mp hwait hx hbatch
  · exact Multiset.disjoint_left.mp hdel (Multiset.mem_add.mpr (.inr hbatch)) hx

/-- A line that was delivered does not wait. -/
theorem Conserved.notMem_waiting {s : LogSystem} (h : Conserved cfg s) {x : ℤ × LogLine}
    (hx : x ∈ linesOf s.delivered) : x ∉ s.waiting := by
  have hnd := h.nodup
  rw [LogSystem.places, Multiset.nodup_add, Multiset.nodup_add] at hnd
  obtain ⟨⟨-, -, hdel⟩, -, -⟩ := hnd
  exact fun hwait => Multiset.disjoint_left.mp hdel (Multiset.mem_add.mpr (.inl hwait)) hx

/-- A line of a place was accepted. -/
theorem Conserved.mem_accepted {s : LogSystem} (h : Conserved cfg s) {x : ℤ × LogLine}
    (hx : x ∈ s.waiting ∨ x ∈ linesOf s.delivered ∨ x ∈ batchLines s.client.logBatches) :
    x ∈ s.accepted := by
  rw [← Multiset.mem_coe, ← h.placed, LogSystem.places]
  simp only [Multiset.mem_add, Multiset.mem_coe]
  rcases hx with hx | hx | hx
  · exact .inl (.inl (.inl hx))
  · exact .inl (.inr hx)
  · exact .inl (.inl (.inr hx))

/-! ### The order of the lines -/

/-- The lines of each job are in the order of their numbers. -/
def Increasing (lines : List (ℤ × LogLine)) : Prop :=
  lines.Pairwise fun x y => x.1 = y.1 → x.2.seq < y.2.seq

/-- A message is with a thread, or in the buffer. -/
def LogSystem.Has (s : LogSystem) (m : Message) : Prop :=
  m ∈ s.client.buffer ∨ ∃ t ∈ s.threads, m ∈ t.hand

/-- **Numbers are given out in order**: within a batch, within a message, and what is in a batch
comes after what was taken. -/
structure Numbered (s : LogSystem) : Prop where
  batches : ∀ b ∈ s.client.logBatches, Increasing (b.2.map (Prod.mk b.1))
  messages : ∀ m, s.Has m → Increasing m.lines
  later : ∀ x, (x ∈ s.waiting ∨ x ∈ linesOf s.delivered) →
    ∀ y ∈ batchLines s.client.logBatches, x.1 = y.1 → x.2.seq < y.2.seq

/-- **The lines of each job are delivered in order**, and what waits comes after what was
delivered. -/
structure Delivered (s : LogSystem) : Prop where
  increasing : Increasing (linesOf s.delivered)
  ahead : ∀ x ∈ linesOf s.delivered, ∀ y ∈ s.waiting, x.1 = y.1 → x.2.seq < y.2.seq

/-- The messages a moment delivers. -/
def LogSystem.delivers (cfg : ClientConfig) (s : LogSystem) : SendOp → List Message
  | .act thread outcome => (s.client.act cfg outcome thread).delivered
  | _ => []

/-- **A delivery is in turn**: no earlier line of the job of the message waits elsewhere, with a
thread or in the buffer. -/
def InTurn (cfg : ClientConfig) (s : LogSystem) (op : SendOp) : Prop :=
  ∀ m ∈ s.delivers cfg op, ∀ x ∈ m.lines, ∀ y ∈ s.waiting, x.1 = y.1 →
    y ∈ m.lines ∨ x.2.seq < y.2.seq

instance (cfg : ClientConfig) (s : LogSystem) (op : SendOp) : Decidable (InTurn cfg s op) :=
  inferInstanceAs (Decidable (∀ m ∈ s.delivers cfg op, ∀ x ∈ m.lines, ∀ y ∈ s.waiting,
    x.1 = y.1 → y ∈ m.lines ∨ x.2.seq < y.2.seq))

/-- The loop of `_prepend_locked` has no other messages. -/
theorem mem_prependLocked {maxBuffer : ℕ} {messages : List Message}
    (hfit : c.buffer.length ≤ maxBuffer) {m : Message}
    (h : m ∈ (c.prependLocked maxBuffer messages).1.buffer) : m ∈ messages ∨ m ∈ c.buffer := by
  rw [← List.mem_append, ← (prependLocked_spec hfit messages).2.2]
  exact List.mem_append_left _ h

/-- **What a step of a thread moves**: a flush takes batches; the others leave the batches, move
messages of the thread and of the buffer, and deliver at most one, of the thread. -/
theorem act_moves (hfit : c.buffer.length ≤ cfg.maxBuffer) :
    (∃ runId, thread = .flush runId ∧
        (c.act cfg outcome thread).client.logBatches = leftBatches runId c.logBatches ∧
        (c.act cfg outcome thread).client.buffer = c.buffer ∧
        (c.act cfg outcome thread).next = {.emitting (messagesOf
          (takenBatches runId c.logBatches))} ∧
        (c.act cfg outcome thread).delivered = []) ∨
      ((c.act cfg outcome thread).client.logBatches = c.logBatches ∧
        (∀ m, (m ∈ (c.act cfg outcome thread).client.buffer ∨
          ∃ t ∈ (c.act cfg outcome thread).next, m ∈ t.hand) →
            m ∈ thread.hand ∨ m ∈ c.buffer) ∧
        ((c.act cfg outcome thread).delivered = [] ∨
          ∃ m ∈ thread.hand, (c.act cfg outcome thread).delivered = [m])) := by
  have hsingle : ∀ {t : SendThread} {m : Message},
      (∃ t' ∈ ({t} : Multiset SendThread), m ∈ t'.hand) → m ∈ t.hand := by
    rintro t m ⟨t', ht', hm⟩
    rwa [Multiset.mem_singleton.mp ht'] at hm
  cases thread with
  | flush runId => exact .inl ⟨runId, rfl, rfl, rfl, rfl, rfl⟩
  | timer =>
      refine .inr ⟨rfl, fun m hm => .inr ?_, .inl rfl⟩
      rcases hm with hm | hm
      · exact hm
      · cases hsingle hm
  | marking =>
      refine .inr ⟨rfl, fun m hm => .inr ?_, .inl rfl⟩
      rcases hm with hm | ⟨t, ht, -⟩
      · exact hm
      · cases ht
  | draining =>
      rw [Client.act]
      split_ifs
      · refine .inr ⟨rfl, fun m hm => .inr ?_, .inl rfl⟩
        rcases hm with hm | ⟨t, ht, -⟩
        · exact hm
        · cases ht
      · refine .inr ⟨rfl, fun m hm => .inr ?_, .inl rfl⟩
        rcases hm with hm | hm
        · cases hm
        · exact hsingle hm
  | emitting messages =>
      cases messages with
      | nil =>
          refine .inr ⟨rfl, fun m hm => .inr ?_, .inl rfl⟩
          rcases hm with hm | ⟨t, ht, -⟩
          · exact hm
          · cases ht
      | cons first rest =>
          rw [Client.act, Client.emitStep]
          split_ifs
          · refine .inr ⟨rfl, fun m hm => ?_, .inr ⟨first, List.mem_cons_self, rfl⟩⟩
            rcases hm with hm | hm
            · exact .inr hm
            · exact .inl (List.mem_cons_of_mem first (hsingle hm))
          · refine .inr ⟨rfl, fun m hm => ?_, .inl rfl⟩
            rcases hm with hm | hm
            · rcases List.mem_append.mp (List.mem_of_mem_drop hm) with hm | hm
              · exact .inr hm
              · exact .inl (List.mem_singleton.mp hm ▸ List.mem_cons_self)
            · exact .inl (List.mem_cons_of_mem first (hsingle hm))
  | replaying messages =>
      cases messages with
      | nil =>
          refine .inr ⟨rfl, fun m hm => .inr ?_, .inl rfl⟩
          rcases hm with hm | ⟨t, ht, -⟩
          · exact hm
          · cases ht
      | cons first rest =>
          rw [Client.act]
          split_ifs
          · refine .inr ⟨rfl, fun m hm => ?_, .inr ⟨first, List.mem_cons_self, rfl⟩⟩
            rcases hm with hm | hm
            · exact .inr hm
            · exact .inl (List.mem_cons_of_mem first (hsingle hm))
          · refine .inr ⟨rfl, fun m hm => ?_, .inl rfl⟩
            rcases hm with hm | hm
            · exact .inr hm
            · exact .inl (@hsingle (.puttingBack (first :: rest)) m hm)
  | puttingBack messages =>
      have hbatches := congrArg Client.logBatches (prependLocked_spec hfit messages).1
      refine .inr ⟨hbatches, fun m hm => ?_, .inl rfl⟩
      rcases hm with hm | hm
      · exact mem_prependLocked hfit hm
      · cases hsingle hm

variable {s s' : LogSystem}

/-- A moment that leaves the lines and messages where they are. -/
theorem Numbered.of_same (h : Numbered s) (hbatches : s'.client.logBatches = s.client.logBatches)
    (hwaiting : s'.waiting = s.waiting) (hdelivered : s'.delivered = s.delivered)
    (hhas : ∀ m, s'.Has m → s.Has m) : Numbered s' := by
  refine ⟨hbatches ▸ h.batches, fun m hm => h.messages m (hhas m hm), ?_⟩
  rw [hwaiting, hdelivered, hbatches]
  exact h.later

/-- A thread that enters with other events only. -/
theorem has_enter {threads : Multiset SendThread} (hthreads : s'.threads = s.threads + threads)
    (hbuffer : s'.client.buffer = s.client.buffer)
    (hlines : ∀ t ∈ threads, ∀ m ∈ t.hand, m.lines = []) {m : Message} (hm : s'.Has m) :
    s.Has m ∨ m.lines = [] := by
  rcases hm with hm | ⟨t, ht, hm⟩
  · exact .inl (.inl (hbuffer ▸ hm))
  · rw [hthreads] at ht
    rcases Multiset.mem_add.mp ht with ht | ht
    · exact .inl (.inr ⟨t, ht, hm⟩)
    · exact .inr (hlines t ht m hm)

/-- A moment where a thread enters. -/
theorem Numbered.of_enter (h : Numbered s) {thread : SendThread}
    (hlines : ∀ m ∈ thread.hand, m.lines = [])
    (hthreads : s'.threads = s.threads + {thread})
    (hbuffer : s'.client.buffer = s.client.buffer)
    (hbatches : s'.client.logBatches = s.client.logBatches)
    (hdelivered : s'.delivered = s.delivered) : Numbered s' := by
  have hzero : thread.lines = 0 := by
    rw [SendThread.lines, linesOf, List.flatMap_eq_nil_iff.mpr hlines, Multiset.coe_nil]
  have hwaiting : s'.waiting = s.waiting := by
    rw [LogSystem.waiting, LogSystem.waiting, hthreads, total_enter hzero, hbuffer]
  refine ⟨hbatches ▸ h.batches, fun m hm => ?_, ?_⟩
  · have hall : ∀ t ∈ ({thread} : Multiset SendThread), ∀ m ∈ t.hand, m.lines = [] := by
      intro t ht
      rw [Multiset.mem_singleton.mp ht]
      exact hlines
    rcases has_enter hthreads hbuffer hall hm with hm | hm
    · exact h.messages m hm
    · rw [hm]
      exact List.Pairwise.nil
  · rw [hwaiting, hdelivered, hbatches]
    exact h.later

/-- A line that is accepted is numbered after the others. -/
theorem Numbered.accept (h : Numbered s) (hc : Conserved cfg s) {runId : ℤ}
    {stepId level msg : String} (hbuffer : c.buffer = s.client.buffer)
    (hseq : c.seqCounters = s.client.seqCounters)
    (hbatches : c.logBatches = s.client.logBatches) :
    Numbered (s.accept cfg c runId stepId level msg) := by
  obtain ⟨h1, -, -, h4, h5, -, h7, -, -⟩ := @accept_spec cfg c s runId stepId level msg
  have hlast : ∀ x ∈ s.accepted, x.1 = runId → x.2.seq < c.seqCounters runId + 1 := by
    intro x hx hrun
    rw [hseq, Nat.lt_succ_iff, ← hrun]
    exact hc.numbered x hx
  have hwaiting : (s.accept cfg c runId stepId level msg).waiting = s.waiting := by
    rw [LogSystem.waiting, LogSystem.waiting, h5, h1, hbuffer]
  refine ⟨?_, ?_, ?_⟩
  · rw [h4, hbatches]
    intro b hb
    rcases mem_addLine hb with hb | rfl | ⟨ls, hls, rfl⟩
    · exact h.batches b hb
    · exact List.pairwise_singleton ..
    · rw [List.map_append]
      refine List.pairwise_append.mpr ⟨h.batches _ hls, List.pairwise_singleton .., ?_⟩
      intro x hx y hy _
      obtain rfl := List.mem_singleton.mp hy
      obtain ⟨l, hl, rfl⟩ := List.mem_map.mp hx
      have hmem : (runId, l) ∈ batchLines s.client.logBatches :=
        mem_batchLines.mpr ⟨_, hls, rfl, hl⟩
      exact hlast _ (hc.mem_accepted (.inr (.inr hmem))) rfl
  · intro m hm
    refine h.messages m ?_
    rcases hm with hm | ⟨t, ht, hm⟩
    · rw [h1, hbuffer] at hm
      exact .inl hm
    · have hthreads : (s.accept cfg c runId stepId level msg).threads = s.threads ∨
          (s.accept cfg c runId stepId level msg).threads =
            s.threads + {.flush (some runId)} := by
        rw [LogSystem.accept]
        split_ifs
        · exact .inr rfl
        · exact .inl rfl
        · exact .inl rfl
      rcases hthreads with heq | heq
      · rw [heq] at ht
        exact .inr ⟨t, ht, hm⟩
      · rw [heq] at ht
        rcases Multiset.mem_add.mp ht with ht | ht
        · exact .inr ⟨t, ht, hm⟩
        · rw [Multiset.mem_singleton.mp ht] at hm
          cases hm
  · rw [hwaiting, h7, h4, hbatches]
    intro x hx y hy hxy
    rcases List.mem_cons.mp ((perm_addLine ..).subset hy) with rfl | hy
    · exact hlast x (hc.mem_accepted (hx.imp_right .inl)) hxy
    · exact h.later x hx y hy hxy

/-- What waits or is delivered after a step of a thread was waiting or in a batch. -/
theorem mem_of_advance (hfit : s.client.buffer.length ≤ cfg.maxBuffer) (hmem : thread ∈ s.threads)
    {x : ℤ × LogLine}
    (hx : x ∈ (s.advance cfg thread outcome).waiting ∨
      x ∈ linesOf (s.client.act cfg outcome thread).delivered) :
    x ∈ s.waiting ∨ x ∈ batchLines s.client.logBatches := by
  rw [← Multiset.mem_coe (l := batchLines s.client.logBatches), ← Multiset.mem_add,
    ← @waiting_advance cfg outcome thread s hfit hmem]
  simp only [Multiset.mem_add, Multiset.mem_coe]
  rcases hx with hx | hx
  · exact .inl (.inl (.inl hx))
  · exact .inl (.inr hx)

/-- **A step of a thread keeps the numbers in order.** -/
theorem Numbered.advance (h : Numbered s) (hc : Conserved cfg s) (hmem : thread ∈ s.threads)
    (hc' : Conserved cfg (s.advance cfg thread outcome)) :
    Numbered (s.advance cfg thread outcome) := by
  have hmoves := @act_moves cfg s.client outcome thread hc.fits
  refine ⟨?_, ?_, ?_⟩
  · intro b hb
    refine h.batches b ?_
    rcases hmoves with ⟨runId, -, hbatches, -⟩ | ⟨hbatches, -⟩
    · rw [show (s.advance cfg thread outcome).client.logBatches =
        leftBatches runId s.client.logBatches from hbatches] at hb
      cases runId with
      | none => cases hb
      | some runId => exact List.mem_of_mem_filter hb
    · rwa [show (s.advance cfg thread outcome).client.logBatches = s.client.logBatches from
        hbatches] at hb
  · intro m hm
    have hold : ∀ t, t ∈ Pool.move s.threads thread (s.client.act cfg outcome thread).next →
        m ∈ t.hand → s.Has m ∨
          ∃ t' ∈ (s.client.act cfg outcome thread).next, m ∈ t'.hand := by
      intro t ht hmt
      rcases Pool.mem_move ht with ht | ht
      · exact .inl (.inr ⟨t, ht, hmt⟩)
      · exact .inr ⟨t, ht, hmt⟩
    rcases hmoves with ⟨runId, rfl, -, hbuffer, hnext, -⟩ | ⟨-, hmsgs, -⟩
    · rcases hm with hm | ⟨t, ht, hmt⟩
      · exact h.messages m (.inl (hbuffer ▸ hm))
      · rcases hold t ht hmt with hm | ⟨t', ht', hmt'⟩
        · exact h.messages m hm
        · rw [hnext] at ht'
          rw [Multiset.mem_singleton.mp ht'] at hmt'
          obtain ⟨b, hb, rfl⟩ := mem_messagesOf hmt'
          refine h.batches b ?_
          cases runId with
          | none => exact hb
          | some runId => exact List.mem_of_mem_filter hb
    · refine h.messages m ?_
      rcases hm with hm | ⟨t, ht, hmt⟩
      · rcases hmsgs m (.inl hm) with hm | hm
        · exact .inr ⟨thread, hmem, hm⟩
        · exact .inl hm
      · rcases hold t ht hmt with hm | hnext
        · exact hm
        · rcases hmsgs m (.inr hnext) with hm | hm
          · exact .inr ⟨thread, hmem, hm⟩
          · exact .inl hm
  · intro x hx y hy hxy
    have hnot := hc'.notMem_batch hx
    have hybatch : y ∈ batchLines s.client.logBatches := by
      rcases hmoves with ⟨runId, -, hbatches, -⟩ | ⟨hbatches, -⟩
      · rw [show (s.advance cfg thread outcome).client.logBatches =
          leftBatches runId s.client.logBatches from hbatches] at hy
        exact (perm_takenBatches runId _).subset (List.mem_append_right _ hy)
      · rwa [show (s.advance cfg thread outcome).client.logBatches = s.client.logBatches from
          hbatches] at hy
    have hxold : x ∈ s.waiting ∨ x ∈ linesOf s.delivered ∨
        x ∈ batchLines s.client.logBatches := by
      rcases hx with hx | hx
      · exact (mem_of_advance hc.fits hmem (.inl hx)).imp_right .inr
      · rw [show (s.advance cfg thread outcome).delivered =
          s.delivered ++ (s.client.act cfg outcome thread).delivered from rfl, linesOf_append,
          List.mem_append] at hx
        rcases hx with hx | hx
        · exact .inr (.inl hx)
        · exact (mem_of_advance hc.fits hmem (.inr hx)).imp_right .inr
    rcases hxold with hxold | hxold | hxold
    · exact h.later x (.inl hxold) y hybatch hxy
    · exact h.later x (.inr hxold) y hybatch hxy
    · rcases hmoves with ⟨runId, -, hbatches, -⟩ | ⟨hbatches, -⟩
      · rw [show (s.advance cfg thread outcome).client.logBatches =
          leftBatches runId s.client.logBatches from hbatches] at hy hnot
        rcases List.mem_append.mp
          ((perm_takenBatches runId s.client.logBatches).mem_iff.mpr hxold) with htaken | hleft
        · exact absurd hxy (ne_of_taken htaken hy)
        · exact absurd hleft hnot
      · rw [show (s.advance cfg thread outcome).client.logBatches = s.client.logBatches from
          hbatches] at hnot
        exact absurd hxold hnot

/-- **Every moment keeps the numbers in order.** -/
theorem Numbered.step {op : SendOp} (h : Numbered s) (hc : Conserved cfg s)
    (hstep : LogSystem.Step cfg s op s') : Numbered s' := by
  have hc' := hc.step hstep
  rw [LogSystem.Step] at hstep
  cases op with
  | sendLog runId stepId level msg now =>
      obtain ⟨hbuffer, -, hseq, hbatches⟩ := allowLogLocked_spec s.client now
      rw [LogSystem.step, Option.some.injEq] at hstep
      subst hstep
      split_ifs
      · exact h.accept hc hbuffer hseq hbatches
      · refine h.of_same hbatches ?_ rfl fun m hm => hm.imp_left fun hm => hbuffer ▸ hm
        rw [LogSystem.waiting, LogSystem.waiting, hbuffer]
  | setLogRateLimit limit now =>
      rw [LogSystem.step, Option.some.injEq] at hstep
      subst hstep
      exact h.of_same rfl rfl rfl fun m hm => hm
  | flushLogs runId =>
      rw [LogSystem.step, Option.some.injEq] at hstep
      subst hstep
      exact h.of_enter (by simp [SendThread.hand]) rfl rfl rfl rfl
  | emit event =>
      rw [LogSystem.step, Option.some.injEq] at hstep
      subst hstep
      exact h.of_enter (by simp [SendThread.hand, Message.lines]) rfl rfl rfl rfl
  | timerFires =>
      rw [LogSystem.step] at hstep
      split_ifs at hstep
      cases hstep
      exact @Numbered.of_enter _ _ h .timer (by simp [SendThread.hand]) rfl rfl rfl rfl
  | onConnect =>
      rw [LogSystem.step, Option.some.injEq] at hstep
      subst hstep
      exact @Numbered.of_enter _ _ h .draining (by simp [SendThread.hand]) rfl rfl rfl rfl
  | onDisconnect =>
      rw [LogSystem.step, Option.some.injEq] at hstep
      subst hstep
      exact h.of_same rfl rfl rfl fun m hm => hm
  | setSio present =>
      rw [LogSystem.step, Option.some.injEq] at hstep
      subst hstep
      exact h.of_same rfl rfl rfl fun m hm => hm
  | resetDroppedCount =>
      rw [LogSystem.step, Option.some.injEq] at hstep
      subst hstep
      exact h.of_same rfl rfl rfl fun m hm => hm
  | act thread outcome =>
      rw [LogSystem.step] at hstep
      split_ifs at hstep with hmem
      cases hstep
      exact h.advance hc hmem hc'

/-- A step of a thread that delivers in turn. -/
theorem Delivered.advance (h : Delivered s) (hn : Numbered s) (hc : Conserved cfg s)
    (hmem : thread ∈ s.threads) (hc' : Conserved cfg (s.advance cfg thread outcome))
    (hturn : InTurn cfg s (.act thread outcome)) :
    Delivered (s.advance cfg thread outcome) := by
  have hlog : (s.advance cfg thread outcome).delivered =
      s.delivered ++ (s.client.act cfg outcome thread).delivered := rfl
  have hold : ∀ x ∈ linesOf s.delivered, ∀ y, (y ∈ (s.advance cfg thread outcome).waiting ∨
      y ∈ linesOf (s.client.act cfg outcome thread).delivered) → x.1 = y.1 →
        x.2.seq < y.2.seq := by
    intro x hx y hy hxy
    rcases mem_of_advance hc.fits hmem hy with hwait | hbatch
    · exact h.ahead x hx y hwait hxy
    · exact hn.later x (.inr hx) y hbatch hxy
  rcases (act_moves hc.fits : _ ∨ _) with ⟨-, -, -, -, -, hnone⟩ | ⟨hbatches, -, hone⟩
  · refine ⟨?_, ?_⟩
    · rw [hlog, hnone, List.append_nil]
      exact h.increasing
    · rw [hlog, hnone, List.append_nil]
      exact fun x hx y hy => hold x hx y (.inl hy)
  · rcases hone with hnone | ⟨m, hm, hone⟩
    · refine ⟨?_, ?_⟩
      · rw [hlog, hnone, List.append_nil]
        exact h.increasing
      · rw [hlog, hnone, List.append_nil]
        exact fun x hx y hy => hold x hx y (.inl hy)
    · have hlines : linesOf (s.advance cfg thread outcome).delivered =
          linesOf s.delivered ++ m.lines := by
        rw [hlog, hone, linesOf_append, linesOf_cons, linesOf_nil, List.append_nil]
      have hdel : linesOf (s.client.act cfg outcome thread).delivered = m.lines := by
        rw [hone, linesOf_cons, linesOf_nil, List.append_nil]
      refine ⟨?_, ?_⟩
      · rw [hlines]
        refine List.pairwise_append.mpr ⟨h.increasing, hn.messages m (.inr ⟨thread, hmem, hm⟩), ?_⟩
        intro x hx y hy hxy
        exact hold x hx y (.inr (hdel ▸ hy)) hxy
      · intro x hx y hy hxy
        rw [hlines, List.mem_append] at hx
        rcases hx with hx | hx
        · exact hold x hx y (.inl hy) hxy
        · have hout : y ∉ m.lines := by
            intro hym
            refine hc'.notMem_waiting ?_ hy
            rw [hlines]
            exact List.mem_append_right _ hym
          rcases mem_of_advance hc.fits hmem (.inl hy) with hwait | hbatch
          · refine (hturn m ?_ x hx y hwait hxy).resolve_left hout
            rw [LogSystem.delivers, hone]
            exact List.mem_singleton_self m
          · refine absurd ?_ (hc'.notMem_batch (.inl hy))
            rw [show (s.advance cfg thread outcome).client.logBatches = s.client.logBatches from
              hbatches]
            exact hbatch

/-- A moment that delivers nothing and moves no line. -/
theorem Delivered.of_same (h : Delivered s) (hwaiting : s'.waiting = s.waiting)
    (hdelivered : s'.delivered = s.delivered) : Delivered s' := by
  refine ⟨?_, ?_⟩
  · rw [hdelivered]
    exact h.increasing
  · rw [hdelivered, hwaiting]
    exact h.ahead

/-- **Every delivery in turn keeps the order.** -/
theorem Delivered.step {op : SendOp} (h : Delivered s) (hn : Numbered s) (hc : Conserved cfg s)
    (hturn : InTurn cfg s op) (hstep : LogSystem.Step cfg s op s') : Delivered s' := by
  have hc' := hc.step hstep
  have henter : ∀ {thread : SendThread} {c : Client}, thread.lines = 0 →
      c.buffer = s.client.buffer →
      ({ s with client := c, threads := s.threads + {thread} } : LogSystem).waiting =
        s.waiting := by
    intro thread c hlines hbuffer
    rw [LogSystem.waiting, LogSystem.waiting, total_enter hlines, hbuffer]
  rw [LogSystem.Step] at hstep
  cases op with
  | sendLog runId stepId level msg now =>
      obtain ⟨hbuffer, -, -, -⟩ := allowLogLocked_spec s.client now
      obtain ⟨h1, -, -, -, h5, -, h7, -, -⟩ :=
        @accept_spec cfg (s.client.allowLogLocked now).2 s runId stepId level msg
      rw [LogSystem.step, Option.some.injEq] at hstep
      subst hstep
      split_ifs
      · refine h.of_same ?_ h7
        rw [LogSystem.waiting, LogSystem.waiting, h5, h1, hbuffer]
      · refine h.of_same ?_ rfl
        rw [LogSystem.waiting, LogSystem.waiting, hbuffer]
  | setLogRateLimit limit now =>
      rw [LogSystem.step, Option.some.injEq] at hstep
      subst hstep
      exact h.of_same rfl rfl
  | flushLogs runId =>
      rw [LogSystem.step, Option.some.injEq] at hstep
      subst hstep
      exact h.of_same (henter rfl rfl) rfl
  | emit event =>
      rw [LogSystem.step, Option.some.injEq] at hstep
      subst hstep
      exact h.of_same (henter rfl rfl) rfl
  | timerFires =>
      rw [LogSystem.step] at hstep
      split_ifs at hstep
      cases hstep
      exact h.of_same (henter rfl rfl) rfl
  | onConnect =>
      rw [LogSystem.step, Option.some.injEq] at hstep
      subst hstep
      exact h.of_same (henter rfl rfl) rfl
  | onDisconnect =>
      rw [LogSystem.step, Option.some.injEq] at hstep
      subst hstep
      exact h.of_same rfl rfl
  | setSio present =>
      rw [LogSystem.step, Option.some.injEq] at hstep
      subst hstep
      exact h.of_same rfl rfl
  | resetDroppedCount =>
      rw [LogSystem.step, Option.some.injEq] at hstep
      subst hstep
      exact h.of_same rfl rfl
  | act thread outcome =>
      rw [LogSystem.step] at hstep
      split_ifs at hstep with hmem
      cases hstep
      exact h.advance hn hc hmem hc' hturn

end Act

/-! ### Runs -/

/-- A new client. -/
theorem Conserved.initial (cfg : ClientConfig) : Conserved cfg .initial :=
  ⟨Nat.zero_le _, rfl, rfl, by simp [LogSystem.initial], List.nodup_nil⟩

/-- A new client. -/
theorem Numbered.initial : Numbered .initial := by
  refine ⟨by simp [LogSystem.initial, Client.initial], ?_, ?_⟩
  · rintro m (hm | ⟨t, ht, -⟩)
    · cases hm
    · cases ht
  · intro x _ y hy
    cases hy

/-- A new client. -/
theorem Delivered.initial : Delivered .initial := by
  refine ⟨List.Pairwise.nil, ?_⟩
  intro x hx
  cases hx

/-- The default limits. -/
def defaultConfig : ClientConfig := ⟨1000, 50⟩

/-- A line is accepted and flushed while the Agent is not connected, and then replayed. -/
def replayedOps : List SendOp :=
  [.sendLog 1 "s1" "INFO" "first" 0, .flushLogs none, .act (.flush none) true,
    .act (.emitting [.stepLog 1 [⟨"s1", 1, "INFO", "first"⟩]]) true, .setSio true, .onConnect,
    .act .draining true]

/-- The replay. -/
def replayOp : SendOp := .act (.replaying [.stepLog 1 [⟨"s1", 1, "INFO", "first"⟩]]) true

end StabilityPlatform.StepLogs
