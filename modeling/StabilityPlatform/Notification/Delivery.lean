import StabilityPlatform.Core.PyVal
import StabilityPlatform.Lib.Dict
import StabilityPlatform.Lib.Run

/-!
# Dispatching a notification

An event is dispatched to the channels of the rules that match it. What a send comes to is kept in
two stores: a row for each channel in the table of deliveries, and a record in the log of the event.
A retry of the dispatch finds the log and sends to the channels that have not accepted the message.

## Main results

* `dispatchNotification`: one attempt.
* `due`: **what an attempt sends to a channel**, from the state before it.
* `RowsExact`: the rows tell the last outcome and the number of the sends.
* `notification_sent_once_iff`: over any number of attempts whose writes succeed, the rows are
  exact; **no channel is sent what it has accepted** exactly if no attempt has more than one send to
  a channel due after one that is accepted, and **an attempt raises as it should** exactly if no
  failure is made good by a later send to its channel.
-/

namespace StabilityPlatform.Notification

open Lib

/-! ### Results of sends -/

/-- `DeliveryOutcome`. -/
inductive DeliveryOutcome where
  | accepted
  | rejectedPermanent
  | rejectedTransient
  | unknown
  deriving DecidableEq, Repr

/-- The value of an outcome. -/
def DeliveryOutcome.value : DeliveryOutcome → String
  | .accepted => "ACCEPTED"
  | .rejectedPermanent => "REJECTED_PERMANENT"
  | .rejectedTransient => "REJECTED_TRANSIENT"
  | .unknown => "UNKNOWN"

/-- `DeliveryResult`. -/
structure DeliveryResult where
  outcome : DeliveryOutcome
  detail : String
  deriving DecidableEq

/-- `accepted`. -/
def DeliveryResult.accepted (r : DeliveryResult) : Bool := r.outcome = .accepted

/-- `retryable`. -/
def DeliveryResult.retryable (r : DeliveryResult) : Bool :=
  r.outcome = .rejectedTransient || r.outcome = .unknown

/-- A record of `channel_delivery`. -/
structure DeliveryRecord where
  status : String
  /-- `outcome`; records of the first version have none. -/
  outcome : Option String
  error : String
  deriving DecidableEq

/-- `record`. -/
def DeliveryResult.record (r : DeliveryResult) : DeliveryRecord :=
  ⟨if r.accepted then "ok" else "failed", some r.outcome.value, r.detail⟩

/-- `_delivery_state_for`. -/
def deliveryStateFor (r : DeliveryResult) : String :=
  if r.accepted then "accepted" else if r.retryable then "retrying" else "failed"

/-! ### Rules -/

/-- `NotificationChannel`. -/
structure Channel where
  id : ℤ
  type : String
  enabled : Bool
  deriving DecidableEq

/-- `AlertRule`. -/
structure AlertRule where
  eventType : String
  enabled : Bool
  filters : PyDict
  /-- `channel`, if there is one. -/
  channel : Option Channel

/-- An event. -/
structure Event where
  eventType : String
  context : PyDict

/-- `_matches_filters`. -/
def matchesFilters (filters context : PyDict) : Bool :=
  filters.all fun f =>
    match f.2 with
    | .list values => values.any fun v => (context.get f.1).pyEq v
    | v => (context.get f.1).pyEq v

/-- `pending_dispatches`: the channels of the rules that match. -/
def pendingDispatches (event : Event) (rules : List AlertRule) : List Channel :=
  rules.filterMap fun rule =>
    if rule.eventType = event.eventType && rule.enabled &&
        matchesFilters rule.filters event.context then
      rule.channel.filter fun channel => channel.enabled
    else none

/-! ### Stores -/

/-- `channel_delivery`: the records by `str(channel_id)`. -/
abbrev ChannelDelivery := List (ℤ × DeliveryRecord)

/-- `delivery[ch_key] = record`. -/
def ChannelDelivery.put (delivery : ChannelDelivery) (channelId : ℤ) (record : DeliveryRecord) :
    ChannelDelivery :=
  (channelId, record) :: delivery.filter fun p => p.1 ≠ channelId

/-- `NotificationLog`. -/
structure NotificationLog where
  id : ℕ
  /-- `source` is `PLATFORM`. -/
  isPlatform : Bool
  eventType : String
  /-- `context`, without the records. -/
  context : PyDict
  /-- `context["channel_delivery"]`. -/
  channelDelivery : ChannelDelivery

/-- `NotificationDelivery`. -/
structure DeliveryRow where
  /-- `notification_log_id`. -/
  logId : ℕ
  channelId : ℤ
  channelType : String
  state : String
  outcome : String
  attemptCount : ℕ
  lastError : Option String
  deriving DecidableEq

/-- The tables. -/
structure NotifyDb where
  logs : List NotificationLog
  deliveries : List DeliveryRow
  nextLogId : ℕ

/-- `_PRIOR_DELIVERY_SCAN_WINDOW`. -/
def priorDeliveryScanWindow : ℕ := 5000

/-- `context[field].as_string()`; nested values have a text of their own. -/
def asString : PyVal → Option String
  | .null => none
  | .str s => some s
  | .int z => some (toString z)
  | .bool b => some (if b then "true" else "false")
  | .float _ text => some text
  | v => some v.pyRepr

/-- `stored.is_(None) if value is None else stored == str(value)`. -/
def sameField (value stored : PyVal) : Bool :=
  match value with
  | .null => asString stored = none
  | v => asString stored = some v.pyStr

/-- The fields that tell events with a run apart. -/
def runFields : List String := ["run_id", "task_id", "device_serial"]

/-- Whether a log is of the event, by its context; an event without a run and without an id of its
own has no log. -/
def isLogOf (event : Event) (log : NotificationLog) : Bool :=
  match event.context.get "run_id" with
  | .null =>
    match event.context.get "notification_event_id" with
    | .str eventId => eventId ≠ "" &&
        asString (log.context.get "notification_event_id") = some eventId
    | _ => false
  | _ => runFields.all fun field =>
      sameField (event.context.get field) (log.context.get field)

/-- A log of the event. -/
def ofEvent (event : Event) (log : NotificationLog) : Bool :=
  log.eventType = event.eventType && log.isPlatform && isLogOf event log

/-- The log is within the window. -/
def inWindow (db : NotifyDb) (log : NotificationLog) : Bool :=
  db.logs.all fun other => other.id < log.id + priorDeliveryScanWindow

/-- `_load_prior_channel_delivery`: the latest matching log. -/
def loadPriorChannelDelivery (db : NotifyDb) (event : Event) : Option NotificationLog :=
  (db.logs.filter fun log => ofEvent event log && inWindow db log).argmax fun log => log.id

/-- `_load_delivery_fact_outcomes`. -/
def loadDeliveryFactOutcomes (deliveries : List DeliveryRow) (logId : ℕ) : List (ℤ × String) :=
  (deliveries.filter fun row => row.logId = logId).map fun row => (row.channelId, row.outcome)

/-! ### An attempt -/

/-- An entry of `delivery_facts`: a send and what it came to. -/
structure Fact where
  channelId : ℤ
  channelType : String
  result : DeliveryResult
  deriving DecidableEq

/-- `accepted_before`. -/
def acceptedBefore (outcomes : List (ℤ × String)) (delivery : ChannelDelivery) (channelId : ℤ) :
    Bool :=
  match outcomes.lookup channelId with
  | some outcome => outcome = DeliveryOutcome.accepted.value
  | none =>
    match delivery.lookup channelId with
    | some record => record.status = "ok" || record.outcome = some DeliveryOutcome.accepted.value
    | none => false

/-- The loop over the dispatches, each with what a send would come to: the records, and the
sends. -/
def sendLoop (outcomes : List (ℤ × String)) :
    ChannelDelivery → List Fact → ChannelDelivery × List Fact
  | delivery, [] => (delivery, [])
  | delivery, f :: rest =>
    if acceptedBefore outcomes delivery f.channelId then sendLoop outcomes delivery rest
    else
      let x := sendLoop outcomes (delivery.put f.channelId f.result.record) rest
      (x.1, f :: x.2)

/-- A row that is there. -/
def DeliveryRow.update (row : DeliveryRow) (fact : Fact) : DeliveryRow :=
  { row with
    channelType := fact.channelType
    state := deliveryStateFor fact.result
    outcome := fact.result.outcome.value
    attemptCount := row.attemptCount + 1
    lastError := if fact.result.detail = "" then none else some fact.result.detail }

/-- A new row. -/
def Fact.newRow (fact : Fact) (logId : ℕ) : DeliveryRow :=
  ⟨logId, fact.channelId, fact.channelType, deliveryStateFor fact.result,
    fact.result.outcome.value, 1,
    if fact.result.detail = "" then none else some fact.result.detail⟩

/-- The row of a log and a channel. -/
def isRowOf (logId : ℕ) (channelId : ℤ) (row : DeliveryRow) : Bool :=
  row.logId = logId && row.channelId = channelId

/-- The rows that are there, after a fact. -/
def updateRows (logId : ℕ) (deliveries : List DeliveryRow) (fact : Fact) : List DeliveryRow :=
  deliveries.map fun row => if isRowOf logId fact.channelId row then row.update fact else row

/-- `_persist_delivery_facts`. The queries of the session do not see the rows it is about to add, so
that two facts of a channel without a row add two, and the commit fails. -/
def persistDeliveryFacts (deliveries : List DeliveryRow) (logId : ℕ) (facts : List Fact) :
    Option (List DeliveryRow) :=
  let added := facts.filter fun f => !deliveries.any (isRowOf logId f.channelId)
  if (added.map Fact.channelId).Nodup then
    some (facts.foldl (updateRows logId) deliveries ++ added.map fun f => f.newRow logId)
  else none

/-- `_persist_channel_delivery`. -/
def persistChannelDelivery (logs : List NotificationLog) (logId : ℕ) (delivery : ChannelDelivery) :
    List NotificationLog :=
  logs.map fun log => if log.id = logId then { log with channelDelivery := delivery } else log

/-- The dispatches, each with what a send would come to. -/
def offered (event : Event) (rules : List AlertRule) (results : ℕ → DeliveryResult) : List Fact :=
  (pendingDispatches event rules).zipIdx.map fun x => ⟨x.1.id, x.1.type, results x.2⟩

/-- What comes of an attempt. -/
structure Attempt where
  db : NotifyDb
  sends : List Fact
  /-- It raises `NotificationDeliveryError`. -/
  raised : Bool
  written : Bool

/-- The log of the event: the one that is found, or a new one. -/
def NotifyDb.openLog (db : NotifyDb) (event : Event) : NotifyDb × NotificationLog :=
  match loadPriorChannelDelivery db event with
  | some log => (db, log)
  | none =>
    let log : NotificationLog := ⟨db.nextLogId, true, event.eventType, event.context, []⟩
    ({ db with logs := db.logs ++ [log], nextLogId := db.nextLogId + 1 }, log)

/-- `dispatch_notification`. The flags say whether the database takes the two writes at its end. -/
def dispatchNotification (db : NotifyDb) (event : Event) (rules : List AlertRule)
    (results : ℕ → DeliveryResult) (factsUp deliveryUp : Bool) : Attempt :=
  let (db, log) := db.openLog event
  let dispatches := offered event rules results
  if dispatches = [] then ⟨db, [], false, true⟩
  else
    let (delivery, facts) := sendLoop (loadDeliveryFactOutcomes db.deliveries log.id)
      log.channelDelivery dispatches
    let persisted := if factsUp then persistDeliveryFacts db.deliveries log.id facts else none
    ⟨{ db with
        deliveries := persisted.getD db.deliveries
        logs := if deliveryUp then persistChannelDelivery db.logs log.id delivery else db.logs },
      facts, facts.any fun f => f.result.retryable, persisted.isSome && deliveryUp⟩

/-! ### Attempts -/

/-- The tables, and the attempts to dispatch an event. -/
structure NotifySystem where
  db : NotifyDb
  attempts : List Attempt

/-- What happens. -/
inductive NotifyOp where
  /-- An attempt, with the rules as they are then, what sends come to, and whether the database
  takes the writes. -/
  | attempt (rules : List AlertRule) (results : ℕ → DeliveryResult) (factsUp deliveryUp : Bool)
  /-- A log of something else. -/
  | other (isPlatform : Bool) (eventType : String) (context : PyDict)

/-- All sends of the event, in order. -/
def NotifySystem.sends (s : NotifySystem) : List Fact := s.attempts.flatMap Attempt.sends

/-- A log of something else is there. -/
def NotifyDb.addLog (db : NotifyDb) (isPlatform : Bool) (eventType : String) (context : PyDict) :
    NotifyDb :=
  { db with
    logs := db.logs ++ [⟨db.nextLogId, isPlatform, eventType, context, []⟩]
    nextLogId := db.nextLogId + 1 }

/-- What happens, if it can. -/
def NotifySystem.step (event : Event) (s : NotifySystem) : NotifyOp → Option NotifySystem
  | .attempt rules results factsUp deliveryUp =>
    let a := dispatchNotification s.db event rules results factsUp deliveryUp
    some ⟨a.db, s.attempts ++ [a]⟩
  | .other isPlatform eventType context =>
    if ofEvent event ⟨s.db.nextLogId, isPlatform, eventType, context, []⟩ then none
    else some { s with db := s.db.addLog isPlatform eventType context }

/-- **The writes succeed**, and the log of the event is within the window. -/
def Written (event : Event) (s : NotifySystem) : NotifyOp → Bool
  | .attempt rules results factsUp deliveryUp =>
    (dispatchNotification s.db event rules results factsUp deliveryUp).written &&
      s.db.logs.all fun log => !ofEvent event log || inWindow s.db log
  | .other _ _ _ => true

/-- What happens, if it can and its writes succeed. -/
def NotifySystem.writtenStep (event : Event) (s : NotifySystem) (op : NotifyOp) :
    Option NotifySystem :=
  if Written event s op = true then s.step event op else none

/-- Something happens, with writes that succeed. -/
def NotifySystem.Step (event : Event) (s : NotifySystem) (op : NotifyOp) (s' : NotifySystem) :
    Prop :=
  s.writtenStep event op = some s'

/-! ### The sends of a channel -/

/-- The sends to a channel. -/
def sendsTo (facts : List Fact) (channelId : ℤ) : List Fact :=
  facts.filter fun f => f.channelId = channelId

@[simp] theorem sendsTo_nil (c : ℤ) : sendsTo [] c = [] := rfl

@[simp] theorem sendsTo_append (fs gs : List Fact) (c : ℤ) :
    sendsTo (fs ++ gs) c = sendsTo fs c ++ sendsTo gs c := List.filter_append ..

theorem sendsTo_cons_self (f : Fact) (rest : List Fact) :
    sendsTo (f :: rest) f.channelId = f :: sendsTo rest f.channelId :=
  List.filter_cons_of_pos (decide_eq_true rfl)

theorem sendsTo_cons_of_ne {f : Fact} {c : ℤ} (h : f.channelId ≠ c) (rest : List Fact) :
    sendsTo (f :: rest) c = sendsTo rest c :=
  List.filter_cons_of_neg (by simpa using h)

/-- A send to a channel. -/
theorem mem_sendsTo {facts : List Fact} {c : ℤ} {f : Fact} :
    f ∈ sendsTo facts c ↔ f ∈ facts ∧ f.channelId = c := by
  rw [sendsTo, List.mem_filter, decide_eq_true_eq]

/-- **No channel is sent what it has accepted.** -/
def NoResend (facts : List Fact) : Prop :=
  facts.Pairwise fun x y => x.channelId = y.channelId → x.result.accepted = false

/-- Channel by channel, only the last send can be accepted. -/
theorem noResend_iff {facts : List Fact} :
    NoResend facts ↔ ∀ c, (sendsTo facts c).Pairwise fun x _ => x.result.accepted = false := by
  constructor
  · intro h c
    rw [sendsTo, List.pairwise_filter]
    refine h.imp ?_
    intro x y hxy hx hy
    rw [decide_eq_true_eq] at hx hy
    exact hxy (hx.trans hy.symm)
  · intro h
    induction facts with
    | nil => exact List.Pairwise.nil
    | cons f rest ih =>
        refine List.pairwise_cons.mpr ⟨?_, ih fun c => ?_⟩
        · intro y hy hc
          have hself := h f.channelId
          rw [sendsTo_cons_self, List.pairwise_cons] at hself
          exact hself.1 y (mem_sendsTo.mpr ⟨hy, hc.symm⟩)
        · by_cases hc : f.channelId = c
          · subst hc
            have hself := h f.channelId
            rw [sendsTo_cons_self, List.pairwise_cons] at hself
            exact hself.2
          · have hother := h c
            rwa [sendsTo_cons_of_ne hc] at hother

/-- Sends after others. -/
theorem noResend_append {fs gs : List Fact} :
    NoResend (fs ++ gs) ↔ NoResend fs ∧ NoResend gs ∧
      ∀ x ∈ fs, ∀ y ∈ gs, x.channelId = y.channelId → x.result.accepted = false :=
  List.pairwise_append

/-! ### The loop -/

/-- The sends up to the first one that is accepted. -/
def untilAccepted : List Fact → List Fact
  | [] => []
  | f :: rest => if f.result.accepted then [f] else f :: untilAccepted rest

/-- An outcome is `ACCEPTED` when the result is accepted. -/
theorem value_eq_accepted_iff {r : DeliveryResult} :
    r.outcome.value = DeliveryOutcome.accepted.value ↔ r.accepted = true := by
  rw [DeliveryResult.accepted, decide_eq_true_eq]
  cases r.outcome <;> simp [DeliveryOutcome.value]

/-- A record that was put is found. -/
theorem lookup_put (delivery : ChannelDelivery) (c c' : ℤ) (record : DeliveryRecord) :
    (delivery.put c record).lookup c' = if c' = c then some record else delivery.lookup c' := by
  rw [ChannelDelivery.put]
  split_ifs with h
  · subst h
    exact List.lookup_cons_self
  · exact Dict.lookup_replace_of_ne delivery record h

/-- After a send, a channel without a row has accepted the message if the send was accepted. -/
theorem acceptedBefore_put {outcomes : List (ℤ × String)} {delivery : ChannelDelivery} {f : Fact}
    (hrow : outcomes.lookup f.channelId = none) :
    acceptedBefore outcomes (delivery.put f.channelId f.result.record) f.channelId =
      f.result.accepted := by
  rw [acceptedBefore, hrow]
  dsimp only
  rw [lookup_put, if_pos rfl, DeliveryResult.record]
  cases hacc : f.result.accepted with
  | true => rfl
  | false =>
      have hne : f.result.outcome.value ≠ DeliveryOutcome.accepted.value := by
        rw [ne_eq, value_eq_accepted_iff, hacc]
        exact Bool.false_ne_true
      simp [hne]

/-- A record of one channel says nothing of another one. -/
theorem acceptedBefore_put_of_ne {outcomes : List (ℤ × String)} {delivery : ChannelDelivery}
    {c c' : ℤ} {record : DeliveryRecord} (h : c' ≠ c) :
    acceptedBefore outcomes (delivery.put c record) c' = acceptedBefore outcomes delivery c' := by
  rw [acceptedBefore, acceptedBefore, lookup_put, if_neg h]

/-- **What the loop sends to a channel**: nothing if it has accepted the message before; everything
that is offered if it has a row that says otherwise; else what is offered up to the first send that
is accepted. -/
theorem sendsTo_sendLoop (outcomes : List (ℤ × String)) (delivery : ChannelDelivery)
    (facts : List Fact) (c : ℤ) :
    sendsTo (sendLoop outcomes delivery facts).2 c =
      if acceptedBefore outcomes delivery c then []
      else if (outcomes.lookup c).isSome then sendsTo facts c
      else untilAccepted (sendsTo facts c) := by
  induction facts generalizing delivery with
  | nil =>
      rw [sendLoop, sendsTo_nil]
      split_ifs <;> rfl
  | cons f rest ih =>
      rw [sendLoop]
      by_cases hc : f.channelId = c
      · subst hc
        rw [sendsTo_cons_self]
        cases hacc : acceptedBefore outcomes delivery f.channelId with
        | true =>
            rw [if_pos rfl, if_pos rfl, ih, if_pos hacc]
        | false =>
            rw [if_neg Bool.false_ne_true, if_neg Bool.false_ne_true]
            dsimp only
            rw [sendsTo_cons_self, ih]
            cases hrow : outcomes.lookup f.channelId with
            | some outcome =>
                have hsame : acceptedBefore outcomes
                    (delivery.put f.channelId f.result.record) f.channelId = false := by
                  rw [acceptedBefore, hrow] at hacc ⊢
                  exact hacc
                rw [hsame]
                rfl
            | none =>
                rw [acceptedBefore_put hrow, untilAccepted]
                cases f.result.accepted <;> rfl
      · rw [sendsTo_cons_of_ne hc]
        by_cases hf : acceptedBefore outcomes delivery f.channelId = true
        · rw [if_pos hf, ih]
        · rw [if_neg hf]
          dsimp only
          rw [sendsTo_cons_of_ne hc, ih, acceptedBefore_put_of_ne (Ne.symm hc)]

/-- The loop leaves records of the channels that had one and of the ones it sends to. -/
theorem lookup_sendLoop {outcomes : List (ℤ × String)} {delivery : ChannelDelivery}
    {facts : List Fact} {c : ℤ} (hnone : delivery.lookup c = none)
    (hsends : sendsTo (sendLoop outcomes delivery facts).2 c = []) :
    (sendLoop outcomes delivery facts).1.lookup c = none := by
  induction facts generalizing delivery with
  | nil => exact hnone
  | cons f rest ih =>
      rw [sendLoop] at hsends ⊢
      by_cases hf : acceptedBefore outcomes delivery f.channelId = true
      · rw [if_pos hf] at hsends ⊢
        exact ih hnone hsends
      · rw [if_neg hf] at hsends ⊢
        dsimp only at hsends ⊢
        have hc : f.channelId ≠ c := by
          rintro rfl
          rw [sendsTo_cons_self] at hsends
          cases hsends
        rw [sendsTo_cons_of_ne hc] at hsends
        refine ih ?_ hsends
        rw [lookup_put, if_neg (Ne.symm hc)]
        exact hnone

/-! ### The rows -/

/-- The rows of a log and a channel. -/
def rowsOf (deliveries : List DeliveryRow) (logId : ℕ) (c : ℤ) : List DeliveryRow :=
  deliveries.filter (isRowOf logId c)

/-- **A row is exact**: it has the last outcome and the number of the sends. -/
def DeliveryRow.Exact (row : DeliveryRow) (sends : List Fact) : Prop :=
  row.attemptCount = sends.length ∧
    sends.getLast?.map (fun f => f.result.outcome.value) = some row.outcome

/-- **The rows are exact**: a channel that was sent to has one row, an exact one, and another channel
has none. -/
def RowsExact (deliveries : List DeliveryRow) (logId : ℕ) (sends : List Fact) : Prop :=
  ∀ c, (sendsTo sends c = [] ∧ rowsOf deliveries logId c = []) ∨
    ∃ row, rowsOf deliveries logId c = [row] ∧ row.Exact (sendsTo sends c)

/-- An update leaves a row where it is. -/
theorem isRowOf_update (row : DeliveryRow) (fact : Fact) (logId : ℕ) (c : ℤ) :
    isRowOf logId c (row.update fact) = isRowOf logId c row := rfl

/-- Updates, seen from the rows of a channel. -/
theorem rowsOf_foldl (deliveries : List DeliveryRow) (logId : ℕ) (facts : List Fact) (c : ℤ) :
    rowsOf (facts.foldl (updateRows logId) deliveries) logId c =
      (rowsOf deliveries logId c).map fun row =>
        (sendsTo facts c).foldl DeliveryRow.update row := by
  induction facts generalizing deliveries with
  | nil => exact (List.map_id' _).symm
  | cons f rest ih =>
      have hone : rowsOf (updateRows logId deliveries f) logId c =
          (rowsOf deliveries logId c).map fun row =>
            if f.channelId = c then row.update f else row := by
        rw [rowsOf, updateRows, List.filter_map]
        have hkeep : (isRowOf logId c ∘ fun row =>
            if isRowOf logId f.channelId row then row.update f else row) = isRowOf logId c := by
          funext row
          rw [Function.comp_apply]
          split_ifs
          · exact isRowOf_update row f logId c
          · rfl
        rw [hkeep]
        refine List.map_congr_left fun row hrow => ?_
        have hrow' := (List.mem_filter.mp hrow).2
        rw [isRowOf, Bool.and_eq_true, decide_eq_true_eq, decide_eq_true_eq] at hrow'
        rw [isRowOf, hrow'.1, hrow'.2]
        by_cases hc : f.channelId = c
        · rw [if_pos hc, if_pos (by simp [hc])]
        · rw [if_neg hc, if_neg (by simpa using Ne.symm hc)]
      rw [List.foldl_cons, ih, hone, List.map_map]
      refine List.map_congr_left fun row _ => ?_
      by_cases hc : f.channelId = c
      · subst hc
        rw [sendsTo_cons_self]
        simp
      · rw [sendsTo_cons_of_ne hc]
        simp [hc]

/-- Updates keep a row exact. -/
theorem DeliveryRow.Exact.foldl {row : DeliveryRow} {sends : List Fact} (h : row.Exact sends)
    (more : List Fact) : (more.foldl DeliveryRow.update row).Exact (sends ++ more) := by
  induction more generalizing row sends with
  | nil => rwa [List.append_nil]
  | cons f rest ih =>
      rw [List.foldl_cons, List.append_cons]
      refine ih ⟨?_, ?_⟩
      · rw [List.length_append, List.length_singleton, ← h.1]
        rfl
      · rw [List.getLast?_concat]
        rfl

/-- A new row is exact. -/
theorem exact_newRow (f : Fact) (logId : ℕ) : (f.newRow logId).Exact [f] := ⟨rfl, rfl⟩

/-- No row of the channel is there. -/
theorem rowsOf_eq_nil {deliveries : List DeliveryRow} {logId : ℕ} {c : ℤ} :
    rowsOf deliveries logId c = [] ↔ deliveries.any (isRowOf logId c) = false := by
  rw [rowsOf, List.filter_eq_nil_iff, List.any_eq_false]

/-- New rows, seen from a channel. -/
theorem rowsOf_newRows (added : List Fact) (logId : ℕ) (c : ℤ) :
    rowsOf (added.map fun f => f.newRow logId) logId c =
      (sendsTo added c).map fun f => f.newRow logId := by
  rw [rowsOf, List.filter_map, sendsTo]
  refine congrArg _ (List.filter_congr fun f _ => ?_)
  rw [Function.comp_apply, isRowOf, Fact.newRow]
  simp

/-- Facts of different channels have one of each at most. -/
theorem length_sendsTo_le {facts : List Fact} (h : (facts.map Fact.channelId).Nodup) (c : ℤ) :
    (sendsTo facts c).length ≤ 1 := by
  have hnd : ((sendsTo facts c).map Fact.channelId).Nodup :=
    h.sublist (List.filter_sublist.map Fact.channelId)
  have hrep : (sendsTo facts c).map Fact.channelId =
      List.replicate (sendsTo facts c).length c := by
    rw [List.eq_replicate_iff, List.length_map]
    refine ⟨rfl, fun b hb => ?_⟩
    obtain ⟨f, hf, rfl⟩ := List.mem_map.mp hb
    exact (mem_sendsTo.mp hf).2
  rw [hrep, List.nodup_replicate] at hnd
  exact hnd

/-- **Writing the facts keeps the rows exact**, and no channel without a row was sent to twice. -/
theorem RowsExact.persist {deliveries deliveries' : List DeliveryRow} {logId : ℕ}
    {sends facts : List Fact} (h : RowsExact deliveries logId sends)
    (hp : persistDeliveryFacts deliveries logId facts = some deliveries') :
    RowsExact deliveries' logId (sends ++ facts) ∧
      ∀ c, rowsOf deliveries logId c = [] → (sendsTo facts c).length ≤ 1 := by
  rw [persistDeliveryFacts] at hp
  obtain ⟨hnd, heq⟩ := Option.ite_none_right_eq_some.mp hp
  have hadded : ∀ c, sendsTo (facts.filter fun f => !deliveries.any (isRowOf logId f.channelId)) c =
      if rowsOf deliveries logId c = [] then sendsTo facts c else [] := by
    intro c
    rw [sendsTo, List.filter_filter, sendsTo]
    split_ifs with hrow
    · refine List.filter_congr fun f _ => ?_
      by_cases hc : f.channelId = c
      · rw [hc, rowsOf_eq_nil.mp hrow]
        simp
      · simp [hc]
    · refine List.filter_eq_nil_iff.mpr fun f _ hf => hrow (rowsOf_eq_nil.mpr ?_)
      rw [Bool.and_eq_true, decide_eq_true_eq, Bool.not_eq_true'] at hf
      rw [← hf.1]
      exact hf.2
  have hone : ∀ c, rowsOf deliveries logId c = [] → (sendsTo facts c).length ≤ 1 := by
    intro c hrow
    have hle := length_sendsTo_le hnd c
    rwa [hadded c, if_pos hrow] at hle
  refine ⟨fun c => ?_, hone⟩
  have hrows : rowsOf deliveries' logId c =
      ((rowsOf deliveries logId c).map fun row =>
        (sendsTo facts c).foldl DeliveryRow.update row) ++
      (if rowsOf deliveries logId c = [] then sendsTo facts c else []).map fun f =>
        f.newRow logId := by
    rw [← Option.some.inj heq, ← hadded c, ← rowsOf_foldl, ← rowsOf_newRows]
    exact List.filter_append ..
  rcases h c with ⟨hsends, hrow⟩ | ⟨row, hrow, hexact⟩
  · rw [hrow, if_pos rfl, List.map_nil, List.nil_append] at hrows
    rw [hrows, sendsTo_append, hsends, List.nil_append]
    have hle := hone c hrow
    cases hfacts : sendsTo facts c with
    | nil => exact .inl ⟨rfl, rfl⟩
    | cons f rest =>
        rw [hfacts, List.length_cons] at hle
        have hnil : rest = [] := List.length_eq_zero_iff.mp (by omega)
        subst hnil
        exact .inr ⟨_, rfl, exact_newRow f logId⟩
  · rw [hrow, if_neg (List.cons_ne_nil _ _), List.map_nil, List.append_nil] at hrows
    rw [sendsTo_append]
    exact .inr ⟨_, hrows, hexact.foldl _⟩

/-! ### The state between attempts -/

/-- **Callers can tell the event from others**: it has a run, or an id of its own. -/
def Traceable (event : Event) : Bool :=
  match event.context.get "run_id" with
  | .null =>
    match event.context.get "notification_event_id" with
    | .str eventId => eventId ≠ ""
    | _ => false
  | _ => runFields.all fun field =>
    match event.context.get field with
    | .null | .str _ | .int _ => true
    | _ => false

/-- The log a dispatch creates is one of the event. -/
theorem ofEvent_self {event : Event} (h : Traceable event = true) (id : ℕ)
    (delivery : ChannelDelivery) :
    ofEvent event ⟨id, true, event.eventType, event.context, delivery⟩ = true := by
  have hfield : ∀ v : PyVal, (match v with
      | .null | .str _ | .int _ => true
      | _ => false) = true → sameField v v = true := by
    intro v hv
    cases v with
    | null => rfl
    | str s => simp [sameField, asString, PyVal.pyStr]
    | int z => simp [sameField, asString, PyVal.pyStr, PyVal.pyRepr]
    | bool b => cases hv
    | float q text => cases hv
    | list xs => cases hv
    | dict items => cases hv
  rw [ofEvent, isLogOf]
  rw [Traceable] at h
  split at h
  · split at h
    · rename_i eventId hid
      simp only [decide_true, Bool.true_and, hid]
      simpa [asString] using h
    · cases h
  · simp only [decide_true, Bool.true_and, List.all_eq_true] at h ⊢
    exact fun field hf => hfield _ (h field hf)

/-- **What the stores tell** of the sends of an event: the log has exact rows, and records of no
other channels; without a log there were no sends. -/
structure Tracked (event : Event) (s : NotifySystem) : Prop where
  fresh : ∀ row ∈ s.db.deliveries, row.logId < s.db.nextLogId
  ids : ∀ log ∈ s.db.logs, log.id < s.db.nextLogId
  log : (s.db.logs.filter (ofEvent event) = [] ∧ s.sends = []) ∨
    ∃ log, s.db.logs.filter (ofEvent event) = [log] ∧
      RowsExact s.db.deliveries log.id s.sends ∧
      ∀ c, sendsTo s.sends c = [] → log.channelDelivery.lookup c = none

/-- The log is within the window, if it is there. -/
def LogInWindow (event : Event) (db : NotifyDb) : Prop :=
  ∀ log ∈ db.logs, ofEvent event log = true → inWindow db log = true

/-- **Opening the log** finds the log of the event or creates it. -/
theorem openLog_spec {event : Event} {s : NotifySystem} (htrace : Traceable event = true)
    (h : Tracked event s) (hwindow : LogInWindow event s.db) :
    (s.db.openLog event).1.deliveries = s.db.deliveries ∧
      (s.db.nextLogId ≤ (s.db.openLog event).1.nextLogId ∧
        ∀ log ∈ (s.db.openLog event).1.logs, log.id < (s.db.openLog event).1.nextLogId) ∧
      (s.db.openLog event).1.logs.filter (ofEvent event) = [(s.db.openLog event).2] ∧
      RowsExact s.db.deliveries (s.db.openLog event).2.id s.sends ∧
      ∀ c, sendsTo s.sends c = [] → (s.db.openLog event).2.channelDelivery.lookup c = none := by
  have hfound : (s.db.logs.filter fun log => ofEvent event log && inWindow s.db log) =
      s.db.logs.filter (ofEvent event) := by
    refine List.filter_congr fun log hlog => ?_
    cases hof : ofEvent event log with
    | false => rfl
    | true => rw [hwindow log hlog hof]; rfl
  rw [NotifyDb.openLog, loadPriorChannelDelivery, hfound]
  rcases h.log with ⟨hnone, hsends⟩ | ⟨log, hone, hrows, hrecords⟩
  · rw [hnone, List.argmax_nil]
    refine ⟨rfl, ⟨Nat.le_succ _, fun log hlog => ?_⟩, ?_, ?_, fun c _ => rfl⟩
    · rcases List.mem_append.mp hlog with hlog | hlog
      · exact (h.ids log hlog).trans (Nat.lt_succ_self _)
      · rw [List.mem_singleton.mp hlog]
        exact Nat.lt_succ_self _
    · dsimp only
      rw [List.filter_append, hnone, List.nil_append]
      exact List.filter_cons_of_pos (ofEvent_self htrace _ _)
    · intro c
      refine .inl ⟨by rw [hsends]; rfl, ?_⟩
      refine List.filter_eq_nil_iff.mpr fun row hrow hof => ?_
      rw [isRowOf, Bool.and_eq_true, decide_eq_true_eq] at hof
      exact absurd hof.1 (h.fresh row hrow).ne
  · rw [hone, List.argmax_singleton]
    exact ⟨rfl, ⟨le_rfl, h.ids⟩, hone, hrows, hrecords⟩

/-- Rows that are written are of the log, or of logs that had rows. -/
theorem logId_of_persist {deliveries deliveries' : List DeliveryRow} {logId : ℕ}
    {facts : List Fact} (h : persistDeliveryFacts deliveries logId facts = some deliveries')
    {row : DeliveryRow} (hrow : row ∈ deliveries') :
    row.logId = logId ∨ ∃ row' ∈ deliveries, row'.logId = row.logId := by
  have hfold : ∀ (fs : List Fact) (ds : List DeliveryRow), ∀ r ∈ fs.foldl (updateRows logId) ds,
      ∃ r' ∈ ds, r'.logId = r.logId := by
    intro fs
    induction fs with
    | nil => exact fun ds r hr => ⟨r, hr, rfl⟩
    | cons f rest ih =>
        intro ds r hr
        obtain ⟨r', hr', heq⟩ := ih _ r hr
        obtain ⟨r'', hr'', rfl⟩ := List.mem_map.mp hr'
        refine ⟨r'', hr'', heq ▸ ?_⟩
        split_ifs <;> rfl
  rw [persistDeliveryFacts] at h
  obtain ⟨-, heq⟩ := Option.ite_none_right_eq_some.mp h
  rw [← Option.some.inj heq, List.mem_append] at hrow
  rcases hrow with hrow | hrow
  · exact .inr (hfold facts deliveries row hrow)
  · obtain ⟨f, -, rfl⟩ := List.mem_map.mp hrow
    exact .inl rfl

/-- The outcome that is found for a channel. -/
theorem lookup_outcomes (deliveries : List DeliveryRow) (logId : ℕ) (c : ℤ) :
    (loadDeliveryFactOutcomes deliveries logId).lookup c =
      (rowsOf deliveries logId c).head?.map fun row => row.outcome := by
  rw [loadDeliveryFactOutcomes, rowsOf]
  induction deliveries with
  | nil => rfl
  | cons row rest ih =>
      by_cases hlog : row.logId = logId
      · by_cases hc : row.channelId = c
        · rw [List.filter_cons_of_pos (by simpa using hlog),
            List.filter_cons_of_pos (by simp [isRowOf, hlog, hc]), List.map_cons, hc,
            List.lookup_cons_self]
          rfl
        · have hbeq : (c == row.channelId) = false := beq_eq_false_iff_ne.mpr (Ne.symm hc)
          rw [List.filter_cons_of_pos (by simpa using hlog),
            List.filter_cons_of_neg (by simp [isRowOf, hc]), List.map_cons, List.lookup_cons,
            hbeq]
          exact ih
      · rw [List.filter_cons_of_neg (by simpa using hlog),
          List.filter_cons_of_neg (by simp [isRowOf, hlog])]
        exact ih

/-- **What is due to a channel**, from the state before an attempt and what is offered to it: nothing
after it has accepted the message; everything that is offered if it has a row that says otherwise;
else the first thing that is offered. -/
def due (db : NotifyDb) (event : Event) (facts : List Fact) (c : ℤ) : List Fact :=
  match (loadDeliveryFactOutcomes db.deliveries (db.openLog event).2.id).lookup c with
  | some outcome =>
    if outcome = DeliveryOutcome.accepted.value then [] else sendsTo facts c
  | none => (sendsTo facts c).take 1

/-- Sends up to the first accepted one, if they are not many. -/
theorem untilAccepted_eq_take {facts : List Fact} (h : (untilAccepted facts).length ≤ 1) :
    untilAccepted facts = facts.take 1 := by
  cases facts with
  | nil => rfl
  | cons f rest =>
      rw [untilAccepted] at h ⊢
      split_ifs at h ⊢ with hacc
      · rfl
      · rw [List.length_cons] at h
        rw [List.length_eq_zero_iff.mp (by omega : (untilAccepted rest).length = 0)]
        rfl

section Attempt

variable {event : Event} {s s' : NotifySystem} {rules : List AlertRule}
  {results : ℕ → DeliveryResult} {factsUp deliveryUp : Bool}

/-- An attempt at a log, when there is something to dispatch and the writes succeed. -/
theorem dispatch_eq
    (hne : offered event rules results ≠ [])
    (hwritten : (dispatchNotification s.db event rules results factsUp deliveryUp).written =
      true) :
    ∃ deliveries, persistDeliveryFacts (s.db.openLog event).1.deliveries
        (s.db.openLog event).2.id (sendLoop (loadDeliveryFactOutcomes
          (s.db.openLog event).1.deliveries (s.db.openLog event).2.id)
          (s.db.openLog event).2.channelDelivery (offered event rules results)).2 =
          some deliveries ∧
      dispatchNotification s.db event rules results factsUp deliveryUp =
        ⟨{ (s.db.openLog event).1 with
            deliveries := deliveries
            logs := persistChannelDelivery (s.db.openLog event).1.logs (s.db.openLog event).2.id
              (sendLoop (loadDeliveryFactOutcomes (s.db.openLog event).1.deliveries
                (s.db.openLog event).2.id) (s.db.openLog event).2.channelDelivery
                (offered event rules results)).1 },
          (sendLoop (loadDeliveryFactOutcomes (s.db.openLog event).1.deliveries
            (s.db.openLog event).2.id) (s.db.openLog event).2.channelDelivery
            (offered event rules results)).2,
          (sendLoop (loadDeliveryFactOutcomes (s.db.openLog event).1.deliveries
            (s.db.openLog event).2.id) (s.db.openLog event).2.channelDelivery
            (offered event rules results)).2.any fun f => f.result.retryable, true⟩ := by
  rw [dispatchNotification] at hwritten ⊢
  dsimp only at hwritten ⊢
  rw [if_neg hne] at hwritten ⊢
  generalize sendLoop (loadDeliveryFactOutcomes (s.db.openLog event).1.deliveries
    (s.db.openLog event).2.id) (s.db.openLog event).2.channelDelivery
    (offered event rules results) = x at hwritten ⊢
  rw [Bool.and_eq_true, Option.isSome_iff_exists] at hwritten
  obtain ⟨⟨deliveries, hsome⟩, rfl⟩ := hwritten
  cases factsUp with
  | false => cases hsome
  | true =>
      rw [if_pos rfl] at hsome
      exact ⟨deliveries, hsome, by rw [if_pos rfl, hsome]; rfl⟩

/-- **An attempt** whose writes succeed keeps the stores in step with the sends, and sends to each
channel what is due to it. -/
theorem attempt_spec (htrace : Traceable event = true) (h : Tracked event s)
    (hwindow : LogInWindow event s.db)
    (hwritten : (dispatchNotification s.db event rules results factsUp deliveryUp).written =
      true) :
    let a := dispatchNotification s.db event rules results factsUp deliveryUp
    Tracked event ⟨a.db, s.attempts ++ [a]⟩ ∧
      (∀ c, sendsTo a.sends c = due s.db event (offered event rules results) c) ∧
      a.raised = a.sends.any fun f => f.result.retryable := by
  intro a
  have ha : a = dispatchNotification s.db event rules results factsUp deliveryUp := rfl
  obtain ⟨hdel, ⟨hnext, hids⟩, hlog, hrows, hrecords⟩ := openLog_spec htrace h hwindow
  have hsends : (⟨a.db, s.attempts ++ [a]⟩ : NotifySystem).sends = s.sends ++ a.sends := by
    rw [NotifySystem.sends, List.flatMap_append, List.flatMap_singleton]
    rfl
  by_cases hne : offered event rules results = []
  · have hsame : a = ⟨(s.db.openLog event).1, [], false, true⟩ := by
      rw [ha, dispatchNotification]
      dsimp only
      rw [if_pos hne]
    refine ⟨⟨?_, ?_, .inr ⟨(s.db.openLog event).2, ?_, ?_, ?_⟩⟩, fun c => ?_, ?_⟩
    · rw [hsame]
      dsimp only
      rw [hdel]
      exact fun row hrow => (h.fresh row hrow).trans_le hnext
    · rw [hsame]
      exact hids
    · rw [hsame]
      exact hlog
    · rw [hsends, hsame]
      dsimp only
      rw [hdel, List.append_nil]
      exact hrows
    · rw [hsends, hsame]
      dsimp only
      rw [List.append_nil]
      exact hrecords
    · rw [hsame, due, hne]
      split
      · split_ifs <;> rfl
      · rfl
    · rw [hsame]
      rfl
  · obtain ⟨deliveries, hpersist, hsame⟩ := dispatch_eq hne hwritten
    rw [hdel] at hpersist hsame
    rw [← ha] at hsame
    generalize hx : sendLoop (loadDeliveryFactOutcomes s.db.deliveries (s.db.openLog event).2.id)
      (s.db.openLog event).2.channelDelivery (offered event rules results) = x
      at hpersist hsame
    obtain ⟨hexact, hone⟩ := hrows.persist hpersist
    have haccepted : ∀ c, rowsOf s.db.deliveries (s.db.openLog event).2.id c = [] →
        acceptedBefore (loadDeliveryFactOutcomes s.db.deliveries (s.db.openLog event).2.id)
          (s.db.openLog event).2.channelDelivery c = false := by
      intro c hrow
      have hnone : sendsTo s.sends c = [] := by
        rcases hrows c with ⟨hnil, -⟩ | ⟨row, hrow', -⟩
        · exact hnil
        · rw [hrow] at hrow'
          cases hrow'
      rw [acceptedBefore, lookup_outcomes, hrow, List.head?_nil, Option.map_none]
      dsimp only
      rw [hrecords c hnone]
    have hmem : (s.db.openLog event).2 ∈ (s.db.openLog event).1.logs :=
      List.mem_of_mem_filter (hlog ▸ List.mem_singleton_self _)
    refine ⟨⟨?_, ?_, .inr ⟨{ (s.db.openLog event).2 with channelDelivery := x.1 }, ?_, ?_, ?_⟩⟩,
      fun c => ?_, ?_⟩
    · rw [hsame]
      intro row hrow
      rcases logId_of_persist hpersist hrow with heq | ⟨row', hrow', heq⟩
      · rw [heq]
        exact hids _ hmem
      · rw [← heq]
        exact (h.fresh row' hrow').trans_le hnext
    · rw [hsame]
      intro log hmem'
      obtain ⟨log', hlog', rfl⟩ := List.mem_map.mp hmem'
      split_ifs
      · exact hids log' hlog'
      · exact hids log' hlog'
    · rw [hsame]
      dsimp only
      have hkeep : (ofEvent event ∘ fun log => if log.id = (s.db.openLog event).2.id then
          { log with channelDelivery := x.1 } else log) = ofEvent event := by
        funext log
        rw [Function.comp_apply]
        split_ifs <;> rfl
      rw [persistChannelDelivery, List.filter_map, hkeep, hlog, List.map_singleton, if_pos rfl]
    · rw [hsends, hsame]
      exact hexact
    · rw [hsends, hsame]
      dsimp only
      intro c hc
      rw [sendsTo_append, List.append_eq_nil_iff] at hc
      rw [← hx] at hc ⊢
      exact lookup_sendLoop (hrecords c hc.1) hc.2
    · have hloop := sendsTo_sendLoop
        (loadDeliveryFactOutcomes s.db.deliveries (s.db.openLog event).2.id)
        (s.db.openLog event).2.channelDelivery (offered event rules results) c
      rw [hsame, due, ← hx, lookup_outcomes]
      dsimp only
      rw [hx] at hloop ⊢
      cases hrow : rowsOf s.db.deliveries (s.db.openLog event).2.id c with
      | nil =>
          have hle := hone c hrow
          rw [haccepted c hrow, if_neg Bool.false_ne_true, lookup_outcomes, hrow] at hloop
          rw [hloop] at hle ⊢
          exact untilAccepted_eq_take hle
      | cons row rest =>
          rw [hloop, acceptedBefore, lookup_outcomes, hrow]
          dsimp only [List.head?_cons, Option.map_some]
          simp only [decide_eq_true_eq, Option.isSome_some, if_true]
    · rw [hsame]

end Attempt

/-! ### Runs -/

/-- **A send that is due is the last one that can be accepted**: of what an attempt has to send to a
channel, nothing but the last is accepted. -/
def Apart (event : Event) (s : NotifySystem) : NotifyOp → Prop
  | .attempt rules results _ _ => ∀ c, (due s.db event (offered event rules results) c).Pairwise
      fun x _ => x.result.accepted = false
  | .other _ _ _ => True

/-- The last send to some channel failed in a way that can be retried. -/
def LastRetryable (facts : List Fact) : Prop :=
  ∃ c, ∃ f ∈ (sendsTo facts c).getLast?, f.result.retryable = true

/-- **No failure is made good**: if something that is due fails in a way that can be retried, so does
the last thing that is due to some channel. -/
def Unmasked (event : Event) (s : NotifySystem) : NotifyOp → Prop
  | .attempt rules results _ _ =>
    (∃ c, ∃ f ∈ due s.db event (offered event rules results) c, f.result.retryable = true) →
      ∃ c, ∃ f ∈ (due s.db event (offered event rules results) c).getLast?,
        f.result.retryable = true
  | .other _ _ _ => True

/-- **An attempt raises as it should**: exactly when the last send to some channel failed in a way
that can be retried. -/
def Attempt.RaisesAsItShould (a : Attempt) : Prop := a.raised = true ↔ LastRetryable a.sends

section Run

variable {event : Event} {s s' : NotifySystem} {op : NotifyOp}

/-- An attempt whose writes succeed finds the log in the window. -/
theorem logInWindow_of_written {rules : List AlertRule} {results : ℕ → DeliveryResult}
    {factsUp deliveryUp : Bool}
    (h : Written event s (.attempt rules results factsUp deliveryUp) = true) :
    LogInWindow event s.db := by
  rw [Written, Bool.and_eq_true, List.all_eq_true] at h
  intro log hlog hof
  have := h.2 log hlog
  rwa [hof, Bool.not_true, Bool.false_or] at this

/-- **Every step** keeps the stores in step with the sends. -/
theorem Tracked.step (h : Tracked event s) (htrace : Traceable event = true)
    (hstep : NotifySystem.Step event s op s') : Tracked event s' := by
  obtain ⟨hwritten, hstep⟩ := Option.ite_none_right_eq_some.mp hstep
  cases op with
  | attempt rules results factsUp deliveryUp =>
      rw [NotifySystem.step, Option.some.injEq] at hstep
      subst hstep
      refine (attempt_spec htrace h (logInWindow_of_written hwritten) ?_).1
      rw [Written, Bool.and_eq_true] at hwritten
      exact hwritten.1
  | other isPlatform eventType context =>
      rw [NotifySystem.step] at hstep
      split_ifs at hstep with hof
      cases hstep
      have hfilter : (s.db.addLog isPlatform eventType context).logs.filter (ofEvent event) =
          s.db.logs.filter (ofEvent event) := by
        rw [NotifyDb.addLog, List.filter_append, List.filter_cons_of_neg hof, List.filter_nil,
          List.append_nil]
      refine ⟨fun row hrow => (h.fresh row hrow).trans (Nat.lt_succ_self _), fun log hlog => ?_, ?_⟩
      · rcases List.mem_append.mp hlog with hlog | hlog
        · exact (h.ids log hlog).trans (Nat.lt_succ_self _)
        · rw [List.mem_singleton.mp hlog]
          exact Nat.lt_succ_self _
      · dsimp only
        rw [hfilter]
        exact h.log

/-- **A step sends nothing again** exactly if it is apart. -/
theorem noResend_step (h : Tracked event s) (htrace : Traceable event = true)
    (hsafe : NoResend s.sends) (hstep : NotifySystem.Step event s op s') :
    NoResend s'.sends ↔ Apart event s op := by
  obtain ⟨hwritten, hstep⟩ := Option.ite_none_right_eq_some.mp hstep
  cases op with
  | other isPlatform eventType context =>
      rw [NotifySystem.step] at hstep
      split_ifs at hstep
      cases hstep
      exact iff_of_true hsafe trivial
  | attempt rules results factsUp deliveryUp =>
      have hwindow := logInWindow_of_written hwritten
      rw [Written, Bool.and_eq_true] at hwritten
      obtain ⟨-, hdue, -⟩ := attempt_spec htrace h hwindow hwritten.1
      rw [NotifySystem.step, Option.some.injEq] at hstep
      subst hstep
      generalize dispatchNotification s.db event rules results factsUp deliveryUp = a at hdue ⊢
      have hsends : (⟨a.db, s.attempts ++ [a]⟩ : NotifySystem).sends = s.sends ++ a.sends := by
        rw [NotifySystem.sends, List.flatMap_append, List.flatMap_singleton]
        rfl
      have hcross : ∀ x ∈ s.sends, ∀ y ∈ a.sends, x.channelId = y.channelId →
          x.result.accepted = false := by
        intro x hx y hy hxy
        by_contra hacc
        rw [Bool.not_eq_false] at hacc
        obtain ⟨-, -, -, hrows, -⟩ := openLog_spec htrace h hwindow
        have hxc : x ∈ sendsTo s.sends x.channelId := mem_sendsTo.mpr ⟨hx, rfl⟩
        have hyc : y ∈ due s.db event (offered event rules results) x.channelId := by
          rw [← hdue, mem_sendsTo]
          exact ⟨hy, hxy.symm⟩
        rcases hrows x.channelId with ⟨hnil, -⟩ | ⟨row, hrow, -, hlast⟩
        · rw [hnil] at hxc
          cases hxc
        · have hxlast : (sendsTo s.sends x.channelId).getLast? = some x := by
            have hpair := noResend_iff.mp hsafe x.channelId
            obtain ⟨before, after, hsplit⟩ := List.append_of_mem hxc
            rw [hsplit] at hpair ⊢
            cases after with
            | nil => exact List.getLast?_concat
            | cons z rest =>
                have hz := (List.pairwise_cons.mp (List.pairwise_append.mp hpair).2.1).1 z
                  List.mem_cons_self
                rw [hacc] at hz
                cases hz
          rw [hxlast, Option.map_some, Option.some.injEq] at hlast
          rw [due, lookup_outcomes, hrow, List.head?_cons, Option.map_some] at hyc
          dsimp only at hyc
          rw [← hlast, value_eq_accepted_iff.mpr hacc, if_pos rfl] at hyc
          cases hyc
      rw [hsends, noResend_append, @noResend_iff a.sends, Apart]
      simp only [hdue]
      exact ⟨fun hall => hall.2.1, fun hall => ⟨hsafe, hall, hcross⟩⟩

/-- **A step raises as it should** exactly if it is unmasked. -/
theorem raises_step (h : Tracked event s) (htrace : Traceable event = true)
    (hsafe : ∀ a ∈ s.attempts, a.RaisesAsItShould) (hstep : NotifySystem.Step event s op s') :
    (∀ a ∈ s'.attempts, a.RaisesAsItShould) ↔ Unmasked event s op := by
  obtain ⟨hwritten, hstep⟩ := Option.ite_none_right_eq_some.mp hstep
  cases op with
  | other isPlatform eventType context =>
      rw [NotifySystem.step] at hstep
      split_ifs at hstep
      cases hstep
      exact iff_of_true hsafe trivial
  | attempt rules results factsUp deliveryUp =>
      have hwindow := logInWindow_of_written hwritten
      rw [Written, Bool.and_eq_true] at hwritten
      obtain ⟨-, hdue, hraised⟩ := attempt_spec htrace h hwindow hwritten.1
      rw [NotifySystem.step, Option.some.injEq] at hstep
      subst hstep
      generalize dispatchNotification s.db event rules results factsUp deliveryUp = a
        at hdue hraised ⊢
      have hsome : a.raised = true ↔
          ∃ c, ∃ f ∈ due s.db event (offered event rules results) c,
            f.result.retryable = true := by
        rw [hraised, List.any_eq_true]
        constructor
        · rintro ⟨f, hf, hr⟩
          refine ⟨f.channelId, f, ?_, hr⟩
          rw [← hdue, mem_sendsTo]
          exact ⟨hf, rfl⟩
        · rintro ⟨c, f, hf, hr⟩
          rw [← hdue, mem_sendsTo] at hf
          exact ⟨f, hf.1, hr⟩
      have hlast : LastRetryable a.sends → ∃ c, ∃ f ∈
          due s.db event (offered event rules results) c, f.result.retryable = true := by
        rintro ⟨c, f, hf, hr⟩
        rw [hdue c] at hf
        exact ⟨c, f, List.mem_of_getLast? hf, hr⟩
      have hnew : a.RaisesAsItShould ↔ Unmasked event s
          (.attempt rules results factsUp deliveryUp) := by
        rw [Attempt.RaisesAsItShould, hsome, Unmasked, LastRetryable]
        simp only [hdue]
        constructor
        · exact fun hiff => hiff.mp
        · refine fun hmp => ⟨hmp, fun hl => hlast ?_⟩
          rw [LastRetryable]
          simpa only [hdue] using hl
      rw [← hnew, List.forall_mem_append]
      constructor
      · exact fun hall => hall.2 a (List.mem_singleton_self a)
      · refine fun hshould => ⟨hsafe, fun b hb => ?_⟩
        rw [List.mem_singleton.mp hb]
        exact hshould

end Run

/-- Before the first attempt: no log of the event is there. -/
structure Unsent (event : Event) (s : NotifySystem) : Prop where
  attempts : s.attempts = []
  log : ∀ log ∈ s.db.logs, ofEvent event log = false
  fresh : ∀ row ∈ s.db.deliveries, row.logId < s.db.nextLogId
  ids : ∀ log ∈ s.db.logs, log.id < s.db.nextLogId

/-- An event with an id of its own. -/
def riskEvent : Event := ⟨"RISK_HIGH", [("notification_event_id", .str "e1")]⟩

/-- Tables without anything of the event. -/
def emptySystem : NotifySystem := ⟨⟨[], [], 1⟩, []⟩

/-- A rule of the channel. -/
def riskRule : AlertRule := ⟨"RISK_HIGH", true, [], some ⟨7, "WEBHOOK", true⟩⟩

/-- A send that fails for now. -/
def failsForNow : ℕ → DeliveryResult := fun _ => ⟨.rejectedTransient, "HTTP 503"⟩

/-- A send that is accepted. -/
def isAccepted : ℕ → DeliveryResult := fun _ => ⟨.accepted, "HTTP 200"⟩

/-- A new system has nothing of the event. -/
theorem unsent_emptySystem : Unsent riskEvent emptySystem :=
  ⟨rfl, by simp [emptySystem], by simp [emptySystem], by simp [emptySystem]⟩

end StabilityPlatform.Notification
