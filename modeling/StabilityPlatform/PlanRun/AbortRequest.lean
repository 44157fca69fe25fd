import StabilityPlatform.Core.IsoFormat
import StabilityPlatform.Lease.LeaseManager
import StabilityPlatform.PlanRun.Aggregation

/-!
# Abort requests

What `abort_plan_run` writes to the context of a run, and what the abort reaper reads from it.
A run-level request has its clock and the list of the jobs it names under `abort_requested`; a
host-level request adds its jobs to that list and has its clock under `abort_requested_hosts`.
The list covers every job when it is missing or empty.

## Main results

* `recordAbortRequest`, `refreshRequested`: the two writes of an abort.
* `abortReapClock`: the clock a job is reaped by.
* `AbortLedger`: what the requests come to; `Records`: a context that records a ledger.
* `Records.record`, `Records.refresh`: **the writes** go through, and keep the ledger.
* `Records.reapClock`: **the readers** see the ledger.
-/

namespace StabilityPlatform

/-! ### Reading -/

/-- A context as a mapping. -/
def contextOf (runContext : PyVal) : PyDict := (runContext.asDict?).getD []

/-- `abort_request_covers_job`. -/
def abortRequestCoversJob (runContext : PyVal) (jobId : ℕ) : Bool :=
  match ((contextOf runContext).get "abort_requested").asDict? with
  | none => true
  | some abort =>
    match (abort.get "requested_job_ids").asList? with
    | none => true
    | some requested =>
      if requested.isEmpty then true
      else
        match requested.mapM PyVal.int? with
        | none => true
        | some ids => ids.contains (jobId : ℤ)

/-- `host_abort_clock_at`. -/
def hostAbortClockAt (runContext : PyVal) (hostId : Option String) : PyVal :=
  match hostId with
  | none => .null
  | some hostId =>
    if hostId = "" then .null
    else
      match ((contextOf runContext).get "abort_requested_hosts").asDict? with
      | none => .null
      | some hosts =>
        match (hosts.get hostId).asDict? with
        | none => .null
        | some clock => clock.get "at"

/-- Whom an abort clock belongs to. -/
inductive AbortSubject where
  | run
  | host
  deriving DecidableEq

/-- The clock of the run, whether or not it covers a job. -/
def runAbortClockAt (runContext : PyVal) : PyVal :=
  match ((contextOf runContext).get "abort_requested").asDict? with
  | none => .null
  | some abort => abort.get "at"

/-- `abort_reap_clock`: the earlier of the clocks that cover a job. -/
def abortReapClock (runContext : PyVal) (jobId : ℕ) (hostId : Option String) :
    Option (Time × AbortSubject) :=
  let runAt := if abortRequestCoversJob runContext jobId then
    parseAbortAt (runAbortClockAt runContext) else none
  match runAt, parseAbortAt (hostAbortClockAt runContext hostId) with
  | none, none => none
  | some runAt, none => some (runAt, .run)
  | none, some hostAt => some (hostAt, .host)
  | some runAt, some hostAt => if hostAt < runAt then some (hostAt, .host) else some (runAt, .run)

/-! ### Writing -/

/-- `list(v or [])`. -/
def listOr (v : PyVal) : Except PyError (List PyVal) := (v.orElse (.list [])).pyIter

/-- `list(dict.fromkeys(xs))`: the first of equal members, in order. -/
def dictFromKeys (xs : List PyVal) : Except PyError (List PyVal) :=
  if xs.all PyVal.isHashable then
    .ok (xs.foldl (fun seen x => if seen.any x.pyEq then seen else seen ++ [x]) [])
  else .error .typeError

/-- `jsonb_set` with a path of two keys, which creates only the last one. -/
def jsonbSetIn (d : PyDict) (key key' : String) (v : PyVal) : Except PyError PyDict :=
  match d.get key with
  | .dict items => .ok (d.set key (.dict (PyDict.set items key' v)))
  | .list _ => .error .dataError
  | _ => .ok d

/-- A call of an abort. -/
structure AbortCall where
  hostId : Option String
  reason : String
  triggeredBy : Option String
  abortAckGraceSeconds : ℤ

/-- Job ids as JSON. -/
def jobIdValues (jobIds : List ℕ) : List PyVal := jobIds.map fun jobId : ℕ => .int jobId

/-- The clock a request starts. -/
def AbortCall.clock (call : AbortCall) (now : Time) : PyDict :=
  [("at", .str (isoformat now)), ("reason", .str call.reason),
    ("triggered_by", .ofStr? call.triggeredBy),
    ("deadline_at", .str (isoformat (Time.addSeconds now call.abortAckGraceSeconds)))]

/-- What a request puts under `abort_requested`: a host-level one keeps what is there and adds
its running jobs, a run-level one starts over. -/
def abortRequestedPayload (call : AbortCall) (now : Time) (runContext : PyDict)
    (running : List ℕ) : Except PyError PyDict := do
  let existing := ((runContext.get "abort_requested").orElse (.dict [])).asDict?.getD []
  let existingRequested ← listOr (existing.get "requested_job_ids")
  let existingAck ← listOr (existing.get "acknowledged_job_ids")
  match call.hostId with
  | some _ => do
    let merged ← dictFromKeys (existingRequested ++ jobIdValues running)
    return existing.update [("reason", .str call.reason),
      ("triggered_by", .ofStr? call.triggeredBy), ("requested_job_ids", .list merged),
      ("acknowledged_job_ids", .list existingAck)]
  | none => return (call.clock now).update [("requested_job_ids", .list (jobIdValues running)),
      ("acknowledged_job_ids", .list [])]

/-- The clock a host has, if it was started. -/
def existingHostClock (runContext : PyDict) (hostId : String) : Option PyDict :=
  ((runContext.get "abort_requested_hosts").asDict?.bind fun hosts =>
    (PyDict.get hosts hostId).asDict?).filter fun clock => (PyDict.get clock "at").truthy

/-- The clock of a host: the first request starts it, later ones leave it. -/
def hostClockPayload (call : AbortCall) (now : Time) (runContext : PyDict) (hostId : String) :
    PyDict :=
  match existingHostClock runContext hostId with
  | some clock => clock.update [("reason", .str call.reason),
      ("triggered_by", .ofStr? call.triggeredBy)]
  | none => call.clock now

/-- `_ensure_abort_hosts_key`. -/
def ensureAbortHostsKey (runContext : PyDict) : PyDict :=
  runContext.set "abort_requested_hosts"
    (.dict ((runContext.get "abort_requested_hosts").asDict?.getD []))

/-- The first write of an abort: the request, and the clock of the host. -/
def recordAbortRequest (call : AbortCall) (now : Time) (runContext : PyDict)
    (running : List ℕ) : Except PyError PyDict := do
  let payload ← abortRequestedPayload call now runContext running
  let patched := runContext.set "abort_requested" (.dict payload)
  match call.hostId with
  | none => .ok patched
  | some hostId =>
    jsonbSetIn (ensureAbortHostsKey patched) "abort_requested_hosts" hostId
      (.dict (hostClockPayload call now runContext hostId))

/-- The second write of an abort: the jobs it asked, added to those listed by now. -/
def refreshRequested (runContext : PyDict) (requested : List ℕ) : Except PyError PyDict := do
  let abort ← match ((runContext.get "abort_requested").orElse (.dict [])).asDict? with
    | some abort => .ok abort
    | none => .error .attributeError
  let current ← listOr (abort.get "requested_job_ids")
  let refreshed ← dictFromKeys (current ++ jobIdValues requested)
  jsonbSetIn runContext "abort_requested" "requested_job_ids" (.list refreshed)

/-! ### What requests come to -/

/-- The clock of the run with the jobs it names, and the clocks of hosts. -/
structure AbortLedger where
  runAt : Option Time
  requested : List ℕ
  hostAt : String → Option Time

namespace AbortLedger

/-- Whether the clock of the run covers a job. -/
def Covers (l : AbortLedger) (jobId : ℕ) : Prop := l.requested = [] ∨ jobId ∈ l.requested

instance (l : AbortLedger) (jobId : ℕ) : Decidable (l.Covers jobId) :=
  inferInstanceAs (Decidable (_ ∨ _))

/-- The clock of the host a job is on. -/
def hostClock (l : AbortLedger) (hostId : Option String) : Option Time :=
  (hostId.filter (· ≠ "")).bind l.hostAt

/-- The clock of the run, for the jobs it covers. -/
def runClock (l : AbortLedger) (jobId : ℕ) : Option Time :=
  if l.Covers jobId then l.runAt else none

/-- The earlier of the clocks that cover a job. -/
def reapAt (l : AbortLedger) (jobId : ℕ) (hostId : Option String) : Option Time :=
  match l.runClock jobId, l.hostClock hostId with
  | none, hostAt => hostAt
  | some runAt, none => some runAt
  | some runAt, some hostAt => some (min runAt hostAt)

/-- The members of a second list that are new, put at the end of the first. -/
def addNew (seen : List ℕ) (xs : List ℕ) : List ℕ :=
  xs.foldl (fun seen x => if x ∈ seen then seen else seen ++ [x]) seen

/-- A request. -/
def record (l : AbortLedger) (hostId : Option String) (now : Time) (running : List ℕ) :
    AbortLedger :=
  match hostId with
  | none => { l with runAt := some now, requested := running }
  | some hostId => { l with
      requested := addNew [] (l.requested ++ running)
      hostAt := Function.update l.hostAt hostId (some ((l.hostAt hostId).getD now)) }

/-- Jobs named later. -/
def refresh (l : AbortLedger) (requested : List ℕ) : AbortLedger :=
  { l with requested := addNew [] (l.requested ++ requested) }

/-- What is in a list with new members. -/
theorem mem_addNew {seen xs : List ℕ} {x : ℕ} : x ∈ addNew seen xs ↔ x ∈ seen ∨ x ∈ xs := by
  induction xs generalizing seen with
  | nil => simp [addNew]
  | cons y rest ih =>
      change x ∈ addNew (if y ∈ seen then seen else seen ++ [y]) rest ↔ _
      rw [ih]
      by_cases hy : y ∈ seen
      · rw [if_pos hy, List.mem_cons]
        constructor
        · rintro (h | h)
          · exact .inl h
          · exact .inr (.inr h)
        · rintro (h | rfl | h)
          · exact .inl h
          · exact .inl hy
          · exact .inr h
      · rw [if_neg hy, List.mem_append, List.mem_singleton, List.mem_cons, or_assoc]

end AbortLedger

/-! ### Contexts that record a ledger -/

/-- A clock as a value. -/
def RecordsClock (v : PyVal) : Option Time → Prop
  | none => v = .null
  | some t => IsMoment t ∧ v = .str (isoformat t)

/-- What is under `abort_requested`. -/
structure RecordsRequest (v : PyVal) (l : AbortLedger) : Prop where
  shape : v = .null ∨ ∃ items, v = .dict items
  clock : RecordsClock ((contextOf v).get "at") l.runAt
  listed : (contextOf v).get "requested_job_ids" = .list (jobIdValues l.requested) ∨
    (contextOf v).get "requested_job_ids" = .null ∧ l.requested = []
  acknowledged : ∃ ids, listOr ((contextOf v).get "acknowledged_job_ids") = .ok ids

/-- What is under `abort_requested_hosts`. -/
structure RecordsHosts (v : PyVal) (l : AbortLedger) : Prop where
  shape : v = .null ∨ ∃ items, v = .dict items
  entries : ∀ hostId, (contextOf v).get hostId = .null ∨
    ∃ clock, (contextOf v).get hostId = .dict clock
  clock : ∀ hostId, RecordsClock ((contextOf ((contextOf v).get hostId)).get "at") (l.hostAt hostId)

/-- A context that records a ledger. -/
structure Records (runContext : PyDict) (l : AbortLedger) : Prop where
  request : RecordsRequest (runContext.get "abort_requested") l
  hosts : RecordsHosts (runContext.get "abort_requested_hosts") l

/-- A context no abort has written to. -/
theorem records_fresh {runContext : PyDict} (hrun : runContext.get "abort_requested" = .null)
    (hhosts : runContext.get "abort_requested_hosts" = .null) :
    Records runContext ⟨none, [], fun _ => none⟩ := by
  refine ⟨?_, ?_⟩
  · rw [hrun]
    exact ⟨.inl rfl, rfl, .inr ⟨rfl, rfl⟩, [], rfl⟩
  · rw [hhosts]
    exact ⟨.inl rfl, fun _ => .inl rfl, fun _ => rfl⟩

/-! ### Reading a ledger -/

/-- A clock reads as it was written. -/
theorem parseAbortAt_of_records {v : PyVal} {at? : Option Time} (h : RecordsClock v at?) :
    parseAbortAt v = at? := by
  cases at? with
  | none =>
      rw [show v = .null from h]
      rfl
  | some t =>
      obtain ⟨ht, rfl⟩ := h
      exact parseAbortAt_isoformat ht

/-- Job ids read as they were written. -/
theorem mapM_int?_jobIdValues (ids : List ℕ) :
    (jobIdValues ids).mapM PyVal.int? = some (ids.map fun jobId : ℕ => (jobId : ℤ)) := by
  induction ids with
  | nil => rfl
  | cons id rest ih =>
      rw [jobIdValues, List.map_cons, List.mapM_cons]
      rw [jobIdValues] at ih
      rw [ih]
      rfl

/-- The list covers the jobs of the ledger. -/
theorem RecordsRequest.covers {runContext : PyDict} {l : AbortLedger}
    (h : RecordsRequest (runContext.get "abort_requested") l) (jobId : ℕ) :
    abortRequestCoversJob (.dict runContext) jobId = true ↔ l.Covers jobId := by
  rw [abortRequestCoversJob]
  change (match (runContext.get "abort_requested").asDict? with
    | none => true
    | some abort => _) = true ↔ _
  rcases h.shape with hnull | ⟨items, hitems⟩
  · have hlisted := h.listed
    rw [hnull] at hlisted ⊢
    rcases hlisted with hlisted | ⟨-, hempty⟩
    · cases hlisted
    · exact ⟨fun _ => .inl hempty, fun _ => rfl⟩
  · have hlisted := h.listed
    rw [hitems] at hlisted ⊢
    dsimp only [PyVal.asDict?]
    rcases hlisted with hlisted | ⟨hlisted, hempty⟩
    · rw [show PyDict.get items "requested_job_ids" = .list (jobIdValues l.requested) from hlisted]
      dsimp only [PyVal.asList?]
      rw [mapM_int?_jobIdValues, AbortLedger.Covers]
      cases hids : l.requested with
      | nil => simp [jobIdValues]
      | cons id rest => simp [jobIdValues]
    · rw [show PyDict.get items "requested_job_ids" = .null from hlisted]
      exact ⟨fun _ => .inl hempty, fun _ => rfl⟩

/-- The clock of the run. -/
theorem RecordsRequest.runAt {runContext : PyDict} {l : AbortLedger}
    (h : RecordsRequest (runContext.get "abort_requested") l) :
    parseAbortAt (runAbortClockAt (.dict runContext)) = l.runAt := by
  refine parseAbortAt_of_records ?_
  have hclock := h.clock
  rw [runAbortClockAt]
  change RecordsClock (match (runContext.get "abort_requested").asDict? with
    | none => .null
    | some abort => abort.get "at") l.runAt
  rcases h.shape with hnull | ⟨items, hitems⟩
  · rw [hnull] at hclock ⊢
    exact hclock
  · rw [hitems] at hclock ⊢
    exact hclock

/-- The clock of a host. -/
theorem RecordsHosts.hostAt {runContext : PyDict} {l : AbortLedger}
    (h : RecordsHosts (runContext.get "abort_requested_hosts") l) (hostId : Option String) :
    parseAbortAt (hostAbortClockAt (.dict runContext) hostId) = l.hostClock hostId := by
  cases hostId with
  | none => rfl
  | some hostId =>
      rw [hostAbortClockAt, AbortLedger.hostClock]
      by_cases hempty : hostId = ""
      · rw [if_pos hempty, Option.filter_some, if_neg (by simpa using hempty)]
        rfl
      · rw [if_neg hempty, Option.filter_some, if_pos (by simpa using hempty), Option.bind_some]
        refine parseAbortAt_of_records ?_
        have hclock := h.clock hostId
        have hentry := h.entries hostId
        change RecordsClock (match (runContext.get "abort_requested_hosts").asDict? with
          | none => .null
          | some hosts => _) _
        rcases h.shape with hnull | ⟨items, hitems⟩
        · rw [hnull] at hclock ⊢
          exact hclock
        · rw [hitems] at hclock hentry ⊢
          change RecordsClock (match (PyDict.get items hostId).asDict? with
            | none => .null
            | some clock => clock.get "at") _
          rcases hentry with hnone | ⟨clock, hsome⟩
          · rw [show PyDict.get items hostId = .null from hnone]
            rw [show (contextOf (.dict items)).get hostId = .null from hnone] at hclock
            exact hclock
          · rw [show PyDict.get items hostId = .dict clock from hsome]
            rw [show (contextOf (.dict items)).get hostId = .dict clock from hsome] at hclock
            exact hclock

/-- **The reap clock** of a job is that of the ledger. -/
theorem Records.reapClock {runContext : PyDict} {l : AbortLedger} (h : Records runContext l)
    (jobId : ℕ) (hostId : Option String) :
    (abortReapClock (.dict runContext) jobId hostId).map Prod.fst = l.reapAt jobId hostId := by
  rw [abortReapClock, AbortLedger.reapAt, AbortLedger.runClock, h.request.runAt,
    h.hosts.hostAt hostId]
  have hcovers := h.request.covers jobId
  by_cases hcov : l.Covers jobId
  · rw [if_pos (hcovers.mpr hcov), if_pos hcov]
    cases l.runAt with
    | none => cases l.hostClock hostId <;> rfl
    | some runAt =>
        cases l.hostClock hostId with
        | none => rfl
        | some hostAt =>
            dsimp only
            split
            · rename_i hlt
              rw [min_eq_right hlt.le]
              rfl
            · rename_i hle
              rw [min_eq_left (not_lt.mp hle)]
              rfl
  · rw [if_neg fun hc => hcov (hcovers.mp hc), if_neg hcov]
    cases l.hostClock hostId <;> rfl

/-! ### Writing a ledger -/

@[simp] theorem listOr_list (xs : List PyVal) : listOr (.list xs) = .ok xs := by
  cases xs with
  | nil => rfl
  | cons x rest => rfl

@[simp] theorem listOr_null : listOr .null = .ok [] := rfl

/-- Looking for an id among ids. -/
theorem any_pyEq_jobIdValues (seen : List ℕ) (id : ℕ) :
    (jobIdValues seen).any (PyVal.int id).pyEq = decide (id ∈ seen) := by
  rw [jobIdValues, List.any_map, Bool.eq_iff_iff, List.any_eq_true, decide_eq_true_eq]
  constructor
  · rintro ⟨x, hx, heq⟩
    have hid : (id : ℤ) = x := by simpa [PyVal.pyEq, PyVal.eqWith] using heq
    rwa [Int.ofNat_inj.mp hid]
  · intro hid
    exact ⟨id, hid, by simp [PyVal.pyEq, PyVal.eqWith]⟩

/-- Concatenating ids. -/
theorem jobIdValues_append (ids ids' : List ℕ) :
    jobIdValues ids ++ jobIdValues ids' = jobIdValues (ids ++ ids') := by
  rw [jobIdValues, jobIdValues, jobIdValues, List.map_append]

/-- Ids without repetitions. -/
theorem dictFromKeys_jobIdValues (ids : List ℕ) :
    dictFromKeys (jobIdValues ids) = .ok (jobIdValues (AbortLedger.addNew [] ids)) := by
  have hfold : ∀ seen : List ℕ, (jobIdValues ids).foldl
      (fun seen x => if seen.any x.pyEq then seen else seen ++ [x]) (jobIdValues seen) =
      jobIdValues (AbortLedger.addNew seen ids) := by
    induction ids with
    | nil => exact fun _ => rfl
    | cons id rest ih =>
        intro seen
        change (jobIdValues rest).foldl _ (if (jobIdValues seen).any (PyVal.int id).pyEq then
          jobIdValues seen else jobIdValues seen ++ [PyVal.int id]) =
            jobIdValues (AbortLedger.addNew (if id ∈ seen then seen else seen ++ [id]) rest)
        rw [any_pyEq_jobIdValues, ← ih]
        by_cases hid : id ∈ seen
        · rw [if_pos (decide_eq_true hid), if_pos hid]
        · rw [if_neg (by simpa using hid), if_neg hid, ← jobIdValues_append]
          rfl
  have hhash : (jobIdValues ids).all PyVal.isHashable = true := by
    rw [jobIdValues, List.all_map, List.all_eq_true]
    exact fun _ _ => rfl
  rw [dictFromKeys, if_pos hhash]
  exact congrArg Except.ok (hfold [])

/-- The ids of a ledger. -/
theorem RecordsRequest.listOr_requested {v : PyVal} {l : AbortLedger} (h : RecordsRequest v l) :
    listOr ((contextOf v).get "requested_job_ids") = .ok (jobIdValues l.requested) := by
  rcases h.listed with hlisted | ⟨hlisted, hempty⟩
  · rw [hlisted, listOr_list]
  · rw [hlisted, hempty]
    rfl

/-- What is there when a request comes. -/
theorem RecordsRequest.existing {v : PyVal} {l : AbortLedger} (h : RecordsRequest v l) :
    (v.orElse (.dict [])).asDict?.getD [] = contextOf v := by
  rcases h.shape with rfl | ⟨items, rfl⟩
  · rfl
  · cases items with
    | nil => rfl
    | cons item rest => rfl

/-- The request of a call. -/
theorem RecordsRequest.record {now : Time} {runContext : PyDict} {l : AbortLedger}
    (h : RecordsRequest (runContext.get "abort_requested") l) (call : AbortCall)
    (running : List ℕ) (hnow : IsMoment now) :
    ∃ payload, abortRequestedPayload call now runContext running = .ok payload ∧
      RecordsRequest (.dict payload) (l.record call.hostId now running) := by
  obtain ⟨ack, hack⟩ := h.acknowledged
  rw [abortRequestedPayload, h.existing, h.listOr_requested, hack]
  cases call.hostId with
  | none =>
      refine ⟨_, rfl, .inr ⟨_, rfl⟩, ⟨hnow, rfl⟩, .inl rfl, [], rfl⟩
  | some hostId =>
      have hmerged := dictFromKeys_jobIdValues (l.requested ++ running)
      rw [← jobIdValues_append] at hmerged
      simp only [bind, Except.bind, hmerged]
      refine ⟨_, rfl, .inr ⟨_, rfl⟩, ?_, .inl ?_, ack, ?_⟩
      · change RecordsClock (PyDict.get (PyDict.update _ _) "at") l.runAt
        rw [PyDict.get_update_of_forall_ne (by simp)]
        exact h.clock
      · simp [contextOf, PyDict.update, PyVal.asDict?, PyDict.get_set_of_ne, AbortLedger.record]
      · simp [contextOf, PyDict.update, PyVal.asDict?]

/-- A mapping under a key is there. -/
theorem contains_of_get_dict {d items : PyDict} {key : String} (h : d.get key = .dict items) :
    d.contains key = true := by
  rw [PyDict.get] at h
  rw [PyDict.contains]
  cases hlookup : d.lookup key with
  | none =>
      rw [hlookup] at h
      cases h
  | some v => rfl

/-- A clock that is there is no empty text. -/
theorem isoformat_ne_empty {t : Time} (ht : IsMoment t) : isoformat t ≠ "" := by
  intro hempty
  have hread := parseAbortAt_isoformat ht
  rw [hempty] at hread
  cases hread

/-- A host with a clock has it in the context. -/
theorem RecordsHosts.existing_some {runContext : PyDict} {l : AbortLedger} {hostId : String}
    {t : Time} (h : RecordsHosts (runContext.get "abort_requested_hosts") l)
    (hat : l.hostAt hostId = some t) :
    ∃ clock, existingHostClock runContext hostId = some clock ∧
      PyDict.get clock "at" = .str (isoformat t) := by
  have hentry := h.entries hostId
  have hclock := h.clock hostId
  rw [hat] at hclock
  rw [existingHostClock]
  rcases h.shape with hnull | ⟨items, hitems⟩
  · rw [hnull] at hclock
    cases hclock.2
  · rw [hitems] at hclock hentry ⊢
    rcases hentry with hnone | ⟨clock, hsome⟩
    · rw [hnone] at hclock
      cases hclock.2
    · rw [hsome] at hclock
      have hread : PyDict.get clock "at" = .str (isoformat t) := hclock.2
      have htruthy : (PyDict.get clock "at").truthy = true := by
        rw [hread]
        simp [PyVal.truthy, isoformat_ne_empty hclock.1]
      refine ⟨clock, ?_, hread⟩
      change ((PyDict.get (contextOf (.dict items)) hostId).asDict?).filter _ = some clock
      rw [hsome]
      exact Option.filter_some.trans (if_pos htruthy)

/-- A host without a clock has none in the context. -/
theorem RecordsHosts.existing_none {runContext : PyDict} {l : AbortLedger} {hostId : String}
    (h : RecordsHosts (runContext.get "abort_requested_hosts") l)
    (hat : l.hostAt hostId = none) : existingHostClock runContext hostId = none := by
  have hentry := h.entries hostId
  have hclock := h.clock hostId
  rw [hat] at hclock
  rw [existingHostClock]
  rcases h.shape with hnull | ⟨items, hitems⟩
  · rw [hnull]
    rfl
  · rw [hitems] at hclock hentry ⊢
    change ((PyDict.get (contextOf (.dict items)) hostId).asDict?).filter _ = none
    rcases hentry with hnone | ⟨clock, hsome⟩
    · rw [hnone]
      rfl
    · rw [hsome] at hclock ⊢
      have hread : PyDict.get clock "at" = .null := hclock
      refine Option.filter_some.trans (if_neg ?_)
      rw [hread]
      exact Bool.false_ne_true

/-- The clock a call leaves for its host. -/
theorem RecordsHosts.clockPayload {call : AbortCall} {now : Time} {runContext : PyDict}
    {l : AbortLedger} {hostId : String} (hnow : IsMoment now)
    (h : RecordsHosts (runContext.get "abort_requested_hosts") l) :
    RecordsClock ((hostClockPayload call now runContext hostId).get "at")
      (some ((l.hostAt hostId).getD now)) := by
  rw [hostClockPayload]
  cases hat : l.hostAt hostId with
  | none =>
      rw [h.existing_none hat]
      exact ⟨hnow, rfl⟩
  | some t =>
      have hclock := h.clock hostId
      rw [hat] at hclock
      obtain ⟨clock, hexisting, hread⟩ := h.existing_some hat
      rw [hexisting]
      refine ⟨hclock.1, ?_⟩
      change PyDict.get (PyDict.update clock _) "at" = _
      rw [PyDict.get_update_of_forall_ne (by simp)]
      exact hread

/-- Writing the clock of a host. -/
theorem RecordsHosts.set {v : PyVal} {items : PyDict} {l l' : AbortLedger} {hostId : String}
    {clock : PyDict} {at? : Option Time} (h : RecordsHosts v l) (hitems : contextOf v = items)
    (hclock : RecordsClock (clock.get "at") at?)
    (hl : l'.hostAt = Function.update l.hostAt hostId at?) :
    RecordsHosts (.dict (items.set hostId (.dict clock))) l' := by
  subst hitems
  refine ⟨.inr ⟨_, rfl⟩, fun hostId' => ?_, fun hostId' => ?_⟩
  · change PyDict.get (PyDict.set (contextOf v) hostId _) hostId' = .null ∨
      ∃ clock, PyDict.get (PyDict.set (contextOf v) hostId _) hostId' = .dict clock
    by_cases hhost : hostId' = hostId
    · rw [hhost, PyDict.get_set_self]
      exact .inr ⟨clock, rfl⟩
    · rw [PyDict.get_set_of_ne _ _ hhost]
      exact h.entries hostId'
  · change RecordsClock ((contextOf (PyDict.get (PyDict.set (contextOf v) hostId _) hostId')).get
      "at") _
    rw [hl]
    by_cases hhost : hostId' = hostId
    · rw [hhost, PyDict.get_set_self, Function.update_self]
      exact hclock
    · rw [PyDict.get_set_of_ne _ _ hhost, Function.update_of_ne hhost]
      exact h.clock hostId'

/-- **The first write of an abort** goes through and records the request. -/
theorem Records.record {now : Time} {runContext : PyDict} {l : AbortLedger}
    (h : Records runContext l) (call : AbortCall) (running : List ℕ) (hnow : IsMoment now) :
    ∃ runContext', recordAbortRequest call now runContext running = .ok runContext' ∧
      Records runContext' (l.record call.hostId now running) ∧
      ∃ items, runContext'.get "abort_requested" = .dict items := by
  obtain ⟨payload, hpayload, hrequest⟩ := h.request.record call running hnow
  simp only [recordAbortRequest, hpayload, bind, Except.bind]
  cases hhost : call.hostId with
  | none =>
      rw [hhost] at hrequest
      refine ⟨_, rfl, ⟨?_, ?_⟩, ?_⟩
      · rw [PyDict.get_set_self]
        exact hrequest
      · rw [PyDict.get_set_of_ne _ _ (by decide)]
        exact ⟨h.hosts.shape, h.hosts.entries, h.hosts.clock⟩
      · exact ⟨_, PyDict.get_set_self _ _ _⟩
  | some hostId =>
      rw [hhost] at hrequest
      have hkept : (runContext.set "abort_requested" (.dict payload)).get
          "abort_requested_hosts" = runContext.get "abort_requested_hosts" :=
        PyDict.get_set_of_ne _ _ (by decide)
      have hensured : (ensureAbortHostsKey (runContext.set "abort_requested" (.dict payload))).get
          "abort_requested_hosts" =
            .dict (contextOf (runContext.get "abort_requested_hosts")) := by
        rw [ensureAbortHostsKey, PyDict.get_set_self, hkept]
        rfl
      have hrequested : (ensureAbortHostsKey (runContext.set "abort_requested"
          (.dict payload))).get "abort_requested" = .dict payload := by
        rw [ensureAbortHostsKey, PyDict.get_set_of_ne _ _ (by decide), PyDict.get_set_self]
      simp only [jsonbSetIn, hensured]
      have hkeys : "abort_requested" ≠ "abort_requested_hosts" := by decide
      have hwritten := PyDict.get_set_of_ne (ensureAbortHostsKey (runContext.set "abort_requested"
          (.dict payload))) (.dict (PyDict.set (contextOf (runContext.get "abort_requested_hosts"))
            hostId (.dict (hostClockPayload call now runContext hostId)))) hkeys
      rw [hrequested] at hwritten
      refine ⟨_, rfl, ⟨?_, ?_⟩, _, hwritten⟩
      · rw [hwritten]
        exact hrequest
      · rw [PyDict.get_set_self]
        exact h.hosts.set rfl (h.hosts.clockPayload hnow) rfl

/-- **The second write of an abort** goes through and records the jobs. -/
theorem Records.refresh {runContext : PyDict} {l : AbortLedger} (h : Records runContext l)
    (requested : List ℕ) (hcontains : ∃ items, runContext.get "abort_requested" = .dict items) :
    ∃ runContext', refreshRequested runContext requested = .ok runContext' ∧
      Records runContext' (l.refresh requested) ∧
      ∃ items, runContext'.get "abort_requested" = .dict items := by
  obtain ⟨items, hitems⟩ := hcontains
  have hrequest := h.request
  rw [hitems] at hrequest
  have hor : ((PyVal.dict items).orElse (.dict [])).asDict? = some items := by
    cases items with
    | nil => rfl
    | cons item rest => rfl
  have hcurrent := hrequest.listOr_requested
  have hkeys := dictFromKeys_jobIdValues (l.requested ++ requested)
  rw [← jobIdValues_append] at hkeys
  rw [show contextOf (.dict items) = items from rfl] at hcurrent
  simp only [refreshRequested, hitems, hor, bind, Except.bind, hcurrent, hkeys, jsonbSetIn]
  refine ⟨_, rfl, ⟨?_, ?_⟩, _, PyDict.get_set_self _ _ _⟩
  · rw [PyDict.get_set_self]
    refine ⟨.inr ⟨_, rfl⟩, ?_, .inl ?_, ?_⟩
    · change RecordsClock (PyDict.get (PyDict.set items _ _) "at") l.runAt
      rw [PyDict.get_set_of_ne _ _ (by decide)]
      exact hrequest.clock
    · exact PyDict.get_set_self _ _ _
    · change ∃ ids, listOr (PyDict.get (PyDict.set items _ _) "acknowledged_job_ids") = .ok ids
      rw [PyDict.get_set_of_ne _ _ (by decide)]
      exact hrequest.acknowledged
  · rw [PyDict.get_set_of_ne _ _ (by decide)]
    exact ⟨h.hosts.shape, h.hosts.entries, h.hosts.clock⟩

end StabilityPlatform
