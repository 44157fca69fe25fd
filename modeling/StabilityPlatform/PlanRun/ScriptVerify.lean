import StabilityPlatform.Lib.Fold
import StabilityPlatform.PlanRun.Admission

/-!
# Verifying the scripts of the hosts of a run

Before a run is admitted, the Agent of each of its hosts is asked whether it has the scripts the run
expects. A host with other contents is sent the right ones and asked again. Two callers do so: the
phase of the admission pump, with one round of synchronisation, and the older dispatch gate, with
rounds of its own and a limit on them.

## Main results

* `verifyScriptsPhase`, `driveDispatchGate`: the two callers, with the log of what the Agents said.
* `Verified`: the last result obtained for a host was ok.
* `phase_admits_iff`: when the phase returns normally.
* `gate_ready_iff`: when a gate that gets ready has verified its hosts.
* `admitted_hosts_verified_iff`: **no unverified host is admitted** exactly when no host of the
  phase acknowledges without rows, or another host holds the run back, and no round of the gate
  mixes syncs that fail with syncs that do not.
-/

namespace StabilityPlatform.ScriptVerify

open Lib

/-! ### Asking an Agent -/

/-- A script that is expected on the hosts. -/
structure ExpectedScript where
  name : String
  version : String
  sha256 : String
  nfsPath : String
  deriving DecidableEq

/-- What comes of the call of an Agent. -/
inductive Reply where
  /-- No Agent is connected. -/
  | offline
  /-- The call fails, or times out. -/
  | rpcFailed (text : String)
  /-- Anything else that is raised, also by an acknowledgement without a list of results. -/
  | raised (text : String)
  /-- An acknowledgement, with its `results`. -/
  | ack (rows : List PyVal)

/-- The name of the type of a value. -/
def typeName : PyVal → String
  | .null => "NoneType"
  | .bool _ => "bool"
  | .int _ => "int"
  | .float _ _ => "float"
  | .str _ => "str"
  | .list _ => "list"
  | .dict _ => "dict"

/-- `d.get(key)`. -/
def rowGet (row : PyDict) (key : String) : PyVal := (row.lookup key).getD .null

/-- `all(r.get("ok") for r in results)`; the text of the exception of a row without `get`. -/
def allOk : List PyVal → Except String Bool
  | [] => .ok true
  | row :: rest =>
    match row.asDict? with
    | none => .error ("'" ++ typeName row ++ "' object has no attribute 'get'")
    | some r => if (rowGet r "ok").truthy then allOk rest else .ok false

/-- `(ok, results, error)`. -/
structure Result where
  ok : Bool
  rows : List PyVal
  error : Option String

/-- `verify_one_host`, and what `gather_verify` makes of an exception. -/
def verifyOneHost : Reply → Result
  | .offline => ⟨false, [], some "agent_offline"⟩
  | .rpcFailed text => ⟨false, [], some ("rpc_failed: " ++ text)⟩
  | .raised text => ⟨false, [], some ("verify_exception: " ++ text)⟩
  | .ack rows =>
    if rows.isEmpty then ⟨false, [], some "sha_mismatch"⟩
    else
      match allOk rows with
      | .ok true => ⟨true, rows, none⟩
      | .ok false => ⟨false, rows, some "sha_mismatch"⟩
      | .error text => ⟨false, [], some ("verify_exception: " ++ text)⟩

/-- `gather_verify`: the results by host. -/
def gatherVerify (replies : String → Reply) (hosts : List String) : List (String × Result) :=
  hosts.map fun h => (h, verifyOneHost (replies h))

/-! ### The last result of a host -/

/-- The last result obtained for a host. -/
def lastResult (log : List (String × Result)) (h : String) : Option Result := log.reverse.lookup h

/-- **The last verification result obtained for a host was ok.** -/
def Verified (log : List (String × Result)) (h : String) : Prop :=
  ∃ r, lastResult log h = some r ∧ r.ok = true

/-- A host is looked up among results. -/
theorem lookup_gatherVerify (replies : String → Reply) (hosts : List String) (h : String) :
    (gatherVerify replies hosts).reverse.lookup h =
      if h ∈ hosts then some (verifyOneHost (replies h)) else none := by
  rw [gatherVerify, ← List.map_reverse]
  have key : ∀ l : List String, (l.map fun k => (k, verifyOneHost (replies k))).lookup h =
      if h ∈ l then some (verifyOneHost (replies h)) else none := by
    intro l
    induction l with
    | nil => rfl
    | cons k rest ih =>
        rw [List.map_cons, List.lookup_cons, ih]
        by_cases hk : h = k
        · subst hk
          simp
        · have hbeq : (h == k) = false := beq_eq_false_iff_ne.mpr hk
          simp [hbeq, hk]
  rw [key]
  simp only [List.mem_reverse]

/-- The last result after more hosts were asked. -/
theorem lastResult_append (log : List (String × Result)) (replies : String → Reply)
    (hosts : List String) (h : String) :
    lastResult (log ++ gatherVerify replies hosts) h =
      if h ∈ hosts then some (verifyOneHost (replies h)) else lastResult log h := by
  rw [lastResult, List.reverse_append, List.lookup_append, lookup_gatherVerify]
  split_ifs with hmem
  · rfl
  · rw [Option.none_or]
    rfl

/-- The last result after the hosts were first asked. -/
theorem lastResult_gatherVerify (replies : String → Reply) (hosts : List String) (h : String) :
    lastResult (gatherVerify replies hosts) h =
      if h ∈ hosts then some (verifyOneHost (replies h)) else none :=
  lookup_gatherVerify replies hosts h

/-- A host that has just been asked is verified if it answered so. -/
theorem verified_append_of_mem {log : List (String × Result)} {replies : String → Reply}
    {hosts : List String} {h : String} (hmem : h ∈ hosts) :
    Verified (log ++ gatherVerify replies hosts) h ↔ (verifyOneHost (replies h)).ok = true := by
  rw [Verified, lastResult_append, if_pos hmem]
  simp

/-- A host that has not been asked again stays as it was. -/
theorem verified_append_of_notMem {log : List (String × Result)} {replies : String → Reply}
    {hosts : List String} {h : String} (hmem : h ∉ hosts) :
    Verified (log ++ gatherVerify replies hosts) h ↔ Verified log h := by
  rw [Verified, lastResult_append, if_neg hmem]
  rfl

/-- A host that was asked once is verified if it answered so. -/
theorem verified_gatherVerify {replies : String → Reply} {hosts : List String} {h : String}
    (hmem : h ∈ hosts) :
    Verified (gatherVerify replies hosts) h ↔ (verifyOneHost (replies h)).ok = true := by
  rw [Verified, lastResult_gatherVerify, if_pos hmem]
  simp

/-! ### What a result can be -/

/-- `_is_unreachable`. -/
def isUnreachable (error : Option String) : Bool :=
  decide (error = some "agent_offline") || pyStartsWith (error.getD "") "rpc_failed" ||
    pyStartsWith (error.getD "") "verify_exception"

/-- Errors that say that a host is not reached. -/
theorem isUnreachable_prefixed {start text : String}
    (h : start = "rpc_failed: " ∨ start = "verify_exception: ") :
    isUnreachable (some (start ++ text)) = true ∧
      some (start ++ text) ≠ some "sha_mismatch" := by
  have hlist : (start ++ text).toList = start.toList ++ text.toList := String.toList_append ..
  constructor
  · rw [isUnreachable, Option.getD_some, pyStartsWith, pyStartsWith, hlist]
    rcases h with rfl | rfl
    · have hpre : "rpc_failed".toList <+: "rpc_failed: ".toList ++ text.toList :=
        (by decide : "rpc_failed".toList <+: "rpc_failed: ".toList).trans
          (List.prefix_append ..)
      rw [List.isPrefixOf_iff_prefix.mpr hpre]
      simp
    · have hpre : "verify_exception".toList <+: "verify_exception: ".toList ++ text.toList :=
        (by decide : "verify_exception".toList <+: "verify_exception: ".toList).trans
          (List.prefix_append ..)
      rw [List.isPrefixOf_iff_prefix.mpr hpre]
      simp
  · intro heq
    have hhead := congrArg (fun s => s.toList.head?) (Option.some.inj heq)
    simp only [hlist] at hhead
    rcases h with rfl | rfl
    · exact absurd hhead (by simp)
    · exact absurd hhead (by simp)

/-- **A result** is ok, or says that the host is not reached, or says that contents differ. -/
theorem verifyOneHost_cases (reply : Reply) :
    ((verifyOneHost reply).ok = true ∧ (verifyOneHost reply).error = none) ∨
      ((verifyOneHost reply).ok = false ∧ isUnreachable (verifyOneHost reply).error = true ∧
        (verifyOneHost reply).error ≠ some "sha_mismatch") ∨
      ((verifyOneHost reply).ok = false ∧ (verifyOneHost reply).error = some "sha_mismatch") := by
  cases reply with
  | offline => exact .inr (.inl ⟨rfl, rfl, by simp [verifyOneHost]⟩)
  | rpcFailed text => exact .inr (.inl ⟨rfl, isUnreachable_prefixed (.inl rfl)⟩)
  | raised text => exact .inr (.inl ⟨rfl, isUnreachable_prefixed (.inr rfl)⟩)
  | ack rows =>
      rw [verifyOneHost]
      split_ifs
      · exact .inr (.inr ⟨rfl, rfl⟩)
      · split
        · exact .inl ⟨rfl, rfl⟩
        · exact .inr (.inr ⟨rfl, rfl⟩)
        · exact .inr (.inl ⟨rfl, isUnreachable_prefixed (.inr rfl)⟩)

/-! ### The phase of the admission pump -/

/-- `by_name.get(name)`: the last of the expected scripts with the name. -/
def byName (expected : List ExpectedScript) (name : String) : Option ExpectedScript :=
  expected.reverse.find? fun e => e.name = name

/-- The expected script that a row has to be synchronised with, if it has one and it is new. -/
def wantedEntry (expected : List ExpectedScript) (seen : List String) (row : PyDict) :
    Option ExpectedScript :=
  if (rowGet row "ok").truthy || (rowGet row "package_active").truthy then none
  else
    match rowGet row "name" with
    | .str name => if name = "" ∨ name ∈ seen then none else byName expected name
    | _ => none

/-- The loop of `_mismatched_entries_for_push`; `none` when a row has no `get`. -/
def pushEntries (expected : List ExpectedScript) : List String → List PyVal →
    Option (List ExpectedScript)
  | _, [] => some []
  | seen, row :: rest =>
    match row.asDict? with
    | none => none
    | some r =>
      match wantedEntry expected seen r with
      | none => pushEntries expected seen rest
      | some e => (pushEntries expected (e.name :: seen) rest).map (e :: ·)

/-- `_mismatched_entries_for_push`. -/
def mismatchedEntriesForPush (rows : List PyVal) (expected : List ExpectedScript) :
    Option (List ExpectedScript) :=
  pushEntries expected [] rows

/-- `not r.get("ok")`, for a row that has a `get`. -/
def notOk (row : PyVal) : Bool := !(rowGet (row.asDict?.getD []) "ok").truthy

/-- What a host whose contents differ gives to the phase. -/
inductive Mismatch where
  /-- Nothing. -/
  | skipped
  /-- `mismatched_hosts[hid]`. -/
  | toPush (entries : List ExpectedScript)
  /-- It goes to `unmapped_hosts`. -/
  | unmapped
  deriving DecidableEq

/-- The loop over the results, for one host. -/
def mismatchOf (expected : List ExpectedScript) (r : Result) : Option Mismatch :=
  if r.ok || decide (r.error ≠ some "sha_mismatch") then some .skipped
  else
    match mismatchedEntriesForPush r.rows expected with
    | none => none
    | some [] => some (if r.rows.any notOk then .unmapped else .skipped)
    | some (e :: rest) => some (.toPush (e :: rest))

/-- `(ok, error)` of `push_mismatched_scripts`. -/
structure Push where
  ok : Bool
  error : Option String
  deriving DecidableEq

/-- An entry of the detail of a failure. -/
structure Blocker where
  hostId : String
  /-- `host_unreachable`, `script_sync_config_error`, `script_sync_failed`, `host_retired` or
  `no_mismatched_entries`. -/
  reason : String
  error : Option String
  deriving DecidableEq

/-- `_FATAL_PUSH_ERROR_SUBSTRINGS`. -/
def fatalPushErrorSubstrings : List String :=
  ["host_not_found", "host_missing_ip", "no_ssh_credentials", "ssh_security_config_error",
    "cannot map nfs_path", "local file not found", "host_retired"]

/-- `_is_fatal_push_error`. -/
def isFatalPushError (error : Option String) : Bool :=
  fatalPushErrorSubstrings.any fun part => pyIn part (error.getD "")

/-- `_is_host_retired_push_error`. -/
def isHostRetiredPushError (error : Option String) : Bool := pyIn "host_retired" (error.getD "")

/-- How the phase ends. -/
inductive PhaseEnd where
  /-- It returns. -/
  | returned
  /-- `_RetryableAdmission`. -/
  | retryable (queueReason : String) (blockers : List Blocker)
  /-- `_FatalAdmission`. -/
  | fatal (reason : String) (blockers : List Blocker)
  /-- `_FatalAdmission` with the hosts that still differ. -/
  | verifyFailed (hosts : List String)
  /-- Another exception. -/
  | raised
  deriving DecidableEq

/-- `_fatal_admission_for_push_failures`. -/
def fatalAdmissionForPushFailures (pushFatal : List Blocker) : PhaseEnd :=
  if pushFatal.any fun b => isHostRetiredPushError b.error then
    .fatal "HOST_RETIRED" (pushFatal.map fun b =>
      if isHostRetiredPushError b.error then { b with reason := "host_retired" } else b)
  else .fatal "script_sync_config_error" pushFatal

/-- The entry of a host that is not reached. -/
def unreachableBlocker (p : String × Result) : Option Blocker :=
  if !p.2.ok && isUnreachable p.2.error then some ⟨p.1, "host_unreachable", p.2.error⟩ else none

/-- How the phase ends and what the Agents said. -/
structure PhaseRun where
  verdict : PhaseEnd
  log : List (String × Result)

/-- The end of the phase, after what can stop it before. -/
def finishPhase (unreachable : List Blocker) : PhaseEnd :=
  if unreachable.isEmpty then .returned else .retryable "DEVICE_BUSY" unreachable

/-- The phase after the pushes: the second verification of the hosts that were synchronised. -/
def afterPush (unreachable : List Blocker) (pushes : List (String × Push))
    (reverify : List (String × Result)) : PhaseEnd :=
  let pushFatal := (pushes.filter fun p => !p.2.ok && isFatalPushError p.2.error).map fun p =>
    ⟨p.1, "script_sync_config_error", p.2.error⟩
  let pushTransient := (pushes.filter fun p => !p.2.ok && !isFatalPushError p.2.error).map fun p =>
    ⟨p.1, "script_sync_failed", p.2.error⟩
  let unreachable := unreachable ++ reverify.filterMap unreachableBlocker
  let stillMismatched := (reverify.filter fun p => !p.2.ok && !isUnreachable p.2.error).map Prod.fst
  if pushFatal ≠ [] then fatalAdmissionForPushFailures pushFatal
  else if pushTransient ≠ [] then .retryable "DEVICE_BUSY" (unreachable ++ pushTransient)
  else if stillMismatched ≠ [] then .verifyFailed (stillMismatched.mergeSort (decide <| · ≤ ·))
  else finishPhase unreachable

/-- `mismatched_hosts`. -/
def mismatchedHosts (sorted : List (String × Mismatch)) : List (String × List ExpectedScript) :=
  sorted.filterMap fun p =>
    match p.2 with
    | .toPush entries => some (p.1, entries)
    | _ => none

/-- The phase after the results were sorted: pushes, and a second verification of the hosts where
they went through. -/
def afterVerify (second : String → Reply) (push : String → List ExpectedScript → Option Push)
    (results : List (String × Result)) (sorted : List (String × Mismatch)) : PhaseRun :=
  let unreachable := results.filterMap unreachableBlocker
  let unmappedHosts := (sorted.filter fun p => p.2 = .unmapped).map Prod.fst
  if unmappedHosts ≠ [] then
    ⟨.fatal "script_sync_config_error" (unmappedHosts.map fun h =>
      ⟨h, "no_mismatched_entries", some "no_mismatched_entries"⟩), results⟩
  else if mismatchedHosts sorted ≠ [] then
    match (mismatchedHosts sorted).mapM fun p => (push p.1 p.2).map (Prod.mk p.1) with
    | none => ⟨.raised, results⟩
    | some pushes =>
      let reverify := gatherVerify second ((pushes.filter fun p => p.2.ok).map Prod.fst)
      ⟨afterPush unreachable pushes reverify, results ++ reverify⟩
  else ⟨finishPhase unreachable, results⟩

/-- `_verify_scripts_phase`: `expected` is what is loaded for the plan run, if it is still there;
`first` and `second` are what the Agents reply before and after the pushes. -/
def verifyScriptsPhase (expected : Option (List ExpectedScript)) (first second : String → Reply)
    (push : String → List ExpectedScript → Option Push) (hosts : List String) : PhaseRun :=
  match expected with
  | none => ⟨.fatal "plan_run_gone" [], []⟩
  | some [] => ⟨.fatal "no_expected_scripts" [], []⟩
  | some (e :: es) =>
    let results := gatherVerify first hosts
    match results.mapM fun p => (mismatchOf (e :: es) p.2).map (Prod.mk p.1) with
    | none => ⟨.raised, results⟩
    | some sorted => afterVerify second push results sorted

/-! ### When the phase returns -/

/-- A map that may fail gives a result when every item does. -/
theorem mapM_eq_some_iff {α β : Type} {f : α → Option β} {items : List α} {l : List β} :
    items.mapM f = some l ↔ List.Forall₂ (fun a b => f a = some b) items l := by
  induction items generalizing l with
  | nil =>
      rw [List.mapM_nil, List.forall₂_nil_left_iff]
      exact ⟨fun h => (Option.some.inj h).symm, fun h => congrArg some h.symm⟩
  | cons a rest ih =>
      rw [List.mapM_cons, List.forall₂_cons_left_iff]
      simp only [Option.bind_eq_bind, Option.bind_eq_some_iff, Option.pure_def,
        Option.some.injEq, ih]
      constructor
      · rintro ⟨b, hb, bs, hbs, rfl⟩
        exact ⟨b, bs, hb, hbs, rfl⟩
      · rintro ⟨b, bs, hb, hbs, rfl⟩
        exact ⟨b, hb, bs, hbs, rfl⟩

/-- A map that may fail gives a result when every item has one. -/
theorem exists_mapM_eq_some {α β : Type} {f : α → Option β} {items : List α}
    (h : ∀ a ∈ items, ∃ b, f a = some b) : ∃ l, items.mapM f = some l := by
  induction items with
  | nil => exact ⟨[], rfl⟩
  | cons a rest ih =>
      obtain ⟨b, hb⟩ := h a List.mem_cons_self
      obtain ⟨l, hl⟩ := ih fun x hx => h x (List.mem_cons_of_mem a hx)
      exact ⟨b :: l, by rw [List.mapM_cons, hb, hl]; rfl⟩

/-- **A host is silent**: its Agent acknowledges without a row. -/
def silent : Reply → Bool
  | .ack [] => true
  | _ => false

/-- **A host settles**: it has the scripts at once, or the contents that differ are pushed and it
has them when it is asked again. -/
def Settles (expected : List ExpectedScript) (first second : String → Reply)
    (push : String → List ExpectedScript → Option Push) (h : String) : Prop :=
  (verifyOneHost (first h)).ok = true ∨
    ∃ entries p, mismatchOf expected (verifyOneHost (first h)) = some (.toPush entries) ∧
      push h entries = some p ∧ p.ok = true ∧ (verifyOneHost (second h)).ok = true

/-- An acknowledgement that is not all ok has a row that is not, and none before it fails. -/
theorem any_notOk_of_allOk {rows : List PyVal} (h : allOk rows = .ok false) :
    rows.any notOk = true := by
  induction rows with
  | nil => cases h
  | cons row rest ih =>
      rw [allOk] at h
      cases hrow : row.asDict? with
      | none =>
          rw [hrow] at h
          cases h
      | some r =>
          rw [hrow] at h
          simp only at h
          rw [List.any_cons, notOk, hrow, Option.getD_some]
          cases hok : (rowGet r "ok").truthy with
          | false => rfl
          | true =>
              rw [if_pos hok] at h
              rw [ih h]
              rfl

/-- A result without a row that says so comes from a silent host. -/
theorem silent_of_mismatch {reply : Reply}
    (herr : (verifyOneHost reply).error = some "sha_mismatch")
    (hrows : (verifyOneHost reply).rows.any notOk = false) : silent reply = true := by
  cases reply with
  | offline => exact absurd herr (by simp [verifyOneHost])
  | rpcFailed text => exact absurd herr (isUnreachable_prefixed (.inl rfl)).2
  | raised text => exact absurd herr (isUnreachable_prefixed (.inr rfl)).2
  | ack rows =>
      cases rows with
      | nil => rfl
      | cons row rest =>
          rw [verifyOneHost, if_neg (by simp)] at herr hrows
          cases hall : allOk (row :: rest) with
          | error text =>
              rw [hall] at herr
              exact absurd herr (isUnreachable_prefixed (.inr rfl)).2
          | ok b =>
              rw [hall] at herr hrows
              cases b with
              | true => exact absurd herr (by simp)
              | false =>
                  simp only at hrows
                  rw [any_notOk_of_allOk hall] at hrows
                  cases hrows

/-- A silent host falls in no bucket. -/
theorem of_silent {expected : List ExpectedScript} {reply : Reply} (h : silent reply = true) :
    (verifyOneHost reply).ok = false ∧
      mismatchOf expected (verifyOneHost reply) = some .skipped ∧
        isUnreachable (verifyOneHost reply).error = false := by
  have heq : reply = .ack [] := by
    rw [silent.eq_def] at h
    split at h
    · rfl
    · cases h
  subst heq
  refine ⟨rfl, rfl, ?_⟩
  decide

/-- **What passes without a push**: a host that is ok, and a silent one. -/
theorem passes_iff {expected : List ExpectedScript} {reply : Reply} :
    (mismatchOf expected (verifyOneHost reply) = some .skipped ∧
        ((verifyOneHost reply).ok = true ∨ isUnreachable (verifyOneHost reply).error = false)) ↔
      (verifyOneHost reply).ok = true ∨ silent reply = true := by
  constructor
  · rintro ⟨hskip, hpass⟩
    rcases verifyOneHost_cases reply with ⟨hok, -⟩ | ⟨hok, hun, -⟩ | ⟨hok, herr⟩
    · exact .inl hok
    · rw [hok, hun] at hpass
      rcases hpass with h | h <;> cases h
    · refine .inr (silent_of_mismatch herr ?_)
      rw [mismatchOf, if_neg (by simp [hok, herr])] at hskip
      split at hskip
      · cases hskip
      · split_ifs at hskip with hrows
        · cases hskip
        · exact Bool.eq_false_iff.mpr hrows
      · cases hskip
  · rintro (hok | hsilent)
    · exact ⟨by rw [mismatchOf, hok]; rfl, .inl hok⟩
    · obtain ⟨-, hskip, hun⟩ := @of_silent expected reply hsilent
      exact ⟨hskip, .inr hun⟩

/-- The phase ends normally when no host is left that was not reached. -/
theorem finishPhase_eq_returned {unreachable : List Blocker} :
    finishPhase unreachable = .returned ↔ unreachable = [] := by
  rw [finishPhase, ← List.isEmpty_iff]
  split_ifs with h
  · exact iff_of_true rfl h
  · exact iff_of_false (by simp) h

/-- Failures of pushes end the phase. -/
theorem fatalAdmissionForPushFailures_ne (pushFatal : List Blocker) :
    fatalAdmissionForPushFailures pushFatal ≠ .returned := by
  rw [fatalAdmissionForPushFailures]
  split_ifs
  · simp
  · simp

/-- No host is left that was not reached. -/
theorem unreachable_nil_iff {results : List (String × Result)} :
    results.filterMap unreachableBlocker = [] ↔
      ∀ p ∈ results, p.2.ok = true ∨ isUnreachable p.2.error = false := by
  rw [List.filterMap_eq_nil_iff]
  refine forall₂_congr fun p _ => ?_
  rw [unreachableBlocker]
  split_ifs with h
  · rw [Bool.and_eq_true, Bool.not_eq_true'] at h
    simp [h.1, h.2]
  · simp only [true_iff]
    rw [Bool.and_eq_true, Bool.not_eq_true', not_and_or, Bool.not_eq_false,
      Bool.not_eq_true] at h
    exact h

/-- **The phase returns after the pushes** when all of them went through, every host has the scripts
when it is asked again, and every other host was reached. -/
theorem afterPush_eq_returned {unreachable : List Blocker} {pushes : List (String × Push)}
    {reverify : List (String × Result)} :
    afterPush unreachable pushes reverify = .returned ↔
      (∀ p ∈ pushes, p.2.ok = true) ∧ (∀ p ∈ reverify, p.2.ok = true) ∧ unreachable = [] := by
  rw [afterPush]
  constructor
  · intro h
    split_ifs at h with hfatal htransient hstill
    · exact absurd h (fatalAdmissionForPushFailures_ne _)
    · rw [ne_eq, not_not, List.map_eq_nil_iff, List.filter_eq_nil_iff] at hfatal htransient hstill
      rw [finishPhase_eq_returned, List.append_eq_nil_iff, unreachable_nil_iff] at h
      refine ⟨?_, ?_, h.1⟩
      · intro p hp
        have h1 := hfatal p hp
        have h2 := htransient p hp
        cases hok : p.2.ok with
        | true => rfl
        | false =>
            rw [hok] at h1 h2
            cases hf : isFatalPushError p.2.error with
            | true => exact absurd (by rw [hf]; rfl) h1
            | false => exact absurd (by rw [hf]; rfl) h2
      · intro p hp
        rcases h.2 p hp with hok | hun
        · exact hok
        · have h1 := hstill p hp
          cases hok : p.2.ok with
          | true => rfl
          | false => exact absurd (by rw [hok, hun]; rfl) h1
  · rintro ⟨hpush, hre, rfl⟩
    rw [if_neg, if_neg, if_neg]
    · rw [finishPhase_eq_returned, List.nil_append, unreachable_nil_iff]
      exact fun p hp => .inl (hre p hp)
    · rw [ne_eq, not_not, List.map_eq_nil_iff, List.filter_eq_nil_iff]
      intro p hp
      rw [hre p hp]
      simp
    · rw [ne_eq, not_not, List.map_eq_nil_iff, List.filter_eq_nil_iff]
      intro p hp
      rw [hpush p hp]
      simp
    · rw [ne_eq, not_not, List.map_eq_nil_iff, List.filter_eq_nil_iff]
      intro p hp
      rw [hpush p hp]
      simp

section Phase

variable {expected : List ExpectedScript} {first second : String → Reply}
  {push : String → List ExpectedScript → Option Push} {hosts : List String}

/-- The hosts a push goes to. -/
theorem mem_mismatchedHosts {sorted : List (String × Mismatch)} {h : String}
    {entries : List ExpectedScript} :
    (h, entries) ∈ mismatchedHosts sorted ↔ (h, .toPush entries) ∈ sorted := by
  rw [mismatchedHosts, List.mem_filterMap]
  constructor
  · rintro ⟨⟨k, m⟩, hmem, heq⟩
    cases m with
    | skipped => cases heq
    | unmapped => cases heq
    | toPush entries' =>
        cases heq
        exact hmem
  · intro hmem
    exact ⟨_, hmem, rfl⟩

/-- Pushing to every host, when none of the pushes raises. -/
theorem forall₂_of_pushes {targets : List (String × List ExpectedScript)}
    {pushes : List (String × Push)}
    (h : (targets.mapM fun p => (push p.1 p.2).map (Prod.mk p.1)) = some pushes) :
    List.Forall₂ (fun a b => a.1 = b.1 ∧ push a.1 a.2 = some b.2) targets pushes := by
  refine (mapM_eq_some_iff.mp h).imp ?_
  rintro ⟨k, entries⟩ ⟨k', p⟩ hmap
  obtain ⟨q, hq, heq⟩ := Option.map_eq_some_iff.mp hmap
  cases heq
  exact ⟨rfl, hq⟩

/-- **The phase returns after the first verification** when no host is unmapped, every push and
every second verification goes well, and every other host was reached. -/
theorem afterVerify_returned {results : List (String × Result)}
    {sorted : List (String × Mismatch)} :
    (afterVerify second push results sorted).verdict = .returned ↔
      (∀ p ∈ sorted, p.2 ≠ .unmapped) ∧
        (∀ h entries, (h, .toPush entries) ∈ sorted → ∃ p, push h entries = some p ∧
          p.ok = true ∧ (verifyOneHost (second h)).ok = true) ∧
        results.filterMap unreachableBlocker = [] := by
  have hunmapped : (sorted.filter fun p => p.2 = .unmapped).map Prod.fst = [] ↔
      ∀ p ∈ sorted, p.2 ≠ .unmapped := by
    rw [List.map_eq_nil_iff, List.filter_eq_nil_iff]
    refine forall₂_congr fun p _ => ?_
    rw [decide_eq_true_eq]
  rw [afterVerify]
  constructor
  · intro h
    split_ifs at h with hun hmis
    · split at h
      · cases h
      · rename_i pushes hpushes
        obtain ⟨hok, hre, hreach⟩ := afterPush_eq_returned.mp h
        refine ⟨hunmapped.mp (not_not.mp hun), ?_, hreach⟩
        intro k entries hmem
        obtain ⟨⟨k', p⟩, hp, hkk, hpush⟩ :=
          exists_right_of_forall₂ (forall₂_of_pushes hpushes) (mem_mismatchedHosts.mpr hmem)
        subst hkk
        refine ⟨p, hpush, hok _ hp, hre (k, _) (List.mem_map_of_mem ?_)⟩
        exact List.mem_map.mpr ⟨_, List.mem_filter.mpr ⟨hp, hok _ hp⟩, rfl⟩
    · refine ⟨hunmapped.mp (not_not.mp hun), ?_, finishPhase_eq_returned.mp h⟩
      intro k entries hmem
      have hnil := mem_mismatchedHosts.mpr hmem
      rw [not_not.mp hmis] at hnil
      cases hnil
  · rintro ⟨hun, hsettle, hreach⟩
    rw [if_neg (not_not.mpr (hunmapped.mpr hun))]
    split_ifs with hmis
    · obtain ⟨pushes, hpushes⟩ := @exists_mapM_eq_some _ _
        (fun p : String × List ExpectedScript => (push p.1 p.2).map (Prod.mk p.1))
        (mismatchedHosts sorted) (by
          rintro ⟨k, entries⟩ hmem
          obtain ⟨p, hp, -⟩ := hsettle k entries (mem_mismatchedHosts.mp hmem)
          exact ⟨(k, p), by rw [hp]; rfl⟩)
      rw [hpushes]
      have hback : ∀ p ∈ pushes, p.2.ok = true ∧ (verifyOneHost (second p.1)).ok = true := by
        intro p hp
        obtain ⟨⟨k, entries⟩, hmem, hk, hpush⟩ :=
          exists_of_forall₂ (forall₂_of_pushes hpushes) hp
        obtain ⟨q, hq, hqok, hsecond⟩ := hsettle k entries (mem_mismatchedHosts.mp hmem)
        cases hq.symm.trans hpush
        rw [← show k = p.1 from hk]
        exact ⟨hqok, hsecond⟩
      refine afterPush_eq_returned.mpr ⟨fun p hp => (hback p hp).1, ?_, hreach⟩
      intro r hr
      obtain ⟨k, hk, rfl⟩ := List.mem_map.mp hr
      obtain ⟨p, hp, rfl⟩ := List.mem_map.mp hk
      exact (hback p (List.mem_of_mem_filter hp)).2
    · exact finishPhase_eq_returned.mpr hreach

/-- Sorting the results of the hosts. -/
theorem forall₂_of_sorted {sorted : List (String × Mismatch)}
    (h : ((gatherVerify first hosts).mapM fun p =>
      (mismatchOf expected p.2).map (Prod.mk p.1)) = some sorted) :
    List.Forall₂ (fun k b => b.1 = k ∧ mismatchOf expected (verifyOneHost (first k)) = some b.2)
      hosts sorted := by
  have hall := mapM_eq_some_iff.mp h
  rw [gatherVerify, List.forall₂_map_left_iff] at hall
  refine hall.imp ?_
  rintro k ⟨k', m⟩ hmap
  obtain ⟨m', hm', heq⟩ := Option.map_eq_some_iff.mp hmap
  cases heq
  exact ⟨rfl, hm'⟩

/-- The phase, when scripts are expected. -/
theorem verifyScriptsPhase_eq (hne : expected ≠ []) :
    verifyScriptsPhase (some expected) first second push hosts =
      match (gatherVerify first hosts).mapM fun p =>
        (mismatchOf expected p.2).map (Prod.mk p.1) with
      | none => ⟨.raised, gatherVerify first hosts⟩
      | some sorted => afterVerify second push (gatherVerify first hosts) sorted := by
  cases expected with
  | nil => exact absurd rfl hne
  | cons e es => rfl

/-- **When the phase returns normally**: every host settles or is silent. -/
theorem phase_admits_iff (hne : expected ≠ []) :
    (verifyScriptsPhase (some expected) first second push hosts).verdict = .returned ↔
      ∀ h ∈ hosts, Settles expected first second push h ∨ silent (first h) = true := by
  have hreach : (gatherVerify first hosts).filterMap unreachableBlocker = [] ↔
      ∀ h ∈ hosts, (verifyOneHost (first h)).ok = true ∨
        isUnreachable (verifyOneHost (first h)).error = false := by
    rw [unreachable_nil_iff, gatherVerify]
    exact List.forall_mem_map
  rw [verifyScriptsPhase_eq hne]
  constructor
  · intro hret h hh
    split at hret
    · cases hret
    · rename_i sorted hsorted
      obtain ⟨hun, hsettle, hnil⟩ := afterVerify_returned.mp hret
      obtain ⟨⟨k, m⟩, hmem, hk, hm⟩ := exists_right_of_forall₂ (forall₂_of_sorted hsorted) hh
      subst hk
      cases m with
      | unmapped => exact absurd rfl (hun _ hmem)
      | toPush entries =>
          obtain ⟨p, hp, hpok, hsecond⟩ := hsettle k entries hmem
          exact .inl (.inr ⟨entries, p, hm, hp, hpok, hsecond⟩)
      | skipped =>
          rcases passes_iff.mp ⟨hm, hreach.mp hnil k hh⟩ with hok | hsilent
          · exact .inl (.inl hok)
          · exact .inr hsilent
  · intro hall
    have hsome : ∀ h ∈ hosts, ∃ m, mismatchOf expected (verifyOneHost (first h)) = some m ∧
        m ≠ .unmapped := by
      intro h hh
      rcases hall h hh with (hok | ⟨entries, p, hm, -⟩) | hsilent
      · exact ⟨_, (passes_iff.mpr (.inl hok)).1, by simp⟩
      · exact ⟨_, hm, by simp⟩
      · exact ⟨_, (passes_iff.mpr (.inr hsilent)).1, by simp⟩
    obtain ⟨sorted, hsorted⟩ := @exists_mapM_eq_some _ _
      (fun p : String × Result => (mismatchOf expected p.2).map (Prod.mk p.1))
      (gatherVerify first hosts) (by
        intro p hp
        obtain ⟨h, hh, rfl⟩ := List.mem_map.mp hp
        obtain ⟨m, hm, -⟩ := hsome h hh
        exact ⟨(h, m), by rw [hm]; rfl⟩)
    have hforall := forall₂_of_sorted hsorted
    rw [hsorted]
    refine afterVerify_returned.mpr ⟨?_, ?_, hreach.mpr ?_⟩
    · intro p hp
      obtain ⟨h, hh, hk, hm⟩ := exists_of_forall₂ hforall hp
      obtain ⟨m, hm', hne'⟩ := hsome h hh
      rw [hm'] at hm
      cases hm
      exact hne'
    · intro h entries hmem
      obtain ⟨k, hh, hk, hm⟩ := exists_of_forall₂ hforall hmem
      subst hk
      rcases hall h hh with (hok | ⟨entries', p, hm', hp, hpok, hsecond⟩) | hsilent
      · cases hm.symm.trans (passes_iff.mpr (.inl hok)).1
      · cases hm.symm.trans hm'
        exact ⟨p, hp, hpok, hsecond⟩
      · cases hm.symm.trans (passes_iff.mpr (.inr hsilent)).1
    · intro h hh
      rcases hall h hh with (hok | ⟨entries, p, hm, -⟩) | hsilent
      · exact .inl hok
      · rcases verifyOneHost_cases (first h) with ⟨hok, -⟩ | ⟨-, -, herr⟩ | ⟨-, herr⟩
        · exact .inl hok
        · rw [mismatchOf, if_pos (by simp [herr])] at hm
          cases hm
        · exact .inr (by rw [herr]; decide)
      · exact (@passes_iff expected (first h)).mpr (.inr hsilent) |>.2

/-- The hosts that are asked again are the ones a push goes to. -/
theorem afterVerify_log {results : List (String × Result)} {sorted : List (String × Mismatch)}
    (h : (afterVerify second push results sorted).verdict = .returned) :
    ∃ retry, (afterVerify second push results sorted).log = results ++ gatherVerify second retry ∧
      ∀ k, k ∈ retry ↔ ∃ entries, (k, .toPush entries) ∈ sorted := by
  rw [afterVerify] at h ⊢
  split_ifs at h ⊢ with hun hmis
  · split at h
    · cases h
    · rename_i pushes hpushes
      refine ⟨_, rfl, fun k => ?_⟩
      have hok := (afterPush_eq_returned.mp h).1
      constructor
      · intro hk
        obtain ⟨p, hp, rfl⟩ := List.mem_map.mp hk
        obtain ⟨⟨k', entries⟩, hmem, hkk, -⟩ :=
          exists_of_forall₂ (forall₂_of_pushes hpushes) (List.mem_of_mem_filter hp)
        rw [← show k' = p.1 from hkk]
        exact ⟨entries, mem_mismatchedHosts.mp hmem⟩
      · rintro ⟨entries, hmem⟩
        obtain ⟨p, hp, hkk, -⟩ :=
          exists_right_of_forall₂ (forall₂_of_pushes hpushes) (mem_mismatchedHosts.mpr hmem)
        exact List.mem_map.mpr ⟨p, List.mem_filter.mpr ⟨hp, hok p hp⟩, hkk.symm⟩
  · refine ⟨[], (List.append_nil _).symm, fun k => ?_⟩
    refine iff_of_false List.not_mem_nil ?_
    rintro ⟨entries, hmem⟩
    have hnil := mem_mismatchedHosts.mpr hmem
    rw [not_not.mp hmis] at hnil
    cases hnil

/-- **A host of a phase that returns is verified** unless it is silent. -/
theorem phase_verified_iff (hne : expected ≠ [])
    (hret : (verifyScriptsPhase (some expected) first second push hosts).verdict = .returned)
    {h : String} (hh : h ∈ hosts) :
    Verified (verifyScriptsPhase (some expected) first second push hosts).log h ↔
      silent (first h) = false := by
  have hcase := (phase_admits_iff hne).mp hret h hh
  rw [verifyScriptsPhase_eq hne] at hret ⊢
  split at hret
  · cases hret
  · rename_i sorted hsorted
    obtain ⟨retry, hlog, hretry⟩ := afterVerify_log hret
    have hforall := forall₂_of_sorted hsorted
    have hpush : ∀ {m}, mismatchOf expected (verifyOneHost (first h)) = some m →
        (h ∈ retry ↔ ∃ entries, m = .toPush entries) := by
      intro m hm
      rw [hretry]
      constructor
      · rintro ⟨entries, hmem⟩
        obtain ⟨k, -, hk, hm'⟩ := exists_of_forall₂ hforall hmem
        subst hk
        exact ⟨entries, Option.some.inj (hm.symm.trans hm')⟩
      · rintro ⟨entries, rfl⟩
        obtain ⟨⟨k, m'⟩, hmem, hk, hm'⟩ := exists_right_of_forall₂ hforall hh
        subst hk
        cases hm.symm.trans hm'
        exact ⟨entries, hmem⟩
    rw [hlog]
    rcases hcase with (hok | ⟨entries, p, hm, -, -, hsecond⟩) | hsilent
    · have hnot : h ∉ retry := by
        rw [hpush (passes_iff.mpr (.inl hok)).1]
        simp
      rw [verified_append_of_notMem hnot, verified_gatherVerify hh]
      refine iff_of_true hok ?_
      cases hs : silent (first h) with
      | false => rfl
      | true => exact absurd hok (by rw [(@of_silent expected _ hs).1]; exact Bool.false_ne_true)
    · rw [verified_append_of_mem ((hpush hm).mpr ⟨entries, rfl⟩)]
      refine iff_of_true hsecond ?_
      cases hs : silent (first h) with
      | false => rfl
      | true => cases hm.symm.trans (passes_iff.mpr (.inr hs)).1
    · have hnot : h ∉ retry := by
        rw [hpush (passes_iff.mpr (.inr hsilent)).1]
        simp
      rw [verified_append_of_notMem hnot, verified_gatherVerify hh, hsilent,
        (@of_silent expected _ hsilent).1]
      simp

/-- A phase without scripts does not return. -/
theorem phase_returned_ne {loaded : Option (List ExpectedScript)}
    (hret : (verifyScriptsPhase loaded first second push hosts).verdict = .returned) :
    ∃ scripts, loaded = some scripts ∧ scripts ≠ [] := by
  cases loaded with
  | none => cases hret
  | some scripts =>
      cases scripts with
      | nil => cases hret
      | cons e es => exact ⟨e :: es, rfl, by simp⟩

/-- **When the phase keeps its word**: no host is silent, or something holds the run back. -/
theorem phase_safe_iff {loaded : Option (List ExpectedScript)} :
    ((verifyScriptsPhase loaded first second push hosts).verdict = .returned →
        ∀ h ∈ hosts, Verified (verifyScriptsPhase loaded first second push hosts).log h) ↔
      (∀ h ∈ hosts, silent (first h) = false) ∨ loaded.getD [] = [] ∨
        ∃ h ∈ hosts, silent (first h) = false ∧
          ¬ Settles (loaded.getD []) first second push h := by
  constructor
  · intro hsafe
    by_cases hquiet : ∀ h ∈ hosts, silent (first h) = false
    · exact .inl hquiet
    · refine .inr (or_iff_not_imp_left.mpr fun hne => ?_)
      cases loaded with
      | none => exact absurd rfl hne
      | some scripts =>
          by_contra hno
          push Not at hno hquiet
          obtain ⟨k, hk, hsil⟩ := hquiet
          have hret : (verifyScriptsPhase (some scripts) first second push hosts).verdict =
              .returned := by
            refine (phase_admits_iff hne).mpr fun h hh => ?_
            cases hs : silent (first h) with
            | true => exact .inr rfl
            | false => exact .inl (hno h hh hs)
          exact hsil ((phase_verified_iff hne hret hk).mp (hsafe hret k hk))
  · intro hcond hret h hh
    obtain ⟨scripts, rfl, hne⟩ := phase_returned_ne hret
    rcases hcond with hquiet | hnil | ⟨k, hk, hs, hset⟩
    · exact (phase_verified_iff hne hret hh).mpr (hquiet h hh)
    · exact absurd hnil hne
    · rcases (phase_admits_iff hne).mp hret k hk with hset' | hs'
      · exact absurd hset' hset
      · rw [hs'] at hs
        cases hs

end Phase

/-! ### The dispatch gate -/

/-- `DISPATCH_SYNC_MAX_ATTEMPTS`, from its environment variable. -/
def dispatchSyncMaxAttempts (configured : ℤ) : ℕ := (max 1 configured).toNat

/-- What a host is in the gate. -/
inductive HostStatus where
  | pending
  | ok
  | failed
  | syncing
  | synced
  deriving DecidableEq

/-- `precheck["hosts"][hid]`. -/
structure HostState where
  status : HostStatus
  scripts : List PyVal
  syncAttempts : ℕ
  error : Option String

/-- A host of `initial_precheck_state`. -/
def HostState.initial : HostState := ⟨.pending, [], 0, none⟩

/-- `final_result`. -/
inductive GateEnd where
  | ready
  /-- `failed`, with the error. -/
  | failed (error : String)
  /-- `failed`, by an exception. -/
  | raised
  deriving DecidableEq

/-- What a round of synchronisation meets: what the Agents reply after it, what the pushes and the
hot updates come to (nothing when they raise), and which hosts have active jobs. -/
structure Round where
  reply : String → Reply
  /-- `push_mismatched_scripts`. -/
  push : String → List ExpectedScript → Option Push
  /-- `host_has_active_jobs`. -/
  hasActiveJobs : String → Bool
  /-- `sync_host_via_hot_update`. -/
  hotUpdate : String → Option Push

/-- The gate: the hosts, the ones to synchronise, how it has ended, and what the Agents said. -/
structure Gate where
  /-- `precheck["hosts"]`. -/
  hosts : String → HostState
  hostsToSync : List String
  /-- `final_result`, when it has ended. -/
  finalResult : Option GateEnd
  log : List (String × Result)

/-- `{s["name"] for s in scripts if not s.get("ok")}`; nothing when this raises. -/
def mismatchedNames : List PyVal → Option (List PyVal)
  | [] => some []
  | row :: rest =>
    match row.asDict? with
    | none => none
    | some r =>
      if (rowGet r "ok").truthy then mismatchedNames rest
      else
        match r.lookup "name" with
        | none => none
        | some name => if name.isHashable then (mismatchedNames rest).map (name :: ·) else none

/-- `mismatched_entries`. -/
def mismatchedEntries (expected : List ExpectedScript) (rows : List PyVal) :
    Option (List ExpectedScript) :=
  (mismatchedNames rows).map fun names =>
    expected.filter fun e => names.any fun name => name.isOneOf [e.name]

/-- What a synchronisation of a host comes to: the error, if it fails; nothing when it raises. -/
def syncError (expected : List ExpectedScript) (r : Round) (rows : List PyVal) (h : String) :
    Option (Option String) :=
  match mismatchedEntries expected rows with
  | none => none
  | some [] => some (some "no_mismatched_entries")
  | some (e :: es) =>
    match r.push h (e :: es) with
    | none => none
    | some p =>
      if p.ok then some none
      else if r.hasActiveJobs h then
        some (some ("lightweight_sync_failed_and_hot_update_blocked_by_active_jobs: " ++
          p.error.getD "None"))
      else
        match r.hotUpdate h with
        | none => none
        | some q =>
          if q.ok then some none
          else some (some (if q.error.getD "" = "" then "hot_update_failed" else q.error.getD ""))

/-- A host after its synchronisation. -/
def HostState.synced (s : HostState) (error : Option String) : HostState :=
  { s with
    status := if error = none then .synced else .failed
    syncAttempts := s.syncAttempts + 1
    error := error }

/-- A host after a verification. -/
def HostState.checked (s : HostState) (r : Result) : HostState :=
  { s with
    status := if r.ok then .ok else .failed
    scripts := r.rows
    error := if r.ok then none
      else some (if r.error.getD "" = "" then "still_mismatch" else r.error.getD "") }

/-- A host whose synchronisation raises. -/
def HostState.syncing (s : HostState) : HostState :=
  { s with status := .syncing, syncAttempts := s.syncAttempts + 1, error := none }

/-- The loop of a round over the hosts to synchronise: the hosts, and `sync_failures`, unless one of
the synchronisations raises. -/
def syncHosts (expected : List ExpectedScript) (r : Round) :
    (String → HostState) → List String →
      (String → HostState) × Option (List (String × String))
  | hosts, [] => (hosts, some [])
  | hosts, h :: rest =>
    match syncError expected r (hosts h).scripts h with
    | none => (Function.update hosts h (hosts h).syncing, none)
    | some error =>
      let x := syncHosts expected r (Function.update hosts h ((hosts h).synced error)) rest
      (x.1, x.2.map fun failures => error.toList.map (Prod.mk h) ++ failures)

/-- A host is checked with each of the results. -/
def checkHosts (hosts : String → HostState) (results : List (String × Result)) :
    String → HostState :=
  results.foldl (fun hosts p => Function.update hosts p.1 ((hosts p.1).checked p.2)) hosts

/-- The hosts that may be synchronised once more. -/
def retryHosts (maxAttempts : ℕ) (hosts : String → HostState) (bad : List String) : List String :=
  bad.filter fun h => (hosts h).syncAttempts < maxAttempts

/-- The gate after hosts went wrong in a round: another round for the ones that may have it, or the
end. -/
def Gate.retry (g : Gate) (maxAttempts : ℕ) (bad : List String) (error : String) : Gate :=
  match retryHosts maxAttempts g.hosts bad with
  | [] => { g with finalResult := some (.failed error) }
  | h :: rest => { g with hostsToSync := h :: rest }

/-- One round of `while hosts_to_sync`. -/
def Gate.round (g : Gate) (maxAttempts : ℕ) (expected : List ExpectedScript) (r : Round) : Gate :=
  match syncHosts expected r g.hosts g.hostsToSync with
  | (hosts, none) => { g with hosts := hosts, finalResult := some .raised }
  | (hosts, some (f :: failures)) =>
    { g with hosts := hosts }.retry maxAttempts ((f :: failures).map Prod.fst)
      ("sync_failed: " ++ "; ".intercalate
        ((f :: failures).map fun p : String × String => p.1 ++ ":" ++ p.2))
  | (hosts, some []) =>
    let results := gatherVerify r.reply g.hostsToSync
    let stillBad := (results.filter fun p => !p.2.ok).map Prod.fst
    let g := { g with hosts := checkHosts hosts results, log := g.log ++ results }
    match stillBad with
    | [] => { g with finalResult := some .ready }
    | h :: rest => g.retry maxAttempts (h :: rest)
        ("reverify_failed: " ++ ",".intercalate (h :: rest))

/-- A host after the first verification. -/
def HostState.verified (s : HostState) (r : Result) : HostState :=
  { s with
    status := if r.ok then .ok else if r.error = some "agent_offline" then .failed else .syncing
    scripts := r.rows
    error := r.error }

/-- The gate before its rounds: after the first verification, with the hosts that are out of
sync. -/
def Gate.first (inactive : List String) (expected : List ExpectedScript) (reply : String → Reply)
    (hosts : List String) : Gate :=
  let start : Gate := ⟨fun _ => .initial, [], none, []⟩
  if inactive ≠ [] then
    { start with finalResult := some (.failed "watch激活与不激活的节点不能同时在一个计划中") }
  else if expected = [] then
    { start with finalResult := some (.failed "no_scripts_resolved_for_plan_snapshot") }
  else
    let results := gatherVerify reply hosts
    let offlineHosts := (results.filter fun p => p.2.error = some "agent_offline").map Prod.fst
    let outOfSync := (results.filter fun p => !p.2.ok && p.2.error ≠ some "agent_offline").map
      Prod.fst
    let g : Gate := ⟨results.foldl (fun states p =>
      Function.update states p.1 ((states p.1).verified p.2)) start.hosts, outOfSync, none, results⟩
    let offline := GateEnd.failed ("agent_offline: " ++ ",".intercalate offlineHosts)
    if offlineHosts ≠ [] then { g with finalResult := some offline }
    else if outOfSync = [] then { g with finalResult := some .ready }
    else g

/-- The gate after some rounds; one that has ended stays as it is. -/
def Gate.after (maxAttempts : ℕ) (expected : List ExpectedScript) (rounds : ℕ → Round)
    (g : Gate) : ℕ → Gate
  | 0 => g
  | n + 1 =>
    let g := Gate.after maxAttempts expected rounds g n
    if g.finalResult = none then g.round maxAttempts expected (rounds n) else g

/-- Hosts come in the order of their names, which is transitive. -/
local instance transHostNames : IsTrans String (· ≤ ·) := inferInstance

/-- It tells names apart. -/
local instance antisymmHostNames : @Std.Antisymm String (· ≤ ·) := inferInstance

/-- `drive_dispatch_gate`, for a plan run that is running and has no jobs yet. The rounds are as many
as a host may be synchronised. -/
def driveDispatchGate (configured : ℤ) (inactive : List String) (expected : List ExpectedScript)
    (reply : String → Reply) (rounds : ℕ → Round) (hosts : Finset String) : Gate :=
  (Gate.first inactive expected reply (hosts.sort (· ≤ ·))).after (dispatchSyncMaxAttempts configured) expected
    rounds (dispatchSyncMaxAttempts configured)

/-! ### A round -/

section Gate

variable {expected : List ExpectedScript} {maxAttempts : ℕ} {r : Round}

/-- Whether the synchronisation of a host goes through. -/
def syncs (expected : List ExpectedScript) (r : Round) (hosts : String → HostState) (h : String) :
    Bool :=
  syncError expected r (hosts h).scripts h = some none

/-- **The loop over the hosts to synchronise** counts one attempt for each of them and keeps the
ones where it fails. -/
theorem syncHosts_spec {hosts : String → HostState} {hs : List String} (hnd : hs.Nodup) :
    (∀ h, ((syncHosts expected r hosts hs).1 h).syncAttempts ≤ (hosts h).syncAttempts + 1) ∧
      (∀ h, h ∉ hs → (syncHosts expected r hosts hs).1 h = hosts h) ∧
        ∀ failures, (syncHosts expected r hosts hs).2 = some failures →
          (∀ h ∈ hs, ((syncHosts expected r hosts hs).1 h).syncAttempts =
            (hosts h).syncAttempts + 1) ∧
          failures.map Prod.fst = hs.filter fun h => !syncs expected r hosts h := by
  induction hs generalizing hosts with
  | nil =>
      refine ⟨fun h => Nat.le_succ _, fun h _ => rfl, fun failures hf => ⟨by simp, ?_⟩⟩
      cases hf
      rfl
  | cons k rest ih =>
      obtain ⟨hk, hnd⟩ := List.nodup_cons.mp hnd
      rw [syncHosts]
      cases herr : syncError expected r (hosts k).scripts k with
      | none =>
          dsimp only
          refine ⟨fun h => ?_, fun h hh => ?_, fun failures hf => ?_⟩
          · by_cases hkh : h = k
            · subst hkh
              rw [Function.update_self]
              exact le_rfl
            · rw [Function.update_of_ne hkh]
              exact Nat.le_succ _
          · exact Function.update_of_ne (List.ne_of_not_mem_cons hh) ..
          · cases hf
      | some error =>
          obtain ⟨hle, hsame, hfail⟩ :=
            @ih (Function.update hosts k ((hosts k).synced error)) hnd
          have hother : ∀ h, h ≠ k →
              Function.update hosts k ((hosts k).synced error) h = hosts h :=
            fun h hne => Function.update_of_ne hne ..
          have hself : ((syncHosts expected r
              (Function.update hosts k ((hosts k).synced error)) rest).1 k).syncAttempts =
                (hosts k).syncAttempts + 1 := by
            rw [hsame k hk, Function.update_self]
            rfl
          refine ⟨fun h => ?_, fun h hh => ?_, fun failures hf => ?_⟩
          · by_cases hkh : h = k
            · subst hkh
              exact hself.le
            · exact (hle h).trans (by rw [hother h hkh])
          · rw [List.mem_cons, not_or] at hh
            exact (hsame h hh.2).trans (hother h hh.1)
          · obtain ⟨fs, hfs, rfl⟩ := Option.map_eq_some_iff.mp hf
            obtain ⟨hcount, hnames⟩ := hfail fs hfs
            constructor
            · intro h hh
              rcases List.mem_cons.mp hh with rfl | hh
              · exact hself
              · have hne : h ≠ k := fun heq => hk (heq ▸ hh)
                rw [hcount h hh, hother h hne]
            · have hrest : (rest.filter fun h => !syncs expected r
                  (Function.update hosts k ((hosts k).synced error)) h) =
                  rest.filter fun h => !syncs expected r hosts h := by
                refine List.filter_congr fun h hh => ?_
                rw [syncs, syncs, hother h fun heq => hk (heq ▸ hh)]
              rw [List.map_append, hnames, hrest, List.filter_cons]
              cases error with
              | none =>
                  rw [if_neg (by simp [syncs, herr])]
                  rfl
              | some e =>
                  rw [if_pos (by simp [syncs, herr])]
                  rfl

/-- Checking hosts does not count as an attempt. -/
theorem checkHosts_syncAttempts {results : List (String × Result)} {hosts : String → HostState}
    (h : String) : (checkHosts hosts results h).syncAttempts = (hosts h).syncAttempts := by
  rw [checkHosts]
  induction results generalizing hosts with
  | nil => rfl
  | cons p rest ih =>
      rw [List.foldl_cons, ih]
      by_cases hp : h = p.1
      · subst hp
        rw [Function.update_self]
        rfl
      · rw [Function.update_of_ne hp]

/-- **Retrying**: hosts that were all synchronised equally often all get another round, or the gate
fails. -/
theorem Gate.retry_spec {g : Gate} {bad : List String} {error : String} {m : ℕ}
    (hne : bad ≠ []) (hm : ∀ h ∈ bad, (g.hosts h).syncAttempts = m) :
    (g.retry maxAttempts bad error).hosts = g.hosts ∧
      (g.retry maxAttempts bad error).log = g.log ∧
        ((m < maxAttempts ∧ (g.retry maxAttempts bad error).finalResult = g.finalResult ∧
            (g.retry maxAttempts bad error).hostsToSync = bad) ∨
          ((g.retry maxAttempts bad error).finalResult = some (.failed error) ∧
            (g.retry maxAttempts bad error).hostsToSync = g.hostsToSync)) := by
  rw [Gate.retry]
  rcases Nat.lt_or_ge m maxAttempts with hlt | hge
  · have hall : retryHosts maxAttempts g.hosts bad = bad :=
      List.filter_eq_self.mpr fun h hh => decide_eq_true (hm h hh ▸ hlt)
    rw [hall]
    cases bad with
    | nil => exact absurd rfl hne
    | cons h rest => exact ⟨rfl, rfl, .inl ⟨hlt, rfl, rfl⟩⟩
  · have hnone : retryHosts maxAttempts g.hosts bad = [] := by
      refine List.filter_eq_nil_iff.mpr fun h hh => ?_
      rw [decide_eq_true_eq, hm h hh]
      omega
    rw [hnone]
    exact ⟨rfl, rfl, .inr ⟨rfl, rfl⟩⟩

/-- **The state of the gate between its rounds**: after `n` rounds every host to synchronise has had
`n` attempts, and none of them is verified. -/
structure Gate.Inv (maxAttempts : ℕ) (hosts : List String) (n : ℕ) (g : Gate) : Prop where
  attempts_le : ∀ h, (g.hosts h).syncAttempts ≤ n
  working_ne : g.finalResult = none → g.hostsToSync ≠ []
  working_sub : g.hostsToSync ⊆ hosts
  working_nodup : g.hostsToSync.Nodup
  attempts_eq : g.finalResult = none → ∀ h ∈ g.hostsToSync, (g.hosts h).syncAttempts = n
  attempts_lt : g.finalResult = none → n ≠ 0 → n < maxAttempts
  not_verified : g.finalResult = none → ∀ h ∈ g.hostsToSync, ¬ Verified g.log h

/-- **What a round does** to a gate that has not ended: it ends with a failure, or hosts whose
synchronisation fails remain, or all hosts are synchronised and asked, and the ones that still
differ remain, or none does. -/
theorem Gate.round_cases {hosts : List String} {n : ℕ} {g : Gate}
    (hinv : g.Inv maxAttempts hosts n) (hopen : g.finalResult = none) :
    let g' := g.round maxAttempts expected r
    let failing := g.hostsToSync.filter fun h => !syncs expected r g.hosts h
    let stillBad := g.hostsToSync.filter fun h => !(verifyOneHost (r.reply h)).ok
    (∀ h, (g'.hosts h).syncAttempts ≤ n + 1) ∧
      ((∃ e, g'.finalResult = some e ∧ e ≠ .ready ∧ g'.hostsToSync = g.hostsToSync) ∨
        (failing ≠ [] ∧ g'.finalResult = none ∧ g'.hostsToSync = failing ∧ g'.log = g.log ∧
          n + 1 < maxAttempts ∧ ∀ h ∈ failing, (g'.hosts h).syncAttempts = n + 1) ∨
        (failing = [] ∧ g'.log = g.log ++ gatherVerify r.reply g.hostsToSync ∧
          ((stillBad ≠ [] ∧ g'.finalResult = none ∧ g'.hostsToSync = stillBad ∧
              n + 1 < maxAttempts ∧ ∀ h ∈ stillBad, (g'.hosts h).syncAttempts = n + 1) ∨
            (stillBad = [] ∧ g'.finalResult = some .ready ∧
              g'.hostsToSync = g.hostsToSync)))) := by
  obtain ⟨hle, -, hfailures⟩ :=
    @syncHosts_spec expected r g.hosts g.hostsToSync hinv.working_nodup
  have hle' : ∀ h, ((syncHosts expected r g.hosts g.hostsToSync).1 h).syncAttempts ≤ n + 1 :=
    fun h => (hle h).trans (Nat.succ_le_succ (hinv.attempts_le h))
  intro g' failing stillBad
  have hg' : g' = g.round maxAttempts expected r := rfl
  rw [Gate.round] at hg'
  rcases hsync : syncHosts expected r g.hosts g.hostsToSync with ⟨hosts', failures⟩
  rw [hsync] at hg' hle' hfailures
  cases failures with
  | none =>
      rw [hg']
      exact ⟨hle', .inl ⟨_, rfl, by simp, rfl⟩⟩
  | some failures =>
      obtain ⟨hcount, hnames⟩ := hfailures failures rfl
      have hfailing : failures.map Prod.fst = failing := hnames
      have hcount' : ∀ h ∈ g.hostsToSync, (hosts' h).syncAttempts = n + 1 :=
        fun h hh => (hcount h hh).trans (congrArg Nat.succ (hinv.attempts_eq hopen h hh))
      cases failures with
      | cons f fs =>
          have hne : failing ≠ [] := by
            rw [← hfailing]
            simp
          have hm : ∀ h ∈ failing, (hosts' h).syncAttempts = n + 1 :=
            fun h hh => hcount' h (List.mem_of_mem_filter hh)
          dsimp only at hg'
          rw [hfailing] at hg'
          obtain ⟨hhosts, hlog, hend⟩ :=
            @Gate.retry_spec maxAttempts { g with hosts := hosts' } failing _ _ hne hm
          rw [← hg'] at hhosts hlog hend
          refine ⟨fun h => ?_, ?_⟩
          · rw [hhosts]
            exact hle' h
          · rcases hend with ⟨hlt, hfin, hwork⟩ | ⟨hfin, hwork⟩
            · refine .inr (.inl ⟨hne, hfin.trans hopen, hwork, hlog, hlt, ?_⟩)
              rw [hhosts]
              exact hm
            · exact .inl ⟨_, hfin, by simp, hwork⟩
      | nil =>
          have hnil : failing = [] := hfailing.symm
          have hbad : ((gatherVerify r.reply g.hostsToSync).filter fun p => !p.2.ok).map Prod.fst =
              stillBad := by
            rw [gatherVerify, List.filter_map, List.map_map]
            exact List.map_id' _
          dsimp only at hg'
          rw [hbad] at hg'
          have hkeep : ∀ h, (checkHosts hosts' (gatherVerify r.reply g.hostsToSync) h).syncAttempts
              = (hosts' h).syncAttempts := fun h => checkHosts_syncAttempts h
          cases hstill : stillBad with
          | nil =>
              rw [hstill] at hg'
              rw [hg']
              refine ⟨fun h => (hkeep h).le.trans (hle' h), .inr (.inr ⟨hnil, rfl, .inr ?_⟩)⟩
              exact ⟨rfl, rfl, rfl⟩
          | cons k rest =>
              rw [hstill] at hg'
              dsimp only at hg'
              have hm : ∀ h ∈ k :: rest,
                  (checkHosts hosts' (gatherVerify r.reply g.hostsToSync) h).syncAttempts =
                    n + 1 := by
                intro h hh
                rw [← hstill] at hh
                exact (hkeep h).trans (hcount' h (List.mem_of_mem_filter hh))
              obtain ⟨hhosts, hlog, hend⟩ := @Gate.retry_spec maxAttempts
                { g with
                  hosts := checkHosts hosts' (gatherVerify r.reply g.hostsToSync)
                  log := g.log ++ gatherVerify r.reply g.hostsToSync } (k :: rest)
                ("reverify_failed: " ++ ",".intercalate (k :: rest)) _ (by simp) hm
              rw [← hg'] at hhosts hlog hend
              refine ⟨fun h => ?_, ?_⟩
              · rw [hhosts]
                exact (hkeep h).le.trans (hle' h)
              · rcases hend with ⟨hlt, hfin, hwork⟩ | ⟨hfin, hwork⟩
                · refine .inr (.inr ⟨hnil, hlog, .inl ⟨by simp, hfin.trans hopen, hwork, hlt, ?_⟩⟩)
                  rw [hhosts]
                  exact hm
                · exact .inl ⟨_, hfin, by simp, hwork⟩

/-- **A round keeps the state of the gate.** -/
theorem Gate.Inv.round {hosts : List String} {n : ℕ} {g : Gate}
    (hinv : g.Inv maxAttempts hosts n) (hopen : g.finalResult = none) :
    (g.round maxAttempts expected r).Inv maxAttempts hosts (n + 1) := by
  obtain ⟨hle, hend⟩ := @Gate.round_cases expected maxAttempts r hosts n g hinv hopen
  rcases hend with ⟨e, hfin, -, hwork⟩ | ⟨hne, hfin, hwork, hlog, hlt, hcount⟩ |
    ⟨-, hlog, ⟨hne, hfin, hwork, hlt, hcount⟩ | ⟨-, hfin, hwork⟩⟩
  · refine ⟨hle, fun h => ?_, hwork ▸ hinv.working_sub, hwork ▸ hinv.working_nodup,
      fun h => ?_, fun h => ?_, fun h => ?_⟩
    all_goals cases hfin.symm.trans h
  · refine ⟨hle, fun _ => hwork ▸ hne, ?_, ?_, fun _ => hwork ▸ hcount, fun _ _ => hlt, ?_⟩
    · rw [hwork]
      exact fun h hh => hinv.working_sub (List.mem_of_mem_filter hh)
    · rw [hwork]
      exact hinv.working_nodup.filter _
    · intro _ h hh
      rw [hwork] at hh
      rw [hlog]
      exact hinv.not_verified hopen h (List.mem_of_mem_filter hh)
  · refine ⟨hle, fun _ => hwork ▸ hne, ?_, ?_, fun _ => hwork ▸ hcount, fun _ _ => hlt, ?_⟩
    · rw [hwork]
      exact fun h hh => hinv.working_sub (List.mem_of_mem_filter hh)
    · rw [hwork]
      exact hinv.working_nodup.filter _
    · intro _ h hh
      rw [hwork] at hh
      obtain ⟨hmem, hbad⟩ := List.mem_filter.mp hh
      rw [hlog, verified_append_of_mem hmem]
      simpa using hbad
  · refine ⟨hle, fun h => ?_, hwork ▸ hinv.working_sub, hwork ▸ hinv.working_nodup,
      fun h => ?_, fun h => ?_, fun h => ?_⟩
    all_goals cases hfin.symm.trans h

/-- **Hosts are not mixed in a round**: all synchronisations go through, or none does. -/
def Unmixed (expected : List ExpectedScript) (r : Round) (g : Gate) : Prop :=
  (∀ h ∈ g.hostsToSync, syncs expected r g.hosts h = true) ∨
    ∀ h ∈ g.hostsToSync, syncs expected r g.hosts h = false

/-- Every host that is not left to synchronise is verified. -/
def Gate.Covered (hosts : List String) (g : Gate) : Prop :=
  ∀ h ∈ hosts, h ∉ g.hostsToSync → Verified g.log h

/-- **A round keeps the gate covered** exactly when hosts are not mixed in it, and a gate that gets
ready in it is verified exactly when it was covered. -/
theorem Gate.round_covered {hosts : List String} {n : ℕ} {g : Gate}
    (hinv : g.Inv maxAttempts hosts n) (hopen : g.finalResult = none) :
    let g' := g.round maxAttempts expected r
    (g'.finalResult = none →
        (g'.Covered hosts ↔ g.Covered hosts ∧ Unmixed expected r g)) ∧
      (g'.finalResult = some .ready →
        ((∀ h ∈ hosts, Verified g'.log h) ↔ g.Covered hosts ∧ Unmixed expected r g)) := by
  intro g'
  obtain ⟨-, hend⟩ := @Gate.round_cases expected maxAttempts r hosts n g hinv hopen
  have hall : (g.hostsToSync.filter fun h => !syncs expected r g.hosts h) = [] →
      Unmixed expected r g := by
    intro hnil
    refine .inl fun h hh => ?_
    have := List.filter_eq_nil_iff.mp hnil h hh
    simpa using this
  have hlater : ∀ {P : String → Prop} {log : List (String × Result)},
      log = g.log ++ gatherVerify r.reply g.hostsToSync →
      (∀ h, P h → h ∉ g.hostsToSync ∨ (verifyOneHost (r.reply h)).ok = true) →
      (∀ h, h ∉ g.hostsToSync → P h) →
      ((∀ h ∈ hosts, P h → Verified log h) ↔ g.Covered hosts) := by
    intro P log hlog hP hPout
    subst hlog
    constructor
    · intro hver h hh hout
      exact (verified_append_of_notMem hout).mp (hver h hh (hPout h hout))
    · intro hcov h hh hPh
      by_cases hmem : h ∈ g.hostsToSync
      · rw [verified_append_of_mem hmem]
        exact (hP h hPh).resolve_left (not_not.mpr hmem)
      · exact (verified_append_of_notMem hmem).mpr (hcov h hh hmem)
  rcases hend with ⟨e, hfin, hne, -⟩ | ⟨hne, hfin, hwork, hlog, -, -⟩ |
    ⟨hnil, hlog, ⟨-, hfin, hwork, -, -⟩ | ⟨hbad, hfin, -⟩⟩
  · refine ⟨fun h => ?_, fun h => ?_⟩
    · cases hfin.symm.trans h
    · exact absurd (Option.some.inj (hfin.symm.trans h)) hne
  · refine ⟨fun _ => ?_, fun h => ?_⟩
    · rw [Gate.Covered, hwork, hlog]
      constructor
      · intro hcov
        refine ⟨fun h hh hout => hcov h hh fun hf => hout (List.mem_of_mem_filter hf), .inr ?_⟩
        intro h hh
        by_contra hs
        rw [Bool.not_eq_false] at hs
        refine hinv.not_verified hopen h hh (hcov h (hinv.working_sub hh) ?_)
        rw [List.mem_filter, hs]
        simp
      · rintro ⟨hcov, hall | hnone⟩ h hh hout
        · obtain ⟨k, hk⟩ := List.exists_mem_of_ne_nil _ hne
          obtain ⟨hkmem, hks⟩ := List.mem_filter.mp hk
          rw [hall k hkmem] at hks
          cases hks
        · refine hcov h hh fun hmem => hout (List.mem_filter.mpr ⟨hmem, ?_⟩)
          rw [hnone h hmem]
          rfl
    · cases hfin.symm.trans h
  · refine ⟨fun _ => ?_, fun h => ?_⟩
    · rw [Gate.Covered, hwork, hlater hlog]
      · exact ⟨fun hcov => ⟨hcov, hall hnil⟩, And.left⟩
      · intro h hout
        by_cases hmem : h ∈ g.hostsToSync
        · refine .inr ?_
          by_contra hok
          exact hout (List.mem_filter.mpr ⟨hmem, by simpa using hok⟩)
        · exact .inl hmem
      · exact fun h hout hf => hout (List.mem_of_mem_filter hf)
    · cases hfin.symm.trans h
  · refine ⟨fun h => ?_, fun _ => ?_⟩
    · cases hfin.symm.trans h
    · have hstep := @hlater (fun _ => True) _ hlog (fun h _ => ?_) (fun _ _ => trivial)
      · simp only [forall_const] at hstep
        rw [hstep]
        exact ⟨fun hcov => ⟨hcov, hall hnil⟩, And.left⟩
      · by_cases hmem : h ∈ g.hostsToSync
        · refine .inr ?_
          have := List.filter_eq_nil_iff.mp hbad h hmem
          simpa using this
        · exact .inl hmem

/-! ### The whole gate -/

/-- Noting results does not count as an attempt. -/
theorem foldl_verified_syncAttempts {results : List (String × Result)}
    {hosts : String → HostState} (h : String) :
    (results.foldl (fun states p => Function.update states p.1 ((states p.1).verified p.2)) hosts
      h).syncAttempts = (hosts h).syncAttempts := by
  induction results generalizing hosts with
  | nil => rfl
  | cons p rest ih =>
      rw [List.foldl_cons, ih]
      by_cases hp : h = p.1
      · subst hp
        rw [Function.update_self]
        rfl
      · rw [Function.update_of_ne hp]

/-- **The gate before its rounds**: its state is right, and every host it does not synchronise has
been verified, unless it has failed. -/
theorem Gate.first_spec {inactive : List String} {reply : String → Reply} {hosts : List String}
    (hnd : hosts.Nodup) :
    (Gate.first inactive expected reply hosts).Inv maxAttempts hosts 0 ∧
      ((Gate.first inactive expected reply hosts).finalResult = none →
        (Gate.first inactive expected reply hosts).Covered hosts) ∧
      ((Gate.first inactive expected reply hosts).finalResult = some .ready →
        ∀ h ∈ hosts, Verified (Gate.first inactive expected reply hosts).log h) := by
  have hout : ((gatherVerify reply hosts).filter fun p =>
      !p.2.ok && p.2.error ≠ some "agent_offline").map Prod.fst =
        hosts.filter fun h => !(verifyOneHost (reply h)).ok &&
          (verifyOneHost (reply h)).error ≠ some "agent_offline" := by
    rw [gatherVerify, List.filter_map, List.map_map]
    exact List.map_id' _
  have hok : ((gatherVerify reply hosts).filter fun p =>
      p.2.error = some "agent_offline").map Prod.fst = [] → ∀ h ∈ hosts,
        h ∉ (hosts.filter fun h => !(verifyOneHost (reply h)).ok &&
          (verifyOneHost (reply h)).error ≠ some "agent_offline") →
        (verifyOneHost (reply h)).ok = true := by
    intro hoff h hh hnot
    rw [List.map_eq_nil_iff, List.filter_eq_nil_iff] at hoff
    have hon := hoff (h, verifyOneHost (reply h)) (List.mem_map_of_mem hh)
    by_contra hbad
    refine hnot (List.mem_filter.mpr ⟨hh, ?_⟩)
    rw [Bool.not_eq_true] at hbad
    rw [hbad]
    simpa using hon
  rw [Gate.first]
  dsimp only
  split_ifs with hin hexp hoff hsync
  · refine ⟨⟨fun _ => le_rfl, by simp, by simp, List.nodup_nil, by simp, by simp, by simp⟩,
      by simp, by simp⟩
  · refine ⟨⟨fun _ => le_rfl, by simp, by simp, List.nodup_nil, by simp, by simp, by simp⟩,
      by simp, by simp⟩
  · refine ⟨⟨fun h => (foldl_verified_syncAttempts h).le, by simp, ?_, ?_, by simp, by simp,
      by simp⟩, by simp, by simp⟩
    · rw [hout]
      exact fun h hh => List.mem_of_mem_filter hh
    · rw [hout]
      exact hnd.filter _
  · refine ⟨⟨fun h => (foldl_verified_syncAttempts h).le, by simp, ?_, ?_, by simp, by simp,
      by simp⟩, by simp, fun _ h hh => ?_⟩
    · rw [hout]
      exact fun h hh => List.mem_of_mem_filter hh
    · rw [hout]
      exact hnd.filter _
    · rw [verified_gatherVerify hh]
      refine hok (not_not.mp hoff) h hh ?_
      rw [← hout, hsync]
      exact List.not_mem_nil
  · refine ⟨⟨fun h => (foldl_verified_syncAttempts h).le, fun _ => hsync, ?_, ?_,
      fun _ h _ => foldl_verified_syncAttempts h, by simp, fun _ h hh => ?_⟩,
      fun _ h hh hnot => ?_, by simp⟩
    · rw [hout]
      exact fun h hh => List.mem_of_mem_filter hh
    · rw [hout]
      exact hnd.filter _
    · rw [hout] at hh
      obtain ⟨hmem, hbad⟩ := List.mem_filter.mp hh
      rw [verified_gatherVerify hmem]
      rw [Bool.and_eq_true, Bool.not_eq_true'] at hbad
      rw [hbad.1]
      exact Bool.false_ne_true
    · rw [verified_gatherVerify hh]
      refine hok (not_not.mp hoff) h hh ?_
      rw [← hout]
      exact hnot

variable {rounds : ℕ → Round} {g : Gate} {hosts : List String}

/-- The state of the gate is right after any number of rounds. -/
theorem Gate.Inv.after (hinv : g.Inv maxAttempts hosts 0) (n : ℕ) :
    ((g.after maxAttempts expected rounds n).finalResult = none →
        (g.after maxAttempts expected rounds n).Inv maxAttempts hosts n) ∧
      ∀ h, ((g.after maxAttempts expected rounds n).hosts h).syncAttempts ≤ n := by
  induction n with
  | zero => exact ⟨fun _ => hinv, hinv.attempts_le⟩
  | succ n ih =>
      rw [Gate.after]
      split_ifs with hopen
      · have hround := @Gate.Inv.round expected maxAttempts (rounds n) hosts n _
          (ih.1 hopen) hopen
        exact ⟨fun _ => hround, hround.attempts_le⟩
      · exact ⟨fun h => absurd h hopen, fun h => (ih.2 h).trans (Nat.le_succ n)⟩

/-- **The rounds suffice**: a gate has ended after as many rounds as a host may be synchronised. -/
theorem Gate.after_ends (hinv : g.Inv maxAttempts hosts 0) (hpos : 0 < maxAttempts) :
    (g.after maxAttempts expected rounds maxAttempts).finalResult ≠ none := by
  intro hopen
  have hlt := ((Gate.Inv.after hinv maxAttempts).1 hopen).attempts_lt hopen hpos.ne'
  exact absurd hlt (lt_irrefl _)

/-- No round of the first `n` mixes hosts. -/
def UnmixedUpTo (maxAttempts : ℕ) (expected : List ExpectedScript) (rounds : ℕ → Round) (g : Gate)
    (n : ℕ) : Prop :=
  ∀ k < n, (g.after maxAttempts expected rounds k).finalResult = none →
    Unmixed expected (rounds k) (g.after maxAttempts expected rounds k)

/-- One more round. -/
theorem unmixedUpTo_succ {n : ℕ} :
    UnmixedUpTo maxAttempts expected rounds g (n + 1) ↔
      UnmixedUpTo maxAttempts expected rounds g n ∧
        ((g.after maxAttempts expected rounds n).finalResult = none →
          Unmixed expected (rounds n) (g.after maxAttempts expected rounds n)) := by
  constructor
  · intro h
    exact ⟨fun k hk => h k (hk.trans (Nat.lt_succ_self n)), h n (Nat.lt_succ_self n)⟩
  · rintro ⟨hbefore, hlast⟩ k hk
    rcases Nat.lt_succ_iff_lt_or_eq.mp hk with hlt | rfl
    · exact hbefore k hlt
    · exact hlast

/-- **A run of the gate**: it stays covered as long as no round mixes hosts, and no longer; when it
gets ready, its hosts are verified exactly if it was. -/
theorem Gate.after_covered (hinv : g.Inv maxAttempts hosts 0)
    (hopen : g.finalResult = none → g.Covered hosts)
    (hready : g.finalResult = some .ready → ∀ h ∈ hosts, Verified g.log h) (n : ℕ) :
    ((g.after maxAttempts expected rounds n).finalResult = none →
        ((g.after maxAttempts expected rounds n).Covered hosts ↔
          UnmixedUpTo maxAttempts expected rounds g n)) ∧
      ((g.after maxAttempts expected rounds n).finalResult = some .ready →
        ((∀ h ∈ hosts, Verified (g.after maxAttempts expected rounds n).log h) ↔
          UnmixedUpTo maxAttempts expected rounds g n)) := by
  induction n with
  | zero =>
      have hnone : UnmixedUpTo maxAttempts expected rounds g 0 := by
        intro k hk
        omega
      exact ⟨fun h => iff_of_true (hopen h) hnone, fun h => iff_of_true (hready h) hnone⟩
  | succ n ih =>
      rw [unmixedUpTo_succ, Gate.after]
      split_ifs with hend
      · obtain ⟨hgo, hstop⟩ := @Gate.round_covered expected maxAttempts (rounds n) hosts n _
          ((Gate.Inv.after hinv n).1 hend) hend
        refine ⟨fun h => ?_, fun h => ?_⟩
        · rw [hgo h, ih.1 hend]
          exact and_congr_right fun _ => ⟨fun hu _ => hu, fun hu => hu hend⟩
        · rw [hstop h, ih.1 hend]
          exact and_congr_right fun _ => ⟨fun hu _ => hu, fun hu => hu hend⟩
      · refine ⟨fun h => absurd h hend, fun h => (ih.2 h).trans ?_⟩
        exact ⟨fun hu => ⟨hu, fun h' => absurd h' hend⟩, And.left⟩

/-- The limit is at least one. -/
theorem dispatchSyncMaxAttempts_pos (configured : ℤ) : 0 < dispatchSyncMaxAttempts configured := by
  rw [dispatchSyncMaxAttempts]
  omega

/-- **When a gate that gets ready has verified its hosts**: no round mixed hosts. -/
theorem gate_ready_iff {configured : ℤ} {inactive : List String} {reply : String → Reply}
    {hosts : Finset String}
    (hready : (driveDispatchGate configured inactive expected reply rounds hosts).finalResult =
      some .ready) :
    (∀ h ∈ hosts,
        Verified (driveDispatchGate configured inactive expected reply rounds hosts).log h) ↔
      UnmixedUpTo (dispatchSyncMaxAttempts configured) expected rounds
        (Gate.first inactive expected reply (hosts.sort (· ≤ ·)))
        (dispatchSyncMaxAttempts configured) := by
  obtain ⟨hinv, hopen, hfirst⟩ := @Gate.first_spec expected (dispatchSyncMaxAttempts configured)
    inactive reply _ (hosts.sort_nodup (· ≤ ·))
  rw [driveDispatchGate] at hready ⊢
  rw [← (Gate.after_covered hinv hopen hfirst _).2 hready]
  simp only [Finset.mem_sort]

end Gate

/-! ### No unverified host is admitted -/

/-- **Who is admitted.** For every set of hosts and every behaviour of their Agents, the phase
returns only when every host was last verified as ok exactly if no host acknowledges without rows,
or no scripts are expected, or another host does not settle. The dispatch gate ends within the
limit, which no host's attempts exceed, and when it gets ready every host was last verified as ok
exactly if in no round some synchronisations fail while others go through. -/
theorem admitted_hosts_verified_iff (hosts : Finset String) (loaded : Option (List ExpectedScript))
    (first second : String → Reply) (push : String → List ExpectedScript → Option Push)
    (configured : ℤ) (inactive : List String) (expected : List ExpectedScript)
    (reply : String → Reply) (rounds : ℕ → Round) :
    let phase := verifyScriptsPhase loaded first second push (hosts.sort (· ≤ ·))
    let gate := driveDispatchGate configured inactive expected reply rounds hosts
    ((phase.verdict = .returned → ∀ h ∈ hosts, Verified phase.log h) ↔
        (∀ h ∈ hosts, silent (first h) = false) ∨ loaded.getD [] = [] ∨
          ∃ h ∈ hosts, silent (first h) = false ∧
            ¬ Settles (loaded.getD []) first second push h) ∧
      (gate.finalResult = some .ready → ((∀ h ∈ hosts, Verified gate.log h) ↔
        UnmixedUpTo (dispatchSyncMaxAttempts configured) expected rounds
          (Gate.first inactive expected reply (hosts.sort (· ≤ ·)))
          (dispatchSyncMaxAttempts configured))) ∧
      gate.finalResult ≠ none ∧
      ∀ h, (gate.hosts h).syncAttempts ≤ dispatchSyncMaxAttempts configured := by
  intro phase gate
  have hinv := (@Gate.first_spec expected (dispatchSyncMaxAttempts configured) inactive reply _
    (hosts.sort_nodup (· ≤ ·))).1
  refine ⟨?_, gate_ready_iff, Gate.after_ends hinv (dispatchSyncMaxAttempts_pos configured),
    (Gate.Inv.after hinv _).2⟩
  have hphase := @phase_safe_iff first second push (hosts.sort (· ≤ ·)) loaded
  simp only [Finset.mem_sort] at hphase
  exact hphase

/-- An expected script. -/
def checkScript : ExpectedScript := ⟨"check", "v2", "ab12", "/mnt/scripts/check.py"⟩

/-- A row of an acknowledgement. -/
def checkRow (ok : Bool) : PyVal := .dict [("name", .str "check"), ("ok", .bool ok)]

/-- **Unverified hosts are admitted.** The Agent of a host acknowledges without a row, and the phase
returns; a gate with two attempts meets a round where the push to one host goes through and the one
to the other fails, synchronises only the latter again, and gets ready. -/
theorem unverified_hosts_admitted :
    (∃ first second push, (verifyScriptsPhase (some [checkScript]) first second push
        ["h1"]).verdict = .returned ∧
      ¬ Verified (verifyScriptsPhase (some [checkScript]) first second push ["h1"]).log "h1") ∧
    ∃ reply rounds, (driveDispatchGate 2 [] [checkScript] reply rounds
        {"h1", "h2"}).finalResult = some .ready ∧
      ¬ Verified (driveDispatchGate 2 [] [checkScript] reply rounds {"h1", "h2"}).log "h1" := by
  constructor
  · refine ⟨fun _ => .ack [], fun _ => .offline, fun _ _ => none, by decide +kernel, ?_⟩
    rw [phase_verified_iff (by decide) (by decide +kernel) (by decide)]
    decide
  · have hsort : ({"h1", "h2"} : Finset String).sort (· ≤ ·) = ["h1", "h2"] := by
      refine (Finset.sort_insert (fun x y : String => x ≤ y) (a := "h1") (s := {"h2"})
        (by decide) (by decide)).trans ?_
      rw [Finset.sort_singleton]
    refine ⟨fun _ => .ack [checkRow false], fun n =>
      ⟨fun _ => .ack [checkRow true], fun h _ => some ⟨h = "h1" || n = 1, some "ssh_timeout"⟩,
        fun _ => true, fun _ => none⟩, ?_, ?_⟩
    · rw [driveDispatchGate, hsort]
      decide +kernel
    · rw [driveDispatchGate, hsort]
      rintro ⟨r, hr, hok⟩
      have hlast : ∀ r ∈ lastResult ((Gate.first [] [checkScript]
          (fun _ => .ack [checkRow false]) ["h1", "h2"]).after (dispatchSyncMaxAttempts 2)
          [checkScript] (fun n => ⟨fun _ => .ack [checkRow true],
            fun h _ => some ⟨h = "h1" || n = 1, some "ssh_timeout"⟩, fun _ => true,
            fun _ => none⟩) (dispatchSyncMaxAttempts 2)).log "h1", r.ok = false := by
        decide +kernel
      rw [hlast r hr] at hok
      cases hok

end StabilityPlatform.ScriptVerify
