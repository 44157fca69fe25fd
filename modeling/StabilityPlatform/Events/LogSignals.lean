import StabilityPlatform.Core.IsoFormat
import StabilityPlatform.Core.Models
import StabilityPlatform.Lib.Fold
import StabilityPlatform.Lib.KeyedRows
import StabilityPlatform.Lib.Run

/-!
# Batches of log signals

Agents deliver log signals in batches, again until they are acknowledged. Each signal is checked by
itself: its contract, its job, the lease it was taken under, when it was detected, and the widths of
the columns. What is left goes into one insert, where a signal that is there is left out; the
database refuses the whole insert if it cannot hold one of the rows.

## Main results

* `ingest`: one batch; `ingest_eq`: what it stores, or that the database refuses.
* `Independent`: **the signals of a batch do not depend on each other**; `independent_iff`: just
  when all of them are refused by the database, or none.
* `log_signal_batches_iff`: for every batch, and what any deliveries store and count.
-/

namespace StabilityPlatform.LogSignals

open Lib

/-! ### Signals and rows -/

/-- `LogSignalIn`. -/
structure LogSignalIn where
  jobId : ℤ
  fencingToken : String
  agentInstanceId : String
  seqNo : ℤ
  hostId : String
  deviceSerial : String
  category : String
  source : String
  pathOnDevice : String
  detectedAt : String
  artifactUri : Option String
  sha256 : Option String
  sizeBytes : Option ℤ
  firstLines : Option String
  extra : Option PyDict

/-- `JobLogSignal`, as it is inserted. -/
structure LogSignalRow where
  jobId : ℤ
  hostId : String
  deviceSerial : String
  seqNo : ℤ
  category : String
  source : String
  pathOnDevice : String
  artifactUri : Option String
  sha256 : Option String
  sizeBytes : Option ℤ
  firstLines : Option String
  detectedAt : Time
  extra : Option PyDict

/-- `(job_id, seq_no)`. -/
def LogSignalRow.key (row : LogSignalRow) : ℤ × ℤ := (row.jobId, row.seqNo)

/-- The text in a column. -/
def LogSignalRow.text? (row : LogSignalRow) (column : String) : Option String :=
  match column with
  | "host_id" => some row.hostId
  | "device_serial" => some row.deviceSerial
  | "category" => some row.category
  | "source" => some row.source
  | "path_on_device" => some row.pathOnDevice
  | "artifact_uri" => row.artifactUri
  | "sha256" => row.sha256
  | "first_lines" => row.firstLines
  | _ => none

/-- Columns with the most characters they hold. -/
abbrev Widths := List (String × ℕ)

/-- `_log_signal_column_widths`. -/
def modelWidths : Widths :=
  [("host_id", 64), ("device_serial", 128), ("category", 32), ("source", 32),
    ("path_on_device", 512), ("artifact_uri", 512), ("sha256", 64)]

/-- `deployed_column_widths`, with what the probe returns, if it does. -/
def deployedColumnWidths (probe : Option Widths) : Widths :=
  match probe with
  | some widths => if widths.isEmpty then modelWidths else widths
  | none => modelWidths

/-- `log_signal_column_overflow`. -/
def logSignalColumnOverflow (row : LogSignalRow) (widths : Widths) : List String :=
  ((widths.filter fun column => (row.text? column.1).any fun text => column.2 < text.length).map
    Prod.fst).mergeSort fun a b => a ≤ b

/-! ### What the database holds -/

/-- An `Integer`. -/
def fitsInteger (n : ℤ) : Bool := -2 ^ 31 ≤ n && n < 2 ^ 31

/-- A `BigInteger`. -/
def fitsBigInteger (n : ℤ) : Bool := -2 ^ 63 ≤ n && n < 2 ^ 63

/-- A text has the character that no text column holds. -/
def hasNul (text : String) : Bool := text.toList.contains '\x00'

mutual

/-- A value has a text with this character. -/
def valHasNul : PyVal → Bool
  | .str s => hasNul s
  | .list xs => listHasNul xs
  | .dict items => itemsHaveNul items
  | .null | .bool _ | .int _ | .float _ _ => false

/-- A member of a list has. -/
def listHasNul : List PyVal → Bool
  | [] => false
  | x :: rest => valHasNul x || listHasNul rest

/-- A key or a member of a dictionary has. -/
def itemsHaveNul : PyDict → Bool
  | [] => false
  | (key, x) :: rest => hasNul key || valHasNul x || itemsHaveNul rest

end

/-- The columns with text. -/
def textColumns : List String :=
  ["host_id", "device_serial", "category", "source", "path_on_device", "artifact_uri", "sha256",
    "first_lines"]

/-- **The database can hold a row**: no text is too wide or has the character, and the integers are
in range. -/
def Storable (widths : Widths) (row : LogSignalRow) : Prop :=
  (∀ column ∈ widths, ∀ text ∈ row.text? column.1, text.length ≤ column.2) ∧
    (∀ column ∈ textColumns, ∀ text ∈ row.text? column, hasNul text = false) ∧
    (∀ extra ∈ row.extra, itemsHaveNul extra = false) ∧
    fitsInteger row.jobId = true ∧ fitsBigInteger row.seqNo = true ∧
    ∀ size ∈ row.sizeBytes, fitsBigInteger size = true

instance (widths : Widths) (row : LogSignalRow) : Decidable (Storable widths row) :=
  inferInstanceAs (Decidable (_ ∧ _))

/-- The tables the signals are about, and theirs. -/
structure SignalDb where
  db : Db
  widths : Widths
  signals : List LogSignalRow
  /-- `uq_job_log_signal_job_seq`. -/
  unique : (signals.map LogSignalRow.key).Nodup
  /-- `log_signal_count` of the jobs. -/
  logSignalCount : ℤ → ℤ

/-! ### The checks of a signal -/

/-- `validate_log_signal`: the violation, if there is one; the fields are there by their types. -/
def validateLogSignal (s : LogSignalIn) : Option String :=
  if s.category ∉ ["ANR", "AEE", "VENDOR_AEE", "MOBILELOG", "UNIVIEW"] then
    some ("log_signal.category unknown: " ++ s.category)
  else if s.source ∉ ["inotifyd", "polling", "reconciler", "reconciler_rollback"] then
    some ("log_signal.source unknown: " ++ s.source)
  else if s.fencingToken = "" then some "log_signal.fencing_token must be non-empty string"
  else if s.agentInstanceId = "" then some "log_signal.agent_instance_id must be non-empty string"
  else none

/-- The job of a signal. -/
def SignalDb.job? (d : SignalDb) (jobId : ℤ) : Option JobInstance :=
  if 0 ≤ jobId then d.db.jobs.get? jobId.toNat else none

/-- The lease a token was given for: the latest one. -/
def SignalDb.tokenLease (d : SignalDb) (job : JobInstance) (token : String) : Option DeviceLease :=
  (d.db.leases.select fun l => l.jobId == some job.id && l.deviceId == job.deviceId &&
    l.leaseType == .job && l.fencingToken == token).argmax DeviceLease.id

/-- `require_job_bound_upload_lease`: whether it allows the upload. -/
def SignalDb.uploadAllowed (d : SignalDb) (job : JobInstance) (s : LogSignalIn) : Bool :=
  match d.tokenLease job s.fencingToken, d.db.devices.get? job.deviceId with
  | some lease, some device =>
    lease.hostId == s.hostId && job.hostId == some s.hostId &&
      (job.status.isTerminal || device.hostId == some s.hostId) &&
      lease.agentInstanceId == s.agentInstanceId &&
      pyStrip device.serial == pyStrip s.deviceSerial
  | _, _ => false

/-- `datetime.fromisoformat(detected_at.replace("Z", "+00:00"))`. -/
def parseDetectedAt (text : String) : Option Time :=
  fromIsoFormat (text.toList.flatMap fun c => if c = 'Z' then "+00:00".toList else [c])

/-- The row of a signal. -/
def LogSignalIn.row (s : LogSignalIn) (detectedAt : Time) : LogSignalRow where
  jobId := s.jobId
  hostId := s.hostId
  deviceSerial := s.deviceSerial
  seqNo := s.seqNo
  category := s.category
  source := s.source
  pathOnDevice := s.pathOnDevice
  artifactUri := s.artifactUri
  sha256 := s.sha256
  sizeBytes := s.sizeBytes
  firstLines := s.firstLines
  detectedAt := detectedAt
  extra := s.extra

/-- A signal is checked: its row, or why it is rejected; the database refuses a lookup by what it
cannot hold. -/
def checkSignal (d : SignalDb) (s : LogSignalIn) : Except PyError (Except String LogSignalRow) :=
  match validateLogSignal s with
  | some violation => .ok (.error ("log_signal contract violation: " ++ violation))
  | none =>
    if fitsInteger s.jobId = false then .error .dataError
    else match d.job? s.jobId with
      | none => .ok (.error ("job " ++ s.jobId.repr ++ " not found"))
      | some job =>
        if hasNul s.fencingToken then .error .dataError
        else if d.uploadAllowed job s = false then
          .ok (.error "lease_check_failed(409): UPLOAD_FENCING_MISMATCH")
        else match parseDetectedAt s.detectedAt with
          | none => .ok (.error ("log_signal.detected_at invalid ISO8601: " ++ s.detectedAt))
          | some detectedAt => .ok (.ok (s.row detectedAt))

/-- The reason of a row that does not fit its columns. -/
def overflowReason (columns : List String) : String :=
  "log_signal field exceeds column width: " ++ (PyVal.list (columns.map .str)).pyRepr

/-- A row that does not fit its columns is rejected. -/
def checkWidths (widths : Widths) (row : LogSignalRow) : Except String LogSignalRow :=
  match logSignalColumnOverflow row widths with
  | [] => .ok row
  | columns => .error (overflowReason columns)

/-! ### One batch -/

/-- A rejected signal. -/
structure RejectedSignal where
  jobId : ℤ
  seqNo : ℤ
  reason : String
  deriving DecidableEq

/-- `reason[:300]`. -/
def rejectedSignal (jobId seqNo : ℤ) (reason : String) : RejectedSignal :=
  ⟨jobId, seqNo, String.ofList (reason.toList.take 300)⟩

/-- What a delivery is told. -/
structure IngestResponse where
  inserted : ℕ
  total : ℕ
  rejected : Option (List RejectedSignal)
  deriving DecidableEq

/-- The rows that are new after an insert with `ON CONFLICT DO NOTHING`. -/
def insertedRows (before after : List LogSignalRow) : List LogSignalRow := after.drop before.length

/-- The rows are inserted, and counted for their jobs. -/
def SignalDb.insert (d : SignalDb) (rows : List LogSignalRow) : SignalDb :=
  let signals := KeyedRows.insertNew LogSignalRow.key d.signals rows
  { d with
    signals := signals
    unique := KeyedRows.nodup_insertNew d.unique rows
    logSignalCount := fun jobId =>
      d.logSignalCount jobId + (insertedRows d.signals signals).countP (·.jobId == jobId) }

/-- What is rejected of checked signals. -/
def rejectedOf (checked : List (LogSignalIn × Except String LogSignalRow)) : List RejectedSignal :=
  checked.filterMap fun x =>
    match x.2 with
    | .ok _ => none
    | .error reason => some (rejectedSignal x.1.jobId x.1.seqNo reason)

/-- The rows of checked signals. -/
def rowsOf (checked : List (Except String LogSignalRow)) : List LogSignalRow :=
  checked.filterMap Except.toOption

/-- The rows that do not fit their columns. -/
def overflowsOf (widths : Widths) (rows : List LogSignalRow) : List RejectedSignal :=
  rows.filterMap fun row =>
    match checkWidths widths row with
    | .ok _ => none
    | .error reason => some (rejectedSignal row.jobId row.seqNo reason)

/-- `ingest_agent_log_signals`. -/
def ingest (d : SignalDb) (probe : Option Widths) (signals : List LogSignalIn) :
    Except PyError (SignalDb × IngestResponse) :=
  if signals.isEmpty then .ok (d, ⟨0, 0, none⟩)
  else do
    let checked ← signals.mapM (checkSignal d)
    let widths := deployedColumnWidths probe
    let rows := rowsOf checked
    let kept := rowsOf (rows.map (checkWidths widths))
    let rejected := rejectedOf (signals.zip checked) ++ overflowsOf widths rows
    if kept.isEmpty then .ok (d, ⟨0, signals.length, some rejected⟩)
    else if ¬∀ row ∈ kept, Storable d.widths row then .error .dataError
    else
      let after := d.insert kept
      .ok (after, ⟨(insertedRows d.signals after.signals).length, signals.length, some rejected⟩)

/-! ### What becomes of a signal -/

variable {d : SignalDb} {probe : Option Widths}

/-- What the checks make of a signal. -/
def fate (d : SignalDb) (probe : Option Widths) (s : LogSignalIn) :
    Except PyError (Except String LogSignalRow) :=
  (checkSignal d s).map fun checked => checked.bind (checkWidths (deployedColumnWidths probe))

/-- The row of a signal that passes the checks. -/
def acceptedRow? (d : SignalDb) (probe : Option Widths) (s : LogSignalIn) : Option LogSignalRow :=
  match fate d probe s with
  | .ok (.ok row) => some row
  | _ => none

/-- A lookup is refused, or a row that passes the checks. -/
def RefusedAs (widths : Widths) : Except PyError (Except String LogSignalRow) → Prop
  | .error _ => True
  | .ok (.ok row) => ¬Storable widths row
  | .ok (.error _) => False

instance (widths : Widths) :
    (checked : Except PyError (Except String LogSignalRow)) → Decidable (RefusedAs widths checked)
  | .error _ => isTrue trivial
  | .ok (.ok _) => inferInstanceAs (Decidable (¬_))
  | .ok (.error _) => isFalse id

/-- **The database refuses a signal**: a lookup with what it cannot hold, or a row that passes the
checks and that it cannot hold. -/
def Refused (d : SignalDb) (probe : Option Widths) (s : LogSignalIn) : Prop :=
  RefusedAs d.widths (fate d probe s)

instance (d : SignalDb) (probe : Option Widths) (s : LogSignalIn) :
    Decidable (Refused d probe s) :=
  inferInstanceAs (Decidable (RefusedAs _ _))

/-- What becomes of a signal in a batch. -/
inductive Outcome where
  | stored
  | alreadyStored
  | rejected (reason : String)
  | failed
  deriving DecidableEq

/-- What becomes of one signal, with the rows that are stored. -/
def placeOne (d : SignalDb) (probe : Option Widths) (rows : List LogSignalRow) (s : LogSignalIn) :
    Outcome :=
  match fate d probe s with
  | .ok (.ok row) => if row.key ∈ rows.map LogSignalRow.key then .alreadyStored else .stored
  | .ok (.error reason) => .rejected reason
  | .error _ => .failed

/-- The rows that are stored after a signal that is not refused. -/
def rowsAfter (d : SignalDb) (probe : Option Widths) (rows : List LogSignalRow)
    (signals : List LogSignalIn) : List LogSignalRow :=
  KeyedRows.insertNew LogSignalRow.key rows (signals.filterMap (acceptedRow? d probe))

/-- What becomes of the signals of a batch that is not refused, in order. -/
def place (d : SignalDb) (probe : Option Widths) :
    List LogSignalRow → List LogSignalIn → List Outcome
  | _, [] => []
  | rows, s :: rest => placeOne d probe rows s :: place d probe (rowsAfter d probe rows [s]) rest

/-- What becomes of the signals of a batch. -/
def outcomes (d : SignalDb) (probe : Option Widths) (signals : List LogSignalIn) : List Outcome :=
  match ingest d probe signals with
  | .ok _ => place d probe d.signals signals
  | .error _ => signals.map fun _ => .failed

/-- The database after a batch; one that fails leaves it. -/
def deliver (d : SignalDb) (probe : Option Widths) (signals : List LogSignalIn) : SignalDb :=
  match ingest d probe signals with
  | .ok (after, _) => after
  | .error _ => d

/-- The database after signals that are sent one by one. -/
def deliverAlone (d : SignalDb) (probe : Option Widths) (signals : List LogSignalIn) : SignalDb :=
  signals.foldl (fun d s => deliver d probe [s]) d

/-- **The signals of a batch do not depend on each other**: what becomes of one is what becomes of
it alone, after the ones before it. -/
def Independent (d : SignalDb) (probe : Option Widths) (signals : List LogSignalIn) : Prop :=
  ∀ before s after, signals = before ++ s :: after →
    (outcomes d probe signals)[before.length]? =
      (outcomes (deliverAlone d probe before) probe [s])[0]?

/-! ### What one batch does -/

/-- A fallible map that fails does so at a member. -/
theorem exists_of_mapM_eq_error {α β ε : Type} {f : α → Except ε β} {items : List α} {e : ε}
    (h : items.mapM f = .error e) : ∃ a ∈ items, f a = .error e := by
  induction items with
  | nil => cases h
  | cons a rest ih =>
      rw [List.mapM_cons] at h
      cases ha : f a with
      | error e' =>
          rw [ha] at h
          cases h
          exact ⟨a, List.mem_cons_self, ha⟩
      | ok b =>
          rw [ha] at h
          cases hrest : rest.mapM f with
          | error e' =>
              rw [hrest] at h
              cases h
              obtain ⟨c, hc, heq⟩ := ih hrest
              exact ⟨c, List.mem_cons_of_mem a hc, heq⟩
          | ok bs =>
              rw [hrest] at h
              cases h

/-- What the checks keep of a batch are the rows of its signals that pass them. -/
theorem kept_eq {signals : List LogSignalIn} {checked : List (Except String LogSignalRow)}
    (h : List.Forall₂ (fun s c => checkSignal d s = .ok c) signals checked) :
    rowsOf ((rowsOf checked).map (checkWidths (deployedColumnWidths probe))) =
      signals.filterMap (acceptedRow? d probe) := by
  induction h with
  | nil => rfl
  | @cons s c signals checked hs _ ih =>
      have hfate : fate d probe s = .ok (c.bind (checkWidths (deployedColumnWidths probe))) := by
        rw [fate, hs]
        rfl
      cases c with
      | error reason =>
          have hnone : acceptedRow? d probe s = none := by
            rw [acceptedRow?, hfate]
            rfl
          rw [List.filterMap_cons_none hnone, ← ih]
          rfl
      | ok row =>
          cases hwidths : checkWidths (deployedColumnWidths probe) row with
          | error reason =>
              have hnone : acceptedRow? d probe s = none := by
                rw [acceptedRow?, hfate, Except.bind, hwidths]
              rw [List.filterMap_cons_none hnone, ← ih]
              simp only [rowsOf, List.filterMap_cons, List.map_cons, Except.toOption, hwidths]
          | ok row' =>
              have hsome : acceptedRow? d probe s = some row' := by
                rw [acceptedRow?, hfate, Except.bind, hwidths]
              rw [List.filterMap_cons_some hsome, ← ih]
              simp only [rowsOf, List.filterMap_cons, List.map_cons, Except.toOption, hwidths]

/-- A signal is not refused when its checks end and its row can be held. -/
theorem not_refused_iff {s : LogSignalIn} {checked : Except String LogSignalRow}
    (h : checkSignal d s = .ok checked) :
    ¬Refused d probe s ↔ ∀ row ∈ acceptedRow? d probe s, Storable d.widths row := by
  rw [Refused, acceptedRow?]
  cases hfate : fate d probe s with
  | error e =>
      rw [fate, h] at hfate
      cases hfate
  | ok c =>
      cases c with
      | error reason => simp [RefusedAs]
      | ok row => simp [RefusedAs]

/-- Inserting nothing leaves the database. -/
theorem insert_nil (d : SignalDb) : d.insert [] = d := by
  cases d with
  | mk db widths signals unique counts =>
      simp [SignalDb.insert, insertedRows]

/-- **One batch** stores the rows of its signals that pass the checks, or is refused because one of
its signals is. -/
theorem ingest_eq (d : SignalDb) (probe : Option Widths) (signals : List LogSignalIn) :
    (∃ response, ingest d probe signals =
        .ok (d.insert (signals.filterMap (acceptedRow? d probe)), response) ∧
      ∀ s ∈ signals, ¬Refused d probe s) ∨
    (∃ e, ingest d probe signals = .error e) ∧ ∃ s ∈ signals, Refused d probe s := by
  rw [ingest]
  by_cases hempty : signals.isEmpty = true
  · rw [if_pos hempty]
    rw [List.isEmpty_iff] at hempty
    subst hempty
    exact .inl ⟨_, by rw [List.filterMap_nil, insert_nil], by simp⟩
  · rw [if_neg hempty]
    cases hchecked : signals.mapM (checkSignal d) with
    | error e =>
        obtain ⟨s, hs, herror⟩ := exists_of_mapM_eq_error hchecked
        refine .inr ⟨⟨e, rfl⟩, s, hs, ?_⟩
        rw [Refused, fate, herror]
        exact trivial
    | ok checked =>
        have hall := mapM_eq_ok_iff.mp hchecked
        have hkept := @kept_eq _ probe _ _ hall
        have hrefused : (∀ s ∈ signals, ¬Refused d probe s) ↔
            ∀ row ∈ signals.filterMap (acceptedRow? d probe), Storable d.widths row := by
          constructor
          · intro h row hrow
            obtain ⟨s, hs, haccepted⟩ := List.mem_filterMap.mp hrow
            obtain ⟨c, -, hc⟩ := exists_right_of_forall₂ hall hs
            exact (not_refused_iff hc).mp (h s hs) row haccepted
          · intro h s hs
            obtain ⟨c, -, hc⟩ := exists_right_of_forall₂ hall hs
            exact (not_refused_iff hc).mpr fun row hrow =>
              h row (List.mem_filterMap.mpr ⟨s, hs, hrow⟩)
        dsimp only [Bind.bind, Except.bind]
        rw [hkept]
        by_cases hnone : (signals.filterMap (acceptedRow? d probe)).isEmpty = true
        · rw [if_pos hnone]
          rw [List.isEmpty_iff] at hnone
          refine .inl ⟨_, by rw [hnone, insert_nil], hrefused.mpr ?_⟩
          rw [hnone]
          simp
        · rw [if_neg hnone]
          by_cases hstorable : ∀ row ∈ signals.filterMap (acceptedRow? d probe),
              Storable d.widths row
          · rw [if_neg (not_not.mpr hstorable)]
            exact .inl ⟨_, rfl, hrefused.mpr hstorable⟩
          · rw [if_pos hstorable]
            refine .inr ⟨⟨_, rfl⟩, ?_⟩
            by_contra hall'
            push Not at hall'
            exact hstorable (hrefused.mp hall')

/-! ### Signals by themselves -/

/-- One signal alone: its row is stored, or it is refused. -/
theorem deliver_singleton (d : SignalDb) (probe : Option Widths) (s : LogSignalIn) :
    (¬Refused d probe s ∧ deliver d probe [s] = d.insert (acceptedRow? d probe s).toList ∧
        outcomes d probe [s] = [placeOne d probe d.signals s]) ∨
      Refused d probe s ∧ deliver d probe [s] = d ∧ outcomes d probe [s] = [.failed] := by
  have hrows : [s].filterMap (acceptedRow? d probe) = (acceptedRow? d probe s).toList := by
    cases h : acceptedRow? d probe s with
    | none => simp [h]
    | some row => simp [h]
  rcases ingest_eq d probe [s] with ⟨response, hok, hnone⟩ | ⟨⟨e, herror⟩, t, ht, hrefused⟩
  · refine .inl ⟨hnone s List.mem_cons_self, ?_, ?_⟩
    · rw [deliver, hok, hrows]
    · rw [outcomes, hok]
      rfl
  · rw [List.mem_singleton.mp ht] at hrefused
    refine .inr ⟨hrefused, ?_, ?_⟩
    · rw [deliver, herror]
    · rw [outcomes, herror]
      rfl

/-- Signals alone leave the tables they are about. -/
theorem deliverAlone_db (d : SignalDb) (probe : Option Widths) (signals : List LogSignalIn) :
    (deliverAlone d probe signals).db = d.db ∧ (deliverAlone d probe signals).widths = d.widths := by
  induction signals generalizing d with
  | nil => exact ⟨rfl, rfl⟩
  | cons s rest ih =>
      obtain ⟨hdb, hwidths⟩ := ih (deliver d probe [s])
      have hone : (deliver d probe [s]).db = d.db ∧ (deliver d probe [s]).widths = d.widths := by
        rcases deliver_singleton d probe s with ⟨-, hdeliver, -⟩ | ⟨-, hdeliver, -⟩
        · rw [hdeliver]
          exact ⟨rfl, rfl⟩
        · rw [hdeliver]
          exact ⟨rfl, rfl⟩
      exact ⟨hdb.trans hone.1, hwidths.trans hone.2⟩

/-- What the checks make of a signal depends on the tables it is about. -/
theorem fate_congr {d d' : SignalDb} (hdb : d'.db = d.db) (probe : Option Widths) :
    fate d' probe = fate d probe := by
  cases d with
  | mk db widths signals unique counts =>
      cases d' with
      | mk db' widths' signals' unique' counts' =>
          cases hdb
          rfl

/-- Whether the database refuses a signal depends on these and on the widths. -/
theorem refused_congr {d d' : SignalDb} (hdb : d'.db = d.db) (hwidths : d'.widths = d.widths)
    (probe : Option Widths) (s : LogSignalIn) : Refused d' probe s ↔ Refused d probe s := by
  rw [Refused, Refused, fate_congr hdb, hwidths]

/-- The rows after signals that are sent one by one and not refused. -/
theorem signals_deliverAlone {signals : List LogSignalIn}
    (h : ∀ s ∈ signals, ¬Refused d probe s) :
    (deliverAlone d probe signals).signals = rowsAfter d probe d.signals signals := by
  induction signals generalizing d with
  | nil => rfl
  | cons s rest ih =>
      rcases deliver_singleton d probe s with ⟨-, hdeliver, -⟩ | ⟨hrefused, -, -⟩
      · have hrest : ∀ t ∈ rest, ¬Refused (deliver d probe [s]) probe t := by
          intro t ht
          rw [hdeliver]
          exact h t (List.mem_cons_of_mem s ht)
        have hstep := ih hrest
        rw [hdeliver] at hstep
        have hrows : (s :: rest).filterMap (acceptedRow? d probe) =
            (acceptedRow? d probe s).toList ++ rest.filterMap (acceptedRow? d probe) := by
          cases hrow : acceptedRow? d probe s with
          | none => simp [hrow]
          | some row => simp [hrow]
        rw [deliverAlone, List.foldl_cons, hdeliver]
        refine hstep.trans ?_
        rw [rowsAfter, rowsAfter, hrows, KeyedRows.insertNew_append]
        rfl
      · exact absurd hrefused (h s List.mem_cons_self)

/-- What becomes of a signal in a batch that is not refused: what becomes of it after the rows of
the ones before it. -/
theorem getElem?_place (before after : List LogSignalIn) (s : LogSignalIn)
    (rows : List LogSignalRow) :
    (place d probe rows (before ++ s :: after))[before.length]? =
      some (placeOne d probe (rowsAfter d probe rows before) s) := by
  induction before generalizing rows with
  | nil => rfl
  | cons t before ih =>
      have hrows : rowsAfter d probe rows (t :: before) =
          rowsAfter d probe (rowsAfter d probe rows [t]) before := by
        rw [rowsAfter, rowsAfter, rowsAfter, ← KeyedRows.insertNew_append, ← List.filterMap_append]
        rfl
      rw [hrows, List.length_cons, List.cons_append, place, List.getElem?_cons_succ, ih]

/-- **When the signals of a batch do not depend on each other**: just when the database refuses none
of them, or all. -/
theorem independent_iff (d : SignalDb) (probe : Option Widths) (signals : List LogSignalIn) :
    Independent d probe signals ↔
      (∀ s ∈ signals, ¬Refused d probe s) ∨ ∀ s ∈ signals, Refused d probe s := by
  have halone : ∀ before s, (Refused d probe s →
      (outcomes (deliverAlone d probe before) probe [s])[0]? = some .failed) ∧
      (¬Refused d probe s → (outcomes (deliverAlone d probe before) probe [s])[0]? =
        some (placeOne d probe (deliverAlone d probe before).signals s)) := by
    intro before s
    obtain ⟨hdb, hwidths⟩ := deliverAlone_db d probe before
    have hiff := refused_congr hdb hwidths probe s
    have hplace : placeOne (deliverAlone d probe before) probe =
        placeOne d probe := by
      funext rows t
      rw [placeOne, placeOne, fate_congr hdb]
    rcases deliver_singleton (deliverAlone d probe before) probe s with
      ⟨hnot, -, houtcome⟩ | ⟨hrefused, -, houtcome⟩
    · refine ⟨fun h => absurd (hiff.mpr h) hnot, fun _ => ?_⟩
      rw [houtcome, hplace]
      rfl
    · refine ⟨fun _ => ?_, fun h => absurd (hiff.mp hrefused) h⟩
      rw [houtcome]
      rfl
  rcases ingest_eq d probe signals with ⟨response, hok, hnone⟩ | ⟨⟨e, herror⟩, t, ht, hrefused⟩
  · refine iff_of_true (fun before s after hsplit => ?_) (.inl hnone)
    have hbefore : ∀ t ∈ before, ¬Refused d probe t := fun t ht =>
      hnone t (by rw [hsplit]; exact List.mem_append_left _ ht)
    rw [(halone before s).2 (hnone s (by simp [hsplit])), signals_deliverAlone hbefore, outcomes, hok]
    dsimp only
    rw [hsplit, getElem?_place]
  · have hall : ∀ before s after, signals = before ++ s :: after →
        (outcomes d probe signals)[before.length]? = some .failed := by
      intro before s after hsplit
      rw [outcomes, herror]
      dsimp only
      rw [hsplit]
      simp
    have hfailed : ∀ rows s, placeOne d probe rows s = .failed → Refused d probe s := by
      intro rows s h
      rw [placeOne] at h
      rw [Refused]
      cases hfate : fate d probe s with
      | error e => exact trivial
      | ok c =>
          rw [hfate] at h
          cases c with
          | error reason => cases h
          | ok row =>
              dsimp only at h
              split at h
              · cases h
              · cases h
    constructor
    · intro hindependent
      refine .inr fun s hs => ?_
      obtain ⟨before, after, hsplit⟩ := List.append_of_mem hs
      by_contra hnot
      have heq := hindependent before s after hsplit
      rw [hall before s after hsplit, (halone before s).2 hnot] at heq
      exact hnot (hfailed _ s (Option.some.inj heq).symm)
    · rintro (hnone | hrefuses) before s after hsplit
      · exact absurd hrefused (hnone t ht)
      · rw [hall before s after hsplit,
          (halone before s).1 (hrefuses s (by simp [hsplit]))]

/-! ### Any deliveries -/

/-- What happens to the database. -/
inductive SignalOp where
  | batch (probe : Option Widths) (signals : List LogSignalIn)
  | elsewhere (db : Db) (widths : Widths)

/-- One such step. -/
def SignalDb.step (d : SignalDb) : SignalOp → SignalDb
  | .batch probe signals => deliver d probe signals
  | .elsewhere db widths => { d with db := db, widths := widths }

/-- The rows a step accepts: those of a batch that is not refused. -/
def SignalDb.accepts (d : SignalDb) : SignalOp → List LogSignalRow
  | .batch probe signals =>
    match ingest d probe signals with
    | .ok _ => signals.filterMap (acceptedRow? d probe)
    | .error _ => []
  | .elsewhere _ _ => []

/-- **What is stored and counted.** The rows are those that were there, and of the accepted ones the
first of each key that was not; the new ones are counted for their jobs. -/
structure Stored (start : SignalDb) (accepted : List LogSignalRow) (d : SignalDb) : Prop where
  signals : d.signals = KeyedRows.insertNew LogSignalRow.key start.signals accepted
  counted : ∀ jobId, d.logSignalCount jobId = start.logSignalCount jobId +
    (insertedRows start.signals d.signals).countP (·.jobId == jobId)

/-- Nothing is inserted yet. -/
theorem stored_start (d : SignalDb) : Stored d [] d :=
  ⟨rfl, fun _ => by simp [insertedRows]⟩

/-- What is inserted in two parts. -/
theorem insertedRows_insertNew (rows new new' : List LogSignalRow) :
    insertedRows rows (KeyedRows.insertNew LogSignalRow.key rows (new ++ new')) =
      insertedRows rows (KeyedRows.insertNew LogSignalRow.key rows new) ++
        insertedRows (KeyedRows.insertNew LogSignalRow.key rows new)
          (KeyedRows.insertNew LogSignalRow.key rows (new ++ new')) := by
  obtain ⟨first, hfirst⟩ := KeyedRows.insertNew_eq_append LogSignalRow.key rows new
  obtain ⟨second, hsecond⟩ :=
    KeyedRows.insertNew_eq_append LogSignalRow.key (KeyedRows.insertNew LogSignalRow.key rows new) new'
  rw [KeyedRows.insertNew_append, hsecond, hfirst]
  simp [insertedRows]

/-- **One step** stores and counts what it accepts. -/
theorem Stored.step {start d : SignalDb} {accepted : List LogSignalRow} (h : Stored start accepted d)
    (op : SignalOp) : Stored start (accepted ++ d.accepts op) (d.step op) := by
  cases op with
  | elsewhere db widths =>
      rw [SignalDb.accepts, List.append_nil]
      exact ⟨h.signals, h.counted⟩
  | batch probe signals =>
      rw [SignalDb.accepts, SignalDb.step, deliver]
      rcases ingest_eq d probe signals with ⟨response, hok, -⟩ | ⟨⟨e, herror⟩, -⟩
      · rw [hok]
        refine ⟨?_, fun jobId => ?_⟩
        · rw [KeyedRows.insertNew_append, ← h.signals]
          rfl
        · have hcount : (d.insert (signals.filterMap (acceptedRow? d probe))).logSignalCount jobId =
              d.logSignalCount jobId + (insertedRows d.signals (KeyedRows.insertNew LogSignalRow.key
                d.signals (signals.filterMap (acceptedRow? d probe)))).countP (·.jobId == jobId) :=
            rfl
          have hsignals : (d.insert (signals.filterMap (acceptedRow? d probe))).signals =
              KeyedRows.insertNew LogSignalRow.key start.signals
                (accepted ++ signals.filterMap (acceptedRow? d probe)) := by
            rw [KeyedRows.insertNew_append, ← h.signals]
            rfl
          rw [hcount, h.counted jobId, hsignals, insertedRows_insertNew, List.countP_append,
            ← h.signals, KeyedRows.insertNew_append, ← h.signals]
          push_cast
          ring
      · rw [herror, List.append_nil]
        exact h

/-- **Batches of log signals.** The signals of a batch do not depend on each other just when the
database refuses none of them, or all. And whatever is delivered, again or in parts: no two rows have
the same key, the row of a key is the one that was there or the first one that was accepted, and the
count of each job grows by its new rows. -/
theorem log_signal_batches_iff (d : SignalDb) (probe : Option Widths)
    (signals : List LogSignalIn) :
    (Independent d probe signals ↔
      (∀ s ∈ signals, ¬Refused d probe s) ∨ ∀ s ∈ signals, Refused d probe s) ∧
    ∀ start tr d', Run (fun d op d' => SignalDb.step d op = d') start tr d' →
      (d'.signals.map LogSignalRow.key).Nodup ∧
      (∀ key, d'.signals.find? (fun row => row.key = key) =
        (start.signals ++ emitted SignalDb.accepts tr).find? fun row => row.key = key) ∧
      ∀ jobId, d'.logSignalCount jobId = start.logSignalCount jobId +
        (insertedRows start.signals d'.signals).countP (·.jobId == jobId) := by
  refine ⟨independent_iff d probe signals, fun start tr d' hrun => ?_⟩
  have hstored := hrun.invariant_log (Stored start)
    (fun hI hstep => hstep ▸ hI.step _) (stored_start start)
  rw [List.nil_append] at hstored
  refine ⟨d'.unique, fun key => ?_, hstored.counted⟩
  rw [hstored.signals, KeyedRows.find?_insertNew]

section Example

/-- A device. -/
def oneDevice : Device where
  id := 1
  serial := "S1"
  hostId := some "h1"
  model := none
  platform := none
  leaseGeneration := 5
  retiredAt := none
  retiredBy := none
  retireReason := none
  retireAlertedAt := none
  returnState := none

/-- Its lease. -/
def oneLease : DeviceLease where
  id := 1
  deviceId := 1
  jobId := some 1
  hostId := "h1"
  leaseType := .job
  status := .active
  fencingToken := "1:5"
  leaseGeneration := 5
  agentInstanceId := "agent"
  reason := none
  holder := none
  acquiredAt := 0
  renewedAt := 0
  expiresAt := 0
  releasedAt := none

/-- The job it is for. -/
def oneJob : JobInstance where
  id := 1
  planRunId := 1
  deviceId := 1
  hostId := some "h1"
  status := .running
  statusReason := none
  pipelineDef := .null
  startedAt := none
  endedAt := none
  terminalPayloadDigest := none
  disarmResults := .null
  disarmGuard := none
  lastExecutionHeartbeatAt := none
  lastProgressAt := none
  updatedAt := 0

/-- A running job, and no signals yet. -/
def oneJobDb : SignalDb where
  db :=
    { devices := ⟨[oneDevice], 2, by decide, by decide⟩
      leases := ⟨[oneLease], 2, by decide, by decide⟩
      debts := .empty
      jobs := ⟨[oneJob], 2, by decide, by decide⟩
      traces := .empty
      planRuns := .empty
      hosts := [] }
  widths := modelWidths
  signals := []
  unique := List.nodup_nil
  logSignalCount := fun _ => 0

/-- A signal of the job, with a number and how its file begins. -/
def oneSignal (seqNo : ℤ) (firstLines : String) : LogSignalIn where
  jobId := 1
  fencingToken := "1:5"
  agentInstanceId := "agent"
  seqNo := seqNo
  hostId := "h1"
  deviceSerial := "S1"
  category := "AEE"
  source := "inotifyd"
  pathOnDevice := "/data/aee_exp/db.0"
  detectedAt := "2026-06-29T17:49:40Z"
  artifactUri := none
  sha256 := none
  sizeBytes := none
  firstLines := some firstLines
  extra := none

/-- The theorem at work: a batch is stored, and counted, and stored once when it comes again. -/
theorem log_signal_batches_again :
    ∃ tr d, Run (fun d op d' => SignalDb.step d op = d') oneJobDb tr d ∧
      (d.signals.map LogSignalRow.key).Nodup ∧ d.logSignalCount 1 = 2 := by
  let signals := [oneSignal 1 "a", oneSignal 2 "b", oneSignal 1 "c"]
  let ops : List SignalOp := [.batch (some modelWidths) signals, .batch (some modelWidths) signals]
  have hcount : (ops.foldl SignalDb.step oneJobDb).logSignalCount 1 = 2 := by decide +kernel
  have hrun := Run.of_foldl SignalDb.step oneJobDb ops
  generalize ops.foldl SignalDb.step oneJobDb = d at hrun hcount
  obtain ⟨hnodup, -, -⟩ := (log_signal_batches_iff oneJobDb (some modelWidths) signals).2 _ _ _ hrun
  exact ⟨_, d, hrun, hnodup, hcount⟩

/-- **One signal makes another one fail.** The first lines of a crash file may have a NUL character:
no check is about it, and the insert of the batch is refused as a whole. -/
theorem nul_fails_batch :
    ¬Independent oneJobDb (some modelWidths) [oneSignal 1 "a", oneSignal 2 "\x00"] := by
  have hrefused : Refused oneJobDb (some modelWidths) (oneSignal 2 "\x00") := by decide +kernel
  have hgood : ¬Refused oneJobDb (some modelWidths) (oneSignal 1 "a") := by decide +kernel
  generalize oneSignal 1 "a" = good, oneSignal 2 "\x00" = bad at hgood hrefused
  rw [independent_iff]
  rintro (hnone | hall)
  · exact hnone bad (by simp) hrefused
  · exact hgood (hall good (by simp))

end Example

end StabilityPlatform.LogSignals
