import StabilityPlatform.Lease.LeaseManager
import StabilityPlatform.PlanRun.AbortRequest

/-!
# Shadow scan rounds

The reports of a plan run are received in rounds. A round waits for the hosts it expects until
its cutoff, then it is closed. Hosts may report to a closed round all the same; such a late
report is carried into the next round that is opened: the next periodic one while the plan run is
running, the final one when it has ended, or a supplement after that.

The rounds here are those of one partition, a plan run and a platform. The row of the plan run is
locked while a step works on them, so steps come one after another. What the manifests say may be
anything at every step.

## Main results

* `readRoundReports`, `classifyRoundCoverage`: the reports of a round, and what they cover.
* `advanceRun`, `prepareShadowScan`: the two steps.
-/

namespace StabilityPlatform

/-! ### Rows -/

/-- A report, by what tells it from others (`_report_key`); an empty receipt has no path. -/
structure Report where
  factRoundId : ℕ
  hostId : String
  platform : String
  storageUri : Option String
  emptyReceipt : Bool
  deriving DecidableEq, Repr

/-- What is known of a host in a round. -/
inductive Coverage where
  | received
  | empty
  | missing
  | late
  deriving DecidableEq, Repr

/-- `_COVERED`. -/
def Coverage.covered : Coverage → Bool
  | received | empty => true
  | missing | late => false

/-- A host of a round; one that is not expected is there for its late reports only. -/
structure ScanUnit where
  hostId : String
  platform : String
  expected : Bool
  coverage : Coverage
  reports : List Report
  lateReports : List Report
  observedAt : Option Time
  lastDispatchedAt : Option Time
  deriving DecidableEq

/-- What a round is for. -/
inductive RoundKind where
  | periodic
  | final
  | supplement
  deriving DecidableEq, Repr

/-- How far a round is. -/
inductive RoundStatus where
  | pending
  | running
  | closed
  deriving DecidableEq, Repr

/-- A round. -/
structure ScanRound where
  id : ℕ
  roundNo : ℕ
  kind : RoundKind
  expectedSet : List ScanUnit
  inputCutoffAt : Time
  status : RoundStatus
  createdAt : Time
  closedAt : Option Time
  deriving DecidableEq

/-- The reports that are inputs of a round. -/
def ScanRound.inputs (row : ScanRound) : List Report := row.expectedSet.flatMap ScanUnit.reports

/-- How a partition is worked on. -/
inductive PartitionMode where
  | current
  | other
  deriving DecidableEq, Repr

/-- A partition: its rounds in the order of their numbers, its mode, and the next key for a
round. -/
structure Partition where
  rounds : List ScanRound
  mode : Option PartitionMode
  nextId : ℕ

/-- The storage the hosts write to. -/
structure ScanStorage where
  manifest : ℕ → String → Option PyVal
  locate : ℕ → String → String → Option String

/-- What a step sees. -/
structure ScanView where
  planRunId : ℕ
  runStatus : Option PlanRunStatus
  now : Time
  storage : ScanStorage
  expectedHosts : List String
  scanHosts : List (String × Bool)
  deviceSerials : String → List String
  keysTaken : ℕ
  intervalSeconds : ℤ
  reportWaitSeconds : ℤ
  scanTaskTimeout : ℤ

/-- `_PLATFORM`. -/
def shadowPlatform : String := "mtk"

/-! ### Reading manifests -/

/-- One entry of a manifest. -/
def readManifestEntry (storage : ScanStorage) (factRoundId : ℕ) (unit : ScanUnit) :
    PyVal → Option Report
  | .dict entry =>
    match PyDict.get entry "fact_round_id", PyDict.get entry "platform" with
    | .int roundId, .str platform =>
      if roundId = factRoundId ∧ platform = unit.platform then
        match PyDict.get entry "empty_receipt" with
        | .bool true => some ⟨factRoundId, unit.hostId, platform, none, true⟩
        | _ =>
          if (PyDict.get entry "registerable").truthy then
            match PyDict.get entry "file_key" with
            | .str fileKey => (storage.locate factRoundId platform fileKey).map fun path =>
                ⟨factRoundId, unit.hostId, platform, some path, false⟩
            | _ => none
          else none
      else none
    | _, _ => none
  | _ => none

/-- The artifacts of a manifest that is bound to the run and the host. -/
def manifestArtifacts (planRunId : ℕ) (hostId : String) : Option PyVal → List PyVal
  | some (.dict data) =>
    match PyDict.get data "plan_run_id", PyDict.get data "host_id",
        PyDict.get data "artifacts" with
    | .int runId, .str host, .list artifacts =>
      if (PyDict.get data "schema_version").pyEq (.int 1) ∧ runId = planRunId ∧ host = hostId then
        artifacts
      else []
    | _, _, _ => []
  | _ => []

/-- The reports of one host. -/
def readUnitReports (storage : ScanStorage) (planRunId factRoundId : ℕ) (unit : ScanUnit) :
    List Report :=
  (manifestArtifacts planRunId unit.hostId (storage.manifest factRoundId unit.hostId)).filterMap
    (readManifestEntry storage factRoundId unit)

/-- `read_round_reports`. -/
def readRoundReports (storage : ScanStorage) (planRunId factRoundId : ℕ)
    (expectedSet : List ScanUnit) : List Report :=
  expectedSet.flatMap (readUnitReports storage planRunId factRoundId)

/-! ### Coverage -/

/-- The coverage reports give. -/
def coverageOf (reports : List Report) : Coverage :=
  if reports.all Report.emptyReceipt then .empty else .received

/-- One unit in `classify_round_coverage`. -/
def classifyUnit (reports : List Report) (observedAt inputCutoffAt : Time) (closed : Bool)
    (unit : ScanUnit) : ScanUnit :=
  let matching := reports.filter fun r => r.hostId == unit.hostId && r.platform == unit.platform
  if unit.coverage.covered then
    let additional := matching.filter fun r => !unit.reports.contains r
    if closed = false ∧ observedAt ≤ inputCutoffAt then
      let all := unit.reports ++ additional
      { unit with
        reports := all
        coverage := if all.any fun r => !r.emptyReceipt then .received else unit.coverage }
    else if additional.isEmpty then unit
    else { unit with lateReports := additional }
  else if matching.isEmpty then unit
  else if closed = true ∨ inputCutoffAt < observedAt then
    { unit with coverage := .late, lateReports := matching }
  else { unit with
    coverage := coverageOf matching
    reports := matching
    observedAt := some observedAt }

/-- `classify_round_coverage`. -/
def classifyRoundCoverage (expectedSet : List ScanUnit) (reports : List Report)
    (observedAt inputCutoffAt : Time) (closed : Bool) : List ScanUnit :=
  expectedSet.map (classifyUnit reports observedAt inputCutoffAt closed)

/-- `_refresh_round`. -/
def refreshRound (v : ScanView) (row : ScanRound) : ScanRound :=
  if row.status = .closed then row
  else
    let reports := readRoundReports v.storage v.planRunId row.id row.expectedSet
    let coverage := classifyRoundCoverage row.expectedSet reports v.now row.inputCutoffAt false
    let row := { row with expectedSet := coverage }
    if (coverage.filter ScanUnit.expected).all (fun u => u.coverage.covered) ∨
        row.inputCutoffAt ≤ v.now then
      { row with status := .closed, closedAt := some v.now }
    else row

/-! ### Late reports -/

/-- The inputs of all rounds. -/
def consumedReports (rounds : List ScanRound) : List Report := rounds.flatMap ScanRound.inputs

/-- Add a report unless it is there. -/
def addPending (pending : List Report) (r : Report) : List Report :=
  if r ∈ pending then pending else pending ++ [r]

/-- `_late_inputs`: what closed rounds were sent and no round has as an input. -/
def lateInputs (v : ScanView) (rounds : List ScanRound) : List Report :=
  let closed := rounds.filter fun row => row.status = .closed
  let reports := closed.flatMap fun row =>
    readRoundReports v.storage v.planRunId row.id row.expectedSet
  (reports.filter fun r => !(consumedReports rounds).contains r).foldl addPending []

/-! ### Opening a round -/

/-- A unit the round waits for. -/
def freshUnit (hostId : String) : ScanUnit :=
  ⟨hostId, shadowPlatform, true, .missing, [], [], none, none⟩

/-- A report is carried by the unit of its host, or by one that is not expected. -/
def carryReport (units : List ScanUnit) (r : Report) : List ScanUnit :=
  if units.any fun u => u.hostId == r.hostId then
    units.map fun u => if u.hostId == r.hostId then { u with reports := u.reports ++ [r] } else u
  else units ++ [{ freshUnit r.hostId with expected := false, reports := [r] }]

/-- A unit that carries reports is covered by them. -/
def coverCarried (u : ScanUnit) : ScanUnit :=
  if u.reports.isEmpty then u else { u with coverage := coverageOf u.reports }

/-- `record_scan_round`: a number that is taken gives the round that has it. -/
def recordScanRound (v : ScanView) (s : Partition) (roundNo : ℕ) (kind : RoundKind)
    (expectedSet : List ScanUnit) : Partition × ScanRound :=
  match s.rounds.find? fun row => row.roundNo == roundNo with
  | some existing => (s, existing)
  | none =>
    let id := s.nextId + v.keysTaken
    let row : ScanRound := ⟨id, roundNo, kind, expectedSet, v.now.addSeconds v.reportWaitSeconds,
      .pending, v.now, none⟩
    ({ s with rounds := s.rounds ++ [row], nextId := id + 1 }, row)

/-- `_new_round`. -/
def newRound (v : ScanView) (s : Partition) (hosts : List String) (kind : RoundKind)
    (carried : List Report) : Partition × ScanRound :=
  let units := (carried.foldl carryReport (hosts.map freshUnit)).map coverCarried
  recordScanRound v s ((s.rounds.map ScanRound.roundNo).foldl max 0 + 1) kind units

/-- Write a round back. -/
def Partition.save (s : Partition) (row : ScanRound) : Partition :=
  { s with rounds := s.rounds.map fun r => if r.id = row.id then row else r }

/-! ### The steps -/

/-- `record_partition_mode`, for the current mode; another mode is kept, and raises. -/
def recordPartitionMode (s : Partition) : Option Partition :=
  match s.mode with
  | none => some { s with mode := some .current }
  | some .current => some s
  | some .other => none

/-- The hosts a supplement still waits for. -/
def supplementHosts (rounds : List ScanRound) (final : ScanRound) : List String :=
  let covered := (rounds.filter fun r => r.kind ≠ .periodic).flatMap fun r =>
    (r.expectedSet.filter fun u => u.coverage.covered).map ScanUnit.hostId
  (final.expectedSet.filter fun u => !covered.contains u.hostId && u.expected).map ScanUnit.hostId

/-- The round a step opens, with the hosts it waits for and the reports it carries. -/
def nextRound (v : ScanView) (status : PlanRunStatus) (rounds : List ScanRound) :
    Option (RoundKind × List String × List Report) :=
  if status = .running then
    match rounds.getLast? with
    | none => some (.periodic, v.expectedHosts, lateInputs v rounds)
    | some last =>
      if last.createdAt.addSeconds v.intervalSeconds ≤ v.now then
        some (.periodic, v.expectedHosts, lateInputs v rounds)
      else none
  else if status.isTerminal then
    match rounds.find? fun r => r.kind = .final with
    | none => some (.final, v.expectedHosts, lateInputs v rounds)
    | some final =>
      if final.status = .closed ∧ (rounds.all fun r => r.status = .closed) = true then
        let late := lateInputs v rounds
        if late.isEmpty then none
        else some (.supplement, supplementHosts rounds final, late)
      else none
  else none

/-- `_dispatch_due`. -/
def dispatchDue (v : ScanView) (u : ScanUnit) : Bool :=
  u.expected && !u.coverage.covered &&
    u.lastDispatchedAt.all fun sent => sent.addSeconds v.scanTaskTimeout ≤ v.now

/-- The open rounds with something to send, and whether each is a last one. -/
def pendingRounds (v : ScanView) (rounds : List ScanRound) : List (ℕ × Bool) :=
  (rounds.filter fun r => r.status ≠ .closed && r.expectedSet.any (dispatchDue v)).map fun r =>
    (r.id, r.kind ≠ .periodic)

/-- The rounds after a new one, if one is due, was opened and looked at. -/
def openRound (v : ScanView) (status : PlanRunStatus) (s : Partition) : Partition :=
  match nextRound v status s.rounds with
  | none => s
  | some (kind, hosts, carried) =>
    let (s, row) := newRound v s hosts kind carried
    s.save (refreshRound v row)

/-- `_advance_run`: the partition, and the rounds to enqueue. -/
def advanceRun (v : ScanView) (s : Partition) : Option (Partition × List (ℕ × Bool)) :=
  match v.runStatus with
  | none => some (s, [])
  | some status =>
    if s.rounds = [] ∧ (status ≠ .running ∨ v.expectedHosts = []) then some (s, [])
    else
      match recordPartitionMode s with
      | none => none
      | some s =>
        let s := openRound v status { s with rounds := s.rounds.map (refreshRound v) }
        some (s, pendingRounds v s.rounds)

/-- The hosts a scan is sent to. -/
def scanTargets (v : ScanView) (row : ScanRound) : List String :=
  let targets := (row.expectedSet.filter (dispatchDue v)).map ScanUnit.hostId
  (v.scanHosts.filter fun h => targets.contains h.1 && h.2 && !(v.deviceSerials h.1).isEmpty).map
    Prod.fst

/-- Remember that a scan was sent. -/
def markDispatched (v : ScanView) (hosts : List String) (u : ScanUnit) : ScanUnit :=
  if hosts.contains u.hostId then { u with lastDispatchedAt := some v.now } else u

/-- `prepare_shadow_scan`: the partition, and the hosts a scan is sent to. -/
def prepareShadowScan (v : ScanView) (factRoundId : ℕ) (s : Partition) :
    Option (Partition × List String) :=
  if v.runStatus = none then some (s, [])
  else
    match s.rounds.find? fun row => row.id == factRoundId with
    | none => some (s, [])
    | some row =>
      if row.status = .closed then some (s, [])
      else
        match recordPartitionMode s with
        | none => none
        | some s =>
          let row := refreshRound v row
          if row.status = .closed then some (s.save row, [])
          else
            let hosts := scanTargets v row
            let coverage := row.expectedSet.map (markDispatched v hosts)
            some (s.save { row with expectedSet := coverage, status := .running }, hosts)

/-- The steps on a partition. -/
inductive ScanOp where
  | advance
  | prepare (factRoundId : ℕ)

/-- One step; one that raises is rolled back. -/
def Partition.step (s : Partition) (p : ScanOp × ScanView) : Partition :=
  match p.1 with
  | .advance => ((advanceRun p.2 s).map Prod.fst).getD s
  | .prepare factRoundId => ((prepareShadowScan p.2 factRoundId s).map Prod.fst).getD s

/-- The steps as a relation. -/
def Partition.Step (s : Partition) (p : ScanOp × ScanView) (s' : Partition) : Prop := s.step p = s'

/-- A partition without rounds. -/
def Partition.initial : Partition := ⟨[], none, 1⟩

end StabilityPlatform
