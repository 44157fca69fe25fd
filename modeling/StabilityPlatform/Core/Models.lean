import StabilityPlatform.Contract.DisarmGuard
import StabilityPlatform.Lib.Table

/-!
# The tables of the control plane

The rows the services read and write, with the columns they use, and the database one
transaction sees. A service function takes a database and returns the one it commits; one
that raises commits nothing.

## Main results

* `fencingToken_inj`: fencing tokens name device and generation.
-/

namespace StabilityPlatform

open Lib

/-! ### Enumerations -/

/-- The status of a job. -/
inductive JobStatus where
  | pending
  | running
  | completed
  | failed
  | aborted
  | unknown
  deriving DecidableEq, Repr

/-- The statuses a job ends in. -/
def JobStatus.isTerminal : JobStatus → Bool
  | completed | failed | aborted => true
  | pending | running | unknown => false

/-- The status of a plan run. -/
inductive PlanRunStatus where
  | running
  | success
  | partialSuccess
  | failed
  | queued
  | precheck
  deriving DecidableEq, Repr

/-- What a lease is for. -/
inductive LeaseType where
  | job
  | script
  | maintenance
  deriving DecidableEq, Repr

/-- The status of a lease. -/
inductive LeaseStatus where
  | active
  | released
  | expired
  deriving DecidableEq, Repr

/-- Whether a debt is still owed. -/
inductive DebtState where
  | opened
  | closed
  deriving DecidableEq, Repr

/-- Where a debt comes from. -/
inductive SourceKind where
  | job
  | stock
  deriving DecidableEq, Repr

/-- Why a debt was closed. -/
inductive CloseReason where
  | discharged
  | overridden
  deriving DecidableEq, Repr

/-! ### Rows -/

/-- A device. -/
structure Device where
  id : ℕ
  serial : String
  hostId : Option String
  model : Option String
  platform : Option String
  leaseGeneration : ℕ
  retiredAt : Option Time
  retiredBy : Option String
  retireReason : Option String
  retireAlertedAt : Option Time
  returnState : Option (Dict PyDict)

/-- An occupancy of a device. -/
structure DeviceLease where
  id : ℕ
  deviceId : ℕ
  jobId : Option ℕ
  hostId : String
  leaseType : LeaseType
  status : LeaseStatus
  fencingToken : String
  leaseGeneration : ℕ
  agentInstanceId : String
  reason : Option String
  holder : Option String
  acquiredAt : Time
  renewedAt : Time
  expiresAt : Time
  releasedAt : Option Time

/-- An obligation to return a family of a device to its state. -/
structure DeviceReturnDebt where
  id : ℕ
  deviceId : ℕ
  family : String
  sourceKind : SourceKind
  sourceJobId : Option ℕ
  sourceFencingToken : Option String
  cause : String
  state : DebtState
  closedReason : Option CloseReason
  closedAt : Option Time
  createdAt : Time
  evidence : Option PyDict

/-- A run of a plan on one device. -/
structure JobInstance where
  id : ℕ
  planRunId : ℕ
  deviceId : ℕ
  hostId : Option String
  status : JobStatus
  statusReason : Option String
  pipelineDef : PyVal
  startedAt : Option Time
  endedAt : Option Time
  terminalPayloadDigest : Option String
  disarmResults : PyVal
  disarmGuard : Option (DisarmGuard ℚ)
  lastExecutionHeartbeatAt : Option Time
  lastProgressAt : Option Time
  updatedAt : Time

/-- What a step of a job reported. -/
structure StepTrace where
  id : ℕ
  jobId : ℕ
  stepId : String
  stage : String
  status : String
  exitCode : Option ℤ
  originalTs : Time
  createdAt : Time

/-- A host. -/
structure Host where
  id : String
  lastHeartbeat : Option Time
  bootId : String
  lastAgentInstanceId : String

/-- A run of a plan. -/
structure PlanRun where
  id : ℕ
  status : PlanRunStatus
  runContext : PyVal

instance : Row Device := ⟨Device.id⟩
instance : Row DeviceLease := ⟨DeviceLease.id⟩
instance : Row DeviceReturnDebt := ⟨DeviceReturnDebt.id⟩
instance : Row JobInstance := ⟨JobInstance.id⟩
instance : Row StepTrace := ⟨StepTrace.id⟩
instance : Row PlanRun := ⟨PlanRun.id⟩

/-! ### The database -/

/-- The tables. -/
structure Db where
  devices : Table Device
  leases : Table DeviceLease
  debts : Table DeviceReturnDebt
  jobs : Table JobInstance
  traces : Table StepTrace
  planRuns : Table PlanRun
  hosts : List Host

namespace Db

/-- The active lease of a device, if it has one. -/
def activeLease (db : Db) (deviceId : ℕ) : Option DeviceLease :=
  db.leases.first fun l => l.deviceId == deviceId && l.status == .active

/-- The open debts of a device. -/
def openDebts (db : Db) (deviceId : ℕ) : List DeviceReturnDebt :=
  db.debts.select fun r => r.deviceId == deviceId && r.state == .opened

/-- The traces of a job. -/
def tracesOf (db : Db) (jobId : ℕ) : List StepTrace := db.traces.select fun t => t.jobId == jobId

/-- Write a device back. -/
def saveDevice (db : Db) (device : Device) : Db := { db with devices := db.devices.save device }

/-- Write a lease back. -/
def saveLease (db : Db) (lease : DeviceLease) : Db := { db with leases := db.leases.save lease }

/-- The host with a given name. -/
def host? (db : Db) (hostId : String) : Option Host := db.hosts.find? fun h => h.id == hostId

end Db

/-! ### Fencing tokens -/

/-- The token of a generation of a device. -/
def fencingToken (deviceId generation : ℕ) : String :=
  toString deviceId ++ ":" ++ toString generation

/-- A colon is not a digit. -/
theorem colon_notMem_toDigits (n : ℕ) : ':' ∉ Nat.toDigits 10 n := fun h => by
  have hdigit := Nat.isDigit_of_mem_toDigits (by decide) (by decide) h
  exact absurd hdigit (by decide)

/-- **Tokens name device and generation.** -/
theorem fencingToken_inj {d g d' g' : ℕ} (h : fencingToken d g = fencingToken d' g') :
    d = d' ∧ g = g' := by
  have hlist : Nat.toDigits 10 d ++ ':' :: Nat.toDigits 10 g =
      Nat.toDigits 10 d' ++ ':' :: Nat.toDigits 10 g' := by
    have h' := congrArg String.toList h
    simpa [fencingToken, String.toList_append, Nat.toList_repr] using h'
  obtain ⟨hd, -, hg⟩ := (List.append_cons_inj_of_notMem (colon_notMem_toDigits d)
    (colon_notMem_toDigits g)).mp hlist
  have hinj : ∀ {a b : ℕ}, Nat.toDigits 10 a = Nat.toDigits 10 b → a = b := by
    intro a b heq
    have h' := congrArg (fun l => Nat.ofDigitChars 10 l 0) heq
    simpa [Nat.ofDigitChars_ten_toDigits] using h'
  exact ⟨hinj hd, hinj hg⟩

end StabilityPlatform
