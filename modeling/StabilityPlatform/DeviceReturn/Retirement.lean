import StabilityPlatform.DeviceReturn.Init

/-!
# Retirement

A device is retired when nothing runs on it; a debt lease does not count, and goes with the
retirement while the debts stay open. Coming back to service takes a debt lease again when
something is still owed.

## Main results

* `retireDevice`, `unretireDevice`: the two transactions.
-/

namespace StabilityPlatform

open Lib

/-- Release the debt lease of a device that retires; its debts stay open. -/
def releaseDebtLeaseForRetirementSync (db : Db) (device : Device) (now : Time) : Bool × Db :=
  match db.activeLease device.id with
  | none => (false, db)
  | some lease =>
    if isDebtLease (some lease) then (true, db.saveLease (lease.release now)) else (false, db)

/-- Take a debt lease on a device that comes back with open debts. -/
def restoreDebtLeaseOnUnretireSync (db : Db) (device : Device) (now : Time) :
    Option DeviceLease × Device × Db :=
  if (db.openDebts device.id).isEmpty then (none, device, db)
  else acquireDebtLeaseSync db device now

/-- Whether the active lease of a device is its debt lease. -/
def hasOnlyDebtLeaseSync (db : Db) (deviceId : ℕ) : Bool := isDebtLease (db.activeLease deviceId)

/-- The active leases of a device. -/
def Db.activeLeases (db : Db) (deviceId : ℕ) : List DeviceLease :=
  db.leases.select fun l => l.deviceId == deviceId && l.status == .active

/-- The jobs of a device that are pending, running or unknown. -/
def Db.activeJobs (db : Db) (deviceId : ℕ) : List JobInstance :=
  db.jobs.select fun j => j.deviceId == deviceId && !j.status.isTerminal

/-- Refuse to retire a device with work on it. -/
def assertNoActiveWork (db : Db) (deviceId : ℕ) : Except PyError Unit :=
  let activeJobs := (db.activeJobs deviceId).length
  let activeLeases := (db.activeLeases deviceId).length
  if activeJobs ≠ 0 then
    .error (.conflict ("设备有 " ++ toString activeJobs ++ " 个活跃 Job，请先 abort 或等其结束再退役"))
  else if activeLeases ≠ 0 ∧ hasOnlyDebtLeaseSync db deviceId = false then
    .error (.conflict ("设备有 " ++ toString activeLeases ++
      " 条 ACTIVE 租约，请等租约释放或按既有流程回收后再退役"))
  else .ok ()

/-- A name of at most 128 characters; `none` when nothing is left of it. -/
def actorName (username : Option String) : Option String :=
  let name := String.ofList ((pyStrip (username.getD "")).toList.take 128)
  if name = "" then none else some name

/-- Retire a device; retiring a retired one changes nothing. -/
def retireDevice (db : Db) (now now' : Time) (deviceId : ℕ) (reason : String)
    (actorUsername : Option String) : Except PyError (Device × Db) := do
  match db.devices.get? deviceId with
  | none => throw .notFound
  | some device =>
    if device.retiredAt.isSome then return (device, db)
    assertNoActiveWork db deviceId
    let (_, db) := releaseDebtLeaseForRetirementSync db device now
    let device := { device with
      retiredAt := some now'
      retiredBy := actorName actorUsername
      retireReason := some reason
      retireAlertedAt := none }
    return (device, db.saveDevice device)

/-- Take a device back into service; who retired it and why stays on record. -/
def unretireDevice (db : Db) (now : Time) (deviceId : ℕ) : Except PyError (Device × Db) := do
  match db.devices.get? deviceId with
  | none => throw .notFound
  | some device =>
    if device.retiredAt.isNone then return (device, db)
    let device := { device with retiredAt := none, retireAlertedAt := none }
    let (_, device, db) := restoreDebtLeaseOnUnretireSync (db.saveDevice device) device now
    return (device, db)

end StabilityPlatform
