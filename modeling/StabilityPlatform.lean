import StabilityPlatform.Lib.Run
import StabilityPlatform.Lib.Dict
import StabilityPlatform.Lib.Table
import StabilityPlatform.Lib.Slot
import StabilityPlatform.Lib.Fold
import StabilityPlatform.Core.PyVal
import StabilityPlatform.Contract.DeviceReturn
import StabilityPlatform.Contract.DisarmGuard
import StabilityPlatform.Contract.GuardHistory
import StabilityPlatform.Lib.Timed
import StabilityPlatform.Contract.GuardBudget
import StabilityPlatform.Agent.OperationScheduler
import StabilityPlatform.Agent.SchedulerAccounting
import StabilityPlatform.Core.Models
import StabilityPlatform.Core.IsoFormat
import StabilityPlatform.Lease.LeaseManager
import StabilityPlatform.DeviceReturn.DisarmDerive
import StabilityPlatform.DeviceReturn.ReturnState
import StabilityPlatform.DeviceReturn.DebtRows
import StabilityPlatform.DeviceReturn.JobRelease
import StabilityPlatform.DeviceReturn.Discharge
import StabilityPlatform.DeviceReturn.AsyncTwins
import StabilityPlatform.DeviceReturn.Init
import StabilityPlatform.DeviceReturn.Retirement
import StabilityPlatform.DeviceReturn.Effects
import StabilityPlatform.DeviceReturn.ReleaseSpec
import StabilityPlatform.DeviceReturn.CloseSpec
import StabilityPlatform.DeviceReturn.InitSpec
import StabilityPlatform.DeviceReturn.Operations
import StabilityPlatform.DeviceReturn.Agreement
import StabilityPlatform.DeviceReturn.DebtLease
import StabilityPlatform.Lease.Fencing
import StabilityPlatform.Lib.Fifo
import StabilityPlatform.Agent.SchedulerOrder
import StabilityPlatform.Agent.LocalDb
import StabilityPlatform.Agent.PlanRunHostView
import StabilityPlatform.Agent.PhaseBarrier
import StabilityPlatform.Agent.Coordinator
import StabilityPlatform.Agent.EpochFencing
import StabilityPlatform.Lib.RowLock
import StabilityPlatform.Lease.Statements
import StabilityPlatform.Lease.Retired
import StabilityPlatform.PlanRun.Classification
import StabilityPlatform.PlanRun.ChainTrigger
import StabilityPlatform.PlanRun.ChainOnce
import StabilityPlatform.PlanRun.Aggregation
import StabilityPlatform.PlanRun.AbortRequest
import StabilityPlatform.PlanRun.Abort
import StabilityPlatform.PlanRun.AbortClock
import StabilityPlatform.PlanRun.AbortWindow
import StabilityPlatform.PlanRun.Admission
import StabilityPlatform.PlanRun.AdmissionCounts
import StabilityPlatform.Auth.LoginLockout
import StabilityPlatform.Auth.LockoutBound
import StabilityPlatform.Scan.ShadowRounds
import StabilityPlatform.Scan.ShadowInputs
import StabilityPlatform.Agent.Occupancy
import StabilityPlatform.Agent.LeaseLost
import StabilityPlatform.Events.DeviceLogEvents
import StabilityPlatform.Events.EventCopy
import StabilityPlatform.Events.EventReplay
import StabilityPlatform.Lib.StableSort
import StabilityPlatform.Lib.Json
import StabilityPlatform.PlanRun.Confirmation
import StabilityPlatform.Contract.GuardReplay
import StabilityPlatform.Contract.GuardReads
import StabilityPlatform.PlanRun.ConfirmationBinds
import StabilityPlatform.Lease.Claim
import StabilityPlatform.DeviceReturn.JobEvidence
import StabilityPlatform.Lease.ExtendBatch
import StabilityPlatform.DeviceReturn.JobEvidence
import StabilityPlatform.Lease.ExtendBatch
import StabilityPlatform.DeviceReturn.Completion
import StabilityPlatform.Lease.JobLeases
import StabilityPlatform.DeviceReturn.ProbeTrust
import StabilityPlatform.DeviceReturn.CompletionReplay
import StabilityPlatform.Host.UpgradeGate
import StabilityPlatform.Host.UpgradeWindow
import StabilityPlatform.Console.RunKeys
import StabilityPlatform.Console.KeyExclusion
import StabilityPlatform.PlanRun.AdmissionAttempts
import StabilityPlatform.Lib.Assignment
import StabilityPlatform.PlanRun.PoolAllocation
import StabilityPlatform.Core.JsonValues
import StabilityPlatform.PlanRun.PlanSnapshot
import StabilityPlatform.PlanRun.WifiParams
import StabilityPlatform.Lib.SharedBatch
import StabilityPlatform.Scheduler.CronTick
import StabilityPlatform.Lib.Closure
import StabilityPlatform.Scheduler.Retention
import StabilityPlatform.Agent.TerminalOutbox
import StabilityPlatform.Agent.TerminalAttempts
import StabilityPlatform.Agent.StepTraceUpload
import StabilityPlatform.DeviceReturn.DebtConsumer
import StabilityPlatform.Agent.DisarmRecord
import StabilityPlatform.DeviceReturn.TraceOrder
import StabilityPlatform.DeviceReturn.TeardownShape
import StabilityPlatform.Lib.Ranking
import StabilityPlatform.Lib.SqlLogic
import StabilityPlatform.Scheduler.PatrolStall
import StabilityPlatform.Scheduler.PatrolAgreement
import StabilityPlatform.Scheduler.InitDone
import StabilityPlatform.Scheduler.Liveness
import StabilityPlatform.Scheduler.RunningDeadline
import StabilityPlatform.Lib.Paging
import StabilityPlatform.Scheduler.RecyclePass
import StabilityPlatform.Agent.OutputDrain
import StabilityPlatform.Agent.EventBatcher
import StabilityPlatform.Aee.Timestamp
import StabilityPlatform.Agent.AttemptCleanup
import StabilityPlatform.Aee.EventDirs
import StabilityPlatform.Aee.HistoryPull
import StabilityPlatform.Aee.StateMigration
import StabilityPlatform.Agent.DirDigest
import StabilityPlatform.Agent.EventUpload
import StabilityPlatform.Agent.EventPull
import StabilityPlatform.Scan.ReportMapping
import StabilityPlatform.Events.LogSignals
import StabilityPlatform.PlanRun.ScriptVerify
import StabilityPlatform.Agent.StepLogs
import StabilityPlatform.Notification.Delivery
import StabilityPlatform.Agent.ToolCache
import StabilityPlatform.Lib.Like
import StabilityPlatform.Scan.MergeReport
import StabilityPlatform.Mtbf.Suite
import StabilityPlatform.Mtbf.Fingerprint
import StabilityPlatform.Aee.OccurrenceKey
import StabilityPlatform.Dashboard.EventDedup
import StabilityPlatform.Dashboard.SummaryPublisher
import StabilityPlatform.Agent.ArtifactUpload
import StabilityPlatform.Console.ReplayLog
import StabilityPlatform.Console.LiveConsole
import StabilityPlatform.Events.EventAdoption
import StabilityPlatform.Scan.EventExtract
import StabilityPlatform.Lease.JobStatuses
import StabilityPlatform.PlanRun.AbortEscape
import StabilityPlatform.PlanRun.AggregationRounds
import StabilityPlatform.Auth.Sessions
