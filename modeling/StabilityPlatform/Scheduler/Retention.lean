import StabilityPlatform.Core.Models
import StabilityPlatform.Lib.Closure
import StabilityPlatform.Lib.Dict
import StabilityPlatform.Lib.Table

/-!
# The retention of plan runs

Old plan runs are deleted in batches. Runs of a chain refer to the run before them and to the
first run, and a batch must not take a run that a run outside refers to. What is deleted outside
of the database comes first: a run whose directories cannot be deleted leaves the batch, and so
do the runs it refers to.

## Main results

* `retentionCandidateIds`, `retentionLockRuns`, `retentionSafeIds`: how a batch is made.
* `runRetentionCleanup`: the job, with other transactions that move between its queries.
* `retentionSafeIds_isGreatest`: **the safe runs** are the greatest part of the candidates that
  nothing outside refers to.
* `retention_never_orphans`: **what the job deletes** is terminal, old and not referred to.
-/

namespace StabilityPlatform.Retention

open Lib

/-! ### Tables -/

/-- The row of a plan run. -/
structure PlanRun where
  id : ℕ
  status : PlanRunStatus
  startedAt : Time
  parentPlanRunId : Option ℕ
  rootPlanRunId : Option ℕ

instance : Row PlanRun := ⟨PlanRun.id⟩

/-- The row of a job. -/
structure JobInstance where
  id : ℕ
  planRunId : ℕ

/-- A row of another table that belongs to a job. -/
structure JobChild where
  jobId : Option ℕ

/-- The row of a log event of a device. -/
structure DeviceLogEvent where
  planRunId : Option ℕ
  jobId : Option ℕ
  remotePath : Option String

/-- The tables. -/
structure Database where
  planRuns : Table PlanRun
  jobs : List JobInstance
  stepTraces : List JobChild
  deviceLeases : List JobChild
  resourceAllocations : List JobChild
  jobArtifacts : List JobChild
  jobLogSignals : List JobChild
  deviceLogEvents : List DeviceLogEvent

/-- Whether a run is in one of the statuses that are deleted. -/
def PlanRun.isTerminal (r : PlanRun) : Bool :=
  [PlanRunStatus.success, .failed, .partialSuccess].contains r.status

/-- Whether a run may be deleted, references aside. -/
def PlanRun.isExpired (r : PlanRun) (cutoff : Time) : Bool := r.isTerminal && r.startedAt < cutoff

/-- The runs a run refers to. -/
def PlanRun.refs (r : PlanRun) : List ℕ := [r.parentPlanRunId, r.rootPlanRunId].reduceOption

/-- Whether a run refers to another one. -/
def PlanRun.refersTo (r : PlanRun) (i : ℕ) : Bool :=
  r.parentPlanRunId == some i || r.rootPlanRunId == some i

/-! ### A batch -/

/-- The expired runs that only runs of the batch refer to, the oldest first. -/
def retentionFrontier (db : Database) (cutoff : Time) (selectedIds : List ℕ) : List PlanRun :=
  (db.planRuns.rows.filter fun r =>
    r.isExpired cutoff && !selectedIds.contains r.id &&
      !db.planRuns.rows.any fun dependent =>
        dependent.id != r.id && !selectedIds.contains dependent.id && dependent.refersTo r.id
  ).mergeSort fun a b => a.startedAt < b.startedAt || (a.startedAt == b.startedAt && a.id ≤ b.id)

/-- The loop of `_retention_candidate_ids`. -/
def selectFrontiers (db : Database) (cutoff : Time) (limit : ℕ) (selectedIds : List ℕ) : List ℕ :=
  if selectedIds.length < limit then
    match (retentionFrontier db cutoff selectedIds).take (limit - selectedIds.length) with
    | [] => selectedIds
    | r :: rest =>
      selectFrontiers db cutoff limit (selectedIds ++ (r :: rest).map PlanRun.id)
  else selectedIds
termination_by limit - selectedIds.length
decreasing_by
  rw [List.length_append, List.length_map, List.length_cons]
  omega

/-- `_retention_candidate_ids`. -/
def retentionCandidateIds (db : Database) (cutoff : Time) (limit : ℕ) : List ℕ :=
  selectFrontiers db cutoff limit []

/-- `_retention_lock_runs`: rows that another transaction has locked are skipped. -/
def retentionLockRuns (db : Database) (skipLocked : ℕ → Bool) (runIds : List ℕ) (cutoff : Time) :
    List ℕ :=
  ((db.planRuns.rows.filter fun r =>
    runIds.contains r.id && r.isExpired cutoff && !skipLocked r.id).map PlanRun.id).mergeSort
      (· ≤ ·)

/-- The runs of a set that runs outside of it refer to. -/
def outsideReferences (db : Database) (runIdSet : Finset ℕ) : List ℕ :=
  ((db.planRuns.rows.filter fun r => r.id ∉ runIdSet).flatMap PlanRun.refs).filter (· ∈ runIdSet)

/-- `ancestors.get(run_id, (None, None))`. -/
def ancestors (db : Database) (runId : ℕ) : List ℕ :=
  ((db.planRuns.get? runId).map PlanRun.refs).getD []

/-- `_retention_safe_ids`: the runs that can be deleted, and those that are kept. -/
def retentionSafeIds (db : Database) (runIds : List ℕ) : List ℕ × Finset ℕ :=
  let runIdSet := runIds.toFinset
  if runIdSet = ∅ then ([], ∅)
  else
    let seeds := (outsideReferences db runIdSet).toFinset
    let keep :=
      if seeds = ∅ then seeds
      else closeUnder (ancestors db) runIdSet seeds (seeds.sort (· ≤ ·)).reverse
    ((runIdSet \ keep).sort (· ≤ ·), keep)

/-! ### Storage -/

/-- The storage outside of the database. -/
structure Storage where
  sharedRoot : Bool
  controlPlaneRoot : Bool
  purgeFails : String → ℕ → Bool
  unassignedFails : String → Bool
  /-- Whether a path is below `devices/unassigned`. -/
  unassigned : String → Bool

/-- The families of directories by run. -/
def runFamilies : List String := ["devices", "dedup", "jira", "_meta"]

/-- The jobs of a run. -/
def jobsOfRun (jobs : List JobInstance) (runId : ℕ) : List ℕ :=
  (jobs.filter (·.planRunId == runId)).map JobInstance.id

/-- The run a log event is deleted with: its own, or that of its job. -/
def DeviceLogEvent.owner (e : DeviceLogEvent) (stale : List JobInstance) : Option ℕ :=
  match e.planRunId with
  | some run => some run
  | none => (stale.find? fun job => e.jobId == some job.id).map JobInstance.planRunId

/-- `_collect_unassigned_dirs`: directories, and the runs they belong to. -/
def collectUnassignedDirs (storage : Storage) (db : Database) (safeRunIds : List ℕ)
    (stale : List JobInstance) : Dict ℕ :=
  (db.deviceLogEvents.filter fun e =>
    e.planRunId.any safeRunIds.contains ||
      e.jobId.any fun j => stale.any fun job => job.id == j).foldl
    (fun mapping e =>
      match e.remotePath, e.owner stale with
      | some path, some run =>
        if path ≠ "" ∧ storage.unassigned path = true then mapping.set path run else mapping
      | _, _ => mapping)
    .empty

/-- `purge_unassigned_event_dirs`: the runs with a directory that cannot be deleted. -/
def purgeUnassignedEventDirs (storage : Storage) (pathsByRun : Dict ℕ) : List ℕ :=
  if storage.sharedRoot then
    (pathsByRun.items.filter fun entry => storage.unassignedFails entry.1).map Prod.snd
  else []

/-- `purge_run_storage_dirs`: the runs with a directory that cannot be deleted. -/
def purgeRunStorageDirs (storage : Storage) (stale : List JobInstance) (runIds : List ℕ) :
    List ℕ :=
  if storage.sharedRoot || storage.controlPlaneRoot then
    runIds.filter fun run =>
      (runFamilies.any fun family => storage.sharedRoot && storage.purgeFails family run) ||
        (jobsOfRun stale run).any fun job =>
          storage.controlPlaneRoot && storage.purgeFails "jobs" job
  else []

/-! ### The job -/

/-- The deletion of a batch. -/
def deleteRuns (db : Database) (safeRunIds : List ℕ) : Database :=
  let gone := fun c : Option ℕ =>
    c.any fun j => db.jobs.any fun job => safeRunIds.contains job.planRunId && job.id == j
  { planRuns := db.planRuns.delete fun r => safeRunIds.contains r.id
    jobs := db.jobs.filter fun job => !safeRunIds.contains job.planRunId
    stepTraces := db.stepTraces.filter fun c => !gone c.jobId
    deviceLeases := db.deviceLeases.filter fun c => !gone c.jobId
    resourceAllocations := db.resourceAllocations.filter fun c => !gone c.jobId
    jobArtifacts := db.jobArtifacts.filter fun c => !gone c.jobId
    jobLogSignals := db.jobLogSignals.filter fun c => !gone c.jobId
    deviceLogEvents := db.deviceLogEvents.filter fun e =>
      !(e.planRunId.any safeRunIds.contains || gone e.jobId) }

/-- What other transactions may do while rows are locked: a row that is locked stays as it is, and
there is no new reference to it, for its foreign key has to be checked. -/
structure RespectsLocks (locked : Finset ℕ) (db db' : Database) : Prop where
  kept : ∀ r ∈ db'.planRuns.rows, r.id ∈ locked → r ∈ db.planRuns.rows
  referred : ∀ r ∈ db'.planRuns.rows, ∀ i ∈ locked, r.refersTo i = true →
    ∃ r' ∈ db.planRuns.rows, r'.id = r.id ∧ r'.refersTo i = true

/-- The queries before which others move. -/
inductive Stage where
  | lock
  | check
  | unassigned
  | purge
  | delete

/-- Other transactions. -/
structure Others where
  move : Finset ℕ → Stage → Database → Database
  respects : ∀ locked stage db, RespectsLocks locked db (move locked stage db)

/-- Nobody else. -/
instance : Inhabited Others :=
  ⟨fun _ _ db => db, fun _ _ _ => ⟨fun _ hr _ => hr, fun r hr _ _ href => ⟨r, hr, rfl, href⟩⟩⟩

/-- What the job meets. -/
structure RetentionEnv where
  others : Others
  skipLocked : ℕ → Bool
  storage : Storage
  raises : Bool

/-- Runs that fail leave the batch, if there are any. -/
def deferRuns (env : RetentionEnv) (locked : Finset ℕ) (stage : Stage) (failed : List ℕ)
    (db : Database) (safeRunIds : List ℕ) : Database × List ℕ :=
  if failed.isEmpty then (db, safeRunIds)
  else
    let db' := env.others.move locked stage db
    (db', (retentionSafeIds db' (safeRunIds.filter fun i => !failed.contains i)).1)

/-- `run_retention_cleanup` up to the deletion: what the transaction sees then, and the batch. -/
def retentionBatch (env : RetentionEnv) (cutoff : Time) (batchSize : ℕ) (db : Database) :
    Database × List ℕ :=
  let runIds := retentionCandidateIds db cutoff batchSize
  let db₁ := env.others.move ∅ .lock db
  let lockedIds := retentionLockRuns db₁ env.skipLocked runIds cutoff
  let locked := lockedIds.toFinset
  let db₂ := env.others.move locked .check db₁
  let safe := (retentionSafeIds db₂ lockedIds).1
  let stale := db₂.jobs.filter fun job => safe.contains job.planRunId
  let batch := deferRuns env locked .unassigned
    (purgeUnassignedEventDirs env.storage (collectUnassignedDirs env.storage db₂ safe stale))
    db₂ safe
  let batch := deferRuns env locked .purge
    (purgeRunStorageDirs env.storage stale batch.2) batch.1 batch.2
  (env.others.move locked .delete batch.1, batch.2)

/-- `run_retention_cleanup`, with the rows as they are before the deletion and after. A batch
without runs is not deleted. -/
def runRetentionCleanup (env : RetentionEnv) (cutoff : Time) (batchSize : ℕ) (db : Database) :
    Database × Database :=
  let batch := retentionBatch env cutoff batchSize db
  if batch.2.isEmpty || env.raises then (batch.1, batch.1)
  else (batch.1, deleteRuns batch.1 batch.2)

/-! ### Safe runs -/

/-- No run outside of a set refers to a run in it. -/
def Unreferenced (db : Database) (S : Set ℕ) : Prop :=
  ∀ r ∈ db.planRuns.rows, r.id ∉ S → ∀ i ∈ S, r.refersTo i = false

/-- The runs a run refers to. -/
theorem mem_refs_iff {r : PlanRun} {i : ℕ} : i ∈ r.refs ↔ r.refersTo i = true := by
  rw [PlanRun.refs, List.reduceOption_mem_iff, PlanRun.refersTo, Bool.or_eq_true, beq_iff_eq,
    beq_iff_eq, List.mem_cons, List.mem_cons, eq_comm, @eq_comm _ (some i) r.rootPlanRunId]
  simp

/-- The references of a run that is a row. -/
theorem mem_ancestors_iff {db : Database} {a i : ℕ} :
    i ∈ ancestors db a ↔ ∃ r ∈ db.planRuns.rows, r.id = a ∧ r.refersTo i = true := by
  rw [ancestors]
  constructor
  · intro h
    cases hget : db.planRuns.get? a with
    | none =>
        rw [hget] at h
        cases h
    | some r =>
        rw [hget] at h
        exact ⟨r, Table.mem_of_get? hget, Table.id_of_get? hget, mem_refs_iff.mp h⟩
  · rintro ⟨r, hr, hid, href⟩
    rw [Table.get?_eq_some_iff.mpr ⟨hr, hid⟩]
    exact mem_refs_iff.mpr href

/-- The runs that runs outside refer to. -/
theorem mem_outsideReferences_iff {db : Database} {runIdSet : Finset ℕ} {i : ℕ} :
    i ∈ outsideReferences db runIdSet ↔
      i ∈ runIdSet ∧ ∃ r ∈ db.planRuns.rows, r.id ∉ runIdSet ∧ r.refersTo i = true := by
  rw [outsideReferences, List.mem_filter, List.mem_flatMap, decide_eq_true_iff, and_comm]
  refine and_congr_right fun _ => ?_
  constructor
  · rintro ⟨r, hr, href⟩
    obtain ⟨hrow, hout⟩ := List.mem_filter.mp hr
    exact ⟨r, hrow, of_decide_eq_true hout, mem_refs_iff.mp href⟩
  · rintro ⟨r, hrow, hout, href⟩
    exact ⟨r, List.mem_filter.mpr ⟨hrow, decide_eq_true hout⟩, mem_refs_iff.mpr href⟩

/-- The runs that are kept: those that runs outside refer to, and what they refer to. -/
def keptRuns (db : Database) (runIdSet : Finset ℕ) : Finset ℕ :=
  closeUnder (ancestors db) runIdSet (outsideReferences db runIdSet).toFinset
    ((outsideReferences db runIdSet).toFinset.sort (· ≤ ·)).reverse

/-- The safe runs are the candidates that are not kept. -/
theorem mem_retentionSafeIds_iff {db : Database} {runIds : List ℕ} {i : ℕ} :
    i ∈ (retentionSafeIds db runIds).1 ↔ i ∈ runIds ∧ i ∉ keptRuns db runIds.toFinset := by
  rw [retentionSafeIds]
  by_cases hnone : runIds.toFinset = ∅
  · rw [if_pos hnone]
    have hnil : runIds = [] := List.toFinset_eq_empty_iff runIds |>.mp hnone
    rw [hnil]
    simp
  · rw [if_neg hnone]
    dsimp only
    have hkeep : (if (outsideReferences db runIds.toFinset).toFinset = ∅ then
          (outsideReferences db runIds.toFinset).toFinset
        else closeUnder (ancestors db) runIds.toFinset
          (outsideReferences db runIds.toFinset).toFinset
          ((outsideReferences db runIds.toFinset).toFinset.sort (· ≤ ·)).reverse) =
        keptRuns db runIds.toFinset := by
      rw [keptRuns]
      split_ifs with hempty
      · rw [hempty, Finset.sort_empty, List.reverse_nil, closeUnder]
      · rfl
    rw [hkeep, Finset.mem_sort, Finset.mem_sdiff, List.mem_toFinset]

/-- What is kept is closed. -/
theorem mem_keptRuns_of_refersTo {db : Database} {runIdSet : Finset ℕ} {r : PlanRun} {i : ℕ}
    (hr : r ∈ db.planRuns.rows) (hkept : r.id ∈ keptRuns db runIdSet) (hi : i ∈ runIdSet)
    (href : r.refersTo i = true) : i ∈ keptRuns db runIdSet := by
  refine followed_closeUnder ?_ r.id hkept List.not_mem_nil i
    (mem_ancestors_iff.mpr ⟨r, hr, rfl, href⟩) hi
  intro a ha hpending
  rw [List.mem_reverse, Finset.mem_sort] at hpending
  exact absurd ha hpending

/-- A set that nothing outside refers to has no run that is kept. -/
theorem not_mem_keptRuns {db : Database} {runIds : List ℕ} {S : Set ℕ}
    (hsub : S ⊆ {i | i ∈ runIds}) (hS : Unreferenced db S) {i : ℕ} (hi : i ∈ S) :
    i ∉ keptRuns db runIds.toFinset := by
  have hseeds : ∀ a ∈ (outsideReferences db runIds.toFinset).toFinset, a ∈ Sᶜ := by
    intro a ha hmem
    obtain ⟨-, r, hr, hout, href⟩ := mem_outsideReferences_iff.mp (List.mem_toFinset.mp ha)
    have hr' : r.id ∉ S := fun h => hout (List.mem_toFinset.mpr (hsub h))
    rw [hS r hr hr' a hmem] at href
    cases href
  intro hkept
  refine closeUnder_subset (T := Sᶜ) ?_ hseeds ?_ hkept hi
  · intro a ha b hb _ hmem
    obtain ⟨r, hr, rfl, href⟩ := mem_ancestors_iff.mp hb
    rw [hS r hr ha b hmem] at href
    cases href
  · intro a ha
    exact hseeds a ((Finset.mem_sort _).mp (List.mem_reverse.mp ha))

/-- **The safe runs**: the greatest part of the candidates that no run outside of it refers to. -/
theorem retentionSafeIds_isGreatest (db : Database) (runIds : List ℕ) :
    IsGreatest {S : Set ℕ | S ⊆ {i | i ∈ runIds} ∧ Unreferenced db S}
      {i | i ∈ (retentionSafeIds db runIds).1} := by
  refine ⟨⟨fun i hi => (mem_retentionSafeIds_iff.mp hi).1, ?_⟩, ?_⟩
  · intro r hr hout i hi
    obtain ⟨hcand, hkept⟩ := mem_retentionSafeIds_iff.mp hi
    by_contra href
    have href : r.refersTo i = true := Bool.eq_true_of_not_eq_false href
    by_cases hin : r.id ∈ runIds
    · have hrkept : r.id ∈ keptRuns db runIds.toFinset := by
        by_contra h
        exact hout (mem_retentionSafeIds_iff.mpr ⟨hin, h⟩)
      exact hkept (mem_keptRuns_of_refersTo hr hrkept (List.mem_toFinset.mpr hcand) href)
    · refine hkept (subset_closeUnder (List.mem_toFinset.mpr ?_))
      exact mem_outsideReferences_iff.mpr ⟨List.mem_toFinset.mpr hcand, r, hr,
        fun h => hin (List.mem_toFinset.mp h), href⟩
  · rintro S ⟨hsub, hS⟩ i hi
    exact mem_retentionSafeIds_iff.mpr ⟨hsub hi, not_mem_keptRuns hsub hS hi⟩

/-! ### A batch in its transaction -/

/-- While a batch is made: the locked runs are expired, and the batch is a part of them that
nothing outside refers to. -/
structure BatchState (cutoff : Time) (locked : Finset ℕ) (db : Database) (ids : List ℕ) :
    Prop where
  locks : ∀ i ∈ ids, i ∈ locked
  expired : ∀ r ∈ db.planRuns.rows, r.id ∈ locked → r.isExpired cutoff = true
  unreferenced : Unreferenced db {i | i ∈ ids}

section Batch

variable {env : RetentionEnv} {cutoff : Time} {locked : Finset ℕ} {db db' : Database}
  {ids : List ℕ}

/-- Others move. -/
theorem BatchState.of_respects (h : BatchState cutoff locked db ids)
    (hmove : RespectsLocks locked db db') : BatchState cutoff locked db' ids where
  locks := h.locks
  expired := fun r hr hid => h.expired r (hmove.kept r hr hid) hid
  unreferenced := by
    intro r hr hout i hi
    by_contra href
    obtain ⟨r', hr', hid, href'⟩ := hmove.referred r hr i (h.locks i hi)
      (Bool.eq_true_of_not_eq_false href)
    rw [h.unreferenced r' hr' (hid ▸ hout) i hi] at href'
    cases href'

/-- The safe runs of some locked runs. -/
theorem BatchState.of_safe
    (hexpired : ∀ r ∈ db.planRuns.rows, r.id ∈ locked → r.isExpired cutoff = true)
    (hids : ∀ i ∈ ids, i ∈ locked) : BatchState cutoff locked db (retentionSafeIds db ids).1 where
  locks := fun i hi => hids i (mem_retentionSafeIds_iff.mp hi).1
  expired := hexpired
  unreferenced := (retentionSafeIds_isGreatest db ids).1.2

/-- Runs that fail leave the batch. -/
theorem BatchState.defer (h : BatchState cutoff locked db ids) (stage : Stage)
    (failed : List ℕ) : BatchState cutoff locked (deferRuns env locked stage failed db ids).1
      (deferRuns env locked stage failed db ids).2 := by
  rw [deferRuns]
  split_ifs
  · exact h
  · have hmoved := h.of_respects (env.others.respects locked stage db)
    exact .of_safe hmoved.expired fun i hi => h.locks i (List.mem_filter.mp hi).1

/-- The runs that are locked are expired. -/
theorem expired_of_locked {skipLocked : ℕ → Bool} {r : PlanRun} (hr : r ∈ db.planRuns.rows)
    (h : r.id ∈ retentionLockRuns db skipLocked ids cutoff) : r.isExpired cutoff = true := by
  rw [retentionLockRuns, List.mem_mergeSort] at h
  obtain ⟨r', hr', hid⟩ := List.mem_map.mp h
  obtain ⟨hrow, hcond⟩ := List.mem_filter.mp hr'
  have heq : r' = r := Table.eq_of_id_eq hrow hr hid
  rw [← heq]
  exact (Bool.and_eq_true_iff.mp (Bool.and_eq_true_iff.mp hcond).1).2

end Batch

/-- **The batch** that is deleted. -/
theorem retentionBatch_state (env : RetentionEnv) (cutoff : Time) (batchSize : ℕ)
    (db : Database) : ∃ locked, BatchState cutoff locked (retentionBatch env cutoff batchSize db).1
      (retentionBatch env cutoff batchSize db).2 := by
  have hexpired : ∀ r ∈ (env.others.move ∅ .lock db).planRuns.rows,
      r.id ∈ (retentionLockRuns (env.others.move ∅ .lock db) env.skipLocked
        (retentionCandidateIds db cutoff batchSize) cutoff).toFinset →
      r.isExpired cutoff = true :=
    fun r hr hid => expired_of_locked hr (List.mem_toFinset.mp hid)
  have hsafe := fun locked stage (h : ∀ r ∈ (env.others.move ∅ .lock db).planRuns.rows,
      r.id ∈ locked → r.isExpired cutoff = true) ids (hids : ∀ i ∈ ids, i ∈ locked) =>
    @BatchState.of_safe cutoff locked
      (env.others.move locked stage (env.others.move ∅ .lock db)) ids
      (fun r hr hid => h r ((env.others.respects locked stage _).kept r hr hid) hid) hids
  exact ⟨_, (((hsafe _ .check hexpired _ fun i hi => List.mem_toFinset.mpr hi).defer
    .unassigned _).defer .purge _).of_respects (env.others.respects _ .delete _)⟩

/-! ### What is deleted -/

/-- What the job did is sound: a run that is gone was terminal and old, nothing that is left
refers to it, and no run is new. -/
structure RetentionSound (cutoff : Time) (before after : Database) : Prop where
  left : ∀ r ∈ after.planRuns.rows, r ∈ before.planRuns.rows
  expired : ∀ r ∈ before.planRuns.rows, r ∉ after.planRuns.rows →
    r.isTerminal = true ∧ r.startedAt < cutoff
  unreferenced : ∀ r ∈ before.planRuns.rows, r ∉ after.planRuns.rows →
    ∀ r' ∈ after.planRuns.rows, r'.refersTo r.id = false

/-- Nothing is deleted. -/
theorem RetentionSound.refl (cutoff : Time) (db : Database) : RetentionSound cutoff db db :=
  ⟨fun _ h => h, fun _ h hout => absurd h hout, fun _ h hout => absurd h hout⟩

/-- A batch is deleted. -/
theorem RetentionSound.of_batch {cutoff : Time} {locked : Finset ℕ} {db : Database}
    {ids : List ℕ} (h : BatchState cutoff locked db ids) :
    RetentionSound cutoff db (deleteRuns db ids) := by
  have hrows : ∀ r, r ∈ (deleteRuns db ids).planRuns.rows ↔
      r ∈ db.planRuns.rows ∧ ids.contains r.id = false := fun r => Table.mem_delete
  have hgone : ∀ r ∈ db.planRuns.rows, r ∉ (deleteRuns db ids).planRuns.rows → r.id ∈ ids := by
    intro r hr hout
    by_contra hid
    exact hout ((hrows r).mpr ⟨hr, by simpa using hid⟩)
  refine ⟨fun r hr => ((hrows r).mp hr).1, fun r hr hout => ?_, fun r hr hout r' hr' => ?_⟩
  · have hexpired := h.expired r hr (h.locks r.id (hgone r hr hout))
    rw [PlanRun.isExpired, Bool.and_eq_true, decide_eq_true_iff] at hexpired
    exact hexpired
  · obtain ⟨hrow, hkept⟩ := (hrows r').mp hr'
    exact h.unreferenced r' hrow (by simpa using hkept) r.id (hgone r hr hout)

/-- **Retention never orphans.** The safe runs are the greatest part of the candidates that no run
outside of it refers to; and whatever cannot be purged, and whatever other transactions do, the
runs that the job deletes are terminal and older than the cutoff, and no run that is left refers
to one of them. -/
theorem retention_never_orphans :
    (∀ db runIds, IsGreatest {S : Set ℕ | S ⊆ {i | i ∈ runIds} ∧ Unreferenced db S}
      {i | i ∈ (retentionSafeIds db runIds).1}) ∧
    ∀ env cutoff batchSize db,
      RetentionSound cutoff (runRetentionCleanup env cutoff batchSize db).1
        (runRetentionCleanup env cutoff batchSize db).2 := by
  refine ⟨retentionSafeIds_isGreatest, fun env cutoff batchSize db => ?_⟩
  rw [runRetentionCleanup]
  split_ifs
  · exact .refl cutoff _
  · obtain ⟨locked, hstate⟩ := retentionBatch_state env cutoff batchSize db
    exact .of_batch hstate

/-! ### Candidates, and what belongs to runs that are left -/

/-- A candidate is expired, and only candidates refer to it. -/
theorem selectFrontiers_unreferenced {db : Database} {cutoff : Time} {limit : ℕ}
    {selectedIds : List ℕ}
    (h : Unreferenced db {i | i ∈ selectedIds}) :
    Unreferenced db {i | i ∈ selectFrontiers db cutoff limit selectedIds} := by
  fun_induction selectFrontiers db cutoff limit selectedIds with
  | case1 selectedIds hlimit hnone => exact h
  | case3 selectedIds hlimit => exact h
  | case2 selectedIds hlimit r rest htake ih =>
      refine ih fun d hd hout i hi => ?_
      have hold : d.id ∉ selectedIds := fun hmem => hout (List.mem_append_left _ hmem)
      rcases List.mem_append.mp hi with hi | hi
      · exact h d hd hold i hi
      · obtain ⟨r', hr', rfl⟩ := List.mem_map.mp hi
        rw [← htake] at hr'
        have hmem := List.mem_of_mem_take hr'
        rw [retentionFrontier, List.mem_mergeSort] at hmem
        have hcond := (Bool.and_eq_true_iff.mp (List.mem_filter.mp hmem).2).2
        rw [Bool.not_eq_true', List.any_eq_false] at hcond
        have hnot := hcond d hd
        have hne : d.id ≠ r'.id := fun heq => hout (heq ▸ List.mem_append_right _ hi)
        simpa [hne, hold] using hnot

/-- **Only candidates refer to candidates**, so that nothing is kept unless others move. -/
theorem retentionCandidateIds_unreferenced (db : Database) (cutoff : Time) (limit : ℕ) :
    Unreferenced db {i | i ∈ retentionCandidateIds db cutoff limit} :=
  selectFrontiers_unreferenced fun _ _ _ _ hi => absurd hi List.not_mem_nil

end StabilityPlatform.Retention
