import StabilityPlatform.PlanRun.ChainTrigger

/-!
# Chain triggers, once

A parent whose snapshot records its next plan gets at most one child, whatever the order of
triggers, repairs, failures and crashes: every trigger asks for the same plan, and the unique
index refuses a second child for it. A flag without a child is cleared by the next repair.
The periodic reconciler looks for parents by their snapshots, so it comes to a parent that is
due exactly when its snapshot records the next plan and not too many others come first. A
parent whose snapshot lacks the key, which the trigger serves from the plan itself, is never
looked for.

## Main results

* `chainOutline`: what a session knows at each statement.
* `repairAlone`: the repair of a parent clears a flag without a child.
* `mem_reconcilePlanChains`: which parents that are due the reconciler comes to.
* `chain_once_of_recorded`: **one child at most, and no parent lost**, with a recorded next
  plan.
-/

namespace StabilityPlatform

open Lib Lib.RowLock

/-! ### What the rows keep -/

/-- The snapshots of the parents. -/
def snapshotsOf (rows : ℕ → ChainRows) (k : ℕ) : Option PyVal :=
  (rows k).parent.map ChainParent.planSnapshot

/-- The next plan a snapshot records. -/
def recordedNext (snapshots : ℕ → Option PyVal) (k : ℕ) : Option PyVal :=
  (snapshots k).bind nextPlanIdFromSnapshot

/-- Rows in order: the snapshot is as it was, and with a recorded next plan there is at most
one child, for that plan. -/
structure OneChild (snapshots : ℕ → Option PyVal) (k : ℕ) (s : ChainRows) : Prop where
  snapshot : s.parent.map ChainParent.planSnapshot = snapshots k
  one : ∀ v, recordedNext snapshots k = some v →
    s.children.length ≤ 1 ∧ ∀ c ∈ s.children, planIdOf v = some c.planId

/-- Writing to the row of the parent leaves its snapshot. -/
theorem OneChild.update {snapshots : ℕ → Option PyVal} {k : ℕ} {s : ChainRows}
    (h : OneChild snapshots k s) {f : ChainParent → ChainParent}
    (hf : ∀ p, (f p).planSnapshot = p.planSnapshot) : OneChild snapshots k (s.update f) := by
  refine ⟨?_, h.one⟩
  rw [← h.snapshot, ChainRows.update, Option.map_map]
  exact congrArg (fun g => Option.map g s.parent) (funext hf)

/-- **The child of a trigger**: without one for the plan, there was none. -/
theorem OneChild.child {snapshots : ℕ → Option PyVal} {k : ℕ} {s : ChainRows}
    (h : OneChild snapshots k s) {nextPlanId : ℤ} (hfree : s.hasChild nextPlanId = false)
    (hnext : ∀ v, recordedNext snapshots k = some v → planIdOf v = some nextPlanId)
    {c : ChainChild} (hc : c.planId = nextPlanId) :
    OneChild snapshots k { s with children := s.children ++ [c] } := by
  refine ⟨h.snapshot, fun v hv => ?_⟩
  have hnone : s.children = [] := by
    refine List.eq_nil_iff_forall_not_mem.mpr fun c' hc' => ?_
    have hplan : planIdOf v = some c'.planId := (h.one v hv).2 c' hc'
    rw [hnext v hv] at hplan
    rw [ChainRows.hasChild, List.any_eq_false] at hfree
    exact hfree c' hc' (beq_iff_eq.mpr (Option.some.inj hplan).symm)
  dsimp only
  rw [hnone]
  refine ⟨by simp, fun c' hc' => ?_⟩
  obtain rfl : c' = c := by simpa using hc'
  rw [hc]
  exact hnext v hv

/-! ### What a session knows -/

/-- The parent a session has is the parent of the rows, but for columns that change. -/
def KnowsParent (snapshots : ℕ → Option PyVal) (k : ℕ) (parent : ChainParent) : Prop :=
  snapshots k = some parent.planSnapshot

/-- The next plan a session works with is the recorded one. -/
def KnowsNext (snapshots : ℕ → Option PyVal) (k : ℕ) (nextPlanId : ℤ) : Prop :=
  ∀ v, recordedNext snapshots k = some v → planIdOf v = some nextPlanId

/-- What a session knows at a point. -/
def chainPointFacts (snapshots : ℕ → Option PyVal) (k : ℕ) : ChainPoint → Prop
  | .trigger _ (.resolve parent) => KnowsParent snapshots k parent
  | .trigger _ (.existing _ nextPlanId) => KnowsNext snapshots k nextPlanId
  | .trigger _ (.settle _ nextPlanId) => KnowsNext snapshots k nextPlanId
  | .trigger _ (.devices _ nextPlanId) => KnowsNext snapshots k nextPlanId
  | .trigger _ (.prepare _ nextPlanId _ _) => KnowsNext snapshots k nextPlanId
  | _ => True

/-- What a session knows at a point about its copy. -/
def chainFacts (snapshots : ℕ → Option PyVal) (k : ℕ) (p : ChainPoint)
    (h : Option ChainRows) : Prop :=
  chainPointFacts snapshots k p ∧ ∀ m, h = some m → OneChild snapshots k m

/-- What must be known after a statement. -/
abbrev ChainAfter (snapshots : ℕ → Option PyVal) (k : ℕ) (h : Option ChainRows) (s : ChainRows)
    (n : Next ChainPoint) : Prop :=
  After (OneChild snapshots) (fun k p h _ => chainFacts snapshots k p h)
    (fun k m _ => OneChild snapshots k m) k h s n

/-- The parent as a session has it has the snapshot of the row. -/
theorem planSnapshot_inSession (row : ChainParent) (loaded : Option LoadedColumns) :
    (row.inSession loaded).planSnapshot = row.planSnapshot := by
  cases loaded with
  | none => rfl
  | some loaded => rfl

/-- What a session resolves is what the snapshot records, if it does. -/
theorem KnowsParent.next {snapshots : ℕ → Option PyVal} {k : ℕ} {parent : ChainParent}
    (h : KnowsParent snapshots k parent) {r : ChainView} {nextPlanId : ℤ}
    (hnext : resolveNextPlanId r parent = some nextPlanId) : KnowsNext snapshots k nextPlanId := by
  intro v hv
  rw [recordedNext, h, Option.bind_some] at hv
  rw [resolveNextPlanId, hv] at hnext
  exact hnext

/-! ### One statement -/

section Turn

variable {snapshots : ℕ → Option PyVal} {k : ℕ} {h : Option ChainRows} {s : ChainRows}
  {r : ChainView}

/-- What a session sees is in order. -/
theorem oneChild_getD (hs : OneChild snapshots k s)
    (hh : ∀ m, h = some m → OneChild snapshots k m) : OneChild snapshots k (h.getD s) := by
  cases h with
  | none => exact hs
  | some m => exact hh m rfl

/-- A copy that is put in order. -/
theorem forall_some {m : ChainRows} (hm : OneChild snapshots k m) :
    ∀ m', some m = some m' → OneChild snapshots k m' := by
  rintro m' hm'
  cases hm'
  exact hm

/-- A statement that writes to the row of the parent and commits. -/
theorem chainAfter_write {m : ChainRows} (hm : OneChild snapshots k m)
    {f : ChainParent → ChainParent} (hf : ∀ p, (f p).planSnapshot = p.planSnapshot)
    (after : Option ChainPoint) (hafter : ∀ p, after = some p → chainPointFacts snapshots k p) :
    ChainAfter snapshots k (some (m.update f)) s (.commit after) :=
  ⟨hm.update hf, fun p hp => ⟨hafter p hp, fun m' hm' => by cases hm'⟩⟩

/-- **The statements of the trigger.** -/
theorem turn_trigger {respectSettle : Bool} {p : TriggerPoint} (hs : OneChild snapshots k s)
    (hp : chainFacts snapshots k (.trigger respectSettle p) h) :
    ChainAfter snapshots k (chainProgram.turn k (.trigger respectSettle p) h s r).2 s
      (chainProgram.turn k (.trigger respectSettle p) h s r).1 := by
  obtain ⟨hknown, hh⟩ := hp
  have hseen := oneChild_getD hs hh
  cases p with
  | lock loaded =>
      refine .of_lock rfl fun n e he => ?_
      split at he
      · cases he
        exact hh
      · rename_i row hrow
        split at he
        · cases he
          refine ⟨?_, forall_some hseen⟩
          change snapshots k = some (row.inSession loaded).planSnapshot
          rw [planSnapshot_inSession, ← hseen.snapshot, hrow]
          rfl
        · cases he
          exact forall_some hseen
  | resolve parent =>
      refine .of_read rfl fun n hn => ?_
      split at hn
      · cases hn
        exact hh
      · rename_i nextPlanId hnext
        cases hn
        exact ⟨KnowsParent.next hknown hnext, hh⟩
  | existing parent nextPlanId =>
      refine .of_read rfl fun n hn => ?_
      split at hn
      · split at hn
        · cases hn
          exact hh
        · cases hn
          exact ⟨trivial, hh⟩
      · split at hn
        · cases hn
          exact hh
        · split at hn
          · cases hn
            exact ⟨hknown, hh⟩
          · cases hn
            exact ⟨hknown, hh⟩
  | settle parent nextPlanId =>
      refine .of_read rfl fun n hn => ?_
      split at hn
      · cases hn
        exact hh
      · cases hn
        exact ⟨hknown, hh⟩
  | devices parent nextPlanId =>
      refine .of_read rfl fun n hn => ?_
      dsimp only at hn
      split at hn
      · split at hn
        · cases hn
          exact ⟨trivial, hh⟩
        · cases hn
          exact hh
      · cases hn
        exact ⟨hknown, hh⟩
  | prepare parent nextPlanId deviceIds excluded =>
      refine .of_lock rfl fun n e he => ?_
      split at he
      · cases he
        rintro p hp
        cases hp
        exact ⟨trivial, fun m hm => by cases hm⟩
      · split at he
        · cases he
          rintro p hp
          cases hp
          exact ⟨trivial, fun m hm => by cases hm⟩
        · rename_i hfree
          cases he
          have hmarked := hseen.update (f := .setTriggered true) fun _ => rfl
          exact ⟨hmarked.child (Bool.not_eq_true _ ▸ hfree) hknown rfl, fun p hp => by cases hp⟩

/-- **The statements of the handler.** -/
theorem turn_rollback {error : String} {p : RollbackPoint} (hs : OneChild snapshots k s)
    (hp : chainFacts snapshots k (.rollback error p) h) :
    ChainAfter snapshots k (chainProgram.turn k (.rollback error p) h s r).2 s
      (chainProgram.turn k (.rollback error p) h s r).1 := by
  obtain ⟨-, hh⟩ := hp
  cases p with
  | get =>
      refine .of_read rfl fun n hn => ?_
      split at hn
      · cases hn
        exact hh
      · cases hn
        exact ⟨trivial, hh⟩
  | resolve planRun =>
      refine .of_read rfl fun n hn => ?_
      split at hn
      · cases hn
        exact ⟨trivial, hh⟩
      · cases hn
        exact ⟨trivial, hh⟩
  | child planRun nextPlanId => exact ⟨trivial, hh⟩
  | write planRun childExists =>
      exact chainAfter_write (f := recordChainDispatchFailure r error planRun childExists)
        (oneChild_getD hs hh) (fun _ => rfl) none fun p hp => by cases hp

/-- **The statements of the repair.** -/
theorem turn_reconcile {p : ReconcilePoint} (hs : OneChild snapshots k s)
    (hp : chainFacts snapshots k (.reconcile p) h) :
    ChainAfter snapshots k (chainProgram.turn k (.reconcile p) h s r).2 s
      (chainProgram.turn k (.reconcile p) h s r).1 := by
  obtain ⟨-, hh⟩ := hp
  have hseen := oneChild_getD hs hh
  cases p with
  | lock loaded =>
      refine .of_lock rfl fun n e he => ?_
      split at he
      · cases he
        exact hh
      · split at he
        · cases he
          exact ⟨trivial, forall_some hseen⟩
        · cases he
          exact forall_some hseen
  | child parent =>
      refine .of_read rfl fun n hn => ?_
      split at hn
      · split at hn
        · cases hn
          exact ⟨trivial, hh⟩
        · cases hn
          exact ⟨trivial, hh⟩
      · split at hn
        · cases hn
          exact hh
        · cases hn
          exact ⟨trivial, hh⟩
  | reset =>
      refine chainAfter_write (f := .setTriggered false) hseen (fun _ => rfl)
        (some (.reconcile .refresh)) fun p hp => ?_
      cases hp
      trivial
  | refresh =>
      refine .of_read rfl fun n hn => ?_
      split at hn
      · cases hn
        exact hh
      · cases hn
        exact ⟨trivial, hh⟩

end Turn

/-- **What the sessions know** of the rows they have. -/
def chainOutline (snapshots : ℕ → Option PyVal) :
    Outline chainProgram (OneChild snapshots) where
  facts := fun k p h _ => chainFacts snapshots k p h
  done := fun k m _ => OneChild snapshots k m
  stable := fun h _ => h
  enter := by
    intro k p s hentry _
    refine ⟨?_, fun m hm => by cases hm⟩
    cases p with
    | trigger respectSettle p =>
        cases p with
        | lock loaded => trivial
        | _ => cases hentry
    | reconcile p => trivial
    | _ => cases hentry
  reenter := by
    intro k p m s hentry _ hm
    refine ⟨?_, forall_some hm⟩
    cases p with
    | trigger respectSettle p =>
        cases p with
        | lock loaded => trivial
        | _ => cases hentry
    | reconcile p => trivial
    | _ => cases hentry
  commits := fun hm _ => hm
  turn := by
    intro k p h s r hs hp
    cases p with
    | trigger respectSettle p => exact turn_trigger hs hp
    | mark =>
        exact chainAfter_write (f := .setTriggered true) (oneChild_getD hs hp.2) (fun _ => rfl)
          none fun p hp => by cases hp
    | gap parent missing =>
        exact chainAfter_write (f := .setRunContext (markChainGapSignaled parent.runContext r.now
          "no_healthy_devices" missing)) (oneChild_getD hs hp.2) (fun _ => rfl) none
          fun p hp => by cases hp
    | rollback error p => exact turn_rollback hs hp
    | reconcile p => exact turn_reconcile hs hp

/-! ### The repair, taken alone -/

/-- No flag without a child. -/
def FlagHasChild (s : ChainRows) : Prop :=
  ∀ p, s.parent = some p → p.nextPlanTriggered = true → s.children ≠ []

/-- A call taken alone from a point ends, and leaves no flag without a child. -/
abbrev EndsClear (k : ℕ) (r : ChainView) (p : ChainPoint) (h : Option ChainRows)
    (s : ChainRows) : Prop :=
  chainProgram.Ends (fun out => FlagHasChild out.2) k r p h s

section Alone

variable {k : ℕ} {r : ChainView} {s : ChainRows}

/-- Writing to the parent without setting the flag. -/
theorem FlagHasChild.update (hs : FlagHasChild s) {f : ChainParent → ChainParent}
    (hf : ∀ p, (f p).nextPlanTriggered = true → p.nextPlanTriggered = true) :
    FlagHasChild (s.update f) := by
  intro p hp hflag
  obtain ⟨row, hrow, rfl⟩ := Option.map_eq_some_iff.mp hp
  exact hs row hrow (hf row hflag)

/-- The write of the handler, taken alone. -/
theorem endsClear_write (error : String) (planRun : ChainParent) (childExists : Bool)
    (hs : FlagHasChild s) : EndsClear k r (.rollback error (.write planRun childExists)) none s := by
  refine .of_lock rfl fun n e he => ?_
  cases he
  refine hs.update fun p hflag => ?_
  simp only [recordChainDispatchFailure] at hflag
  split at hflag
  · cases hflag
  · exact hflag

/-- The handler, taken alone. -/
theorem endsClear_rollback (error : String) (hs : FlagHasChild s) :
    EndsClear k r (.rollback error .get) none s := by
  refine .of_read rfl fun n hn => ?_
  split at hn
  · cases hn
    exact hs
  · rename_i planRun hparent
    cases hn
    refine .of_read rfl fun n hn => ?_
    split at hn
    · cases hn
      exact endsClear_write error planRun false hs
    · rename_i nextPlanId hnext
      cases hn
      refine .of_read rfl fun n hn => ?_
      cases hn
      exact endsClear_write error planRun _ hs

/-- The preparation of a child, taken alone. -/
theorem endsClear_prepare {respectSettle : Bool} {parent : ChainParent} {nextPlanId : ℤ}
    {deviceIds : List ℕ} {excluded : List ExcludedDevice} {h : Option ChainRows}
    (hs : FlagHasChild s) :
    EndsClear k r (.trigger respectSettle (.prepare parent nextPlanId deviceIds excluded)) h s := by
  refine .of_lock rfl fun n e he => ?_
  split at he
  · cases he
    exact endsClear_rollback _ hs
  · split at he
    · cases he
      exact endsClear_rollback _ hs
    · cases he
      intro p hp hflag hnone
      have hlength := congrArg List.length hnone
      simp [Effect.apply] at hlength

/-- The trigger with a next plan, taken alone. -/
theorem endsClear_existing {respectSettle : Bool} {parent : ChainParent} {nextPlanId : ℤ}
    {m : ChainRows} (hm : FlagHasChild m) (hs : FlagHasChild s) :
    EndsClear k r (.trigger respectSettle (.existing parent nextPlanId)) (some m) s := by
  have hdevices : EndsClear k r (.trigger respectSettle (.devices parent nextPlanId)) (some m) s := by
    refine .of_read rfl fun n hn => ?_
    dsimp only at hn
    split at hn
    · split at hn
      · cases hn
        refine .of_lock rfl fun n e he => ?_
        cases he
        exact hm.update fun p hflag => hflag
      · cases hn
        exact hs
    · cases hn
      exact endsClear_prepare hs
  refine .of_read rfl fun n hn => ?_
  split at hn
  · rename_i hchild
    split at hn
    · cases hn
      exact hs
    · cases hn
      refine .of_lock rfl fun n e he => ?_
      cases he
      intro p hp hflag hnone
      have hany : m.children.any (fun c => c.planId == nextPlanId) = true := hchild
      have hempty : m.children = [] := hnone
      rw [hempty] at hany
      cases hany
  · split at hn
    · cases hn
      exact hs
    · split at hn
      · cases hn
        refine .of_read rfl fun n hn => ?_
        split at hn
        · cases hn
          exact hs
        · cases hn
          exact hdevices
      · cases hn
        exact hdevices

/-- The trigger, taken alone. -/
theorem endsClear_trigger {respectSettle : Bool} {loaded : Option LoadedColumns}
    {h : Option ChainRows} (hseen : FlagHasChild (h.getD s)) (hs : FlagHasChild s) :
    EndsClear k r (.trigger respectSettle (.lock loaded)) h s := by
  refine .of_lock rfl fun n e he => ?_
  split at he
  · cases he
    exact hs
  · split at he
    · cases he
      refine .of_read rfl fun n hn => ?_
      split at hn
      · cases hn
        exact hs
      · cases hn
        exact endsClear_existing hseen hs
    · cases he
      exact hs

/-- **The repair, taken alone**, leaves no flag without a child of a parent that ended well. -/
theorem repairAlone {parent : ChainParent} (hparent : s.parent = some parent)
    (hstatus : parent.status.triggerable = true) : EndsClear k r (.reconcile (.lock none)) none s := by
  refine .of_lock rfl fun n e he => ?_
  rw [Option.getD_none, hparent] at he
  dsimp only at he
  rw [if_pos (show (parent.inSession none).status.triggerable = true from hstatus)] at he
  cases he
  refine .of_read rfl fun n hn => ?_
  split at hn
  · split at hn
    · cases hn
      refine .of_lock rfl fun n e he => ?_
      cases he
      have hcleared : FlagHasChild (s.update (.setTriggered false)) := by
        intro p hp hflag
        obtain ⟨row, hrow, rfl⟩ := Option.map_eq_some_iff.mp hp
        cases hflag
      refine .of_read rfl fun n hn => ?_
      split at hn
      · cases hn
        exact hcleared
      · cases hn
        exact endsClear_trigger hcleared hcleared
    · rename_i hflag
      cases hn
      have hclear : FlagHasChild s := by
        intro p hp htriggered
        rw [hparent] at hp
        cases hp
        exact absurd htriggered hflag
      exact endsClear_trigger hclear hclear
  · rename_i hchildren
    have hclear : ∀ b, FlagHasChild (s.update (.setTriggered b)) := by
      intro b p hp hflag hnone
      have hempty : s.children = [] := hnone
      exact hchildren (List.isEmpty_iff.mpr hempty)
    split at hn
    · cases hn
      intro p hp hflag hnone
      exact hchildren (List.isEmpty_iff.mpr hnone)
    · cases hn
      refine .of_lock rfl fun n e he => ?_
      cases he
      exact hclear true

end Alone

/-! ### The reconciler -/

/-- The smallest few of an ascending list: those with few before them. -/
theorem mem_take_of_pairwise {l : List ℕ} (hl : l.Pairwise (· < ·)) {b k : ℕ} :
    k ∈ l.take b ↔ k ∈ l ∧ (l.filter fun j => decide (j < k)).length < b := by
  induction l generalizing b with
  | nil => simp
  | cons a rest ih =>
      obtain ⟨ha, hrest⟩ := List.pairwise_cons.mp hl
      cases b with
      | zero => simp
      | succ b =>
          rw [List.take_succ_cons, List.mem_cons, List.mem_cons, ih hrest, List.filter_cons]
          constructor
          · rintro (rfl | ⟨hmem, hlen⟩)
            · have hnone : rest.filter (fun j => decide (j < k)) = [] := by
                refine List.filter_eq_nil_iff.mpr fun j hj => ?_
                have hlt : k < j := ha j hj
                simp only [decide_eq_true_eq]
                omega
              simp [hnone]
            · have hlt : a < k := ha k hmem
              simp only [hlt, decide_true, if_true, List.length_cons]
              exact ⟨.inr hmem, by omega⟩
          · rintro ⟨rfl | hmem, hlen⟩
            · exact .inl rfl
            · have hlt : a < k := ha k hmem
              simp only [hlt, decide_true, if_true, List.length_cons] at hlen
              exact .inr ⟨hmem, by omega⟩

/-- The parents the reconciler comes to before a given one. -/
def reconciledBefore (planRuns : List ℕ) (committed : ℕ → ChainRows) (k : ℕ) : List ℕ :=
  planRuns.filter fun j => decide (j < k) && (committed j).reconcilable

/-- **Whom the reconciler comes to**: what it looks for, up to its batch size, by id. -/
theorem mem_reconcilePlanChains {planRuns : List ℕ} (hnodup : planRuns.Nodup) {batch : ℕ}
    {committed : ℕ → ChainRows} {k : ℕ} :
    k ∈ reconcilePlanChains planRuns batch committed ↔
      (k ∈ planRuns ∧ (committed k).reconcilable = true) ∧
        (reconciledBefore planRuns committed k).length < batch := by
  generalize hl : planRuns.filter (fun k => (committed k).reconcilable) = l
  have hperm : (l.insertionSort (· ≤ ·)).Perm l := List.perm_insertionSort _ l
  have hsorted : (l.insertionSort (· ≤ ·)).Pairwise (· < ·) := by
    have hle := List.pairwise_insertionSort (· ≤ ·) l
    have hne : (l.insertionSort (· ≤ ·)).Nodup := hperm.nodup_iff.mpr (hl ▸ hnodup.filter _)
    exact (hle.and hne).imp fun h => lt_of_le_of_ne h.1 h.2
  have hbefore : ((l.insertionSort (· ≤ ·)).filter fun j => decide (j < k)).length =
      (reconciledBefore planRuns committed k).length := by
    rw [(hperm.filter _).length_eq, ← hl, List.filter_filter]
    rfl
  rw [reconcilePlanChains, hl, mem_take_of_pairwise hsorted, hbefore, hperm.mem_iff, ← hl,
    List.mem_filter]

/-- A parent that is due: it ended well, there is a next plan, and there is no child. -/
def ChainRows.Due (r : ChainView) (s : ChainRows) (parent : ChainParent) : Prop :=
  s.parent = some parent ∧ parent.status.triggerable = true ∧
    (resolveNextPlanId r parent).isSome = true ∧ s.children = []

/-- A parent that is due is looked for exactly when its snapshot records the next plan. -/
theorem ChainRows.Due.reconcilable_iff {r : ChainView} {s : ChainRows} {parent : ChainParent}
    (h : s.Due r parent) :
    s.reconcilable = true ↔ (nextPlanIdFromSnapshot parent.planSnapshot).isSome = true := by
  obtain ⟨hparent, hstatus, hnext, hchildren⟩ := h
  rw [ChainRows.reconcilable, hparent, Option.any_some, hstatus, hchildren]
  rw [resolveNextPlanId] at hnext
  cases hsnapshot : nextPlanIdFromSnapshot parent.planSnapshot with
  | none => simp
  | some v =>
      rw [hsnapshot] at hnext
      simpa using hnext

/-! ### Every interleaving -/

/-- **Chain triggers, once.** Whatever the order in which triggers, failure handlers and
repairs take their statements, crash and commit, in every state: a parent whose snapshot
records its next plan has at most one child; a parent that is due is found by the next pass of
the reconciler exactly when its snapshot records the next plan and fewer than a batch of
others come first; and the repair of a parent that ended well leaves no flag without a
child. -/
theorem chain_once_of_recorded {rows : ℕ → ChainRows}
    (hrows : ∀ k, OneChild (snapshotsOf rows) k (rows k)) {w : World ℕ ChainRows ChainPoint}
    {tr : List (World ℕ ChainRows ChainPoint × RowOp ℕ ChainView ChainPoint)}
    (hrun : Run (World.Step chainProgram) (World.initial rows) tr w) {planRuns : List ℕ}
    (hnodup : planRuns.Nodup) (batch : ℕ) :
    Holds (fun w => ∀ k parent, (w.committed k).parent = some parent →
      ((nextPlanIdFromSnapshot parent.planSnapshot).isSome = true →
        (w.committed k).children.length ≤ 1) ∧
      (∀ r, (w.committed k).Due r parent → k ∈ planRuns →
        (k ∈ reconcilePlanChains planRuns batch w.committed ↔
          (nextPlanIdFromSnapshot parent.planSnapshot).isSome = true ∧
            (reconciledBefore planRuns w.committed k).length < batch)) ∧
      (parent.status.triggerable = true → ∀ r,
        chainProgram.Ends (fun out => FlagHasChild out.2) k r (.reconcile (.lock none)) none
          (w.committed k))) tr w := by
  have hall := (chainOutline (snapshotsOf rows)).committed hrows hrun
  refine hall.mono fun w hw k parent hparent => ⟨fun hrecorded => ?_, fun r hdue hmem => ?_,
    fun hstatus r => repairAlone hparent hstatus⟩
  · obtain ⟨v, hv⟩ := Option.isSome_iff_exists.mp hrecorded
    refine ((hw k).one v ?_).1
    rw [recordedNext, ← (hw k).snapshot, hparent]
    exact hv
  · rw [mem_reconcilePlanChains hnodup, hdue.reconcilable_iff]
    simp only [hmem, true_and]

/-- A parent that ended at the epoch, with a snapshot of its plan. -/
def plainParent (plan : PyDict) : ChainParent where
  id := 1
  planId := 10
  status := .success
  planSnapshot := .dict [("plan", .dict plan)]
  runContext := []
  resultSummary := []
  triggeredBy := none
  endedAt := some 0
  rootPlanRunId := none
  chainIndex := 0
  nextPlanTriggered := false

/-- The rows of one such parent, without children. -/
def plainChain (plan : PyDict) (k : ℕ) : ChainRows :=
  ⟨if k = 1 then some (plainParent plan) else none, []⟩

/-- So many seconds after the epoch, with the plan's next plan as it is then, the device of the
parent still busy, and a preparation that fails or not. -/
def chainViewAt (seconds : ℤ) (nextPlanId : ℤ) (prepareError : Option String) : ChainView where
  now := Time.addSeconds 0 seconds
  plans := [(10, some nextPlanId)]
  devices := [⟨7, .completed, .busy, none, none⟩]
  leased := []
  laterRuns := 0
  chainTriggerSettleSeconds := 180
  chainTriggerSettleReadyGateEnabled := true
  hostHeartbeatTimeoutSeconds := 300
  prepareError := prepareError

/-- Rows without children are in order. -/
theorem oneChild_plainChain (plan : PyDict) (k : ℕ) :
    OneChild (snapshotsOf (plainChain plan)) k (plainChain plan k) :=
  ⟨rfl, fun _ _ => ⟨Nat.zero_le 1, fun c hc => by cases hc⟩⟩

/-- The theorem at work: the immediate trigger waits for the settle window, two repairs come
after it, and there is one child. -/
theorem chain_once_of_recorded_settle :
    let rows := plainChain [("id", .int 10), ("next_plan_id", .int 20)]
    let early := chainViewAt 60 20 none
    let late := chainViewAt 200 20 none
    let ops : List (RowOp ℕ ChainView ChainPoint) :=
      [.start 0 1 (.trigger true (.lock none)), .next 0 early, .next 0 early, .next 0 early,
        .next 0 early, .rollback 0, .start 1 1 (.reconcile (.lock none)), .next 1 late,
        .start 2 1 (.reconcile (.lock none)), .next 1 late, .next 1 late, .next 1 late,
        .next 1 late, .next 1 late, .next 1 late, .next 1 late, .next 2 late, .next 2 late]
    ∃ w, ops.foldlM (World.step chainProgram) (World.initial rows) = some w ∧
      ((w.committed 1).children.map ChainChild.planId) = [20] ∧
      (w.committed 1).children.length ≤ 1 := by
  intro rows early late ops
  have hsome : (ops.foldlM (World.step chainProgram) (World.initial rows)).any (fun w =>
      decide ((w.committed 1).children.map ChainChild.planId = [20]) &&
        (w.committed 1).parent.any fun parent =>
          (nextPlanIdFromSnapshot parent.planSnapshot).isSome) = true := by
    decide
  obtain ⟨w, hw, hafter⟩ := (Option.any_eq_true _ _).mp hsome
  obtain ⟨hone, hparent⟩ := Bool.and_eq_true_iff.mp hafter
  obtain ⟨parent, hparent, hrecorded⟩ := (Option.any_eq_true _ _).mp hparent
  have honce := (chain_once_of_recorded (oneChild_plainChain _) (Run.of_foldlM hw)
    (List.nodup_singleton 1) 100).2 1 parent hparent
  exact ⟨w, hw, of_decide_eq_true hone, honce.1 hrecorded⟩

/-- **A parent without a recorded next plan is lost, or triggered twice.** Its trigger waits
for the settle window, and the reconciler never looks for it, although the trigger would serve
it; and when a preparation fails, another trigger goes through, and its plan gets another next
plan before the failure handler looks for a child, then it gets a second child. -/
theorem chain_lost_without_snapshot :
    let rows := plainChain [("id", .int 10)]
    let early := chainViewAt 60 20 none
    let late := chainViewAt 200 20 none
    let failing := chainViewAt 200 20 (some "no steps")
    let edited := chainViewAt 210 30 none
    let skipped : List (RowOp ℕ ChainView ChainPoint) :=
      [.start 0 1 (.trigger true (.lock none)), .next 0 early, .next 0 early, .next 0 early,
        .next 0 early, .rollback 0]
    let twice : List (RowOp ℕ ChainView ChainPoint) :=
      [.start 0 1 (.trigger false (.lock none)), .next 0 failing, .next 0 failing,
        .next 0 failing, .next 0 failing, .next 0 failing,
        .start 1 1 (.trigger false (.lock none)), .next 1 late, .next 1 late, .next 1 late,
        .next 1 late, .next 1 late,
        .next 0 edited, .next 0 edited, .next 0 edited, .next 0 edited,
        .start 1 1 (.trigger false (.lock none)), .next 1 edited, .next 1 edited, .next 1 edited,
        .next 1 edited, .next 1 edited]
    (∃ w, skipped.foldlM (World.step chainProgram) (World.initial rows) = some w ∧
      (∃ parent, (w.committed 1).Due late parent) ∧
      ∀ planRuns batch, 1 ∉ reconcilePlanChains planRuns batch w.committed) ∧
    ∃ w, twice.foldlM (World.step chainProgram) (World.initial rows) = some w ∧
      (w.committed 1).children.map ChainChild.planId = [20, 30] := by
  intro rows early late failing edited skipped twice
  constructor
  · have hsome : (skipped.foldlM (World.step chainProgram) (World.initial rows)).any (fun w =>
        !(w.committed 1).reconcilable && (w.committed 1).children.isEmpty &&
          (w.committed 1).parent.any fun parent => parent.status.triggerable &&
            (resolveNextPlanId late parent).isSome) = true := by
      decide
    obtain ⟨w, hw, hafter⟩ := (Option.any_eq_true _ _).mp hsome
    simp only [Bool.and_eq_true, Bool.not_eq_true', List.isEmpty_iff] at hafter
    obtain ⟨⟨hlost, hchildren⟩, hparent⟩ := hafter
    obtain ⟨parent, hparent, hdue⟩ := (Option.any_eq_true _ _).mp hparent
    obtain ⟨hstatus, hnext⟩ := Bool.and_eq_true_iff.mp hdue
    refine ⟨w, hw, ⟨parent, hparent, hstatus, hnext, hchildren⟩, fun planRuns batch hmem => ?_⟩
    have hfound := List.mem_of_mem_take hmem
    rw [List.mem_insertionSort, List.mem_filter, hlost] at hfound
    exact Bool.noConfusion hfound.2
  · have hsome : (twice.foldlM (World.step chainProgram) (World.initial rows)).any (fun w =>
        decide ((w.committed 1).children.map ChainChild.planId = [20, 30])) = true := by
      decide
    obtain ⟨w, hw, htwo⟩ := (Option.any_eq_true _ _).mp hsome
    exact ⟨w, hw, of_decide_eq_true htwo⟩

end StabilityPlatform
