import StabilityPlatform.PlanRun.Confirmation

/-!
# What a fingerprint binds

The fingerprint of a configuration does not depend on the order in which the database gave
the steps. The lifecycle does: its steps are sorted by stage and place only, so steps that
share both run in the order they came in. The document, on the other hand, records an unknown
script as a script without defaults, which the lifecycle refuses.

Apart from these two, a fingerprint determines what runs. Both sides are read through
`StepView`: what the document says of a step, its parameters as the value of every key.

## Main results

* `fingerprint_of_perm`: the order of the steps does not matter for the fingerprint.
* `outcome_eq`: what runs, in terms of views.
* `fingerprint_binds_iff`: when two configurations with one fingerprint run the same.
-/

namespace StabilityPlatform

open Lib

/-! ### Views -/

/-- What a dictionary says under each key, up to the order of keys. -/
def denote (d : Dict Json) : String → Option Json := fun k => (d.get? k).map Json.norm

/-- An update, key by key. -/
theorem denote_update (d e : Dict Json) (k : String) :
    denote (d.update e) k = (denote e k).or (denote d k) := by
  rw [denote, Dict.get?_update]
  cases h : e.get? k with
  | none => simp [denote, h]
  | some v => simp [denote, h]

/-- What the document says of a step. -/
structure StepView where
  stepKey : String
  scriptName : String
  scriptVersion : String
  stage : String
  sortOrder : ℤ
  timeoutSeconds : Option ℤ
  stallSeconds : Option ℤ
  params : String → Option Json
  retry : ℤ
  enabled : Bool

/-- What the document says of this step. -/
def PlanStep.view (step : PlanStep) : StepView where
  stepKey := step.stepKey
  scriptName := step.scriptName
  scriptVersion := step.scriptVersion
  stage := step.stage
  sortOrder := step.sortOrder
  timeoutSeconds := step.timeoutSeconds
  stallSeconds := step.stallSeconds
  params := denote (step.params.getD Dict.empty)
  retry := step.retry
  enabled := step.enabled

namespace StepView

/-- The script of a step. -/
def script (v : StepView) : String × String := (v.scriptName, v.scriptVersion)

/-- The order of the steps in the lifecycle. -/
def lifecycleKey (v : StepView) : String ×ₗ ℤ := toLex (v.stage, v.sortOrder)

/-- Whether the step runs in a stage. -/
def runsIn (stage : String) (v : StepView) : Bool := v.enabled && v.stage == stage

/-- What an agent runs for a step of a script with these defaults. -/
def stepDef (defaults : String → Option Json) (v : StepView) :
    StepDef (String → Option Json) where
  stepId := v.stepKey
  action := "script:" ++ v.scriptName
  version := v.scriptVersion
  params := fun k => (v.params k).or (defaults k)
  retry := v.retry
  timeoutSeconds := v.timeoutSeconds
  stallSeconds := v.stallSeconds

end StepView

/-- The same step with other parameters. -/
def StepDef.map {π ρ : Type*} (f : π → ρ) (s : StepDef π) : StepDef ρ :=
  { s with params := f s.params }

/-- The same lifecycle with other parameters. -/
def Lifecycle.map {π ρ : Type*} (f : π → ρ) (l : Lifecycle π) : Lifecycle ρ where
  init := l.init.map (StepDef.map f)
  teardown := l.teardown.map (StepDef.map f)
  patrol := l.patrol.map fun p => (p.1, p.2.map (StepDef.map f))
  timeoutSeconds := l.timeoutSeconds
  barrierTimeoutSeconds := l.barrierTimeoutSeconds
  barrierMaxWaitSeconds := l.barrierMaxWaitSeconds

/-- The view of what an agent runs for a step. -/
theorem map_stepDef (step : PlanStep) (defaults : Dict Json) :
    (stepDef step defaults).map denote = step.view.stepDef (denote defaults) := by
  have hparams : denote (defaults.update (step.params.getD Dict.empty)) =
      fun k => (denote (step.params.getD Dict.empty) k).or (denote defaults k) :=
    funext fun k => denote_update ..
  rw [StepDef.map, StepView.stepDef]
  exact congrArg (fun p => { stepDef step defaults with params := p }) hparams

/-- The effective defaults of a script; an unknown script has none. -/
def effective (scriptMetadata : String × String → Option ScriptMetadata)
    (script : String × String) : String → Option Json :=
  denote ((scriptDefaults scriptMetadata script).getD Dict.empty)

/-- Default parameters come before the defaults of the schema. -/
theorem effective_apply (scriptMetadata : String × String → Option ScriptMetadata)
    (script : String × String) (k : String) :
    effective scriptMetadata script k =
      (denote (((scriptMetadata script).map ScriptMetadata.defaultParams).getD Dict.empty) k).or
        (denote (schemaDefaults ((scriptMetadata script).map ScriptMetadata.paramSchema)) k) := by
  cases h : scriptMetadata script with
  | none =>
      rw [effective, scriptDefaults, h, schemaDefaults]
      rfl
  | some metadata =>
      rw [effective, scriptDefaults, h]
      exact (denote_update ..).trans (by rw [denote_update]; rfl)

/-! ### What the document determines -/

/-- A nullable integer column is determined by its normal form. -/
theorem intColumn_injective {x y : Option ℤ}
    (h : Json.norm (intColumn x) = Json.norm (intColumn y)) : x = y := by
  cases x with
  | none =>
      cases y with
      | none => rfl
      | some b => simp [intColumn, Json.norm] at h
  | some a =>
      cases y with
      | none => simp [intColumn, Json.norm] at h
      | some b => simpa [intColumn, Json.norm] using h

/-- Objects with one normal form say the same under each key. -/
theorem denote_congr {d e : Dict Json}
    (h : Json.norm (.obj d.items) = Json.norm (.obj e.items)) : denote d = denote e :=
  funext fun k => Json.field_congr h k

/-- Nullable parameters with one normal form say the same under each key. -/
theorem denote_params_congr {x y : Option (Dict Json)}
    (h : Json.norm (x.elim .null fun params => .obj params.items) =
      Json.norm (y.elim .null fun params => .obj params.items)) :
    denote (x.getD Dict.empty) = denote (y.getD Dict.empty) := by
  cases x with
  | none =>
      cases y with
      | none => rfl
      | some e => simp [Json.norm] at h
  | some d =>
      cases y with
      | none => simp [Json.norm] at h
      | some e => exact denote_congr h

/-- **The document of a step determines its view.** -/
theorem view_of_stepDoc {a b : PlanStep} (h : (stepDoc a).norm = (stepDoc b).norm) :
    a.view = b.view := by
  have hfield : ∀ k v w, (stepDoc a).field k = some v → (stepDoc b).field k = some w →
      v.norm = w.norm := by
    intro k v w hv hw
    have := Json.field_congr h k
    rw [hv, hw] at this
    exact Option.some.inj this
  have hkey := hfield "step_key" _ _ rfl rfl
  have hname := hfield "script_name" _ _ rfl rfl
  have hversion := hfield "script_version" _ _ rfl rfl
  have hstage := hfield "stage" _ _ rfl rfl
  have horder := hfield "sort_order" _ _ rfl rfl
  have htimeout := intColumn_injective (hfield "timeout_seconds" _ _ rfl rfl)
  have hstall := intColumn_injective (hfield "stall_seconds" _ _ rfl rfl)
  have hparams := denote_params_congr (hfield "params" _ _ rfl rfl)
  have hretry := hfield "retry" _ _ rfl rfl
  have henabled := hfield "enabled" _ _ rfl rfl
  simp only [Json.norm, Json.str.injEq] at hkey hname hversion hstage
  simp only [Json.norm, Json.int.injEq, Json.bool.injEq] at horder hretry henabled
  simp only [PlanStep.view, hkey, hname, hversion, hstage, horder, htimeout, hstall, hparams,
    hretry, henabled]

/-- **The document of a script determines its effective defaults.** -/
theorem effective_of_scriptDoc {m m' : String × String → Option ScriptMetadata}
    {s s' : String × String} (h : (scriptDoc m s).norm = (scriptDoc m' s').norm) :
    (s, effective m s) = (s', effective m' s') := by
  have hfield : ∀ k v w, (scriptDoc m s).field k = some v → (scriptDoc m' s').field k = some w →
      v.norm = w.norm := by
    intro k v w hv hw
    have := Json.field_congr h k
    rw [hv, hw] at this
    exact Option.some.inj this
  have hname := hfield "name" _ _ rfl rfl
  have hversion := hfield "version" _ _ rfl rfl
  have hschema := denote_congr (hfield "schema_defaults" _ _ rfl rfl)
  have hdefault := denote_congr (hfield "default_params" _ _ rfl rfl)
  simp only [Json.norm, Json.str.injEq] at hname hversion
  have heffective : effective m s = effective m' s' := funext fun k => by
    rw [effective_apply, effective_apply, hschema, hdefault]
  exact Prod.ext (Prod.ext hname hversion) heffective

/-! ### What runs -/

/-- What the steps of a list run in a stage. -/
def ranIn (defaults : String × String → Option (Dict Json)) (stage : String)
    (steps : List PlanStep) : List (StepDef (Dict Json)) :=
  (steps.filter fun step => step.enabled && step.stage == stage).map fun step =>
    stepDef step ((defaults step.script).getD Dict.empty)

/-- What two lists run after each other. -/
theorem ranIn_append (defaults : String × String → Option (Dict Json)) (stage : String)
    (l l' : List PlanStep) :
    ranIn defaults stage (l ++ l') = ranIn defaults stage l ++ ranIn defaults stage l' := by
  rw [ranIn, List.filter_append, List.map_append]
  rfl

/-- The steps of each stage with those of a list behind them. -/
def StageSteps.extend (stages : StageSteps) (defaults : String × String → Option (Dict Json))
    (steps : List PlanStep) : StageSteps where
  init := stages.init ++ ranIn defaults "init" steps
  teardown := stages.teardown ++ ranIn defaults "teardown" steps
  patrol := stages.patrol ++ ranIn defaults "patrol" steps

/-- What one step runs in a stage. -/
theorem ranIn_singleton (defaults : String × String → Option (Dict Json)) (stage : String)
    (step : PlanStep) : ranIn defaults stage [step] =
      if step.enabled && step.stage == stage then
        [stepDef step ((defaults step.script).getD Dict.empty)] else [] := by
  rw [ranIn, List.filter_singleton]
  split_ifs with h
  · rw [h]
    rfl
  · rw [Bool.eq_false_iff.mpr h]
    rfl

/-- A step that does not run adds nothing. -/
theorem StageSteps.extend_of_disabled (stages : StageSteps)
    (defaults : String × String → Option (Dict Json)) {step : PlanStep}
    (h : step.enabled = false) : stages.extend defaults [step] = stages := by
  simp only [StageSteps.extend, ranIn_singleton, h, Bool.false_and, Bool.false_eq_true, if_false,
    List.append_nil]

/-- A step that runs is put into its stage. -/
theorem StageSteps.extend_of_enabled (stages : StageSteps)
    {defaults : String × String → Option (Dict Json)} {step : PlanStep} {d : Dict Json}
    (h : step.enabled = true) (hd : defaults step.script = some d) :
    stages.extend defaults [step] = stages.put step.stage (stepDef step d) := by
  simp only [StageSteps.extend, ranIn_singleton, h, hd, Bool.true_and, beq_iff_eq,
    Option.getD_some, StageSteps.put]
  split_ifs with h1 h2 h3 h4 h5 h6 <;> simp_all

/-- Adding a step: it is skipped or its script is known. -/
theorem addStep_eq_ok_iff {defaults : String × String → Option (Dict Json)}
    {stages t : StageSteps} {step : PlanStep} :
    addStep defaults stages step = .ok t ↔
      (step.enabled = true → (defaults step.script).isSome) ∧
        t = stages.extend defaults [step] := by
  rw [addStep]
  cases henabled : step.enabled with
  | false =>
      rw [stages.extend_of_disabled defaults henabled, if_pos rfl, Except.ok.injEq]
      exact ⟨fun h => ⟨fun hfalse => absurd hfalse (by decide), h.symm⟩, fun h => h.2.symm⟩
  | true =>
      rw [if_neg (by decide)]
      cases hdefaults : defaults step.script with
      | none => simp
      | some d =>
          rw [stages.extend_of_enabled henabled hdefaults, Except.ok.injEq]
          exact ⟨fun h => ⟨fun _ => rfl, h.symm⟩, fun h => h.2.symm⟩

/-- Adding the steps of a list: every step that runs has a known script. -/
theorem foldlM_addStep_eq_ok_iff {defaults : String × String → Option (Dict Json)}
    {steps : List PlanStep} {stages t : StageSteps} :
    steps.foldlM (addStep defaults) stages = .ok t ↔
      (∀ step ∈ steps, step.enabled = true → (defaults step.script).isSome) ∧
        t = stages.extend defaults steps := by
  induction steps generalizing stages with
  | nil =>
      have hextend : stages.extend defaults [] = stages := by
        simp [StageSteps.extend, ranIn]
      rw [hextend, List.foldlM_nil, eq_comm (a := t)]
      simp [pure, Except.pure]
  | cons step rest ih =>
      have hextend : (stages.extend defaults [step]).extend defaults rest =
          stages.extend defaults (step :: rest) := by
        have happend := fun stage => ranIn_append defaults stage [step] rest
        rw [List.singleton_append] at happend
        simp only [StageSteps.extend, happend, List.append_assoc]
      rw [List.foldlM_cons, Except.bind_eq_ok_iff, List.forall_mem_cons]
      constructor
      · rintro ⟨m, hm, hrest⟩
        obtain ⟨hstep, rfl⟩ := addStep_eq_ok_iff.mp hm
        obtain ⟨hall, rfl⟩ := ih.mp hrest
        exact ⟨⟨hstep, hall⟩, hextend⟩
      · rintro ⟨⟨hstep, hall⟩, rfl⟩
        exact ⟨_, addStep_eq_ok_iff.mpr ⟨hstep, rfl⟩, ih.mpr ⟨hall, hextend.symm⟩⟩

/-- The patrol part exists when there are steps and an interval, and is absent when there are
neither. -/
theorem patrolPart_eq_ok_iff {plan : Plan} {l : List (StepDef (Dict Json))}
    {part : Option (ℤ × List (StepDef (Dict Json)))} :
    patrolPart plan l = .ok part ↔
      (l ≠ [] ↔ plan.patrolIntervalSeconds.isSome) ∧
        part = plan.patrolIntervalSeconds.map fun interval => (interval, l) := by
  rw [patrolPart]
  cases l with
  | nil => cases plan.patrolIntervalSeconds <;> simp [eq_comm]
  | cons s rest => cases plan.patrolIntervalSeconds <;> simp [eq_comm]

namespace PlanGraph

/-- What runs for a configuration, as the agents read it; nothing when the lifecycle cannot be
built. -/
def outcome (g : PlanGraph) : Option (Lifecycle (String → Option Json)) :=
  g.lifecycle.toOption.map (Lifecycle.map denote)

/-- The views of the steps. -/
def views (g : PlanGraph) : List StepView := g.steps.map PlanStep.view

/-- Every step that runs has a known script. -/
def Complete (g : PlanGraph) : Prop :=
  ∀ step ∈ g.steps, step.enabled = true → (g.scriptMetadata step.script).isSome

/-- The patrol interval is set when patrol steps run, and only then. -/
def PatrolFits (g : PlanGraph) : Prop :=
  (∃ step ∈ g.steps, step.enabled = true ∧ step.stage = "patrol") ↔
    g.plan.patrolIntervalSeconds.isSome

instance (g : PlanGraph) : Decidable g.Complete :=
  inferInstanceAs (Decidable (∀ step ∈ g.steps, _))

instance (g : PlanGraph) : Decidable g.PatrolFits :=
  inferInstanceAs (Decidable ((∃ step ∈ g.steps, _) ↔ _))

/-- The names of the steps that run at one place of a stage, in the order the database gave
them. -/
def tied (g : PlanGraph) (place : String ×ₗ ℤ) : List String :=
  (classOf lifecycleSortKey place (g.steps.filter PlanStep.enabled)).map PlanStep.stepKey

/-- The steps that run in a stage, in the order they run. -/
def stageViews (g : PlanGraph) (stage : String) : List StepView :=
  (sortBy StepView.lifecycleKey g.views).filter (StepView.runsIn stage)

/-- What an agent runs in a stage. -/
def stageDefs (g : PlanGraph) (stage : String) : List (StepDef (String → Option Json)) :=
  (g.stageViews stage).map fun v => v.stepDef (effective g.scriptMetadata v.script)

/-- What an agent runs when everything fits. -/
def built (g : PlanGraph) : Lifecycle (String → Option Json) where
  init := g.stageDefs "init"
  teardown := g.stageDefs "teardown"
  patrol := g.plan.patrolIntervalSeconds.map fun interval => (interval, g.stageDefs "patrol")
  timeoutSeconds := g.plan.timeoutSeconds
  barrierTimeoutSeconds := g.plan.barrierTimeoutSeconds
  barrierMaxWaitSeconds := g.plan.barrierMaxWaitSeconds

/-- What the sorted steps run in a stage, as the agents read it. -/
theorem map_ranIn (g : PlanGraph) (stage : String) :
    (ranIn (scriptDefaults g.scriptMetadata) stage (sortBy lifecycleSortKey g.steps)).map
      (StepDef.map denote) = g.stageDefs stage := by
  have hkey : ∀ step : PlanStep, step.view.lifecycleKey = lifecycleSortKey step := fun _ => rfl
  rw [stageDefs, stageViews, views, ← map_sortBy hkey, List.filter_map, List.map_map, ranIn,
    List.map_map]
  exact List.map_congr_left fun step _ => map_stepDef step _

/-- Something runs in a stage when an enabled step belongs to it. -/
theorem ranIn_ne_nil_iff (g : PlanGraph) (stage : String) :
    ranIn (scriptDefaults g.scriptMetadata) stage (sortBy lifecycleSortKey g.steps) ≠ [] ↔
      ∃ step ∈ g.steps, step.enabled = true ∧ step.stage = stage := by
  simp [ranIn, List.filter_eq_nil_iff]

/-- **What runs**: everything, when every script is known and the patrol interval fits, and
nothing otherwise. -/
theorem outcome_eq_some_iff {g : PlanGraph} {l : Lifecycle (String → Option Json)} :
    g.outcome = some l ↔ g.Complete ∧ g.PatrolFits ∧ l = g.built := by
  have hknown : (∀ step ∈ sortBy lifecycleSortKey g.steps, step.enabled = true →
      (scriptDefaults g.scriptMetadata step.script).isSome) ↔ g.Complete := by
    simp [Complete, scriptDefaults]
  have hbuilt : ∀ stages : StageSteps,
      stages = StageSteps.extend {} (scriptDefaults g.scriptMetadata)
        (sortBy lifecycleSortKey g.steps) →
      Lifecycle.map denote
        { init := stages.init
          teardown := stages.teardown
          patrol := g.plan.patrolIntervalSeconds.map fun interval => (interval, stages.patrol)
          timeoutSeconds := g.plan.timeoutSeconds
          barrierTimeoutSeconds := g.plan.barrierTimeoutSeconds
          barrierMaxWaitSeconds := g.plan.barrierMaxWaitSeconds } = g.built := by
    rintro _ rfl
    simp only [Lifecycle.map, StageSteps.extend, List.nil_append, map_ranIn, Option.map_map,
      built, Function.comp_def]
  rw [outcome, Option.map_eq_some_iff]
  simp only [Except.toOption_eq_some_iff, lifecycle, buildLifecycleFromSteps,
    Except.bind_eq_ok_iff, foldlM_addStep_eq_ok_iff, patrolPart_eq_ok_iff, hknown]
  constructor
  · rintro ⟨_, ⟨stages, ⟨hcomplete, hstages⟩, part, ⟨hfits, rfl⟩, hl⟩, rfl⟩
    cases hl
    refine ⟨hcomplete, ?_, (hbuilt stages hstages)⟩
    rw [PatrolFits, ← hfits, hstages]
    exact (ranIn_ne_nil_iff g "patrol").symm
  · rintro ⟨hcomplete, hfits, rfl⟩
    refine ⟨_, ⟨_, ⟨hcomplete, rfl⟩, _, ⟨?_, rfl⟩, rfl⟩, hbuilt _ rfl⟩
    rw [PatrolFits, ← ranIn_ne_nil_iff] at hfits
    exact hfits

end PlanGraph

/-! ### Configurations with one document -/

/-- The document does not depend on the order in which the database gave the steps. -/
theorem document_of_perm {g g' : PlanGraph} (hplan : g'.plan = g.plan)
    (hmetadata : g'.scriptMetadata = g.scriptMetadata) (hsteps : g.steps.Perm g'.steps) :
    canonicalConfirmationDocument g = canonicalConfirmationDocument g' := by
  have hsorted : sortBy stepSortKey g.steps = sortBy stepSortKey g'.steps :=
    sortBy_eq_of_perm hsteps fun a ha b hb hkey => by
      have hid : a.id = b.id := by
        simp only [stepSortKey, EmbeddingLike.apply_eq_iff_eq, Prod.mk.injEq] at hkey
        exact hkey.2.2.2
      exact List.inj_on_of_nodup_map g.ids ha hb hid
  have hreferenced : referenced g.steps = referenced g'.steps :=
    sortBy_eq_of_perm (hsteps.map _).dedup fun a _ b _ hkey => toLex.injective hkey
  rw [canonicalConfirmationDocument, canonicalConfirmationDocument, hplan, hmetadata, hsorted,
    hreferenced]

/-- **What a fingerprint does not see**: the order in which the database gave the steps. -/
theorem fingerprint_of_perm (digest : ByteArray → String) {g g' : PlanGraph}
    (hplan : g'.plan = g.plan) (hmetadata : g'.scriptMetadata = g.scriptMetadata)
    (hsteps : g.steps.Perm g'.steps) :
    confirmationFingerprint digest g = confirmationFingerprint digest g' := by
  rw [confirmationFingerprint, confirmationFingerprint, confirmationMessage, confirmationMessage,
    document_of_perm hplan hmetadata hsteps]

/-- Equal messages carry documents with one normal form. -/
theorem document_of_message {g g' : PlanGraph}
    (h : confirmationMessage g = confirmationMessage g') :
    (canonicalConfirmationDocument g).norm = (canonicalConfirmationDocument g').norm := by
  have hbytes := String.toByteArray_inj.mp h
  exact Json.dumps_eq_dumps_iff.mp ((String.append_right_inj _).mp hbytes)

/-- What the lifecycle takes from the plan. -/
structure SameSettings (p q : Plan) : Prop where
  interval : p.patrolIntervalSeconds = q.patrolIntervalSeconds
  timeout : p.timeoutSeconds = q.timeoutSeconds
  barrierTimeout : p.barrierTimeoutSeconds = q.barrierTimeoutSeconds
  barrierMaxWait : p.barrierMaxWaitSeconds = q.barrierMaxWaitSeconds

/-- What two configurations with one document share. -/
structure SameDocument (g g' : PlanGraph) : Prop where
  settings : SameSettings g.plan g'.plan
  views : g.views.Perm g'.views
  defaults : ∀ v ∈ g.views,
    effective g.scriptMetadata v.script = effective g'.scriptMetadata v.script

/-- The document of a plan determines its settings. -/
theorem sameSettings_of_planDoc {p q : Plan} (h : (planDoc p).norm = (planDoc q).norm) :
    SameSettings p q := by
  have hfield : ∀ k x y, (planDoc p).field k = some (intColumn x) →
      (planDoc q).field k = some (intColumn y) → x = y := by
    intro k x y hx hy
    have := Json.field_congr h k
    rw [hx, hy] at this
    exact intColumn_injective (Option.some.inj this)
  exact ⟨hfield "patrol_interval_seconds" _ _ rfl rfl, hfield "timeout_seconds" _ _ rfl rfl,
    hfield "barrier_timeout_seconds" _ _ rfl rfl, hfield "barrier_max_wait_seconds" _ _ rfl rfl⟩

/-- **A document determines everything the lifecycle is built from**, except the order of the
steps and which scripts are known. -/
theorem sameDocument_of_norm {g g' : PlanGraph}
    (h : (canonicalConfirmationDocument g).norm = (canonicalConfirmationDocument g').norm) :
    SameDocument g g' := by
  have hfield : ∀ k v w, (canonicalConfirmationDocument g).field k = some v →
      (canonicalConfirmationDocument g').field k = some w → v.norm = w.norm := by
    intro k v w hv hw
    have := Json.field_congr h k
    rw [hv, hw] at this
    exact Option.some.inj this
  have hplan := hfield "plan" _ _ rfl rfl
  have hsteps := hfield "steps" _ _ rfl rfl
  have hscripts := hfield "scripts" _ _ rfl rfl
  simp only [Json.norm, Json.normList_eq_map, Json.list.injEq, List.map_map] at hsteps hscripts
  have hviews : (sortBy stepSortKey g.steps).map PlanStep.view =
      (sortBy stepSortKey g'.steps).map PlanStep.view :=
    map_eq_map_of_imp hsteps fun _ _ _ _ hdoc => view_of_stepDoc hdoc
  have hperm : g.views.Perm g'.views := by
    have hleft := (sortBy_perm stepSortKey g.steps).map PlanStep.view
    rw [hviews] at hleft
    exact hleft.symm.trans ((sortBy_perm stepSortKey g'.steps).map PlanStep.view)
  have heffective : (referenced g.steps).map (fun s => (s, effective g.scriptMetadata s)) =
      (referenced g'.steps).map fun s => (s, effective g'.scriptMetadata s) :=
    map_eq_map_of_imp hscripts fun _ _ _ _ hdoc => effective_of_scriptDoc hdoc
  refine ⟨sameSettings_of_planDoc hplan, hperm, fun v hv => ?_⟩
  obtain ⟨step, hstep, rfl⟩ := List.mem_map.mp hv
  have hmem : step.script ∈ referenced g.steps :=
    mem_sortBy.mpr (List.mem_dedup.mpr (List.mem_map_of_mem hstep))
  have hpair := List.mem_map_of_mem (f := fun s => (s, effective g.scriptMetadata s)) hmem
  rw [heffective] at hpair
  obtain ⟨s, -, hs⟩ := List.mem_map.mp hpair
  obtain ⟨rfl, hdefaults⟩ := Prod.mk.inj hs
  exact hdefaults.symm

/-! ### The order of tied steps -/

namespace PlanGraph

/-- The views of the steps that run at one place of a stage. -/
def tiedViews (g : PlanGraph) (place : String ×ₗ ℤ) : List StepView :=
  classOf StepView.lifecycleKey place (g.views.filter StepView.enabled)

/-- The names of these steps. -/
theorem map_tiedViews (g : PlanGraph) (place : String ×ₗ ℤ) :
    (g.tiedViews place).map StepView.stepKey = g.tied place := by
  rw [tiedViews, views, classOf, List.filter_map, List.filter_map, List.map_map]
  rfl

/-- The steps of a configuration have distinct names. -/
theorem view_inj {g g' : PlanGraph} (h : g.views.Perm g'.views) {v w : StepView}
    (hv : v ∈ g.views) (hw : w ∈ g'.views) (hkey : v.stepKey = w.stepKey) : v = w := by
  have hnodup : (g.views.map StepView.stepKey).Nodup := by
    rw [views, List.map_map]
    exact g.stepKeys
  exact List.inj_on_of_nodup_map hnodup hv (h.mem_iff.mpr hw) hkey

/-- Lists of steps with the same names are the same. -/
theorem views_eq_of_names {g g' : PlanGraph} (h : g.views.Perm g'.views) {l l' : List StepView}
    (hl : ∀ v ∈ l, v ∈ g.views) (hl' : ∀ w ∈ l', w ∈ g'.views)
    (hnames : l.map StepView.stepKey = l'.map StepView.stepKey) : l = l' := by
  have hid : l.map id = l'.map id :=
    map_eq_map_of_imp hnames fun v hv w hw hkey => view_inj h (hl v hv) (hl' w hw) hkey
  rwa [List.map_id, List.map_id] at hid

/-- The steps of a stage are steps of the configuration. -/
theorem mem_views_of_stageViews {g : PlanGraph} {stage : String} {v : StepView}
    (h : v ∈ g.stageViews stage) : v ∈ g.views :=
  mem_sortBy.mp (List.mem_of_mem_filter h)

/-- What an agent runs in a stage depends on which steps run there and in which order. -/
theorem stageDefs_eq_iff {g g' : PlanGraph} (h : SameDocument g g') (stage : String) :
    g.stageDefs stage = g'.stageDefs stage ↔ g.stageViews stage = g'.stageViews stage := by
  constructor
  · intro hdefs
    refine views_eq_of_names h.views (fun _ => mem_views_of_stageViews)
      (fun _ => mem_views_of_stageViews) ?_
    have hnames := congrArg (List.map StepDef.stepId) hdefs
    rw [stageDefs, stageDefs, List.map_map, List.map_map] at hnames
    exact hnames
  · intro hviews
    rw [stageDefs, stageDefs, ← hviews]
    refine List.map_congr_left fun v hv => ?_
    rw [h.defaults v (mem_views_of_stageViews hv)]

/-- The steps at a place of a stage are those of the stage, or none when there is no such
stage. -/
theorem classOf_stageViews (g : PlanGraph) (place : String ×ₗ ℤ) :
    classOf StepView.lifecycleKey place (g.stageViews (ofLex place).1) = g.tiedViews place := by
  rw [stageViews, filter_sortBy, classOf_sortBy, tiedViews, classOf, classOf, List.filter_filter,
    List.filter_filter]
  refine List.filter_congr fun v _ => ?_
  by_cases hplace : v.lifecycleKey = place
  · subst hplace
    simp [StepView.runsIn, StepView.lifecycleKey]
  · simp [hplace]

/-- There are three stages. -/
theorem tiedViews_eq_nil {g : PlanGraph} {place : String ×ₗ ℤ}
    (h : (ofLex place).1 ∉ ["init", "patrol", "teardown"]) : g.tiedViews place = [] := by
  refine List.filter_eq_nil_iff.mpr fun v hv hplace => h ?_
  obtain ⟨step, hstep, rfl⟩ := List.mem_map.mp (List.mem_of_mem_filter hv)
  rw [← of_decide_eq_true hplace]
  exact g.stages step hstep

/-- **The stages run the same steps in the same order when tied steps come in the same
order**, and only then. -/
theorem stageViews_eq_iff (g g' : PlanGraph) :
    (∀ stage ∈ ["init", "patrol", "teardown"], g.stageViews stage = g'.stageViews stage) ↔
      ∀ place, g.tiedViews place = g'.tiedViews place := by
  constructor
  · intro h place
    by_cases hstage : (ofLex place).1 ∈ ["init", "patrol", "teardown"]
    · rw [← classOf_stageViews, ← classOf_stageViews, h _ hstage]
    · rw [tiedViews_eq_nil hstage, tiedViews_eq_nil hstage]
  · intro h stage _
    have hsorted := sortBy_eq_sortBy_iff.mpr h
    have hsplit : ∀ q : PlanGraph, q.stageViews stage =
        (sortBy StepView.lifecycleKey (q.views.filter StepView.enabled)).filter
          fun v => v.stage == stage := by
      intro q
      rw [stageViews, ← filter_sortBy, List.filter_filter]
      exact List.filter_congr fun v _ => Bool.and_comm _ _
    rw [hsplit, hsplit, hsorted]

/-- Tied steps are the same when their names are. -/
theorem tiedViews_eq_iff {g g' : PlanGraph} (h : g.views.Perm g'.views) (place : String ×ₗ ℤ) :
    g.tiedViews place = g'.tiedViews place ↔ g.tied place = g'.tied place := by
  rw [← map_tiedViews, ← map_tiedViews]
  constructor
  · exact congrArg _
  · refine views_eq_of_names h ?_ ?_
    · exact fun v hv => List.mem_of_mem_filter (List.mem_of_mem_filter hv)
    · exact fun v hv => List.mem_of_mem_filter (List.mem_of_mem_filter hv)

/-- Without an interval that fits, nothing runs in the patrol stage. -/
theorem stageViews_patrol_eq_nil {g : PlanGraph} (hfits : g.PatrolFits)
    (h : g.plan.patrolIntervalSeconds = none) : g.stageViews "patrol" = [] := by
  rw [PatrolFits, h] at hfits
  refine List.filter_eq_nil_iff.mpr fun v hv hruns => ?_
  obtain ⟨step, hstep, rfl⟩ := List.mem_map.mp (mem_sortBy.mp hv)
  rw [StepView.runsIn, Bool.and_eq_true, beq_iff_eq] at hruns
  exact absurd (hfits.mp ⟨step, hstep, hruns⟩) (by decide)

/-- Whether the patrol interval fits is determined by the document. -/
theorem patrolFits_iff {g g' : PlanGraph} (h : SameDocument g g') :
    g.PatrolFits ↔ g'.PatrolFits := by
  have hsome : ∀ q : PlanGraph, (∃ step ∈ q.steps, step.enabled = true ∧ step.stage = "patrol") ↔
      ∃ v ∈ q.views, v.enabled = true ∧ v.stage = "patrol" := by
    intro q
    simp [views, PlanStep.view]
  rw [PatrolFits, PatrolFits, hsome, hsome, h.settings.interval]
  simp only [h.views.mem_iff]

/-- **Configurations with one document build the same lifecycle when tied steps come in the
same order**, and only then. -/
theorem built_eq_iff {g g' : PlanGraph} (h : SameDocument g g') (hfits : g.PatrolFits) :
    g.built = g'.built ↔ ∀ place, g.tied place = g'.tied place := by
  have hfits' := (patrolFits_iff h).mp hfits
  calc g.built = g'.built
      ↔ ∀ stage ∈ ["init", "patrol", "teardown"], g.stageDefs stage = g'.stageDefs stage := by
        simp only [built, Lifecycle.mk.injEq, h.settings.interval, h.settings.timeout,
          h.settings.barrierTimeout, h.settings.barrierMaxWait, and_true, List.forall_mem_cons,
          List.not_mem_nil, false_implies, implies_true]
        cases hinterval : g'.plan.patrolIntervalSeconds with
        | none =>
            have hnil := stageViews_patrol_eq_nil hfits (h.settings.interval.trans hinterval)
            have hnil' := stageViews_patrol_eq_nil hfits' hinterval
            rw [stageDefs_eq_iff h "patrol", hnil, hnil']
            tauto
        | some interval =>
            rw [Option.map_some, Option.map_some, Option.some.injEq, Prod.mk.injEq]
            tauto
    _ ↔ ∀ stage ∈ ["init", "patrol", "teardown"], g.stageViews stage = g'.stageViews stage := by
        simp only [stageDefs_eq_iff h]
    _ ↔ ∀ place, g.tiedViews place = g'.tiedViews place := stageViews_eq_iff g g'
    _ ↔ ∀ place, g.tied place = g'.tied place := by
        simp only [tiedViews_eq_iff h.views]

/-- A configuration that cannot be built runs nothing. -/
theorem outcome_eq_none_iff {g : PlanGraph} : g.outcome = none ↔ ¬(g.Complete ∧ g.PatrolFits) := by
  constructor
  · rintro h ⟨hcomplete, hfits⟩
    rw [outcome_eq_some_iff.mpr ⟨hcomplete, hfits, rfl⟩] at h
    cases h
  · intro h
    refine Option.eq_none_iff_forall_not_mem.mpr fun l hl => h ?_
    obtain ⟨hcomplete, hfits, -⟩ := outcome_eq_some_iff.mp hl
    exact ⟨hcomplete, hfits⟩

/-- When configurations with one document run the same. -/
theorem outcome_eq_iff {g g' : PlanGraph} (h : SameDocument g g') :
    g.outcome = g'.outcome ↔ ¬g.PatrolFits ∨ (¬g.Complete ∧ ¬g'.Complete) ∨
      (g.Complete ∧ g'.Complete ∧ ∀ place, g.tied place = g'.tied place) := by
  by_cases hfits : g.PatrolFits
  · have hfits' := (patrolFits_iff h).mp hfits
    by_cases hc : g.Complete
    · by_cases hc' : g'.Complete
      · rw [outcome_eq_some_iff.mpr ⟨hc, hfits, rfl⟩, outcome_eq_some_iff.mpr ⟨hc', hfits', rfl⟩,
          Option.some.injEq, built_eq_iff h hfits]
        tauto
      · rw [outcome_eq_some_iff.mpr ⟨hc, hfits, rfl⟩,
          outcome_eq_none_iff.mpr fun hboth => hc' hboth.1]
        simp [hfits, hc, hc']
    · rw [outcome_eq_none_iff.mpr fun hboth => hc hboth.1, eq_comm, outcome_eq_none_iff]
      tauto
  · have hfits' := mt (patrolFits_iff h).mpr hfits
    rw [outcome_eq_none_iff.mpr fun hboth => hfits hboth.2,
      outcome_eq_none_iff.mpr fun hboth => hfits' hboth.2]
    tauto

end PlanGraph

/-- **A fingerprint binds what runs up to two things.** It does not depend on the order of the
steps. Configurations with one fingerprint, whose messages do not collide, run the same, or both
nothing, exactly when the patrol interval does not fit, or both lack a script, or neither does
and the steps that share stage and place came in the same order. -/
theorem fingerprint_binds_iff (digest : ByteArray → String) :
    (∀ g g' : PlanGraph, g'.plan = g.plan → g'.scriptMetadata = g.scriptMetadata →
      g.steps.Perm g'.steps →
      confirmationFingerprint digest g = confirmationFingerprint digest g') ∧
    ∀ g g' : PlanGraph,
      (digest (confirmationMessage g) = digest (confirmationMessage g') →
        confirmationMessage g = confirmationMessage g') →
      confirmationFingerprint digest g = confirmationFingerprint digest g' →
      (g.outcome = g'.outcome ↔ ¬g.PatrolFits ∨ (¬g.Complete ∧ ¬g'.Complete) ∨
        (g.Complete ∧ g'.Complete ∧ ∀ place, g.tied place = g'.tied place)) := by
  refine ⟨fun _ _ => fingerprint_of_perm digest, fun g g' hcollision h => ?_⟩
  have hdigest := (String.append_right_inj _).mp h
  exact PlanGraph.outcome_eq_iff (sameDocument_of_norm (document_of_message (hcollision hdigest)))

/-! ### Two steps at one place -/

namespace TiedSteps

/-- A plan without a patrol. -/
def plan : Plan where
  id := 1
  name := "smoke"
  description := none
  patrolIntervalSeconds := none
  timeoutSeconds := none
  barrierTimeoutSeconds := none
  barrierMaxWaitSeconds := none
  autoArchiveIntervalSeconds := none
  watcherPolicy := .null
  nextPlanId := none
  projectId := none
  specialtyId := none
  suiteId := none
  createdBy := none
  updatedAt := 0

/-- A step at the default place of the first stage. -/
def step (id : ℤ) (stepKey : String) : PlanStep where
  id := id
  planId := 1
  stepKey := stepKey
  scriptName := "prepare"
  scriptVersion := "1.0.0"
  stage := "init"
  sortOrder := 0
  timeoutSeconds := none
  stallSeconds := none
  params := none
  retry := 0
  enabled := true
  createdAt := 0

/-- The plan as the preview read it. -/
def previewed : PlanGraph where
  plan := plan
  steps := [step 1 "flash", step 2 "wipe"]
  scriptMetadata := fun _ => some ⟨Dict.empty, Dict.empty⟩
  ids := by decide
  stepKeys := by decide
  stages := by decide

/-- The plan as preparing read it. -/
def prepared : PlanGraph where
  plan := plan
  steps := [step 2 "wipe", step 1 "flash"]
  scriptMetadata := fun _ => some ⟨Dict.empty, Dict.empty⟩
  ids := by decide
  stepKeys := by decide
  stages := by decide

/-- The same steps, in another order. -/
theorem steps_perm : previewed.steps.Perm prepared.steps := List.Perm.swap ..

/-- **Two tied steps are confirmed in one order and run in the other**: the fingerprints are the
same under every digest, and what runs is not. -/
theorem runs_unconfirmed_order :
    (∀ digest, confirmationFingerprint digest previewed =
      confirmationFingerprint digest prepared) ∧ previewed.outcome ≠ prepared.outcome := by
  refine ⟨fun digest => fingerprint_of_perm digest rfl rfl steps_perm, fun h => ?_⟩
  have hdoc : SameDocument previewed prepared :=
    sameDocument_of_norm (congrArg Json.norm (document_of_perm rfl rfl steps_perm))
  have hfits : previewed.PatrolFits := by decide
  have hcomplete : previewed.Complete := by decide
  rcases (PlanGraph.outcome_eq_iff hdoc).mp h with hno | ⟨hno, -⟩ | ⟨-, -, htied⟩
  · exact hno hfits
  · exact hno hcomplete
  · exact absurd (htied (toLex ("init", 0))) (by decide)

/-- A digest of the right length. -/
def digest : ByteArray → String := fun _ =>
  "4f6d1c02b39a5e7788c1d0e2f3a4b5c6d7e8f90112233445566778899aabbccd"

/-- The two readings run differently, although their messages do not collide. -/
theorem prepared_runs_other : ¬(previewed.outcome = prepared.outcome) := by
  have hdoc : canonicalConfirmationDocument previewed = canonicalConfirmationDocument prepared :=
    document_of_perm rfl rfl steps_perm
  have hmessage : confirmationMessage previewed = confirmationMessage prepared := by
    rw [confirmationMessage, confirmationMessage, hdoc]
  have hbinds := (fingerprint_binds_iff digest).2 previewed prepared (fun _ => hmessage)
    ((fingerprint_binds_iff digest).1 previewed prepared rfl rfl steps_perm)
  intro h
  rcases hbinds.mp h with hno | ⟨hno, -⟩ | ⟨-, -, htied⟩
  · exact hno (by decide)
  · exact hno (by decide)
  · exact absurd (htied (toLex ("init", 0))) (by decide)

end TiedSteps

end StabilityPlatform
