import StabilityPlatform.PlanRun.PlanSnapshot

/-!
# Wi-Fi credentials in a lifecycle

A device gets the credentials of its pool into the steps that need them. Where a step says
something itself, it keeps that, field by field. Which steps need credentials is decided by the
script of a step before a plan is dispatched, and by the action of a step afterwards.

## Main results

* `injectWifiParams`: putting the credentials in.
* `wifi_injection`: **what each step has then**, that doing it twice is doing it once, and how
  the two ways to find the steps compare.
* `WifiExample.mixed_credentials`: a step that has its own network and the password of the pool.
-/

namespace StabilityPlatform

open Lib

/-! ### The plan -/

/-- `_WIFI_CONSUMER_SCRIPT_NAMES`. -/
def wifiConsumerScriptNames : List String := ["connect_wifi", "monkey_setup"]

/-- `plan_steps_consumes_wifi`. -/
def planStepsConsumesWifi (steps : List PlanStep) : Bool :=
  steps.any fun step => step.enabled && wifiConsumerScriptNames.contains step.scriptName

/-- `plan_steps_has_connect_wifi`. -/
def planStepsHasConnectWifi (steps : List PlanStep) : Bool :=
  steps.any fun step => step.enabled && step.scriptName == "connect_wifi"

/-! ### The steps of a pipeline -/

/-- `dict(v or {})`, for what is a mapping or false. -/
def dictOr (v : PyVal) : Except PyError PyDict :=
  if v.truthy then
    match v.asDict? with
    | some d => .ok d
    | none => .error .typeError
  else .ok []

/-- Do something with the steps of a phase, if it has a list of them. -/
def mapPhase (f : PyVal → Except PyError PyVal) (lifecycle : PyDict) (phase : String) :
    Except PyError PyDict :=
  match lifecycle.get phase with
  | .list steps => (steps.mapM f).map fun steps' => lifecycle.set phase (.list steps')
  | _ => .ok lifecycle

/-- Do something with the steps of the patrol. -/
def mapPatrol (f : PyVal → Except PyError PyVal) (lifecycle : PyDict) : Except PyError PyDict :=
  match lifecycle.get "patrol" with
  | .dict patrol => (mapPhase f patrol "steps").map fun patrol' =>
      lifecycle.set "patrol" (.dict patrol')
  | _ => .ok lifecycle

/-- Do something with each step of a lifecycle. -/
def mapLifecycle (f : PyVal → Except PyError PyVal) (lifecycle : PyDict) :
    Except PyError PyDict := do
  let lifecycle ← mapPhase f lifecycle "init"
  let lifecycle ← mapPhase f lifecycle "teardown"
  mapPatrol f lifecycle

/-- Do something with each step `iter_lifecycle_steps` gives. -/
def mapPipeline (f : PyVal → Except PyError PyVal) (pipeline : PyVal) : Except PyError PyVal := do
  let p ← dictOr pipeline
  match p.lookup "lifecycle" with
  | none => return pipeline
  | some (.dict lifecycle) =>
    let lifecycle ← mapLifecycle f lifecycle
    return .dict (p.set "lifecycle" (.dict lifecycle))
  | some _ => .error .attributeError

/-- The steps of a pipeline. -/
def pipelineSteps (pipeline : PyVal) : List PyVal :=
  iterLifecycleSteps ((contextOf pipeline).get "lifecycle")

/-! ### Injection -/

/-- `name in action`. -/
def inAction (name : String) : PyVal → Except PyError Bool
  | .str action => .ok (pyIn name action)
  | .list xs => .ok (xs.any (PyVal.pyEq (.str name)))
  | .dict items => .ok (PyDict.contains items name)
  | _ => .error .typeError

/-- Where a script looks for its credentials. -/
inductive WifiShape where
  /-- At the top of its parameters, as `connect_wifi` does. -/
  | top
  /-- Under `wifi`, as `monkey_setup` does. -/
  | nested
  deriving DecidableEq, Repr

/-- Whether and where a step gets credentials. -/
def wifiShape (step : PyDict) : Except PyError (Option WifiShape) := do
  let action := (step.lookup "action").getD (.str "")
  if ← inAction "connect_wifi" action then return some .top
  else if ← inAction "monkey_setup" action then return some .nested
  else return none

/-- What is not set is taken from the pool. -/
def fillCredentials (ssid password : PyVal) (params : PyDict) : PyDict :=
  let params := if (params.get "ssid").truthy then params else params.set "ssid" ssid
  if (params.get "password").truthy then params else params.set "password" password

/-- Put credentials into the mapping of one step. -/
def injectDict (ssid password : PyVal) (step : PyDict) : Except PyError PyDict := do
  match ← wifiShape step with
  | none => return step
  | some .top =>
    let params ← dictOr (step.get "params")
    return step.set "params" (.dict (fillCredentials ssid password params))
  | some .nested =>
    let params ← dictOr (step.get "params")
    let wifiCfg ← dictOr (params.get "wifi")
    return step.set "params" (.dict (params.set "wifi"
      (.dict (fillCredentials ssid password wifiCfg))))

/-- Put credentials into one step. -/
def injectStep (ssid password : PyVal) : PyVal → Except PyError PyVal
  | .dict step => (injectDict ssid password step).map .dict
  | _ => .error .attributeError

/-- `inject_wifi_params`. -/
def injectWifiParams (pipeline : PyVal) (wifiParams : PyDict) : Except PyError PyVal :=
  if !(wifiParams.get "ssid").truthy then .ok pipeline
  else mapPipeline (injectStep (wifiParams.get "ssid")
    ((wifiParams.lookup "password").getD (.str ""))) pipeline

/-! ### Dictionaries -/

/-- Writing twice is writing the second. -/
theorem PyDict.set_set (d : PyDict) (k : String) (v w : PyVal) :
    (d.set k v).set k w = d.set k w := by
  induction d with
  | nil => simp [PyDict.set]
  | cons p rest ih =>
      by_cases h : p.1 = k
      · simp [PyDict.set, h]
      · simp [PyDict.set, h, ih]

/-- An item that is there is looked up. -/
theorem PyDict.lookup_set_self (d : PyDict) (k : String) (v : PyVal) :
    (d.set k v).lookup k = some v := by
  induction d with
  | nil => simp [PyDict.set]
  | cons p rest ih =>
      by_cases h : p.1 = k
      · simp [PyDict.set, h]
      · have hne : (k == p.1) = false := by simpa using Ne.symm h
        simpa [PyDict.set, h, List.lookup, hne] using ih

/-- The other items are looked up as before. -/
theorem PyDict.lookup_set_of_ne (d : PyDict) {k k' : String} (v : PyVal) (h : k' ≠ k) :
    (d.set k v).lookup k' = d.lookup k' := by
  have hkk : (k' == k) = false := by simpa using h
  induction d with
  | nil => simp [PyDict.set, List.lookup, hkk]
  | cons p rest ih =>
      by_cases hp : p.1 = k
      · simp [PyDict.set, hp, List.lookup, hkk]
      · rw [PyDict.set, if_neg hp, List.lookup_cons, List.lookup_cons, ih]

/-- A mapping is a mapping. -/
@[simp] theorem dictOr_dict (d : PyDict) : dictOr (.dict d) = .ok d := by
  cases d with
  | nil => rfl
  | cons p rest => rfl

/-- Whether the password is filled in is decided by the parameters as they were. -/
theorem fillCredentials_eq (ssid password : PyVal) (params : PyDict) :
    fillCredentials ssid password params =
      (if (params.get "password").truthy then
        (if (params.get "ssid").truthy then params else params.set "ssid" ssid)
      else
        (if (params.get "ssid").truthy then params else params.set "ssid" ssid).set "password"
          password) := by
  rw [fillCredentials]
  by_cases hssid : (params.get "ssid").truthy = true
  · rw [if_pos hssid]
  · rw [if_neg hssid, PyDict.get_set_of_ne params ssid (by decide)]

/-- What is set is kept, the rest comes from the pool. -/
theorem get_fillCredentials (ssid password : PyVal) (params : PyDict) :
    ((fillCredentials ssid password params).get "ssid" = (params.get "ssid").orElse ssid ∧
      (fillCredentials ssid password params).get "password" =
        (params.get "password").orElse password) ∧
      ∀ k, k ≠ "ssid" → k ≠ "password" →
        (fillCredentials ssid password params).get k = params.get k := by
  rw [fillCredentials_eq, PyVal.orElse, PyVal.orElse]
  by_cases hssid : (params.get "ssid").truthy = true
  · by_cases hpassword : (params.get "password").truthy = true
    · simp only [if_pos hssid, if_pos hpassword]
      exact ⟨⟨trivial, trivial⟩, fun _ _ _ => trivial⟩
    · simp only [if_pos hssid, if_neg hpassword]
      refine ⟨⟨PyDict.get_set_of_ne _ _ (by decide), PyDict.get_set_self _ _ _⟩, ?_⟩
      exact fun k _ hk => PyDict.get_set_of_ne _ _ hk
  · by_cases hpassword : (params.get "password").truthy = true
    · simp only [if_neg hssid, if_pos hpassword]
      refine ⟨⟨PyDict.get_set_self _ _ _, PyDict.get_set_of_ne _ _ (by decide)⟩, ?_⟩
      exact fun k hk _ => PyDict.get_set_of_ne _ _ hk
    · simp only [if_neg hssid, if_neg hpassword]
      refine ⟨⟨?_, PyDict.get_set_self _ _ _⟩, fun k hk hk' => ?_⟩
      · rw [PyDict.get_set_of_ne _ _ (by decide), PyDict.get_set_self]
      · rw [PyDict.get_set_of_ne _ _ hk', PyDict.get_set_of_ne _ _ hk]

/-- A choice is true when one of the two is. -/
theorem truthy_orElse (v w : PyVal) : (v.orElse w).truthy = (v.truthy || w.truthy) := by
  rw [PyVal.orElse]
  cases h : v.truthy with
  | true => rw [if_pos rfl, h, Bool.true_or]
  | false => rw [if_neg Bool.false_ne_true, Bool.false_or]

/-- **Filling twice** is filling once. -/
theorem fillCredentials_idem {ssid : PyVal} (hssid : ssid.truthy = true) (password : PyVal)
    (params : PyDict) :
    fillCredentials ssid password (fillCredentials ssid password params) =
      fillCredentials ssid password params := by
  obtain ⟨⟨hs, hp⟩, -⟩ := get_fillCredentials ssid password params
  rw [fillCredentials, hs, truthy_orElse, hssid, Bool.or_true, if_pos rfl, hp, truthy_orElse]
  cases hown : (params.get "password").truthy with
  | true => rfl
  | false =>
      cases hpool : password.truthy with
      | true => rfl
      | false =>
          rw [fillCredentials_eq, hown, if_neg Bool.false_ne_true, if_neg (by decide)]
          exact PyDict.set_set _ _ _ _

/-! ### One step -/

/-- The credentials of a step. -/
def credentialsOf (shape : WifiShape) (step : PyDict) : PyDict :=
  match shape with
  | .top => contextOf (step.get "params")
  | .nested => contextOf ((contextOf (step.get "params")).get "wifi")

/-- A step with the credentials put in: the fields it set are kept, the others are those of the
pool, and nothing else is different. -/
structure Filled (ssid password : PyVal) (shape : WifiShape) (step step' : PyDict) : Prop where
  ssid : (credentialsOf shape step').get "ssid" = ((credentialsOf shape step).get "ssid").orElse ssid
  password : (credentialsOf shape step').get "password" =
    ((credentialsOf shape step).get "password").orElse password
  beside : ∀ k, k ≠ "ssid" → k ≠ "password" →
    (credentialsOf shape step').get k = (credentialsOf shape step).get k
  params : shape = .nested → ∀ k, k ≠ "wifi" →
    (contextOf (step'.get "params")).get k = (contextOf (step.get "params")).get k
  step : ∀ k, k ≠ "params" → step'.get k = step.get k

/-- What injection makes of a step. -/
def StepInjected (ssid password : PyVal) (step step' : PyVal) : Prop :=
  ∃ d d' shape, step = .dict d ∧ step' = .dict d' ∧ wifiShape d = .ok shape ∧
    match shape with
    | none => d' = d
    | some shape => Filled ssid password shape d d'

/-- What is read as a mapping. -/
theorem contextOf_of_dictOr {v : PyVal} {d : PyDict} (h : dictOr v = .ok d) : contextOf v = d := by
  rw [dictOr] at h
  cases v with
  | dict items =>
      cases items with
      | nil =>
          cases h
          rfl
      | cons p rest =>
          cases h
          rfl
  | _ =>
      split_ifs at h
      · cases h
      · cases h
        rfl

/-- The shape depends on the action only. -/
theorem wifiShape_set (step : PyDict) (v : PyVal) :
    wifiShape (step.set "params" v) = wifiShape step := by
  rw [wifiShape, wifiShape, PyDict.lookup_set_of_ne _ _ (by decide)]

/-- **One step.** -/
theorem injectDict_spec {ssid password : PyVal} {d d' : PyDict}
    (h : injectDict ssid password d = .ok d') :
    StepInjected ssid password (.dict d) (.dict d') := by
  rw [injectDict] at h
  obtain ⟨shape, hshape, h⟩ := Except.bind_eq_ok_iff.mp h
  refine ⟨d, d', shape, rfl, rfl, hshape, ?_⟩
  cases shape with
  | none =>
      cases h
      rfl
  | some shape =>
      cases shape with
      | top =>
          obtain ⟨params, hparams, h⟩ := Except.bind_eq_ok_iff.mp h
          cases h
          obtain ⟨⟨hs, hp⟩, hbeside⟩ := get_fillCredentials ssid password params
          have hbefore : credentialsOf .top d = params := contextOf_of_dictOr hparams
          have hafter : credentialsOf .top (d.set "params"
              (.dict (fillCredentials ssid password params))) =
                fillCredentials ssid password params := by
            rw [credentialsOf, PyDict.get_set_self]
            rfl
          refine ⟨?_, ?_, ?_, fun h => (by cases h), fun k hk => PyDict.get_set_of_ne _ _ hk⟩
          · rw [hafter, hbefore, hs]
          · rw [hafter, hbefore, hp]
          · rw [hafter, hbefore]
            exact hbeside
      | nested =>
          obtain ⟨params, hparams, h⟩ := Except.bind_eq_ok_iff.mp h
          obtain ⟨wifi, hwifi, h⟩ := Except.bind_eq_ok_iff.mp h
          cases h
          obtain ⟨⟨hs, hp⟩, hbeside⟩ := get_fillCredentials ssid password wifi
          have hbefore : credentialsOf .nested d = wifi := by
            rw [credentialsOf, contextOf_of_dictOr hparams, contextOf_of_dictOr hwifi]
          have hinner : contextOf (PyDict.get (d.set "params" (.dict (params.set "wifi"
              (.dict (fillCredentials ssid password wifi))))) "params") =
                params.set "wifi" (.dict (fillCredentials ssid password wifi)) := by
            rw [PyDict.get_set_self]
            rfl
          have hafter : credentialsOf .nested (d.set "params" (.dict (params.set "wifi"
              (.dict (fillCredentials ssid password wifi))))) =
                fillCredentials ssid password wifi := by
            rw [credentialsOf, hinner, PyDict.get_set_self]
            rfl
          refine ⟨?_, ?_, ?_, fun _ k hk => ?_, fun k hk => PyDict.get_set_of_ne _ _ hk⟩
          · rw [hafter, hbefore, hs]
          · rw [hafter, hbefore, hp]
          · rw [hafter, hbefore]
            exact hbeside
          · rw [hinner, PyDict.get_set_of_ne _ _ hk, contextOf_of_dictOr hparams]

/-- **One step, again.** -/
theorem injectDict_idem {ssid password : PyVal} (hssid : ssid.truthy = true) {d d' : PyDict}
    (h : injectDict ssid password d = .ok d') : injectDict ssid password d' = .ok d' := by
  rw [injectDict] at h
  obtain ⟨shape, hshape, h⟩ := Except.bind_eq_ok_iff.mp h
  cases shape with
  | none =>
      cases h
      rw [injectDict, hshape]
      rfl
  | some shape =>
      cases shape with
      | top =>
          obtain ⟨params, hparams, h⟩ := Except.bind_eq_ok_iff.mp h
          cases h
          rw [injectDict, wifiShape_set]
          refine Except.bind_eq_ok_iff.mpr ⟨_, hshape, ?_⟩
          refine Except.bind_eq_ok_iff.mpr ⟨fillCredentials ssid password params, ?_, ?_⟩
          · rw [PyDict.get_set_self, dictOr_dict]
          · rw [fillCredentials_idem hssid, PyDict.set_set]
            rfl
      | nested =>
          obtain ⟨params, hparams, h⟩ := Except.bind_eq_ok_iff.mp h
          obtain ⟨wifi, hwifi, h⟩ := Except.bind_eq_ok_iff.mp h
          cases h
          rw [injectDict, wifiShape_set]
          refine Except.bind_eq_ok_iff.mpr ⟨_, hshape, ?_⟩
          refine Except.bind_eq_ok_iff.mpr
            ⟨params.set "wifi" (.dict (fillCredentials ssid password wifi)), ?_, ?_⟩
          · rw [PyDict.get_set_self, dictOr_dict]
          · refine Except.bind_eq_ok_iff.mpr ⟨fillCredentials ssid password wifi, ?_, ?_⟩
            · rw [PyDict.get_set_self, dictOr_dict]
            · rw [fillCredentials_idem hssid, PyDict.set_set, PyDict.set_set]
              rfl

/-! ### All steps -/

/-- The members of what may be a list. -/
def membersOf (v : PyVal) : List PyVal := v.asList?.getD []

/-- The steps of a lifecycle, phase by phase. -/
theorem iterLifecycleSteps_dict (lifecycle : PyDict) :
    iterLifecycleSteps (.dict lifecycle) =
      membersOf (lifecycle.get "init") ++ membersOf (lifecycle.get "teardown") ++
        membersOf ((contextOf (lifecycle.get "patrol")).get "steps") := rfl

/-- An item that is written as it is. -/
theorem PyDict.set_of_lookup {d : PyDict} {k : String} {v : PyVal} (h : d.lookup k = some v) :
    d.set k v = d := by
  induction d with
  | nil => cases h
  | cons p rest ih =>
      obtain ⟨k', w⟩ := p
      rw [List.lookup_cons] at h
      by_cases hk : k = k'
      · subst hk
        rw [beq_self_eq_true] at h
        cases h
        rw [PyDict.set, if_pos rfl]
      · have hne : (k == k') = false := by simpa using hk
        rw [hne] at h
        rw [PyDict.set, if_neg (Ne.symm hk), ih h]

/-- What is there is looked up. -/
theorem lookup_of_get {d : PyDict} {k : String} {v : PyVal} (h : d.get k = v)
    (hnull : v ≠ .null) : d.lookup k = some v := by
  rw [PyDict.get] at h
  cases hlookup : d.lookup k with
  | none =>
      rw [hlookup] at h
      exact absurd h.symm hnull
  | some w =>
      rw [hlookup] at h
      exact congrArg some h

section Phases

variable {f : PyVal → Except PyError PyVal}

/-- **A phase**: its steps one by one, and nothing else. -/
theorem mapPhase_spec {lifecycle lifecycle' : PyDict} {phase : String}
    (h : mapPhase f lifecycle phase = .ok lifecycle') :
    List.Forall₂ (fun s s' => f s = .ok s') (membersOf (lifecycle.get phase))
        (membersOf (lifecycle'.get phase)) ∧
      ∀ k, k ≠ phase → lifecycle'.get k = lifecycle.get k := by
  rw [mapPhase.eq_def] at h
  split at h
  · rename_i steps hsteps
    cases hmap : steps.mapM f with
    | error e =>
        rw [hmap] at h
        cases h
    | ok steps' =>
        rw [hmap] at h
        cases h
        rw [hsteps, PyDict.get_set_self]
        exact ⟨mapM_eq_ok_iff.mp hmap, fun k hk => PyDict.get_set_of_ne _ _ hk⟩
  · rename_i hlist
    cases h
    refine ⟨?_, fun _ _ => rfl⟩
    have hnil : membersOf (lifecycle.get phase) = [] := by
      cases hget : lifecycle.get phase with
      | list xs => exact absurd hget (hlist xs)
      | _ => rfl
    rw [hnil]
    exact .nil

/-- A phase where nothing happens. -/
theorem mapPhase_fixed {lifecycle : PyDict} {phase : String}
    (h : ∀ s ∈ membersOf (lifecycle.get phase), f s = .ok s) :
    mapPhase f lifecycle phase = .ok lifecycle := by
  rw [mapPhase.eq_def]
  split
  · rename_i steps hsteps
    rw [hsteps] at h
    have hmap : steps.mapM f = .ok steps := by
      rw [mapM_eq_ok_iff, List.forall₂_same]
      exact h
    rw [hmap]
    have hlookup := lookup_of_get hsteps (by simp)
    exact congrArg Except.ok (PyDict.set_of_lookup hlookup)
  · rfl

/-- **The patrol**: its steps one by one, and nothing else. -/
theorem mapPatrol_spec {lifecycle lifecycle' : PyDict} (h : mapPatrol f lifecycle = .ok lifecycle') :
    List.Forall₂ (fun s s' => f s = .ok s')
        (membersOf ((contextOf (lifecycle.get "patrol")).get "steps"))
        (membersOf ((contextOf (lifecycle'.get "patrol")).get "steps")) ∧
      ∀ k, k ≠ "patrol" → lifecycle'.get k = lifecycle.get k := by
  rw [mapPatrol.eq_def] at h
  split at h
  · rename_i patrol hpatrol
    cases hmap : mapPhase f patrol "steps" with
    | error e =>
        rw [hmap] at h
        cases h
    | ok patrol' =>
        rw [hmap] at h
        cases h
        rw [hpatrol, PyDict.get_set_self]
        exact ⟨(mapPhase_spec hmap).1, fun k hk => PyDict.get_set_of_ne _ _ hk⟩
  · rename_i hdict
    cases h
    refine ⟨?_, fun _ _ => rfl⟩
    have hnil : contextOf (lifecycle.get "patrol") = [] := by
      cases hget : lifecycle.get "patrol" with
      | dict items => exact absurd hget (hdict items)
      | _ => rfl
    rw [hnil]
    exact .nil

/-- A patrol where nothing happens. -/
theorem mapPatrol_fixed {lifecycle : PyDict}
    (h : ∀ s ∈ membersOf ((contextOf (lifecycle.get "patrol")).get "steps"), f s = .ok s) :
    mapPatrol f lifecycle = .ok lifecycle := by
  rw [mapPatrol.eq_def]
  split
  · rename_i patrol hpatrol
    rw [hpatrol] at h
    have hlookup := lookup_of_get hpatrol (by simp)
    have hphase : mapPhase f patrol "steps" = .ok patrol := mapPhase_fixed h
    rw [hphase]
    exact congrArg Except.ok (PyDict.set_of_lookup hlookup)
  · rfl

/-- **A lifecycle**, step by step. -/
theorem mapLifecycle_spec {lifecycle lifecycle' : PyDict}
    (h : mapLifecycle f lifecycle = .ok lifecycle') :
    List.Forall₂ (fun s s' => f s = .ok s') (iterLifecycleSteps (.dict lifecycle))
      (iterLifecycleSteps (.dict lifecycle')) := by
  rw [mapLifecycle] at h
  obtain ⟨l₁, h₁, h⟩ := Except.bind_eq_ok_iff.mp h
  obtain ⟨l₂, h₂, h₃⟩ := Except.bind_eq_ok_iff.mp h
  obtain ⟨hinit, hrest₁⟩ := mapPhase_spec h₁
  obtain ⟨hteardown, hrest₂⟩ := mapPhase_spec h₂
  obtain ⟨hpatrol, hrest₃⟩ := mapPatrol_spec h₃
  rw [iterLifecycleSteps_dict, iterLifecycleSteps_dict]
  refine List.rel_append (List.rel_append ?_ ?_) ?_
  · rw [hrest₃ "init" (by decide), hrest₂ "init" (by decide)]
    exact hinit
  · rw [hrest₃ "teardown" (by decide), ← hrest₁ "teardown" (by decide)]
    exact hteardown
  · rw [← hrest₁ "patrol" (by decide), ← hrest₂ "patrol" (by decide)]
    exact hpatrol

/-- A lifecycle where nothing happens. -/
theorem mapLifecycle_fixed {lifecycle : PyDict}
    (h : ∀ s ∈ iterLifecycleSteps (.dict lifecycle), f s = .ok s) :
    mapLifecycle f lifecycle = .ok lifecycle := by
  rw [iterLifecycleSteps_dict] at h
  have hinit := mapPhase_fixed fun s hs =>
    h s (List.mem_append_left _ (List.mem_append_left _ hs))
  have hteardown := mapPhase_fixed fun s hs =>
    h s (List.mem_append_left _ (List.mem_append_right _ hs))
  rw [mapLifecycle, hinit]
  refine Except.bind_eq_ok_iff.mpr ⟨lifecycle, rfl, ?_⟩
  rw [hteardown]
  refine Except.bind_eq_ok_iff.mpr ⟨lifecycle, rfl, ?_⟩
  exact mapPatrol_fixed fun s hs => h s (List.mem_append_right _ hs)

/-- The steps of a mapping. -/
theorem pipelineSteps_dict (p : PyDict) :
    pipelineSteps (.dict p) = iterLifecycleSteps (p.get "lifecycle") := rfl

/-- **A pipeline**, step by step. -/
theorem mapPipeline_spec {pipeline pipeline' : PyVal} (h : mapPipeline f pipeline = .ok pipeline') :
    List.Forall₂ (fun s s' => f s = .ok s') (pipelineSteps pipeline) (pipelineSteps pipeline') := by
  rw [mapPipeline.eq_def] at h
  obtain ⟨p, hp, h⟩ := Except.bind_eq_ok_iff.mp h
  have hcontext := contextOf_of_dictOr hp
  cases hlookup : p.lookup "lifecycle" with
  | none =>
      rw [hlookup] at h
      cases h
      have hnil : pipelineSteps pipeline = [] := by
        rw [pipelineSteps, hcontext, PyDict.get, hlookup]
        rfl
      rw [hnil]
      exact .nil
  | some v =>
      rw [hlookup] at h
      cases v with
      | dict lifecycle =>
          obtain ⟨lifecycle', hmap, h⟩ := Except.bind_eq_ok_iff.mp h
          cases h
          have hget : p.get "lifecycle" = .dict lifecycle := by
            rw [PyDict.get, hlookup]
            rfl
          rw [pipelineSteps_dict, PyDict.get_set_self, pipelineSteps, hcontext, hget]
          exact mapLifecycle_spec hmap
      | _ => cases h

/-- **Doing it again**: where every step stays as it became, so does the pipeline. -/
theorem mapPipeline_idem (hf : ∀ s s', f s = .ok s' → f s' = .ok s') {pipeline pipeline' : PyVal}
    (h : mapPipeline f pipeline = .ok pipeline') : mapPipeline f pipeline' = .ok pipeline' := by
  have hfixed : ∀ s ∈ pipelineSteps pipeline', f s = .ok s := by
    intro s hs
    obtain ⟨s₀, -, hs₀⟩ := exists_of_forall₂ (mapPipeline_spec h) hs
    exact hf s₀ s hs₀
  rw [mapPipeline.eq_def] at h
  obtain ⟨p, hp, h⟩ := Except.bind_eq_ok_iff.mp h
  cases hlookup : p.lookup "lifecycle" with
  | none =>
      rw [hlookup] at h
      cases h
      rw [mapPipeline.eq_def]
      refine Except.bind_eq_ok_iff.mpr ⟨p, hp, ?_⟩
      rw [hlookup]
      rfl
  | some v =>
      rw [hlookup] at h
      cases v with
      | dict lifecycle =>
          obtain ⟨lifecycle', hmap, h⟩ := Except.bind_eq_ok_iff.mp h
          cases h
          rw [pipelineSteps_dict, PyDict.get_set_self] at hfixed
          rw [mapPipeline.eq_def]
          refine Except.bind_eq_ok_iff.mpr ⟨_, dictOr_dict _, ?_⟩
          rw [PyDict.lookup_set_self]
          refine Except.bind_eq_ok_iff.mpr ⟨lifecycle', mapLifecycle_fixed hfixed, ?_⟩
          rw [PyDict.set_set]
          rfl
      | _ => cases h

end Phases

/-! ### The steps of a plan -/

/-- `lifecycle_consumes_wifi`, for one step. -/
def actionConsumesWifi (step : PyVal) : Bool :=
  pyIn "connect_wifi" (stepAction step) || pyIn "monkey_setup" (stepAction step)

/-- `plan_steps_consumes_wifi`, for one step. -/
def PlanStep.consumesWifi (step : PlanStep) : Bool :=
  wifiConsumerScriptNames.contains step.scriptName

/-- No enabled step runs a script that merely has one of the names in its own. -/
def ExactNames (steps : List PlanStep) : Prop :=
  ∀ step ∈ steps, step.enabled = true →
    (pyIn "connect_wifi" step.scriptName = true → step.scriptName = "connect_wifi") ∧
      (pyIn "monkey_setup" step.scriptName = true → step.scriptName = "monkey_setup")

/-- A name is in an action when it is in the name of the script. -/
theorem pyIn_action {name : String} (hname : name = "connect_wifi" ∨ name = "monkey_setup")
    (scriptName : String) : pyIn name ("script:" ++ scriptName) = pyIn name scriptName := by
  have hlist : ("script:" ++ scriptName).toList =
      's' :: 'c' :: 'r' :: 'i' :: 'p' :: 't' :: ':' :: scriptName.toList := by
    rw [String.toList_append]
    rfl
  rw [pyIn, pyIn, hlist]
  rcases hname with rfl | rfl
  · rfl
  · rfl

/-- Reading beside an item that may be written. -/
theorem get_setUnlessNone_of_ne (d : PyDict) {k k' : String} (v : PyVal) (h : k' ≠ k) :
    (setUnlessNone d k v).get k' = d.get k' := by
  cases v with
  | null => rfl
  | _ => exact PyDict.get_set_of_ne d _ h

/-- The action of a step that was built. -/
theorem stepAction_stepDefVal (stepDef : StepDef (Dict Json)) :
    stepAction (stepDefVal stepDef) = stepDef.action := by
  have hget : (contextOf (stepDefVal stepDef)).get "action" = .str stepDef.action := by
    show PyDict.get (applyStepTimingFields _ _ _) "action" = _
    rw [applyStepTimingFields, get_setUnlessNone_of_ne _ _ (by decide),
      get_setUnlessNone_of_ne _ _ (by decide)]
    rfl
  rw [stepAction, hget]
  rfl

/-- Reading the phases of a lifecycle that was built. -/
theorem iterLifecycleSteps_lifecycleVal (l : Lifecycle (Dict Json)) :
    iterLifecycleSteps (lifecycleVal l) = l.init.map stepDefVal ++ l.teardown.map stepDefVal ++
      ((l.patrol.map Prod.snd).getD []).map stepDefVal := by
  rw [lifecycleVal, lifecycleDict.eq_def]
  dsimp only
  rw [iterLifecycleSteps_dict]
  simp only [get_setUnlessNone_of_ne, ne_eq, String.reduceEq, not_false_eq_true]
  cases l.patrol with
  | none => rfl
  | some p => rfl

/-- The steps of all stages. -/
def StageSteps.all (stages : StageSteps) : List (StepDef (Dict Json)) :=
  stages.init ++ stages.teardown ++ stages.patrol

/-- A step that is put into its stage is one more step. -/
theorem StageSteps.mem_all_put {stages : StageSteps} {stage : String}
    (hstage : stage ∈ ["init", "patrol", "teardown"]) {stepDef s : StepDef (Dict Json)} :
    s ∈ (stages.put stage stepDef).all ↔ s ∈ stages.all ∨ s = stepDef := by
  rcases List.mem_cons.mp hstage with rfl | hstage
  · rw [StageSteps.put, if_pos rfl, StageSteps.all, StageSteps.all]
    simp only [List.mem_append, List.mem_singleton]
    tauto
  · rcases List.mem_cons.mp hstage with rfl | hstage
    · rw [StageSteps.put, if_neg (by decide), if_neg (by decide), if_pos rfl, StageSteps.all,
        StageSteps.all]
      simp only [List.mem_append, List.mem_singleton]
      tauto
    · obtain rfl := List.mem_singleton.mp hstage
      rw [StageSteps.put, if_neg (by decide), if_pos rfl, StageSteps.all, StageSteps.all]
      simp only [List.mem_append, List.mem_singleton]
      tauto

/-- **The steps that were built** are the enabled ones. -/
theorem mem_all_iff {defaults : String × String → Option (Dict Json)} {steps : List PlanStep}
    (hstages : ∀ step ∈ steps, step.stage ∈ ["init", "patrol", "teardown"])
    {stages stages' : StageSteps} (h : steps.foldlM (addStep defaults) stages = .ok stages')
    {s : StepDef (Dict Json)} :
    s ∈ stages'.all ↔ s ∈ stages.all ∨ ∃ step ∈ steps, step.enabled = true ∧
      ∃ params, defaults step.script = some params ∧ s = stepDef step params := by
  induction steps generalizing stages with
  | nil =>
      cases h
      simp
  | cons step rest ih =>
      rw [List.foldlM_cons] at h
      obtain ⟨next, hnext, hrest⟩ := Except.bind_eq_ok_iff.mp h
      rw [List.forall_mem_cons] at hstages
      rw [ih hstages.2 hrest, List.exists_mem_cons_iff]
      rcases addStep_eq_ok hnext with ⟨hoff, rfl⟩ | ⟨hon, params, hparams, rfl⟩
      · simp [hoff]
      · rw [StageSteps.mem_all_put hstages.1, or_assoc]
        simp [hon, hparams]

/-- The scripts of the enabled steps are known. -/
theorem known_of_foldlM {defaults : String × String → Option (Dict Json)} {steps : List PlanStep}
    {stages stages' : StageSteps} (h : steps.foldlM (addStep defaults) stages = .ok stages')
    {step : PlanStep} (hstep : step ∈ steps) (hon : step.enabled = true) :
    ∃ params, defaults step.script = some params := by
  induction steps generalizing stages with
  | nil => cases hstep
  | cons first rest ih =>
      rw [List.foldlM_cons] at h
      obtain ⟨next, hnext, hrest⟩ := Except.bind_eq_ok_iff.mp h
      rcases List.mem_cons.mp hstep with rfl | hstep
      · rcases addStep_eq_ok hnext with ⟨hoff, -⟩ | ⟨-, params, hparams, -⟩
        · rw [hoff] at hon
          cases hon
        · exact ⟨params, hparams⟩
      · exact ih hrest hstep

/-- **The steps of a lifecycle** are those of its plan. -/
theorem mem_iterLifecycleSteps_iff {plan : Plan} {steps : List PlanStep}
    {defaults : String × String → Option (Dict Json)} {l : Lifecycle (Dict Json)}
    (hstages : ∀ step ∈ steps, step.stage ∈ ["init", "patrol", "teardown"])
    (h : buildLifecycleFromSteps plan steps defaults = .ok l) {v : PyVal} :
    v ∈ iterLifecycleSteps (lifecycleVal l) ↔ ∃ step ∈ steps, step.enabled = true ∧
      ∃ params, defaults step.script = some params ∧ v = stepDefVal (stepDef step params) := by
  rw [buildLifecycleFromSteps] at h
  obtain ⟨stages, hfold, h⟩ := Except.bind_eq_ok_iff.mp h
  obtain ⟨part, hpart, h⟩ := Except.bind_eq_ok_iff.mp h
  cases h
  have hpatrol : (part.map Prod.snd).getD [] = stages.patrol := by
    rw [patrolPart] at hpart
    cases hsteps : stages.patrol with
    | nil =>
        rw [hsteps] at hpart
        cases hinterval : plan.patrolIntervalSeconds with
        | none =>
            rw [hinterval] at hpart
            cases hpart
            rfl
        | some z =>
            rw [hinterval] at hpart
            cases hpart
    | cons first rest =>
        rw [hsteps] at hpart
        cases hinterval : plan.patrolIntervalSeconds with
        | none =>
            rw [hinterval] at hpart
            cases hpart
        | some z =>
            rw [hinterval] at hpart
            cases hpart
            rfl
  rw [iterLifecycleSteps_lifecycleVal, hpatrol, ← List.map_append, ← List.map_append,
    List.mem_map]
  have hmem := fun s => mem_all_iff (s := s)
    (fun step hstep => hstages step (mem_sortBy.mp hstep)) hfold
  constructor
  · rintro ⟨s, hs, rfl⟩
    rcases (hmem s).mp hs with hs | ⟨step, hstep, hon, params, hparams, rfl⟩
    · cases hs
    · exact ⟨step, mem_sortBy.mp hstep, hon, params, hparams, rfl⟩
  · rintro ⟨step, hstep, hon, params, hparams, rfl⟩
    exact ⟨_, (hmem _).mpr (.inr ⟨step, mem_sortBy.mpr hstep, hon, params, hparams, rfl⟩), rfl⟩

/-! ### Credentials are put in -/

/-- **Injection**, step by step and again. -/
theorem injectWifiParams_spec {pipeline pipeline' : PyVal} {wifiParams : PyDict}
    (hssid : (wifiParams.get "ssid").truthy = true)
    (h : injectWifiParams pipeline wifiParams = .ok pipeline') :
    List.Forall₂ (StepInjected (wifiParams.get "ssid")
        ((wifiParams.lookup "password").getD (.str ""))) (pipelineSteps pipeline)
        (pipelineSteps pipeline') ∧
      injectWifiParams pipeline' wifiParams = .ok pipeline' := by
  have hoff : ¬ (!(wifiParams.get "ssid").truthy) = true := by
    rw [hssid]
    decide
  rw [injectWifiParams, if_neg hoff] at h ⊢
  constructor
  · refine (mapPipeline_spec h).imp fun s s' hs => ?_
    cases s with
    | dict d =>
        obtain ⟨d', hd', rfl⟩ := Except.map_eq_ok_iff.mp hs
        exact injectDict_spec hd'
    | _ => cases hs
  · refine mapPipeline_idem (fun s s' hs => ?_) h
    cases s with
    | dict d =>
        obtain ⟨d', hd', rfl⟩ := Except.map_eq_ok_iff.mp hs
        exact Except.map_eq_ok_iff.mpr ⟨d', injectDict_idem hssid hd', rfl⟩
    | _ => cases hs

/-- Whether a step that was built needs credentials. -/
theorem actionConsumesWifi_stepDefVal (step : PlanStep) (params : Dict Json) :
    actionConsumesWifi (stepDefVal (stepDef step params)) =
      (pyIn "connect_wifi" step.scriptName || pyIn "monkey_setup" step.scriptName) := by
  rw [actionConsumesWifi, stepAction_stepDefVal, stepDef, pyIn_action (.inl rfl),
    pyIn_action (.inr rfl)]

/-- A script that needs credentials has the name of one that does in its name. -/
theorem pyIn_of_consumesWifi {step : PlanStep} (h : step.consumesWifi = true) :
    (pyIn "connect_wifi" step.scriptName || pyIn "monkey_setup" step.scriptName) = true := by
  rw [PlanStep.consumesWifi, List.contains_iff_mem] at h
  rcases List.mem_cons.mp h with h | h
  · rw [h]
    decide
  · rw [List.mem_singleton.mp h]
    decide

/-- With exact names it is the other way round as well. -/
theorem ExactNames.consumesWifi {steps : List PlanStep} (h : ExactNames steps) {step : PlanStep}
    (hstep : step ∈ steps) (hon : step.enabled = true) :
    (pyIn "connect_wifi" step.scriptName || pyIn "monkey_setup" step.scriptName) =
      step.consumesWifi := by
  rw [Bool.eq_iff_iff]
  refine ⟨fun hin => ?_, pyIn_of_consumesWifi⟩
  rw [PlanStep.consumesWifi, List.contains_iff_mem]
  rcases Bool.or_eq_true_iff.mp hin with hin | hin
  · rw [(h step hstep hon).1 hin]
    exact List.mem_cons_self
  · rw [(h step hstep hon).2 hin]
    exact List.mem_cons_of_mem _ List.mem_cons_self

/-- How the steps of a plan that need credentials compare with those of its lifecycle. -/
structure WifiSteps (steps : List PlanStep) (defaults : String × String → Option (Dict Json))
    (lifecycle : PyVal) : Prop where
  consumes : planStepsConsumesWifi steps = true → lifecycleConsumesWifi lifecycle = true
  connects : planStepsHasConnectWifi steps = true → lifecycleHasConnectWifiStep lifecycle = true
  same : ExactNames steps →
    lifecycleConsumesWifi lifecycle = planStepsConsumesWifi steps ∧
      lifecycleHasConnectWifiStep lifecycle = planStepsHasConnectWifi steps ∧
      ∀ step ∈ steps, step.enabled = true → ∀ params, defaults step.script = some params →
        actionConsumesWifi (stepDefVal (stepDef step params)) = step.consumesWifi

/-- **The steps that need credentials**, before and after dispatching. -/
theorem wifiSteps_of_build {plan : Plan} {steps : List PlanStep}
    {defaults : String × String → Option (Dict Json)} {l : Lifecycle (Dict Json)}
    (hstages : ∀ step ∈ steps, step.stage ∈ ["init", "patrol", "teardown"])
    (h : buildLifecycleFromSteps plan steps defaults = .ok l) :
    WifiSteps steps defaults (lifecycleVal l) := by
  have hmem := fun v => mem_iterLifecycleSteps_iff (v := v) hstages h
  have hknown : ∀ step ∈ steps, step.enabled = true →
      ∃ params, defaults step.script = some params := fun step hstep hon => by
    rw [buildLifecycleFromSteps] at h
    obtain ⟨stages, hfold, -⟩ := Except.bind_eq_ok_iff.mp h
    exact known_of_foldlM hfold (mem_sortBy.mpr hstep) hon
  have hconsumes : lifecycleConsumesWifi (lifecycleVal l) = true ↔ ∃ step ∈ steps,
      step.enabled = true ∧
        (pyIn "connect_wifi" step.scriptName || pyIn "monkey_setup" step.scriptName) = true := by
    rw [lifecycleConsumesWifi, List.any_eq_true]
    constructor
    · rintro ⟨v, hv, hin⟩
      obtain ⟨step, hstep, hon, params, hparams, rfl⟩ := (hmem v).mp hv
      exact ⟨step, hstep, hon, (actionConsumesWifi_stepDefVal step params).symm.trans hin⟩
    · rintro ⟨step, hstep, hon, hin⟩
      obtain ⟨params, hparams⟩ := hknown step hstep hon
      refine ⟨_, (hmem _).mpr ⟨step, hstep, hon, params, hparams, rfl⟩, ?_⟩
      exact (actionConsumesWifi_stepDefVal step params).trans hin
  have hconnects : lifecycleHasConnectWifiStep (lifecycleVal l) = true ↔ ∃ step ∈ steps,
      step.enabled = true ∧ pyIn "connect_wifi" step.scriptName = true := by
    rw [lifecycleHasConnectWifiStep, List.any_eq_true]
    constructor
    · rintro ⟨v, hv, hin⟩
      obtain ⟨step, hstep, hon, params, hparams, rfl⟩ := (hmem v).mp hv
      rw [stepAction_stepDefVal, stepDef, pyIn_action (.inl rfl)] at hin
      exact ⟨step, hstep, hon, hin⟩
    · rintro ⟨step, hstep, hon, hin⟩
      obtain ⟨params, hparams⟩ := hknown step hstep hon
      refine ⟨_, (hmem _).mpr ⟨step, hstep, hon, params, hparams, rfl⟩, ?_⟩
      rw [stepAction_stepDefVal, stepDef, pyIn_action (.inl rfl)]
      exact hin
  have hplan : planStepsConsumesWifi steps = true ↔
      ∃ step ∈ steps, step.enabled = true ∧ step.consumesWifi = true := by
    rw [planStepsConsumesWifi, List.any_eq_true]
    simp only [Bool.and_eq_true]
    rfl
  have hplanConnects : planStepsHasConnectWifi steps = true ↔
      ∃ step ∈ steps, step.enabled = true ∧ step.scriptName = "connect_wifi" := by
    rw [planStepsHasConnectWifi, List.any_eq_true]
    simp only [Bool.and_eq_true, beq_iff_eq]
  refine ⟨?_, ?_, fun hexact => ⟨?_, ?_, ?_⟩⟩
  · intro hneeds
    obtain ⟨step, hstep, hon, hname⟩ := hplan.mp hneeds
    exact hconsumes.mpr ⟨step, hstep, hon, pyIn_of_consumesWifi hname⟩
  · intro hneeds
    obtain ⟨step, hstep, hon, hname⟩ := hplanConnects.mp hneeds
    refine hconnects.mpr ⟨step, hstep, hon, ?_⟩
    rw [hname]
    decide
  · rw [Bool.eq_iff_iff, hconsumes, hplan]
    refine exists_congr fun step => and_congr_right fun hstep => and_congr_right fun hon => ?_
    rw [hexact.consumesWifi hstep hon]
  · rw [Bool.eq_iff_iff, hconnects, hplanConnects]
    refine exists_congr fun step => and_congr_right fun hstep => and_congr_right fun hon => ?_
    refine ⟨(hexact step hstep hon).1, fun hname => ?_⟩
    rw [hname]
    decide
  · intro step hstep hon params _
    rw [actionConsumesWifi_stepDefVal]
    exact hexact.consumesWifi hstep hon

/-- **Wi-Fi credentials in a lifecycle.** With a network of the pool, injection keeps what a step
that needs credentials says itself, field by field, and takes the rest from the pool; it leaves
the other steps and the rest of these; and injecting again changes nothing. A plan needs
credentials only if its lifecycle does, and with exact names both find the same steps. -/
theorem wifi_injection {pipeline pipeline' : PyVal} {wifiParams : PyDict} {plan : Plan}
    {steps : List PlanStep} {defaults : String × String → Option (Dict Json)}
    {l : Lifecycle (Dict Json)} (hssid : (wifiParams.get "ssid").truthy = true)
    (h : injectWifiParams pipeline wifiParams = .ok pipeline')
    (hstages : ∀ step ∈ steps, step.stage ∈ ["init", "patrol", "teardown"])
    (hbuild : buildLifecycleFromSteps plan steps defaults = .ok l) :
    (List.Forall₂ (StepInjected (wifiParams.get "ssid")
        ((wifiParams.lookup "password").getD (.str ""))) (pipelineSteps pipeline)
        (pipelineSteps pipeline') ∧
      injectWifiParams pipeline' wifiParams = .ok pipeline') ∧
      WifiSteps steps defaults (lifecycleVal l) :=
  ⟨injectWifiParams_spec hssid h, wifiSteps_of_build hstages hbuild⟩

namespace WifiExample

/-- The credentials of a step are its own, or those of the pool. -/
def Unmixed (ssid password : PyVal) (step step' : PyVal) : Prop :=
  ∀ d d' shape, step = .dict d → step' = .dict d' → wifiShape d = .ok (some shape) →
    (((credentialsOf shape d).get "ssid").truthy = true ∧
        (credentialsOf shape d').get "ssid" = (credentialsOf shape d).get "ssid" ∧
        (credentialsOf shape d').get "password" = (credentialsOf shape d).get "password") ∨
      ((credentialsOf shape d').get "ssid" = ssid ∧
        (credentialsOf shape d').get "password" = password)

/-- A step that connects, with these parameters. -/
def connectStep (params : PyDict) : PyDict :=
  [("action", .str "script:connect_wifi"), ("params", .dict params)]

/-- A pipeline with this step only. -/
def pipeline (params : PyDict) : PyVal :=
  .dict [("lifecycle", .dict [("init", .list [.dict (connectStep params)])])]

/-- A network of a pool. -/
def office : PyDict := [("ssid", .str "office"), ("password", .str "secret")]

/-- The step says its network. -/
def lab : PyDict := [("ssid", .str "lab")]

/-- The network of the step, with the password of the pool. -/
def mixed : PyDict := [("ssid", .str "lab"), ("password", .str "secret")]

/-- **Mixed credentials**: a step that has its own network and the password of the pool. -/
theorem mixed_credentials : ¬ ∀ {pipeline pipeline' : PyVal} {wifiParams : PyDict},
    (wifiParams.get "ssid").truthy = true → injectWifiParams pipeline wifiParams = .ok pipeline' →
    List.Forall₂ (Unmixed (wifiParams.get "ssid") ((wifiParams.lookup "password").getD (.str "")))
      (pipelineSteps pipeline) (pipelineSteps pipeline') := by
  intro h
  have hinject : injectWifiParams (pipeline lab) office = .ok (pipeline mixed) := rfl
  have hsteps := h rfl hinject
  have hpipeline : ∀ params, pipelineSteps (pipeline params) = [.dict (connectStep params)] :=
    fun _ => rfl
  rw [hpipeline, hpipeline, List.forall₂_cons] at hsteps
  rcases hsteps.1 (connectStep lab) (connectStep mixed) .top rfl rfl rfl with
    ⟨-, -, hpassword⟩ | ⟨hnetwork, -⟩
  · have hnull : PyVal.str "secret" = .null := hpassword
    cases hnull
  · have heq : PyVal.str "lab" = .str "office" := hnetwork
    exact absurd (PyVal.str.inj heq) (by decide)

/-- A step that says nothing gets the network of the pool; a plan is compared with its lifecycle. -/
theorem wifi_injection_office :
    (List.Forall₂ (StepInjected (office.get "ssid") ((office.lookup "password").getD (.str "")))
        (pipelineSteps (pipeline [])) (pipelineSteps (pipeline office)) ∧
      injectWifiParams (pipeline office) office = .ok (pipeline office)) ∧
      WifiSteps [SnapshotExample.step] (entryDefaults SnapshotExample.scripts)
        (lifecycleVal (SnapshotExample.preview 60)) :=
  wifi_injection rfl rfl SnapshotExample.step_stages (SnapshotExample.preview_ok 60)

end WifiExample

end StabilityPlatform
