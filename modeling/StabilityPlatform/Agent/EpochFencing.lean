import StabilityPlatform.Agent.Coordinator
import StabilityPlatform.Lib.Dict
import StabilityPlatform.Lib.Run

/-!
# Epoch fencing of coordinators

Any number of agent processes run for the hosts of a control plane, one started after the
other, old ones possibly still alive. Their heartbeats and the answers are in flight, may
be lost, delayed or delivered twice, and the processes register and drop plan runs, start
again and move above the epochs they are told.

Epochs alone do not keep an older process out, since it moves above the epoch of its
successor as soon as it is told it. What keeps it out is the binding of the host to an
agent instance, and every host heartbeat of a process renews that binding.

## Main results

* `taken_spec`: what the control plane takes of a heartbeat.
* `fenced_step`: what a step keeps while hosts stay bound in order.
* `epochFenced_of_boundInOrder`: **the fencing**, along every such run.
* `superseded_regains`: a superseded process that is accepted again.
-/

namespace StabilityPlatform

open Lib

/-- A heartbeat entry the control plane took. -/
structure AcceptedEntry where
  agent : ℕ
  hostId : String
  prhId : ℕ
  epoch : ℤ
  deriving DecidableEq

/-- The control plane, the agent processes and the messages between them. -/
structure Fleet where
  db : CoordinatorDb
  agents : List HostRunCoordinator
  localDbs : List (String × EpochRows)
  requests : List (ℕ × CoordinatorHeartbeatIn)
  responses : List (ℕ × CoordinatorHeartbeatOut)
  accepted : List AcceptedEntry

namespace Fleet

/-- A control plane whose agents have not started. -/
def init (db : CoordinatorDb) : Fleet := ⟨db, [], [], [], [], []⟩

/-- What may happen. -/
inductive Op where
  | boot (hostId agentInstanceId : String) (maxProjections : ℕ)
  | start (n : ℕ)
  | register (n hostRowId planRunId : ℕ)
  | registerJob (n jobId : ℕ) (prhId : Option ℕ)
  | deregisterJob (n jobId : ℕ)
  | deregisterPlanRunHost (n hostRowId : ℕ)
  | tick (n : ℕ)
  | deliver (n : ℕ) (payload : CoordinatorHeartbeatIn) (now : Time)
  | receive (n : ℕ) (out : CoordinatorHeartbeatOut)
  | hostHeartbeat (n : ℕ)
  | deleteRow (id : ℕ)

/-- The hosts and instance ids of the processes, in the order they started. -/
def identities (f : Fleet) : List (String × String) :=
  f.agents.map fun c => (c.hostId, c.agentInstanceId)

/-- The local database of a host. -/
def localDb (f : Fleet) (hostId : String) : EpochRows := (f.localDbs.lookup hostId).getD []

/-- A process acts on its state and on the local database of its host. -/
def act (f : Fleet) (n : ℕ)
    (g : HostRunCoordinator → EpochRows → HostRunCoordinator × EpochRows) : Option Fleet :=
  (f.agents[n]?).map fun c =>
    let (c', rows) := g c (f.localDb c.hostId)
    { f with agents := f.agents.set n c', localDbs := (c.hostId, rows) :: f.localDbs }

/-- One step; `none` when it cannot be taken. A process starts under an id of its own. -/
def step (f : Fleet) : Op → Option Fleet
  | .boot hostId agentInstanceId maxProjections =>
    if pyStrip agentInstanceId ≠ "" ∧
        ∀ p ∈ f.identities, pyStrip p.2 ≠ pyStrip agentInstanceId then
      some { f with
        agents := f.agents ++ [⟨hostId, agentInstanceId, [], [], maxProjections, false⟩] }
    else none
  | .start n => f.act n HostRunCoordinator.start
  | .register n hostRowId planRunId =>
    f.act n fun c db => c.registerPlanRunHost db hostRowId planRunId
  | .registerJob n jobId prhId => f.act n fun c db => (c.registerJob jobId prhId, db)
  | .deregisterJob n jobId => f.act n fun c db => c.deregisterJob db jobId
  | .deregisterPlanRunHost n hostRowId => f.act n fun c db => (c.dropViews [hostRowId], db)
  | .tick n => do
    let c ← f.agents[n]?
    let payload ← c.tick
    if c.stopped then none else some { f with requests := (n, payload) :: f.requests }
  | .deliver n payload now =>
    if (n, payload) ∈ f.requests then
      let (out, db, taken) := f.db.recordAgentCoordinatorHeartbeat payload now
      some { f with
        db
        responses := (n, out) :: f.responses
        accepted := f.accepted ++
          taken.map fun p => ⟨n, payload.hostId, p.1, p.2⟩ }
    else none
  | .receive n out =>
    if (n, out) ∈ f.responses then f.act n fun c db => c.receive db out else none
  | .hostHeartbeat n => (f.agents[n]?).map fun c =>
    { f with db := f.db.bindHost c.hostId c.agentInstanceId }
  | .deleteRow id => some { f with db := { f.db with
      planRunHosts := f.db.planRunHosts.filter fun r => r.id ≠ id } }

/-- No entry of a process is taken for a plan run after one of a later process. -/
def EpochFenced (f : Fleet) : Prop :=
  f.accepted.Pairwise fun e e' => e.prhId = e'.prhId → e.agent ≤ e'.agent

instance (f : Fleet) : Decidable f.EpochFenced := inferInstanceAs (Decidable (List.Pairwise _ _))

/-- The number of the process a host is bound to. -/
def boundTo (f : Fleet) (hostId : String) : Option ℕ :=
  (f.db.hosts.lookup hostId).bind fun stored =>
    f.identities.findIdx? fun p => pyStrip p.2 = pyStrip stored

/-- Whether a step keeps hosts bound in order: no process binds its host after a later one
did, and no coordinator heartbeat is handled for a host without an instance id. -/
def boundInOrder (f : Fleet) : Op → Bool
  | .hostHeartbeat n =>
    match f.agents[n]? with
    | some c => (f.boundTo c.hostId).all fun m => m ≤ n
    | none => true
  | .deliver _ payload _ =>
    (f.db.hosts.lookup payload.hostId).any fun stored => pyStrip stored ≠ ""
  | _ => true

/-! ### What a heartbeat does -/

/-- The host of the row with a given id. -/
def rowHost (db : CoordinatorDb) (id : ℕ) : Option String :=
  (db.row? id).map PlanRunHostRow.hostId

/-- Rewriting the row with the id of another one, which is on the same host. -/
theorem rowHost_saveRow {db : CoordinatorDb} {row row' : PlanRunHostRow} {id : ℕ}
    (hrow : db.row? id = some row) (hid : row'.id = row.id) (hhost : row'.hostId = row.hostId)
    (id' : ℕ) : rowHost (db.saveRow row') id' = rowHost db id' := by
  have hfind : (db.saveRow row').row? id' = (db.row? id').map fun r =>
      if r.id = row'.id then row' else r := by
    rw [CoordinatorDb.row?, CoordinatorDb.saveRow, List.find?_map, CoordinatorDb.row?]
    congr 2
    funext r
    simp only [Function.comp_apply]
    split_ifs with hr
    · rw [hr]
    · rfl
  rw [rowHost, rowHost, hfind]
  cases hid' : db.row? id' with
  | none => rfl
  | some r =>
      have hr : r.id = id' := by simpa using List.find?_some hid'
      simp only [Option.map_some, Option.some.injEq]
      split_ifs with heq
      · have hrowid : row.id = id := by simpa using List.find?_some hrow
        rw [← hr, heq, hid, hrowid, hrow] at hid'
        rw [hhost, Option.some.inj hid']
      · rfl

/-- One entry of a heartbeat leaves the hosts of the rows, and takes only rows of the host
that reports. -/
theorem recordEntry_spec {hostId : String} (now : Time) {db₀ : CoordinatorDb}
    {s : CoordinatorDb.HeartbeatState} (entry : PlanRunHostEntry)
    (hhosts : s.db.hosts = db₀.hosts) (hrows : ∀ id, rowHost s.db id = rowHost db₀ id)
    (htaken : ∀ p ∈ s.taken, rowHost db₀ p.1 = some hostId) :
    (CoordinatorDb.recordEntry hostId now s entry).db.hosts = db₀.hosts ∧
      (∀ id, rowHost (CoordinatorDb.recordEntry hostId now s entry).db id = rowHost db₀ id) ∧
      ∀ p ∈ (CoordinatorDb.recordEntry hostId now s entry).taken,
        rowHost db₀ p.1 = some hostId := by
  rw [CoordinatorDb.recordEntry]
  by_cases hskip : entry.id = 0 ∨ entry.planRunId = 0 ∨ entry.hostId = ""
  · rw [if_pos hskip]
    exact ⟨hhosts, hrows, htaken⟩
  · rw [if_neg hskip]
    cases hrow : s.db.row? entry.id with
    | none => exact ⟨hhosts, hrows, htaken⟩
    | some row =>
        dsimp only
        by_cases hstale : row.hostId ≠ hostId ∨ entry.coordinatorEpoch < row.coordinatorEpoch
        · rw [if_pos hstale]
          exact ⟨hhosts, hrows, htaken⟩
        · rw [if_neg hstale]
          rw [not_or, not_ne_iff] at hstale
          refine ⟨hhosts, fun id => ?_, fun p hp => ?_⟩
          · rw [← hrows id]
            refine rowHost_saveRow hrow ?_ ?_ id <;> rfl
          · rcases List.mem_append.mp hp with hp | hp
            · exact htaken p hp
            · rw [List.mem_singleton.mp hp, ← hrows, rowHost, hrow, Option.map_some, hstale.1]

/-- **A heartbeat.** The control plane leaves the bindings and the hosts of the rows; what
it takes are rows of the host that reports, and it takes nothing when the host is bound to
another process. -/
theorem taken_spec {db db' : CoordinatorDb} {payload : CoordinatorHeartbeatIn} {now : Time}
    {out : CoordinatorHeartbeatOut} {taken : List (ℕ × ℤ)}
    (h : db.recordAgentCoordinatorHeartbeat payload now = (out, db', taken)) :
    db'.hosts = db.hosts ∧ (∀ id, rowHost db' id = rowHost db id) ∧
      (∀ p ∈ taken, rowHost db p.1 = some payload.hostId) ∧
      (db.agentInstanceStale payload = true → taken = []) := by
  rw [CoordinatorDb.recordAgentCoordinatorHeartbeat] at h
  split_ifs at h with hstale
  · cases h
    exact ⟨rfl, fun _ => rfl, fun _ hp => absurd hp List.not_mem_nil, fun _ => rfl⟩
  · cases h
    generalize payload.planRunHosts.insertionSort (fun a b => a.id ≤ b.id) = entries
    have hfold : ∀ (entries : List PlanRunHostEntry) (s : CoordinatorDb.HeartbeatState),
        s.db.hosts = db.hosts → (∀ id, rowHost s.db id = rowHost db id) →
        (∀ p ∈ s.taken, rowHost db p.1 = some payload.hostId) →
        let s' := entries.foldl (CoordinatorDb.recordEntry payload.hostId now) s
        s'.db.hosts = db.hosts ∧ (∀ id, rowHost s'.db id = rowHost db id) ∧
          ∀ p ∈ s'.taken, rowHost db p.1 = some payload.hostId := by
      intro entries
      induction entries with
      | nil => exact fun s h₁ h₂ h₃ => ⟨h₁, h₂, h₃⟩
      | cons entry rest ih =>
          intro s h₁ h₂ h₃
          obtain ⟨h₁, h₂, h₃⟩ := recordEntry_spec now entry h₁ h₂ h₃
          exact ih _ h₁ h₂ h₃
    obtain ⟨h₁, h₂, h₃⟩ := hfold entries ⟨db, [], []⟩ rfl (fun _ => rfl)
      fun _ hp => absurd hp List.not_mem_nil
    exact ⟨h₁, h₂, h₃, fun hs => absurd hs hstale⟩

/-! ### What a process does -/

/-- A process keeps its host and its id. -/
def SameIdentity (c c' : HostRunCoordinator) : Prop :=
  c'.hostId = c.hostId ∧ c'.agentInstanceId = c.agentInstanceId

/-- Registering a plan run keeps the identity. -/
theorem sameIdentity_register (c : HostRunCoordinator) (db : EpochRows)
    (hostRowId planRunId : ℕ) :
    SameIdentity c (c.registerPlanRunHost db hostRowId planRunId).1 := by
  rw [HostRunCoordinator.registerPlanRunHost]
  split_ifs <;> exact ⟨rfl, rfl⟩

/-- The end of a job keeps the identity. -/
theorem sameIdentity_deregisterJob (c : HostRunCoordinator) (db : EpochRows) (jobId : ℕ) :
    SameIdentity c (c.deregisterJob db jobId).1 := by
  rw [HostRunCoordinator.deregisterJob]
  cases c.jobPrh.lookup jobId with
  | none => exact ⟨rfl, rfl⟩
  | some prhId =>
      dsimp only
      split_ifs <;> exact ⟨rfl, rfl⟩

/-- The start of a job keeps the identity. -/
theorem sameIdentity_registerJob (c : HostRunCoordinator) (jobId : ℕ) (prhId : Option ℕ) :
    SameIdentity c (c.registerJob jobId prhId) := by
  cases prhId <;> exact ⟨rfl, rfl⟩

/-- Reading an answer keeps the identity. -/
theorem sameIdentity_receive (c : HostRunCoordinator) (db : EpochRows)
    (out : CoordinatorHeartbeatOut) : SameIdentity c (c.receive db out).1 := by
  have hone : ∀ (s : HostRunCoordinator × EpochRows) (id : ℕ),
      SameIdentity s.1 (HostRunCoordinator.reconcileStale out.currentCoordinatorEpochs s id).1 := by
    intro s id
    rw [HostRunCoordinator.reconcileStale]
    cases s.1.view? id with
    | none => exact ⟨rfl, rfl⟩
    | some view =>
        dsimp only
        cases out.currentCoordinatorEpochs.lookup id <;> exact ⟨rfl, rfl⟩
  have hfold : ∀ (ids : List ℕ) (s : HostRunCoordinator × EpochRows), SameIdentity c s.1 →
      SameIdentity c (ids.foldl
        (HostRunCoordinator.reconcileStale out.currentCoordinatorEpochs) s).1 := by
    intro ids
    induction ids with
    | nil => exact fun s hs => hs
    | cons id rest ih =>
        intro s hs
        obtain ⟨hhost, hid⟩ := hone s id
        exact ih _ ⟨hhost.trans hs.1, hid.trans hs.2⟩
  rw [HostRunCoordinator.receive]
  split_ifs
  · exact ⟨rfl, rfl⟩
  · exact hfold _ _ ⟨rfl, rfl⟩

/-- A process that acts changes neither the identities nor the control plane nor what is in
flight. -/
theorem act_spec {f f' : Fleet} {n : ℕ}
    {g : HostRunCoordinator → EpochRows → HostRunCoordinator × EpochRows}
    (hg : ∀ c db, SameIdentity c (g c db).1) (h : f.act n g = some f') :
    f'.identities = f.identities ∧ f'.db = f.db ∧ f'.requests = f.requests ∧
      f'.accepted = f.accepted := by
  obtain ⟨c, hc, rfl⟩ := Option.map_eq_some_iff.mp h
  refine ⟨?_, rfl, rfl, rfl⟩
  obtain ⟨hhost, hid⟩ := hg c (f.localDb c.hostId)
  obtain ⟨hn, rfl⟩ := List.getElem?_eq_some_iff.mp hc
  rw [identities, identities, List.map_set, hhost, hid]
  refine List.ext_getElem? fun m => ?_
  rw [List.getElem?_set]
  split_ifs with hm hlen
  · rw [← hm, List.getElem?_map, List.getElem?_eq_getElem hn, Option.map_some]
  · exact absurd (by simpa using hn) hlen
  · rfl

/-! ### One step -/

/-- What steps keep while hosts stay bound in order: processes have distinct ids, requests
carry the identity of their process, and a host is bound to the latest process an entry was
taken from. -/
structure BoundInvariant (f : Fleet) : Prop where
  ids_ne : f.identities.Pairwise fun p q => pyStrip p.2 ≠ pyStrip q.2
  ids_nonempty : ∀ p ∈ f.identities, pyStrip p.2 ≠ ""
  requests : ∀ r ∈ f.requests, f.identities[r.1]? = some (r.2.hostId, r.2.agentInstanceId)
  bound : ∀ e ∈ f.accepted, ∃ m ∈ f.boundTo e.hostId, e.agent ≤ m
  rows : ∀ e ∈ f.accepted, ∀ h ∈ rowHost f.db e.prhId, h = e.hostId
  fenced : f.EpochFenced

/-- Steps that leave identities, bindings, the hosts of the rows and what was taken. -/
theorem BoundInvariant.of_eq {f f' : Fleet} (h : BoundInvariant f)
    (hids : f'.identities = f.identities) (hhosts : f'.db.hosts = f.db.hosts)
    (hrows : ∀ id, ∀ host ∈ rowHost f'.db id, host ∈ rowHost f.db id)
    (hacc : f'.accepted = f.accepted)
    (hreq : ∀ r ∈ f'.requests, f.identities[r.1]? = some (r.2.hostId, r.2.agentInstanceId)) :
    BoundInvariant f' := by
  have hbound : ∀ hostId, f'.boundTo hostId = f.boundTo hostId := fun hostId => by
    rw [boundTo, boundTo, hhosts, hids]
  refine ⟨hids ▸ h.ids_ne, hids ▸ h.ids_nonempty, fun r hr => hids ▸ hreq r hr,
    fun e he => ?_, fun e he host hh => ?_, ?_⟩
  · rw [hbound]
    exact h.bound e (hacc ▸ he)
  · exact h.rows e (hacc ▸ he) host (hrows _ host hh)
  · rw [EpochFenced, hacc]
    exact h.fenced

/-- A step in which a process acts. -/
theorem BoundInvariant.act {f f' : Fleet} (h : BoundInvariant f) {n : ℕ}
    {g : HostRunCoordinator → EpochRows → HostRunCoordinator × EpochRows}
    (hg : ∀ c db, SameIdentity c (g c db).1) (hact : f.act n g = some f') :
    BoundInvariant f' := by
  obtain ⟨hids, hdb, hreq, hacc⟩ := act_spec hg hact
  exact h.of_eq hids (congrArg _ hdb) (fun id host hh => hdb ▸ hh) hacc
    fun r hr => h.requests r (hreq ▸ hr)

/-- A process is found by its id. -/
theorem findIdx_identity {f : Fleet} (h : BoundInvariant f) {stored : String} {n : ℕ}
    {p : String × String} (hp : f.identities[n]? = some p) (heq : pyStrip p.2 = pyStrip stored) :
    f.identities.findIdx? (fun p => pyStrip p.2 = pyStrip stored) = some n := by
  obtain ⟨hn, rfl⟩ := List.getElem?_eq_some_iff.mp hp
  rw [List.findIdx?_eq_some_iff_getElem]
  refine ⟨hn, by simpa using heq, fun m hm => ?_⟩
  rw [← heq]
  simpa using List.pairwise_iff_getElem.mp h.ids_ne m n (hm.trans hn) hn hm

/-- A process that starts. -/
theorem boundInvariant_boot {f : Fleet} (h : BoundInvariant f) {hostId agentInstanceId : String}
    (maxProjections : ℕ) (hid : pyStrip agentInstanceId ≠ "")
    (hnew : ∀ p ∈ f.identities, pyStrip p.2 ≠ pyStrip agentInstanceId) :
    BoundInvariant { f with
      agents := f.agents ++ [⟨hostId, agentInstanceId, [], [], maxProjections, false⟩] } := by
  set f' : Fleet := Fleet.mk _ _ _ _ _ _
  have hids : f'.identities = f.identities ++ [(hostId, agentInstanceId)] := List.map_append ..
  refine ⟨?_, fun p hp => ?_, fun r hr => ?_, fun e he => ?_, h.rows, h.fenced⟩
  · rw [hids]
    refine List.pairwise_append.mpr ⟨h.ids_ne, List.pairwise_singleton .., fun p hp q hq => ?_⟩
    rw [List.mem_singleton.mp hq]
    exact hnew p hp
  · rw [hids] at hp
    rcases List.mem_append.mp hp with hp | hp
    · exact h.ids_nonempty p hp
    · rw [List.mem_singleton.mp hp]
      exact hid
  · have hr := h.requests r hr
    rw [hids, List.getElem?_append_left (List.getElem?_eq_some_iff.mp hr).1]
    exact hr
  · obtain ⟨m, hm, hle⟩ := h.bound e he
    obtain ⟨stored, hstored, hfind⟩ := Option.bind_eq_some_iff.mp hm
    refine ⟨m, Option.bind_eq_some_iff.mpr ⟨stored, hstored, ?_⟩, hle⟩
    rw [hids, List.findIdx?_append, hfind]
    rfl

/-- A process that binds its host, after those that bound it before. -/
theorem boundInvariant_bind {f : Fleet} (h : BoundInvariant f) {n : ℕ} {c : HostRunCoordinator}
    (hc : f.agents[n]? = some c) (hle : ∀ m ∈ f.boundTo c.hostId, m ≤ n) :
    BoundInvariant { f with db := f.db.bindHost c.hostId c.agentInstanceId } := by
  have hp : f.identities[n]? = some (c.hostId, c.agentInstanceId) := by
    rw [identities, List.getElem?_map, hc, Option.map_some]
  have hne : c.agentInstanceId ≠ "" := by
    have hstrip := h.ids_nonempty _ (List.mem_of_getElem? hp)
    intro hempty
    exact hstrip ((congrArg pyStrip hempty).trans (by decide))
  rw [CoordinatorDb.bindHost, if_neg hne]
  set f' : Fleet := Fleet.mk _ _ _ _ _ _ with hf'
  refine ⟨h.ids_ne, h.ids_nonempty, h.requests, fun e he => ?_, h.rows, h.fenced⟩
  obtain ⟨m, hm, hem⟩ := h.bound e he
  by_cases hhost : e.hostId = c.hostId
  · rw [hhost] at hm ⊢
    refine ⟨n, Option.bind_eq_some_iff.mpr ⟨c.agentInstanceId, ?_, ?_⟩, hem.trans (hle m hm)⟩
    · exact List.lookup_cons_self
    · exact findIdx_identity h hp rfl
  · refine ⟨m, ?_, hem⟩
    rw [Option.mem_def, boundTo]
    change (List.lookup e.hostId ((c.hostId, c.agentInstanceId) :: _)).bind _ = _
    rw [Dict.lookup_replace_of_ne f.db.hosts _ hhost]
    exact hm

/-- A heartbeat that the control plane handles for a bound host. -/
theorem boundInvariant_deliver {f : Fleet} (h : BoundInvariant f) {n : ℕ}
    {payload : CoordinatorHeartbeatIn} {now : Time} {out : CoordinatorHeartbeatOut}
    {db : CoordinatorDb} {taken : List (ℕ × ℤ)} (hreq : (n, payload) ∈ f.requests)
    (hbound : ∃ stored ∈ f.db.hosts.lookup payload.hostId, pyStrip stored ≠ "")
    (hrec : f.db.recordAgentCoordinatorHeartbeat payload now = (out, db, taken)) :
    BoundInvariant { f with
      db
      responses := (n, out) :: f.responses
      accepted := f.accepted ++ taken.map fun p => ⟨n, payload.hostId, p.1, p.2⟩ } := by
  obtain ⟨hhosts, hrows, htaken, hgate⟩ := taken_spec hrec
  have hp := h.requests _ hreq
  have hmine : ∀ p ∈ taken, f.boundTo payload.hostId = some n := by
    intro p hmem
    obtain ⟨stored, hstored, hne⟩ := hbound
    refine Option.bind_eq_some_iff.mpr ⟨stored, hstored, findIdx_identity h hp ?_⟩
    by_contra hdiff
    have hreported := h.ids_nonempty _ (List.mem_of_getElem? hp)
    have hstale : f.db.agentInstanceStale payload = true := by
      rw [CoordinatorDb.agentInstanceStale, hstored]
      simp [hne, hreported, Ne.symm hdiff]
    rw [hgate hstale] at hmem
    exact List.not_mem_nil hmem
  set f' : Fleet := Fleet.mk _ _ _ _ _ _ with hf'
  have hsame : ∀ hostId, f'.boundTo hostId = f.boundTo hostId := fun hostId => by
    rw [boundTo, boundTo]
    change (db.hosts.lookup hostId).bind _ = _
    rw [hhosts]
    rfl
  refine ⟨h.ids_ne, h.ids_nonempty, h.requests, fun e he => ?_, fun e he host hh => ?_, ?_⟩
  · rw [hsame]
    rcases List.mem_append.mp he with he | he
    · exact h.bound e he
    · obtain ⟨p, hmem, rfl⟩ := List.mem_map.mp he
      exact ⟨n, hmine p hmem, le_refl n⟩
  · change host ∈ rowHost db e.prhId at hh
    rw [hrows] at hh
    rcases List.mem_append.mp he with he | he
    · exact h.rows e he host hh
    · obtain ⟨p, hmem, rfl⟩ := List.mem_map.mp he
      exact Option.some.inj (hh.symm.trans (htaken p hmem))
  · refine List.pairwise_append.mpr ⟨h.fenced, ?_, fun e he e' he' hprh => ?_⟩
    · rw [List.pairwise_map]
      exact List.pairwise_iff_forall_sublist.mpr fun _ _ => le_refl n
    · obtain ⟨p, hmem, rfl⟩ := List.mem_map.mp he'
      have hhost := h.rows e he payload.hostId (hprh ▸ htaken p hmem)
      obtain ⟨m, hm, hle⟩ := h.bound e he
      rw [← hhost, hmine p hmem] at hm
      exact hle.trans (Option.some.inj hm).ge

/-- **One step** while hosts stay bound in order. -/
theorem boundInvariant_step {f f' : Fleet} {op : Op} (h : BoundInvariant f)
    (hok : f.boundInOrder op = true) (hstep : f.step op = some f') : BoundInvariant f' := by
  cases op with
  | boot hostId agentInstanceId maxProjections =>
      simp only [step] at hstep
      split_ifs at hstep with hnew
      cases hstep
      exact boundInvariant_boot h maxProjections hnew.1 hnew.2
  | start n =>
      simp only [step] at hstep
      exact h.act (fun _ _ => ⟨rfl, rfl⟩) hstep
  | register n hostRowId planRunId =>
      exact h.act (fun c db => sameIdentity_register c db hostRowId planRunId) hstep
  | registerJob n jobId prhId =>
      simp only [step] at hstep
      exact h.act (fun c _ => sameIdentity_registerJob c jobId prhId) hstep
  | deregisterJob n jobId =>
      exact h.act (fun c db => sameIdentity_deregisterJob c db jobId) hstep
  | deregisterPlanRunHost n hostRowId =>
      simp only [step] at hstep
      exact h.act (fun _ _ => ⟨rfl, rfl⟩) hstep
  | tick n =>
      simp only [step, bind, Option.bind_eq_some_iff] at hstep
      obtain ⟨c, hc, payload, hpayload, hstep⟩ := hstep
      split_ifs at hstep
      cases hstep
      refine h.of_eq rfl rfl (fun _ _ hh => hh) rfl fun r hr => ?_
      rcases List.mem_cons.mp hr with rfl | hr
      · rw [HostRunCoordinator.tick] at hpayload
        split_ifs at hpayload
        cases hpayload
        rw [identities, List.getElem?_map, hc, Option.map_some]
      · exact h.requests r hr
  | deliver n payload now =>
      simp only [step] at hstep
      split_ifs at hstep with hreq
      cases hstep
      rw [boundInOrder, Option.any_eq_true] at hok
      obtain ⟨stored, hstored, hne⟩ := hok
      exact boundInvariant_deliver h hreq ⟨stored, hstored, by simpa using hne⟩ rfl
  | receive n out =>
      simp only [step] at hstep
      split_ifs at hstep
      exact h.act (fun c db => sameIdentity_receive c db out) hstep
  | hostHeartbeat n =>
      obtain ⟨c, hc, rfl⟩ := Option.map_eq_some_iff.mp hstep
      simp only [boundInOrder, hc] at hok
      rw [Option.all_eq_true] at hok
      exact boundInvariant_bind h hc fun m hm => of_decide_eq_true (hok m hm)
  | deleteRow id =>
      cases hstep
      refine h.of_eq rfl rfl (fun id' host hh => ?_) rfl h.requests
      obtain ⟨row, hrow, rfl⟩ := Option.map_eq_some_iff.mp hh
      refine Option.map_eq_some_iff.mpr ⟨row, ?_, rfl⟩
      rw [CoordinatorDb.row?, List.find?_filter] at hrow
      have hne : id' ≠ id := by
        have hrowid := List.find?_some hrow
        simp only [decide_eq_true_eq] at hrowid
        exact hrowid.2 ▸ hrowid.1
      rw [CoordinatorDb.row?, ← hrow]
      congr 1
      funext r
      by_cases hr : r.id = id'
      · simp [hr, hne]
      · simp [hr]

/-! ### Runs -/

/-- **The fencing.** Take any interleaving of what the agent processes do, of deliveries of
their heartbeats, any number of times and with any delay, and of the answers, in which no
process binds its host after a later process did and no coordinator heartbeat is handled for
a host without an instance id. Then no entry of a process is taken for a plan run after one
of a process that started later. -/
theorem epochFenced_of_boundInOrder {db : CoordinatorDb} {tr : List (Fleet × Op)} {f : Fleet}
    (hrun : Run (fun f op f' => f.step op = some f') (init db) tr f)
    (hok : ∀ p ∈ tr, p.1.boundInOrder p.2 = true) : Holds EpochFenced tr f := by
  have hstart : BoundInvariant (init db) :=
    ⟨.nil, fun _ hp => absurd hp List.not_mem_nil, fun _ hr => absurd hr List.not_mem_nil,
      fun _ he => absurd he List.not_mem_nil, fun _ he => absurd he List.not_mem_nil, .nil⟩
  have hinv : Holds BoundInvariant tr f :=
    hrun.invariant_of_guard (fun f op => f.boundInOrder op = true)
      (fun h hok hstep => boundInvariant_step h hok hstep) hstart hok
  exact ⟨fun p hp => (hinv.1 p hp).fenced, hinv.2.fenced⟩

/-- A control plane with one host and one plan run on it. -/
def oneHost : CoordinatorDb := ⟨[("h1", "")], [⟨7, "h1", 0, none, "INIT"⟩]⟩

/-- The heartbeat of a process of that host for its plan run. -/
def heartbeatOf (agentInstanceId : String) (epoch : ℤ) : CoordinatorHeartbeatIn :=
  ⟨"h1", agentInstanceId, [⟨7, 3, "h1", "INIT", epoch⟩]⟩

/-- The steps up to the first accepted heartbeat of the second process. -/
def takeover : List Op :=
  [.boot "h1" "first" 8, .register 0 7 3, .hostHeartbeat 0, .tick 0,
    .deliver 0 (heartbeatOf "first" 2) 100, .boot "h1" "second" 8, .register 1 7 3,
    .hostHeartbeat 1, .tick 1, .deliver 1 (heartbeatOf "second" 3) 200]

/-- The theorem at work: a second process takes over, and the first one is turned away. -/
theorem epochFenced_of_boundInOrder_takeover :
    let ops := takeover ++ [.tick 0, .deliver 0 (heartbeatOf "first" 2) 300,
      .receive 0 ⟨false, [7], true, [(7, 3)]⟩]
    ∃ f, ops.foldlM step (init oneHost) = some f ∧
      f.accepted = [⟨0, "h1", 7, 2⟩, ⟨1, "h1", 7, 3⟩] ∧
      Holds EpochFenced (traceOf step (init oneHost) ops) f := by
  intro ops
  obtain ⟨f, hf⟩ : ∃ f, ops.foldlM step (init oneHost) = some f :=
    Option.isSome_iff_exists.mp (by decide)
  have h := epochFenced_of_boundInOrder (Run.of_foldlM hf) (by decide)
  refine ⟨f, hf, ?_, h⟩
  have hend : (ops.foldlM step (init oneHost)).map accepted =
      some [⟨0, "h1", 7, 2⟩, ⟨1, "h1", 7, 3⟩] := by decide
  rw [hf] at hend
  exact Option.some.inj hend

/-- **A superseded process regains authority.** A second process of the host has taken over
the plan run. A host heartbeat of the first one binds the host to it again; its coordinator
heartbeat is stale by its epoch only, it moves above the epoch it is told, and its next
heartbeat is taken. -/
theorem superseded_regains :
    ∃ tr f, Run (fun f op f' => step f op = some f') (init oneHost) tr f ∧
      ¬ f.EpochFenced ∧
      f.accepted = [⟨0, "h1", 7, 2⟩, ⟨1, "h1", 7, 3⟩, ⟨0, "h1", 7, 4⟩] := by
  let ops := takeover ++ [.hostHeartbeat 0, .tick 0,
    .deliver 0 (heartbeatOf "first" 2) 300, .receive 0 ⟨false, [7], false, [(7, 3)]⟩,
    .tick 0, .deliver 0 (heartbeatOf "first" 4) 400]
  obtain ⟨f, hf⟩ : ∃ f, ops.foldlM step (init oneHost) = some f :=
    Option.isSome_iff_exists.mp (by decide)
  have hend : (ops.foldlM step (init oneHost)).map (fun f => decide (¬ f.EpochFenced ∧
      f.accepted = [⟨0, "h1", 7, 2⟩, ⟨1, "h1", 7, 3⟩, ⟨0, "h1", 7, 4⟩])) = some true := by
    decide
  rw [hf] at hend
  exact ⟨_, f, Run.of_foldlM hf, of_decide_eq_true (Option.some.inj hend)⟩

end Fleet

end StabilityPlatform
