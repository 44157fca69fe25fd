import StabilityPlatform.Lib.Assignment
import StabilityPlatform.PlanRun.Admission

/-!
# Wi-Fi pools for devices

Each device of a plan run gets one of the pools allowed for its host, the least loaded one that
is not full, in the order of the devices. What is given out is always allowed and always fits.
But a device that could have been served by the pool of its host may take the last place in a
pool for any host, which a later device needed.

## Main results

* `wifi_allocation`: what is given out fits, and **everything is given out** that can be, when
  the devices with fewer pools come first, or when the places outnumber the devices in the way.
* `PoolExample.wifi_greedy`: an assignment that is not found.
-/

namespace StabilityPlatform

open Lib

/-! ### Pools -/

/-- The pools that the query selects. -/
def usablePools (db : AdmissionDb) (poolId : Option ℤ) : List ResourcePool :=
  db.pools.filter fun p => p.resourceType == "wifi" && p.isActive &&
    poolId.all (· == (p.id : ℤ))

/-- What the host of a device is known under. -/
def deviceHostKeys (db : AdmissionDb) (hostMap : List (ℕ × String)) (did : ℕ) :
    Option (List String) :=
  ((hostMap.lookup did).bind fun h => db.view.hosts.find? fun row => row.id == h).map hostMatchKeys

/-- The pools that are allowed for the host of a device. -/
def allowedPools (db : AdmissionDb) (poolId : Option ℤ) (hostMap : List (ℕ × String)) (did : ℕ) :
    List ResourcePool :=
  (usablePools db poolId).filter fun p => poolHostGroupMatches p (deviceHostKeys db hostMap did)

/-- How many more devices a pool may have. -/
def placesLeft (db : AdmissionDb) (p : ResourcePool) : ℕ :=
  (p.maxConcurrentDevices - poolLoad db p.id).toNat

/-- An assignment of pools to devices: each device has a pool that is allowed for its host, and
no pool has more devices than places. -/
structure PoolsFit (db : AdmissionDb) (poolId : Option ℤ) (hostMap : List (ℕ × String))
    (deviceIds : List ℕ) (poolOf : ℕ → Option ResourcePool) : Prop where
  allowed : ∀ did ∈ deviceIds, ∃ p ∈ allowedPools db poolId hostMap did, poolOf did = some p
  room : ∀ p ∈ usablePools db poolId,
    deviceIds.countP (fun did => (poolOf did).any (·.id == p.id)) ≤ placesLeft db p

/-- Where two devices share a pool, the later one may have all pools of the earlier one. -/
def NestedPools (db : AdmissionDb) (poolId : Option ℤ) (hostMap : List (ℕ × String))
    (deviceIds : List ℕ) : Prop :=
  deviceIds.Pairwise fun did did' =>
    (∃ p ∈ allowedPools db poolId hostMap did, p ∈ allowedPools db poolId hostMap did') →
      ∀ p ∈ allowedPools db poolId hostMap did, p ∈ allowedPools db poolId hostMap did'

/-- Whether two devices share a pool. -/
def sharesPool (db : AdmissionDb) (poolId : Option ℤ) (hostMap : List (ℕ × String))
    (did did' : ℕ) : Bool :=
  (allowedPools db poolId hostMap did).any fun p =>
    (allowedPools db poolId hostMap did').any (·.id == p.id)

/-- The places in the pools of a device outnumber the earlier devices that share one with it. -/
def PoolsUncrowded (db : AdmissionDb) (poolId : Option ℤ) (hostMap : List (ℕ × String))
    (deviceIds : List ℕ) : Prop :=
  ∀ before did after, deviceIds = before ++ did :: after →
    before.countP (sharesPool db poolId hostMap · did) <
      ((allowedPools db poolId hostMap did).map (placesLeft db)).sum

/-- The assignments as the dictionary they are collected in: the last one for a device counts. -/
def poolOf (assignments : List (ℕ × ResourcePool)) (did : ℕ) : Option ResourcePool :=
  assignments.reverse.lookup did

/-! ### One device -/

/-- A device gets a pool that is allowed and not full. -/
theorem allocateDevice_eq_ok {db : AdmissionDb} {poolId : Option ℤ} {hostMap : List (ℕ × String)}
    {state state' : (ℕ → ℕ) × List (ℕ × ResourcePool)} {did : ℕ}
    (h : allocateDevice db (usablePools db poolId) poolId hostMap state did = .ok state') :
    ∃ p ∈ allowedPools db poolId hostMap did, (state.1 p.id : ℤ) < p.maxConcurrentDevices ∧
      state' = (Function.update state.1 p.id (state.1 p.id + 1), state.2 ++ [(did, p)]) := by
  rw [allocateDevice.eq_def] at h
  dsimp only at h
  split_ifs at h with hempty
  · cases poolId with
    | none => cases h
    | some pid => cases h
  · split at h
    · cases h
    · rename_i p hp
      cases h
      have hmem := List.mem_of_find?_eq_some hp
      rw [List.mem_insertionSort] at hmem
      exact ⟨p, hmem, by simpa using List.find?_some hp, rfl⟩

/-- A device that gets none has no pool that is not full. -/
theorem allocateDevice_eq_error {db : AdmissionDb} {poolId : Option ℤ}
    {hostMap : List (ℕ × String)} {state : (ℕ → ℕ) × List (ℕ × ResourcePool)} {did : ℕ}
    {message : String}
    (h : allocateDevice db (usablePools db poolId) poolId hostMap state did = .error message)
    {p : ResourcePool} (hp : p ∈ allowedPools db poolId hostMap did) :
    p.maxConcurrentDevices ≤ state.1 p.id := by
  rw [allocateDevice.eq_def] at h
  dsimp only at h
  split_ifs at h with hempty
  · have hnil : allowedPools db poolId hostMap did = [] := List.isEmpty_iff.mp hempty
    rw [hnil] at hp
    cases hp
  · split at h
    · rename_i hnone
      have hfull := List.find?_eq_none.mp hnone p ((List.mem_insertionSort _).mpr hp)
      simpa using hfull
    · cases h

/-! ### Pools as slots -/

/-- The ids of the pools that are allowed for the host of a device. -/
def poolIds (db : AdmissionDb) (poolId : Option ℤ) (hostMap : List (ℕ × String)) (did : ℕ) :
    Finset ℕ :=
  ((allowedPools db poolId hostMap did).map (·.id)).toFinset

/-- The room in the pool with an id. -/
def poolRoom (db : AdmissionDb) (poolId : Option ℤ) (k : ℕ) : ℕ :=
  (((usablePools db poolId).find? (·.id == k)).map (placesLeft db)).getD 0

/-- The assignments by id. -/
def byId (assignments : List (ℕ × ResourcePool)) : List (ℕ × ℕ) :=
  assignments.map fun c => (c.1, c.2.id)

/-- The devices of these are those of the assignments. -/
theorem map_fst_byId (assignments : List (ℕ × ResourcePool)) :
    (byId assignments).map Prod.fst = assignments.map Prod.fst := by
  rw [byId, List.map_map]
  rfl

section Keys

variable {db : AdmissionDb} {poolId : Option ℤ} {hostMap : List (ℕ × String)}

/-- An allowed pool may be used. -/
theorem usable_of_allowed {p : ResourcePool} {did : ℕ}
    (h : p ∈ allowedPools db poolId hostMap did) : p ∈ usablePools db poolId :=
  List.mem_of_mem_filter h

/-- The slots of a device are the ids of its pools. -/
theorem mem_poolIds {k did : ℕ} :
    k ∈ poolIds db poolId hostMap did ↔ ∃ p ∈ allowedPools db poolId hostMap did, p.id = k := by
  rw [poolIds, List.mem_toFinset, List.mem_map]

/-- Two devices share a slot when they share a pool. -/
theorem not_disjoint_poolIds {did did' : ℕ} :
    ¬ Disjoint (poolIds db poolId hostMap did) (poolIds db poolId hostMap did') ↔
      sharesPool db poolId hostMap did did' = true := by
  rw [Finset.not_disjoint_iff, sharesPool, List.any_eq_true]
  constructor
  · rintro ⟨k, hk, hk'⟩
    obtain ⟨p, hp, rfl⟩ := mem_poolIds.mp hk
    obtain ⟨q, hq, hid⟩ := mem_poolIds.mp hk'
    exact ⟨p, hp, List.any_eq_true.mpr ⟨q, hq, beq_iff_eq.mpr hid⟩⟩
  · rintro ⟨p, hp, hany⟩
    obtain ⟨q, hq, hid⟩ := List.any_eq_true.mp hany
    exact ⟨p.id, mem_poolIds.mpr ⟨p, hp, rfl⟩, mem_poolIds.mpr ⟨q, hq, beq_iff_eq.mp hid⟩⟩

variable (hkeys : (db.pools.map ResourcePool.id).Nodup)

include hkeys

/-- The id is a key. -/
theorem eq_of_id_eq {p q : ResourcePool} (hp : p ∈ usablePools db poolId)
    (hq : q ∈ usablePools db poolId) (h : p.id = q.id) : p = q :=
  List.inj_on_of_nodup_map hkeys (List.mem_of_mem_filter hp) (List.mem_of_mem_filter hq) h

/-- The room of a pool is found under its id. -/
theorem poolRoom_id {p : ResourcePool} (hp : p ∈ usablePools db poolId) :
    poolRoom db poolId p.id = placesLeft db p := by
  rw [poolRoom]
  cases hfind : (usablePools db poolId).find? (·.id == p.id) with
  | none =>
      have hne := List.find?_eq_none.mp hfind p hp
      exact absurd (beq_self_eq_true p.id) hne
  | some q =>
      have hid : q.id = p.id := by simpa using List.find?_some hfind
      rw [eq_of_id_eq hkeys (List.mem_of_find?_eq_some hfind) hp hid]
      rfl

/-- The room in the slots of a device is the places in its pools. -/
theorem sum_poolRoom (did : ℕ) :
    ∑ k ∈ poolIds db poolId hostMap did, poolRoom db poolId k =
      ((allowedPools db poolId hostMap did).map (placesLeft db)).sum := by
  have hnd : ((allowedPools db poolId hostMap did).map (·.id)).Nodup :=
    hkeys.sublist ((List.filter_sublist.trans List.filter_sublist).map _)
  rw [poolIds, List.sum_toFinset _ hnd, List.map_map]
  refine congrArg List.sum (List.map_congr_left fun p hp => ?_)
  exact poolRoom_id hkeys (usable_of_allowed hp)

/-! ### The loop -/

omit hkeys in
/-- After some devices: the loads count what was given out, which is allowed and fits. -/
structure Allocating (db : AdmissionDb) (poolId : Option ℤ) (hostMap : List (ℕ × String))
    (done : List ℕ) (state : (ℕ → ℕ) × List (ℕ × ResourcePool)) : Prop where
  devices : state.2.map Prod.fst = done
  loads : ∀ k, state.1 k = poolLoad db k + taken (byId state.2) k
  allowed : ∀ c ∈ state.2, c.2 ∈ allowedPools db poolId hostMap c.1
  seated : Seated (poolIds db poolId hostMap) (poolRoom db poolId) (byId state.2)

omit hkeys in
/-- Before the loop. -/
theorem Allocating.start : Allocating db poolId hostMap [] (poolLoad db, []) where
  devices := rfl
  loads k := by simp [byId]
  allowed := by simp
  seated := Seated.nil _ _

/-- A pool has room when its load is below its limit. -/
theorem Allocating.room_iff {done : List ℕ} {state : (ℕ → ℕ) × List (ℕ × ResourcePool)}
    (h : Allocating db poolId hostMap done state) {p : ResourcePool}
    (hp : p ∈ usablePools db poolId) :
    taken (byId state.2) p.id < poolRoom db poolId p.id ↔
      (state.1 p.id : ℤ) < p.maxConcurrentDevices := by
  rw [poolRoom_id hkeys hp, placesLeft, h.loads]
  omega

/-- **One round** of the loop. -/
theorem Allocating.round {done : List ℕ} {state state' : (ℕ → ℕ) × List (ℕ × ResourcePool)}
    {did : ℕ} (h : Allocating db poolId hostMap done state)
    (hround : allocateDevice db (usablePools db poolId) poolId hostMap state did = .ok state') :
    Allocating db poolId hostMap (done ++ [did]) state' := by
  obtain ⟨p, hp, hroom, rfl⟩ := allocateDevice_eq_ok hround
  have hbyId : byId (state.2 ++ [(did, p)]) = byId state.2 ++ [(did, p.id)] := List.map_append
  refine ⟨?_, ?_, ?_, ?_⟩
  · rw [List.map_append, h.devices]
    rfl
  · intro k
    show Function.update state.1 p.id (state.1 p.id + 1) k = _
    rw [hbyId, taken_concat, Function.update_apply]
    by_cases hk : k = p.id
    · subst hk
      rw [if_pos rfl, if_pos rfl, h.loads, Nat.add_assoc]
    · rw [if_neg hk, if_neg fun heq => hk heq.symm, h.loads, Nat.add_zero]
  · intro c hc
    rcases List.mem_append.mp hc with hc | hc
    · exact h.allowed c hc
    · obtain rfl := List.mem_singleton.mp hc
      exact hp
  · rw [hbyId]
    exact h.seated.concat (mem_poolIds.mpr ⟨p, hp, rfl⟩)
      ((h.room_iff hkeys (usable_of_allowed hp)).mpr hroom)

/-- **A round goes through** where the places outnumber the earlier devices in the way. -/
theorem Allocating.round_ok {done : List ℕ} {state : (ℕ → ℕ) × List (ℕ × ResourcePool)} {did : ℕ}
    (h : Allocating db poolId hostMap done state)
    (hfew : done.countP (sharesPool db poolId hostMap · did) <
      ((allowedPools db poolId hostMap did).map (placesLeft db)).sum) :
    ∃ state', allocateDevice db (usablePools db poolId) poolId hostMap state did = .ok state' := by
  cases hround : allocateDevice db (usablePools db poolId) poolId hostMap state did with
  | ok state' => exact ⟨state', rfl⟩
  | error message =>
      have hcount : ((byId state.2).map Prod.fst).countP
          (fun j => ¬ Disjoint (poolIds db poolId hostMap j) (poolIds db poolId hostMap did)) =
            done.countP (sharesPool db poolId hostMap · did) := by
        rw [map_fst_byId, h.devices]
        refine List.countP_congr fun j _ => ?_
        rw [decide_eq_true_eq]
        exact not_disjoint_poolIds
      rw [← hcount, ← sum_poolRoom hkeys] at hfew
      obtain ⟨k, hk, hroom⟩ := h.seated.exists_slot hfew
      obtain ⟨p, hp, rfl⟩ := mem_poolIds.mp hk
      have hfull := allocateDevice_eq_error hround hp
      have hlt := (h.room_iff hkeys (usable_of_allowed hp)).mp hroom
      omega

/-- What is given out at last. -/
theorem Allocating.of_syncAllocateDevices {deviceIds : List ℕ}
    {assignments : List (ℕ × ResourcePool)}
    (h : syncAllocateDevices db deviceIds poolId hostMap = .ok assignments) :
    ∃ loads, Allocating db poolId hostMap deviceIds (loads, assignments) := by
  rw [syncAllocateDevices.eq_def] at h
  dsimp only at h
  split_ifs at h with hempty
  · cases poolId with
    | none => cases h
    | some pid => cases h
  · cases hfold : deviceIds.foldlM (allocateDevice db (usablePools db poolId) poolId hostMap)
        (poolLoad db, []) with
    | error message =>
        rw [usablePools] at hfold
        rw [hfold] at h
        cases h
    | ok state =>
        have hstart : Allocating db poolId hostMap [] (poolLoad db, []) := Allocating.start
        have hend := foldlM_done_invariant (fun hI hround => hI.round hkeys hround) hstart hfold
        rw [usablePools] at hfold
        rw [hfold] at h
        cases h
        exact ⟨state.1, hend⟩

/-- **The loop goes through** where the devices are not in each other's way. -/
theorem syncAllocateDevices_ok {deviceIds : List ℕ} (hne : deviceIds ≠ [])
    (h : PoolsUncrowded db poolId hostMap deviceIds) :
    ∃ assignments, syncAllocateDevices db deviceIds poolId hostMap = .ok assignments := by
  obtain ⟨state, hstate, -⟩ := @foldlM_ok _ _ _
    (allocateDevice db (usablePools db poolId) poolId hostMap) (Allocating db poolId hostMap)
    deviceIds [] (fun {before did rest s} heq hI => by
      obtain ⟨s', hs'⟩ := hI.round_ok hkeys (h before did rest heq)
      exact ⟨s', hs', hI.round hkeys hs'⟩) _ Allocating.start
  have hpools : (usablePools db poolId).isEmpty = false := by
    obtain ⟨did, rest, rfl⟩ := List.exists_cons_of_ne_nil hne
    have hfew := h [] did rest rfl
    by_contra hempty
    have hnil : usablePools db poolId = [] := by simpa using hempty
    rw [allowedPools, hnil] at hfew
    exact absurd hfew (Nat.not_lt_zero _)
  rw [syncAllocateDevices.eq_def]
  dsimp only
  rw [usablePools] at hpools hstate
  rw [hpools, if_neg Bool.false_ne_true, hstate]
  exact ⟨state.2, rfl⟩

/-! ### Soundness and completeness -/

omit hkeys in
/-- A device in the dictionary got its pool. -/
theorem mem_of_poolOf {assignments : List (ℕ × ResourcePool)} {did : ℕ} {p : ResourcePool}
    (h : poolOf assignments did = some p) : (did, p) ∈ assignments := by
  obtain ⟨l₁, l₂, hsplit, -⟩ := List.lookup_eq_some_iff.mp h
  rw [← List.mem_reverse, hsplit]
  exact List.mem_append_right l₁ List.mem_cons_self

omit hkeys in
/-- Each device that got a pool is in the dictionary. -/
theorem exists_poolOf {assignments : List (ℕ × ResourcePool)} {did : ℕ}
    (h : did ∈ assignments.map Prod.fst) : ∃ p, poolOf assignments did = some p := by
  rw [poolOf]
  cases hlookup : assignments.reverse.lookup did with
  | some p => exact ⟨p, rfl⟩
  | none =>
      obtain ⟨c, hc, rfl⟩ := List.mem_map.mp h
      have hne := List.lookup_eq_none_iff.mp hlookup c (List.mem_reverse.mpr hc)
      simp at hne

/-- **What is given out fits.** -/
theorem Allocating.fits {deviceIds : List ℕ} {state : (ℕ → ℕ) × List (ℕ × ResourcePool)}
    (h : Allocating db poolId hostMap deviceIds state) :
    PoolsFit db poolId hostMap deviceIds.dedup (poolOf state.2) where
  allowed did hdid := by
    rw [List.mem_dedup, ← h.devices] at hdid
    obtain ⟨p, hp⟩ := exists_poolOf hdid
    exact ⟨p, h.allowed _ (mem_of_poolOf hp), hp⟩
  room p hp := by
    rw [← poolRoom_id hkeys hp]
    refine le_trans ?_ (h.seated.room p.id)
    rw [taken, byId, List.countP_map, List.countP_eq_length_filter, List.countP_eq_length_filter]
    refine le_of_le_of_eq (List.Subperm.length_le
      (List.subperm_of_subset ((List.nodup_dedup _).filter _) ?_)) (List.length_map Prod.fst)
    intro did hdid
    obtain ⟨-, hany⟩ := List.mem_filter.mp hdid
    obtain ⟨q, hq, hid⟩ := (Option.any_eq_true _ _).mp hany
    refine List.mem_map.mpr ⟨(did, q), List.mem_filter.mpr ⟨mem_of_poolOf hq, ?_⟩, rfl⟩
    simpa using hid

/-- An assignment that fits, by id. -/
theorem PoolsFit.seating {deviceIds : List ℕ} {pools : ℕ → Option ResourcePool}
    (h : PoolsFit db poolId hostMap deviceIds pools) :
    Seating (poolIds db poolId hostMap) (poolRoom db poolId) deviceIds
      (fun did => ((pools did).map (·.id)).getD 0) where
  allowed did hdid := by
    obtain ⟨p, hp, hpool⟩ := h.allowed did hdid
    rw [hpool]
    exact mem_poolIds.mpr ⟨p, hp, rfl⟩
  room k := by
    by_cases hk : ∃ p ∈ usablePools db poolId, p.id = k
    · obtain ⟨p, hp, rfl⟩ := hk
      rw [poolRoom_id hkeys hp]
      refine le_trans ?_ (h.room p hp)
      refine List.countP_mono_left fun did hdid heq => ?_
      obtain ⟨q, -, hpool⟩ := h.allowed did hdid
      rw [hpool] at heq ⊢
      simpa using heq
    · rw [List.countP_eq_zero.mpr]
      · exact Nat.zero_le _
      · intro did hdid heq
        obtain ⟨q, hq, hpool⟩ := h.allowed did hdid
        rw [hpool] at heq
        exact hk ⟨q, usable_of_allowed hq, of_decide_eq_true heq⟩

/-- **Nested devices are not in each other's way**, where an assignment fits. -/
theorem PoolsFit.uncrowded {deviceIds : List ℕ} {pools : ℕ → Option ResourcePool}
    (h : PoolsFit db poolId hostMap deviceIds pools)
    (hnested : NestedPools db poolId hostMap deviceIds) :
    PoolsUncrowded db poolId hostMap deviceIds := by
  have hids : deviceIds.Pairwise fun did did' =>
      ¬ Disjoint (poolIds db poolId hostMap did) (poolIds db poolId hostMap did') →
        poolIds db poolId hostMap did ⊆ poolIds db poolId hostMap did' := by
    refine hnested.imp fun {did did'} hsub hshare k hk => ?_
    obtain ⟨k', hk₁, hk₂⟩ := Finset.not_disjoint_iff.mp hshare
    obtain ⟨p, hp, rfl⟩ := mem_poolIds.mp hk₁
    obtain ⟨q, hq, hid⟩ := mem_poolIds.mp hk₂
    obtain rfl := eq_of_id_eq hkeys (usable_of_allowed hq) (usable_of_allowed hp) hid
    obtain ⟨r, hr, rfl⟩ := mem_poolIds.mp hk
    exact mem_poolIds.mpr ⟨r, hsub ⟨q, hp, hq⟩ r hr, rfl⟩
  intro before did after heq
  have hfew := Uncrowded.of_nested (h.seating hkeys) hids before did after heq
  rw [sum_poolRoom hkeys] at hfew
  refine lt_of_eq_of_lt (List.countP_congr fun j _ => ?_) hfew
  rw [decide_eq_true_eq]
  exact not_disjoint_poolIds.symm

omit hkeys in
/-- **Wi-Fi pools for devices.** When pools are given out, each device has one that is allowed
for its host, and no pool has more devices than places. Pools are given out to a list of devices
when an assignment exists and, of two devices that share a pool, the later one may have all pools
of the earlier one; or when the places in the pools of each device outnumber the earlier devices
that share one with it. -/
theorem wifi_allocation (hkeys : (db.pools.map ResourcePool.id).Nodup) (deviceIds : List ℕ) :
    (∀ assignments, syncAllocateDevices db deviceIds poolId hostMap = .ok assignments →
        PoolsFit db poolId hostMap deviceIds.dedup (poolOf assignments)) ∧
      (deviceIds ≠ [] →
        ((∃ pools, PoolsFit db poolId hostMap deviceIds pools) ∧
            NestedPools db poolId hostMap deviceIds) ∨
          PoolsUncrowded db poolId hostMap deviceIds →
        ∃ assignments, syncAllocateDevices db deviceIds poolId hostMap = .ok assignments) := by
  constructor
  · intro assignments h
    obtain ⟨loads, hend⟩ := Allocating.of_syncAllocateDevices hkeys h
    exact hend.fits hkeys
  · rintro hne (⟨⟨pools, hpools⟩, hnested⟩ | hfew)
    · exact syncAllocateDevices_ok hkeys hne (hpools.uncrowded hkeys hnested)
    · exact syncAllocateDevices_ok hkeys hne hfew

end Keys

namespace PoolExample

/-- A pool for one device. -/
def pool (id : ℕ) (hostGroup : Option String) : ResourcePool where
  id := id
  name := "pool"
  resourceType := "wifi"
  config := []
  maxConcurrentDevices := 1
  hostGroup := hostGroup
  isActive := true

/-- A host. -/
def host (id : String) : DispatchHost where
  id := id
  name := none
  hostname := none
  status := .online
  maintenanceUntil := none
  retiredAt := none
  extra := .null

/-- Two hosts, a pool for any of them, and a pool for the first. -/
def db : AdmissionDb where
  run := none
  planSnapshot := .null
  runHosts := []
  targets := []
  view := {
    devices := [], hosts := [host "a", host "b"]
    db := ⟨Table.empty, Table.empty, Table.empty, Table.empty, Table.empty, Table.empty, []⟩ }
  pools := [pool 1 none, pool 2 (some "a")]
  allocations := []

/-- One device on each host. -/
def hostMap : List (ℕ × String) := [(1, "a"), (2, "b")]

/-- The first device gets the pool of its host, the second the other one. -/
def pools (did : ℕ) : Option ResourcePool := some (if did = 1 then pool 2 (some "a") else pool 1 none)

/-- The ids are different. -/
theorem db_keys : (db.pools.map ResourcePool.id).Nodup := by decide

/-- There is an assignment. -/
theorem pools_fit : PoolsFit db none hostMap [1, 2] pools where
  allowed did hdid := by
    rcases List.mem_cons.mp hdid with rfl | hdid
    · exact ⟨_, List.mem_cons_of_mem _ List.mem_cons_self, rfl⟩
    · obtain rfl := List.mem_singleton.mp hdid
      exact ⟨_, List.mem_cons_self, rfl⟩
  room p hp := by
    rcases List.mem_cons.mp hp with rfl | hp
    · decide
    · obtain rfl := List.mem_singleton.mp hp
      decide

/-- **An assignment that is not found.** The first device takes the pool that the second one
needs. -/
theorem wifi_greedy : ¬ ∀ {db : AdmissionDb} {poolId : Option ℤ} {hostMap : List (ℕ × String)}
    {deviceIds : List ℕ}, (db.pools.map ResourcePool.id).Nodup → deviceIds.Nodup →
    deviceIds ≠ [] → (∃ pools, PoolsFit db poolId hostMap deviceIds pools) →
    ∃ assignments, syncAllocateDevices db deviceIds poolId hostMap = .ok assignments := by
  intro h
  obtain ⟨assignments, hok⟩ :=
    @h db none hostMap [1, 2] db_keys (by decide) (by decide) ⟨pools, pools_fit⟩
  have herror : syncAllocateDevices db [1, 2] none hostMap =
    .error "No capacity for device 2: all eligible pools full" := by rfl
  rw [herror] at hok
  cases hok

/-- The other way round both devices get a pool. -/
theorem wifi_allocation_reversed : ∃ assignments,
    syncAllocateDevices db [2, 1] none hostMap = .ok assignments ∧
      PoolsFit db none hostMap [2, 1].dedup (poolOf assignments) := by
  have hfew : PoolsUncrowded db none hostMap [2, 1] := by
    intro before did after heq
    cases before with
    | nil =>
        cases heq
        decide
    | cons first rest =>
        cases rest with
        | nil =>
            cases heq
            decide
        | cons second rest => simp at heq
  obtain ⟨hsound, hcomplete⟩ := @wifi_allocation db none hostMap db_keys [2, 1]
  obtain ⟨assignments, hok⟩ := hcomplete (by decide) (.inr hfew)
  exact ⟨assignments, hok, hsound assignments hok⟩

end PoolExample

end StabilityPlatform
