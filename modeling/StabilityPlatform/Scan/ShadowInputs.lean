import StabilityPlatform.Lib.Run
import StabilityPlatform.Scan.ShadowRounds

/-!
# Reports are inputs once

An open round takes the reports that were written for it; once it is closed nothing in it
changes, and what else was written for it is carried by one later round.

## Main results

* `RoundsInv.map_rounds`, `RoundsInv.append_round`: what a step may do to the rounds.
* `RoundsInv.step`: one step keeps the rounds in order.
* `shadow_rounds_conserve`: **nothing is lost or counted twice**.
-/

namespace StabilityPlatform

open Lib

/-! ### Reading -/

section Reading

variable {storage : ScanStorage} {planRunId factRoundId : ℕ} {unit : ScanUnit} {x : Report}

/-- An entry is read for the round it was written for, and for its host. -/
theorem readManifestEntry_eq_some {entry : PyVal}
    (h : readManifestEntry storage factRoundId unit entry = some x) :
    x.factRoundId = factRoundId ∧ x.hostId = unit.hostId := by
  cases entry with
  | dict items =>
      rw [readManifestEntry] at h
      split at h
      · split at h
        · split at h
          · cases h
            exact ⟨rfl, rfl⟩
          · split at h
            · split at h
              · obtain ⟨path, -, rfl⟩ := Option.map_eq_some_iff.mp h
                exact ⟨rfl, rfl⟩
              · cases h
            · cases h
        · cases h
      · cases h
  | null => cases h
  | bool b => cases h
  | int z => cases h
  | float q text => cases h
  | str s => cases h
  | list xs => cases h

/-- The reports of a round were written for it. -/
theorem factRoundId_of_mem_read {expectedSet : List ScanUnit}
    (h : x ∈ readRoundReports storage planRunId factRoundId expectedSet) :
    x.factRoundId = factRoundId := by
  obtain ⟨unit, -, hx⟩ := List.mem_flatMap.mp h
  obtain ⟨entry, -, hentry⟩ := List.mem_filterMap.mp hx
  exact (readManifestEntry_eq_some hentry).1

/-- A unit is read by its host and platform. -/
theorem readUnitReports_congr {unit' : ScanUnit} (hhost : unit'.hostId = unit.hostId)
    (hplatform : unit'.platform = unit.platform) :
    readUnitReports storage planRunId factRoundId unit' =
      readUnitReports storage planRunId factRoundId unit := by
  have hentry : readManifestEntry storage factRoundId unit' =
      readManifestEntry storage factRoundId unit := by
    funext entry
    cases entry with
    | dict items => simp only [readManifestEntry, hhost, hplatform]
    | null => rfl
    | bool b => rfl
    | int z => rfl
    | float q text => rfl
    | str s => rfl
    | list xs => rfl
  rw [readUnitReports, readUnitReports, hhost, hentry]

/-- What a round reads does not depend on its coverage. -/
theorem readRoundReports_map {expectedSet : List ScanUnit} {f : ScanUnit → ScanUnit}
    (hhost : ∀ u, (f u).hostId = u.hostId) (hplatform : ∀ u, (f u).platform = u.platform) :
    readRoundReports storage planRunId factRoundId (expectedSet.map f) =
      readRoundReports storage planRunId factRoundId expectedSet := by
  rw [readRoundReports, List.flatMap_map]
  exact List.flatMap_congr fun u _ => readUnitReports_congr (hhost u) (hplatform u)

end Reading

/-! ### Coverage -/

section Coverage

variable {reports : List Report} {observedAt inputCutoffAt : Time} {closed : Bool}

/-- Classifying keeps host and platform. -/
theorem classifyUnit_identity (u : ScanUnit) :
    (classifyUnit reports observedAt inputCutoffAt closed u).hostId = u.hostId ∧
      (classifyUnit reports observedAt inputCutoffAt closed u).platform = u.platform := by
  rw [classifyUnit]
  dsimp only
  split
  · split
    · exact ⟨rfl, rfl⟩
    · split
      · exact ⟨rfl, rfl⟩
      · exact ⟨rfl, rfl⟩
  · split
    · exact ⟨rfl, rfl⟩
    · split
      · exact ⟨rfl, rfl⟩
      · exact ⟨rfl, rfl⟩

/-- **The inputs of a unit** after it was classified were its inputs before, or are among the
reports. -/
theorem mem_reports_classifyUnit {u : ScanUnit} {x : Report}
    (h : x ∈ (classifyUnit reports observedAt inputCutoffAt closed u).reports) :
    x ∈ u.reports ∨ x ∈ reports := by
  rw [classifyUnit] at h
  dsimp only at h
  split at h
  · split at h
    · rcases List.mem_append.mp h with hold | hnew
      · exact .inl hold
      · exact .inr (List.mem_of_mem_filter (List.mem_of_mem_filter hnew))
    · split at h
      · exact .inl h
      · exact .inl h
  · split at h
    · exact .inl h
    · split at h
      · exact .inl h
      · exact .inr (List.mem_of_mem_filter h)

/-- A unit that has inputs only when it is covered keeps them. -/
theorem reports_subset_classifyUnit {u : ScanUnit}
    (hcovered : u.reports = [] ∨ u.coverage.covered = true) :
    ∀ x ∈ u.reports, x ∈ (classifyUnit reports observedAt inputCutoffAt closed u).reports := by
  intro x hx
  have hc : u.coverage.covered = true := by
    rcases hcovered with hnil | hc
    · rw [hnil] at hx
      cases hx
    · exact hc
  rw [classifyUnit]
  dsimp only
  rw [if_pos hc]
  split
  · exact List.mem_append_left _ hx
  · split
    · exact hx
    · exact hx

end Coverage

/-! ### What a step may do to a round -/

/-- How a round may change: a closed one not at all, an open one by reports written for it. -/
structure Evolves (r r' : ScanRound) : Prop where
  id : r'.id = r.id
  kind : r'.kind = r.kind
  closed : r.status = .closed → r' = r
  inputs : ∀ x ∈ r'.inputs, x ∈ r.inputs ∨ x.factRoundId = r.id ∧ r.status ≠ .closed

/-- A round that stays as it is. -/
theorem Evolves.refl (r : ScanRound) : Evolves r r :=
  ⟨rfl, rfl, fun _ => rfl, fun _ hx => .inl hx⟩

/-- **Refreshing** a round. -/
theorem evolves_refreshRound (v : ScanView) (row : ScanRound) :
    Evolves row (refreshRound v row) := by
  by_cases hclosed : row.status = .closed
  · rw [refreshRound, if_pos hclosed]
    exact .refl row
  · have hinputs : ∀ x ∈ (classifyRoundCoverage row.expectedSet
        (readRoundReports v.storage v.planRunId row.id row.expectedSet) v.now row.inputCutoffAt
          false).flatMap ScanUnit.reports,
        x ∈ row.inputs ∨ x.factRoundId = row.id ∧ row.status ≠ .closed := by
      intro x hx
      obtain ⟨u', hu', hx⟩ := List.mem_flatMap.mp hx
      obtain ⟨u, hu, rfl⟩ := List.mem_map.mp hu'
      rcases mem_reports_classifyUnit hx with hold | hread
      · exact .inl (List.mem_flatMap.mpr ⟨u, hu, hold⟩)
      · exact .inr ⟨factRoundId_of_mem_read hread, hclosed⟩
    rw [refreshRound, if_neg hclosed]
    dsimp only
    split
    · exact ⟨rfl, rfl, fun h => absurd h hclosed, hinputs⟩
    · exact ⟨rfl, rfl, fun h => absurd h hclosed, hinputs⟩

/-- What a round reads stays the same when it is refreshed. -/
theorem readRoundReports_refreshRound (v : ScanView) (row : ScanRound) (storage : ScanStorage)
    (planRunId : ℕ) :
    readRoundReports storage planRunId (refreshRound v row).id (refreshRound v row).expectedSet =
      readRoundReports storage planRunId row.id row.expectedSet := by
  rw [refreshRound]
  split
  · rfl
  · dsimp only
    split
    · exact readRoundReports_map (fun u => (classifyUnit_identity u).1)
        fun u => (classifyUnit_identity u).2
    · exact readRoundReports_map (fun u => (classifyUnit_identity u).1)
        fun u => (classifyUnit_identity u).2

/-! ### The rounds of a partition -/

/-- The rounds are in order: reports are inputs once, of the round they were written for or after
that one was closed, and there is one final round at most. -/
structure RoundsInv (s : Partition) : Prop where
  ids : (s.rounds.map ScanRound.id).Nodup
  fresh : ∀ r ∈ s.rounds, r.id < s.nextId
  apart : ∀ r ∈ s.rounds, ∀ r' ∈ s.rounds, ∀ x ∈ r.inputs, x ∈ r'.inputs → r = r'
  source : ∀ r ∈ s.rounds, ∀ x ∈ r.inputs, x.factRoundId = r.id ∨
    ∃ r₀ ∈ s.rounds, r₀.id = x.factRoundId ∧ r₀.status = .closed
  finals : (s.rounds.filter fun r => r.kind = .final).length ≤ 1

/-- A partition without rounds is in order. -/
theorem RoundsInv.of_nil {s : Partition} (h : s.rounds = []) : RoundsInv s := by
  refine ⟨?_, ?_, ?_, ?_, ?_⟩
  · rw [h]
    exact List.nodup_nil
  · rw [h]
    exact fun r hr => (by cases hr)
  · rw [h]
    exact fun r hr => (by cases hr)
  · rw [h]
    exact fun r hr => (by cases hr)
  · rw [h]
    exact Nat.zero_le 1

section Rounds

variable {s s' : Partition}

/-- Rounds with one key are one round. -/
theorem RoundsInv.eq_of_id (h : RoundsInv s) {r r' : ScanRound} (hr : r ∈ s.rounds)
    (hr' : r' ∈ s.rounds) (hid : r.id = r'.id) : r = r' :=
  List.inj_on_of_nodup_map h.ids hr hr' hid

/-- A report written for an open round is an input of no other round. -/
theorem RoundsInv.eq_of_own (h : RoundsInv s) {r r' : ScanRound} {x : Report}
    (hr : r ∈ s.rounds) (hopen : r.status ≠ .closed) (hx : x.factRoundId = r.id)
    (hr' : r' ∈ s.rounds) (hx' : x ∈ r'.inputs) : r = r' := by
  rcases h.source r' hr' x hx' with hown | ⟨r₀, hr₀, hid, hclosed⟩
  · exact h.eq_of_id hr hr' (hx.symm.trans hown)
  · have hsame := h.eq_of_id hr₀ hr (hid.trans hx)
    exact absurd (hsame ▸ hclosed) hopen

/-- **Rounds that evolve** stay in order. -/
theorem RoundsInv.map_rounds (h : RoundsInv s) {f : ScanRound → ScanRound}
    (hf : ∀ r ∈ s.rounds, Evolves r (f r)) (hrounds : s'.rounds = s.rounds.map f)
    (hnext : s'.nextId = s.nextId) : RoundsInv s' where
  ids := by
    have hsame : s.rounds.map (ScanRound.id ∘ f) = s.rounds.map ScanRound.id :=
      List.map_congr_left fun r hr => (hf r hr).id
    rw [hrounds, List.map_map, hsame]
    exact h.ids
  fresh := by
    rw [hrounds, hnext]
    intro r' hr'
    obtain ⟨r, hr, rfl⟩ := List.mem_map.mp hr'
    rw [(hf r hr).id]
    exact h.fresh r hr
  apart := by
    rw [hrounds]
    intro a ha b hb x hxa hxb
    obtain ⟨r, hr, rfl⟩ := List.mem_map.mp ha
    obtain ⟨r', hr', rfl⟩ := List.mem_map.mp hb
    have hsame : r = r' := by
      rcases (hf r hr).inputs x hxa with hold | ⟨hown, hopen⟩
      · rcases (hf r' hr').inputs x hxb with hold' | ⟨hown', hopen'⟩
        · exact h.apart r hr r' hr' x hold hold'
        · exact (h.eq_of_own hr' hopen' hown' hr hold).symm
      · rcases (hf r' hr').inputs x hxb with hold' | ⟨hown', -⟩
        · exact h.eq_of_own hr hopen hown hr' hold'
        · exact h.eq_of_id hr hr' (hown.symm.trans hown')
    rw [hsame]
  source := by
    rw [hrounds]
    intro a ha x hx
    obtain ⟨r, hr, rfl⟩ := List.mem_map.mp ha
    rw [(hf r hr).id]
    rcases (hf r hr).inputs x hx with hold | ⟨hown, -⟩
    · rcases h.source r hr x hold with hown | ⟨r₀, hr₀, hid, hclosed⟩
      · exact .inl hown
      · refine .inr ⟨f r₀, List.mem_map_of_mem hr₀, ?_, ?_⟩
        · rw [(hf r₀ hr₀).id]
          exact hid
        · rw [(hf r₀ hr₀).closed hclosed]
          exact hclosed
    · exact .inl hown
  finals := by
    have hkinds : (s.rounds.map f).filter (fun r => r.kind = .final) =
        (s.rounds.filter fun r => r.kind = .final).map f := by
      rw [List.filter_map]
      congr 1
      refine List.filter_congr fun r hr => ?_
      rw [Function.comp_apply, (hf r hr).kind]
    rw [hrounds, hkinds, List.length_map]
    exact h.finals

/-- **A round that is opened** carries reports of closed rounds that are no inputs yet. -/
theorem RoundsInv.append_round (h : RoundsInv s) {row : ScanRound}
    (hrounds : s'.rounds = s.rounds ++ [row]) (hnext : s'.nextId = row.id + 1)
    (hid : s.nextId ≤ row.id)
    (hinputs : ∀ x ∈ row.inputs, (∀ r ∈ s.rounds, x ∉ r.inputs) ∧
      ∃ r₀ ∈ s.rounds, r₀.id = x.factRoundId ∧ r₀.status = .closed)
    (hfinal : row.kind = .final → ∀ r ∈ s.rounds, r.kind ≠ .final) : RoundsInv s' where
  ids := by
    rw [hrounds, List.map_append, List.nodup_append]
    refine ⟨h.ids, List.nodup_singleton _, ?_⟩
    rintro a ha b hb rfl
    obtain ⟨r, hr, rfl⟩ := List.mem_map.mp ha
    have hlt := h.fresh r hr
    rw [List.map_singleton, List.mem_singleton] at hb
    omega
  fresh := by
    rw [hrounds, hnext]
    intro r hr
    rcases List.mem_append.mp hr with hr | hr
    · have hlt := h.fresh r hr
      omega
    · rw [List.mem_singleton.mp hr]
      exact Nat.lt_succ_self _
  apart := by
    rw [hrounds]
    intro a ha b hb x hxa hxb
    rcases List.mem_append.mp ha with ha | ha
    · rcases List.mem_append.mp hb with hb | hb
      · exact h.apart a ha b hb x hxa hxb
      · rw [List.mem_singleton.mp hb] at hxb
        exact absurd hxa ((hinputs x hxb).1 a ha)
    · rcases List.mem_append.mp hb with hb | hb
      · rw [List.mem_singleton.mp ha] at hxa
        exact absurd hxb ((hinputs x hxa).1 b hb)
      · rw [List.mem_singleton.mp ha, List.mem_singleton.mp hb]
  source := by
    rw [hrounds]
    intro a ha x hx
    rcases List.mem_append.mp ha with ha | ha
    · rcases h.source a ha x hx with hown | ⟨r₀, hr₀, hclosed⟩
      · exact .inl hown
      · exact .inr ⟨r₀, List.mem_append_left _ hr₀, hclosed⟩
    · rw [List.mem_singleton.mp ha] at hx
      obtain ⟨-, r₀, hr₀, hclosed⟩ := hinputs x hx
      exact .inr ⟨r₀, List.mem_append_left _ hr₀, hclosed⟩
  finals := by
    rw [hrounds, List.filter_append, List.length_append]
    by_cases hkind : row.kind = .final
    · have hnone : s.rounds.filter (fun r => r.kind = .final) = [] :=
        List.filter_eq_nil_iff.mpr fun r hr => by simpa using hfinal hkind r hr
      rw [hnone, List.length_nil, Nat.zero_add]
      exact List.length_filter_le _ [row]
    · have hnone : [row].filter (fun r => r.kind = .final) = [] :=
        List.filter_eq_nil_iff.mpr fun r hr => by simpa [List.mem_singleton.mp hr] using hkind
      rw [hnone]
      exact h.finals

/-- Writing a round back, when it evolved from the one with its key. -/
theorem RoundsInv.save (h : RoundsInv s) {row row' : ScanRound} (hrow : row ∈ s.rounds)
    (hevolves : Evolves row row') :
    RoundsInv (s.save row') ∧ ∀ r ∈ s.rounds, r.status = .closed → r ∈ (s.save row').rounds := by
  have hf : ∀ r ∈ s.rounds, Evolves r (if r.id = row'.id then row' else r) := by
    intro r hr
    split
    · rename_i hid
      rw [h.eq_of_id hr hrow (hid.trans hevolves.id)]
      exact hevolves
    · exact .refl r
  refine ⟨h.map_rounds hf rfl rfl, fun r hr hclosed => ?_⟩
  have hmem := List.mem_map_of_mem (f := fun r => if r.id = row'.id then row' else r) hr
  rw [(hf r hr).closed hclosed] at hmem
  exact hmem

end Rounds

/-! ### Late reports -/

/-- Adding a report to the pending ones. -/
theorem mem_foldl_addPending {x : Report} (l pending : List Report) :
    x ∈ l.foldl addPending pending ↔ x ∈ pending ∨ x ∈ l := by
  induction l generalizing pending with
  | nil => simp
  | cons r rest ih =>
      have hadd : x ∈ addPending pending r ↔ x ∈ pending ∨ x = r := by
        rw [addPending]
        split
        · rename_i hr
          exact ⟨.inl, fun h => h.elim id fun hx => hx ▸ hr⟩
        · rw [List.mem_append, List.mem_singleton]
      rw [List.foldl_cons, ih, hadd, List.mem_cons, or_assoc]

/-- **Late reports** are those of closed rounds that are no inputs. -/
theorem mem_lateInputs {v : ScanView} {rounds : List ScanRound} {x : Report} :
    x ∈ lateInputs v rounds ↔ (∀ r ∈ rounds, x ∉ r.inputs) ∧ ∃ r ∈ rounds, r.status = .closed ∧
      x ∈ readRoundReports v.storage v.planRunId r.id r.expectedSet := by
  have hconsumed : x ∈ consumedReports rounds ↔ ∃ r ∈ rounds, x ∈ r.inputs := List.mem_flatMap
  rw [lateInputs, mem_foldl_addPending, List.mem_filter, List.mem_flatMap,
    Bool.not_eq_true', List.contains_eq_mem, decide_eq_false_iff_not, hconsumed]
  constructor
  · rintro (hnil | ⟨⟨r, hr, hread⟩, hout⟩)
    · cases hnil
    · rw [List.mem_filter, decide_eq_true_eq] at hr
      exact ⟨fun r' hr' hx => hout ⟨r', hr', hx⟩, r, hr.1, hr.2, hread⟩
  · rintro ⟨hout, r, hr, hclosed, hread⟩
    refine .inr ⟨⟨r, List.mem_filter.mpr ⟨hr, decide_eq_true hclosed⟩, hread⟩, ?_⟩
    rintro ⟨r', hr', hx⟩
    exact hout r' hr' hx

/-! ### Opening a round -/

/-- A carried report is a report of the units. -/
theorem mem_carryReport {units : List ScanUnit} {r x : Report} :
    x ∈ (carryReport units r).flatMap ScanUnit.reports ↔
      x ∈ units.flatMap ScanUnit.reports ∨ x = r := by
  rw [carryReport]
  split
  · rename_i hhost
    obtain ⟨u₀, hu₀, hmatch⟩ := List.any_eq_true.mp hhost
    simp only [List.mem_flatMap, List.mem_map]
    constructor
    · rintro ⟨u', ⟨u, hu, rfl⟩, hx⟩
      split at hx
      · rcases List.mem_append.mp hx with hx | hx
        · exact .inl ⟨u, hu, hx⟩
        · exact .inr (List.mem_singleton.mp hx)
      · exact .inl ⟨u, hu, hx⟩
    · rintro (⟨u, hu, hx⟩ | rfl)
      · refine ⟨_, ⟨u, hu, rfl⟩, ?_⟩
        split
        · exact List.mem_append_left _ hx
        · exact hx
      · refine ⟨_, ⟨u₀, hu₀, rfl⟩, ?_⟩
        rw [if_pos hmatch]
        exact List.mem_append_right _ (List.mem_singleton_self x)
  · rw [List.flatMap_append, List.mem_append]
    exact or_congr_right (by simp)

/-- The reports of the units are those carried. -/
theorem mem_foldl_carryReport {x : Report} (carried : List Report) (units : List ScanUnit) :
    x ∈ (carried.foldl carryReport units).flatMap ScanUnit.reports ↔
      x ∈ units.flatMap ScanUnit.reports ∨ x ∈ carried := by
  induction carried generalizing units with
  | nil => simp
  | cons r rest ih => rw [List.foldl_cons, ih, mem_carryReport, List.mem_cons, or_assoc]

/-- A unit that carries reports is covered. -/
theorem coverCarried_spec (u : ScanUnit) : (coverCarried u).reports = u.reports ∧
    ((coverCarried u).reports = [] ∨ (coverCarried u).coverage.covered = true) := by
  rw [coverCarried]
  split
  · rename_i hnil
    exact ⟨rfl, .inl (List.isEmpty_iff.mp hnil)⟩
  · refine ⟨rfl, .inr ?_⟩
    change (coverageOf u.reports).covered = true
    rw [coverageOf]
    split
    · rfl
    · rfl

/-- The largest number is not exceeded. -/
theorem le_foldl_max {n m : ℕ} {l : List ℕ} (h : n ∈ l ∨ n ≤ m) : n ≤ l.foldl max m := by
  induction l generalizing m with
  | nil => exact h.resolve_left List.not_mem_nil
  | cons k rest ih =>
      refine ih ?_
      rcases h with h | h
      · rcases List.mem_cons.mp h with rfl | h
        · exact .inr (le_max_right m n)
        · exact .inl h
      · exact .inr (h.trans (le_max_left m k))

/-- **A new round** has a key of its own, and its inputs are the reports it carries. -/
theorem newRound_spec (v : ScanView) (s : Partition) (hosts : List String) (kind : RoundKind)
    (carried : List Report) :
    ∃ row : ScanRound, newRound v s hosts kind carried =
        ({ s with rounds := s.rounds ++ [row], nextId := row.id + 1 }, row) ∧
      s.nextId ≤ row.id ∧ row.kind = kind ∧ (∀ x, x ∈ row.inputs ↔ x ∈ carried) ∧
      ∀ u ∈ row.expectedSet, u.reports = [] ∨ u.coverage.covered = true := by
  have hnew : s.rounds.find? (fun row => row.roundNo ==
      (s.rounds.map ScanRound.roundNo).foldl max 0 + 1) = none := by
    refine List.find?_eq_none.mpr fun row hrow hsame => ?_
    have hle := le_foldl_max (m := 0) (.inl (List.mem_map_of_mem (f := ScanRound.roundNo) hrow))
    rw [beq_iff_eq.mp hsame] at hle
    exact absurd hle (Nat.not_succ_le_self _)
  have hfresh : (hosts.map freshUnit).flatMap ScanUnit.reports = [] := by
    simp [List.flatMap_map, freshUnit]
  refine ⟨_, by rw [newRound, recordScanRound, hnew], Nat.le_add_right _ _, rfl, ?_, ?_⟩
  · intro x
    have hmem := mem_foldl_carryReport (x := x) carried (hosts.map freshUnit)
    rw [hfresh] at hmem
    change x ∈ ((carried.foldl carryReport (hosts.map freshUnit)).map coverCarried).flatMap
      ScanUnit.reports ↔ _
    rw [List.flatMap_map, List.flatMap_congr fun u _ => (coverCarried_spec u).1, hmem]
    exact or_iff_right List.not_mem_nil
  · intro u hu
    obtain ⟨u₀, -, rfl⟩ := List.mem_map.mp hu
    exact (coverCarried_spec u₀).2

/-- A refreshed round keeps its inputs, when only covered units have inputs. -/
theorem inputs_subset_refreshRound (v : ScanView) {row : ScanRound}
    (hcovered : ∀ u ∈ row.expectedSet, u.reports = [] ∨ u.coverage.covered = true) :
    ∀ x ∈ row.inputs, x ∈ (refreshRound v row).inputs := by
  intro x hx
  obtain ⟨u, hu, hx⟩ := List.mem_flatMap.mp hx
  have hkept : x ∈ (classifyRoundCoverage row.expectedSet
      (readRoundReports v.storage v.planRunId row.id row.expectedSet) v.now row.inputCutoffAt
        false).flatMap ScanUnit.reports :=
    List.mem_flatMap.mpr ⟨_, List.mem_map_of_mem hu, reports_subset_classifyUnit (hcovered u hu) x hx⟩
  rw [refreshRound]
  split
  · exact List.mem_flatMap.mpr ⟨u, hu, hx⟩
  · dsimp only
    split
    · exact hkept
    · exact hkept

/-- What a new round carries is what came late, and it is a final one only if there is none. -/
theorem nextRound_spec {v : ScanView} {status : PlanRunStatus} {rounds : List ScanRound}
    {kind : RoundKind} {hosts : List String} {carried : List Report}
    (h : nextRound v status rounds = some (kind, hosts, carried)) :
    carried = lateInputs v rounds ∧ (kind = .final → ∀ r ∈ rounds, r.kind ≠ .final) := by
  rw [nextRound] at h
  split at h
  · split at h
    · cases h
      exact ⟨rfl, fun hkind => (by cases hkind)⟩
    · split at h
      · cases h
        exact ⟨rfl, fun hkind => (by cases hkind)⟩
      · cases h
  · split at h
    · split at h
      · rename_i hnone
        cases h
        refine ⟨rfl, fun _ r hr hkind => ?_⟩
        exact absurd (decide_eq_true hkind) (List.find?_eq_none.mp hnone r hr)
      · split at h
        · dsimp only at h
          split at h
          · cases h
          · cases h
            exact ⟨rfl, fun hkind => (by cases hkind)⟩
        · cases h
    · cases h

/-- **Opening the next round** keeps the rounds in order and the closed ones as they are. What
came late is then an input, if a round was opened. -/
theorem RoundsInv.openRound {s : Partition} (h : RoundsInv s) (v : ScanView)
    (status : PlanRunStatus) :
    RoundsInv (openRound v status s) ∧
      (∀ r ∈ s.rounds, r.status = .closed → r ∈ (openRound v status s).rounds) ∧
      (nextRound v status s.rounds ≠ none → ∀ x ∈ lateInputs v s.rounds,
        ∃ r ∈ (openRound v status s).rounds, x ∈ r.inputs) := by
  rw [StabilityPlatform.openRound]
  cases hnext : nextRound v status s.rounds with
  | none => exact ⟨h, fun r hr _ => hr, fun hsome => absurd rfl hsome⟩
  | some new =>
      obtain ⟨kind, hosts, carried⟩ := new
      obtain ⟨rfl, hfinal⟩ := nextRound_spec hnext
      obtain ⟨row, hnew, hid, hkind, hinputs, hcovered⟩ :=
        newRound_spec v s hosts kind (lateInputs v s.rounds)
      dsimp only
      rw [hnew]
      have hopened : RoundsInv { s with rounds := s.rounds ++ [row], nextId := row.id + 1 } := by
        refine h.append_round rfl rfl hid (fun x hx => ?_) fun hrow => hfinal (hkind ▸ hrow)
        obtain ⟨hout, r₀, hr₀, hclosed, hread⟩ := mem_lateInputs.mp ((hinputs x).mp hx)
        exact ⟨hout, r₀, hr₀, (factRoundId_of_mem_read hread).symm, hclosed⟩
      have hrow : row ∈ s.rounds ++ [row] := by simp
      obtain ⟨hsaved, hkept⟩ := hopened.save hrow (evolves_refreshRound v row)
      refine ⟨hsaved, fun r hr hclosed => hkept r (List.mem_append_left _ hr) hclosed, ?_⟩
      intro _ x hx
      have hmem : refreshRound v row ∈ (s.rounds ++ [row]).map fun r =>
          if r.id = (refreshRound v row).id then refreshRound v row else r := by
        refine List.mem_map.mpr ⟨row, hrow, ?_⟩
        rw [if_pos (evolves_refreshRound v row).id.symm]
      exact ⟨_, hmem, inputs_subset_refreshRound v hcovered x ((hinputs x).mpr hx)⟩

/-! ### Steps -/

/-- Refreshing all rounds keeps them in order. -/
theorem RoundsInv.refreshAll {s : Partition} (h : RoundsInv s) (v : ScanView) :
    RoundsInv { s with rounds := s.rounds.map (refreshRound v) } ∧
      ∀ r ∈ s.rounds, r.status = .closed → r ∈ s.rounds.map (refreshRound v) := by
  refine ⟨h.map_rounds (fun r _ => evolves_refreshRound v r) rfl rfl, fun r hr hclosed => ?_⟩
  exact List.mem_map.mpr ⟨r, hr, (evolves_refreshRound v r).closed hclosed⟩

/-- The mode is not part of the rounds. -/
theorem recordPartitionMode_spec {s s' : Partition} (h : recordPartitionMode s = some s') :
    s'.rounds = s.rounds ∧ s'.nextId = s.nextId := by
  rw [recordPartitionMode] at h
  split at h
  · cases h
    exact ⟨rfl, rfl⟩
  · cases h
    exact ⟨rfl, rfl⟩
  · cases h

/-- Rounds stay in order when nothing but the mode changes. -/
theorem RoundsInv.congr {s s' : Partition} (h : RoundsInv s) (hrounds : s'.rounds = s.rounds)
    (hnext : s'.nextId = s.nextId) : RoundsInv s' :=
  h.map_rounds (fun r _ => Evolves.refl r) (hrounds.trans (List.map_id' _).symm) hnext

/-- Closed rounds are as they were. -/
def KeepsClosed (s s' : Partition) : Prop :=
  ∀ r ∈ s.rounds, r.status = .closed → r ∈ s'.rounds

/-- **Advancing** the run. -/
theorem RoundsInv.advance {s s' : Partition} {v : ScanView} {out : List (ℕ × Bool)}
    (h : RoundsInv s) (hstep : advanceRun v s = some (s', out)) :
    RoundsInv s' ∧ KeepsClosed s s' := by
  rw [advanceRun] at hstep
  split at hstep
  · cases hstep
    exact ⟨h, fun r hr _ => hr⟩
  · rename_i status hstatus
    split at hstep
    · cases hstep
      exact ⟨h, fun r hr _ => hr⟩
    · split at hstep
      · cases hstep
      · rename_i s₁ hmode
        obtain ⟨hrounds, hnextId⟩ := recordPartitionMode_spec hmode
        obtain ⟨hrefreshed, hkept⟩ := (h.congr hrounds hnextId).refreshAll v
        obtain ⟨hopened, hkept', -⟩ := hrefreshed.openRound v status
        cases hstep
        refine ⟨hopened, fun r hr hclosed => hkept' r (hkept r ?_ hclosed) hclosed⟩
        rw [hrounds]
        exact hr

/-- **Preparing a scan.** -/
theorem RoundsInv.prepare {s s' : Partition} {v : ScanView} {factRoundId : ℕ} {out : List String}
    (h : RoundsInv s) (hstep : prepareShadowScan v factRoundId s = some (s', out)) :
    RoundsInv s' ∧ KeepsClosed s s' := by
  rw [prepareShadowScan] at hstep
  split at hstep
  · cases hstep
    exact ⟨h, fun r hr _ => hr⟩
  · split at hstep
    · cases hstep
      exact ⟨h, fun r hr _ => hr⟩
    · rename_i row hfound
      split at hstep
      · cases hstep
        exact ⟨h, fun r hr _ => hr⟩
      · rename_i hopen
        split at hstep
        · cases hstep
        · rename_i s₁ hmode
          obtain ⟨hrounds, hnextId⟩ := recordPartitionMode_spec hmode
          have hrow : row ∈ s₁.rounds := by
            rw [hrounds]
            exact List.mem_of_find?_eq_some hfound
          have hsame := h.congr hrounds hnextId
          have hevolves := evolves_refreshRound v row
          dsimp only at hstep
          split at hstep
          · cases hstep
            obtain ⟨hsaved, hkept⟩ := hsame.save hrow hevolves
            exact ⟨hsaved, fun r hr hclosed => hkept r (hrounds ▸ hr) hclosed⟩
          · cases hstep
            have hmarked : Evolves row { refreshRound v row with
                expectedSet := (refreshRound v row).expectedSet.map
                  (markDispatched v (scanTargets v (refreshRound v row)))
                status := .running } := by
              refine ⟨hevolves.id, hevolves.kind, fun hclosed => absurd hclosed hopen, ?_⟩
              intro x hx
              obtain ⟨u', hu', hx⟩ := List.mem_flatMap.mp hx
              obtain ⟨u, hu, rfl⟩ := List.mem_map.mp hu'
              refine hevolves.inputs x (List.mem_flatMap.mpr ⟨u, hu, ?_⟩)
              rw [markDispatched] at hx
              split at hx
              · exact hx
              · exact hx
            obtain ⟨hsaved, hkept⟩ := hsame.save hrow hmarked
            exact ⟨hsaved, fun r hr hclosed => hkept r (hrounds ▸ hr) hclosed⟩

/-- **One step** keeps the rounds in order, and the closed ones as they are. -/
theorem RoundsInv.step {s s' : Partition} {p : ScanOp × ScanView} (h : RoundsInv s)
    (hstep : s.Step p s') : RoundsInv s' ∧ KeepsClosed s s' := by
  obtain ⟨op, v⟩ := p
  rw [Partition.Step] at hstep
  cases op with
  | advance =>
      cases hadvance : advanceRun v s with
      | none =>
          rw [Partition.step, hadvance] at hstep
          cases hstep
          exact ⟨h, fun r hr _ => hr⟩
      | some out =>
          rw [Partition.step, hadvance] at hstep
          cases hstep
          exact h.advance hadvance
  | prepare factRoundId =>
      cases hprepare : prepareShadowScan v factRoundId s with
      | none =>
          rw [Partition.step] at hstep
          dsimp only at hstep
          rw [hprepare] at hstep
          cases hstep
          exact ⟨h, fun r hr _ => hr⟩
      | some out =>
          rw [Partition.step] at hstep
          dsimp only at hstep
          rw [hprepare] at hstep
          cases hstep
          exact h.prepare hprepare

/-- **Nothing is left behind** by a step that finds the run ended and its rounds closed: every
report written for one of them is an input. -/
theorem RoundsInv.advance_terminal {s s' : Partition} {v : ScanView} {status : PlanRunStatus}
    {out : List (ℕ × Bool)} (h : RoundsInv s) (hstatus : v.runStatus = some status)
    (hterminal : status.isTerminal = true) (hstep : advanceRun v s = some (s', out))
    (hfinal : ∃ r ∈ s.rounds, r.kind = .final)
    (hclosed : ∀ r ∈ s.rounds, (refreshRound v r).status = .closed) :
    ∀ r ∈ s.rounds, ∀ x ∈ readRoundReports v.storage v.planRunId r.id r.expectedSet,
      ∃ r' ∈ s'.rounds, x ∈ r'.inputs := by
  intro r hr x hx
  have hsome : s.rounds ≠ [] := List.ne_nil_of_mem hr
  have hnotRunning : status ≠ .running := by
    rintro rfl
    cases hterminal
  rw [advanceRun, hstatus] at hstep
  dsimp only at hstep
  rw [if_neg fun hnil => hsome hnil.1] at hstep
  split at hstep
  · cases hstep
  · rename_i s₁ hmode
    obtain ⟨hrounds, hnextId⟩ := recordPartitionMode_spec hmode
    obtain ⟨hrefreshed, -⟩ := (h.congr hrounds hnextId).refreshAll v
    rw [hrounds] at hrefreshed hstep
    obtain ⟨-, hkept, hlate⟩ := hrefreshed.openRound v status
    cases hstep
    have hall : ((s.rounds.map (refreshRound v)).all fun r => r.status = .closed) = true := by
      rw [List.all_eq_true]
      intro r' hr'
      obtain ⟨r₀, hr₀, rfl⟩ := List.mem_map.mp hr'
      exact decide_eq_true (hclosed r₀ hr₀)
    have hmem : refreshRound v r ∈ s.rounds.map (refreshRound v) := List.mem_map_of_mem hr
    by_cases hconsumed : ∃ r' ∈ s.rounds.map (refreshRound v), x ∈ r'.inputs
    · obtain ⟨r', hr', hx'⟩ := hconsumed
      obtain ⟨r₀, hr₀, rfl⟩ := List.mem_map.mp hr'
      exact ⟨_, hkept _ hr' (hclosed r₀ hr₀), hx'⟩
    · have hlatex : x ∈ lateInputs v (s.rounds.map (refreshRound v)) := by
        refine mem_lateInputs.mpr ⟨fun r' hr' hx' => hconsumed ⟨r', hr', hx'⟩, refreshRound v r,
          hmem, hclosed r hr, ?_⟩
        rw [readRoundReports_refreshRound]
        exact hx
      refine hlate ?_ x hlatex
      rw [nextRound, if_neg hnotRunning, if_pos hterminal]
      cases hfound : (s.rounds.map (refreshRound v)).find? fun r => r.kind = .final with
      | none =>
          obtain ⟨r₀, hr₀, hkind⟩ := hfinal
          have hnot := List.find?_eq_none.mp hfound _ (List.mem_map_of_mem hr₀)
          rw [decide_eq_true_eq, (evolves_refreshRound v r₀).kind] at hnot
          exact absurd hkind hnot
      | some final =>
          have hfinalClosed := List.all_eq_true.mp hall final (List.mem_of_find?_eq_some hfound)
          dsimp only
          rw [if_pos ⟨of_decide_eq_true hfinalClosed, hall⟩, if_neg]
          · exact Option.some_ne_none _
          · rw [List.isEmpty_iff]
            exact List.ne_nil_of_mem hlatex

/-- **Shadow scan rounds lose nothing and count nothing twice**, over any steps of a partition
that starts without rounds: a report is an input of one round at most, and there is one final
round at most; a closed round stays as it is; and a step that finds the run ended, with its final
round and all others closed, leaves every report that was written for them an input of exactly
one round. -/
theorem shadow_rounds_conserve {s₀ s : Partition} {tr : List (Partition × (ScanOp × ScanView))}
    (hempty : s₀.rounds = []) (hrun : Run Partition.Step s₀ tr s) :
    Holds (fun s => (∀ r ∈ s.rounds, ∀ r' ∈ s.rounds, ∀ x ∈ r.inputs, x ∈ r'.inputs → r = r') ∧
      (s.rounds.filter fun r => r.kind = .final).length ≤ 1) tr s ∧
    (reached tr s).Pairwise KeepsClosed ∧
    ∀ v status s' out, v.runStatus = some status → status.isTerminal = true →
      advanceRun v s = some (s', out) → (∃ r ∈ s.rounds, r.kind = .final) →
      (∀ r ∈ s.rounds, (refreshRound v r).status = .closed) →
      ∀ r ∈ s.rounds, ∀ x ∈ readRoundReports v.storage v.planRunId r.id r.expectedSet,
        ∃! r', r' ∈ s'.rounds ∧ x ∈ r'.inputs := by
  have hstart := RoundsInv.of_nil hempty
  have hinv : Holds RoundsInv tr s := hrun.invariant (fun h hstep => (h.step hstep).1) hstart
  refine ⟨hinv.mono fun s h => ⟨h.apart, h.finals⟩, ?_, ?_⟩
  · have hkeeps : (reached tr s).Pairwise KeepsClosed ↔ ∀ p ∈ tr, (fun _ _ => True) p.1 p.2 :=
      hrun.pairwise_iff_guard (fun s r hr _ => hr)
        (fun h h' r hr hclosed => h' r (h r hr hclosed) hclosed)
        (fun h hstep => (h.step hstep).1) (fun h hstep => iff_true_intro (h.step hstep).2) hstart
    exact hkeeps.mpr fun _ _ => trivial
  · intro v status s' out hstatus hterminal hstep hfinal hclosed r hr x hx
    obtain ⟨r', hr', hx'⟩ := hinv.2.advance_terminal hstatus hterminal hstep hfinal hclosed r hr x hx
    refine ⟨r', ⟨hr', hx'⟩, fun r'' hr'' => ?_⟩
    exact (hinv.2.advance hstep).1.apart r'' hr''.1 r' hr' x hr''.2 hx'

/-- What a host writes when it has nothing to report to a round. -/
def emptyReceiptManifest (factRoundId : ℕ) : PyVal := .dict
  [("schema_version", .int 1), ("plan_run_id", .int 7), ("host_id", .str "a"),
    ("artifacts", .list [.dict [("fact_round_id", .int factRoundId),
      ("platform", .str shadowPlatform), ("empty_receipt", .bool true)]])]

/-- A plan run with one host, whose manifest for the first round is there or not. -/
def oneHostView (status : PlanRunStatus) (now : Time) (received : Bool) : ScanView where
  planRunId := 7
  runStatus := some status
  now := now
  storage := ⟨fun factRoundId _ =>
    if received = true ∧ factRoundId = 1 then some (emptyReceiptManifest 1) else none,
    fun _ _ _ => none⟩
  expectedHosts := ["a"]
  scanHosts := []
  deviceSerials := fun _ => []
  keysTaken := 0
  intervalSeconds := 3600
  reportWaitSeconds := 60
  scanTaskTimeout := 60

/-- The theorem at work: the report for the first round is written when that round and the final
one have passed their cutoffs, and it is an input of the supplement alone. -/
theorem shadow_rounds_conserve_late :
    let ops : List (ScanOp × ScanView) := [(.advance, oneHostView .running 0 false),
      (.advance, oneHostView .success 100000000 false)]
    let v := oneHostView .success 200000000 true
    ∃ s', (advanceRun v (ops.foldl Partition.step .initial)).map Prod.fst = some s' ∧
      ∃! r', r' ∈ s'.rounds ∧ (⟨1, "a", shadowPlatform, none, true⟩ : Report) ∈ r'.inputs := by
  intro ops v
  have htaken : (advanceRun v (ops.foldl Partition.step .initial)).isSome = true := by decide
  obtain ⟨⟨s', out⟩, hstep⟩ := Option.isSome_iff_exists.mp htaken
  refine ⟨s', by rw [hstep]; rfl, ?_⟩
  have hrow : ∃ r ∈ (ops.foldl Partition.step .initial).rounds,
      (⟨1, "a", shadowPlatform, none, true⟩ : Report) ∈
        readRoundReports v.storage v.planRunId r.id r.expectedSet := by decide
  obtain ⟨r, hr, hx⟩ := hrow
  have hrun := Run.of_foldl Partition.step .initial ops
  exact (shadow_rounds_conserve rfl hrun).2.2 v .success s' out rfl rfl hstep (by decide)
    (by decide) r hr _ hx

end StabilityPlatform
