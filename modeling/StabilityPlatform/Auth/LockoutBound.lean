import StabilityPlatform.Auth.LoginLockout

/-!
# Lockouts over every interleaving

Attempts on one key take turns, so what the table has of a key when one of them counts its
failure is what the earlier ones left, but for what is over, and for the eviction of the key by
failures of others. As long as nothing is lost that way, enough failures within the window lock
the key, a locked key is not evicted, and no attempt gets past the check until the lock is over.

## Main results

* `streak`: the failures of a key since it was last forgotten or locked.
* `LockInv.step`: one step keeps what the table has of every key.
* `lockout_not_outrun`: **the bounds** on verifications and on the table.
-/

namespace StabilityPlatform

open Lib

/-! ### Failures of a key -/

/-- When a verification of a key failed. -/
def LockEvent.failTime (key : String) : LockEvent → Option Time
  | .failed k t _ => if k = key then some t else none
  | _ => none

/-- Whether the count of a key is lost: it succeeds, is evicted, or fails without being
counted. -/
def LockEvent.forgets (key : String) : LockEvent → Bool
  | .succeeded k | .evicted k => k == key
  | .failed k _ counted => k == key && !counted
  | _ => false

/-- Whether the count of a key starts over: it is lost, or the key is locked. -/
def LockEvent.resets (key : String) : LockEvent → Bool
  | .locked k _ => k == key
  | e => e.forgets key

/-- The failures of a key. -/
def failuresIn (key : String) (log : List LockEvent) : List Time :=
  log.filterMap (LockEvent.failTime key)

/-- The failures of a key since its count last started over. -/
def streak (key : String) (log : List LockEvent) : List Time :=
  log.foldl (fun acc e => if e.resets key then [] else acc ++ (e.failTime key).toList) []

/-- The failures of a key, with one more event. -/
theorem streak_append (key : String) (log em : List LockEvent) :
    streak key (log ++ em) =
      em.foldl (fun acc e => if e.resets key then [] else acc ++ (e.failTime key).toList)
        (streak key log) := List.foldl_append

/-- Events that do not start the count over add their failures. -/
theorem streak_append_of_keeps {key : String} (log : List LockEvent) {em : List LockEvent}
    (h : ∀ e ∈ em, e.resets key = false) :
    streak key (log ++ em) = streak key log ++ failuresIn key em := by
  induction em generalizing log with
  | nil => simp [failuresIn]
  | cons e rest ih =>
      rw [List.forall_mem_cons] at h
      have hone : streak key (log ++ [e]) = streak key log ++ (e.failTime key).toList := by
        rw [streak_append]
        change (if e.resets key = true then [] else _) = _
        rw [h.1, if_neg Bool.false_ne_true]
      rw [List.append_cons, ih _ h.2, hone, List.append_assoc, failuresIn, failuresIn,
        List.filterMap_cons]
      cases e.failTime key with
      | none => rfl
      | some t => rfl

/-- Events without failures leave the count or start it over. -/
theorem streak_append_of_quiet {key : String} (log : List LockEvent) {em : List LockEvent}
    (h : ∀ e ∈ em, e.failTime key = none) :
    streak key (log ++ em) = [] ∨
      streak key (log ++ em) = streak key log ∧ ∀ e ∈ em, e.resets key = false := by
  induction em generalizing log with
  | nil => exact .inr ⟨by rw [List.append_nil], fun e he => by cases he⟩
  | cons e rest ih =>
      rw [List.forall_mem_cons] at h
      rw [List.append_cons]
      cases hreset : e.resets key with
      | true =>
          have hone : streak key (log ++ [e]) = [] := by
            rw [streak_append]
            exact if_pos hreset
          rcases ih (log ++ [e]) h.2 with hnil | ⟨hsame, -⟩
          · exact .inl hnil
          · exact .inl (hsame.trans hone)
      | false =>
          have hone : streak key (log ++ [e]) = streak key log := by
            rw [streak_append]
            change (if e.resets key = true then [] else _) = _
            rw [hreset, if_neg Bool.false_ne_true, h.1]
            exact List.append_nil _
          rcases ih (log ++ [e]) h.2 with hnil | ⟨hsame, hkeeps⟩
          · exact .inl hnil
          · exact .inr ⟨hsame.trans hone, List.forall_mem_cons.mpr ⟨hreset, hkeeps⟩⟩

/-! ### What the table has of a key -/

/-- The failures the table has of a key. -/
def failuresOf (s : LockTable) (key : String) : List Time :=
  ((s.lookup key).map LockEntry.failures).getD []

namespace LoginLockout

/-- When a lock that starts now is over. -/
def unlockAt (lockout : LoginLockout) (t : Time) : Time := t.addSeconds lockout.lockoutSeconds

/-- The failures of a list that still count. -/
def counting (lockout : LoginLockout) (now : Time) (failures : List Time) : List Time :=
  failures.filter (lockout.cutoff now < ·)

/-- What counts later counted before. -/
theorem cutoff_mono {lockout : LoginLockout} {now now' : Time} (h : now ≤ now') :
    lockout.cutoff now ≤ lockout.cutoff now' := add_le_add_left h _

/-- Counting later. -/
theorem counting_counting {lockout : LoginLockout} {now now' : Time} (h : now ≤ now')
    (failures : List Time) :
    lockout.counting now' (lockout.counting now failures) = lockout.counting now' failures := by
  rw [counting, counting, List.filter_filter]
  refine List.filter_congr fun t _ => ?_
  rw [Bool.and_eq_left_iff_imp, decide_eq_true_eq, decide_eq_true_eq]
  exact fun ht => lt_of_le_of_lt (cutoff_mono h) ht

/-- What still counts is not older than a lock, when locks last at least as long. -/
theorem lt_unlockAt {lockout : LoginLockout} {now t : Time}
    (h : lockout.failureWindowSeconds ≤ lockout.lockoutSeconds) (ht : lockout.cutoff now < t) :
    now < lockout.unlockAt t := by
  have harith : ∀ n t window lock : ℤ, window ≤ lock → n + -window * 1000000 < t →
      n < t + lock * 1000000 := by
    intro n t window lock hle hlt
    omega
  exact harith now t _ _ (Int.ofNat_le.mpr h) ht

end LoginLockout

/-- A lock keeps its key from running and failing until it is over. -/
def Apart (lockout : LoginLockout) (e e' : LockEvent) : Prop :=
  ∀ key t t', e = .locked key t → (e' = .runs key t' ∨ ∃ counted, e' = .failed key t' counted) →
    lockout.unlockAt t ≤ t'

/-- What the table has at a time, after the events so far. -/
structure TableInv (lockout : LoginLockout) (log : List LockEvent) (now : Time)
    (s : LockTable) : Prop where
  nodup : (s.map Prod.fst).Nodup
  size : s.length ≤ lockout.maxTrackedAccounts
  counts : ∀ key, (lockout.counting now (streak key log)).Sublist (failuresOf s key)
  marks : ∀ key e u, s.lookup key = some e → e.lockedUntil = some u →
    e.failures = [] ∧ ∃ t, .locked key t ∈ log ∧ u = lockout.unlockAt t
  locks : ∀ key t, .locked key t ∈ log → now < lockout.unlockAt t →
    ∃ e u, s.lookup key = some e ∧ e.lockedUntil = some u ∧ lockout.unlockAt t ≤ u

/-! ### Pruning -/

section Table

variable {lockout : LoginLockout} {log : List LockEvent} {now now' : Time} {s : LockTable}
  {key : String}

/-- What is left of an entry, if anything is. -/
theorem restOf_eq_some {e e' : LockEntry} (h : lockout.restOf now e = some e') :
    e.lockedUntil.any (· ≤ now) = false ∧
      e' = { e with failures := lockout.counting now e.failures } := by
  rw [LoginLockout.restOf] at h
  split at h
  · cases h
  · rename_i hrest
    cases h
    rw [LoginLockout.pruneEntry] at hrest ⊢
    split
    · rename_i hover
      rw [if_pos hover] at hrest
      exact absurd rfl hrest
    · rename_i hover
      exact ⟨Bool.eq_false_of_not_eq_true hover, rfl⟩

/-- The failures left of an entry that is not locked. -/
theorem failures_restOf {e : LockEntry} (h : e.lockedUntil = none) :
    ((lockout.restOf now e).map LockEntry.failures).getD [] = lockout.counting now e.failures := by
  have hprune : lockout.pruneEntry now e =
      { e with failures := lockout.counting now e.failures } := by
    rw [LoginLockout.pruneEntry, h]
    exact if_neg Bool.false_ne_true
  rw [LoginLockout.restOf, hprune, h]
  split
  · rename_i hempty
    rw [Option.isNone_none, Bool.and_true, List.isEmpty_iff] at hempty
    exact hempty.symm
  · rfl

/-- The failures the table has, as an entry is pruned. -/
theorem failuresOf_prune (k : String) :
    failuresOf (lockout.prune key now s) k =
      if k = key then (((s.lookup k).bind (lockout.restOf now)).map LockEntry.failures).getD []
      else failuresOf s k := by
  rw [failuresOf, LoginLockout.lookup_prune]
  split
  · rfl
  · rfl

/-- **Pruning** takes away what is over. -/
theorem TableInv.prune (h : TableInv lockout log now s) (hle : now ≤ now') (key : String) :
    TableInv lockout log now' (lockout.prune key now' s) where
  nodup := LoginLockout.nodup_prune h.nodup key
  size := (LoginLockout.length_prune_le key s).trans h.size
  counts := by
    intro k
    have hsub := h.counts k
    rw [← LoginLockout.counting_counting hle, failuresOf_prune]
    split
    · rw [failuresOf] at hsub
      cases hs : s.lookup k with
      | none =>
          rw [hs] at hsub
          exact List.filter_sublist.trans hsub
      | some e =>
          rw [hs] at hsub
          cases hlock : e.lockedUntil with
          | none =>
              rw [Option.bind_some, failures_restOf hlock]
              exact hsub.filter _
          | some u =>
              have hnil : e.failures = [] := (h.marks k e u hs hlock).1
              rw [Option.map_some, Option.getD_some, hnil, List.sublist_nil] at hsub
              rw [hsub]
              exact List.nil_sublist _
    · exact List.filter_sublist.trans hsub
  marks := by
    intro k e u hk hu
    rw [LoginLockout.lookup_prune] at hk
    split at hk
    · obtain ⟨e₀, he₀, hrest⟩ := Option.bind_eq_some_iff.mp hk
      obtain ⟨-, rfl⟩ := restOf_eq_some hrest
      obtain ⟨hnil, hshown⟩ := h.marks k e₀ u he₀ hu
      refine ⟨?_, hshown⟩
      dsimp only
      rw [hnil]
      rfl
    · exact h.marks k e u hk hu
  locks := by
    intro k t ht hlate
    obtain ⟨e, u, hk, hu, htu⟩ := h.locks k t ht (lt_of_le_of_lt hle hlate)
    rw [LoginLockout.lookup_prune]
    split
    · have hopen : ¬u ≤ now' := not_le.mpr (lt_of_lt_of_le hlate htu)
      have hprune : lockout.pruneEntry now' e =
          { e with failures := lockout.counting now' e.failures } := by
        rw [LoginLockout.pruneEntry, hu]
        exact if_neg (by simpa using hopen)
      refine ⟨{ e with failures := lockout.counting now' e.failures }, u, ?_, hu, htu⟩
      rw [hk, Option.bind_some, LoginLockout.restOf, hprune]
      dsimp only
      rw [hu, if_neg (by simp)]
    · exact ⟨e, u, hk, hu, htu⟩

/-- A key whose locks are over is not locked when it was pruned. -/
theorem TableInv.unlocked_prune (h : TableInv lockout log now s)
    (hover : ∀ t, .locked key t ∈ log → lockout.unlockAt t ≤ now') {e : LockEntry}
    (hk : (lockout.prune key now' s).lookup key = some e) : e.lockedUntil = none := by
  rw [LoginLockout.lookup_prune, if_pos rfl] at hk
  obtain ⟨e₀, he₀, hrest⟩ := Option.bind_eq_some_iff.mp hk
  obtain ⟨hopen, rfl⟩ := restOf_eq_some hrest
  change e₀.lockedUntil = none
  cases hlock : e₀.lockedUntil with
  | none => rfl
  | some u =>
      obtain ⟨-, t, ht, rfl⟩ := h.marks key e₀ u he₀ hlock
      rw [hlock] at hopen
      exact absurd (hover t ht) (by simpa using hopen)

/-! ### Failing -/

/-- Whether a key is tracked. -/
theorem mem_keys_iff {k : String} : k ∈ s.map Prod.fst ↔ s.lookup k ≠ none := by
  constructor
  · intro hk hnone
    obtain ⟨p, hp, rfl⟩ := List.mem_map.mp hk
    have hsome : (s.lookup p.1).isSome = true :=
      List.lookup_isSome_iff.mpr ⟨p, hp, beq_self_eq_true p.1⟩
    rw [hnone] at hsome
    cases hsome
  · intro hk
    by_contra hout
    exact hk (Dict.lookup_eq_none hout)

/-- The accounts that made room were tracked and are no more. -/
theorem mem_evictedKeys {s' : LockTable} {k : String} :
    k ∈ evictedKeys s s' ↔ s.lookup k ≠ none ∧ s'.lookup k = none := by
  rw [evictedKeys, List.mem_filter, mem_keys_iff, Bool.not_eq_true', List.contains_eq_mem,
    decide_eq_false_iff_not, mem_keys_iff, not_not]

/-- What a failure shows after the evictions. -/
def outcomeEvents (lockout : LoginLockout) (key : String) (now : Time) :
    Option LockEntry → List LockEvent
  | none => [.failed key now false]
  | some e => .failed key now true :: if lockout.locks e then [.locked key now] else []

/-- What a failure shows. -/
theorem failureEvents_eq :
    failureEvents lockout key now s =
      (evictedKeys s (lockout.recordFailureLocked key now s).1).map .evicted ++
        outcomeEvents lockout key now (lockout.recordFailureLocked key now s).2 := by
  rw [failureEvents]
  dsimp only
  cases (lockout.recordFailureLocked key now s).2 with
  | none => rfl
  | some e => rfl

/-- The outcome of a failure is about its key. -/
theorem mem_outcomeEvents {entry : Option LockEntry} {e : LockEvent}
    (h : e ∈ outcomeEvents lockout key now entry) :
    (∃ counted, e = .failed key now counted) ∨ e = .locked key now := by
  cases entry with
  | none => exact .inl ⟨false, List.mem_singleton.mp h⟩
  | some e₀ =>
      rcases List.mem_cons.mp h with rfl | h
      · exact .inl ⟨true, rfl⟩
      · split at h
        · exact .inr (List.mem_singleton.mp h)
        · cases h

/-- A failure shows no failure of another key. -/
theorem failTime_failureEvents (lockout : LoginLockout) (now : Time) (s : LockTable)
    {k : String} (hk : k ≠ key) :
    ∀ e ∈ failureEvents lockout key now s, e.failTime k = none := by
  intro e he
  rw [failureEvents_eq, List.mem_append] at he
  rcases he with he | he
  · obtain ⟨v, -, rfl⟩ := List.mem_map.mp he
    rfl
  · rcases mem_outcomeEvents he with ⟨counted, rfl⟩ | rfl
    · exact if_neg fun h => hk h.symm
    · rfl

/-- An entry that locks, or does not. -/
theorem failEntry_eq (e : LockEntry) :
    lockout.failEntry now e = if lockout.locks e = true then
      ⟨[], some (lockout.unlockAt now)⟩ else { e with failures := e.failures ++ [now] } := by
  rw [LoginLockout.failEntry, LoginLockout.locks, List.length_append, List.length_singleton]
  simp only [decide_eq_true_eq]
  rfl

/-- The count of a key that fails, before its failure is added. -/
theorem streak_evicted (hkey : key ∉ evictedKeys s (lockout.recordFailureLocked key now s).1) :
    streak key (log ++ (evictedKeys s (lockout.recordFailureLocked key now s).1).map .evicted) =
      streak key log := by
  rw [streak_append_of_keeps log, failuresIn, List.filterMap_map]
  · have hnone : (LockEvent.failTime key ∘ LockEvent.evicted) = fun _ => none := rfl
    rw [hnone, List.filterMap_none, List.append_nil]
  · intro e he
    obtain ⟨v, hv, rfl⟩ := List.mem_map.mp he
    change (v == key) = false
    rw [beq_eq_false_iff_ne]
    rintro rfl
    exact hkey hv

/-- A key that is tracked after its failure was not evicted. -/
theorem notMem_evictedKeys_of_tracked (h : (s.map Prod.fst).Nodup) {e : LockEntry}
    (he : (lockout.recordFailureLocked key now s).2 = some e) :
    key ∉ evictedKeys s (lockout.recordFailureLocked key now s).1 := by
  have hspec := (LoginLockout.recordFailureLocked_spec lockout now h key).2
  rw [he] at hspec
  rw [mem_evictedKeys]
  rintro ⟨-, hnone⟩
  rw [hspec.2] at hnone
  cases hnone

/-- **A failure** is counted, and locks its key when it is one too many. -/
theorem TableInv.recordFailure (h : TableInv lockout log now s)
    (hfree : ∀ e, s.lookup key = some e → e.lockedUntil = none)
    (hover : ∀ t, .locked key t ∈ log → lockout.unlockAt t ≤ now) :
    TableInv lockout (log ++ failureEvents lockout key now s) now
      (lockout.recordFailureLocked key now s).1 where
  nodup := LoginLockout.nodup_recordFailureLocked h.nodup key
  size := LoginLockout.length_recordFailureLocked h.size key
  counts := by
    obtain ⟨hothers, hown⟩ :=
      LoginLockout.recordFailureLocked_spec lockout now h.nodup key
    intro k
    by_cases hk : k = key
    · subst hk
      rw [failureEvents_eq, ← List.append_assoc, failuresOf]
      cases hentry : (lockout.recordFailureLocked k now s).2 with
      | none =>
          have hreset : streak k (log ++ (evictedKeys s
              (lockout.recordFailureLocked k now s).1).map .evicted ++
                outcomeEvents lockout k now none) = [] := by
            rw [streak_append]
            exact if_pos (by simp [LockEvent.resets, LockEvent.forgets])
          rw [hreset]
          exact List.nil_sublist _
      | some e =>
          rw [hentry] at hown
          obtain ⟨he, hafter⟩ := hown
          rw [hafter, failEntry_eq, streak_append,
            streak_evicted (notMem_evictedKeys_of_tracked h.nodup hentry)]
          cases hlocks : lockout.locks e with
          | true =>
              have hreset : (outcomeEvents lockout k now (some e)).foldl
                  (fun acc ev => if ev.resets k then [] else acc ++ (ev.failTime k).toList)
                    (streak k log) = [] := by
                rw [outcomeEvents, hlocks]
                exact if_pos (beq_self_eq_true k)
              rw [hreset]
              exact List.nil_sublist _
          | false =>
              have hadd : (outcomeEvents lockout k now (some e)).foldl
                  (fun acc ev => if ev.resets k then [] else acc ++ (ev.failTime k).toList)
                    (streak k log) = streak k log ++ [now] := by
                rw [outcomeEvents, hlocks]
                change (if (k == k && !true) = true then [] else
                  streak k log ++ (if k = k then some now else none).toList) = _
                rw [if_pos rfl, Bool.not_true, Bool.and_false, if_neg Bool.false_ne_true]
                rfl
              have hhas : failuresOf s k = e.failures := by
                rw [failuresOf, he]
                cases s.lookup k with
                | none => rfl
                | some e₀ => rfl
              rw [hadd, LoginLockout.counting, List.filter_append, if_neg Bool.false_ne_true,
                ← hhas]
              exact (h.counts k).append List.filter_sublist
    · have hquiet := failTime_failureEvents lockout now s hk
      rcases streak_append_of_quiet log hquiet with hnil | ⟨hsame, hkept⟩
      · rw [hnil]
        exact List.nil_sublist _
      · have hsub := h.counts k
        rw [hsame, failuresOf]
        rcases hothers k hk with hlookup | ⟨hgone, e, he, -⟩
        · rw [hlookup]
          exact hsub
        · have hevicted : LockEvent.evicted k ∈ failureEvents lockout key now s := by
            rw [failureEvents_eq, List.mem_append]
            refine .inl (List.mem_map_of_mem (mem_evictedKeys.mpr ⟨?_, hgone⟩))
            rw [he]
            exact Option.some_ne_none e
          have hresets := hkept _ hevicted
          simp [LockEvent.resets, LockEvent.forgets] at hresets
  marks := by
    obtain ⟨hothers, hown⟩ :=
      LoginLockout.recordFailureLocked_spec lockout now h.nodup key
    intro k e u hk hu
    by_cases hkey : k = key
    · subst hkey
      cases hentry : (lockout.recordFailureLocked k now s).2 with
      | none =>
          rw [hentry] at hown
          rw [hown.2] at hk
          cases hk
      | some e₀ =>
          rw [hentry] at hown
          obtain ⟨he₀, hafter⟩ := hown
          rw [hafter, failEntry_eq] at hk
          cases hlocks : lockout.locks e₀ with
          | true =>
              rw [hlocks, if_pos rfl] at hk
              obtain rfl := Option.some.inj hk
              refine ⟨rfl, now, ?_, (Option.some.inj hu).symm⟩
              rw [failureEvents_eq, hentry, outcomeEvents, hlocks]
              simp
          | false =>
              rw [hlocks, if_neg Bool.false_ne_true] at hk
              obtain rfl := Option.some.inj hk
              have hnone : e₀.lockedUntil = none := by
                rw [he₀]
                cases hs : s.lookup k with
                | none => rfl
                | some e => exact hfree e hs
              exact absurd (hu.symm.trans hnone) (Option.some_ne_none u)
    · rcases hothers k hkey with hlookup | ⟨hgone, -⟩
      · rw [hlookup] at hk
        obtain ⟨hnil, t, ht, rfl⟩ := h.marks k e u hk hu
        exact ⟨hnil, t, List.mem_append_left _ ht, rfl⟩
      · rw [hgone] at hk
        cases hk
  locks := by
    obtain ⟨hothers, hown⟩ :=
      LoginLockout.recordFailureLocked_spec lockout now h.nodup key
    intro k t ht hlate
    rcases List.mem_append.mp ht with hold | hnew
    · have hkey : k ≠ key := by
        rintro rfl
        exact absurd (hover t hold) (not_le.mpr hlate)
      obtain ⟨e, u, hk, hu, htu⟩ := h.locks k t hold hlate
      rcases hothers k hkey with hlookup | ⟨-, e', he', hfree'⟩
      · exact ⟨e, u, hlookup.trans hk, hu, htu⟩
      · obtain rfl := Option.some.inj (hk.symm.trans he')
        rw [LockEntry.evictable, hu] at hfree'
        exact absurd (by simpa using hfree') (not_le.mpr (lt_of_lt_of_le hlate htu))
    · rw [failureEvents_eq, List.mem_append] at hnew
      rcases hnew with hnew | hnew
      · obtain ⟨v, -, hv⟩ := List.mem_map.mp hnew
        cases hv
      · cases hentry : (lockout.recordFailureLocked key now s).2 with
        | none =>
            rw [hentry] at hnew
            cases List.mem_singleton.mp hnew
        | some e =>
            rw [hentry] at hnew hown
            rw [outcomeEvents] at hnew
            rcases List.mem_cons.mp hnew with hne | hnew
            · cases hne
            · split at hnew
              · rename_i hlocks
                cases List.mem_singleton.mp hnew
                refine ⟨_, lockout.unlockAt now, hown.2, ?_, le_refl _⟩
                rw [failEntry_eq, if_pos hlocks]
              · cases hnew

/-- Where a counted failure is in what a failure shows. -/
theorem split_failureEvents {k : String} {t : Time} {p q : List LockEvent}
    (hsplit : failureEvents lockout key now s = p ++ .failed k t true :: q) :
    p = (evictedKeys s (lockout.recordFailureLocked key now s).1).map .evicted ∧
      outcomeEvents lockout key now (lockout.recordFailureLocked key now s).2 =
        .failed k t true :: q := by
  rw [failureEvents_eq] at hsplit
  rcases List.append_eq_append_iff.mp hsplit with ⟨p', rfl, hout⟩ | ⟨c, hev, hrest⟩
  · cases p' with
    | nil => exact ⟨List.append_nil _, hout⟩
    | cons e rest =>
        exfalso
        cases hentry : (lockout.recordFailureLocked key now s).2 with
        | none =>
            rw [hentry, outcomeEvents, List.cons_append, List.cons_eq_cons] at hout
            exact absurd hout.2.symm (by simp)
        | some e₀ =>
            rw [hentry, outcomeEvents, List.cons_append, List.cons_eq_cons] at hout
            have hmem : LockEvent.failed k t true ∈ rest ++ .failed k t true :: q := by simp
            rw [← hout.2] at hmem
            split at hmem
            · cases List.mem_singleton.mp hmem
            · cases hmem
  · cases c with
    | nil =>
        rw [List.append_nil] at hev
        exact ⟨hev.symm, hrest.symm⟩
    | cons e rest =>
        obtain ⟨rfl, -⟩ := List.cons_eq_cons.mp hrest
        have hmem : LockEvent.failed k t true ∈
            (evictedKeys s (lockout.recordFailureLocked key now s).1).map .evicted := by
          rw [hev]
          simp
        obtain ⟨v, -, hv⟩ := List.mem_map.mp hmem
        cases hv

/-- **A counted failure** with enough failures before it is followed by the lock. -/
theorem TableInv.locks_of_counted (h : TableInv lockout log now s) {k : String} {t : Time}
    {p q : List LockEvent}
    (hsplit : failureEvents lockout key now s = p ++ .failed k t true :: q)
    (hmany : lockout.maxFailures ≤ (lockout.counting t (streak k (log ++ p))).length + 1) :
    ∃ q', q = .locked k t :: q' := by
  obtain ⟨rfl, hout⟩ := split_failureEvents hsplit
  cases hentry : (lockout.recordFailureLocked key now s).2 with
  | none =>
      rw [hentry] at hout
      cases (List.cons_eq_cons.mp hout).1
  | some e =>
      rw [hentry, outcomeEvents] at hout
      obtain ⟨heq, rfl⟩ := List.cons_eq_cons.mp hout
      cases heq
      have hspec := (LoginLockout.recordFailureLocked_spec lockout now h.nodup key).2
      rw [hentry] at hspec
      have hhas : failuresOf s key = e.failures := by
        rw [failuresOf, hspec.1]
        cases s.lookup key with
        | none => rfl
        | some e₀ => rfl
      rw [streak_evicted (notMem_evictedKeys_of_tracked h.nodup hentry)] at hmany
      have hlength := (h.counts key).length_le
      rw [hhas] at hlength
      have hlocks : lockout.locks e = true := decide_eq_true (by omega)
      rw [hlocks]
      exact ⟨[], rfl⟩

/-- A success forgets its key. -/
theorem TableInv.pop (h : TableInv lockout log now s)
    (hover : ∀ t, .locked key t ∈ log → lockout.unlockAt t ≤ now) :
    TableInv lockout (log ++ [.succeeded key]) now (s.pop key) where
  nodup := nodup_pop h.nodup key
  size := (length_pop_le s key).trans h.size
  counts := by
    intro k
    rw [streak_append, failuresOf, lookup_pop]
    by_cases hk : k = key
    · subst hk
      have hreset : [LockEvent.succeeded k].foldl (fun acc e =>
          if e.resets k then [] else acc ++ (e.failTime k).toList) (streak k log) = [] :=
        if_pos (beq_self_eq_true k)
      rw [hreset]
      exact List.nil_sublist _
    · have hkeep : [LockEvent.succeeded key].foldl (fun acc e =>
          if e.resets k then [] else acc ++ (e.failTime k).toList) (streak k log) =
            streak k log := by
        have hne : (key == k) = false := beq_eq_false_iff_ne.mpr (Ne.symm hk)
        change (if (key == k) = true then [] else streak k log ++ []) = _
        rw [hne, if_neg Bool.false_ne_true, List.append_nil]
      rw [hkeep, if_neg hk]
      exact h.counts k
  marks := by
    intro k e u hk hu
    rw [lookup_pop] at hk
    split at hk
    · cases hk
    · obtain ⟨hnil, t, ht, rfl⟩ := h.marks k e u hk hu
      exact ⟨hnil, t, List.mem_append_left _ ht, rfl⟩
  locks := by
    intro k t ht hlate
    rcases List.mem_append.mp ht with hold | hnew
    · rw [lookup_pop, if_neg]
      · exact h.locks k t hold hlate
      · rintro rfl
        exact absurd (hover t hold) (not_le.mpr hlate)
    · cases List.mem_singleton.mp hnew

end Table

/-! ### Attempts -/

/-- What holds of the events so far and the world. -/
structure LockInv (lockout : LoginLockout) (stripe : String → ℕ) (log : List LockEvent)
    (w : LockWorld) : Prop where
  table : TableInv lockout log w.clock w.state
  owns : ∀ i key, (w.phase i).key? = some key → w.stripes (stripe key) = some i
  serial : ∀ i key, (w.phase i).verifies = some key → ∀ t, .locked key t ∈ log →
    lockout.unlockAt t ≤ w.clock
  apart : log.Pairwise (Apart lockout)
  trips : ∀ key p t q, log = p ++ .failed key t true :: q →
    lockout.maxFailures ≤ (lockout.counting t (streak key p)).length + 1 →
      ∃ q', q = .locked key t :: q'

/-- Before anything was tried. -/
theorem LockInv.initial (lockout : LoginLockout) (stripe : String → ℕ) (clock : Time) :
    LockInv lockout stripe [] (.initial clock) where
  table := ⟨List.nodup_nil, Nat.zero_le _, fun key => List.Sublist.refl _,
    fun key e u h => (by cases h), fun key t h => (by cases h)⟩
  owns := fun i key h => by cases h
  serial := fun i key h => by cases h
  apart := List.Pairwise.nil
  trips := fun key p t q h => by
    have hlength := congrArg List.length h
    simp at hlength

section Step

variable {lockout : LoginLockout} {stripe : String → ℕ} {log em : List LockEvent}
  {w w' : LockWorld} {i : ℕ} {key : String} {now : Time}

/-- A thread that verifies is in an attempt on the key. -/
theorem key?_of_verifies {ph : AttemptPhase} (h : ph.verifies = some key) :
    ph.key? = some key := by
  cases ph with
  | idle => cases h
  | entered k => cases h
  | verifying k => exact h
  | verified k ok => exact h

/-- The other attempts keep their stripes when one gives its own back. -/
theorem LockInv.owns_leave (h : LockInv lockout stripe log w) (hi : (w.phase i).key? = some key)
    (hstripes : w'.stripes = Function.update w.stripes (stripe key) none)
    (hphase : w'.phase = Function.update w.phase i .idle) :
    ∀ j k, (w'.phase j).key? = some k → w'.stripes (stripe k) = some j := by
  intro j k hj
  rw [hphase] at hj
  by_cases hji : j = i
  · subst hji
    rw [Function.update_self] at hj
    cases hj
  · rw [Function.update_of_ne hji] at hj
    have howner := h.owns j k hj
    rw [hstripes, Function.update_of_ne]
    · exact howner
    · intro hsame
      rw [hsame, h.owns i key hi] at howner
      exact hji (Option.some.inj howner).symm

/-- Attempts on one key take turns. -/
theorem LockInv.eq_of_key (h : LockInv lockout stripe log w) {j : ℕ}
    (hi : (w.phase i).key? = some key) (hj : (w.phase j).key? = some key) : i = j := by
  have howner := h.owns i key hi
  rw [h.owns j key hj] at howner
  exact (Option.some.inj howner).symm

/-- Events that lock nothing leave the verifications of others in peace. -/
theorem LockInv.serial_of_phase (h : LockInv lockout stripe log w) {ph : AttemptPhase}
    (hclock : w.clock ≤ w'.clock) (hphase : w'.phase = Function.update w.phase i ph)
    (hlocks : ∀ k t, .locked k t ∈ em → (w.phase i).key? = some k)
    (hown : ∀ k, ph.verifies = some k → ∀ t, .locked k t ∈ log ++ em →
      lockout.unlockAt t ≤ w'.clock) :
    ∀ j k, (w'.phase j).verifies = some k → ∀ t, .locked k t ∈ log ++ em →
      lockout.unlockAt t ≤ w'.clock := by
  intro j k hj t ht
  rw [hphase] at hj
  by_cases hji : j = i
  · subst hji
    rw [Function.update_self] at hj
    exact hown k hj t ht
  · rw [Function.update_of_ne hji] at hj
    rcases List.mem_append.mp ht with hold | hnew
    · exact (h.serial j k hj t hold).trans hclock
    · exact absurd (h.eq_of_key (hlocks k t hnew) (key?_of_verifies hj)).symm hji

/-- New events lock when there are enough failures, if they do so by themselves. -/
theorem LockInv.trips_append (h : LockInv lockout stripe log w)
    (hem : ∀ k p t q, em = p ++ .failed k t true :: q →
      lockout.maxFailures ≤ (lockout.counting t (streak k (log ++ p))).length + 1 →
        ∃ q', q = .locked k t :: q') :
    ∀ k p t q, log ++ em = p ++ .failed k t true :: q →
      lockout.maxFailures ≤ (lockout.counting t (streak k p)).length + 1 →
        ∃ q', q = .locked k t :: q' := by
  intro k p t q hsplit hmany
  rcases List.append_eq_append_iff.mp hsplit with ⟨p', rfl, hem'⟩ | ⟨rest, hlog, hrest⟩
  · exact hem k p' t q hem' hmany
  · cases rest with
    | nil =>
        rw [List.append_nil] at hlog
        subst hlog
        refine hem k [] t q hrest.symm ?_
        rw [List.append_nil]
        exact hmany
    | cons e rest =>
        obtain ⟨rfl, rfl⟩ := List.cons_eq_cons.mp hrest
        obtain ⟨q', rfl⟩ := h.trips k p t rest hlog hmany
        exact ⟨q' ++ em, rfl⟩

/-- New events keep what locks keep, when all locks of their keys are over. -/
theorem LockInv.apart_append (h : LockInv lockout stripe log w)
    (hem : em.Pairwise (Apart lockout))
    (hover : ∀ e ∈ em, ∀ k t', (e = .runs k t' ∨ ∃ counted, e = .failed k t' counted) →
      ∀ t, .locked k t ∈ log → lockout.unlockAt t ≤ t') :
    (log ++ em).Pairwise (Apart lockout) := by
  refine List.pairwise_append.mpr ⟨h.apart, hem, fun e he e' he' k t t' heq hkind => ?_⟩
  subst heq
  exact hover e' he' k t' hkind t he

/-- A step that shows nothing and leaves the table. -/
theorem LockInv.quiet (h : LockInv lockout stripe log w) {ph : AttemptPhase}
    (hclock : w'.clock = w.clock) (hstate : w'.state = w.state)
    (hphase : w'.phase = Function.update w.phase i ph)
    (howns : ∀ j k, (w'.phase j).key? = some k → w'.stripes (stripe k) = some j)
    (hverifies : ∀ k, ph.verifies = some k → (w.phase i).verifies = some k) :
    LockInv lockout stripe (log ++ []) w' := by
  refine ⟨?_, howns, h.serial_of_phase hclock.ge hphase (fun k t ht => by cases ht) ?_,
    h.apart_append List.Pairwise.nil (fun e he => by cases he), h.trips_append ?_⟩
  · rw [List.append_nil, hclock, hstate]
    exact h.table
  · intro k hk t ht
    rw [List.append_nil] at ht
    rw [hclock]
    exact h.serial i k (hverifies k hk) t ht
  · intro k p t q hnil
    have hlength := congrArg List.length hnil
    simp at hlength

/-- A step that shows one event, which is no counted failure and no lock. -/
theorem LockInv.one (h : LockInv lockout stripe log w) {ph : AttemptPhase} {e : LockEvent}
    (htable : TableInv lockout (log ++ [e]) w'.clock w'.state) (hclock : w.clock ≤ w'.clock)
    (hphase : w'.phase = Function.update w.phase i ph)
    (howns : ∀ j k, (w'.phase j).key? = some k → w'.stripes (stripe k) = some j)
    (hcounted : ∀ k t, e ≠ .failed k t true) (hlocked : ∀ k t, e ≠ .locked k t)
    (hown : ∀ k, ph.verifies = some k → ∀ t, .locked k t ∈ log → lockout.unlockAt t ≤ w'.clock)
    (hover : ∀ k t', (e = .runs k t' ∨ ∃ counted, e = .failed k t' counted) →
      ∀ t, .locked k t ∈ log → lockout.unlockAt t ≤ t') :
    LockInv lockout stripe (log ++ [e]) w' := by
  refine ⟨htable, howns, h.serial_of_phase hclock hphase ?_ ?_,
    h.apart_append (List.pairwise_singleton _ _) ?_, h.trips_append ?_⟩
  · intro k t ht
    exact absurd (List.mem_singleton.mp ht).symm (hlocked k t)
  · intro k hk t ht
    rcases List.mem_append.mp ht with hold | hnew
    · exact hown k hk t hold
    · exact absurd (List.mem_singleton.mp hnew).symm (hlocked k t)
  · intro e' he'
    rw [List.mem_singleton.mp he']
    exact hover
  · intro k p t q hsplit
    cases p with
    | nil => exact absurd (List.cons_eq_cons.mp hsplit).1 (hcounted k t)
    | cons e' rest =>
        have hlength := congrArg List.length hsplit
        simp at hlength

/-- An event that is no failure and resets nothing leaves the table as it is. -/
theorem TableInv.append_quiet {s : LockTable} (h : TableInv lockout log now s) {e : LockEvent}
    (hquiet : ∀ k, e.failTime k = none ∧ e.resets k = false) :
    TableInv lockout (log ++ [e]) now s where
  nodup := h.nodup
  size := h.size
  counts := by
    intro k
    have hkeep : streak k (log ++ [e]) = streak k log := by
      rw [streak_append_of_keeps log (by simp [(hquiet k).2]), failuresIn, List.filterMap_cons,
        (hquiet k).1]
      exact List.append_nil _
    rw [hkeep]
    exact h.counts k
  marks := by
    intro k e₀ u hk hu
    obtain ⟨hnil, t, ht, rfl⟩ := h.marks k e₀ u hk hu
    exact ⟨hnil, t, List.mem_append_left _ ht, rfl⟩
  locks := by
    intro k t ht hlate
    rcases List.mem_append.mp ht with hold | hnew
    · exact h.locks k t hold hlate
    · obtain rfl := List.mem_singleton.mp hnew
      have hreset := (hquiet k).2
      simp [LockEvent.resets] at hreset

/-- **Checking the lock**: a key that is not locked has all its locks behind it. -/
theorem TableInv.over_of_unlocked {s : LockTable} (h : TableInv lockout log now s)
    (hfree : LockWorld.lockOf s key = none) {t : Time} (ht : .locked key t ∈ log) :
    lockout.unlockAt t ≤ now := by
  by_contra hlate
  obtain ⟨e, u, hk, hu, -⟩ := h.locks key t ht (not_le.mp hlate)
  rw [LockWorld.lockOf, hk, Option.bind_some, hu] at hfree
  cases hfree

/-- **Counting a failure** locks the key when there are enough. -/
theorem LockInv.failed (h : LockInv lockout stripe log w) (hi : w.phase i = .verified key false)
    (hle : w.clock ≤ now)
    (hstate : w'.state = (lockout.recordFailureLocked key now (lockout.prune key now w.state)).1)
    (hclock : w'.clock = now) (hphase : w'.phase = Function.update w.phase i .idle)
    (howns : ∀ j k, (w'.phase j).key? = some k → w'.stripes (stripe k) = some j) :
    LockInv lockout stripe
      (log ++ failureEvents lockout key now (lockout.prune key now w.state)) w' := by
  have hkey : (w.phase i).key? = some key := by rw [hi]; rfl
  have hover : ∀ t, .locked key t ∈ log → lockout.unlockAt t ≤ now := fun t ht =>
    (h.serial i key (by rw [hi]; rfl) t ht).trans hle
  have hpruned := h.table.prune hle key
  have htable := hpruned.recordFailure
    (fun e he => h.table.unlocked_prune hover he) hover
  refine ⟨by rw [hclock, hstate]; exact htable, howns, ?_, ?_, h.trips_append ?_⟩
  · refine h.serial_of_phase (hclock ▸ hle) hphase ?_ (fun k hk => by cases hk)
    intro k t ht
    rw [failureEvents_eq, List.mem_append] at ht
    rcases ht with ht | ht
    · obtain ⟨v, -, hv⟩ := List.mem_map.mp ht
      cases hv
    · rcases mem_outcomeEvents ht with ⟨counted, hne⟩ | heq
      · cases hne
      · cases heq
        exact hkey
  · refine h.apart_append ?_ ?_
    · rw [failureEvents_eq]
      have hevicted : ∀ e ∈ (evictedKeys (lockout.prune key now w.state)
          (lockout.recordFailureLocked key now (lockout.prune key now w.state)).1).map
            LockEvent.evicted, ∀ k t, e ≠ .locked k t := by
        intro e he k t heq
        obtain ⟨v, -, rfl⟩ := List.mem_map.mp he
        cases heq
      refine List.pairwise_append.mpr ⟨?_, ?_, ?_⟩
      · refine List.Pairwise.imp_of_mem ?_ (List.pairwise_of_forall (R := fun _ _ => True)
          fun _ _ => trivial)
        intro e e' he _ _ k t t' heq
        exact absurd heq (hevicted e he k t)
      · cases (lockout.recordFailureLocked key now (lockout.prune key now w.state)).2 with
        | none => exact List.pairwise_singleton _ _
        | some e =>
            rw [outcomeEvents]
            refine List.pairwise_cons.mpr ⟨fun e' _ k t t' heq => (by cases heq), ?_⟩
            split
            · exact List.pairwise_singleton _ _
            · exact List.Pairwise.nil
      · intro e he e' _ k t t' heq
        exact absurd heq (hevicted e he k t)
    · intro e he k t' hkind t ht
      rw [failureEvents_eq, List.mem_append] at he
      rcases he with he | he
      · obtain ⟨v, -, rfl⟩ := List.mem_map.mp he
        rcases hkind with hne | ⟨counted, hne⟩
        · cases hne
        · cases hne
      · rcases mem_outcomeEvents he with ⟨counted, rfl⟩ | rfl
        · rcases hkind with hne | ⟨counted', heq⟩
          · cases hne
          · cases heq
            exact hover t ht
        · rcases hkind with hne | ⟨counted, hne⟩
          · cases hne
          · cases hne
  · intro k p t q hsplit hmany
    exact hpruned.locks_of_counted hsplit hmany

/-- A thread that goes on with its attempt keeps its stripe. -/
theorem LockInv.owns_goto (h : LockInv lockout stripe log w) {ph : AttemptPhase}
    (hkey : ph.key? = (w.phase i).key?) (hstripes : w'.stripes = w.stripes)
    (hphase : w'.phase = Function.update w.phase i ph) :
    ∀ j k, (w'.phase j).key? = some k → w'.stripes (stripe k) = some j := by
  intro j k hj
  rw [hstripes]
  rw [hphase] at hj
  by_cases hji : j = i
  · subst hji
    rw [Function.update_self, hkey] at hj
    exact h.owns j k hj
  · rw [Function.update_of_ne hji] at hj
    exact h.owns j k hj

/-- **Taking the stripe.** -/
theorem LockInv.enter (h : LockInv lockout stripe log w)
    (hfree : w.stripes (stripe key) = none) :
    LockInv lockout stripe (log ++ []) { w.goto i (.entered key) with
      stripes := Function.update w.stripes (stripe key) (some i) } := by
  refine h.quiet (i := i) rfl rfl rfl ?_ fun k hk => (by cases hk)
  intro j k hj
  change (Function.update w.phase i (.entered key) j).key? = some k at hj
  change Function.update w.stripes (stripe key) (some i) (stripe k) = some j
  by_cases hji : j = i
  · subst hji
    rw [Function.update_self] at hj
    obtain rfl := Option.some.inj hj
    exact Function.update_self ..
  · rw [Function.update_of_ne hji] at hj
    have howner := h.owns j k hj
    rw [Function.update_of_ne]
    · exact howner
    · intro hsame
      rw [hsame, hfree] at howner
      cases howner

/-- **Checking**: the attempt is refused, or all locks of the key are over. -/
theorem LockInv.check (h : LockInv lockout stripe log w) (hi : w.phase i = .entered key)
    (hle : w.clock ≤ now) :
    (∀ u, LockWorld.lockOf (lockout.prune key now w.state) key = some u →
      LockInv lockout stripe (log ++ [.refused key now (remainingSeconds u now)])
        ({ w with clock := now, state := lockout.prune key now w.state }.leave i (stripe key))) ∧
    (LockWorld.lockOf (lockout.prune key now w.state) key = none →
      LockInv lockout stripe (log ++ [.runs key now])
        ({ w with clock := now, state := lockout.prune key now w.state }.goto i
          (.verifying key))) := by
  have hkey : (w.phase i).key? = some key := by rw [hi]; rfl
  have hpruned := h.table.prune hle key
  constructor
  · intro u _
    refine h.one (i := i) (hpruned.append_quiet fun k => ⟨rfl, rfl⟩) hle rfl
      (h.owns_leave hkey rfl rfl) (fun k t heq => by cases heq) (fun k t heq => by cases heq)
      (fun k hk => by cases hk) ?_
    rintro k t' (heq | ⟨counted, heq⟩)
    · cases heq
    · cases heq
  · intro hfree
    have hover : ∀ t, .locked key t ∈ log → lockout.unlockAt t ≤ now := fun t ht =>
      hpruned.over_of_unlocked hfree ht
    refine h.one (i := i) (hpruned.append_quiet fun k => ⟨rfl, rfl⟩) hle rfl
      (h.owns_goto (by rw [hi]; rfl) rfl rfl) (fun k t heq => by cases heq)
      (fun k t heq => by cases heq) ?_ ?_
    · intro k hk t ht
      obtain rfl := Option.some.inj hk
      exact hover t ht
    · rintro k t' (heq | ⟨counted, heq⟩)
      · cases heq
        exact hover
      · cases heq

/-- **Succeeding** gives the key a fresh start. -/
theorem LockInv.succeeded (h : LockInv lockout stripe log w)
    (hi : w.phase i = .verified key true) :
    LockInv lockout stripe (log ++ [.succeeded key])
      ({ w with state := w.state.pop key }.leave i (stripe key)) := by
  have hkey : (w.phase i).key? = some key := by rw [hi]; rfl
  refine h.one (i := i) (h.table.pop fun t ht => h.serial i key (by rw [hi]; rfl) t ht)
    (le_refl _) rfl (h.owns_leave hkey rfl rfl) (fun k t heq => by cases heq)
    (fun k t heq => by cases heq) (fun k hk => by cases hk) ?_
  rintro k t' (heq | ⟨counted, heq⟩)
  · cases heq
  · cases heq

/-- **One step** keeps what the table has of every key. -/
theorem LockInv.step {op : LockOp} (h : LockInv lockout stripe log w)
    (hstep : LockWorld.Step lockout stripe w op w') :
    LockInv lockout stripe (log ++ w.events lockout op) w' := by
  rw [LockWorld.Step] at hstep
  cases op with
  | enter i key =>
      rw [LockWorld.step] at hstep
      split at hstep
      · split at hstep
        · rename_i hfree
          cases hstep
          exact h.enter hfree
        · cases hstep
      · cases hstep
  | check i now =>
      rw [LockWorld.step] at hstep
      rw [LockWorld.events]
      split at hstep
      · rename_i key hi
        split at hstep
        · rename_i hle
          obtain ⟨hrefused, hruns⟩ := h.check hi hle
          dsimp only at hstep ⊢
          cases hfree : LockWorld.lockOf (lockout.prune key now w.state) key with
          | some u =>
              rw [hfree] at hstep
              cases hstep
              exact hrefused u hfree
          | none =>
              rw [hfree] at hstep
              cases hstep
              exact hruns hfree
        · cases hstep
      · cases hstep
  | verify i ok =>
      rw [LockWorld.step] at hstep
      split at hstep
      · rename_i key hi
        cases hstep
        refine h.quiet (i := i) rfl rfl rfl (h.owns_goto (by rw [hi]; rfl) rfl rfl) ?_
        intro k hk
        rw [hi]
        exact hk
      · cases hstep
  | raises i =>
      rw [LockWorld.step] at hstep
      split at hstep
      · rename_i key hi
        cases hstep
        exact h.quiet (i := i) rfl rfl rfl (h.owns_leave (by rw [hi]; rfl) rfl rfl)
          fun k hk => (by cases hk)
      · cases hstep
  | record i now =>
      rw [LockWorld.step] at hstep
      rw [LockWorld.events]
      split at hstep
      · rename_i key hi
        cases hstep
        exact h.succeeded hi
      · rename_i key hi
        split at hstep
        · rename_i hle
          cases hstep
          exact h.failed hi hle rfl rfl rfl (h.owns_leave (by rw [hi]; rfl) rfl rfl)
        · cases hstep
      · cases hstep

end Step

/-- **A whole run** keeps what the table has of every key. -/
theorem LockInv.run {lockout : LoginLockout} {stripe : String → ℕ} {clock : Time}
    {tr : List (LockWorld × LockOp)} {w : LockWorld}
    (hrun : Run (LockWorld.Step lockout stripe) (.initial clock) tr w) :
    LockInv lockout stripe (emitted (LockWorld.events lockout) tr) w :=
  hrun.invariant_log (fun log w => LockInv lockout stripe log w)
    (fun h hstep => h.step hstep) (LockInv.initial lockout stripe clock)

/-! ### Times -/

/-- When something happened. -/
def LockEvent.time : LockEvent → Option Time
  | .refused _ t _ | .runs _ t | .failed _ t _ | .locked _ t => some t
  | .succeeded _ | .evicted _ => none

/-- The events so far came in the order of their times, and the clock is not behind. -/
structure LockTimes (log : List LockEvent) (clock : Time) : Prop where
  past : ∀ e ∈ log, ∀ t, e.time = some t → t ≤ clock
  order : log.Pairwise fun e e' => ∀ t t', e.time = some t → e'.time = some t' → t ≤ t'

/-- What a step shows happens at its time, and the clock does not go back. -/
theorem LockWorld.Step.times {lockout : LoginLockout} {stripe : String → ℕ} {w w' : LockWorld}
    {op : LockOp} (hstep : LockWorld.Step lockout stripe w op w') :
    w.clock ≤ w'.clock ∧ ∀ e ∈ w.events lockout op, ∀ t, e.time = some t → t = w'.clock := by
  rw [LockWorld.Step] at hstep
  cases op with
  | enter i key =>
      rw [LockWorld.step] at hstep
      split at hstep
      · split at hstep
        · cases hstep
          exact ⟨le_refl _, fun e he => (by cases he)⟩
        · cases hstep
      · cases hstep
  | check i now =>
      rw [LockWorld.step] at hstep
      rw [LockWorld.events]
      split at hstep
      · rename_i key hi
        split at hstep
        · rename_i hle
          have hclock : w'.clock = now := by
            dsimp only at hstep
            split at hstep
            · cases hstep
              rfl
            · cases hstep
              rfl
          rw [hclock]
          refine ⟨hle, fun e he t ht => ?_⟩
          split at he
          · rw [List.mem_singleton.mp he] at ht
            exact (Option.some.inj ht).symm
          · rw [List.mem_singleton.mp he] at ht
            exact (Option.some.inj ht).symm
        · cases hstep
      · cases hstep
  | verify i ok =>
      rw [LockWorld.step] at hstep
      split at hstep
      · cases hstep
        exact ⟨le_refl _, fun e he => (by cases he)⟩
      · cases hstep
  | raises i =>
      rw [LockWorld.step] at hstep
      split at hstep
      · cases hstep
        exact ⟨le_refl _, fun e he => (by cases he)⟩
      · cases hstep
  | record i now =>
      rw [LockWorld.step] at hstep
      rw [LockWorld.events]
      split at hstep
      · cases hstep
        refine ⟨le_refl _, fun e he t ht => ?_⟩
        rw [List.mem_singleton.mp he] at ht
        cases ht
      · rename_i key hi
        split at hstep
        · rename_i hle
          cases hstep
          refine ⟨hle, fun e he t ht => ?_⟩
          rw [failureEvents_eq, List.mem_append] at he
          rcases he with he | he
          · obtain ⟨v, -, rfl⟩ := List.mem_map.mp he
            cases ht
          · rcases mem_outcomeEvents he with ⟨counted, rfl⟩ | rfl
            · exact (Option.some.inj ht).symm
            · exact (Option.some.inj ht).symm
        · cases hstep
      · cases hstep

/-- **The events of a run** are in the order of their times. -/
theorem LockTimes.run {lockout : LoginLockout} {stripe : String → ℕ} {clock : Time}
    {tr : List (LockWorld × LockOp)} {w : LockWorld}
    (hrun : Run (LockWorld.Step lockout stripe) (.initial clock) tr w) :
    LockTimes (emitted (LockWorld.events lockout) tr) w.clock := by
  refine hrun.invariant_log (fun log w => LockTimes log w.clock) ?_
    ⟨fun e he => (by cases he), List.Pairwise.nil⟩
  intro log w op w' h hstep
  obtain ⟨hclock, htimes⟩ := hstep.times
  refine ⟨fun e he t ht => ?_, List.pairwise_append.mpr ⟨h.order, ?_, ?_⟩⟩
  · rcases List.mem_append.mp he with he | he
    · exact (h.past e he t ht).trans hclock
    · exact (htimes e he t ht).le
  · refine List.Pairwise.imp_of_mem (fun he he' _ t t' ht ht' => ?_)
      (List.pairwise_of_forall fun _ _ => trivial)
    rw [htimes _ he t ht, htimes _ he' t' ht']
  · intro e he e' he' t t' ht ht'
    rw [htimes e' he' t' ht']
    exact (h.past e he t ht).trans hclock

/-- A failure has the time of its event. -/
theorem mem_failuresIn {key : String} {t : Time} {log : List LockEvent} :
    t ∈ failuresIn key log ↔ ∃ counted, .failed key t counted ∈ log := by
  rw [failuresIn, List.mem_filterMap]
  constructor
  · rintro ⟨e, he, ht⟩
    cases e with
    | failed k t' counted =>
        rw [LockEvent.failTime] at ht
        split at ht
        · rename_i hk
          cases ht
          exact ⟨counted, hk ▸ he⟩
        · cases ht
    | refused k t' r => cases ht
    | runs k t' => cases ht
    | locked k t' => cases ht
    | succeeded k => cases ht
    | evicted k => cases ht
  · rintro ⟨counted, he⟩
    exact ⟨_, he, if_pos rfl⟩

/-! ### Enough failures -/

/-- The last lock of a key among events, if there is one. -/
theorem last_locked (key : String) (seg : List LockEvent) :
    (∀ t, .locked key t ∉ seg) ∨
      ∃ s₁ t s₂, seg = s₁ ++ .locked key t :: s₂ ∧ ∀ t', .locked key t' ∉ s₂ := by
  induction seg with
  | nil => exact .inl fun t h => (by cases h)
  | cons e rest ih =>
      rcases ih with hnone | ⟨s₁, t, s₂, rfl, hs₂⟩
      · by_cases he : ∃ t, e = .locked key t
        · obtain ⟨t, rfl⟩ := he
          exact .inr ⟨[], t, rest, rfl, hnone⟩
        · refine .inl fun t ht => ?_
          rcases List.mem_cons.mp ht with rfl | ht
          · exact he ⟨t, rfl⟩
          · exact hnone t ht
      · exact .inr ⟨e :: s₁, t, s₂, rfl, hs₂⟩

/-- The `n`-th failure of a key. -/
theorem nth_failure (key : String) (seg : List LockEvent) {n : ℕ}
    (h : n < (failuresIn key seg).length) :
    ∃ a t counted b, seg = a ++ .failed key t counted :: b ∧ (failuresIn key a).length = n := by
  induction seg generalizing n with
  | nil => simp [failuresIn] at h
  | cons e rest ih =>
      cases he : e.failTime key with
      | none =>
          have hsame : ∀ l, failuresIn key (e :: l) = failuresIn key l := fun l =>
            List.filterMap_cons_none he
          rw [hsame] at h
          obtain ⟨a, t, counted, b, rfl, ha⟩ := ih h
          exact ⟨e :: a, t, counted, b, rfl, by rw [hsame, ha]⟩
      | some t =>
          have hmore : ∀ l, failuresIn key (e :: l) = t :: failuresIn key l := fun l =>
            List.filterMap_cons_some he
          cases n with
          | zero =>
              have hmem : t ∈ failuresIn key [e] := by
                rw [hmore]
                exact List.mem_cons_self ..
              obtain ⟨counted, hcounted⟩ := mem_failuresIn.mp hmem
              rw [← List.mem_singleton.mp hcounted]
              exact ⟨[], t, counted, rest, rfl, rfl⟩
          | succ n =>
              rw [hmore, List.length_cons, Nat.succ_lt_succ_iff] at h
              obtain ⟨a, t', counted, b, rfl, ha⟩ := ih h
              exact ⟨e :: a, t', counted, b, rfl, by rw [hmore, List.length_cons, ha]⟩

/-- An event that does not lock a key starts its count over only if it forgets it. -/
theorem resets_eq_false {key : String} {e : LockEvent} (hforgets : e.forgets key = false)
    (hlocked : ∀ t, e ≠ .locked key t) : e.resets key = false := by
  cases e with
  | locked k t =>
      change (k == key) = false
      rw [beq_eq_false_iff_ne]
      rintro rfl
      exact hlocked t rfl
  | refused k t r => exact hforgets
  | runs k t => exact hforgets
  | failed k t counted => exact hforgets
  | succeeded k => exact hforgets
  | evicted k => exact hforgets

section Enough

variable {lockout : LoginLockout} {stripe : String → ℕ} {log : List LockEvent} {w : LockWorld}
  {key : String} {before seg after : List LockEvent} {last : Time}

/-- **Enough failures** with nothing lost in between lock the key. -/
theorem LockInv.locks_after (h : LockInv lockout stripe log w)
    (hlog : log = before ++ seg ++ .failed key last true :: after)
    (hmany : lockout.maxFailures ≤ (failuresIn key seg).length + 1)
    (hwindow : ∀ t ∈ failuresIn key seg, lockout.cutoff last < t)
    (hkept : ∀ e ∈ seg, e.resets key = false) : ∃ q, after = .locked key last :: q := by
  refine h.trips key (before ++ seg) last after hlog (hmany.trans ?_)
  rw [streak_append_of_keeps _ hkept, LoginLockout.counting, List.filter_append,
    List.length_append]
  have hall : (failuresIn key seg).filter (lockout.cutoff last < ·) = failuresIn key seg :=
    List.filter_eq_self.mpr fun t ht => decide_eq_true (hwindow t ht)
  rw [hall]
  omega

/-- A lock before the last failure leaves only failures that are older than a lock. -/
theorem LockInv.failuresIn_before_lock (h : LockInv lockout stripe log w)
    (htimes : LockTimes log w.clock) {s₁ s₂ : List LockEvent} {t : Time} {counted : Bool}
    (hlog : log = before ++ (s₁ ++ .locked key t :: s₂) ++ .failed key last counted :: after) :
    ∀ f ∈ failuresIn key s₁, lockout.unlockAt f ≤ last := by
  intro f hf
  obtain ⟨c, hmem⟩ := mem_failuresIn.mp hf
  have hsplit : log = (before ++ s₁) ++ .locked key t :: (s₂ ++ .failed key last counted ::
      after) := by
    rw [hlog]
    simp
  have hft : f ≤ t := by
    have horder := htimes.order
    rw [hsplit, List.pairwise_append] at horder
    exact horder.2.2 _ (List.mem_append_right _ hmem) _ (List.mem_cons_self ..) f t rfl rfl
  have hlater : lockout.unlockAt t ≤ last := by
    have hapart := h.apart
    rw [hsplit, List.pairwise_append, List.pairwise_cons] at hapart
    exact hapart.2.1.1 _ (by simp) key t last rfl (.inr ⟨counted, rfl⟩)
  exact (add_le_add_left hft _).trans hlater

/-- **Enough failures** lock the key, also with a lock among them, when none of them is older
than a lock. -/
theorem LockInv.locks_after_locked (h : LockInv lockout stripe log w)
    (htimes : LockTimes log w.clock)
    (hlog : log = before ++ seg ++ .failed key last true :: after)
    (hmany : lockout.maxFailures ≤ (failuresIn key seg).length + 1)
    (hwindow : ∀ t ∈ failuresIn key seg, lockout.cutoff last < t)
    (hkept : ∀ e ∈ seg, e.forgets key = false)
    (hshort : (∀ t, .locked key t ∉ seg) ∨
      ∀ t ∈ failuresIn key seg, last < lockout.unlockAt t) :
    ∃ q, after = .locked key last :: q := by
  rcases last_locked key seg with hnone | ⟨s₁, t, s₂, rfl, hs₂⟩
  · refine h.locks_after hlog hmany hwindow fun e he => resets_eq_false (hkept e he) ?_
    rintro t rfl
    exact hnone t he
  · have hfresh : ∀ f ∈ failuresIn key (s₁ ++ .locked key t :: s₂),
        last < lockout.unlockAt f := by
      rcases hshort with hnone | hfresh
      · exact absurd (List.mem_append_right s₁ (List.mem_cons_self ..)) (hnone t)
      · exact hfresh
    have hsplit : failuresIn key (s₁ ++ .locked key t :: s₂) =
        failuresIn key s₁ ++ failuresIn key s₂ := List.filterMap_append
    rw [hsplit] at hmany hwindow hfresh
    have hold : failuresIn key s₁ = [] := by
      refine List.eq_nil_iff_forall_not_mem.mpr fun f hf => ?_
      exact absurd (h.failuresIn_before_lock htimes hlog f hf)
        (not_le.mpr (hfresh f (List.mem_append_left _ hf)))
    rw [hold, List.nil_append] at hmany hwindow
    have hlog' : log = (before ++ s₁ ++ [.locked key t]) ++ s₂ ++ .failed key last true ::
        after := by
      rw [hlog]
      simp
    refine h.locks_after hlog' hmany hwindow fun e he =>
      resets_eq_false (hkept e (by simp [he])) ?_
    · rintro t' rfl
      exact hs₂ t' he

end Enough

/-- **Lockouts are not outrun** while the count of a key is kept: failures of a key within the
failure window, with no success, no loss of the count and, when a lock is shorter than the
window, no lock in between, lock the key once there are enough; then nothing runs for it until
the lock is over. Fewer than that run in a window shorter than the lock and the failure window.
The table keeps to its size. -/
theorem lockout_not_outrun {lockout : LoginLockout} {stripe : String → ℕ} {clock : Time}
    {tr : List (LockWorld × LockOp)} {w : LockWorld} (hpos : 0 < lockout.maxFailures)
    (hrun : Run (LockWorld.Step lockout stripe) (.initial clock) tr w) :
    (∀ key before seg last after,
      emitted (LockWorld.events lockout) tr = before ++ seg ++ .failed key last true :: after →
      lockout.maxFailures ≤ (failuresIn key seg).length + 1 →
      (∀ t ∈ failuresIn key seg, lockout.cutoff last < t) →
      (∀ e ∈ seg, e.forgets key = false) →
      (lockout.lockoutSeconds < lockout.failureWindowSeconds → ∀ t, .locked key t ∉ seg) →
      ∀ t, .runs key t ∈ after → lockout.unlockAt last ≤ t) ∧
    (∀ key before seg after start stop,
      emitted (LockWorld.events lockout) tr = before ++ seg ++ after →
      stop < lockout.unlockAt start → lockout.cutoff stop < start →
      (∀ t ∈ failuresIn key seg, start ≤ t ∧ t ≤ stop) →
      (∀ e ∈ seg, e.forgets key = false) →
      (failuresIn key seg).length ≤ lockout.maxFailures) ∧
    Holds (fun w => w.state.length ≤ lockout.maxTrackedAccounts) tr w := by
  have hinv := LockInv.run hrun
  have htimes := LockTimes.run hrun
  refine ⟨?_, ?_, ?_⟩
  · intro key before seg last after hlog hmany hwindow hkept hnolock t ht
    have hshort : (∀ t, .locked key t ∉ seg) ∨
        ∀ t ∈ failuresIn key seg, last < lockout.unlockAt t := by
      by_cases hlt : lockout.lockoutSeconds < lockout.failureWindowSeconds
      · exact .inl (hnolock hlt)
      · refine .inr fun f hf => ?_
        exact LoginLockout.lt_unlockAt (not_lt.mp hlt) (hwindow f hf)
    obtain ⟨q, rfl⟩ := hinv.locks_after_locked htimes hlog hmany hwindow hkept hshort
    have hapart := hinv.apart
    rw [hlog, List.pairwise_append, List.pairwise_cons, List.pairwise_cons] at hapart
    rcases List.mem_cons.mp ht with hne | ht
    · cases hne
    · exact hapart.2.1.2.1 _ ht key last t rfl (.inl rfl)
  · intro key before seg after start stop hlog hlock hfail hwindow hkept
    by_contra hmany
    rw [not_le] at hmany
    obtain ⟨a, t₂, c₂, b, rfl, ha⟩ := nth_failure key _ hmany
    obtain ⟨a', t₁, c₁, b', rfl, ha'⟩ :=
      nth_failure key a (n := lockout.maxFailures - 1) (by omega)
    have hc₁ : c₁ = true := by
      have hforgets := hkept (.failed key t₁ c₁) (by simp)
      simpa [LockEvent.forgets] using hforgets
    subst hc₁
    have hin : ∀ t c, .failed key t c ∈ a' ++ .failed key t₁ true :: b' ++
        .failed key t₂ c₂ :: b → start ≤ t ∧ t ≤ stop := fun t c hmem =>
      hwindow t (mem_failuresIn.mpr ⟨c, hmem⟩)
    have ht₁ := hin t₁ true (by simp)
    have ht₂ := hin t₂ c₂ (by simp)
    have hfails : ∀ t ∈ failuresIn key a', start ≤ t := by
      intro t ht
      obtain ⟨c, hmem⟩ := mem_failuresIn.mp ht
      exact (hin t c (by simp [hmem])).1
    have hlog' : emitted (LockWorld.events lockout) tr = before ++ a' ++
        .failed key t₁ true :: (b' ++ .failed key t₂ c₂ :: b ++ after) := by
      rw [hlog]
      simp
    have hcut : ∀ t ∈ failuresIn key a', lockout.cutoff t₁ < t := fun t ht =>
      (LoginLockout.cutoff_mono ht₁.2).trans_lt (hfail.trans_le (hfails t ht))
    have hunlock : ∀ t, start ≤ t → stop < lockout.unlockAt t := fun t ht =>
      hlock.trans_le (add_le_add_left ht _)
    obtain ⟨q, hq⟩ := hinv.locks_after_locked htimes hlog' (by omega) hcut
      (fun e he => hkept e (by simp [he]))
      (.inr fun t ht => ht₁.2.trans_lt (hunlock t (hfails t ht)))
    have hapart := hinv.apart
    rw [hlog', hq, List.pairwise_append, List.pairwise_cons, List.pairwise_cons] at hapart
    have hmem : LockEvent.failed key t₂ c₂ ∈ .locked key t₁ :: q := by
      rw [← hq]
      simp
    rcases List.mem_cons.mp hmem with hne | hmem
    · cases hne
    · have hlate := hapart.2.1.2.1 _ hmem key t₁ t₂ rfl (.inr ⟨c₂, rfl⟩)
      exact absurd (hlate.trans ht₂.2) (not_le.mpr (hunlock t₁ ht₁.1))
  · have hall : Holds (fun w => ∃ log, LockInv lockout stripe log w) tr w :=
      hrun.invariant (fun ⟨_, h⟩ hstep => ⟨_, h.step hstep⟩)
        ⟨[], LockInv.initial lockout stripe clock⟩
    exact hall.mono fun w ⟨_, h⟩ => h.table.size

/-- What a thread does when the password is wrong. -/
def failedAttempt (i : ℕ) (key : String) (now : Time) : List LockOp :=
  [.enter i key, .check i now, .verify i false, .record i now]

/-- The theorem at work: two failures lock an account of a table with room for one, and the
next attempt is refused. -/
theorem lockout_not_outrun_two :
    let lockout : LoginLockout := ⟨2, 300, 900, 1⟩
    let ops := failedAttempt 0 "a" 0 ++ failedAttempt 1 "a" 1 ++ [.enter 2 "a", .check 2 2]
    let log := emitted (LockWorld.events lockout)
      (traceOf (LockWorld.step lockout fun _ => 0) (.initial 0) ops)
    log = [.runs "a" 0, .failed "a" 0 true, .runs "a" 1] ++ .failed "a" 1 true ::
        [.locked "a" 1, .refused "a" 2 900] ∧
      ∀ t, .runs "a" t ∈ [LockEvent.locked "a" 1, .refused "a" 2 900] → 900000001 ≤ t := by
  intro lockout ops log
  have hlog : log = [.runs "a" 0, .failed "a" 0 true, .runs "a" 1] ++ .failed "a" 1 true ::
      [.locked "a" 1, .refused "a" 2 900] := by decide
  have hpos : 0 < lockout.maxFailures := by decide
  have htaken : (ops.foldlM (LockWorld.step lockout fun _ => 0) (.initial 0)).isSome = true := by
    decide
  obtain ⟨w, hw⟩ := Option.isSome_iff_exists.mp htaken
  have hunlock : lockout.unlockAt 1 = 900000001 := by decide
  have hlate := (lockout_not_outrun hpos (Run.of_foldlM hw)).1 "a" []
    [.runs "a" 0, .failed "a" 0 true, .runs "a" 1] 1 _ hlog (by decide) (by decide) (by decide)
    fun hlt => absurd hlt (by decide)
  rw [hunlock] at hlate
  exact ⟨hlog, hlate⟩

/-- **An eviction lets a key outrun its lockout.** With room for one account, a failure of
another one makes the table forget the first failure of an account, so that its second failure
does not lock it and its third verification runs at once. -/
theorem eviction_outruns_lockout :
    let lockout : LoginLockout := ⟨2, 300, 900, 1⟩
    ∃ tr w, Run (LockWorld.Step lockout fun _ => 0) (.initial 0) tr w ∧
      ¬ ∀ key before seg last counted after,
        emitted (LockWorld.events lockout) tr =
          before ++ seg ++ .failed key last counted :: after →
        lockout.maxFailures ≤ (failuresIn key seg).length + 1 →
        (∀ t ∈ failuresIn key seg, lockout.cutoff last < t) →
        .succeeded key ∉ seg →
        ∀ t, .runs key t ∈ after → lockout.unlockAt last ≤ t := by
  intro lockout
  let ops := failedAttempt 0 "a" 0 ++ failedAttempt 1 "b" 1 ++ failedAttempt 2 "a" 2 ++
    [.enter 3 "a", .check 3 3]
  have htaken : (ops.foldlM (LockWorld.step lockout fun _ => 0) (.initial 0)).isSome = true := by
    decide
  obtain ⟨w, hw⟩ := Option.isSome_iff_exists.mp htaken
  refine ⟨_, w, Run.of_foldlM hw, fun hclaim => ?_⟩
  have hlog : emitted (LockWorld.events lockout)
      (traceOf (LockWorld.step lockout fun _ => 0) (.initial 0) ops) =
        [] ++ [.runs "a" 0, .failed "a" 0 true, .runs "b" 1, .evicted "a", .failed "b" 1 true,
          .runs "a" 2, .evicted "b"] ++ .failed "a" 2 true :: [.runs "a" 3] := by decide
  have hlate := hclaim "a" _ _ 2 true _ hlog (by decide) (by decide) (by decide) 3 (by decide)
  exact absurd hlate (by decide)

end StabilityPlatform
