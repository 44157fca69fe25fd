import StabilityPlatform.Lease.LeaseManager
import StabilityPlatform.Lib.Dict
import StabilityPlatform.Lib.Run

/-!
# Login lockout

Failed logins of an account are counted, and enough of them within a window lock the account.
An attempt holds the stripe of its key while it checks the lock, verifies the password and
counts the outcome; the table itself is locked only for the check and for the count, so that
attempts on other stripes run in between. The table has room for so many accounts; the oldest
one that is not locked makes room for a new one, and a new one is not tracked when all are
locked.

## Main results

* `lookup_prune`, `recordFailureLocked_spec`: what an attempt does to the accounts.
* `spared_evict`: **locked accounts** are not evicted.
* `length_recordFailureLocked`: **the table keeps to its size**.
-/

namespace StabilityPlatform

/-! ### The table -/

/-- The settings. -/
structure LoginLockout where
  maxFailures : ℕ
  failureWindowSeconds : ℕ
  lockoutSeconds : ℕ
  maxTrackedAccounts : ℕ

/-- What is known of an account. -/
structure LockEntry where
  failures : List Time
  lockedUntil : Option Time
  deriving DecidableEq

/-- The accounts, the least recently active one first. -/
abbrev LockTable := List (String × LockEntry)

/-- `_state.pop(key, None)`. -/
def LockTable.pop (s : LockTable) (key : String) : LockTable := s.filter fun p => p.1 != key

/-- Whether an entry may be evicted. -/
def LockEntry.evictable (now : Time) (e : LockEntry) : Bool := e.lockedUntil.all (· ≤ now)

namespace LoginLockout

variable (lockout : LoginLockout)

/-- What is before this no longer counts. -/
def cutoff (now : Time) : Time := Time.addSeconds now (-lockout.failureWindowSeconds)

/-- The entry without what is over. -/
def pruneEntry (now : Time) (e : LockEntry) : LockEntry :=
  if e.lockedUntil.any (· ≤ now) then ⟨[], none⟩
  else { e with failures := e.failures.filter (lockout.cutoff now < ·) }

/-- `_prune`: an entry with nothing left is dropped. -/
def prune (key : String) (now : Time) (s : LockTable) : LockTable :=
  match s.lookup key with
  | none => s
  | some e =>
    let e := lockout.pruneEntry now e
    if e.failures.isEmpty && e.lockedUntil.isNone then s.pop key
    else s.map fun p => if p.1 == key then (p.1, e) else p

/-- `_evict_if_needed`, with a bound on the rounds of its loop. -/
def evict (now : Time) : ℕ → LockTable → Bool × LockTable
  | 0, s => (decide (s.length < lockout.maxTrackedAccounts), s)
  | rounds + 1, s =>
    if s.length < lockout.maxTrackedAccounts then (true, s)
    else
      match s.find? fun p => p.2.evictable now with
      | none => (false, s)
      | some victim => evict now rounds (s.pop victim.1)

/-- `_evict_if_needed`: every round drops an account. -/
def evictIfNeeded (now : Time) (s : LockTable) : Bool × LockTable := lockout.evict now s.length s

/-- The entry after one more failure. -/
def failEntry (now : Time) (e : LockEntry) : LockEntry :=
  if lockout.maxFailures ≤ (e.failures ++ [now]).length then
    ⟨[], some (now.addSeconds lockout.lockoutSeconds)⟩
  else { e with failures := e.failures ++ [now] }

/-- Whether a failure locks the account. -/
def locks (e : LockEntry) : Bool := decide (lockout.maxFailures ≤ e.failures.length + 1)

/-- `_record_failure_locked`: the table, and the entry the failure was added to, if the account
is tracked. -/
def recordFailureLocked (key : String) (now : Time) (s : LockTable) :
    LockTable × Option LockEntry :=
  match s.lookup key with
  | some e => (s.pop key ++ [(key, lockout.failEntry now e)], some e)
  | none =>
    let (room, s) := lockout.evictIfNeeded now s
    if room then (s.pop key ++ [(key, lockout.failEntry now ⟨[], none⟩)], some ⟨[], none⟩)
    else (s, none)

end LoginLockout

/-- `_remaining_seconds`. -/
def remainingSeconds (lockedUntil now : Time) : ℤ := max 1 (-((now - lockedUntil) / 1000000))

/-! ### Attempts -/

/-- Where an attempt is; from `entered` on it has the stripe of its key. -/
inductive AttemptPhase where
  | idle
  | entered (key : String)
  | verifying (key : String)
  | verified (key : String) (ok : Bool)
  deriving DecidableEq

/-- The key an attempt verifies a password for. -/
def AttemptPhase.verifies : AttemptPhase → Option String
  | .verifying key | .verified key _ => some key
  | _ => none

/-- The key an attempt is for. -/
def AttemptPhase.key? : AttemptPhase → Option String
  | .idle => none
  | .entered key | .verifying key | .verified key _ => some key

/-- The table, the stripes with the threads that have them, and the threads. -/
structure LockWorld where
  clock : Time
  state : LockTable
  stripes : ℕ → Option ℕ
  phase : ℕ → AttemptPhase

/-- Nothing was tried. -/
def LockWorld.initial (clock : Time) : LockWorld := ⟨clock, [], fun _ => none, fun _ => .idle⟩

/-- What a thread does in an attempt: it takes the stripe, checks the lock, verifies the password
with a result or an exception, and counts the result. -/
inductive LockOp where
  | enter (i : ℕ) (key : String)
  | check (i : ℕ) (now : Time)
  | verify (i : ℕ) (ok : Bool)
  | raises (i : ℕ)
  | record (i : ℕ) (now : Time)

namespace LockWorld

/-- A thread somewhere else in its attempt. -/
def goto (w : LockWorld) (i : ℕ) (ph : AttemptPhase) : LockWorld :=
  { w with phase := Function.update w.phase i ph }

/-- A thread that leaves the attempt and gives the stripe back. -/
def leave (w : LockWorld) (i stripe : ℕ) : LockWorld :=
  { w with phase := Function.update w.phase i .idle
           stripes := Function.update w.stripes stripe none }

/-- Whether an account is locked, in a table that was just pruned. -/
def lockOf (s : LockTable) (key : String) : Option Time := (s.lookup key).bind LockEntry.lockedUntil

/-- One step of `guarded_attempt`; the clock does not go back. -/
def step (lockout : LoginLockout) (stripe : String → ℕ) (w : LockWorld) :
    LockOp → Option LockWorld
  | .enter i key =>
    match w.phase i with
    | .idle =>
      if w.stripes (stripe key) = none then
        some { w.goto i (.entered key) with
          stripes := Function.update w.stripes (stripe key) (some i) }
      else none
    | _ => none
  | .check i now =>
    match w.phase i with
    | .entered key =>
      if w.clock ≤ now then
        let pruned := { w with clock := now, state := lockout.prune key now w.state }
        if (lockOf pruned.state key).isSome then some (pruned.leave i (stripe key))
        else some (pruned.goto i (.verifying key))
      else none
    | _ => none
  | .verify i ok =>
    match w.phase i with
    | .verifying key => some (w.goto i (.verified key ok))
    | _ => none
  | .raises i =>
    match w.phase i with
    | .verifying key => some (w.leave i (stripe key))
    | _ => none
  | .record i now =>
    match w.phase i with
    | .verified key true => some ({ w with state := w.state.pop key }.leave i (stripe key))
    | .verified key false =>
      if w.clock ≤ now then
        some ({ w with
          clock := now
          state := (lockout.recordFailureLocked key now (lockout.prune key now w.state)).1 }.leave
            i (stripe key))
      else none
    | _ => none

/-- The steps as a relation. -/
def Step (lockout : LoginLockout) (stripe : String → ℕ) (w : LockWorld) (op : LockOp)
    (w' : LockWorld) : Prop := w.step lockout stripe op = some w'

end LockWorld

/-! ### What can be seen -/

/-- What happens to accounts: an attempt is refused, a verification runs, it fails and the
failure is counted or not, the account is locked, it succeeds, an account is evicted. -/
inductive LockEvent where
  | refused (key : String) (at_ : Time) (remaining : ℤ)
  | runs (key : String) (at_ : Time)
  | failed (key : String) (at_ : Time) (counted : Bool)
  | locked (key : String) (at_ : Time)
  | succeeded (key : String)
  | evicted (key : String)
  deriving DecidableEq

/-- The accounts that made room. -/
def evictedKeys (s s' : LockTable) : List String :=
  (s.map Prod.fst).filter fun key => !(s'.map Prod.fst).contains key

/-- What a counted failure shows. -/
def failureEvents (lockout : LoginLockout) (key : String) (now : Time) (s : LockTable) :
    List LockEvent :=
  let (s', entry) := lockout.recordFailureLocked key now s
  (evictedKeys s s').map .evicted ++
    match entry with
    | none => [.failed key now false]
    | some e => .failed key now true :: if lockout.locks e then [.locked key now] else []

/-- What a step shows. -/
def LockWorld.events (lockout : LoginLockout) (w : LockWorld) : LockOp → List LockEvent
  | .check i now =>
    match w.phase i with
    | .entered key =>
      match LockWorld.lockOf (lockout.prune key now w.state) key with
      | some until_ => [.refused key now (remainingSeconds until_ now)]
      | none => [.runs key now]
    | _ => []
  | .record i now =>
    match w.phase i with
    | .verified key true => [.succeeded key]
    | .verified key false => failureEvents lockout key now (lockout.prune key now w.state)
    | _ => []
  | _ => []

/-! ### Looking an account up -/

/-- Looking an account up after one was dropped. -/
theorem lookup_pop (s : LockTable) (key k : String) :
    (s.pop key).lookup k = if k = key then none else s.lookup k := by
  induction s with
  | nil => simp [LockTable.pop]
  | cons p rest ih =>
      rw [LockTable.pop] at ih ⊢
      by_cases hp : p.1 = key
      · rw [List.filter_cons_of_neg (by simpa using hp), ih]
        by_cases hk : k = key
        · rw [if_pos hk, if_pos hk]
        · have hne : (k == p.1) = false := by simpa [hp] using hk
          rw [if_neg hk, if_neg hk, List.lookup_cons, hne]
      · rw [List.filter_cons_of_pos (by simpa using hp), List.lookup_cons, List.lookup_cons, ih]
        cases hkp : k == p.1 with
        | true =>
            have hk : ¬k = key := fun h => hp ((beq_iff_eq.mp hkp).symm.trans h)
            simp only [if_neg hk]
        | false => rfl

/-- Looking an account up after one was written at the end. -/
theorem lookup_put (s : LockTable) (key : String) (e : LockEntry) (k : String) :
    (s.pop key ++ [(key, e)]).lookup k = if k = key then some e else s.lookup k := by
  rw [List.lookup_append, lookup_pop]
  by_cases hk : k = key
  · subst hk
    simp
  · have hne : (k == key) = false := by simpa using hk
    simp [List.lookup_cons, hk, hne]

/-- Looking an account up after one was written in place. -/
theorem lookup_replace (s : LockTable) (key : String) (e : LockEntry) (k : String) :
    (s.map fun p => if p.1 == key then (p.1, e) else p).lookup k =
      if k = key then (s.lookup k).map fun _ => e else s.lookup k := by
  induction s with
  | nil => simp
  | cons p rest ih =>
      rw [List.map_cons, List.lookup_cons, List.lookup_cons, ih]
      by_cases hp : p.1 = key
      · rw [if_pos (beq_iff_eq.mpr hp)]
        cases hkp : k == p.1 with
        | true =>
            have hk : k = key := (beq_iff_eq.mp hkp).trans hp
            simp only [if_pos hk, Option.map_some]
        | false => rfl
      · rw [if_neg (by simpa using hp)]
        cases hkp : k == p.1 with
        | true =>
            have hk : ¬k = key := fun h => hp ((beq_iff_eq.mp hkp).symm.trans h)
            simp only [if_neg hk]
        | false => rfl

/-- Keys stay distinct when one is dropped. -/
theorem nodup_pop {s : LockTable} (h : (s.map Prod.fst).Nodup) (key : String) :
    ((s.pop key).map Prod.fst).Nodup :=
  h.sublist (List.filter_sublist.map Prod.fst)

/-- Keys stay distinct when one is written at the end. -/
theorem nodup_put {s : LockTable} (h : (s.map Prod.fst).Nodup) (key : String) (e : LockEntry) :
    ((s.pop key ++ [(key, e)]).map Prod.fst).Nodup := by
  rw [List.map_append, List.nodup_append]
  refine ⟨nodup_pop h key, by simp, ?_⟩
  rintro a ha b hb rfl
  obtain ⟨p, hp, rfl⟩ := List.mem_map.mp ha
  rw [LockTable.pop, List.mem_filter] at hp
  have hkey : p.1 = key := by simpa using hb
  simp [hkey] at hp

/-- The size after an account was dropped. -/
theorem length_pop_le (s : LockTable) (key : String) : (s.pop key).length ≤ s.length :=
  List.length_filter_le _ _

/-- Dropping an account that is there makes room. -/
theorem length_pop_lt {s : LockTable} {p : String × LockEntry} (h : p ∈ s) :
    (s.pop p.1).length < s.length := by
  refine List.length_filter_lt_length_iff_exists.mpr ⟨p, h, ?_⟩
  simp

namespace LoginLockout

variable {lockout : LoginLockout} {now : Time}

/-! ### Pruning -/

/-- What is left of an entry, if anything is. -/
def restOf (lockout : LoginLockout) (now : Time) (e : LockEntry) : Option LockEntry :=
  let e := lockout.pruneEntry now e
  if e.failures.isEmpty && e.lockedUntil.isNone then none else some e

/-- **Pruning** touches one entry. -/
theorem lookup_prune (key : String) (s : LockTable) (k : String) :
    (lockout.prune key now s).lookup k =
      if k = key then (s.lookup k).bind (lockout.restOf now) else s.lookup k := by
  rw [prune]
  by_cases hk : k = key
  · subst hk
    rw [if_pos rfl]
    cases hs : s.lookup k with
    | none => exact hs
    | some e =>
        dsimp only
        rw [Option.bind_some, restOf]
        split
        · rw [lookup_pop, if_pos rfl]
        · rw [lookup_replace, if_pos rfl, hs]
          rfl
  · rw [if_neg hk]
    cases hs : s.lookup key with
    | none => rfl
    | some e =>
        dsimp only
        split
        · rw [lookup_pop, if_neg hk]
        · rw [lookup_replace, if_neg hk]

/-- Pruning keeps keys distinct. -/
theorem nodup_prune {s : LockTable} (h : (s.map Prod.fst).Nodup) (key : String) :
    ((lockout.prune key now s).map Prod.fst).Nodup := by
  rw [prune]
  split
  · exact h
  · dsimp only
    split
    · exact nodup_pop h key
    · have hkeys : ∀ e : LockEntry, (s.map fun p => if p.1 == key then (p.1, e) else p).map
          Prod.fst = s.map Prod.fst := by
        intro e
        rw [List.map_map]
        refine List.map_congr_left fun p _ => ?_
        simp only [Function.comp_apply]
        split
        · rfl
        · rfl
      rw [hkeys]
      exact h

/-- Pruning adds nothing. -/
theorem length_prune_le (key : String) (s : LockTable) :
    (lockout.prune key now s).length ≤ s.length := by
  rw [prune]
  split
  · exact le_refl _
  · dsimp only
    split
    · exact length_pop_le s key
    · rw [List.length_map]

/-! ### Evicting -/

/-- An account is as it was, or was not locked and made room. -/
def Spared (now : Time) (s s' : LockTable) : Prop :=
  ∀ k, s'.lookup k = s.lookup k ∨
    s'.lookup k = none ∧ ∃ e, s.lookup k = some e ∧ e.evictable now = true

/-- **Evicting** spares the accounts that are locked. -/
theorem spared_evict (lockout : LoginLockout) (now : Time) {s : LockTable}
    (h : (s.map Prod.fst).Nodup) (rounds : ℕ) :
    Spared now s (lockout.evict now rounds s).2 := by
  induction rounds generalizing s with
  | zero => exact fun k => .inl rfl
  | succ rounds ih =>
      rw [evict]
      split
      · exact fun k => .inl rfl
      · split
        · exact fun k => .inl rfl
        · rename_i victim hfound
          intro k
          rcases ih (nodup_pop h victim.1) k with hsame | ⟨hgone, e, he, hfree⟩
          · rw [hsame, lookup_pop]
            by_cases hk : k = victim.1
            · rw [if_pos hk]
              have hfree : victim.2.evictable now = true :=
                List.find?_some (p := fun p : String × LockEntry => p.2.evictable now) hfound
              refine .inr ⟨rfl, victim.2, ?_, hfree⟩
              rw [hk]
              exact (Lib.Dict.lookup_eq_some_iff h).mpr (List.mem_of_find?_eq_some hfound)
            · rw [if_neg hk]
              exact .inl rfl
          · rw [lookup_pop] at he
            split at he
            · cases he
            · exact .inr ⟨hgone, e, he, hfree⟩

/-- Evicting keeps keys distinct. -/
theorem nodup_evict (lockout : LoginLockout) (now : Time) {s : LockTable}
    (h : (s.map Prod.fst).Nodup) (rounds : ℕ) :
    ((lockout.evict now rounds s).2.map Prod.fst).Nodup := by
  induction rounds generalizing s with
  | zero => exact h
  | succ rounds ih =>
      rw [evict]
      split
      · exact h
      · split
        · exact h
        · exact ih (nodup_pop h _)

/-- Evicting adds nothing. -/
theorem length_evict_le (s : LockTable) (rounds : ℕ) :
    (lockout.evict now rounds s).2.length ≤ s.length := by
  induction rounds generalizing s with
  | zero => exact le_refl _
  | succ rounds ih =>
      rw [evict]
      split
      · exact le_refl _
      · split
        · exact le_refl _
        · exact (ih _).trans (length_pop_le s _)

/-- **Room** is room. -/
theorem length_evict_lt {s : LockTable} {rounds : ℕ}
    (h : (lockout.evict now rounds s).1 = true) :
    (lockout.evict now rounds s).2.length < lockout.maxTrackedAccounts := by
  induction rounds generalizing s with
  | zero => exact of_decide_eq_true h
  | succ rounds ih =>
      rw [evict] at h ⊢
      split at h
      · rename_i hroom
        rw [if_pos hroom]
        exact hroom
      · rename_i hfull
        rw [if_neg hfull]
        cases hfound : s.find? fun p => p.2.evictable now with
        | none =>
            rw [hfound] at h
            cases h
        | some victim =>
            rw [hfound] at h
            exact ih h

/-! ### Failing -/

/-- The table after a failure, account by account. -/
theorem recordFailureLocked_spec (lockout : LoginLockout) (now : Time) {s : LockTable}
    (h : (s.map Prod.fst).Nodup) (key : String) :
    (∀ k, k ≠ key → (lockout.recordFailureLocked key now s).1.lookup k = s.lookup k ∨
      (lockout.recordFailureLocked key now s).1.lookup k = none ∧
        ∃ e, s.lookup k = some e ∧ e.evictable now = true) ∧
    match (lockout.recordFailureLocked key now s).2 with
    | none => s.lookup key = none ∧ (lockout.recordFailureLocked key now s).1.lookup key = none
    | some e => e = (s.lookup key).getD ⟨[], none⟩ ∧
        (lockout.recordFailureLocked key now s).1.lookup key = some (lockout.failEntry now e) := by
  rw [recordFailureLocked]
  cases hs : s.lookup key with
  | some e =>
      refine ⟨fun k hk => .inl ?_, rfl, ?_⟩
      · rw [lookup_put, if_neg hk]
      · rw [lookup_put, if_pos rfl]
  | none =>
      have hspared := spared_evict lockout now h s.length
      have hnone : (lockout.evictIfNeeded now s).2.lookup key = none := by
        rcases hspared key with hsame | ⟨hgone, -⟩
        · exact hsame.trans hs
        · exact hgone
      dsimp only
      split
      · refine ⟨fun k hk => ?_, rfl, ?_⟩
        · rw [lookup_put, if_neg hk]
          exact hspared k
        · rw [lookup_put, if_pos rfl]
      · exact ⟨fun k _ => hspared k, rfl, hnone⟩

/-- A failure keeps keys distinct. -/
theorem nodup_recordFailureLocked {s : LockTable} (h : (s.map Prod.fst).Nodup) (key : String) :
    ((lockout.recordFailureLocked key now s).1.map Prod.fst).Nodup := by
  rw [recordFailureLocked]
  split
  · exact nodup_put h key _
  · have hevict := nodup_evict lockout now h s.length
    dsimp only
    split
    · exact nodup_put hevict key _
    · exact hevict

/-- **The table keeps to its size.** -/
theorem length_recordFailureLocked {s : LockTable} (h : s.length ≤ lockout.maxTrackedAccounts)
    (key : String) :
    (lockout.recordFailureLocked key now s).1.length ≤ lockout.maxTrackedAccounts := by
  rw [recordFailureLocked]
  split
  · rename_i e hs
    have hmem : (key, e) ∈ s := by
      obtain ⟨l₁, l₂, hsplit, -⟩ := List.lookup_eq_some_iff.mp hs
      rw [hsplit]
      simp
    have hlt := length_pop_lt hmem
    rw [List.length_append, List.length_singleton]
    exact (Nat.succ_le_of_lt hlt).trans h
  · dsimp only
    split
    · rename_i hroom
      have hlt := length_evict_lt hroom
      have hle := length_pop_le (lockout.evictIfNeeded now s).2 key
      rw [List.length_append, List.length_singleton]
      exact Nat.succ_le_of_lt (lt_of_le_of_lt hle hlt)
    · exact (length_evict_le s s.length).trans h

end LoginLockout

end StabilityPlatform
