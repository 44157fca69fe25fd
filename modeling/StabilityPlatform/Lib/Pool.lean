import Mathlib

/-!
# Pools of threads

Threads that run the same code differ only by where they are in it, so that a pool of them is the
multiset of these places. A move takes a thread from its place to a next one, to none, or to
several.

What the threads have between them, tasks in hand, bytes not yet counted, work left to do, is a
total over the pool, and a move changes it by what the places it leaves and enters have.

## Main results

* `Pool.total_move`: a move exchanges what its places have.
* `Pool.total_move_balance`: what a move exchanges with the world around the pool.
* `Pool.forall_move`: what holds of the other threads and of the place that is entered.
-/

namespace StabilityPlatform.Lib.Pool

variable {α : Type*} {M : Type*}

/-- What the threads of a pool have between them. -/
def total [AddCommMonoid M] (f : α → M) (pool : Multiset α) : M := (pool.map f).sum

/-- An empty pool has nothing. -/
@[simp] theorem total_zero [AddCommMonoid M] (f : α → M) : total f 0 = 0 := rfl

/-- A thread adds what it has. -/
@[simp] theorem total_cons [AddCommMonoid M] (f : α → M) (a : α) (pool : Multiset α) :
    total f (a ::ₘ pool) = f a + total f pool := by
  rw [total, Multiset.map_cons, Multiset.sum_cons, total]

/-- One thread has what it has. -/
@[simp] theorem total_singleton [AddCommMonoid M] (f : α → M) (a : α) : total f {a} = f a := by
  rw [total, Multiset.map_singleton, Multiset.sum_singleton]

/-- Two pools have what each has. -/
@[simp] theorem total_add [AddCommMonoid M] (f : α → M) (pool pool' : Multiset α) :
    total f (pool + pool') = total f pool + total f pool' := by
  rw [total, Multiset.map_add, Multiset.sum_add, total, total]

/-- Threads of which none has anything have nothing. -/
theorem total_eq_zero [AddCommMonoid M] {f : α → M} {pool : Multiset α}
    (h : ∀ a ∈ pool, f a = 0) : total f pool = 0 := by
  refine Multiset.sum_eq_zero fun x hx => ?_
  obtain ⟨a, ha, rfl⟩ := Multiset.mem_map.mp hx
  exact h a ha

section Move

variable [DecidableEq α]

/-- A thread goes from a place to the next ones. -/
def move (pool : Multiset α) (a : α) (next : Multiset α) : Multiset α := pool.erase a + next

/-- The other threads stay. -/
theorem move_cons (a : α) (pool next : Multiset α) : move (a ::ₘ pool) a next = pool + next := by
  rw [move, Multiset.erase_cons_head]

/-- **A move exchanges** what its places have. -/
theorem total_move [AddCommMonoid M] (f : α → M) {pool : Multiset α} {a : α} (ha : a ∈ pool)
    (next : Multiset α) : total f (move pool a next) + f a = total f pool + total f next := by
  obtain ⟨rest, rfl⟩ := Multiset.exists_cons_of_mem ha
  rw [move_cons, total_add, total_cons]
  abel

/-- **What a move balances** with what is elsewhere, it balances for the pool. -/
theorem total_move_balance [AddCancelCommMonoid M] (f : α → M) {pool next : Multiset α} {a : α}
    (ha : a ∈ pool) {rest rest' : M} (h : total f next + rest' = f a + rest) :
    total f (move pool a next) + rest' = total f pool + rest := by
  refine add_right_cancel (b := f a) ?_
  calc total f (move pool a next) + rest' + f a
      = total f (move pool a next) + f a + rest' := by abel
    _ = total f pool + total f next + rest' := by rw [total_move f ha]
    _ = total f pool + (total f next + rest') := by abel
    _ = total f pool + (f a + rest) := by rw [h]
    _ = total f pool + rest + f a := by abel

/-- A thread of the pool is another one, or where the move went. -/
theorem mem_move {pool next : Multiset α} {a b : α} (hb : b ∈ move pool a next) :
    b ∈ pool ∨ b ∈ next :=
  (Multiset.mem_add.mp hb).imp_left Multiset.mem_of_mem_erase

/-- A thread that does not move stays. -/
theorem mem_move_of_ne {pool next : Multiset α} {a b : α} (hb : b ∈ pool) (hne : b ≠ a) :
    b ∈ move pool a next :=
  Multiset.mem_add.mpr (.inl ((Multiset.mem_erase_of_ne hne).mpr hb))

/-- What some thread has, some thread has afterwards, if the move keeps it. -/
theorem exists_move {P : α → Prop} {pool next : Multiset α} {a : α} (hpool : ∃ b ∈ pool, P b)
    (hkeep : P a → ∃ b ∈ next, P b) : ∃ b ∈ move pool a next, P b := by
  obtain ⟨b, hb, hP⟩ := hpool
  by_cases heq : b = a
  · obtain ⟨c, hc, hPc⟩ := hkeep (heq ▸ hP)
    exact ⟨c, Multiset.mem_add.mpr (.inr hc), hPc⟩
  · exact ⟨b, mem_move_of_ne hb heq, hP⟩

/-- What some thread has where the move went, some thread has afterwards. -/
theorem exists_move_of_next {P : α → Prop} {pool next : Multiset α} {a : α}
    (hnext : ∃ b ∈ next, P b) : ∃ b ∈ move pool a next, P b := by
  obtain ⟨b, hb, hP⟩ := hnext
  exact ⟨b, Multiset.mem_add.mpr (.inr hb), hP⟩

/-- What holds of the threads and of where the move went holds afterwards. -/
theorem forall_move {P : α → Prop} {pool next : Multiset α} {a : α} (hpool : ∀ b ∈ pool, P b)
    (hnext : ∀ b ∈ next, P b) : ∀ b ∈ move pool a next, P b := fun b hb =>
  (mem_move hb).elim (hpool b) (hnext b)

end Move

end StabilityPlatform.Lib.Pool
