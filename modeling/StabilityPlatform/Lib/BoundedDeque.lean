import Mathlib

/-!
# Bounded deques

A deque with a greatest length: an item that is put at one end of a full deque makes one fall off
at the other end.

## Main results

* `fallen_append_kept`, `keptFront_append_fallenFront`: **nothing is lost but what falls off**.
* `length_fallen`, `length_fallenFront`: one item falls off exactly when the deque is full.
-/

namespace StabilityPlatform.Lib.BoundedDeque

variable {α : Type*} {n : ℕ} {xs : List α}

/-! ### At the end -/

/-- `append`: what is kept. -/
def kept (n : ℕ) (xs : List α) (x : α) : List α := (xs ++ [x]).drop (xs.length + 1 - n)

/-- `append`: what falls off at the front. -/
def fallen (n : ℕ) (xs : List α) (x : α) : List α := (xs ++ [x]).take (xs.length + 1 - n)

/-- Nothing is lost but what falls off. -/
theorem fallen_append_kept (n : ℕ) (xs : List α) (x : α) :
    fallen n xs x ++ kept n xs x = xs ++ [x] :=
  List.take_append_drop ..

/-- What is kept fits. -/
theorem length_kept_le (n : ℕ) (xs : List α) (x : α) : (kept n xs x).length ≤ n := by
  rw [kept, List.length_drop, List.length_append, List.length_singleton]
  omega

/-- One item falls off a full deque, none off another one. -/
theorem length_fallen (hfit : xs.length ≤ n) (x : α) :
    (fallen n xs x).length = if n ≤ xs.length then 1 else 0 := by
  rw [fallen, List.length_take, List.length_append, List.length_singleton]
  split_ifs with h
  · omega
  · omega

/-! ### At the front -/

/-- `appendleft`: what is kept. -/
def keptFront (n : ℕ) (xs : List α) (x : α) : List α := (x :: xs).take n

/-- `appendleft`: what falls off at the end. -/
def fallenFront (n : ℕ) (xs : List α) (x : α) : List α := (x :: xs).drop n

/-- Nothing is lost but what falls off. -/
theorem keptFront_append_fallenFront (n : ℕ) (xs : List α) (x : α) :
    keptFront n xs x ++ fallenFront n xs x = x :: xs :=
  List.take_append_drop ..

/-- What is kept fits. -/
theorem length_keptFront_le (n : ℕ) (xs : List α) (x : α) : (keptFront n xs x).length ≤ n := by
  rw [keptFront, List.length_take]
  omega

/-- One item falls off a full deque, none off another one. -/
theorem length_fallenFront (hfit : xs.length ≤ n) (x : α) :
    (fallenFront n xs x).length = if n ≤ xs.length then 1 else 0 := by
  rw [fallenFront, List.length_drop, List.length_cons]
  split_ifs with h
  · omega
  · omega

end StabilityPlatform.Lib.BoundedDeque
