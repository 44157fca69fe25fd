import Mathlib

/-!
# Keys that expire

A store of keys, each with an owner and a deadline, as a server keeps them: a key is there until
its deadline has come. A key is taken only when it is not there, and renewed or released only by
its owner.

## Main results

* `Keys.held`: who holds a key at a moment.
* `Keys.held_acquire`, `Keys.held_renew`, `Keys.held_release`: who holds it afterwards.
* `Keys.held_later`: time only takes keys away.
-/

namespace StabilityPlatform.Lib

variable {κ ω : Type*}

/-- Who took a key, and until when. -/
structure KeyEntry (ω : Type*) where
  owner : ω
  deadline : ℕ
  deriving DecidableEq, Repr

/-- The keys and what is stored for them. -/
structure Keys (κ ω : Type*) where
  entry : κ → Option (KeyEntry ω)

namespace Keys

/-- Who holds a key at a moment. -/
def held (keys : Keys κ ω) (now : ℕ) (k : κ) : Option ω :=
  (keys.entry k).bind fun e => if now < e.deadline then some e.owner else none

/-- A key is held when its entry is there and its deadline has not come. -/
theorem held_eq_some_iff {keys : Keys κ ω} {now : ℕ} {k : κ} {w : ω} :
    keys.held now k = some w ↔ ∃ e, keys.entry k = some e ∧ now < e.deadline ∧ e.owner = w := by
  rw [held, Option.bind_eq_some_iff]
  constructor
  · rintro ⟨e, he, h⟩
    split_ifs at h with hlt
    exact ⟨e, he, hlt, Option.some.inj h⟩
  · rintro ⟨e, he, hlt, rfl⟩
    exact ⟨e, he, if_pos hlt⟩

/-- **Time only takes keys away.** -/
theorem held_later {keys : Keys κ ω} {now later : ℕ} (hle : now ≤ later) {k : κ} {w : ω}
    (h : keys.held later k = some w) : keys.held now k = some w := by
  obtain ⟨e, he, hlt, hw⟩ := held_eq_some_iff.mp h
  exact held_eq_some_iff.mpr ⟨e, he, by omega, hw⟩

/-- A key whose deadline has not come is still held. -/
theorem held_until {keys : Keys κ ω} {now later : ℕ} {k : κ} {w : ω}
    (h : keys.held now k = some w) (hlater : ∀ e, keys.entry k = some e → later < e.deadline) :
    keys.held later k = some w := by
  obtain ⟨e, he, -, hw⟩ := held_eq_some_iff.mp h
  exact held_eq_some_iff.mpr ⟨e, he, hlater e he, hw⟩

/-- What is stored for this owner is gone at this moment. -/
def GoneBy (keys : Keys κ ω) (w : ω) (deadline : ℕ) : Prop :=
  ∀ k e, keys.entry k = some e → e.owner = w → e.deadline ≤ deadline

/-- A key that is gone is not held. -/
theorem GoneBy.not_held {keys : Keys κ ω} {w : ω} {deadline now : ℕ} (h : keys.GoneBy w deadline)
    (hnow : deadline ≤ now) (k : κ) : keys.held now k ≠ some w := by
  intro hheld
  obtain ⟨e, he, hlt, hw⟩ := held_eq_some_iff.mp hheld
  have hle := h k e he hw
  omega

/-! ### Commands -/

variable [DecidableEq κ]

/-- Store an entry, or remove it. -/
def put (keys : Keys κ ω) (k : κ) (e : Option (KeyEntry ω)) : Keys κ ω :=
  ⟨Function.update keys.entry k e⟩

@[simp] theorem entry_put_self (keys : Keys κ ω) (k : κ) (e : Option (KeyEntry ω)) :
    (keys.put k e).entry k = e := Function.update_self ..

theorem entry_put_of_ne (keys : Keys κ ω) {k k' : κ} (h : k' ≠ k) (e : Option (KeyEntry ω)) :
    (keys.put k e).entry k' = keys.entry k' := Function.update_of_ne h ..

/-- Who holds a key after another was stored. -/
theorem held_put_of_ne {keys : Keys κ ω} {k k' : κ} (h : k' ≠ k) (e : Option (KeyEntry ω))
    (now : ℕ) : (keys.put k e).held now k' = keys.held now k' := by
  rw [held, held, entry_put_of_ne keys h]

/-- Who holds a key that was just stored. -/
theorem held_put_self (keys : Keys κ ω) (k : κ) (w : ω) {now ttl : ℕ} (httl : 0 < ttl) :
    (keys.put k (some ⟨w, now + ttl⟩)).held now k = some w := by
  refine held_eq_some_iff.mpr ⟨⟨w, now + ttl⟩, entry_put_self .., ?_, rfl⟩
  change now < now + ttl
  omega

/-- Storing something for another owner, or nothing, keeps the deadlines of this one. -/
theorem GoneBy.put {keys : Keys κ ω} {w : ω} {deadline : ℕ} (h : keys.GoneBy w deadline) (k : κ)
    {e : Option (KeyEntry ω)} (hother : ∀ e', e = some e' → e'.owner = w → e'.deadline ≤ deadline) :
    (keys.put k e).GoneBy w deadline := by
  intro k' e' he' hw
  by_cases hk : k' = k
  · rw [hk, entry_put_self] at he'
    exact hother e' he' hw
  · rw [entry_put_of_ne keys hk] at he'
    exact h k' e' he' hw

/-- Take a key for some time, if it is not there. -/
def acquire (keys : Keys κ ω) (now ttl : ℕ) (k : κ) (w : ω) : Option (Keys κ ω) :=
  if keys.held now k = none then some (keys.put k (some ⟨w, now + ttl⟩)) else none

/-- **Taking a key.** It was free, it is held afterwards, and other keys stay. -/
theorem held_acquire {keys keys' : Keys κ ω} {now ttl : ℕ} {k : κ} {w : ω} (httl : 0 < ttl)
    (h : keys.acquire now ttl k w = some keys') :
    keys.held now k = none ∧ ∀ k', keys'.held now k' = if k' = k then some w else
      keys.held now k' := by
  rw [acquire] at h
  split_ifs at h with hfree
  cases h
  refine ⟨hfree, fun k' => ?_⟩
  split_ifs with hk
  · rw [hk]
    exact held_put_self keys k w httl
  · exact held_put_of_ne hk _ _

/-- Taking a key for another owner keeps deadlines. -/
theorem GoneBy.acquire {keys keys' : Keys κ ω} {w w' : ω} {deadline now ttl : ℕ}
    (h : keys.GoneBy w deadline) {k : κ} (hacquire : keys.acquire now ttl k w' = some keys')
    (hlate : w' = w → now + ttl ≤ deadline) : keys'.GoneBy w deadline := by
  rw [Keys.acquire] at hacquire
  split_ifs at hacquire
  cases hacquire
  refine h.put k fun e' he' hw => ?_
  cases he'
  exact hlate hw

variable [DecidableEq ω]

/-- Keep a key for some more time, if it is held by this owner. -/
def renew (keys : Keys κ ω) (now ttl : ℕ) (k : κ) (w : ω) : Option (Keys κ ω) :=
  if keys.held now k = some w then some (keys.put k (some ⟨w, now + ttl⟩)) else none

/-- Give a key back, if it is held by this owner. -/
def release (keys : Keys κ ω) (now : ℕ) (k : κ) (w : ω) : Keys κ ω :=
  if keys.held now k = some w then keys.put k none else keys

/-- **Renewing a key.** Nothing changes hands. -/
theorem held_renew {keys keys' : Keys κ ω} {now ttl : ℕ} {k : κ} {w : ω} (httl : 0 < ttl)
    (h : keys.renew now ttl k w = some keys') : keys'.held now = keys.held now := by
  rw [renew] at h
  split_ifs at h with hown
  cases h
  funext k'
  by_cases hk : k' = k
  · rw [hk, hown]
    exact held_put_self keys k w httl
  · exact held_put_of_ne hk _ _

/-- **Releasing a key.** The key is not held by this owner afterwards, and nothing else changes. -/
theorem held_release (keys : Keys κ ω) (now : ℕ) (k k' : κ) (w : ω) :
    (keys.release now k w).held now k' =
      if k' = k ∧ keys.held now k = some w then none else keys.held now k' := by
  rw [release]
  by_cases hown : keys.held now k = some w
  · rw [if_pos hown]
    by_cases hk : k' = k
    · rw [if_pos ⟨hk, hown⟩, hk, held, entry_put_self, Option.bind_none]
    · rw [held_put_of_ne hk, if_neg fun h => hk h.1]
  · rw [if_neg hown, if_neg fun h => hown h.2]

/-- Releasing keeps deadlines. -/
theorem GoneBy.release {keys : Keys κ ω} {w w' : ω} {deadline now : ℕ} (h : keys.GoneBy w deadline)
    (k : κ) : (keys.release now k w').GoneBy w deadline := by
  rw [Keys.release]
  split_ifs
  · exact h.put k fun e' he' => by cases he'
  · exact h

/-- Renewing for another owner keeps deadlines. -/
theorem GoneBy.renew {keys keys' : Keys κ ω} {w w' : ω} {deadline now ttl : ℕ}
    (h : keys.GoneBy w deadline) {k : κ} (hrenew : keys.renew now ttl k w' = some keys')
    (hlate : w' = w → now + ttl ≤ deadline) : keys'.GoneBy w deadline := by
  rw [Keys.renew] at hrenew
  split_ifs at hrenew
  cases hrenew
  refine h.put k fun e' he' hw => ?_
  cases he'
  exact hlate hw

end Keys

end StabilityPlatform.Lib
