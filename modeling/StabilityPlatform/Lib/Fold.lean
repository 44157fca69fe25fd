import Mathlib

/-!
# Fallible folds

A loop that may fail, over items with distinct keys, where each item looks at and changes
only what is under its own key: what the loop does under a key is what the item with that
key does there.

## Main results

* `Except.bind_eq_ok_iff`: a sequence succeeds when both parts do.
* `foldlM_invariant`, `foldlM_invariant_of_mem`: what each item preserves, the loop preserves.
* `foldlM_done_invariant`, `foldlM_ok`: the same with the items done so far, and folds that go
  through.
* `foldlM_at_key`: the effect of a loop, key by key.
* `foldlM_appends`: what a loop appends, item by item.
* `length_of_mapM`, `mapM_eq_ok_iff`: what a fallible map gives.
* `foldl_last_write`: what a loop leaves of a view is what its last write to it left.
-/

namespace StabilityPlatform.Lib

universe u

variable {ε σ ι : Type*}

/-- A sequence succeeds when its first part does and its second part does on the result. -/
theorem Except.bind_eq_ok_iff {α β : Type u} {x : Except ε α} {f : α → Except ε β} {b : β} :
    (x >>= f) = .ok b ↔ ∃ a, x = .ok a ∧ f a = .ok b := by
  cases x with
  | error e =>
      constructor
      · intro h
        cases h
      · rintro ⟨a, ha, -⟩
        cases ha
  | ok a =>
      constructor
      · exact fun h => ⟨a, rfl, h⟩
      · rintro ⟨a', ha, h⟩
        cases ha
        exact h

/-- A result that is mapped. -/
theorem Except.map_eq_ok_iff {α β : Type u} {x : Except ε α} {f : α → β} {b : β} :
    x.map f = .ok b ↔ ∃ a, x = .ok a ∧ f a = b := by
  cases x with
  | error e =>
      constructor
      · intro h
        cases h
      · rintro ⟨a, ha, -⟩
        cases ha
  | ok a =>
      constructor
      · intro h
        cases h
        exact ⟨a, rfl, rfl⟩
      · rintro ⟨a', ha', rfl⟩
        cases ha'
        rfl

/-- The result of a success. -/
theorem Except.toOption_eq_some_iff {α : Type u} {x : Except ε α} {a : α} :
    x.toOption = some a ↔ x = .ok a := by
  cases x with
  | error e =>
      constructor
      · intro h
        cases h
      · intro h
        cases h
  | ok b =>
      constructor
      · intro h
        cases h
        rfl
      · intro h
        cases h
        rfl

/-- What every item preserves holds after the loop. -/
theorem foldlM_invariant {step : σ → ι → Except ε σ} {I : σ → Prop}
    (hstep : ∀ {s i s'}, I s → step s i = .ok s' → I s') {items : List ι} {s t : σ}
    (hs : I s) (h : items.foldlM step s = .ok t) : I t := by
  induction items generalizing s with
  | nil =>
      cases h
      exact hs
  | cons i rest ih =>
      rw [List.foldlM_cons] at h
      obtain ⟨m, hm, hrest⟩ := Except.bind_eq_ok_iff.mp h
      exact ih (hstep hs hm) hrest

/-- What every item of a list preserves holds after the loop over it. -/
theorem foldlM_invariant_of_mem {step : σ → ι → Except ε σ} {I : σ → Prop} {items : List ι}
    (hstep : ∀ {s i s'}, i ∈ items → I s → step s i = .ok s' → I s') {s t : σ}
    (hs : I s) (h : items.foldlM step s = .ok t) : I t := by
  induction items generalizing s with
  | nil =>
      cases h
      exact hs
  | cons i rest ih =>
      rw [List.foldlM_cons] at h
      obtain ⟨m, hm, hrest⟩ := Except.bind_eq_ok_iff.mp h
      exact ih (fun hi => hstep (List.mem_cons_of_mem i hi))
        (hstep (List.mem_cons_self ..) hs hm) hrest

/-- **An invariant that speaks of the items done** is kept through a fold. -/
theorem foldlM_done_invariant {step : σ → ι → Except ε σ} {I : List ι → σ → Prop}
    (hstep : ∀ {done s i s'}, I done s → step s i = .ok s' → I (done ++ [i]) s')
    {items done : List ι} {s t : σ} (hs : I done s) (h : items.foldlM step s = .ok t) :
    I (done ++ items) t := by
  induction items generalizing done s with
  | nil =>
      cases h
      rwa [List.append_nil]
  | cons i rest ih =>
      rw [List.foldlM_cons] at h
      obtain ⟨s', hs', hrest⟩ := Except.bind_eq_ok_iff.mp h
      rw [List.append_cons]
      exact ih (hstep hs hs') hrest

/-- **A fold goes through** where no step fails after the items before it. -/
theorem foldlM_ok {step : σ → ι → Except ε σ} {I : List ι → σ → Prop} {items done : List ι}
    (hstep : ∀ {before i rest s}, done ++ items = before ++ i :: rest → I before s →
      ∃ s', step s i = .ok s' ∧ I (before ++ [i]) s') {s : σ} (hs : I done s) :
    ∃ t, items.foldlM step s = .ok t ∧ I (done ++ items) t := by
  induction items generalizing done s with
  | nil =>
      rw [List.append_nil]
      exact ⟨s, rfl, hs⟩
  | cons i rest ih =>
      obtain ⟨s', hs', hI⟩ := hstep rfl hs
      obtain ⟨t, ht, hIt⟩ :=
        ih (fun heq hI => hstep ((List.append_cons done i rest).trans heq) hI) hI
      rw [List.append_cons]
      refine ⟨t, ?_, hIt⟩
      rw [List.foldlM_cons]
      exact Except.bind_eq_ok_iff.mpr ⟨s', hs', ht⟩

/-- **Loops over distinct keys.** Suppose an item leaves the view under other keys and
relates the views under its own key before and after by `R`. Then the loop leaves the view
under keys of no item, and relates the views under the key of each item by `R`. -/
theorem foldlM_at_key {κ β : Type*} {step : σ → ι → Except ε σ} (key : ι → κ)
    (view : σ → κ → β) {I : σ → Prop} {R : ι → β → β → Prop}
    (hinv : ∀ {s i s'}, I s → step s i = .ok s' → I s')
    (hframe : ∀ {s i s'}, I s → step s i = .ok s' → ∀ k, k ≠ key i → view s' k = view s k)
    (hat : ∀ {s i s'}, I s → step s i = .ok s' → R i (view s (key i)) (view s' (key i)))
    {items : List ι} (hnd : (items.map key).Nodup) {s t : σ} (hs : I s)
    (h : items.foldlM step s = .ok t) :
    (∀ k, k ∉ items.map key → view t k = view s k) ∧
      ∀ i ∈ items, R i (view s (key i)) (view t (key i)) := by
  induction items generalizing s with
  | nil =>
      cases h
      exact ⟨fun _ _ => rfl, fun _ hi => absurd hi List.not_mem_nil⟩
  | cons j rest ih =>
      rw [List.foldlM_cons] at h
      obtain ⟨m, hm, hrest⟩ := Except.bind_eq_ok_iff.mp h
      rw [List.map_cons, List.nodup_cons] at hnd
      obtain ⟨hout, hin⟩ := ih hnd.2 (hinv hs hm) hrest
      constructor
      · intro k hk
        rw [List.map_cons, List.mem_cons, not_or] at hk
        exact (hout k hk.2).trans (hframe hs hm k hk.1)
      · intro i hi
        rcases List.mem_cons.mp hi with rfl | hi
        · rw [hout _ hnd.1]
          exact hat hs hm
        · have hne : key i ≠ key j := fun heq =>
            hnd.1 (heq ▸ List.mem_map_of_mem (f := key) hi)
          rw [← hframe hs hm _ hne]
          exact hin i hi

/-- **Loops that append.** When every item appends one row of a given kind, the loop appends the
rows of all items. -/
theorem foldlM_appends {ρ κ : Type*} {step : σ → ι → Except ε σ} (rows : σ → List ρ)
    (kind : ρ → κ) (f : ι → κ) (hstep : ∀ {s i s'}, step s i = .ok s' →
      ∃ row, rows s' = rows s ++ [row] ∧ kind row = f i) {items : List ι} {s t : σ}
    (h : items.foldlM step s = .ok t) :
    ∃ made, rows t = rows s ++ made ∧ made.map kind = items.map f := by
  induction items generalizing s with
  | nil =>
      cases h
      exact ⟨[], (List.append_nil _).symm, rfl⟩
  | cons i rest ih =>
      rw [List.foldlM_cons] at h
      obtain ⟨m, hm, hrest⟩ := Except.bind_eq_ok_iff.mp h
      obtain ⟨row, hrow, hkind⟩ := hstep hm
      obtain ⟨made, hmade, hkinds⟩ := ih hrest
      refine ⟨row :: made, ?_, ?_⟩
      · rw [hmade, hrow, List.append_assoc]
        rfl
      · rw [List.map_cons, List.map_cons, hkind, hkinds]

/-- A fallible map keeps the length. -/
theorem length_of_mapM {α β : Type u} {f : α → Except ε β} {items : List α} {l : List β}
    (h : items.mapM f = .ok l) : l.length = items.length := by
  induction items generalizing l with
  | nil =>
      cases h
      rfl
  | cons i rest ih =>
      rw [List.mapM_cons] at h
      obtain ⟨b, -, h⟩ := Except.bind_eq_ok_iff.mp h
      obtain ⟨bs, hbs, h⟩ := Except.bind_eq_ok_iff.mp h
      cases h
      rw [List.length_cons, List.length_cons, ih hbs]

/-- A map that never fails. -/
theorem mapM_eq_ok_map {α β : Type u} {f : α → Except ε β} {g : α → β} {items : List α}
    (h : ∀ a ∈ items, f a = .ok (g a)) : items.mapM f = .ok (items.map g) := by
  induction items with
  | nil => rfl
  | cons a rest ih =>
      rw [List.mapM_cons, h a List.mem_cons_self,
        ih fun b hb => h b (List.mem_cons_of_mem a hb)]
      rfl

/-- **A fallible map succeeds** when it succeeds at every member. -/
theorem mapM_eq_ok_iff {α β : Type u} {f : α → Except ε β} {items : List α} {l : List β} :
    items.mapM f = .ok l ↔ List.Forall₂ (fun a b => f a = .ok b) items l := by
  induction items generalizing l with
  | nil =>
      rw [List.mapM_nil, List.forall₂_nil_left_iff]
      constructor
      · intro h
        cases h
        rfl
      · rintro rfl
        rfl
  | cons a rest ih =>
      rw [List.mapM_cons, List.forall₂_cons_left_iff]
      constructor
      · intro h
        obtain ⟨b, hb, h⟩ := Except.bind_eq_ok_iff.mp h
        obtain ⟨bs, hbs, h⟩ := Except.bind_eq_ok_iff.mp h
        cases h
        exact ⟨b, bs, hb, ih.mp hbs, rfl⟩
      · rintro ⟨b, bs, hb, hbs, rfl⟩
        refine Except.bind_eq_ok_iff.mpr ⟨b, hb, ?_⟩
        exact Except.bind_eq_ok_iff.mpr ⟨bs, ih.mpr hbs, rfl⟩

/-- Each member of the second list comes from one of the first. -/
theorem exists_of_forall₂ {α β : Type*} {R : α → β → Prop} {xs : List α} {ys : List β}
    (h : List.Forall₂ R xs ys) {y : β} (hy : y ∈ ys) : ∃ x ∈ xs, R x y := by
  induction h with
  | nil => cases hy
  | cons hxy _ ih =>
      rcases List.mem_cons.mp hy with rfl | hy
      · exact ⟨_, List.mem_cons_self, hxy⟩
      · obtain ⟨x, hx, hR⟩ := ih hy
        exact ⟨x, List.mem_cons_of_mem _ hx, hR⟩

/-- Each member of the first list leads to one of the second. -/
theorem exists_right_of_forall₂ {α β : Type*} {R : α → β → Prop} {xs : List α} {ys : List β}
    (h : List.Forall₂ R xs ys) {x : α} (hx : x ∈ xs) : ∃ y ∈ ys, R x y := by
  induction h with
  | nil => cases hx
  | cons hxy _ ih =>
      rcases List.mem_cons.mp hx with rfl | hx
      · exact ⟨_, List.mem_cons_self, hxy⟩
      · obtain ⟨y, hy, hR⟩ := ih hx
        exact ⟨y, List.mem_cons_of_mem _ hy, hR⟩

/-- **The last write decides.** When an item that does not write leaves a view as it is, the view
after a loop is the one before, or the one its last write left. -/
theorem foldl_last_write {β : Type*} {step : σ → ι → σ} {view : σ → β} {W : σ → ι → Prop}
    (hframe : ∀ s i, ¬ W s i → view (step s i) = view s) (items : List ι) (s : σ) :
    (view (items.foldl step s) = view s ∧
        ∀ pre i post, items = pre ++ i :: post → ¬ W (pre.foldl step s) i) ∨
      ∃ before i after, items = before ++ i :: after ∧ W (before.foldl step s) i ∧
        (∀ pre j post, after = pre ++ j :: post → ¬ W ((before ++ i :: pre).foldl step s) j) ∧
        view (items.foldl step s) = view (step (before.foldl step s) i) := by
  induction items generalizing s with
  | nil => exact .inl ⟨rfl, fun pre i post h => by simp at h⟩
  | cons i rest ih =>
      rcases ih (step s i) with ⟨hview, hnone⟩ | ⟨before, j, after, rfl, hj, hnone, hview⟩
      · by_cases hw : W s i
        · exact .inr ⟨[], i, rest, rfl, hw, hnone, hview⟩
        · refine .inl ⟨hview.trans (hframe s i hw), fun pre j post h => ?_⟩
          rcases List.cons_eq_append_iff.mp h with ⟨rfl, hj⟩ | ⟨pre', rfl, hrest⟩
          · cases hj
            exact hw
          · exact hnone pre' j post hrest
      · exact .inr ⟨i :: before, j, after, rfl, hj, hnone, hview⟩

end StabilityPlatform.Lib
