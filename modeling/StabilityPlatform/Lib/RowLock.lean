import StabilityPlatform.Lib.Run

/-!
# Transactions under row locks

Sessions run calls statement by statement, and the statements of different sessions come in
any order. A statement works on one row. A read sees the row as it was last committed, or as
the session itself has written it. A locking statement waits until no other session has the
row, reads what is then committed, and from then on the session has a copy of the row that
no one else sees; a commit puts the copies of a session in place of the rows, a rollback
drops them. A session can be cut off anywhere, which is a rollback.

An outline says what a session knows at each point of a call about its copy and about the
committed row. What it knows without the lock must survive the commits of others; what it
knows with the lock does so by itself, since no one else can commit the row meanwhile.

## Main results

* `Program.Alone`: a call that no other session comes between; `Program.Ends`: its outcome.
* `Outline.sound_run`: what an outline says holds in every interleaving.
* `Outline.committed`: the invariant of an outline holds of all committed rows.
-/

namespace StabilityPlatform.Lib.RowLock

/-- Where a call goes after a statement. It may commit or roll back and go on. -/
inductive Next (P : Type*) where
  | goto (p : P)
  | finish
  | commit (after : Option P)
  | rollback (after : Option P)

/-- What a locking statement does to the copy of the row: nothing when no row matched. -/
inductive Effect (σ : Type*) where
  | keep
  | put (s : σ)
  | restore (saved : Option σ)

/-- The copy after an effect. -/
def Effect.apply {σ : Type*} (h : Option σ) : Effect σ → Option σ
  | keep => h
  | put s => some s
  | restore saved => saved

/-- A statement; `ρ` is what it sees of everything that is not the row. -/
inductive Stmt (σ ρ P : Type*) where
  | read (next : σ → ρ → Next P)
  | savepoint (next : Option σ → Next P)
  | lock (next : σ → ρ → Next P × Effect σ)

/-- Calls: where they can start, and the statement at each point. -/
structure Program (K σ ρ P : Type*) where
  entry : K → P → Bool
  stmt : K → P → Stmt σ ρ P

/-- Where a session stands: between calls, or in a call on a row. -/
inductive Phase (K P : Type*) where
  | ready
  | inCall (k : K) (p : P)
  deriving DecidableEq

/-- The rows, who has which with what in it, and where the sessions stand. -/
structure World (K σ P : Type*) where
  committed : K → σ
  holder : K → Option (ℕ × σ)
  phase : ℕ → Phase K P

/-- What can happen: a session starts a call, takes its next statement, commits between
calls, or is rolled back. -/
inductive RowOp (K ρ P : Type*) where
  | start (i : ℕ) (k : K) (p : P)
  | next (i : ℕ) (r : ρ)
  | commit (i : ℕ)
  | rollback (i : ℕ)

variable {K σ ρ P : Type*}

/-- Nothing has started. -/
def World.initial (committed : K → σ) : World K σ P where
  committed := committed
  holder := fun _ => none
  phase := fun _ => .ready

/-- The statement at a point, taken with a copy in hand on a committed row. -/
def Program.turn (prog : Program K σ ρ P) (k : K) (p : P) (h : Option σ) (s : σ) (r : ρ) :
    Next P × Option σ :=
  match prog.stmt k p with
  | .read f => (f (h.getD s) r, h)
  | .savepoint f => (f h, h)
  | .lock f => ((f (h.getD s) r).1, (f (h.getD s) r).2.apply h)

/-- The turn of a read. -/
theorem Program.turn_read {prog : Program K σ ρ P} {k : K} {p : P} {f : σ → ρ → Next P}
    (hstmt : prog.stmt k p = .read f) {h : Option σ} {s : σ} {r : ρ} {n : Next P}
    (hf : f (h.getD s) r = n) : prog.turn k p h s r = (n, h) := by
  rw [Program.turn, hstmt, ← hf]

/-- The turn of a locking statement. -/
theorem Program.turn_lock {prog : Program K σ ρ P} {k : K} {p : P}
    {f : σ → ρ → Next P × Effect σ} (hstmt : prog.stmt k p = .lock f) {h : Option σ} {s : σ}
    {r : ρ} {n : Next P} {e : Effect σ} (hf : f (h.getD s) r = (n, e)) :
    prog.turn k p h s r = (n, e.apply h) := by
  rw [Program.turn, hstmt]
  dsimp only
  rw [hf]

/-- `prog.Alone k r p h s out`: a call that no other session comes between goes from the point
`p` with the copy `h` to its end, where its session has the copy `out.1` of the row and the
row is committed as `out.2`. -/
inductive Program.Alone (prog : Program K σ ρ P) (k : K) (r : ρ) :
    P → Option σ → σ → Option σ × σ → Prop
  | goto {p p' : P} {h h' : Option σ} {s : σ} {out : Option σ × σ} :
      prog.turn k p h s r = (.goto p', h') → prog.Alone k r p' h' s out →
        prog.Alone k r p h s out
  | finish {p : P} {h h' : Option σ} {s : σ} :
      prog.turn k p h s r = (.finish, h') → prog.Alone k r p h s (h', s)
  | commit {p : P} {h h' : Option σ} {s : σ} :
      prog.turn k p h s r = (.commit none, h') → prog.Alone k r p h s (none, h'.getD s)
  | commitThen {p p' : P} {h h' : Option σ} {s : σ} {out : Option σ × σ} :
      prog.turn k p h s r = (.commit (some p'), h') → prog.Alone k r p' none (h'.getD s) out →
        prog.Alone k r p h s out
  | rollback {p : P} {h h' : Option σ} {s : σ} :
      prog.turn k p h s r = (.rollback none, h') → prog.Alone k r p h s (none, s)
  | rollbackThen {p p' : P} {h h' : Option σ} {s : σ} {out : Option σ × σ} :
      prog.turn k p h s r = (.rollback (some p'), h') → prog.Alone k r p' none s out →
        prog.Alone k r p h s out

/-- A call that no other session comes between ends, with a given outcome. -/
def Program.Ends (prog : Program K σ ρ P) (Q : Option σ × σ → Prop) (k : K) (r : ρ) (p : P)
    (h : Option σ) (s : σ) : Prop :=
  ∃ out, prog.Alone k r p h s out ∧ Q out

/-- What must hold after a statement for a call taken alone to end with a given outcome. -/
def Program.EndsAfter (prog : Program K σ ρ P) (Q : Option σ × σ → Prop) (k : K) (r : ρ)
    (h : Option σ) (s : σ) : Next P → Prop
  | .goto p => prog.Ends Q k r p h s
  | .finish => Q (h, s)
  | .commit none => Q (none, h.getD s)
  | .commit (some p) => prog.Ends Q k r p none (h.getD s)
  | .rollback none => Q (none, s)
  | .rollback (some p) => prog.Ends Q k r p none s

/-- A call ends when it does so after its next statement. -/
theorem Program.Ends.of_turn {prog : Program K σ ρ P} {Q : Option σ × σ → Prop} {k : K} {r : ρ}
    {p : P} {h h' : Option σ} {s : σ} {n : Next P} (hturn : prog.turn k p h s r = (n, h'))
    (hrest : prog.EndsAfter Q k r h' s n) : prog.Ends Q k r p h s := by
  cases n with
  | goto p' =>
      obtain ⟨out, halone, hout⟩ := hrest
      exact ⟨out, .goto hturn halone, hout⟩
  | finish => exact ⟨_, .finish hturn, hrest⟩
  | commit after =>
      cases after with
      | none => exact ⟨_, .commit hturn, hrest⟩
      | some p' =>
          obtain ⟨out, halone, hout⟩ := hrest
          exact ⟨out, .commitThen hturn halone, hout⟩
  | rollback after =>
      cases after with
      | none => exact ⟨_, .rollback hturn, hrest⟩
      | some p' =>
          obtain ⟨out, halone, hout⟩ := hrest
          exact ⟨out, .rollbackThen hturn halone, hout⟩

/-- A call at a read. -/
theorem Program.Ends.of_read {prog : Program K σ ρ P} {Q : Option σ × σ → Prop} {k : K} {r : ρ}
    {p : P} {h : Option σ} {s : σ} {f : σ → ρ → Next P} (hstmt : prog.stmt k p = .read f)
    (hrest : ∀ n, f (h.getD s) r = n → prog.EndsAfter Q k r h s n) : prog.Ends Q k r p h s :=
  .of_turn (Program.turn_read hstmt rfl) (hrest _ rfl)

/-- A call at a locking statement. -/
theorem Program.Ends.of_lock {prog : Program K σ ρ P} {Q : Option σ × σ → Prop} {k : K} {r : ρ}
    {p : P} {h : Option σ} {s : σ} {f : σ → ρ → Next P × Effect σ}
    (hstmt : prog.stmt k p = .lock f)
    (hrest : ∀ n e, f (h.getD s) r = (n, e) → prog.EndsAfter Q k r (e.apply h) s n) :
    prog.Ends Q k r p h s :=
  .of_turn (Program.turn_lock hstmt (Prod.mk.eta).symm) (hrest _ _ (Prod.mk.eta).symm)

/-- Whether the statement at a point needs the lock. -/
def Program.locks (prog : Program K σ ρ P) (k : K) (p : P) : Bool :=
  match prog.stmt k p with
  | .lock _ => true
  | _ => false

namespace World

/-- The copy a session has of a row. -/
def held (w : World K σ P) (i : ℕ) (k : K) : Option σ :=
  (w.holder k).bind fun c => if c.1 = i then some c.2 else none

/-- Whether no other session has a row. -/
def free (w : World K σ P) (i : ℕ) (k : K) : Bool := (w.holder k).all fun c => c.1 == i

/-- A session somewhere else. -/
def goto (w : World K σ P) (i : ℕ) (ph : Phase K P) : World K σ P :=
  { w with phase := Function.update w.phase i ph }

/-- A session with another copy of a row. -/
def hold [DecidableEq K] (w : World K σ P) (i : ℕ) (k : K) (h : Option σ) : World K σ P :=
  { w with holder := fun k' =>
      if k' = k then
        match h with
        | some s => some (i, s)
        | none => (w.holder k).filter fun c => c.1 != i
      else w.holder k' }

/-- A session without copies. -/
def drop (w : World K σ P) (i : ℕ) : World K σ P :=
  { w with holder := fun k => (w.holder k).filter fun c => c.1 != i }

/-- The copies of a session put in place. -/
def publish (w : World K σ P) (i : ℕ) : World K σ P :=
  { w with committed := fun k => (w.held i k).getD (w.committed k) }

/-- Where a call on a row is after a statement. -/
def proceed (w : World K σ P) (i : ℕ) (k : K) : Next P → World K σ P
  | .goto p => w.goto i (.inCall k p)
  | .finish => w.goto i .ready
  | .commit after => ((w.publish i).drop i).goto i (after.elim .ready (.inCall k))
  | .rollback after => (w.drop i).goto i (after.elim .ready (.inCall k))

/-- One step; a session waits for a row that another one has. -/
def step [DecidableEq K] (prog : Program K σ ρ P) (w : World K σ P) :
    RowOp K ρ P → Option (World K σ P)
  | .start i k p =>
    match w.phase i with
    | .ready => if prog.entry k p then some (w.goto i (.inCall k p)) else none
    | .inCall _ _ => none
  | .next i r =>
    match w.phase i with
    | .ready => none
    | .inCall k p =>
      if prog.locks k p && !w.free i k then none
      else
        let out := prog.turn k p (w.held i k) (w.committed k) r
        some ((w.hold i k out.2).proceed i k out.1)
  | .commit i =>
    match w.phase i with
    | .ready => some ((w.publish i).drop i)
    | .inCall _ _ => none
  | .rollback i => some ((w.drop i).goto i .ready)

/-- The steps as a relation. -/
def Step [DecidableEq K] (prog : Program K σ ρ P) (w : World K σ P) (op : RowOp K ρ P)
    (w' : World K σ P) : Prop :=
  w.step prog op = some w'

/-! ### Copies -/

/-- A copy is the copy of the session that has the row. -/
theorem held_eq_some_iff {w : World K σ P} {i : ℕ} {k : K} {s : σ} :
    w.held i k = some s ↔ w.holder k = some (i, s) := by
  unfold held
  cases hw : w.holder k with
  | none => simp
  | some c =>
      obtain ⟨j, t⟩ := c
      by_cases h : j = i
      · simp [h]
      · simp [h]

/-- A row has one session. -/
theorem held_unique {w : World K σ P} {i j : ℕ} {k : K} {s t : σ} (hi : w.held i k = some s)
    (hj : w.held j k = some t) : i = j := by
  rw [held_eq_some_iff] at hi hj
  rw [hi] at hj
  exact (Prod.mk.inj (Option.some.inj hj)).1

/-- A row no other session has. -/
theorem free_iff {w : World K σ P} {i : ℕ} {k : K} :
    w.free i k = true ↔ ∀ j, j ≠ i → w.held j k = none := by
  unfold free held
  cases hw : w.holder k with
  | none => simp
  | some c =>
      obtain ⟨j, t⟩ := c
      constructor
      · intro h j' hne
        have hji : j = i := by simpa using h
        subst hji
        simp [Ne.symm hne]
      · intro h
        by_contra hne
        have hji : j ≠ i := by simpa using hne
        simpa using h j hji

@[simp] theorem committed_goto (w : World K σ P) (i : ℕ) (ph : Phase K P) :
    (w.goto i ph).committed = w.committed := rfl

@[simp] theorem held_goto (w : World K σ P) (i : ℕ) (ph : Phase K P) :
    (w.goto i ph).held = w.held := rfl

@[simp] theorem phase_goto (w : World K σ P) (i : ℕ) (ph : Phase K P) :
    (w.goto i ph).phase i = ph := by simp [goto]

/-- The other sessions stay where they are. -/
theorem phase_goto_of_ne (w : World K σ P) {i j : ℕ} (h : j ≠ i) (ph : Phase K P) :
    (w.goto i ph).phase j = w.phase j := by simp [goto, h]

@[simp] theorem committed_drop (w : World K σ P) (i : ℕ) :
    (w.drop i).committed = w.committed := rfl

@[simp] theorem phase_drop (w : World K σ P) (i : ℕ) : (w.drop i).phase = w.phase := rfl

@[simp] theorem held_drop (w : World K σ P) (i : ℕ) (k : K) : (w.drop i).held i k = none := by
  change ((w.holder k).filter fun c => c.1 != i).bind (fun c => if c.1 = i then some c.2 else none)
    = none
  cases w.holder k with
  | none => rfl
  | some c => by_cases h : c.1 = i <;> simp [Option.filter_some, h]

/-- The other sessions keep their copies. -/
theorem held_drop_of_ne (w : World K σ P) {i j : ℕ} (h : j ≠ i) (k : K) :
    (w.drop i).held j k = w.held j k := by
  change ((w.holder k).filter fun c => c.1 != i).bind (fun c => if c.1 = j then some c.2 else none)
    = (w.holder k).bind fun c => if c.1 = j then some c.2 else none
  cases w.holder k with
  | none => rfl
  | some c =>
      by_cases hc : c.1 = i
      · simp [Option.filter_some, hc, Ne.symm h]
      · simp [Option.filter_some, hc]

@[simp] theorem phase_publish (w : World K σ P) (i : ℕ) : (w.publish i).phase = w.phase := rfl

@[simp] theorem committed_publish (w : World K σ P) (i : ℕ) (k : K) :
    (w.publish i).committed k = (w.held i k).getD (w.committed k) := rfl

@[simp] theorem held_publish (w : World K σ P) (i : ℕ) : (w.publish i).held = w.held := rfl

section Hold

variable [DecidableEq K]

@[simp] theorem committed_hold (w : World K σ P) (i : ℕ) (k : K) (h : Option σ) :
    (w.hold i k h).committed = w.committed := rfl

@[simp] theorem phase_hold (w : World K σ P) (i : ℕ) (k : K) (h : Option σ) :
    (w.hold i k h).phase = w.phase := rfl

@[simp] theorem held_hold (w : World K σ P) (i : ℕ) (k : K) (h : Option σ) :
    (w.hold i k h).held i k = h := by
  cases h with
  | some s => simp [held, hold]
  | none =>
      have hdrop := held_drop w i k
      simp only [held, drop] at hdrop
      simp only [held, hold, if_true]
      exact hdrop

/-- The other rows stay with their sessions. -/
theorem held_hold_row (w : World K σ P) (i j : ℕ) {k k' : K} (hk : k' ≠ k) (h : Option σ) :
    (w.hold i k h).held j k' = w.held j k' := by
  simp [held, hold, hk]

/-- The other sessions keep their copies of a row that is free, or that is not written. -/
theorem held_hold_of_ne (w : World K σ P) {i j : ℕ} (hj : j ≠ i) (k : K) {h : Option σ}
    (hfree : (∀ j, j ≠ i → w.held j k = none) ∨ h = w.held i k) (k' : K) :
    (w.hold i k h).held j k' = w.held j k' := by
  by_cases hk : k' = k
  · subst hk
    cases h with
    | none =>
        have hdrop := held_drop_of_ne w hj k'
        simp only [held, drop] at hdrop
        simp only [held, hold, if_true]
        exact hdrop
    | some s =>
        have hnone : w.held j k' = none := by
          rcases hfree with hfree | heq
          · exact hfree j hj
          · by_contra hne
            obtain ⟨t, ht⟩ := Option.ne_none_iff_exists'.mp hne
            exact hj (held_unique ht heq.symm)
        rw [hnone]
        simp [held, hold, Ne.symm hj]
  · exact held_hold_row w i j hk h

end Hold

end World

/-! ### Outlines -/

section Outlines

/-- What must be known after a statement, by where the call goes. -/
def After (inv : K → σ → Prop) (facts : K → P → Option σ → σ → Prop) (done : K → σ → σ → Prop)
    (k : K) (h : Option σ) (s : σ) : Next P → Prop
  | .goto p => facts k p h s
  | .finish => ∀ m, h = some m → done k m s
  | .commit after => inv k (h.getD s) ∧ ∀ p, after = some p → facts k p none (h.getD s)
  | .rollback after => ∀ p, after = some p → facts k p none s

/-- What must be known after a read. -/
theorem After.of_read {prog : Program K σ ρ P} {inv : K → σ → Prop}
    {facts : K → P → Option σ → σ → Prop} {done : K → σ → σ → Prop} {k : K} {p : P}
    {f : σ → ρ → Next P} (hstmt : prog.stmt k p = .read f) {h : Option σ} {s : σ} {r : ρ}
    (hf : ∀ n, f (h.getD s) r = n → After inv facts done k h s n) :
    After inv facts done k (prog.turn k p h s r).2 s (prog.turn k p h s r).1 := by
  rw [Program.turn_read hstmt rfl]
  exact hf _ rfl

/-- What must be known after a locking statement. -/
theorem After.of_lock {prog : Program K σ ρ P} {inv : K → σ → Prop}
    {facts : K → P → Option σ → σ → Prop} {done : K → σ → σ → Prop} {k : K} {p : P}
    {f : σ → ρ → Next P × Effect σ} (hstmt : prog.stmt k p = .lock f) {h : Option σ} {s : σ}
    {r : ρ} (hf : ∀ n e, f (h.getD s) r = (n, e) → After inv facts done k (e.apply h) s n) :
    After inv facts done k (prog.turn k p h s r).2 s (prog.turn k p h s r).1 := by
  rw [Program.turn_lock hstmt (Prod.mk.eta).symm]
  exact hf _ _ (Prod.mk.eta).symm

/-- What a session knows at each point of a call about its copy and the committed row, and
about a copy it has between calls, under an invariant of the committed rows. -/
structure Outline (prog : Program K σ ρ P) (inv : K → σ → Prop) where
  /-- What is known in a call about a copy and the committed row. -/
  facts : K → P → Option σ → σ → Prop
  /-- What is known between calls about a copy and the committed row. -/
  done : K → σ → σ → Prop
  /-- What is known without the lock survives the commits of others. -/
  stable : ∀ {k p s s'}, facts k p none s → inv k s' → facts k p none s'
  /-- A call starts without a copy. -/
  enter : ∀ {k p s}, prog.entry k p = true → inv k s → facts k p none s
  /-- A call starts with the copy of an earlier call. -/
  reenter : ∀ {k p m s}, prog.entry k p = true → inv k s → done k m s → facts k p (some m) s
  /-- What is known between calls suffices to commit. -/
  commits : ∀ {k m s}, done k m s → inv k s → inv k m
  /-- What is known at a point suffices for its statement. -/
  turn : ∀ {k p h s r}, inv k s → facts k p h s →
    After inv facts done k (prog.turn k p h s r).2 s (prog.turn k p h s r).1

namespace Outline

variable {prog : Program K σ ρ P} {inv : K → σ → Prop}

/-- What a session knows about a row, wherever it stands. -/
def At (o : Outline prog inv) (k : K) (h : Option σ) (s : σ) : Phase K P → Prop
  | .ready => ∀ m, h = some m → o.done k m s
  | .inCall k' p =>
    (k' = k → o.facts k p h s) ∧ (k' ≠ k → ∀ m, h = some m → o.done k m s)

/-- What an outline says of a world. -/
structure Sound (o : Outline prog inv) (w : World K σ P) : Prop where
  rows : ∀ k, inv k (w.committed k)
  known : ∀ i k, o.At k (w.held i k) (w.committed k) (w.phase i)

/-- What an outline says of a world, but for one session. -/
structure SoundBut (o : Outline prog inv) (i : ℕ) (w : World K σ P) : Prop where
  rows : ∀ k, inv k (w.committed k)
  known : ∀ j, j ≠ i → ∀ k, o.At k (w.held j k) (w.committed k) (w.phase j)

/-- Before anything has started. -/
theorem sound_initial (o : Outline prog inv) {committed : K → σ}
    (h : ∀ k, inv k (committed k)) : o.Sound (World.initial committed) :=
  ⟨h, fun _ _ _ hm => by cases hm⟩

/-- Leaving one session out. -/
theorem Sound.but {o : Outline prog inv} {w : World K σ P} (h : o.Sound w) (i : ℕ) :
    o.SoundBut i w := ⟨h.rows, fun j _ k => h.known j k⟩

/-- What a session without a copy of a row knows survives the commits of others. -/
theorem At.stable {o : Outline prog inv} {k : K} {s s' : σ} {ph : Phase K P}
    (h : o.At k none s ph) (hs' : inv k s') : o.At k none s' ph := by
  cases ph with
  | ready => exact fun m hm => by cases hm
  | inCall k' p => exact ⟨fun hk => o.stable (h.1 hk) hs', fun _ m hm => by cases hm⟩

/-- A session that goes where it knows enough. -/
theorem SoundBut.goto {o : Outline prog inv} {w : World K σ P} {i : ℕ} (h : o.SoundBut i w)
    {ph : Phase K P} (hph : ∀ k, o.At k (w.held i k) (w.committed k) ph) :
    o.Sound (w.goto i ph) := by
  refine ⟨h.rows, fun j k => ?_⟩
  by_cases hj : j = i
  · subst hj
    rw [World.phase_goto]
    exact hph k
  · rw [World.phase_goto_of_ne _ hj]
    exact h.known j hj k

/-- A session that drops its copies. -/
theorem SoundBut.drop {o : Outline prog inv} {w : World K σ P} {i : ℕ}
    (h : o.SoundBut i w) : o.SoundBut i (w.drop i) := by
  refine ⟨h.rows, fun j hj k => ?_⟩
  rw [World.held_drop_of_ne w hj]
  exact h.known j hj k

/-- **Commits**: a session that puts copies in place which keep the invariant. -/
theorem SoundBut.publish {o : Outline prog inv} {w : World K σ P} {i : ℕ}
    (h : o.SoundBut i w) (hinv : ∀ k, inv k ((w.held i k).getD (w.committed k))) :
    o.SoundBut i (w.publish i) := by
  refine ⟨hinv, fun j hj k => ?_⟩
  have hknown := h.known j hj k
  rw [World.held_publish, World.phase_publish]
  cases hi : w.held i k with
  | none =>
      have hsame : (w.publish i).committed k = w.committed k := by
        rw [World.committed_publish, hi]
        rfl
      rw [hsame]
      exact hknown
  | some m =>
      have hnone : w.held j k = none := by
        by_contra hne
        obtain ⟨t, ht⟩ := Option.ne_none_iff_exists'.mp hne
        exact hj (World.held_unique ht hi)
      rw [hnone] at hknown ⊢
      exact hknown.stable (hinv k)

/-- A session without copies is sound where it knows enough without them. -/
theorem At.after {o : Outline prog inv} {k : K} {s : K → σ} {after : Option P}
    (h : ∀ p, after = some p → o.facts k p none (s k)) (k' : K) :
    o.At k' none (s k') (after.elim .ready (.inCall k)) := by
  cases after with
  | none => exact fun m hm => by cases hm
  | some p =>
      refine ⟨?_, fun _ m hm => by cases hm⟩
      rintro rfl
      exact h p rfl

/-- A statement without the lock leaves the copy. -/
theorem turn_of_not_locks {k : K} {p : P} (hlocks : prog.locks k p = false) (h : Option σ)
    (s : σ) (r : ρ) : (prog.turn k p h s r).2 = h := by
  rw [Program.locks] at hlocks
  rw [Program.turn]
  cases hstmt : prog.stmt k p with
  | read f => rfl
  | savepoint f => rfl
  | lock f =>
      rw [hstmt] at hlocks
      cases hlocks

variable [DecidableEq K]

/-- **After a statement**, where the call goes is sound. -/
theorem SoundBut.proceed {o : Outline prog inv} {w : World K σ P} {i : ℕ} {k : K}
    (h : o.SoundBut i w) (hown : ∀ k', k' ≠ k → ∀ m, w.held i k' = some m →
      o.done k' m (w.committed k')) {n : Next P}
    (hafter : After inv o.facts o.done k (w.held i k) (w.committed k) n) :
    o.Sound (w.proceed i k n) := by
  cases n with
  | goto p =>
      refine h.goto fun k' => ⟨?_, fun hk => hown k' (Ne.symm hk)⟩
      rintro rfl
      exact hafter
  | finish =>
      refine h.goto fun k' m hm => ?_
      by_cases hk : k' = k
      · subst hk
        exact hafter m hm
      · exact hown k' hk m hm
  | commit after =>
      have hinv : ∀ k', inv k' ((w.held i k').getD (w.committed k')) := by
        intro k'
        by_cases hk : k' = k
        · subst hk
          exact hafter.1
        · cases hm : w.held i k' with
          | none => exact h.rows k'
          | some m => exact o.commits (hown k' hk m hm) (h.rows k')
      refine (h.publish hinv).drop.goto fun k' => ?_
      rw [World.held_drop]
      exact At.after (s := (w.publish i).committed) hafter.2 k'
  | rollback after =>
      refine h.drop.goto fun k' => ?_
      rw [World.held_drop]
      exact At.after (s := w.committed) hafter k'

/-- A session that gets another copy of a row, which no other session has or which stays as
it is. -/
theorem SoundBut.hold {o : Outline prog inv} {w : World K σ P} {i : ℕ} (h : o.SoundBut i w)
    (k : K) {c : Option σ} (hfree : (∀ j, j ≠ i → w.held j k = none) ∨ c = w.held i k) :
    o.SoundBut i (w.hold i k c) := by
  refine ⟨h.rows, fun j hj k' => ?_⟩
  rw [World.held_hold_of_ne w hj k hfree]
  exact h.known j hj k'

/-- **One step** keeps what an outline says. -/
theorem sound_step (o : Outline prog inv) {w w' : World K σ P} {op : RowOp K ρ P}
    (h : o.Sound w) (hstep : World.Step prog w op w') : o.Sound w' := by
  cases op with
  | start i k p =>
      simp only [World.Step, World.step] at hstep
      cases hph : w.phase i with
      | inCall k' p' =>
          rw [hph] at hstep
          cases hstep
      | ready =>
          simp only [hph] at hstep
          split at hstep
          · rename_i hentry
            cases hstep
            refine (h.but i).goto fun k' => ?_
            have hready := h.known i k'
            rw [hph] at hready
            refine ⟨?_, fun _ => hready⟩
            rintro rfl
            cases hheld : w.held i k with
            | none => exact o.enter hentry (h.rows k)
            | some m => exact o.reenter hentry (h.rows k) (hready m hheld)
          · cases hstep
  | next i r =>
      simp only [World.Step, World.step] at hstep
      cases hph : w.phase i with
      | ready =>
          rw [hph] at hstep
          cases hstep
      | inCall k p =>
          simp only [hph] at hstep
          split at hstep
          · cases hstep
          · rename_i hgo
            cases hstep
            have hknown := fun k' => h.known i k'
            rw [hph] at hknown
            have hfree : (∀ j, j ≠ i → w.held j k = none) ∨
                (prog.turn k p (w.held i k) (w.committed k) r).2 = w.held i k := by
              by_cases hl : prog.locks k p = true
              · have hfree : w.free i k = true := by simpa [hl] using hgo
                exact .inl (World.free_iff.mp hfree)
              · exact .inr (turn_of_not_locks (by simpa using hl) _ _ _)
            refine ((h.but i).hold k hfree).proceed (fun k' hk m hm => ?_) ?_
            · rw [World.held_hold_row w i i hk] at hm
              exact (hknown k').2 (Ne.symm hk) m hm
            · rw [World.held_hold]
              exact o.turn (h.rows k) ((hknown k).1 rfl)
  | commit i =>
      simp only [World.Step, World.step] at hstep
      cases hph : w.phase i with
      | inCall k p =>
          rw [hph] at hstep
          cases hstep
      | ready =>
          simp only [hph, Option.some.injEq] at hstep
          subst hstep
          have hready : ∀ k m, w.held i k = some m → o.done k m (w.committed k) := by
            intro k
            have hknown := h.known i k
            rw [hph] at hknown
            exact hknown
          have hinv : ∀ k, inv k ((w.held i k).getD (w.committed k)) := by
            intro k
            cases hm : w.held i k with
            | none => exact h.rows k
            | some m => exact o.commits (hready k m hm) (h.rows k)
          have hbut := ((h.but i).publish hinv).drop
          refine ⟨hbut.rows, fun j k => ?_⟩
          by_cases hj : j = i
          · subst hj
            rw [World.held_drop, World.phase_drop, World.phase_publish, hph]
            exact fun m hm => by cases hm
          · exact hbut.known j hj k
  | rollback i =>
      simp only [World.Step, World.step, Option.some.injEq] at hstep
      subst hstep
      refine (h.but i).drop.goto fun k m hm => ?_
      rw [World.held_drop] at hm
      cases hm

/-- **Every interleaving** keeps what an outline says. -/
theorem sound_run (o : Outline prog inv) {w w' : World K σ P}
    {tr : List (World K σ P × RowOp K ρ P)} (hrun : Run (World.Step prog) w tr w')
    (h : o.Sound w) : Holds o.Sound tr w' :=
  hrun.invariant (fun hs hstep => o.sound_step hs hstep) h

/-- **Committed rows** keep the invariant of an outline, whatever the order of statements. -/
theorem committed (o : Outline prog inv) {rows : K → σ} (hrows : ∀ k, inv k (rows k))
    {w' : World K σ P} {tr : List (World K σ P × RowOp K ρ P)}
    (hrun : Run (World.Step prog) (World.initial rows) tr w') :
    Holds (fun w => ∀ k, inv k (w.committed k)) tr w' := by
  have hsound := o.sound_run hrun (o.sound_initial hrows)
  exact hsound.mono fun w hw => hw.rows

end Outline

end Outlines

/-! ### Committed rows -/

section Committed

variable [DecidableEq K] {prog : Program K σ ρ P}

end Committed

end StabilityPlatform.Lib.RowLock
