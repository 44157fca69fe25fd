import StabilityPlatform.Core.PyVal
import StabilityPlatform.Lib.Run

/-!
# Sessions

A session is a pair of signed tokens. They carry the number of the account, the version it had when
they were issued, and when they expire; a change of the password, the role or the activity of an
account raises its version, so that tokens that were issued before are no longer accepted. A
refresh token is traded for a new pair: the request looks whether the token is revoked, looks at the
account, revokes the token, and issues a pair for the account as it is by then. Requests interleave
between these statements, and nothing locks the row of an account.

## Main results

* `refresh_taken_once`: **a refresh token is taken once**, by a refresh or a logout.
* `changes_end_sessions_iff`: **a change ends the sessions** of its account for good exactly when no
  change writes a version that was in use.
-/

namespace StabilityPlatform.Sessions

open Lib

/-! ### Accounts and tokens -/

/-- What sessions depend on of a row of `users`. -/
structure User where
  isActive : Bool
  tokenVersion : ℕ

/-- The claim `type` of a token. -/
inductive TokenType where
  | access
  | refresh
  deriving DecidableEq

/-- The payload of a token. -/
structure Token where
  sub : ℕ
  ver : ℕ
  exp : Time
  type : TokenType
  jti : String
  deriving DecidableEq

/-- `exp` is in whole seconds. -/
def expiry (now : Time) (seconds : ℤ) : Time := (now / 1000000 + seconds) * 1000000

/-- A change of an account: of the own password, of the activity by its switch, or of some of
password, role and activity. -/
inductive AccountChange
  | changePassword
  | toggleUserActive
  | updateUser (password role : Bool) (isActive : Option Bool)

/-- The version that follows one that was read. -/
def raised (version : ℕ) : ℕ := (if version = 0 then 1 else version) + 1

namespace AccountChange

/-- Whether the change raises the version. -/
def bumps : AccountChange → Bool
  | .changePassword | .toggleUserActive => true
  | .updateUser password role isActive => password || role || isActive.isSome

/-- The activity that is set. -/
def isActive (read : User) : AccountChange → Bool
  | .changePassword => read.isActive
  | .toggleUserActive => !read.isActive
  | .updateUser _ _ isActive => isActive.getD read.isActive

/-- The row after the update: only columns that differ from what was read are written. -/
def applied (change : AccountChange) (read row : User) : User where
  isActive := if change.isActive read = read.isActive then row.isActive else change.isActive read
  tokenVersion := if change.bumps then raised read.tokenVersion else row.tokenVersion

end AccountChange

/-! ### Requests -/

/-- Where a request is: a refresh after each of its statements, a session that may be issued, a
logout, or a change of an account with the row it has read. -/
inductive Request
  | idle
  | decoded (token : Token)
  | unrevoked (token : Token)
  | resolved (token : Token)
  | mayIssue (userId : ℕ)
  | leaving (token : Token)
  | changing (userId : ℕ) (read : User) (change : AccountChange)

/-- The clock, the accounts, the tokens that were issued, the rows of `revoked_refresh_token`, and
the requests; also, for the record, the tokens that were issued for an account before a change that
raised its version. -/
structure AuthState where
  now : Time
  users : ℕ → Option User
  nextUser : ℕ
  issued : List Token
  revoked : List (String × Time)
  requests : ℕ → Request
  ended : List Token

/-- What happens: time passes, an account is added or deleted, a user logs in or out, a refresh goes
on, a session is issued with two identifiers, rows that had expired are deleted, an account is
changed, or a request is given up. -/
inductive AuthOp
  | tick (elapsed : ℕ)
  | register
  | deleteUser (userId : ℕ)
  | login (r userId : ℕ)
  | refresh (r : ℕ) (token : Token)
  | isRevoked (r : ℕ)
  | resolve (r : ℕ)
  | revoke (r : ℕ)
  | issue (r : ℕ) (access refresh : String)
  | logout (r : ℕ) (token : Token)
  | cleanupExpired (cutoff : Time)
  | change (r userId : ℕ) (change : AccountChange)
  | commit (r : ℕ)
  | drop (r : ℕ)

namespace AuthState

/-- Nobody has an account. -/
def start (now : Time) : AuthState := ⟨now, fun _ => none, 1, [], [], fun _ => .idle, []⟩

/-- `decode_token`: only tokens that were issued are signed. -/
def decodeToken (s : AuthState) (expected : TokenType) (token : Token) : Bool :=
  s.issued.contains token && decide (s.now < token.exp) && token.type == expected

/-- `resolve_payload_user`. -/
def resolvePayloadUser (s : AuthState) (token : Token) : Option User :=
  (s.users token.sub).filter fun user => user.isActive && token.ver == user.tokenVersion

/-- `authenticate_token`. -/
def authenticateToken (s : AuthState) (expected : TokenType) (token : Token) : Option User :=
  if s.decodeToken expected token then s.resolvePayloadUser token else none

/-- `is_revoked`. -/
def isRevoked (s : AuthState) (jti : String) : Bool := s.revoked.any (·.1 == jti)

/-- `revoke`, where there is no row. -/
def revoke (s : AuthState) (token : Token) : AuthState :=
  { s with revoked := (token.jti, token.exp) :: s.revoked }

/-- A request goes on. -/
def goto (s : AuthState) (r : ℕ) (request : Request) : AuthState :=
  { s with requests := Function.update s.requests r request }

/-- `_issue_token_pair`: the commits before have expired the row, so that it is read again. -/
def issueTokenPair (s : AuthState) (userId : ℕ) (access refresh : String) : AuthState :=
  match s.users userId with
  | some user => { s with issued := s.issued ++
      [⟨userId, user.tokenVersion, expiry s.now (480 * 60), .access, access⟩,
        ⟨userId, user.tokenVersion, expiry s.now (30 * 86400), .refresh, refresh⟩] }
  | none => s

/-- The update of an account, which matches no row when it was deleted. -/
def write (s : AuthState) (userId : ℕ) (read : User) (change : AccountChange) : AuthState :=
  match s.users userId with
  | some row => { s with
      users := Function.update s.users userId (some (change.applied read row))
      ended := if change.bumps then s.ended ++ s.issued.filter (·.sub == userId) else s.ended }
  | none => s

/-- The state after a step; `none` when it cannot be taken. -/
def step (s : AuthState) : AuthOp → Option AuthState
  | .tick elapsed => some { s with now := s.now + elapsed }
  | .register => some { s with
      users := Function.update s.users s.nextUser (some ⟨true, 1⟩)
      nextUser := s.nextUser + 1 }
  | .deleteUser userId => some { s with users := Function.update s.users userId none }
  | .login r userId =>
    if (s.users userId).any (·.isActive) then some (s.goto r (.mayIssue userId)) else none
  | .refresh r token =>
    if s.decodeToken .refresh token then some (s.goto r (.decoded token)) else none
  | .isRevoked r =>
    match s.requests r with
    | .decoded token => some (s.goto r (if s.isRevoked token.jti then .idle else .unrevoked token))
    | _ => none
  | .resolve r =>
    match s.requests r with
    | .unrevoked token =>
      some (s.goto r (if (s.resolvePayloadUser token).isSome then .resolved token else .idle))
    | _ => none
  | .revoke r =>
    match s.requests r with
    | .resolved token =>
      some (if s.isRevoked token.jti then s.goto r .idle
        else (s.revoke token).goto r (.mayIssue token.sub))
    | .leaving token =>
      some (if s.isRevoked token.jti then s.goto r .idle else (s.revoke token).goto r .idle)
    | _ => none
  | .issue r access refresh =>
    match s.requests r with
    | .mayIssue userId => some ((s.issueTokenPair userId access refresh).goto r .idle)
    | _ => none
  | .logout r token =>
    if s.decodeToken .refresh token then some (s.goto r (.leaving token)) else none
  | .cleanupExpired cutoff =>
    if cutoff ≤ s.now then
      some { s with revoked := s.revoked.filter fun row => decide (cutoff ≤ row.2) }
    else none
  | .change r userId change =>
    (s.users userId).map fun read => s.goto r (.changing userId read change)
  | .commit r =>
    match s.requests r with
    | .changing userId read change => some ((s.write userId read change).goto r .idle)
    | _ => none
  | .drop r => some (s.goto r .idle)

/-- The step relation. -/
abbrev Step (s : AuthState) (op : AuthOp) (s' : AuthState) : Prop := s.step op = some s'

end AuthState

variable {s s' t : AuthState} {op : AuthOp} {tr : List (AuthState × AuthOp)}

/-! ### What a step does -/

/-- What a step keeps that writes no account: only rows that have expired are deleted, only new
accounts appear, and tokens are issued with the version their account has. -/
structure Kept (s s' : AuthState) : Prop where
  now : s.now ≤ s'.now
  revoked : ∀ row ∈ s.revoked, row ∈ s'.revoked ∨ row.2 < s'.now
  issued : ∃ tokens, s'.issued = s.issued ++ tokens ∧ ∀ token ∈ tokens, ∃ user,
    s.users token.sub = some user ∧ token.ver = user.tokenVersion
  ended : s'.ended = s.ended
  next : s.nextUser ≤ s'.nextUser
  users : ∀ userId user, s'.users userId = some user →
    s.users userId = some user ∨ s.nextUser ≤ userId ∧ userId < s'.nextUser

/-- A state is kept as it is. -/
theorem Kept.refl (s : AuthState) : Kept s s :=
  ⟨le_rfl, fun _ hrow => .inl hrow, ⟨[], (List.append_nil _).symm, by simp⟩, rfl, le_rfl,
    fun _ _ hget => .inl hget⟩

/-- A change that is committed: the account, the row that was read, and the row that is there. -/
structure Written where
  userId : ℕ
  read : User
  change : AccountChange
  row : User

/-- The change a step commits, if the account is still there. -/
def AuthState.written (s : AuthState) : AuthOp → Option Written
  | .commit r =>
    match s.requests r with
    | .changing userId read change => (s.users userId).map fun row => ⟨userId, read, change, row⟩
    | _ => none
  | _ => none

/-- **What a step does**: it writes an account, or keeps them. -/
theorem step_cases (hstep : s.Step op s') : (Kept s s' ∧ s.written op = none) ∨
    ∃ w r, s.written op = some w ∧ s.users w.userId = some w.row ∧
      s' = (s.write w.userId w.read w.change).goto r .idle := by
  have hgoto : ∀ r request, Kept s (s.goto r request) := fun _ _ => { Kept.refl s with }
  have hrevoke : ∀ token r request, Kept s ((s.revoke token).goto r request) := fun _ _ _ =>
    { Kept.refl s with revoked := fun _ hrow => .inl (List.mem_cons_of_mem _ hrow) }
  cases op with
  | commit r =>
      rw [AuthState.Step, AuthState.step] at hstep
      rw [AuthState.written]
      split at hstep
      · rename_i userId read change hrequest
        cases hstep
        cases hget : s.users userId with
        | none =>
            refine .inl ⟨?_, rfl⟩
            rw [AuthState.write, hget]
            exact hgoto r .idle
        | some row => exact .inr ⟨⟨userId, read, change, row⟩, r, rfl, hget, rfl⟩
      · cases hstep
  | tick elapsed =>
      cases hstep
      exact .inl ⟨{ Kept.refl s with
        now := Int.le_add_of_nonneg_right (Int.natCast_nonneg _)
        revoked := fun _ hrow => .inl hrow }, rfl⟩
  | register =>
      cases hstep
      refine .inl ⟨{ Kept.refl s with
        next := Nat.le_succ _
        users := fun userId user hget => ?_ }, rfl⟩
      by_cases hid : userId = s.nextUser
      · exact .inr ⟨hid.ge, Nat.lt_succ_of_le hid.le⟩
      · exact .inl ((Function.update_of_ne hid _ _).symm.trans hget)
  | deleteUser id =>
      cases hstep
      refine .inl ⟨{ Kept.refl s with users := fun userId user hget => ?_ }, rfl⟩
      by_cases hid : userId = id
      · subst hid
        cases (Function.update_self userId none s.users).symm.trans hget
      · exact .inl ((Function.update_of_ne hid _ _).symm.trans hget)
  | cleanupExpired cutoff =>
      obtain ⟨hcutoff, heq⟩ := Option.ite_none_right_eq_some.mp hstep
      cases heq
      refine .inl ⟨{ Kept.refl s with revoked := fun row hrow => ?_ }, rfl⟩
      by_cases hlive : cutoff ≤ row.2
      · exact .inl (List.mem_filter.mpr ⟨hrow, decide_eq_true hlive⟩)
      · exact .inr ((not_le.mp hlive).trans_le hcutoff)
  | issue r access refresh =>
      rw [AuthState.Step, AuthState.step] at hstep
      split at hstep
      · cases hstep
        refine .inl ⟨?_, rfl⟩
        rw [AuthState.issueTokenPair]
        split
        · rename_i user hget
          exact { Kept.refl s with issued := ⟨_, rfl, by simp [hget]⟩ }
        · exact hgoto r .idle
      · cases hstep
  | login | refresh | logout =>
      obtain ⟨-, heq⟩ := Option.ite_none_right_eq_some.mp hstep
      cases heq
      exact .inl ⟨hgoto _ _, rfl⟩
  | change r userId change =>
      obtain ⟨_, -, heq⟩ := Option.map_eq_some_iff.mp hstep
      cases heq
      exact .inl ⟨hgoto _ _, rfl⟩
  | drop r =>
      cases hstep
      exact .inl ⟨hgoto _ _, rfl⟩
  | isRevoked r | resolve r =>
      rw [AuthState.Step, AuthState.step] at hstep
      split at hstep
      · cases hstep
        exact .inl ⟨hgoto _ _, rfl⟩
      · cases hstep
  | revoke r =>
      refine .inl ⟨?_, rfl⟩
      rw [AuthState.Step, AuthState.step] at hstep
      split at hstep
      · cases hstep
        split
        · exact hgoto _ _
        · exact hrevoke _ _ _
      · cases hstep
        split
        · exact hgoto _ _
        · exact hrevoke _ _ _
      · cases hstep

/-! ### Revoked tokens -/

/-- The step inserts the row of this token, for a refresh or a logout. -/
def Revokes (p : AuthState × AuthOp) (token : Token) : Prop :=
  ∃ r, p.2 = .revoke r ∧ p.1.isRevoked token.jti = false ∧
    (p.1.requests r = .resolved token ∨ p.1.requests r = .leaving token)

/-- The token has a row, or has expired. -/
def Spent (s : AuthState) (token : Token) : Prop :=
  (token.jti, token.exp) ∈ s.revoked ∨ token.exp < s.now

/-- A token that is inserted is spent. -/
theorem Revokes.spent {token : Token} (h : Revokes (s, op) token) (hstep : s.Step op s') :
    Spent s' token := by
  obtain ⟨r, rfl, hfree, hrequest⟩ := h
  left
  dsimp only at hfree hrequest
  rcases hrequest with hrequest | hrequest
  all_goals
    rw [AuthState.Step, AuthState.step, hrequest] at hstep
    dsimp only at hstep
    rw [hfree] at hstep
    cases hstep
    exact List.mem_cons_self

/-- Only a token that has expired is inserted when it is spent. -/
theorem Spent.expired {token : Token} (h : Spent s token) (hrevokes : Revokes (s, op) token) :
    token.exp < s.now := by
  obtain ⟨_, -, hfree, -⟩ := hrevokes
  refine h.resolve_left fun hrow => ?_
  have hany : s.isRevoked token.jti = true := List.any_eq_true.mpr ⟨_, hrow, beq_self_eq_true _⟩
  rw [hfree] at hany
  cases hany

/-- A spent token stays spent. -/
theorem Spent.step {token : Token} (h : Spent s token) (hstep : s.Step op s') :
    Spent s' token := by
  obtain ⟨hkept, -⟩ | ⟨w, r, -, hget, rfl⟩ := step_cases hstep
  · obtain hrow | hexpired := h
    · exact hkept.revoked _ hrow
    · exact .inr (hexpired.trans_le hkept.now)
  · rw [AuthState.write, hget]
    exact h

/-- **A refresh token is taken once.** However refreshes, logouts and the cleanup interleave, of all
that present a refresh token before it expires one at most revokes it, and only a refresh that does
gets a new pair. -/
theorem refresh_taken_once (h : Run AuthState.Step s tr t) : tr.Pairwise fun p q =>
    ∀ token, Revokes p token → Revokes q token → token.exp < q.1.now := by
  induction h with
  | nil => exact .nil
  | cons hstep hrest ih =>
      refine List.pairwise_cons.mpr ⟨fun q hq token hfirst hlater => ?_, ih⟩
      have hspent := hrest.invariant (P := fun x => Spent x token)
        (fun hspent hnext => hspent.step hnext) (hfirst.spent hstep)
      exact (hspent.1 q hq).expired hlater

/-- Two requests look at the same token before either revokes it: one of them gets a pair. -/
theorem refresh_taken_once_two : ∃ tr t, Run AuthState.Step (.start 0) tr t ∧
    t.issued.length = 4 ∧ tr.Pairwise fun p q =>
      ∀ token, Revokes p token → Revokes q token → token.exp < q.1.now := by
  let token : Token := ⟨1, 1, expiry 0 (30 * 86400), .refresh, "b"⟩
  have hrun : (([.register, .login 0 1, .issue 0 "a" "b", .refresh 0 token, .refresh 1 token,
      .isRevoked 0, .isRevoked 1, .resolve 0, .resolve 1, .revoke 1, .revoke 0, .issue 1 "c" "d"] :
        List AuthOp).foldlM AuthState.step (.start 0)).any (·.issued.length == 4) := by
    decide +kernel
  obtain ⟨t, hfold, hlength⟩ := (Option.any_eq_true _ _).mp hrun
  have hsteps := Run.of_foldlM hfold
  exact ⟨_, t, hsteps, beq_iff_eq.mp hlength, refresh_taken_once hsteps⟩

/-! ### Sessions that a change has ended -/

/-- Accounts are numbered in order, and tokens are issued for accounts. -/
structure Numbered (s : AuthState) : Prop where
  users : ∀ userId user, s.users userId = some user → userId < s.nextUser
  issued : ∀ token ∈ s.issued, token.sub < s.nextUser
  ended : s.ended ⊆ s.issued

/-- No session that a change has ended has the version of its account. -/
def Apart (s : AuthState) : Prop :=
  ∀ token ∈ s.ended, ∀ user, s.users token.sub = some user → user.tokenVersion ≠ token.ver

/-- A change that is committed writes a version that no token of the account has. -/
def WritesUnused (s : AuthState) (op : AuthOp) : Prop :=
  ∀ w ∈ s.written op, w.change.bumps = true →
    ∀ token ∈ s.issued, token.sub = w.userId → raised w.read.tokenVersion ≠ token.ver

/-- The accounts after one was written. -/
theorem users_write {userId id : ℕ} {read row user : User} {change : AccountChange}
    (hget : s.users userId = some row) :
    (s.write userId read change).users id = some user ↔
      if id = userId then change.applied read row = user else s.users id = some user := by
  rw [AuthState.write, hget]
  dsimp only
  by_cases hid : id = userId
  · rw [if_pos hid, hid, Function.update_self, Option.some.injEq]
  · rw [if_neg hid, Function.update_of_ne hid]

/-- Every step keeps the numbers in order. -/
theorem Numbered.step (h : Numbered s) (hstep : s.Step op s') : Numbered s' := by
  obtain ⟨hkept, -⟩ | ⟨w, r, -, hget, rfl⟩ := step_cases hstep
  · obtain ⟨tokens, hissued, hnew⟩ := hkept.issued
    refine ⟨fun id user hid => ?_, fun token htoken => ?_, ?_⟩
    · obtain hold | ⟨-, hlt⟩ := hkept.users id user hid
      · exact (h.users id user hold).trans_le hkept.next
      · exact hlt
    · rw [hissued, List.mem_append] at htoken
      refine lt_of_lt_of_le (htoken.elim (h.issued token) fun hmem => ?_) hkept.next
      obtain ⟨user, huser, -⟩ := hnew token hmem
      exact h.users _ _ huser
    · rw [hkept.ended, hissued]
      exact List.Subset.trans h.ended (List.subset_append_left _ _)
  · have husers : ∀ id user, (s.write w.userId w.read w.change).users id = some user →
        id < s.nextUser := by
      intro id user hid
      have hid := (users_write hget).mp hid
      split at hid
      · rename_i heq
        exact heq ▸ h.users _ _ hget
      · exact h.users id user hid
    rw [AuthState.write, hget] at husers ⊢
    refine ⟨husers, h.issued, ?_⟩
    change (if w.change.bumps then _ else _) ⊆ s.issued
    split
    · exact List.append_subset.mpr ⟨h.ended, List.filter_subset_self _⟩
    · exact h.ended

/-- **A step leaves the sessions ended** exactly when it writes no version that is in use. -/
theorem Apart.step_iff (hn : Numbered s) (h : Apart s) (hstep : s.Step op s') :
    Apart s' ↔ WritesUnused s op := by
  obtain ⟨hkept, hnone⟩ | ⟨w, r, hwritten, hget, rfl⟩ := step_cases hstep
  · refine iff_of_true (fun token htoken user huser => ?_) (by simp [WritesUnused, hnone])
    rw [hkept.ended] at htoken
    obtain hold | ⟨hnew, -⟩ := hkept.users _ _ huser
    · exact h token htoken user hold
    · exact absurd (hn.issued token (hn.ended htoken)) (not_lt.mpr hnew)
  · have hended : (s.write w.userId w.read w.change).ended =
        if w.change.bumps then s.ended ++ s.issued.filter (·.sub == w.userId) else s.ended := by
      rw [AuthState.write, hget]
    rw [WritesUnused, hwritten]
    by_cases hbumps : w.change.bumps = true
    · have hversion : (w.change.applied w.read w.row).tokenVersion =
          raised w.read.tokenVersion := if_pos hbumps
      rw [if_pos hbumps] at hended
      constructor
      · rintro hafter _ ⟨⟩ - token htoken hsub
        rw [← hversion]
        refine hafter token ?_ _ ((users_write hget).mpr ((if_pos hsub).mpr rfl))
        change token ∈ (s.write w.userId w.read w.change).ended
        rw [hended]
        exact List.mem_append_right _ (List.mem_filter.mpr ⟨htoken, beq_iff_eq.mpr hsub⟩)
      · intro hunused token htoken user huser
        change token ∈ (s.write w.userId w.read w.change).ended at htoken
        rw [hended, List.mem_append, List.mem_filter] at htoken
        have huser := (users_write hget).mp huser
        split at huser
        · rename_i hsub
          rw [← huser, hversion]
          exact hunused w rfl hbumps token (htoken.elim (hn.ended ·) (·.1)) hsub
        · rename_i hsub
          exact h token (htoken.resolve_right fun hmem => hsub (beq_iff_eq.mp hmem.2)) user huser
    · rw [if_neg hbumps] at hended
      refine iff_of_true (fun token htoken user huser => ?_) ?_
      · change token ∈ (s.write w.userId w.read w.change).ended at htoken
        rw [hended] at htoken
        have huser := (users_write hget).mp huser
        split at huser
        · rename_i hsub
          rw [← huser, AccountChange.applied, if_neg hbumps]
          exact h token htoken w.row (hsub ▸ hget)
        · exact h token htoken user huser
      · rintro _ ⟨⟩ hb
        exact absurd hb hbumps

/-- At the start there are no accounts. -/
theorem numbered_start (now : Time) : Numbered (.start now) where
  users := fun _ _ hnone => by cases hnone
  issued := fun _ hmem => absurd hmem List.not_mem_nil
  ended := List.nil_subset _

/-- At the start no session has ended. -/
theorem apart_start (now : Time) : Apart (.start now) :=
  fun _ hmem => absurd hmem List.not_mem_nil

/-- **A change ends the sessions of its account for good** exactly when no change writes a version
that a token of the account has: in every state of a run, no token that was issued before a change
of its account has the version of the account. -/
theorem changes_end_sessions_iff {now : Time} (h : Run AuthState.Step (.start now) tr t) :
    Holds Apart tr t ↔ ∀ p ∈ tr, WritesUnused p.1 p.2 :=
  h.invariant_iff_guard (fun hn _ hstep => hn.step hstep) (fun hn ha hstep => ha.step_iff hn hstep)
    (numbered_start now) (apart_start now)

/-- Two changes overlap, with a login between their commits: the second one ends a session that is
accepted nevertheless. -/
theorem changes_end_sessions_iff_overlap : ∃ tr t, Run AuthState.Step (.start 0) tr t ∧
    (∃ token ∈ t.ended, (t.authenticateToken .access token).isSome) ∧
      ¬∀ p ∈ tr, WritesUnused p.1 p.2 := by
  let token : Token := ⟨1, 2, expiry 0 (480 * 60), .access, "a"⟩
  have hrun : (([.register, .change 0 1 .changePassword, .change 1 1 .changePassword, .commit 0,
      .login 2 1, .issue 2 "a" "b", .commit 1] : List AuthOp).foldlM AuthState.step (.start 0)).any
        (fun t => t.ended.contains token && (t.authenticateToken .access token).isSome &&
          (t.users 1).any (·.tokenVersion == 2)) := by
    decide +kernel
  obtain ⟨t, hfold, hend⟩ := (Option.any_eq_true _ _).mp hrun
  rw [Bool.and_eq_true, Bool.and_eq_true, List.contains_iff_mem] at hend
  obtain ⟨⟨hended, hlive⟩, huser⟩ := hend
  obtain ⟨user, hget, hversion⟩ := (Option.any_eq_true _ _).mp huser
  have hsteps := Run.of_foldlM hfold
  refine ⟨_, t, hsteps, ⟨token, hended, hlive⟩, fun hall => ?_⟩
  exact ((changes_end_sessions_iff hsteps).mpr hall).2 token hended user hget
    (beq_iff_eq.mp hversion)

end StabilityPlatform.Sessions
