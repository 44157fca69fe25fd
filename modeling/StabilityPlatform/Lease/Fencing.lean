import StabilityPlatform.DeviceReturn.Operations
import StabilityPlatform.Lib.Fencing

/-!
# Fencing tokens

An ownership period of a device starts when a lease is acquired, when the lease of a job is
converted to a debt lease or a debt lease is taken, and when a token is rotated. Each start
raises the generation of its device and names it in the token of the lease.

## Main results

* `LeaseMove`: what an operation on leases may do to generations and tokens.
* `fencing_unique`: **generations increase** from period to period, **no two periods share a
  token**, and a device never has two active leases.
-/

namespace StabilityPlatform

open Lib

/-! ### Generations -/

/-- The lease generation of a device. -/
def Db.generation (db : Db) (d : ℕ) : ℕ := ((db.devices.get? d).map Device.leaseGeneration).getD 0

/-- The generation of a device that was read. -/
theorem generation_of_get? {db : Db} {d : ℕ} {device : Device}
    (hget : db.devices.get? d = some device) : db.generation d = device.leaseGeneration := by
  rw [Db.generation, hget]
  rfl

/-- Generations after a device was written back. -/
theorem generation_saveDevice {db : Db} (device : Device) {old : Device}
    (hget : db.devices.get? device.id = some old) (d : ℕ) :
    (db.saveDevice device).generation d =
      if device.id = d then device.leaseGeneration else db.generation d := by
  unfold Db.generation Db.saveDevice
  rw [Table.get?_save]
  by_cases hd : device.id = d
  · subst hd
    rw [if_pos rfl, hget, Option.map_some, if_pos (show Row.id device = device.id from rfl)]
    rfl
  · have hne : ¬ Row.id device = d := hd
    simp [hd, hne]

/-- A device that goes to its next generation. -/
theorem generation_bump {db : Db} {device : Device}
    (hget : db.devices.get? device.id = some device) :
    (db.saveDevice device.bump).generation device.id = device.leaseGeneration + 1 :=
  (generation_saveDevice device.bump hget device.id).trans (if_pos rfl)

/-- No generation goes back when a device goes to its next one. -/
theorem generation_le_bump {db : Db} {device : Device}
    (hget : db.devices.get? device.id = some device) (d : ℕ) :
    db.generation d ≤ (db.saveDevice device.bump).generation d := by
  rw [generation_saveDevice device.bump hget]
  split
  · rename_i hd
    subst hd
    rw [generation_of_get? (show db.devices.get? device.bump.id = some device from hget)]
    exact Nat.le_succ _
  · exact le_rfl

/-! ### Moves of leases -/

/-- Two versions of a lease in one ownership period, the later one active only if the earlier
one is. -/
structure SamePeriod (old l : DeviceLease) : Prop where
  key : old.id = l.id
  device : old.deviceId = l.deviceId
  generation : old.leaseGeneration = l.leaseGeneration
  token : old.fencingToken = l.fencingToken
  active : l.status = .active → old.status = .active

/-- A lease is in its own period. -/
theorem SamePeriod.refl (l : DeviceLease) : SamePeriod l l := ⟨rfl, rfl, rfl, rfl, id⟩

/-- What an operation may do to generations and leases. It opens at most one period, of the
lease `opened`: this lease has the generation its device reached by the operation. All other
leases stay in their periods. -/
structure LeaseMove (opened : Option DeviceLease) (db db' : Db) : Prop where
  generations : ∀ d, db.generation d ≤ db'.generation d
  grants : ∀ l, opened = some l → l ∈ db'.leases.rows ∧ l.status = .active ∧
    db.generation l.deviceId < l.leaseGeneration ∧
    l.leaseGeneration = db'.generation l.deviceId ∧
    l.fencingToken = fencingToken l.deviceId l.leaseGeneration
  keeps : ∀ l ∈ db'.leases.rows, opened = some l ∨ ∃ old ∈ db.leases.rows, SamePeriod old l
  exclusive : db.Exclusive → db'.Exclusive

/-- An operation that leaves the leases, and no generation behind. -/
theorem LeaseMove.of_leases {db db' : Db} (hle : ∀ d, db.generation d ≤ db'.generation d)
    (hleases : db'.leases = db.leases) : LeaseMove none db db' := by
  refine ⟨hle, fun l hl => (by cases hl), fun l hl => .inr ⟨l, hleases ▸ hl, .refl l⟩, ?_⟩
  unfold Db.Exclusive
  rw [hleases]
  exact id

/-- Nothing happened. -/
theorem LeaseMove.refl (db : Db) : LeaseMove none db db := .of_leases (fun _ => le_rfl) rfl

/-- Leases that an update leaves in their periods. -/
theorem leaseMove_update (db : Db) {p : DeviceLease → Bool} {f : DeviceLease → DeviceLease}
    (hf : ∀ l, Row.id (f l) = Row.id l) (hsame : ∀ l, p l = true → SamePeriod l (f l)) :
    LeaseMove none db { db with leases := db.leases.update p f hf } := by
  refine ⟨fun _ => le_rfl, fun l hl => (by cases hl), fun l hl => ?_, fun hex => ?_⟩
  · change l ∈ (db.leases.update p f hf).rows at hl
    obtain ⟨old, hold, rfl⟩ := Table.mem_update.mp hl
    refine .inr ⟨old, hold, ?_⟩
    split
    · rename_i hp
      exact hsame old hp
    · exact .refl old
  · refine Table.Exclusive.update hex hf (fun l _ hp => (hsame l hp).device.symm) ?_
    intro l _ hp hoff
    rw [beq_eq_false_iff_ne] at hoff ⊢
    exact fun hon => hoff ((hsame l hp).active hon)

/-- The lease of a job is looked for among the active ones. -/
theorem active_of_isLeaseOf {d jobId : ℕ} {leaseType : LeaseType} {l : DeviceLease}
    (h : isLeaseOf d jobId leaseType l = true) : l.status = .active := by
  simp only [isLeaseOf, Bool.and_eq_true, beq_iff_eq] at h
  exact h.2

/-- A lease inserted for a device without one, at the device's next generation. -/
theorem leaseMove_insert {db : Db} {device : Device}
    (hget : db.devices.get? device.id = some device) (hfree : db.activeLease device.id = none)
    {mk : ℕ → DeviceLease} (hmk : ∀ i, Row.id (mk i) = i) {l : DeviceLease}
    (hl : mk db.leases.nextId = l) (hdev : l.deviceId = device.id) (hon : l.status = .active)
    (hgen : l.leaseGeneration = device.leaseGeneration + 1)
    (htoken : l.fencingToken = fencingToken device.id (device.leaseGeneration + 1)) :
    LeaseMove (some l) db { db.saveDevice device.bump with leases := db.leases.insert mk hmk } := by
  subst hl
  refine ⟨generation_le_bump hget, fun l hl => ?_, fun l hl => ?_, fun hex => ?_⟩
  · obtain rfl := Option.some.inj hl
    have hnew : db.generation device.id < device.leaseGeneration + 1 := by
      rw [generation_of_get? hget]
      exact Nat.lt_succ_self _
    have hmem : mk db.leases.nextId ∈ (db.leases.insert mk hmk).rows :=
      Table.mem_insert.mpr (.inr rfl)
    refine ⟨hmem, hon, ?_, ?_, ?_⟩
    · rw [hdev, hgen]
      exact hnew
    · rw [hdev, hgen]
      exact (generation_bump hget).symm
    · rw [hdev, hgen]
      exact htoken
  · change l ∈ (db.leases.insert mk hmk).rows at hl
    rcases Table.mem_insert.mp hl with hl | rfl
    · exact .inr ⟨l, hl, .refl l⟩
    · exact .inl rfl
  · exact Table.Exclusive.insert hex hmk (by rw [hdev]; exact hfree)

/-- The active lease of a device, written back at the device's next generation. -/
theorem leaseMove_save {db : Db} {device : Device} {old l : DeviceLease}
    (hget : db.devices.get? device.id = some device) (hold : old ∈ db.leases.rows)
    (hactive : old.status = .active) (hdev : old.deviceId = device.id) (hid : l.id = old.id)
    (hdev' : l.deviceId = old.deviceId) (hon : l.status = .active)
    (hgen : l.leaseGeneration = device.leaseGeneration + 1)
    (htoken : l.fencingToken = fencingToken device.id (device.leaseGeneration + 1)) :
    LeaseMove (some l) db ((db.saveDevice device.bump).saveLease l) := by
  refine ⟨generation_le_bump hget, fun l hl => ?_, fun l hl => ?_, fun hex => ?_⟩
  · obtain rfl := Option.some.inj hl
    have hnew : db.generation device.id < device.leaseGeneration + 1 := by
      rw [generation_of_get? hget]
      exact Nat.lt_succ_self _
    refine ⟨Table.mem_save.mpr (.inr ⟨rfl, old, hold, hid.symm⟩), hon, ?_, ?_, ?_⟩
    · rw [hdev', hdev, hgen]
      exact hnew
    · rw [hdev', hdev, hgen]
      exact (generation_bump hget).symm
    · rw [hdev', hdev, hgen]
      exact htoken
  · rcases Table.mem_save.mp hl with ⟨hl, -⟩ | ⟨rfl, -⟩
    · exact .inr ⟨l, hl, .refl l⟩
    · exact .inl rfl
  · have hon' : (old.status == .active) = true := beq_iff_eq.mpr hactive
    exact Table.Exclusive.save hex
      ((Table.holder_eq_some_iff hex).mpr ⟨hold, hdev, hon'⟩) hid hdev'

/-! ### Operations -/

/-- The operations on leases, with the clock readings they make, and any other change to a
device that leaves its generation. -/
inductive LeaseOp where
  | acquire (now : Time) (deviceId : ℕ) (hostId : String) (leaseType : LeaseType)
      (agentInstanceId : String) (jobId : Option ℕ) (reason holder : Option String)
      (leaseSeconds : ℤ)
  | extend (now : Time) (deviceId jobId : ℕ) (leaseType : LeaseType) (ttl : ℤ)
  | release (now : Time) (deviceId jobId : ℕ) (leaseType : LeaseType)
  | convert (now : Time) (deviceId jobId : ℕ)
  | acquireDebt (now : Time) (deviceId : ℕ)
  | rotate (now : Time) (deviceId jobId : ℕ) (agentInstanceId : String)
  | changeDevice (device : Device)

/-- What an operation does: the lease whose ownership period it starts, and the database it
commits. -/
def leaseOp (db : Db) : LeaseOp → Option (Option DeviceLease × Db)
  | .acquire now d hostId leaseType agentInstanceId jobId reason holder leaseSeconds =>
    (acquireLease db now d hostId leaseType agentInstanceId jobId reason holder
      leaseSeconds).toOption
  | .extend now d jobId leaseType ttl => some (none, (extendLease db now d jobId leaseType ttl).2)
  | .release now d jobId leaseType => some (none, (releaseLease db now d jobId leaseType).2)
  | .convert now d jobId => do
    let device ← db.devices.get? d
    let lease ← db.activeLease d
    guard (lease.leaseType = .job ∧ lease.jobId = some jobId)
    let (lease, db) ← (convertActiveJobToDebtLeaseSync db device lease now).toOption
    return (some lease, db)
  | .acquireDebt now d => do
    let device ← db.devices.get? d
    let (lease, _, db) := acquireDebtLeaseSync db device now
    return (lease, db)
  | .rotate now d jobId agentInstanceId => do
    let lease ← db.leases.first (isLeaseOf d jobId .job)
    let (_, db) ← (rotateRecoveryLeaseToken db now lease agentInstanceId).toOption
    return (db.leases.get? lease.id, db)
  | .changeDevice device => do
    let old ← db.devices.get? device.id
    guard (device.leaseGeneration = old.leaseGeneration)
    return (none, db.saveDevice device)

/-- The database an operation commits. -/
def commitLeaseOp (db : Db) (op : LeaseOp) : Option Db := (leaseOp db op).map Prod.snd

/-- One committed operation. -/
def LeaseStep (db : Db) (op : LeaseOp) (db' : Db) : Prop := commitLeaseOp db op = some db'

/-- The lease whose ownership period an operation starts. -/
def opens (db : Db) (op : LeaseOp) : Option DeviceLease := (leaseOp db op).bind Prod.fst

/-- The ownership periods that start in a run, each as the lease it starts with. -/
def periods (tr : List (Db × LeaseOp)) : List DeviceLease :=
  emitted (fun db op => (opens db op).toList) tr

/-- **One operation** is a move of leases. -/
theorem leaseMove_of_leaseOp {db db' : Db} {op : LeaseOp} {opened : Option DeviceLease}
    (h : leaseOp db op = some (opened, db')) : LeaseMove opened db db' := by
  cases op with
  | acquire now d hostId leaseType agentInstanceId jobId reason holder leaseSeconds =>
      have h := Except.toOption_eq_some_iff.mp h
      cases opened with
      | none =>
          rw [acquireLease_eq_none h]
          exact .refl db
      | some l =>
          obtain ⟨device, hget, -, hfree, hl, rfl⟩ := acquireLease_eq_some h
          obtain rfl : device.id = d := Table.id_of_get? hget
          exact leaseMove_insert hget hfree (fun _ => rfl) hl.symm (by rw [hl]; rfl)
            (by rw [hl]; rfl) (by rw [hl]; rfl) (by rw [hl]; rfl)
  | extend now d jobId leaseType ttl =>
      cases h
      exact leaseMove_update db
        (f := fun l => { l with renewedAt := now, expiresAt := now.addSeconds ttl })
        (fun _ => rfl) fun l _ => ⟨rfl, rfl, rfl, rfl, id⟩
  | release now d jobId leaseType =>
      cases h
      exact leaseMove_update db (p := isLeaseOf d jobId leaseType) (f := DeviceLease.release now)
        (fun _ => rfl) fun l hp => ⟨rfl, rfl, rfl, rfl, fun _ => active_of_isLeaseOf hp⟩
  | convert now d jobId =>
      obtain ⟨device, hget, hstep⟩ := Option.bind_eq_some_iff.mp h
      obtain ⟨lease, hlease, hstep⟩ := Option.bind_eq_some_iff.mp hstep
      obtain ⟨-, -, hstep⟩ := Option.bind_eq_some_iff.mp hstep
      obtain ⟨⟨l, db₁⟩, hconv, hstep⟩ := Option.bind_eq_some_iff.mp hstep
      replace hconv := Except.toOption_eq_some_iff.mp hconv
      cases hstep
      obtain rfl : device.id = d := Table.id_of_get? hget
      obtain ⟨hmem, hdev, hon⟩ := Table.mem_of_holder hlease
      unfold convertActiveJobToDebtLeaseSync at hconv
      dsimp only at hconv
      split at hconv
      · cases hconv
      · cases hconv
        exact leaseMove_save hget hmem (beq_iff_eq.mp hon) hdev rfl rfl rfl rfl rfl
  | acquireDebt now d =>
      obtain ⟨device, hget, hstep⟩ := Option.bind_eq_some_iff.mp h
      cases hacq : acquireDebtLeaseSync db device now with
      | mk acquired rest =>
          obtain ⟨device', db₁⟩ := rest
          rw [hacq] at hstep
          cases hstep
          obtain rfl : device.id = d := Table.id_of_get? hget
          cases opened with
          | none =>
              rcases acquireDebtLeaseSync_eq_none hacq with ⟨-, rfl, -⟩ | ⟨-, rfl, -⟩
              · exact .refl _
              · exact .of_leases (generation_le_bump hget) rfl
          | some l =>
              obtain ⟨hostId, -, -, -, hfree, -, rfl, rfl⟩ := acquireDebtLeaseSync_eq_some hacq
              exact leaseMove_insert hget hfree (fun _ => rfl) rfl rfl rfl rfl rfl
  | rotate now d jobId agentInstanceId =>
      obtain ⟨lease, hlease, hstep⟩ := Option.bind_eq_some_iff.mp h
      obtain ⟨hmem, hown⟩ := Table.mem_of_first hlease
      obtain ⟨⟨token, db₁⟩, hrot, hstep⟩ := Option.bind_eq_some_iff.mp hstep
      replace hrot := Except.toOption_eq_some_iff.mp hrot
      cases hstep
      unfold rotateRecoveryLeaseToken at hrot
      cases hget : db.devices.get? lease.deviceId with
      | none =>
          rw [hget] at hrot
          cases hrot
      | some device =>
          have hid : device.id = lease.deviceId := Table.id_of_get? hget
          rw [hget] at hrot
          cases hrot
          have hactive := active_of_isLeaseOf hown
          have hback : ((db.saveDevice device.bump).saveLease (lease.rotate
              device.bump.leaseGeneration agentInstanceId now)).leases.get? lease.id =
              some (lease.rotate device.bump.leaseGeneration agentInstanceId now) := by
            refine Table.get?_eq_some_iff.mpr ⟨Table.mem_save.mpr (.inr ⟨rfl, lease, hmem, rfl⟩), rfl⟩
          rw [hback]
          exact leaseMove_save (hid ▸ hget) hmem hactive hid.symm rfl rfl hactive rfl
            (by rw [hid]; rfl)
  | changeDevice device =>
      obtain ⟨old, hget, hstep⟩ := Option.bind_eq_some_iff.mp h
      obtain ⟨_, hgen, hstep⟩ := Option.bind_eq_some_iff.mp hstep
      have hsame : device.leaseGeneration = old.leaseGeneration := by simpa using hgen
      cases hstep
      refine .of_leases (fun d => ?_) rfl
      rw [generation_saveDevice device hget]
      split
      · rename_i hd
        subst hd
        rw [generation_of_get? hget, hsame]
      · exact le_rfl

/-- The period an operation starts. -/
theorem LeaseStep.move {db db' : Db} {op : LeaseOp} (h : LeaseStep db op db') :
    LeaseMove (opens db op) db db' := by
  obtain ⟨⟨opened, db₁⟩, hop, hdb⟩ := Option.map_eq_some_iff.mp h
  have hopens : opens db op = opened := by
    rw [opens, hop]
    rfl
  rw [hopens, ← hdb]
  exact leaseMove_of_leaseOp hop

/-! ### Runs -/

/-- What a log of ownership periods says of a database: generations fence the periods, each
period has the token of its generation, and each lease is in one of the periods. -/
structure LoggedPeriods (log : List DeviceLease) (db : Db) : Prop where
  fenced : Fenced DeviceLease.deviceId DeviceLease.leaseGeneration db.generation log
  tokens : ∀ p ∈ log, p.fencingToken = fencingToken p.deviceId p.leaseGeneration
  covers : ∀ l ∈ db.leases.rows, ∃ p ∈ log, p.id = l.id ∧ p.deviceId = l.deviceId ∧
    p.leaseGeneration = l.leaseGeneration ∧ p.fencingToken = l.fencingToken
  exclusive : db.Exclusive

/-- A move of leases, with the period it starts put at the end of the log. -/
theorem LoggedPeriods.move {log : List DeviceLease} {db db' : Db} {opened : Option DeviceLease}
    (h : LoggedPeriods log db) (hmove : LeaseMove opened db db') :
    LoggedPeriods (log ++ opened.toList) db' := by
  have hold : ∀ old ∈ db.leases.rows, ∀ l, SamePeriod old l → ∃ p ∈ log ++ opened.toList,
      p.id = l.id ∧ p.deviceId = l.deviceId ∧ p.leaseGeneration = l.leaseGeneration ∧
        p.fencingToken = l.fencingToken := by
    intro old hmem l hsame
    obtain ⟨p, hp, hid, hdev, hgen, htoken⟩ := h.covers old hmem
    exact ⟨p, List.mem_append_left _ hp, hid.trans hsame.key, hdev.trans hsame.device,
      hgen.trans hsame.generation, htoken.trans hsame.token⟩
  cases opened with
  | none =>
      rw [Option.toList_none, List.append_nil] at hold ⊢
      refine ⟨h.fenced.mono hmove.generations, h.tokens, fun l hl => ?_,
        hmove.exclusive h.exclusive⟩
      rcases hmove.keeps l hl with hnone | ⟨old, hmem, hsame⟩
      · cases hnone
      · exact hold old hmem l hsame
  | some new =>
      obtain ⟨hmem, hon, hnew, hgen, htoken⟩ := hmove.grants new rfl
      rw [Option.toList_some] at hold ⊢
      refine ⟨h.fenced.grant hmove.generations hnew hgen.le, fun p hp => ?_, fun l hl => ?_,
        hmove.exclusive h.exclusive⟩
      · rcases List.mem_append.mp hp with hp | hp
        · exact h.tokens p hp
        · obtain rfl := List.mem_singleton.mp hp
          exact htoken
      · rcases hmove.keeps l hl with hself | ⟨old, hmem, hsame⟩
        · obtain rfl := Option.some.inj hself
          exact ⟨new, by simp, rfl, rfl, rfl, rfl⟩
        · exact hold old hmem l hsame

/-- No two logged periods share a token. -/
theorem LoggedPeriods.tokens_ne {log : List DeviceLease} {db : Db} (h : LoggedPeriods log db) :
    log.Pairwise fun p q => p.fencingToken ≠ q.fencingToken := by
  refine h.fenced.ne.imp_of_mem fun hp hq hne htoken => hne ?_
  rw [h.tokens _ hp, h.tokens _ hq] at htoken
  exact fencingToken_inj htoken

/-- **Fencing.** In a run that starts without leases: an operation that starts an ownership
period raises the generation of its device, to the one the lease and its token name; the
generations of one device increase from period to period; no two periods share a token;
every lease is in one of the periods; and no device has two active leases in any state. -/
theorem fencing_unique {db db' : Db} {tr : List (Db × LeaseOp)} (hrun : Run LeaseStep db tr db')
    (hleases : db.leases.rows = []) :
    (∀ s op, (s, op) ∈ tr → ∀ s', LeaseStep s op s' → ∀ p, opens s op = some p →
      s.generation p.deviceId < s'.generation p.deviceId ∧
        p.leaseGeneration = s'.generation p.deviceId ∧
        p.fencingToken = fencingToken p.deviceId p.leaseGeneration) ∧
    (periods tr).Pairwise (fun p q =>
      p.deviceId = q.deviceId → p.leaseGeneration < q.leaseGeneration) ∧
    (periods tr).Pairwise (fun p q => p.fencingToken ≠ q.fencingToken) ∧
    (∀ l ∈ db'.leases.rows, ∃ p ∈ periods tr, p.id = l.id ∧ p.deviceId = l.deviceId ∧
      p.leaseGeneration = l.leaseGeneration ∧ p.fencingToken = l.fencingToken) ∧
    Holds (fun s => ∀ d, (s.activeLeases d).length ≤ 1) tr db' := by
  have hex : db.Exclusive := Table.exclusive_of_forall_off fun l hl => by
    rw [hleases] at hl
    cases hl
  have hstart : LoggedPeriods [] db := by
    refine ⟨.nil _, fun p hp => absurd hp List.not_mem_nil, fun l hl => ?_, hex⟩
    rw [hleases] at hl
    cases hl
  have hlog : LoggedPeriods (periods tr) db' :=
    hrun.invariant_log LoggedPeriods (fun h hstep => h.move hstep.move) hstart
  have hone : Holds Db.Exclusive tr db' :=
    hrun.invariant (fun hex hstep => hstep.move.exclusive hex) hex
  refine ⟨?_, hlog.fenced.increasing, hlog.tokens_ne, hlog.covers, ?_⟩
  · intro s op _ s' hstep p hp
    obtain ⟨-, -, hnew, hgen, htoken⟩ := hstep.move.grants p hp
    exact ⟨hgen ▸ hnew, hgen, htoken⟩
  · exact ⟨fun p hp d => Table.length_select_le_one (hone.1 p hp) d,
      fun d => Table.length_select_le_one hone.2 d⟩

/-- The theorem at work: a job's lease is rotated, then converted to a debt lease, and a
second device gets a lease of its own. -/
theorem fencing_unique_recovery :
    let db : Db := { plainDb (.dict []) with
      devices := (plainDb (.dict [])).devices.insert (plainDevice none) fun _ => rfl }
    let ops : List LeaseOp := [.acquire 0 1 "h1" .job "a1" (some 1) none none 600,
      .rotate 10 1 1 "a2", .acquire 20 2 "h1" .job "a1" (some 2) none none 600,
      .convert 30 1 1, .release 40 2 2 .job, .acquire 50 2 "h1" .job "a1" (some 3) none none 600]
    ∃ db', ops.foldlM commitLeaseOp db = some db' ∧
      (periods (traceOf commitLeaseOp db ops)).map DeviceLease.fencingToken =
        ["1:1", "1:2", "2:1", "1:3", "2:2"] ∧
      (periods (traceOf commitLeaseOp db ops)).Pairwise
        (fun p q => p.fencingToken ≠ q.fencingToken) := by
  intro db ops
  obtain ⟨db', hdb'⟩ : ∃ db', ops.foldlM commitLeaseOp db = some db' :=
    Option.isSome_iff_exists.mp (by decide)
  exact ⟨db', hdb', by decide, (fencing_unique (Run.of_foldlM hdb') rfl).2.2.1⟩

end StabilityPlatform
