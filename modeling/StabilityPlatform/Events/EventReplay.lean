import StabilityPlatform.Events.EventCopy

/-!
# Redelivered patches

Agents deliver a patch again until it is acknowledged, so an old patch may come after newer ones
and after what the control plane has written. A patch that is behind a row whose upload is done
is ignored. Any other one goes through the table of transitions again: it is refused where the
row has gone on, or it takes the row back.

## Main results

* `Delivered.of_step`, `Delivered.lasts`: what an accepted patch leaves behind in its row, for
  good.
* `redelivers_iff`: exactly when a patch that was accepted once is accepted again and leaves its
  row as it is.
* `remote_patch_refused_after_archive`: the report of an upload is refused once the row is
  archived.
-/

namespace StabilityPlatform

open Lib

variable {ctx : EventContext}

/-! ### Again -/

/-- A row is as far as it was. -/
structure SameProgress (r r' : DeviceLogEvent) : Prop where
  state : r'.state = r.state
  remotePath : r'.remotePath = r.remotePath
  checksum : r'.checksum = r.checksum
  occurrenceKey : r'.occurrenceKey = r.occurrenceKey
  planRunId : r'.planRunId = r.planRunId

/-- A row that does not change is as far as it was. -/
theorem SameProgress.refl (r : DeviceLogEvent) : SameProgress r r := ⟨rfl, rfl, rfl, rfl, rfl⟩

/-- A patch is accepted again, at any time, and a row is as far as it was. -/
def Redelivers (ctx : EventContext) (db : EventDb) (ev : DeviceLogEventIn) (i : ℕ) : Prop :=
  ∀ now freshId, db.get? freshId = none → ∃ db' eventId,
    ingestEvent ctx now freshId db ev = .ok (db', eventId) ∧
      ∃ row row', db.get? i = some row ∧ db'.get? i = some row' ∧ SameProgress row row'

/-- The size and the path a spill is verified by are there. -/
def SpillVerified (ev : DeviceLogEventIn) (path : Option String) : Prop :=
  ev.hddSpill = true → ev.state = EventState.remote.value →
    (ev.sizeBytes.filter (0 ≤ ·)).isSome = true ∧ (given path).isSome = true

/-- A patch and a row agree: the patch is behind, or it says what the row says. -/
def PatchAgrees (ctx : EventContext) (row : DeviceLogEvent) (ev : DeviceLogEventIn)
    (state : EventState) : Prop :=
  staleFor row state = true ∨
    (resolveInitialUploadState ev.eventType state = row.state ∧ ev.checksum = row.checksum ∧
      ∃ incoming, validatedRemotePath ctx ev.remotePath (ev.planRunId <|> row.planRunId)
        (some row.id) true = .ok incoming ∧ patchedPath row incoming = row.remotePath)

/-- **When a patch can be delivered again.** One that names its row: it names no other plan run
and no other occurrence than the row, and it agrees with the row. One that does not: its row is
found, or another one can be inserted. -/
def Replayable (ctx : EventContext) (db : EventDb) (ev : DeviceLogEventIn)
    (row : DeviceLogEvent) : Prop :=
  match given ev.id with
  | some _ => differ row.planRunId ev.planRunId = false ∧
      differ row.occurrenceKey ev.occurrenceKey = false ∧
      ∃ state, parseState ev = .ok state ∧ PatchAgrees ctx row ev state
  | none => (existingRow db ev).isSome = true ∨
      ∃ path, validatedRemotePath ctx ev.remotePath ev.planRunId none false = .ok path ∧
        SpillVerified ev path

/-! ### The spill ledger -/

/-- A spill that is verified is written to the ledger. -/
theorem spillRow_isOk_iff {now : Time} {db : EventDb} {row : DeviceLogEvent}
    {ev : DeviceLogEventIn} :
    (∃ db', spillRow now db row ev = .ok db') ↔ SpillVerified ev row.remotePath := by
  rw [spillRow, SpillVerified]
  by_cases hspill : ev.hddSpill = true ∧ ev.state = EventState.remote.value
  · rw [if_pos hspill]
    cases hsize : ev.sizeBytes.filter (0 ≤ ·) with
    | none =>
        constructor
        · rintro ⟨_, h⟩
          cases h
        · exact fun h => absurd (h hspill.1 hspill.2).1 Bool.false_ne_true
    | some sizeBytes =>
        cases hpath : given row.remotePath with
        | none =>
            constructor
            · rintro ⟨_, h⟩
              cases h
            · exact fun h => absurd (h hspill.1 hspill.2).2 Bool.false_ne_true
        | some path =>
            refine ⟨fun _ _ _ => ⟨rfl, rfl⟩, fun _ => ?_⟩
            cases row.planRunId with
            | none => exact ⟨_, rfl⟩
            | some planRunId => exact ⟨_, rfl⟩
  · rw [if_neg hspill]
    exact ⟨fun _ h h' => absurd ⟨h, h'⟩ hspill, fun _ => ⟨_, rfl⟩⟩

/-! ### What a patch leaves behind -/

/-- **What an accepted patch leaves behind** in the row it names. -/
structure Delivered (ev : DeviceLogEventIn) (state : EventState) (row : DeviceLogEvent) :
    Prop where
  hostId : row.hostId = ev.hostId
  serial : row.serial = ev.serial
  jobId : differ row.jobId ev.jobId = false
  taken : staleFor row state = true ∨
    ((∀ key, ev.occurrenceKey = some key → row.occurrenceKey = some key) ∧
      ∀ run, ev.planRunId = some run → row.planRunId = some run)
  spill : SpillVerified ev ev.remotePath

/-- It stays there. -/
theorem Delivered.lasts {ev : DeviceLogEventIn} {state : EventState} {row row' : DeviceLogEvent}
    (h : Delivered ev state row) (hlasts : RowLasts row row') : Delivered ev state row' where
  hostId := hlasts.hostId.trans h.hostId
  serial := hlasts.serial.trans h.serial
  jobId := by rw [hlasts.jobId, h.jobId]
  taken := by
    rcases h.taken with hstale | ⟨hkey, hrun⟩
    · left
      rw [staleFor, Bool.and_eq_true] at hstale ⊢
      exact ⟨hlasts.extractable hstale.1, hstale.2⟩
    · exact .inr ⟨fun key hk => hlasts.occurrenceKey key (hkey key hk),
        fun run hr => hlasts.planRunId run (hrun run hr)⟩
  spill := h.spill

/-- What is given replaces what is there. -/
theorem orElse_eq_of_given {α : Type} {old new : Option α} {a : α} (h : new = some a) :
    (new <|> old) = some a := by
  rw [h]
  rfl

/-- A row a patch has inserted. -/
theorem newRow_spec {now : Time} {id : ℕ} {eventId : Option ℕ} {ev : DeviceLogEventIn}
    {state : EventState} {detectedAt : Time} {deviceTimestamp : Option Time}
    {row : DeviceLogEvent}
    (h : newRow ctx now id eventId ev state detectedAt deviceTimestamp = .ok row) :
    validatedRemotePath ctx ev.remotePath ev.planRunId eventId false = .ok row.remotePath ∧
      row.id = id ∧ row.hostId = ev.hostId ∧ row.serial = ev.serial ∧ row.jobId = ev.jobId ∧
      row.occurrenceKey = ev.occurrenceKey ∧ row.planRunId = ev.planRunId := by
  obtain ⟨path, hpath, hrow⟩ := Except.bind_eq_ok_iff.mp h
  cases hrow
  exact ⟨hpath, rfl, rfl, rfl, rfl, rfl, rfl⟩

/-- A spill that was verified by the path of the row was verified by the one of the patch. -/
theorem SpillVerified.of_given {ev : DeviceLogEventIn} {path path' : Option String}
    (h : SpillVerified ev path) (hpath : (given path).isSome = (given path').isSome) :
    SpillVerified ev path' :=
  fun hspill hstate => ⟨(h hspill hstate).1, hpath ▸ (h hspill hstate).2⟩

/-- A patch that is behind is no verified spill. -/
theorem spillVerified_of_stale {ev : DeviceLogEventIn} {state : EventState}
    {row : DeviceLogEvent} {path : Option String} (hstate : parseState ev = .ok state)
    (hstale : staleFor row state = true) : SpillVerified ev path := by
  intro _ hremote
  rw [parseState, hremote] at hstate
  have hfound : EventState.ofValue? EventState.remote.value = some .remote := by decide
  rw [hfound] at hstate
  cases hstate
  rw [staleFor, Bool.and_eq_true] at hstale
  exact absurd hstale.2 (by decide)

/-- The path a patch brings is given exactly when the one of the patch is. -/
theorem validatedRemotePath_isSome {raw : Option String} {planRunId eventId : Option ℕ}
    {fallback : Bool} {incoming : Option String}
    (h : validatedRemotePath ctx raw planRunId eventId fallback = .ok incoming) :
    (given incoming).isSome = (given raw).isSome := by
  rcases validatedRemotePath_given h with ⟨hraw, rfl⟩ | ⟨hraw, path, rfl, hpath⟩
  · rw [hraw]
    rfl
  · rw [Option.isSome_iff_ne_none.mpr hraw, given, Option.filter_some,
      if_pos (decide_eq_true hpath)]
    rfl

/-- **An accepted patch** leaves behind what it names. -/
theorem Delivered.of_ingest {now : Time} {freshId eventId i : ℕ} {db db' : EventDb}
    {ev : DeviceLogEventIn} (h : ingestEvent ctx now freshId db ev = .ok (db', eventId))
    (hnamed : namedId ctx ev = .ok (some i)) :
    ∃ state row, parseState ev = .ok state ∧ db'.get? i = some row ∧ Delivered ev state row := by
  obtain ⟨state, detectedAt, deviceTimestamp, hchecks, hrest⟩ := ingestEvent_eq_ok_iff.mp h
  obtain ⟨i', hnamed', hrest⟩ : ∃ i', namedId ctx ev = .ok (some i') ∧
      ingestNamed ctx now db ev i' state detectedAt deviceTimestamp = .ok (db', eventId) := by
    rcases hrest with hrest | ⟨hnone, -⟩
    · exact hrest
    · rw [hnamed] at hnone
      cases hnone
  rw [hnamed] at hnamed'
  cases hnamed'
  cases hrow : db.get? i with
  | none =>
      rw [ingestNamed, hrow] at hrest
      obtain ⟨row, hnew, hrest⟩ := Except.bind_eq_ok_iff.mp hrest
      obtain ⟨db₁, hspill, hout⟩ := Except.bind_eq_ok_iff.mp hrest
      obtain ⟨hpath, hid, hhost, hserial, hjob, hkey, hrun⟩ := newRow_spec hnew
      have hverified := spillRow_isOk_iff.mp ⟨db₁, hspill⟩
      have hadded : db₁.get? i = some (linkSignal row ev) := by
        have hfree : db.get? (linkSignal row ev).id = none := by rw [linkSignal_id, hid, hrow]
        have hself := EventDb.get?_add_self hfree
        rw [linkSignal_id, hid] at hself
        rw [EventDb.get?_congr (spillRow_rows hspill), hself]
      cases hout
      refine ⟨state, linkSignal row ev, hchecks.1, hadded, ?_, ?_, ?_, .inr ⟨?_, ?_⟩, ?_⟩
      · rw [linkSignal_hostId, hhost]
      · rw [linkSignal_serial, hserial]
      · rw [linkSignal_jobId, hjob]
        cases ev.jobId with
        | none => rfl
        | some job => exact bne_self_eq_false job
      · intro key h
        rw [linkSignal_occurrenceKey, hkey, h]
      · intro run h
        rw [linkSignal_planRunId, hrun, h]
      · exact hverified.of_given (validatedRemotePath_isSome hpath)
  | some row =>
      obtain ⟨hidentity, row', hpatch, db₁, hspill, hout⟩ := (ingestNamed_eq_ok_iff hrow).mp hrest
      have hverified := spillRow_isOk_iff.mp ⟨db₁, hspill⟩
      have hlasts := rowLasts_patchRow hidentity hpatch
      obtain ⟨hhost, hserial, hjob, -, -⟩ := checkIdentity_eq_ok_iff.mp hidentity
      have hid : (linkSignal row' ev).id = i := (patchRow_id hpatch).trans (EventDb.id_of_get? hrow)
      refine ⟨state, linkSignal row' ev, hchecks.1, ?_, hlasts.hostId.trans hhost,
        hlasts.serial.trans hserial, by rw [hlasts.jobId, hjob], ?_, ?_⟩
      · cases hout
        rw [EventDb.get?_congr (spillRow_rows hspill), EventDb.get?_save hrow, if_pos hid.symm]
      · by_cases hstale : staleFor row state = true
        · rw [patchRow_stale hstale] at hpatch
          cases hpatch
          exact .inl hstale
        · rw [Bool.not_eq_true] at hstale
          obtain ⟨-, incoming, -, rfl⟩ := (patchRow_eq_ok_iff hstale).mp hpatch
          refine .inr ⟨fun key h => ?_, fun run h => ?_⟩
          · rw [linkSignal_occurrenceKey, patchedRow_occurrenceKey]
            exact orElse_eq_of_given h
          · rw [linkSignal_planRunId, patchedRow_planRunId]
            exact orElse_eq_of_given h
      · by_cases hstale : staleFor row state = true
        · exact spillVerified_of_stale hchecks.1 hstale
        · rw [Bool.not_eq_true] at hstale
          obtain ⟨-, incoming, hincoming, rfl⟩ := (patchRow_eq_ok_iff hstale).mp hpatch
          rw [patchedRow_remotePath] at hverified
          exact hverified.of_given (patchedPath_given (validatedRemotePath_given hincoming))

/-- Rows last over a run. -/
theorem eventsLast_run {db db' : EventDb} {tr : List (EventDb × EventOp)}
    (h : Run (EventDb.Step ctx) db tr db') : EventsLast db db' := by
  have hrefl : ∀ db, EventsLast db db := fun db i r hr => ⟨r, hr, .refl r⟩
  have htrans : ∀ {db₁ db₂ db₃}, EventsLast db₁ db₂ → EventsLast db₂ db₃ →
      EventsLast db₁ db₃ := by
    intro db₁ db₂ db₃ h₁ h₂ i r hr
    obtain ⟨r', hr', hlasts⟩ := h₁ i r hr
    obtain ⟨r'', hr'', hlasts'⟩ := h₂ i r' hr'
    exact ⟨r'', hr'', hlasts.trans hlasts'⟩
  exact h.rel (R := EventsLast) hrefl htrans eventsLast_step

/-! ### Redelivery -/

/-- The checks a patch has passed once are passed again. -/
theorem accepted_of_ingest {now : Time} {freshId : ℕ} {db : EventDb} {out : EventDb × ℕ}
    {ev : DeviceLogEventIn} (h : ingestEvent ctx now freshId db ev = .ok out) :
    ∃ state detectedAt deviceTimestamp, Accepted ctx ev state detectedAt deviceTimestamp := by
  obtain ⟨state, detectedAt, deviceTimestamp, hchecks, -⟩ := ingestEvent_eq_ok_iff.mp h
  exact ⟨state, detectedAt, deviceTimestamp, hchecks⟩

/-- A patch that names its row has a key. -/
theorem given_of_namedId {ev : DeviceLogEventIn} {i : ℕ} (h : namedId ctx ev = .ok (some i)) :
    ∃ text, given ev.id = some text := by
  rw [namedId] at h
  split at h
  · cases h
  · rename_i text htext
    exact ⟨text, htext⟩

/-- A patch that names no row has none. -/
theorem given_of_namedId_none {ev : DeviceLogEventIn} (h : namedId ctx ev = .ok none) :
    given ev.id = none := by
  rw [namedId] at h
  split at h
  · assumption
  · split at h
    · cases h
    · cases h

/-- A value that agrees with one that is named is not replaced. -/
theorem orElse_eq_self {α : Type} {old new : Option α}
    (h : ∀ a, new = some a → old = some a) : (new <|> old) = old := by
  cases new with
  | none => rfl
  | some a => exact (h a rfl).symm

/-- **Redelivery of a patch that names its row.** -/
theorem redelivers_named_iff {db : EventDb} {ev : DeviceLogEventIn} {i : ℕ} {row : DeviceLogEvent}
    {state : EventState} {detectedAt : Time} {deviceTimestamp : Option Time}
    (hchecks : Accepted ctx ev state detectedAt deviceTimestamp)
    (hnamed : namedId ctx ev = .ok (some i)) (hrow : db.get? i = some row)
    (hdelivered : Delivered ev state row) :
    Redelivers ctx db ev i ↔ Replayable ctx db ev row := by
  obtain ⟨text, htext⟩ := given_of_namedId hnamed
  rw [Replayable, htext]
  dsimp only
  constructor
  · intro hagain
    obtain ⟨freshId, hfresh⟩ := db.exists_fresh
    obtain ⟨db', eventId, hingest, r, r', hr, hr', hsame⟩ := hagain 0 freshId hfresh
    rw [hrow] at hr
    cases hr
    rcases ingestEvent_get? hingest hrow with ⟨hother, -⟩ | ⟨-, state', row', hstate, hidentity,
      hpatch, hafter⟩
    · exact absurd hnamed hother
    · obtain ⟨-, -, -, hrun, hkey⟩ := checkIdentity_eq_ok_iff.mp hidentity
      refine ⟨hrun, hkey, state', hstate, ?_⟩
      by_cases hstale : staleFor row state' = true
      · exact .inl hstale
      · rw [Bool.not_eq_true] at hstale
        obtain ⟨-, incoming, hincoming, rfl⟩ := (patchRow_eq_ok_iff hstale).mp hpatch
        rw [hafter] at hr'
        cases hr'
        have hstateSame := hsame.state
        have hpathSame := hsame.remotePath
        have hsumSame := hsame.checksum
        rw [linkSignal_state, patchedRow_state] at hstateSame
        rw [linkSignal_remotePath, patchedRow_remotePath] at hpathSame
        rw [linkSignal_checksum, patchedRow_checksum] at hsumSame
        exact .inr ⟨hstateSame, hsumSame, incoming, hincoming, hpathSame⟩
  · rintro ⟨hrun, hkey, state', hstate, hagrees⟩ now freshId -
    rw [hchecks.1] at hstate
    cases hstate
    have hidentity : checkIdentity row ev = .ok () := checkIdentity_eq_ok_iff.mpr
      ⟨hdelivered.hostId, hdelivered.serial, hdelivered.jobId, hrun, hkey⟩
    have hwritten : ∀ row', patchRow ctx now row ev state = .ok row' →
        SpillVerified ev row'.remotePath → SameProgress row (linkSignal row' ev) →
        ∃ db' eventId, ingestEvent ctx now freshId db ev = .ok (db', eventId) ∧
          ∃ row row', db.get? i = some row ∧ db'.get? i = some row' ∧ SameProgress row row' := by
      intro row' hpatch hverified hsame
      obtain ⟨db', hspill⟩ : ∃ db', spillRow now (db.save (linkSignal row' ev)) row' ev = .ok db' :=
        spillRow_isOk_iff.mpr hverified
      have hingest : ingestEvent ctx now freshId db ev = .ok (db', i) :=
        ingestEvent_eq_ok_iff.mpr ⟨state, detectedAt, deviceTimestamp, hchecks, .inl ⟨i, hnamed,
          (ingestNamed_eq_ok_iff hrow).mpr ⟨hidentity, row', hpatch, db', hspill, rfl⟩⟩⟩
      have hid : (linkSignal row' ev).id = i :=
        (patchRow_id hpatch).trans (EventDb.id_of_get? hrow)
      refine ⟨db', i, hingest, row, linkSignal row' ev, hrow, ?_, hsame⟩
      rw [EventDb.get?_congr (spillRow_rows hspill), EventDb.get?_save hrow, if_pos hid.symm]
    by_cases hstale : staleFor row state = true
    · exact hwritten row (patchRow_stale hstale) (spillVerified_of_stale hchecks.1 hstale)
        ⟨rfl, rfl, rfl, rfl, rfl⟩
    · rcases hagrees with h | ⟨hstateSame, hsumSame, incoming, hincoming, hpathSame⟩
      · exact absurd h hstale
      · obtain ⟨hkeys, hruns⟩ := hdelivered.taken.resolve_left hstale
        rw [Bool.not_eq_true] at hstale
        refine hwritten _ ((patchRow_eq_ok_iff hstale).mpr
          ⟨.inl hstateSame, incoming, hincoming, rfl⟩) ?_ ?_
        · rw [patchedRow_remotePath]
          exact hdelivered.spill.of_given
            (patchedPath_given (validatedRemotePath_given hincoming)).symm
        · constructor
          · rw [linkSignal_state, patchedRow_state, hstateSame]
          · rw [linkSignal_remotePath, patchedRow_remotePath, hpathSame]
          · rw [linkSignal_checksum, patchedRow_checksum, hsumSame]
          · rw [linkSignal_occurrenceKey, patchedRow_occurrenceKey, orElse_eq_self hkeys]
          · rw [linkSignal_planRunId, patchedRow_planRunId, orElse_eq_self hruns]

/-- **Redelivery of a patch that does not name its row.** -/
theorem redelivers_unnamed_iff {db : EventDb} {ev : DeviceLogEventIn} {i : ℕ}
    {row : DeviceLogEvent} {state : EventState} {detectedAt : Time}
    {deviceTimestamp : Option Time}
    (hchecks : Accepted ctx ev state detectedAt deviceTimestamp)
    (hnamed : namedId ctx ev = .ok none) (hrow : db.get? i = some row) :
    Redelivers ctx db ev i ↔ Replayable ctx db ev row := by
  rw [Replayable, given_of_namedId_none hnamed]
  dsimp only
  have hiff : ∀ now freshId out, ingestEvent ctx now freshId db ev = .ok out ↔
      ingestUnnamed ctx now freshId db ev state detectedAt deviceTimestamp = .ok out := by
    intro now freshId out
    rw [ingestEvent_eq_ok_iff]
    constructor
    · rintro ⟨state', detectedAt', deviceTimestamp', hchecks', hrest⟩
      obtain rfl : state = state' := Except.ok.inj (hchecks.1.symm.trans hchecks'.1)
      obtain rfl : detectedAt = detectedAt' := Except.ok.inj (hchecks.2.1.symm.trans hchecks'.2.1)
      obtain rfl : deviceTimestamp = deviceTimestamp' :=
        Except.ok.inj (hchecks.2.2.1.symm.trans hchecks'.2.2.1)
      rcases hrest with ⟨j, hj, -⟩ | ⟨-, hrest⟩
      · rw [hnamed] at hj
        cases hj
      · exact hrest
    · exact fun h => ⟨state, detectedAt, deviceTimestamp, hchecks, .inr ⟨hnamed, h⟩⟩
  cases hexisting : existingRow db ev with
  | some existing =>
      refine iff_of_true (fun now freshId _ => ?_) (.inl rfl)
      refine ⟨db, existing.id, (hiff _ _ _).mpr ?_, row, row, hrow, hrow, .refl row⟩
      rw [ingestUnnamed, hexisting]
  | none =>
      constructor
      · intro hagain
        obtain ⟨freshId, hfresh⟩ := db.exists_fresh
        obtain ⟨db', eventId, hingest, -⟩ := hagain 0 freshId hfresh
        have hnew := (hiff _ _ _).mp hingest
        rw [ingestUnnamed, hexisting, hfresh] at hnew
        dsimp only at hnew
        rw [if_neg (by exact Bool.false_ne_true)] at hnew
        obtain ⟨new, hnewRow, hrest⟩ := Except.bind_eq_ok_iff.mp hnew
        obtain ⟨db₁, hspill, -⟩ := Except.bind_eq_ok_iff.mp hrest
        exact .inr ⟨new.remotePath, (newRow_spec hnewRow).1, spillRow_isOk_iff.mp ⟨db₁, hspill⟩⟩
      · rintro (hfound | ⟨path, hpath, hverified⟩) now freshId hfresh
        · cases hfound
        · obtain ⟨new, hnew, hnewPath⟩ : ∃ new, newRow ctx now freshId none ev state detectedAt
              deviceTimestamp = .ok new ∧ new.remotePath = path := by
            rw [newRow, hpath]
            exact ⟨_, rfl, rfl⟩
          rw [← hnewPath] at hverified
          obtain ⟨db', hspill⟩ : ∃ db', spillRow now (db.add (linkSignal new ev)) new ev = .ok db' :=
            spillRow_isOk_iff.mpr hverified
          refine ⟨db', freshId, (hiff _ _ _).mpr ?_, row, row, hrow, ?_, .refl row⟩
          · rw [ingestUnnamed, hexisting, hfresh]
            dsimp only
            rw [if_neg (by exact Bool.false_ne_true), hnew]
            change (spillRow now (db.add (linkSignal new ev)) new ev >>= fun db' =>
              pure (db', freshId)) = .ok (db', freshId)
            rw [hspill]
            rfl
          · rw [EventDb.get?_congr (spillRow_rows hspill), EventDb.get?_add hrow]

/-- **A patch that was accepted once is delivered again**, after any accepted patches and writes
of the control plane: it is accepted, and its row is as far as it was, if and only if it can be
delivered again. -/
theorem redelivers_iff {db₀ db before : EventDb} {tr : List (EventDb × EventOp)}
    (hrun : Run (EventDb.Step ctx) db₀ tr db) {ev : DeviceLogEventIn} {now : Time} {freshId : ℕ}
    (hpatch : (before, .patch ev now freshId) ∈ tr) {i : ℕ} {row : DeviceLogEvent}
    (hrow : db.get? i = some row)
    (hfor : namedId ctx ev = .ok (some i) ∨ namedId ctx ev = .ok none) :
    Redelivers ctx db ev i ↔ Replayable ctx db ev row := by
  obtain ⟨after, post, hstep, hrest⟩ := hrun.after hpatch
  obtain ⟨eventId, hingest⟩ := EventDb.step_patch_iff.mp hstep
  obtain ⟨state, detectedAt, deviceTimestamp, hchecks⟩ := accepted_of_ingest hingest
  rcases hfor with hnamed | hnamed
  · obtain ⟨state', row₁, hstate, hrow₁, hdelivered⟩ := Delivered.of_ingest hingest hnamed
    obtain ⟨row', hrow', hlasts⟩ := eventsLast_run hrest i row₁ hrow₁
    rw [hrow] at hrow'
    cases hrow'
    rw [hchecks.1] at hstate
    cases hstate
    exact redelivers_named_iff hchecks hnamed hrow (hdelivered.lasts hlasts)
  · exact redelivers_unnamed_iff hchecks hnamed hrow

/-- The report of an upload that is done. -/
def remotePatch : DeviceLogEventIn :=
  patchState oneUploadJob .remote (some oneUploadPath) (some "c0ffee") (some 10)

/-- The theorem at work: the report of an upload is delivered twice, and the second time it
changes nothing. -/
theorem redelivers_remote :
    let ops := [EventOp.patch remotePatch 0 9]
    ∃ db, ops.foldlM (EventDb.step oneHostContext) ⟨[], []⟩ = some db ∧
      Redelivers oneHostContext db remotePatch 1 := by
  intro ops
  have htaken : (ops.foldlM (EventDb.step oneHostContext) ⟨[], []⟩).any (fun db =>
      (db.get? 1).any fun r => differ r.planRunId remotePatch.planRunId = false ∧
        differ r.occurrenceKey remotePatch.occurrenceKey = false ∧
        resolveInitialUploadState remotePatch.eventType .remote = r.state ∧
        remotePatch.checksum = r.checksum ∧
        validatedRemotePath oneHostContext remotePatch.remotePath
          (remotePatch.planRunId <|> r.planRunId) (some r.id) true = .ok (some oneUploadPath) ∧
        patchedPath r (some oneUploadPath) = r.remotePath) = true := by decide
  rw [Option.any_eq_true] at htaken
  obtain ⟨db, hdb, htaken⟩ := htaken
  rw [Option.any_eq_true] at htaken
  obtain ⟨r, hr, hagrees⟩ := htaken
  obtain ⟨hrun, hkey, hstate, hsum, hpath, hsame⟩ := of_decide_eq_true hagrees
  have hnamed : namedId oneHostContext remotePatch = .ok (some 1) := by decide
  refine ⟨db, hdb, (redelivers_iff (Run.of_foldlM hdb) (List.mem_cons_self ..) hr
    (.inl hnamed)).mpr ⟨hrun, hkey, .remote, rfl, .inr ⟨hstate, hsum, _, hpath, hsame⟩⟩⟩

/-- **A redelivered patch is refused.** The upload is reported as done, the row is assigned to a
plan run, and what was extracted is archived; then the report is delivered again, and it is a
conflict. -/
theorem remote_patch_refused_after_archive :
    ∃ tr db, Run (EventDb.Step oneHostContext) ⟨[], []⟩ tr db ∧
      (∃ before, (before, EventOp.patch remotePatch 0 9) ∈ tr) ∧
      namedId oneHostContext remotePatch = .ok (some 1) ∧ (db.get? 1).isSome = true ∧
      ¬ Redelivers oneHostContext db remotePatch 1 := by
  let ops : List EventOp := [.patch remotePatch 0 9, .associate 5 [] ["S1"] 0 10 1,
    .markArchived 5 [oneUploadPath] 2]
  have htaken : (ops.foldlM (EventDb.step oneHostContext) ⟨[], []⟩).any (fun db =>
      (db.get? 1).isSome && (db.get? 9).isNone &&
        (ingestEvent oneHostContext 3 9 db remotePatch).toOption.isNone) = true := by decide
  rw [Option.any_eq_true] at htaken
  obtain ⟨db, hdb, hrefused⟩ := htaken
  rw [Bool.and_eq_true, Bool.and_eq_true, Option.isNone_iff_eq_none,
    Option.isNone_iff_eq_none] at hrefused
  refine ⟨_, db, Run.of_foldlM hdb, ⟨_, List.mem_cons_self ..⟩, by decide, hrefused.1.1,
    fun hagain => ?_⟩
  obtain ⟨db', eventId, hingest, -⟩ := hagain 3 9 hrefused.1.2
  have hsome := Except.toOption_eq_some_iff.mpr hingest
  rw [hrefused.2] at hsome
  cases hsome

end StabilityPlatform
