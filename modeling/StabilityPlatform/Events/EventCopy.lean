import StabilityPlatform.Events.DeviceLogEvents

/-!
# The authoritative copy of an event

Once a row says where the copy in the storage is and what its checksum is, the copy on the host
may be deleted. From then on the row has to keep saying so. Patches that are behind the row are
ignored; but a patch that reports an extractable state overwrites the path and the checksum of
the row with its own, also where it has none. The patch the uploader sends when it has deleted
the copy on the host carries no checksum.

## Main results

* `event_copy_kept_iff`: the rows keep what they say if and only if every patch that reports an
  extractable state for a row with an authoritative copy carries a path and a checksum.
-/

namespace StabilityPlatform

open Lib

variable {ctx : EventContext}

/-! ### Patches of the uploader -/

/-- What the uploader knows of an event. -/
structure UploadJob where
  eventId : String
  localPath : String
  planRunId : Option ℕ
  serial : String
  platform : String
  eventType : String
  detectedAt : String
  hostId : String
  jobId : Option ℕ
  hddSpill : Bool

/-- The payload of `_patch_state`. -/
def patchState (job : UploadJob) (state : EventState) (remotePath checksum : Option String)
    (sizeBytes : Option ℤ) : DeviceLogEventIn where
  id := some job.eventId
  serial := job.serial
  platform := job.platform
  eventType := job.eventType
  eventSubtype := none
  detectedAt := job.detectedAt
  deviceTimestamp := none
  state := state.value
  localPath := job.localPath
  remotePath := remotePath
  sizeBytes := sizeBytes
  checksum := checksum
  occurrenceKey := none
  hddSpill := state = .remote ∧ job.hddSpill
  planRunId := job.planRunId
  hostId := job.hostId
  jobId := job.jobId
  linkSignalSeqNo := none

/-- The patch of `_maybe_prune_local`, when the copy on the host is deleted. -/
def prunePatch (job : UploadJob) (remotePath : String) : DeviceLogEventIn :=
  { patchState job .pruned (some remotePath) none none with hddSpill := false }

/-! ### Rows that keep what they say -/

/-- The copy in the storage is the authoritative one, and the row says where it is and what its
checksum is. -/
structure Authoritative (r : DeviceLogEvent) : Prop where
  extractable : r.state.extractable = true
  path : (given r.remotePath).isSome = true
  checksum : (given r.checksum).isSome = true

/-- A row keeps its identity, and the end of its upload. -/
structure RowLasts (r r' : DeviceLogEvent) : Prop where
  serial : r'.serial = r.serial
  hostId : r'.hostId = r.hostId
  jobId : r'.jobId = r.jobId
  occurrenceKey : ∀ key, r.occurrenceKey = some key → r'.occurrenceKey = some key
  planRunId : ∀ run, r.planRunId = some run → r'.planRunId = some run
  extractable : r.state.extractable = true → r'.state.extractable = true

/-- A row keeps its identity, and an authoritative copy stays one. -/
structure RowKept (r r' : DeviceLogEvent) : Prop extends RowLasts r r' where
  copy : Authoritative r → Authoritative r'

/-- A row that does not change lasts. -/
theorem RowLasts.refl (r : DeviceLogEvent) : RowLasts r r :=
  ⟨rfl, rfl, rfl, fun _ => id, fun _ => id, id⟩

/-- What lasts twice lasts. -/
theorem RowLasts.trans {r r' r'' : DeviceLogEvent} (h : RowLasts r r') (h' : RowLasts r' r'') :
    RowLasts r r'' where
  serial := h'.serial.trans h.serial
  hostId := h'.hostId.trans h.hostId
  jobId := h'.jobId.trans h.jobId
  occurrenceKey key hkey := h'.occurrenceKey key (h.occurrenceKey key hkey)
  planRunId run hrun := h'.planRunId run (h.planRunId run hrun)
  extractable hdone := h'.extractable (h.extractable hdone)

/-- A row that does not change is kept. -/
theorem RowKept.refl (r : DeviceLogEvent) : RowKept r r := ⟨.refl r, id⟩

/-- What is kept twice is kept. -/
theorem RowKept.trans {r r' r'' : DeviceLogEvent} (h : RowKept r r') (h' : RowKept r' r'') :
    RowKept r r'' :=
  ⟨h.toRowLasts.trans h'.toRowLasts, fun hcopy => h'.copy (h.copy hcopy)⟩

/-- All rows are there and keep what they say. -/
def EventsKept (db db' : EventDb) : Prop :=
  ∀ i r, db.get? i = some r → ∃ r', db'.get? i = some r' ∧ RowKept r r'

/-- Rows are kept when nothing changes. -/
theorem EventsKept.refl (db : EventDb) : EventsKept db db := fun _ r hr => ⟨r, hr, .refl r⟩

/-- Rows that are kept twice are kept. -/
theorem EventsKept.trans {db db' db'' : EventDb} (h : EventsKept db db')
    (h' : EventsKept db' db'') : EventsKept db db'' := by
  intro i r hr
  obtain ⟨r', hr', hkept⟩ := h i r hr
  obtain ⟨r'', hr'', hkept'⟩ := h' i r' hr'
  exact ⟨r'', hr'', hkept.trans hkept'⟩

/-- An update keeps the rows when it keeps each of them. -/
theorem EventsKept.of_update (db : EventDb) {p : DeviceLogEvent → Bool}
    {f : DeviceLogEvent → DeviceLogEvent} (hid : ∀ r, (f r).id = r.id)
    (hkept : ∀ r, p r = true → RowKept r (f r)) : EventsKept db (db.update p f) := by
  intro i r hr
  refine ⟨_, by rw [EventDb.get?_update _ (fun r _ => hid r), hr, Option.map_some], ?_⟩
  by_cases hp : p r = true
  · rw [if_pos hp]
    exact hkept r hp
  · rw [if_neg hp]
    exact .refl r

/-! ### The control plane -/

/-- Rows are assigned only once. -/
theorem associateUnassigned_kept (db : EventDb) (planRunId : ℕ) (jobIds : List ℕ)
    (serials : List String) (windowStart windowEnd now : Time) :
    EventsKept db (associateUnassigned db planRunId jobIds serials windowStart windowEnd now) := by
  refine EventsKept.of_update db (fun _ => rfl) fun r hr => ?_
  rw [Bool.and_eq_true, Option.isNone_iff_eq_none] at hr
  refine ⟨⟨rfl, rfl, rfl, fun _ => id, fun run hrun => ?_, id⟩, fun h => ⟨h.1, h.2, h.3⟩⟩
  rw [hr.1] at hrun
  cases hrun

/-- A directory that is moved is somewhere. -/
theorem adoptUnassigned_kept (db : EventDb) (planRunId : ℕ) (tails : ℕ → Option String)
    (now : Time) : EventsKept db (adoptUnassigned ctx db planRunId tails now) := by
  refine EventsKept.of_update db (fun _ => rfl) fun r hr => ?_
  refine ⟨⟨rfl, rfl, rfl, fun _ => id, fun _ => id, id⟩, fun h => ⟨h.1, ?_, h.3⟩⟩
  rw [Bool.and_eq_true] at hr
  obtain ⟨tail, htail⟩ := Option.isSome_iff_exists.mp hr.2
  have hne : s!"{ctx.runScope planRunId}/{ctx.uuidText r.id}{tail}" ≠ "" := by
    intro hempty
    have hchars := congrArg String.toList hempty
    simp at hchars
    exact absurd hchars.2.1 (by decide)
  dsimp only
  rw [htail, Option.map_some, given, Option.filter_some, if_pos (decide_eq_true hne)]
  rfl

/-- Rows whose upload is done are not marked. -/
theorem markUploadPending_kept (db : EventDb) (planRunId : ℕ) (eventDirNames : List String)
    (now : Time) : EventsKept db (markUploadPending db planRunId eventDirNames now) := by
  refine EventsKept.of_update db (fun _ => rfl) fun r hr => ?_
  rw [Bool.and_eq_true, Bool.and_eq_true] at hr
  have hopen : r.state.extractable = false := by
    have hmarkable := hr.1.1
    revert hmarkable
    cases r.state <;> decide
  refine ⟨⟨rfl, rfl, rfl, fun _ => id, fun _ => id, fun hdone => ?_⟩, fun h => ?_⟩
  · rw [hopen] at hdone
    cases hdone
  · have hdone := h.extractable
    rw [hopen] at hdone
    cases hdone

/-- What is archived is extractable. -/
theorem markEventsArchived_kept (db : EventDb) (planRunId : ℕ) (remotePaths : List String)
    (now : Time) : EventsKept db (markEventsArchived db planRunId remotePaths now) :=
  EventsKept.of_update db (fun _ => rfl) fun _ _ =>
    ⟨⟨rfl, rfl, rfl, fun _ => id, fun _ => id, fun _ => rfl⟩, fun h => ⟨rfl, h.2, h.3⟩⟩

/-! ### Patches -/

/-- What the identity check lets pass. -/
theorem checkIdentity_eq_ok_iff {row : DeviceLogEvent} {ev : DeviceLogEventIn} :
    checkIdentity row ev = .ok () ↔ row.hostId = ev.hostId ∧ row.serial = ev.serial ∧
      differ row.jobId ev.jobId = false ∧ differ row.planRunId ev.planRunId = false ∧
      differ row.occurrenceKey ev.occurrenceKey = false := by
  rw [checkIdentity]
  split_ifs with hhost hserial hjob hrun hkey
  · exact ⟨fun h => (by cases h), fun h => absurd h.1 hhost⟩
  · exact ⟨fun h => (by cases h), fun h => absurd h.2.1 hserial⟩
  · exact ⟨fun h => (by cases h), fun h => absurd hjob (by simp [h.2.2.1])⟩
  · exact ⟨fun h => (by cases h), fun h => absurd hrun (by simp [h.2.2.2.1])⟩
  · exact ⟨fun h => (by cases h), fun h => absurd hkey (by simp [h.2.2.2.2])⟩
  · exact ⟨fun _ => ⟨not_not.mp hhost, not_not.mp hserial, Bool.eq_false_iff.mpr hjob,
      Bool.eq_false_iff.mpr hrun, Bool.eq_false_iff.mpr hkey⟩, fun _ => rfl⟩

/-- A value that does not differ from one that is there replaces it by itself. -/
theorem orElse_eq_of_not_differ {α : Type} [BEq α] [LawfulBEq α] {old new : Option α} {a : α}
    (h : differ old new = false) (hold : old = some a) : (new <|> old) = some a := by
  subst hold
  cases new with
  | none => rfl
  | some b =>
      rw [differ, bne_eq_false_iff_eq] at h
      rw [h]
      rfl

/-- A path that is found is not empty. -/
theorem resolveDeviceEventRemotePath_ne_empty {raw path : String} {planRunId eventId : Option ℕ}
    (h : resolveDeviceEventRemotePath ctx raw planRunId eventId = .ok path) : path ≠ "" := by
  rintro rfl
  rw [resolveDeviceEventRemotePath.eq_def] at h
  split at h
  · cases h
  · rename_i path hpath
    dsimp only at h
    split at h
    · cases h
      exact ctx.resolve_ne_empty raw hpath
    · split at h
      · cases h
        exact ctx.resolve_ne_empty raw hpath
      · cases h

/-- The path a patch brings: there is one exactly when the patch has one. -/
theorem validatedRemotePath_given {raw : Option String} {planRunId eventId : Option ℕ}
    {fallback : Bool} {incoming : Option String}
    (h : validatedRemotePath ctx raw planRunId eventId fallback = .ok incoming) :
    (given raw = none ∧ incoming = none) ∨
      (given raw ≠ none ∧ ∃ path, incoming = some path ∧ path ≠ "") := by
  cases raw with
  | none =>
      cases h
      exact .inl ⟨rfl, rfl⟩
  | some raw =>
      rw [validatedRemotePath] at h
      by_cases hempty : raw = ""
      · rw [if_pos hempty] at h
        cases h
        exact .inl ⟨by rw [hempty]; rfl, rfl⟩
      · rw [if_neg hempty] at h
        have hgiven : given (some raw) ≠ none := by
          rw [given, Option.filter_some, if_pos (decide_eq_true hempty)]
          exact Option.some_ne_none raw
        refine .inr ⟨hgiven, ?_⟩
        split at h
        · rename_i path hpath
          cases h
          exact ⟨path, rfl, resolveDeviceEventRemotePath_ne_empty hpath⟩
        · dsimp only at h
          split at h
          · rename_i path hfallback
            cases h
            split at hfallback
            · have hpath := Except.toOption_eq_some_iff.mp hfallback
              exact ⟨path, rfl, resolveDeviceEventRemotePath_ne_empty hpath⟩
            · cases hfallback
          · cases h

/-- The path of a row that has one after a patch: there is one exactly when the patch has one. -/
theorem patchedPath_given {row : DeviceLogEvent} {raw incoming : Option String}
    (hincoming : (given raw = none ∧ incoming = none) ∨
      (given raw ≠ none ∧ ∃ path, incoming = some path ∧ path ≠ "")) :
    (given (patchedPath row incoming)).isSome = (given raw).isSome := by
  rw [patchedPath]
  rcases hincoming with ⟨hraw, rfl⟩ | ⟨hraw, path, rfl, hpath⟩
  · rw [if_neg fun h => absurd h.2.2 (by decide), hraw]
    rfl
  · have hsome : (given raw).isSome = true := Option.isSome_iff_ne_none.mpr hraw
    rw [hsome]
    split
    · rename_i h
      exact h.2.1
    · rw [given, Option.filter_some, if_pos (decide_eq_true hpath)]
      rfl

/-- A patch that is not behind carries what the row says of its copy afterwards. -/
def CarriesCopy (ev : DeviceLogEventIn) : Prop :=
  (given ev.remotePath).isSome = true ∧ (given ev.checksum).isSome = true

/-- A patch that is behind leaves the row. -/
theorem patchRow_stale {now : Time} {row : DeviceLogEvent} {ev : DeviceLogEventIn}
    {state : EventState} (h : staleFor row state = true) :
    patchRow ctx now row ev state = .ok row := by
  rw [patchRow, if_pos h]

/-- A patch that is not behind: the transition is allowed, and the row takes over what the patch
has. -/
theorem patchRow_eq_ok_iff {now : Time} {row row' : DeviceLogEvent} {ev : DeviceLogEventIn}
    {state : EventState} (hstale : staleFor row state = false) :
    patchRow ctx now row ev state = .ok row' ↔
      (resolveInitialUploadState ev.eventType state = row.state ∨
        resolveInitialUploadState ev.eventType state ∈ row.state.allowedTransitions) ∧
      ∃ incoming, validatedRemotePath ctx ev.remotePath (ev.planRunId <|> row.planRunId)
          (some row.id) true = .ok incoming ∧
        row' = patchedRow now row ev (resolveInitialUploadState ev.eventType state) incoming := by
  rw [patchRow, hstale, if_neg Bool.false_ne_true]
  dsimp only
  split
  · rename_i hrefused
    exact ⟨fun h => (by cases h), fun h => h.1.elim (absurd · hrefused.1) (absurd · hrefused.2)⟩
  · rename_i hallowed
    rw [Except.bind_eq_ok_iff]
    constructor
    · rintro ⟨incoming, hincoming, hrow⟩
      cases hrow
      refine ⟨?_, incoming, hincoming, rfl⟩
      by_cases hsame : resolveInitialUploadState ev.eventType state = row.state
      · exact .inl hsame
      · exact .inr (by_contra fun hnot => hallowed ⟨hsame, hnot⟩)
    · rintro ⟨-, incoming, hincoming, rfl⟩
      exact ⟨incoming, hincoming, rfl⟩

/-- **A patched row lasts.** -/
theorem rowLasts_patchRow {now : Time} {row row' : DeviceLogEvent} {ev : DeviceLogEventIn}
    {state : EventState} (hidentity : checkIdentity row ev = .ok ())
    (hpatch : patchRow ctx now row ev state = .ok row') : RowLasts row (linkSignal row' ev) := by
  by_cases hstale : staleFor row state = true
  · rw [patchRow_stale hstale] at hpatch
    cases hpatch
    exact ⟨rfl, rfl, rfl, fun _ => id, fun _ => id, id⟩
  · rw [Bool.not_eq_true] at hstale
    obtain ⟨-, incoming, -, rfl⟩ := (patchRow_eq_ok_iff hstale).mp hpatch
    obtain ⟨-, -, -, hrun, hkey⟩ := checkIdentity_eq_ok_iff.mp hidentity
    constructor
    · rw [linkSignal_serial, patchedRow_serial]
    · rw [linkSignal_hostId, patchedRow_hostId]
    · rw [linkSignal_jobId, patchedRow_jobId]
    · intro key h
      rw [linkSignal_occurrenceKey, patchedRow_occurrenceKey]
      exact orElse_eq_of_not_differ hkey h
    · intro run h
      rw [linkSignal_planRunId, patchedRow_planRunId]
      exact orElse_eq_of_not_differ hrun h
    · intro hdone
      rw [staleFor, hdone, Bool.true_and, Bool.not_eq_false'] at hstale
      rw [linkSignal_state, patchedRow_state, extractable_resolveInitialUploadState, hstale]

/-- **A patched row is kept** if and only if the patch carries a copy, or the row has none, or the
patch is behind. -/
theorem rowKept_patchRow_iff {now : Time} {row row' : DeviceLogEvent} {ev : DeviceLogEventIn}
    {state : EventState} (hidentity : checkIdentity row ev = .ok ())
    (hpatch : patchRow ctx now row ev state = .ok row') :
    RowKept row (linkSignal row' ev) ↔
      (Authoritative row → state.extractable = true → CarriesCopy ev) := by
  have hlasts := rowLasts_patchRow hidentity hpatch
  by_cases hstale : staleFor row state = true
  · rw [patchRow_stale hstale] at hpatch
    cases hpatch
    rw [staleFor, Bool.and_eq_true, Bool.not_eq_true'] at hstale
    exact ⟨fun _ _ hnew => absurd hnew (by simp [hstale.2]),
      fun _ => ⟨hlasts, fun h => ⟨h.1, h.2, h.3⟩⟩⟩
  · rw [Bool.not_eq_true] at hstale
    obtain ⟨-, incoming, hincoming, rfl⟩ := (patchRow_eq_ok_iff hstale).mp hpatch
    have hpath : (given (patchedPath row incoming)).isSome = (given ev.remotePath).isSome :=
      patchedPath_given (validatedRemotePath_given hincoming)
    constructor
    · intro hkept hauth hnew
      have hafter := hkept.copy hauth
      have hpathAfter := hafter.path
      have hsumAfter := hafter.checksum
      rw [linkSignal_remotePath, patchedRow_remotePath, hpath] at hpathAfter
      rw [linkSignal_checksum, patchedRow_checksum] at hsumAfter
      exact ⟨hpathAfter, hsumAfter⟩
    · intro hcarries
      refine ⟨hlasts, fun hauth => ?_⟩
      have hdone := hlasts.extractable hauth.extractable
      have hnew : state.extractable = true := by
        rw [staleFor, hauth.extractable, Bool.true_and, Bool.not_eq_false'] at hstale
        exact hstale
      obtain ⟨hraw, hsum⟩ := hcarries hauth hnew
      refine ⟨hdone, ?_, ?_⟩
      · rw [linkSignal_remotePath, patchedRow_remotePath, hpath, hraw]
      · rw [linkSignal_checksum, patchedRow_checksum, hsum]

/-! ### Runs -/

/-- A patch that reports an extractable state for a row with an authoritative copy carries a path
and a checksum. -/
def KeepsCopy (ctx : EventContext) (db : EventDb) : EventOp → Prop
  | .patch ev _ _ => ∀ i row state, namedId ctx ev = .ok (some i) → db.get? i = some row →
    Authoritative row → parseState ev = .ok state → state.extractable = true → CarriesCopy ev
  | _ => True

/-- All rows are there and last. -/
def EventsLast (db db' : EventDb) : Prop :=
  ∀ i r, db.get? i = some r → ∃ r', db'.get? i = some r' ∧ RowLasts r r'

/-- Rows that are kept last. -/
theorem EventsKept.last {db db' : EventDb} (h : EventsKept db db') : EventsLast db db' := by
  intro i r hr
  obtain ⟨r', hr', hkept⟩ := h i r hr
  exact ⟨r', hr', hkept.toRowLasts⟩

/-- The control plane keeps the rows. -/
theorem eventsKept_of_no_patch {db db' : EventDb} {op : EventOp}
    (hop : ∀ ev now freshId, op ≠ .patch ev now freshId) (h : EventDb.Step ctx db op db') :
    EventsKept db db' := by
  cases op with
  | patch ev now freshId => exact absurd rfl (hop ev now freshId)
  | associate planRunId jobIds serials windowStart windowEnd now =>
      cases h
      exact associateUnassigned_kept db planRunId jobIds serials windowStart windowEnd now
  | adopt planRunId tails now =>
      cases h
      exact adoptUnassigned_kept db planRunId tails now
  | markUpload planRunId eventDirNames now =>
      cases h
      exact markUploadPending_kept db planRunId eventDirNames now
  | markArchived planRunId remotePaths now =>
      cases h
      exact markEventsArchived_kept db planRunId remotePaths now

/-- **Rows last**, whatever the step. -/
theorem eventsLast_step {db db' : EventDb} {op : EventOp} (h : EventDb.Step ctx db op db') :
    EventsLast db db' := by
  cases op with
  | patch ev now freshId =>
      obtain ⟨eventId, hingest⟩ := EventDb.step_patch_iff.mp h
      intro i row hrow
      rcases ingestEvent_get? hingest hrow with ⟨-, hsame⟩ | ⟨-, state, row', -, hidentity, hpatch,
        hafter⟩
      · exact ⟨row, hsame, .refl row⟩
      · exact ⟨_, hafter, rowLasts_patchRow hidentity hpatch⟩
  | _ => exact (eventsKept_of_no_patch (fun _ _ _ => by rintro ⟨⟩) h).last

/-- **One step** keeps the rows if and only if its patch carries a copy where it has to. -/
theorem eventsKept_step_iff {db db' : EventDb} {op : EventOp} (h : EventDb.Step ctx db op db') :
    EventsKept db db' ↔ KeepsCopy ctx db op := by
  cases op with
  | patch ev now freshId =>
      obtain ⟨eventId, hingest⟩ := EventDb.step_patch_iff.mp h
      constructor
      · intro hkept i row state hnamed hrow hauth hstate hextractable
        rcases ingestEvent_get? hingest hrow with ⟨hother, -⟩ | ⟨-, state', row', hstate', hidentity,
          hpatch, hafter⟩
        · exact absurd hnamed hother
        · obtain ⟨r', hr', hrowKept⟩ := hkept i row hrow
          rw [hafter] at hr'
          cases hr'
          rw [hstate] at hstate'
          cases hstate'
          exact (rowKept_patchRow_iff hidentity hpatch).mp hrowKept hauth hextractable
      · intro hcarries i row hrow
        rcases ingestEvent_get? hingest hrow with ⟨-, hsame⟩ | ⟨hnamed, state, row', hstate,
          hidentity, hpatch, hafter⟩
        · exact ⟨row, hsame, .refl row⟩
        · refine ⟨_, hafter, (rowKept_patchRow_iff hidentity hpatch).mpr fun hauth hextractable => ?_⟩
          exact hcarries i row state hnamed hrow hauth hstate hextractable
  | _ => exact iff_of_true (eventsKept_of_no_patch (fun _ _ _ => by rintro ⟨⟩) h) trivial

/-- **The authoritative copies are kept**, over any accepted patches and writes of the control
plane, if and only if every patch that reports an extractable state for a row with an
authoritative copy carries a path and a checksum. The identities of the rows are kept in any
case. -/
theorem event_copy_kept_iff {db₀ db : EventDb} {tr : List (EventDb × EventOp)}
    (hrun : Run (EventDb.Step ctx) db₀ tr db) :
    (reached tr db).Pairwise EventsKept ↔ ∀ p ∈ tr, KeepsCopy ctx p.1 p.2 := by
  have hiff : (reached tr db).Pairwise EventsKept ↔ ∀ p ∈ tr, KeepsCopy ctx p.1 p.2 :=
    hrun.pairwise_iff_guard (A := fun _ => True) EventsKept.refl EventsKept.trans
      (fun _ _ => trivial) (fun _ hstep => eventsKept_step_iff hstep) trivial
  exact hiff

/-- A storage with one device directory, a host, and the key of one row. -/
def oneHostContext : EventContext where
  uuid text := if text = "e1" then some 1 else none
  parseIsoDt _ := some 0
  hosts host := host == "h1"
  jobs _ := none
  uuidText _ := "e1"
  resolve raw := if pyStartsWith raw "/nfs/devices/" then .ok raw else .error "outside"
  runScope _ := "/nfs/devices/5"
  unassignedScope _ := "/nfs/devices/unassigned/e1"
  isRelativeTo path scope := pyStartsWith path scope
  resolve_ne_empty raw := by
    intro h
    split at h
    · rename_i hstart
      cases h
      revert hstart
      decide
    · cases h

/-- The upload of a directory the host has found. -/
def oneUploadJob : UploadJob :=
  ⟨"e1", "/data/aee/db.0", none, "S1", "MTK", "AEE", "2026-01-01T00:00:00+00:00", "h1", none, false⟩

/-- Its path in the storage. -/
def oneUploadPath : String := "/nfs/devices/unassigned/e1/db.0"

/-- The upload is reported as done. -/
def remoteReported : EventOp :=
  .patch (patchState oneUploadJob .remote (some oneUploadPath) (some "c0ffee") (some 10)) 0 9

/-- The theorem at work: the upload is reported as done twice, and the copy is kept. -/
theorem event_copy_kept_twice :
    let ops := [remoteReported, remoteReported]
    ∃ db, ops.foldlM (EventDb.step oneHostContext) ⟨[], []⟩ = some db ∧
      (reached (traceOf (EventDb.step oneHostContext) ⟨[], []⟩ ops) db).Pairwise EventsKept := by
  intro ops
  have htaken : (ops.foldlM (EventDb.step oneHostContext) ⟨[], []⟩).isSome = true := by decide
  obtain ⟨db, hdb⟩ := Option.isSome_iff_exists.mp htaken
  refine ⟨db, hdb, (event_copy_kept_iff (Run.of_foldlM hdb)).mpr fun p hp => ?_⟩
  have hpatch : ∀ p ∈ traceOf (EventDb.step oneHostContext) ⟨[], []⟩ ops, p.2 = remoteReported := by
    intro p hp
    have hlabel := List.mem_map_of_mem (f := Prod.snd) hp
    rw [map_snd_traceOf hdb] at hlabel
    exact (List.mem_pair.mp hlabel).elim id id
  rw [hpatch p hp]
  intro _ _ _ _ _ _ _ _
  exact ⟨rfl, rfl⟩

/-- **The copy is lost.** The upload is reported as done, with a path and a checksum; then the
copy on the host is deleted, and the patch that says so takes the checksum out of the row. -/
theorem prune_loses_checksum :
    ∃ tr db, Run (EventDb.Step oneHostContext) ⟨[], []⟩ tr db ∧
      tr.map Prod.snd = [remoteReported, .patch (prunePatch oneUploadJob oneUploadPath) 1 9] ∧
      ¬ (reached tr db).Pairwise EventsKept := by
  let ops : List EventOp := [remoteReported, .patch (prunePatch oneUploadJob oneUploadPath) 1 9]
  have htaken : (ops.foldlM (EventDb.step oneHostContext) ⟨[], []⟩).isSome = true := by decide
  obtain ⟨db, hdb⟩ := Option.isSome_iff_exists.mp htaken
  refine ⟨_, db, Run.of_foldlM hdb, map_snd_traceOf hdb, fun hkept => ?_⟩
  have hbefore : ∃ before ∈ (traceOf (EventDb.step oneHostContext) ⟨[], []⟩ ops).map Prod.fst,
      (before.get? 1).any (fun r => r.state.extractable && (given r.remotePath).isSome &&
        (given r.checksum).isSome) = true := by decide
  have hafter : (ops.foldlM (EventDb.step oneHostContext) ⟨[], []⟩).all (fun db =>
      (db.get? 1).all fun r => r.checksum.isNone) = true := by decide
  obtain ⟨before, hmem, hany⟩ := hbefore
  rw [Option.any_eq_true] at hany
  obtain ⟨r, hr, hauth⟩ := hany
  rw [Bool.and_eq_true, Bool.and_eq_true] at hauth
  have hrelated : EventsKept before db :=
    (List.pairwise_append.mp hkept).2.2 before hmem db (List.mem_singleton_self db)
  obtain ⟨r', hr', hrow⟩ := hrelated 1 r hr
  have hsum := (hrow.copy ⟨hauth.1.1, hauth.1.2, hauth.2⟩).checksum
  rw [hdb, Option.all_some, hr', Option.all_some, Option.isNone_iff_eq_none] at hafter
  rw [hafter] at hsum
  cases hsum

end StabilityPlatform
