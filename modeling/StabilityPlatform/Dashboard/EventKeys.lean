import StabilityPlatform.Core.JsonValues

/-!
# The keys of crash events

Rows that report one crash are to share a key. The key is a text put together from what the row
says of the event: its directory in the store, for UNISOC rows the device, the name of the directory,
the kind and the time; without a directory the path on the device, and without that the number of
the row.

## Main results

* `dedupKey_eq`: a key is the prefix of its kind and a body.
* `KeysApart`: when the bodies of each kind keep different events apart.
* `mergesRightly_iff`: **rows are merged rightly** exactly then.
-/

namespace StabilityPlatform.Dashboard

open Lib

/-! ### Rows -/

/-- A row of `job_log_signal`, as far as it is selected. -/
structure SignalRow where
  id : ℤ
  category : String
  deviceSerial : String
  pathOnDevice : String
  artifactUri : Option String
  detectedAt : ℤ
  extra : Json

namespace SignalRow

/-- `str(extra.get(k) or "").strip()`. -/
def extraText (row : SignalRow) (k : String) : String :=
  pyStrip (jsonVal ((row.extra.field k).getD .null)).strOrEmpty

/-- `nfs_path`. -/
def nfsPath (row : SignalRow) : String := row.extraText "nfs_path"

/-- `event_subtype`. -/
def subtypeText (row : SignalRow) : String := row.extraText "event_subtype"

/-- `aee_ts`. -/
def aeeTs (row : SignalRow) : String := row.extraText "aee_ts"

/-- `serial`. -/
def serial (row : SignalRow) : String := pyStrip row.deviceSerial

/-- `event_dir`: what comes after the last slash, those at the end left out. -/
def eventDir (row : SignalRow) : String :=
  pyStrip (String.ofList
    ((row.nfsPath.toList.reverse.dropWhile (· = '/')).takeWhile (· ≠ '/')).reverse)

/-- `path`. -/
def path (row : SignalRow) : String := pyStrip row.pathOnDevice

end SignalRow

/-- `_uniview_dedup_key`. -/
def univiewDedupKey (row : SignalRow) : String :=
  if row.serial = "" ∨ row.eventDir = "" then
    "nfs:" ++ (row.nfsPath ++ "#" ++ row.subtypeText ++ "#" ++ row.aeeTs)
  else
    "uniview:" ++ (row.serial ++ "#" ++ row.eventDir ++ "#" ++ row.subtypeText ++ "#" ++ row.aeeTs)

/-- `_aee_event_dedup_key`. -/
def aeeEventDedupKey (row : SignalRow) : String :=
  if row.category = "UNIVIEW" ∧ row.nfsPath ≠ "" then univiewDedupKey row
  else if (row.category = "AEE" ∨ row.category = "VENDOR_AEE") ∧ row.nfsPath ≠ "" then
    "nfs:" ++ row.nfsPath
  else if row.path ≠ "" then "path:" ++ row.path
  else "id:" ++ toString row.id

/-! ### Kinds of keys -/

/-- Where a key comes from. -/
inductive KeyKind where
  | uniview
  | univiewPath
  | nfs
  | path
  | id
  deriving DecidableEq

/-- What the keys of a kind start with. -/
def KeyKind.start : KeyKind → String
  | .uniview => "uniview:"
  | .univiewPath => "nfs:"
  | .nfs => "nfs:"
  | .path => "path:"
  | .id => "id:"

/-- Where the key of a row comes from. -/
def SignalRow.kind (row : SignalRow) : KeyKind :=
  if row.category = "UNIVIEW" ∧ row.nfsPath ≠ "" then
    if row.serial = "" ∨ row.eventDir = "" then .univiewPath else .uniview
  else if (row.category = "AEE" ∨ row.category = "VENDOR_AEE") ∧ row.nfsPath ≠ "" then .nfs
  else if row.path ≠ "" then .path
  else .id

/-- What the key of a row consists of after the start. -/
def SignalRow.body (row : SignalRow) : KeyKind → String
  | .uniview => row.serial ++ "#" ++ row.eventDir ++ "#" ++ row.subtypeText ++ "#" ++ row.aeeTs
  | .univiewPath => row.nfsPath ++ "#" ++ row.subtypeText ++ "#" ++ row.aeeTs
  | .nfs => row.nfsPath
  | .path => row.path
  | .id => toString row.id

/-- A key is the start of its kind and a body. -/
theorem dedupKey_eq (row : SignalRow) :
    aeeEventDedupKey row = row.kind.start ++ row.body row.kind := by
  rw [aeeEventDedupKey, SignalRow.kind, univiewDedupKey]
  split_ifs <;> rfl

/-- The starts of two kinds are the same, or keys of these kinds differ. -/
theorem start_eq_of_append_eq {kind kind' : KeyKind} {s t : String}
    (h : kind.start ++ s = kind'.start ++ t) : kind.start = kind'.start ∧ s = t := by
  have hchars := congrArg String.toList h
  rw [String.toList_append, String.toList_append] at hchars
  have hstart : kind.start = kind'.start := by
    cases kind <;> cases kind' <;> first
      | rfl
      | exact absurd (List.cons.inj hchars).1 (by decide)
  rw [hstart, String.append_right_inj] at h
  exact ⟨hstart, h⟩

/-- When two rows share a key. -/
theorem dedupKey_eq_iff {r r' : SignalRow} : aeeEventDedupKey r = aeeEventDedupKey r' ↔
    r.kind.start = r'.kind.start ∧ r.body r.kind = r'.body r'.kind := by
  rw [dedupKey_eq, dedupKey_eq]
  constructor
  · exact start_eq_of_append_eq
  · rintro ⟨hstart, hbody⟩
    rw [hstart, hbody]

/-! ### Merging rightly -/

/-- Two rows that may be merged: they are of one device, a UNISOC row is merged with UNISOC rows
only, and then with those of the same directory, kind and time. -/
structure SameEvent (r r' : SignalRow) : Prop where
  device : r.deviceSerial = r'.deviceSerial
  category : r.category = "UNIVIEW" ↔ r'.category = "UNIVIEW"
  identity : r.category = "UNIVIEW" →
    r.eventDir = r'.eventDir ∧ r.subtypeText = r'.subtypeText ∧ r.aeeTs = r'.aeeTs

/-- A row may be merged with itself. -/
theorem SameEvent.refl (r : SignalRow) : SameEvent r r := ⟨rfl, Iff.rfl, fun _ => ⟨rfl, rfl, rfl⟩⟩

/-- Rows with one key may be merged. -/
def MergesRightly (rows : List SignalRow) : Prop :=
  ∀ r ∈ rows, ∀ r' ∈ rows, aeeEventDedupKey r = aeeEventDedupKey r' → SameEvent r r'

/-- **When keys keep events apart**, kind by kind. -/
structure KeysApart (rows : List SignalRow) : Prop where
  path : ∀ r ∈ rows, ∀ r' ∈ rows, r.kind = .path → r'.kind = .path → r.path = r'.path →
    SameEvent r r'
  nfs : ∀ r ∈ rows, ∀ r' ∈ rows, r.kind = .nfs → r'.kind = .nfs → r.nfsPath = r'.nfsPath →
    r.deviceSerial = r'.deviceSerial
  uniview : ∀ r ∈ rows, ∀ r' ∈ rows, r.kind = .uniview → r'.kind = .uniview →
    r.body .uniview = r'.body .uniview → SameEvent r r'
  univiewPath : ∀ r ∈ rows, ∀ r' ∈ rows, r.kind = .univiewPath → r'.kind = .univiewPath →
    r.body .univiewPath = r'.body .univiewPath → SameEvent r r'
  mixed : ∀ r ∈ rows, ∀ r' ∈ rows, r.kind = .univiewPath → r'.kind = .nfs →
    r.body .univiewPath ≠ r'.nfsPath

/-- The category of rows with keys from the store. -/
theorem category_of_kind {r : SignalRow} :
    (r.kind = .uniview ∨ r.kind = .univiewPath → r.category = "UNIVIEW") ∧
      (r.kind = .nfs → r.category ≠ "UNIVIEW") := by
  rw [SignalRow.kind]
  by_cases hcategory : r.category = "UNIVIEW"
  · refine ⟨fun _ => hcategory, fun hkind => ?_⟩
    exfalso
    have hnot : ¬ (r.category = "AEE" ∨ r.category = "VENDOR_AEE") := by
      rw [hcategory]
      decide
    split_ifs at hkind with h₁ h₂ h₃
    exact hnot h₃.1
  · refine ⟨fun hkind => ?_, fun _ => hcategory⟩
    exfalso
    rw [if_neg fun h => hcategory h.1] at hkind
    split_ifs at hkind <;> rcases hkind with hkind | hkind <;> cases hkind

/-- The number of a row is in its text. -/
theorem toString_int_injective {m n : ℤ} (h : toString m = toString n) : m = n :=
  Lib.intChars_injective (congrArg String.toList h)

/-- **Rows are merged rightly** exactly when the keys keep events apart. -/
theorem mergesRightly_iff {rows : List SignalRow} (hids : (rows.map SignalRow.id).Nodup) :
    MergesRightly rows ↔ KeysApart rows := by
  constructor
  · intro h
    have hkey : ∀ {r r' : SignalRow} {kind : KeyKind}, r.kind = kind → r'.kind = kind →
        r.body kind = r'.body kind → aeeEventDedupKey r = aeeEventDedupKey r' := by
      intro r r' kind hkind hkind' hbody
      rw [dedupKey_eq, dedupKey_eq, hkind, hkind', hbody]
    refine ⟨fun r hr r' hr' hk hk' hb => h r hr r' hr' (hkey hk hk' hb),
      fun r hr r' hr' hk hk' hb => (h r hr r' hr' (hkey hk hk' hb)).device,
      fun r hr r' hr' hk hk' hb => h r hr r' hr' (hkey hk hk' hb),
      fun r hr r' hr' hk hk' hb => h r hr r' hr' (hkey hk hk' hb),
      fun r hr r' hr' hk hk' hb => ?_⟩
    have hsame := h r hr r' hr' (by rw [dedupKey_eq, dedupKey_eq, hk, hk', hb]; rfl)
    exact category_of_kind.2 hk' (hsame.category.mp (category_of_kind.1 (.inr hk)))
  · intro h r hr r' hr' hkey
    obtain ⟨hstart, hbody⟩ := dedupKey_eq_iff.mp hkey
    cases hk : r.kind with
    | uniview =>
        cases hk' : r'.kind with
        | uniview =>
            rw [hk, hk'] at hbody
            exact h.uniview r hr r' hr' hk hk' hbody
        | _ =>
            rw [hk, hk'] at hstart
            exact absurd hstart (by decide)
    | univiewPath =>
        cases hk' : r'.kind with
        | univiewPath =>
            rw [hk, hk'] at hbody
            exact h.univiewPath r hr r' hr' hk hk' hbody
        | nfs =>
            rw [hk, hk'] at hbody
            exact absurd hbody (h.mixed r hr r' hr' hk hk')
        | _ =>
            rw [hk, hk'] at hstart
            exact absurd hstart (by decide)
    | nfs =>
        cases hk' : r'.kind with
        | univiewPath =>
            rw [hk, hk'] at hbody
            exact absurd hbody.symm (h.mixed r' hr' r hr hk' hk)
        | nfs =>
            rw [hk, hk'] at hbody
            have hnot := category_of_kind.2 hk
            have hnot' := category_of_kind.2 hk'
            exact ⟨h.nfs r hr r' hr' hk hk' hbody, iff_of_false hnot hnot',
              fun hcategory => absurd hcategory hnot⟩
        | _ =>
            rw [hk, hk'] at hstart
            exact absurd hstart (by decide)
    | path =>
        cases hk' : r'.kind with
        | path =>
            rw [hk, hk'] at hbody
            exact h.path r hr r' hr' hk hk' hbody
        | _ =>
            rw [hk, hk'] at hstart
            exact absurd hstart (by decide)
    | id =>
        cases hk' : r'.kind with
        | id =>
            rw [hk, hk'] at hbody
            rw [List.inj_on_of_nodup_map hids hr hr' (toString_int_injective hbody)]
            exact .refl r'
        | _ =>
            rw [hk, hk'] at hstart
            exact absurd hstart (by decide)

end StabilityPlatform.Dashboard
