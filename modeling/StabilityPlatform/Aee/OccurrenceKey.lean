import StabilityPlatform.Lib.Decoding
import StabilityPlatform.Lib.Framing

/-!
# Occurrence keys

The identity of a crash is a digest of facts the device can prove: platform, serial number, path of
the history entry, the time as the device reported it, and the raw type. Each field is written
after its length, so that a separator within a field cannot move a boundary.

## Main results

* `canonicalPayload_injective`: **equal payloads come from equal facts**.
* `computeOccurrenceKey_eq_some_iff`: two crashes have one key just when their facts agree, where
  the digest is injective.
-/

namespace StabilityPlatform.OccurrenceKey

open Lib

/-- The facts of an occurrence, as the device reported them. -/
structure Facts where
  platform : String
  serial : String
  dbPath : String
  aeeTs : String
  rawEventType : String
  deriving DecidableEq

/-- `parts`. -/
def Facts.parts (facts : Facts) : List (List Char) :=
  [facts.platform.toList, facts.serial.toList, facts.dbPath.toList, facts.aeeTs.toList,
    facts.rawEventType.toList]

/-- The text of the payload: each part after its length and a colon. -/
def payloadText (facts : Facts) : List Char := facts.parts.flatMap (frame ':')

/-- `_canonical_payload`. -/
def canonicalPayload (facts : Facts) : List UInt8 :=
  (payloadText facts).flatMap String.utf8EncodeChar

/-- `compute_occurrence_key`. -/
def computeOccurrenceKey {δ : Type*} (sha256 : List UInt8 → δ) (facts : Facts) : Option δ :=
  if facts.platform = "" ∨ facts.serial = "" ∨ facts.dbPath = "" ∨ facts.aeeTs = "" then none
  else some (sha256 (canonicalPayload facts))

/-- The facts are their parts. -/
theorem Facts.parts_injective : Function.Injective Facts.parts := by
  rintro ⟨platform, serial, dbPath, aeeTs, rawEventType⟩ ⟨platform', serial', dbPath', aeeTs', raw'⟩ h
  rw [parts, parts] at h
  simp only [List.cons.injEq, String.toList_inj, and_true] at h
  obtain ⟨rfl, rfl, rfl, rfl, rfl⟩ := h
  rfl

/-- **Equal payloads come from equal facts**, whatever characters the fields are made of. -/
theorem canonicalPayload_injective : Function.Injective canonicalPayload := by
  intro facts facts' h
  have htext : payloadText facts = payloadText facts' := utf8Encode_inj h
  exact Facts.parts_injective (frames_inj (by decide) htext)

/-- Two occurrences have one key just when their facts agree, where the digest is injective. -/
theorem computeOccurrenceKey_eq_some_iff {δ : Type*} {sha256 : List UInt8 → δ}
    (hinj : Function.Injective sha256) {facts facts' : Facts} {key : δ}
    (h : computeOccurrenceKey sha256 facts = some key) :
    computeOccurrenceKey sha256 facts' = some key ↔ facts' = facts := by
  constructor
  · intro h'
    rw [computeOccurrenceKey] at h h'
    split at h
    · cases h
    · split at h'
      · cases h'
      · rw [← h, Option.some.injEq] at h'
        have hpayload := hinj h'
        have htext : payloadText facts' = payloadText facts := utf8Encode_inj hpayload
        exact Facts.parts_injective (frames_inj (by decide) htext)
  · rintro rfl
    exact h

end StabilityPlatform.OccurrenceKey
