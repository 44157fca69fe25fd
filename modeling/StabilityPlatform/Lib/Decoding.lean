import Mathlib

/-!
# Decoding a stream of bytes

A decoder takes bytes one at a time and holds back those that may still become a character, so
that what it gives does not depend on where the stream is cut. At the end of the stream it gives
replacement characters for what it holds.

## Main results

* `IncrementalDecoder`: a decoder and what it gives at the end.
* `IncrementalDecoder.run_append`: **a cut does not show** in what a decoder gives.
* `utf8Decoder`: UTF-8, with a replacement character for each maximal part of a character that
  does not go on.
* `utf8Run_utf8Encode`: **it reads** what was written in UTF-8, and then holds nothing.
-/

namespace StabilityPlatform.Lib

/-- The character that stands for bytes that are none. -/
def replacementChar : Char := '\uFFFD'

/-- A decoder of bytes, with what it keeps between them. -/
structure IncrementalDecoder (σ : Type*) where
  start : σ
  feed : σ → UInt8 → List Char × σ
  flush : σ → List Char
  flush_eq_replacement : ∀ state, ∀ c ∈ flush state, c = replacementChar

namespace IncrementalDecoder

variable {σ : Type*} (d : IncrementalDecoder σ)

/-- The characters of a piece of the stream. -/
def run (state : σ) : List UInt8 → List Char × σ
  | [] => ([], state)
  | b :: bytes =>
    let (text, state') := d.feed state b
    let (rest, last) := run state' bytes
    (text ++ rest, last)

/-- The text of a whole stream. -/
def decode (bytes : List UInt8) : List Char :=
  (d.run d.start bytes).1 ++ d.flush (d.run d.start bytes).2

/-- Nothing is read from nothing. -/
@[simp] theorem run_nil (state : σ) : d.run state [] = ([], state) := rfl

/-- A byte is read first. -/
theorem run_cons (state : σ) (b : UInt8) (bytes : List UInt8) :
    d.run state (b :: bytes) =
      ((d.feed state b).1 ++ (d.run (d.feed state b).2 bytes).1,
        (d.run (d.feed state b).2 bytes).2) := rfl

/-- **A cut does not show**: two pieces read one after the other are read as one. -/
theorem run_append (state : σ) (bytes bytes' : List UInt8) :
    d.run state (bytes ++ bytes') =
      ((d.run state bytes).1 ++ (d.run (d.run state bytes).2 bytes').1,
        (d.run (d.run state bytes).2 bytes').2) := by
  induction bytes generalizing state with
  | nil => rfl
  | cons b bytes ih => rw [List.cons_append, run_cons, ih, run_cons, List.append_assoc]

/-- The texts of the pieces of a stream. -/
def runPieces (state : σ) : List (List UInt8) → List (List Char) × σ
  | [] => ([], state)
  | piece :: pieces =>
    let (text, state') := d.run state piece
    let (rest, last) := runPieces state' pieces
    (text :: rest, last)

/-- **However a stream is cut**, its pieces come to the same text and the same state. -/
theorem run_flatten (state : σ) (pieces : List (List UInt8)) :
    d.run state pieces.flatten =
      ((d.runPieces state pieces).1.flatten, (d.runPieces state pieces).2) := by
  induction pieces generalizing state with
  | nil => rfl
  | cons piece pieces ih =>
      rw [List.flatten_cons, run_append, ih]
      rfl

end IncrementalDecoder

/-! ### UTF-8 -/

/-- What is read of a character so far. -/
structure Utf8State where
  missing : ℕ
  bits : ℕ
  least : ℕ
  most : ℕ
  deriving DecidableEq

/-- Between characters. -/
def Utf8State.start : Utf8State := ⟨0, 0, 0x80, 0xBF⟩

/-- The first byte of a character. -/
def utf8Lead (b : ℕ) : List Char × Utf8State :=
  if b < 0x80 then ([Char.ofNat b], .start)
  else if 0xC2 ≤ b ∧ b ≤ 0xDF then ([], ⟨1, b - 0xC0, 0x80, 0xBF⟩)
  else if b = 0xE0 then ([], ⟨2, 0, 0xA0, 0xBF⟩)
  else if b = 0xED then ([], ⟨2, 0xD, 0x80, 0x9F⟩)
  else if 0xE1 ≤ b ∧ b ≤ 0xEF then ([], ⟨2, b - 0xE0, 0x80, 0xBF⟩)
  else if b = 0xF0 then ([], ⟨3, 0, 0x90, 0xBF⟩)
  else if 0xF1 ≤ b ∧ b ≤ 0xF3 then ([], ⟨3, b - 0xF0, 0x80, 0xBF⟩)
  else if b = 0xF4 then ([], ⟨3, 4, 0x80, 0x8F⟩)
  else ([replacementChar], .start)

/-- One byte; a byte that does not go on with a character starts the next one. -/
def utf8Feed (state : Utf8State) (byte : UInt8) : List Char × Utf8State :=
  let b := byte.toNat
  if state.missing = 0 then utf8Lead b
  else if state.least ≤ b ∧ b ≤ state.most then
    if state.missing = 1 then ([Char.ofNat (state.bits * 64 + (b - 0x80))], .start)
    else ([], ⟨state.missing - 1, state.bits * 64 + (b - 0x80), 0x80, 0xBF⟩)
  else (replacementChar :: (utf8Lead b).1, (utf8Lead b).2)

/-- A character that was cut off. -/
def utf8Flush (state : Utf8State) : List Char :=
  if state.missing = 0 then [] else [replacementChar]

/-- UTF-8. -/
def utf8Decoder : IncrementalDecoder Utf8State where
  start := .start
  feed := utf8Feed
  flush := utf8Flush
  flush_eq_replacement := by
    intro state c hc
    rw [utf8Flush] at hc
    split at hc
    · cases hc
    · exact List.mem_singleton.mp hc

/-- A byte that goes on with a character. -/
theorem utf8Feed_next {state : Utf8State} {b : ℕ} (hmissing : 2 ≤ state.missing)
    (hleast : state.least ≤ b) (hmost : b ≤ state.most) (hb : b < 256) :
    utf8Feed state (UInt8.ofNat b) =
      ([], ⟨state.missing - 1, state.bits * 64 + (b - 0x80), 0x80, 0xBF⟩) := by
  have hnat : (UInt8.ofNat b).toNat = b := UInt8.toNat_ofNat_of_lt hb
  rw [utf8Feed, hnat, if_neg (by omega), if_pos ⟨hleast, hmost⟩, if_neg (by omega)]

/-- A byte that ends a character. -/
theorem utf8Feed_last {state : Utf8State} {b : ℕ} (hmissing : state.missing = 1)
    (hleast : state.least ≤ b) (hmost : b ≤ state.most) (hb : b < 256) :
    utf8Feed state (UInt8.ofNat b) =
      ([Char.ofNat (state.bits * 64 + (b - 0x80))], .start) := by
  have hnat : (UInt8.ofNat b).toNat = b := UInt8.toNat_ofNat_of_lt hb
  rw [utf8Feed, hnat, if_neg (by omega), if_pos ⟨hleast, hmost⟩, if_pos hmissing]

/-- A byte that starts a character. -/
theorem utf8Feed_lead {b : ℕ} (hb : b < 256) :
    utf8Feed .start (UInt8.ofNat b) = utf8Lead b := by
  have hnat : (UInt8.ofNat b).toNat = b := UInt8.toNat_ofNat_of_lt hb
  rw [utf8Feed, hnat]
  rfl

/-- A continuation byte. -/
def tailByte (bits : ℕ) : UInt8 := UInt8.ofNat (bits % 0x40 + 0x80)

/-- The last byte of a character. -/
theorem utf8Run_one (state : Utf8State) (x : ℕ) (hmissing : state.missing = 1)
    (hleast : state.least = 0x80) (hmost : state.most = 0xBF) :
    utf8Decoder.run state [tailByte x] = ([Char.ofNat (state.bits * 64 + x % 64)], .start) := by
  have hlast := utf8Feed_last (b := x % 0x40 + 0x80) hmissing (by omega) (by omega) (by omega)
  rw [Nat.add_sub_cancel] at hlast
  rw [IncrementalDecoder.run_cons, IncrementalDecoder.run_nil]
  change ((utf8Feed state (UInt8.ofNat (x % 0x40 + 0x80))).1 ++ [],
    (utf8Feed state (UInt8.ofNat (x % 0x40 + 0x80))).2) = _
  rw [hlast]
  rfl

/-- The last two bytes of a character. -/
theorem utf8Run_two (state : Utf8State) (x y : ℕ) (hmissing : state.missing = 2)
    (hleast : state.least ≤ y % 64 + 0x80) (hmost : y % 64 + 0x80 ≤ state.most) :
    utf8Decoder.run state [tailByte y, tailByte x] =
      ([Char.ofNat ((state.bits * 64 + y % 64) * 64 + x % 64)], .start) := by
  have hnext := utf8Feed_next (b := y % 0x40 + 0x80) (le_of_eq hmissing.symm) hleast hmost
    (by omega)
  rw [Nat.add_sub_cancel, hmissing] at hnext
  have hone := utf8Run_one ⟨1, state.bits * 64 + y % 64, 0x80, 0xBF⟩ x rfl rfl rfl
  rw [IncrementalDecoder.run_cons]
  change ((utf8Feed state (UInt8.ofNat (y % 0x40 + 0x80))).1 ++
    (utf8Decoder.run (utf8Feed state (UInt8.ofNat (y % 0x40 + 0x80))).2 [tailByte x]).1,
    (utf8Decoder.run (utf8Feed state (UInt8.ofNat (y % 0x40 + 0x80))).2 [tailByte x]).2) = _
  rw [hnext, hone]
  rfl

/-- The last three bytes of a character. -/
theorem utf8Run_three (state : Utf8State) (x y z : ℕ) (hmissing : state.missing = 3)
    (hleast : state.least ≤ z % 64 + 0x80) (hmost : z % 64 + 0x80 ≤ state.most) :
    utf8Decoder.run state [tailByte z, tailByte y, tailByte x] =
      ([Char.ofNat (((state.bits * 64 + z % 64) * 64 + y % 64) * 64 + x % 64)], .start) := by
  have hnext := utf8Feed_next (b := z % 0x40 + 0x80) (by omega) hleast hmost (by omega)
  rw [Nat.add_sub_cancel, hmissing] at hnext
  have htwo := utf8Run_two ⟨2, state.bits * 64 + z % 64, 0x80, 0xBF⟩ x y rfl
    (by dsimp only; omega) (by dsimp only; omega)
  rw [IncrementalDecoder.run_cons]
  change ((utf8Feed state (UInt8.ofNat (z % 0x40 + 0x80))).1 ++
    (utf8Decoder.run (utf8Feed state (UInt8.ofNat (z % 0x40 + 0x80))).2
      [tailByte y, tailByte x]).1,
    (utf8Decoder.run (utf8Feed state (UInt8.ofNat (z % 0x40 + 0x80))).2
      [tailByte y, tailByte x]).2) = _
  rw [hnext, htwo]
  rfl

/-- The first byte of a character, and the rest of it. -/
theorem utf8Run_lead {b : ℕ} (hb : b < 256) {bytes : List UInt8} :
    utf8Decoder.run .start (UInt8.ofNat b :: bytes) =
      ((utf8Lead b).1 ++ (utf8Decoder.run (utf8Lead b).2 bytes).1,
        (utf8Decoder.run (utf8Lead b).2 bytes).2) := by
  have hlead := utf8Feed_lead hb
  rw [IncrementalDecoder.run_cons]
  change ((utf8Feed .start (UInt8.ofNat b)).1 ++ _, _) = _
  rw [show utf8Decoder.feed Utf8State.start (UInt8.ofNat b) = utf8Lead b from hlead, hlead]

/-- The first byte of a character of two bytes. -/
theorem utf8Lead_two {b : ℕ} (hleast : 0xC2 ≤ b) (hmost : b ≤ 0xDF) :
    utf8Lead b = ([], ⟨1, b - 0xC0, 0x80, 0xBF⟩) := by
  rw [utf8Lead, if_neg (by omega), if_pos ⟨hleast, hmost⟩]

/-- The first byte of a character of three bytes. -/
theorem utf8Lead_three {b : ℕ} (hleast : 0xE0 ≤ b) (hmost : b ≤ 0xEF) :
    utf8Lead b = ([], ⟨2, b - 0xE0, if b = 0xE0 then 0xA0 else 0x80,
      if b = 0xED then 0x9F else 0xBF⟩) := by
  rw [utf8Lead, if_neg (by omega), if_neg (by omega)]
  by_cases hfirst : b = 0xE0
  · rw [if_pos hfirst, if_pos hfirst, if_neg (by omega), hfirst]
  · rw [if_neg hfirst, if_neg hfirst]
    by_cases hsurrogate : b = 0xED
    · rw [if_pos hsurrogate, if_pos hsurrogate, hsurrogate]
    · rw [if_neg hsurrogate, if_neg hsurrogate, if_pos ⟨by omega, hmost⟩]

/-- The first byte of a character of four bytes. -/
theorem utf8Lead_four {b : ℕ} (hleast : 0xF0 ≤ b) (hmost : b ≤ 0xF4) :
    utf8Lead b = ([], ⟨3, b - 0xF0, if b = 0xF0 then 0x90 else 0x80,
      if b = 0xF4 then 0x8F else 0xBF⟩) := by
  rw [utf8Lead, if_neg (by omega), if_neg (by omega), if_neg (by omega), if_neg (by omega),
    if_neg (by omega)]
  by_cases hfirst : b = 0xF0
  · rw [if_pos hfirst, if_pos hfirst, if_neg (by omega), hfirst]
  · rw [if_neg hfirst, if_neg hfirst]
    by_cases hlast : b = 0xF4
    · rw [if_pos hlast, if_neg (by omega), if_pos hlast, hlast]
    · rw [if_pos ⟨by omega, by omega⟩, if_neg hlast]

/-- **A character** is read from its bytes. -/
theorem utf8Run_utf8EncodeChar (c : Char) :
    utf8Decoder.run .start (String.utf8EncodeChar c) = ([c], .start) := by
  have hvalid : c.val.toNat < 0xD800 ∨ 0xDFFF < c.val.toNat ∧ c.val.toNat < 0x110000 := c.valid
  have hchar : Char.ofNat c.val.toNat = c := Char.ofNat_toNat c
  rw [String.utf8EncodeChar]
  generalize c.val.toNat = v at hvalid hchar
  split
  · rename_i hle
    rw [utf8Run_lead (by omega), utf8Lead, if_pos (by omega), hchar]
    rfl
  · rename_i hgt
    split
    · rename_i hle
      have hone := utf8Run_one ⟨1, v / 64 % 0x20 + 0xC0 - 0xC0, 0x80, 0xBF⟩ v rfl rfl rfl
      rw [utf8Run_lead (by omega), utf8Lead_two (by omega) (by omega)]
      change ([] ++ (utf8Decoder.run _ [tailByte v]).1, (utf8Decoder.run _ [tailByte v]).2) = _
      rw [hone]
      dsimp only
      rw [show (v / 64 % 0x20 + 0xC0 - 0xC0) * 64 + v % 64 = v by omega, hchar]
      rfl
    · rename_i hgt'
      split
      · rename_i hle
        rw [utf8Run_lead (by omega), utf8Lead_three (by omega) (by omega)]
        change ([] ++ (utf8Decoder.run _ [tailByte (v / 64), tailByte v]).1,
          (utf8Decoder.run _ [tailByte (v / 64), tailByte v]).2) = _
        rw [utf8Run_two _ _ _ rfl (by dsimp only; split <;> omega) (by dsimp only; split <;> omega)]
        dsimp only
        rw [show ((v / 4096 % 0x10 + 0xE0 - 0xE0) * 64 + v / 64 % 64) * 64 + v % 64 = v by omega,
          hchar]
        rfl
      · rename_i hgt''
        rw [utf8Run_lead (by omega), utf8Lead_four (by omega) (by omega)]
        change ([] ++ (utf8Decoder.run _ [tailByte (v / 4096), tailByte (v / 64), tailByte v]).1,
          (utf8Decoder.run _ [tailByte (v / 4096), tailByte (v / 64), tailByte v]).2) = _
        rw [utf8Run_three _ _ _ _ rfl (by dsimp only; split <;> omega) (by dsimp only; split <;> omega)]
        dsimp only
        rw [show (((v / 262144 % 0x08 + 0xF0 - 0xF0) * 64 + v / 4096 % 64) * 64 +
          v / 64 % 64) * 64 + v % 64 = v by omega, hchar]
        rfl

/-- **What was written in UTF-8** is read, and nothing is held. -/
theorem utf8Run_utf8Encode (text : List Char) :
    utf8Decoder.run .start (text.flatMap String.utf8EncodeChar) = (text, .start) := by
  induction text with
  | nil => rfl
  | cons c rest ih =>
      rw [List.flatMap_cons, IncrementalDecoder.run_append, utf8Run_utf8EncodeChar, ih]
      rfl

/-- What was written in UTF-8 is read whatever comes after it. -/
theorem utf8Decode_utf8Encode_append (text : List Char) (rest : List UInt8) :
    utf8Decoder.decode (text.flatMap String.utf8EncodeChar ++ rest) =
      text ++ utf8Decoder.decode rest := by
  rw [IncrementalDecoder.decode, IncrementalDecoder.run_append]
  change (utf8Decoder.run .start _).1 ++ _ ++ _ = _
  rw [show utf8Decoder.start = Utf8State.start from rfl, utf8Run_utf8Encode, List.append_assoc]
  rfl

/-- The bytes of a text in UTF-8 determine it. -/
theorem utf8Encode_inj {text text' : List Char}
    (h : text.flatMap String.utf8EncodeChar = text'.flatMap String.utf8EncodeChar) :
    text = text' := by
  have hread := congrArg (utf8Decoder.run .start) h
  rw [utf8Run_utf8Encode, utf8Run_utf8Encode] at hread
  exact (Prod.mk.inj hread).1

end StabilityPlatform.Lib
