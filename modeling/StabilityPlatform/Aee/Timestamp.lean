import StabilityPlatform.Core.IsoFormat
import StabilityPlatform.Lib.Pattern

/-!
# Timestamps of a device

The history a device keeps of its crashes has timestamps in several forms. They are read with the
patterns of `datetime.strptime` and with one of the agent's own, which takes a name of a time zone
and may know its offset. A timestamp is written into file names by the clock of the device, with
three digits for the milliseconds; one that does not read is replaced by the clock of the agent.

## Main results

* `parseTimestamp`: reading a timestamp.
* `formatTimestampForFilename_digits`: **what is written** is `YYYY_MMDD_HHMMSS_mmm` for every
  text.
-/

namespace StabilityPlatform

open Lib

/-! ### Moments on a clock -/

/-- `datetime.datetime` without a time zone. -/
structure DateTime where
  year : ℕ
  month : ℕ
  day : ℕ
  hour : ℕ
  minute : ℕ
  second : ℕ
  microsecond : ℕ
  year_le : 1 ≤ year ∧ year ≤ 9999
  date : civilFromDays (daysFromCivil year month day) = (↑year, month, day)
  time : hour < 24 ∧ minute < 60 ∧ second < 60 ∧ microsecond < 1000000
  deriving DecidableEq

/-- `datetime(..)`, if there is such a moment. -/
def DateTime.mk? (year month day hour minute second microsecond : ℕ) : Option DateTime :=
  if h : (1 ≤ year ∧ year ≤ 9999) ∧
      civilFromDays (daysFromCivil year month day) = (↑year, month, day) ∧
      hour < 24 ∧ minute < 60 ∧ second < 60 ∧ microsecond < 1000000 then
    some ⟨year, month, day, hour, minute, second, microsecond, h.1, h.2.1, h.2.2⟩
  else none

/-- The moment as microseconds of the clock, for comparing moments. -/
def DateTime.clock (t : DateTime) : Time :=
  daysFromCivil t.year t.month t.day * 86400000000 +
    ((t.hour * 3600 + t.minute * 60 + t.second) * 1000000 + t.microsecond : ℕ)

/-- The month and the day have at most two digits. -/
theorem DateTime.month_day_le (t : DateTime) : t.month ≤ 12 ∧ t.day ≤ 31 := by
  obtain ⟨-, hmonth, -, hday⟩ := civilFromDays_range (daysFromCivil t.year t.month t.day)
  rw [t.date] at hmonth hday
  exact ⟨hmonth, hday⟩

/-! ### Characters -/

/-- The decimal digits zero of the scripts that have their own. -/
def decimalZeros : List ℕ :=
  [0x30, 0x660, 0x6f0, 0x7c0, 0x966, 0x9e6, 0xa66, 0xae6, 0xb66, 0xbe6, 0xc66, 0xce6, 0xd66,
    0xde6, 0xe50, 0xed0, 0xf20, 0x1040, 0x1090, 0x17e0, 0x1810, 0x1946, 0x19d0, 0x1a80, 0x1a90,
    0x1b50, 0x1bb0, 0x1c40, 0x1c50, 0xa620, 0xa8d0, 0xa900, 0xa9d0, 0xa9f0, 0xaa50, 0xabf0,
    0xff10, 0x104a0, 0x10d30, 0x11066, 0x110f0, 0x11136, 0x111d0, 0x112f0, 0x11450, 0x114d0,
    0x11650, 0x116c0, 0x11730, 0x118e0, 0x11950, 0x11c50, 0x11d50, 0x11da0, 0x16a60, 0x16ac0,
    0x16b50, 0x1d7ce, 0x1d7d8, 0x1d7e2, 0x1d7ec, 0x1d7f6, 0x1e140, 0x1e2f0, 0x1e950, 0x1fbf0]

/-- The value of a decimal digit. -/
def decimalValue (c : Char) : Option ℕ :=
  (decimalZeros.find? fun z => z ≤ c.toNat ∧ c.toNat < z + 10).map (c.toNat - ·)

/-- A decimal digit, `\d`. -/
def isDecimal (c : Char) : Bool := (decimalValue c).isSome

/-- `int(..)` of decimal digits. -/
def decimalNumber (digits : List Char) : ℕ :=
  digits.foldl (fun n c => 10 * n + (decimalValue c).getD 0) 0

/-- A digit of ASCII is a decimal digit. -/
theorem isDecimal_of_isDigit {c : Char} (h : c.isDigit = true) : isDecimal c = true := by
  have hrange : 48 ≤ c.toNat ∧ c.toNat < 48 + 10 := by
    rw [Char.isDigit, Bool.and_eq_true, decide_eq_true_eq, decide_eq_true_eq] at h
    obtain ⟨hlo, hhi⟩ := h
    have hlo' : 48 ≤ c.toNat := hlo
    have hhi' : c.toNat ≤ 57 := hhi
    omega
  rw [isDecimal, decimalValue, Option.isSome_map, decimalZeros, List.find?_cons_of_pos]
  · rfl
  · exact decide_eq_true hrange

open Pattern

/-! ### The patterns of strptime -/

/-- A character between two. -/
def between (lo hi c : Char) : Bool := lo ≤ c && c ≤ hi

/-- `%Y`. -/
def directiveYear : Pattern := group "Y" (exactly isDecimal 4)

/-- `%m`. -/
def directiveMonth : Pattern :=
  group "m" (alts (seqs [char '1', one (between '0' '2')])
    [seqs [char '0', one (between '1' '9')], one (between '1' '9')])

/-- `%d`. -/
def directiveDay : Pattern :=
  group "d" (alts (seqs [char '3', one (between '0' '1')])
    [seqs [one (between '1' '2'), one isDecimal], seqs [char '0', one (between '1' '9')],
      one (between '1' '9'), seqs [char ' ', one (between '1' '9')]])

/-- `%H`. -/
def directiveHour : Pattern :=
  group "H" (alts (seqs [char '2', one (between '0' '3')])
    [seqs [one (between '0' '1'), one isDecimal], one isDecimal])

/-- `%M`. -/
def directiveMinute : Pattern :=
  group "M" (alts (seqs [one (between '0' '5'), one isDecimal]) [one isDecimal])

/-- `%S`. -/
def directiveSecond : Pattern :=
  group "S" (alts (seqs [char '6', one (between '0' '1')])
    [seqs [one (between '0' '5'), one isDecimal], one isDecimal])

/-- `%f`. -/
def directiveFraction : Pattern := group "f" (rep (between '0' '9') 1 (some 6))

/-- The abbreviated names of the months. -/
def monthNames : List (List Char) :=
  ["jan", "feb", "mar", "apr", "may", "jun", "jul", "aug", "sep", "oct", "nov", "dec"].map
    String.toList

/-- A word in any case. -/
def caseless (word : List Char) : Pattern := seqs (word.map fun c => one fun d => d.toLower == c)

/-- `%b`. -/
def directiveMonthName : Pattern :=
  group "b" (alts (caseless "jan".toList) (monthNames.tail.map caseless))

/-- Blanks, `\s+`. -/
def blanks : Pattern := rep isPySpace 1 none

/-- `%H:%M:%S`. -/
def directivesTime : List Pattern :=
  [directiveHour, char ':', directiveMinute, char ':', directiveSecond]

/-- `%Y-%m-%d %H:%M:%S`. -/
def isoFormatPattern : Pattern :=
  seqs ([directiveYear, char '-', directiveMonth, char '-', directiveDay, blanks] ++ directivesTime)

/-- `%Y-%m-%d %H:%M:%S.%f`. -/
def isoFractionFormatPattern : Pattern :=
  seqs ([directiveYear, char '-', directiveMonth, char '-', directiveDay, blanks] ++
    directivesTime ++ [char '.', directiveFraction])

/-- `%b %d %H:%M:%S %Y`. -/
def monthNameFormatPattern : Pattern :=
  seqs ([directiveMonthName, blanks, directiveDay, blanks] ++ directivesTime ++
    [blanks, directiveYear])

/-- The number a group has matched. -/
def groupNumber (groups : Groups) (name : String) : Option ℕ :=
  (groups.lookup name).map fun digits => decimalNumber (digits.filter isDecimal)

/-- The month the groups name. -/
def groupMonth (groups : Groups) : ℕ :=
  match groups.lookup "b" with
  | some name => monthNames.idxOf (name.map Char.toLower) + 1
  | none => (groupNumber groups "m").getD 1

/-- The microseconds the groups name. -/
def groupMicrosecond (groups : Groups) : ℕ :=
  match groups.lookup "f" with
  | some digits => decimalNumber (digits ++ List.replicate (6 - digits.length) '0')
  | none => 0

/-- `datetime.strptime(text, ..)`; the whole text has to match. -/
def strptime (format : Pattern) (text : List Char) : Option DateTime :=
  match format.firstMatch text with
  | some (groups, []) =>
    DateTime.mk? ((groupNumber groups "Y").getD 1900) (groupMonth groups)
      ((groupNumber groups "d").getD 1) ((groupNumber groups "H").getD 0)
      ((groupNumber groups "M").getD 0) ((groupNumber groups "S").getD 0)
      (groupMicrosecond groups)
  | _ => none

example : (strptime isoFractionFormatPattern "2026-06-29 17:49:40.206".toList).map
    DateTime.microsecond = some 206000 := by decide +kernel

/-! ### Reading a timestamp -/

/-- `_TZ_OFFSET_HOURS`. -/
def tzOffsetHours : List (String × ℤ) :=
  [("UTC", 0), ("GMT", 0), ("Z", 0), ("CST", 8), ("CT", 8), ("HKT", 8), ("SGT", 8), ("JST", 9),
    ("KST", 9)]

/-- `_tzinfo_for`: the offset of a time zone in hours, if it is known. -/
def tzinfoFor (token : Option String) : Option ℤ :=
  match token with
  | none => none
  | some token => if token = "" then none else tzOffsetHours.lookup (pyUpper (pyStrip token))

/-- `_TS_RE`; `word` tells the characters of a word. -/
def tsPattern (word : Char → Bool) : Pattern :=
  seqs [alts (seqs [exactly word 3, blanks]) [eps],
    group "mon" (exactly word 3), blanks, group "day" (rep isDecimal 1 (some 2)), blanks,
    group "time" (seqs [exactly isDecimal 2, char ':', exactly isDecimal 2, char ':',
      exactly isDecimal 2]),
    alts (seqs [blanks, group "tz" (rep (!isPySpace ·) 1 none)]) [eps], blanks,
    group "year" (exactly isDecimal 4)]

/-- What follows the first `@`, if there is one. -/
def afterAt (text : List Char) : List Char :=
  if '@' ∈ text then (text.dropWhile (· != '@')).drop 1 else text

/-- `parse_timestamp`: the moment on the clock of the device, with the offset of its time zone if
that is known. -/
def parseTimestamp (word : Char → Bool) (timestampFieldStr : String) :
    Option (DateTime × Option ℤ) :=
  let cleanedStr := (pyStrip (String.ofList (afterAt (pyStrip timestampFieldStr).toList))).toList
  match strptime isoFractionFormatPattern cleanedStr with
  | some parsed => some (parsed, none)
  | none =>
    match strptime isoFormatPattern cleanedStr with
    | some parsed => some (parsed, none)
    | none =>
      match ((tsPattern word).run cleanedStr).find? fun r => r.2 == [] || r.2 == ['\n'] with
      | none => none
      | some (groups, _) =>
        let text := fun name => (groups.lookup name).getD []
        let dtStr := text "mon" ++ [' '] ++ text "day" ++ [' '] ++ text "time" ++ [' '] ++
          text "year"
        (strptime monthNameFormatPattern dtStr).map fun parsed =>
          (parsed, tzinfoFor ((groups.lookup "tz").map String.ofList))

/-- `as_device_local_naive` of a timestamp that was read. -/
def asDeviceLocalNaive (parsed : Option (DateTime × Option ℤ)) : Option DateTime :=
  parsed.map Prod.fst

example : (parseTimestamp Char.isAlphanum "Fri Jul 17 13:41:47 CST 2026").map
    (fun r => (r.1.clock, r.2)) = some (1784295707000000, some 8) := by decide +kernel

/-! ### Writing a timestamp -/

/-- The digits after the first point that has some after it. -/
def fractionDigits : List Char → Option (List Char)
  | [] => none
  | c :: rest =>
    if c = '.' ∧ rest.takeWhile isDecimal ≠ [] then some (rest.takeWhile isDecimal)
    else fractionDigits rest

/-- `strftime("%Y_%m%d_%H%M%S")`. -/
def strftimeForFilename (t : DateTime) : String :=
  zeroPad 4 t.year ++ "_" ++ zeroPad 2 t.month ++ zeroPad 2 t.day ++ "_" ++ zeroPad 2 t.hour ++
    zeroPad 2 t.minute ++ zeroPad 2 t.second

/-- The milliseconds a timestamp is written with. -/
def millisecondPart (timestampFieldStr : String) : String :=
  match fractionDigits timestampFieldStr.toList with
  | some digits => String.ofList (digits.take 3 ++ List.replicate (3 - digits.length) '0')
  | none => "000"

/-- `format_timestamp_for_filename`; `now` is what the clock of the agent shows. -/
def formatTimestampForFilename (word : Char → Bool) (now : DateTime) (timestampFieldStr : String) :
    String :=
  match parseTimestamp word timestampFieldStr with
  | none => strftimeForFilename now ++ "_000"
  | some (dtObj, _) => strftimeForFilename dtObj ++ "_" ++ millisecondPart timestampFieldStr

/-! ### What is written -/

/-- So many decimal digits. -/
def Decimals (n : ℕ) (text : List Char) : Prop :=
  (∀ c ∈ text, isDecimal c = true) ∧ text.length = n

/-- One group of digits after another. -/
theorem Decimals.append {m n : ℕ} {text text' : List Char} (h : Decimals m text)
    (h' : Decimals n text') : Decimals (m + n) (text ++ text') := by
  refine ⟨fun c hc => ?_, by rw [List.length_append, h.2, h'.2]⟩
  rcases List.mem_append.mp hc with hc | hc
  · exact h.1 c hc
  · exact h'.1 c hc

/-- A number that fits is written with as many digits as it is padded to. -/
theorem decimals_zeroPad {width n : ℕ} (hwidth : 0 < width) (hn : n < 10 ^ width) :
    Decimals width (zeroPad width n).toList := by
  obtain ⟨hlength, hdigits, -⟩ := isoDigits_zeroPad hwidth hn
  exact ⟨fun c hc => isDecimal_of_isDigit (hdigits c hc), hlength⟩

/-- A moment is written as `YYYY_MMDD_HHMMSS`. -/
theorem strftimeForFilename_digits (t : DateTime) :
    ∃ year date time, Decimals 4 year ∧ Decimals 4 date ∧ Decimals 6 time ∧
      (strftimeForFilename t).toList = year ++ '_' :: (date ++ '_' :: time) := by
  obtain ⟨hmonth, hday⟩ := t.month_day_le
  obtain ⟨hhour, hminute, hsecond, -⟩ := t.time
  have hyear := t.year_le.2
  have htwo : ∀ n, n < 100 → Decimals 2 (zeroPad 2 n).toList := fun n hn =>
    decimals_zeroPad (by decide) hn
  have hyearDigits : Decimals 4 (zeroPad 4 t.year).toList :=
    decimals_zeroPad (by decide) (by omega)
  have hdate := (htwo t.month (by omega)).append (htwo t.day (by omega))
  have htime := ((htwo t.hour (by omega)).append (htwo t.minute (by omega))).append
    (htwo t.second (by omega))
  refine ⟨_, _, _, hyearDigits, hdate, htime, ?_⟩
  have hunderscore : "_".toList = ['_'] := rfl
  rw [strftimeForFilename]
  simp only [String.toList_append, List.append_assoc, hunderscore, List.cons_append,
    List.nil_append]

/-- The digits of a fraction are digits. -/
theorem isDecimal_of_fractionDigits {text digits : List Char}
    (h : fractionDigits text = some digits) : ∀ c ∈ digits, isDecimal c = true := by
  induction text with
  | nil => cases h
  | cons c rest ih =>
      rw [fractionDigits] at h
      split at h
      · cases h
        exact fun c hc => List.mem_takeWhile_imp hc
      · exact ih h

/-- The milliseconds are three digits. -/
theorem millisecondPart_digits (timestampFieldStr : String) :
    Decimals 3 (millisecondPart timestampFieldStr).toList := by
  rw [millisecondPart]
  split
  · rename_i digits hdigits
    rw [String.toList_ofList]
    have hlength : (digits.take 3 ++ List.replicate (3 - digits.length) '0').length = 3 := by
      rw [List.length_append, List.length_take, List.length_replicate]
      omega
    refine ⟨fun c hc => ?_, hlength⟩
    rcases List.mem_append.mp hc with hc | hc
    · exact isDecimal_of_fractionDigits hdigits c (List.mem_of_mem_take hc)
    · rw [List.eq_of_mem_replicate hc]
      exact isDecimal_of_isDigit rfl
  · refine ⟨fun c hc => ?_, rfl⟩
    have hzero : c ∈ List.replicate 3 '0' := hc
    rw [List.eq_of_mem_replicate hzero]
    exact isDecimal_of_isDigit rfl

/-- **What is written** is `YYYY_MMDD_HHMMSS_mmm`, whatever the timestamp is. -/
theorem formatTimestampForFilename_digits (word : Char → Bool) (now : DateTime)
    (timestampFieldStr : String) :
    ∃ year date time ms, Decimals 4 year ∧ Decimals 4 date ∧ Decimals 6 time ∧ Decimals 3 ms ∧
      (formatTimestampForFilename word now timestampFieldStr).toList =
        year ++ '_' :: (date ++ '_' :: (time ++ '_' :: ms)) := by
  have hwritten : ∀ (t : DateTime) (part : List Char), Decimals 3 part →
      ∃ year date time ms, Decimals 4 year ∧ Decimals 4 date ∧ Decimals 6 time ∧ Decimals 3 ms ∧
        (strftimeForFilename t).toList ++ '_' :: part =
          year ++ '_' :: (date ++ '_' :: (time ++ '_' :: ms)) := by
    intro t part hpart
    obtain ⟨year, date, time, hyear, hdate, htime, heq⟩ := strftimeForFilename_digits t
    refine ⟨year, date, time, part, hyear, hdate, htime, hpart, ?_⟩
    simp only [heq, List.append_assoc, List.cons_append]
  have hunderscore : "_".toList = ['_'] := rfl
  have hzeros : "_000".toList = '_' :: ['0', '0', '0'] := rfl
  delta formatTimestampForFilename
  generalize parseTimestamp word timestampFieldStr = parsed
  cases parsed with
  | none =>
      dsimp only
      rw [String.toList_append, hzeros]
      refine hwritten now ['0', '0', '0'] ⟨fun c hc => ?_, rfl⟩
      have hzero : c ∈ List.replicate 3 '0' := hc
      rw [List.eq_of_mem_replicate hzero]
      exact isDecimal_of_isDigit rfl
  | some parsed =>
      dsimp only
      rw [String.toList_append, String.toList_append, hunderscore, List.append_assoc,
        List.singleton_append]
      exact hwritten parsed.1 _ (millisecondPart_digits timestampFieldStr)

end StabilityPlatform
