import StabilityPlatform.Core.PyVal

/-!
# Reading timestamps back

The services write moments into JSON as `datetime.isoformat()` and read them back with
`datetime.fromisoformat`, after trimming blanks and turning a final `Z` into `+00:00`. A
value that does not read is no moment.

## Main results

* `daysFromCivil_civilFromDays`: a day is found again from its date.
* `parseAbortAt_isoformat`: **what was written reads back**, for every moment Python has.
-/

namespace StabilityPlatform

/-! ### Dates -/

/-- The day of a proleptic Gregorian date, counted from the epoch. -/
def daysFromCivil (year : ℤ) (month day : ℕ) : ℤ :=
  let y := if month ≤ 2 then year - 1 else year
  let era := y / 400
  let yoe := (y - era * 400).toNat
  let mp := if month ≤ 2 then month + 9 else month - 3
  let doy := (153 * mp + 2) / 5 + (day - 1)
  era * 146097 + (365 * yoe + yoe / 4 - yoe / 100 + doy : ℕ) - 719468

/-- A day of an era is in one of its 400 years, and not before the start of that year. -/
theorem yearOfEra_bounds {doe yoe : ℕ} (h : doe ≤ 146096)
    (hy : yoe = (doe - doe / 1460 + doe / 36524 - doe / 146096) / 365) :
    yoe ≤ 399 ∧ 365 * yoe + yoe / 4 - yoe / 100 ≤ doe := by
  have hfour : yoe / 4 ≤ doe / 1460 := by omega
  have hcentury : yoe / 100 ≤ doe / 36524 := by omega
  have hleap : yoe / 100 = doe / 36524 ∨
      yoe / 4 + doe / 36524 ≤ doe / 1460 + yoe / 100 := by omega
  constructor
  · omega
  · omega

/-- A day of an era is not after the end of its year. -/
theorem dayOfYear_le {doe yoe : ℕ} (h : doe ≤ 146096)
    (hy : yoe = (doe - doe / 1460 + doe / 36524 - doe / 146096) / 365) :
    doe - (365 * yoe + yoe / 4 - yoe / 100) ≤ 365 := by
  have hcentury : yoe / 100 ≤ doe / 36524 := by omega
  have hfour : doe / 1460 ≤ yoe / 4 + 1 := by omega
  rcases Nat.lt_or_ge doe 146096 with hlt | hge
  · have hlast : doe / 146096 = 0 := by omega
    have hlow : doe + doe / 36524 ≤ 365 * yoe + 364 + doe / 1460 := by omega
    omega
  · obtain rfl : doe = 146096 := by omega
    norm_num at hy
    subst hy
    norm_num

/-- The month of the year that starts in March. -/
def marchMonth (doy : ℕ) : ℕ := (5 * doy + 2) / 153

/-- The month of the calendar year. -/
def calendarMonth (mp : ℕ) : ℕ := if mp < 10 then mp + 3 else mp - 9

/-- What the date of a day is made of: the era, the year of the era, and the day of the year
that starts in March. -/
theorem civilFromDays_parts (days : ℤ) :
    ∃ (era : ℤ) (yoe doy : ℕ), yoe ≤ 399 ∧ doy ≤ 365 ∧
      days = era * 146097 + (365 * yoe + yoe / 4 - yoe / 100 + doy : ℕ) - 719468 ∧
      civilFromDays days =
        ((yoe : ℤ) + era * 400 + (if calendarMonth (marchMonth doy) ≤ 2 then 1 else 0),
          calendarMonth (marchMonth doy), doy - (153 * marchMonth doy + 2) / 5 + 1) := by
  generalize hera : (days + 719468) / 146097 = era
  generalize hdoe : (days + 719468 - era * 146097).toNat = doe
  generalize hyoe : (doe - doe / 1460 + doe / 36524 - doe / 146096) / 365 = yoe
  generalize hdoy : doe - (365 * yoe + yoe / 4 - yoe / 100) = doy
  have hdoele : doe ≤ 146096 := by omega
  obtain ⟨hyoele, hstart⟩ := yearOfEra_bounds hdoele hyoe.symm
  refine ⟨era, yoe, doy, hyoele, hdoy ▸ dayOfYear_le hdoele hyoe.symm, by omega, ?_⟩
  subst hera hdoe hyoe hdoy
  rfl

/-- The month and the day of a date are in range. -/
theorem civilFromDays_range (days : ℤ) :
    1 ≤ (civilFromDays days).2.1 ∧ (civilFromDays days).2.1 ≤ 12 ∧
      1 ≤ (civilFromDays days).2.2 ∧ (civilFromDays days).2.2 ≤ 31 := by
  obtain ⟨era, yoe, doy, -, hdoy, -, hdate⟩ := civilFromDays_parts days
  rw [hdate]
  dsimp only
  have hmp : marchMonth doy ≤ 11 := by
    rw [marchMonth]
    omega
  have hday : doy - (153 * marchMonth doy + 2) / 5 ≤ 30 := by
    rw [marchMonth]
    omega
  refine ⟨?_, ?_, by omega, by omega⟩
  · rw [calendarMonth]
    split <;> omega
  · rw [calendarMonth]
    split <;> omega

/-- The years Python has dates of. -/
theorem civilFromDays_year {days : ℤ} (hlow : -719162 ≤ days) (hhigh : days ≤ 2932896) :
    1 ≤ (civilFromDays days).1 ∧ (civilFromDays days).1 ≤ 9999 := by
  obtain ⟨era, yoe, doy, hyoe, hdoy, hdays, hdate⟩ := civilFromDays_parts days
  rw [hdate]
  dsimp only
  have hera : 0 ≤ era ∧ era ≤ 24 := by omega
  rw [calendarMonth, marchMonth]
  constructor
  · split <;> split <;> omega
  · split <;> split <;> omega

/-- **A day is found again from its date.** -/
theorem daysFromCivil_civilFromDays (days : ℤ) :
    daysFromCivil (civilFromDays days).1 (civilFromDays days).2.1 (civilFromDays days).2.2 =
      days := by
  obtain ⟨era, yoe, doy, hyoe, hdoy, hdays, hdate⟩ := civilFromDays_parts days
  have hmp : marchMonth doy ≤ 11 ∧ (153 * marchMonth doy + 2) / 5 ≤ doy := by
    rw [marchMonth]
    omega
  rw [hdate, daysFromCivil, hdays]
  generalize marchMonth doy = mp at hmp
  rw [calendarMonth]
  by_cases hlate : mp < 10
  · simp only [if_pos hlate, if_neg (show ¬mp + 3 ≤ 2 by omega)]
    have hyear : ((yoe : ℤ) + era * 400 + 0) / 400 = era := by omega
    have hrest : ((yoe : ℤ) + era * 400 + 0 - era * 400).toNat = yoe := by omega
    simp only [hyear, hrest, Nat.add_sub_cancel]
    omega
  · simp only [if_neg hlate, if_pos (show mp - 9 ≤ 2 by omega)]
    have hyear : ((yoe : ℤ) + era * 400 + 1 - 1) / 400 = era := by omega
    have hrest : ((yoe : ℤ) + era * 400 + 1 - 1 - era * 400).toNat = yoe := by omega
    have hback : mp - 9 + 9 = mp := by omega
    simp only [hyear, hrest, hback, Nat.add_sub_cancel]
    omega

/-! ### Parsing -/

/-- A nonempty string of decimal digits. -/
def isoDigits (cs : List Char) : Option ℕ :=
  if !cs.isEmpty && cs.all Char.isDigit then some (Nat.ofDigitChars 10 cs 0) else none

/-- The day of `YYYY-MM-DD`; a date that does not exist has none. -/
def parseDate : List Char → Option ℤ
  | [y₁, y₂, y₃, y₄, '-', m₁, m₂, '-', d₁, d₂] => do
    let year ← isoDigits [y₁, y₂, y₃, y₄]
    let month ← isoDigits [m₁, m₂]
    let day ← isoDigits [d₁, d₂]
    if 1 ≤ year ∧ civilFromDays (daysFromCivil year month day) = (↑year, month, day) then
      some (daysFromCivil year month day)
    else none
  | _ => none

/-- The microseconds of a decimal fraction of a second; further digits are dropped. -/
def parseFraction : List Char → Option ℕ
  | [] => some 0
  | '.' :: digits => (isoDigits digits).bind fun _ =>
    isoDigits ((digits ++ List.replicate 6 '0').take 6)
  | _ => none

/-- The microseconds of a time of the day. -/
def clockOf (hour minute second microsecond : ℕ) : Option ℕ :=
  if hour < 24 ∧ minute < 60 ∧ second < 60 then
    some ((hour * 3600 + minute * 60 + second) * 1000000 + microsecond)
  else none

/-- The microseconds of `HH`, `HH:MM` or `HH:MM:SS`, the last with a fraction or without. -/
def parseClock : List Char → Option ℕ
  | [h₁, h₂] => do clockOf (← isoDigits [h₁, h₂]) 0 0 0
  | [h₁, h₂, ':', m₁, m₂] => do clockOf (← isoDigits [h₁, h₂]) (← isoDigits [m₁, m₂]) 0 0
  | h₁ :: h₂ :: ':' :: m₁ :: m₂ :: ':' :: s₁ :: s₂ :: fraction => do
    clockOf (← isoDigits [h₁, h₂]) (← isoDigits [m₁, m₂]) (← isoDigits [s₁, s₂])
      (← parseFraction fraction)
  | _ => none

/-- An offset from UTC; without one the time is taken as UTC. -/
def parseOffset : List Char → Option ℤ
  | [] => some 0
  | '+' :: clock => (parseClock clock).map fun us => (us : ℤ)
  | '-' :: clock => (parseClock clock).map fun us => -(us : ℤ)
  | _ => none

/-- Where the offset of a time starts. -/
def isSign (c : Char) : Bool := c == '+' || c == '-'

/-- `datetime.fromisoformat(text)` for dates and times with separators, in UTC. -/
def fromIsoFormat (text : List Char) : Option Time := do
  let days ← parseDate (text.take 10)
  match text.drop 10 with
  | [] => some (days * 86400000000)
  | _ :: rest =>
    let clock ← parseClock (rest.takeWhile (!isSign ·))
    let offset ← parseOffset (rest.dropWhile (!isSign ·))
    some (days * 86400000000 + clock - offset)

/-- The moment a value stands for, if it is one. -/
def parseAbortAt (value : PyVal) : Option Time :=
  match value with
  | .str s =>
    let text := (pyStrip s).toList
    fromIsoFormat (if text.getLast? = some 'Z' ∨ text.getLast? = some 'z' then
      text.dropLast ++ "+00:00".toList else text)
  | _ => none

/-! ### What was written -/

/-- A number of at most so many digits is written with just so many, and reads back. -/
theorem isoDigits_zeroPad {width n : ℕ} (hwidth : 0 < width) (hn : n < 10 ^ width) :
    (zeroPad width n).toList.length = width ∧
      (∀ c ∈ (zeroPad width n).toList, c.isDigit = true) ∧
      isoDigits (zeroPad width n).toList = some n := by
  have hlist : (zeroPad width n).toList =
      List.replicate (width - (Nat.toDigits 10 n).length) '0' ++ Nat.toDigits 10 n := by
    rw [zeroPad, String.toList_append, String.toList_ofList, Nat.toString_eq_repr,
      ← String.length_toList, Nat.toList_repr]
  have hlen : (Nat.toDigits 10 n).length ≤ width :=
    (Nat.length_toDigits_le_iff (by decide) hwidth).mpr hn
  have hlength : (zeroPad width n).toList.length = width := by
    rw [hlist, List.length_append, List.length_replicate]
    omega
  have hdigits : ∀ c ∈ (zeroPad width n).toList, c.isDigit = true := by
    intro c hc
    rw [hlist, List.mem_append] at hc
    rcases hc with hc | hc
    · rw [List.eq_of_mem_replicate hc]
      rfl
    · exact Nat.isDigit_of_mem_toDigits (by decide) (by decide) hc
  refine ⟨hlength, hdigits, ?_⟩
  have hne : (zeroPad width n).toList.isEmpty = false := by
    cases hz : (zeroPad width n).toList with
    | nil =>
        rw [hz] at hlength
        rw [List.length_nil] at hlength
        omega
    | cons c cs => rfl
  rw [isoDigits, if_pos (by rw [hne, List.all_eq_true.mpr hdigits]; rfl), hlist,
    Nat.ofDigitChars_append, Nat.ofDigitChars_replicate_zero, Nat.mul_zero,
    Nat.ofDigitChars_ten_toDigits]

/-- The moments Python has: years 1 to 9999. -/
def IsMoment (t : Time) : Prop :=
  (-62135596800000000 : ℤ) ≤ t ∧ (253402300800000000 : ℤ) > t

instance (t : Time) : Decidable (IsMoment t) := inferInstanceAs (Decidable (_ ∧ _))

/-- A digit is no blank. -/
theorem isPySpace_of_isDigit {c : Char} (h : c.isDigit = true) : isPySpace c = false := by
  have hrange : 48 ≤ c.toNat ∧ c.toNat ≤ 57 := by
    rw [Char.isDigit, Bool.and_eq_true, decide_eq_true_eq, decide_eq_true_eq] at h
    exact ⟨UInt32.le_iff_toNat_le.mp h.1, UInt32.le_iff_toNat_le.mp h.2⟩
  simp only [isPySpace, Bool.or_eq_false_iff, Bool.and_eq_false_iff, decide_eq_false_iff_not,
    List.contains_eq_mem, List.mem_cons, List.not_mem_nil, or_false]
  omega

/-- A digit starts no offset. -/
theorem isSign_of_isDigit {c : Char} (h : c.isDigit = true) : isSign c = false := by
  rw [isSign, Bool.or_eq_false_iff, beq_eq_false_iff_ne, beq_eq_false_iff_ne]
  constructor
  · rintro rfl
    cases h
  · rintro rfl
    cases h

/-- Trimming a text that neither starts nor ends with a blank. -/
theorem toList_pyStrip {s : String} {c d : Char} {rest front : List Char}
    (hstart : s.toList = c :: rest) (hend : s.toList = front ++ [d])
    (hc : isPySpace c = false) (hd : isPySpace d = false) : (pyStrip s).toList = s.toList := by
  rw [pyStrip, String.toList_ofList, hstart, List.dropWhile_cons_of_neg (by simp [hc]), ← hstart,
    hend, List.reverse_append, List.reverse_singleton, List.singleton_append,
    List.dropWhile_cons_of_neg (by simp [hd]), List.reverse_cons, List.reverse_reverse]

/-- The fraction of a second as it is written. -/
def isoFraction (frac : ℕ) : List Char :=
  if frac = 0 then [] else '.' :: (zeroPad 6 frac).toList

/-- The fraction of a second reads back. -/
theorem parseFraction_isoFraction {frac : ℕ} (h : frac < 1000000) :
    parseFraction (isoFraction frac) = some frac := by
  rw [isoFraction]
  split
  · rename_i hzero
    rw [hzero]
    rfl
  · obtain ⟨hlength, -, hread⟩ := isoDigits_zeroPad (by decide : 0 < 6) h
    rw [parseFraction, hread, Option.bind_some, List.take_append_of_le_length (by omega),
      List.take_of_length_le (by omega), hread]

/-- No offset starts in the fraction of a second. -/
theorem isSign_isoFraction {frac : ℕ} (h : frac < 1000000) :
    ∀ c ∈ isoFraction frac, isSign c = false := by
  intro c hc
  rw [isoFraction] at hc
  split at hc
  · cases hc
  · rcases List.mem_cons.mp hc with rfl | hc
    · rfl
    · exact isSign_of_isDigit ((isoDigits_zeroPad (by decide : 0 < 6) h).2.1 c hc)

/-- A moment as it is written. -/
theorem toList_isoformat (t : Time) :
    (isoformat t).toList =
      (zeroPad 4 (civilFromDays (t / 86400000000)).1.toNat).toList ++ '-' ::
        ((zeroPad 2 (civilFromDays (t / 86400000000)).2.1).toList ++ '-' ::
          ((zeroPad 2 (civilFromDays (t / 86400000000)).2.2).toList ++ 'T' ::
            ((zeroPad 2 ((t % 86400000000).toNat / 1000000 / 3600)).toList ++ ':' ::
              ((zeroPad 2 ((t % 86400000000).toNat / 1000000 / 60 % 60)).toList ++ ':' ::
                ((zeroPad 2 ((t % 86400000000).toNat / 1000000 % 60)).toList ++
                  (isoFraction ((t % 86400000000).toNat % 1000000) ++
                    ['+', '0', '0', ':', '0', '0'])))))) := by
  have hfrac : ∀ frac, (if frac = 0 then "" else "." ++ zeroPad 6 frac).toList =
      isoFraction frac := by
    intro frac
    rw [isoFraction]
    split
    · rfl
    · rw [String.toList_append]
      rfl
  have hdash : "-".toList = ['-'] := rfl
  have hsep : "T".toList = ['T'] := rfl
  have hcolon : ":".toList = [':'] := rfl
  have hzone : "+00:00".toList = ['+', '0', '0', ':', '0', '0'] := rfl
  simp only [isoformat, String.toList_append, hfrac, hdash, hsep, hcolon, hzone,
    List.append_assoc, List.cons_append, List.nil_append]

/-- Two digits. -/
theorem twoDigits {n : ℕ} (hn : n < 100) :
    ∃ a b, (zeroPad 2 n).toList = [a, b] ∧ a.isDigit = true ∧ b.isDigit = true ∧
      isoDigits [a, b] = some n := by
  obtain ⟨hlength, hdigits, hread⟩ := isoDigits_zeroPad (by decide : 0 < 2) hn
  obtain ⟨a, b, hab⟩ := List.length_eq_two.mp hlength
  rw [hab] at hdigits hread
  exact ⟨a, b, hab, hdigits a (by simp), hdigits b (by simp), hread⟩

/-- Four digits. -/
theorem fourDigits {n : ℕ} (hn : n < 10000) :
    ∃ a b c d, (zeroPad 4 n).toList = [a, b, c, d] ∧ a.isDigit = true ∧
      isoDigits [a, b, c, d] = some n := by
  obtain ⟨hlength, hdigits, hread⟩ := isoDigits_zeroPad (by decide : 0 < 4) hn
  obtain ⟨a, b, c, d, habcd⟩ := List.length_eq_four.mp hlength
  rw [habcd] at hdigits hread
  exact ⟨a, b, c, d, habcd, hdigits a (by simp), hread⟩

/-- The date of a moment reads back. -/
theorem parseDate_civilFromDays {days : ℤ} {year : ℤ} {month day : ℕ}
    (hdate : civilFromDays days = (year, month, day)) (hyear : 1 ≤ year)
    {y₁ y₂ y₃ y₄ m₁ m₂ d₁ d₂ : Char} (hy : isoDigits [y₁, y₂, y₃, y₄] = some year.toNat)
    (hm : isoDigits [m₁, m₂] = some month) (hd : isoDigits [d₁, d₂] = some day) :
    parseDate [y₁, y₂, y₃, y₄, '-', m₁, m₂, '-', d₁, d₂] = some days := by
  have hnat : ((year.toNat : ℕ) : ℤ) = year := by omega
  have hpos : 1 ≤ year.toNat := by omega
  have hback := daysFromCivil_civilFromDays days
  rw [hdate] at hback
  dsimp only at hback
  simp only [parseDate, hy, hm, hd, Option.bind_eq_bind, Option.bind_some, hnat, hback, hdate,
    hpos, and_self, if_true]

/-- The time of the day of a moment reads back. -/
theorem parseClock_isoFraction {us : ℕ} (hus : us < 86400000000) {h₁ h₂ n₁ n₂ s₁ s₂ : Char}
    (hh : isoDigits [h₁, h₂] = some (us / 1000000 / 3600))
    (hn : isoDigits [n₁, n₂] = some (us / 1000000 / 60 % 60))
    (hs : isoDigits [s₁, s₂] = some (us / 1000000 % 60)) :
    parseClock (h₁ :: h₂ :: ':' :: n₁ :: n₂ :: ':' :: s₁ :: s₂ :: isoFraction (us % 1000000)) =
      some us := by
  have hfrac : parseFraction (isoFraction (us % 1000000)) = some (us % 1000000) :=
    parseFraction_isoFraction (by omega)
  have hrange : us / 1000000 / 3600 < 24 ∧ us / 1000000 / 60 % 60 < 60 ∧
      us / 1000000 % 60 < 60 := by omega
  simp only [parseClock, hh, hn, hs, hfrac, Option.bind_eq_bind, Option.bind_some, clockOf,
    if_pos hrange, Option.some.injEq]
  omega

/-- Reading a date, a time of the day and an offset. -/
theorem fromIsoFormat_append {date clock zone : List Char} {sep : Char} {days offset : ℤ} {us : ℕ}
    (hlength : date.length = 10) (hdate : parseDate date = some days)
    (hclock : parseClock clock = some us) (hnosign : ∀ c ∈ clock, isSign c = false)
    (hzone : zone.takeWhile (!isSign ·) = []) (hoffset : parseOffset zone = some offset) :
    fromIsoFormat (date ++ sep :: (clock ++ zone)) = some (days * 86400000000 + us - offset) := by
  have hpos : ∀ c ∈ clock, (!isSign c) = true := fun c hc => by rw [hnosign c hc]; rfl
  have hrest : zone.dropWhile (!isSign ·) = zone := by
    cases zone with
    | nil => rfl
    | cons c cs =>
        refine List.dropWhile_cons_of_neg fun hc => ?_
        rw [List.takeWhile_cons_of_pos (p := (!isSign ·)) hc] at hzone
        cases hzone
  rw [fromIsoFormat, ← hlength, List.take_left, List.drop_left, hdate]
  dsimp only [Option.bind_eq_bind, Option.bind_some]
  rw [List.takeWhile_append_of_pos hpos, List.dropWhile_append_of_pos hpos, hzone, hrest,
    List.append_nil, hclock, hoffset]
  rfl

/-- **What was written reads back.** -/
theorem parseAbortAt_isoformat {t : Time} (ht : IsMoment t) :
    parseAbortAt (.str (isoformat t)) = some t := by
  obtain ⟨hlow, hhigh⟩ := ht
  obtain ⟨hyearlow, hyearhigh⟩ := @civilFromDays_year (t / 86400000000) (by omega) (by omega)
  obtain ⟨-, hmonth, -, hday⟩ := civilFromDays_range (t / 86400000000)
  have hus : (t % 86400000000).toNat < 86400000000 := by omega
  have hsum : ∀ z : ℤ, z / 86400000000 * 86400000000 + ((z % 86400000000).toNat : ℤ) - 0 = z :=
    fun z => by omega
  have htext := toList_isoformat t
  cases hdate : civilFromDays (t / 86400000000) with
  | mk year date =>
      obtain ⟨month, day⟩ := date
      rw [hdate] at hyearlow hyearhigh hmonth hday htext
      dsimp only at hyearlow hyearhigh hmonth hday htext
      obtain ⟨y₁, y₂, y₃, y₄, hy, hystart, hyread⟩ := fourDigits (n := year.toNat) (by omega)
      obtain ⟨m₁, m₂, hm, -, -, hmread⟩ := twoDigits (n := month) (by omega)
      obtain ⟨d₁, d₂, hd, -, -, hdread⟩ := twoDigits (n := day) (by omega)
      obtain ⟨h₁, h₂, hh, hh₁, hh₂, hhread⟩ :=
        twoDigits (n := (t % 86400000000).toNat / 1000000 / 3600) (by omega)
      obtain ⟨n₁, n₂, hn, hn₁, hn₂, hnread⟩ :=
        twoDigits (n := (t % 86400000000).toNat / 1000000 / 60 % 60) (by omega)
      obtain ⟨s₁, s₂, hs, hs₁, hs₂, hsread⟩ :=
        twoDigits (n := (t % 86400000000).toNat / 1000000 % 60) (by omega)
      rw [hy, hm, hd, hh, hn, hs] at htext
      have hparts : (isoformat t).toList = [y₁, y₂, y₃, y₄, '-', m₁, m₂, '-', d₁, d₂] ++ 'T' ::
          ((h₁ :: h₂ :: ':' :: n₁ :: n₂ :: ':' :: s₁ :: s₂ ::
            isoFraction ((t % 86400000000).toNat % 1000000)) ++ ['+', '0', '0', ':', '0', '0']) :=
        htext
      have hlast : (isoformat t).toList = ([y₁, y₂, y₃, y₄, '-', m₁, m₂, '-', d₁, d₂] ++ 'T' ::
          ((h₁ :: h₂ :: ':' :: n₁ :: n₂ :: ':' :: s₁ :: s₂ ::
            isoFraction ((t % 86400000000).toNat % 1000000)) ++ ['+', '0', '0', ':', '0'])) ++
              ['0'] := by
        rw [hparts]
        simp only [List.append_assoc, List.cons_append, List.nil_append]
      have hstrip := toList_pyStrip hparts hlast (isPySpace_of_isDigit hystart) (by decide)
      have hz : ¬((isoformat t).toList.getLast? = some 'Z' ∨
          (isoformat t).toList.getLast? = some 'z') := by
        rw [hlast, List.getLast?_concat]
        decide
      have hnosign : ∀ c ∈ h₁ :: h₂ :: ':' :: n₁ :: n₂ :: ':' :: s₁ :: s₂ ::
          isoFraction ((t % 86400000000).toNat % 1000000), isSign c = false := by
        simp only [List.forall_mem_cons]
        exact ⟨isSign_of_isDigit hh₁, isSign_of_isDigit hh₂, rfl, isSign_of_isDigit hn₁,
          isSign_of_isDigit hn₂, rfl, isSign_of_isDigit hs₁, isSign_of_isDigit hs₂,
          isSign_isoFraction (by omega)⟩
      rw [parseAbortAt, hstrip, if_neg hz, hparts,
        fromIsoFormat_append rfl (parseDate_civilFromDays hdate hyearlow hyread hmread hdread)
          (parseClock_isoFraction hus hhread hnread hsread) hnosign rfl
          (show parseOffset ['+', '0', '0', ':', '0', '0'] = some 0 by decide)]
      exact congrArg some (hsum t)

end StabilityPlatform
