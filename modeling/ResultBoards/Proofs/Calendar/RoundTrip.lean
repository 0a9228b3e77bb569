import Mathlib.Algebra.Group.Nat.Defs
import Mathlib.Data.List.Basic
import ResultBoards.Calendar.Reader

/-!
# Timestamps read back

A timestamp is written in one way and read in many: with blanks, with fewer digits, with an
offset.  The written way is one of those that are read, for every date from the first year to
the last one and for leap seconds, and what is read is the timestamp that was written
(`Timestamp.ofText_toText`).

## Strategy

All numbers are written with `padded`.  Its digits are digits whose number is the number that
was written, and there are exactly as many as asked for where that many are enough.  So every
reader of a part takes the digits of its own number and stops at the separator behind them.
The parts are in range because dates and times carry the proof that they are.  The offset is
that of universal time, and it moves nothing (`ofLocal?_zero`).
-/

namespace ResultBoards

namespace Text

/-! ## Digits -/

theorem hexValue?_of_isDigit {c : Char} (hdigit : c.isDigit) :
    hexValue? c = some (c.toNat - '0'.toNat) := by
  have hrange : '0' ≤ c ∧ c ≤ '9' := by
    simpa [Char.isDigit, Char.le_def] using hdigit
  simp [hexValue?, hrange]

/-- Decimal digits are read as the number that they write. -/
theorem numberOf_digits {digits : List Char} (hdigits : ∀ c ∈ digits, c.isDigit) :
    numberOf 10 digits = Nat.ofDigitChars 10 digits 0 := by
  have hfrom : ∀ value, digits.foldl (fun value c => value * 10 + (hexValue? c).getD 0) value =
      Nat.ofDigitChars 10 digits value := by
    induction digits with
    | nil => simp
    | cons c digits ih =>
        intro value
        have hc := hexValue?_of_isDigit (hdigits c List.mem_cons_self)
        have hrest := ih fun d hd => hdigits d (List.mem_cons_of_mem _ hd)
        rw [List.foldl_cons, hrest, hc, Option.getD_some, Nat.ofDigitChars_cons, Nat.mul_comm]
  exact hfrom 0

/-! ## Blanks -/

theorem isBlank_of_isDigit {c : Char} (hdigit : c.isDigit) : isBlank c = false := by
  have hrange : '0' ≤ c ∧ c ≤ '9' := by
    simpa [Char.isDigit, Char.le_def] using hdigit
  have hlow : ¬ c ≤ '\r' := fun hle => absurd (Char.le_trans hrange.1 hle) (by decide)
  have hhigh : ¬ '\u2000' ≤ c := fun hle => absurd (Char.le_trans hle hrange.2) (by decide)
  have hne : ∀ {d : Char}, d.isDigit = false → c ≠ d := by
    rintro d hd rfl
    rw [hd] at hdigit
    contradiction
  simp [isBlank, hlow, hhigh, hne]

theorem dropBlank_of_head {text : List Char} (hhead : ∀ c ∈ text.head?, isBlank c = false) :
    dropBlank text = text := by
  cases text with
  | nil => rfl
  | cons c rest => rw [dropBlank, List.dropWhile_cons_of_neg (by simp [hhead c rfl])]

end Text

namespace Timestamp

/-! ## Numbers of a fixed width -/

theorem isDigit_of_mem_padded {width value : Nat} {c : Char} (hc : c ∈ padded width value) :
    c.isDigit := by
  rcases List.mem_append.mp hc with hzero | hdigit
  · rw [List.eq_of_mem_replicate hzero]
    rfl
  · exact Nat.isDigit_of_mem_toDigits (by decide) (by decide) hdigit

/-- Zeros in front do not change a number. -/
theorem numberOf_padded (width value : Nat) : Text.numberOf 10 (padded width value) = value := by
  rw [Text.numberOf_digits fun c hc => isDigit_of_mem_padded hc, padded, Nat.ofDigitChars_append,
    Nat.ofDigitChars_replicate_zero, Nat.mul_zero, Nat.ofDigitChars_ten_toDigits]

theorem length_padded {width value : Nat} (hwidth : 0 < width) (hvalue : value < 10 ^ width) :
    (padded width value).length = width := by
  have hdigits := (Nat.length_toDigits_le_iff (b := 10) (by decide) hwidth).mpr hvalue
  rw [padded, List.length_append, List.length_replicate]
  omega

theorem padded_ne_nil (width value : Nat) : padded width value ≠ [] := by
  intro hnil
  exact Nat.toDigits_ne_nil (List.append_eq_nil_iff.mp hnil).2

theorem dropBlank_padded (width value : Nat) (rest : List Char) :
    Text.dropBlank (padded width value ++ rest) = padded width value ++ rest := by
  refine Text.dropBlank_of_head fun c hc => ?_
  rw [List.head?_append_of_ne_nil _ (padded_ne_nil width value)] at hc
  exact Text.isBlank_of_isDigit (isDigit_of_mem_padded (List.mem_of_mem_head? hc))

/-- A text in which no digit comes first. -/
def NoDigitFirst (text : List Char) : Prop :=
  ∀ c ∈ text.head?, c.isDigit = false

theorem noDigitFirst_cons {c : Char} (rest : List Char) (hc : c.isDigit = false) :
    NoDigitFirst (c :: rest) := by
  rintro d hd
  obtain rfl : c = d := by simpa using hd
  exact hc

theorem NoDigitFirst.takeWhile_eq_nil {text : List Char} (htext : NoDigitFirst text) :
    text.takeWhile Char.isDigit = [] := by
  cases text with
  | nil => rfl
  | cons c rest => rw [List.takeWhile_cons_of_neg (by simp [htext c rfl])]

theorem NoDigitFirst.dropWhile_eq_self {text : List Char} (htext : NoDigitFirst text) :
    text.dropWhile Char.isDigit = text := by
  cases text with
  | nil => rfl
  | cons c rest => rw [List.dropWhile_cons_of_neg (by simp [htext c rfl])]

theorem takeWhile_padded (width value : Nat) {rest : List Char} (hrest : NoDigitFirst rest) :
    (padded width value ++ rest).takeWhile Char.isDigit = padded width value := by
  rw [List.takeWhile_append_of_pos fun c hc => isDigit_of_mem_padded hc, hrest.takeWhile_eq_nil,
    List.append_nil]

/-- The digits of a number are taken whole where there may be any number of them. -/
theorem takeDigits_padded (width value : Nat) {rest : List Char} (hrest : NoDigitFirst rest) :
    takeDigits none (padded width value ++ rest) = .ok (padded width value, rest) := by
  have hne := padded_ne_nil width value
  simp only [takeDigits, takeWhile_padded width value hrest, List.isEmpty_iff,
    List.append_eq_nil_iff, hne, false_and, if_false, List.drop_left]

/-- They are also taken whole where there may be just as many as there are. -/
theorem takeDigits_padded_of_lt {width value : Nat} {rest : List Char} (hwidth : 0 < width)
    (hvalue : value < 10 ^ width) (hrest : NoDigitFirst rest) {most : Nat}
    (hmost : width ≤ most) :
    takeDigits (some most) (padded width value ++ rest) = .ok (padded width value, rest) := by
  have hne := padded_ne_nil width value
  have htake : (padded width value).take most = padded width value :=
    List.take_of_length_le (by rwa [length_padded hwidth hvalue])
  simp only [takeDigits, takeWhile_padded width value hrest, htake, List.isEmpty_iff,
    List.append_eq_nil_iff, hne, false_and, if_false, List.drop_left]

/-! ## The parts of a timestamp -/

theorem readSeparator_cons {separator : Char} (rest : List Char)
    (hblank : Text.isBlank separator = false) :
    readSeparator separator (separator :: rest) = .ok rest := by
  have hdrop : Text.dropBlank (separator :: rest) = separator :: rest :=
    Text.dropBlank_of_head (by simpa using hblank)
  simp only [readSeparator, hdrop, if_true]

theorem readPart_padded {low high value : Nat} {rest : List Char} (hlow : low ≤ value)
    (hhigh : value ≤ high) (hdigits : value < 10 ^ 2) (hrest : NoDigitFirst rest) :
    readPart low high (padded 2 value ++ rest) = .ok (value, rest) := by
  have htake : takeDigits (some 2) (padded 2 value ++ rest) = .ok (padded 2 value, rest) :=
    takeDigits_padded_of_lt (by decide) hdigits hrest (Nat.le_refl 2)
  simp only [readPart, dropBlank_padded, htake, bind, Except.bind, numberOf_padded, hlow, hhigh,
    and_self, if_true]

/-- The first digits of a number are no sign. -/
theorem padded_cons (width value : Nat) :
    ∃ c digits, padded width value = c :: digits ∧ c ≠ '-' ∧ c ≠ '+' := by
  cases hpadded : padded width value with
  | nil => exact absurd hpadded (padded_ne_nil width value)
  | cons c digits =>
      have hdigit : c.isDigit := isDigit_of_mem_padded (hpadded ▸ List.mem_cons_self)
      refine ⟨c, digits, rfl, ?_, ?_⟩
      · rintro rfl
        contradiction
      · rintro rfl
        contradiction

/-- A year of four digits is read without a sign, any other with the sign that it has. -/
theorem readYear_writeYear {year : Int} {rest : List Char} (hfirst : minYear ≤ year)
    (hlast : year ≤ maxYear) (hrest : NoDigitFirst rest) :
    readYear (writeYear year ++ rest) = .ok (year, rest) := by
  have hmin : minYear = -262143 := rfl
  have hmax : maxYear = 262142 := rfl
  have hbounds : -0x80000000 ≤ year ∧ year < 0x80000000 := by omega
  by_cases hplain : 0 ≤ year ∧ year ≤ 9999
  · have htake : takeDigits (some 4) (padded 4 year.toNat ++ rest) =
        .ok (padded 4 year.toNat, rest) :=
      takeDigits_padded_of_lt (by decide) (by omega) hrest (Nat.le_refl 4)
    have hvalue : (year.toNat : Int) = year := by omega
    obtain ⟨c, digits, hpadded, hminus, hplus⟩ := padded_cons 4 year.toNat
    rw [writeYear, if_pos hplain, readYear, dropBlank_padded]
    split
    · rename_i hsign
      rw [hpadded] at hsign
      exact absurd (List.cons.inj hsign).1 hminus
    · rename_i hsign
      rw [hpadded] at hsign
      exact absurd (List.cons.inj hsign).1 hplus
    · simp only [htake, numberOf_padded, Except.map, bind, Except.bind, hvalue, hbounds, and_self,
        if_true]
  · have htake : takeDigits none (padded 4 year.natAbs ++ rest) =
        .ok (padded 4 year.natAbs, rest) := takeDigits_padded 4 year.natAbs hrest
    rw [writeYear, if_neg hplain, readYear]
    by_cases hnegative : year < 0
    · have hvalue : -(year.natAbs : Int) = year := by omega
      rw [if_pos hnegative, List.cons_append, Text.dropBlank_of_head (by simp [Text.isBlank])]
      simp only [htake, numberOf_padded, Except.map, bind, Except.bind, hvalue, hbounds, and_self,
        if_true]
    · have hvalue : (year.natAbs : Int) = year := by omega
      rw [if_neg hnegative, List.cons_append, Text.dropBlank_of_head (by simp [Text.isBlank])]
      simp only [htake, numberOf_padded, Except.map, bind, Except.bind, hvalue, hbounds, and_self,
        if_true]

/-- A fraction whose digits count units of a power of ten of nanoseconds. -/
theorem readFraction_padded {places units : Nat} {rest : List Char} (hplaces : 0 < places)
    (hmost : places ≤ 9) (hunits : units < 10 ^ places) (hrest : NoDigitFirst rest) :
    readFraction ('.' :: padded places units ++ rest) = .ok (units * 10 ^ (9 - places), rest) := by
  have htake : takeDigits (some 9) (padded places units ++ rest) =
      .ok (padded places units, rest) := takeDigits_padded_of_lt hplaces hunits hrest hmost
  rw [List.cons_append, readFraction]
  simp only [htake, bind, Except.bind, numberOf_padded, length_padded hplaces hunits,
    hrest.dropWhile_eq_self]
  rfl

/-- The number of places that are written is enough for the fraction. -/
theorem readFraction_writeFraction {nanosecond : Nat} (hnanosecond : nanosecond ≤ 999999999)
    (rest : List Char) :
    readFraction (writeFraction nanosecond ++ 'Z' :: rest) = .ok (nanosecond, 'Z' :: rest) := by
  have hrest : NoDigitFirst ('Z' :: rest) := noDigitFirst_cons rest rfl
  unfold writeFraction
  split
  · rename_i hzero
    rw [hzero]
    rfl
  · split
    · rw [readFraction_padded (by decide) (by decide) (by omega) hrest]
      congr 2
      omega
    · split
      · rw [readFraction_padded (by decide) (by decide) (by omega) hrest]
        congr 2
        omega
      · rw [readFraction_padded (by decide) (by decide) (by omega) hrest]
        simp

theorem noDigitFirst_writeFraction (nanosecond : Nat) (rest : List Char) :
    NoDigitFirst (writeFraction nanosecond ++ 'Z' :: rest) := by
  unfold writeFraction
  split_ifs <;> exact noDigitFirst_cons _ rfl

/-! ## Dates, times and offsets -/

theorem ofLocal?_zero (date : Date) (time : TimeOfDay) :
    ofLocal? date time 0 = some ⟨date, time⟩ := by
  have hvalid := time.valid
  simp only [isTime, Bool.and_eq_true, decide_eq_true_eq] at hvalid
  have hlow : ¬ ((time.hour : Int) * 60 + time.minute - 0 < 0) := by omega
  have hhigh : (time.hour : Int) * 60 + time.minute - 0 < 1440 := by omega
  have hminutes : (((time.hour : Int) * 60 + time.minute - 0) % 1440).toNat =
      time.hour * 60 + time.minute := by omega
  have hhour : (time.hour * 60 + time.minute) / 60 = time.hour := by omega
  have hminute : (time.hour * 60 + time.minute) % 60 = time.minute := by omega
  have htime : TimeOfDay.ofParts? time.hour time.minute time.second time.nanosecond = some time :=
    dif_pos time.valid
  simp only [ofLocal?, hlow, hhigh, if_false, if_true, hminutes, hhour, hminute, htime]
  rfl

theorem bounds_of_date (date : Date) :
    minYear ≤ date.year ∧ date.year ≤ maxYear ∧ 1 ≤ date.month ∧ date.month ≤ 12 ∧
      1 ≤ date.day ∧ date.day ≤ 31 := by
  have hvalid := date.valid
  simp only [isDate, Bool.and_eq_true, decide_eq_true_eq] at hvalid
  have hmonth : daysInMonth date.year date.month ≤ 31 := by
    unfold daysInMonth
    split_ifs <;> omega
  omega

theorem bounds_of_time (time : TimeOfDay) :
    time.hour ≤ 23 ∧ time.minute ≤ 59 ∧ time.second ≤ 60 ∧ time.nanosecond ≤ 999999999 := by
  have hvalid := time.valid
  simp only [isTime, Bool.and_eq_true, decide_eq_true_eq] at hvalid
  omega

/-- **Timestamps read back.**  The text of any timestamp is read as that timestamp, also at both
ends of the calendar and in leap seconds. -/
theorem ofText_toText (timestamp : Timestamp) : ofText timestamp.toText = .ok timestamp := by
  obtain ⟨date, time⟩ := timestamp
  obtain ⟨hfirst, hlast, _, _, _, _⟩ := bounds_of_date date
  obtain ⟨_, _, _, hnanosecond⟩ := bounds_of_time time
  -- each part is read up to the separator behind it
  have hyear (rest : List Char) : readYear (writeYear date.year ++ '-' :: rest) =
      .ok (date.year, '-' :: rest) :=
    readYear_writeYear hfirst hlast (noDigitFirst_cons rest rfl)
  have hmonth (rest : List Char) : readPart 1 12 (padded 2 date.month ++ '-' :: rest) =
      .ok (date.month, '-' :: rest) :=
    readPart_padded (by omega) (by omega) (by omega) (noDigitFirst_cons rest rfl)
  have hday (rest : List Char) : readPart 1 31 (padded 2 date.day ++ 'T' :: rest) =
      .ok (date.day, 'T' :: rest) :=
    readPart_padded (by omega) (by omega) (by omega) (noDigitFirst_cons rest rfl)
  have hhour (rest : List Char) : readPart 0 23 (padded 2 time.hour ++ ':' :: rest) =
      .ok (time.hour, ':' :: rest) :=
    readPart_padded (by omega) (by omega) (by omega) (noDigitFirst_cons rest rfl)
  have hminute (rest : List Char) : readPart 0 59 (padded 2 time.minute ++ ':' :: rest) =
      .ok (time.minute, ':' :: rest) :=
    readPart_padded (by omega) (by omega) (by omega) (noDigitFirst_cons rest rfl)
  have hsecond : readPart 0 60 (padded 2 time.second ++ (writeFraction time.nanosecond ++ ['Z'])) =
      .ok (time.second, writeFraction time.nanosecond ++ ['Z']) :=
    readPart_padded (by omega) (by omega) (by omega) (noDigitFirst_writeFraction _ _)
  have hfraction : readFraction (writeFraction time.nanosecond ++ ['Z']) =
      .ok (time.nanosecond, ['Z']) := readFraction_writeFraction hnanosecond []
  have hdash (rest : List Char) : readSeparator '-' ('-' :: rest) = .ok rest :=
    readSeparator_cons rest rfl
  have hcolon (rest : List Char) : readSeparator ':' (':' :: rest) = .ok rest :=
    readSeparator_cons rest rfl
  have hdivider (rest : List Char) : readDivider ('T' :: rest) = .ok rest := rfl
  have hoffset : readOffset (Text.dropBlank ['Z']) = .ok (0, []) := rfl
  have hend : (Text.dropBlank []).isEmpty = true := rfl
  -- the parts are those of a date and of a time
  have hdate : Date.ofParts? date.year date.month date.day = some date := dif_pos date.valid
  have htime : TimeOfDay.ofParts? time.hour time.minute time.second time.nanosecond = some time :=
    dif_pos time.valid
  simp only [ofText, toText, String.toList_ofList, List.append_assoc, List.cons_append, bind,
    Except.bind, hyear, hmonth, hday, hhour, hminute, hsecond, hfraction, hoffset, hend, hdate,
    htime, hdash, hcolon, hdivider, orOutOfRange, ofLocal?_zero]
  rfl

end Timestamp

end ResultBoards
