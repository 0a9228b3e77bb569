import ResultBoards.Calendar.Date

/-!
# Timestamps

A timestamp is an instant in universal time, to the nanosecond.  A second may be
numbered sixty, which marks a leap second.  It is written in the notation of RFC 3339
with as many places as it needs, in groups of three.
-/

namespace ResultBoards

/-- Whether there is such a time of day. -/
def isTime (hour minute second nanosecond : Nat) : Bool :=
  hour ≤ 23 && minute ≤ 59 && second ≤ 60 && nanosecond ≤ 999999999

/-- A time of day. -/
structure TimeOfDay where
  hour : Nat
  minute : Nat
  second : Nat
  nanosecond : Nat
  valid : isTime hour minute second nanosecond = true

instance : DecidableEq TimeOfDay := fun first second =>
  decidable_of_iff
    (first.hour = second.hour ∧ first.minute = second.minute ∧ first.second = second.second ∧
      first.nanosecond = second.nanosecond) <| by
    cases first
    cases second
    simp

/-- The time of day with these parts, if there is one. -/
def TimeOfDay.ofParts? (hour minute second nanosecond : Nat) : Option TimeOfDay :=
  if h : isTime hour minute second nanosecond = true then
    some ⟨hour, minute, second, nanosecond, h⟩
  else none

/-- An instant in universal time. -/
structure Timestamp where
  date : Date
  time : TimeOfDay
deriving DecidableEq

namespace Timestamp

/-- The instant at which clocks show a date and a time where they are a number of
minutes ahead of universal time, less than a day. -/
def ofLocal? (date : Date) (time : TimeOfDay) (ahead : Int) : Option Timestamp := do
  let minutes : Int := time.hour * 60 + time.minute - ahead
  let date ←
    if minutes < 0 then date.previous?
    else if minutes < 1440 then some date
    else date.next?
  let minuteOfDay := (minutes % 1440).toNat
  let time ← TimeOfDay.ofParts? (minuteOfDay / 60) (minuteOfDay % 60) time.second time.nanosecond
  return ⟨date, time⟩

/-! ## Writing -/

/-- A number in decimal digits, filled up with zeros to a width. -/
def padded (width value : Nat) : List Char :=
  let digits := Nat.toDigits 10 value
  List.replicate (width - digits.length) '0' ++ digits

/-- A year.  Years without exactly four digits and those before year zero carry a sign. -/
def writeYear (year : Int) : List Char :=
  if 0 ≤ year ∧ year ≤ 9999 then padded 4 year.toNat
  else (if year < 0 then '-' else '+') :: padded 4 year.natAbs

/-- The fraction of a second, in three, six or nine places, or nothing. -/
def writeFraction (nanosecond : Nat) : List Char :=
  if nanosecond = 0 then []
  else if nanosecond % 1000000 = 0 then '.' :: padded 3 (nanosecond / 1000000)
  else if nanosecond % 1000 = 0 then '.' :: padded 6 (nanosecond / 1000)
  else '.' :: padded 9 nanosecond

/-- The text of a timestamp. -/
def toText (timestamp : Timestamp) : String :=
  let date := timestamp.date
  let time := timestamp.time
  String.ofList <|
    writeYear date.year ++ '-' :: padded 2 date.month ++ '-' :: padded 2 date.day ++
      'T' :: padded 2 time.hour ++ ':' :: padded 2 time.minute ++ ':' :: padded 2 time.second ++
      writeFraction time.nanosecond ++ ['Z']

end Timestamp

end ResultBoards
