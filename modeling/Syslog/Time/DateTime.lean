/-!
# Dates and times of day

A `DateTime` is a date of the Gregorian calendar and a time of day, with nanoseconds. The second 60
is a leap second and may stand in any minute.

* `make?` checks the parts; the type holds valid ones only;
* `ofUnix?` and `toUnix` go over to seconds since the start of 1970 and back; a leap second counts
  as the second before it, with a thousand million nanoseconds more.
-/

namespace Syslog.Time

/-! ## 1. The calendar -/

/-- Has the year a 29th of February? -/
def isLeapYear (year : Int) : Bool := year % 4 == 0 && (year % 100 != 0 || year % 400 == 0)

/-- The number of days of a month. -/
def daysInMonth (year : Int) (month : Nat) : Nat :=
  if month == 2 then if isLeapYear year then 29 else 28
  else if month == 4 || month == 6 || month == 9 || month == 11 then 30
  else 31

/-- The number of days from the first day of 1970 to a date. Years are counted from March, so that
the leap day is the last of its year, in periods of 400 years. -/
def daysFromDate (year : Int) (month day : Nat) : Int :=
  let y := if month ≤ 2 then year - 1 else year
  let era := y / 400
  let yearOfEra := y % 400
  let dayOfYear := (153 * ((month + 9) % 12) + 2) / 5 + day - 1
  era * 146097 + (yearOfEra * 365 + yearOfEra / 4 - yearOfEra / 100 + (dayOfYear : Int)) - 719468

/-- The date that lies a number of days after the first day of 1970, as year, month and day. -/
def dateFromDays (days : Int) : Int × Nat × Nat :=
  let z := days + 719468
  let era := z / 146097
  let dayOfEra := (z % 146097).toNat
  let yearOfEra := (dayOfEra - dayOfEra / 1460 + dayOfEra / 36524 - dayOfEra / 146096) / 365
  let dayOfYear := dayOfEra - (365 * yearOfEra + yearOfEra / 4 - yearOfEra / 100)
  let shifted := (5 * dayOfYear + 2) / 153
  let day := dayOfYear - (153 * shifted + 2) / 5 + 1
  let month := if shifted < 10 then shifted + 3 else shifted - 9
  let year := (yearOfEra : Int) + era * 400 + (if month ≤ 2 then 1 else 0)
  (year, month, day)

example : dateFromDays (daysFromDate 2024 2 29) = (2024, 2, 29) := by decide
example : dateFromDays (daysFromDate (-1) 12 31) = (-1, 12, 31) := by decide

/-! ## 2. Valid dates and times -/

/-- The parts of a date and a time of day that go together. -/
def ValidParts (year : Int) (month day hour minute second nanosecond : Nat) : Prop :=
  1 ≤ month ∧ month ≤ 12 ∧ 1 ≤ day ∧ day ≤ daysInMonth year month ∧
    hour < 24 ∧ minute < 60 ∧ second ≤ 60 ∧ nanosecond < 1000000000

instance (year : Int) (month day hour minute second nanosecond : Nat) :
    Decidable (ValidParts year month day hour minute second nanosecond) :=
  inferInstanceAs (Decidable (_ ∧ _))

/-- A date and a time of day. -/
structure DateTime where
  year : Int
  month : Nat
  day : Nat
  hour : Nat
  minute : Nat
  second : Nat
  nanosecond : Nat
  valid : ValidParts year month day hour minute second nanosecond
  deriving DecidableEq

namespace DateTime

/-- The beginning of the year 1970. -/
def epoch : DateTime := ⟨1970, 1, 1, 0, 0, 0, 0, by decide⟩

instance : Inhabited DateTime := ⟨epoch⟩

/-- The date and time with the given parts, if they go together. -/
def make? (year : Int) (month day hour minute second nanosecond : Nat) : Option DateTime :=
  if h : ValidParts year month day hour minute second nanosecond then
    some ⟨year, month, day, hour, minute, second, nanosecond, h⟩
  else none

/-- The years that a moment can lie in. -/
def inRange (year : Int) : Bool := -262143 ≤ year && year ≤ 262142

/-- The moment that lies `seconds` and `nanoseconds` after the start of 1970. From a thousand
million nanoseconds on it is a leap second, which only the last second of a minute can have. -/
def ofUnix? (seconds : Int) (nanoseconds : Nat) : Option DateTime :=
  let (year, month, day) := dateFromDays (seconds / 86400)
  let rest := (seconds % 86400).toNat
  if !inRange year then none
  else if nanoseconds < 1000000000 then
    make? year month day (rest / 3600) (rest / 60 % 60) (rest % 60) nanoseconds
  else if rest % 60 == 59 then
    make? year month day (rest / 3600) (rest / 60 % 60) 60 (nanoseconds - 1000000000)
  else none

/-- The seconds and nanoseconds since the start of 1970. -/
def toUnix (t : DateTime) : Int × Nat :=
  let days := daysFromDate t.year t.month t.day
  let start := days * 86400 + t.hour * 3600 + t.minute * 60
  if t.second == 60 then (start + 59, t.nanosecond + 1000000000)
  else (start + t.second, t.nanosecond)

/-- The moment without what is finer than a millisecond. -/
def truncateToMillis (t : DateTime) : DateTime where
  year := t.year
  month := t.month
  day := t.day
  hour := t.hour
  minute := t.minute
  second := t.second
  nanosecond := t.nanosecond / 1000000 * 1000000
  valid := by
    have h := t.valid
    simp only [ValidParts] at h ⊢
    omega

end DateTime

/-- A local time and how many minutes it is ahead of UTC. -/
structure OffsetTime where
  time : DateTime
  offset : Int
  deriving DecidableEq

end Syslog.Time
