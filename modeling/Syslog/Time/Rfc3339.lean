import Syslog.Text.Decimal
import Syslog.Time.DateTime

/-!
# Date and time as text

Three written forms.

* `renderMillis`: UTC with milliseconds, cut and not rounded, and a final `Z`;
* `renderOffset`: local time with its offset in digits and 0, 3, 6 or 9 decimals, as few as are
  exact;
* `renderShort`: month, day and time of day, as in the headers of the older message format.

`read?` reads the first two and every other form that RFC 3339 allows: capital or small `T` and `Z`,
any number of decimals, of which nine count, and offsets up to 23:59 with a plus, a hyphen or a
minus sign.
-/

namespace Syslog.Time

open Text

/-! ## 1. Writing -/

/-- The year in four digits; outside the years 0 to 9999 with its sign. -/
def renderYear (year : Int) : String :=
  if 0 ≤ year && year ≤ 9999 then Decimal.padded 4 year.toNat
  else (if year < 0 then "-" else "+") ++ Decimal.padded 4 year.natAbs

/-- Date and time of day to the second. -/
def renderSeconds (t : DateTime) : String :=
  renderYear t.year ++ "-" ++ Decimal.padded 2 t.month ++ "-" ++ Decimal.padded 2 t.day ++ "T" ++
    Decimal.padded 2 t.hour ++ ":" ++ Decimal.padded 2 t.minute ++ ":" ++ Decimal.padded 2 t.second

/-- A moment in UTC with milliseconds. -/
def renderMillis (t : DateTime) : String :=
  renderSeconds t ++ "." ++ Decimal.padded 3 (t.nanosecond / 1000000) ++ "Z"

/-- The decimals of a second: none, or three, six or nine digits. -/
def renderFraction (nanosecond : Nat) : String :=
  if nanosecond == 0 then ""
  else if nanosecond % 1000000 == 0 then "." ++ Decimal.padded 3 (nanosecond / 1000000)
  else if nanosecond % 1000 == 0 then "." ++ Decimal.padded 6 (nanosecond / 1000)
  else "." ++ Decimal.padded 9 nanosecond

/-- An offset in hours and minutes. -/
def renderShift (minutes : Int) : String :=
  (if minutes < 0 then "-" else "+") ++ Decimal.padded 2 (minutes.natAbs / 60) ++ ":" ++
    Decimal.padded 2 (minutes.natAbs % 60)

/-- A local time with its offset. -/
def renderOffset (t : OffsetTime) : String :=
  renderSeconds t.time ++ renderFraction t.time.nanosecond ++ renderShift t.offset

/-- The English short name of a month. -/
def monthName (month : Nat) : String :=
  ["Jan", "Feb", "Mar", "Apr", "May", "Jun", "Jul", "Aug", "Sep", "Oct", "Nov", "Dec"].getD
    (month - 1) ""

/-- Month, day and time of day; a day of one digit is filled with a blank. -/
def renderShort (t : DateTime) : String :=
  monthName t.month ++ " " ++ String.ofList (Decimal.padLeft 2 ' ' (Decimal.digits t.day)) ++ " " ++
    Decimal.padded 2 t.hour ++ ":" ++ Decimal.padded 2 t.minute ++ ":" ++ Decimal.padded 2 t.second

/-! ## 2. Reading -/

/-- A number of exactly `count` digits, and what follows. -/
def digits? (count : Nat) (cs : List Char) : Option (Nat × List Char) :=
  let ds := cs.take count
  if ds.length == count && ds.all Decimal.isDigit then some (Decimal.ofDigits ds, cs.drop count)
  else none

/-- What follows one of the given characters. -/
def skip? (allowed : List Char) : List Char → Option (List Char)
  | c :: rest => if allowed.contains c then some rest else none
  | [] => none

/-- The decimals of a second, if a point follows, and what comes after them. Digits after the ninth
are passed over. -/
def fraction? : List Char → Option (Nat × List Char)
  | '.' :: rest =>
    let ds := rest.takeWhile Decimal.isDigit
    if ds.isEmpty then none
    else
      some (Decimal.ofDigits ((ds ++ List.replicate 9 '0').take 9), rest.dropWhile Decimal.isDigit)
  | rest => some (0, rest)

/-- The offset in minutes that ends the text. -/
def shift? : List Char → Option Int
  | ['Z'] | ['z'] => some 0
  | sign :: rest => do
    let (hours, rest) ← digits? 2 rest
    let rest ← skip? [':'] rest
    let (minutes, rest) ← digits? 2 rest
    if !rest.isEmpty || hours > 23 || minutes > 59 then none
    else if sign == '+' then some ((hours * 60 + minutes : Nat) : Int)
    else if sign == '-' || sign == '\u2212' then some (-((hours * 60 + minutes : Nat) : Int))
    else none
  | [] => none

/-- The time that the characters write. -/
def read? (cs : List Char) : Option OffsetTime := do
  let (year, cs) ← digits? 4 cs
  let cs ← skip? ['-'] cs
  let (month, cs) ← digits? 2 cs
  let cs ← skip? ['-'] cs
  let (day, cs) ← digits? 2 cs
  let cs ← skip? ['T', 't'] cs
  let (hour, cs) ← digits? 2 cs
  let cs ← skip? [':'] cs
  let (minute, cs) ← digits? 2 cs
  let cs ← skip? [':'] cs
  let (second, cs) ← digits? 2 cs
  let (nanosecond, cs) ← fraction? cs
  let offset ← shift? cs
  let time ← DateTime.make? year month day hour minute second nanosecond
  return ⟨time, offset⟩

end Syslog.Time
