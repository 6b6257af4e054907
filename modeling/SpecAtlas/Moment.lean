import SpecAtlas.Numeral
import SpecAtlas.Text.Quoted

/-!
# Dates and times

A date, a time of day to the microsecond, or both together, then perhaps with the distance of a time
zone from universal time. A date is one of the calendar, in the years 1 to 9999.

A moment has two written forms. `text` is for people: year to day with hyphens, hour to second with
colons, the fraction and the zone only where there are any. `detail` is for a log, which shows what
kind of value stands there.
-/

namespace SpecAtlas

/-- A day of the calendar. -/
structure Date where
  year : Nat
  month : Nat
  day : Nat
  deriving DecidableEq, Repr, Inhabited

/-- A time of day. -/
structure TimeOfDay where
  hour : Nat
  minute : Nat
  second : Nat
  microsecond : Nat
  deriving DecidableEq, Repr, Inhabited

/-- A time zone: its name, and the minutes that it is ahead of universal time. -/
structure Zone where
  name : Text
  minutes : Int
  deriving DecidableEq, Repr, Inhabited

/-- A date, a time of day, or both. -/
inductive Moment where
  | date (d : Date)
  | time (t : TimeOfDay)
  | dateTime (d : Date) (t : TimeOfDay) (zone : Option Zone)
  deriving DecidableEq, Repr, Inhabited

/-! ## The calendar -/

/-- Whether a year has a 29th of February. -/
def isLeap (year : Nat) : Bool := year % 4 = 0 && (year % 100 != 0 || year % 400 = 0)

/-- The number of days of a month. -/
def daysOf (year month : Nat) : Nat :=
  if month = 2 then if isLeap year then 29 else 28
  else if month = 4 || month = 6 || month = 9 || month = 11 then 30
  else 31

/-- Whether a date is one of the calendar. -/
def Date.isValid (d : Date) : Bool :=
  1 ≤ d.year && d.year ≤ 9999 && 1 ≤ d.month && d.month ≤ 12 && 1 ≤ d.day && d.day ≤ daysOf d.year d.month

/-! ## For people -/

/-- A number filled up with zeros to a width. -/
def padded (width n : Nat) : Text :=
  let digits := Numeral.ofNat n
  List.replicate (width - digits.length) '0' ++ digits

/-- A date as text. -/
def Date.text (d : Date) : Text := padded 4 d.year ++ '-' :: padded 2 d.month ++ '-' :: padded 2 d.day

/-- A time as text. -/
def TimeOfDay.text (t : TimeOfDay) : Text :=
  padded 2 t.hour ++ ':' :: padded 2 t.minute ++ ':' :: padded 2 t.second
    ++ (if t.microsecond = 0 then [] else '.' :: padded 6 t.microsecond)

/-- The distance of a zone as text. -/
def Zone.text (z : Zone) : Text :=
  (if z.minutes < 0 then '-' else '+') :: padded 2 (z.minutes.natAbs / 60) ++ ':' :: padded 2 (z.minutes.natAbs % 60)

/-- A moment as text. -/
def Moment.text : Moment → Text
  | date d => d.text
  | time t => t.text
  | dateTime d t zone => d.text ++ ' ' :: t.text ++ (zone.map Zone.text).getD []

/-! ## In a log -/

/-- A call with its arguments, as a log shows it. -/
def callDetail (name : String) (arguments : List Text) : Text :=
  "datetime.".toList ++ name.toList ++ '(' :: Text.join ", ".toList arguments ++ [')']

/-- The numbers of a date. -/
def Date.fields (d : Date) : List Text := [d.year, d.month, d.day].map Numeral.ofNat

/-- The numbers of a time; what is finer than a minute is left out where it is zero. -/
def TimeOfDay.fields (t : TimeOfDay) : List Text :=
  let finer :=
    if t.microsecond != 0 then [t.second, t.microsecond] else if t.second != 0 then [t.second] else []
  (t.hour :: t.minute :: finer).map Numeral.ofNat

/-- A zone in a log. Its distance is a number of whole days, perhaps negative, and of seconds that
count forward from there. -/
def Zone.detail (z : Zone) : Text :=
  let seconds := 60 * z.minutes
  let distance :=
    if seconds = 0 then ['0']
    else if seconds < 0 then "days=-1, seconds=".toList ++ Numeral.ofInt (86400 + seconds)
    else "seconds=".toList ++ Numeral.ofInt seconds
  callDetail "timezone" [callDetail "timedelta" [distance], Text.quoted z.name]

/-- A moment in a log. -/
def Moment.detail : Moment → Text
  | date d => callDetail "date" d.fields
  | time t => callDetail "time" t.fields
  | dateTime d t zone =>
    callDetail "datetime" (d.fields ++ t.fields ++ (zone.map fun z => "tzinfo=".toList ++ z.detail).toList)

end SpecAtlas
