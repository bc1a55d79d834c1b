import Docent.Number.Whole

/-!
# Dates and times

A date of the Gregorian calendar, and a time on it with an optional distance from universal time.
-/

namespace Docent

structure Day where
  year : Nat
  month : Nat
  day : Nat
deriving DecidableEq, Repr

/-- A time on a day, with its distance from universal time in minutes, if it has one. -/
structure Moment where
  day : Day
  hour : Nat
  minute : Nat
  second : Nat
  microsecond : Nat
  offset : Option Int
deriving DecidableEq, Repr

def isLeapYear (year : Nat) : Bool :=
  year % 4 = 0 && (year % 100 != 0 || year % 400 = 0)

def daysInMonth (year month : Nat) : Nat :=
  if month = 2 then if isLeapYear year then 29 else 28
  else if month = 4 ∨ month = 6 ∨ month = 9 ∨ month = 11 then 30
  else 31

namespace Day

def text (d : Day) : String :=
  padded 4 d.year ++ "-" ++ padded 2 d.month ++ "-" ++ padded 2 d.day

def construction (d : Day) : String :=
  s!"datetime.date({d.year}, {d.month}, {d.day})"

end Day

namespace Moment

def offsetText (minutes : Int) : String :=
  let n := minutes.natAbs
  (if minutes < 0 then "-" else "+") ++ padded 2 (n / 60) ++ ":" ++ padded 2 (n % 60)

/-- The text of a moment, with a mark between day and time. -/
def textWith (mark : String) (m : Moment) : String :=
  m.day.text ++ mark ++ padded 2 m.hour ++ ":" ++ padded 2 m.minute ++ ":" ++ padded 2 m.second ++
    (if m.microsecond = 0 then "" else "." ++ padded 6 m.microsecond) ++
    (m.offset.map offsetText).getD ""

def offsetConstruction (minutes : Int) : String :=
  if minutes = 0 then "datetime.timezone.utc"
  else if 0 < minutes then
    s!"datetime.timezone(datetime.timedelta(seconds={minutes * 60}))"
  else
    s!"datetime.timezone(datetime.timedelta(days=-1, seconds={86400 + minutes * 60}))"

/-- The text of a moment as a construction; idle seconds are left out. -/
def construction (m : Moment) : String :=
  let seconds :=
    if m.microsecond != 0 then s!", {m.second}, {m.microsecond}"
    else if m.second != 0 then s!", {m.second}"
    else ""
  let zone := (m.offset.map fun o => ", tzinfo=" ++ offsetConstruction o).getD ""
  s!"datetime.datetime({m.day.year}, {m.day.month}, {m.day.day}, {m.hour}, {m.minute}" ++
    seconds ++ zone ++ ")"

end Moment

end Docent
