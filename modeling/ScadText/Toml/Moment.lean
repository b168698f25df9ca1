/-!
# Dates and times of day

## Main definitions

* `Date`, `Clock`: a day of the calendar, and a time of day to the microsecond.
* `Date.isValid`: whether the calendar has such a day.
* `Date.render`, `Clock.render`, `renderOffset`: the texts that stand in messages.
-/

namespace ScadText.Toml

structure Date where
  year : Nat
  month : Nat
  day : Nat
  deriving DecidableEq, Repr

structure Clock where
  hour : Nat
  minute : Nat
  second : Nat
  microsecond : Nat
  deriving DecidableEq, Repr

def isLeapYear (year : Nat) : Bool :=
  year % 4 == 0 && (year % 100 != 0 || year % 400 == 0)

def daysInMonth (year month : Nat) : Nat :=
  if month = 2 then (if isLeapYear year then 29 else 28)
  else if [4, 6, 9, 11].contains month then 30
  else 31

/-- The calendar starts with the year one. -/
def Date.isValid (date : Date) : Bool :=
  1 ≤ date.year && 1 ≤ date.month && date.month ≤ 12 && 1 ≤ date.day &&
    date.day ≤ daysInMonth date.year date.month

/-- A number with at least so many digits. -/
def padded (width n : Nat) : String := String.ofList ((Nat.toDigits 10 n).leftpad width '0')

def Date.render (date : Date) : String :=
  padded 4 date.year ++ "-" ++ padded 2 date.month ++ "-" ++ padded 2 date.day

/-- A fraction of a second is shown only if there is one. -/
def Clock.render (clock : Clock) : String :=
  padded 2 clock.hour ++ ":" ++ padded 2 clock.minute ++ ":" ++ padded 2 clock.second ++
    if clock.microsecond = 0 then "" else "." ++ padded 6 clock.microsecond

/-- An offset from universal time, which is given in minutes. -/
def renderOffset (offset : Int) : String :=
  (if offset < 0 then "-" else "+") ++ padded 2 (offset.natAbs / 60) ++ ":" ++
    padded 2 (offset.natAbs % 60)

end ScadText.Toml
