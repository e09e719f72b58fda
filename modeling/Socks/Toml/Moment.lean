import Socks.Toml.Reader
import Socks.Text.Numeral

/-!
Dates and times: a date, a time of the day, or both, and with both an offset from
universal time. Days have to exist in their month, and a minute may have a leap
second.
-/
namespace Socks.Toml

open Reader Socks.Text

/-- A day of the calendar. -/
structure Date where
  /-- The year. -/
  year : Nat
  /-- The month, from one. -/
  month : Nat
  /-- The day of the month, from one. -/
  day : Nat
  deriving DecidableEq

/-- A time of the day. -/
structure Time where
  /-- The hour. -/
  hour : Nat
  /-- The minute. -/
  minute : Nat
  /-- The second. -/
  second : Nat
  /-- The digits of the fraction of the second. -/
  fraction : List Char
  deriving DecidableEq

/-- A date, a time, or both. -/
inductive Moment where
  /-- A day. -/
  | date (date : Date)
  /-- A time of some day. -/
  | time (time : Time)
  /-- A time of a day, and by how many minutes it is ahead of universal time, if
  that is said. -/
  | both (date : Date) (time : Time) (offset : Option Int)
  deriving DecidableEq

/-- Whether a year has a day more. -/
def isLeapYear (year : Nat) : Bool := year % 4 == 0 && (year % 100 != 0 || year % 400 == 0)

/-- The number of days of a month. -/
def daysIn (year month : Nat) : Nat :=
  match month with
  | 2 => if isLeapYear year then 29 else 28
  | 4 | 6 | 9 | 11 => 30
  | _ => 31

/-- A number of `count` decimal digits within bounds. -/
def boundedNumber (count low high : Nat) : Reader Nat := do
  let digits ← exactly (Numeral.isDigit 10) count
  let number := Numeral.value 10 digits
  if low ≤ number && number ≤ high then return number else failure

/-- A date. -/
def date : Reader Date := do
  let year ← boundedNumber 4 0 9999
  char '-'
  let month ← boundedNumber 2 1 12
  char '-'
  let day ← boundedNumber 2 1 (daysIn year month)
  return ⟨year, month, day⟩

/-- A time of the day. -/
def time : Reader Time := do
  let hour ← boundedNumber 2 0 23
  char ':'
  let minute ← boundedNumber 2 0 59
  char ':'
  let second ← boundedNumber 2 0 60
  let fraction ← optionally (do char '.'; run1 (Numeral.isDigit 10))
  return ⟨hour, minute, second, fraction.getD []⟩

/-- An offset in minutes. -/
def offset : Reader Int :=
  (do let _ ← oneOf fun c => c == 'Z' || c == 'z'; return 0) <|> do
    let behind ← (do char '-'; return true) <|> (do char '+'; return false)
    let hour ← boundedNumber 2 0 23
    char ':'
    let minute ← boundedNumber 2 0 59
    let minutes := Int.ofNat (60 * hour + minute)
    return if behind then -minutes else minutes

/-- What follows a date: its time, and the offset if there is one. -/
def timeOfDate : Reader (Time × Option Int) := do
  let _ ← oneOf fun c => c == 'T' || c == 't' || c == ' '
  let time ← time
  let offset ← optionally offset
  return (time, offset)

/-- A date, a time, or both. -/
def moment : Reader Moment :=
  (do
    let date ← date
    match ← optionally timeOfDate with
    | some (time, offset) => return .both date time offset
    | none => return .date date) <|>
  (do let time ← time; return .time time)

end Socks.Toml
