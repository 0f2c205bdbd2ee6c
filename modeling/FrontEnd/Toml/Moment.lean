/-
# FrontEnd.Toml.Moment — TOML dates and times.

A moment is a date, a time of day, or both, and with both there may be an offset.  Days exist in
their month, and a minute may have a sixty-first second.
-/
import FrontEnd.Toml.Text
import FrontEnd.Toml.Value

namespace FrontEnd.Toml.Moment

open Reader

/-- So many digits with a value between two bounds. -/
def field (width least most : Nat) : Reader Nat := do
  let n := Text.number 10 (← exactly width Char.isDigit)
  if least ≤ n ∧ n ≤ most then return n else failure

/-- The number of days of a month. -/
def daysOfMonth (year month : Nat) : Nat :=
  if month = 2 then
    if year % 4 = 0 ∧ (year % 100 ≠ 0 ∨ year % 400 = 0) then 29 else 28
  else if month = 4 ∨ month = 6 ∨ month = 9 ∨ month = 11 then 30
  else 31

/-- Year, month and day. -/
def readDate : Reader Date := do
  let year ← field 4 0 9999
  char '-'
  let month ← field 2 1 12
  char '-'
  let day ← field 2 1 (daysOfMonth year month)
  return ⟨year, month, day⟩

/-- Hour and minute. -/
def readClock : Reader (Nat × Nat) := do
  let hour ← field 2 0 23
  char ':'
  let minute ← field 2 0 59
  return (hour, minute)

/-- A time of day with seconds, perhaps with a fraction of one. -/
def readTime : Reader Time := do
  let (hour, minute) ← readClock
  char ':'
  let second ← field 2 0 60
  let fraction ← maybe (do char '.'; run1 Char.isDigit)
  return ⟨hour, minute, second, fraction.getD []⟩

/-- How many minutes local time is ahead. -/
def readOffset : Reader Int :=
  (do
    discard (satisfy fun c => c == 'Z' || c == 'z')
    return 0) <|>
  (do
    let sign ← satisfy fun c => c == '+' || c == '-'
    let (hour, minute) ← readClock
    let minutes : Int := 60 * hour + minute
    return if sign = '-' then -minutes else minutes)

/-- What may follow a date. -/
def readTimeOfDate : Reader (Time × Option Int) := do
  discard (satisfy fun c => c == 'T' || c == 't' || c == ' ')
  let t ← readTime
  let o ← maybe readOffset
  return (t, o)

/-- A date, a time or both. -/
def readMoment : Reader Moment :=
  (do
    let d ← readDate
    match ← maybe readTimeOfDate with
    | some (t, o) => return ⟨some d, some t, o⟩
    | none => return ⟨some d, none, none⟩) <|>
  (do
    let t ← readTime
    return ⟨none, some t, none⟩)

end FrontEnd.Toml.Moment
