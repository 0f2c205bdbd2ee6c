/-
# FrontEnd.Calendar — instants as dates and times of day.

An instant is a number of seconds since the first of January 1970, negative before it, with days
of 86400 seconds each.  Dates are those of the Gregorian calendar, carried back before its
introduction.  Counting years from the first of March puts the leap day last, so that month
lengths follow one linear rule and 146097 days make one 400-year cycle.
-/

namespace FrontEnd.Calendar

/-- A date with a time of day. -/
structure DateTime where
  year : Int
  month : Nat
  day : Nat
  hour : Nat
  minute : Nat
  second : Nat
  deriving DecidableEq, Repr

/-- The days of one 400-year cycle. -/
def daysPerCycle : Nat := 146097

/-- The days from the first of March of year zero to the first of January 1970. -/
def daysToEpoch : Nat := 719468

/-- The days in front of a year of a cycle. -/
def daysToYearOfCycle (year : Nat) : Nat := 365 * year + year / 4 - year / 100

/-- The year of a cycle that a day of the cycle belongs to. -/
def yearOfCycle (day : Nat) : Nat := (day - day / 1460 + day / 36524 - day / 146096) / 365

/-- The days from the first of March to a month, the months counted from March. -/
def daysFromMarch (month : Nat) : Nat := (153 * month + 2) / 5

/-- The month, counted from March, that a day of the year belongs to. -/
def monthFromMarch (day : Nat) : Nat := (5 * day + 2) / 153

/-- The date and time of an instant. -/
def ofSeconds (seconds : Int) : DateTime :=
  let clock := (seconds % 86400).toNat
  let days := seconds / 86400 + daysToEpoch
  let cycle := days / daysPerCycle
  let dayOfCycle := (days % daysPerCycle).toNat
  let year := yearOfCycle dayOfCycle
  let dayOfYear := dayOfCycle - daysToYearOfCycle year
  let fromMarch := monthFromMarch dayOfYear
  let month := if fromMarch < 10 then fromMarch + 3 else fromMarch - 9
  { year := cycle * 400 + year + (if month ≤ 2 then 1 else 0)
    month := month
    day := dayOfYear - daysFromMarch fromMarch + 1
    hour := clock / 3600
    minute := clock / 60 % 60
    second := clock % 60 }

/-- A number in decimal, filled up with zeros in front to at least `width` digits. -/
def padded (width n : Nat) : String :=
  let digits := toString n
  .ofList (List.replicate (width - digits.length) '0') ++ digits

/-- A year in digits, at least four of them.  A year that does not go into four digits shows its
sign, and so does a year before the year zero. -/
def yearDigits (year : Int) : String :=
  if year < 0 then "-" ++ padded 4 year.natAbs
  else if 9999 < year then "+" ++ padded 4 year.natAbs
  else padded 4 year.natAbs

/-- Date and time in digits: year, month and day joined by hyphens, then hour, minute and second
joined by colons. -/
def DateTime.display (t : DateTime) : String :=
  yearDigits t.year ++ "-" ++ padded 2 t.month ++ "-" ++ padded 2 t.day ++ " " ++
    padded 2 t.hour ++ ":" ++ padded 2 t.minute ++ ":" ++ padded 2 t.second

end FrontEnd.Calendar
