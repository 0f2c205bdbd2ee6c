/-
# FrontEnd.Proofs.Calendar — dates by counting days.

`Calendar.ofSeconds` finds the date of an instant by division, in years that start in March.  The
other way round, a date is counted up as anybody would count it: the days of the years in front of
it, of the months in front of it, and of its month.  Leap years and the lengths of months come in
here as the calendar has them.

The two undo each other (`ofSeconds_eq_iff`): every instant has one date and time of day, and
`ofSeconds` finds it.  The written form of date and time is then told from the calendar alone
(`isStamp_iff`).
-/
import FrontEnd.Calendar
import Mathlib.Order.Lattice
import Mathlib.Order.Monotone.Basic

namespace FrontEnd.Calendar

/-! ## Years and months -/

/-- Every fourth year is a leap year, but of the years that end a century only every fourth. -/
def IsLeap (year : Int) : Prop := year % 4 = 0 ∧ (year % 100 = 0 → year % 400 = 0)

instance (year : Int) : Decidable (IsLeap year) := inferInstanceAs (Decidable (_ ∧ _))

def daysOfYear (year : Int) : Nat := if IsLeap year then 366 else 365

def daysOfMonth (year : Int) (month : Nat) : Nat :=
  if month = 2 then if IsLeap year then 29 else 28
  else if month = 4 ∨ month = 6 ∨ month = 9 ∨ month = 11 then 30
  else 31

/-- The days from the first of January of the year one to that of another year; they are negative
for the years before. -/
def daysToYear (year : Int) : Int :=
  365 * (year - 1) + (year - 1) / 4 - (year - 1) / 100 + (year - 1) / 400

/-- The days from the first of January to the first of a month. -/
def daysToMonth (year : Int) : Nat → Nat
  | 0 | 1 => 0
  | month + 2 => daysToMonth year (month + 1) + daysOfMonth year (month + 1)

/-- Each year adds its days. -/
theorem daysToYear_succ (year : Int) :
    daysToYear (year + 1) = daysToYear year + daysOfYear year := by
  by_cases h : IsLeap year
  · rw [daysOfYear, if_pos h]
    unfold daysToYear
    unfold IsLeap at h
    omega
  · rw [daysOfYear, if_neg h]
    unfold daysToYear
    unfold IsLeap at h
    omega

/-- The leap days repeat with the cycle. -/
theorem daysToYear_cycle (cycle year : Int) :
    daysToYear (cycle * 400 + year) = cycle * daysPerCycle + daysToYear year := by
  unfold daysToYear daysPerCycle
  omega

theorem daysToYear_next_le {a b : Int} (h : a < b) : daysToYear (a + 1) ≤ daysToYear b := by
  unfold daysToYear
  omega

theorem daysToMonth_next_le (year : Int) {a b : Nat} (h : a < b) :
    daysToMonth year (a + 1) ≤ daysToMonth year b := by
  have hmono : Monotone (daysToMonth year) := by
    apply monotone_nat_of_le_succ
    intro n
    cases n with
    | zero => exact Nat.le_refl _
    | succ n => exact Nat.le_add_right _ _
  exact hmono h

/-- The twelve months make up the year. -/
theorem daysToMonth_thirteen (year : Int) : daysToMonth year 13 = daysOfYear year := by
  unfold daysOfYear
  split <;> simp [daysToMonth, daysOfMonth, *]

/-! ## Counting up to a date -/

/-- The date exists, and so does the time of day. -/
structure DateTime.IsValid (t : DateTime) : Prop where
  month_pos : 1 ≤ t.month
  month_le : t.month ≤ 12
  day_pos : 1 ≤ t.day
  day_le : t.day ≤ daysOfMonth t.year t.month
  hour_lt : t.hour < 24
  minute_lt : t.minute < 60
  second_lt : t.second < 60

/-- The day of a date, when the first of January of the year one is the day zero. -/
def DateTime.dayNumber (t : DateTime) : Int :=
  daysToYear t.year + daysToMonth t.year t.month + (t.day - 1 : Nat)

/-- The seconds from the epoch to a date and time of day. -/
def DateTime.toSeconds (t : DateTime) : Int :=
  (t.dayNumber - daysToYear 1970) * 86400 + t.hour * 3600 + t.minute * 60 + t.second

/-- What lies between a beginning and the next one lies there for no other beginning. -/
theorem eq_of_between {ι α : Type} [LinearOrder ι] [LinearOrder α] (start : ι → α) (next : ι → ι)
    (hnext : ∀ {i j}, i < j → start (next i) ≤ start j) {n : α} {i j : ι} (hi : start i ≤ n)
    (hi' : n < start (next i)) (hj : start j ≤ n) (hj' : n < start (next j)) : i = j := by
  rcases lt_trichotomy i j with hlt | heq | hgt
  · exact absurd (hi'.trans_le ((hnext hlt).trans hj)) (lt_irrefl n)
  · exact heq
  · exact absurd (hj'.trans_le ((hnext hgt).trans hi)) (lt_irrefl n)

namespace DateTime

variable {t t' : DateTime}

theorem IsValid.daysToMonth_succ (h : t.IsValid) :
    daysToMonth t.year (t.month + 1) = daysToMonth t.year t.month + daysOfMonth t.year t.month := by
  obtain ⟨m, hm⟩ := Nat.exists_eq_add_of_le' h.month_pos
  rw [hm]
  rfl

/-- A date lies in its year. -/
theorem IsValid.dayNumber_lt (h : t.IsValid) : t.dayNumber < daysToYear (t.year + 1) := by
  have hmonths := daysToMonth_next_le t.year (Nat.lt_succ_of_le h.month_le)
  have hday := h.day_le
  have hpos := h.day_pos
  rw [h.daysToMonth_succ, daysToMonth_thirteen] at hmonths
  rw [daysToYear_succ, dayNumber]
  omega

theorem daysToYear_le_dayNumber (t : DateTime) : daysToYear t.year ≤ t.dayNumber := by
  unfold dayNumber
  omega

/-- No two dates fall on one day. -/
theorem IsValid.date_eq (h : t.IsValid) (h' : t'.IsValid) (hday : t.dayNumber = t'.dayNumber) :
    t.year = t'.year ∧ t.month = t'.month ∧ t.day = t'.day := by
  have hyear : t.year = t'.year := by
    refine eq_of_between daysToYear (· + 1) daysToYear_next_le t.daysToYear_le_dayNumber
      h.dayNumber_lt ?_ ?_
    · rw [hday]
      exact t'.daysToYear_le_dayNumber
    · rw [hday]
      exact h'.dayNumber_lt
  have hpos := h.day_pos
  have hpos' := h'.day_pos
  have hle := h.day_le
  have hle' := h'.day_le
  have hsucc := h.daysToMonth_succ
  have hsucc' := h'.daysToMonth_succ
  unfold dayNumber at hday
  rw [← hyear] at hday hle' hsucc'
  have hmonth : t.month = t'.month := by
    refine eq_of_between (daysToMonth t.year) (· + 1) (daysToMonth_next_le t.year)
      (n := daysToMonth t.year t.month + (t.day - 1)) ?_ ?_ ?_ ?_
    · omega
    · omega
    · omega
    · omega
  rw [hmonth] at hday
  exact ⟨hyear, hmonth, by omega⟩

/-- Counting tells dates and times apart. -/
theorem IsValid.eq_of_toSeconds (h : t.IsValid) (h' : t'.IsValid)
    (hseconds : t.toSeconds = t'.toSeconds) : t = t' := by
  have := h.hour_lt
  have := h'.hour_lt
  have := h.minute_lt
  have := h'.minute_lt
  have := h.second_lt
  have := h'.second_lt
  unfold toSeconds at hseconds
  obtain ⟨hyear, hmonth, hday⟩ := h.date_eq h' (by omega)
  obtain ⟨year, month, day, hour, minute, second⟩ := t
  obtain ⟨year', month', day', hour', minute', second'⟩ := t'
  simp only [mk.injEq] at *
  omega

end DateTime

/-! ## The date of an instant -/

/-- Later days of a cycle belong to the same year of it or to a later one. -/
theorem yearOfCycle_mono : Monotone yearOfCycle := by
  apply monotone_nat_of_le_succ
  intro day
  apply Nat.div_le_div_right
  omega

/-- The first day of each year of a cycle belongs to that year, and so does the last. -/
theorem yearOfCycle_first_last : ∀ year < 400,
    yearOfCycle (daysToYearOfCycle year) = year ∧
      (year < 399 → yearOfCycle (daysToYearOfCycle (year + 1) - 1) = year) := by
  decide +kernel

theorem yearOfCycle_lt {day : Nat} (h : day < daysPerCycle) : yearOfCycle day < 400 := by
  have hle : yearOfCycle day ≤ yearOfCycle 146096 := yearOfCycle_mono (Nat.le_of_lt_succ h)
  exact Nat.lt_succ_of_le (hle.trans (by decide))

/-- The year of a cycle that a day belongs to has begun by then. -/
theorem daysToYearOfCycle_le {day : Nat} (h : day < daysPerCycle) :
    daysToYearOfCycle (yearOfCycle day) ≤ day := by
  have hyear := yearOfCycle_lt h
  apply Nat.le_of_not_lt
  intro hlt
  rcases hn : yearOfCycle day with _ | n
  · rw [hn] at hlt
    exact Nat.not_lt_zero day hlt
  · -- then the day comes no later than the last one of the year before
    rw [hn] at hlt hyear
    have hbefore : yearOfCycle day ≤ yearOfCycle (daysToYearOfCycle (n + 1) - 1) :=
      yearOfCycle_mono (Nat.le_sub_one_of_lt hlt)
    rw [(yearOfCycle_first_last n (by omega)).2 (by omega), hn] at hbefore
    omega

/-- The days of a cycle in front of a year, seen as a year that starts in March. -/
theorem daysToYearOfCycle_eq {year : Nat} (h : year < 400) :
    (daysToYearOfCycle year : Int) = daysToYear (year + 1) := by
  unfold daysToYearOfCycle daysToYear
  omega

/-- The year of a cycle that a day belongs to is not over.  Its leap day is that of the year it ends
in. -/
theorem lt_daysToYearOfCycle_add {day : Nat} (h : day < daysPerCycle) :
    day < daysToYearOfCycle (yearOfCycle day) + daysOfYear (yearOfCycle day + 1) := by
  have hyear := yearOfCycle_lt h
  have hstart := daysToYearOfCycle_eq hyear
  have hsucc := daysToYear_succ (yearOfCycle day + 1)
  rcases Nat.lt_or_ge (yearOfCycle day) 399 with hlt | hge
  · have hnext : (daysToYearOfCycle (yearOfCycle day + 1) : Int) =
        daysToYear (yearOfCycle day + 1 + 1) := daysToYearOfCycle_eq (by omega)
    have hday : day < daysToYearOfCycle (yearOfCycle day + 1) := by
      apply Nat.lt_of_not_le
      intro hle
      have hlater := yearOfCycle_mono hle
      rw [(yearOfCycle_first_last _ (by omega)).1] at hlater
      omega
    omega
  · have hlast : yearOfCycle day = 399 := by omega
    have hcycle : daysToYear (yearOfCycle day + 1 + 1) = daysPerCycle := by
      rw [hlast]
      decide
    omega

/-- The month, counted from March, that a day of the year belongs to has begun and is not over. -/
theorem daysFromMarch_le (day : Nat) : daysFromMarch (monthFromMarch day) ≤ day ∧
    day < daysFromMarch (monthFromMarch day + 1) := by
  unfold daysFromMarch monthFromMarch
  omega

/-- The months of a year are those of the year one or, in a leap year, those of the year four. -/
theorem exists_like (year : Int) : ∃ y ∈ [(1 : Int), 4], daysOfYear year = daysOfYear y ∧
    daysOfMonth year = daysOfMonth y ∧ daysToMonth year = daysToMonth y := by
  obtain ⟨y, hy, hleap⟩ : ∃ y ∈ [(1 : Int), 4], (IsLeap year ↔ IsLeap y) := by
    by_cases h : IsLeap year
    · exact ⟨4, by simp, iff_of_true h (by decide)⟩
    · exact ⟨1, by simp, iff_of_false h (by decide)⟩
  have hmonth : daysOfMonth year = daysOfMonth y := by
    funext month
    simp only [daysOfMonth, hleap]
  refine ⟨y, hy, ?_, hmonth, ?_⟩
  · simp only [daysOfYear, hleap]
  · funext month
    induction month using daysToMonth.induct with
    | case1 | case2 => rfl
    | case3 month ih => rw [daysToMonth, daysToMonth, ih, hmonth]

/-- From March to December a month lies as many days behind the first of March as its year says, and
goes on up to the next. -/
theorem march_to_december (year : Int) : ∀ m < 10,
    daysToMonth year (m + 3) + 306 = daysFromMarch m + daysOfYear year ∧
      daysFromMarch (m + 1) = daysFromMarch m + daysOfMonth year (m + 3) := by
  have hall : ∀ y ∈ [(1 : Int), 4], ∀ m < 10,
      daysToMonth y (m + 3) + 306 = daysFromMarch m + daysOfYear y ∧
        daysFromMarch (m + 1) = daysFromMarch m + daysOfMonth y (m + 3) := by decide
  obtain ⟨y, hy, hdays, hmonth, hmonths⟩ := exists_like year
  rw [hdays, hmonth, hmonths]
  exact hall y hy

/-- January and February lie behind the first of March of the year before, and that year, counted
from March, is over with February. -/
theorem january_february (year : Int) : ∀ m < 12, 10 ≤ m →
    daysToMonth year (m - 9) + 306 = daysFromMarch m ∧
      min (daysFromMarch (m + 1)) (daysOfYear year) =
        daysFromMarch m + daysOfMonth year (m - 9) := by
  have hall : ∀ y ∈ [(1 : Int), 4], ∀ m < 12, 10 ≤ m →
      daysToMonth y (m - 9) + 306 = daysFromMarch m ∧
        min (daysFromMarch (m + 1)) (daysOfYear y) =
          daysFromMarch m + daysOfMonth y (m - 9) := by decide
  obtain ⟨y, hy, hdays, hmonth, hmonths⟩ := exists_like year
  rw [hdays, hmonth, hmonths]
  exact hall y hy

theorem daysOfYear_cycle (cycle year : Int) :
    daysOfYear (cycle * 400 + year) = daysOfYear year := by
  have hyear := daysToYear_succ year
  have hlater := daysToYear_succ (cycle * 400 + year)
  have hstart := daysToYear_cycle cycle year
  have hend := daysToYear_cycle cycle (year + 1)
  rw [← Int.add_assoc] at hend
  omega

/-- The date of a day of a cycle exists, and counting up to it gives the day.  The year one starts
306 days behind the first of March of the year zero. -/
theorem date_spec (cycle : Int) {day : Nat} (hday : day < daysPerCycle) :
    let dayOfYear := day - daysToYearOfCycle (yearOfCycle day)
    let fromMarch := monthFromMarch dayOfYear
    let month := if fromMarch < 10 then fromMarch + 3 else fromMarch - 9
    let year : Int := cycle * 400 + yearOfCycle day + (if month ≤ 2 then 1 else 0)
    let dayOfMonth := dayOfYear - daysFromMarch fromMarch
    1 ≤ month ∧ month ≤ 12 ∧ dayOfMonth < daysOfMonth year month ∧
      daysToYear year + daysToMonth year month + dayOfMonth + 306 = cycle * daysPerCycle + day := by
  intro dayOfYear fromMarch month year dayOfMonth
  have hbegun := daysToYearOfCycle_le hday
  have hstart := daysToYearOfCycle_eq (yearOfCycle_lt hday)
  have hover : dayOfYear < daysOfYear (cycle * 400 + (yearOfCycle day + 1)) := by
    have hlt := lt_daysToYearOfCycle_add hday
    rw [daysOfYear_cycle]
    omega
  have hyear := daysToYear_cycle cycle (yearOfCycle day + 1)
  rw [← Int.add_assoc] at hover hyear
  obtain ⟨hmonth, hnext⟩ : daysFromMarch fromMarch ≤ dayOfYear ∧
      dayOfYear < daysFromMarch (fromMarch + 1) := daysFromMarch_le dayOfYear
  have hlt : fromMarch < 12 := by
    have hle : daysOfYear (cycle * 400 + yearOfCycle day + 1) ≤ 366 := by
      unfold daysOfYear
      split <;> omega
    show monthFromMarch dayOfYear < 12
    unfold monthFromMarch
    omega
  by_cases h : fromMarch < 10
  · have hm : month = fromMarch + 3 := if_pos h
    have hy : year = cycle * 400 + yearOfCycle day := by
      show _ + (if month ≤ 2 then 1 else 0) = _
      rw [if_neg (by omega), Int.add_zero]
    obtain ⟨hdays, hlength⟩ := march_to_december year fromMarch h
    have hsucc := daysToYear_succ year
    rw [← hm] at hdays hlength
    rw [← hy] at hyear
    omega
  · have hm : month = fromMarch - 9 := if_neg h
    have hy : year = cycle * 400 + yearOfCycle day + 1 := by
      show _ + (if month ≤ 2 then 1 else 0) = _
      rw [if_pos (by omega)]
    obtain ⟨hdays, hlength⟩ := january_february year fromMarch hlt (by omega)
    rw [← hm] at hdays hlength
    rw [← hy] at hyear hover
    omega

/-- The date and time of an instant exist, and counting up to them gives the instant. -/
theorem ofSeconds_spec (seconds : Int) :
    (ofSeconds seconds).IsValid ∧ (ofSeconds seconds).toSeconds = seconds := by
  let days := seconds / 86400 + daysToEpoch
  let clock := (seconds % 86400).toNat
  have hlt : (days % daysPerCycle).toNat < daysPerCycle := by
    show (days % 146097).toNat < 146097
    omega
  have hclock : clock < 86400 := by omega
  obtain ⟨hpos, hle, hlength, hcount⟩ := date_spec (days / daysPerCycle) hlt
  constructor
  · constructor
    case month_pos => exact hpos
    case month_le => exact hle
    case day_pos => exact Nat.le_add_left 1 _
    case day_le => exact hlength
    case hour_lt => exact Nat.div_lt_of_lt_mul hclock
    case minute_lt => exact Nat.mod_lt _ (by decide)
    case second_lt => exact Nat.mod_lt _ (by decide)
  · have hday : (ofSeconds seconds).dayNumber + 306 =
        days / 146097 * 146097 + (days % 146097).toNat := hcount
    have hepoch : daysToYear 1970 + 306 = daysToEpoch := by decide
    show ((ofSeconds seconds).dayNumber - _) * 86400 + (clock / 3600 : Nat) * 3600 +
      (clock / 60 % 60 : Nat) * 60 + (clock % 60 : Nat) = seconds
    omega

/-- An instant is at the date and time of day that counting up to gives it, and at no other. -/
theorem ofSeconds_eq_iff {seconds : Int} {t : DateTime} :
    ofSeconds seconds = t ↔ t.IsValid ∧ t.toSeconds = seconds := by
  obtain ⟨hvalid, hcount⟩ := ofSeconds_spec seconds
  constructor
  · rintro rfl
    exact ⟨hvalid, hcount⟩
  · rintro ⟨ht, rfl⟩
    exact hvalid.eq_of_toSeconds ht hcount

/-- The last second of a leap day at the end of a century, and the second in front of the epoch. -/
example : ofSeconds 951868799 = ⟨2000, 2, 29, 23, 59, 59⟩ ∧
    ofSeconds (-1) = ⟨1969, 12, 31, 23, 59, 59⟩ := by decide

/-! ## The written form -/

/-- A number in decimal, with zeros in front of it where it has fewer digits than `width`. -/
def decimal (width n : Nat) : String := .ofList ((Nat.toDigits 10 n).leftpad width '0')

theorem padded_eq (width n : Nat) : padded width n = decimal width n := by
  apply String.toList_inj.mp
  have hdigits : (toString n).toList = Nat.toDigits 10 n := Nat.toList_repr
  have hlength : (toString n).length = (Nat.toDigits 10 n).length := by
    rw [← hdigits, String.length_toList]
  rw [padded, decimal, String.toList_append, String.toList_ofList, String.toList_ofList, hlength,
    hdigits]
  rfl

/-- A year in decimal, with at least four digits.  It has a sign unless it is one of the years from
zero to 9999. -/
inductive IsYear : Int → String → Prop
  | plain {n : Nat} : n ≤ 9999 → IsYear n (decimal 4 n)
  | late {n : Nat} : 9999 < n → IsYear n ("+" ++ decimal 4 n)
  | early {n : Nat} : 0 < n → IsYear (-n) ("-" ++ decimal 4 n)

theorem isYear_iff {year : Int} {text : String} : IsYear year text ↔ text = yearDigits year := by
  unfold yearDigits
  constructor
  · rintro (⟨h⟩ | ⟨h⟩ | ⟨h⟩)
    · rw [if_neg (by omega), if_neg (by omega), padded_eq, Int.natAbs_natCast]
    · rw [if_neg (by omega), if_pos (by omega), padded_eq, Int.natAbs_natCast]
    · rw [if_pos (by omega), padded_eq, Int.natAbs_neg, Int.natAbs_natCast]
  · rintro rfl
    rw [padded_eq]
    obtain ⟨n, rfl | rfl⟩ := Int.eq_nat_or_neg year
    · rw [Int.natAbs_natCast, if_neg (by omega)]
      split
      · exact .late (by omega)
      · exact .plain (by omega)
    · rw [Int.natAbs_neg, Int.natAbs_natCast]
      split
      · exact .early (by omega)
      · obtain rfl : n = 0 := by omega
        exact .plain (Nat.zero_le 9999)

/-- The text shows where the clock stands so many seconds after the epoch: year, month and day
joined by hyphens, then hour, minute and second joined by colons. -/
def IsStamp (seconds : Int) (text : String) : Prop :=
  ∃ (t : DateTime) (year : String), t.IsValid ∧ t.toSeconds = seconds ∧ IsYear t.year year ∧
    text = year ++ "-" ++ decimal 2 t.month ++ "-" ++ decimal 2 t.day ++ " " ++
      decimal 2 t.hour ++ ":" ++ decimal 2 t.minute ++ ":" ++ decimal 2 t.second

theorem isStamp_iff {seconds : Int} {text : String} :
    IsStamp seconds text ↔ text = (ofSeconds seconds).display := by
  unfold DateTime.display
  simp only [padded_eq]
  constructor
  · rintro ⟨t, year, hvalid, hseconds, hyear, rfl⟩
    rw [ofSeconds_eq_iff.mpr ⟨hvalid, hseconds⟩, isYear_iff.mp hyear]
  · rintro rfl
    obtain ⟨hvalid, hseconds⟩ := ofSeconds_spec seconds
    exact ⟨ofSeconds seconds, _, hvalid, hseconds, isYear_iff.mpr rfl, rfl⟩

end FrontEnd.Calendar
