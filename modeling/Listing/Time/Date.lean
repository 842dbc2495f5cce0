/-! # Calendar dates

  Days counted from 1 January 1970 and dates of the proleptic
  Gregorian calendar (a year 0 before the year 1). Both directions
  count the year from 1 March, so that a leap day is its last day;
  a period of 400 such years has 146097 days.
-/

namespace Listing.Time

/-- A year, a month from 1 to 12 and a day from 1. -/
structure Date where
  /-- The year; negative before the year 0. -/
  year : Int
  /-- The month, 1 for January. -/
  month : Nat
  /-- The day of the month, from 1. -/
  day : Nat
deriving DecidableEq, Repr

namespace Date

/-! ### Valid dates -/

/-- The year has a 29 February. -/
def isLeapYear (year : Int) : Bool :=
  year % 4 == 0 && (year % 100 != 0 || year % 400 == 0)

/-- How many days the month has. -/
def monthLength (year : Int) (month : Nat) : Nat :=
  if month = 2 then (if isLeapYear year then 29 else 28)
  else if month = 4 ∨ month = 6 ∨ month = 9 ∨ month = 11 then 30
  else 31

/-- The month and the day exist. -/
def isValid (d : Date) : Bool :=
  1 ≤ d.month && d.month ≤ 12 && 1 ≤ d.day && d.day ≤ monthLength d.year d.month

/-! ### Counting days -/

/-- Days from 1 March of the year 0 to 1 January 1970. -/
def epochOffset : Int := 719468

/-- The number of the date's day; 1 January 1970 is day 0. -/
def toDays (d : Date) : Int :=
  let year := if d.month ≤ 2 then d.year - 1 else d.year
  let month : Int := (d.month + 9) % 12
  365 * year + year / 4 - year / 100 + year / 400 + (153 * month + 2) / 5 + d.day - 1 - epochOffset

/-- The year from 1 March that the day falls in, and the day's place in it. -/
def marchYear (days : Int) : Int × Int :=
  let shifted := days + epochOffset
  let inPeriod := shifted % 146097
  let century := min (inPeriod / 36524) 3
  let inCentury := inPeriod - 36524 * century
  let inFour := inCentury % 1461
  let single := min (inFour / 365) 3
  (400 * (shifted / 146097) + 100 * century + 4 * (inCentury / 1461) + single, inFour - 365 * single)

/-- The date of the day with the given number. -/
def ofDays (days : Int) : Date :=
  let (year, place) := marchYear days
  let month := (5 * place + 2) / 153
  { year := if month < 10 then year else year + 1
    month := (if month < 10 then month + 3 else month - 9).toNat
    day := (place - (153 * month + 2) / 5 + 1).toNat }

/-! ### Small facts -/

/-- The days of all earlier years and the place in the year make up the day's number. -/
theorem marchYear_eq (days : Int) :
    0 ≤ (marchYear days).2 ∧ (marchYear days).2 ≤ 365 ∧
      365 * (marchYear days).1 + (marchYear days).1 / 4 - (marchYear days).1 / 100 +
        (marchYear days).1 / 400 + (marchYear days).2 = days + epochOffset := by
  simp only [marchYear]
  generalize days + epochOffset = s
  generalize hc : min (s % 146097 / 36524) 3 = c
  generalize hf : (s % 146097 - 36524 * c) % 1461 = f
  generalize ha : min (f / 365) 3 = a
  generalize hq : (s % 146097 - 36524 * c) / 1461 = q
  generalize hy : 400 * (s / 146097) + 100 * c + 4 * q + a = y
  have h4 : y / 4 = 100 * (s / 146097) + 25 * c + q := by omega
  have h100 : y / 100 = 4 * (s / 146097) + c := by omega
  have h400 : y / 400 = s / 146097 := by omega
  omega

/-- A day has one date. -/
theorem toDays_ofDays (days : Int) : (ofDays days).toDays = days := by
  obtain ⟨h0, h1, h⟩ := marchYear_eq days
  unfold ofDays
  generalize marchYear days = place at *
  obtain ⟨y, p⟩ := place
  simp only at h0 h1 h ⊢
  obtain ⟨m, hm⟩ : ∃ m, (5 * p + 2) / 153 = m := ⟨_, rfl⟩
  rw [hm]
  by_cases h10 : m < 10
  · have hn : ¬ (m + 3).toNat ≤ 2 := by omega
    have hmonth : (((m + 3).toNat : Int) + 9) % 12 = m := by omega
    simp only [toDays, if_pos h10, if_neg hn, hmonth]
    omega
  · have hn : (m - 9).toNat ≤ 2 := by omega
    have hmonth : (((m - 9).toNat : Int) + 9) % 12 = m := by omega
    simp only [toDays, if_neg h10, if_pos hn, Int.add_sub_cancel, hmonth]
    omega

end Date
end Listing.Time
