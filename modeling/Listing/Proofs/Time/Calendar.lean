import Listing.Time.Timestamp

/-! # Days of the calendar

  The day with a given number has a month and a day of the month that
  exist. Counted from 1 March a year ends with its February, whose
  29th day is the 366th place of the year; only years before a leap
  day have that place.
-/

namespace Listing.Time.Date

/-- A year counted from 1 March has a 366th day only if a leap day ends it. -/
theorem isLeapYear_of_marchYear (days : Int) (h : (marchYear days).2 = 365) :
    isLeapYear ((marchYear days).1 + 1) = true := by
  simp only [marchYear] at h ⊢
  generalize days + epochOffset = s at h ⊢
  generalize hc : min (s % 146097 / 36524) 3 = c at h ⊢
  generalize hf : (s % 146097 - 36524 * c) % 1461 = f at h ⊢
  generalize ha : min (f / 365) 3 = a at h ⊢
  generalize hq : (s % 146097 - 36524 * c) / 1461 = q at h ⊢
  -- The 366th day is the last of four years, and the last of a century only if the century is
  -- the last of the period.
  have hlast : a = 3 ∧ f = 1460 := by omega
  have hcentury : q = 24 → c = 3 := by omega
  have hq24 : 0 ≤ q ∧ q ≤ 24 := by omega
  generalize hy : 400 * (s / 146097) + 100 * c + 4 * q + a + 1 = y
  have h4 : y % 4 = 0 := by omega
  by_cases h24 : q = 24
  · have h400 : y % 400 = 0 := by omega
    simp [isLeapYear, h4, h400]
  · have h100 : y % 100 ≠ 0 := by omega
    simp [isLeapYear, h4, h100]

/-- Every day has a month and a day of the month. -/
theorem isValid_ofDays (days : Int) : (ofDays days).isValid = true := by
  obtain ⟨h0, h1, -⟩ := marchYear_eq days
  have hleap := isLeapYear_of_marchYear days
  unfold ofDays
  generalize marchYear days = place at *
  obtain ⟨y, p⟩ := place
  simp only at h0 h1 hleap ⊢
  obtain ⟨m, hm⟩ : ∃ m, (5 * p + 2) / 153 = m := ⟨_, rfl⟩
  rw [hm]
  simp only [isValid, Bool.and_eq_true, decide_eq_true_eq]
  by_cases h10 : m < 10
  · -- March to December.
    rw [if_pos h10, if_pos h10]
    refine ⟨⟨⟨by omega, by omega⟩, by omega⟩, ?_⟩
    rw [monthLength, if_neg (by omega)]
    split <;> omega
  · rw [if_neg h10, if_neg h10]
    refine ⟨⟨⟨by omega, by omega⟩, by omega⟩, ?_⟩
    unfold monthLength
    by_cases h11 : m = 11
    · -- February.
      rw [if_pos (by omega)]
      split
      · omega
      · next hnot =>
        have hplace : p ≠ 365 := fun hp => hnot (hleap hp)
        omega
    · -- January.
      rw [if_neg (by omega), if_neg (by omega)]
      omega

end Listing.Time.Date
