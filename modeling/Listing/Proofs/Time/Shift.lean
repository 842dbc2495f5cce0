import Listing.Time.Timestamp

/-! # Times and durations as integers

  A duration is a number of nanoseconds. So is a time outside leap
  seconds, counted from the start of 1970. On these numbers a shift is
  an addition, the way from one time to another a difference, and the
  earlier of two times is the smaller number. A sum or a difference is
  missing only where its number is out of range.
-/

namespace Listing.Time

/-! ### Durations -/

namespace Duration

/-- The numbers of nanoseconds that durations have. -/
def InRange (n : Int) : Prop := -limit ≤ n ∧ n ≤ limit

theorem exists_nanos_eq_iff {n : Int} : (∃ d : Duration, d.nanos = n) ↔ InRange n := by
  constructor
  · rintro ⟨d, rfl⟩
    exact d.inRange
  · intro h
    exact ⟨⟨n, h⟩, rfl⟩

end Duration

/-! ### Times outside leap seconds -/

namespace Timestamp

variable {a b t : Timestamp} {d : Duration}

/-- The nanoseconds from the start of 1970 to the time, those of leap seconds before it apart. -/
def total (t : Timestamp) : Int := t.seconds * nanosPerSecond + t.nanos

/-- The numbers of nanoseconds that times outside leap seconds have. -/
def InCalendar (n : Int) : Prop :=
  firstSecond * nanosPerSecond ≤ n ∧ n < (lastSecond + 1) * nanosPerSecond

theorem inLeapSecond_eq_false_iff : t.inLeapSecond = false ↔ t.nanos < nanosPerSecond := by
  simp [inLeapSecond]

/-- Every number within the calendar has its time. -/
theorem exists_total_eq_iff {n : Int} :
    (∃ t : Timestamp, t.inLeapSecond = false ∧ t.total = n) ↔ InCalendar n := by
  constructor
  · rintro ⟨t, ht, rfl⟩
    obtain ⟨hfirst, hlast, -, -⟩ := t.valid
    rw [inLeapSecond_eq_false_iff] at ht
    simp only [InCalendar, total, firstSecond, lastSecond, nanosPerSecond] at *
    omega
  · -- The seconds are rounded down, before 1970 as well, so what is left goes forth.
    intro h
    have hvalid : Valid (n / nanosPerSecond) (n % nanosPerSecond).toNat := by
      simp only [InCalendar, Valid, firstSecond, lastSecond, nanosPerSecond] at *
      omega
    refine ⟨⟨_, _, hvalid⟩, ?_, ?_⟩
    · rw [inLeapSecond_eq_false_iff]
      simp only [nanosPerSecond]
      omega
    · simp only [total, nanosPerSecond]
      omega

/-- Outside leap seconds there is one time of a number. -/
theorem eq_of_total_eq (ha : a.inLeapSecond = false) (hb : b.inLeapSecond = false)
    (h : a.total = b.total) : a = b := by
  rw [inLeapSecond_eq_false_iff] at ha hb
  simp only [total, nanosPerSecond] at *
  apply Timestamp.ext
  · omega
  · omega

/-! ### Shifts -/

theorem ofTotal?_eq_some_iff {seconds nanos : Int} :
    ofTotal? seconds nanos = some t ↔
      t.inLeapSecond = false ∧ t.total = seconds * nanosPerSecond + nanos := by
  rw [ofTotal?, of?_eq_some_iff, inLeapSecond_eq_false_iff]
  simp only [total, nanosPerSecond]
  omega

theorem add?_eq_some_iff (ha : a.inLeapSecond = false) :
    a.add? d = some t ↔ t.inLeapSecond = false ∧ t.total = a.total + d.nanos := by
  have htotal : a.total + d.nanos = a.seconds * nanosPerSecond + (a.nanos + d.nanos) :=
    Int.add_assoc ..
  rw [add?, if_neg (by simp [ha]), ofTotal?_eq_some_iff, htotal]

/-! ### Differences and order -/

theorem nanos_since (ha : a.inLeapSecond = false) (hb : b.inLeapSecond = false) :
    (a.since b).nanos = a.total - b.total := by
  have hleap : leapBetween a b = 0 := by simp [leapBetween, ha, hb]
  show nanosSince a b = _
  simp only [nanosSince, hleap, total, nanosPerSecond]
  omega

/-- Two integers are ordered as their difference is to zero. -/
theorem compare_sub_zero (m n : Int) : compare (m - n) 0 = compare m n := by
  rcases Int.lt_trichotomy m n with h | h | h
  · rw [Std.compare_eq_lt.mpr h, Std.compare_eq_lt.mpr (by omega)]
  · rw [Std.compare_eq_iff_eq.mpr h, Std.compare_eq_iff_eq.mpr (by omega)]
  · rw [Std.compare_eq_gt.mpr h, Std.compare_eq_gt.mpr (by omega)]

/-- Of two times outside leap seconds the one with the smaller number is earlier. -/
theorem order_eq (ha : a.inLeapSecond = false) (hb : b.inLeapSecond = false) :
    a.order b = compare a.total b.total := by
  rw [inLeapSecond_eq_false_iff] at ha hb
  unfold order
  simp only [total, nanosPerSecond] at *
  -- The seconds decide, and where they are the same the nanoseconds do.
  rcases Int.lt_trichotomy a.seconds b.seconds with h | h | h
  · have htotal : a.seconds * (1000000000 : Nat) + a.nanos <
        b.seconds * (1000000000 : Nat) + b.nanos := by omega
    rw [Std.compare_eq_lt.mpr h, Std.compare_eq_lt.mpr htotal]
    rfl
  · rw [Std.compare_eq_iff_eq.mpr h, h]
    show compare a.nanos b.nanos = _
    rcases Nat.lt_trichotomy a.nanos b.nanos with hn | hn | hn
    · rw [Std.compare_eq_lt.mpr hn, Std.compare_eq_lt.mpr (by omega)]
    · rw [Std.compare_eq_iff_eq.mpr hn, Std.compare_eq_iff_eq.mpr (by omega)]
    · rw [Std.compare_eq_gt.mpr hn, Std.compare_eq_gt.mpr (by omega)]
  · have htotal : b.seconds * (1000000000 : Nat) + b.nanos <
        a.seconds * (1000000000 : Nat) + a.nanos := by omega
    rw [Std.compare_eq_gt.mpr h, Std.compare_eq_gt.mpr htotal]
    rfl

end Timestamp
end Listing.Time
