import Listing.Time.Date
import Listing.Time.Duration

/-! # Points in time

  A timestamp is a second, counted from the start of 1970 in UTC, and
  nanoseconds in it. The last second of a minute may hold twice as
  many nanoseconds as others: the second half is a leap second. A
  duration added to a time outside leap seconds passes over all leap
  seconds as if they were not there; from inside a leap second it
  first leaves it, unless it is too short for that.
-/

namespace Listing.Time

/-- The start of the year -262143, in seconds. -/
def Timestamp.firstSecond : Int := -8334601228800

/-- The last second of the year 262142. -/
def Timestamp.lastSecond : Int := 8210266876799

/-- The second is one of the calendar, and only the last of a minute is doubled. -/
def Timestamp.Valid (seconds : Int) (nanos : Nat) : Prop :=
  Timestamp.firstSecond ≤ seconds ∧ seconds ≤ Timestamp.lastSecond ∧
    nanos < 2 * nanosPerSecond ∧ (nanosPerSecond ≤ nanos → seconds % 60 = 59)

instance (seconds : Int) (nanos : Nat) : Decidable (Timestamp.Valid seconds nanos) :=
  inferInstanceAs (Decidable (_ ∧ _ ∧ _ ∧ (_ → _)))

/-- A point in time, in UTC. -/
structure Timestamp where
  /-- Whole seconds since the start of 1970. -/
  seconds : Int
  /-- Nanoseconds in that second; from `nanosPerSecond` on they are in its leap second. -/
  nanos : Nat
  /-- The second and its nanoseconds exist. -/
  valid : Timestamp.Valid seconds nanos
deriving DecidableEq, Repr

namespace Timestamp

/-- The timestamp with these parts, if they exist. -/
def of? (seconds : Int) (nanos : Nat) : Option Timestamp :=
  if h : Valid seconds nanos then some ⟨seconds, nanos, h⟩ else none

/-! ### Parts -/

/-- The timestamp is inside a leap second. -/
def inLeapSecond (t : Timestamp) : Bool := nanosPerSecond ≤ t.nanos

/-- The date in UTC. -/
def date (t : Timestamp) : Date := .ofDays (t.seconds / 86400)

/-- Seconds since midnight in UTC. -/
def secondOfDay (t : Timestamp) : Nat := (t.seconds % 86400).toNat

/-! ### Order -/

/-- Earlier, the same or later. -/
def order (a b : Timestamp) : Ordering :=
  (compare a.seconds b.seconds).then (compare a.nanos b.nanos)

/-! ### Arithmetic -/

/-- The time `nanos` nanoseconds after the start of the given second, leap seconds apart. -/
def ofTotal? (seconds nanos : Int) : Option Timestamp :=
  let total := seconds * nanosPerSecond + nanos
  of? (total / nanosPerSecond) (total % nanosPerSecond).toNat

/-- The time after the duration `d`; none outside the calendar. A time in a leap second
counts as the second before it when it is left forwards, and as the second after it
when it is left backwards. -/
def add? (t : Timestamp) (d : Duration) : Option Timestamp :=
  if t.inLeapSecond then
    let whole := d.wholeSeconds
    let inSecond := t.nanos + d.subsecondNanos
    if 0 < whole ∨ (whole = 0 ∧ 2 * nanosPerSecond ≤ inSecond) then
      -- Left forwards: count from the same place in the ordinary second before.
      ofTotal? t.seconds (t.nanos - nanosPerSecond + d.nanos)
    else if whole < 0 then
      -- Left backwards by a second or more: count from the second after.
      ofTotal? (t.seconds + 1) (t.nanos - nanosPerSecond + d.nanos)
    else
      -- Too short to leave: the sum is still a number of nanoseconds in this second.
      of? t.seconds inSecond.toNat
  else ofTotal? t.seconds (t.nanos + d.nanos)

/-- The time before the duration `d`. -/
def sub? (t : Timestamp) (d : Duration) : Option Timestamp := t.add? d.neg

/-- Leap seconds that lie between two times of day: one that the earlier time of day is in
counts in full, one that the later is in counts by its nanoseconds alone. -/
def leapBetween (a b : Timestamp) : Int :=
  if b.secondOfDay < a.secondOfDay ∧ b.inLeapSecond then 1
  else if a.secondOfDay < b.secondOfDay ∧ a.inLeapSecond then -1
  else 0

/-- Nanoseconds from `b` to `a`. -/
def nanosSince (a b : Timestamp) : Int :=
  (a.seconds - b.seconds + leapBetween a b) * nanosPerSecond + (a.nanos - b.nanos)

theorem nanosSince_inRange (a b : Timestamp) :
    -Duration.limit ≤ nanosSince a b ∧ nanosSince a b ≤ Duration.limit := by
  obtain ⟨ha, ha', hna, -⟩ := a.valid
  obtain ⟨hb, hb', hnb, -⟩ := b.valid
  have hl : -1 ≤ leapBetween a b ∧ leapBetween a b ≤ 1 := by
    unfold leapBetween; split
    · decide
    · split <;> decide
  simp only [nanosSince, nanosPerSecond, firstSecond, lastSecond, Duration.limit] at *
  omega

/-- The duration from `b` to `a`. -/
def since (a b : Timestamp) : Duration := ⟨nanosSince a b, nanosSince_inRange a b⟩

/-! ### Small facts -/

@[ext] theorem ext {a b : Timestamp} (hs : a.seconds = b.seconds) (hn : a.nanos = b.nanos) :
    a = b := by
  cases a; cases b; simp_all

theorem of?_self (t : Timestamp) : of? t.seconds t.nanos = some t := by
  simp [of?, t.valid]

theorem of?_eq_some_iff {s : Int} {n : Nat} {t : Timestamp} :
    of? s n = some t ↔ t.seconds = s ∧ t.nanos = n := by
  constructor
  · intro h
    unfold of? at h
    split at h
    · cases h; exact ⟨rfl, rfl⟩
    · cases h
  · rintro ⟨rfl, rfl⟩; exact of?_self t

/-- The calendar starts and ends with a whole year. -/
theorem firstSecond_eq : firstSecond = Date.toDays ⟨-262143, 1, 1⟩ * 86400 := by decide

theorem lastSecond_eq : lastSecond = Date.toDays ⟨262143, 1, 1⟩ * 86400 - 1 := by decide

end Timestamp
end Listing.Time
