import Listing.Text.Numeral

/-! # Durations

  A signed length of time, exact to the nanosecond, of at most
  `2 ^ 63 - 1` milliseconds in either direction. Arithmetic is exact
  and has no result where it would leave that range.
-/

namespace Listing.Time

/-- How many nanoseconds a second has. -/
def nanosPerSecond : Nat := 1000000000

/-- The longest duration, in nanoseconds. -/
def Duration.limit : Int := 9223372036854775807000000

/-- A length of time. -/
structure Duration where
  /-- The whole length in nanoseconds. -/
  nanos : Int
  /-- The length is within the limit. -/
  inRange : -Duration.limit ≤ nanos ∧ nanos ≤ Duration.limit
deriving DecidableEq, Repr

namespace Duration

/-! ### Building -/

/-- The duration of `n` nanoseconds, if it is within the limit. -/
def ofNanos? (n : Int) : Option Duration :=
  if h : -limit ≤ n ∧ n ≤ limit then some ⟨n, h⟩ else none

/-- The duration of `n` seconds, if it is within the limit. -/
def ofSeconds? (n : Int) : Option Duration := ofNanos? (n * nanosPerSecond)

/-- The duration of whole seconds and of nanoseconds in the next second, if there are so many in
a second and the whole is within the limit. -/
def ofParts? (seconds : Int) (nanos : Nat) : Option Duration :=
  if nanos < nanosPerSecond then ofNanos? (seconds * nanosPerSecond + nanos) else none

/-- No time at all. -/
def zero : Duration := ⟨0, by decide⟩

/-! ### Arithmetic -/

/-- The sum, if it is within the limit. -/
def add? (a b : Duration) : Option Duration := ofNanos? (a.nanos + b.nanos)

/-- The difference, if it is within the limit. -/
def sub? (a b : Duration) : Option Duration := ofNanos? (a.nanos - b.nanos)

/-- The same length in the other direction. -/
def neg (a : Duration) : Duration :=
  ⟨-a.nanos, by have := a.inRange; constructor <;> omega⟩

/-! ### Parts -/

/-- The whole seconds, rounded toward zero. -/
def wholeSeconds (d : Duration) : Int := d.nanos.tdiv nanosPerSecond

/-- The nanoseconds beyond the whole seconds, with the sign of the duration. -/
def subsecondNanos (d : Duration) : Int := d.nanos.tmod nanosPerSecond

/-! ### Text -/

/-- A decimal point and `nanos` billionths without zeros at the end; nothing for zero. -/
def fractionText (nanos : Nat) : List Char :=
  if nanos = 0 then []
  else '.' :: ((Text.digitsPadded 9 nanos).reverse.dropWhile (· == '0')).reverse

/-- The seconds in ISO 8601 form, with a minus sign in front when negative. -/
def text (d : Duration) : String :=
  let size := d.nanos.natAbs
  let sign := if d.nanos < 0 then ['-'] else []
  let body :=
    if size = 0 then ['0', 'D']
    else 'T' :: Text.digits (size / nanosPerSecond) ++ fractionText (size % nanosPerSecond) ++ ['S']
  .ofList (sign ++ 'P' :: body)

/-! ### Small facts -/

@[ext] theorem ext {a b : Duration} (h : a.nanos = b.nanos) : a = b := by
  cases a; cases b; simp_all

theorem ofNanos?_nanos (d : Duration) : ofNanos? d.nanos = some d := by
  simp [ofNanos?, d.inRange]

theorem ofNanos?_eq_some_iff {n : Int} {d : Duration} : ofNanos? n = some d ↔ d.nanos = n := by
  constructor
  · intro h
    unfold ofNanos? at h
    split at h
    · cases h; rfl
    · cases h
  · rintro rfl; exact ofNanos?_nanos d

/-- The two parts make up the whole. -/
theorem wholeSeconds_add_subsecondNanos (d : Duration) :
    d.wholeSeconds * nanosPerSecond + d.subsecondNanos = d.nanos := by
  rw [Int.mul_comm]; exact Int.mul_tdiv_add_tmod _ _

end Duration
end Listing.Time
