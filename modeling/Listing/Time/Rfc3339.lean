import Listing.Text.Search
import Listing.Text.Space
import Listing.Time.Timestamp

/-! # Timestamps as text

  The form of RFC 3339: date, `T`, time of day and zone. Written times
  are in UTC, with the fewest of 0, 3, 6 or 9 fraction digits that are
  exact; a leap second shows as second 60, and a year outside 0 to
  9999 carries a sign. Reading takes any zone, white space between the
  parts and numbers without leading zeros, and ignores fraction digits
  beyond the ninth.
-/

namespace Listing.Time

namespace Timestamp

/-! ### Writing -/

/-- The year in at least four digits, signed where four do not suffice. -/
def yearText (year : Int) : List Char :=
  if 0 ≤ year ∧ year ≤ 9999 then Text.digitsPadded 4 year.toNat
  else (if year < 0 then '-' else '+') :: Text.digitsPadded 4 year.natAbs

/-- Nanoseconds behind a point, in groups of three digits. -/
def secondFractionText (nanos : Nat) : List Char :=
  if nanos = 0 then []
  else if nanos % 1000000 = 0 then '.' :: Text.digitsPadded 3 (nanos / 1000000)
  else if nanos % 1000 = 0 then '.' :: Text.digitsPadded 6 (nanos / 1000)
  else '.' :: Text.digitsPadded 9 nanos

/-- The time in UTC, followed by the given name of the zone. -/
def chars (t : Timestamp) (zone : List Char) : List Char :=
  let clock := t.secondOfDay
  let second := clock % 60 + t.nanos / nanosPerSecond
  yearText t.date.year ++ '-' :: Text.digitsPadded 2 t.date.month ++
    '-' :: Text.digitsPadded 2 t.date.day ++
    'T' :: Text.digitsPadded 2 (clock / 3600) ++
    ':' :: Text.digitsPadded 2 (clock / 60 % 60) ++
    ':' :: Text.digitsPadded 2 second ++
    secondFractionText (t.nanos % nanosPerSecond) ++ zone

/-- The time with the zone as an offset. -/
def text (t : Timestamp) : String := .ofList (t.chars ['+', '0', '0', ':', '0', '0'])

/-- The time with the zone as the letter `Z`. -/
def zuluText (t : Timestamp) : String := .ofList (t.chars ['Z'])

end Timestamp

/-! ### Reading the parts -/

/-- The number in front, of at least one digit and at most `most`, and the rest. -/
def takeNumber (most : Nat) (s : List Char) : Option (Nat × List Char) :=
  let ds := (s.take most).takeWhile Char.isDigit
  if ds.isEmpty then none else some (Nat.ofDigitChars 10 ds 0, s.drop ds.length)

/-- White space, the character `c` and what follows. -/
def takeMark (c : Char) (s : List Char) : Option (List Char) :=
  match Text.trimStart s with
  | [] => none
  | d :: rest => if d = c then some rest else none

/-- A number after white space, from `low` to `high`, of one or two digits. -/
def takePart (low high : Nat) (s : List Char) : Option (Nat × List Char) := do
  let (n, rest) ← takeNumber 2 (Text.trimStart s)
  if low ≤ n ∧ n ≤ high then some (n, rest) else none

/-- A year: up to four digits, or a sign and any number of them. -/
def takeYear (s : List Char) : Option (Int × List Char) :=
  match Text.trimStart s with
  | '-' :: rest => (takeNumber rest.length rest).map fun (n, rest) => (-(n : Int), rest)
  | '+' :: rest => (takeNumber rest.length rest).map fun (n, rest) => ((n : Int), rest)
  | s => (takeNumber 4 s).map fun (n, rest) => ((n : Int), rest)

/-- Year, month and day. -/
def takeDate (s : List Char) : Option (Date × List Char) := do
  let (year, s) ← takeYear s
  let (month, s) ← takePart 1 12 (← takeMark '-' s)
  let (day, s) ← takePart 1 31 (← takeMark '-' s)
  some (⟨year, month, day⟩, s)

/-- The fraction of a second in nanoseconds; nothing stands for zero. -/
def takeFraction : List Char → Option (Nat × List Char)
  | '.' :: s => do
    let (n, rest) ← takeNumber 9 s
    -- The digits count from the left: `.5` is five hundred million.
    let count := s.length - rest.length
    some (n * Nat.pow 10 (9 - count), rest.dropWhile Char.isDigit)
  | s => some (0, s)

/-- Seconds since midnight and nanoseconds; second 60 is the leap second of second 59. -/
def takeClock (s : List Char) : Option ((Nat × Nat) × List Char) := do
  let (hour, s) ← takePart 0 23 s
  let (minute, s) ← takePart 0 59 (← takeMark ':' s)
  let (second, s) ← takePart 0 60 (← takeMark ':' s)
  let (nanos, s) ← takeFraction s
  -- 1 for second 60 and 0 for all others.
  let leap := second / 60
  some ((3600 * hour + 60 * minute + (second - leap), nanos + leap * nanosPerSecond), s)

/-- The value of exactly two digits. -/
def takePair : List Char → Option (Nat × List Char)
  | a :: b :: rest =>
    if a.isDigit && b.isDigit then some (Nat.ofDigitChars 10 [a, b] 0, rest) else none
  | _ => none

/-- A signed offset from UTC in seconds: hours, an optional colon and minutes. -/
def takeOffset : List Char → Option (Int × List Char)
  | [] => none
  | c :: rest => do
    let sign : Int ← if c = '+' then some 1 else if c = '-' ∨ c = '−' then some (-1) else none
    let (hours, rest) ← takePair rest
    let (minutes, rest) ← takePair (rest.dropWhile fun d => d == ':' || Text.isSpace d)
    if minutes < 60 ∧ hours < 24 then some (sign * (3600 * hours + 60 * minutes : Nat), rest)
    else none

/-- The zone: `Z`, the letters `UTC`, or an offset. -/
def takeZone (s : List Char) : Option (Int × List Char) :=
  match s with
  | c :: rest =>
    if c.toLower = 'z' then some (0, rest)
    else if (s.take 3).map Char.toLower = ['u', 't', 'c'] then some (0, s.drop 3)
    else takeOffset s
  | [] => none

/-! ### Reading the whole -/

/-- The time that `s` shows; none if it is malformed, or outside the calendar either in its
own zone or in UTC. -/
def Timestamp.read? (s : List Char) : Option Timestamp := do
  let (date, s) ← takeDate s
  let s ← match s with
    | c :: rest => if c = 'T' ∨ c = 't' ∨ c = ' ' then some rest else none
    | [] => none
  let ((clock, nanos), s) ← takeClock s
  let (offset, s) ← takeZone (Text.trimStart s)
  let seconds := 86400 * date.toDays + clock
  if date.isValid ∧ (Text.trimStart s).isEmpty ∧
      Timestamp.firstSecond ≤ seconds ∧ seconds ≤ Timestamp.lastSecond then
    Timestamp.of? (seconds - offset) nanos
  else none

end Listing.Time
