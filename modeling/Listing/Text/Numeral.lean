/-! # Decimal numerals

  Writing gives the shortest run of digits; reading an unsigned 64-bit
  number goes from left to right and reports the first thing that is
  wrong: a character that is no digit, or a digit that takes the value
  past `2 ^ 64 - 1`.
-/

namespace Listing.Text

/-! ### Writing -/

/-- The digits of `n`, none of them superfluous. -/
def digits (n : Nat) : List Char := Nat.toDigits 10 n

/-- The digits of `n`, with zeros in front up to the given width. -/
def digitsPadded (width n : Nat) : List Char :=
  List.replicate (width - (digits n).length) '0' ++ digits n

/-- `n` in decimal. -/
def natText (n : Nat) : String := .ofList (digits n)

/-- `n` in decimal, with a minus sign when it is negative. -/
def intText (n : Int) : String :=
  if n < 0 then .ofList ('-' :: digits n.natAbs) else natText n.natAbs

/-! ### Reading -/

/-- Why a text is not an unsigned 64-bit number. -/
inductive NumeralFault
  /-- There is no character at all. -/
  | empty
  /-- A character is not a digit. -/
  | invalidDigit
  /-- The value does not fit. -/
  | tooLarge
deriving DecidableEq, Repr

/-- The wording of a fault. -/
def NumeralFault.message : NumeralFault → String
  | .empty => "cannot parse integer from empty string"
  | .invalidDigit => "invalid digit found in string"
  | .tooLarge => "number too large to fit in target type"

/-- Read on after digits of value `seen`. -/
def readDigits (seen : Nat) : List Char → Except NumeralFault UInt64
  | [] => .ok (.ofNat seen)
  | c :: rest =>
    if c.isDigit then
      -- `seen` fits already, so the first digit too many is noticed at once.
      let next := 10 * seen + (c.toNat - '0'.toNat)
      if next < UInt64.size then readDigits next rest else .error .tooLarge
    else .error .invalidDigit

/-- Read an unsigned number; one plus sign may stand in front. -/
def readUnsigned (s : List Char) : Except NumeralFault UInt64 :=
  match s with
  | [] => .error .empty
  | ['+'] => .error .invalidDigit
  | '+' :: rest => readDigits 0 rest
  | s => readDigits 0 s

end Listing.Text
