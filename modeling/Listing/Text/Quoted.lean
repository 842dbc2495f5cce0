import Listing.Text.EscapeTable

/-! # Quoted text

  A text in double quotes, in which every character that could be
  mistaken or overlooked is written by an escape: the quote and the
  backslash, the four controls with a letter of their own, and by
  their number all characters of `escapedRanges`.
-/

namespace Listing.Text

/-- The character is written by its number. -/
def isEscaped (c : Char) : Bool :=
  escapedRanges.any fun r => r.1 ≤ c.toNat && c.toNat ≤ r.2

/-- One character as it stands between the quotes. -/
def quoteChar (c : Char) : List Char :=
  if c = '"' then ['\\', '"']
  else if c = '\\' then ['\\', '\\']
  else if c = '\n' then ['\\', 'n']
  else if c = '\r' then ['\\', 'r']
  else if c = '\t' then ['\\', 't']
  else if c = '\x00' then ['\\', '0']
  else if isEscaped c then ['\\', 'u', '{'] ++ Nat.toDigits 16 c.toNat ++ ['}']
  else [c]

/-- The text between double quotes. -/
def quote (s : String) : String := .ofList ('"' :: s.toList.flatMap quoteChar ++ ['"'])

end Listing.Text
