import Listing.Json.Basic
import Listing.Text.Numeral

/-! # Writing JSON

  The shortest form: no blanks, and escapes only where a text cannot
  do without. What is not known of a value is written in a form that
  tells as little.
-/

namespace Listing.Json

/-! ### Texts -/

/-- One character between the quotes. -/
def escape (c : Char) : List Char :=
  if c = '"' then ['\\', '"']
  else if c = '\\' then ['\\', '\\']
  else if c = '\x08' then ['\\', 'b']
  else if c = '\x0c' then ['\\', 'f']
  else if c = '\n' then ['\\', 'n']
  else if c = '\r' then ['\\', 'r']
  else if c = '\t' then ['\\', 't']
  else if c.toNat < 0x20 then
    ['\\', 'u', '0', '0', Nat.digitChar (c.toNat / 16), Nat.digitChar (c.toNat % 16)]
  else [c]

/-- A text in quotes. -/
def writeText : Option String → List Char
  | some s => '"' :: s.toList.flatMap escape ++ ['"']
  | none => ['"', '\\', 'u', 'd', '8', '0', '0', '"']

/-- An integer. -/
def writeInt (n : Int) : List Char :=
  if n < 0 then '-' :: Text.digits n.natAbs else Text.digits n.natAbs

/-! ### Values -/

mutual

/-- A value. -/
def write : Json → List Char
  | .null => ['n', 'u', 'l', 'l']
  | .bool true => ['t', 'r', 'u', 'e']
  | .bool false => ['f', 'a', 'l', 's', 'e']
  | .int n => writeInt n
  | .decimal => ['0', '.', '0']
  | .string text => writeText text
  | .array [] => ['[', ']']
  | .array (v :: vs) => '[' :: write v ++ writeItems vs ++ [']']
  | .object [] => ['{', '}']
  | .object ((k, v) :: ms) => '{' :: writeText k ++ ':' :: write v ++ writeMembers ms ++ ['}']

/-- Further items of an array. -/
def writeItems : List Json → List Char
  | [] => []
  | v :: vs => ',' :: write v ++ writeItems vs

/-- Further members of an object. -/
def writeMembers : List (Option String × Json) → List Char
  | [] => []
  | (k, v) :: ms => ',' :: writeText k ++ ':' :: write v ++ writeMembers ms

end

/-- The document of a value. -/
def render (v : Json) : String := .ofList v.write

end Listing.Json
