import Listing.Json.Basic

/-! # Reading JSON

  The whole document must be one value with blanks around it. Every
  reader takes its part from the front of the text and hands on the
  rest; where the text is malformed it has no result.
-/

namespace Listing.Json

/-! ### Blanks and digits -/

/-- The four characters that may stand between the parts of a document. -/
def isBlank (c : Char) : Bool := c == ' ' || c == '\n' || c == '\t' || c == '\r'

/-- The text from its first character that is not blank. -/
def skipBlanks (s : List Char) : List Char := s.dropWhile isBlank

/-- The value of a hexadecimal digit. -/
def hexDigit? (c : Char) : Option Nat :=
  if c.isDigit then some (c.toNat - '0'.toNat)
  else if 'a' ≤ c ∧ c ≤ 'f' then some (c.toNat - 'a'.toNat + 10)
  else if 'A' ≤ c ∧ c ≤ 'F' then some (c.toNat - 'A'.toNat + 10)
  else none

/-- The value of four hexadecimal digits. -/
def hexUnit? (a b c d : Char) : Option Nat := do
  some (4096 * (← hexDigit? a) + 256 * (← hexDigit? b) + 16 * (← hexDigit? c) + (← hexDigit? d))

/-! ### Texts -/

/-- The character of a one-letter escape. -/
def unescape? (c : Char) : Option Char :=
  match c with
  | '"' => some '"'
  | '\\' => some '\\'
  | '/' => some '/'
  | 'b' => some '\x08'
  | 'f' => some '\x0c'
  | 'n' => some '\n'
  | 'r' => some '\r'
  | 't' => some '\t'
  | _ => none

/-- The number is the first half of a surrogate pair. -/
def isHighSurrogate (n : Nat) : Bool := 0xD800 ≤ n && n < 0xDC00

/-- The number is the second half of a surrogate pair. -/
def isLowSurrogate (n : Nat) : Bool := 0xDC00 ≤ n && n < 0xE000

/-- A piece of a text: a character, or a 16-bit unit given by its number. -/
inductive Piece
  | char (c : Char)
  | unit (n : Nat)

/-- The pieces up to the closing quote, and what follows it. -/
def readPieces : List Char → Option (List Piece × List Char)
  | '"' :: rest => some ([], rest)
  | '\\' :: 'u' :: a :: b :: c :: d :: rest => do
    let n ← hexUnit? a b c d
    (readPieces rest).map fun (ps, rest) => (.unit n :: ps, rest)
  | '\\' :: c :: rest => do
    let c ← unescape? c
    (readPieces rest).map fun (ps, rest) => (.char c :: ps, rest)
  | c :: rest =>
    if c.toNat < 0x20 then none else (readPieces rest).map fun (ps, rest) => (.char c :: ps, rest)
  | [] => none

/-- The characters of the pieces; none if half of a surrogate pair stands alone. -/
def joinPieces : List Piece → Option (List Char)
  | [] => some []
  | .char c :: ps => (joinPieces ps).map (c :: ·)
  | .unit n :: ps =>
    if isHighSurrogate n then
      match ps with
      | .unit m :: ps =>
        if isLowSurrogate m then
          (joinPieces ps).map (Char.ofNat (0x10000 + 0x400 * (n - 0xD800) + (m - 0xDC00)) :: ·)
        else none
      | _ => none
    else if isLowSurrogate n then none
    else (joinPieces ps).map (Char.ofNat n :: ·)

/-- A text after its opening quote. -/
def readText (s : List Char) : Option (Option String × List Char) :=
  (readPieces s).map fun (ps, rest) => ((joinPieces ps).map String.ofList, rest)

/-! ### Numbers -/

/-- The digits in front, at least one, and the rest. -/
def takeDigits (s : List Char) : Option (List Char × List Char) :=
  let ds := s.takeWhile Char.isDigit
  if ds.isEmpty then none else some (ds, s.drop ds.length)

/-- The rest after a fraction, if there is one. -/
def skipFraction : List Char → Option (List Char)
  | '.' :: s => (takeDigits s).map (·.2)
  | s => some s

/-- The rest after an exponent, if there is one. -/
def skipExponent : List Char → Option (List Char)
  | c :: s =>
    if c = 'e' ∨ c = 'E' then
      match s with
      | '+' :: s | '-' :: s => (takeDigits s).map (·.2)
      | s => (takeDigits s).map (·.2)
    else some (c :: s)
  | [] => some []

/-- A number without its sign. -/
def readUnsigned (negative : Bool) (s : List Char) : Option (Json × List Char) := do
  let (ds, rest) ← takeDigits s
  if ds.head? = some '0' ∧ ds.length ≠ 1 then none
  else
    let after ← skipExponent (← skipFraction rest)
    let size := Nat.ofDigitChars 10 ds 0
    -- A fraction or an exponent has taken something from `rest`.
    if after.length ≠ rest.length ∨ (negative ∧ size = 0) then some (.decimal, after)
    else some (.int (if negative then -(size : Int) else size), after)

/-- A number. -/
def readNumber : List Char → Option (Json × List Char)
  | '-' :: s => readUnsigned true s
  | s => readUnsigned false s

/-! ### Values -/

mutual

/-- A value after blanks. The first argument bounds how deep the parts of the value lie. -/
def readValue : Nat → List Char → Option (Json × List Char)
  | 0, _ => none
  | depth + 1, s =>
    match skipBlanks s with
    | 'n' :: 'u' :: 'l' :: 'l' :: rest => some (.null, rest)
    | 't' :: 'r' :: 'u' :: 'e' :: rest => some (.bool true, rest)
    | 'f' :: 'a' :: 'l' :: 's' :: 'e' :: rest => some (.bool false, rest)
    | '"' :: rest => (readText rest).map fun (text, rest) => (.string text, rest)
    | '[' :: rest =>
      match skipBlanks rest with
      | ']' :: rest => some (.array [], rest)
      | rest => (readItems depth rest).map fun (items, rest) => (.array items, rest)
    | '{' :: rest =>
      match skipBlanks rest with
      | '}' :: rest => some (.object [], rest)
      | rest => (readMembers depth rest).map fun (members, rest) => (.object members, rest)
    | rest => readNumber rest

/-- The items of an array up to its end. -/
def readItems : Nat → List Char → Option (List Json × List Char)
  | 0, _ => none
  | depth + 1, s => do
    let (v, rest) ← readValue depth s
    match skipBlanks rest with
    | ',' :: rest => (readItems depth rest).map fun (vs, rest) => (v :: vs, rest)
    | ']' :: rest => some ([v], rest)
    | _ => none

/-- The members of an object up to its end. -/
def readMembers : Nat → List Char → Option (List (Option String × Json) × List Char)
  | 0, _ => none
  | depth + 1, s =>
    match skipBlanks s with
    | '"' :: rest => do
      let (k, rest) ← readText rest
      match skipBlanks rest with
      | ':' :: rest =>
        let (v, rest) ← readValue depth rest
        match skipBlanks rest with
        | ',' :: rest => (readMembers depth rest).map fun (ms, rest) => ((k, v) :: ms, rest)
        | '}' :: rest => some ([(k, v)], rest)
        | _ => none
      | _ => none
    | _ => none

end

/-- The value of a document. No part of it lies deeper than twice its length. -/
def read (document : String) : Option Json := do
  let s := document.toList
  let (v, rest) ← readValue (2 * s.length + 2) s
  if (skipBlanks rest).isEmpty then some v else none

end Listing.Json
