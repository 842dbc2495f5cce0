import Listing.Table
import Listing.Text.Numeral
import Listing.Text.Search
import Listing.Text.Space

/-! # Environments

  Named texts, and the files that assign them. Each line of such a
  file assigns one text, unless it is blank or a comment; a later
  assignment of a name replaces an earlier one. Loading stops at the
  first line that is none of these and keeps what came before it.
-/

namespace Listing

/-- Texts under their names. -/
abbrev Environment := Table String

namespace Environment

/-! ### Lines -/

/-- Why a line is no assignment. -/
inductive LineFault
  /-- It has no equals sign. -/
  | malformed
  /-- Nothing stands before its equals sign. -/
  | emptyKey
deriving DecidableEq, Repr

/-- The text between a pair of quotes `q` that encloses the whole. -/
def inQuotes? (q : Char) : List Char → Option (List Char)
  | [] => none
  | c :: rest => if c = q then Text.dropLast? q rest else none

/-- The value as it is assigned: without white space around it, and then without one pair
of quotes. -/
def unquote (s : List Char) : List Char :=
  let s := Text.trim s
  ((inQuotes? '"' s).or (inQuotes? '\x27' s)).getD s

/-- The word that may stand in front of an assignment. -/
def exportWord : List Char := ['e', 'x', 'p', 'o', 'r', 't', ' ']

/-- The assignment on a line, none on a blank line or a comment. -/
def readLine (line : List Char) : Except LineFault (Option (String × String)) :=
  let line := Text.trim line
  if line.isEmpty || line.head? == some '#' then .ok none
  else
    match Text.cutAt '=' ((Text.dropHead? exportWord line).getD line) with
    | none => .error .malformed
    | some (before, after) =>
      let key := Text.trim before
      if key.isEmpty then .error .emptyKey
      else .ok (some (.ofList key, .ofList (unquote after)))

/-! ### Files -/

/-- Why a file could not be loaded. -/
inductive FileFault
  /-- The line of this number, counted from 1, is faulty. -/
  | line (number : Nat) (fault : LineFault)
  /-- The file has no text. -/
  | unreadable (path cause : String)
deriving DecidableEq, Repr

/-- The wording of a fault. -/
def FileFault.message : FileFault → String
  | .line number .malformed =>
    "malformed line " ++ Text.natText number ++ " (expected KEY=VALUE)"
  | .line number .emptyKey => "empty key at line " ++ Text.natText number
  | .unreadable path cause => "failed to read " ++ path ++ ": " ++ cause

/-- The environment after the assignments of some lines, of which the first has the given
number, and the fault that ended them. -/
def loadLines (number : Nat) (env : Environment) :
    List (List Char) → Environment × Option FileFault
  | [] => (env, none)
  | line :: rest =>
    match readLine line with
    | .ok none => loadLines (number + 1) env rest
    | .ok (some (key, value)) => loadLines (number + 1) (env.insert key value) rest
    | .error fault => (env, some (.line number fault))

/-- The environment after the assignments of a text. -/
def load (env : Environment) (text : String) : Environment × Option FileFault :=
  loadLines 1 env (Text.lines text.toList)

end Environment
end Listing
