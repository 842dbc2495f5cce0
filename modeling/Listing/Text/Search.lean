/-! # Finding and cutting text -/

namespace Listing.Text

/-- `needle` occurs somewhere in the text; the empty one occurs everywhere. -/
def occursIn (needle : List Char) : List Char → Bool
  | [] => needle.isEmpty
  | c :: rest => needle.isPrefixOf (c :: rest) || occursIn needle rest

/-- The lines of a text: what stands between its line feeds. -/
def lines : List Char → List (List Char)
  | [] => [[]]
  | c :: rest => if c = '\n' then [] :: lines rest else (lines rest).modifyHead (c :: ·)

/-- What stands before and after the first `c`. -/
def cutAt (c : Char) : List Char → Option (List Char × List Char)
  | [] => none
  | d :: rest =>
    if d = c then some ([], rest)
    else (cutAt c rest).map fun (before, after) => (d :: before, after)

/-- The text without `head` in front, if it starts with it. -/
def dropHead? : List Char → List Char → Option (List Char)
  | [], s => some s
  | _ :: _, [] => none
  | c :: head, d :: s => if c = d then dropHead? head s else none

/-- The text without its last character, if that is `c`. -/
def dropLast? (c : Char) (s : List Char) : Option (List Char) :=
  if s.getLast? = some c then some s.dropLast else none

end Listing.Text
