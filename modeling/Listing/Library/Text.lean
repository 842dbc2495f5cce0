import Listing.Library.Callable
import Listing.Text.Case
import Listing.Text.Search
import Listing.Text.Space

/-! # Functions of texts and lists -/

namespace Listing.Callable

/-- A function that changes one text. -/
def changing (name : String) (change : String → String) : Callable
  | _, [.string s] => .ok (.string (change s))
  | _, [v] => .error (wrongType name "string" v)
  | _, args => .error (wrongCount name 1 args)

/-- A function that tests one text by another. -/
def testing (name : String) (test : List Char → List Char → Bool) : Callable
  | _, [.string s, .string t] => .ok (.boolean (test s.toList t.toList))
  | _, [.string _, v] => .error (wrongType name "string" v)
  | _, [v, _] => .error (wrongType name "string" v)
  | _, args => .error (wrongCount name 2 args)

/-- The text in small letters. -/
def toLower : Callable := changing "ToLower" Text.lower

/-- The text in capital letters. -/
def toUpper : Callable := changing "ToUpper" Text.upper

/-- The text without white space at its ends. -/
def trim : Callable := changing "Trim" Text.trimString

/-- The first text starts with the second. -/
def startsWith : Callable := testing "StartsWith" fun s head => head.isPrefixOf s

/-- The first text ends with the second. -/
def endsWith : Callable := testing "EndsWith" fun s tail => tail.isSuffixOf s

/-- The second text occurs in the first, or the second value is an item of the list. -/
def contains : Callable
  | _, [.string s, .string t] => .ok (.boolean (Text.occursIn t.toList s.toList))
  | _, [.string _, v] => .error (wrongType "Contains" "string" v)
  | _, [.list items, v] => .ok (.boolean (v ∈ items))
  | _, [v, _] => .error (wrongType "Contains" "string or list" v)
  | _, args => .error (wrongCount "Contains" 2 args)

/-- A value as part of a longer text: a text as it is, any other value as messages show it. -/
def part : Value → String
  | .string s => s
  | v => v.text

/-- The texts of all arguments, joined. -/
def concat : Callable
  | _, args => .ok (.string (String.join (args.map part)))

end Listing.Callable
