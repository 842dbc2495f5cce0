import Listing.Library.Clock
import Listing.Library.Text

/-! # Function libraries

  A library finds functions by name, whatever the case of its letters.
  Registering a name again replaces the function it had.
-/

namespace Listing

/-- Functions under names in small letters. -/
structure Library where
  /-- The functions. -/
  table : Table Callable

namespace Library

open Callable in
/-- The functions that every library starts with. -/
def builtin : Library where
  table :=
    { entries :=
        [ ("tolower", toLower),
          ("toupper", toUpper),
          ("trim", trim),
          ("concat", concat),
          ("startswith", startsWith),
          ("endswith", endsWith),
          ("contains", contains),
          ("utcnow", utcNow),
          ("fromseconds", fromUnit .seconds),
          ("fromminutes", fromUnit .minutes),
          ("fromhours", fromUnit .hours),
          ("fromdays", fromUnit .days),
          ("addseconds", addUnit .seconds),
          ("addminutes", addUnit .minutes),
          ("addhours", addUnit .hours),
          ("adddays", addUnit .days) ]
      distinct := by decide }

/-- The library with `f` under the given name. -/
def register (lib : Library) (name : String) (f : Callable) : Library :=
  ⟨lib.table.insert (Text.lower name) f⟩

/-- The function of a name. -/
def find? (lib : Library) (name : String) : Option Callable := lib.table.get? (Text.lower name)

/-- The name has a function. -/
def contains (lib : Library) (name : String) : Bool := (lib.find? name).isSome

/-- All names, in small letters. -/
def names (lib : Library) : List String := lib.table.keys

/-- Apply the function of a name. -/
def call (lib : Library) (scope : Scope) (name : String) (args : List Value) :
    Except EvalError Value :=
  match lib.find? name with
  | some f => f scope args
  | none => .error (.unknownFunction name)

/-! ### Small facts -/

theorem find?_register (lib : Library) (name other : String) (f : Callable) :
    (lib.register name f).find? other =
      if Text.lower other = Text.lower name then some f else lib.find? other :=
  Table.get?_insert lib.table (Text.lower name) (Text.lower other) f

theorem mem_names_register {lib : Library} {name key : String} {f : Callable} :
    key ∈ (lib.register name f).names ↔ key = Text.lower name ∨ key ∈ lib.names :=
  Table.mem_keys_put

theorem contains_iff {lib : Library} {name : String} :
    lib.contains name = true ↔ Text.lower name ∈ lib.names :=
  Table.isSome_get?_iff

end Library
end Listing
