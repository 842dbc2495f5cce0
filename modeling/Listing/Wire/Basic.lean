import Listing.Json.Basic
import Listing.Named
import Listing.Word

/-! # Values as documents

  How records, alternatives and plain values are laid out in JSON. A
  record is an object with its field names, of which others may be
  present and none twice; it is also read from an array of its fields
  in order. An alternative is its name, or an object that holds its
  content under its name.
-/

namespace Listing

/-- A type whose values are written as JSON and read back. -/
class Wire (α : Type) where
  /-- The JSON value of a value. -/
  encode : α → Json
  /-- The value of a JSON value that has the right shape. -/
  decode : Json → Option α

namespace Json

/-! ### Shapes -/

/-- The fields of a record in the given order, each none where it is missing. An array is
read as the first of the fields. -/
def optionalFields? (names : List String) : Json → Option (List (Option Json))
  | .object members =>
    if members.all (·.1.isSome) ∧ names.all fun n => members.countP (·.1 = some n) ≤ 1 then
      some (names.map fun n => (members.find? (·.1 = some n)).map (·.2))
    else none
  | .array items =>
    if items.length ≤ names.length then
      some (items.map some ++ List.replicate (names.length - items.length) none)
    else none
  | _ => none

/-- The fields of a record in the given order, of which none is missing. -/
def fields? (names : List String) (j : Json) : Option (List Json) := do
  (← j.optionalFields? names).mapM id

/-- The name of an alternative, and its content if it has any. -/
def alternative? : Json → Option (String × Option Json)
  | .string (some name) => some (name, none)
  | .object [(some name, content)] => some (name, some content)
  | _ => none

/-- An alternative with content. -/
def tagged (name : String) (content : Json) : Json := .record [(name, content)]

end Json

namespace Wire

/-! ### Plain values -/

instance : Wire Bool where
  encode := .bool
  decode
    | .bool b => some b
    | _ => none

instance : Wire String where
  encode := .text
  decode
    | .string s => s
    | _ => none

instance : Wire Int64 where
  encode n := .int n.toInt
  decode
    | .int n => Word.ofInt? n
    | _ => none

instance : Wire UInt64 where
  encode n := .int n.toNat
  decode
    | .int n => if 0 ≤ n ∧ n.toNat < UInt64.size then some (.ofNat n.toNat) else none
    | _ => none

instance : Wire UInt16 where
  encode n := .int n.toNat
  decode
    | .int n => if 0 ≤ n ∧ n.toNat < UInt16.size then some (.ofNat n.toNat) else none
    | _ => none

instance {α : Type} [Wire α] : Wire (List α) where
  encode items := .array (items.map encode)
  decode
    | .array items => items.mapM decode
    | _ => none

/-- Alternatives without content are written as their names; `null` may stand for their
content. -/
@[reducible] def ofNamed {α : Type} [Named α] : Wire α where
  encode a := .text (Named.name a)
  decode j :=
    match j.alternative? with
    | some (name, none) | some (name, some .null) => Named.ofName? name
    | _ => none

end Wire
end Listing
