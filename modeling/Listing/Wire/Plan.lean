import Listing.Json.Reader
import Listing.Json.Writer
import Listing.Plan
import Listing.Wire.Filter

/-! # Requests and plans as documents -/

namespace Listing

namespace Wire

/-- Directions are written by their full names and read from either. -/
instance : Wire Direction where
  encode d := .text d.name
  decode j :=
    match j.alternative? with
    | some (name, none) | some (name, some .null) =>
      if name = "asc" then some .ascending
      else if name = "desc" then some .descending
      else Named.ofName? name
    | _ => none

instance : Wire SortOrder where
  encode s := .record [("field", encode s.field), ("direction", encode s.direction)]
  decode j := do
    match ← j.fields? ["field", "direction"] with
    | [field, direction] => some ⟨← decode field, ← decode direction⟩
    | _ => none

instance : Wire PageRequest where
  encode r := .record
    [ ("filter", encode r.filter), ("sort", encode r.sort), ("page", encode r.page),
      ("page_size", encode r.pageSize) ]
  decode j := do
    match ← j.fields? ["filter", "sort", "page", "page_size"] with
    | [filter, sort, page, pageSize] =>
      some ⟨← decode filter, ← decode sort, ← decode page, ← decode pageSize⟩
    | _ => none

instance : Wire Selection where
  encode
    | .matching f => .tagged "Match" (encode f)
    | .nothing => .text "NoResults"
  decode j :=
    match j.alternative? with
    | some ("Match", some f) => (decode f).map .matching
    | some ("NoResults", none) | some ("NoResults", some .null) => some .nothing
    | _ => none

instance : Wire Plan where
  encode p := .record
    [ ("filter", encode p.selection), ("sort", encode p.sort),
      ("page_size", encode p.pageSize) ]
  decode j := do
    match ← j.fields? ["filter", "sort", "page_size"] with
    | [selection, sort, pageSize] =>
      some ⟨← decode selection, ← decode sort, ← decode pageSize⟩
    | _ => none

end Wire

/-! ### Documents -/

/-- The document of a value. -/
def serialize {α : Type} [Wire α] (a : α) : String := (Wire.encode a).render

/-- The value of a document. -/
def deserialize {α : Type} [Wire α] (document : String) : Option α := do
  Wire.decode (← Json.read document)

end Listing
