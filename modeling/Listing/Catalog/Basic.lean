import Listing.Catalog.Field
import Listing.Table

/-! # Catalogs

  A catalog resolves the dotted paths of one kind of entity to fields
  and names the field that sorts a listing without an ordering.
-/

namespace Listing

/-- The fields of one kind of entity. -/
structure Catalog where
  /-- The kind of entity. -/
  entity : EntityKind
  /-- The fields under their paths. -/
  fields : Table Field
  /-- What sorts a listing without an ordering. -/
  defaultSort : Selector

namespace Catalog

/-- A catalog of the given entries; of several for one path the last counts. Without a
default ordering it is code 0 of the entity's own attributes. -/
def ofEntries (entity : EntityKind) (entries : List (String × Field))
    (defaultSort : Option Selector) : Catalog :=
  { entity
    fields := .ofList entries
    defaultSort := defaultSort.getD ⟨entity, .summary, 0⟩ }

/-- The field of a path. -/
def lookup (c : Catalog) (path : String) : Option Field := c.fields.get? path

/-- All paths, in the order of their code points. -/
def paths (c : Catalog) : List String := c.fields.keys.mergeSort (· ≤ ·)

end Catalog
end Listing
