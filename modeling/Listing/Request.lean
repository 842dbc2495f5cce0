import Listing.Filter.Basic
import Listing.Text.Case
import Listing.Text.Space

/-! # Requests

  What is sent to a listing service: which records, in which order,
  and which page of them. Pages are counted from 0.
-/

namespace Listing

/-- The direction of an ordering. -/
inductive Direction
  | ascending
  | descending
deriving DecidableEq, Repr

/-- An ordering by one field. -/
structure SortOrder where
  /-- What is sorted by. -/
  field : Selector
  /-- Smallest or largest first. -/
  direction : Direction
deriving DecidableEq, Repr

/-- A request for one page. -/
structure PageRequest where
  /-- Which records. -/
  filter : Filter
  /-- In which order. -/
  sort : SortOrder
  /-- The number of the page, from 0. -/
  page : UInt64
  /-- How many records a page has. -/
  pageSize : UInt64
deriving DecidableEq, Repr

/-- The place of the page's first record among all; the largest number if that is larger. -/
def PageRequest.offset (r : PageRequest) : UInt64 :=
  .ofNat (min (r.page.toNat * r.pageSize.toNat) (UInt64.size - 1))

/-! ### Directions as text -/

namespace Direction

/-- The full name, which documents use. -/
def name : Direction → String
  | .ascending => "ascending"
  | .descending => "descending"

/-- The short name, which people use. -/
def text : Direction → String
  | .ascending => "asc"
  | .descending => "desc"

instance : Named Direction where
  members := [.ascending, .descending]
  name := Direction.name
  complete a := by cases a <;> decide
  distinct := by decide

/-- A text that is no direction, trimmed and in small letters. -/
structure Unknown where
  /-- The text. -/
  text : String
deriving DecidableEq, Repr

/-- The wording of the failure. -/
def Unknown.message (u : Unknown) : String := "Unknown sort direction: " ++ u.text

/-- Read either name, in any case and with white space around it. -/
def read (s : String) : Except Unknown Direction :=
  let word := Text.lowerAscii (Text.trimString s)
  if word = "asc" ∨ word = "ascending" then .ok .ascending
  else if word = "desc" ∨ word = "descending" then .ok .descending
  else .error ⟨word⟩

end Direction
end Listing
