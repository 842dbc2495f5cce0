import Listing.Paging.Cursor

/-! # Scripted services

  A service without records: it serves pages of given sizes, numbers
  their items through from 0, and fails or is interrupted where the
  script says so.
-/

namespace Listing

/-- What a scripted service does. -/
structure Script where
  /-- The sizes of its pages. -/
  sizes : List Nat
  /-- The total that every page announces. -/
  total : Nat
  /-- The page whose request fails. -/
  failOn : Option UInt64
  /-- The page during whose request the query is cancelled. -/
  cancelDuring : Option UInt64
deriving DecidableEq, Repr

namespace Script

/-- The numbers of the items of a page; none beyond the last page. -/
def items (s : Script) (page : Nat) : List Nat :=
  List.range' ((s.sizes.take page).foldl (· + ·) 0) (s.sizes[page]?.getD 0)

/-- The answer to a request. -/
def answer (s : Script) (r : PageRequest) : Except String (Page Nat) :=
  if s.failOn = some r.page then
    .error ("listing unavailable on page " ++ Text.natText r.page.toNat)
  else .ok ⟨s.total, s.items r.page.toNat⟩

/-- The query is cancelled during the request. A request that fails cancels nothing. -/
def cancels (s : Script) (r : PageRequest) : Bool :=
  s.failOn ≠ some r.page ∧ s.cancelDuring = some r.page

end Script
end Listing
