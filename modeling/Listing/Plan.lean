import Listing.Compile.Predicate
import Listing.Request

/-! # Plans

  A plan is a request without a page number. A predicate that is true
  of every record becomes the filter that all records pass; one that
  is true of none leaves nothing to request.
-/

namespace Listing

/-- Which records a plan is about. -/
inductive Selection
  /-- Those that pass the filter. -/
  | matching (f : Filter)
  /-- None at all. -/
  | nothing
deriving DecidableEq, Repr

/-- A request for any page. -/
structure Plan where
  /-- Which records. -/
  selection : Selection
  /-- In which order. -/
  sort : SortOrder
  /-- How many to a page. -/
  pageSize : UInt64
deriving DecidableEq, Repr

/-- The records that a compiled predicate is true of. -/
def Compiled.selection : Compiled → Selection
  | .constant true => .matching .all
  | .constant false => .nothing
  | .filter f => .matching f

namespace Plan

/-- There is nothing to request. -/
def isEmpty (p : Plan) : Bool := p.selection = .nothing

/-- The request for a page, if there is anything to request. -/
def request? (p : Plan) (page : UInt64) : Option PageRequest :=
  match p.selection with
  | .nothing => none
  | .matching f => some ⟨f, p.sort, page, p.pageSize⟩

/-- How many records a page has when nobody says. -/
def defaultPageSize : UInt64 := 50

end Plan

/-- The plan of a predicate and an ordering, where either may be missing. The ordering is
looked up even if no record can match. -/
def Compiler.plan (c : Compiler) (predicate key : Option Lambda) (direction : Direction)
    (pageSize : UInt64) : Except CompileError Plan := do
  let selection ← match predicate with
    | some p => do pure (← c.compile p).selection
    | none => .ok (.matching .all)
  let field ← match key with
    | some k => c.catalog.sortKey k
    | none => .ok c.catalog.defaultSort
  .ok ⟨selection, ⟨field, direction⟩, pageSize⟩

end Listing
