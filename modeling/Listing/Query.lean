import Listing.Catalog.Entities
import Listing.Paging.Cursor
import Listing.Settings.Basic

/-! # Queries

  A query gathers what a listing is asked for: conditions, an
  ordering, a page size, and the variables, functions and time of its
  closed parts. Nothing is compiled before it is run, and nothing is
  requested before it has compiled.
-/

namespace Listing

open Time (Timestamp)

/-- A listing to be asked for. -/
structure Query where
  /-- The fields of the records. -/
  catalog : Catalog
  /-- The condition on the records. -/
  predicate : Option Lambda
  /-- The ordering. -/
  key : Option Lambda
  /-- The direction that came with the ordering. -/
  direction : Option Direction
  /-- The page size, if it is not that of the settings. -/
  pageSize : Option UInt64
  /-- Defaults and limits. -/
  settings : Settings
  /-- The captured variables. -/
  captured : Table Value
  /-- The time of evaluation, one instant for the predicate and the ordering. -/
  now : Timestamp
  /-- The functions of closed parts. -/
  library : Library

/-- Why a query cannot be run. -/
inductive QueryFault
  /-- Its page size is not allowed. -/
  | settings (error : SettingsError)
  /-- Its predicate or its ordering does not compile. -/
  | compile (error : CompileError)

/-- Why a query has no result. -/
inductive QueryError (ε : Type)
  /-- It cannot be run. -/
  | fault (f : QueryFault)
  /-- Its listing ended early. -/
  | paging (error : PagingError ε)

namespace Query

/-! ### Building -/

/-- All records of a catalog. -/
def ofCatalog (catalog : Catalog) (now : Timestamp) : Query :=
  { catalog, now
    predicate := none
    key := none
    direction := none
    pageSize := none
    settings := .standard
    captured := .empty
    library := .builtin }

/-- All records of an entity. -/
def ofEntity (entity : EntityKind) (now : Timestamp) : Query := ofCatalog (.ofEntity entity) now

/-- Only the records that also meet `p`. -/
def filter (q : Query) (p : Lambda) : Query :=
  { q with predicate := some (match q.predicate with
      | some earlier => earlier.and p
      | none => p) }

/-- Smallest key first. -/
def orderBy (q : Query) (key : Lambda) : Query :=
  { q with key := some key, direction := some .ascending }

/-- Largest key first. -/
def orderByDescending (q : Query) (key : Lambda) : Query :=
  { q with key := some key, direction := some .descending }

/-- Pages of the given size. -/
def withPageSize (q : Query) (pageSize : UInt64) : Query := { q with pageSize := some pageSize }

/-- Other defaults and limits. -/
def withSettings (q : Query) (settings : Settings) : Query := { q with settings }

/-- Another time of evaluation. -/
def withNow (q : Query) (now : Timestamp) : Query := { q with now }

/-- Other functions. -/
def withLibrary (q : Query) (library : Library) : Query := { q with library }

/-- One more variable, or another value of one. -/
def bind (q : Query) (name : String) (value : Value) : Query :=
  { q with captured := q.captured.insert name value }

/-! ### Running -/

/-- What the query is compiled by. -/
def compiler (q : Query) : Compiler := ⟨q.catalog, q.library, ⟨q.captured, q.now⟩⟩

/-- The plan of the query. The page size is looked at first. -/
def plan (q : Query) : Except QueryFault Plan :=
  let pageSize := q.pageSize.getD q.settings.pageSize
  match q.settings.checkPageSize pageSize with
  | .error e => .error (.settings e)
  | .ok () =>
    match q.compiler.plan q.predicate q.key (q.direction.getD q.settings.direction) pageSize with
    | .error e => .error (.compile e)
    | .ok p => .ok p

variable {σ ε α : Type}

/-- The cursor of a plan. Where there is nothing to request, it ends at once, or reports that
the query is cancelled already. -/
def cursor (p : Plan) (cancelled : Bool) : Cursor ε α :=
  match p.request? 0 with
  | some template => .start template
  | none => if cancelled then .failing (.cancelled 0) else .finished

/-- A cursor on the records of the query. -/
def stream (q : Query) (s : Service σ ε α) (w : σ) : Except QueryFault (Cursor ε α) :=
  match q.plan with
  | .error f => .error f
  | .ok p => .ok (cursor p (s.isCancelled w))

/-- All records of the query. -/
def collect (q : Query) (s : Service σ ε α) (w : σ) : Except (QueryError ε) (List α) × σ :=
  match q.stream s w with
  | .error f => (.error (.fault f), w)
  | .ok c =>
    match c.drain s w with
    | (.ok items, w) => (.ok items, w)
    | (.error e, w) => (.error (.paging e), w)

/-- The number of records, as a page of one record announces it. -/
def count (q : Query) (s : Service σ ε α) (w : σ) : Except (QueryError ε) Nat × σ :=
  match q.plan with
  | .error f => (.error (.fault f), w)
  | .ok p =>
    if s.isCancelled w then (.error (.paging (.cancelled 0)), w)
    else
      match p.request? 0 with
      | none => (.ok 0, w)
      | some r =>
        match s.fetch { r with pageSize := 1 } w with
        | (.error cause, w) => (.error (.paging (.fetchFailed 0 cause)), w)
        | (.ok page, w) => (.ok page.total, w)

end Query
end Listing
