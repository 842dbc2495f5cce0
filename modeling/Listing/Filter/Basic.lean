import Listing.Catalog.Field
import Listing.Filter.Operator

/-! # Filters

  A filter is what a listing service understands of a predicate: a
  list of alternatives, each of them a conjunction of tests of single
  fields. An empty conjunction is true of every record, and a filter
  without alternatives of none.
-/

namespace Listing

open Time (Timestamp Duration)

/-- An operator and its right operand, in the type of the field they are meant for. -/
inductive Condition
  | string (operator : StringOperator) (value : String)
  | number (operator : NumberOperator) (value : Int64)
  | date (operator : DateOperator) (value : Timestamp)
  | duration (operator : DurationOperator) (value : Duration)
  | status (operator : StatusOperator) (value : Status)
  | array (operator : ArrayOperator) (value : String)
  | boolean (operator : BooleanOperator) (value : Bool)
deriving DecidableEq, Repr

/-- A condition on one field. -/
structure FieldTest where
  /-- The field. -/
  selector : Selector
  /-- What is asked of it. -/
  condition : Condition
deriving DecidableEq, Repr

/-- Tests that must all be true. -/
structure Conjunction where
  /-- The tests. -/
  tests : List FieldTest
deriving DecidableEq, Repr

/-- Conjunctions of which one must be true. -/
structure Filter where
  /-- The conjunctions. -/
  alternatives : List Conjunction
deriving DecidableEq, Repr

namespace Filter

/-- The filter that is true of every record: one conjunction without tests. -/
def all : Filter := ⟨[⟨[]⟩]⟩

/-- Some alternative is true of every record. -/
def matchesAll (f : Filter) : Bool := f.alternatives.any (·.tests.isEmpty)

end Filter

namespace Conjunction

/-- A single test. -/
def single (t : FieldTest) : Conjunction := ⟨[t]⟩

/-- The tests of both conjunctions. -/
def append (a b : Conjunction) : Conjunction := ⟨a.tests ++ b.tests⟩

end Conjunction

/-! ### Text -/

/-- The operator's name and the operand. -/
def Condition.text : Condition → String
  | .string op value => Named.name op ++ " " ++ Text.quote value
  | .number op value => Named.name op ++ " " ++ Text.intText value.toInt
  | .date op value => Named.name op ++ " " ++ value.text
  | .duration op value => Named.name op ++ " " ++ value.text
  | .status op value => Named.name op ++ " " ++ value.text
  | .array op value => Named.name op ++ " " ++ Text.quote value
  | .boolean op value => Named.name op ++ " " ++ (if value then "true" else "false")

/-- The field and what is asked of it. -/
def FieldTest.text (t : FieldTest) : String := t.selector.text ++ " " ++ t.condition.text

/-- The tests, joined by `AND`. -/
def Conjunction.text (c : Conjunction) : String :=
  if c.tests.isEmpty then "TRUE" else " AND ".intercalate (c.tests.map FieldTest.text)

/-- The alternatives in parentheses, joined by `OR`. -/
def Filter.text (f : Filter) : String :=
  " OR ".intercalate (f.alternatives.map fun c => "(" ++ c.text ++ ")")

end Listing
