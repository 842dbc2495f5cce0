import Listing.Filter.Basic

/-! # Clauses

  A clause is a condition on a record in disjunctive normal form.
  Joining clauses distributes conjunctions over alternatives, so the
  result is a clause again: a constant, a single conjunction, or a
  list of alternatives.
-/

namespace Listing

/-- A condition on a record. -/
inductive Clause
  /-- The same for every record. -/
  | constant (value : Bool)
  /-- One test. -/
  | test (t : FieldTest)
  /-- All tests of a conjunction. -/
  | all (c : Conjunction)
  /-- One of several conjunctions. -/
  | any (f : Filter)
deriving DecidableEq, Repr

/-- What a whole predicate compiles to. -/
inductive Compiled
  /-- The predicate does not depend on the record. -/
  | constant (value : Bool)
  /-- The predicate is true of the records that pass the filter. -/
  | filter (f : Filter)
deriving DecidableEq, Repr

/-- How compilation goes wrong by itself: a closed part keeps no value, or a clause has an
empty part. -/
inductive ClauseFault
  /-- A conjunction without tests. -/
  | emptyConjunction
  /-- No alternatives at all, or one without tests, among this many. -/
  | emptyAlternative (count : Nat)
  /-- A closed part, as messages show it, that was left without its value. -/
  | unevaluated (expression : String)
deriving DecidableEq, Repr

/-- The wording of a fault. -/
def ClauseFault.message : ClauseFault → String
  | .emptyConjunction => "empty conjunction escaped normalization"
  | .emptyAlternative count =>
    "disjunction escaped normalization: " ++ Text.natText count ++ " conjunction(s)"
  | .unevaluated expression => "closed expression `" ++ expression ++ "` was not folded"

namespace Clause

/-! ### Parts of a clause -/

/-- The conjunction of a clause that is a single one. -/
def conjunction? : Clause → Option Conjunction
  | .test t => some (.single t)
  | .all c => some c
  | _ => none

/-- The alternatives of a clause that is not constant. -/
def alternatives : Clause → List Conjunction
  | .constant _ => []
  | .test t => [.single t]
  | .all c => [c]
  | .any f => f.alternatives

/-! ### Joining clauses -/

/-- Every conjunction of the left list with every one of the right, the left one first. -/
def product (as bs : List Conjunction) : List Conjunction :=
  as.flatMap fun a => bs.map a.append

/-- Both conditions. -/
def and : Clause → Clause → Clause
  | .constant false, _ => .constant false
  | _, .constant false => .constant false
  | .constant true, c => c
  | c, .constant true => c
  | a, b =>
    match a.conjunction?, b.conjunction? with
    | some x, some y => .all (x.append y)
    | _, _ => .any ⟨product a.alternatives b.alternatives⟩

/-- One of the conditions or both. -/
def or : Clause → Clause → Clause
  | .constant true, _ => .constant true
  | _, .constant true => .constant true
  | .constant false, c => c
  | c, .constant false => c
  | a, b => .any ⟨a.alternatives ++ b.alternatives⟩

/-! ### Whole predicates -/

/-- The clause as the condition of a whole predicate; an empty part is a fault. -/
def compiled : Clause → Except ClauseFault Compiled
  | .constant b => .ok (.constant b)
  | .test t => .ok (.filter ⟨[.single t]⟩)
  | .all c => if c.tests.isEmpty then .error .emptyConjunction else .ok (.filter ⟨[c]⟩)
  | .any f =>
    if f.alternatives.isEmpty || f.matchesAll then
      .error (.emptyAlternative f.alternatives.length)
    else .ok (.filter f)

end Clause
end Listing
