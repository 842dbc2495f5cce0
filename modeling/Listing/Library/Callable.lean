import Listing.Eval.Error
import Listing.Table

/-! # Functions

  A function is given the values of its arguments and what surrounds
  the expression: the captured variables and the time of its
  evaluation. The receiver of a method call is the first argument.
-/

namespace Listing

open Time (Timestamp)

/-- What surrounds an expression. -/
structure Scope where
  /-- The captured variables. -/
  captured : Table Value
  /-- The time at which the expression is evaluated. The clock is read as one instant for a whole
  compilation: every closed part is told the same time, however often it asks. -/
  now : Timestamp

/-- A function of argument values. -/
abbrev Callable := Scope → List Value → Except EvalError Value

namespace Callable

/-- The function was given a wrong number of arguments. -/
def wrongCount (function : String) (expected : Nat) (args : List Value) : EvalError :=
  .invalidArguments function (.count expected args.length)

/-- The function was given an argument of a wrong type. -/
def wrongType (function expected : String) (got : Value) : EvalError :=
  .invalidArguments function (.type expected got.type)

end Callable
end Listing
