import Listing.Value

/-! # Failures of evaluation -/

namespace Listing

/-- What is wrong with the arguments of a function. -/
inductive ArgumentFault
  /-- Their number. -/
  | count (expected got : Nat)
  /-- The type of one of them. -/
  | type (expected : String) (got : TypeTag)
deriving DecidableEq, Repr

/-- Why an expression has no value. -/
inductive EvalError
  /-- The value depends on the record. -/
  | parameterReference
  /-- No variable has the name. -/
  | unknownVariable (name : String)
  /-- No function has the name. -/
  | unknownFunction (name : String)
  /-- A function does not take these arguments. -/
  | invalidArguments (function : String) (fault : ArgumentFault)
  /-- Two types that should agree do not. -/
  | typeMismatch (expected actual : TypeTag)
  /-- The operation does not exist for its operands. -/
  | unsupportedOperation (operation : String)
  /-- Values of the type have no such member. -/
  | unknownMember (member : String) (type : TypeTag)
  /-- A number is divided by zero. -/
  | divisionByZero
  /-- The result is out of range. -/
  | overflow (operation : String)
deriving DecidableEq, Repr

/-- The wording of a fault. -/
def ArgumentFault.message : ArgumentFault → String
  | .count expected got =>
    "Expected " ++ Text.natText expected ++ " argument(s), got " ++ Text.natText got
  | .type expected got => "Expected " ++ expected ++ ", got " ++ got.text

/-- The wording of a failure. -/
def EvalError.message : EvalError → String
  | .parameterReference =>
    "Expression references the query parameter and cannot be evaluated locally"
  | .unknownVariable name => "Unknown variable: " ++ name
  | .unknownFunction name => "Unknown function: " ++ name
  | .invalidArguments function fault =>
    "Invalid function arguments for " ++ function ++ ": " ++ fault.message
  | .typeMismatch expected actual =>
    "Type mismatch: expected " ++ expected.text ++ ", got " ++ actual.text
  | .unsupportedOperation operation => "Unsupported operation: " ++ operation
  | .unknownMember member type => "Unknown member '" ++ member ++ "' on " ++ type.text
  | .divisionByZero => "Division by zero"
  | .overflow operation => "Arithmetic overflow in " ++ operation

end Listing
