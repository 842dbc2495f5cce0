import Listing.Compile.Clause
import Listing.Eval.Error
import Listing.Expr.Basic

/-! # Failures of compilation

  A predicate that cannot become a filter fails with the construct
  that has no counterpart and with what it was applied to.
-/

namespace Listing

/-- A construct that a filter cannot express. -/
inductive Construct
  | compare (op : Comparison)
  | arith (op : ArithOp)
  | unary (op : UnaryOp)
  /-- An operand of a logical operator. -/
  | logic (op : Connective)
  /-- A logical operator under a negation. -/
  | negatedLogic (op : Connective)
  /-- A predicate as a whole. -/
  | predicate
  | method (name : String)
  /-- A method under a negation. -/
  | negatedMethod (name : String)
  /-- A method with this many arguments. -/
  | methodCount (name : String) (count : Nat)
  | function (name : String)
  | expression (e : Expr)
  | list

/-- What a construct is applied to. -/
inductive Subject
  /-- A value of a type. -/
  | value (type : TypeTag)
  /-- A field of a type. -/
  | field (type : TypeTag)
  /-- Two things at once. -/
  | pair (left right : Subject)
  /-- Some field. -/
  | someField
  /-- The argument of a method. -/
  | fieldArgument
  /-- The record as a whole. -/
  | record
  /-- A value computed from the record. -/
  | derivedValue
deriving DecidableEq, Repr

/-- Why a predicate or an ordering does not compile. -/
inductive CompileError
  /-- A closed part has no value. -/
  | failedEvaluation (expression : Expr) (cause : EvalError)
  /-- A construct has no counterpart in a filter. -/
  | unsupported (construct : Construct) (subject : Subject)
  /-- The catalog has no such path. -/
  | unknownField (entity : EntityKind) (path : String)
  /-- An ordering that is no chain of members of the parameter. -/
  | invalidSortKey (key : Lambda)
  /-- The compiler broke a rule of its own. -/
  | faultyClause (fault : ClauseFault)

/-! ### Wording -/

/-- The construct in messages. -/
def Construct.text : Construct → String
  | .compare op => op.text
  | .arith op => op.text
  | .unary op => op.text
  | .logic op => op.text
  | .negatedLogic op => "!(" ++ op.text ++ ")"
  | .predicate => "predicate"
  | .method name => name
  | .negatedMethod name => "!" ++ name
  | .methodCount name count => name ++ " with " ++ Text.natText count ++ " argument(s)"
  | .function name => name ++ "()"
  | .expression e => e.text
  | .list => "list"

/-- The subject in messages. -/
def Subject.text : Subject → String
  | .value type => type.text
  | .field type => "field " ++ type.text
  | .pair left right => left.text ++ " and " ++ right.text
  | .someField => "field"
  | .fieldArgument => "field argument"
  | .record => "record"
  | .derivedValue => "parameter-derived value"

/-- The wording of a failure. -/
def CompileError.message : CompileError → String
  | .failedEvaluation expression cause =>
    "Failed to evaluate `" ++ expression.text ++ "`: " ++ cause.message
  | .unsupported construct subject =>
    "Unsupported expression: `" ++ construct.text ++ "` on " ++ subject.text
  | .unknownField entity path => "Unknown field `" ++ path ++ "` for " ++ entity.text
  | .invalidSortKey key =>
    "Invalid ordering expression `" ++ key.text ++
      "`: expected a member access on the parameter"
  | .faultyClause fault => "Internal compiler error: " ++ fault.message

end Listing
