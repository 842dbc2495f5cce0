import Listing.Eval.Operator
import Listing.Library.Basic

/-! # Evaluation

  The value of a closed expression. Operands and arguments are
  evaluated from left to right and the first failure is the failure of
  the whole; a logical operator leaves its right side alone when the
  left one decides.
-/

namespace Listing

/-- The truth value that decides a logical operator by itself. -/
def Connective.decider : Connective → Bool
  | .and => false
  | .or => true

namespace Expr

mutual

/-- The value of an expression. -/
def evaluate (lib : Library) (scope : Scope) : Expr → Except EvalError Value
  | .parameter => .error .parameterReference
  | .constant value => .ok value
  | .captured name =>
    match scope.captured.get? name with
    | some value => .ok value
    | none => .error (.unknownVariable name)
  | .member target name => do (← target.evaluate lib scope).member name
  | .call function args => do lib.call scope function (← evaluateAll lib scope args)
  | .method target function args => do
    let receiver ← target.evaluate lib scope
    lib.call scope function (receiver :: (← evaluateAll lib scope args))
  | .list items => do .ok (.list (← evaluateAll lib scope items))
  | .binary left (.logic op) right => do
    let l ← (← left.evaluate lib scope).asBool
    if l = op.decider then .ok (.boolean l)
    else .ok (.boolean (← (← right.evaluate lib scope).asBool))
  | .binary left (.arith op) right => do
    Value.arith op (← left.evaluate lib scope) (← right.evaluate lib scope)
  | .binary left (.compare c) right => do
    Value.compareBy c (← left.evaluate lib scope) (← right.evaluate lib scope)
  | .unary op operand => do Value.applyUnary op (← operand.evaluate lib scope)

/-- The values of several expressions. -/
def evaluateAll (lib : Library) (scope : Scope) : List Expr → Except EvalError (List Value)
  | [] => .ok []
  | e :: es => do
    let v ← e.evaluate lib scope
    .ok (v :: (← evaluateAll lib scope es))

end

/-- The value of a closed expression; none of an open one. -/
def evaluateIfClosed (lib : Library) (scope : Scope) (e : Expr) : Except EvalError (Option Value) :=
  if e.isClosed then (e.evaluate lib scope).map some else .ok none

end Expr
end Listing
