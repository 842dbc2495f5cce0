import Listing.Eval.Error
import Listing.Expr.Basic
import Listing.Word

/-! # Operators and members of values

  Arithmetic is exact or fails. Numbers, texts, times and durations
  compare by order; truth values, statuses, bytes and lists only for
  equality. A time and a duration add up to a time, and the duration
  may stand on either side of the plus sign.
-/

namespace Listing.Value

/-! ### Failures -/

/-- The operator does not exist for operands of these types. -/
def unsupported (l : Value) (op : BinaryOp) (r : Value) : EvalError :=
  .unsupportedOperation (l.type.text ++ " " ++ op.text ++ " " ++ r.type.text)

/-- The failure of an operator that no rule covers: the types differ, or the operator
does not exist for their common type. -/
def noRule (l : Value) (op : BinaryOp) (r : Value) : EvalError :=
  if l.type = r.type then unsupported l op r else .typeMismatch l.type r.type

/-- The result, or an overflow of the named operation. -/
def orOverflow (operation : String) : Option Value → Except EvalError Value
  | some v => .ok v
  | none => .error (.overflow operation)

/-! ### Arithmetic -/

/-- Arithmetic on numbers. -/
def intArith (op : ArithOp) (a b : Int64) : Except EvalError Value :=
  match op with
  | .add => orOverflow op.text ((Word.add? a b).map .int)
  | .sub => orOverflow op.text ((Word.sub? a b).map .int)
  | .mul => orOverflow op.text ((Word.mul? a b).map .int)
  | .div =>
    if b = 0 then .error .divisionByZero else orOverflow op.text ((Word.div? a b).map .int)
  | .mod =>
    if b = 0 then .error .divisionByZero else orOverflow op.text ((Word.mod? a b).map .int)

/-- An arithmetic operator between two values. -/
def arith (op : ArithOp) (l r : Value) : Except EvalError Value :=
  match l, r, op with
  | .int a, .int b, op => intArith op a b
  | .string a, .string b, .add => .ok (.string (a ++ b))
  | .timestamp a, .timestamp b, .sub => .ok (.duration (a.since b))
  | .timestamp t, .duration d, .add => orOverflow op.text ((t.add? d).map .timestamp)
  | .timestamp t, .duration d, .sub => orOverflow op.text ((t.sub? d).map .timestamp)
  | .timestamp _, .duration _, _ => .error (unsupported l (.arith op) r)
  | .duration d, .timestamp t, .add => orOverflow op.text ((t.add? d).map .timestamp)
  | .duration a, .duration b, .add => orOverflow op.text ((a.add? b).map .duration)
  | .duration a, .duration b, .sub => orOverflow op.text ((a.sub? b).map .duration)
  | .status _, .status _, _ => .error (unsupported l (.arith op) r)
  | _, _, _ => .error (noRule l (.arith op) r)

/-! ### Comparison -/

/-- A comparison of values that can only be equal or different. -/
def equality (c : Comparison) (l r : Value) : Except EvalError Value :=
  match c with
  | .equal => .ok (.boolean (l = r))
  | .notEqual => .ok (.boolean (l ≠ r))
  | _ => .error (unsupported l (.compare c) r)

/-- A comparison operator between two values. -/
def compareBy (c : Comparison) (l r : Value) : Except EvalError Value :=
  match l, r with
  | .int a, .int b => .ok (.boolean (c.holds (compare a.toInt b.toInt)))
  | .string a, .string b => .ok (.boolean (c.holds (compare a b)))
  | .timestamp a, .timestamp b => .ok (.boolean (c.holds (a.order b)))
  | .duration a, .duration b => .ok (.boolean (c.holds (compare a.nanos b.nanos)))
  | .timestamp _, .duration _ => .error (unsupported l (.compare c) r)
  | .boolean _, .boolean _ | .status _, .status _ | .bytes _, .bytes _ | .list _, .list _ =>
    equality c l r
  | _, _ => .error (noRule l (.compare c) r)

/-! ### Truth values and signs -/

/-- The truth value of an operand of a logical operator. -/
def asBool : Value → Except EvalError Bool
  | .boolean b => .ok b
  | v => .error (.typeMismatch .boolean v.type)

/-- An operator in front of a value. -/
def applyUnary (op : UnaryOp) (v : Value) : Except EvalError Value :=
  match op, v with
  | .not, .boolean b => .ok (.boolean !b)
  | .negate, .int n => orOverflow op.text ((Word.neg? n).map .int)
  | .negate, .duration d => .ok (.duration d.neg)
  | _, _ => .error (.unsupportedOperation (op.text ++ v.type.text))

/-! ### Members -/

/-- The named member of a value. -/
def member (v : Value) (name : String) : Except EvalError Value :=
  match v with
  | .string s => if name = "Length" then int s.length else missing
  | .list items => if name = "Length" ∨ name = "Count" then int items.length else missing
  | .bytes b => if name = "Length" then int b.length else missing
  | .duration d => if name = "TotalSeconds" then int d.wholeSeconds else missing
  | .timestamp t =>
    if name = "Year" then int t.date.year
    else if name = "Month" then int t.date.month
    else if name = "Day" then int t.date.day
    else missing
  | _ => missing
where
  /-- A number that is small enough for a word. -/
  int (n : Int) : Except EvalError Value := .ok (.int (.ofInt n))
  /-- The value has no such member. -/
  missing : Except EvalError Value := .error (.unknownMember name v.type)

end Listing.Value
