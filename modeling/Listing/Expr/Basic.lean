import Listing.Comparison
import Listing.Value

/-! # Expressions

  Expressions are written about one record, which they call their
  parameter. A part without the parameter is closed: it means the same
  for every record. A chain of members that starts at the parameter
  names a field of the record by its dotted path.
-/

namespace Listing

/-! ### Operators -/

/-- An arithmetic operator. -/
inductive ArithOp
  | add
  | sub
  | mul
  | div
  | mod
deriving DecidableEq, Repr

/-- A logical operator; its right side is only looked at when the left does not decide. -/
inductive Connective
  | and
  | or
deriving DecidableEq, Repr

/-- An operator between two operands. -/
inductive BinaryOp
  | arith (op : ArithOp)
  | compare (op : Comparison)
  | logic (op : Connective)
deriving DecidableEq, Repr

/-- An operator in front of one operand. -/
inductive UnaryOp
  | not
  | negate
deriving DecidableEq, Repr

/-- The operator's sign. -/
def ArithOp.text : ArithOp → String
  | .add => "+"
  | .sub => "-"
  | .mul => "*"
  | .div => "/"
  | .mod => "%"

/-- The operator's sign. -/
def Connective.text : Connective → String
  | .and => "&&"
  | .or => "||"

/-- The operator's sign. -/
def BinaryOp.text : BinaryOp → String
  | .arith op => op.text
  | .compare op => op.text
  | .logic op => op.text

/-- The operator compares its operands. -/
def BinaryOp.isComparison : BinaryOp → Bool
  | .compare _ => true
  | _ => false

/-- The operator joins truth values. -/
def BinaryOp.isLogical : BinaryOp → Bool
  | .logic _ => true
  | _ => false

/-- The operator's sign. -/
def UnaryOp.text : UnaryOp → String
  | .not => "!"
  | .negate => "-"

/-! ### Trees -/

/-- An expression about a record. -/
inductive Expr
  /-- The record itself. -/
  | parameter
  /-- A constant. -/
  | constant (value : Value)
  /-- A variable from outside the expression. -/
  | captured (name : String)
  /-- A member of a value or of the record. -/
  | member (target : Expr) (name : String)
  /-- A function of its arguments. -/
  | call (function : String) (args : List Expr)
  /-- A function whose first argument stands in front of it. -/
  | method (target : Expr) (function : String) (args : List Expr)
  /-- A list of values. -/
  | list (items : List Expr)
  /-- An operator between two operands. -/
  | binary (left : Expr) (op : BinaryOp) (right : Expr)
  /-- An operator in front of one operand. -/
  | unary (op : UnaryOp) (operand : Expr)

instance : Inhabited Expr := ⟨.parameter⟩

/-- An expression with the name that it gives to its parameter. -/
structure Lambda where
  /-- The name of the parameter. -/
  parameter : String
  /-- What is computed from it. -/
  body : Expr

namespace Expr

/-- Both conditions. -/
def and (left right : Expr) : Expr := .binary left (.logic .and) right

/-- One of the conditions or both. -/
def or (left right : Expr) : Expr := .binary left (.logic .or) right

/-! ### Closed expressions -/

mutual

/-- The parameter occurs nowhere in the expression. -/
def isClosed : Expr → Bool
  | .parameter => false
  | .constant _ | .captured _ => true
  | .member target _ => target.isClosed
  | .call _ args => allClosed args
  | .method target _ args => target.isClosed && allClosed args
  | .list items => allClosed items
  | .binary left _ right => left.isClosed && right.isClosed
  | .unary _ operand => operand.isClosed

/-- The parameter occurs in none of the expressions. -/
def allClosed : List Expr → Bool
  | [] => true
  | e :: es => e.isClosed && allClosed es

end

/-! ### Field paths -/

/-- The names along a chain of members that starts at the parameter. -/
def memberNames : Expr → Option (List String)
  | .parameter => some []
  | .member target name => target.memberNames.map (· ++ [name])
  | _ => none

/-- The dotted path of a chain of at least one member that starts at the parameter. -/
def fieldPath? (e : Expr) : Option String :=
  match e.memberNames with
  | none | some [] => none
  | some names => some (".".intercalate names)

/-! ### Text -/

mutual

/-- The expression in full parentheses, with the given name for its parameter. -/
def textWith (parameter : String) : Expr → String
  | .parameter => parameter
  | .constant value => value.text
  | .captured name => name
  | .member target name => target.textWith parameter ++ "." ++ name
  | .call function args => function ++ "(" ++ ", ".intercalate (textsWith parameter args) ++ ")"
  | .method target function args =>
    target.textWith parameter ++ "." ++ function ++
      "(" ++ ", ".intercalate (textsWith parameter args) ++ ")"
  | .list items => "[" ++ ", ".intercalate (textsWith parameter items) ++ "]"
  | .binary left op right =>
    "(" ++ left.textWith parameter ++ " " ++ op.text ++ " " ++ right.textWith parameter ++ ")"
  | .unary op operand => op.text ++ operand.textWith parameter

/-- The texts of several expressions. -/
def textsWith (parameter : String) : List Expr → List String
  | [] => []
  | e :: es => e.textWith parameter :: textsWith parameter es

end

/-- The expression as messages show it, with `x` for the parameter. -/
def text (e : Expr) : String := e.textWith "x"

end Expr

namespace Lambda

/-- Both conditions, about the parameter of the first. -/
def and (p q : Lambda) : Lambda := ⟨p.parameter, p.body.and q.body⟩

/-- The name of the parameter, an arrow, and the body. -/
def text (p : Lambda) : String := p.parameter ++ " => " ++ p.body.textWith p.parameter

end Lambda
end Listing
