import Listing.Compile.Error
import Listing.Text.Case

/-! # Tests of single fields

  Which comparison or method of which field, with which constant, a
  filter can express. Only ordered types compare by order, and only
  the containment of texts has a negative form.
-/

namespace Listing

/-- A method of texts that a filter can express. -/
inductive TextMethod
  | startsWith
  | endsWith
  | contains
deriving DecidableEq, Repr

namespace TextMethod

/-- The name of the method in messages. -/
def name : TextMethod → String
  | .startsWith => "StartsWith"
  | .endsWith => "EndsWith"
  | .contains => "Contains"

/-- The method of a name, whatever the case of its letters. -/
def ofName? (name : String) : Option TextMethod :=
  match Text.lowerAscii name with
  | "startswith" => some .startsWith
  | "endswith" => some .endsWith
  | "contains" => some .contains
  | _ => none

/-- The operator of the method or of its negation, where there is one. -/
def operator? : TextMethod → Bool → Option StringOperator
  | .startsWith, false => some .startsWith
  | .endsWith, false => some .endsWith
  | .contains, false => some .contains
  | .contains, true => some .notContains
  | _, true => none

end TextMethod

namespace Field

/-! ### Comparison with a constant -/

/-- The types on the two sides of a failed comparison; equal ones are named once. -/
def sides (declared actual : TypeTag) : Subject :=
  if actual = declared then .value declared else .pair (.value declared) (.value actual)

/-- The comparison of a value of the given type with a constant. -/
def condition? (type : TypeTag) (c : Comparison) (v : Value) : Option Condition :=
  match type, v, c with
  | .string, .string s, .equal => some (.string .equal s)
  | .string, .string s, .notEqual => some (.string .notEqual s)
  | .int, .int n, c => some (.number c.number n)
  | .timestamp, .timestamp t, c => some (.date c.date t)
  | .duration, .duration d, c => some (.duration c.duration d)
  | .status family, .status s, .equal =>
    if s.family = family then some (.status .equal s) else none
  | .status family, .status s, .notEqual =>
    if s.family = family then some (.status .notEqual s) else none
  | .boolean, .boolean b, .equal => some (.boolean .is b)
  | .boolean, .boolean b, .notEqual => some (.boolean .isNot b)
  | _, _, _ => none

/-- The field compared with a constant on its right. -/
def comparison (f : Field) (c : Comparison) (v : Value) : Except CompileError FieldTest :=
  match condition? f.type c v with
  | some condition => .ok ⟨f.selector, condition⟩
  | none => .error (.unsupported (.compare c) (sides f.type v.type))

/-- A truth value as a condition of its own. -/
def flag (f : Field) (negated : Bool) : Except CompileError FieldTest :=
  f.comparison (if negated then .notEqual else .equal) (.boolean true)

/-! ### Methods with a constant argument -/

/-- A method of a text field. -/
def textMethod (f : Field) (m : TextMethod) (v : Value) (negated : Bool) :
    Except CompileError FieldTest :=
  match m.operator? negated with
  | none => .error (.unsupported (.negatedMethod m.name) (.value f.type))
  | some op =>
    match f.type, v with
    | .string, .string s => .ok ⟨f.selector, .string op s⟩
    | .string, v => .error (.unsupported (.method m.name) (.value v.type))
    | declared, _ => .error (.unsupported (.method m.name) (.value declared))

/-- Membership in a field that holds several texts. -/
def arrayContains (f : Field) (v : Value) (negated : Bool) : Except CompileError FieldTest :=
  match f.type, v with
  | .array, .string s =>
    .ok ⟨f.selector, .array (if negated then .notContains else .contains) s⟩
  | declared, v =>
    .error (.unsupported (.method TextMethod.contains.name)
      (.pair (.value declared) (.value v.type)))

end Field
end Listing
