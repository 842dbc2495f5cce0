import Listing.Proofs.Compile.Derivation
import Listing.Proofs.Library.Spelling
import Listing.Proofs.Meaning.Record

/-! # Evaluation on a record

  An expression about a record has a value once the record is given:
  the chains of members that name fields of the catalog stand for the
  values of these fields, and what is left is evaluated like any closed
  expression, logical operators included.
-/

namespace Listing

namespace Expr

/-! ### Values in place of fields -/

mutual

/-- The expression with the value of each field in place of the chain of members that names
it. `read` knows the values of fields by their paths. -/
def instantiate (read : String → Option Value) : Expr → Expr
  | .parameter => .parameter
  | .constant value => .constant value
  | .captured name => .captured name
  | .member target name =>
    match (Expr.member target name).fieldPath?.bind read with
    | some value => .constant value
    | none => .member (target.instantiate read) name
  | .call function args => .call function (instantiateAll read args)
  | .method target function args =>
    .method (target.instantiate read) function (instantiateAll read args)
  | .list items => .list (instantiateAll read items)
  | .binary left op right => .binary (left.instantiate read) op (right.instantiate read)
  | .unary op operand => .unary op (operand.instantiate read)

/-- Several expressions with the values of fields in them. -/
def instantiateAll (read : String → Option Value) : List Expr → List Expr
  | [] => []
  | e :: es => e.instantiate read :: instantiateAll read es

end

/-- No chain of members starts at the parameter where there is no parameter. -/
theorem memberNames_of_isClosed : ∀ {e : Expr}, e.isClosed = true → e.memberNames = none
  | .parameter, h => by cases h
  | .member target name, h => by
    have htarget : target.isClosed = true := h
    rw [memberNames, memberNames_of_isClosed htarget]
    rfl
  | .constant _, _ | .captured _, _ | .call .., _ | .method .., _ | .list _, _ | .binary .., _
  | .unary .., _ => rfl

theorem fieldPath?_of_isClosed {e : Expr} (h : e.isClosed = true) : e.fieldPath? = none := by
  rw [fieldPath?, memberNames_of_isClosed h]

mutual

/-- A closed expression says nothing of the record. -/
theorem instantiate_of_isClosed (read : String → Option Value) :
    ∀ {e : Expr}, e.isClosed = true → e.instantiate read = e
  | .parameter, h => by cases h
  | .constant _, _ | .captured _, _ => rfl
  | .member target name, h => by
    have htarget : target.isClosed = true := h
    rw [instantiate, fieldPath?_of_isClosed h, instantiate_of_isClosed read htarget]
    rfl
  | .call function args, h => by
    rw [instantiate, instantiateAll_of_allClosed read h]
  | .method target function args, h => by
    obtain ⟨htarget, hargs⟩ := Bool.and_eq_true_iff.mp h
    rw [instantiate, instantiate_of_isClosed read htarget, instantiateAll_of_allClosed read hargs]
  | .list items, h => by
    rw [instantiate, instantiateAll_of_allClosed read h]
  | .binary left op right, h => by
    obtain ⟨hleft, hright⟩ := Bool.and_eq_true_iff.mp h
    rw [instantiate, instantiate_of_isClosed read hleft, instantiate_of_isClosed read hright]
  | .unary op operand, h => by
    have hoperand : operand.isClosed = true := h
    rw [instantiate, instantiate_of_isClosed read hoperand]

theorem instantiateAll_of_allClosed (read : String → Option Value) :
    ∀ {es : List Expr}, allClosed es = true → instantiateAll read es = es
  | [], _ => rfl
  | e :: es, h => by
    obtain ⟨he, hes⟩ := Bool.and_eq_true_iff.mp h
    rw [instantiateAll, instantiate_of_isClosed read he, instantiateAll_of_allClosed read hes]

end

end Expr

/-! ### Values of expressions on a record -/

theorem Value.asBool_eq_ok_iff {v : Value} {b : Bool} : v.asBool = .ok b ↔ v = .boolean b := by
  cases v <;> simp [asBool]

/-- Only truth values can be negated. -/
theorem Value.applyUnary_not_eq_ok_iff {v w : Value} :
    applyUnary .not v = .ok w ↔ ∃ b, v = .boolean b ∧ w = .boolean !b := by
  cases v <;> simp [applyUnary, eq_comm]

/-- The value of a negation. -/
theorem Expr.evaluate_not_eq_ok_iff {lib : Library} {s : Scope} {e : Expr} {v : Value} :
    (Expr.unary .not e).evaluate lib s = .ok v ↔
      ∃ b, e.evaluate lib s = .ok (.boolean b) ∧ v = .boolean !b := by
  rw [evaluate]
  constructor
  · intro h
    obtain ⟨x, hx, h⟩ := bind_eq_ok.mp h
    obtain ⟨b, rfl, rfl⟩ := Value.applyUnary_not_eq_ok_iff.mp h
    exact ⟨b, hx, rfl⟩
  · rintro ⟨b, hb, rfl⟩
    exact bind_eq_ok.mpr ⟨.boolean b, hb, rfl⟩

/-- The value of a comparison is that of the values of its sides. -/
theorem Expr.evaluate_compare_eq_ok_iff {lib : Library} {s : Scope} {op : Comparison}
    {left right : Expr} {v : Value} :
    (Expr.binary left (.compare op) right).evaluate lib s = .ok v ↔
      ∃ x y, left.evaluate lib s = .ok x ∧ right.evaluate lib s = .ok y ∧
        x.compareBy op y = .ok v := by
  rw [evaluate]
  constructor
  · intro h
    obtain ⟨x, hx, h⟩ := bind_eq_ok.mp h
    obtain ⟨y, hy, h⟩ := bind_eq_ok.mp h
    exact ⟨x, y, hx, hy, h⟩
  · rintro ⟨x, y, hx, hy, h⟩
    exact bind_eq_ok.mpr ⟨x, hx, bind_eq_ok.mpr ⟨y, hy, h⟩⟩

/-- A logical operator that has a value has a truth value on its left, and one on its right as
well if the left one does not decide. -/
theorem Expr.evaluate_logic_eq_ok {lib : Library} {s : Scope} {op : Connective}
    {left right : Expr} {v : Value}
    (h : (Expr.binary left (.logic op) right).evaluate lib s = .ok v) :
    ∃ p, left.evaluate lib s = .ok (.boolean p) ∧
      (p = op.decider ∧ v = .boolean p ∨
        p ≠ op.decider ∧ ∃ q, right.evaluate lib s = .ok (.boolean q) ∧ v = .boolean q) := by
  rw [evaluate] at h
  obtain ⟨x, hx, h⟩ := bind_eq_ok.mp h
  obtain ⟨p, hp, h⟩ := bind_eq_ok.mp h
  rw [Value.asBool_eq_ok_iff.mp hp] at hx
  refine ⟨p, hx, ?_⟩
  split at h
  · next hdecides =>
    cases h
    exact .inl ⟨hdecides, rfl⟩
  · next hundecided =>
    obtain ⟨y, hy, h⟩ := bind_eq_ok.mp h
    obtain ⟨q, hq, h⟩ := bind_eq_ok.mp h
    rw [Value.asBool_eq_ok_iff.mp hq] at hy
    cases h
    exact .inr ⟨hundecided, q, hy, rfl⟩

/-- The value of the field that a path names. -/
def Catalog.read (c : Catalog) (r : Record) (path : String) : Option Value :=
  (c.lookup path).map fun f => r f.selector

namespace Compiler

variable {c : Compiler} {r : Record}

/-- The value of an expression on a record. -/
def evaluateOn (c : Compiler) (r : Record) (e : Expr) : Except EvalError Value :=
  (e.instantiate (c.catalog.read r)).evaluate c.library c.scope

theorem evaluateOn_of_isClosed {e : Expr} (h : e.isClosed = true) :
    c.evaluateOn r e = e.evaluate c.library c.scope := by
  rw [evaluateOn, Expr.instantiate_of_isClosed _ h]

/-- A chain of members that names a field has the value of the field. -/
theorem evaluateOn_field {target : Expr} {name path : String} {f : Field}
    (hpath : (Expr.member target name).fieldPath? = some path)
    (hf : c.catalog.lookup path = some f) :
    c.evaluateOn r (.member target name) = .ok (r f.selector) := by
  have hread : c.catalog.read r path = some (r f.selector) := by rw [Catalog.read, hf]; rfl
  rw [evaluateOn, Expr.instantiate, hpath, Option.bind_some, hread]
  rfl

theorem evaluateOn_unary (op : UnaryOp) (e : Expr) :
    c.evaluateOn r (.unary op e) = (do Value.applyUnary op (← c.evaluateOn r e)) := rfl

theorem evaluateOn_compare (op : Comparison) (left right : Expr) :
    c.evaluateOn r (.binary left (.compare op) right) =
      (do Value.compareBy op (← c.evaluateOn r left) (← c.evaluateOn r right)) := rfl

theorem evaluateOn_logic (op : Connective) (left right : Expr) :
    c.evaluateOn r (.binary left (.logic op) right) = (do
      let p ← (← c.evaluateOn r left).asBool
      if p = op.decider then .ok (.boolean p)
      else .ok (.boolean (← (← c.evaluateOn r right).asBool))) := rfl

theorem evaluateOn_method (target arg : Expr) (name : String) :
    c.evaluateOn r (.method target name [arg]) = (do
      let x ← c.evaluateOn r target
      let y ← c.evaluateOn r arg
      c.library.call c.scope name [x, y]) := by
  have hargs : c.evaluateOn r (.method target name [arg]) = (do
      let x ← c.evaluateOn r target
      let ys ← (do let y ← c.evaluateOn r arg; .ok [y])
      c.library.call c.scope name (x :: ys)) := rfl
  rw [hargs]
  cases c.evaluateOn r target with
  | error e => rfl
  | ok x => cases c.evaluateOn r arg <;> rfl

/-- A method of texts is its function, in whatever spelling. -/
theorem evaluateOn_textMethod (hlib : c.library.KeepsTextMethods) {target arg : Expr}
    {name : String} {m : TextMethod} (hname : TextMethod.ofName? name = some m) :
    c.evaluateOn r (.method target name [arg]) = (do
      let x ← c.evaluateOn r target
      let y ← c.evaluateOn r arg
      m.function c.scope [x, y]) := by
  rw [evaluateOn_method]
  simp only [hlib.call hname]

/-- The left side of a logical operator is a truth value, and so is the right side where the
left one does not decide. -/
theorem evaluateOn_logic_eq_ok {op : Connective} {left right : Expr} {v : Value}
    (h : c.evaluateOn r (.binary left (.logic op) right) = .ok v) :
    ∃ p, c.evaluateOn r left = .ok (.boolean p) ∧
      (p = op.decider ∧ v = .boolean p ∨
        p ≠ op.decider ∧ ∃ q, c.evaluateOn r right = .ok (.boolean q) ∧ v = .boolean q) :=
  Expr.evaluate_logic_eq_ok h

theorem evaluateOn_compare_eq_ok {op : Comparison} {left right : Expr} {v : Value}
    (h : c.evaluateOn r (.binary left (.compare op) right) = .ok v) :
    ∃ x y, c.evaluateOn r left = .ok x ∧ c.evaluateOn r right = .ok y ∧
      x.compareBy op y = .ok v :=
  Expr.evaluate_compare_eq_ok_iff.mp h

/-- The value of a method of texts is that of its function. -/
theorem evaluateOn_textMethod_eq_ok (hlib : c.library.KeepsTextMethods) {target arg : Expr}
    {name : String} {m : TextMethod} (hname : TextMethod.ofName? name = some m) {v : Value}
    (h : c.evaluateOn r (.method target name [arg]) = .ok v) :
    ∃ x y, c.evaluateOn r target = .ok x ∧ c.evaluateOn r arg = .ok y ∧
      m.function c.scope [x, y] = .ok v := by
  rw [evaluateOn_textMethod hlib hname] at h
  obtain ⟨x, hx, h⟩ := bind_eq_ok.mp h
  obtain ⟨y, hy, h⟩ := bind_eq_ok.mp h
  exact ⟨x, y, hx, hy, h⟩

end Compiler
end Listing
