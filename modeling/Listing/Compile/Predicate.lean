import Listing.Catalog.Basic
import Listing.Compile.Test
import Listing.Eval.Basic

/-! # Compilation of predicates

  Closed parts of a predicate are evaluated and member chains of the
  parameter are looked up in the catalog; comparisons and methods that
  join the two become tests. A negation is not applied to finished
  clauses: it is handed down to the comparison or method underneath,
  which turns into its opposite.
-/

namespace Listing

/-- What a part of a predicate compiles to. -/
inductive Operand
  /-- A closed part, as its value. -/
  | constant (value : Value)
  /-- A field of the record. -/
  | field (f : Field)
  /-- A condition on the record. -/
  | clause (c : Clause)

/-- The operand in messages. -/
def Operand.subject : Operand → Subject
  | .constant v => .value v.type
  | .field f => .field f.type
  | .clause _ => .value .boolean

/-- What a predicate is compiled against. -/
structure Compiler where
  /-- The fields of the record. -/
  catalog : Catalog
  /-- The functions of closed parts. -/
  library : Library
  /-- The variables of closed parts and their time of evaluation. -/
  scope : Scope

namespace Compiler

/-! ### Leaves of a predicate -/

/-- The value of a closed part. -/
def value (c : Compiler) (e : Expr) : Except CompileError Value :=
  match e.evaluate c.library c.scope with
  | .ok v => .ok v
  | .error cause => .error (.failedEvaluation e cause)

/-- A closed part; only a truth value can be negated. -/
def closed (c : Compiler) (e : Expr) (negated : Bool) : Except CompileError Operand := do
  match ← c.value e, negated with
  | v, false => .ok (.constant v)
  | .boolean b, true => .ok (.constant (.boolean !b))
  | v, true => .error (.unsupported (.unary .not) (.value v.type))

/-- A member; it has to name a field, and only a truth value can be negated. -/
def field (c : Compiler) (e : Expr) (negated : Bool) : Except CompileError Operand :=
  match e.fieldPath? with
  | none => .error (.unsupported (.expression e) .derivedValue)
  | some path =>
    match c.catalog.lookup path with
    | none => .error (.unknownField c.catalog.entity path)
    | some f =>
      if negated then
        if f.type = .boolean then do .ok (.clause (.test (← f.flag true)))
        else .error (.unsupported (.unary .not) (.value f.type))
      else .ok (.field f)

/-! ### Joining operands -/

/-- The operand as a condition; `construct` is where it stands. -/
def condition (construct : Construct) : Operand → Except CompileError Clause
  | .clause c => .ok c
  | .constant (.boolean b) => .ok (.constant b)
  | .field f =>
    if f.type = .boolean then do .ok (.test (← f.flag false))
    else .error (.unsupported construct (.field f.type))
  | .constant v => .error (.unsupported construct (.value v.type))

/-- A comparison of a field with a constant, on either side. -/
def comparison (op : Comparison) : Operand → Operand → Except CompileError Operand
  | .field f, .constant v => do .ok (.clause (.test (← f.comparison op v)))
  | .constant v, .field f => do .ok (.clause (.test (← f.comparison op.swap v)))
  | l, r => .error (.unsupported (.compare op) (.pair l.subject r.subject))

/-- A method of a field with a constant argument. `name` is the method as written. -/
def method (m : TextMethod) (name : String) (negated : Bool) :
    Operand → Except CompileError Operand → Except CompileError Operand
  | .field f, arg => do
    match ← arg with
    | .constant v =>
      if f.type = .array ∧ m = .contains then
        .ok (.clause (.test (← f.arrayContains v negated)))
      else .ok (.clause (.test (← f.textMethod m v negated)))
    | other => .error (.unsupported (.method name) other.subject)
  | other, _ => .error (.unsupported (.method name) other.subject)

/-- The clause with one more item of a list that a field may or, negated, must not equal. -/
def addItem (f : Field) (negated : Bool) (clause : Clause) (item : Value) :
    Except CompileError Clause := do
  if negated then .ok (clause.and (.test (← f.comparison .notEqual item)))
  else .ok (clause.or (.test (← f.comparison .equal item)))

/-- Membership of a field in a list of constants. -/
def membership (negated : Bool) (items : Value) (arg : Except CompileError Operand) :
    Except CompileError Operand := do
  match items with
  | .list items =>
    match ← arg with
    | .field f => .ok (.clause (← items.foldlM (addItem f negated) (.constant negated)))
    | other => .error (.unsupported (.method TextMethod.contains.name) other.subject)
  | v => .error (.unsupported (.method TextMethod.contains.name) (.value v.type))

/-! ### Whole predicates -/

/-- One part of a predicate, under an odd number of negations if `negated`. -/
def operand (c : Compiler) (e : Expr) (negated : Bool) : Except CompileError Operand :=
  if e.isClosed then c.closed e negated else
  -- From here on the parameter occurs in `e`.
  match e with
  | .member .. => c.field e negated
  | .unary .not inner => c.operand inner (!negated)
  | .binary left (.logic op) right =>
    if negated then .error (.unsupported (.negatedLogic op) (.value .boolean))
    else do
      let l ← condition (.logic op) (← c.operand left false)
      let r ← condition (.logic op) (← c.operand right false)
      match op with
      | .and => .ok (.clause (l.and r))
      | .or => .ok (.clause (l.or r))
  | .binary left (.compare op) right => do
    let l ← c.operand left false
    let r ← c.operand right false
    comparison (if negated then op.negate else op) l r
  | .binary _ (.arith op) _ => .error (.unsupported (.arith op) .someField)
  | .method target name [arg] =>
    match TextMethod.ofName? name with
    | none => .error (.unsupported (.method name) .someField)
    | some m =>
      if target.isClosed then
        -- The field can only be the item that a closed list is searched for.
        if m = .contains then do membership negated (← c.value target) (c.operand arg false)
        else .error (.unsupported (.method name) .fieldArgument)
      else do method m name negated (← c.operand target false) (c.operand arg false)
  | .method _ name args => .error (.unsupported (.methodCount name args.length) .someField)
  | .call name _ => .error (.unsupported (.function name) .someField)
  | .parameter => .error (.unsupported (.expression e) .record)
  | .unary .negate _ => .error (.unsupported (.unary .negate) .someField)
  | .list _ => .error (.unsupported .list .someField)
  | .constant _ | .captured _ => .error (.faultyClause (.unevaluated e.text))

/-- The condition that a predicate puts on a record. -/
def compile (c : Compiler) (p : Lambda) : Except CompileError Compiled := do
  let clause ← condition .predicate (← c.operand p.body false)
  match clause.compiled with
  | .ok compiled => .ok compiled
  | .error fault => .error (.faultyClause fault)

end Compiler

/-! ### Orderings -/

/-- The field that an ordering names. -/
def Catalog.sortKey (c : Catalog) (key : Lambda) : Except CompileError Selector :=
  match key.body.fieldPath? with
  | none => .error (.invalidSortKey key)
  | some path =>
    match c.lookup path with
    | none => .error (.unknownField c.entity path)
    | some f => .ok f.selector

end Listing
