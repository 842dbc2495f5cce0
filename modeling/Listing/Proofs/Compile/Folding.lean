import Listing.Proofs.Compile.Replacement
import Listing.Scenario.Task

/-! # Folding of closed parts

  A closed part of a predicate may be replaced by the constant that is
  its value, wherever it stands. The compiler then does the same with
  the whole, and where it fails it fails in the same way; only the
  expression that a failure quotes may show the difference.
-/

namespace Listing
namespace Compiler

variable {c : Compiler}

/-- The compiler does the same with both expressions, whatever they are parts of. -/
structure Interchangeable (c : Compiler) (a b : Expr) : Prop where
  isClosed : a.isClosed = b.isClosed
  evaluate : a.evaluate c.library c.scope = b.evaluate c.library c.scope
  /-- As chains of members they have the same text. -/
  chainText : a.chainText? = b.chainText?
  operand : ∀ negated, SameOutcome (c.operand a negated) (c.operand b negated)

namespace Interchangeable

variable {a b : Expr}

/-- Expressions are interchangeable where a replacement may not change any failure. -/
theorem iff_replaceable : c.Interchangeable a b ↔ c.Replaceable (fun _ => False) a b := by
  constructor
  · intro h
    exact ⟨h.isClosed, .inl h.evaluate, h.chainText, fun negated => .inl (h.operand negated)⟩
  · intro h
    exact ⟨h.isClosed, h.evaluate_eq, h.chainText,
      fun negated => (h.operand negated).sameOutcome_of_strict⟩

/-- A closed expression and its value. -/
theorem constant {v : Value} (hclosed : a.isClosed = true)
    (hv : a.evaluate c.library c.scope = .ok v) : c.Interchangeable a (.constant v) :=
  iff_replaceable.mpr (.of_isClosed hclosed rfl (.inl hv))

theorem fill (h : c.Interchangeable a b) (k : Expr.Context) :
    c.Interchangeable (k.fill a) (k.fill b) :=
  iff_replaceable.mpr ((iff_replaceable.mp h).fill k)

theorem compile (h : c.Interchangeable a b) (parameter : String) :
    SameOutcome (c.compile ⟨parameter, a⟩) (c.compile ⟨parameter, b⟩) :=
  ((iff_replaceable.mp h).compile parameter).sameOutcome_of_strict

end Interchangeable

/-- A closed part of a predicate may be exchanged for its value wherever it occurs, a captured
variable for the value that it is bound to: the predicate compiles to the same, or fails in the
same way. -/
theorem compile_fill_constant (c : Compiler) (parameter : String) (k : Expr.Context) :
    (∀ e v, e.isClosed = true → e.evaluate c.library c.scope = .ok v →
      SameOutcome (c.compile ⟨parameter, k.fill e⟩)
        (c.compile ⟨parameter, k.fill (.constant v)⟩)) ∧
    ∀ name v, c.scope.captured.get? name = some v →
      SameOutcome (c.compile ⟨parameter, k.fill (.captured name)⟩)
        (c.compile ⟨parameter, k.fill (.constant v)⟩) := by
  have hfold : ∀ e v, e.isClosed = true → e.evaluate c.library c.scope = .ok v →
      SameOutcome (c.compile ⟨parameter, k.fill e⟩)
        (c.compile ⟨parameter, k.fill (.constant v)⟩) := by
    intro e v hclosed hv
    exact ((Interchangeable.constant hclosed hv).fill k).compile parameter
  refine ⟨hfold, fun name v hbound => hfold _ v rfl ?_⟩
  rw [Expr.evaluate, hbound]

/-- The limit in `!(x.Options.Priority <= limit + 1)` is a sum or its value, and the variable in
the sum is a variable or its value. -/
theorem compile_fill_limit :
    let c : Compiler := { Scenario.compilerAtNoon .task with
      scope := ⟨.ofList [("limit", .int 3)], Scenario.noon⟩ }
    let priority : Expr := .member (.member .parameter "Options") "Priority"
    let limit : Expr := .binary (.captured "limit") (.arith .add) (.constant (.int 1))
    let k : Expr.Context := [.rightOperand priority (.compare .lessOrEqual), .unary .not]
    let l : Expr.Context := .leftOperand (.arith .add) (.constant (.int 1)) :: k
    c.compile ⟨"x", k.fill limit⟩ = .ok (.filter ⟨[⟨[Scenario.priority .greaterThan 4]⟩]⟩) ∧
      SameOutcome (c.compile ⟨"x", k.fill limit⟩) (c.compile ⟨"x", k.fill (.constant (.int 4))⟩) ∧
      SameOutcome (c.compile ⟨"x", l.fill (.captured "limit")⟩)
        (c.compile ⟨"x", l.fill (.constant (.int 3))⟩) := by
  intro c priority limit k l
  have hsum : limit.evaluate c.library c.scope = .ok (.int 4) := rfl
  have hbound : c.scope.captured.get? "limit" = some (.int 3) := rfl
  exact ⟨rfl, (compile_fill_constant c "x" k).1 limit (.int 4) rfl hsum,
    (compile_fill_constant c "x" l).2 "limit" (.int 3) hbound⟩

end Compiler
end Listing
