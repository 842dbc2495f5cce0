import Listing.Proofs.Compile.Outcome
import Listing.Proofs.Compile.Replacement
import Listing.Scenario.Task

/-! # What a failure is about

  A predicate that does not compile fails for a reason that can be
  pointed at: the path that is reported belongs to a chain of members in
  the predicate, the expression that is reported is a closed part of it
  and has no value, for the cause that is reported. And a missing value
  is reported as such or does not matter.
-/

namespace Listing
namespace Compiler

variable {c : Compiler}

/-! ### Parts without a value -/

/-- The computation reports a closed part without a value. -/
def LacksValue {α : Type} (x : Except CompileError α) : Prop :=
  ∃ e cause, x = .error (.failedEvaluation e cause)

/-- A closed part without a value may be replaced by any closed part, unless it is reported. -/
theorem Replaceable.of_error {d d' : Expr} {cause : EvalError} (hd : d.isClosed = true)
    (hcause : d.evaluate c.library c.scope = .error cause) (hd' : d'.isClosed = true) :
    c.Replaceable CompileError.IsMissingValue d d' :=
  .of_isClosed hd hd' (.inr ⟨fun _ h => h, cause, hcause⟩)

/-- Unless the predicate fails for want of a value, it does not matter what stands in the place
of a part that has none. -/
theorem sameOutcome_of_error {d d' : Expr} {cause : EvalError} (hd : d.isClosed = true)
    (hcause : d.evaluate c.library c.scope = .error cause) (hd' : d'.isClosed = true)
    (parameter : String) (k : Expr.Context)
    (hvalue : ¬LacksValue (c.compile ⟨parameter, k.fill d⟩)) :
    SameOutcome (c.compile ⟨parameter, k.fill d⟩) (c.compile ⟨parameter, k.fill d'⟩) := by
  have hreplaceable : c.Replaceable CompileError.IsMissingValue d d' := .of_error hd hcause hd'
  have hpersists := (hreplaceable.fill k).compile parameter
  refine Or.resolve_right hpersists ?_
  rintro ⟨_, herror, e, cause, rfl⟩
  exact hvalue ⟨e, cause, herror⟩

/-- A closed predicate without a value fails for the want of it. -/
theorem compile_of_error {p : Lambda} {cause : EvalError} (hclosed : p.body.isClosed = true)
    (hcause : p.body.evaluate c.library c.scope = .error cause) :
    c.compile p = .error (.failedEvaluation p.body cause) := by
  have hvalue : c.value p.body = .error (.failedEvaluation p.body cause) := by
    rw [value, hcause]
  have hoperand : c.operand p.body false = .error (.failedEvaluation p.body cause) := by
    rw [operand_of_isClosed hclosed, closed, hvalue]
    rfl
  rw [compile, hoperand]
  rfl

/-! ### The culprit -/

/-- An unknown field is a chain of members in the body whose path the catalog of the reported
entity does not have, and a failed evaluation is a closed part of the body that has no value for
the reported cause. A predicate that is closed as a whole and has no value fails in this way, and
a closed part without a value leads to no other failure: if the predicate does not fail for want
of a value, then every closed part in the same place leads to the same outcome. -/
theorem compile_culprit (c : Compiler) (p : Lambda) :
    (∀ entity path, c.compile p = .error (.unknownField entity path) →
      entity = c.catalog.entity ∧ c.catalog.lookup path = none ∧
        ∃ names, names ≠ [] ∧ (Expr.chain names).Occurs p.body ∧
          path = ".".intercalate names) ∧
    (∀ e cause, c.compile p = .error (.failedEvaluation e cause) →
      e.Occurs p.body ∧ e.isClosed = true ∧
        e.evaluate c.library c.scope = .error cause) ∧
    (∀ cause, p.body.isClosed = true → p.body.evaluate c.library c.scope = .error cause →
      c.compile p = .error (.failedEvaluation p.body cause)) ∧
    ∀ (k : Expr.Context) (d : Expr) (cause : EvalError), p.body = k.fill d →
      d.isClosed = true → d.evaluate c.library c.scope = .error cause →
        (∃ e cause', c.compile p = .error (.failedEvaluation e cause')) ∨
          ∀ d', d'.isClosed = true →
            SameOutcome (c.compile p) (c.compile ⟨p.parameter, k.fill d'⟩) := by
  refine ⟨?_, ?_, ?_, ?_⟩
  · intro entity path h
    cases failsAs_compile c p _ h with
    | noField hne hoccurs hlookup => exact ⟨rfl, hlookup, _, hne, hoccurs, rfl⟩
  · intro e cause h
    cases failsAs_compile c p _ h with
    | noValue hoccurs hclosed hcause => exact ⟨hoccurs, hclosed, hcause⟩
  · intro cause hclosed hcause
    exact compile_of_error hclosed hcause
  · obtain ⟨parameter, body⟩ := p
    rintro k d cause rfl hd hcause
    by_cases hvalue : LacksValue (c.compile ⟨parameter, k.fill d⟩)
    · exact .inl hvalue
    · refine .inr fun d' hd' => ?_
      exact sameOutcome_of_error hd hcause hd' parameter k hvalue

/-- `!(x.Options.Colour)` names no field, `1 / 0` in `!(x.Options.Priority < 1 / 0)` and by itself
has no value, and in `x.TaskId + 1 / 0` it is not asked for one. -/
theorem compile_culprit_of_tasks :
    let c := Scenario.compilerAtNoon .task
    let options : Expr := .member .parameter "Options"
    let quotient : Expr := .binary (.constant (.int 1)) (.arith .div) (.constant (.int 0))
    let colour : Lambda := ⟨"x", .unary .not (.member options "Colour")⟩
    let priority : Lambda :=
      ⟨"x", .unary .not (.binary (.member options "Priority") (.compare .less) quotient)⟩
    let k : Expr.Context := [.rightOperand (.member .parameter "TaskId") (.arith .add)]
    let sum : Lambda := ⟨"x", k.fill quotient⟩
    (c.compile colour = .error (.unknownField .task "Options.Colour") ∧
      c.catalog.lookup "Options.Colour" = none ∧
      ∃ names, names ≠ [] ∧ (Expr.chain names).Occurs colour.body ∧
        "Options.Colour" = ".".intercalate names) ∧
    (c.compile priority = .error (.failedEvaluation quotient .divisionByZero) ∧
      quotient.Occurs priority.body ∧ quotient.isClosed = true ∧
      quotient.evaluate c.library c.scope = .error .divisionByZero) ∧
    c.compile ⟨"x", quotient⟩ = .error (.failedEvaluation quotient .divisionByZero) ∧
    c.compile sum = .error (.unsupported (.arith .add) .someField) ∧
      ((∃ e cause, c.compile sum = .error (.failedEvaluation e cause)) ∨
        ∀ d, d.isClosed = true → SameOutcome (c.compile sum) (c.compile ⟨"x", k.fill d⟩)) := by
  intro c options quotient colour priority k sum
  have hcolour : c.compile colour = .error (.unknownField .task "Options.Colour") := rfl
  have hpriority : c.compile priority = .error (.failedEvaluation quotient .divisionByZero) := rfl
  have hquotient : quotient.evaluate c.library c.scope = .error .divisionByZero := rfl
  have hunknown := (compile_culprit c colour).1 .task "Options.Colour" hcolour
  have hvalue := (compile_culprit c priority).2.1 quotient .divisionByZero hpriority
  have hwhole := (compile_culprit c ⟨"x", quotient⟩).2.2.1 .divisionByZero rfl hquotient
  have hsum := (compile_culprit c sum).2.2.2 k quotient .divisionByZero rfl rfl hquotient
  exact ⟨⟨hcolour, hunknown.2⟩, ⟨hpriority, hvalue⟩, hwhole, rfl, hsum⟩

end Compiler
end Listing
