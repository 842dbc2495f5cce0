import Listing.Proofs.Meaning.Filter
import Listing.Scenario.Task

/-! # Truth of clauses

  What a clause says once every test of a field is true or false. This
  is asked of all clauses, also of those with empty parts that the
  compiler never builds: an empty conjunction is true, and a clause
  without alternatives is false. A join is true as its operator says.
  As the condition of a whole predicate a clause keeps its truth, and
  only one with an empty part is refused.
-/

namespace Listing
namespace Clause

variable (valuation : FieldTest → Bool)

/-! ### Truth -/

/-- The constant is `true`, the test or all tests are true, or some alternative is true. -/
def holds : Clause → Bool
  | .constant b => b
  | .test t => valuation t
  | .all c => c.holds valuation
  | .any f => f.holds valuation

/-- A clause is as true as the compiled predicate that it stands for. -/
theorem holds_outcome (c : Clause) : c.outcome.holds valuation = c.holds valuation := by
  cases c with
  | constant b => rfl
  | test t => exact Filter.holds_single valuation t
  | all x => exact Bool.or_false _
  | any f => rfl

theorem holds_and (a b : Clause) :
    (a.and b).holds valuation = (a.holds valuation && b.holds valuation) := by
  simp only [← holds_outcome, outcome_and, Compiled.holds_and]

theorem holds_or (a b : Clause) :
    (a.or b).holds valuation = (a.holds valuation || b.holds valuation) := by
  simp only [← holds_outcome, outcome_or, Compiled.holds_or]

/-! ### Refused clauses -/

/-- The clause has an empty part, and the fault says which. -/
inductive Faulty : Clause → ClauseFault → Prop
  /-- It is a conjunction without tests. -/
  | noTests : Faulty (.all ⟨[]⟩) .emptyConjunction
  /-- It has no alternatives. -/
  | noAlternatives : Faulty (.any ⟨[]⟩) (.emptyAlternative 0)
  /-- One of its alternatives has no tests. -/
  | emptyAlternative {f : Filter} {c : Conjunction} (hc : c ∈ f.alternatives)
      (hempty : c.tests = []) : Faulty (.any f) (.emptyAlternative f.alternatives.length)

/-- Alternatives are refused where there are none or where one has no tests. -/
theorem refused_iff {f : Filter} :
    (f.alternatives.isEmpty || f.matchesAll) = true ↔
      f.alternatives = [] ∨ ∃ c ∈ f.alternatives, c.tests = [] := by
  simp [Filter.matchesAll]

theorem Faulty.compiled {c : Clause} {fault : ClauseFault} (h : c.Faulty fault) :
    c.compiled = .error fault := by
  cases h with
  | noTests => rfl
  | noAlternatives => rfl
  | emptyAlternative hc hempty => exact if_pos (refused_iff.mpr (.inr ⟨_, hc, hempty⟩))

/-- A clause without empty parts becomes what it stands for. -/
theorem compiled_or_faulty (c : Clause) : c.compiled = .ok c.outcome ∨ ∃ fault, c.Faulty fault := by
  cases c with
  | constant b => exact .inl rfl
  | test t => exact .inl rfl
  | all x =>
    obtain ⟨_ | _⟩ := x
    · exact .inr ⟨_, .noTests⟩
    · exact .inl rfl
  | any f =>
    by_cases hrefused : (f.alternatives.isEmpty || f.matchesAll) = true
    · obtain ⟨alternatives⟩ := f
      rcases refused_iff.mp hrefused with rfl | ⟨x, hx, hempty⟩
      · exact .inr ⟨_, .noAlternatives⟩
      · exact .inr ⟨_, .emptyAlternative hx hempty⟩
    · exact .inl (if_neg hrefused)

theorem compiled_eq_error_iff {c : Clause} {fault : ClauseFault} :
    c.compiled = .error fault ↔ c.Faulty fault := by
  refine ⟨fun h => ?_, Faulty.compiled⟩
  rcases c.compiled_or_faulty with hok | ⟨fault', hfaulty⟩
  · cases hok.symm.trans h
  · cases hfaulty.compiled.symm.trans h
    exact hfaulty

/-- A join is true exactly as its operator says, whichever tests are true. A clause becomes a
predicate that is as true as itself, unless it is an empty conjunction or has no alternatives or
an empty one; then it is a fault of the compiler, and the fault counts the alternatives. -/
theorem truth_of_clauses (a b : Clause) :
    (∀ valuation, (a.and b).holds valuation = (a.holds valuation && b.holds valuation)) ∧
    (∀ valuation, (a.or b).holds valuation = (a.holds valuation || b.holds valuation)) ∧
    (∀ fault, a.compiled = .error fault ↔ a.Faulty fault) ∧
    ((∃ x, a.compiled = .ok x ∧ ∀ valuation, x.holds valuation = a.holds valuation) ↔
      ¬∃ fault, a.Faulty fault) := by
  refine ⟨fun v => holds_and v a b, fun v => holds_or v a b, fun _ => compiled_eq_error_iff, ?_⟩
  constructor
  · rintro ⟨x, hx, -⟩ ⟨fault, hfaulty⟩
    cases hfaulty.compiled.symm.trans hx
  · intro hsound
    have hok : a.compiled = .ok a.outcome := a.compiled_or_faulty.resolve_right hsound
    exact ⟨a.outcome, hok, fun valuation => holds_outcome valuation a⟩

/-- An empty conjunction makes its alternatives true. With a clause that has no alternatives they
are false, and as a predicate of their own they are refused. -/
example (valuation : FieldTest → Bool) :
    let a : Clause := .any ⟨[⟨[]⟩, ⟨[Scenario.priority .greaterThan 3]⟩]⟩
    let b : Clause := .any ⟨[]⟩
    (a.or b).holds valuation = true ∧ (a.and b).holds valuation = false ∧
      a.compiled = .error (.emptyAlternative 2) :=
  ⟨rfl, rfl, rfl⟩

end Clause
end Listing
