import Listing.Plan
import Listing.Proofs.Compile.Failure
import Listing.Proofs.Compile.NormalForm
import Listing.Scenario.Task

/-! # Outcomes of compilation

  A predicate compiles to what its clause stands for. Since every
  clause of the compiler is proper, compilation never stops at a fault
  of its own, and a plan lets everything or nothing pass only where the
  predicate is constant or missing.
-/

namespace Listing
namespace Compiler

/-! ### Whole predicates -/

/-- The expression, as a condition of its own, is the clause. -/
def Reduces (c : Compiler) (e : Expr) (a : Clause) : Prop :=
  ∃ o, c.operand e false = .ok o ∧ condition .predicate o = .ok a

theorem Reduces.proper {c : Compiler} {e : Expr} {a : Clause} (h : c.Reduces e a) :
    a.outcome.Proper := by
  obtain ⟨o, ho, ha⟩ := h
  exact proper_of_condition (proper_of_yields (yields_of_operand ho)) ha

/-- A closed predicate compiles to its truth value. -/
theorem reduces_of_isClosed {c : Compiler} {e : Expr} {a : Clause} (hclosed : e.isClosed = true) :
    c.Reduces e a ↔
      ∃ b, e.evaluate c.library c.scope = .ok (.boolean b) ∧ a = .constant b := by
  unfold Reduces
  rw [operand_of_isClosed hclosed]
  constructor
  · rintro ⟨o, ho, ha⟩
    obtain ⟨v, hv, ho⟩ := bind_eq_ok.mp ho
    cases ho
    cases v with
    | boolean b =>
      cases ha
      exact ⟨b, value_eq_ok.mp hv, rfl⟩
    | _ => cases ha
  · rintro ⟨b, hb, rfl⟩
    refine ⟨.constant (.boolean b), ?_, rfl⟩
    exact bind_eq_ok.mpr ⟨.boolean b, value_eq_ok.mpr hb, rfl⟩

/-- A predicate compiles to what its clause stands for. -/
theorem compile_eq_ok_iff {c : Compiler} {p : Lambda} {x : Compiled} :
    c.compile p = .ok x ↔ ∃ a, c.Reduces p.body a ∧ x = a.outcome := by
  unfold compile
  constructor
  · intro h
    obtain ⟨o, ho, h⟩ := bind_eq_ok.mp h
    obtain ⟨a, ha, h⟩ := bind_eq_ok.mp h
    have hred : c.Reduces p.body a := ⟨o, ho, ha⟩
    rw [Clause.compiled_eq_ok hred.proper] at h
    cases h
    exact ⟨a, hred, rfl⟩
  · rintro ⟨a, ⟨o, ho, ha⟩, rfl⟩
    have hred : c.Reduces p.body a := ⟨o, ho, ha⟩
    refine bind_eq_ok.mpr ⟨o, ho, bind_eq_ok.mpr ⟨a, ha, ?_⟩⟩
    rw [Clause.compiled_eq_ok hred.proper]

/-- Every failure of a predicate has a culprit in its body: the clauses that it finishes are
proper, so the last step adds no failure. -/
theorem failsAs_compile (c : Compiler) (p : Lambda) :
    FailsAs (c.Culprit p.body) (c.compile p) := by
  unfold compile
  refine (failsAs_operand p.body false).bind fun o ho => ?_
  refine (failsAs_condition .noCounterpart _ o).bind fun a ha => ?_
  have hred : c.Reduces p.body a := ⟨o, ho, ha⟩
  rw [Clause.compiled_eq_ok hred.proper]
  exact .ok _

/-- The computation does not end in a fault of the compiler. -/
def Faultless {α : Type} (r : Except CompileError α) : Prop :=
  ∀ fault, r ≠ .error (.faultyClause fault)

theorem faultless_compile (c : Compiler) (p : Lambda) : Faultless (c.compile p) := by
  intro fault h
  cases failsAs_compile c p _ h

theorem proper_of_compile {c : Compiler} {p : Lambda} {x : Compiled}
    (h : c.compile p = .ok x) : x.Proper := by
  obtain ⟨a, hred, rfl⟩ := compile_eq_ok_iff.mp h
  exact hred.proper

/-! ### Plans -/

/-- A plan is about all records, or about those that its predicate selects. -/
theorem selection_of_plan {c : Compiler} {predicate key : Option Lambda}
    {direction : Direction} {pageSize : UInt64} {plan : Plan}
    (h : c.plan predicate key direction pageSize = .ok plan) :
    (predicate = none ∧ plan.selection = .matching .all) ∨
      ∃ p x, predicate = some p ∧ c.compile p = .ok x ∧ plan.selection = x.selection := by
  unfold Compiler.plan at h
  cases predicate with
  | none =>
    refine .inl ⟨rfl, ?_⟩
    cases key with
    | none => cases h; rfl
    | some k =>
      obtain ⟨selection, hselection, h⟩ := bind_eq_ok.mp h
      cases hselection
      obtain ⟨field, -, h⟩ := bind_eq_ok.mp h
      cases h; rfl
  | some p =>
    obtain ⟨x, hx, h⟩ := bind_eq_ok.mp h
    refine .inr ⟨p, x, rfl, hx, ?_⟩
    cases key with
    | none => cases h; rfl
    | some k =>
      obtain ⟨selection, hselection, h⟩ := bind_eq_ok.mp h
      cases hselection
      obtain ⟨field, -, h⟩ := bind_eq_ok.mp h
      cases h; rfl

/-- The predicate is missing or compiles to the constant `true`. -/
def SelectsAll (c : Compiler) (predicate : Option Lambda) : Prop :=
  predicate = none ∨ ∃ p, predicate = some p ∧ c.compile p = .ok (.constant true)

/-- The predicate compiles to the constant `false`. -/
def SelectsNothing (c : Compiler) (predicate : Option Lambda) : Prop :=
  ∃ p, predicate = some p ∧ c.compile p = .ok (.constant false)

/-- What a plan is about shows whether its predicate is constant. -/
theorem selection_cases {c : Compiler} {predicate key : Option Lambda}
    {direction : Direction} {pageSize : UInt64} {plan : Plan}
    (h : c.plan predicate key direction pageSize = .ok plan) :
    (c.SelectsAll predicate ∧ ¬c.SelectsNothing predicate ∧ plan.selection = .matching .all) ∨
    (¬c.SelectsAll predicate ∧ c.SelectsNothing predicate ∧ plan.selection = .nothing) ∨
    ∃ f, ¬c.SelectsAll predicate ∧ ¬c.SelectsNothing predicate ∧ f.Proper ∧
      plan.selection = .matching f := by
  rcases selection_of_plan h with ⟨rfl, hsel⟩ | ⟨p, x, rfl, hx, hsel⟩
  · exact .inl ⟨.inl rfl, by simp [SelectsNothing], hsel⟩
  · match x with
    | .constant true =>
      exact .inl ⟨.inr ⟨p, rfl, hx⟩, by simp [SelectsNothing, hx], hsel⟩
    | .constant false =>
      exact .inr (.inl ⟨by simp [SelectsAll, hx], ⟨p, rfl, hx⟩, hsel⟩)
    | .filter f =>
      exact .inr (.inr ⟨f, by simp [SelectsAll, hx], by simp [SelectsNothing, hx],
        proper_of_compile hx, hsel⟩)

/-- Compilation never stops at a fault of its own, and a filter that it returns has
alternatives and no empty one. So the filter of a plan lets everything pass exactly where
the predicate is missing or constantly true, and there is nothing to request exactly where
it is constantly false. -/
theorem compile_normalForm (c : Compiler) (p : Lambda) :
    (∀ fault, c.compile p ≠ .error (.faultyClause fault)) ∧
    (∀ f, c.compile p = .ok (.filter f) →
      f.alternatives ≠ [] ∧ (∀ a ∈ f.alternatives, a.tests ≠ []) ∧
        f.alternatives.isEmpty = false ∧ f.matchesAll = false) ∧
    ∀ predicate key direction pageSize plan,
      c.plan predicate key direction pageSize = .ok plan →
        (plan.selection = .matching .all ↔ c.SelectsAll predicate) ∧
        ((∃ f, plan.selection = .matching f ∧ f.matchesAll = true) ↔ c.SelectsAll predicate) ∧
        (plan.selection = .nothing ↔ c.SelectsNothing predicate) := by
  refine ⟨faultless_compile c p, ?_, ?_⟩
  · intro f hf
    have hproper : f.Proper := proper_of_compile hf
    exact ⟨hproper.alternatives_ne_nil, hproper.tests_ne_nil, hproper.isEmpty_eq_false,
      hproper.matchesAll_eq_false⟩
  · intro predicate key direction pageSize plan hplan
    have hall : Filter.all.matchesAll = true := rfl
    rcases selection_cases hplan with
      ⟨hyes, hno, hsel⟩ | ⟨hno, hyes, hsel⟩ | ⟨f, hnot, hnot', hproper, hsel⟩
    · simp [hsel, hyes, hno, hall]
    · simp [hsel, hyes, hno]
    · have hne : f ≠ .all := by
        rintro rfl
        exact absurd hproper.matchesAll_eq_false (by simp [hall])
      simp [hsel, hnot, hnot', hproper.matchesAll_eq_false, hne]

/-- No session is in an empty list of partitions, so nothing is left to request. -/
example : ((Scenario.compilerAtNoon .session).plan
    (some ⟨"x", .method (.list []) "contains" [.member .parameter "PartitionIds"]⟩)
    none .ascending 50).map Plan.selection = .ok .nothing := rfl

end Compiler
end Listing
