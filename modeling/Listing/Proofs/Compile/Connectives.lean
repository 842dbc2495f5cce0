import Listing.Proofs.Compile.Outcome

/-! # Logical operators of predicates

  A predicate that joins two others compiles exactly where both of them
  do, each as a predicate of its own, and its outcome is made of theirs:
  constants decide or vanish, conjunctions distribute over the
  alternatives of both sides, and alternatives line up.
-/

namespace Listing

/-- The outcome of a logical operator, from the outcomes of its sides. -/
def Connective.joinCompiled : Connective → Compiled → Compiled → Compiled
  | .and => .and
  | .or => .or

theorem Connective.outcome_join (op : Connective) (a b : Clause) :
    (op.join a b).outcome = op.joinCompiled a.outcome b.outcome := by
  cases op with
  | and => exact Clause.outcome_and a b
  | or => exact Clause.outcome_or a b

namespace Compiler

variable {c : Compiler}

/-- Where a condition stands shows in its errors alone. -/
theorem condition_eq_ok_iff (k k' : Construct) {o : Operand} {a : Clause} :
    condition k o = .ok a ↔ condition k' o = .ok a := by
  match o with
  | .clause _ | .constant (.boolean _) => rfl
  | .field f =>
    simp only [condition]
    split
    · rfl
    · simp
  | .constant (.int _) | .constant (.string _) | .constant (.timestamp _)
  | .constant (.duration _) | .constant (.status _) | .constant (.bytes _)
  | .constant (.list _) => simp [condition]

/-- The operand of a logical operator that the parameter occurs under. -/
theorem operand_logic {l r : Expr} {op : Connective}
    (hopen : (Expr.binary l (.logic op) r).isClosed = false) :
    c.operand (.binary l (.logic op) r) false = (do
      let x ← condition (.logic op) (← c.operand l false)
      let y ← condition (.logic op) (← c.operand r false)
      .ok (.clause (op.join x y))) := by
  rw [operand.eq_def]
  cases op <;> simp [hopen, Connective.join]

/-- A logical operator over an open predicate is the clause that joins its sides. -/
theorem reduces_logic_iff {l r : Expr} {op : Connective} {a : Clause}
    (hopen : (Expr.binary l (.logic op) r).isClosed = false) :
    c.Reduces (.binary l (.logic op) r) a ↔
      ∃ x y, c.Reduces l x ∧ c.Reduces r y ∧ a = op.join x y := by
  unfold Reduces
  rw [operand_logic hopen]
  constructor
  · rintro ⟨o, ho, ha⟩
    obtain ⟨left, hleft, ho⟩ := bind_eq_ok.mp ho
    obtain ⟨x, hx, ho⟩ := bind_eq_ok.mp ho
    obtain ⟨right, hright, ho⟩ := bind_eq_ok.mp ho
    obtain ⟨y, hy, ho⟩ := bind_eq_ok.mp ho
    rw [condition_eq_ok_iff _ .predicate] at hx hy
    cases ho
    cases ha
    exact ⟨x, y, ⟨left, hleft, hx⟩, ⟨right, hright, hy⟩, rfl⟩
  · rintro ⟨x, y, ⟨left, hleft, hx⟩, ⟨right, hright, hy⟩, rfl⟩
    rw [condition_eq_ok_iff _ (.logic op)] at hx hy
    refine ⟨.clause (op.join x y), ?_, rfl⟩
    refine bind_eq_ok.mpr ⟨left, hleft, bind_eq_ok.mpr ⟨x, hx, ?_⟩⟩
    exact bind_eq_ok.mpr ⟨right, hright, bind_eq_ok.mpr ⟨y, hy, rfl⟩⟩

/-- A logical operator over an open predicate compiles exactly where both sides do as
predicates of their own, to the outcome that theirs determine. -/
theorem compile_logic {c : Compiler} (op : Connective) {l r : Expr}
    (hopen : (Expr.binary l (.logic op) r).isClosed = false) (x y z : String) :
    ((∃ whole, c.compile ⟨x, .binary l (.logic op) r⟩ = .ok whole) ↔
      (∃ left, c.compile ⟨y, l⟩ = .ok left) ∧ ∃ right, c.compile ⟨z, r⟩ = .ok right) ∧
    ∀ left right, c.compile ⟨y, l⟩ = .ok left → c.compile ⟨z, r⟩ = .ok right →
      c.compile ⟨x, .binary l (.logic op) r⟩ = .ok (op.joinCompiled left right) := by
  simp only [compile_eq_ok_iff]
  constructor
  · constructor
    · rintro ⟨_, a, ha, -⟩
      obtain ⟨u, v, hu, hv, -⟩ := (reduces_logic_iff hopen).mp ha
      exact ⟨⟨_, u, hu, rfl⟩, ⟨_, v, hv, rfl⟩⟩
    · rintro ⟨⟨_, u, hu, -⟩, ⟨_, v, hv, -⟩⟩
      exact ⟨_, _, (reduces_logic_iff hopen).mpr ⟨u, v, hu, hv, rfl⟩, rfl⟩
  · rintro _ _ ⟨u, hu, rfl⟩ ⟨v, hv, rfl⟩
    exact ⟨_, (reduces_logic_iff hopen).mpr ⟨u, v, hu, hv, rfl⟩, (op.outcome_join u v).symm⟩

/-- Two alternatives on either side make four conjunctions, in the order of the left side. -/
theorem compile_logic_urgent_and_listed :
    let priority : Expr := .member (.member .parameter "Options") "Priority"
    let urgent : Expr := .or (.binary priority (.compare .greater) (.constant (.int 3)))
      (.method (.member .parameter "TaskId") "StartsWith" [.constant (.string "a")])
    let listed : Expr := .method (.constant (.list [.string "u", .string "v"])) "Contains"
      [.member .parameter "SessionId"]
    let important := Scenario.priority .greaterThan 3
    let named : FieldTest := ⟨⟨.task, .summary, 1⟩, .string .startsWith "a"⟩
    let inSession (id : String) : FieldTest := ⟨⟨.task, .summary, 2⟩, .string .equal id⟩
    (Expr.binary urgent (.logic .and) listed).isClosed = false ∧
    (Scenario.compilerAtNoon .task).compile ⟨"x", .binary urgent (.logic .and) listed⟩ =
      .ok (.filter ⟨[⟨[important, inSession "u"]⟩, ⟨[important, inSession "v"]⟩,
        ⟨[named, inSession "u"]⟩, ⟨[named, inSession "v"]⟩]⟩) := by
  intro priority urgent listed important named inSession
  have hurgent : (Scenario.compilerAtNoon .task).compile ⟨"x", urgent⟩ =
      .ok (.filter ⟨[⟨[important]⟩, ⟨[named]⟩]⟩) := rfl
  have hlisted : (Scenario.compilerAtNoon .task).compile ⟨"x", listed⟩ =
      .ok (.filter ⟨[⟨[inSession "u"]⟩, ⟨[inSession "v"]⟩]⟩) := rfl
  exact ⟨rfl, (compile_logic .and rfl "x" "x" "x").2 _ _ hurgent hlisted⟩

end Compiler
end Listing
