import Listing.Proofs.Compile.Outcome
import Listing.Proofs.Compile.Replacement
import Listing.Proofs.Meaning.Comparison
import Listing.Scenario.Task

/-! # Opposite and exchanged comparisons

  A negated comparison compiles as its opposite does, and a comparison
  compiles as it does with its operands exchanged, wherever in a
  predicate it stands. Comparisons of closed parts are evaluated, while
  those of fields become tests without a negation or an exchange being
  evaluated; so the theorem says that the two ways agree. Two negations
  of a whole predicate cancel out.
-/

namespace Listing

/-! ### Comparisons of closed parts -/

namespace Expr

variable {lib : Library} {s : Scope} {op : Comparison} {left right : Expr} {v : Value}

theorem evaluate_not_compare_eq_ok_iff :
    (unary .not (.binary left (.compare op) right)).evaluate lib s = .ok v ↔
      (binary left (.compare op.negate) right).evaluate lib s = .ok v := by
  rw [evaluate_not_eq_ok_iff, evaluate_compare_eq_ok_iff]
  constructor
  · rintro ⟨b, hb, rfl⟩
    obtain ⟨x, y, hx, hy, hb⟩ := evaluate_compare_eq_ok_iff.mp hb
    obtain ⟨_, hvalue, hopposite⟩ := Value.compareBy_negate hb
    cases hvalue
    exact ⟨x, y, hx, hy, hopposite⟩
  · rintro ⟨x, y, hx, hy, hopposite⟩
    obtain ⟨b, rfl, hb⟩ := Value.compareBy_negate hopposite
    rw [Comparison.negate_negate] at hb
    exact ⟨!b, evaluate_compare_eq_ok_iff.mpr ⟨x, y, hx, hy, hb⟩, by rw [Bool.not_not]⟩

theorem evaluate_exchanged (h : (binary left (.compare op) right).evaluate lib s = .ok v) :
    (binary right (.compare op.swap) left).evaluate lib s = .ok v := by
  obtain ⟨x, y, hx, hy, h⟩ := evaluate_compare_eq_ok_iff.mp h
  exact evaluate_compare_eq_ok_iff.mpr ⟨y, x, hy, hx, Value.compareBy_swap h⟩

theorem evaluate_not_not_eq_ok_iff {e : Expr} {b : Bool} :
    (unary .not (.unary .not e)).evaluate lib s = .ok (.boolean b) ↔
      e.evaluate lib s = .ok (.boolean b) := by
  simp only [evaluate_not_eq_ok_iff, Value.boolean.injEq]
  constructor
  · rintro ⟨_, ⟨b, hb, rfl⟩, rfl⟩
    rwa [Bool.not_not]
  · intro hb
    exact ⟨!b, ⟨b, hb, rfl⟩, (Bool.not_not b).symm⟩

end Expr

namespace Compiler

variable {c : Compiler}

/-! ### Comparisons with fields -/

theorem operand_not {e : Expr} (hopen : ¬e.isClosed = true) (negated : Bool) :
    c.operand (.unary .not e) negated = c.operand e (!negated) := by
  have hopen' : ¬(Expr.unary .not e).isClosed = true := hopen
  rw [operand.eq_def, if_neg hopen']

theorem operand_compare {l r : Expr} {op : Comparison}
    (hopen : ¬(Expr.binary l (.compare op) r).isClosed = true) (negated : Bool) :
    c.operand (.binary l (.compare op) r) negated = (do
      let x ← c.operand l false
      let y ← c.operand r false
      comparison (if negated then op.negate else op) x y) := by
  rw [operand.eq_def, if_neg hopen]

/-- The flag picks the opposite comparison, and another negation picks the comparison again. -/
theorem operand_not_compare {l r : Expr} {op : Comparison}
    (hopen : ¬(Expr.binary l (.compare op) r).isClosed = true) (negated : Bool) :
    c.operand (.unary .not (.binary l (.compare op) r)) negated =
      c.operand (.binary l (.compare op.negate) r) negated := by
  have hopen' : ¬(Expr.binary l (.compare op.negate) r).isClosed = true := hopen
  rw [operand_not hopen, operand_compare hopen, operand_compare hopen']
  cases negated with
  | false => rfl
  | true => rw [if_pos rfl, Comparison.negate_negate]; rfl

/-- The operands of a comparison may come in either order. -/
theorem comparison_exchanged {op : Comparison} {l r o : Operand} (h : comparison op l r = .ok o) :
    comparison op.swap r l = .ok o := by
  rcases comparison_eq_ok h with ⟨f, v, t, rfl, rfl, ht, rfl⟩ | ⟨f, v, t, rfl, rfl, ht, rfl⟩
  · rw [comparison, Comparison.swap_swap, ht]
    rfl
  · rw [comparison, ht]
    rfl

theorem operand_exchanged {l r : Expr} {op : Comparison} {negated : Bool} {o : Operand}
    (hopen : ¬(Expr.binary l (.compare op) r).isClosed = true)
    (hopen' : ¬(Expr.binary r (.compare op.swap) l).isClosed = true)
    (h : c.operand (.binary l (.compare op) r) negated = .ok o) :
    c.operand (.binary r (.compare op.swap) l) negated = .ok o := by
  rw [operand_compare hopen] at h
  obtain ⟨x, hx, h⟩ := bind_eq_ok.mp h
  obtain ⟨y, hy, h⟩ := bind_eq_ok.mp h
  have hexchanged := comparison_exchanged h
  rw [Comparison.swap_ite_negate] at hexchanged
  rw [operand_compare hopen']
  exact bind_eq_ok.mpr ⟨y, hy, bind_eq_ok.mpr ⟨x, hx, hexchanged⟩⟩

/-! ### Comparisons anywhere -/

/-- Whatever the expressions are parts of, the compiler has the same results for both. How it fails
may differ, since a failure names the comparison that it is about. -/
structure SameResults (c : Compiler) (a b : Expr) : Prop where
  forth : c.Replaceable (fun _ => True) a b
  back : c.Replaceable (fun _ => True) b a

theorem SameResults.compile_iff {a b : Expr} (h : c.SameResults a b) (k : Expr.Context)
    (x y : String) (result : Compiled) :
    c.compile ⟨x, k.fill a⟩ = .ok result ↔ c.compile ⟨y, k.fill b⟩ = .ok result :=
  ⟨((h.forth.fill k).compile x).eq_ok, ((h.back.fill k).compile y).eq_ok⟩

theorem sameResults_not_compare (l r : Expr) (op : Comparison) :
    c.SameResults (.unary .not (.binary l (.compare op) r))
      (.binary l (.compare op.negate) r) where
  forth := by
    refine .of_results rfl rfl (fun v => Expr.evaluate_not_compare_eq_ok_iff.mp) ?_
    intro hopen _ negated o ho
    exact operand_not_compare hopen negated ▸ ho
  back := by
    refine .of_results rfl rfl (fun v => Expr.evaluate_not_compare_eq_ok_iff.mpr) ?_
    intro _ hopen negated o ho
    exact (operand_not_compare hopen negated).trans ho

/-- An exchange is undone by another one, so it has to be looked at in one direction only. -/
theorem replaceable_exchanged (l r : Expr) (op : Comparison) :
    c.Replaceable (fun _ => True) (.binary l (.compare op) r) (.binary r (.compare op.swap) l) := by
  refine .of_results (Bool.and_comm _ _) rfl (fun v => Expr.evaluate_exchanged) ?_
  intro hopen hopen' negated o ho
  exact operand_exchanged hopen hopen' ho

theorem sameResults_exchanged (l r : Expr) (op : Comparison) :
    c.SameResults (.binary l (.compare op) r) (.binary r (.compare op.swap) l) where
  forth := replaceable_exchanged l r op
  back := by
    have hback := replaceable_exchanged (c := c) r l op.swap
    rwa [Comparison.swap_swap] at hback

/-! ### Negated predicates -/

/-- Two negations of a condition cancel out. -/
theorem reduces_not_not {p : Expr} {a : Clause} :
    c.Reduces (.unary .not (.unary .not p)) a ↔ c.Reduces p a := by
  by_cases hclosed : p.isClosed = true
  · have hclosed' : (Expr.unary .not (.unary .not p)).isClosed = true := hclosed
    rw [reduces_of_isClosed hclosed, reduces_of_isClosed hclosed']
    simp only [Expr.evaluate_not_not_eq_ok_iff]
  · have hopen' : ¬(Expr.unary .not p).isClosed = true := hclosed
    rw [Reduces, operand_not hopen', operand_not hclosed]
    rfl

/-- A negated comparison has the results of the opposite comparison, and every comparison those of
the exchanged comparison of its exchanged operands, as a predicate of its own and wherever in a
predicate it stands. Of a doubly negated predicate the result is that of the predicate. -/
theorem compile_opposites (c : Compiler) (op : Comparison) (l r p : Expr) (k : Expr.Context)
    (x y : String) (result : Compiled) :
    (c.compile ⟨x, k.fill (.unary .not (.binary l (.compare op) r))⟩ = .ok result ↔
      c.compile ⟨y, k.fill (.binary l (.compare op.negate) r)⟩ = .ok result) ∧
    (c.compile ⟨x, k.fill (.binary l (.compare op) r)⟩ = .ok result ↔
      c.compile ⟨y, k.fill (.binary r (.compare op.swap) l)⟩ = .ok result) ∧
    (c.compile ⟨x, .unary .not (.unary .not p)⟩ = .ok result ↔
      c.compile ⟨y, p⟩ = .ok result) := by
  refine ⟨?_, ?_, ?_⟩
  · exact (sameResults_not_compare l r op).compile_iff k x y result
  · exact (sameResults_exchanged l r op).compile_iff k x y result
  · simp only [compile_eq_ok_iff, reduces_not_not]

/-- `!(3 <= x.Options.Priority)` is a test of the field, although the field stands on the right and
under a negation. -/
example : (Scenario.compilerAtNoon .task).compile
    ⟨"x", .unary .not (.binary (.constant (.int 3)) (.compare .lessOrEqual)
      (.member (.member .parameter "Options") "Priority"))⟩ =
    .ok (.filter ⟨[⟨[Scenario.priority .lessThan 3]⟩]⟩) := rfl

end Compiler
end Listing
