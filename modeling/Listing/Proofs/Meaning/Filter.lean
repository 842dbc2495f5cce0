import Listing.Proofs.Compile.NormalForm

/-! # Truth of filters

  What a filter says once every test of a field is true or false: one
  of its alternatives has true tests only. Which tests are true is left
  to a valuation; the truth of a joined clause follows from that of its
  parts whatever the valuation is.
-/

namespace Listing

variable (valuation : FieldTest → Bool)

/-! ### Truth under a valuation -/

/-- All tests are true. -/
def Conjunction.holds (c : Conjunction) : Bool := c.tests.all valuation

/-- Some alternative is true. -/
def Filter.holds (f : Filter) : Bool := f.alternatives.any (·.holds valuation)

/-- The constant is `true`, or the filter is true. -/
def Compiled.holds : Compiled → Bool
  | .constant b => b
  | .filter f => f.holds valuation

/-- What a logical operator says of two truth values. -/
def Connective.truth : Connective → Bool → Bool → Bool
  | .and => Bool.and
  | .or => Bool.or

/-! ### Truth of joined clauses -/

@[simp] theorem Conjunction.holds_single (t : FieldTest) :
    (Conjunction.single t).holds valuation = valuation t := by
  simp [Conjunction.single, Conjunction.holds]

@[simp] theorem Conjunction.holds_append (a b : Conjunction) :
    (a.append b).holds valuation = (a.holds valuation && b.holds valuation) := by
  simp [Conjunction.append, Conjunction.holds]

@[simp] theorem Filter.holds_single (t : FieldTest) :
    Filter.holds valuation ⟨[.single t]⟩ = valuation t := by
  simp [Filter.holds]

theorem Filter.holds_append (as bs : List Conjunction) :
    Filter.holds valuation ⟨as ++ bs⟩ =
      (Filter.holds valuation ⟨as⟩ || Filter.holds valuation ⟨bs⟩) := by
  simp [Filter.holds]

/-- Distribution: some pair of alternatives is true exactly when each side has a true one. -/
theorem Filter.holds_product (as bs : List Conjunction) :
    Filter.holds valuation ⟨Clause.product as bs⟩ =
      (Filter.holds valuation ⟨as⟩ && Filter.holds valuation ⟨bs⟩) := by
  induction as with
  | nil => rfl
  | cons a as ih =>
    have hrow : Filter.holds valuation ⟨bs.map a.append⟩ =
        (a.holds valuation && Filter.holds valuation ⟨bs⟩) := by
      simp [Filter.holds, Function.comp_def, List.and_any_distrib_left]
    have hcons : Filter.holds valuation ⟨a :: as⟩ =
        (a.holds valuation || Filter.holds valuation ⟨as⟩) := rfl
    have hsplit : Clause.product (a :: as) bs = bs.map a.append ++ Clause.product as bs := rfl
    rw [hsplit, Filter.holds_append, hrow, ih, hcons, Bool.and_or_distrib_right]

theorem Compiled.holds_and (a b : Compiled) :
    (a.and b).holds valuation = (a.holds valuation && b.holds valuation) := by
  match a, b with
  | .constant false, _ => rfl
  | .constant true, .constant false | .constant true, .constant true => rfl
  | .constant true, .filter _ => rfl
  | .filter f, .constant false => exact (Bool.and_false _).symm
  | .filter f, .constant true => exact (Bool.and_true _).symm
  | .filter f, .filter g => exact Filter.holds_product valuation f.alternatives g.alternatives

theorem Compiled.holds_or (a b : Compiled) :
    (a.or b).holds valuation = (a.holds valuation || b.holds valuation) := by
  match a, b with
  | .constant true, _ => rfl
  | .constant false, .constant false | .constant false, .constant true => rfl
  | .constant false, .filter _ => rfl
  | .filter f, .constant true => exact (Bool.or_true _).symm
  | .filter f, .constant false => exact (Bool.or_false _).symm
  | .filter f, .filter g => exact Filter.holds_append valuation f.alternatives g.alternatives

/-- A clause that joins two others is true as the logical operator says. -/
theorem Connective.holds_join (op : Connective) (a b : Clause) :
    (op.join a b).outcome.holds valuation =
      op.truth (a.outcome.holds valuation) (b.outcome.holds valuation) := by
  cases op with
  | and =>
    rw [Connective.join, Clause.outcome_and, Compiled.holds_and]
    rfl
  | or =>
    rw [Connective.join, Clause.outcome_or, Compiled.holds_or]
    rfl

end Listing
