import Listing.Proofs.Compile.Derivation
import Listing.Scenario.Task

/-! # Laws of joined clauses

  Clauses are joined associatively, and conjunctions distribute over
  alternatives. These are equations of clauses and not only of what they
  mean: shape, order and repetition agree. Constants decide or vanish.
  Of all other clauses a join takes no more than their conjunctions and
  whether these are alternatives, and it shows no more than that; so each
  law is one about lists of conjunctions.
-/

namespace Listing

namespace Clause

/-! ### Products of alternatives -/

theorem product_singleton (a : Conjunction) (bs : List Conjunction) :
    product [a] bs = bs.map a.append := List.append_nil _

theorem product_append (as bs cs : List Conjunction) :
    product (as ++ bs) cs = product as cs ++ product bs cs := List.flatMap_append

theorem product_assoc (as bs cs : List Conjunction) :
    product (product as bs) cs = product as (product bs cs) := by
  simp only [product, List.flatMap_assoc, List.flatMap_map, List.map_flatMap, List.map_map]
  -- Both sides run through the three lists in the same order, so the conjunctions are left.
  have hjoin (a b : Conjunction) : a.append ∘ b.append = (a.append b).append := by
    funext c
    simp [Conjunction.append]
  simp only [hjoin]

/-! ### What a clause shows -/

/-- The clause is the same for every record. -/
def isConstant : Clause → Bool
  | .constant _ => true
  | _ => false

/-- A clause that joins others: one conjunction, or conjunctions that are alternatives, however
many there are. -/
inductive Joined : Clause → Bool → List Conjunction → Prop
  | all (c : Conjunction) : Joined (.all c) false [c]
  | any (f : Filter) : Joined (.any f) true f.alternatives

/-- What a join takes of a clause that is not constant: whether its conjunctions are alternatives,
and the conjunctions. A bare test is taken as a conjunction. -/
inductive Shows : Clause → Bool → List Conjunction → Prop
  | test (t : FieldTest) : Shows (.test t) false [.single t]
  | joined {c : Clause} {several : Bool} {l : List Conjunction} (h : c.Joined several l) :
      Shows c several l

theorem exists_shows {c : Clause} (h : c.isConstant = false) : ∃ several l, c.Shows several l := by
  cases c with
  | constant b => cases h
  | test t => exact ⟨_, _, .test t⟩
  | all x => exact ⟨_, _, .joined (.all x)⟩
  | any f => exact ⟨_, _, .joined (.any f)⟩

theorem shows_of_conjunction? {c : Clause} {x : Conjunction} (h : c.conjunction? = some x) :
    c.Shows false [x] := by
  cases c with
  | test t => cases h; exact .test t
  | all x => cases h; exact .joined (.all x)
  | constant b | any f => cases h

theorem eq_constant_or_shows (c : Clause) :
    (∃ b, c = .constant b) ∨ ∃ several l, c.Shows several l := by
  by_cases h : c.isConstant = false
  · exact .inr (exists_shows h)
  · cases c with
    | constant b => exact .inl ⟨b, rfl⟩
    | test t | all x | any f => exact absurd rfl h

/-- A joined clause is no more than what it shows. -/
theorem Joined.unique {a b : Clause} {several : Bool} {l : List Conjunction}
    (ha : a.Joined several l) (hb : b.Joined several l) : a = b := by
  cases ha with
  | all x => cases hb; rfl
  | any f =>
    generalize hl : f.alternatives = l at hb
    cases hb with
    | any g => exact congrArg (fun l => Clause.any ⟨l⟩) hl

section

variable {a b : Clause} {x y : Bool} {l m : List Conjunction}

/-- Conjunctions are paired, and are alternatives if they were on either side. -/
theorem Shows.and (ha : a.Shows x l) (hb : b.Shows y m) :
    (a.and b).Joined (x || y) (product l m) := by
  rcases ha with _ | (_ | _) <;> rcases hb with _ | (_ | _) <;> first | exact .all _ | exact .any _

/-- Conjunctions line up as alternatives. -/
theorem Shows.or (ha : a.Shows x l) (hb : b.Shows y m) : (a.or b).Joined true (l ++ m) := by
  rcases ha with _ | (_ | _) <;> rcases hb with _ | (_ | _) <;> exact .any _

end

end Clause

/-! ### Both operators -/

namespace Connective

variable (op : Connective)

theorem eq_decider_or_neutral (b : Bool) :
    b = op.decider ∨ b = !op.decider := by
  cases op <;> cases b <;> simp [decider]

@[simp] theorem join_decider_left (a : Clause) :
    op.join (.constant op.decider) a = .constant op.decider := by
  cases op <;> rfl

@[simp] theorem join_decider_right (a : Clause) :
    op.join a (.constant op.decider) = .constant op.decider := by
  cases op <;> rcases a with (_ | _) | _ | _ | _ <;> rfl

@[simp] theorem join_neutral_left (a : Clause) : op.join (.constant !op.decider) a = a := by
  cases op <;> rcases a with (_ | _) | _ | _ | _ <;> rfl

@[simp] theorem join_neutral_right (a : Clause) : op.join a (.constant !op.decider) = a := by
  cases op <;> rcases a with (_ | _) | _ | _ | _ <;> rfl

/-- Joins may be put in parentheses in any way. -/
theorem join_assoc (a b c : Clause) :
    op.join (op.join a b) c = op.join a (op.join b c) := by
  rcases a.eq_constant_or_shows with ⟨k, rfl⟩ | ⟨x, l, ha⟩
  · rcases op.eq_decider_or_neutral k with rfl | rfl <;> simp
  rcases b.eq_constant_or_shows with ⟨k, rfl⟩ | ⟨y, m, hb⟩
  · rcases op.eq_decider_or_neutral k with rfl | rfl <;> simp
  rcases c.eq_constant_or_shows with ⟨k, rfl⟩ | ⟨z, n, hc⟩
  · rcases op.eq_decider_or_neutral k with rfl | rfl <;> simp
  cases op with
  | and =>
    have hleft := Clause.Shows.and (.joined (ha.and hb)) hc
    have hright := ha.and (.joined (hb.and hc))
    rw [Bool.or_assoc, Clause.product_assoc] at hleft
    exact hleft.unique hright
  | or =>
    have hleft := Clause.Shows.or (.joined (ha.or hb)) hc
    have hright := ha.or (.joined (hb.or hc))
    rw [List.append_assoc] at hleft
    exact hleft.unique hright

end Connective

namespace Clause

/-! ### Distribution -/

/-- What is joined to alternatives on their right is joined to each of them. -/
theorem or_and_distrib {a b : Clause} (ha : a.isConstant = false) (hb : b.isConstant = false)
    (c : Clause) : (a.or b).and c = (a.and c).or (b.and c) := by
  obtain ⟨x, l, ha⟩ := exists_shows ha
  obtain ⟨y, m, hb⟩ := exists_shows hb
  rcases c.eq_constant_or_shows with ⟨_ | _, rfl⟩ | ⟨z, n, hc⟩
  · have hfalse (d : Clause) : d.and (.constant false) = .constant false :=
      Connective.and.join_decider_right d
    rw [hfalse, hfalse, hfalse]
    rfl
  · have htrue (d : Clause) : d.and (.constant true) = d := Connective.and.join_neutral_right d
    rw [htrue, htrue, htrue]
  · have hleft := Shows.and (.joined (ha.or hb)) hc
    have hright := Shows.or (.joined (ha.and hc)) (.joined (hb.and hc))
    rw [product_append] at hleft
    exact hleft.unique hright

/-- A conjunction on the left of alternatives is joined to each of them. Alternatives there would
come in another order. -/
theorem and_or_distrib {a b c : Clause} {x : Conjunction} (ha : a.conjunction? = some x)
    (hb : b.isConstant = false) (hc : c.isConstant = false) :
    a.and (b.or c) = (a.and b).or (a.and c) := by
  have ha : a.Shows false [x] := shows_of_conjunction? ha
  obtain ⟨y, m, hb⟩ := exists_shows hb
  obtain ⟨z, n, hc⟩ := exists_shows hc
  have hleft := ha.and (.joined (hb.or hc))
  have hright := Shows.or (.joined (ha.and hb)) (.joined (ha.and hc))
  rw [product_singleton, List.map_append, ← product_singleton, ← product_singleton] at hleft
  exact hleft.unique hright

/-- Both operators are associative, conjunctions distribute over alternatives on their left
whatever they are joined to, and over alternatives on their right if they are single. All of this
holds of clauses themselves, with empty conjunctions and without alternatives as well. -/
theorem joining_laws (a b c : Clause) :
    (a.and b).and c = a.and (b.and c) ∧
    (a.or b).or c = a.or (b.or c) ∧
    (a.isConstant = false → b.isConstant = false → (a.or b).and c = (a.and c).or (b.and c)) ∧
    ∀ x, a.conjunction? = some x → b.isConstant = false → c.isConstant = false →
      a.and (b.or c) = (a.and b).or (a.and c) := by
  refine ⟨Connective.and.join_assoc a b c, Connective.or.join_assoc a b c, ?_, ?_⟩
  · intro ha hb
    exact or_and_distrib ha hb c
  · intro x ha hb hc
    exact and_or_distrib ha hb hc

/-- A bare test, alternatives of which one is empty, and a conjunction that repeats the test. -/
theorem joining_laws_of_priority :
    let urgent := Scenario.priority .greaterThan 3
    let high := Scenario.priority .lessThan 7
    let a : Clause := .test urgent
    let b : Clause := .any ⟨[⟨[high]⟩, ⟨[]⟩]⟩
    let c : Clause := .all ⟨[urgent, high]⟩
    a.isConstant = false ∧ b.isConstant = false ∧ c.isConstant = false ∧
      a.conjunction? = some ⟨[urgent]⟩ ∧
      (a.or b).and c =
        .any ⟨[⟨[urgent, urgent, high]⟩, ⟨[high, urgent, high]⟩, ⟨[urgent, high]⟩]⟩ ∧
      (a.or b).and c = (a.and c).or (b.and c) ∧
      a.and (b.or c) = .any ⟨[⟨[urgent, high]⟩, ⟨[urgent]⟩, ⟨[urgent, urgent, high]⟩]⟩ ∧
      a.and (b.or c) = (a.and b).or (a.and c) := by
  intro urgent high a b c
  obtain ⟨-, -, hright, hleft⟩ := joining_laws a b c
  exact ⟨rfl, rfl, rfl, rfl, rfl, hright rfl rfl, rfl, hleft ⟨[urgent]⟩ rfl rfl rfl⟩

/-- Alternatives on the left are gone through first, so they do not distribute. -/
example :
    let a : Clause := .any ⟨[⟨[Scenario.priority .greaterThan 3]⟩, ⟨[]⟩]⟩
    let b : Clause := .test (Scenario.priority .lessThan 7)
    a.and (b.or b) ≠ (a.and b).or (a.and b) := by
  decide

end Clause
end Listing
