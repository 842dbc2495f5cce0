import Listing.Proofs.Compile.Derivation

/-! # Normal form of compiled predicates

  A filter is proper if it has an alternative and no alternative is
  empty. Only proper filters say what they seem to say: without
  alternatives a filter lets nothing pass, and an empty alternative
  lets everything pass. Joining clauses keeps them proper, and so every
  clause that the compiler builds stands for a constant or for a proper
  filter.
-/

namespace Listing

/-! ### Proper filters -/

/-- The filter has alternatives, and none of them is empty. -/
structure Filter.Proper (f : Filter) : Prop where
  /-- Some conjunction is there. -/
  alternatives_ne_nil : f.alternatives ≠ []
  /-- Every conjunction tests something. -/
  tests_ne_nil : ∀ c ∈ f.alternatives, c.tests ≠ []

namespace Filter.Proper

theorem single (t : FieldTest) : Filter.Proper ⟨[.single t]⟩ where
  alternatives_ne_nil := by simp
  tests_ne_nil := by
    intro c hc
    rw [List.mem_singleton] at hc
    simp [hc, Conjunction.single]

theorem product {f g : Filter} (hf : f.Proper) (hg : g.Proper) :
    Filter.Proper ⟨Clause.product f.alternatives g.alternatives⟩ where
  alternatives_ne_nil := by
    obtain ⟨a, ha⟩ := List.exists_mem_of_ne_nil _ hf.alternatives_ne_nil
    obtain ⟨b, hb⟩ := List.exists_mem_of_ne_nil _ hg.alternatives_ne_nil
    refine List.ne_nil_of_mem (a := a.append b) ?_
    exact List.mem_flatMap.mpr ⟨a, ha, List.mem_map.mpr ⟨b, hb, rfl⟩⟩
  tests_ne_nil := by
    intro c hc
    obtain ⟨a, ha, hc⟩ := List.mem_flatMap.mp hc
    obtain ⟨b, -, rfl⟩ := List.mem_map.mp hc
    have hne := hf.tests_ne_nil a ha
    simp [Conjunction.append, hne]

theorem append {f g : Filter} (hf : f.Proper) (hg : g.Proper) :
    Filter.Proper ⟨f.alternatives ++ g.alternatives⟩ where
  alternatives_ne_nil := by
    have hne := hf.alternatives_ne_nil
    simp [hne]
  tests_ne_nil := by
    intro c hc
    rcases List.mem_append.mp hc with hc | hc
    · exact hf.tests_ne_nil c hc
    · exact hg.tests_ne_nil c hc

theorem isEmpty_eq_false {f : Filter} (hf : f.Proper) : f.alternatives.isEmpty = false := by
  simp [hf.alternatives_ne_nil]

theorem matchesAll_eq_false {f : Filter} (hf : f.Proper) : f.matchesAll = false := by
  unfold Filter.matchesAll
  rw [List.any_eq_false]
  intro c hc
  simp [hf.tests_ne_nil c hc]

end Filter.Proper

/-! ### Joining compiled predicates -/

namespace Compiled

/-- Both conditions: every alternative of the left with every one of the right. -/
def and : Compiled → Compiled → Compiled
  | .constant false, _ => .constant false
  | _, .constant false => .constant false
  | .constant true, c => c
  | c, .constant true => c
  | .filter f, .filter g =>
    .filter ⟨f.alternatives.flatMap fun a => g.alternatives.map fun b => ⟨a.tests ++ b.tests⟩⟩

/-- One of the conditions or both: the alternatives of the left, then those of the right. -/
def or : Compiled → Compiled → Compiled
  | .constant true, _ => .constant true
  | _, .constant true => .constant true
  | .constant false, c => c
  | c, .constant false => c
  | .filter f, .filter g => .filter ⟨f.alternatives ++ g.alternatives⟩

/-- The compiled predicate is a constant or a proper filter. -/
def Proper : Compiled → Prop
  | .constant _ => True
  | .filter f => f.Proper

theorem Proper.and {a b : Compiled} (ha : a.Proper) (hb : b.Proper) : (a.and b).Proper := by
  match a, b with
  | .constant false, _ => trivial
  | .constant true, .constant false | .filter _, .constant false => trivial
  | .constant true, .constant true => trivial
  | .constant true, .filter _ => exact hb
  | .filter _, .constant true => exact ha
  | .filter _, .filter _ => exact Filter.Proper.product ha hb

theorem Proper.or {a b : Compiled} (ha : a.Proper) (hb : b.Proper) : (a.or b).Proper := by
  match a, b with
  | .constant true, _ => trivial
  | .constant false, .constant true | .filter _, .constant true => trivial
  | .constant false, .constant false => trivial
  | .constant false, .filter _ => exact hb
  | .filter _, .constant false => exact ha
  | .filter _, .filter _ => exact Filter.Proper.append ha hb

end Compiled

/-! ### What a clause stands for -/

namespace Clause

/-- The compiled predicate that a clause stands for, whether or not it has empty parts. -/
def outcome : Clause → Compiled
  | .constant b => .constant b
  | c => .filter ⟨c.alternatives⟩

@[simp] theorem outcome_constant (b : Bool) : (constant b).outcome = .constant b := rfl

@[simp] theorem outcome_test (t : FieldTest) : (test t).outcome = .filter ⟨[.single t]⟩ := rfl

theorem outcome_and (a b : Clause) : (a.and b).outcome = a.outcome.and b.outcome := by
  rcases a with (_ | _) | _ | _ | _ <;> rcases b with (_ | _) | _ | _ | _ <;> rfl

theorem outcome_or (a b : Clause) : (a.or b).outcome = a.outcome.or b.outcome := by
  rcases a with (_ | _) | _ | _ | _ <;> rcases b with (_ | _) | _ | _ | _ <;> rfl

/-- A clause without empty parts compiles to what it stands for. -/
theorem compiled_eq_ok {c : Clause} (hc : c.outcome.Proper) : c.compiled = .ok c.outcome := by
  match c with
  | .constant b => rfl
  | .test t => rfl
  | .all conj =>
    have hne : conj.tests ≠ [] := Filter.Proper.tests_ne_nil hc conj (by simp [alternatives])
    simp [compiled, outcome, alternatives, hne]
  | .any f =>
    have hf : f.Proper := hc
    simp [compiled, outcome, alternatives, hf.isEmpty_eq_false, hf.matchesAll_eq_false]

end Clause

theorem Connective.proper_join {op : Connective} {a b : Clause} (ha : a.outcome.Proper)
    (hb : b.outcome.Proper) : (op.join a b).outcome.Proper := by
  cases op with
  | and => exact Clause.outcome_and a b ▸ ha.and hb
  | or => exact Clause.outcome_or a b ▸ ha.or hb

namespace Compiler

/-! ### Every operand is proper

    The invariant of the intermediate values of a compilation, shown for
    one constructor of `Yields` at a time. -/

/-- An operand that is a clause has no empty part. -/
def ProperOperand : Operand → Prop
  | .clause c => c.outcome.Proper
  | _ => True

theorem proper_of_condition {k : Construct} {o : Operand} {a : Clause} (ho : ProperOperand o)
    (h : condition k o = .ok a) : a.outcome.Proper := by
  unfold condition at h
  split at h
  · cases h; exact ho
  · cases h; trivial
  · split at h
    · obtain ⟨t, -, h⟩ := bind_eq_ok.mp h
      cases h; exact .single t
    · cases h
  · cases h

theorem proper_of_addItem {f : Field} {negated : Bool} {a b : Clause} {item : Value}
    (ha : a.outcome.Proper) (h : addItem f negated a item = .ok b) : b.outcome.Proper := by
  obtain ⟨op, _, t, -, rfl⟩ := addItem_eq_ok h
  exact Connective.proper_join ha (Filter.Proper.single t)

theorem proper_of_yields {c : Compiler} {e : Expr} {negated : Bool} {o : Operand}
    (h : c.Yields e negated o) : ProperOperand o := by
  induction h with
  | closed | notClosed | field => trivial
  | notField | compare | compareSwapped | arrayMethod | textMethod => exact Filter.Proper.single _
  | not _ _ ih => exact ih
  | logic _ _ _ ha hb ihleft ihright =>
    exact Connective.proper_join (proper_of_condition ihleft ha) (proper_of_condition ihright hb)
  | membership _ _ _ _ _ hcl _ =>
    refine foldlM_addItem_induction (P := fun cl => cl.outcome.Proper) ?_ ?_ hcl
    · exact fun _ _ _ _ ha h => proper_of_addItem ha h
    · trivial

end Compiler
end Listing
