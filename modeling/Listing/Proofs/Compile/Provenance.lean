import Listing.Proofs.Compile.Outcome

/-! # Where tests come from

  Every test of a compiled predicate is about a field that a chain of
  members in the predicate names, asks for a value of the field's
  declared type, and has its right operand from a closed part of the
  predicate; only a field that stands alone as a condition is compared
  with a truth value that nobody wrote. Tests are made in few places
  and then copied when clauses are joined, so that it is enough to
  follow them from where they are made.
-/

namespace Listing

/-! ### What a condition is about -/

/-- The declared type of the fields that a condition is meant for. -/
def Condition.type : Condition → TypeTag
  | .string .. => .string
  | .number .. => .int
  | .date .. => .timestamp
  | .duration .. => .duration
  | .status _ value => .status value.family
  | .array .. => .array
  | .boolean .. => .boolean

/-- The right operand of a condition, as a value. -/
def Condition.operand : Condition → Value
  | .string _ value => .string value
  | .number _ value => .int value
  | .date _ value => .timestamp value
  | .duration _ value => .duration value
  | .status _ value => .status value
  | .array _ value => .string value
  | .boolean _ value => .boolean value

theorem Condition.type_ne_bytes (condition : Condition) : condition.type ≠ .bytes := by
  cases condition <;> exact nofun

theorem Condition.type_ne_list (condition : Condition) : condition.type ≠ .list := by
  cases condition <;> exact nofun

namespace Field

/-- The test is about the field, in its declared type, and compares it with the value. -/
structure Tests (f : Field) (v : Value) (t : FieldTest) : Prop where
  selector : t.selector = f.selector
  type : t.condition.type = f.type
  operand : t.condition.operand = v

variable {f : Field} {v : Value} {t : FieldTest} {negated : Bool}

theorem tests_of_comparison {op : Comparison} (h : f.comparison op v = .ok t) :
    f.Tests v t := by
  unfold comparison at h
  split at h
  · next condition hcondition =>
    cases h
    suffices hsides : condition.type = f.type ∧ condition.operand = v from
      ⟨rfl, hsides.1, hsides.2⟩
    generalize f.type = type at hcondition ⊢
    unfold condition? at hcondition
    split at hcondition
    all_goals try (cases hcondition; exact ⟨rfl, rfl⟩)
    -- A status is compared only if it is one of the declared family.
    · split at hcondition
      · next hfamily => cases hcondition; exact ⟨congrArg TypeTag.status hfamily, rfl⟩
      · cases hcondition
    · split at hcondition
      · next hfamily => cases hcondition; exact ⟨congrArg TypeTag.status hfamily, rfl⟩
      · cases hcondition
    · cases hcondition
  · cases h

theorem tests_of_textMethod {m : TextMethod} (h : f.textMethod m v negated = .ok t) :
    f.Tests v t := by
  unfold textMethod at h
  split at h
  · cases h
  · split at h
    · next hstring => cases h; exact ⟨rfl, hstring.symm, rfl⟩
    · cases h
    · cases h

theorem tests_of_arrayContains (h : f.arrayContains v negated = .ok t) : f.Tests v t := by
  unfold arrayContains at h
  split at h
  · next harray => cases h; exact ⟨rfl, harray.symm, rfl⟩
  · cases h

end Field

/-! ### Tests of joined clauses -/

/-- All tests of a compiled predicate, copies included. -/
def Compiled.tests : Compiled → List FieldTest
  | .constant _ => []
  | .filter f => f.alternatives.flatMap Conjunction.tests

theorem Compiled.mem_tests_filter {f : Filter} {t : FieldTest} :
    t ∈ (Compiled.filter f).tests ↔ ∃ a ∈ f.alternatives, t ∈ a.tests := List.mem_flatMap

theorem Compiled.mem_tests_and {a b : Compiled} {t : FieldTest} (h : t ∈ (a.and b).tests) :
    t ∈ a.tests ∨ t ∈ b.tests := by
  match a, b with
  | .constant false, _ | .constant true, .constant false | .constant true, .constant true
  | .filter _, .constant false => cases h
  | .constant true, .filter _ => exact .inr h
  | .filter _, .constant true => exact .inl h
  | .filter f, .filter g =>
    obtain ⟨pair, hpair, ht⟩ := mem_tests_filter.mp h
    obtain ⟨x, hx, hpair⟩ := List.mem_flatMap.mp hpair
    obtain ⟨y, hy, rfl⟩ := List.mem_map.mp hpair
    rcases List.mem_append.mp ht with ht | ht
    · exact .inl (mem_tests_filter.mpr ⟨x, hx, ht⟩)
    · exact .inr (mem_tests_filter.mpr ⟨y, hy, ht⟩)

theorem Compiled.mem_tests_or {a b : Compiled} {t : FieldTest} (h : t ∈ (a.or b).tests) :
    t ∈ a.tests ∨ t ∈ b.tests := by
  match a, b with
  | .constant true, _ | .constant false, .constant true | .constant false, .constant false
  | .filter _, .constant true => cases h
  | .constant false, .filter _ => exact .inr h
  | .filter _, .constant false => exact .inl h
  | .filter f, .filter g =>
    obtain ⟨x, hx, ht⟩ := mem_tests_filter.mp h
    rcases List.mem_append.mp hx with hx | hx
    · exact .inl (mem_tests_filter.mpr ⟨x, hx, ht⟩)
    · exact .inr (mem_tests_filter.mpr ⟨x, hx, ht⟩)

/-- Joining clauses makes no tests of its own. -/
theorem Connective.mem_tests_join {op : Connective} {a b : Clause} {t : FieldTest}
    (h : t ∈ (op.join a b).outcome.tests) : t ∈ a.outcome.tests ∨ t ∈ b.outcome.tests := by
  cases op with
  | and =>
    rw [Connective.join, Clause.outcome_and] at h
    exact Compiled.mem_tests_and h
  | or =>
    rw [Connective.join, Clause.outcome_or] at h
    exact Compiled.mem_tests_or h

theorem Clause.mem_tests_test {t u : FieldTest} : u ∈ (Clause.test t).outcome.tests ↔ u = t := by
  simp [Compiled.tests, Conjunction.single]

namespace Compiler

variable {c : Compiler}

/-! ### Where operands come from -/

/-- A closed expression in `body` has the value, or a list with the value in it. -/
def Supplies (c : Compiler) (body : Expr) (v : Value) : Prop :=
  ∃ e : Expr, e.Occurs body ∧ e.isClosed = true ∧
    (e.evaluate c.library c.scope = .ok v ∨
      ∃ items, e.evaluate c.library c.scope = .ok (.list items) ∧ v ∈ items)

theorem occurs_chain_of_yields {e : Expr} {negated : Bool} {f : Field}
    (h : c.Yields e negated (.field f)) :
    ∃ names, c.Names names f ∧ (Expr.chain names).Occurs e := by
  obtain ⟨names, hnames, rfl | ⟨inner, -, hoccurs⟩⟩ := names_of_yields h rfl
  · exact ⟨names, hnames, .here⟩
  · exact ⟨names, hnames, (Expr.Occurs.here.part (.head _)).trans hoccurs⟩

/-! ### Where tests come from -/

/-- The test is about a field that a chain in `body` names, and its right operand comes from a
closed part of `body`, or is the `true` of a truth value that stands alone. -/
def Traced (c : Compiler) (body : Expr) (t : FieldTest) : Prop :=
  ∃ names f, c.Names names f ∧ (Expr.chain names).Occurs body ∧
    f.Tests t.condition.operand t ∧
    (c.Supplies body t.condition.operand ∨
      f.type = .boolean ∧ t.condition.operand = .boolean true ∧
        (Expr.chain names).StandsAlone body)

/-- All tests of the clause can be traced. -/
def TracedClause (c : Compiler) (body : Expr) (a : Clause) : Prop :=
  ∀ t ∈ a.outcome.tests, c.Traced body t

variable {body : Expr}

theorem tracedClause_constant (b : Bool) : c.TracedClause body (.constant b) := by
  intro t ht
  cases ht

theorem tracedClause_test {t : FieldTest} (h : c.Traced body t) :
    c.TracedClause body (.test t) := by
  intro u hu
  rw [Clause.mem_tests_test.mp hu]
  exact h

theorem tracedClause_join {op : Connective} {a b : Clause} (ha : c.TracedClause body a)
    (hb : c.TracedClause body b) : c.TracedClause body (op.join a b) := by
  intro t ht
  rcases Connective.mem_tests_join ht with ht | ht
  · exact ha t ht
  · exact hb t ht

/-- A test of a field and a value, both of them from `body`. -/
theorem traced_of_tests {e : Expr} {negated : Bool} {f : Field} {v : Value} {t : FieldTest}
    (he : e.Occurs body) (hfield : c.Yields e negated (.field f)) (hv : c.Supplies body v)
    (ht : f.Tests v t) : c.Traced body t := by
  obtain ⟨names, hnames, hoccurs⟩ := occurs_chain_of_yields hfield
  obtain rfl := ht.operand
  exact ⟨names, f, hnames, hoccurs.trans he, ht, .inl hv⟩

theorem supplies_of_yields {e : Expr} {v : Value} (he : e.Occurs body)
    (h : c.Yields e false (.constant v)) : c.Supplies body v := by
  obtain ⟨hclosed, hv⟩ := evaluate_of_yields h
  exact ⟨e, he, hclosed, .inl hv⟩

/-- A field that is a truth value, where one is asked for. -/
theorem traced_of_flag {names : List String} {f : Field} {negated : Bool} {t : FieldTest}
    (hnames : c.Names names f) (hoccurs : (Expr.chain names).Occurs body)
    (halone : (Expr.chain names).StandsAlone body) (hboolean : f.type = .boolean)
    (ht : f.flag negated = .ok t) : c.Traced body t := by
  have htests := Field.tests_of_comparison ht
  refine ⟨names, f, hnames, hoccurs, ?_, .inr ⟨hboolean, htests.operand, halone⟩⟩
  exact ⟨htests.selector, htests.type, rfl⟩

/-- An operand that is taken for a condition can be traced if its clause can, or else is a truth
value that stands alone where the operand stands. -/
theorem traced_of_condition {e : Expr} {k : Construct} {o : Operand} {a : Clause}
    (he : e.Occurs body) (halone : e.StandsAlone body) (hyields : c.Yields e false o)
    (ho : ∀ b, o = .clause b → c.TracedClause body b) (h : condition k o = .ok a) :
    c.TracedClause body a := by
  unfold condition at h
  split at h
  · cases h; exact ho _ rfl
  · cases h; exact tracedClause_constant _
  · next f =>
    split at h
    · next hboolean =>
      obtain ⟨t, ht, h⟩ := bind_eq_ok.mp h
      cases h
      apply tracedClause_test
      obtain ⟨names, hnames, rfl | ⟨inner, -, hnot⟩⟩ := names_of_yields hyields rfl
      · exact traced_of_flag hnames he halone hboolean ht
      · -- The negation next to the chain is where the chain stands alone.
        have hoccurs := hnot.trans he
        exact traced_of_flag hnames (hoccurs.part (.head _)) (.negated hoccurs) hboolean ht
    · cases h
  · cases h

theorem traced_of_addItem {e : Expr} {f : Field} {negated : Bool} {a b : Clause} {item : Value}
    (he : e.Occurs body) (hfield : c.Yields e false (.field f)) (hitem : c.Supplies body item)
    (ha : c.TracedClause body a) (h : addItem f negated a item = .ok b) :
    c.TracedClause body b := by
  obtain ⟨op, _, t, ht, rfl⟩ := addItem_eq_ok h
  have htests := Field.tests_of_comparison ht
  exact tracedClause_join ha (tracedClause_test (traced_of_tests he hfield hitem htests))

/-- What an expression in `body` compiles to can be traced. An expression under the flag has a
negation in front of it. -/
theorem traced_of_yields {e : Expr} {negated : Bool} {o : Operand} {a : Clause}
    (h : c.Yields e negated o) (he : e.Occurs body)
    (hnot : negated = true → (Expr.unary .not e).Occurs body) (ho : o = .clause a) :
    c.TracedClause body a := by
  induction h generalizing a with
  | closed | notClosed | field => cases ho
  | @notField target name path f t hopen hpath hf hboolean ht =>
    cases ho
    obtain ⟨names, hne, hchain, rfl⟩ := Expr.fieldPath?_eq_some_iff.mp hpath
    rw [hchain] at he hnot
    exact tracedClause_test (traced_of_flag ⟨hne, hf⟩ he (.negated (hnot rfl)) hboolean ht)
  | not _ _ ih => exact ih (he.part (.head _)) (fun _ => he) ho
  | @logic left right op l r x y hopen hleft hright hx hy ihleft ihright =>
    cases ho
    have hel : left.Occurs body := he.part (.head _)
    have her : right.Occurs body := he.part (.tail _ (.head _))
    apply tracedClause_join
    · exact traced_of_condition hel (.left he) hleft (fun _ => ihleft hel nofun) hx
    · exact traced_of_condition her (.right he) hright (fun _ => ihright her nofun) hy
  | compare _ hleft hright ht =>
    cases ho
    have hv := supplies_of_yields (he.part (.tail _ (.head _))) hright
    exact tracedClause_test
      (traced_of_tests (he.part (.head _)) hleft hv (Field.tests_of_comparison ht))
  | compareSwapped _ hleft hright ht =>
    cases ho
    have hv := supplies_of_yields (he.part (.head _)) hleft
    exact tracedClause_test
      (traced_of_tests (he.part (.tail _ (.head _))) hright hv (Field.tests_of_comparison ht))
  | @membership target arg name negated items f cl _ _ hclosed hitems harg hcl =>
    cases ho
    have hel : target.Occurs body := he.part (.head _)
    refine foldlM_addItem_induction (P := c.TracedClause body) ?_ (tracedClause_constant negated) hcl
    intro x y item hitem hx hy
    have hsupplied : c.Supplies body item := ⟨target, hel, hclosed, .inr ⟨items, hitems, hitem⟩⟩
    exact traced_of_addItem (he.part (.tail _ (.head _))) harg hsupplied hx hy
  | arrayMethod _ _ _ htarget harg ht =>
    cases ho
    have hv := supplies_of_yields (he.part (.tail _ (.head _))) harg
    exact tracedClause_test
      (traced_of_tests (he.part (.head _)) htarget hv (Field.tests_of_arrayContains ht))
  | textMethod _ _ _ htarget harg ht =>
    cases ho
    have hv := supplies_of_yields (he.part (.tail _ (.head _))) harg
    exact tracedClause_test
      (traced_of_tests (he.part (.head _)) htarget hv (Field.tests_of_textMethod ht))

/-! ### Whole predicates -/

/-- Every test of a compiled filter is about a field that a chain of members in the predicate
names. Its condition is the one for the declared type of this field, which is never bytes or a
list. Its right operand is the value of a closed part of the predicate, an item of a closed part
that is a list, or the `true` of a truth value that stands alone as a condition. -/
theorem compile_provenance {c : Compiler} {p : Lambda} {f : Filter}
    (h : c.compile p = .ok (.filter f)) :
    ∀ a ∈ f.alternatives, ∀ t ∈ a.tests, ∃ names d,
      names ≠ [] ∧ (Expr.chain names).Occurs p.body ∧
      c.catalog.lookup (".".intercalate names) = some d ∧
      t.selector = d.selector ∧ t.condition.type = d.type ∧ d.type ≠ .bytes ∧ d.type ≠ .list ∧
      ((∃ e : Expr, e.Occurs p.body ∧ e.isClosed = true ∧
          (e.evaluate c.library c.scope = .ok t.condition.operand ∨
            ∃ items, e.evaluate c.library c.scope = .ok (.list items) ∧
              t.condition.operand ∈ items)) ∨
        d.type = .boolean ∧ t.condition.operand = .boolean true ∧
          (Expr.chain names).StandsAlone p.body) := by
  intro a ha t ht
  obtain ⟨clause, ⟨o, ho, hclause⟩, hf⟩ := compile_eq_ok_iff.mp h
  have hyields := yields_of_operand ho
  have htraced : c.TracedClause p.body clause :=
    traced_of_condition .here (.whole rfl) hyields
      (fun _ => traced_of_yields hyields .here nofun) hclause
  have hmem : t ∈ clause.outcome.tests := hf ▸ Compiled.mem_tests_filter.mpr ⟨a, ha, ht⟩
  obtain ⟨names, d, hnames, hoccurs, htests, hoperand⟩ := htraced t hmem
  refine ⟨names, d, hnames.ne_nil, hoccurs, hnames.lookup, htests.selector, htests.type, ?_, ?_,
    hoperand⟩
  · exact htests.type ▸ t.condition.type_ne_bytes
  · exact htests.type ▸ t.condition.type_ne_list

/-- The second name of a captured list of partitions, in the conjunction that it makes with a
truth value under two negations. -/
theorem compile_provenance_of_partition_names :
    let c : Compiler := ⟨.ofEntity .session, .builtin,
      ⟨.ofList [("names", .list [.string "a", .string "b"])], Scenario.noon⟩⟩
    let submitted : Expr := .unary .not (.unary .not (.member .parameter "ClientSubmission"))
    let named : Expr := .method (.captured "names") "Contains"
      [.member (.member .parameter "Options") "PartitionId"]
    let p : Lambda := ⟨"x", .and submitted named⟩
    let bySubmission : FieldTest := ⟨⟨.session, .summary, 3⟩, .boolean .is true⟩
    let byName (name : String) : FieldTest :=
      ⟨⟨.session, .taskOptions, 4⟩, .string .equal name⟩
    c.compile p = .ok (.filter ⟨[⟨[bySubmission, byName "a"]⟩, ⟨[bySubmission, byName "b"]⟩]⟩) ∧
    ∃ names d, names ≠ [] ∧ (Expr.chain names).Occurs p.body ∧
      c.catalog.lookup (".".intercalate names) = some d ∧
      (byName "b").selector = d.selector ∧ (byName "b").condition.type = d.type ∧
      d.type ≠ .bytes ∧ d.type ≠ .list ∧
      ((∃ e : Expr, e.Occurs p.body ∧ e.isClosed = true ∧
          (e.evaluate c.library c.scope = .ok (.string "b") ∨
            ∃ items, e.evaluate c.library c.scope = .ok (.list items) ∧ .string "b" ∈ items)) ∨
        d.type = .boolean ∧ Value.string "b" = .boolean true ∧
          (Expr.chain names).StandsAlone p.body) := by
  intro c submitted named p bySubmission byName
  have hcompile : c.compile p =
      .ok (.filter ⟨[⟨[bySubmission, byName "a"]⟩, ⟨[bySubmission, byName "b"]⟩]⟩) := rfl
  exact ⟨hcompile, compile_provenance hcompile _ (.tail _ (.head _)) _ (.tail _ (.head _))⟩

end Compiler
end Listing
