import Listing.Proofs.Compile.Grouping
import Listing.Proofs.Compile.Opposites

/-! # Membership in closed lists

  A closed list that is searched for a field is short for a chain of
  equalities, one for each item in the order of the list, and under a
  negation for a chain of differences. The compiler goes through the
  items by itself, from the constant that is neutral for the operator of
  the chain; what it makes of them is the clause of the chain, however
  the chain is put in parentheses.
-/

namespace Listing

/-! ### Clauses of several tests -/

namespace Connective

/-- The tests, joined from left to right. -/
def joinTests (op : Connective) (ts : List FieldTest) : Clause :=
  ts.foldr (fun t a => op.join (.test t) a) (.constant !op.decider)

/-- How each item is compared where the whole list is joined by the operator. -/
def itemComparison : Connective → Comparison
  | .and => .notEqual
  | .or => .equal

variable {op : Connective}

theorem joinTests_singleton (t : FieldTest) : op.joinTests [t] = .test t :=
  op.join_neutral_right (.test t)

theorem joinTests_append (ts us : List FieldTest) :
    op.joinTests (ts ++ us) = op.join (op.joinTests ts) (op.joinTests us) := by
  induction ts with
  | nil => exact (op.join_neutral_left _).symm
  | cons t ts ih =>
    show op.join (.test t) (op.joinTests (ts ++ us)) = _
    rw [ih, ← op.join_assoc]
    rfl

end Connective

namespace Compiler

variable {c : Compiler} (op : Connective)

/-! ### The items of a list

    The flag of a negation is the constant that the search starts from,
    and that constant is neutral for the operator of the chain. -/

theorem addItem_eq (f : Field) (a : Clause) (item : Value) :
    addItem f (!op.decider) a item =
      (do .ok (op.join a (.test (← f.comparison op.itemComparison item)))) := by
  cases op <;> rfl

/-- The search makes a test of every item and joins them to what it starts from. -/
theorem foldlM_addItem_eq (f : Field) (items : List Value) (a : Clause) :
    items.foldlM (addItem f (!op.decider)) a = (do
      let ts ← items.mapM (f.comparison op.itemComparison)
      .ok (op.join a (op.joinTests ts))) := by
  induction items generalizing a with
  | nil => exact congrArg Except.ok (op.join_neutral_right a).symm
  | cons item items ih =>
    rw [List.foldlM_cons, List.mapM_cons, addItem_eq op]
    cases f.comparison op.itemComparison item with
    | error e => rfl
    | ok t =>
      show items.foldlM (addItem f (!op.decider)) (op.join a (.test t)) = _
      rw [ih]
      cases items.mapM (f.comparison op.itemComparison) with
      | error e => rfl
      | ok ts => exact congrArg Except.ok (op.join_assoc a (.test t) (op.joinTests ts))

theorem membership_field (f : Field) (items : List Value) :
    membership (!op.decider) (.list items) (.ok (.field f)) = (do
      let ts ← items.mapM (f.comparison op.itemComparison)
      .ok (.clause (op.joinTests ts))) := by
  have hsearch : membership (!op.decider) (.list items) (.ok (.field f)) =
      (do .ok (.clause (← items.foldlM (addItem f (!op.decider)) (.constant !op.decider)))) := rfl
  rw [hsearch, foldlM_addItem_eq op]
  cases items.mapM (f.comparison op.itemComparison) with
  | error e => rfl
  | ok ts =>
    show Except.ok (Operand.clause (op.join (.constant !op.decider) (op.joinTests ts))) = _
    rw [op.join_neutral_left]
    rfl

/-- The compiler evaluates the list and looks up the field that it is searched for. -/
theorem operand_contains {list a : Expr} {name : String} {items : List Value}
    (hname : TextMethod.ofName? name = some .contains) (hlist : list.isClosed = true)
    (hitems : list.evaluate c.library c.scope = .ok (.list items)) (ha : a.isClosed = false)
    (negated : Bool) :
    c.operand (.method list name [a]) negated =
      membership negated (.list items) (c.operand a false) := by
  have hopen : ¬(Expr.method list name [a]).isClosed = true := by
    simp [Expr.isClosed, Expr.allClosed, ha]
  rw [operand.eq_def, if_neg hopen]
  simp only [hname, hlist, if_true]
  rw [value_eq_ok.mpr hitems]
  rfl

/-! ### The chain of the items -/

/-- The test that compares what is sought with an item, if it is a field. -/
def itemTest (op : Comparison) (sought : Except CompileError Operand) (v : Value) :
    Except CompileError FieldTest := do
  match ← sought with
  | .field f => f.comparison op v
  | o => .error (.unsupported (.compare op) (.pair o.subject (.value v.type)))

theorem exists_field_of_itemTest {cmp : Comparison} {sought : Except CompileError Operand}
    {v : Value} {t : FieldTest} (h : itemTest cmp sought v = .ok t) :
    ∃ f, sought = .ok (.field f) := by
  obtain ⟨o, rfl, h⟩ := bind_eq_ok.mp h
  cases o with
  | field f => exact ⟨f, rfl⟩
  | constant v | clause a => cases h

/-- One member of the chain is a single test. -/
theorem operand_equation {a : Expr} (ha : a.isClosed = false) (cmp : Comparison) (v : Value) :
    c.operand (.binary a (.compare cmp) (.constant v)) false =
      (do .ok (.clause (.test (← itemTest cmp (c.operand a false) v)))) := by
  have hopen : ¬(Expr.binary a (.compare cmp) (.constant v)).isClosed = true := by
    simp [Expr.isClosed, ha]
  have hv : c.operand (.constant v) false = .ok (.constant v) := rfl
  rw [operand_compare hopen, hv]
  cases c.operand a false with
  | error e => rfl
  | ok o => cases o <;> rfl

/-- Conditions of one test each that are chained by an operator are the clause of all tests,
whatever parentheses there are in the chain. -/
theorem operand_grouping {α : Type} {condition : α → Lambda}
    {test : α → Except CompileError FieldTest}
    (hcondition : ∀ x, (condition x).body.isClosed = false ∧
      c.operand (condition x).body false = (do .ok (.clause (.test (← test x)))))
    {g : Grouping} {xs : List α} (hg : g.predicates = xs.map condition) :
    (g.lambda op).body.isClosed = false ∧
      c.operand (g.lambda op).body false = (do
        let ts ← xs.mapM test
        .ok (.clause (op.joinTests ts))) := by
  induction g generalizing xs with
  | single p =>
    obtain ⟨x, rfl, rfl⟩ := List.map_eq_singleton_iff.mp hg.symm
    obtain ⟨hopen, hx⟩ := hcondition x
    refine ⟨hopen, hx.trans ?_⟩
    rw [List.mapM_cons, List.mapM_nil]
    cases test x with
    | error e => rfl
    | ok t =>
      show Except.ok (Operand.clause (.test t)) = .ok (.clause (op.joinTests [t]))
      rw [Connective.joinTests_singleton]
  | join left right ihleft ihright =>
    obtain ⟨ls, rs, rfl, hls, hrs⟩ := List.map_eq_append_iff.mp hg.symm
    obtain ⟨hleft, hl⟩ := ihleft hls.symm
    obtain ⟨hright, hr⟩ := ihright hrs.symm
    rw [Grouping.lambda, Connective.body_joinLambda]
    have hopen : (Expr.binary (left.lambda op).body (.logic op)
        (right.lambda op).body).isClosed = false := by
      rw [Expr.isClosed, hleft, Bool.false_and]
    refine ⟨hopen, ?_⟩
    rw [operand_logic hopen, hl, hr, List.mapM_append]
    cases ls.mapM test with
    | error e => rfl
    | ok ts =>
      cases rs.mapM test with
      | error e => rfl
      | ok us =>
        show _ = Except.ok (Operand.clause (op.joinTests (ts ++ us)))
        rw [Connective.joinTests_append]
        rfl

/-- The conditions of the chain: each item is compared with what the list is searched for. -/
def itemConditions (op : Connective) (y : String) (a : Expr) (items : List Value) :
    List Lambda :=
  items.map fun v => ⟨y, .binary a (.compare op.itemComparison) (.constant v)⟩

/-! ### The search and the chain -/

section

variable {list a : Expr} {name : String} {items : List Value} {y : String} {g : Grouping}

variable (ha : a.isClosed = false) (hg : g.predicates = itemConditions op y a items)
include ha hg

/-- What the chain compiles to. -/
theorem operand_chain :
    c.operand (g.lambda op).body false = (do
      let ts ← items.mapM (itemTest op.itemComparison (c.operand a false))
      .ok (.clause (op.joinTests ts))) := by
  refine (operand_grouping op (fun v => ⟨?_, operand_equation ha op.itemComparison v⟩) hg).2
  rw [Expr.isClosed, ha, Bool.false_and]

variable (hname : TextMethod.ofName? name = some .contains) (hlist : list.isClosed = true)
  (hitems : list.evaluate c.library c.scope = .ok (.list items))
include hname hlist hitems

/-- If a field is searched for, the search and the chain are compiled to the same or fail with the
same failure. -/
theorem operand_contains_eq_chain {f : Field} (hf : c.operand a false = .ok (.field f)) :
    c.operand (.method list name [a]) (!op.decider) = c.operand (g.lambda op).body false := by
  rw [operand_contains hname hlist hitems ha, operand_chain op ha hg, hf, membership_field]
  rfl

/-- The search compiles where the chain does, to the same. -/
theorem operand_contains_iff (o : Operand) :
    c.operand (.method list name [a]) (!op.decider) = .ok o ↔
      c.operand (g.lambda op).body false = .ok o := by
  by_cases hfield : ∃ f, c.operand a false = .ok (.field f)
  · obtain ⟨f, hf⟩ := hfield
    rw [operand_contains_eq_chain op ha hg hname hlist hitems hf]
  · -- Nothing but a field can be searched for or compared with an item, and there is an item.
    rw [operand_contains hname hlist hitems ha, operand_chain op ha hg]
    constructor
    · intro h
      obtain ⟨_, f, _, -, hf, -, -⟩ := membership_eq_ok h
      exact absurd ⟨f, hf⟩ hfield
    · intro h
      obtain ⟨ts, hts, -⟩ := bind_eq_ok.mp h
      cases items with
      | nil => exact absurd hg g.predicates_ne_nil
      | cons v vs =>
        rw [List.mapM_cons] at hts
        obtain ⟨t, ht, -⟩ := bind_eq_ok.mp hts
        exact absurd (exists_field_of_itemTest ht) hfield

end

/-- A chain of members that names a field is the field. -/
theorem operand_of_lookup {a : Expr} {path : String} {f : Field} (hpath : a.fieldPath? = some path)
    (hf : c.catalog.lookup path = some f) : c.operand a false = .ok (.field f) := by
  rw [operand_of_fieldPath? hpath]
  simp only [field, hpath, hf, Bool.false_eq_true, if_false]

/-! ### Whole predicates -/

theorem compile_iff_of_operand {p q : Lambda}
    (h : ∀ o, c.operand p.body false = .ok o ↔ c.operand q.body false = .ok o)
    (result : Compiled) : c.compile p = .ok result ↔ c.compile q = .ok result := by
  simp only [compile_eq_ok_iff, Reduces, h]

/-- A predicate that searches a closed list has the results of the chain of equalities with the
items of the list, and its negation those of the chain of differences, in whatever parentheses. A
chain has a member; if the list has no item, the search for a field is constant. -/
theorem compile_membership {c : Compiler} {list a : Expr} {name : String} {items : List Value}
    (hname : TextMethod.ofName? name = some .contains) (hlist : list.isClosed = true)
    (hitems : list.evaluate c.library c.scope = .ok (.list items)) (ha : a.isClosed = false)
    (x y : String) :
    (∀ g : Grouping,
      g.predicates = items.map (fun v => ⟨y, .binary a (.compare .equal) (.constant v)⟩) →
      ∀ result, c.compile ⟨x, .method list name [a]⟩ = .ok result ↔
        c.compile (g.lambda .or) = .ok result) ∧
    (∀ g : Grouping,
      g.predicates = items.map (fun v => ⟨y, .binary a (.compare .notEqual) (.constant v)⟩) →
      ∀ result, c.compile ⟨x, .unary .not (.method list name [a])⟩ = .ok result ↔
        c.compile (g.lambda .and) = .ok result) ∧
    (items = [] → ∀ path f, a.fieldPath? = some path → c.catalog.lookup path = some f →
      c.compile ⟨x, .method list name [a]⟩ = .ok (.constant false) ∧
        c.compile ⟨x, .unary .not (.method list name [a])⟩ = .ok (.constant true)) := by
  have hopen : ¬(Expr.method list name [a]).isClosed = true := by
    simp [Expr.isClosed, Expr.allClosed, ha]
  refine ⟨?_, ?_, ?_⟩
  · intro g hg
    exact compile_iff_of_operand (operand_contains_iff .or ha hg hname hlist hitems)
  · intro g hg
    refine compile_iff_of_operand fun o => ?_
    rw [operand_not hopen]
    exact operand_contains_iff .and ha hg hname hlist hitems o
  · rintro rfl path f hpath hf
    have hfield : c.operand a false = .ok (.field f) := operand_of_lookup hpath hf
    have hoperand (negated : Bool) :
        c.operand (.method list name [a]) negated = .ok (.clause (.constant negated)) := by
      rw [operand_contains hname hlist hitems ha, hfield]
      rfl
    constructor
    · rw [compile, hoperand]
      rfl
    · rw [compile, operand_not hopen, hoperand]
      rfl

/-- Two of the three items are the same, and the test of that item is there twice. The chain that
excludes the sessions is nested to the right. No session is in the empty list. -/
theorem compile_membership_of_sessions :
    let c : Compiler := { Scenario.compilerAtNoon .task with
      scope := ⟨.ofList [("ids", .list [.string "u", .string "v", .string "u"])], Scenario.noon⟩ }
    let session : Expr := .member .parameter "SessionId"
    let listed : Expr := .method (.captured "ids") "Contains" [session]
    let unlisted : Expr := .method (.list []) "CONTAINS" [session]
    let condition (op : Comparison) (id : String) : Lambda :=
      ⟨"y", .binary session (.compare op) (.constant (.string id))⟩
    let anyOf : Grouping :=
      .leftNested (condition .equal "u") [condition .equal "v", condition .equal "u"]
    let noneOf : Grouping := .join (.single (condition .notEqual "u"))
      (.join (.single (condition .notEqual "v")) (.single (condition .notEqual "u")))
    let test (op : StringOperator) (id : String) : FieldTest :=
      ⟨⟨.task, .summary, 2⟩, .string op id⟩
    let inList : Compiled :=
      .filter ⟨[⟨[test .equal "u"]⟩, ⟨[test .equal "v"]⟩, ⟨[test .equal "u"]⟩]⟩
    let outside : Compiled :=
      .filter ⟨[⟨[test .notEqual "u", test .notEqual "v", test .notEqual "u"]⟩]⟩
    (c.compile ⟨"x", listed⟩ = .ok inList ∧ c.compile (anyOf.lambda .or) = .ok inList) ∧
      (c.compile ⟨"x", .unary .not listed⟩ = .ok outside ∧
        c.compile (noneOf.lambda .and) = .ok outside) ∧
      c.compile ⟨"x", unlisted⟩ = .ok (.constant false) ∧
      c.compile ⟨"x", .unary .not unlisted⟩ = .ok (.constant true) := by
  intro c session listed unlisted condition anyOf noneOf test inList outside
  have hids : (Expr.captured "ids").evaluate c.library c.scope =
      .ok (.list [.string "u", .string "v", .string "u"]) := rfl
  have hnothing : (Expr.list []).evaluate c.library c.scope = .ok (.list []) := rfl
  have hsession : session.isClosed = false := rfl
  have hin : c.compile ⟨"x", listed⟩ = .ok inList := rfl
  have hout : c.compile ⟨"x", .unary .not listed⟩ = .ok outside := rfl
  have hname : TextMethod.ofName? "Contains" = some .contains := rfl
  have hspelled : TextMethod.ofName? "CONTAINS" = some .contains := rfl
  obtain ⟨hany, hnone, -⟩ := compile_membership hname rfl hids hsession "x" "y"
  obtain ⟨-, -, hempty⟩ := compile_membership hspelled rfl hnothing hsession "x" "y"
  exact ⟨⟨hin, (hany anyOf rfl inList).mp hin⟩, ⟨hout, (hnone noneOf rfl outside).mp hout⟩,
    hempty rfl _ _ rfl rfl⟩

end Compiler
end Listing
