import Listing.Proofs.Compile.Connectives
import Listing.Proofs.Compile.Folding
import Listing.Proofs.Compile.Opposites
import Listing.Proofs.Compile.Provenance

/-! # Dotted paths

  A field is named by a chain of members, in an ordering as in a
  predicate, and both look only at the dotted text of the chain. So it
  makes no difference where a text is cut into members. The part of a
  predicate that tests a field is a leaf of it: the chain, perhaps with
  closed parts beside it. A compiled predicate has the tests of its
  leaves, and these are about the fields that an ordering by their
  chains would sort by.
-/

namespace Listing

/-! ### Orderings -/

/-- The expression is a chain of at least one member, and this is its dotted text. -/
def Expr.HasPath (e : Expr) (path : String) : Prop :=
  ∃ names, names ≠ [] ∧ e = chain names ∧ ".".intercalate names = path

theorem Expr.fieldPath?_eq_none_iff {e : Expr} :
    e.fieldPath? = none ↔ ∀ path, ¬e.HasPath path := by
  rw [Option.eq_none_iff_forall_ne_some]
  exact forall_congr' fun path => not_congr fieldPath?_eq_some_iff

namespace Catalog

variable {catalog : Catalog} {key : Lambda}

theorem sortKey_eq_invalid_iff {key' : Lambda} :
    catalog.sortKey key = .error (.invalidSortKey key') ↔
      key' = key ∧ ∀ path, ¬key.body.HasPath path := by
  rw [← Expr.fieldPath?_eq_none_iff]
  unfold sortKey
  split
  · next hnone => simp [hnone, eq_comm]
  · next path hpath =>
    split <;> simp [hpath]

theorem sortKey_eq_unknown_iff {entity : EntityKind} {path : String} :
    catalog.sortKey key = .error (.unknownField entity path) ↔
      entity = catalog.entity ∧ key.body.HasPath path ∧ catalog.lookup path = none := by
  rw [Expr.HasPath, ← Expr.fieldPath?_eq_some_iff]
  unfold sortKey
  split
  · next hnone => simp [hnone]
  · next path' hpath =>
    split
    · next hlookup =>
      simp only [hpath, Except.error.injEq, CompileError.unknownField.injEq, Option.some.injEq]
      constructor
      · rintro ⟨rfl, rfl⟩
        exact ⟨rfl, rfl, hlookup⟩
      · rintro ⟨rfl, rfl, -⟩
        exact ⟨rfl, rfl⟩
    · next f hlookup =>
      simp only [hpath, reduceCtorEq, Option.some.injEq, false_iff]
      rintro ⟨-, rfl, hnone⟩
      rw [hlookup] at hnone
      cases hnone

theorem sortKey_eq_ok_iff {s : Selector} :
    catalog.sortKey key = .ok s ↔
      ∃ path f, key.body.HasPath path ∧ catalog.lookup path = some f ∧ s = f.selector := by
  simp only [Expr.HasPath, ← Expr.fieldPath?_eq_some_iff]
  unfold sortKey
  split
  · next hnone => simp [hnone]
  · next path hpath =>
    split
    · next hnone => simp [hpath, hnone]
    · next f hf => simp [hpath, hf, eq_comm]

end Catalog

/-! ### Chains with the same text -/

theorem Expr.evaluate_chain (names : List String) (lib : Library) (s : Scope) :
    (chain names).evaluate lib s = .error .parameterReference := by
  induction names using List.reverseRecOn with
  | nil => rfl
  | append_singleton names name ih =>
    rw [chain_concat, evaluate, ih]
    rfl

namespace Compiler

variable {c : Compiler} {names names' : List String} {f : Field}

/-- A field is looked up by its dotted text alone, and where there is none the failure names the
text. -/
theorem field_eq_of_fieldPath? {a b : Expr} {path : String} (ha : a.fieldPath? = some path)
    (hb : b.fieldPath? = some path) (negated : Bool) : c.field a negated = c.field b negated := by
  unfold field
  rw [ha, hb]

theorem interchangeable_chain (hne : names ≠ []) (hne' : names' ≠ [])
    (htext : ".".intercalate names = ".".intercalate names') :
    c.Interchangeable (.chain names) (.chain names') where
  isClosed := by rw [Expr.isClosed_chain, Expr.isClosed_chain]
  evaluate := by rw [Expr.evaluate_chain, Expr.evaluate_chain]
  chainText := by
    have hdotted := Expr.dotted?_eq_some_iff.mpr ⟨hne, htext⟩
    have hdotted' := Expr.dotted?_eq_some_iff.mpr ⟨hne', rfl⟩
    rw [Expr.chainText?, Expr.chainText?, Expr.memberNames_chain, Expr.memberNames_chain,
      Option.map_some, Option.map_some, hdotted, hdotted']
  operand := by
    intro negated
    have hpath := Expr.fieldPath?_eq_some_iff.mpr ⟨names, hne, rfl, htext⟩
    have hpath' := Expr.fieldPath?_eq_some_iff.mpr ⟨names', hne', rfl, rfl⟩
    rw [operand_of_fieldPath? hpath, operand_of_fieldPath? hpath', field_eq_of_fieldPath? hpath hpath']
    exact (Persists.refl _).sameOutcome_of_strict

theorem fieldPath?_eq_of_interchangeable {a b : Expr} (h : c.Interchangeable a b) :
    a.fieldPath? = b.fieldPath? := by
  rw [Expr.fieldPath?_eq_join, Expr.fieldPath?_eq_join, h.chainText]

/-- An ordering by a chain that is cut into members in another way. -/
theorem sortKey_fill_iff {a b : Expr} (h : c.Interchangeable a b) (k : Expr.Context)
    (x y : String) (s : Selector) :
    c.catalog.sortKey ⟨x, k.fill a⟩ = .ok s ↔ c.catalog.sortKey ⟨y, k.fill b⟩ = .ok s := by
  simp only [Catalog.sortKey_eq_ok_iff, Expr.HasPath, ← Expr.fieldPath?_eq_some_iff,
    fieldPath?_eq_of_interchangeable (h.fill k)]

theorem Names.sortKey (h : c.Names names f) (x : String) :
    c.catalog.sortKey ⟨x, .chain names⟩ = .ok f.selector :=
  Catalog.sortKey_eq_ok_iff.mpr ⟨_, f, ⟨names, h.ne_nil, rfl, rfl⟩, h.lookup, rfl⟩

end Compiler

/-! ### Leaves -/

namespace Expr

/-- A part of a predicate that tests the field of the chain with these names: the chain as a
condition of its own, the chain compared with a closed part, a method of the chain with a closed
argument, or the search of a closed part for the chain. Such a part may be negated. So may the
chain be in it, an even number of times. -/
inductive LeafOn (names : List String) : Expr → Prop
  | alone : LeafOn names (chain names)
  | compare {a d : Expr} (ha : Negations (chain names) false a) {op : Comparison}
      (hclosed : d.isClosed = true) : LeafOn names (.binary a (.compare op) d)
  | compareSwapped {a d : Expr} (ha : Negations (chain names) false a) {op : Comparison}
      (hclosed : d.isClosed = true) : LeafOn names (.binary d (.compare op) a)
  | method {a d : Expr} (ha : Negations (chain names) false a) {name : String}
      (hclosed : d.isClosed = true) : LeafOn names (.method a name [d])
  | membership {a d : Expr} (ha : Negations (chain names) false a) {name : String}
      (hclosed : d.isClosed = true) : LeafOn names (.method d name [a])
  | not {p : Expr} (h : LeafOn names p) : LeafOn names (.unary .not p)

variable {e outer : Expr} {odd : Bool}

theorem LeafOn.negations {names : List String} (h : LeafOn names e)
    (houter : Negations e odd outer) : LeafOn names outer := by
  induction houter with
  | none => exact h
  | not _ ih => exact .not ih

theorem LeafOn.isClosed {names : List String} (h : LeafOn names e) : e.isClosed = false := by
  induction h with
  | alone => exact isClosed_chain names
  | not _ ih => exact ih
  | compare ha | compareSwapped ha | method ha | membership ha =>
    simp [Expr.isClosed, allClosed, ha.isClosed_eq, isClosed_chain]

end Expr

namespace Compiler

variable {c : Compiler} {names : List String} {f : Field} {e outer body : Expr} {negated : Bool}
  {o : Operand} {a : Clause} {t : FieldTest}

/-! ### The tests of a leaf -/

/-- The operand is the field that a chain of these names names, or a condition on it. -/
def OnField (c : Compiler) (names : List String) : Operand → Prop
  | .constant _ => True
  | .field f => c.Names names f
  | .clause a => ∀ t ∈ a.outcome.tests, ∃ f, c.Names names f ∧ t.selector = f.selector

theorem onField_test {v : Value} (hf : c.Names names f) (ht : f.Tests v t) :
    c.OnField names (.clause (.test t)) := by
  intro u hu
  rw [Clause.mem_tests_test.mp hu]
  exact ⟨f, hf, ht.selector⟩

theorem onField_constant (b : Bool) : c.OnField names (.clause (.constant b)) := by
  intro t ht
  cases ht

theorem onField_join {op : Connective} {a b : Clause} (ha : c.OnField names (.clause a))
    (hb : c.OnField names (.clause b)) : c.OnField names (.clause (op.join a b)) := by
  intro t ht
  rcases Connective.mem_tests_join ht with ht | ht
  · exact ha t ht
  · exact hb t ht

theorem names_of_negations {odd : Bool} (hnegations : Expr.Negations (.chain names) odd e)
    (h : c.Yields e negated (.field f)) : c.Names names f := by
  obtain ⟨names', hnames', hnegations'⟩ := negations_of_yields h rfl
  rwa [hnegations.names_eq hnegations']

theorem onField_chain (h : c.Yields e negated o) (he : e = .chain names) :
    c.OnField names o := by
  have hnames := Expr.memberNames_chain names
  rw [← he] at hnames
  cases h with
  | closed | notClosed => trivial
  | field hopen hpath hf =>
    obtain ⟨names', hne, hchain, rfl⟩ := Expr.fieldPath?_eq_some_iff.mp hpath
    obtain rfl := Expr.chain_injective (he.symm.trans hchain)
    exact ⟨hne, hf⟩
  | notField hopen hpath hf hboolean ht =>
    obtain ⟨names', hne, hchain, rfl⟩ := Expr.fieldPath?_eq_some_iff.mp hpath
    obtain rfl := Expr.chain_injective (he.symm.trans hchain)
    exact onField_test ⟨hne, hf⟩ (Field.tests_of_comparison ht)
  | _ => cases hnames

theorem not_yields_constant {odd : Bool} {v : Value}
    (hnegations : Expr.Negations (.chain names) odd e) : ¬c.Yields e negated (.constant v) := by
  intro h
  have hclosed := isClosed_of_yields h rfl
  rw [hnegations.isClosed_eq, Expr.isClosed_chain] at hclosed
  cases hclosed

theorem not_yields_field (hclosed : e.isClosed = true) : ¬c.Yields e negated (.field f) := by
  intro h
  obtain ⟨names, -, hnegations⟩ := negations_of_yields h rfl
  rw [hnegations.isClosed_eq, Expr.isClosed_chain] at hclosed
  cases hclosed

/-- What a leaf compiles to is the field of its chain or a condition on it. -/
theorem onField_of_leaf (hleaf : Expr.LeafOn names e) (h : c.Yields e negated o) :
    c.OnField names o := by
  induction hleaf generalizing negated o with
  | alone => exact onField_chain h rfl
  | not _ ih =>
    cases h with
    | closed | notClosed => trivial
    | not _ hinner => exact ih hinner
  | compare ha hclosed =>
    cases h with
    | closed | notClosed => trivial
    | compare _ hleft _ ht =>
      exact onField_test (names_of_negations ha hleft) (Field.tests_of_comparison ht)
    -- A chain is open, so it is not the constant of a comparison.
    | compareSwapped _ hleft => exact absurd hleft (not_yields_constant ha)
  | compareSwapped ha hclosed =>
    cases h with
    | closed | notClosed => trivial
    | compare _ _ hright => exact absurd hright (not_yields_constant ha)
    | compareSwapped _ _ hright ht =>
      exact onField_test (names_of_negations ha hright) (Field.tests_of_comparison ht)
  | method ha hclosed =>
    cases h with
    | closed | notClosed => trivial
    | membership _ _ _ _ harg => exact absurd harg (not_yields_field hclosed)
    | arrayMethod _ _ _ htarget _ ht =>
      exact onField_test (names_of_negations ha htarget) (Field.tests_of_arrayContains ht)
    | textMethod _ _ _ htarget _ ht =>
      exact onField_test (names_of_negations ha htarget) (Field.tests_of_textMethod ht)
  | membership ha hclosed =>
    cases h with
    | closed | notClosed => trivial
    | membership _ _ _ _ harg hcl =>
      have hnames := names_of_negations ha harg
      refine foldlM_addItem_induction (P := fun b => c.OnField names (.clause b)) ?_
        (onField_constant negated) hcl
      intro x y item _ hx hy
      obtain ⟨op, _, t, ht, rfl⟩ := addItem_eq_ok hy
      exact onField_join hx (onField_test hnames (Field.tests_of_comparison ht))
    | arrayMethod _ _ _ _ harg => exact absurd harg (not_yields_constant ha)
    | textMethod _ _ _ _ harg => exact absurd harg (not_yields_constant ha)

/-- A leaf as a predicate of its own: its tests are about the field of its chain. -/
theorem selector_of_leaf (hleaf : Expr.LeafOn names e) (hred : c.Reduces e a)
    (ht : t ∈ a.outcome.tests) : ∃ f, c.Names names f ∧ t.selector = f.selector := by
  obtain ⟨o, ho, ha⟩ := hred
  have hfield := onField_of_leaf hleaf (yields_of_operand ho)
  unfold condition at ha
  split at ha
  · cases ha
    exact hfield t ht
  · cases ha
    cases ht
  · next f =>
    split at ha
    · obtain ⟨u, hu, ha⟩ := bind_eq_ok.mp ha
      cases ha
      exact onField_test hfield (Field.tests_of_comparison hu) t ht
    · cases ha
  · cases ha

/-! ### The leaves of a predicate -/

/-- The test is one of a leaf of `body`, as a predicate of its own. -/
def FromLeaf (c : Compiler) (body : Expr) (t : FieldTest) : Prop :=
  ∃ names leaf a, Expr.LeafOn names leaf ∧ leaf.Occurs body ∧ c.Reduces leaf a ∧
    t ∈ a.outcome.tests

theorem operand_of_negations {odd : Bool} (hnegations : Expr.Negations e odd outer)
    (hopen : e.isClosed = false) (negated : Bool) :
    c.operand outer negated = c.operand e (negated ^^ odd) := by
  induction hnegations generalizing negated with
  | none => rw [Bool.xor_false]
  | @not odd d h ih =>
    have hopen' : ¬d.isClosed = true := by
      rw [h.isClosed_eq, hopen]
      exact Bool.false_ne_true
    rw [operand_not hopen', ih, Bool.not_xor, Bool.xor_not]

/-- A leaf under the negations that hand the flag down to it is a predicate of its own. -/
theorem fromLeaf_of_leaf (hleaf : Expr.LeafOn names e) (h : c.Yields e negated (.clause a))
    (houter : Expr.Negations e negated outer) (hoccurs : outer.Occurs body)
    (ht : t ∈ a.outcome.tests) : c.FromLeaf body t := by
  refine ⟨names, outer, a, hleaf.negations houter, hoccurs, ⟨.clause a, ?_, rfl⟩, ht⟩
  rw [operand_of_negations houter hleaf.isClosed, Bool.false_xor]
  exact operand_of_yields h

theorem fromLeaf_of_condition {k : Construct} (he : e.Occurs body) (h : c.Yields e false o)
    (ho : ∀ b, o = .clause b → ∀ t ∈ b.outcome.tests, c.FromLeaf body t)
    (ha : condition k o = .ok a) : ∀ t ∈ a.outcome.tests, c.FromLeaf body t := by
  intro t ht
  have ha' := ha
  rw [condition_eq_ok_iff _ .predicate] at ha'
  unfold condition at ha
  split at ha
  · cases ha
    exact ho _ rfl t ht
  · cases ha
    cases ht
  · obtain ⟨names, -, hnegations⟩ := negations_of_yields h rfl
    exact ⟨names, e, a, Expr.LeafOn.alone.negations hnegations, he,
      ⟨_, operand_of_yields h, ha'⟩, ht⟩
  · cases ha

/-- Every test that a part of a predicate compiles to is one of a leaf. The negations that hand
the flag down to the part belong to the leaf. -/
theorem fromLeaf_of_yields (h : c.Yields e negated o) (houter : Expr.Negations e negated outer)
    (hoccurs : outer.Occurs body) (ho : o = .clause a) :
    ∀ t ∈ a.outcome.tests, c.FromLeaf body t := by
  have hyields := h
  induction h generalizing outer a with
  | closed | notClosed | field => cases ho
  | notField hopen hpath hf hboolean ht =>
    cases ho
    obtain ⟨names, hne, hchain, rfl⟩ := Expr.fieldPath?_eq_some_iff.mp hpath
    rw [hchain] at hyields houter
    exact fun t => fromLeaf_of_leaf .alone hyields houter hoccurs
  | not _ hinner ih => exact ih houter.inner hoccurs ho hinner
  | @logic left right op l r x y hopen hleft hright hx hy ihleft ihright =>
    cases ho
    have hbody : (Expr.binary left (.logic op) right).Occurs body := houter.occurs.trans hoccurs
    -- Each side is a condition of its own, and no negation is handed down to it.
    have hl : left.Occurs body := hbody.part (.head _)
    have hr : right.Occurs body := hbody.part (.tail _ (.head _))
    intro t ht
    rcases Connective.mem_tests_join ht with ht | ht
    · exact fromLeaf_of_condition hl hleft (fun _ hb => ihleft .none hl hb hleft) hx t ht
    · exact fromLeaf_of_condition hr hright (fun _ hb => ihright .none hr hb hright) hy t ht
  | compare _ hleft hright ht =>
    cases ho
    obtain ⟨names, -, hnegations⟩ := negations_of_yields hleft rfl
    have hclosed := isClosed_of_yields hright rfl
    exact fun t => fromLeaf_of_leaf (.compare hnegations hclosed) hyields houter hoccurs
  | compareSwapped _ hleft hright ht =>
    cases ho
    obtain ⟨names, -, hnegations⟩ := negations_of_yields hright rfl
    have hclosed := isClosed_of_yields hleft rfl
    exact fun t => fromLeaf_of_leaf (.compareSwapped hnegations hclosed) hyields houter hoccurs
  | membership _ _ hclosed _ harg hcl =>
    cases ho
    obtain ⟨names, -, hnegations⟩ := negations_of_yields harg rfl
    exact fun t => fromLeaf_of_leaf (.membership hnegations hclosed) hyields houter hoccurs
  | arrayMethod _ _ _ htarget harg ht =>
    cases ho
    obtain ⟨names, -, hnegations⟩ := negations_of_yields htarget rfl
    have hclosed := isClosed_of_yields harg rfl
    exact fun t => fromLeaf_of_leaf (.method hnegations hclosed) hyields houter hoccurs
  | textMethod _ _ _ htarget harg ht =>
    cases ho
    obtain ⟨names, -, hnegations⟩ := negations_of_yields htarget rfl
    have hclosed := isClosed_of_yields harg rfl
    exact fun t => fromLeaf_of_leaf (.method hnegations hclosed) hyields houter hoccurs

/-! ### One text, one field -/

/-- A field is named by the dotted text of a chain of members. An ordering is refused as such where
it is no chain, and as unknown where the catalog has no field under its text; otherwise it is the
field of the catalog. Where the text of a chain is cut into members in another way, an ordering
has the same result, and a predicate with the chain anywhere in it has the same outcome. The tests
of a leaf are about the field that its chain is an ordering by, and every test of a predicate is
one of a leaf of it. -/
theorem paths_by_text (c : Compiler) :
    (∀ e path, Expr.fieldPath? e = some path ↔ e.HasPath path) ∧
    (∀ key,
      (∀ key', c.catalog.sortKey key = .error (.invalidSortKey key') ↔
        key' = key ∧ ∀ path, ¬key.body.HasPath path) ∧
      (∀ entity path, c.catalog.sortKey key = .error (.unknownField entity path) ↔
        entity = c.catalog.entity ∧ key.body.HasPath path ∧ c.catalog.lookup path = none) ∧
      ∀ s, c.catalog.sortKey key = .ok s ↔
        ∃ path f, key.body.HasPath path ∧ c.catalog.lookup path = some f ∧ s = f.selector) ∧
    (∀ names names', names ≠ [] → names' ≠ [] →
      ".".intercalate names = ".".intercalate names' → ∀ (k : Expr.Context) (x y : String),
        (∀ s, c.catalog.sortKey ⟨x, k.fill (.chain names)⟩ = .ok s ↔
          c.catalog.sortKey ⟨y, k.fill (.chain names')⟩ = .ok s) ∧
        SameOutcome (c.compile ⟨x, k.fill (.chain names)⟩)
          (c.compile ⟨y, k.fill (.chain names')⟩)) ∧
    (∀ names leaf x result, Expr.LeafOn names leaf → c.compile ⟨x, leaf⟩ = .ok result →
      ∀ t ∈ result.tests, ∀ y, c.catalog.sortKey ⟨y, .chain names⟩ = .ok t.selector) ∧
    ∀ p result, c.compile p = .ok result → ∀ t ∈ result.tests,
      ∃ names leaf part, Expr.LeafOn names leaf ∧ leaf.Occurs p.body ∧
        c.compile ⟨p.parameter, leaf⟩ = .ok part ∧ t ∈ part.tests := by
  refine ⟨fun e path => Expr.fieldPath?_eq_some_iff, ?_, ?_, ?_, ?_⟩
  · intro key
    exact ⟨fun _ => Catalog.sortKey_eq_invalid_iff, fun _ _ => Catalog.sortKey_eq_unknown_iff,
      fun _ => Catalog.sortKey_eq_ok_iff⟩
  · intro names names' hne hne' htext k x y
    have hchain := interchangeable_chain (c := c) hne hne' htext
    exact ⟨sortKey_fill_iff hchain k x y, (hchain.fill k).compile x⟩
  · intro names leaf x result hleaf hresult t ht y
    obtain ⟨a, hred, rfl⟩ := compile_eq_ok_iff.mp hresult
    obtain ⟨f, hnames, hselector⟩ := selector_of_leaf hleaf hred ht
    rw [hselector]
    exact hnames.sortKey y
  · intro p result hresult t ht
    obtain ⟨a, ⟨o, ho, ha⟩, rfl⟩ := compile_eq_ok_iff.mp hresult
    have hyields := yields_of_operand ho
    have hclauses := fun b => fromLeaf_of_yields (a := b) hyields .none .here
    obtain ⟨names, leaf, b, hleaf, hoccurs, hred, ht⟩ :=
      fromLeaf_of_condition .here hyields hclauses ha t ht
    exact ⟨names, leaf, _, hleaf, hoccurs, compile_eq_ok_iff.mpr ⟨b, hred, rfl⟩, ht⟩

/-- An ordering and a comparison by the priority of a task, as two members and as one. -/
theorem paths_by_text_of_priority :
    let c := Scenario.compilerAtNoon .task
    let k : Expr.Context := [.leftOperand (.compare .greater) (.constant (.int 3))]
    let result := Compiled.filter ⟨[⟨[Scenario.priority .greaterThan 3]⟩]⟩
    c.compile ⟨"x", k.fill (.chain ["Options", "Priority"])⟩ = .ok result ∧
      c.compile ⟨"x", k.fill (.chain ["Options.Priority"])⟩ = .ok result ∧
      c.catalog.sortKey ⟨"x", .chain ["Options.Priority"]⟩ =
        .ok (Scenario.priority .greaterThan 3).selector := by
  intro c k result
  have htext : ".".intercalate ["Options", "Priority"] = ".".intercalate ["Options.Priority"] := rfl
  obtain ⟨-, -, hcut, hleaves, -⟩ := paths_by_text c
  obtain ⟨-, hsame⟩ := hcut _ _ (List.cons_ne_nil _ _) (List.cons_ne_nil _ _) htext k "x" "x"
  have hresult : c.compile ⟨"x", k.fill (.chain ["Options", "Priority"])⟩ = .ok result := rfl
  have hresult' : c.compile ⟨"x", k.fill (.chain ["Options.Priority"])⟩ = .ok result := by
    rw [hresult] at hsame
    cases hsame
    rfl
  have hleaf : Expr.LeafOn ["Options.Priority"] (k.fill (.chain ["Options.Priority"])) :=
    .compare .none rfl
  exact ⟨hresult, hresult', hleaves _ _ _ _ hleaf hresult' _ (.head _) "x"⟩

end Compiler
end Listing
