import Listing.Proofs.Meaning.Predicate

/-! # Typing of compiled predicates

  The compiler looks at the types of fields and constants on its way,
  so evaluation of a predicate that it accepts meets no operand of a
  wrong type, with one exception. A negation is a flag that the next
  negation clears again; the type of a field is looked at only while
  the flag is set. A field that is no truth value may therefore stand
  under two negations at once, and evaluation stops at the inner one.
-/

namespace Listing

/-! ### Operators that apply -/

/-- A negation fails for everything but truth values. -/
theorem Value.applyUnary_not_of_ne {v : Value} (h : ∀ b, v ≠ .boolean b) :
    applyUnary .not v = .error (.unsupportedOperation ("!" ++ v.type.text)) := by
  cases v with
  | boolean b => exact absurd rfl (h b)
  | _ => rfl

/-- A comparison has a value where its test exists, under a negation or not. -/
theorem Field.exists_compareBy {f : Field} {t : FieldTest} {r : Record} {v : Value}
    {negated : Bool} {op : Comparison}
    (h : f.comparison (if negated then op.negate else op) v = .ok t)
    (hr : f.type.Admits (r f.selector)) : ∃ x, (r f.selector).compareBy op v = .ok x := by
  have ht := compareBy_of_comparison h hr
  cases negated with
  | false => exact ⟨_, ht⟩
  | true =>
    obtain ⟨b, -, hb⟩ := Value.compareBy_negate ht
    rw [if_pos rfl, Comparison.negate_negate] at hb
    exact ⟨_, hb⟩

namespace Compiler

variable {c : Compiler} {r : Record} {body : Expr}

/-! ### What evaluation asks for -/

/-- Evaluation of the whole on the record asks for the value of the expression. The right side of
a logical operator is asked for only where the left one does not decide. -/
inductive Demands (c : Compiler) (r : Record) (e : Expr) : Expr → Prop
  | here : Demands c r e e
  | operand {op : UnaryOp} {inner : Expr} (h : Demands c r e inner) :
      Demands c r e (.unary op inner)
  | compareLeft {left right : Expr} {op : Comparison} (h : Demands c r e left) :
      Demands c r e (.binary left (.compare op) right)
  | compareRight {left right : Expr} {op : Comparison} (h : Demands c r e right) :
      Demands c r e (.binary left (.compare op) right)
  | logicLeft {left right : Expr} {op : Connective} (h : Demands c r e left) :
      Demands c r e (.binary left (.logic op) right)
  | logicRight {left right : Expr} {op : Connective} {p : Bool}
      (hleft : c.evaluateOn r left = .ok (.boolean p)) (hundecided : p ≠ op.decider)
      (h : Demands c r e right) : Demands c r e (.binary left (.logic op) right)
  | target {target arg : Expr} {name : String} (h : Demands c r e target) :
      Demands c r e (.method target name [arg])
  | argument {target arg : Expr} {name : String} (h : Demands c r e arg) :
      Demands c r e (.method target name [arg])

theorem Demands.trans {d e whole : Expr} (hd : c.Demands r d e) (he : c.Demands r e whole) :
    c.Demands r d whole := by
  induction he with
  | here => exact hd
  | operand _ ih => exact .operand ih
  | compareLeft _ ih => exact .compareLeft ih
  | compareRight _ ih => exact .compareRight ih
  | logicLeft _ ih => exact .logicLeft ih
  | logicRight hleft hundecided _ ih => exact .logicRight hleft hundecided ih
  | target _ ih => exact .target ih
  | argument _ ih => exact .argument ih

/-- Where the whole has a value, all that is asked for has one. -/
theorem Demands.exists_value {e whole : Expr} (h : c.Demands r e whole) {v : Value}
    (hv : c.evaluateOn r whole = .ok v) : ∃ w, c.evaluateOn r e = .ok w := by
  induction h generalizing v with
  | here => exact ⟨v, hv⟩
  | operand _ ih =>
    rw [evaluateOn_unary] at hv
    obtain ⟨x, hx, -⟩ := bind_eq_ok.mp hv
    exact ih hx
  | compareLeft _ ih =>
    obtain ⟨x, -, hx, -, -⟩ := evaluateOn_compare_eq_ok hv
    exact ih hx
  | compareRight _ ih =>
    obtain ⟨-, y, -, hy, -⟩ := evaluateOn_compare_eq_ok hv
    exact ih hy
  | logicLeft _ ih =>
    obtain ⟨p, hp, -⟩ := evaluateOn_logic_eq_ok hv
    exact ih hp
  | logicRight hleft hundecided _ ih =>
    obtain ⟨p, hp, hright⟩ := evaluateOn_logic_eq_ok hv
    rw [hleft] at hp
    cases hp
    rcases hright with ⟨hdecides, -⟩ | ⟨-, q, hq, -⟩
    · exact absurd hdecides hundecided
    · exact ih hq
  | target _ ih =>
    rw [evaluateOn_method] at hv
    obtain ⟨x, hx, -⟩ := bind_eq_ok.mp hv
    exact ih hx
  | argument _ ih =>
    rw [evaluateOn_method] at hv
    obtain ⟨x, -, hv⟩ := bind_eq_ok.mp hv
    obtain ⟨y, hy, -⟩ := bind_eq_ok.mp hv
    exact ih hy

/-! ### Fields that are no truth values -/

theorem evaluateOn_chain {names : List String} {f : Field} (h : c.Names names f) :
    c.evaluateOn r (.chain names) = .ok (r f.selector) := by
  have hpath : (Expr.chain names).fieldPath? = some (".".intercalate names) :=
    Expr.fieldPath?_eq_some_iff.mpr ⟨names, h.ne_nil, rfl, rfl⟩
  -- The chain ends with a member, since it has one.
  obtain ⟨names, name, rfl⟩ := (List.eq_nil_or_concat' names).resolve_left h.ne_nil
  rw [Expr.chain_concat] at hpath ⊢
  exact evaluateOn_field hpath h.lookup

/-- The value of a field that is no truth value cannot be negated. -/
theorem ne_boolean_of_type {names : List String} {f : Field} (hr : r.Fits c.catalog)
    (h : c.Names names f) (htype : f.type ≠ .boolean) (b : Bool) : r f.selector ≠ .boolean b := by
  intro hb
  have hadmits := hr _ f h.lookup
  rw [hb] at hadmits
  exact htype hadmits.eq_boolean

/-- Where the whole has a value, no field is negated that is no truth value. -/
theorem not_demands_of_value {names : List String} {f : Field} (hr : r.Fits c.catalog)
    (h : c.Names names f) (htype : f.type ≠ .boolean) {whole : Expr} {v : Value}
    (hv : c.evaluateOn r whole = .ok v) :
    ¬c.Demands r (.unary .not (.unary .not (.chain names))) whole := by
  intro hdemands
  obtain ⟨w, hw⟩ := (Demands.trans (.operand .here) hdemands).exists_value hv
  rw [evaluateOn_unary, evaluateOn_chain h] at hw
  obtain ⟨_, hx, hw⟩ := bind_eq_ok.mp hw
  cases hx
  rw [Value.applyUnary_not_of_ne (ne_boolean_of_type hr h htype)] at hw
  cases hw

/-! ### Values and the one failure -/

/-- The result is a value, or the failure at a field that is no truth value and stands under two
negations where `body` asks for it. -/
inductive Progress (c : Compiler) (r : Record) (body : Expr) : Except EvalError Value → Prop
  | value (v : Value) : Progress c r body (.ok v)
  | stop {names : List String} {f : Field} (hnames : c.Names names f) (htype : f.type ≠ .boolean)
      (hdemands : c.Demands r (.unary .not (.unary .not (.chain names))) body) :
      Progress c r body (.error (.unsupportedOperation ("!" ++ (r f.selector).type.text)))

/-- A failed first step is the failure of the whole. -/
theorem Progress.bind {x : Except EvalError Value} {k : Value → Except EvalError Value}
    (hx : c.Progress r body x) (hk : ∀ v, x = .ok v → c.Progress r body (k v)) :
    c.Progress r body (x >>= k) := by
  cases hx with
  | value v => exact hk v rfl
  | stop hnames htype hdemands => exact .stop hnames htype hdemands

/-- Two steps whose values go together have a value together. -/
theorem Progress.both {x y : Except EvalError Value} {k : Value → Value → Except EvalError Value}
    (hx : c.Progress r body x) (hy : c.Progress r body y)
    (hk : ∀ v w, x = .ok v → y = .ok w → ∃ z, k v w = .ok z) :
    c.Progress r body (do let v ← x; let w ← y; k v w) := by
  refine hx.bind fun v hv => hy.bind fun w hw => ?_
  obtain ⟨z, hz⟩ := hk v w hv hw
  rw [hz]
  exact .value z

/-! ### Negations -/

/-- What stands under a negation is a truth value, or else a chain of members with one more
negation around that negation. -/
theorem progress_not {inner : Expr} {negated : Bool} {o : Operand} {v : Value}
    (hr : r.Fits c.catalog) (hopen : inner.isClosed = false) (hinner : c.Yields inner (!negated) o)
    (hnot : negated = true → c.Demands r (.unary .not (.unary .not inner)) body)
    (hagrees : Value.Agrees (!negated) v (denote r o)) (hv : c.evaluateOn r inner = .ok v) :
    c.Progress r body (Value.applyUnary .not v) := by
  by_cases hboolean : ∃ b, v = .boolean b
  · obtain ⟨b, rfl⟩ := hboolean
    exact .value _
  have hne : ∀ b, v ≠ .boolean b := fun b hb => hboolean ⟨b, hb⟩
  cases negated with
  | false =>
    -- Under the flag only truth values agree with an operand.
    obtain ⟨b, hb⟩ := hagrees.eq_boolean
    exact absurd hb (hne b)
  | true =>
    have hdenote : v = denote r o := hagrees.eq
    cases o with
    | constant w =>
      have hclosed := isClosed_of_yields hinner rfl
      rw [hopen] at hclosed
      cases hclosed
    | clause a => exact absurd hdenote (hne _)
    | field f =>
      obtain ⟨names, hnames, rfl | ⟨operand, rfl, -⟩⟩ := names_of_yields hinner rfl
      · have htype : f.type ≠ .boolean := by
          intro htype
          have hadmits := admits_of_yields hr hinner
          rw [htype] at hadmits
          obtain ⟨b, hb⟩ := hadmits.boolean
          exact hne b (hdenote.trans hb)
        rw [Value.applyUnary_not_of_ne hne, hdenote]
        exact .stop hnames htype (hnot rfl)
      · -- A negation has been evaluated already, so its value is a truth value.
        rw [evaluateOn_unary] at hv
        obtain ⟨w, -, hv⟩ := bind_eq_ok.mp hv
        obtain ⟨b, -, rfl⟩ := Value.applyUnary_not_eq_ok_iff.mp hv
        exact absurd rfl (hne _)

/-! ### Progress of operands -/

/-- Evaluation of what the compiler accepts has a value, or stops at a field under two negations.
An expression under the flag has a negation in front of it. -/
theorem progress_of_yields (hlib : c.library.KeepsTextMethods) (hr : r.Fits c.catalog) {e : Expr}
    {negated : Bool} {o : Operand} (h : c.Yields e negated o) (he : c.Demands r e body)
    (hnot : negated = true → c.Demands r (.unary .not e) body) :
    c.Progress r body (c.evaluateOn r e) := by
  -- The first failure among the parts is that of the whole. Where the parts have values, these
  -- are what their operands stand for, and a test exists only of values that go together.
  induction h with
  | closed hclosed hv | notClosed hclosed hv =>
    rw [evaluateOn_of_isClosed hclosed, hv]
    exact .value _
  | field _ hpath hf | notField _ hpath hf =>
    rw [evaluateOn_field hpath hf]
    exact .value _
  | not hopen hinner ih =>
    rw [evaluateOn_unary]
    refine (ih (.trans (.operand .here) he) fun _ => he).bind fun v hv => ?_
    exact progress_not hr hopen hinner hnot (agrees_of_yields hlib hr hinner hv) hv
  | @logic left right op _ _ _ _ _ hleft hright ha hb ihleft ihright =>
    rw [evaluateOn_logic]
    refine (ihleft (.trans (.logicLeft .here) he) nofun).bind fun x hx => ?_
    obtain rfl := (agrees_of_yields hlib hr hleft hx).eq.trans (denote_of_condition hr hleft ha)
    -- The right side is asked for only where the left one does not decide.
    show c.Progress r body (if _ = op.decider then _ else _)
    split
    · exact .value _
    · next hundecided =>
      have hdemands : c.Demands r right body := .trans (.logicRight hx hundecided .here) he
      refine (ihright hdemands nofun).bind fun y hy => ?_
      have hyb := (agrees_of_yields hlib hr hright hy).eq.trans (denote_of_condition hr hright hb)
      rw [hyb]
      exact .value _
  | compare _ hleft hright ht ihleft ihright =>
    rw [evaluateOn_compare]
    refine .both (ihleft (.trans (.compareLeft .here) he) nofun)
      (ihright (.trans (.compareRight .here) he) nofun) fun x y hx hy => ?_
    rw [(agrees_of_yields hlib hr hleft hx).eq, (agrees_of_yields hlib hr hright hy).eq]
    exact Field.exists_compareBy ht (admits_of_yields hr hleft)
  | compareSwapped _ hleft hright ht ihleft ihright =>
    rw [evaluateOn_compare]
    refine .both (ihleft (.trans (.compareLeft .here) he) nofun)
      (ihright (.trans (.compareRight .here) he) nofun) fun x y hx hy => ?_
    rw [(agrees_of_yields hlib hr hleft hx).eq, (agrees_of_yields hlib hr hright hy).eq]
    -- The test is about the exchanged comparison; one more exchange leads back to it.
    rw [Comparison.swap_ite_negate] at ht
    obtain ⟨z, hz⟩ := Field.exists_compareBy ht (admits_of_yields hr hright)
    have hswap := Value.compareBy_swap hz
    rw [Comparison.swap_swap] at hswap
    exact ⟨z, hswap⟩
  | membership _ hname hclosed hitems harg _ iharg =>
    rw [evaluateOn_textMethod hlib hname, evaluateOn_of_isClosed hclosed, hitems]
    refine (iharg (.trans (.argument .here) he) nofun).bind fun y _ => ?_
    exact .value _
  | arrayMethod _ hname _ htarget harg ht ihtarget iharg =>
    rw [evaluateOn_textMethod hlib hname]
    refine .both (ihtarget (.trans (.target .here) he) nofun)
      (iharg (.trans (.argument .here) he) nofun) fun x y hx hy => ?_
    rw [(agrees_of_yields hlib hr htarget hx).eq, (agrees_of_yields hlib hr harg hy).eq]
    exact ⟨_, Field.function_of_arrayContains ht (admits_of_yields hr htarget) c.scope⟩
  | textMethod _ hname _ htarget harg ht ihtarget iharg =>
    rw [evaluateOn_textMethod hlib hname]
    refine .both (ihtarget (.trans (.target .here) he) nofun)
      (iharg (.trans (.argument .here) he) nofun) fun x y hx hy => ?_
    rw [(agrees_of_yields hlib hr htarget hx).eq, (agrees_of_yields hlib hr harg hy).eq]
    exact ⟨_, Field.function_of_textMethod ht (admits_of_yields hr htarget) c.scope⟩

/-! ### Whole predicates -/

/-- Evaluation of a compiled predicate returns the truth value that the predicate has on the
record, as long as it does not ask for two negations in front of a chain of members whose field
is no truth value. At such a place it fails, and it fails nowhere else. The values of the record
have the declared types. -/
theorem compile_typing {c : Compiler} {r : Record} (hlib : c.library.KeepsTextMethods)
    (hr : r.Fits c.catalog) {p : Lambda} {x : Compiled} (hx : c.compile p = .ok x) :
    (c.evaluateOn r p.body = .ok (.boolean (x.holds (·.holds r))) ↔
      ∀ names f, c.Names names f → f.type ≠ .boolean →
        ¬c.Demands r (.unary .not (.unary .not (.chain names))) p.body) ∧
    ∀ err, c.evaluateOn r p.body = .error err →
      ∃ names f, c.Names names f ∧ f.type ≠ .boolean ∧
        c.Demands r (.unary .not (.unary .not (.chain names))) p.body ∧
        err = .unsupportedOperation ("!" ++ (r f.selector).type.text) := by
  obtain ⟨a, ⟨o, ho, ha⟩, rfl⟩ := compile_eq_ok_iff.mp hx
  have hyields := yields_of_operand ho
  have hprogress : c.Progress r p.body (c.evaluateOn r p.body) :=
    progress_of_yields hlib hr hyields .here nofun
  refine ⟨⟨?_, ?_⟩, ?_⟩
  · intro hv names f hnames htype
    exact not_demands_of_value hr hnames htype hv
  · intro hnone
    generalize hresult : c.evaluateOn r p.body = result at hprogress ⊢
    cases hprogress with
    | value v =>
      rw [(agrees_of_yields hlib hr hyields hresult).eq, denote_of_condition hr hyields ha]
    | stop hnames htype hdemands => exact absurd hdemands (hnone _ _ hnames htype)
  · intro err herr
    rw [herr] at hprogress
    cases hprogress with
    | stop hnames htype hdemands => exact ⟨_, _, hnames, htype, hdemands, rfl⟩

/-- The number under two negations is not asked for, because the partition is large. -/
theorem compile_typing_of_large_partition :
    let c := Scenario.compilerAtNoon .partition
    let r := Record.partition
    let podMax : Expr := .member .parameter "PodMax"
    let p : Lambda := ⟨"x", .or (.binary (.constant (.int 10)) (.compare .less) podMax)
      (.binary (.unary .not (.unary .not podMax)) (.compare .equal) (.constant (.int 5)))⟩
    let f : Filter := ⟨[⟨[⟨⟨.partition, .summary, 4⟩, .number .greaterThan 10⟩]⟩,
      ⟨[⟨⟨.partition, .summary, 4⟩, .number .equal 5⟩]⟩]⟩
    c.library.KeepsTextMethods ∧ r.Fits c.catalog ∧ c.compile p = .ok (.filter f) ∧
      c.evaluateOn r p.body = .ok (.boolean true) ∧
      ((c.evaluateOn r p.body = .ok (.boolean ((Compiled.filter f).holds (·.holds r))) ↔
        ∀ names g, c.Names names g → g.type ≠ .boolean →
          ¬c.Demands r (.unary .not (.unary .not (.chain names))) p.body) ∧
      ∀ err, c.evaluateOn r p.body = .error err →
        ∃ names g, c.Names names g ∧ g.type ≠ .boolean ∧
          c.Demands r (.unary .not (.unary .not (.chain names))) p.body ∧
          err = .unsupportedOperation ("!" ++ (r g.selector).type.text)) := by
  intro c r podMax p f
  have hlib : c.library.KeepsTextMethods := fun _ => rfl
  have hr : r.Fits c.catalog := Record.fits_partition
  have hx : c.compile p = .ok (.filter f) := rfl
  exact ⟨hlib, hr, hx, rfl, compile_typing hlib hr hx⟩

/-- A number under two negations is compiled like the number itself, and evaluation stops at the
inner negation. -/
theorem compile_doubly_negated_number :
    let c := Scenario.compilerAtNoon .partition
    let p : Lambda := ⟨"x", .binary (.unary .not (.unary .not (.member .parameter "PodMax")))
      (.compare .equal) (.constant (.int 5))⟩
    c.library.KeepsTextMethods ∧ Record.partition.Fits c.catalog ∧
      c.compile p =
        .ok (.filter ⟨[⟨[⟨⟨.partition, .summary, 4⟩, .number .equal 5⟩]⟩]⟩) ∧
      c.evaluateOn Record.partition p.body = .error (.unsupportedOperation "!int") := by
  intro c p
  exact ⟨fun _ => rfl, Record.fits_partition, rfl, rfl⟩

end Compiler
end Listing
