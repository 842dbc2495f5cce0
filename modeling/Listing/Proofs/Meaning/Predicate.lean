import Listing.Proofs.Compile.Outcome
import Listing.Proofs.Meaning.Evaluation
import Listing.Proofs.Meaning.Test
import Listing.Scenario.Task

/-! # Meaning of compiled predicates

  A predicate means on a record what its evaluation returns, a filter
  what its tests say of the record. Whatever the compiler makes of a
  predicate means the same as the predicate. An operand under an odd
  number of negations means the opposite; this is what induction on the
  derivation of an operand carries along.
-/

namespace Listing

/-! ### Short circuits -/

theorem Connective.truth_decider (op : Connective) (b : Bool) :
    op.truth op.decider b = op.decider := by
  cases op <;> rfl

theorem Connective.truth_of_ne {op : Connective} {a : Bool} (h : a ≠ op.decider) (b : Bool) :
    op.truth a b = b := by
  cases op <;> cases a <;> first | rfl | exact absurd rfl h

/-! ### Values under negations -/

/-- The second value is the first, or the opposite truth value if the flag is set. -/
inductive Value.Agrees : Bool → Value → Value → Prop
  | same (v : Value) : Agrees false v v
  | opposite (b : Bool) : Agrees true (.boolean b) (.boolean !b)

namespace Value

theorem Agrees.of_bne {negated a b : Bool} (h : a = (b != negated)) :
    Agrees negated (.boolean a) (.boolean b) := by
  subst h
  cases negated with
  | false => rw [Bool.bne_false]; exact .same _
  | true => rw [Bool.bne_true]; simpa using Agrees.opposite (!b)

/-- A negation evaluates to the opposite of its operand. -/
theorem Agrees.not {negated : Bool} {v w x : Value} (h : Agrees (!negated) v w)
    (hx : applyUnary .not v = .ok x) : Agrees negated x w := by
  cases negated with
  | false =>
    cases h with
    | opposite b => cases hx; exact .same _
  | true =>
    cases h with
    | same =>
      cases v with
      | boolean b => cases hx; simpa using Agrees.opposite (!b)
      | _ => cases hx

theorem Agrees.eq {v w : Value} (h : Agrees false v w) : v = w := by
  cases h
  rfl

theorem Agrees.eq_boolean {v w : Value} (h : Agrees true v w) : ∃ b, v = .boolean b := by
  cases h with
  | opposite b => exact ⟨b, rfl⟩

end Value

namespace Compiler

variable {c : Compiler} {r : Record}

/-! ### What operands stand for -/

/-- The value that an operand stands for on a record. -/
def denote (r : Record) : Operand → Value
  | .constant v => v
  | .field f => r f.selector
  | .clause a => .boolean (a.outcome.holds (·.holds r))

@[simp] theorem denote_test (t : FieldTest) :
    denote r (.clause (.test t)) = .boolean (t.holds r) := by
  simp [denote, Compiled.holds]

theorem agrees_test {negated : Bool} {v : Value} {t : FieldTest}
    (h : v = .boolean (t.holds r != negated)) :
    Value.Agrees negated v (denote r (.clause (.test t))) := by
  rw [h, denote_test]
  exact .of_bne rfl

theorem admits_of_yields {e : Expr} {negated : Bool} {f : Field} (hr : r.Fits c.catalog)
    (h : c.Yields e negated (.field f)) : f.type.Admits (r f.selector) := by
  obtain ⟨names, hnames, -⟩ := names_of_yields h rfl
  exact hr _ f hnames.lookup

/-- An operand that is taken for a condition stands for the truth of the condition. -/
theorem denote_of_condition {e : Expr} {k : Construct} {o : Operand} {a : Clause}
    (hr : r.Fits c.catalog) (ho : c.Yields e false o) (h : condition k o = .ok a) :
    denote r o = .boolean (a.outcome.holds (·.holds r)) := by
  unfold condition at h
  split at h
  · cases h; rfl
  · cases h; rfl
  · next f =>
    split at h
    · next hboolean =>
      obtain ⟨t, ht, h⟩ := bind_eq_ok.mp h
      cases h
      have hflag := Field.value_of_flag ht hboolean (admits_of_yields hr ho)
      simpa [denote, Compiled.holds] using hflag
    · cases h
  · cases h

/-! ### Membership in a list -/

/-- One more item of the list. -/
theorem holds_of_addItem {f : Field} {negated : Bool} {a b : Clause} {item : Value}
    (hr : f.type.Admits (r f.selector)) (h : addItem f negated a item = .ok b) :
    (b.outcome.holds (·.holds r) != negated) =
      ((a.outcome.holds (·.holds r) != negated) || decide (r f.selector = item)) := by
  unfold addItem at h
  -- The test of the item evaluates, so field and item are of one kind and the test is about
  -- their equality.
  cases negated with
  | false =>
    obtain ⟨t, ht, h⟩ := bind_eq_ok.mp h
    cases h
    have heval := Field.compareBy_of_comparison ht hr
    rw [Value.compareBy_equal (Value.ctorIdx_of_compareBy heval)] at heval
    injection heval with heval
    injection heval with heval
    rw [Clause.outcome_or, Compiled.holds_or, Clause.outcome_test, heval]
    simp [Compiled.holds]
  | true =>
    obtain ⟨t, ht, h⟩ := bind_eq_ok.mp h
    cases h
    have heval := Field.compareBy_of_comparison ht hr
    rw [Value.compareBy_notEqual (Value.ctorIdx_of_compareBy heval)] at heval
    injection heval with heval
    injection heval with heval
    rw [Clause.outcome_and, Compiled.holds_and, Clause.outcome_test]
    simp [Compiled.holds, ← heval]

theorem holds_of_foldlM {f : Field} {negated : Bool} (hr : f.type.Admits (r f.selector))
    {items : List Value} {a b : Clause} (h : items.foldlM (addItem f negated) a = .ok b) :
    (b.outcome.holds (·.holds r) != negated) =
      ((a.outcome.holds (·.holds r) != negated) || decide (r f.selector ∈ items)) := by
  induction items generalizing a with
  | nil =>
    cases h
    simp
  | cons item items ih =>
    rw [List.foldlM_cons] at h
    obtain ⟨a', ha', h⟩ := bind_eq_ok.mp h
    rw [ih h, holds_of_addItem hr ha', Bool.or_assoc]
    simp [List.mem_cons]

/-! ### Meaning of operands -/

/-- What an expression evaluates to on a record is what its operand stands for. -/
theorem agrees_of_yields (hlib : c.library.KeepsTextMethods) (hr : r.Fits c.catalog) {e : Expr}
    {negated : Bool} {o : Operand} (h : c.Yields e negated o) {v : Value}
    (hv : c.evaluateOn r e = .ok v) : Value.Agrees negated v (denote r o) := by
  -- One case for each way in which the compiler comes to an operand. The flag changes only
  -- under `not`; every other operand is compiled without a negation.
  induction h generalizing v with
  | closed hclosed hvalue =>
    rw [evaluateOn_of_isClosed hclosed, hvalue] at hv
    cases hv
    exact .same _
  | notClosed hclosed hvalue =>
    rw [evaluateOn_of_isClosed hclosed, hvalue] at hv
    cases hv
    exact .opposite _
  | field _ hpath hf =>
    rw [evaluateOn_field hpath hf] at hv
    cases hv
    exact .same _
  | @notField target name path f t _ hpath hf hboolean ht =>
    rw [evaluateOn_field hpath hf] at hv
    cases hv
    exact agrees_test (Field.value_of_flag ht hboolean (hr path f hf))
  | not _ _ ih =>
    rw [evaluateOn_unary] at hv
    obtain ⟨w, hw, hv⟩ := bind_eq_ok.mp hv
    exact (ih hw).not hv
  | @logic left right op l s a b _ hleft hright ha hb ihleft ihright =>
    rw [denote, Connective.holds_join]
    obtain ⟨p, hp, hv⟩ := evaluateOn_logic_eq_ok hv
    have hla := (ihleft hp).eq
    rw [denote_of_condition hr hleft ha] at hla
    injection hla with hla
    rw [← hla]
    rcases hv with ⟨hdecides, rfl⟩ | ⟨hundecided, q, hq, rfl⟩
    · rw [hdecides, Connective.truth_decider]
      exact .same _
    · have hrb := (ihright hq).eq
      rw [denote_of_condition hr hright hb] at hrb
      rw [Connective.truth_of_ne hundecided, ← hrb]
      exact .same _
  | compare _ hleft hright ht ihleft ihright =>
    obtain ⟨x, y, hx, hy, hv⟩ := evaluateOn_compare_eq_ok hv
    rw [(ihleft hx).eq, (ihright hy).eq] at hv
    exact agrees_test (Field.value_of_comparison ht (admits_of_yields hr hleft) hv)
  | compareSwapped _ hleft hright ht ihleft ihright =>
    obtain ⟨x, y, hx, hy, hv⟩ := evaluateOn_compare_eq_ok hv
    rw [(ihleft hx).eq, (ihright hy).eq] at hv
    -- The field stands on the right, so its test is about the exchanged comparison.
    rw [Comparison.swap_ite_negate] at ht
    exact agrees_test
      (Field.value_of_comparison ht (admits_of_yields hr hright) (Value.compareBy_swap hv))
  | membership _ hname hclosed hitems harg hcl iharg =>
    obtain ⟨x, y, hx, hy, hv⟩ := evaluateOn_textMethod_eq_ok hlib hname hv
    rw [evaluateOn_of_isClosed hclosed, hitems] at hx
    cases hx
    rw [(iharg hy).eq] at hv
    cases hv
    refine .of_bne ?_
    rw [holds_of_foldlM (admits_of_yields hr harg) hcl, Clause.outcome_constant, Compiled.holds,
      bne_self_eq_false, Bool.false_or]
    exact decide_eq_decide.mpr Iff.rfl
  | arrayMethod _ hname _ htarget harg ht ihtarget iharg =>
    obtain ⟨x, y, hx, hy, hv⟩ := evaluateOn_textMethod_eq_ok hlib hname hv
    rw [(ihtarget hx).eq, (iharg hy).eq, denote, denote,
      Field.function_of_arrayContains ht (admits_of_yields hr htarget)] at hv
    cases hv
    exact agrees_test rfl
  | textMethod _ hname _ htarget harg ht ihtarget iharg =>
    obtain ⟨x, y, hx, hy, hv⟩ := evaluateOn_textMethod_eq_ok hlib hname hv
    rw [(ihtarget hx).eq, (iharg hy).eq, denote, denote,
      Field.function_of_textMethod ht (admits_of_yields hr htarget)] at hv
    cases hv
    exact agrees_test rfl

/-! ### Meaning of whole predicates -/

/-- A compiled predicate means what was written. The library keeps the methods of texts, and
the record gives every field of the catalog a value of its type; if the predicate has a value
on the record at all, then it is the truth value that the compiled predicate has there. -/
theorem compile_meaning {c : Compiler} {r : Record} (hlib : c.library.KeepsTextMethods)
    (hr : r.Fits c.catalog) {p : Lambda} {x : Compiled} (hx : c.compile p = .ok x) {v : Value}
    (hv : c.evaluateOn r p.body = .ok v) : v = .boolean (x.holds (·.holds r)) := by
  obtain ⟨a, ⟨o, ho, ha⟩, rfl⟩ := compile_eq_ok_iff.mp hx
  have hyields := yields_of_operand ho
  rw [(agrees_of_yields hlib hr hyields hv).eq, denote_of_condition hr hyields ha]

/-- A large partition that is neither `a` nor `b`, found by its second alternative. -/
theorem compile_meaning_of_partition :
    let c := Scenario.compilerAtNoon .partition
    let r : Record := fun s =>
      if s.code = 1 then .string "c" else if s.code = 2 then .list [.string "root"] else .int 20
    let large : Expr := .binary (.constant (.int 10)) (.compare .less) (.member .parameter "PodMax")
    let child : Expr := .method (.member .parameter "ParentPartitionIds") "contains"
      [.constant (.string "top")]
    let named : Expr := .method (.constant (.list [.string "a", .string "b"])) "Contains"
      [.member .parameter "Id"]
    let p : Lambda := ⟨"x", .and (.or child large) (.unary .not named)⟩
    let test (code : UInt16) (condition : Condition) : FieldTest :=
      ⟨⟨.partition, .summary, code⟩, condition⟩
    let f : Filter := ⟨[
      ⟨[test 2 (.array .contains "top"), test 1 (.string .notEqual "a"),
        test 1 (.string .notEqual "b")]⟩,
      ⟨[test 4 (.number .greaterThan 10), test 1 (.string .notEqual "a"),
        test 1 (.string .notEqual "b")]⟩]⟩
    c.library.KeepsTextMethods ∧ r.Fits c.catalog ∧ c.compile p = .ok (.filter f) ∧
      c.evaluateOn r p.body = .ok (.boolean true) ∧
      Value.boolean true = .boolean ((Compiled.filter f).holds (·.holds r)) := by
  intro c r large child named p test f
  have hlib : c.library.KeepsTextMethods := fun _ => rfl
  have hr : r.Fits c.catalog := Record.fits_partition
  have hx : c.compile p = .ok (.filter f) := rfl
  have hv : c.evaluateOn r p.body = .ok (.boolean true) := rfl
  exact ⟨hlib, hr, hx, hv, compile_meaning hlib hr hx hv⟩

end Compiler
end Listing
