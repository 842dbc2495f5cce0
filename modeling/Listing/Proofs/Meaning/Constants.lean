import Listing.Proofs.Compile.Provenance
import Listing.Proofs.Compile.Support
import Listing.Proofs.Meaning.Evaluation
import Listing.Proofs.Meaning.Test

/-! # Comparisons with constants

  A constant is compared with another constant by evaluation, and with a
  field by a test that the compiler makes. Evaluation has the six
  comparisons for numbers, texts, times and durations and tells other
  values of one kind apart, and what it returns is read off the order of
  the two values. A test exists for fewer of them: the constant has the
  declared type of the field, and texts are compared for equality alone.
  Where a test exists it says of a stored value what evaluation returns.
-/

namespace Listing

/-- Two constants with a comparison between them. -/
def Expr.ofConstants (l : Value) (op : Comparison) (r : Value) : Expr :=
  .binary (.constant l) (.compare op) (.constant r)

/-! ### Two constants -/

namespace Value

variable {l r : Value} {op : Comparison} {b : Bool}

theorem compareBy_swap_iff {v : Value} :
    r.compareBy op.swap l = .ok v ↔ l.compareBy op r = .ok v := by
  constructor
  · intro h
    have hback := compareBy_swap h
    rwa [Comparison.swap_swap] at hback
  · exact compareBy_swap

theorem compareBy_negate_iff :
    l.compareBy op.negate r = .ok (.boolean !b) ↔ l.compareBy op r = .ok (.boolean b) := by
  constructor
  · intro h
    obtain ⟨_, heq, hback⟩ := compareBy_negate h
    cases heq
    rwa [Comparison.negate_negate, Bool.not_not] at hback
  · intro h
    obtain ⟨_, heq, hopposite⟩ := compareBy_negate h
    cases heq
    exact hopposite

end Value

/-- A comparison of two constants has a value where they are of one kind, and of an ordered kind
unless the comparison asks for equality or difference. The value is the verdict on how they are
ordered. So the exchanged comparison of the exchanged constants has the same truth value, and the
opposite comparison the opposite one. -/
theorem Expr.evaluate_ofConstants (lib : Library) (s : Scope) (op : Comparison) (l r : Value) :
    ((∃ v, (ofConstants l op r).evaluate lib s = .ok v) ↔
      l.ctorIdx = r.ctorIdx ∧ (op.isEquality = true ∨ l.hasOrder = true)) ∧
    (∀ v, (ofConstants l op r).evaluate lib s = .ok v → v = .boolean (op.verdict (l.order? r))) ∧
    ∀ b,
      ((ofConstants r op.swap l).evaluate lib s = .ok (.boolean b) ↔
        (ofConstants l op r).evaluate lib s = .ok (.boolean b)) ∧
      ((ofConstants l op.negate r).evaluate lib s = .ok (.boolean !b) ↔
        (ofConstants l op r).evaluate lib s = .ok (.boolean b)) := by
  have hvalue (op : Comparison) (l r : Value) :
      (ofConstants l op r).evaluate lib s = l.compareBy op r := rfl
  simp only [hvalue]
  refine ⟨?_, ?_, ?_⟩
  · constructor
    · rintro ⟨v, hv⟩
      exact (Value.compareBy_eq_ok_iff.mp hv).1
    · intro hcomparable
      exact ⟨_, Value.compareBy_eq_ok_iff.mpr ⟨hcomparable, rfl⟩⟩
  · intro v hv
    exact (Value.compareBy_eq_ok_iff.mp hv).2
  · intro b
    exact ⟨Value.compareBy_swap_iff, Value.compareBy_negate_iff⟩

/-- Statuses of two families are of one kind. No order relates them, so they are different. -/
theorem Expr.evaluate_ofConstants_of_statuses :
    let l : Value := .status (.session .cancelled)
    let r : Value := .status (.task .cancelled)
    let s : Scope := ⟨.empty, Scenario.noon⟩
    l.order? r = none ∧
      (Expr.ofConstants l .equal r).evaluate .builtin s = .ok (.boolean false) ∧
      (Expr.ofConstants r .equal l).evaluate .builtin s = .ok (.boolean false) ∧
      (Expr.ofConstants l .notEqual r).evaluate .builtin s = .ok (.boolean true) ∧
      ¬∃ v, (Expr.ofConstants l .less r).evaluate .builtin s = .ok v := by
  intro l r s
  obtain ⟨hexists, hverdict, hlaws⟩ := Expr.evaluate_ofConstants .builtin s .equal l r
  obtain ⟨v, hv⟩ := hexists.mpr ⟨rfl, .inl rfl⟩
  have hfalse : (Expr.ofConstants l .equal r).evaluate .builtin s = .ok (.boolean false) := by
    rw [hv, hverdict v hv]
    rfl
  obtain ⟨hswap, hnegate⟩ := hlaws false
  refine ⟨rfl, hfalse, hswap.mpr hfalse, hnegate.mpr hfalse, ?_⟩
  rw [(Expr.evaluate_ofConstants .builtin s .less l r).1]
  rintro ⟨-, hequality | horder⟩
  · cases hequality
  · cases horder

/-! ### A field and a constant -/

/-- Fields of the type are compared with constants. -/
def TypeTag.isComparable : TypeTag → Bool
  | .boolean | .int | .string | .timestamp | .duration | .status _ => true
  | .bytes | .list | .array => false

theorem TypeTag.hasComparison_iff {type : TypeTag} {op : Comparison} :
    type.hasComparison op = true ↔
      type.isComparable = true ∧ (op.isEquality = true ∨ type.isOrdered = true) := by
  cases type <;> simp [hasComparison, isComparable]

namespace Field

variable {f : Field} {v : Value} {op : Comparison}

theorem comparison_eq_error {err : CompileError} (h : f.comparison op v = .error err) :
    err = .unsupported (.compare op) (sides f.type v.type) := by
  unfold comparison at h
  split at h
  · cases h
  · cases h
    rfl

/-- The test says of a stored value what evaluation of the comparison returns. -/
theorem evaluate_of_comparison {t : FieldTest} (h : f.comparison op v = .ok t) {w : Value}
    (hw : f.type.Admits w) (lib : Library) (s : Scope) :
    (Expr.ofConstants w op v).evaluate lib s = .ok (.boolean (t.condition.holds w)) := by
  -- A record that stores the value under every attribute.
  let r : Record := fun _ => w
  exact compareBy_of_comparison (r := r) h hw

/-- A field is compared with a constant of its declared type, if that is one of the comparable
types, and by order only if the type is ordered; otherwise the comparison has no counterpart in a
filter. The test that is made is about the field, and it is true of a stored value of the declared
type where evaluation of the comparison returns `true`. -/
theorem comparison_supported (f : Field) (op : Comparison) (v : Value) :
    ((∃ t, f.comparison op v = .ok t) ↔
      v.type = f.type ∧ f.type.isComparable = true ∧
        (op.isEquality = true ∨ f.type.isOrdered = true)) ∧
    (∀ err, f.comparison op v = .error err →
      err = .unsupported (.compare op) (sides f.type v.type)) ∧
    ∀ t, f.comparison op v = .ok t → t.selector = f.selector ∧
      ∀ w, f.type.Admits w → ∀ lib s,
        (t.condition.holds w = true ↔
          (Expr.ofConstants w op v).evaluate lib s = .ok (.boolean true)) := by
  refine ⟨?_, fun err => comparison_eq_error, ?_⟩
  · rw [exists_comparison_iff, TypeTag.hasComparison_iff]
  · intro t ht
    refine ⟨(tests_of_comparison ht).selector, fun w hw lib s => ?_⟩
    simp [evaluate_of_comparison ht hw lib s]

/-- A status can be told apart from another one of its family, and not compared by order. -/
theorem comparison_supported_of_session_status :
    let f : Field := ⟨⟨.session, .summary, 2⟩, .status .session⟩
    let running : Value := .status (.session .running)
    let closed : Value := .status (.session .closed)
    let t : FieldTest := ⟨f.selector, .status .notEqual (.session .running)⟩
    let s : Scope := ⟨.empty, Scenario.noon⟩
    f.comparison .notEqual running = .ok t ∧ f.type.Admits closed ∧
      t.condition.holds closed = true ∧
      (Expr.ofConstants closed .notEqual running).evaluate .builtin s = .ok (.boolean true) ∧
      (¬∃ t, f.comparison .less running = .ok t) ∧
      ∀ err, f.comparison .less running = .error err →
        err = .unsupported (.compare .less) (.value (.status .session)) := by
  intro f running closed t s
  have ht : f.comparison .notEqual running = .ok t := rfl
  have hclosed : f.type.Admits closed := rfl
  obtain ⟨-, -, hmeaning⟩ := comparison_supported f .notEqual running
  obtain ⟨hexists, herror, -⟩ := comparison_supported f .less running
  have htrue : t.condition.holds closed = true := rfl
  refine ⟨ht, hclosed, htrue, ((hmeaning t ht).2 closed hclosed .builtin s).mp htrue, ?_, herror⟩
  rw [hexists]
  rintro ⟨-, -, hequality | hordered⟩
  · cases hequality
  · cases hordered

end Field
end Listing
