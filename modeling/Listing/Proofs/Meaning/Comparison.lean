import Listing.Eval.Operator

/-! # Comparison of values

  Evaluation compares two values of one kind by their order, or for
  equality alone where the kind has none. What it returns is read off
  `Value.order?`; so a negated comparison returns the opposite truth
  value, and an exchange of the operands can be made up for by an
  exchange of the comparison.
-/

namespace Listing

/-! ### What a comparison says -/

/-- What a comparison says of two values, from how they are ordered. Values that no order
relates are different. -/
def Comparison.verdict (c : Comparison) : Option Ordering → Bool
  | some o => c.holds o
  | none => c = .notEqual

/-- Of values without an order only equality and difference can be told. -/
def Comparison.Tells (c : Comparison) (o : Option Ordering) : Prop :=
  o = none → c.isEquality = true

namespace Comparison

@[simp] theorem isEquality_negate (c : Comparison) : c.negate.isEquality = c.isEquality := by
  cases c <;> rfl

@[simp] theorem isEquality_swap (c : Comparison) : c.swap.isEquality = c.isEquality := by
  cases c <;> rfl

theorem swap_negate (c : Comparison) : c.negate.swap = c.swap.negate := by cases c <;> rfl

/-- An exchange of the operands leaves a negation outside. -/
theorem swap_ite_negate (c : Comparison) (negated : Bool) :
    (if negated then c.negate else c).swap = if negated then c.swap.negate else c.swap := by
  cases negated with
  | false => rfl
  | true => exact c.swap_negate

theorem verdict_equal (o : Option Ordering) : equal.verdict o = decide (o = some .eq) := by
  rcases o with _ | _ | _ | _ <;> rfl

theorem verdict_notEqual (o : Option Ordering) :
    notEqual.verdict o = !decide (o = some .eq) := by
  rcases o with _ | _ | _ | _ <;> rfl

theorem verdict_negate {c : Comparison} {o : Option Ordering} (h : c.Tells o) :
    c.negate.verdict o = !c.verdict o := by
  cases o with
  | some o => exact holds_negate c o
  | none =>
    have hc := h rfl
    cases c <;> first | rfl | cases hc

theorem verdict_swap (c : Comparison) (o : Option Ordering) :
    c.swap.verdict (o.map Ordering.swap) = c.verdict o := by
  cases o with
  | some o => simp [verdict]
  | none => cases c <;> rfl

end Comparison

namespace Value

/-! ### Kinds of values -/

/-- Two values are of one of the eight kinds, or of different kinds. -/
theorem pairCases {motive : Value → Value → Prop}
    (boolean : ∀ a b, motive (.boolean a) (.boolean b)) (int : ∀ a b, motive (.int a) (.int b))
    (string : ∀ a b, motive (.string a) (.string b))
    (timestamp : ∀ a b, motive (.timestamp a) (.timestamp b))
    (duration : ∀ a b, motive (.duration a) (.duration b))
    (status : ∀ a b, motive (.status a) (.status b))
    (bytes : ∀ a b, motive (.bytes a) (.bytes b)) (list : ∀ a b, motive (.list a) (.list b))
    (other : ∀ l r : Value, l.ctorIdx ≠ r.ctorIdx → motive l r) (l r : Value) : motive l r := by
  by_cases h : l.ctorIdx = r.ctorIdx
  · -- Of all pairs of constructors only those on the diagonal are left.
    cases l <;> cases r <;> cases h
    · exact boolean _ _
    · exact int _ _
    · exact string _ _
    · exact timestamp _ _
    · exact duration _ _
    · exact status _ _
    · exact bytes _ _
    · exact list _ _
  · exact other l r h

/-- Values of this kind are ordered, so that all six comparisons exist. -/
def hasOrder : Value → Bool
  | .int _ | .string _ | .timestamp _ | .duration _ => true
  | _ => false

theorem hasOrder_eq {l r : Value} (h : l.ctorIdx = r.ctorIdx) : l.hasOrder = r.hasOrder := by
  cases l, r using pairCases with
  | other l r hne => exact absurd h hne
  | _ => rfl

/-- The values are of one kind, and the comparison exists for it. -/
def Comparable (c : Comparison) (l r : Value) : Prop :=
  l.ctorIdx = r.ctorIdx ∧ (c.isEquality = true ∨ l.hasOrder = true)

/-! ### Order of values -/

theorem order?_of_ne {l r : Value} (h : l.ctorIdx ≠ r.ctorIdx) : l.order? r = none := by
  cases l <;> cases r <;> first | rfl | exact absurd rfl h

theorem timestamp_order_swap (a b : Time.Timestamp) : b.order a = (a.order b).swap := by
  unfold Time.Timestamp.order
  rw [Ordering.swap_then, ← Std.OrientedOrd.eq_swap, ← Std.OrientedOrd.eq_swap]

theorem timestamp_order_eq_iff {a b : Time.Timestamp} : a.order b = .eq ↔ a = b := by
  unfold Time.Timestamp.order
  rw [Ordering.then_eq_eq, Std.compare_eq_iff_eq, Std.compare_eq_iff_eq]
  constructor
  · rintro ⟨hs, hn⟩
    exact Time.Timestamp.ext hs hn
  · rintro rfl
    exact ⟨rfl, rfl⟩

/-- Exchanged values are ordered the other way round. -/
theorem order?_swap (l r : Value) : r.order? l = (l.order? r).map Ordering.swap := by
  cases l, r using pairCases with
  | boolean a b => cases a <;> cases b <;> rfl
  | int a b => exact congrArg some Std.OrientedOrd.eq_swap
  | string a b => exact congrArg some Std.OrientedOrd.eq_swap
  | timestamp a b => exact congrArg some (timestamp_order_swap a b)
  | duration a b => exact congrArg some Std.OrientedOrd.eq_swap
  | status a b => by_cases h : a = b <;> simp [order?, h, eq_comm]
  | bytes a b => by_cases h : a = b <;> simp [order?, h, eq_comm]
  | list a b => by_cases h : a = b <;> simp [order?, h, eq_comm]
  | other l r h => rw [order?_of_ne h, order?_of_ne h.symm]; rfl

/-- Only equal values are ordered as equal. -/
theorem order?_eq_some_eq_iff {l r : Value} : l.order? r = some .eq ↔ l = r := by
  cases l, r using pairCases with
  | boolean a b => cases a <;> cases b <;> decide
  | int a b => simp [order?, Int64.toInt_inj]
  | string a b => simp [order?]
  | timestamp a b => simp [order?, timestamp_order_eq_iff]
  | duration a b => simp [order?, Time.Duration.ext_iff]
  | status a b => simp [order?]
  | bytes a b => simp [order?]
  | list a b => simp [order?]
  | other l r h =>
    have hne : l ≠ r := fun heq => h (congrArg Value.ctorIdx heq)
    simp [order?_of_ne h, hne]

/-- A comparison that exists never asks for more than the order tells. -/
theorem Comparable.tells {c : Comparison} {l r : Value} (h : Comparable c l r) :
    c.Tells (l.order? r) := by
  intro ho
  obtain ⟨hkind, hc | horder⟩ := h
  · exact hc
  · cases l, r using pairCases with
    | int | string | timestamp | duration => cases ho
    | boolean | status | bytes | list => cases horder
    | other l r hne => exact absurd hkind hne

/-! ### Evaluated comparisons -/

theorem equality_eq_ok_iff {c : Comparison} {l r v : Value} :
    equality c l r = .ok v ↔
      c.isEquality = true ∧ v = .boolean (c.verdict (l.order? r)) := by
  cases c with
  | equal =>
    simp only [equality, Except.ok.injEq, Comparison.isEquality, true_and,
      Comparison.verdict_equal, order?_eq_some_eq_iff]
    exact eq_comm
  | notEqual =>
    simp only [equality, Except.ok.injEq, Comparison.isEquality, true_and,
      Comparison.verdict_notEqual, order?_eq_some_eq_iff, ne_eq, decide_not]
    exact eq_comm
  | less | lessOrEqual | greater | greaterOrEqual => simp [equality, Comparison.isEquality]

theorem compareBy_of_ne {c : Comparison} {l r : Value} (h : l.ctorIdx ≠ r.ctorIdx) :
    ∃ e, compareBy c l r = .error e := by
  cases l <;> cases r <;> first | exact ⟨_, rfl⟩ | exact absurd rfl h

/-- A comparison has a value where it exists for the operands, and the value is the verdict
on their order. -/
theorem compareBy_eq_ok_iff {c : Comparison} {l r v : Value} :
    compareBy c l r = .ok v ↔ Comparable c l r ∧ v = .boolean (c.verdict (l.order? r)) := by
  cases l, r using pairCases with
  | int | string | timestamp | duration =>
    simp only [compareBy, Except.ok.injEq, Comparable, hasOrder, order?, Comparison.verdict,
      or_true, and_true]
    exact ⟨fun h => ⟨rfl, h.symm⟩, fun h => h.2.symm⟩
  | boolean | status | bytes | list =>
    simp only [compareBy, equality_eq_ok_iff, Comparable, hasOrder, Bool.false_eq_true, or_false]
    exact ⟨fun h => ⟨⟨rfl, h.1⟩, h.2⟩, fun h => ⟨h.1.2, h.2⟩⟩
  | other l r h =>
    obtain ⟨e, he⟩ := compareBy_of_ne (c := c) h
    simp [he, Comparable, h]

/-- A negated comparison returns the opposite truth value. -/
theorem compareBy_negate {c : Comparison} {l r v : Value} (h : compareBy c l r = .ok v) :
    ∃ b, v = .boolean b ∧ compareBy c.negate l r = .ok (.boolean !b) := by
  obtain ⟨hcomparable, rfl⟩ := compareBy_eq_ok_iff.mp h
  refine ⟨_, rfl, compareBy_eq_ok_iff.mpr ⟨?_, ?_⟩⟩
  · simpa [Comparable] using hcomparable
  · rw [Comparison.verdict_negate hcomparable.tells]

/-- Exchanged operands compare the same under the exchanged comparison. -/
theorem compareBy_swap {c : Comparison} {l r v : Value} (h : compareBy c l r = .ok v) :
    compareBy c.swap r l = .ok v := by
  obtain ⟨hcomparable, rfl⟩ := compareBy_eq_ok_iff.mp h
  refine compareBy_eq_ok_iff.mpr ⟨?_, ?_⟩
  · obtain ⟨hkind, hc⟩ := hcomparable
    refine ⟨hkind.symm, ?_⟩
    rwa [Comparison.isEquality_swap, ← hasOrder_eq hkind]
  · rw [order?_swap l r, Comparison.verdict_swap]

/-- Evaluated equality is equality. -/
theorem compareBy_equal {l r : Value} (hkind : l.ctorIdx = r.ctorIdx) :
    compareBy .equal l r = .ok (.boolean (l = r)) := by
  refine compareBy_eq_ok_iff.mpr ⟨⟨hkind, .inl rfl⟩, ?_⟩
  simp [Comparison.verdict_equal, order?_eq_some_eq_iff]

theorem compareBy_notEqual {l r : Value} (hkind : l.ctorIdx = r.ctorIdx) :
    compareBy .notEqual l r = .ok (.boolean (l ≠ r)) := by
  refine compareBy_eq_ok_iff.mpr ⟨⟨hkind, .inl rfl⟩, ?_⟩
  simp [Comparison.verdict_notEqual, order?_eq_some_eq_iff]

theorem ctorIdx_of_compareBy {c : Comparison} {l r v : Value} (h : compareBy c l r = .ok v) :
    l.ctorIdx = r.ctorIdx := (compareBy_eq_ok_iff.mp h).1.1

end Value
end Listing
