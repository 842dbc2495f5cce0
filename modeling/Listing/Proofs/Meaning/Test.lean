import Listing.Compile.Test
import Listing.Library.Text
import Listing.Proofs.Library.Spelling
import Listing.Proofs.Meaning.Comparison
import Listing.Proofs.Meaning.Record

/-! # Truth of single tests

  A test that the compiler makes of a comparison or a method says of a
  record what evaluation returns for the field, or the opposite where
  the compiler was under a negation. The value of the field is of its
  declared type.
-/

namespace Listing

theorem Text.occursIn_iff (needle s : List Char) : occursIn needle s = true ↔ needle <:+: s := by
  induction s with
  | nil => simp [occursIn]
  | cons c s ih => rw [occursIn, Bool.or_eq_true, List.isPrefixOf_iff_prefix, ih,
      List.infix_cons_iff]

namespace Field

variable {f : Field} {t : FieldTest} {r : Record} {v : Value} {negated : Bool}

/-! ### Comparisons -/

theorem compareBy_of_condition? {type : TypeTag} {c : Comparison} {condition : Condition}
    {w : Value} (h : condition? type c v = some condition) (hw : type.Admits w) :
    w.compareBy c v = .ok (.boolean (condition.holds w)) := by
  unfold condition? at h
  -- Only numbers, times and durations have an operator for every comparison; texts, statuses
  -- and truth values are asked for equality and difference alone.
  split at h
  · next t =>
    cases h
    obtain ⟨s, rfl⟩ := hw.string
    have hkind : (Value.string s).ctorIdx = (Value.string t).ctorIdx := rfl
    rw [Value.compareBy_equal hkind]
    simp [Condition.holds, StringOperator.holds]
  · next t =>
    cases h
    obtain ⟨s, rfl⟩ := hw.string
    have hkind : (Value.string s).ctorIdx = (Value.string t).ctorIdx := rfl
    rw [Value.compareBy_notEqual hkind]
    simp [Condition.holds, StringOperator.holds]
  · cases h
    obtain ⟨n, rfl⟩ := hw.int
    simp [Value.compareBy, Condition.holds]
  · cases h
    obtain ⟨d, rfl⟩ := hw.timestamp
    simp [Value.compareBy, Condition.holds]
  · cases h
    obtain ⟨d, rfl⟩ := hw.duration
    simp [Value.compareBy, Condition.holds]
  · split at h
    · cases h
      obtain ⟨s, rfl⟩ := hw.status
      simp [Value.compareBy, Value.equality, Condition.holds]
    · cases h
  · split at h
    · cases h
      obtain ⟨s, rfl⟩ := hw.status
      simp [Value.compareBy, Value.equality, Condition.holds]
    · cases h
  · cases h
    obtain ⟨b, rfl⟩ := hw.boolean
    simp [Value.compareBy, Value.equality, Condition.holds]
  · cases h
    obtain ⟨b, rfl⟩ := hw.boolean
    simp [Value.compareBy, Value.equality, Condition.holds]
  · cases h

/-- A comparison of the field evaluates to the truth of its test. -/
theorem compareBy_of_comparison {c : Comparison} (h : f.comparison c v = .ok t)
    (hr : f.type.Admits (r f.selector)) :
    (r f.selector).compareBy c v = .ok (.boolean (t.holds r)) := by
  unfold comparison at h
  split at h
  · next condition hcondition =>
    cases h
    exact compareBy_of_condition? hcondition hr
  · cases h

/-- Under a negation the test is the one of the negated comparison. -/
theorem value_of_comparison {c : Comparison} {x : Value}
    (h : f.comparison (if negated then c.negate else c) v = .ok t)
    (hr : f.type.Admits (r f.selector)) (hx : (r f.selector).compareBy c v = .ok x) :
    x = .boolean (t.holds r != negated) := by
  have ht := compareBy_of_comparison h hr
  cases negated with
  | false =>
    rw [if_neg Bool.false_ne_true, hx] at ht
    cases ht
    simp
  | true =>
    obtain ⟨b, rfl, hb⟩ := Value.compareBy_negate hx
    rw [if_pos rfl, hb] at ht
    injection ht with ht
    injection ht with ht
    simp [← ht]

/-- A field that is a truth value stands for itself, or for its opposite. -/
theorem value_of_flag (h : f.flag negated = .ok t) (hboolean : f.type = .boolean)
    (hr : f.type.Admits (r f.selector)) : r f.selector = .boolean (t.holds r != negated) := by
  have ht := compareBy_of_comparison h hr
  rw [hboolean] at hr
  obtain ⟨b, hb⟩ := hr.boolean
  rw [hb] at ht ⊢
  cases negated <;> cases b <;> simpa [Value.compareBy, Value.equality] using ht.symm

/-! ### Methods -/

/-- A method of a text. -/
theorem function_of_textMethod {m : TextMethod} (h : f.textMethod m v negated = .ok t)
    (hr : f.type.Admits (r f.selector)) (scope : Scope) :
    m.function scope [r f.selector, v] = .ok (.boolean (t.holds r != negated)) := by
  unfold textMethod at h
  split at h
  · cases h
  · next op hop =>
    split at h
    · next part hstring =>
      cases h
      rw [hstring] at hr
      obtain ⟨s, hs⟩ := hr.string
      have hsearch : Text.occursIn part.toList s.toList = decide (part.toList <:+: s.toList) :=
        Bool.eq_iff_iff.mpr (by simp [Text.occursIn_iff])
      have hhead : part.toList.isPrefixOf s.toList = decide (part.toList <+: s.toList) :=
        Bool.eq_iff_iff.mpr (by simp)
      have htail : part.toList.isSuffixOf s.toList = decide (part.toList <:+ s.toList) :=
        Bool.eq_iff_iff.mpr (by simp)
      cases m <;> cases negated <;> cases hop <;>
        simp [TextMethod.function, Callable.startsWith, Callable.endsWith, Callable.contains,
          Callable.testing, FieldTest.holds, Condition.holds, StringOperator.holds, hs, hsearch,
          hhead, htail]
    · cases h
    · cases h

/-- The search of a field that holds several texts. -/
theorem function_of_arrayContains (h : f.arrayContains v negated = .ok t)
    (hr : f.type.Admits (r f.selector)) (scope : Scope) :
    TextMethod.contains.function scope [r f.selector, v] =
      .ok (.boolean (t.holds r != negated)) := by
  unfold arrayContains at h
  split at h
  · next s harray =>
    cases h
    rw [harray] at hr
    obtain ⟨texts, htexts⟩ := hr
    cases negated <;>
      simp [TextMethod.function, Callable.contains, FieldTest.holds, Condition.holds, htexts]
  · cases h

end Field
end Listing
