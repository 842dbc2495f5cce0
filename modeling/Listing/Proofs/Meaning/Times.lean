import Listing.Proofs.Meaning.Arithmetic
import Listing.Scenario.Task

/-! # Arithmetic with times and durations

  Outside leap seconds times and durations obey the laws of points and
  of the ways between them, as far as their ranges go. What lies out of
  range is an overflow. Each law is one of integers, since a sum or a
  difference stands for that of the integers of its operands.
-/

namespace Listing

open Time (Timestamp Duration)

/-- What holds of two times and two durations in the expressions that `run` gives results to. -/
structure AffineLaws (run : Expr → Except EvalError Value) (a b : Timestamp) (d e : Duration) :
    Prop where
  /-- A duration is added from either side, with one result or one failure. -/
  add_comm : run (.span d + .time a) = run (.time a + .span d)
  /-- After a shift the way from the start is the duration, and the way back leads to the start. -/
  add_sub_cancel : ∀ v, run (.time a + .span d) = .ok v →
    run (.time a + .span d - .time a) = .ok (.duration d) ∧
      run (.time a + .span d - .span d) = .ok (.timestamp a)
  /-- Between any two times there is a duration. -/
  exists_difference : ∃ c : Duration, c.nanos = a.total - b.total ∧
    run (.time a - .time b) = .ok (.duration c)
  /-- It leads from the one to the other. -/
  add_difference : run (.time b + (.time a - .time b)) = .ok (.timestamp a)
  /-- To go back is to go the opposite way. -/
  sub_eq_add_neg : ∀ v, run (.time a - .span d) = .ok v ↔ run (.time a + -.span d) = .ok v
  /-- Two shifts are the shift by their sum, where there are all of them. -/
  add_assoc : ∀ t u c, run (.time a + .span d) = .ok t → run (.time a + .span d + .span e) = .ok u →
    run (.span d + .span e) = .ok c → run (.time a + (.span d + .span e)) = .ok u
  /-- A comparison of the times is one of their difference with no time at all. -/
  compare_difference : ∀ op : Comparison, ∃ p,
    run (.binary (.time a) (.compare op) (.time b)) = .ok (.boolean p) ∧
      run (.binary (.time a - .time b) (.compare op) (.span .zero)) = .ok (.boolean p)
  /-- Sums and differences are exact, or out of range. -/
  exact_shift : Exact .timestamp "+" (a.total + d.nanos) (run (.time a + .span d))
  exact_shift_back : Exact .timestamp "-" (a.total - d.nanos) (run (.time a - .span d))
  exact_sum : Exact .duration "+" (d.nanos + e.nanos) (run (.span d + .span e))
  exact_difference : Exact .duration "-" (d.nanos - e.nanos) (run (.span d - .span e))

namespace Expr

variable {lib : Library} {s : Scope} {a b : Timestamp} {d e : Duration}

theorem exact_shift (ha : a.inLeapSecond = false) :
    Exact .timestamp "+" (a.total + d.nanos) ((time a + span d).evaluate lib s) :=
  exact_evaluate_add rfl (.timestamp ha) rfl (.duration d) rfl

theorem exact_shift_back (ha : a.inLeapSecond = false) :
    Exact .timestamp "-" (a.total - d.nanos) ((time a - span d).evaluate lib s) :=
  exact_evaluate_sub rfl (.timestamp ha) rfl (.duration d) rfl

theorem exact_sum : Exact .duration "+" (d.nanos + e.nanos) ((span d + span e).evaluate lib s) :=
  exact_evaluate_add rfl (.duration d) rfl (.duration e) rfl

theorem evaluate_difference :
    (time a - time b).evaluate lib s = .ok (.duration (a.since b)) := rfl

theorem add_span_sub_cancel (ha : a.inLeapSecond = false) {v : Value}
    (h : (time a + span d).evaluate lib s = .ok v) :
    (time a + span d - time a).evaluate lib s = .ok (.duration d) ∧
      (time a + span d - span d).evaluate lib s = .ok (.timestamp a) := by
  have hv : v.StandsFor .timestamp (a.total + d.nanos) := (exact_shift ha).eq_ok_iff.mp h
  constructor
  · have hnanos : a.total + d.nanos - a.total = d.nanos := by omega
    have hexact := exact_evaluate_sub h hv (r := time a) rfl (.timestamp ha) rfl
    rw [hnanos] at hexact
    exact hexact.eq_ok_iff.mpr (.duration d)
  · have htotal : a.total + d.nanos - d.nanos = a.total := by omega
    have hexact := exact_evaluate_sub h hv (r := span d) rfl (.duration d) rfl
    rw [htotal] at hexact
    exact hexact.eq_ok_iff.mpr (.timestamp ha)

theorem add_difference (ha : a.inLeapSecond = false) (hb : b.inLeapSecond = false) :
    (time b + (time a - time b)).evaluate lib s = .ok (.timestamp a) := by
  have hexact : Exact .timestamp "+" (b.total + (a.since b).nanos)
      ((time b + (time a - time b)).evaluate lib s) :=
    exact_evaluate_add rfl (.timestamp hb) evaluate_difference (.duration _) rfl
  have htotal : b.total + (a.total - b.total) = a.total := by omega
  rw [Timestamp.nanos_since ha hb, htotal] at hexact
  exact hexact.eq_ok_iff.mpr (.timestamp ha)

theorem sub_span_iff (ha : a.inLeapSecond = false) (v : Value) :
    (time a - span d).evaluate lib s = .ok v ↔ (time a + -span d).evaluate lib s = .ok v := by
  have hback : Exact .timestamp "-" (a.total - d.nanos) ((time a - span d).evaluate lib s) :=
    exact_shift_back ha
  have hopposite : Exact .timestamp "+" (a.total + -d.nanos) ((time a + -span d).evaluate lib s) :=
    exact_evaluate_add rfl (.timestamp ha) rfl (.duration d.neg) rfl
  rw [hback.eq_ok_iff, hopposite.eq_ok_iff, Int.sub_eq_add_neg]

theorem add_span_assoc (ha : a.inLeapSecond = false) {t u c : Value}
    (ht : (time a + span d).evaluate lib s = .ok t)
    (hu : (time a + span d + span e).evaluate lib s = .ok u)
    (hc : (span d + span e).evaluate lib s = .ok c) :
    (time a + (span d + span e)).evaluate lib s = .ok u := by
  have htotal : t.StandsFor .timestamp (a.total + d.nanos) := (exact_shift ha).eq_ok_iff.mp ht
  have hnanos : c.StandsFor .duration (d.nanos + e.nanos) := exact_sum.eq_ok_iff.mp hc
  have hleft := exact_evaluate_add ht htotal (r := span e) rfl (.duration e) rfl
  have hright := exact_evaluate_add (l := time a) rfl (.timestamp ha) hc hnanos rfl
  rw [← Int.add_assoc] at hright
  rw [hright.unique hleft]
  exact hu

theorem compare_difference (ha : a.inLeapSecond = false) (hb : b.inLeapSecond = false)
    (op : Comparison) : ∃ p,
    (Expr.binary (time a) (.compare op) (time b)).evaluate lib s = .ok (.boolean p) ∧
      (Expr.binary (time a - time b) (.compare op) (span .zero)).evaluate lib s =
        .ok (.boolean p) := by
  refine ⟨op.holds (a.order b), rfl, ?_⟩
  show Except.ok (Value.boolean (op.holds (compare (a.since b).nanos 0))) = _
  rw [Timestamp.nanos_since ha hb, Timestamp.compare_sub_zero, ← Timestamp.order_eq ha hb]

/-- Outside leap seconds evaluation obeys the laws of points and of the ways between them. -/
theorem affine_laws (lib : Library) (s : Scope) (a b : Timestamp) (d e : Duration)
    (ha : a.inLeapSecond = false) (hb : b.inLeapSecond = false) :
    AffineLaws (·.evaluate lib s) a b d e where
  add_comm := rfl
  add_sub_cancel _ := add_span_sub_cancel ha
  exists_difference := ⟨_, Timestamp.nanos_since ha hb, evaluate_difference⟩
  add_difference := add_difference ha hb
  sub_eq_add_neg := sub_span_iff ha
  add_assoc _ _ _ := add_span_assoc ha
  compare_difference := compare_difference ha hb
  exact_shift := exact_shift ha
  exact_shift_back := exact_shift_back ha
  exact_sum := exact_sum
  exact_difference := exact_evaluate_sub rfl (.duration d) rfl (.duration e) rfl

/-- A time just before 1970, a way back and a longer way forth, both with parts of a second. -/
theorem affine_laws_before_1970 :
    let run (x : Expr) := x.evaluate .builtin ⟨.empty, Scenario.noon⟩
    let a : Timestamp := ⟨-1, 999999999, by decide⟩
    let back : Duration := ⟨-1500000000, by decide⟩
    let forth : Duration := ⟨2500000001, by decide⟩
    let both : Duration := ⟨1000000001, by decide⟩
    let t : Timestamp := ⟨-2, 499999999, by decide⟩
    let u : Timestamp := ⟨1, 0, by decide⟩
    a.inLeapSecond = false ∧ Scenario.noon.inLeapSecond = false ∧
      run (time a + span back) = .ok (.timestamp t) ∧
      run (time a + span back - time a) = .ok (.duration back) ∧
      run (time a + span back - span back) = .ok (.timestamp a) ∧
      run (time a + span back + span forth) = .ok (.timestamp u) ∧
      run (span back + span forth) = .ok (.duration both) ∧
      run (time a + (span back + span forth)) = .ok (.timestamp u) ∧
      run (time Scenario.noon + (time a - time Scenario.noon)) = .ok (.timestamp a) := by
  intro run a back forth both t u
  have laws := affine_laws .builtin ⟨.empty, Scenario.noon⟩ a Scenario.noon back forth rfl rfl
  have hback : a.total + back.nanos = t.total := by decide
  have hforth : t.total + forth.nanos = u.total := by decide
  have ht : run (time a + span back) = .ok (.timestamp t) :=
    laws.exact_shift.eq_ok_iff.mpr (hback ▸ .timestamp rfl)
  have hu : run (time a + span back + span forth) = .ok (.timestamp u) :=
    (exact_evaluate_add ht (.timestamp rfl) rfl (.duration forth) rfl).eq_ok_iff.mpr
      (hforth ▸ .timestamp rfl)
  have hsum : back.nanos + forth.nanos = both.nanos := by decide
  have hboth : run (span back + span forth) = .ok (.duration both) :=
    laws.exact_sum.eq_ok_iff.mpr (hsum ▸ .duration both)
  obtain ⟨hway, hstart⟩ := laws.add_sub_cancel _ ht
  exact ⟨rfl, rfl, ht, hway, hstart, hu, hboth, laws.add_assoc _ _ _ ht hu hboth,
    laws.add_difference⟩

end Expr
end Listing
