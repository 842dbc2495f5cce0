import Listing.Proofs.Meaning.Arithmetic
import Listing.Scenario.Task

/-! # Units of time

  A number of seconds, minutes, hours or days makes a duration by one
  function and shifts a time by another. The second agrees with adding
  what the first returns, in leap seconds as well. All units come down
  to seconds, and a number is too large where its seconds are.
-/

namespace Listing

open Time (Timestamp Duration nanosPerSecond)

/-- One value of the type, or an overflow on either side. -/
inductive SameOrOverflow (type : TypeTag) :
    Except EvalError Value → Except EvalError Value → Prop
  | value {v : Value} (hv : v.type = type) : SameOrOverflow type (.ok v) (.ok v)
  | overflow (p q : String) :
    SameOrOverflow type (.error (.overflow p)) (.error (.overflow q))

theorem Value.StandsFor.type_eq {v : Value} {type : TypeTag} {n : Int} (h : v.StandsFor type n) :
    v.type = type := by
  cases h <;> rfl

/-- Results of one integer differ at most in the names of their operations. -/
theorem Exact.sameOrOverflow {type : TypeTag} {p q : String} {n : Int}
    {l r : Except EvalError Value} (hl : Exact type p n l) (hr : Exact type q n r) :
    SameOrOverflow type l r := by
  cases hl with
  | value hv =>
    rw [hr.eq_ok_iff.mpr hv]
    exact .value hv.type_eq
  | overflow hn =>
    rw [hr.eq_overflow_iff.mpr hn]
    exact .overflow p q

/-! ### Seconds of a unit -/

namespace Callable.TimeUnit

/-- How many seconds `n` of the unit are. -/
def inSeconds : TimeUnit → Int64 → Int
  | .seconds, n => n.toInt
  | .minutes, n => 60 * n.toInt
  | .hours, n => 3600 * n.toInt
  | .days, n => 86400 * n.toInt

theorem duration?_eq (u : TimeUnit) (n : Int64) :
    u.duration? n = Duration.ofNanos? (u.inSeconds n * nanosPerSecond) := by
  have hseconds : n.toInt * u.length = u.inSeconds n := by
    cases u <;> simp only [length, inSeconds] <;> omega
  rw [duration?, Duration.ofSeconds?, hseconds]

/-- Durations hold this many whole seconds. -/
theorem inRange_seconds_iff {k : Int} :
    TypeTag.InRange .duration (k * nanosPerSecond) ↔ k.natAbs ≤ 9223372036854775 := by
  simp only [TypeTag.InRange, Duration.InRange, Duration.limit, nanosPerSecond]
  omega

/-! ### The functions of a unit -/

/-- The call that makes a duration of `n` units. -/
def amount (u : TimeUnit) (n : Int64) : Expr := .call ("From" ++ u.name) [.number n]

/-- The call that shifts the time by `n` units. -/
def later (u : TimeUnit) (t : Timestamp) (n : Int64) : Expr :=
  .method (.time t) ("Add" ++ u.name) [.number n]

theorem builtin_find?_from (u : TimeUnit) :
    Library.builtin.find? ("From" ++ u.name) = some (fromUnit u) := by
  cases u <;> rfl

theorem builtin_find?_add (u : TimeUnit) :
    Library.builtin.find? ("Add" ++ u.name) = some (addUnit u) := by
  cases u <;> rfl

end Callable.TimeUnit

open Callable (TimeUnit)

/-- The functions of time units are still what every library starts with. -/
def Library.KeepsTimeUnits (lib : Library) : Prop :=
  ∀ u : TimeUnit, lib.find? ("From" ++ u.name) = builtin.find? ("From" ++ u.name) ∧
    lib.find? ("Add" ++ u.name) = builtin.find? ("Add" ++ u.name)

namespace Callable.TimeUnit

theorem keepsTimeUnits_builtin : Library.builtin.KeepsTimeUnits := fun _ => ⟨rfl, rfl⟩

section

variable {lib : Library} (hlib : lib.KeepsTimeUnits) (s : Scope) (u : TimeUnit)
include hlib

theorem evaluate_amount (n : Int64) :
    (u.amount n).evaluate lib s =
      Value.orOverflow ("From" ++ u.name) ((u.duration? n).map .duration) := by
  show lib.call s ("From" ++ u.name) [.int n] = _
  rw [Library.call, (hlib u).1, builtin_find?_from]
  show fromUnit u s [.int n] = _
  rw [fromUnit]
  cases u.duration? n with
  | some d => rfl
  | none => rfl

theorem evaluate_later (t : Timestamp) (n : Int64) :
    (u.later t n).evaluate lib s =
      Value.orOverflow ("Add" ++ u.name) (((u.duration? n).bind t.add?).map .timestamp) := by
  show lib.call s ("Add" ++ u.name) [.timestamp t, .int n] = _
  rw [Library.call, (hlib u).2, builtin_find?_add]
  show addUnit u s [.timestamp t, .int n] = _
  rw [addUnit]
  cases (u.duration? n).bind t.add? with
  | some later => rfl
  | none => rfl

theorem exact_amount (n : Int64) :
    Exact .duration ("From" ++ u.name) (u.inSeconds n * nanosPerSecond)
      ((u.amount n).evaluate lib s) := by
  rw [evaluate_amount hlib, duration?_eq]
  exact Exact.duration

theorem exists_amount_iff (n : Int64) :
    (∃ d, (u.amount n).evaluate lib s = .ok (.duration d)) ↔
      (u.inSeconds n).natAbs ≤ 9223372036854775 := by
  have hexact := exact_amount hlib s u n
  rw [← inRange_seconds_iff, ← Value.exists_standsFor_iff]
  constructor
  · rintro ⟨d, hd⟩
    exact ⟨_, hexact.eq_ok_iff.mp hd⟩
  · rintro ⟨v, hv⟩
    obtain ⟨d, -, rfl⟩ := Value.standsFor_duration_iff.mp hv
    exact ⟨d, hexact.eq_ok_iff.mpr hv⟩

theorem amount_eq_overflow_iff (n : Int64) :
    (u.amount n).evaluate lib s = .error (.overflow ("From" ++ u.name)) ↔
      9223372036854775 < (u.inSeconds n).natAbs := by
  rw [(exact_amount hlib s u n).eq_overflow_iff, inRange_seconds_iff, Nat.not_le]

theorem nanos_of_amount {n : Int64} {d : Duration}
    (hd : (u.amount n).evaluate lib s = .ok (.duration d)) :
    d.nanos = u.inSeconds n * 1000000000 := by
  have hstands := (exact_amount hlib s u n).eq_ok_iff.mp hd
  obtain ⟨e, he, heq⟩ := Value.standsFor_duration_iff.mp hstands
  cases heq
  exact he

/-- A time is shifted by the duration that the other function makes, whether or not the time is in
a leap second. -/
theorem sameOrOverflow_later (t : Timestamp) (n : Int64) :
    SameOrOverflow .timestamp ((u.later t n).evaluate lib s)
      ((Expr.time t + u.amount n).evaluate lib s) := by
  have hsum : (Expr.time t + u.amount n).evaluate lib s =
      (do Value.arith .add (.timestamp t) (← (u.amount n).evaluate lib s)) := rfl
  rw [hsum, evaluate_later hlib, evaluate_amount hlib]
  -- Without the duration both fail. With it both make the one shift, which may fail again.
  cases u.duration? n with
  | none => exact .overflow _ _
  | some d =>
    show SameOrOverflow _ (Value.orOverflow _ ((t.add? d).map .timestamp))
      (Value.orOverflow _ ((t.add? d).map .timestamp))
    cases t.add? d with
    | none => exact .overflow _ _
    | some later => exact .value rfl

end

/-- To shift a time by a number of units is to add the duration of that number, with the same time
or an overflow on both sides. The duration is there for up to 9223372036854775 seconds in either
direction, and it is exactly that many seconds: in minutes, hours or days it is the duration of the
number in seconds, if a word has that number. -/
theorem units_agree {lib : Library} (hlib : lib.KeepsTimeUnits) (s : Scope) (u : TimeUnit)
    (t : Timestamp) (n : Int64) :
    let run (e : Expr) := e.evaluate lib s
    SameOrOverflow .timestamp (run (u.later t n)) (run (.time t + u.amount n)) ∧
    ((∃ d, run (u.amount n) = .ok (.duration d)) ↔ (u.inSeconds n).natAbs ≤ 9223372036854775) ∧
    (run (u.amount n) = .error (.overflow ("From" ++ u.name)) ↔
      9223372036854775 < (u.inSeconds n).natAbs) ∧
    (∀ d, run (u.amount n) = .ok (.duration d) → d.nanos = u.inSeconds n * 1000000000) ∧
    (∀ m : Int64, m.toInt = u.inSeconds n →
      SameOrOverflow .duration (run (u.amount n)) (run (TimeUnit.seconds.amount m))) ∧
    (¬ Word.Fits (u.inSeconds n) →
      run (u.amount n) = .error (.overflow ("From" ++ u.name))) := by
  intro run
  have hoverflow : run (u.amount n) = .error (.overflow ("From" ++ u.name)) ↔
      9223372036854775 < (u.inSeconds n).natAbs := amount_eq_overflow_iff hlib s u n
  refine ⟨sameOrOverflow_later hlib s u t n, exists_amount_iff hlib s u n, hoverflow,
    fun d hd => nanos_of_amount hlib s u hd, ?_, ?_⟩
  · intro m hm
    have hseconds := exact_amount hlib s .seconds m
    rw [show TimeUnit.seconds.inSeconds m = u.inSeconds n from hm] at hseconds
    exact (exact_amount hlib s u n).sameOrOverflow hseconds
  · intro hfits
    rw [hoverflow]
    simp only [Word.Fits] at hfits
    omega

/-- A minute before half a second into the leap second of 2016 is half a second past the minute
before. The days of the largest number are too many. -/
theorem units_agree_in_leap_second :
    let run (e : Expr) := e.evaluate .builtin ⟨.empty, Scenario.noon⟩
    let t : Timestamp := ⟨1483228799, 1500000000, by decide⟩
    let before : Timestamp := ⟨1483228740, 500000000, by decide⟩
    Library.builtin.KeepsTimeUnits ∧ t.inLeapSecond = true ∧
      run (minutes.later t (-1)) = .ok (.timestamp before) ∧
      run (.time t + minutes.amount (-1)) = .ok (.timestamp before) ∧
      (-60 : Int64).toInt = minutes.inSeconds (-1) ∧
      SameOrOverflow .duration (run (minutes.amount (-1))) (run (seconds.amount (-60))) ∧
      ¬ Word.Fits (days.inSeconds Int64.maxValue) ∧
      run (days.amount Int64.maxValue) = .error (.overflow "FromDays") := by
  intro run t before
  have hbuiltin := keepsTimeUnits_builtin
  have hseconds : (-60 : Int64).toInt = minutes.inSeconds (-1) := by decide
  have hdays : ¬ Word.Fits (days.inSeconds Int64.maxValue) := by decide
  obtain ⟨hsame, -, -, -, hminutes, -⟩ :=
    units_agree hbuiltin ⟨.empty, Scenario.noon⟩ minutes t (-1)
  obtain ⟨-, -, -, -, -, hlarge⟩ :=
    units_agree hbuiltin ⟨.empty, Scenario.noon⟩ days t Int64.maxValue
  have hbefore : (minutes.duration? (-1)).bind t.add? = some before := by decide
  have hlater : run (minutes.later t (-1)) = .ok (.timestamp before) := by
    show (minutes.later t (-1)).evaluate .builtin _ = _
    rw [evaluate_later hbuiltin, hbefore]
    rfl
  have hsum : run (.time t + minutes.amount (-1)) = .ok (.timestamp before) := by
    generalize hresult : run (.time t + minutes.amount (-1)) = result
    change SameOrOverflow .timestamp (run _) (run _) at hsame
    rw [hlater, hresult] at hsame
    cases hsame with
    | value => rfl
  exact ⟨hbuiltin, rfl, hlater, hsum, hseconds, hminutes _ hseconds, hdays, hlarge hdays⟩

end Callable.TimeUnit
end Listing
