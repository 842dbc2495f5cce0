import Listing.Eval.Basic
import Listing.Proofs.Time.Shift

/-! # Exact results

  Numbers, durations and times outside leap seconds stand for integers,
  and no two values of one of these types for the same. An operation is
  exact if it returns the value of the integer that it is meant to
  compute, and an overflow where the type has no such value.
-/

namespace Listing

open Time (Timestamp Duration)

/-! ### Values as integers -/

theorem Word.exists_toInt_eq_iff {n : Int} : (∃ a : Int64, a.toInt = n) ↔ Fits n := by
  constructor
  · rintro ⟨a, rfl⟩
    exact fits_toInt a
  · intro h
    exact ⟨.ofInt n, Int64.toInt_ofInt_of_le h.1 h.2⟩

/-- The integers that values of a type stand for. -/
def TypeTag.InRange : TypeTag → Int → Prop
  | .int => Word.Fits
  | .duration => Duration.InRange
  | .timestamp => Timestamp.InCalendar
  | _ => fun _ => False

namespace Value

/-- The value has the type and stands for the integer: a word for what it is read as, a duration
for its nanoseconds, and a time outside leap seconds for those since the start of 1970. -/
inductive StandsFor : Value → TypeTag → Int → Prop
  | int (a : Int64) : StandsFor (.int a) .int a.toInt
  | duration (d : Duration) : StandsFor (.duration d) .duration d.nanos
  | timestamp {t : Timestamp} (ht : t.inLeapSecond = false) :
      StandsFor (.timestamp t) .timestamp t.total

variable {v w : Value} {type : TypeTag} {n : Int}

theorem standsFor_int_iff : v.StandsFor .int n ↔ ∃ a : Int64, a.toInt = n ∧ .int a = v := by
  constructor
  · intro h
    cases h with
    | int a => exact ⟨a, rfl, rfl⟩
  · rintro ⟨a, rfl, rfl⟩
    exact .int a

theorem standsFor_duration_iff :
    v.StandsFor .duration n ↔ ∃ d : Duration, d.nanos = n ∧ .duration d = v := by
  constructor
  · intro h
    cases h with
    | duration d => exact ⟨d, rfl, rfl⟩
  · rintro ⟨d, rfl, rfl⟩
    exact .duration d

theorem standsFor_timestamp_iff :
    v.StandsFor .timestamp n ↔
      ∃ t : Timestamp, (t.inLeapSecond = false ∧ t.total = n) ∧ .timestamp t = v := by
  constructor
  · intro h
    cases h with
    | timestamp ht => exact ⟨_, ⟨ht, rfl⟩, rfl⟩
  · rintro ⟨t, ⟨ht, rfl⟩, rfl⟩
    exact .timestamp ht

/-- A type has one value for an integer. -/
theorem StandsFor.unique (hv : v.StandsFor type n) (hw : w.StandsFor type n) : v = w := by
  cases hv with
  | int a =>
    obtain ⟨b, hb, rfl⟩ := standsFor_int_iff.mp hw
    rw [Int64.toInt_inj.mp hb]
  | duration d =>
    obtain ⟨e, he, rfl⟩ := standsFor_duration_iff.mp hw
    rw [Duration.ext he]
  | timestamp ht =>
    obtain ⟨u, ⟨hu, htotal⟩, rfl⟩ := standsFor_timestamp_iff.mp hw
    rw [Timestamp.eq_of_total_eq hu ht htotal]

/-- The range of a type holds the integers that some value stands for. -/
theorem exists_standsFor_iff : (∃ v : Value, v.StandsFor type n) ↔ type.InRange n := by
  constructor
  · rintro ⟨v, hv⟩
    cases hv with
    | int a => exact Word.exists_toInt_eq_iff.mp ⟨a, rfl⟩
    | duration d => exact Duration.exists_nanos_eq_iff.mp ⟨d, rfl⟩
    | timestamp ht => exact Timestamp.exists_total_eq_iff.mp ⟨_, ht, rfl⟩
  · intro h
    cases type with
    | int =>
      obtain ⟨a, ha⟩ := Word.exists_toInt_eq_iff.mpr h
      exact ⟨_, standsFor_int_iff.mpr ⟨a, ha, rfl⟩⟩
    | duration =>
      obtain ⟨d, hd⟩ := Duration.exists_nanos_eq_iff.mpr h
      exact ⟨_, standsFor_duration_iff.mpr ⟨d, hd, rfl⟩⟩
    | timestamp =>
      obtain ⟨t, ht⟩ := Timestamp.exists_total_eq_iff.mpr h
      exact ⟨_, standsFor_timestamp_iff.mpr ⟨t, ht, rfl⟩⟩
    | boolean | string | status | bytes | list | array => cases h

end Value

/-! ### Exact operations -/

/-- What the named operation returns if its result is to stand for the integer `n`: the value
that does, or an overflow if `n` is out of range. -/
inductive Exact (type : TypeTag) (operation : String) (n : Int) : Except EvalError Value → Prop
  | value {v : Value} (hv : v.StandsFor type n) : Exact type operation n (.ok v)
  | overflow (hn : ¬ type.InRange n) : Exact type operation n (.error (.overflow operation))

namespace Exact

variable {type : TypeTag} {operation : String} {n : Int} {result : Except EvalError Value}
  {v : Value}

theorem eq_ok_iff (h : Exact type operation n result) : result = .ok v ↔ v.StandsFor type n := by
  cases h with
  | value hw =>
    constructor
    · intro heq
      cases heq
      exact hw
    · intro hv
      rw [hw.unique hv]
  | overflow hn =>
    constructor
    · intro heq
      cases heq
    · intro hv
      exact absurd (Value.exists_standsFor_iff.mp ⟨v, hv⟩) hn

theorem eq_overflow_iff (h : Exact type operation n result) :
    result = .error (.overflow operation) ↔ ¬ type.InRange n := by
  cases h with
  | value hv =>
    constructor
    · intro heq
      cases heq
    · intro hn
      exact absurd (Value.exists_standsFor_iff.mp ⟨_, hv⟩) hn
  | overflow hn => exact ⟨fun _ => hn, fun _ => rfl⟩

/-- The integer and the name of the operation leave no choice. -/
theorem unique {other : Except EvalError Value} (h : Exact type operation n result)
    (hother : Exact type operation n other) : result = other := by
  cases h with
  | value hv => exact (hother.eq_ok_iff.mpr hv).symm
  | overflow hn => exact (hother.eq_overflow_iff.mpr hn).symm

/-- An option that holds the value of `n` if there is one makes an exact result. -/
theorem orOverflow {o : Option Value} (h : ∀ v, o = some v ↔ v.StandsFor type n) :
    Exact type operation n (Value.orOverflow operation o) := by
  cases o with
  | some v => exact .value ((h v).mp rfl)
  | none =>
    refine .overflow fun hn => ?_
    obtain ⟨v, hv⟩ := Value.exists_standsFor_iff.mpr hn
    cases (h v).mpr hv

theorem word : Exact .int operation n (Value.orOverflow operation ((Word.ofInt? n).map .int)) := by
  apply orOverflow
  intro v
  rw [Option.map_eq_some_iff, Value.standsFor_int_iff]
  simp only [Word.ofInt?_eq_some_iff]

theorem duration :
    Exact .duration operation n
      (Value.orOverflow operation ((Duration.ofNanos? n).map .duration)) := by
  apply orOverflow
  intro v
  rw [Option.map_eq_some_iff, Value.standsFor_duration_iff]
  simp only [Duration.ofNanos?_eq_some_iff]

theorem shift {t : Timestamp} {d : Duration} (ht : t.inLeapSecond = false) :
    Exact .timestamp operation (t.total + d.nanos)
      (Value.orOverflow operation ((t.add? d).map .timestamp)) := by
  apply orOverflow
  intro v
  rw [Option.map_eq_some_iff, Value.standsFor_timestamp_iff]
  simp only [Timestamp.add?_eq_some_iff ht]

end Exact

/-! ### Sums, differences and opposites -/

/-- The type of a sum. A duration is added to a time from either side. -/
def TypeTag.sum? : TypeTag → TypeTag → Option TypeTag
  | .int, .int => some .int
  | .duration, .duration => some .duration
  | .timestamp, .duration | .duration, .timestamp => some .timestamp
  | _, _ => none

/-- The type of a difference. Between two times there is a duration. -/
def TypeTag.difference? : TypeTag → TypeTag → Option TypeTag
  | .int, .int => some .int
  | .duration, .duration | .timestamp, .timestamp => some .duration
  | .timestamp, .duration => some .timestamp
  | _, _ => none

namespace Value

variable {v w : Value} {type left right : TypeTag} {m n : Int}

theorem exact_add (hv : v.StandsFor left m) (hw : w.StandsFor right n)
    (htype : left.sum? right = some type) : Exact type "+" (m + n) (arith .add v w) := by
  cases hv with
  | int a =>
    cases hw with
    | int b => cases htype; exact Exact.word
    | duration | timestamp => cases htype
  | duration d =>
    cases hw with
    | duration e => cases htype; exact Exact.duration
    | timestamp ht =>
      cases htype
      rw [Int.add_comm]
      exact Exact.shift ht
    | int => cases htype
  | timestamp ht =>
    cases hw with
    | duration d => cases htype; exact Exact.shift ht
    | int | timestamp => cases htype

theorem exact_sub (hv : v.StandsFor left m) (hw : w.StandsFor right n)
    (htype : left.difference? right = some type) : Exact type "-" (m - n) (arith .sub v w) := by
  cases hv with
  | int a =>
    cases hw with
    | int b => cases htype; exact Exact.word
    | duration | timestamp => cases htype
  | duration d =>
    cases hw with
    | duration e => cases htype; exact Exact.duration
    | int | timestamp => cases htype
  | timestamp ht =>
    cases hw with
    | duration d => cases htype; exact Exact.shift (d := d.neg) ht
    | timestamp hu =>
      -- The calendar is shorter than the longest duration, so this one case has no overflow.
      cases htype
      rw [← Timestamp.nanos_since ht hu]
      exact .value (.duration _)
    | int => cases htype

/-- Numbers and durations have opposites, all durations have one of their own. -/
theorem exact_neg (hv : v.StandsFor type n) (htype : type = .int ∨ type = .duration) :
    Exact type "-" (-n) (applyUnary .negate v) := by
  cases hv with
  | int a => exact Exact.word
  | duration d => exact .value (.duration d.neg)
  | timestamp ht => rcases htype with h | h <;> cases h

end Value

/-! ### Arithmetic in expressions -/

namespace Expr

/-- A number as a constant. -/
def number (a : Int64) : Expr := .constant (.int a)

/-- A duration as a constant. -/
def span (d : Duration) : Expr := .constant (.duration d)

/-- A time as a constant. -/
def time (t : Timestamp) : Expr := .constant (.timestamp t)

instance : Add Expr := ⟨fun l r => .binary l (.arith .add) r⟩
instance : Sub Expr := ⟨fun l r => .binary l (.arith .sub) r⟩
instance : Mul Expr := ⟨fun l r => .binary l (.arith .mul) r⟩
instance : Div Expr := ⟨fun l r => .binary l (.arith .div) r⟩
instance : Mod Expr := ⟨fun l r => .binary l (.arith .mod) r⟩
instance : Neg Expr := ⟨.unary .negate⟩

variable {lib : Library} {s : Scope} {l r : Expr} {v w : Value} {type left right : TypeTag}
  {m n : Int}

theorem exact_evaluate_add (hl : l.evaluate lib s = .ok v) (hv : v.StandsFor left m)
    (hr : r.evaluate lib s = .ok w) (hw : w.StandsFor right n)
    (htype : left.sum? right = some type) : Exact type "+" (m + n) ((l + r).evaluate lib s) := by
  show Exact _ _ _ (do Value.arith .add (← l.evaluate lib s) (← r.evaluate lib s))
  rw [hl, hr]
  exact Value.exact_add hv hw htype

theorem exact_evaluate_sub (hl : l.evaluate lib s = .ok v) (hv : v.StandsFor left m)
    (hr : r.evaluate lib s = .ok w) (hw : w.StandsFor right n)
    (htype : left.difference? right = some type) :
    Exact type "-" (m - n) ((l - r).evaluate lib s) := by
  show Exact _ _ _ (do Value.arith .sub (← l.evaluate lib s) (← r.evaluate lib s))
  rw [hl, hr]
  exact Value.exact_sub hv hw htype

theorem exact_evaluate_neg (hl : l.evaluate lib s = .ok v) (hv : v.StandsFor type n)
    (htype : type = .int ∨ type = .duration) : Exact type "-" (-n) ((-l).evaluate lib s) := by
  show Exact _ _ _ (do Value.applyUnary .negate (← l.evaluate lib s))
  rw [hl]
  exact Value.exact_neg hv htype

end Expr
end Listing
