/-! # Signed 64-bit arithmetic without wrapping

  Every operation computes the exact integer and returns it only when
  it fits a word.
-/

namespace Listing.Word

/-- The integer is the value of a signed 64-bit word. -/
def Fits (n : Int) : Prop := -9223372036854775808 ≤ n ∧ n < 9223372036854775808

instance (n : Int) : Decidable (Fits n) := inferInstanceAs (Decidable (_ ∧ _))

/-- The word of value `n`, if there is one. -/
def ofInt? (n : Int) : Option Int64 := if Fits n then some (.ofInt n) else none

/-- The sum. -/
def add? (a b : Int64) : Option Int64 := ofInt? (a.toInt + b.toInt)

/-- The difference. -/
def sub? (a b : Int64) : Option Int64 := ofInt? (a.toInt - b.toInt)

/-- The product. -/
def mul? (a b : Int64) : Option Int64 := ofInt? (a.toInt * b.toInt)

/-- The opposite. -/
def neg? (a : Int64) : Option Int64 := ofInt? (-a.toInt)

/-- The quotient, rounded toward zero. -/
def div? (a b : Int64) : Option Int64 :=
  if b = 0 then none else ofInt? (a.toInt.tdiv b.toInt)

/-- The remainder of `div?`; it exists exactly when the quotient does. -/
def mod? (a b : Int64) : Option Int64 :=
  if (div? a b).isSome then ofInt? (a.toInt.tmod b.toInt) else none

/-! ### Small facts -/

theorem fits_toInt (a : Int64) : Fits a.toInt :=
  ⟨a.le_toInt, a.toInt_lt⟩

theorem ofInt?_eq_some_iff {n : Int} {a : Int64} : ofInt? n = some a ↔ a.toInt = n := by
  unfold ofInt?
  split
  · next h =>
    rw [Option.some.injEq]
    constructor
    · rintro rfl; exact Int64.toInt_ofInt_of_le h.1 h.2
    · intro ha; rw [← Int64.toInt_inj, Int64.toInt_ofInt_of_le h.1 h.2, ha]
  · next h =>
    refine ⟨fun hn => by simp at hn, ?_⟩
    rintro rfl
    exact absurd (fits_toInt a) h

end Listing.Word
