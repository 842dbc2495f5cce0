import Listing.Proofs.Meaning.Arithmetic
import Listing.Scenario.Task

/-! # Arithmetic with numbers

  Sums, differences, products and opposites of words are those of the
  integers that the words are read as, as long as a word has them.
  Division rounds toward zero and the remainder goes with it. Both fail
  together: for the divisor zero, and for the one pair of words whose
  quotient is too large.
-/

namespace Listing

/-! ### Quotients of words -/

namespace Word

variable {a b : Int64}

theorem toInt_minValue : Int64.minValue.toInt = -9223372036854775808 := by decide

theorem toInt_neg_one : (-1 : Int64).toInt = -1 := by decide

theorem toInt_ne_zero (hb : b ≠ 0) : b.toInt ≠ 0 := by
  intro h
  exact hb (Int64.toInt_inj.mp h)

/-- The smallest word is the only one without an opposite. -/
theorem not_fits_neg_iff : ¬ Fits (-a.toInt) ↔ a = Int64.minValue := by
  obtain ⟨hlow, hhigh⟩ := fits_toInt a
  rw [← Int64.toInt_inj, toInt_minValue]
  simp only [Fits]
  omega

/-- The smallest word by minus one is the only pair whose quotient is not a word. -/
theorem fits_tdiv_iff (hb : b ≠ 0) :
    Fits (a.toInt.tdiv b.toInt) ↔ ¬(a = Int64.minValue ∧ b = -1) := by
  have hb0 := toInt_ne_zero hb
  obtain ⟨hlow, hhigh⟩ := fits_toInt a
  rw [← Int64.toInt_inj, ← Int64.toInt_inj, toInt_minValue, toInt_neg_one]
  by_cases hone : b.toInt.natAbs = 1
  · rcases (by omega : b.toInt = 1 ∨ b.toInt = -1) with h | h
    · have hquotient : a.toInt.tdiv b.toInt = a.toInt := by rw [h, Int.tdiv_one]
      rw [hquotient]
      simp only [Fits]
      omega
    · have hquotient : a.toInt.tdiv b.toInt = -a.toInt := by rw [h, Int.tdiv_neg, Int.tdiv_one]
      rw [hquotient]
      simp only [Fits]
      omega
  · -- A divisor of at least two leaves at most half of the size.
    have hhalf : (a.toInt.tdiv b.toInt).natAbs ≤ a.toInt.natAbs / 2 := by
      rw [Int.natAbs_tdiv]
      exact Nat.div_le_div_left (by omega) (by decide)
    simp only [Fits]
    omega

theorem fits_tmod (hb : b ≠ 0) : Fits (a.toInt.tmod b.toInt) := by
  have hb0 := toInt_ne_zero hb
  obtain ⟨hlow, hhigh⟩ := fits_toInt b
  have habs := Int.natAbs_tmod a.toInt b.toInt
  have hlt : a.toInt.natAbs % b.toInt.natAbs < b.toInt.natAbs := Nat.mod_lt _ (by omega)
  simp only [Fits]
  omega

end Word

/-! ### Division with remainder -/

/-- The parts of `l` in a division by `r` that rounds toward zero: the remainder is smaller than
the divisor and on the same side of zero as `l`. -/
structure Divides (l r quotient remainder : Int) : Prop where
  whole : l = quotient * r + remainder
  small : remainder.natAbs < r.natAbs
  sign : remainder = 0 ∨ remainder.sign = l.sign

theorem divides_tdiv_tmod (l : Int) {r : Int} (hr : r ≠ 0) :
    Divides l r (l.tdiv r) (l.tmod r) where
  whole := by rw [Int.mul_comm, Int.mul_tdiv_add_tmod]
  small := by
    rw [Int.natAbs_tmod]
    exact Nat.mod_lt _ (by omega)
  sign := by
    by_cases h : r ∣ l
    · exact .inl (Int.tmod_eq_zero_of_dvd h)
    · right
      rw [Int.sign_tmod, if_neg h]

/-- What division and remainder return for two words. -/
inductive Division (l r : Int64) : Except EvalError Value → Except EvalError Value → Prop
  /-- Nothing is divided by zero. -/
  | byZero (hr : r = 0) : Division l r (.error .divisionByZero) (.error .divisionByZero)
  /-- The quotient is too large. -/
  | overflow (hl : l = Int64.minValue) (hr : r = -1) :
    Division l r (.error (.overflow "/")) (.error (.overflow "%"))
  /-- There are a quotient and a remainder. -/
  | parts {q m : Int64} (hr : r ≠ 0) (hne : ¬(l = Int64.minValue ∧ r = -1))
      (hparts : Divides l.toInt r.toInt q.toInt m.toInt) :
    Division l r (.ok (.int q)) (.ok (.int m))

namespace Value

theorem division (l r : Int64) : Division l r (intArith .div l r) (intArith .mod l r) := by
  by_cases hr : r = 0
  · subst hr
    exact .byZero rfl
  by_cases hne : l = Int64.minValue ∧ r = -1
  · obtain ⟨rfl, rfl⟩ := hne
    exact .overflow rfl rfl
  · obtain ⟨q, hq⟩ := Word.exists_toInt_eq_iff.mpr ((Word.fits_tdiv_iff hr).mpr hne)
    obtain ⟨m, hm⟩ := Word.exists_toInt_eq_iff.mpr (Word.fits_tmod (a := l) hr)
    have hdiv : Word.div? l r = some q := by
      rw [Word.div?, if_neg hr, Word.ofInt?_eq_some_iff]
      exact hq
    have hmod : Word.mod? l r = some m := by
      rw [Word.mod?, hdiv, Option.isSome_some, if_pos rfl, Word.ofInt?_eq_some_iff]
      exact hm
    have hparts := divides_tdiv_tmod l.toInt (Word.toInt_ne_zero hr)
    rw [← hq, ← hm] at hparts
    simp only [intArith, if_neg hr, hdiv, hmod]
    exact .parts hr hne hparts

end Value

namespace Expr

/-- Arithmetic with two numbers never wraps. A sum, a difference, a product or an opposite is the
exact one, or an overflow if no word has it; of the opposites that is the one of the smallest
word. Division and remainder fail for the same divisor and overflow for the same pair, and in all
other cases they give the parts of the first number. -/
theorem evaluate_numbers (lib : Library) (s : Scope) (l r : Int64) :
    let run (e : Expr) := e.evaluate lib s
    Exact .int "+" (l.toInt + r.toInt) (run (number l + number r)) ∧
    Exact .int "-" (l.toInt - r.toInt) (run (number l - number r)) ∧
    Exact .int "*" (l.toInt * r.toInt) (run (number l * number r)) ∧
    Exact .int "-" (-l.toInt) (run (-number l)) ∧
    (run (-number l) = .error (.overflow "-") ↔ l = Int64.minValue) ∧
    (run (number l / number r) = .error .divisionByZero ↔ r = 0) ∧
    (run (number l % number r) = .error .divisionByZero ↔ r = 0) ∧
    (run (number l / number r) = .error (.overflow "/") ↔ l = Int64.minValue ∧ r = -1) ∧
    (run (number l % number r) = .error (.overflow "%") ↔ l = Int64.minValue ∧ r = -1) ∧
    (r ≠ 0 → ¬(l = Int64.minValue ∧ r = -1) → ∃ q m : Int64,
      run (number l / number r) = .ok (.int q) ∧ run (number l % number r) = .ok (.int m) ∧
        Divides l.toInt r.toInt q.toInt m.toInt) := by
  intro run
  have hneg : Exact .int "-" (-l.toInt) (run (-number l)) :=
    exact_evaluate_neg rfl (.int l) (.inl rfl)
  have hdiv : Division l r (run (number l / number r)) (run (number l % number r)) :=
    Value.division l r
  refine ⟨exact_evaluate_add rfl (.int l) rfl (.int r) rfl,
    exact_evaluate_sub rfl (.int l) rfl (.int r) rfl, Exact.word, hneg, ?_, ?_⟩
  · rw [hneg.eq_overflow_iff]
    exact Word.not_fits_neg_iff
  · generalize run (number l / number r) = quotient at hdiv ⊢
    generalize run (number l % number r) = remainder at hdiv ⊢
    cases hdiv with
    | byZero hr => simp [hr]
    | overflow hl hr => simp [hl, hr]
    | parts hr hne hparts =>
      simp only [reduceCtorEq, false_iff]
      exact ⟨hr, hr, hne, hne, fun _ _ => ⟨_, _, rfl, rfl, hparts⟩⟩

/-- The smallest number has no opposite and is not divided by minus one. Divided by ten it leaves a
remainder below zero. -/
theorem evaluate_numbers_at_minimum :
    let run (e : Expr) := e.evaluate .builtin ⟨.empty, Scenario.noon⟩
    let minimum := number Int64.minValue
    (10 : Int64) ≠ 0 ∧ ¬(Int64.minValue = Int64.minValue ∧ (10 : Int64) = -1) ∧
      run (-minimum) = .error (.overflow "-") ∧
      run (minimum / number (-1)) = .error (.overflow "/") ∧
      run (minimum % number (-1)) = .error (.overflow "%") ∧
      run (minimum / number 0) = .error .divisionByZero ∧
      run (minimum / number 10) = .ok (.int (-922337203685477580)) ∧
      run (minimum % number 10) = .ok (.int (-8)) ∧
      ∃ q m : Int64, run (minimum / number 10) = .ok (.int q) ∧
        run (minimum % number 10) = .ok (.int m) ∧
        Divides Int64.minValue.toInt (10 : Int64).toInt q.toInt m.toInt := by
  intro run minimum
  have hten : (10 : Int64) ≠ 0 := by decide
  have hpair : ¬(Int64.minValue = Int64.minValue ∧ (10 : Int64) = -1) := by decide
  obtain ⟨-, -, -, -, hneg, -, -, hquotient, hremainder, -⟩ :=
    evaluate_numbers .builtin ⟨.empty, Scenario.noon⟩ Int64.minValue (-1)
  obtain ⟨-, -, -, -, -, hzero, -⟩ :=
    evaluate_numbers .builtin ⟨.empty, Scenario.noon⟩ Int64.minValue 0
  obtain ⟨-, -, -, -, -, -, -, -, -, hparts⟩ :=
    evaluate_numbers .builtin ⟨.empty, Scenario.noon⟩ Int64.minValue 10
  exact ⟨hten, hpair, hneg.mpr rfl, hquotient.mpr ⟨rfl, rfl⟩, hremainder.mpr ⟨rfl, rfl⟩,
    hzero.mpr rfl, rfl, rfl, hparts hten hpair⟩

end Expr
end Listing
