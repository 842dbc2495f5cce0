import Mathlib.Algebra.Group.Nat.Defs
import Listing.Text.Numeral

/-! # Runs of digits

  A number is written as a run of digits, and a reader takes the run
  up to the first character that is no digit. The value of a written
  run is the number again, zeros in front or not, and only zero itself
  is written with a zero at its head.
-/

namespace Listing.Text

/-! ### Where a run ends -/

/-- The text does not go on with a digit. -/
def EndsDigits (s : List Char) : Prop := ∀ c ∈ s.head?, c.isDigit = false

theorem endsDigits_nil : EndsDigits [] := by
  intro c hc
  cases hc

theorem endsDigits_cons {c : Char} {s : List Char} (hc : c.isDigit = false) :
    EndsDigits (c :: s) := by
  intro d hd
  cases hd
  exact hc

/-- A text that ends a run of digits ends it wherever it is cut. -/
theorem EndsDigits.take {s : List Char} (hs : EndsDigits s) (k : Nat) : EndsDigits (s.take k) := by
  intro c hc
  rw [List.head?_take] at hc
  split at hc
  · cases hc
  · exact hs c hc

/-- A run of digits is all that is taken from the front of a text. -/
theorem takeWhile_isDigit_append {ds s : List Char} (hds : ∀ c ∈ ds, c.isDigit = true)
    (hs : EndsDigits s) : (ds ++ s).takeWhile Char.isDigit = ds := by
  rw [List.takeWhile_append_of_pos hds]
  cases s with
  | nil => simp
  | cons c s =>
    have hc : c.isDigit = false := hs c rfl
    rw [List.takeWhile_cons_of_neg (by simp [hc]), List.append_nil]

/-- A run of digits is passed over altogether. -/
theorem dropWhile_isDigit {s : List Char} (hs : EndsDigits s) : s.dropWhile Char.isDigit = s := by
  cases s with
  | nil => rfl
  | cons c s =>
    have hc : c.isDigit = false := hs c rfl
    rw [List.dropWhile_cons_of_neg (by simp [hc])]

/-! ### Written numbers -/

theorem isDigit_of_mem_digits {n : Nat} {c : Char} (hc : c ∈ digits n) : c.isDigit = true :=
  Nat.isDigit_of_mem_toDigits (by decide) (by decide) hc

theorem digits_ne_nil (n : Nat) : digits n ≠ [] := Nat.toDigits_ne_nil

/-- A written number starts with a digit. -/
theorem exists_digits_eq (n : Nat) : ∃ d ds, digits n = d :: ds ∧ d.isDigit = true := by
  obtain ⟨d, ds, hds⟩ := List.exists_cons_of_ne_nil (digits_ne_nil n)
  exact ⟨d, ds, hds, isDigit_of_mem_digits (hds ▸ List.mem_cons_self)⟩

/-- The value of a written number. -/
theorem ofDigitChars_digits (n : Nat) : Nat.ofDigitChars 10 (digits n) 0 = n :=
  Nat.ofDigitChars_toDigits (by decide) (by decide)

theorem length_digits_le_iff {n k : Nat} (hk : 0 < k) : (digits n).length ≤ k ↔ n < 10 ^ k :=
  Nat.length_toDigits_le_iff (by decide) hk

/-- Only zero is written with a zero at its head. -/
theorem eq_zero_of_head?_digits {n : Nat} (h : (digits n).head? = some '0') : n = 0 := by
  induction n using Nat.strongRecOn with
  | ind n ih =>
    by_cases hn : n < 10
    · rw [digits, Nat.toDigits_of_lt_base hn] at h
      injection h with h
      exact Nat.digitChar_eq_zero.mp h
    · -- The head of the run is the head of the run without its last digit.
      have htens : digits n = digits (n / 10) ++ [(n % 10).digitChar] :=
        Nat.toDigits_of_base_le (by decide) (Nat.le_of_not_lt hn)
      have hhead := List.head?_eq_some_head (digits_ne_nil (n / 10))
      rw [htens, List.head?_append, hhead, Option.some_or, ← hhead] at h
      have hzero := ih (n / 10) (by omega) h
      omega

/-! ### Numbers read back -/

/-- More digits never make a number smaller. -/
theorem le_ofDigitChars (s : List Char) (seen : Nat) : seen ≤ Nat.ofDigitChars 10 s seen := by
  induction s generalizing seen with
  | nil => exact Nat.le_refl seen
  | cons c s ih =>
    rw [Nat.ofDigitChars_cons]
    have hrest := ih (10 * seen + (c.toNat - '0'.toNat))
    omega

/-- A run of digits is read as its value if that fits. -/
theorem readDigits_of_isDigit {s : List Char} (hs : ∀ c ∈ s, c.isDigit = true) {seen : Nat}
    (hsize : Nat.ofDigitChars 10 s seen < UInt64.size) :
    readDigits seen s = .ok (.ofNat (Nat.ofDigitChars 10 s seen)) := by
  induction s generalizing seen with
  | nil => rfl
  | cons c s ih =>
    obtain ⟨hc, hs⟩ := List.forall_mem_cons.mp hs
    rw [Nat.ofDigitChars_cons] at hsize ⊢
    -- What is seen so far fits, since the whole does.
    have hnext := Nat.lt_of_le_of_lt (le_ofDigitChars s _) hsize
    rw [readDigits, if_pos hc]
    simp only [if_pos hnext]
    exact ih hs hsize

/-- A written number is read back. -/
theorem readUnsigned_digits (n : UInt64) : readUnsigned (digits n.toNat) = .ok n := by
  have hread : readDigits 0 (digits n.toNat) = .ok n := by
    rw [readDigits_of_isDigit (fun c hc => isDigit_of_mem_digits hc)]
    · rw [ofDigitChars_digits, UInt64.ofNat_toNat]
    · rw [ofDigitChars_digits]
      exact n.toNat_lt_size
  obtain ⟨d, ds, hds, hd⟩ := exists_digits_eq n.toNat
  have hsign : d ≠ '+' := by
    rintro rfl
    exact absurd hd (by decide)
  rw [hds] at hread ⊢
  unfold readUnsigned
  split
  · next h => cases h
  · next h => exact absurd (List.cons_eq_cons.mp h).1 hsign
  · next h => exact absurd (List.cons_eq_cons.mp h).1 hsign
  · exact hread

/-! ### Numbers of a fixed width -/

theorem isDigit_of_mem_digitsPadded {width n : Nat} {c : Char} (hc : c ∈ digitsPadded width n) :
    c.isDigit = true := by
  unfold digitsPadded at hc
  rcases List.mem_append.mp hc with hc | hc
  · rw [List.eq_of_mem_replicate hc]
    decide
  · exact isDigit_of_mem_digits hc

theorem digitsPadded_ne_nil (width n : Nat) : digitsPadded width n ≠ [] := by
  intro h
  exact digits_ne_nil n (List.append_eq_nil_iff.mp h).2

theorem exists_digitsPadded_eq (width n : Nat) :
    ∃ d ds, digitsPadded width n = d :: ds ∧ d.isDigit = true := by
  obtain ⟨d, ds, hds⟩ := List.exists_cons_of_ne_nil (digitsPadded_ne_nil width n)
  exact ⟨d, ds, hds, isDigit_of_mem_digitsPadded (hds ▸ List.mem_cons_self)⟩

/-- Zeros in front do not change the value. -/
theorem ofDigitChars_digitsPadded (width n : Nat) :
    Nat.ofDigitChars 10 (digitsPadded width n) 0 = n := by
  unfold digitsPadded
  rw [Nat.ofDigitChars_append, Nat.ofDigitChars_replicate_zero, Nat.mul_zero]
  exact ofDigitChars_digits n

/-- A number that is not too large has exactly the width. -/
theorem length_digitsPadded {width n : Nat} (hwidth : 0 < width) (hn : n < 10 ^ width) :
    (digitsPadded width n).length = width := by
  have hle : (digits n).length ≤ width := (length_digits_le_iff hwidth).mpr hn
  unfold digitsPadded
  rw [List.length_append, List.length_replicate]
  omega

end Listing.Text
