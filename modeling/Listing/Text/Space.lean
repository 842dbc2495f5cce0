/-! # White space

  `isSpace` is the Unicode property `White_Space`; trimming removes
  such characters from the ends of a text and touches nothing else.
-/

namespace Listing.Text

/-- The Unicode property `White_Space`. -/
def isSpace (c : Char) : Bool :=
  let n := c.toNat
  (9 ≤ n && n ≤ 13) || n == 0x20 || n == 0x85 || n == 0xA0 || n == 0x1680 ||
    (0x2000 ≤ n && n ≤ 0x200A) || n == 0x2028 || n == 0x2029 || n == 0x202F ||
    n == 0x205F || n == 0x3000

/-- Drop the white space in front. -/
def trimStart (s : List Char) : List Char := s.dropWhile isSpace

/-- Drop the white space behind. -/
def trimEnd (s : List Char) : List Char := (s.reverse.dropWhile isSpace).reverse

/-- Drop the white space at both ends. -/
def trim (s : List Char) : List Char := trimEnd (trimStart s)

/-- `trim` on strings. -/
def trimString (s : String) : String := .ofList (trim s.toList)

/-! ### Small facts -/

/-- A digit is no white space. -/
theorem isSpace_of_isDigit {c : Char} (hc : c.isDigit = true) : isSpace c = false := by
  have hrange : 48 ≤ c.toNat ∧ c.toNat ≤ 57 := Char.isDigit_iff_toNat.mp hc
  simp only [isSpace, Bool.or_eq_false_iff, Bool.and_eq_false_iff, beq_eq_false_iff_ne,
    decide_eq_false_iff_not]
  omega

/-- White space has no small form of its own. -/
theorem toLower_of_isSpace {c : Char} (hc : isSpace c = true) : c.toLower = c := by
  have hcapital : ¬(65 ≤ c.toNat ∧ c.toNat ≤ 90) := by
    simp only [isSpace, Bool.or_eq_true, Bool.and_eq_true, beq_iff_eq, decide_eq_true_eq] at hc
    omega
  exact dif_neg hcapital

theorem trimStart_cons_of_not_isSpace {c : Char} {s : List Char} (h : isSpace c = false) :
    trimStart (c :: s) = c :: s := by
  simp [trimStart, h]

theorem trimStart_cons_of_isSpace {c : Char} {s : List Char} (h : isSpace c = true) :
    trimStart (c :: s) = trimStart s := by
  simp [trimStart, h]

end Listing.Text
