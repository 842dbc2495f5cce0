import Listing.Text.CaseTable

/-! # Capital and small letters

  Full case mapping of a text, character by character, with the one
  mapping that looks at its surroundings: a capital sigma becomes a
  final sigma (U+03C2) at the end of a word and the ordinary small
  sigma everywhere else.
-/

namespace Listing.Text

/-! ### Table look-up -/

/-- The run moves the code point `n`. -/
def CaseRun.covers (r : CaseRun) (n : Nat) : Bool :=
  r.first ≤ n && n ≤ r.last && (n - r.first) % r.step == 0

/-- The code point that the run sends `n` to. -/
def CaseRun.image (r : CaseRun) (n : Nat) : Nat := (n + r.shift).toNat

/-- The image of a character under the first run that covers it. -/
def mapByRuns (runs : List CaseRun) (c : Char) : Char :=
  match runs.find? (·.covers c.toNat) with
  | some r => Char.ofNat (r.image c.toNat)
  | none => c

/-- The image of a character under a list of sequences, or under the runs
where no sequence is listed for it. -/
def mapByTable (sequences : List (Nat × List Nat)) (runs : List CaseRun) (c : Char) : List Char :=
  match sequences.lookup c.toNat with
  | some s => s.map Char.ofNat
  | none => [mapByRuns runs c]

theorem CaseRun.covers_iff {r : CaseRun} {n : Nat} :
    r.covers n = true ↔ r.first ≤ n ∧ n ≤ r.last ∧ (n - r.first) % r.step = 0 := by
  simp only [CaseRun.covers, Bool.and_eq_true, decide_eq_true_eq, beq_iff_eq, and_assoc]

theorem CaseRun.image_eq (r : CaseRun) (n : Nat) : (r.image n : Int) = max 0 (n + r.shift) := by
  rw [CaseRun.image, Int.ofNat_toNat, Int.max_comm]

/-- A run moves the character, or none does. -/
theorem mapByRuns_cases (runs : List CaseRun) (c : Char) :
    (∃ r ∈ runs, r.covers c.toNat = true ∧ mapByRuns runs c = Char.ofNat (r.image c.toNat)) ∨
      (∀ r ∈ runs, ¬r.covers c.toNat = true) ∧ mapByRuns runs c = c := by
  unfold mapByRuns
  cases hfind : runs.find? (·.covers c.toNat) with
  | none => exact .inr ⟨List.find?_eq_none.mp hfind, rfl⟩
  | some r =>
    have hcovers : r.covers c.toNat = true := by simpa using List.find?_some hfind
    exact .inl ⟨r, List.mem_of_find?_eq_some hfind, hcovers, rfl⟩

/-- The character becomes a sequence, or what the runs make of it. -/
theorem mapByTable_cases (sequences : List (Nat × List Nat)) (runs : List CaseRun) (c : Char) :
    (∃ s, (c.toNat, s) ∈ sequences ∧ mapByTable sequences runs c = s.map Char.ofNat) ∨
      sequences.lookup c.toNat = none ∧ mapByTable sequences runs c = [mapByRuns runs c] := by
  unfold mapByTable
  cases hlookup : sequences.lookup c.toNat with
  | none => exact .inr ⟨rfl, rfl⟩
  | some s =>
    obtain ⟨before, after, hsequences, -⟩ := List.lookup_eq_some_iff.mp hlookup
    exact .inl ⟨s, by simp [hsequences], rfl⟩

/-- The character lies in one of the ranges. -/
def inRanges (ranges : List (Nat × Nat)) (c : Char) : Bool :=
  ranges.any fun r => r.1 ≤ c.toNat && c.toNat ≤ r.2

/-! ### Small letters -/

/-- The small form of one character, whatever stands around it. -/
def lowerChar (c : Char) : List Char := mapByTable lowerSequences lowerRuns c

/-- The next character that is not case-ignorable is a cased one. -/
def nextIsCased (s : List Char) : Bool :=
  match s.dropWhile (inRanges caseIgnorableRanges) with
  | [] => false
  | c :: _ => inRanges casedRanges c

/-- The small form of a capital sigma. `before` runs backwards from it. -/
def lowerSigma (before after : List Char) : Char :=
  if nextIsCased before && !nextIsCased after then 'ς' else 'σ'

/-- Lower `s`, of which `before` (backwards) has been passed already. -/
def lowerAfter (before : List Char) : List Char → List Char
  | [] => []
  | c :: rest =>
    (if c = 'Σ' then [lowerSigma before rest] else lowerChar c) ++ lowerAfter (c :: before) rest

/-- The small form of a text. -/
def lower (s : String) : String := .ofList (lowerAfter [] s.toList)

/-! ### Capital letters -/

/-- The capital form of one character. -/
def upperChar (c : Char) : List Char := mapByTable upperSequences upperRuns c

/-- The capital form of a text. -/
def upper (s : String) : String := .ofList (s.toList.flatMap upperChar)

/-! ### ASCII alone -/

/-- Lower the letters `A` to `Z` and leave every other character alone. -/
def lowerAscii (s : String) : String := .ofList (s.toList.map Char.toLower)

end Listing.Text
