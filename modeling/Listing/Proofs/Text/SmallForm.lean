import Listing.Text.Case

/-! # Small forms

  The small form of a text is its own small form: nothing that a capital
  letter becomes is a capital letter again, not even one of the two
  characters of the dotted capital I, and a text without capital sigmas
  is mapped character by character.
-/

namespace Listing.Text

/-! ### Runs -/

/-- All that the run leads to are characters. -/
def CaseRun.Valid (r : CaseRun) : Prop :=
  (0 ≤ r.first + r.shift ∧ r.last + r.shift < 0xD800) ∨
    (0xE000 ≤ r.first + r.shift ∧ r.last + r.shift < 0x110000)

instance (r : CaseRun) : Decidable r.Valid := inferInstanceAs (Decidable (_ ∨ _))

/-- Nothing that `r` leads to is moved by `q`: it lies before all that `q` moves, or behind it, or
in the gaps of `q`. -/
def CaseRun.misses (r q : CaseRun) : Bool :=
  (r.image r.last).blt q.first || q.last.blt (r.image r.first) ||
    ((r.first == r.last || r.step == 2) && q.step == 2 && (r.image r.first + q.first) % 2 == 1)

theorem CaseRun.misses_iff {r q : CaseRun} :
    r.misses q = true ↔ r.image r.last < q.first ∨ q.last < r.image r.first ∨
      (r.first = r.last ∨ r.step = 2) ∧ q.step = 2 ∧ (r.image r.first + q.first) % 2 = 1 := by
  simp only [CaseRun.misses, Bool.or_eq_true, Bool.and_eq_true, Nat.blt_eq, beq_iff_eq, or_assoc,
    and_assoc]

namespace CaseRun.Valid

variable {r q : CaseRun} {n : Nat}

theorem image_eq_add (h : r.Valid) (hn : r.first ≤ n) : (r.image n : Int) = n + r.shift := by
  unfold CaseRun.Valid at h
  rw [CaseRun.image_eq]
  omega

theorem toNat_ofNat_image (h : r.Valid) (hn : r.covers n = true) :
    (Char.ofNat (r.image n)).toNat = r.image n := by
  obtain ⟨hfirst, hlast, -⟩ := covers_iff.mp hn
  have himage := h.image_eq_add hfirst
  have hvalid : (r.image n).isValidChar := by
    unfold CaseRun.Valid at h
    unfold Nat.isValidChar
    omega
  rw [Char.ofNat, dif_pos hvalid]
  rfl

theorem not_covers_image (h : r.Valid) (hmisses : r.misses q = true) (hn : r.covers n = true) :
    ¬q.covers (r.image n) = true := by
  obtain ⟨hfirst, hlast, hstep⟩ := covers_iff.mp hn
  have himage := h.image_eq_add hfirst
  have hlow := h.image_eq_add (Nat.le_refl r.first)
  have hhigh := h.image_eq_add (Nat.le_trans hfirst hlast)
  rw [covers_iff]
  rintro ⟨hqfirst, hqlast, hqstep⟩
  rcases misses_iff.mp hmisses with hbefore | hbehind | ⟨hgaps, hq, hodd⟩
  · omega
  · omega
  -- All that `r` leads to has the parity of its first image, and all that `q` moves the other one.
  · rw [hq] at hqstep
    rcases hgaps with hsingle | hr
    · omega
    · rw [hr] at hstep
      omega

end CaseRun.Valid

theorem lowerRuns_valid : ∀ r ∈ lowerRuns, r.Valid := by
  decide +kernel

theorem lowerRuns_misses : (lowerRuns.all fun r => lowerRuns.all r.misses) = true := by
  decide +kernel

/-- What becomes a sequence is nothing that a run leads to. -/
theorem lowerRuns_misses_sequences :
    (lowerRuns.all fun r => lowerSequences.all fun s => r.misses ⟨s.1, s.1, 1, 0⟩) = true := by
  decide +kernel

/-! ### Characters -/

/-- The character is its own small form. -/
def IsSmall (c : Char) : Prop := lowerChar c = [c]

instance (c : Char) : Decidable (IsSmall c) := inferInstanceAs (Decidable (_ = _))

theorem not_isSmall_sigma : ¬IsSmall 'Σ' := by
  decide +kernel

theorem isSmall_of_not_covers {c : Char} (hruns : ∀ r ∈ lowerRuns, ¬r.covers c.toNat = true)
    (hsequences : lowerSequences.lookup c.toNat = none) : IsSmall c := by
  have hnone : lowerRuns.find? (·.covers c.toNat) = none := List.find?_eq_none.mpr hruns
  rw [IsSmall, lowerChar, mapByTable, hsequences]
  simp only [mapByRuns, hnone]

theorem lookup_image_eq_none {r : CaseRun} (hr : r ∈ lowerRuns) {n : Nat}
    (hn : r.covers n = true) : lowerSequences.lookup (r.image n) = none := by
  refine List.lookup_eq_none_iff.mpr fun s hs => ?_
  have hmisses := List.all_eq_true.mp (List.all_eq_true.mp lowerRuns_misses_sequences r hr) s hs
  have hcovers := (lowerRuns_valid r hr).not_covers_image hmisses hn
  have hne : r.image n ≠ s.1 := by
    intro heq
    rw [heq] at hcovers
    exact hcovers (CaseRun.covers_iff.mpr ⟨Nat.le_refl _, Nat.le_refl _, Nat.mod_one _⟩)
  simpa using hne

theorem isSmall_mapByRuns {c : Char} (hc : lowerSequences.lookup c.toNat = none) :
    IsSmall (mapByRuns lowerRuns c) := by
  rcases mapByRuns_cases lowerRuns c with ⟨r, hr, hcovers, himage⟩ | ⟨hnone, hself⟩
  · have hvalid := lowerRuns_valid r hr
    rw [himage]
    apply isSmall_of_not_covers
    -- The image is a character, so that the runs are asked about it and about no replacement.
    · intro q hq
      have hmisses := List.all_eq_true.mp (List.all_eq_true.mp lowerRuns_misses r hr) q hq
      rw [hvalid.toNat_ofNat_image hcovers]
      exact hvalid.not_covers_image hmisses hcovers
    · rw [hvalid.toNat_ofNat_image hcovers]
      exact lookup_image_eq_none hr hcovers
  · rw [hself]
    exact isSmall_of_not_covers hnone hc

theorem isSmall_of_mem_lowerSequences :
    ∀ s ∈ lowerSequences, ∀ n ∈ s.2, IsSmall (Char.ofNat n) := by
  decide +kernel

/-- Whatever a character becomes has no small form but itself. -/
theorem isSmall_of_mem_lowerChar {c d : Char} (hd : d ∈ lowerChar c) : IsSmall d := by
  unfold lowerChar at hd
  rcases mapByTable_cases lowerSequences lowerRuns c with ⟨s, hs, hmap⟩ | ⟨hnone, hmap⟩
  · rw [hmap] at hd
    obtain ⟨n, hn, rfl⟩ := List.mem_map.mp hd
    exact isSmall_of_mem_lowerSequences _ hs n hn
  · rw [hmap, List.mem_singleton] at hd
    rw [hd]
    exact isSmall_mapByRuns hnone

theorem isSmall_lowerSigma (before after : List Char) : IsSmall (lowerSigma before after) := by
  unfold lowerSigma
  split <;> decide +kernel

/-! ### Texts -/

theorem isSmall_of_mem_lowerAfter {before s : List Char} :
    ∀ d ∈ lowerAfter before s, IsSmall d := by
  induction s generalizing before with
  | nil => exact List.forall_mem_nil _
  | cons c s ih =>
    rw [lowerAfter, List.forall_mem_append]
    refine ⟨fun d hd => ?_, ih⟩
    split at hd
    · rw [List.mem_singleton.mp hd]
      exact isSmall_lowerSigma before s
    · exact isSmall_of_mem_lowerChar hd

/-- Among small characters there is no capital sigma, so nothing depends on what stands around a
character. -/
theorem lowerAfter_of_isSmall {s : List Char} (hs : ∀ c ∈ s, IsSmall c) (before : List Char) :
    lowerAfter before s = s := by
  induction s generalizing before with
  | nil => rfl
  | cons c s ih =>
    obtain ⟨hc, hs⟩ := List.forall_mem_cons.mp hs
    have hsigma : c ≠ 'Σ' := by
      rintro rfl
      exact not_isSmall_sigma hc
    rw [lowerAfter, if_neg hsigma, ih hs, hc]
    rfl

/-- The small form of a small form is this form. -/
@[simp] theorem lower_lower (s : String) : lower (lower s) = lower s := by
  have hsmall : ∀ c ∈ (lower s).toList, IsSmall c := by
    rw [lower, String.toList_ofList]
    exact isSmall_of_mem_lowerAfter
  calc lower (lower s)
      = .ofList (lowerAfter [] (lower s).toList) := rfl
    _ = .ofList (lower s).toList := by rw [lowerAfter_of_isSmall hsmall]
    _ = lower s := String.ofList_toList

/-- A sigma at the end of a word stays a final one, and a dotted capital I keeps its dot. -/
example : lower "ΟΔΟΣ \u0130" = "οδος i\u0307" ∧ lower "οδος i\u0307" = "οδος i\u0307" := by
  decide +kernel

end Listing.Text
