import Listing.Compile.Test
import Listing.Library.Basic

/-! # Spellings of method names

  The compiler knows the methods of texts by the small letters of ASCII,
  a library finds its functions by the small letters of all scripts.
  The spellings of a method are the same for both: no character from
  outside ASCII becomes a letter of ASCII, apart from the Kelvin sign,
  which becomes a `k`, and the methods are written without a `k`.
-/

namespace Listing

namespace Text

/-! ### Small letters of ASCII -/

theorem lowerChar_ofNat : ∀ n < 128, lowerChar (Char.ofNat n) = [(Char.ofNat n).toLower] := by
  decide +kernel

theorem lowerChar_of_ascii {c : Char} (hc : c.toNat < 128) : lowerChar c = [c.toLower] := by
  have h := lowerChar_ofNat c.toNat hc
  rwa [Char.ofNat_toNat] at h

/-- Among the characters of ASCII there is no capital sigma, so nothing depends on what stands
around a character. -/
theorem lowerAfter_of_ascii {s : List Char} (hs : ∀ c ∈ s, c.toNat < 128) (before : List Char) :
    lowerAfter before s = s.map Char.toLower := by
  induction s generalizing before with
  | nil => rfl
  | cons c s ih =>
    obtain ⟨hc, hs⟩ := List.forall_mem_cons.mp hs
    have hsigma : c ≠ 'Σ' := by
      rintro rfl
      exact absurd hc (by decide)
    rw [lowerAfter, if_neg hsigma, lowerChar_of_ascii hc, ih hs]
    rfl

/-- On texts of ASCII characters the two kinds of small letters are the same. -/
theorem lower_of_ascii {s : String} (hs : ∀ c ∈ s.toList, c.toNat < 128) :
    lower s = lowerAscii s := by
  rw [lower, lowerAfter_of_ascii hs, lowerAscii]

/-- No character from outside becomes one of ASCII. -/
theorem ascii_of_toLower {c : Char} (h : c.toLower.toNat < 128) : c.toNat < 128 := by
  unfold Char.toLower at h
  split at h
  · next hcapital => exact Nat.lt_of_le_of_lt hcapital.2 (by decide)
  · exact h

theorem ascii_of_lowerAscii {s : String} (h : ∀ c ∈ (lowerAscii s).toList, c.toNat < 128) :
    ∀ c ∈ s.toList, c.toNat < 128 := by
  intro c hc
  refine ascii_of_toLower (h _ ?_)
  rw [lowerAscii, String.toList_ofList]
  exact List.mem_map_of_mem hc

/-! ### Small letters from outside ASCII -/

/-- The character is of ASCII, and is not the small form of the Kelvin sign (U+212A). -/
def IsPlainAscii (c : Char) : Prop := c.toNat < 128 ∧ c ≠ 'k'

instance (c : Char) : Decidable (IsPlainAscii c) := inferInstanceAs (Decidable (_ ∧ _))

theorem not_isPlainAscii_ofNat {n : Nat} (hn : 128 ≤ n) (hvalid : n.isValidChar) :
    ¬IsPlainAscii (Char.ofNat n) := by
  rintro ⟨hascii, -⟩
  rw [Char.ofNat, dif_pos hvalid] at hascii
  exact absurd hascii (Nat.not_lt_of_le hn)

/-- A run covers characters of ASCII alone, or the Kelvin sign alone, or it sends all that it
covers to characters outside ASCII. The last two ranges are those of the code points that are
characters. -/
theorem lowerRuns_cases : ∀ r ∈ lowerRuns,
    r.last < 128 ∨ (r.first = 0x212A ∧ r.last = 0x212A ∧ r.shift = -8383) ∨
      (128 ≤ r.first + r.shift ∧ r.last + r.shift < 0xD800) ∨
      (0xE000 ≤ r.first + r.shift ∧ r.last + r.shift < 0x110000) := by
  decide +kernel

theorem not_isPlainAscii_mapByRuns {c : Char} (hc : 128 ≤ c.toNat) :
    ¬IsPlainAscii (mapByRuns lowerRuns c) := by
  rcases mapByRuns_cases lowerRuns c with ⟨r, hr, hcovers, hmap⟩ | ⟨-, hself⟩
  · obtain ⟨hfirst, hlast, -⟩ := CaseRun.covers_iff.mp hcovers
    have himage := r.image_eq c.toNat
    rw [hmap]
    rcases lowerRuns_cases r hr with hascii | ⟨hkelvin, hkelvin', hshift⟩ | hlow | hhigh
    · omega
    · have hk : r.image c.toNat = 'k'.toNat := by
        have htoNat : 'k'.toNat = 107 := rfl
        omega
      rw [hk]
      exact fun h => h.2 rfl
    · exact not_isPlainAscii_ofNat (by omega) (.inl (by omega))
    · exact not_isPlainAscii_ofNat (by omega) (.inr ⟨by omega, by omega⟩)
  · rw [hself]
    exact fun h => absurd h.1 (Nat.not_lt_of_le hc)

/-- What becomes a sequence keeps something outside ASCII, as the dotted capital I its dot. -/
theorem exists_mem_lowerSequences :
    ∀ entry ∈ lowerSequences, ∃ n ∈ entry.2, 128 ≤ n ∧ n.isValidChar := by
  decide

theorem exists_mem_lowerChar {c : Char} (hc : 128 ≤ c.toNat) :
    ∃ d ∈ lowerChar c, ¬IsPlainAscii d := by
  unfold lowerChar
  rcases mapByTable_cases lowerSequences lowerRuns c with ⟨s, hs, hmap⟩ | ⟨-, hmap⟩
  · rw [hmap]
    obtain ⟨n, hn, hrange, hvalid⟩ := exists_mem_lowerSequences _ hs
    exact ⟨_, List.mem_map_of_mem hn, not_isPlainAscii_ofNat hrange hvalid⟩
  · rw [hmap]
    exact ⟨_, .head _, not_isPlainAscii_mapByRuns hc⟩

theorem not_isPlainAscii_lowerSigma (before after : List Char) :
    ¬IsPlainAscii (lowerSigma before after) := by
  unfold lowerSigma
  split <;> decide

theorem ascii_of_lowerAfter {before s : List Char}
    (h : ∀ d ∈ lowerAfter before s, IsPlainAscii d) : ∀ c ∈ s, c.toNat < 128 := by
  induction s generalizing before with
  | nil => exact List.forall_mem_nil _
  | cons c s ih =>
    rw [lowerAfter, List.forall_mem_append] at h
    obtain ⟨hc, hs⟩ := h
    refine List.forall_mem_cons.mpr ⟨Nat.lt_of_not_le fun hlarge => ?_, ih hs⟩
    split at hc
    · exact not_isPlainAscii_lowerSigma _ _ (hc _ (.head _))
    · obtain ⟨d, hd, hplain⟩ := exists_mem_lowerChar hlarge
      exact hplain (hc d hd)

/-- A text of plain characters of ASCII is the small form of the same texts in all scripts and
in ASCII. -/
theorem lower_eq_iff {s t : String} (ht : ∀ d ∈ t.toList, IsPlainAscii d) :
    lower s = t ↔ lowerAscii s = t := by
  constructor
  · rintro rfl
    rw [lower, String.toList_ofList] at ht
    exact (lower_of_ascii (ascii_of_lowerAfter ht)).symm
  · rintro rfl
    exact lower_of_ascii (ascii_of_lowerAscii fun c hc => (ht c hc).1)

end Text

namespace TextMethod

/-! ### Methods and their functions -/

/-- What every library starts with under the method's name. -/
def function : TextMethod → Callable
  | .startsWith => Callable.startsWith
  | .endsWith => Callable.endsWith
  | .contains => Callable.contains

theorem builtin_find?_name (m : TextMethod) : Library.builtin.find? m.name = some m.function := by
  cases m <;> rfl

/-- The spellings of a method are those with the small letters of its name. -/
theorem ofName?_eq_some_iff {name : String} {m : TextMethod} :
    ofName? name = some m ↔ Text.lowerAscii name = Text.lowerAscii m.name := by
  constructor
  · intro h
    unfold ofName? at h
    split at h
    · next hname => cases h; exact hname
    · next hname => cases h; exact hname
    · next hname => cases h; exact hname
    · cases h
  · intro h
    unfold ofName?
    rw [h]
    cases m <;> rfl

/-- The small letters of all scripts make no other spelling, and exclude none. -/
theorem ofName?_eq_some_iff_lower {name : String} {m : TextMethod} :
    ofName? name = some m ↔ Text.lower name = Text.lower m.name := by
  have hall : (Text.lowerAscii m.name).toList.all (decide <| Text.IsPlainAscii ·) = true := by
    cases m <;> decide
  have hplain : ∀ d ∈ (Text.lowerAscii m.name).toList, Text.IsPlainAscii d := fun d hd =>
    of_decide_eq_true (List.all_eq_true.mp hall d hd)
  rw [ofName?_eq_some_iff, (Text.lower_eq_iff hplain).mpr rfl, Text.lower_eq_iff hplain]

end TextMethod

namespace Library

/-- The methods of texts are still what every library starts with. -/
def KeepsTextMethods (lib : Library) : Prop :=
  ∀ m : TextMethod, lib.find? m.name = builtin.find? m.name

/-- A method of texts, in whatever spelling, is the function that every library starts with. -/
theorem KeepsTextMethods.call {lib : Library} (hlib : lib.KeepsTextMethods) {name : String}
    {m : TextMethod} (hname : TextMethod.ofName? name = some m) (scope : Scope)
    (args : List Value) : lib.call scope name args = m.function scope args := by
  have hfind : lib.find? name = some m.function := by
    rw [← TextMethod.builtin_find?_name, ← hlib m]
    unfold find?
    rw [TextMethod.ofName?_eq_some_iff_lower.mp hname]
  rw [Library.call, hfind]

end Library
end Listing
