import Listing.Text.Search
import Listing.Text.Space

/-! # What is cut off a text

  White space at the ends, the lines, what stands before a character or
  after a word. Each of these is taken back out of a text into which it
  was put: white space that is added at an end is trimmed off again, and
  texts that are joined by a line feed or an equals sign come apart
  there.
-/

namespace Listing.Text

/-! ### White space at the ends -/

/-- There is nothing but white space. -/
def Blank (s : List Char) : Prop := ∀ c ∈ s, isSpace c = true

-- The instances go through the characters at hand; that there are finitely many characters
-- altogether would decide the same, but by going through all of them.
instance (s : List Char) : Decidable (Blank s) := List.decidableBAll (isSpace · = true) s

/-- There is no white space at either end. -/
structure Trimmed (s : List Char) : Prop where
  head : ∀ c ∈ s.head?, isSpace c = false
  last : ∀ c ∈ s.getLast?, isSpace c = false

instance (o : Option Char) : Decidable (∀ c ∈ o, isSpace c = false) :=
  Option.decidableForallMem o

instance (s : List Char) : Decidable (Trimmed s) :=
  decidable_of_iff ((∀ c ∈ s.head?, isSpace c = false) ∧ ∀ c ∈ s.getLast?, isSpace c = false)
    ⟨fun h => ⟨h.1, h.2⟩, fun h => ⟨h.head, h.last⟩⟩

theorem Trimmed.of_forall {s : List Char} (h : ∀ c ∈ s, isSpace c = false) : Trimmed s where
  head := by
    intro c hc
    exact h c (List.mem_of_mem_head? hc)
  last := by
    intro c hc
    exact h c (List.mem_of_getLast? hc)

theorem Blank.reverse {s : List Char} (h : Blank s) : Blank s.reverse := by
  intro c hc
  exact h c (List.mem_reverse.mp hc)

theorem trimStart_append {before : List Char} (hbefore : Blank before) (s : List Char) :
    trimStart (before ++ s) = trimStart s := List.dropWhile_append_of_pos hbefore

theorem trimStart_of_blank {s : List Char} (h : Blank s) : trimStart s = [] := by
  have hnil := trimStart_append h []
  rw [List.append_nil] at hnil
  exact hnil

theorem trimStart_of_head {s : List Char} (h : ∀ c ∈ s.head?, isSpace c = false) :
    trimStart s = s := by
  cases s with
  | nil => rfl
  | cons c s => exact trimStart_cons_of_not_isSpace (h c rfl)

/-- Trimming at the end is trimming at the start, read backwards. -/
theorem trimEnd_eq (s : List Char) : trimEnd s = (trimStart s.reverse).reverse := rfl

theorem trimEnd_append {after : List Char} (hafter : Blank after) (s : List Char) :
    trimEnd (s ++ after) = trimEnd s := by
  rw [trimEnd_eq, List.reverse_append, trimStart_append hafter.reverse, trimEnd_eq]

theorem trimEnd_of_last {s : List Char} (h : ∀ c ∈ s.getLast?, isSpace c = false) :
    trimEnd s = s := by
  rw [trimEnd_eq, trimStart_of_head, List.reverse_reverse]
  rw [List.head?_reverse]
  exact h

theorem trimStart_append_cons {c : Char} (hc : isSpace c = false) (s rest : List Char) :
    trimStart (s ++ c :: rest) = trimStart s ++ c :: rest := by
  induction s with
  | nil => exact trimStart_cons_of_not_isSpace hc
  | cons d s ih =>
    by_cases hd : isSpace d = true
    · rw [List.cons_append, trimStart_cons_of_isSpace hd, trimStart_cons_of_isSpace hd, ih]
    · rw [Bool.not_eq_true] at hd
      rw [List.cons_append, trimStart_cons_of_not_isSpace hd, trimStart_cons_of_not_isSpace hd]
      rfl

/-- A character that is no white space keeps what stands before it. -/
theorem trimEnd_append_cons {c : Char} (hc : isSpace c = false) (s rest : List Char) :
    trimEnd (s ++ c :: rest) = s ++ c :: trimEnd rest := by
  have hreverse : (s ++ c :: rest).reverse = rest.reverse ++ c :: s.reverse := by simp
  rw [trimEnd_eq, hreverse, trimStart_append_cons hc, trimEnd_eq]
  simp

theorem exists_trimEnd_append (s : List Char) : ∃ after, Blank after ∧ s = trimEnd s ++ after := by
  refine ⟨(s.reverse.takeWhile isSpace).reverse, ?_, ?_⟩
  · intro c hc
    exact List.all_eq_true.mp List.all_takeWhile c (List.mem_reverse.mp hc)
  · rw [trimEnd, ← List.reverse_append, List.takeWhile_append_dropWhile, List.reverse_reverse]

theorem trim_append {after : List Char} (hafter : Blank after) (s : List Char) :
    trim (s ++ after) = trim s := by
  have hstart : trimStart (s ++ after) =
      if (trimStart s).isEmpty then trimStart after else trimStart s ++ after :=
    List.dropWhile_append
  rw [trim, hstart, trim]
  split
  · next hblank =>
    rw [trimStart_of_blank hafter, List.isEmpty_iff.mp hblank]
  · exact trimEnd_append hafter _

theorem trim_trimEnd (s : List Char) : trim (trimEnd s) = trim s := by
  obtain ⟨after, hafter, hs⟩ := exists_trimEnd_append s
  have htrim := trim_append hafter (trimEnd s)
  rw [← hs] at htrim
  exact htrim.symm

/-- A text without white space at its ends is what is left when white space is put around it. -/
theorem trim_around {before s after : List Char} (hbefore : Blank before) (hs : Trimmed s)
    (hafter : Blank after) : trim (before ++ (s ++ after)) = s := by
  have hstart : trim (before ++ (s ++ after)) = trim (s ++ after) :=
    congrArg trimEnd (trimStart_append hbefore _)
  rw [hstart, trim_append hafter, trim, trimStart_of_head hs.head, trimEnd_of_last hs.last]

/-- The first character that is no white space ends what is trimmed off at the start. -/
theorem trim_append_cons {before : List Char} {c : Char} (hbefore : Blank before)
    (hc : isSpace c = false) (rest : List Char) :
    trim (before ++ c :: rest) = c :: trimEnd rest := by
  rw [trim, trimStart_append hbefore, trimStart_cons_of_not_isSpace hc]
  exact trimEnd_append_cons hc [] rest

/-- White space is all that is trimmed off, and at the start there is no more of it. -/
theorem exists_trim_append (s : List Char) :
    ∃ before after, Blank before ∧ Blank after ∧ s = before ++ (trim s ++ after) ∧
      ∀ c ∈ (trim s).head?, isSpace c = false := by
  obtain ⟨after, hafter, hstart⟩ := exists_trimEnd_append (trimStart s)
  refine ⟨s.takeWhile isSpace, after, List.all_eq_true.mp List.all_takeWhile, hafter, ?_, ?_⟩
  · rw [trim, ← hstart, trimStart, List.takeWhile_append_dropWhile]
  · intro c hc
    have hfirst : (trimStart s).head? = some c := by
      rw [hstart, List.head?_append]
      exact congrArg (·.or after.head?) hc
    have hnot := List.head?_dropWhile_not isSpace s
    rw [← trimStart, hfirst] at hnot
    exact hnot

theorem trim_eq_nil_iff {s : List Char} : trim s = [] ↔ Blank s := by
  constructor
  · intro h
    obtain ⟨before, after, hbefore, hafter, hs, -⟩ := exists_trim_append s
    rw [h, List.nil_append] at hs
    rw [hs]
    intro c hc
    exact (List.mem_append.mp hc).elim (hbefore c) (hafter c)
  · intro h
    rw [trim, trimStart_of_blank h]
    rfl

/-! ### Lines -/

theorem lines_ne_nil (s : List Char) : lines s ≠ [] := by
  induction s with
  | nil => exact List.cons_ne_nil [] []
  | cons c s ih =>
    rw [lines]
    split
    · exact List.cons_ne_nil [] _
    · rwa [ne_eq, List.modifyHead_eq_nil_iff]

/-- A line feed ends a line, whatever stands before it. -/
theorem lines_append_newline (s rest : List Char) :
    lines (s ++ '\n' :: rest) = lines s ++ lines rest := by
  induction s with
  | nil => exact if_pos rfl
  | cons c s ih =>
    rw [List.cons_append, lines, lines, ih]
    split
    · rfl
    · obtain ⟨l, ls, hl⟩ := List.exists_cons_of_ne_nil (lines_ne_nil s)
      rw [hl]
      rfl

theorem newline_not_mem_of_mem_lines {s l : List Char} (h : l ∈ lines s) : '\n' ∉ l := by
  induction s generalizing l with
  | nil =>
    rw [List.mem_singleton.mp h]
    exact List.not_mem_nil
  | cons c s ih =>
    rw [lines] at h
    split at h
    · rcases List.mem_cons.mp h with rfl | h
      · exact List.not_mem_nil
      · exact ih h
    · next hc =>
      obtain ⟨first, ls, hl⟩ := List.exists_cons_of_ne_nil (lines_ne_nil s)
      rw [hl, List.modifyHead_cons] at h
      rcases List.mem_cons.mp h with rfl | h
      · rw [List.mem_cons, not_or]
        exact ⟨Ne.symm hc, ih (hl ▸ List.mem_cons_self)⟩
      · exact ih (hl ▸ List.mem_cons_of_mem first h)

theorem lines_of_not_mem {s : List Char} (h : '\n' ∉ s) : lines s = [s] := by
  induction s with
  | nil => rfl
  | cons c s ih =>
    rw [List.mem_cons, not_or] at h
    obtain ⟨hc, hs⟩ := h
    rw [lines, if_neg (Ne.symm hc), ih hs]
    rfl

theorem lines_append_cons {s : List Char} (h : '\n' ∉ s) (rest : List Char) :
    lines (s ++ '\n' :: rest) = s :: lines rest := by
  rw [lines_append_newline, lines_of_not_mem h, List.singleton_append]

/-- Lines that are joined by line feeds are the lines of what they make up. -/
theorem lines_intercalate {ls : List (List Char)} (hne : ls ≠ []) (h : ∀ l ∈ ls, '\n' ∉ l) :
    lines (List.intercalate ['\n'] ls) = ls := by
  induction ls with
  | nil => exact absurd rfl hne
  | cons l ls ih =>
    obtain ⟨hl, hls⟩ := List.forall_mem_cons.mp h
    cases ls with
    | nil => rw [List.intercalate_singleton, lines_of_not_mem hl]
    | cons m ls =>
      rw [List.intercalate_cons_cons, List.append_assoc, List.singleton_append,
        lines_append_cons hl, ih (List.cons_ne_nil m ls) hls]

/-! ### Cuts -/

theorem cutAt_append {c : Char} {before : List Char} (h : c ∉ before) (after : List Char) :
    cutAt c (before ++ c :: after) = some (before, after) := by
  induction before with
  | nil => exact if_pos rfl
  | cons d before ih =>
    rw [List.mem_cons, not_or] at h
    obtain ⟨hd, hbefore⟩ := h
    rw [List.cons_append, cutAt, if_neg (Ne.symm hd), ih hbefore]
    rfl

theorem cutAt_eq_none_iff {c : Char} {s : List Char} : cutAt c s = none ↔ c ∉ s := by
  induction s with
  | nil => simp [cutAt]
  | cons d s ih =>
    rw [cutAt, List.mem_cons, not_or]
    split
    · next hd => simp [hd]
    · next hd =>
      rw [Option.map_eq_none_iff, ih]
      exact (and_iff_right (Ne.symm hd)).symm

/-- The cut is at the first place where it can be. -/
theorem cutAt_eq_some_iff {c : Char} {s before after : List Char} :
    cutAt c s = some (before, after) ↔ c ∉ before ∧ s = before ++ c :: after := by
  constructor
  · intro h
    induction s generalizing before with
    | nil => cases h
    | cons d s ih =>
      rw [cutAt] at h
      split at h
      · next hd =>
        cases h
        exact ⟨List.not_mem_nil, by rw [hd, List.nil_append]⟩
      · next hd =>
        obtain ⟨⟨before, after⟩, hcut, heq⟩ := Option.map_eq_some_iff.mp h
        cases heq
        obtain ⟨hbefore, rfl⟩ := ih hcut
        rw [List.mem_cons, not_or]
        exact ⟨⟨Ne.symm hd, hbefore⟩, rfl⟩
  · rintro ⟨hbefore, rfl⟩
    exact cutAt_append hbefore after

theorem dropHead?_eq_some_iff {head s rest : List Char} :
    dropHead? head s = some rest ↔ s = head ++ rest := by
  induction head generalizing s with
  | nil => exact Option.some_inj
  | cons c head ih =>
    cases s with
    | nil => simp [dropHead?]
    | cons d s =>
      rw [dropHead?, List.cons_append, List.cons_eq_cons, ← ih]
      by_cases hcd : c = d
      · rw [if_pos hcd]
        simp [hcd]
      · rw [if_neg hcd]
        simp [Ne.symm hcd]

theorem dropLast?_concat (c : Char) (s : List Char) : dropLast? c (s ++ [c]) = some s := by
  simp [dropLast?]

end Listing.Text
