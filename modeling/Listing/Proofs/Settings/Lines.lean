import Listing.Proofs.Text.Cutting
import Listing.Settings.Environment

/-! # Lines of environment files

  A line is accepted if it is blank, a comment or an assignment. What
  these are is said here by what such a line is made of, from its start
  to its end, and reading a line finds out which of them it is.
-/

namespace Listing.Environment

open Text (Blank)

/-! ### Kinds of lines -/

/-- The line has a number sign in front. -/
def IsComment (line : List Char) : Prop :=
  ∃ indent remark, Blank indent ∧ line = indent ++ '#' :: remark

/-- The line gives the value to the key. What stands before its first equals sign is the key, in
white space, and what stands behind is the value, perhaps in quotes. -/
inductive Assigns : List Char → String → String → Prop
  | plain {indent left right : List Char} (hindent : Blank indent)
      (hfirst : ∀ c ∈ left.head?, Text.isSpace c = false ∧ c ≠ '#')
      (hexport : ¬exportWord <+: left) (hequals : '=' ∉ left) (hkey : Text.trim left ≠ []) :
      Assigns (indent ++ (left ++ '=' :: right)) (.ofList (Text.trim left))
        (.ofList (unquote right))
  /-- The word `export` stands in front of the key. -/
  | exported {indent left right : List Char} (hindent : Blank indent) (hequals : '=' ∉ left)
      (hkey : Text.trim left ≠ []) :
      Assigns (indent ++ (exportWord ++ left ++ '=' :: right)) (.ofList (Text.trim left))
        (.ofList (unquote right))

/-- The line has no fault. -/
def Accepted (line : List Char) : Prop :=
  Blank line ∨ IsComment line ∨ ∃ key value, Assigns line key value

/-! ### What is read from them -/

theorem unquote_append {after : List Char} (hafter : Blank after) (s : List Char) :
    unquote (s ++ after) = unquote s := by
  rw [unquote, Text.trim_append hafter, unquote]

theorem unquote_trimEnd (s : List Char) : unquote (Text.trimEnd s) = unquote s := by
  rw [unquote, Text.trim_trimEnd, unquote]

theorem equals_not_mem_of_blank {s : List Char} (h : Blank s) : '=' ∉ s := by
  intro hmem
  have hspace : Text.isSpace '=' = true := h _ hmem
  revert hspace
  decide

theorem head?_trim_eq_some_iff {line : List Char} {c : Char} (hc : Text.isSpace c = false) :
    (Text.trim line).head? = some c ↔
      ∃ indent rest, Blank indent ∧ line = indent ++ c :: rest := by
  constructor
  · intro h
    obtain ⟨before, after, hbefore, -, hline, -⟩ := Text.exists_trim_append line
    obtain ⟨rest, hrest⟩ := List.head?_eq_some_iff.mp h
    refine ⟨before, rest ++ after, hbefore, ?_⟩
    rw [hline, hrest, List.cons_append]
  · rintro ⟨indent, rest, hindent, rfl⟩
    rw [Text.trim_append_cons hindent hc, List.head?_cons]

/-- Nothing is read from blank lines and comments. -/
theorem readLine_eq_none_iff {line : List Char} :
    readLine line = .ok none ↔ Blank line ∨ IsComment line := by
  have hcomment : IsComment line ↔ (Text.trim line).head? = some '#' :=
    (head?_trim_eq_some_iff (by decide)).symm
  rw [hcomment, ← Text.trim_eq_nil_iff]
  unfold readLine
  dsimp only
  constructor
  · intro h
    split at h
    · next hskip => simpa using hskip
    · split at h
      · cases h
      · split at h <;> cases h
  · intro h
    exact if_pos (by simpa using h)

/-- A line with an equals sign behind `front` is read from `front` on. What is left of that
without the word `export` is the key. -/
theorem readLine_of_front {indent front left right : List Char} (hindent : Blank indent)
    (hne : front ≠ []) (hfirst : ∀ c ∈ front.head?, Text.isSpace c = false ∧ c ≠ '#')
    (hdrop : ∀ rest, (Text.dropHead? exportWord (front ++ '=' :: rest)).getD
      (front ++ '=' :: rest) = left ++ '=' :: rest)
    (hequals : '=' ∉ left) (hkey : Text.trim left ≠ []) :
    readLine (indent ++ (front ++ '=' :: right)) =
      .ok (some (.ofList (Text.trim left), .ofList (unquote right))) := by
  obtain ⟨c, rest, rfl⟩ := List.exists_cons_of_ne_nil hne
  obtain ⟨hspace, hcomment⟩ := hfirst c rfl
  have htrim : Text.trim (indent ++ (c :: rest ++ '=' :: right)) =
      c :: rest ++ '=' :: Text.trimEnd right := by
    rw [List.cons_append, Text.trim_append_cons hindent hspace,
      Text.trimEnd_append_cons (by decide)]
    rfl
  have hskip : ((c :: rest ++ '=' :: Text.trimEnd right).isEmpty ||
      (c :: rest ++ '=' :: Text.trimEnd right).head? == some '#') = false := by
    simp [hcomment]
  unfold readLine
  simp only [htrim, hskip, hdrop, Text.cutAt_append hequals, unquote_trimEnd]
  simp [hkey]

theorem dropHead?_exportWord_eq_none {left : List Char} (h : ¬exportWord <+: left)
    (rest : List Char) : Text.dropHead? exportWord (left ++ '=' :: rest) = none := by
  rw [Option.eq_none_iff_forall_ne_some]
  intro tail htail
  rw [Text.dropHead?_eq_some_iff, List.append_eq_append_iff] at htail
  rcases htail with ⟨tail, hword, hrest⟩ | ⟨tail, hleft, -⟩
  · cases tail with
    | nil =>
      rw [List.append_nil] at hword
      exact h (hword ▸ List.prefix_rfl)
    | cons c tail =>
      -- The equals sign is none of the characters of the word.
      obtain ⟨rfl, -⟩ := List.cons_eq_cons.mp hrest
      have hmem : '=' ∈ exportWord := by rw [hword]; simp
      revert hmem
      decide
  · exact h ⟨tail, hleft.symm⟩

theorem readLine_of_assigns {line : List Char} {key value : String} (h : Assigns line key value) :
    readLine line = .ok (some (key, value)) := by
  cases h with
  | @plain indent left right hindent hfirst hexport hequals hkey =>
    have hne : left ≠ [] := by
      rintro rfl
      exact hkey rfl
    refine readLine_of_front hindent hne hfirst ?_ hequals hkey
    intro rest
    rw [dropHead?_exportWord_eq_none hexport, Option.getD_none]
  | @exported indent left right hindent hequals hkey =>
    have hfirst : ∀ c ∈ (exportWord ++ left).head?, Text.isSpace c = false ∧ c ≠ '#' := by
      intro c hc
      cases hc
      decide
    refine readLine_of_front hindent (List.cons_ne_nil _ _) hfirst ?_ hequals hkey
    intro rest
    have hdrop : Text.dropHead? exportWord (exportWord ++ left ++ '=' :: rest) =
        some (left ++ '=' :: rest) :=
      Text.dropHead?_eq_some_iff.mpr (List.append_assoc _ _ _)
    rw [hdrop, Option.getD_some]

theorem assigns_of_readLine {line : List Char} {key value : String}
    (h : readLine line = .ok (some (key, value))) : Assigns line key value := by
  obtain ⟨indent, after, hindent, hafter, hline, hspace⟩ := Text.exists_trim_append line
  unfold readLine at h
  dsimp only at h
  split at h
  · cases h
  · next hskip =>
    split at h
    · cases h
    · next left right hcut =>
      split at h
      · cases h
      · next hkey =>
        cases h
        obtain ⟨hequals, hleft⟩ := Text.cutAt_eq_some_iff.mp hcut
        have hkey' : Text.trim left ≠ [] := by simpa using hkey
        rw [← unquote_append hafter right]
        cases hdrop : Text.dropHead? exportWord (Text.trim line) with
        | some rest =>
          rw [hdrop, Option.getD_some] at hleft
          rw [Text.dropHead?_eq_some_iff, hleft] at hdrop
          have hwhole : line = indent ++ (exportWord ++ left ++ '=' :: (right ++ after)) := by
            rw [hline, hdrop]
            simp only [List.append_assoc, List.cons_append]
          rw [hwhole]
          exact .exported hindent hequals hkey'
        | none =>
          rw [hdrop, Option.getD_none] at hleft
          have hwhole : line = indent ++ (left ++ '=' :: (right ++ after)) := by
            rw [hline, hleft]
            simp only [List.append_assoc, List.cons_append]
          rw [hwhole]
          refine .plain hindent ?_ ?_ hequals hkey'
          · intro c hc
            have hfirst : (Text.trim line).head? = some c := by
              rw [hleft, List.head?_append, Option.mem_def.mp hc, Option.some_or]
            refine ⟨hspace c hfirst, ?_⟩
            rintro rfl
            exact hskip (by simp [hfirst])
          · rintro ⟨rest, hrest⟩
            have hsome : Text.dropHead? exportWord (Text.trim line) =
                some (rest ++ '=' :: right) := by
              rw [Text.dropHead?_eq_some_iff, hleft, ← hrest, List.append_assoc]
            rw [hdrop] at hsome
            cases hsome

theorem readLine_eq_some_iff {line : List Char} {key value : String} :
    readLine line = .ok (some (key, value)) ↔ Assigns line key value :=
  ⟨assigns_of_readLine, readLine_of_assigns⟩

/-! ### Faulty lines -/

theorem equals_mem_trim_iff {line : List Char} : '=' ∈ Text.trim line ↔ '=' ∈ line := by
  obtain ⟨before, after, hbefore, hafter, hline, -⟩ := Text.exists_trim_append line
  have hmem : '=' ∈ before ++ (Text.trim line ++ after) ↔ '=' ∈ Text.trim line := by
    simp [equals_not_mem_of_blank hbefore, equals_not_mem_of_blank hafter]
  rw [← hmem, ← hline]

theorem equals_mem_dropHead_iff {line : List Char} :
    '=' ∈ (Text.dropHead? exportWord line).getD line ↔ '=' ∈ line := by
  cases hdrop : Text.dropHead? exportWord line with
  | none => rfl
  | some rest =>
    have hword : '=' ∉ exportWord := by decide
    rw [Text.dropHead?_eq_some_iff.mp hdrop, List.mem_append, or_iff_right hword,
      Option.getD_some]

/-- What is wrong with a line that is not accepted: with an equals sign it wants a key, and without
one it is no assignment at all. -/
def faultOf (line : List Char) : LineFault := if '=' ∈ line then .emptyKey else .malformed

theorem fault_of_readLine {line : List Char} {fault : LineFault}
    (h : readLine line = .error fault) : fault = faultOf line := by
  have hequals : '=' ∈ (Text.dropHead? exportWord (Text.trim line)).getD (Text.trim line) ↔
      '=' ∈ line := equals_mem_dropHead_iff.trans equals_mem_trim_iff
  unfold readLine at h
  dsimp only at h
  split at h
  · cases h
  · split at h
    · next hcut =>
      cases h
      rw [faultOf, if_neg (mt hequals.mpr (Text.cutAt_eq_none_iff.mp hcut))]
    · next before after hcut =>
      split at h
      · cases h
        obtain ⟨-, hline⟩ := Text.cutAt_eq_some_iff.mp hcut
        rw [faultOf, if_pos (hequals.mp (by simp [hline]))]
      · cases h

/-- A line is accepted if and only if it is read. -/
theorem accepted_iff {line : List Char} :
    Accepted line ↔ ∃ found, readLine line = .ok found := by
  unfold Accepted
  rw [← or_assoc, ← readLine_eq_none_iff]
  simp only [← readLine_eq_some_iff]
  constructor
  · rintro (h | ⟨key, value, h⟩)
    · exact ⟨none, h⟩
    · exact ⟨some (key, value), h⟩
  · rintro ⟨_ | ⟨key, value⟩, h⟩
    · exact .inl h
    · exact .inr ⟨key, value, h⟩

theorem not_accepted_iff {line : List Char} :
    ¬Accepted line ↔ readLine line = .error (faultOf line) := by
  rw [accepted_iff]
  cases h : readLine line with
  | ok found => simp
  | error fault => simp [fault_of_readLine h]

/-! ### Texts -/

/-- The text that the lines make up. -/
def joined (ls : List (List Char)) : String := .ofList (List.intercalate ['\n'] ls)

/-- What is loaded from a text comes from its lines. No lines are an empty text, which is one blank
line. -/
theorem load_joined {ls : List (List Char)} (h : ∀ line ∈ ls, '\n' ∉ line) (env : Environment) :
    env.load (joined ls) = loadLines 1 env ls := by
  rw [load, joined, String.toList_ofList]
  cases ls with
  | nil => rfl
  | cons line ls => rw [Text.lines_intercalate (List.cons_ne_nil line ls) h]

end Listing.Environment
