import Listing.Proofs.Settings.Lines

/-! # Loading line by line

  A text is loaded one line after another, and each line sees the
  environment that the lines before it have left. So a text in two
  parts is loaded like its parts, the last assignment of a key counts,
  and a faulty line ends the loading where it stands: what comes before
  it has been loaded, and what comes after it is as good as missing.
-/

namespace Listing.Environment

variable {env : Environment} {line : List Char} {ls before after : List (List Char)}
  {number : Nat} {key value : String}

/-! ### One line -/

/-- The environment after a line with the given entry. -/
def withEntry (env : Environment) : Option (String × String) → Environment
  | none => env
  | some (key, value) => env.insert key value

theorem loadLines_cons_of_ok {found : Option (String × String)}
    (h : readLine line = .ok found) (number : Nat) (env : Environment)
    (rest : List (List Char)) :
    loadLines number env (line :: rest) = loadLines (number + 1) (env.withEntry found) rest := by
  rw [loadLines, h]
  cases found <;> rfl

theorem loadLines_cons_of_fault (h : ¬Accepted line) (number : Nat) (env : Environment)
    (rest : List (List Char)) :
    loadLines number env (line :: rest) = (env, some (.line number (faultOf line))) := by
  rw [loadLines, not_accepted_iff.mp h]

/-- A line leaves a key alone unless it assigns it. -/
theorem get?_withEntry {found : Option (String × String)} (h : readLine line = .ok found)
    (hnot : ∀ value, ¬Assigns line key value) (env : Environment) :
    (env.withEntry found).get? key = env.get? key := by
  cases found with
  | none => rfl
  | some e =>
    obtain ⟨k, v⟩ := e
    have hne : key ≠ k := by
      rintro rfl
      exact hnot v (assigns_of_readLine h)
    exact (Table.get?_insert _ _ _ _).trans (if_neg hne)

/-! ### Line after line -/

theorem loadLines_append (h : ∀ line ∈ before, Accepted line) (number : Nat) (env : Environment)
    (rest : List (List Char)) :
    loadLines number env (before ++ rest) =
      loadLines (number + before.length) (loadLines number env before).1 rest := by
  induction before generalizing number env with
  | nil => rfl
  | cons line before ih =>
    obtain ⟨hline, hbefore⟩ := List.forall_mem_cons.mp h
    obtain ⟨found, hread⟩ := accepted_iff.mp hline
    rw [List.cons_append, loadLines_cons_of_ok hread, loadLines_cons_of_ok hread, ih hbefore,
      List.length_cons, Nat.add_assoc, Nat.add_comm 1]

theorem loadLines_eq_none_iff :
    (loadLines number env ls).2 = none ↔ ∀ line ∈ ls, Accepted line := by
  induction ls generalizing number env with
  | nil => simp [loadLines]
  | cons line ls ih =>
    rw [List.forall_mem_cons]
    by_cases hline : Accepted line
    · obtain ⟨found, hread⟩ := accepted_iff.mp hline
      rw [loadLines_cons_of_ok hread, ih]
      exact (and_iff_right hline).symm
    · rw [loadLines_cons_of_fault hline]
      exact iff_of_false nofun fun h => hline h.1

/-- The number of the first line is for messages only. -/
theorem loadLines_fst (m n : Nat) (env : Environment) (ls : List (List Char)) :
    (loadLines m env ls).1 = (loadLines n env ls).1 := by
  induction ls generalizing m n env with
  | nil => rfl
  | cons line ls ih =>
    by_cases hline : Accepted line
    · obtain ⟨found, hread⟩ := accepted_iff.mp hline
      rw [loadLines_cons_of_ok hread, loadLines_cons_of_ok hread]
      exact ih (m + 1) (n + 1) _
    · rw [loadLines_cons_of_fault hline, loadLines_cons_of_fault hline]

/-! ### The last assignment -/

/-- One of the lines gives the value to the key, and no line after it assigns the key again. -/
def AssignsLast (ls : List (List Char)) (key value : String) : Prop :=
  ∃ before line after, ls = before ++ line :: after ∧ Assigns line key value ∧
    ∀ later ∈ after, ∀ value, ¬Assigns later key value

theorem get?_loadLines_of_not_assigns (h : ∀ line ∈ ls, ∀ value, ¬Assigns line key value)
    (number : Nat) (env : Environment) :
    (loadLines number env ls).1.get? key = env.get? key := by
  induction ls generalizing number env with
  | nil => rfl
  | cons line ls ih =>
    obtain ⟨hnot, hls⟩ := List.forall_mem_cons.mp h
    by_cases hline : Accepted line
    · obtain ⟨found, hread⟩ := accepted_iff.mp hline
      rw [loadLines_cons_of_ok hread, ih hls, get?_withEntry hread hnot]
    · rw [loadLines_cons_of_fault hline]

theorem get?_loadLines_of_assignsLast (haccepted : ∀ line ∈ ls, Accepted line)
    (h : AssignsLast ls key value) (number : Nat) (env : Environment) :
    (loadLines number env ls).1.get? key = some value := by
  obtain ⟨before, line, after, rfl, hassigns, hafter⟩ := h
  have hbefore : ∀ line ∈ before, Accepted line := fun line hline =>
    haccepted line (List.mem_append_left _ hline)
  rw [loadLines_append hbefore, loadLines_cons_of_ok (readLine_of_assigns hassigns),
    get?_loadLines_of_not_assigns hafter]
  exact (Table.get?_insert _ _ _ _).trans (if_pos rfl)

/-! ### The first fault -/

theorem loadLines_of_fault (hbefore : ∀ line ∈ before, Accepted line) (hline : ¬Accepted line)
    (number : Nat) (env : Environment) (after : List (List Char)) :
    loadLines number env (before ++ line :: after) =
      ((loadLines number env before).1, some (.line (number + before.length) (faultOf line))) := by
  rw [loadLines_append hbefore, loadLines_cons_of_fault hline]

theorem exists_first_fault (h : ¬∀ line ∈ ls, Accepted line) :
    ∃ before line after, ls = before ++ line :: after ∧ (∀ line ∈ before, Accepted line) ∧
      ¬Accepted line := by
  induction ls with
  | nil => exact absurd (List.forall_mem_nil _) h
  | cons line ls ih =>
    by_cases hline : Accepted line
    · have hls : ¬∀ line ∈ ls, Accepted line := fun hls =>
        h (List.forall_mem_cons.mpr ⟨hline, hls⟩)
      obtain ⟨before, faulty, after, rfl, hbefore, hfaulty⟩ := ih hls
      exact ⟨line :: before, faulty, after, rfl, List.forall_mem_cons.mpr ⟨hline, hbefore⟩, hfaulty⟩
    · exact ⟨[], line, ls, rfl, List.forall_mem_nil _, hline⟩

/-! ### Texts -/

theorem load_append {a : String} (ha : (env.load a).2 = none) (b : String) :
    env.load (a ++ "\n" ++ b) =
      loadLines (1 + (Text.lines a.toList).length) (env.load a).1 (Text.lines b.toList) := by
  have hlines : Text.lines (a ++ "\n" ++ b).toList =
      Text.lines a.toList ++ Text.lines b.toList := by
    rw [String.toList_append, String.toList_append, List.append_assoc]
    exact Text.lines_append_newline _ _
  rw [load, hlines]
  exact loadLines_append (loadLines_eq_none_iff.mp ha) 1 env _

/-- Where the first fault is, loading ends. -/
theorem load_of_fault {text : String} (hlines : Text.lines text.toList = before ++ line :: after)
    (hbefore : ∀ line ∈ before, Accepted line) (hline : ¬Accepted line) (env : Environment) :
    env.load text =
      ((loadLines 1 env before).1, some (.line (before.length + 1) (faultOf line))) := by
  rw [load, hlines, loadLines_of_fault hbefore hline, Nat.add_comm]

theorem exists_fault_of_load {text : String} {fault : FileFault}
    (h : (env.load text).2 = some fault) :
    ∃ before line after, Text.lines text.toList = before ++ line :: after ∧
      (∀ line ∈ before, Accepted line) ∧ ¬Accepted line := by
  refine exists_first_fault fun haccepted => ?_
  have hnone : (env.load text).2 = none := loadLines_eq_none_iff.mpr haccepted
  rw [hnone] at h
  cases h

/-- Loading a text that is accepted and then another one is loading both with a line feed between
them. A text is loaded without a fault exactly if all of its lines are blank, comments or
assignments with a key; then every key has the value of its last assignment, and without one
the value that it had. A fault has the number of the first line that is none of these, counted
from 1, and the lines before it are what has been loaded; so has any text that begins with the
same lines up to this one the same fault and leaves the same. -/
theorem load_line_by_line (env : Environment) :
    (∀ a b : String, (env.load a).2 = none →
      ((env.load (a ++ "\n" ++ b)).2 = none ↔ ((env.load a).1.load b).2 = none) ∧
        (env.load (a ++ "\n" ++ b)).1 = ((env.load a).1.load b).1) ∧
    (∀ text, (env.load text).2 = none ↔ ∀ line ∈ Text.lines text.toList, Accepted line) ∧
    (∀ text key, (env.load text).2 = none →
      (∀ value, AssignsLast (Text.lines text.toList) key value →
        (env.load text).1.get? key = some value) ∧
      ((∀ line ∈ Text.lines text.toList, ∀ value, ¬Assigns line key value) →
        (env.load text).1.get? key = env.get? key)) ∧
    ∀ text fault, (env.load text).2 = some fault →
      ∃ before line after, Text.lines text.toList = before ++ line :: after ∧
        (∀ line ∈ before, Accepted line) ∧ ¬Accepted line ∧
        fault = .line (before.length + 1) (faultOf line) ∧
        env.load (joined before) = ((env.load text).1, none) ∧
        ∀ text' : String, before ++ [line] <+: Text.lines text'.toList →
          env.load text' = env.load text := by
  refine ⟨?_, fun text => loadLines_eq_none_iff, ?_, ?_⟩
  · intro a b ha
    rw [load_append ha]
    exact ⟨loadLines_eq_none_iff.trans loadLines_eq_none_iff.symm, loadLines_fst _ 1 _ _⟩
  · intro text key htext
    have haccepted := loadLines_eq_none_iff.mp htext
    exact ⟨fun value hlast => get?_loadLines_of_assignsLast haccepted hlast 1 env,
      fun hnot => get?_loadLines_of_not_assigns hnot 1 env⟩
  · intro text fault hfault
    obtain ⟨before, line, after, hlines, hbefore, hline⟩ := exists_fault_of_load hfault
    have htext := load_of_fault hlines hbefore hline env
    refine ⟨before, line, after, hlines, hbefore, hline, ?_, ?_, ?_⟩
    · rw [htext] at hfault
      exact (Option.some.inj hfault).symm
    · have honeLine : ∀ line ∈ before, '\n' ∉ line := fun l hl =>
        Text.newline_not_mem_of_mem_lines (hlines ▸ List.mem_append_left _ hl)
      rw [load_joined honeLine, htext]
      exact Prod.ext rfl (loadLines_eq_none_iff.mpr hbefore)
    · rintro text' ⟨after', hlines'⟩
      rw [List.append_assoc] at hlines'
      rw [htext]
      exact load_of_fault hlines'.symm hbefore hline env

/-- The fourth of five lines has no key: the two assignments before it have been loaded, and the one
after it has not. -/
theorem load_line_by_line_of_missing_key :
    let env : Environment := Table.empty.insert "B" "0"
    let text := "A=1\n# A=2\nexport A = \x273\x27\n = 4\nB=5"
    (env.load text).2 = some (.line 4 .emptyKey) ∧
      (env.load text).1.get? "A" = some "3" ∧ (env.load text).1.get? "B" = some "0" ∧
      ∃ before, before.length = 3 ∧ env.load (joined before) = ((env.load text).1, none) := by
  intro env text
  have hfault : (env.load text).2 = some (.line 4 .emptyKey) := by decide
  refine ⟨hfault, by decide, by decide, ?_⟩
  obtain ⟨-, -, -, hfirst⟩ := load_line_by_line env
  obtain ⟨before, line, after, -, -, -, hnumber, hbefore, -⟩ := hfirst text _ hfault
  injection hnumber with hlength
  exact ⟨before, by omega, hbefore⟩

end Listing.Environment
