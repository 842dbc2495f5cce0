import Listing.Proofs.Settings.Lines

/-! # Assignments written as text

  An environment is written as lines: assignments in any order, each of
  them plain or with its value in quotes, with blank lines and comments
  between them. Loading such a text puts every value under its name as
  it was before it was written, whatever it contains, and leaves all
  other names alone.
-/

namespace Listing.Environment

open Text (Blank Trimmed)

/-! ### Written lines -/

/-- White space that ends no line. -/
structure Gap where
  chars : List Char
  blank : Blank chars
  oneLine : '\n' ∉ chars

/-- A name that can stand in front of an equals sign. -/
structure IsName (key : List Char) : Prop where
  ne_nil : key ≠ []
  trimmed : Trimmed key
  oneLine : '\n' ∉ key
  no_equals : '=' ∉ key
  no_comment : key.head? ≠ some '#'
  not_exported : ¬exportWord <+: key

instance (key : List Char) : Decidable (IsName key) :=
  decidable_of_iff (key ≠ [] ∧ Trimmed key ∧ '\n' ∉ key ∧ '=' ∉ key ∧ key.head? ≠ some '#' ∧
      ¬exportWord <+: key)
    ⟨fun ⟨hne, htrimmed, honeLine, hequals, hcomment, hexport⟩ =>
      ⟨hne, htrimmed, honeLine, hequals, hcomment, hexport⟩,
    fun h => ⟨h.ne_nil, h.trimmed, h.oneLine, h.no_equals, h.no_comment, h.not_exported⟩⟩

/-- A value that needs no quotes. -/
structure IsPlain (value : List Char) : Prop where
  trimmed : Trimmed value
  no_double : value.head? ≠ some '"'
  no_single : value.head? ≠ some '\x27'

/-- What stands around a value. -/
inductive Style
  | plain
  | double
  | single

/-- The value with what stands around it. -/
def Style.write : Style → List Char → List Char
  | .plain, value => value
  | .double, value => '"' :: (value ++ ['"'])
  | .single, value => '\x27' :: (value ++ ['\x27'])

/-- A line that gives a value to a name. -/
structure Assignment where
  /-- White space at the start of the line. -/
  indent : Gap
  /-- White space after the word `export`, if that stands in front of the name. -/
  exported : Option Gap
  key : String
  /-- White space in front of the value. -/
  before : Gap
  style : Style
  value : String
  /-- White space at the end of the line. -/
  after : Gap
  isName : IsName key.toList
  oneLine : '\n' ∉ value.toList
  isPlain : style = .plain → IsPlain value.toList

namespace Assignment

/-- What stands in front of the name. -/
def opening (a : Assignment) : List Char :=
  match a.exported with
  | none => []
  | some gap => exportWord ++ gap.chars

/-- What stands in front of the equals sign, without the indentation. -/
def leftSide (a : Assignment) : List Char := a.opening ++ a.key.toList

/-- What stands behind the equals sign. -/
def rightSide (a : Assignment) : List Char :=
  a.before.chars ++ (a.style.write a.value.toList ++ a.after.chars)

/-- The line. -/
def chars (a : Assignment) : List Char :=
  a.indent.chars ++ (a.leftSide ++ '=' :: a.rightSide)

end Assignment

/-- A line without a fault. -/
inductive Line
  | blank (space : Gap)
  | comment (indent : Gap) (remark : List Char) (oneLine : '\n' ∉ remark)
  | assignment (a : Assignment)

namespace Line

/-- The line as it is written. -/
def chars : Line → List Char
  | .blank space => space.chars
  | .comment indent remark _ => indent.chars ++ '#' :: remark
  | .assignment a => a.chars

/-- The name and the value that the line assigns. -/
def entry? : Line → Option (String × String)
  | .assignment a => some (a.key, a.value)
  | _ => none

end Line

/-- The text of some lines. -/
def textOf (lines : List Line) : String :=
  .ofList (List.intercalate ['\n'] (lines.map Line.chars))

/-- The names and values that some lines assign. -/
def entriesOf (lines : List Line) : List (String × String) := lines.filterMap Line.entry?

/-! ### Values in quotes -/

theorem inQuotes?_quoted (q : Char) (value : List Char) :
    inQuotes? q (q :: (value ++ [q])) = some value := by
  rw [inQuotes?, if_pos rfl, Text.dropLast?_concat]

theorem inQuotes?_of_head {q : Char} {s : List Char} (h : s.head? ≠ some q) :
    inQuotes? q s = none := by
  cases s with
  | nil => rfl
  | cons c s =>
    have hc : c ≠ q := fun hcq => h (congrArg some hcq)
    rw [inQuotes?, if_neg hc]

theorem trimmed_quoted {q : Char} (hq : Text.isSpace q = false) (value : List Char) :
    Trimmed (q :: (value ++ [q])) where
  head := by
    intro c hc
    cases hc
    exact hq
  last := by
    intro c hc
    rw [List.getLast?_cons, List.getLast?_append] at hc
    cases hc
    exact hq

/-- A written value in white space is read as the value. -/
theorem unquote_write {style : Style} {value : List Char}
    (hplain : style = .plain → IsPlain value) (before after : Gap) :
    unquote (before.chars ++ (style.write value ++ after.chars)) = value := by
  unfold unquote
  cases style with
  | plain =>
    obtain ⟨htrimmed, hdouble, hsingle⟩ := hplain rfl
    rw [Style.write, Text.trim_around before.blank htrimmed after.blank]
    simp only [inQuotes?_of_head hdouble, inQuotes?_of_head hsingle]
    rfl
  | double =>
    have htrimmed : Trimmed ('"' :: (value ++ ['"'])) := trimmed_quoted (by decide) value
    rw [Style.write, Text.trim_around before.blank htrimmed after.blank]
    simp only [inQuotes?_quoted]
    rfl
  | single =>
    have htrimmed : Trimmed ('\x27' :: (value ++ ['\x27'])) := trimmed_quoted (by decide) value
    have hdouble : ('\x27' :: (value ++ ['\x27'])).head? ≠ some '"' := by simp
    rw [Style.write, Text.trim_around before.blank htrimmed after.blank]
    -- Double quotes are tried first, and there are none at the start.
    simp only [inQuotes?_quoted, inQuotes?_of_head hdouble]
    rfl

/-! ### Lines -/

/-- The line is an assignment in the sense of its reader. -/
theorem Assignment.assigns (a : Assignment) : Assigns a.chars a.key a.value := by
  have hvalue : unquote a.rightSide = a.value.toList := unquote_write a.isPlain a.before a.after
  have htrim : ∀ gap : Gap, Text.trim (gap.chars ++ a.key.toList) = a.key.toList := by
    intro gap
    have htrim := Text.trim_around gap.blank a.isName.trimmed (List.forall_mem_nil _)
    rwa [List.append_nil] at htrim
  unfold chars leftSide opening
  cases a.exported with
  | none =>
    have hfirst : ∀ c ∈ a.key.toList.head?, Text.isSpace c = false ∧ c ≠ '#' := by
      intro c hc
      refine ⟨a.isName.trimmed.head c hc, ?_⟩
      rintro rfl
      exact a.isName.no_comment hc
    have hkey : Text.trim a.key.toList = a.key.toList := htrim ⟨[], by simp [Blank], by simp⟩
    have hne : Text.trim a.key.toList ≠ [] := by rw [hkey]; exact a.isName.ne_nil
    have hassigns : Assigns (a.indent.chars ++ (a.key.toList ++ '=' :: a.rightSide)) _ _ :=
      .plain a.indent.blank hfirst a.isName.not_exported a.isName.no_equals hne
    rwa [hkey, hvalue, String.ofList_toList, String.ofList_toList] at hassigns
  | some gap =>
    have hequals : '=' ∉ gap.chars ++ a.key.toList := by
      rw [List.mem_append, not_or]
      exact ⟨equals_not_mem_of_blank gap.blank, a.isName.no_equals⟩
    have hne : Text.trim (gap.chars ++ a.key.toList) ≠ [] := by
      rw [htrim]
      exact a.isName.ne_nil
    have hassigns : Assigns (a.indent.chars ++
        (exportWord ++ (gap.chars ++ a.key.toList) ++ '=' :: a.rightSide)) _ _ :=
      .exported a.indent.blank hequals hne
    rwa [htrim, hvalue, String.ofList_toList, String.ofList_toList,
      ← List.append_assoc exportWord] at hassigns

namespace Line

theorem readLine_chars (l : Line) : readLine l.chars = .ok l.entry? := by
  cases l with
  | assignment a => exact readLine_of_assigns a.assigns
  | blank space => exact readLine_eq_none_iff.mpr (.inl space.blank)
  | comment indent remark =>
    exact readLine_eq_none_iff.mpr (.inr ⟨indent.chars, remark, indent.blank, rfl⟩)

theorem newline_not_mem_chars (l : Line) : '\n' ∉ l.chars := by
  cases l with
  | blank space => exact space.oneLine
  | comment indent remark hremark => simp [chars, indent.oneLine, hremark]
  | assignment a =>
    have hopening : '\n' ∉ a.opening := by
      unfold Assignment.opening
      cases a.exported with
      | none => simp
      | some gap => simp [exportWord, gap.oneLine]
    have hvalue : '\n' ∉ a.style.write a.value.toList := by
      have honeLine := a.oneLine
      cases a.style <;> simpa [Style.write] using honeLine
    simp [chars, Assignment.chars, Assignment.leftSide, Assignment.rightSide, a.indent.oneLine,
      hopening, a.isName.oneLine, a.before.oneLine, hvalue, a.after.oneLine]

end Line

/-! ### Texts -/

/-- The environment after some entries have been put in, one after another. -/
def assign (env : Environment) (entries : List (String × String)) : Environment :=
  entries.foldl (fun env e => env.insert e.1 e.2) env

/-- Loading written lines puts their entries in, one after another. -/
theorem loadLines_chars (number : Nat) (env : Environment) (ls : List Line) :
    loadLines number env (ls.map Line.chars) = (env.assign (entriesOf ls), none) := by
  induction ls generalizing number env with
  | nil => rfl
  | cons l ls ih =>
    rw [List.map_cons, loadLines, l.readLine_chars]
    cases hentry : l.entry? with
    | none => simp only [ih, entriesOf, List.filterMap_cons, hentry]
    | some e => simp only [ih, entriesOf, List.filterMap_cons, hentry, assign, List.foldl_cons]

/-- A text without a fault is loaded to its end. -/
theorem load_lines (env : Environment) (ls : List Line) :
    env.load (textOf ls) = (env.assign (entriesOf ls), none) := by
  have honeLine : ∀ s ∈ ls.map Line.chars, '\n' ∉ s := by
    intro s hs
    obtain ⟨l, -, rfl⟩ := List.mem_map.mp hs
    exact l.newline_not_mem_chars
  exact (load_joined honeLine env).trans (loadLines_chars 1 env ls)

/-! ### What is then in the environment -/

theorem get?_assign_of_not_mem {entries : List (String × String)} {key : String}
    (h : key ∉ entries.map Prod.fst) (env : Environment) :
    (env.assign entries).get? key = env.get? key := by
  induction entries generalizing env with
  | nil => rfl
  | cons e entries ih =>
    rw [List.map_cons, List.mem_cons, not_or] at h
    rw [assign, List.foldl_cons]
    calc (assign (env.insert e.1 e.2) entries).get? key
      _ = (env.insert e.1 e.2).get? key := ih h.2 _
      _ = env.get? key := by rw [Table.get?_insert, if_neg h.1]

theorem get?_assign_of_mem {entries : List (String × String)} {key value : String}
    (hdistinct : (entries.map Prod.fst).Nodup) (h : (key, value) ∈ entries) (env : Environment) :
    (env.assign entries).get? key = some value := by
  induction entries generalizing env with
  | nil => exact absurd h List.not_mem_nil
  | cons e entries ih =>
    rw [List.map_cons, List.nodup_cons] at hdistinct
    obtain ⟨hfresh, hdistinct⟩ := hdistinct
    rw [assign, List.foldl_cons]
    rcases List.mem_cons.mp h with rfl | htail
    · calc (assign (env.insert key value) entries).get? key
        -- No later entry is under this name.
        _ = (env.insert key value).get? key := get?_assign_of_not_mem hfresh _
        _ = some value := by rw [Table.get?_insert, if_pos rfl]
    · exact ih hdistinct htail _

/-! ### Tables written as text -/

/-- No white space. -/
def Gap.none : Gap := ⟨[], by decide, by decide⟩

/-- One blank. -/
def Gap.space : Gap := ⟨[' '], by decide, by decide⟩

/-- One tab. -/
def Gap.tab : Gap := ⟨['\t'], by decide, by decide⟩

/-- The assignment of a value in double quotes, with nothing around it. -/
def Assignment.quoted (key value : String) (isName : IsName key.toList)
    (oneLine : '\n' ∉ value.toList) : Assignment where
  indent := .none
  exported := none
  key := key
  before := .none
  style := .double
  value := value
  after := .none
  isName := isName
  oneLine := oneLine
  isPlain := nofun

/-- The entry can be written on one line. -/
def Writable (e : String × String) : Prop := IsName e.1.toList ∧ '\n' ∉ e.2.toList

instance (e : String × String) : Decidable (Writable e) := inferInstanceAs (Decidable (_ ∧ _))

theorem exists_entriesOf_eq {entries : List (String × String)} (h : ∀ e ∈ entries, Writable e) :
    ∃ ls, entriesOf ls = entries := by
  induction entries with
  | nil => exact ⟨[], rfl⟩
  | cons e entries ih =>
    obtain ⟨⟨hname, honeLine⟩, hentries⟩ := List.forall_mem_cons.mp h
    obtain ⟨ls, rfl⟩ := ih hentries
    exact ⟨.assignment (.quoted e.1 e.2 hname honeLine) :: ls, rfl⟩

/-- A table whose names can stand in front of an equals sign, and whose values are each on one
line, can be written as a text, and it is got back from every text of its assignments: one line
an entry, in any order, with blank lines and comments between them. Whatever other names there
are keep their values. -/
theorem load_textOf (env : Environment) (m : Table String) (hm : ∀ e ∈ m.entries, Writable e) :
    (∃ ls, entriesOf ls = m.entries) ∧
      ∀ ls, (entriesOf ls).Perm m.entries →
        (env.load (textOf ls)).2 = none ∧
          ∀ key, (env.load (textOf ls)).1.get? key = (m.get? key).or (env.get? key) := by
  refine ⟨exists_entriesOf_eq hm, ?_⟩
  intro ls hls
  rw [load_lines]
  refine ⟨rfl, ?_⟩
  intro key
  have hkeys : ((entriesOf ls).map Prod.fst).Perm m.keys := hls.map Prod.fst
  cases hget : m.get? key with
  | some value =>
    have hmem : (key, value) ∈ entriesOf ls := hls.mem_iff.mpr (Table.mem_of_get? hget)
    exact get?_assign_of_mem (hkeys.nodup_iff.mpr m.nodup_keys) hmem env
  | none =>
    have hnot : key ∉ (entriesOf ls).map Prod.fst := by
      rw [hkeys.mem_iff]
      exact Table.not_mem_keys_of_get? hget
    exact get?_assign_of_not_mem hnot env

/-- A text with quotes, equals signs and number signs in its values and its comments. -/
def thornyLines : List Line :=
  [ .comment .none " QUOTED=\"no\"".toList (by decide),
    .assignment
      { indent := .tab
        exported := some .none
        key := "QUOTED"
        before := .none
        style := .double
        value := " \"a = b\" # \x27c\x27\t"
        after := ⟨[' ', '\r'], by decide, by decide⟩
        isName := by decide
        oneLine := by decide
        isPlain := nofun },
    .blank ⟨[' ', ' '], by decide, by decide⟩,
    .assignment (.quoted "export" "\"" (by decide) (by decide)) ]

/-- Both values of the text are loaded as they were written. -/
theorem load_thornyLines :
    let m : Table String := ⟨[("export", "\""), ("QUOTED", " \"a = b\" # \x27c\x27\t")], by decide⟩
    let env : Environment := Table.empty.insert "HOME" "/"
    textOf thornyLines = "# QUOTED=\"no\"\n\texport QUOTED=\" \"a = b\" # \x27c\x27\t\" \r\n" ++
        "  \nexport=\"\"\"" ∧
      (∀ e ∈ m.entries, Writable e) ∧ (entriesOf thornyLines).Perm m.entries ∧
      (env.load (textOf thornyLines)).2 = none ∧
      ∀ key, (env.load (textOf thornyLines)).1.get? key = (m.get? key).or (env.get? key) := by
  intro m env
  have hwritable : ∀ e ∈ m.entries, Writable e := by decide
  have hperm : (entriesOf thornyLines).Perm m.entries := by decide
  have hload := (load_textOf env m hwritable).2 thornyLines hperm
  exact ⟨by decide, hwritable, hperm, hload⟩

end Listing.Environment
