import Listing.Proofs.Settings.Environment
import Listing.Proofs.Text.Digits
import Listing.Proofs.Wire.RoundTrip
import Listing.Settings.Basic

/-! # Settings read back

  Settings are written as a document or as three assignments of an
  environment. Both are read as the settings that were written, and
  both are then checked: settings whose page size is out of bounds come
  back as the error that names their own numbers.
-/

namespace Listing.Settings

open Environment (Line entriesOf textOf)
open Text (Blank Trimmed digits)

/-! ### Documents -/

instance : Wire.Lawful Settings where
  decode_encode s := by
    refine Option.bind_eq_some_iff.mpr ⟨_, Json.optionalFields?_record (by simp), ?_⟩
    simp [fieldOr, Wire.Lawful.decode_encode]

/-- The document of some settings gives them to the check. -/
theorem ofDocument_serialize (s : Settings) : ofDocument (serialize s) = checked s := by
  rw [ofDocument, deserialize_of_lawful]

/-! ### Words in white space -/

/-- The text is the word, with white space around it or not. -/
def Spells (word : List Char) (raw : String) : Prop :=
  ∃ before after, Blank before ∧ Blank after ∧ raw.toList = before ++ (word ++ after)

theorem Spells.trim_eq {word : List Char} {raw : String} (h : Spells word raw)
    (hword : ∀ c ∈ word, Text.isSpace c = false) : Text.trim raw.toList = word := by
  obtain ⟨before, after, hbefore, hafter, hraw⟩ := h
  rw [hraw]
  exact Text.trim_around hbefore (Trimmed.of_forall hword) hafter

/-- A number in white space is read as that number. -/
theorem numberOr_of_spells {env : Environment} {key raw : String} {n : UInt64}
    (hget : env.get? key = some raw) (hraw : Spells (digits n.toNat) raw) (default : UInt64) :
    numberOr default env key = .ok n := by
  have htrim : Text.trim raw.toList = digits n.toNat := by
    apply hraw.trim_eq
    intro c hc
    exact Text.isSpace_of_isDigit (Text.isDigit_of_mem_digits hc)
  rw [numberOr, hget]
  simp only [htrim, Text.readUnsigned_digits]

/-- The short name of a direction, in capital and small letters. -/
def NamesDirection (d : Direction) (word : List Char) : Prop :=
  word.map Char.toLower = d.text.toList

instance (d : Direction) (word : List Char) : Decidable (NamesDirection d word) :=
  inferInstanceAs (Decidable (_ = _))

theorem NamesDirection.isSpace_eq_false {d : Direction} {word : List Char}
    (h : NamesDirection d word) : ∀ c ∈ word, Text.isSpace c = false := by
  intro c hc
  rw [← Bool.not_eq_true]
  intro hspace
  have hmem : c ∈ d.text.toList := by
    rw [← h, ← Text.toLower_of_isSpace hspace]
    exact List.mem_map_of_mem hc
  have hletters : d.text.toList.all (!Text.isSpace ·) = true := by
    cases d <;> decide
  have hletter := List.all_eq_true.mp hletters c hmem
  rw [hspace] at hletter
  exact Bool.noConfusion hletter

/-- The name of a direction in white space is read as that direction. -/
theorem directionOr_of_spells {env : Environment} {key raw : String} {d : Direction}
    {word : List Char} (hget : env.get? key = some raw) (hword : NamesDirection d word)
    (hraw : Spells word raw) (default : Direction) : directionOr default env key = .ok d := by
  have hlower : Text.lowerAscii (Text.trimString raw) = d.text := by
    rw [Text.lowerAscii, Text.trimString, hraw.trim_eq hword.isSpace_eq_false,
      String.toList_ofList, hword, String.ofList_toList]
  have hread : Direction.read raw = .ok d := by
    rw [Direction.read]
    simp only [hlower]
    cases d <;> rfl
  rw [directionOr, hget]
  simp only [hread]

/-! ### Environments -/

/-- The lines assign the settings: the numbers in decimal and the direction by its short name
in letters of either size, each value with white space around it or not. No name is assigned
twice. -/
structure WrittenIn (s : Settings) (ls : List Line) : Prop where
  distinct : ((entriesOf ls).map Prod.fst).Nodup
  pageSize : ∃ raw, (pageSizeKey, raw) ∈ entriesOf ls ∧ Spells (digits s.pageSize.toNat) raw
  direction : ∃ raw word, (directionKey, raw) ∈ entriesOf ls ∧ NamesDirection s.direction word ∧
    Spells word raw
  maxPageSize : ∃ raw, (maxPageSizeKey, raw) ∈ entriesOf ls ∧
    Spells (digits s.maxPageSize.toNat) raw

/-- An environment into which the settings were loaded gives them to the check, whatever was
in it and whatever settings it overrides. -/
theorem override_load {s : Settings} {ls : List Line} (h : s.WrittenIn ls) (start : Settings)
    (env : Environment) : start.override (env.load (textOf ls)).1 = checked s := by
  obtain ⟨pageRaw, hpageMem, hpage⟩ := h.pageSize
  obtain ⟨directionRaw, word, hdirectionMem, hword, hdirection⟩ := h.direction
  obtain ⟨maxRaw, hmaxMem, hmax⟩ := h.maxPageSize
  have hget : ∀ {key raw}, (key, raw) ∈ entriesOf ls →
      (env.load (textOf ls)).1.get? key = some raw := by
    intro key raw hmem
    rw [Environment.load_lines]
    exact Environment.get?_assign_of_mem h.distinct hmem env
  rw [override, numberOr_of_spells (hget hpageMem) hpage,
    directionOr_of_spells (hget hdirectionMem) hword hdirection,
    numberOr_of_spells (hget hmaxMem) hmax]
  rfl

/-- Settings whose page size is in bounds survive both of their encodings, in a text of any
assignments that spell them and over any settings and environment; with any other page size
both encodings are refused for what is wrong with it. -/
theorem survives_encodings (s : Settings) :
    (1 ≤ s.pageSize ∧ s.pageSize ≤ s.maxPageSize →
      ofDocument (serialize s) = .ok s ∧
      ∀ (start : Settings) (env : Environment) (ls : List Line), s.WrittenIn ls →
        (env.load (textOf ls)).2 = none ∧
        start.override (env.load (textOf ls)).1 = .ok s) ∧
    (¬(1 ≤ s.pageSize ∧ s.pageSize ≤ s.maxPageSize) →
      ofDocument (serialize s) = .error (.invalidPageSize s.pageSize s.maxPageSize) ∧
      ∀ (start : Settings) (env : Environment) (ls : List Line), s.WrittenIn ls →
        (env.load (textOf ls)).2 = none ∧
        start.override (env.load (textOf ls)).1 =
          .error (.invalidPageSize s.pageSize s.maxPageSize)) := by
  have hloads : ∀ (env : Environment) (ls : List Line), (env.load (textOf ls)).2 = none := by
    intro env ls
    rw [Environment.load_lines]
  constructor
  · intro hbounds
    have hchecked : checked s = .ok s := by rw [checked_eq, if_pos hbounds]
    refine ⟨by rw [ofDocument_serialize, hchecked], ?_⟩
    intro start env ls hls
    exact ⟨hloads env ls, by rw [override_load hls, hchecked]⟩
  · intro hbounds
    have hchecked : checked s = .error (.invalidPageSize s.pageSize s.maxPageSize) := by
      rw [checked_eq, if_neg hbounds]
    refine ⟨by rw [ofDocument_serialize, hchecked], ?_⟩
    intro start env ls hls
    exact ⟨hloads env ls, by rw [override_load hls, hchecked]⟩

/-! ### Lines of given settings -/

/-- There are only digits in a written number. -/
theorem not_mem_natText {c : Char} (hc : c.isDigit = false) (n : Nat) :
    c ∉ (Text.natText n).toList := by
  rw [Text.natText, String.toList_ofList]
  intro hmem
  rw [Text.isDigit_of_mem_digits hmem] at hc
  exact Bool.noConfusion hc

theorem isPlain_natText (n : Nat) : Environment.IsPlain (Text.natText n).toList where
  trimmed := by
    rw [Text.natText, String.toList_ofList]
    exact Trimmed.of_forall fun c hc => Text.isSpace_of_isDigit (Text.isDigit_of_mem_digits hc)
  no_double := fun h => not_mem_natText (by decide) n (List.mem_of_mem_head? h)
  no_single := fun h => not_mem_natText (by decide) n (List.mem_of_mem_head? h)

/-- The name of a direction as someone might type it. -/
def typed : Direction → String
  | .ascending => " Asc"
  | .descending => "DESC\t"

/-- The assignments of some settings, each in another style. -/
def lines (s : Settings) : List Line :=
  [ .assignment
      { indent := .none
        exported := some .none
        key := directionKey
        before := .none
        style := .single
        value := typed s.direction
        after := .space
        isName := by decide
        oneLine := by cases s.direction <;> decide
        isPlain := nofun },
    .blank .none,
    .assignment
      { indent := .none
        exported := none
        key := maxPageSizeKey
        before := .tab
        style := .plain
        value := Text.natText s.maxPageSize.toNat
        after := .none
        isName := by decide
        oneLine := not_mem_natText (by decide) _
        isPlain := fun _ => isPlain_natText _ },
    .comment .none " at most as many as the limit".toList (by decide),
    .assignment
      { indent := .space
        exported := none
        key := pageSizeKey
        before := .none
        style := .double
        value := Text.natText s.pageSize.toNat
        after := .none
        isName := by decide
        oneLine := not_mem_natText (by decide) _
        isPlain := nofun } ]

theorem spells_natText (n : Nat) : Spells (digits n) (Text.natText n) := by
  refine ⟨[], [], List.forall_mem_nil _, List.forall_mem_nil _, ?_⟩
  rw [Text.natText, String.toList_ofList, List.nil_append, List.append_nil]

theorem writtenIn_lines (s : Settings) : s.WrittenIn s.lines where
  distinct := by
    show [directionKey, maxPageSizeKey, pageSizeKey].Nodup
    decide
  pageSize := ⟨_, .tail _ (.tail _ (.head _)), spells_natText _⟩
  direction := by
    cases hd : s.direction with
    | ascending =>
      refine ⟨typed .ascending, ['A', 's', 'c'], ?_, by decide, [' '], [], by decide, by decide,
        by decide⟩
      rw [← hd]
      exact .head _
    | descending =>
      refine ⟨typed .descending, ['D', 'E', 'S', 'C'], ?_, by decide, [], ['\t'], by decide,
        by decide, by decide⟩
      rw [← hd]
      exact .head _
  maxPageSize := ⟨_, .tail _ (.head _), spells_natText _⟩

/-- The largest page size and limit are read back over the standard settings; a page of no
records is refused. -/
theorem survives_encodings_at_bounds :
    let largest : Settings := ⟨18446744073709551615, .descending, 18446744073709551615⟩
    let empty : Settings := ⟨0, .ascending, 1000⟩
    (ofDocument (serialize largest) = .ok largest ∧
      ((Environment.load Table.empty (textOf largest.lines)).2 = none ∧
        standard.override (Environment.load Table.empty (textOf largest.lines)).1 = .ok largest)) ∧
    ofDocument (serialize empty) = .error (.invalidPageSize 0 1000) ∧
      ((Environment.load Table.empty (textOf empty.lines)).2 = none ∧
        standard.override (Environment.load Table.empty (textOf empty.lines)).1 =
          .error (.invalidPageSize 0 1000)) := by
  intro largest empty
  obtain ⟨hdocument, hlines⟩ := (survives_encodings largest).1 (by decide)
  obtain ⟨hrefused, hlinesRefused⟩ := (survives_encodings empty).2 (by decide)
  exact ⟨⟨hdocument, hlines standard Table.empty _ (writtenIn_lines largest)⟩, hrefused,
    hlinesRefused standard Table.empty _ (writtenIn_lines empty)⟩

end Listing.Settings
