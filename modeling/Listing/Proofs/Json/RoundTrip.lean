import Listing.Json.Reader
import Listing.Json.Writer
import Listing.Proofs.Text.Digits

/-! # Documents read back

  The document of a JSON value is read as that value. A reader takes
  its part from the front of a text and hands on the rest, so every
  statement here speaks of what is written and of any text behind it.
  Only a number depends on what follows, which must not go on with a
  digit, a point or an exponent; in a document a comma, a bracket or
  nothing at all follows.
-/

namespace Listing.Json

/-! ### Texts -/

/-- How a character of a text is read back: a control character without a letter of its own is
escaped by its number. -/
def piece (c : Char) : Piece :=
  if c.toNat < 0x20 ∧ c ∉ ['\x08', '\x0c', '\n', '\r', '\t'] then .unit c.toNat else .char c

theorem hexDigit?_digitChar : ∀ n < 16, hexDigit? (Nat.digitChar n) = some n := by decide

/-- One character, escaped or not, is one piece. -/
theorem readPieces_escape (c : Char) (s : List Char) :
    readPieces (escape c ++ s) = (readPieces s).map fun (ps, rest) => (piece c :: ps, rest) := by
  unfold escape
  by_cases hquote : c = '"'
  · subst hquote; rfl
  by_cases hslash : c = '\\'
  · subst hslash; rfl
  by_cases hback : c = '\x08'
  · subst hback; rfl
  by_cases hform : c = '\x0c'
  · subst hform; rfl
  by_cases hline : c = '\n'
  · subst hline; rfl
  by_cases hreturn : c = '\r'
  · subst hreturn; rfl
  by_cases htab : c = '\t'
  · subst htab; rfl
  rw [if_neg hquote, if_neg hslash, if_neg hback, if_neg hform, if_neg hline, if_neg hreturn,
    if_neg htab]
  by_cases hcontrol : c.toNat < 0x20
  · have hhigh := hexDigit?_digitChar (c.toNat / 16) (by omega)
    have hlow := hexDigit?_digitChar (c.toNat % 16) (by omega)
    have hunit : hexUnit? '0' '0' (Nat.digitChar (c.toNat / 16)) (Nat.digitChar (c.toNat % 16)) =
        some c.toNat := by
      have hvalue : 4096 * 0 + 256 * 0 + 16 * (c.toNat / 16) + c.toNat % 16 = c.toNat := by omega
      unfold hexUnit?
      rw [hhigh, hlow]
      exact congrArg some hvalue
    have hpiece : piece c = .unit c.toNat := by
      simp [piece, hcontrol, hback, hform, hline, hreturn, htab]
    rw [if_pos hcontrol, hpiece]
    show (do let n ← hexUnit? _ _ _ _; _) = _
    rw [hunit]
    rfl
  · have hpiece : piece c = .char c := by simp [piece, hcontrol]
    rw [if_neg hcontrol, hpiece, List.singleton_append]
    rw [readPieces.eq_def]
    split
    · next heq => injection heq with heq; exact absurd heq hquote
    · next heq => injection heq with heq; exact absurd heq hslash
    · next heq => injection heq with heq; exact absurd heq hslash
    · next heq =>
      injection heq with hhead htail
      subst hhead htail
      rw [if_neg hcontrol]
    · next heq => cases heq

/-- No escaped control character is half of a surrogate pair. -/
theorem joinPieces_piece (c : Char) (ps : List Piece) :
    joinPieces (piece c :: ps) = (joinPieces ps).map (c :: ·) := by
  unfold piece
  split
  · next hcontrol =>
    have hhigh : isHighSurrogate c.toNat = false := by
      simp only [isHighSurrogate, Bool.and_eq_false_iff, decide_eq_false_iff_not]
      omega
    have hlow : isLowSurrogate c.toNat = false := by
      simp only [isLowSurrogate, Bool.and_eq_false_iff, decide_eq_false_iff_not]
      omega
    rw [joinPieces.eq_def]
    simp only [hhigh, hlow, Char.ofNat_toNat, Bool.false_eq_true, if_false]
  · rfl

theorem readPieces_flatMap (s rest : List Char) :
    readPieces (s.flatMap escape ++ '"' :: rest) = some (s.map piece, rest) := by
  induction s with
  | nil => rfl
  | cons c s ih =>
    rw [List.flatMap_cons, List.append_assoc, readPieces_escape, ih]
    rfl

theorem joinPieces_map (s : List Char) : joinPieces (s.map piece) = some s := by
  induction s with
  | nil => rfl
  | cons c s ih =>
    rw [List.map_cons, joinPieces_piece, ih]
    rfl

/-- The text of which nothing is known is half of a surrogate pair. -/
theorem readText_unknown (rest : List Char) :
    readText (['\\', 'u', 'd', '8', '0', '0', '"'] ++ rest) = some (none, rest) := by
  have hunit : hexUnit? 'd' '8' '0' '0' = some 0xD800 := by decide
  have hjoin : joinPieces [.unit 0xD800] = none := by decide
  simp [readText, readPieces, hunit, hjoin]

/-- A text is read back from behind its opening quote, whether or not it is known. -/
theorem readText_writeText (text : Option String) (rest : List Char) :
    ∃ body, writeText text = '"' :: body ∧ readText (body ++ rest) = some (text, rest) := by
  cases text with
  | none => exact ⟨_, rfl, readText_unknown rest⟩
  | some s =>
    refine ⟨s.toList.flatMap escape ++ ['"'], rfl, ?_⟩
    unfold readText
    rw [List.append_assoc, List.singleton_append, readPieces_flatMap]
    show some ((joinPieces (s.toList.map piece)).map String.ofList, rest) = _
    rw [joinPieces_map, Option.map_some, String.ofList_toList]

/-! ### Numbers -/

/-- What may follow a value in a document: nothing, a comma or a closing bracket. -/
def Follows (rest : List Char) : Prop := ∀ c ∈ rest.head?, c = ',' ∨ c = ']' ∨ c = '}'

theorem follows_nil : Follows [] := by
  intro c hc
  cases hc

theorem Follows.endsDigits {rest : List Char} (h : Follows rest) : Text.EndsDigits rest := by
  intro c hc
  rcases h c hc with rfl | rfl | rfl <;> decide

/-- Neither a fraction nor an exponent follows a value. -/
theorem Follows.skip {rest : List Char} (h : Follows rest) :
    skipFraction rest = some rest ∧ skipExponent rest = some rest := by
  cases rest with
  | nil => exact ⟨rfl, rfl⟩
  | cons c rest => rcases h c rfl with rfl | rfl | rfl <;> exact ⟨rfl, rfl⟩

theorem takeDigits_digits (n : Nat) {rest : List Char} (h : Text.EndsDigits rest) :
    takeDigits (Text.digits n ++ rest) = some (Text.digits n, rest) := by
  have htake : (Text.digits n ++ rest).takeWhile Char.isDigit = Text.digits n :=
    Text.takeWhile_isDigit_append (fun _ hc => Text.isDigit_of_mem_digits hc) h
  unfold takeDigits
  simp only [htake, List.isEmpty_iff, Text.digits_ne_nil, if_false, List.drop_left]

/-- The digits of a number are read as the number; only for zero the sign must be none. -/
theorem readUnsigned_digits (negative : Bool) (n : Nat) {rest : List Char} (h : Follows rest)
    (hzero : negative = true → n ≠ 0) :
    readUnsigned negative (Text.digits n ++ rest) =
      some (.int (if negative then -(n : Int) else n), rest) := by
  obtain ⟨hfraction, hexponent⟩ := h.skip
  have hlead : ¬((Text.digits n).head? = some '0' ∧ (Text.digits n).length ≠ 1) := by
    rintro ⟨hhead, hlength⟩
    rw [Text.eq_zero_of_head?_digits hhead] at hlength
    exact hlength rfl
  have hsign : ¬(rest.length ≠ rest.length ∨ (negative ∧ n = 0)) := by
    rintro (hne | ⟨hnegative, hn⟩)
    · exact hne rfl
    · exact hzero hnegative hn
  unfold readUnsigned
  rw [takeDigits_digits n h.endsDigits]
  simp only [Option.bind_eq_bind, Option.bind_some, if_neg hlead, hfraction, hexponent,
    Text.ofDigitChars_digits, if_neg hsign]

theorem readNumber_writeInt (n : Int) {rest : List Char} (h : Follows rest) :
    readNumber (writeInt n ++ rest) = some (.int n, rest) := by
  unfold writeInt
  by_cases hn : n < 0
  · have hne : n.natAbs ≠ 0 := by omega
    have habs : -(n.natAbs : Int) = n := by omega
    rw [if_pos hn]
    show readUnsigned true (Text.digits n.natAbs ++ rest) = _
    rw [readUnsigned_digits true n.natAbs h fun _ => hne, if_pos rfl, habs]
  · have habs : (n.natAbs : Int) = n := by omega
    have hread := readUnsigned_digits false n.natAbs h (by simp)
    rw [if_neg hn]
    -- The digits start with a digit, so the sign is not looked at.
    obtain ⟨d, ds, hds, hd⟩ := Text.exists_digits_eq n.natAbs
    rw [hds] at hread ⊢
    have hminus : d ≠ '-' := by rintro rfl; exact absurd hd (by decide)
    rw [List.cons_append, readNumber.eq_def]
    split
    · next heq => injection heq with heq; exact absurd heq hminus
    · rw [← List.cons_append, hread, if_neg Bool.false_ne_true, habs]

/-- A number of which nothing is known has a fraction. -/
theorem readNumber_decimal {rest : List Char} (h : Follows rest) :
    readNumber ('0' :: '.' :: '0' :: rest) = some (.decimal, rest) := by
  have hwhole : takeDigits ('0' :: '.' :: '0' :: rest) = some (['0'], '.' :: '0' :: rest) := rfl
  have hdigits : takeDigits ('0' :: rest) = some (['0'], rest) := takeDigits_digits 0 h.endsDigits
  have hfraction : skipFraction ('.' :: '0' :: rest) = some rest := by
    rw [skipFraction, hdigits]
    rfl
  have htaken : rest.length ≠ ('.' :: '0' :: rest).length := by
    simp only [List.length_cons]
    omega
  show readUnsigned false _ = _
  unfold readUnsigned
  rw [hwhole]
  simp only [Option.bind_eq_bind, Option.bind_some, hfraction, h.skip.2]
  rw [if_neg (by simp), if_pos (.inl htaken)]

/-! ### Where a value starts -/

/-- A number starts with a digit or a minus sign. -/
def StartsNumber (c : Char) : Prop := c.isDigit = true ∨ c = '-'

theorem exists_writeInt_eq (n : Int) : ∃ c s, writeInt n = c :: s ∧ StartsNumber c := by
  unfold writeInt
  split
  · exact ⟨_, _, rfl, .inr rfl⟩
  · obtain ⟨d, ds, hds, hd⟩ := Text.exists_digits_eq n.natAbs
    exact ⟨d, ds, hds, .inl hd⟩

theorem StartsNumber.ne {c d : Char} (h : StartsNumber c) (hdigit : d.isDigit = false)
    (hminus : d ≠ '-') : c ≠ d := by
  rintro rfl
  rcases h with h | h
  · rw [hdigit] at h
    cases h
  · exact hminus h

theorem StartsNumber.isBlank {c : Char} (h : StartsNumber c) : isBlank c = false := by
  simp [Json.isBlank, h.ne (d := ' ') rfl (by decide), h.ne (d := '\n') rfl (by decide),
    h.ne (d := '\t') rfl (by decide), h.ne (d := '\r') rfl (by decide)]

theorem skipBlanks_cons {c : Char} {s : List Char} (h : isBlank c = false) :
    skipBlanks (c :: s) = c :: s := by
  simp [skipBlanks, h]

/-- Where a number starts, a number is read. -/
theorem readValue_number {c : Char} (h : StartsNumber c) (depth : Nat) (s : List Char) :
    readValue (depth + 1) (c :: s) = readNumber (c :: s) := by
  rw [readValue, skipBlanks_cons h.isBlank]
  split
  case h_7 => rfl
  -- No other kind of value starts so.
  all_goals
    next heq =>
      injection heq with heq
      exact absurd heq (h.ne rfl (by decide))

/-- A value starts neither with a blank nor with a closing bracket. -/
theorem exists_write_eq (v : Json) :
    ∃ c s, write v = c :: s ∧ isBlank c = false ∧ c ≠ ']' := by
  match v with
  | .null | .bool true | .bool false | .decimal | .array [] | .object [] =>
    exact ⟨_, _, rfl, rfl, by decide⟩
  | .int n =>
    obtain ⟨c, s, hs, hc⟩ := exists_writeInt_eq n
    exact ⟨c, s, by rw [write, hs], hc.isBlank, hc.ne rfl (by decide)⟩
  | .string text =>
    obtain ⟨body, hbody, -⟩ := readText_writeText text []
    exact ⟨_, body, by rw [write, hbody], rfl, by decide⟩
  | .array (_ :: _) | .object (_ :: _) => exact ⟨_, _, by rw [write]; rfl, rfl, by decide⟩

/-! ### Values

    A value of `n` characters lies less than `2 * n` deep, and so do the
    items of an array and the members of an object. -/

theorem follows_writeItems (vs : List Json) (rest : List Char) :
    Follows (writeItems vs ++ ']' :: rest) := by
  intro c hc
  cases vs with
  | nil => cases hc; exact .inr (.inl rfl)
  | cons v vs =>
    rw [writeItems] at hc
    cases hc
    exact .inl rfl

theorem follows_writeMembers (ms : List (Option String × Json)) (rest : List Char) :
    Follows (writeMembers ms ++ '}' :: rest) := by
  intro c hc
  cases ms with
  | nil => cases hc; exact .inr (.inr rfl)
  | cons m ms =>
    rw [writeMembers] at hc
    cases hc
    exact .inl rfl

mutual

theorem readValue_write : ∀ (v : Json) (depth : Nat) (rest : List Char), Follows rest →
    2 * (write v).length ≤ depth + 1 → readValue depth (write v ++ rest) = some (v, rest)
  | v, 0, rest, _, hdepth => by
    obtain ⟨c, s, hs, -, -⟩ := exists_write_eq v
    rw [hs, List.length_cons] at hdepth
    omega
  | .null, depth + 1, rest, _, _ => rfl
  | .bool true, depth + 1, rest, _, _ => rfl
  | .bool false, depth + 1, rest, _, _ => rfl
  | .int n, depth + 1, rest, hrest, _ => by
    have hread := readNumber_writeInt n hrest
    obtain ⟨c, s, hs, hc⟩ := exists_writeInt_eq n
    rw [hs] at hread
    rw [write, hs]
    exact (readValue_number hc depth _).trans hread
  | .decimal, depth + 1, rest, hrest, _ => by
    show readValue (depth + 1) ('0' :: '.' :: '0' :: rest) = _
    rw [readValue_number (.inl rfl), readNumber_decimal hrest]
  | .string text, depth + 1, rest, _, _ => by
    obtain ⟨body, hbody, hread⟩ := readText_writeText text rest
    rw [write, hbody]
    show (readText (body ++ rest)).map _ = _
    rw [hread]
    rfl
  | .array [], depth + 1, rest, _, _ => rfl
  | .array (v :: vs), depth + 1, rest, _, hdepth => by
    rw [write] at hdepth ⊢
    simp only [List.length_cons, List.length_append, List.length_nil] at hdepth
    have hitems := readItems_write v vs depth rest (by omega)
    obtain ⟨c, s, hs, hblank, hbracket⟩ := exists_write_eq v
    -- What follows the bracket is the first item and not the end of the array.
    rw [hs] at hitems ⊢
    have hskip := skipBlanks_cons (s := s ++ (writeItems vs ++ ']' :: rest)) hblank
    simp only [List.cons_append, List.append_assoc, List.nil_append] at hitems ⊢
    rw [readValue, skipBlanks_cons (by rfl)]
    simp only [hskip]
    split
    · next heq => injection heq with heq; exact absurd heq hbracket
    · rw [hitems]
      rfl
  | .object [], depth + 1, rest, _, _ => rfl
  | .object ((k, v) :: ms), depth + 1, rest, _, hdepth => by
    rw [write] at hdepth ⊢
    simp only [List.length_cons, List.length_append, List.length_nil] at hdepth
    have hmembers := readMembers_write k v ms depth rest (by omega)
    obtain ⟨body, hbody, -⟩ := readText_writeText k []
    rw [hbody] at hmembers ⊢
    simp only [List.cons_append, List.append_assoc, List.nil_append] at hmembers ⊢
    rw [readValue, skipBlanks_cons (by rfl)]
    simp only [skipBlanks_cons (c := '"') (by rfl)]
    show (readMembers depth _).map _ = _
    rw [hmembers]
    rfl

theorem readItems_write : ∀ (v : Json) (vs : List Json) (depth : Nat) (rest : List Char),
    2 * ((write v).length + (writeItems vs).length) ≤ depth →
      readItems depth (write v ++ (writeItems vs ++ ']' :: rest)) = some (v :: vs, rest)
  | v, vs, 0, rest, hdepth => by
    obtain ⟨c, s, hs, -, -⟩ := exists_write_eq v
    rw [hs, List.length_cons] at hdepth
    omega
  | v, [], depth + 1, rest, hdepth => by
    have hv := readValue_write v depth (']' :: rest) (follows_writeItems [] rest) (by omega)
    rw [readItems]
    simp only [writeItems, List.nil_append] at hv ⊢
    rw [hv]
    rfl
  | v, w :: ws, depth + 1, rest, hdepth => by
    have hv := readValue_write v depth _ (follows_writeItems (w :: ws) rest) (by omega)
    rw [writeItems] at hdepth
    simp only [List.length_cons, List.length_append] at hdepth
    have hws := readItems_write w ws depth rest (by omega)
    rw [readItems, hv]
    simp only [writeItems, List.cons_append, List.append_assoc, Option.bind_eq_bind,
      Option.bind_some, skipBlanks_cons (c := ',') rfl, hws]
    rfl

theorem readMembers_write : ∀ (k : Option String) (v : Json) (ms : List (Option String × Json))
    (depth : Nat) (rest : List Char),
    2 * ((write v).length + (writeMembers ms).length) + 2 ≤ depth →
      readMembers depth (writeText k ++ ':' :: (write v ++ (writeMembers ms ++ '}' :: rest))) =
        some ((k, v) :: ms, rest)
  | k, v, ms, 0, rest, hdepth => by omega
  | k, v, [], depth + 1, rest, hdepth => by
    have hv := readValue_write v depth _ (follows_writeMembers [] rest) (by omega)
    obtain ⟨body, hbody, hk⟩ := readText_writeText k
      (':' :: (write v ++ (writeMembers [] ++ '}' :: rest)))
    rw [readMembers, hbody]
    simp only [List.cons_append, skipBlanks_cons (c := '"') rfl, skipBlanks_cons (c := ':') rfl,
      hk, hv, Option.bind_eq_bind, Option.bind_some]
    rfl
  | k, v, (l, w) :: ms, depth + 1, rest, hdepth => by
    have hv := readValue_write v depth _ (follows_writeMembers ((l, w) :: ms) rest) (by omega)
    rw [writeMembers] at hdepth
    simp only [List.length_cons, List.length_append] at hdepth
    have hms := readMembers_write l w ms depth rest (by omega)
    obtain ⟨body, hbody, hk⟩ := readText_writeText k
      (':' :: (write v ++ (writeMembers ((l, w) :: ms) ++ '}' :: rest)))
    rw [readMembers, hbody]
    simp only [List.cons_append, skipBlanks_cons (c := '"') rfl, skipBlanks_cons (c := ':') rfl,
      hk, hv, Option.bind_eq_bind, Option.bind_some]
    simp only [writeMembers, List.cons_append, List.append_assoc, skipBlanks_cons (c := ',') rfl,
      hms]
    rfl

end

/-- The document of a value is read as the value. -/
theorem read_render (v : Json) : read v.render = some v := by
  have hdepth : 2 * v.write.length ≤ 2 * v.write.length + 2 + 1 := by omega
  have hvalue := readValue_write v _ [] follows_nil hdepth
  rw [List.append_nil] at hvalue
  unfold read render
  rw [String.toList_ofList]
  simp only [hvalue, Option.bind_eq_bind, Option.bind_some]
  rfl

end Listing.Json
