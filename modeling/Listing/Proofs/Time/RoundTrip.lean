import Listing.Proofs.Text.Digits
import Listing.Proofs.Time.Calendar
import Listing.Time.Rfc3339

/-! # Written times read back

  A written time is read as the time that it was, leap seconds and years
  of any sign included. Each part is taken from the front of the text,
  whatever stands behind it; only the fraction and a signed year reach
  as far as there are digits, and no digit follows them.
-/

namespace Listing.Time

/-! ### Numbers -/

/-- No white space stands in front of a written number. -/
theorem trimStart_digitsPadded (width n : Nat) (s : List Char) :
    Text.trimStart (Text.digitsPadded width n ++ s) = Text.digitsPadded width n ++ s := by
  obtain ⟨d, ds, hds, hd⟩ := Text.exists_digitsPadded_eq width n
  rw [hds]
  exact Text.trimStart_cons_of_not_isSpace (Text.isSpace_of_isDigit hd)

/-- A number is taken whole where it ends with its last digit, or where no more digits may be
taken. -/
theorem takeNumber_digitsPadded {most width n : Nat} {s : List Char}
    (hmost : (Text.digitsPadded width n).length ≤ most)
    (hs : Text.EndsDigits (s.take (most - (Text.digitsPadded width n).length))) :
    takeNumber most (Text.digitsPadded width n ++ s) = some (n, s) := by
  have htake : ((Text.digitsPadded width n ++ s).take most).takeWhile Char.isDigit =
      Text.digitsPadded width n := by
    rw [List.take_append, List.take_of_length_le hmost]
    exact Text.takeWhile_isDigit_append (fun _ hc => Text.isDigit_of_mem_digitsPadded hc) hs
  unfold takeNumber
  simp only [htake, List.isEmpty_iff, Text.digitsPadded_ne_nil, if_false,
    Text.ofDigitChars_digitsPadded, List.drop_left]

/-- A number of exactly as many digits as may be taken is taken, whatever follows it. -/
theorem takeNumber_exact {width n : Nat} (hwidth : 0 < width) (hn : n < 10 ^ width)
    (s : List Char) : takeNumber width (Text.digitsPadded width n ++ s) = some (n, s) := by
  have hlength := Text.length_digitsPadded hwidth hn
  refine takeNumber_digitsPadded (Nat.le_of_eq hlength) ?_
  rw [hlength, Nat.sub_self, List.take_zero]
  exact Text.endsDigits_nil

/-- A part of two digits, from `low` to `high`. -/
theorem takePart_digitsPadded {low high n : Nat} (hlow : low ≤ n) (hhigh : n ≤ high)
    (hn : n < 100) (s : List Char) :
    takePart low high (Text.digitsPadded 2 n ++ s) = some (n, s) := by
  unfold takePart
  rw [trimStart_digitsPadded, takeNumber_exact (by decide) hn]
  simp only [Option.bind_eq_bind, Option.bind_some, if_pos (And.intro hlow hhigh)]

/-! ### Dates -/

theorem takeYear_yearText (year : Int) (s : List Char) :
    takeYear (Timestamp.yearText year ++ '-' :: s) = some (year, '-' :: s) := by
  -- A signed year may have any number of digits; the hyphen ends it.
  have hsigned (n : Nat) :
      takeNumber (Text.digitsPadded 4 n ++ '-' :: s).length (Text.digitsPadded 4 n ++ '-' :: s) =
        some (n, '-' :: s) := by
    refine takeNumber_digitsPadded ?_ ((Text.endsDigits_cons rfl).take _)
    rw [List.length_append]
    omega
  unfold Timestamp.yearText
  by_cases hplain : 0 ≤ year ∧ year ≤ 9999
  · have hyear : (year.toNat : Int) = year := by omega
    have hfits : year.toNat < 10 ^ 4 := by omega
    have htake := takeNumber_exact (by decide) hfits ('-' :: s)
    obtain ⟨d, ds, hds, hd⟩ := Text.exists_digitsPadded_eq 4 year.toNat
    rw [if_pos hplain, takeYear, trimStart_digitsPadded]
    -- The digits start with a digit and not with a sign.
    split
    · next heq => rw [hds] at heq; injection heq with heq; subst heq; cases hd
    · next heq => rw [hds] at heq; injection heq with heq; subst heq; cases hd
    · rw [htake]
      exact congrArg (fun y => some (y, '-' :: s)) hyear
  · rw [if_neg hplain]
    by_cases hneg : year < 0
    · have hyear : -(year.natAbs : Int) = year := by omega
      rw [if_pos hneg]
      show (takeNumber _ (Text.digitsPadded 4 year.natAbs ++ '-' :: s)).map _ = _
      rw [List.append_eq, hsigned]
      exact congrArg (fun y => some (y, '-' :: s)) hyear
    · have hyear : (year.natAbs : Int) = year := by omega
      rw [if_neg hneg]
      show (takeNumber _ (Text.digitsPadded 4 year.natAbs ++ '-' :: s)).map _ = _
      rw [List.append_eq, hsigned]
      exact congrArg (fun y => some (y, '-' :: s)) hyear

theorem takeMark_cons {c : Char} (hc : Text.isSpace c = false) (s : List Char) :
    takeMark c (c :: s) = some s := by
  rw [takeMark, Text.trimStart_cons_of_not_isSpace hc]
  exact if_pos rfl

/-- A valid date is taken, up to what stands behind its day. -/
theorem takeDate_chars {date : Date} (hdate : date.isValid = true) (s : List Char) :
    takeDate (Timestamp.yearText date.year ++ '-' :: (Text.digitsPadded 2 date.month ++
      '-' :: (Text.digitsPadded 2 date.day ++ s))) = some (date, s) := by
  simp only [Date.isValid, Bool.and_eq_true, decide_eq_true_eq] at hdate
  obtain ⟨⟨⟨hmonth, hmonth'⟩, hday⟩, hday'⟩ := hdate
  have hlength : Date.monthLength date.year date.month ≤ 31 := by
    unfold Date.monthLength
    split
    · split <;> decide
    · split <;> decide
  unfold takeDate
  simp only [takeYear_yearText, takeMark_cons (c := '-') rfl, Option.bind_eq_bind,
    Option.bind_some, takePart_digitsPadded hmonth hmonth' (by omega),
    takePart_digitsPadded hday (by omega : date.day ≤ 31) (by omega)]

/-! ### Times of day -/

/-- A fraction of a few digits, with no digit behind it. -/
theorem takeFraction_digitsPadded {width n : Nat} (hwidth : 0 < width) (hwidth' : width ≤ 9)
    (hn : n < 10 ^ width) {s : List Char} (hs : Text.EndsDigits s) :
    takeFraction ('.' :: (Text.digitsPadded width n ++ s)) =
      some (n * 10 ^ (9 - width), s) := by
  have hlength := Text.length_digitsPadded hwidth hn
  have htake : takeNumber 9 (Text.digitsPadded width n ++ s) = some (n, s) :=
    takeNumber_digitsPadded (by omega) (hs.take _)
  have hcount : (Text.digitsPadded width n ++ s).length - s.length = width := by
    rw [List.length_append]
    omega
  unfold takeFraction
  simp only [htake, Option.bind_eq_bind, Option.bind_some, hcount, Text.dropWhile_isDigit hs]
  rfl

/-- The fewest digits that are exact are read as the nanoseconds that they were. -/
theorem takeFraction_secondFractionText {nanos : Nat} (hnanos : nanos < nanosPerSecond)
    {s : List Char} (hs : Text.EndsDigits s) (hpoint : s.head? ≠ some '.') :
    takeFraction (Timestamp.secondFractionText nanos ++ s) = some (nanos, s) := by
  simp only [nanosPerSecond] at hnanos
  unfold Timestamp.secondFractionText
  by_cases hzero : nanos = 0
  · rw [if_pos hzero, hzero, List.nil_append]
    unfold takeFraction
    split
    · exact absurd rfl hpoint
    · rfl
  rw [if_neg hzero]
  by_cases hmilli : nanos % 1000000 = 0
  · have hn : nanos / 1000000 < 10 ^ 3 := by omega
    rw [if_pos hmilli, List.cons_append, takeFraction_digitsPadded (by decide) (by decide) hn hs]
    exact congrArg (fun n => some (n, s)) (by omega)
  rw [if_neg hmilli]
  by_cases hmicro : nanos % 1000 = 0
  · have hn : nanos / 1000 < 10 ^ 6 := by omega
    rw [if_pos hmicro, List.cons_append, takeFraction_digitsPadded (by decide) (by decide) hn hs]
    exact congrArg (fun n => some (n, s)) (by omega)
  rw [if_neg hmicro, List.cons_append,
    takeFraction_digitsPadded (by decide) (by decide) (by omega : nanos < 10 ^ 9) hs]
  exact congrArg (fun n => some (n, s)) (by omega)

/-- A time of day is taken; second 60 is the leap second of the second before. -/
theorem takeClock_chars {clock nanos : Nat} (hclock : clock < 86400)
    (hnanos : nanos < 2 * nanosPerSecond) (hleap : nanosPerSecond ≤ nanos → clock % 60 = 59)
    {s : List Char} (hs : Text.EndsDigits s) (hpoint : s.head? ≠ some '.') :
    takeClock (Text.digitsPadded 2 (clock / 3600) ++ ':' :: (Text.digitsPadded 2 (clock / 60 % 60)
      ++ ':' :: (Text.digitsPadded 2 (clock % 60 + nanos / nanosPerSecond) ++
        (Timestamp.secondFractionText (nanos % nanosPerSecond) ++ s)))) =
      some ((clock, nanos), s) := by
  simp only [nanosPerSecond] at hnanos hleap ⊢
  have hhour : clock / 3600 ≤ 23 := by omega
  have hminute : clock / 60 % 60 ≤ 59 := by omega
  have hsecond : clock % 60 + nanos / 1000000000 ≤ 60 := by omega
  have hbelow : nanos % 1000000000 < nanosPerSecond := Nat.mod_lt _ (by decide)
  have hfraction := takeFraction_secondFractionText hbelow hs hpoint
  unfold takeClock
  simp only [takePart_digitsPadded (Nat.zero_le _) hhour (by omega),
    takePart_digitsPadded (Nat.zero_le _) hminute (by omega),
    takePart_digitsPadded (Nat.zero_le _) hsecond (by omega), takeMark_cons (c := ':') rfl,
    hfraction, Option.bind_eq_bind, Option.bind_some, nanosPerSecond]
  have hparts : 3600 * (clock / 3600) + 60 * (clock / 60 % 60) +
      (clock % 60 + nanos / 1000000000 - (clock % 60 + nanos / 1000000000) / 60) = clock := by
    omega
  have hrest : nanos % 1000000000 + (clock % 60 + nanos / 1000000000) / 60 * 1000000000 =
      nanos := by
    omega
  rw [hparts, hrest]

/-! ### Whole times -/

namespace Timestamp

/-- A written time is read as itself. -/
theorem read?_chars (t : Timestamp) : read? (t.chars ['Z']) = some t := by
  obtain ⟨hfirst, hlast, hnanos, hleap⟩ := t.valid
  have hclock : t.secondOfDay < 86400 := by
    unfold secondOfDay
    omega
  have hseconds : 86400 * t.date.toDays + t.secondOfDay = t.seconds := by
    unfold date secondOfDay
    rw [Date.toDays_ofDays]
    omega
  have hminute : nanosPerSecond ≤ t.nanos → t.secondOfDay % 60 = 59 := by
    intro h
    have hlastSecond := hleap h
    unfold secondOfDay
    omega
  have hvalid : t.date.isValid = true := Date.isValid_ofDays _
  have hdate := takeDate_chars hvalid
  have hclocks := takeClock_chars hclock hnanos hminute (s := ['Z'])
    (Text.endsDigits_cons rfl) (by decide)
  have htrim : Text.trimStart ['Z'] = ['Z'] := rfl
  have hzone : takeZone ['Z'] = some (0, []) := rfl
  have hend : (Text.trimStart []).isEmpty = true := rfl
  unfold read? chars
  simp only [List.append_assoc, List.cons_append, hdate, hclocks, htrim, hzone, Option.bind_eq_bind,
    Option.bind_some, hseconds]
  rw [if_pos (.inl trivial), if_pos ⟨hvalid, hend, hfirst, hlast⟩, Int.sub_zero]
  exact of?_self t

end Timestamp
end Listing.Time
