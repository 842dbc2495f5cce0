import Listing.Proofs.Time.Shift
import Listing.Proofs.Wire.RoundTrip

/-! # Durations in documents

  A document holds a duration as a number of seconds and a number of
  nanoseconds. They are read with any signs, and the nanoseconds may
  make up more than a second: what counts is what both come to. Of all
  pairs that come to the same, one is written. Its numbers have one
  sign, and its nanoseconds are less than a second.
-/

namespace Listing.Wire

open Time (Duration nanosPerSecond)

/-! ### Pairs of numbers -/

/-- The two numbers in which a duration travels. -/
structure DurationParts where
  /-- Seconds, of any sign. -/
  seconds : Int64
  /-- Nanoseconds, of any sign and not limited to a second. -/
  nanos : Int32
deriving DecidableEq, Repr

namespace DurationParts

variable {p q : DurationParts}

/-- What the two numbers come to, in nanoseconds. -/
def total (p : DurationParts) : Int := p.seconds.toInt * 1000000000 + p.nanos.toInt

/-- The form in which a duration is written: one sign, and less than a second of nanoseconds. -/
structure Canonical (p : DurationParts) : Prop where
  oneSign : 0 ≤ p.seconds.toInt ∧ 0 ≤ p.nanos.toInt ∨ p.seconds.toInt ≤ 0 ∧ p.nanos.toInt ≤ 0
  small : p.nanos.toInt.natAbs < 1000000000

/-- The seconds are still a word with the whole seconds of the nanoseconds carried over. -/
def CarryFits (p : DurationParts) : Prop :=
  Word.Fits (p.seconds.toInt + p.nanos.toInt / 1000000000)

instance (p : DurationParts) : Decidable p.CarryFits :=
  inferInstanceAs (Decidable (Word.Fits _))

/-- No two canonical pairs come to the same. -/
theorem Canonical.unique (hp : p.Canonical) (hq : q.Canonical) (h : p.total = q.total) :
    p = q := by
  obtain ⟨hpsign, hpsmall⟩ := hp
  obtain ⟨hqsign, hqsmall⟩ := hq
  simp only [total] at h
  have hseconds : p.seconds.toInt = q.seconds.toInt := by omega
  have hnanos : p.nanos.toInt = q.nanos.toInt := by omega
  cases p
  cases q
  rw [mk.injEq]
  exact ⟨Int64.toInt_inj.mp hseconds, Int32.toInt_inj.mp hnanos⟩

/-! ### Documents of pairs -/

/-- The pair as JSON. -/
def json (p : DurationParts) : Json :=
  .record [("seconds", .int p.seconds.toInt), ("nanos", .int p.nanos.toInt)]

/-- The pair as a document. -/
def document (p : DurationParts) : String := p.json.render

/-- The document has the two numbers in its fields, whatever else there is and however it is laid
out. -/
def CarriedBy (p : DurationParts) (document : String) : Prop :=
  ∃ j, Json.read document = some j ∧
    j.fields? ["seconds", "nanos"] = some [.int p.seconds.toInt, .int p.nanos.toInt]

theorem carriedBy_document (p : DurationParts) : p.CarriedBy p.document := by
  have hdistinct : ((["seconds", "nanos"] : List String)).Nodup := by decide
  exact ⟨p.json, Json.read_render _, Json.fields?_record hdistinct⟩

/-! ### Reading -/

/-- What is read depends on what the numbers come to, and on nothing else. -/
theorem deserialize_of_carriedBy {text : String} (h : p.CarriedBy text) (hfits : p.CarryFits) :
    deserialize text = Duration.ofNanos? p.total := by
  obtain ⟨j, hread, hfields⟩ := h
  have hbounds : Word.Fits p.seconds.toInt ∧
      -2147483648 ≤ p.nanos.toInt ∧ p.nanos.toInt < 2147483648 :=
    ⟨Word.fits_toInt _, p.nanos.le_toInt, p.nanos.toInt_lt⟩
  have hdecode : Wire.decode j = Duration.ofNanos? p.total := by
    show (Option.bind (j.fields? _) _) = _
    rw [hfields]
    show (if _ then ofSecondsAndNanos? _ _ else none) = _
    rw [if_pos hbounds, ofSecondsAndNanos?_eq hfits]
    rfl
  show (Json.read text).bind Wire.decode = _
  rw [hread]
  exact hdecode

theorem deserialize_eq_some_iff {text : String} {d : Duration} (h : p.CarriedBy text)
    (hfits : p.CarryFits) : deserialize text = some d ↔ d.nanos = p.total := by
  rw [deserialize_of_carriedBy h hfits, Duration.ofNanos?_eq_some_iff]

theorem exists_deserialize_iff {text : String} (h : p.CarriedBy text) (hfits : p.CarryFits) :
    (∃ d : Duration, deserialize text = some d) ↔ p.total.natAbs ≤ (2 ^ 63 - 1) * 1000000 := by
  simp only [deserialize_eq_some_iff h hfits]
  rw [Duration.exists_nanos_eq_iff]
  simp only [Duration.InRange, Duration.limit]
  omega

/-! ### Writing -/

/-- The pair in which a duration is written. -/
def ofDuration (d : Duration) : DurationParts :=
  ⟨.ofInt d.wholeSeconds, .ofInt d.subsecondNanos⟩

theorem toInt_seconds_ofDuration (d : Duration) :
    (ofDuration d).seconds.toInt = d.wholeSeconds := by
  obtain ⟨⟨hlow, hhigh⟩, -⟩ := fits_parts d
  exact Int64.toInt_ofInt_of_le hlow hhigh

theorem toInt_nanos_ofDuration (d : Duration) :
    (ofDuration d).nanos.toInt = d.subsecondNanos := by
  obtain ⟨-, hlow, hhigh⟩ := fits_parts d
  exact Int32.toInt_ofInt_of_le hlow hhigh

theorem serialize_eq (d : Duration) : serialize d = (ofDuration d).document := by
  unfold document json
  rw [toInt_seconds_ofDuration, toInt_nanos_ofDuration]
  rfl

theorem total_ofDuration (d : Duration) : (ofDuration d).total = d.nanos := by
  rw [total, toInt_seconds_ofDuration, toInt_nanos_ofDuration]
  exact d.wholeSeconds_add_subsecondNanos

theorem canonical_ofDuration (d : Duration) : (ofDuration d).Canonical where
  oneSign := by
    rw [toInt_seconds_ofDuration, toInt_nanos_ofDuration]
    unfold Duration.wholeSeconds Duration.subsecondNanos
    rcases Int.le_total 0 d.nanos with h | h
    · exact .inl ⟨Int.tdiv_nonneg h (by decide), Int.tmod_nonneg _ h⟩
    · -- Rounding is toward zero, so below zero both parts are opposites of those of the opposite.
      right
      have hwhole := Int.tdiv_nonneg (Int.neg_nonneg_of_nonpos h) (b := nanosPerSecond) (by decide)
      have hrest := Int.tmod_nonneg nanosPerSecond (Int.neg_nonneg_of_nonpos h)
      rw [Int.neg_tdiv] at hwhole
      rw [Int.neg_tmod] at hrest
      omega
  small := by
    rw [toInt_nanos_ofDuration, Duration.subsecondNanos, Int.natAbs_tmod]
    exact Nat.mod_lt _ (by decide)

end DurationParts

/-- A document of a duration is read if its two numbers come to at most `2 ^ 63 - 1` milliseconds
in either direction, and then as exactly what they come to. A duration is written as two numbers
of one sign, with less than a second of nanoseconds, that come to it. So documents hold the same
duration if their numbers come to the same, and written again they have the only canonical pair
of that total. -/
theorem deserialize_duration :
    (∀ (p : DurationParts) (text : String), p.CarriedBy text → p.CarryFits →
      ((∃ d : Duration, deserialize text = some d) ↔
        p.total.natAbs ≤ (2 ^ 63 - 1) * 1000000) ∧
      ∀ d : Duration, deserialize text = some d → d.nanos = p.total ∧
        ∃ q : DurationParts, q.Canonical ∧ q.total = p.total ∧ serialize d = q.document ∧
          ∀ r : DurationParts, r.Canonical → r.total = p.total → r = q) ∧
    (∀ d : Duration, ∃ p : DurationParts,
      p.CarriedBy (serialize d) ∧ p.Canonical ∧ p.total = d.nanos) ∧
    (∀ (p q : DurationParts) (first second : String) (d e : Duration),
      p.CarriedBy first → p.CarryFits → q.CarriedBy second → q.CarryFits →
        deserialize first = some d → deserialize second = some e →
          (d = e ↔ p.total = q.total)) := by
  refine ⟨?_, ?_, ?_⟩
  · intro p text hp hfits
    refine ⟨DurationParts.exists_deserialize_iff hp hfits, fun d hd => ?_⟩
    have hnanos := (DurationParts.deserialize_eq_some_iff hp hfits).mp hd
    have hcanonical := DurationParts.canonical_ofDuration d
    have htotal : (DurationParts.ofDuration d).total = p.total := by
      rw [DurationParts.total_ofDuration, hnanos]
    refine ⟨hnanos, _, hcanonical, htotal, DurationParts.serialize_eq d, ?_⟩
    intro r hr hrtotal
    exact hr.unique hcanonical (hrtotal.trans htotal.symm)
  · intro d
    refine ⟨.ofDuration d, ?_, DurationParts.canonical_ofDuration d,
      DurationParts.total_ofDuration d⟩
    rw [DurationParts.serialize_eq]
    exact DurationParts.carriedBy_document _
  · intro p q first second d e hp hpfits hq hqfits hd he
    rw [DurationParts.deserialize_eq_some_iff hp hpfits] at hd
    rw [DurationParts.deserialize_eq_some_iff hq hqfits] at he
    rw [← hd, ← he]
    exact Duration.ext_iff

/-- The longest way back ends within a second, and a nanosecond more is too long. Seconds forth with
more nanoseconds back, and seconds back with more nanoseconds forth, may be one duration. -/
theorem deserialize_duration_at_limit :
    let longest : DurationParts := ⟨-9223372036854776, 193000000⟩
    let longer : DurationParts := ⟨-9223372036854776, 192999999⟩
    let forth : DurationParts := ⟨1, -1500000000⟩
    let back : DurationParts := ⟨-2, 1500000000⟩
    let canonical : DurationParts := ⟨0, -500000000⟩
    longest.CarriedBy longest.document ∧ longest.CarryFits ∧
      (∃ d : Duration, deserialize longest.document = some d) ∧
      longer.CarriedBy longer.document ∧ longer.CarryFits ∧
      (¬∃ d : Duration, deserialize longer.document = some d) ∧
      ∃ d : Duration, deserialize forth.document = some d ∧ deserialize back.document = some d ∧
        forth.total = back.total ∧ serialize d = canonical.document := by
  intro longest longer forth back canonical
  obtain ⟨hread, -, hequal⟩ := deserialize_duration
  obtain ⟨hlongest, -⟩ := hread longest _ longest.carriedBy_document (by decide)
  obtain ⟨hlonger, -⟩ := hread longer _ longer.carriedBy_document (by decide)
  obtain ⟨hforth, hwritten⟩ := hread forth _ forth.carriedBy_document (by decide)
  obtain ⟨hback, -⟩ := hread back _ back.carriedBy_document (by decide)
  obtain ⟨d, hd⟩ := hforth.mpr (by decide)
  obtain ⟨e, he⟩ := hback.mpr (by decide)
  have htotal : forth.total = back.total := by decide
  have heq : d = e :=
    (hequal forth back _ _ d e forth.carriedBy_document (by decide) back.carriedBy_document
      (by decide) hd he).mpr htotal
  obtain ⟨-, q, -, -, hserialize, hunique⟩ := hwritten d hd
  have hcanonical : canonical = q := hunique canonical ⟨by decide, by decide⟩ (by decide)
  exact ⟨longest.carriedBy_document, by decide, hlongest.mpr (by decide),
    longer.carriedBy_document, by decide, fun h => absurd (hlonger.mp h) (by decide),
    d, hd, heq ▸ he, htotal, hcanonical ▸ hserialize⟩

end Listing.Wire
