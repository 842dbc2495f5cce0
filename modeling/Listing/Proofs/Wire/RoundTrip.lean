import Listing.Proofs.Json.RoundTrip
import Listing.Proofs.Time.RoundTrip
import Listing.Wire.Plan

/-! # Values read back from their documents

  What is written of a filter, a request or a plan is read as the same
  filter, request or plan. Each type has a law of its own, which says
  that its JSON gives the value back, and the law of a record or an
  alternative rests on those of its parts.
-/

namespace Listing

/-! ### The law -/

/-- The JSON of a value gives the value back. -/
class Wire.Lawful (α : Type) [Wire α] : Prop where
  /-- What is encoded is decoded. -/
  decode_encode : ∀ a : α, Wire.decode (Wire.encode a) = some a

/-- What is read one by one is read altogether. -/
theorem mapM_map_eq_some {α β γ : Type} {f : α → β} {g : β → Option γ} {h : α → γ}
    (hread : ∀ a, g (f a) = some (h a)) (l : List α) : (l.map f).mapM g = some (l.map h) := by
  induction l with
  | nil => rfl
  | cons a l ih =>
    rw [List.map_cons, List.mapM_cons, hread, ih]
    rfl

namespace Json

/-! ### Records -/

/-- The value under a name of a record whose names are distinct. -/
theorem find?_record {members : List (String × Json)} (hdistinct : (members.map Prod.fst).Nodup)
    {m : String × Json} (hm : m ∈ members) :
    (members.map fun (name, value) => (some name, value)).find? (·.1 = some m.1) =
      some (some m.1, m.2) := by
  have hfind : members.find? (fun n => some n.1 = some m.1) = some m :=
    find?_of_distinct hdistinct hm fun n => by simp
  rw [List.find?_map]
  exact congrArg (Option.map _) hfind

/-- No name of such a record occurs twice. -/
theorem countP_record_le {members : List (String × Json)}
    (hdistinct : (members.map Prod.fst).Nodup) (name : String) :
    (members.map fun (n, value) => (some n, value)).countP (·.1 = some name) ≤ 1 := by
  have hcount := List.nodup_iff_count.mp hdistinct name
  rw [List.count_eq_countP, List.countP_map] at hcount
  rw [List.countP_map]
  refine Nat.le_trans (List.countP_mono_left ?_) hcount
  intro m _ h
  simpa using h

/-- Every field of a record is there, with the value that the record was made of. -/
theorem optionalFields?_record {members : List (String × Json)}
    (hdistinct : (members.map Prod.fst).Nodup) :
    (record members).optionalFields? (members.map Prod.fst) =
      some (members.map fun m => some m.2) := by
  have hknown : (members.map fun (n, value) => (some n, value)).all (·.1.isSome) = true := by
    simp
  have honce : ((members.map Prod.fst).all fun n =>
      (members.map fun (n, value) => (some n, value)).countP (·.1 = some n) ≤ 1) = true := by
    simpa using fun name _ _ => countP_record_le hdistinct name
  show (if _ then _ else _) = _
  rw [if_pos ⟨hknown, honce⟩, List.map_map]
  refine congrArg some (List.map_congr_left fun m hm => ?_)
  show ((List.find? _ _).map _) = _
  rw [find?_record hdistinct hm]
  rfl

/-- The fields of a record are the values that it was made of. -/
theorem fields?_record {members : List (String × Json)}
    (hdistinct : (members.map Prod.fst).Nodup) :
    (record members).fields? (members.map Prod.fst) = some (members.map Prod.snd) := by
  unfold fields?
  rw [optionalFields?_record hdistinct]
  exact mapM_map_eq_some (f := fun m : String × Json => some m.2) (g := id) (fun _ => rfl) members

/-- What is built from the fields of a record is built from the values that it was made of. -/
theorem bind_fields?_record {α : Type} {members : List (String × Json)}
    {build : List Json → Option α} {a : α} (hdistinct : (members.map Prod.fst).Nodup)
    (hbuild : build (members.map Prod.snd) = some a) :
    ((record members).fields? (members.map Prod.fst)).bind build = some a := by
  rw [fields?_record hdistinct]
  exact hbuild

end Json

namespace Wire

open Lawful (decode_encode)

/-! ### Plain values -/

instance : Lawful Bool := ⟨fun _ => rfl⟩

instance : Lawful String := ⟨fun _ => rfl⟩

instance : Lawful Int64 where
  decode_encode _ := Word.ofInt?_eq_some_iff.mpr rfl

instance : Lawful UInt64 where
  decode_encode n := by
    have hsize : (0 : Int) ≤ n.toNat ∧ (n.toNat : Int).toNat < UInt64.size :=
      ⟨Int.natCast_nonneg _, n.toNat_lt_size⟩
    show (if _ then _ else _) = _
    rw [if_pos hsize, Int.toNat_natCast, UInt64.ofNat_toNat]

instance : Lawful UInt16 where
  decode_encode n := by
    have hsize : (0 : Int) ≤ n.toNat ∧ (n.toNat : Int).toNat < UInt16.size :=
      ⟨Int.natCast_nonneg _, n.toNat_lt_size⟩
    show (if _ then _ else _) = _
    rw [if_pos hsize, Int.toNat_natCast, UInt16.ofNat_toNat]

instance {α : Type} [Wire α] [Lawful α] : Lawful (List α) where
  decode_encode items := by
    show (items.map encode).mapM decode = some items
    rw [mapM_map_eq_some decode_encode, List.map_id']

/-- An alternative without content is found by its name. -/
theorem lawful_ofNamed {α : Type} [Named α] : @Lawful α ofNamed :=
  @Lawful.mk α ofNamed fun a => Named.ofName?_name a

instance : Lawful EntityKind := lawful_ofNamed
instance : Lawful FieldScope := lawful_ofNamed
instance : Lawful SessionStatus := lawful_ofNamed
instance : Lawful TaskStatus := lawful_ofNamed
instance : Lawful ResultStatus := lawful_ofNamed
instance : Lawful StringOperator := lawful_ofNamed
instance : Lawful NumberOperator := lawful_ofNamed
instance : Lawful DateOperator := lawful_ofNamed
instance : Lawful DurationOperator := lawful_ofNamed
instance : Lawful StatusOperator := lawful_ofNamed
instance : Lawful ArrayOperator := lawful_ofNamed
instance : Lawful BooleanOperator := lawful_ofNamed

instance : Lawful Direction where
  decode_encode d := by cases d <;> rfl

/-! ### Operands -/

open Time (Timestamp Duration)

instance : Lawful Status where
  decode_encode s := by
    cases s with
    | session s => exact congrArg (Option.map Status.session) (decode_encode s)
    | task s => exact congrArg (Option.map Status.task) (decode_encode s)
    | result s => exact congrArg (Option.map Status.result) (decode_encode s)

instance : Lawful Timestamp where
  decode_encode t := by
    show Timestamp.read? t.zuluText.toList = some t
    rw [Timestamp.zuluText, String.toList_ofList]
    exact t.read?_chars

/-- The two parts of a duration fit the words in which they travel. -/
theorem fits_parts (d : Duration) : Word.Fits d.wholeSeconds ∧
    -2147483648 ≤ d.subsecondNanos ∧ d.subsecondNanos < 2147483648 := by
  obtain ⟨hlow, hhigh⟩ := d.inRange
  have hwhole := d.wholeSeconds_add_subsecondNanos
  have hlt : d.subsecondNanos.natAbs < 1000000000 := by
    rw [Duration.subsecondNanos, Int.natAbs_tmod]
    exact Nat.mod_lt _ (by decide)
  simp only [Duration.limit, Time.nanosPerSecond, Word.Fits] at hlow hhigh hwhole ⊢
  omega

/-- What seconds and nanoseconds of any sign come to, if the seconds carried over leave a word. -/
theorem ofSecondsAndNanos?_eq {seconds nanos : Int}
    (hfits : Word.Fits (seconds + nanos / Time.nanosPerSecond)) :
    ofSecondsAndNanos? seconds nanos =
      Duration.ofNanos? (seconds * Time.nanosPerSecond + nanos) := by
  obtain ⟨whole, hwhole⟩ : ∃ whole : Int64, whole.toInt = seconds + nanos / Time.nanosPerSecond :=
    ⟨.ofInt _, Int64.toInt_ofInt_of_le hfits.1 hfits.2⟩
  have hrest : (nanos % Time.nanosPerSecond).toNat < Time.nanosPerSecond := by
    simp only [Time.nanosPerSecond]
    omega
  have htotal : whole.toInt * Time.nanosPerSecond + (nanos % Time.nanosPerSecond).toNat =
      seconds * Time.nanosPerSecond + nanos := by
    simp only [Time.nanosPerSecond] at hwhole ⊢
    omega
  show (Word.ofInt? _).bind _ = _
  rw [Word.ofInt?_eq_some_iff.mpr hwhole]
  show Duration.ofParts? _ _ = _
  rw [Duration.ofParts?, if_pos hrest, htotal]

instance : Lawful Duration where
  decode_encode d := by
    have hparts := d.wholeSeconds_add_subsecondNanos
    have hfits : Word.Fits (d.wholeSeconds + d.subsecondNanos / Time.nanosPerSecond) := by
      obtain ⟨hlow, hhigh⟩ := d.inRange
      simp only [Duration.limit, Time.nanosPerSecond, Word.Fits] at hlow hhigh hparts ⊢
      omega
    refine Json.bind_fields?_record (by simp) ?_
    show (if _ then ofSecondsAndNanos? _ _ else none) = some d
    rw [if_pos (fits_parts d), ofSecondsAndNanos?_eq hfits, hparts]
    exact d.ofNanos?_nanos

/-! ### Filters -/

instance : Lawful Selector where
  decode_encode s := Json.bind_fields?_record (by simp) (by simp [decode_encode])

theorem decodeOperation_encodeOperation {α β γ : Type} [Wire α] [Wire β] [Lawful α] [Lawful β]
    (build : α → β → γ) (operator : α) (value : β) :
    decodeOperation build (encodeOperation operator value) = some (build operator value) := by
  unfold decodeOperation encodeOperation
  exact Json.bind_fields?_record (by simp) (by simp [decode_encode])

instance : Lawful Condition where
  decode_encode condition := by
    cases condition with
    | string op v => exact decodeOperation_encodeOperation Condition.string op v
    | number op v => exact decodeOperation_encodeOperation Condition.number op v
    | date op v => exact decodeOperation_encodeOperation Condition.date op v
    | duration op v => exact decodeOperation_encodeOperation Condition.duration op v
    | status op v => exact decodeOperation_encodeOperation Condition.status op v
    | array op v => exact decodeOperation_encodeOperation Condition.array op v
    | boolean op v => exact decodeOperation_encodeOperation Condition.boolean op v

instance : Lawful FieldTest where
  decode_encode t := Json.bind_fields?_record (by simp) (by simp [decode_encode])

instance : Lawful Conjunction where
  decode_encode c := Json.bind_fields?_record (by simp) (by simp [decode_encode])

instance : Lawful Filter where
  decode_encode f := Json.bind_fields?_record (by simp) (by simp [decode_encode])

/-! ### Requests and plans -/

instance : Lawful SortOrder where
  decode_encode s := Json.bind_fields?_record (by simp) (by simp [decode_encode])

instance : Lawful PageRequest where
  decode_encode r := Json.bind_fields?_record (by simp) (by simp [decode_encode])

instance : Lawful Selection where
  decode_encode selection := by
    cases selection with
    | matching f => exact congrArg (Option.map Selection.matching) (decode_encode f)
    | nothing => rfl

instance : Lawful Plan where
  decode_encode p := Json.bind_fields?_record (by simp) (by simp [decode_encode])

end Wire

/-! ### Documents -/

/-- The document of a value whose JSON gives it back. -/
theorem deserialize_of_lawful {α : Type} [Wire α] [Wire.Lawful α] (a : α) :
    deserialize (serialize a) = some a := by
  unfold deserialize serialize
  rw [Json.read_render]
  exact Wire.Lawful.decode_encode a

/-- Filters, requests, orderings, selections and plans are read back from their documents as they
were, with texts of any characters, times of the whole calendar and durations of either sign. -/
theorem deserialize_serialize :
    (∀ f : Filter, deserialize (serialize f) = some f) ∧
    (∀ r : PageRequest, deserialize (serialize r) = some r) ∧
    (∀ s : SortOrder, deserialize (serialize s) = some s) ∧
    (∀ s : Selection, deserialize (serialize s) = some s) ∧
    ∀ p : Plan, deserialize (serialize p) = some p :=
  ⟨deserialize_of_lawful, deserialize_of_lawful, deserialize_of_lawful, deserialize_of_lawful,
    deserialize_of_lawful⟩

end Listing
