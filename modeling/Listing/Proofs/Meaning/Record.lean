import Mathlib.Data.List.Infix
import Listing.Catalog.Entities
import Listing.Filter.Basic
import Listing.Proofs.Meaning.Filter

/-! # Records

  A record gives a value to every attribute. Here stands what the tests
  of a filter ask of these values, in terms of equality, order and parts
  of texts, apart from how an expression is evaluated. Only records are
  looked at whose values have the types that a catalog declares.
-/

namespace Listing

/-- The values of all attributes. -/
abbrev Record := Selector → Value

/-! ### Declared types -/

/-- The value is one for fields of the declared type. Several texts are a list of them. -/
def TypeTag.Admits : TypeTag → Value → Prop
  | .array, v => ∃ texts : List String, v = .list (texts.map .string)
  | type, v => v.type = type

/-- Every field of the catalog has a value of its declared type. -/
def Record.Fits (r : Record) (c : Catalog) : Prop :=
  ∀ path f, c.lookup path = some f → f.type.Admits (r f.selector)

/-! ### Conditions on values -/

/-- The operator is true of a text and its right operand. -/
def StringOperator.holds (op : StringOperator) (s t : String) : Bool :=
  match op with
  | .equal => s = t
  | .notEqual => s ≠ t
  | .startsWith => t.toList <+: s.toList
  | .endsWith => t.toList <:+ s.toList
  | .contains => t.toList <:+: s.toList
  | .notContains => ¬t.toList <:+: s.toList

/-- What the operator asks of the order of two numbers. -/
def NumberOperator.comparison : NumberOperator → Comparison
  | .equal => .equal
  | .notEqual => .notEqual
  | .lessThan => .less
  | .lessThanOrEqual => .lessOrEqual
  | .greaterThan => .greater
  | .greaterThanOrEqual => .greaterOrEqual

/-- What the operator asks of the order of two times. -/
def DateOperator.comparison : DateOperator → Comparison
  | .equal => .equal
  | .notEqual => .notEqual
  | .before => .less
  | .beforeOrEqual => .lessOrEqual
  | .after => .greater
  | .afterOrEqual => .greaterOrEqual

/-- What the operator asks of the order of two durations. -/
def DurationOperator.comparison : DurationOperator → Comparison
  | .equal => .equal
  | .notEqual => .notEqual
  | .shorterThan => .less
  | .shorterThanOrEqual => .lessOrEqual
  | .longerThan => .greater
  | .longerThanOrEqual => .greaterOrEqual

/-- The condition is true of a value; it is false of values that it is not meant for. -/
def Condition.holds : Condition → Value → Bool
  | .string op t, .string s => op.holds s t
  | .number op b, .int a => op.comparison.holds (compare a.toInt b.toInt)
  | .date op b, .timestamp a => op.comparison.holds (a.order b)
  | .duration op b, .duration a => op.comparison.holds (compare a.nanos b.nanos)
  | .status .equal b, .status a => a = b
  | .status .notEqual b, .status a => a ≠ b
  | .array .contains t, .list items => .string t ∈ items
  | .array .notContains t, .list items => .string t ∉ items
  | .boolean .is b, .boolean a => a = b
  | .boolean .isNot b, .boolean a => a ≠ b
  | _, _ => false

/-- The test is true of the record. -/
def FieldTest.holds (r : Record) (t : FieldTest) : Bool := t.condition.holds (r t.selector)

/-! ### Small facts -/

@[simp] theorem NumberOperator.comparison_number (c : Comparison) : c.number.comparison = c := by
  cases c <;> rfl

@[simp] theorem DateOperator.comparison_date (c : Comparison) : c.date.comparison = c := by
  cases c <;> rfl

@[simp] theorem DurationOperator.comparison_duration (c : Comparison) :
    c.duration.comparison = c := by
  cases c <;> rfl

theorem TypeTag.Admits.boolean {v : Value} (h : TypeTag.boolean.Admits v) :
    ∃ b, v = .boolean b := by
  cases v with
  | boolean b => exact ⟨b, rfl⟩
  | _ => cases h

theorem TypeTag.Admits.eq_boolean {type : TypeTag} {b : Bool} (h : type.Admits (.boolean b)) :
    type = .boolean := by
  cases type with
  | array => obtain ⟨texts, htexts⟩ := h; cases htexts
  | _ => exact h.symm

theorem TypeTag.Admits.int {v : Value} (h : TypeTag.int.Admits v) : ∃ n, v = .int n := by
  cases v with
  | int n => exact ⟨n, rfl⟩
  | _ => cases h

theorem TypeTag.Admits.string {v : Value} (h : TypeTag.string.Admits v) :
    ∃ s, v = .string s := by
  cases v with
  | string s => exact ⟨s, rfl⟩
  | _ => cases h

theorem TypeTag.Admits.timestamp {v : Value} (h : TypeTag.timestamp.Admits v) :
    ∃ t, v = .timestamp t := by
  cases v with
  | timestamp t => exact ⟨t, rfl⟩
  | _ => cases h

theorem TypeTag.Admits.duration {v : Value} (h : TypeTag.duration.Admits v) :
    ∃ d, v = .duration d := by
  cases v with
  | duration d => exact ⟨d, rfl⟩
  | _ => cases h

theorem TypeTag.Admits.status {family : StatusFamily} {v : Value}
    (h : (TypeTag.status family).Admits v) : ∃ s, v = .status s := by
  cases v with
  | status s => exact ⟨s, rfl⟩
  | _ => cases h

theorem Record.fits_of_entries {r : Record} {c : Catalog}
    (h : ∀ e ∈ c.fields.entries, e.2.type.Admits (r e.2.selector)) : r.Fits c := by
  intro path f hf
  exact h (path, f) (Table.mem_of_get? hf)

/-- The partition `c`, a child of `root`, whose numbers are all 20. -/
def Record.partition : Record := fun s =>
  if s.code = 1 then .string "c" else if s.code = 2 then .list [.string "root"] else .int 20

theorem Record.fits_partition : Record.partition.Fits (.ofEntity .partition) := by
  refine Record.fits_of_entries ?_
  show ∀ e ∈ Catalog.partitionFields, e.2.type.Admits (Record.partition e.2.selector)
  simp only [Catalog.partitionFields, List.forall_mem_cons]
  exact ⟨rfl, ⟨["root"], rfl⟩, rfl, rfl, rfl, rfl, nofun⟩

end Listing
