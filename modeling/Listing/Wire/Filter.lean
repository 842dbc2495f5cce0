import Listing.Filter.Basic
import Listing.Wire.Basic

/-! # Filters as documents -/

namespace Listing.Wire

open Time (Timestamp Duration)

/-! ### Fields -/

instance : Wire EntityKind := ofNamed
instance : Wire FieldScope := ofNamed

instance : Wire Selector where
  encode s := .record
    [("entity", encode s.entity), ("scope", encode s.scope), ("code", encode s.code)]
  decode j := do
    match ← j.fields? ["entity", "scope", "code"] with
    | [entity, scope, code] => some ⟨← decode entity, ← decode scope, ← decode code⟩
    | _ => none

instance : Wire StatusFamily := ofNamed

/-- The name of a type in documents. -/
def typeName : TypeTag → String
  | .boolean => "Boolean"
  | .int => "Int"
  | .string => "String"
  | .timestamp => "Timestamp"
  | .duration => "Duration"
  | .status _ => "Status"
  | .bytes => "Bytes"
  | .list => "List"
  | .array => "Array"

/-- The types without parameters. -/
def plainTypes : List TypeTag :=
  [.boolean, .int, .string, .timestamp, .duration, .bytes, .list, .array]

instance : Wire TypeTag where
  encode
    | .status family => .tagged "Status" (encode family)
    | type => .text (typeName type)
  decode j :=
    match j.alternative? with
    | some ("Status", some family) => (decode family).map .status
    | some (name, none) | some (name, some .null) => plainTypes.find? (typeName · == name)
    | _ => none

/-! ### Operands -/

instance : Wire SessionStatus := ofNamed
instance : Wire TaskStatus := ofNamed
instance : Wire ResultStatus := ofNamed

instance : Wire Status where
  encode
    | .session s => .tagged "Session" (encode s)
    | .task s => .tagged "Task" (encode s)
    | .result s => .tagged "Result" (encode s)
  decode j :=
    match j.alternative? with
    | some ("Session", some s) => (decode s).map .session
    | some ("Task", some s) => (decode s).map .task
    | some ("Result", some s) => (decode s).map .result
    | _ => none

instance : Wire Timestamp where
  encode t := .text t.zuluText
  decode
    | .string (some s) => Timestamp.read? s.toList
    | _ => none

/-- The duration of seconds and nanoseconds of any sign. The whole seconds that are among the
nanoseconds are carried over, so that those left go forth from a second. -/
def ofSecondsAndNanos? (seconds nanos : Int) : Option Duration := do
  let whole ← Word.ofInt? (seconds + nanos / Time.nanosPerSecond)
  Duration.ofParts? whole.toInt (nanos % Time.nanosPerSecond).toNat

/-- Durations travel as whole seconds and the nanoseconds beyond them. Any number of
nanoseconds that fits 32 bits is read, of either sign. -/
instance : Wire Duration where
  encode d := .record [("seconds", .int d.wholeSeconds), ("nanos", .int d.subsecondNanos)]
  decode j := do
    match ← j.fields? ["seconds", "nanos"] with
    | [.int seconds, .int nanos] =>
      if Word.Fits seconds ∧ -2147483648 ≤ nanos ∧ nanos < 2147483648 then
        ofSecondsAndNanos? seconds nanos
      else none
    | _ => none

/-! ### Conditions -/

instance : Wire StringOperator := ofNamed
instance : Wire NumberOperator := ofNamed
instance : Wire DateOperator := ofNamed
instance : Wire DurationOperator := ofNamed
instance : Wire StatusOperator := ofNamed
instance : Wire ArrayOperator := ofNamed
instance : Wire BooleanOperator := ofNamed

/-- The operand and the operator of a condition. -/
def encodeOperation {α β : Type} [Wire α] [Wire β] (operator : α) (value : β) : Json :=
  .record [("value", encode value), ("operator", encode operator)]

/-- The condition that `build` makes of an operator and an operand. -/
def decodeOperation {α β γ : Type} [Wire α] [Wire β] (build : α → β → γ) (j : Json) :
    Option γ := do
  match ← j.fields? ["value", "operator"] with
  | [value, operator] =>
    let value ← decode value
    some (build (← decode operator) value)
  | _ => none

instance : Wire Condition where
  encode
    | .string op v => .tagged "String" (encodeOperation op v)
    | .number op v => .tagged "Number" (encodeOperation op v)
    | .date op v => .tagged "Date" (encodeOperation op v)
    | .duration op v => .tagged "Duration" (encodeOperation op v)
    | .status op v => .tagged "Status" (encodeOperation op v)
    | .array op v => .tagged "Array" (encodeOperation op v)
    | .boolean op v => .tagged "Boolean" (encodeOperation op v)
  decode j :=
    match j.alternative? with
    | some ("String", some c) => decodeOperation Condition.string c
    | some ("Number", some c) => decodeOperation Condition.number c
    | some ("Date", some c) => decodeOperation Condition.date c
    | some ("Duration", some c) => decodeOperation Condition.duration c
    | some ("Status", some c) => decodeOperation Condition.status c
    | some ("Array", some c) => decodeOperation Condition.array c
    | some ("Boolean", some c) => decodeOperation Condition.boolean c
    | _ => none

/-! ### Filters -/

instance : Wire FieldTest where
  encode t := .record [("selector", encode t.selector), ("condition", encode t.condition)]
  decode j := do
    match ← j.fields? ["selector", "condition"] with
    | [selector, condition] => some ⟨← decode selector, ← decode condition⟩
    | _ => none

instance : Wire Conjunction where
  encode c := .record [("fields", encode c.tests)]
  decode j := do
    match ← j.fields? ["fields"] with
    | [tests] => some ⟨← decode tests⟩
    | _ => none

instance : Wire Filter where
  encode f := .record [("and", encode f.alternatives)]
  decode j := do
    match ← j.fields? ["and"] with
    | [alternatives] => some ⟨← decode alternatives⟩
    | _ => none

end Listing.Wire
