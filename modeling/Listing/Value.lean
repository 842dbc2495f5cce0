import Listing.Status
import Listing.Text.Quoted
import Listing.Time.Rfc3339

/-! # Values

  The constants of a query and the types that fields and constants
  have. Numbers, texts, times, durations and truth values are ordered
  within their type; statuses, bytes and lists can only be equal or
  different.
-/

namespace Listing

open Time (Timestamp Duration)

/-- The type of a constant, or the declared type of a field. -/
inductive TypeTag
  | boolean
  | int
  | string
  | timestamp
  | duration
  | status (family : StatusFamily)
  | bytes
  /-- A list of constants. -/
  | list
  /-- A field that holds several strings. -/
  | array
deriving DecidableEq, Repr

namespace TypeTag

/-- The name of a type in messages. -/
def text : TypeTag → String
  | .boolean => "bool"
  | .int => "int"
  | .string => "string"
  | .timestamp => "timestamp"
  | .duration => "duration"
  | .status family => family.text
  | .bytes => "bytes"
  | .list => "list"
  | .array => "array"

/-- Fields of the type can be compared by order. -/
def isOrdered : TypeTag → Bool
  | .int | .timestamp | .duration => true
  | _ => false

end TypeTag

/-- A constant. -/
inductive Value
  | boolean (b : Bool)
  | int (n : Int64)
  | string (s : String)
  | timestamp (t : Timestamp)
  | duration (d : Duration)
  | status (s : Status)
  | bytes (b : List UInt8)
  | list (items : List Value)

namespace Value

instance : Inhabited Value := ⟨.boolean false⟩

/-! ### Equality -/

mutual

/-- Both values are the same. -/
def same : Value → Value → Bool
  | .boolean a, .boolean b => a == b
  | .int a, .int b => a == b
  | .string a, .string b => a == b
  | .timestamp a, .timestamp b => a == b
  | .duration a, .duration b => a == b
  | .status a, .status b => a == b
  | .bytes a, .bytes b => a == b
  | .list a, .list b => sameAll a b
  | _, _ => false

/-- Both lists hold the same values in the same order. -/
def sameAll : List Value → List Value → Bool
  | [], [] => true
  | a :: as, b :: bs => a.same b && sameAll as bs
  | _, _ => false

end

mutual

theorem same_iff : ∀ a b : Value, a.same b = true ↔ a = b
  | .list a, .list b => by simp [same, sameAll_iff a b]
  | .boolean _, b => by cases b <;> simp [same]
  | .int _, b => by cases b <;> simp [same]
  | .string _, b => by cases b <;> simp [same]
  | .timestamp _, b => by cases b <;> simp [same]
  | .duration _, b => by cases b <;> simp [same]
  | .status _, b => by cases b <;> simp [same]
  | .bytes _, b => by cases b <;> simp [same]
  | .list _, .boolean _ | .list _, .int _ | .list _, .string _ | .list _, .timestamp _
  | .list _, .duration _ | .list _, .status _ | .list _, .bytes _ => by simp [same]

theorem sameAll_iff : ∀ a b : List Value, sameAll a b = true ↔ a = b
  | [], [] => by simp [sameAll]
  | [], _ :: _ => by simp [sameAll]
  | _ :: _, [] => by simp [sameAll]
  | a :: as, b :: bs => by simp [sameAll, same_iff a b, sameAll_iff as bs]

end

instance : DecidableEq Value := fun a b => decidable_of_iff (a.same b = true) (same_iff a b)

/-! ### Types and parts -/

/-- The type of a constant. -/
def type : Value → TypeTag
  | .boolean _ => .boolean
  | .int _ => .int
  | .string _ => .string
  | .timestamp _ => .timestamp
  | .duration _ => .duration
  | .status s => .status s.family
  | .bytes _ => .bytes
  | .list _ => .list

/-- The truth value, of a value that is one. -/
def bool? : Value → Option Bool
  | .boolean b => some b
  | _ => none

/-- The text, of a value that is one. -/
def string? : Value → Option String
  | .string s => some s
  | _ => none

/-- The number, of a value that is one. -/
def int? : Value → Option Int64
  | .int n => some n
  | _ => none

/-! ### Order -/

/-- How two values compare. Values without an order compare only when they are equal. -/
def order? : Value → Value → Option Ordering
  | .int a, .int b => some (compare a.toInt b.toInt)
  | .string a, .string b => some (compare a b)
  | .timestamp a, .timestamp b => some (a.order b)
  | .duration a, .duration b => some (compare a.nanos b.nanos)
  | .boolean a, .boolean b => some (compare a b)
  | .status a, .status b => if a = b then some .eq else none
  | .bytes a, .bytes b => if a = b then some .eq else none
  | .list a, .list b => if a = b then some .eq else none
  | _, _ => none

/-! ### Text -/

/-- One byte as two hexadecimal digits. -/
def byteText (b : UInt8) : List Char := [Nat.digitChar (b.toNat / 16), Nat.digitChar (b.toNat % 16)]

mutual

/-- The value as it appears in messages. -/
def text : Value → String
  | .boolean b => if b then "true" else "false"
  | .int n => Text.intText n.toInt
  | .string s => Text.quote s
  | .timestamp t => t.text
  | .duration d => d.text
  | .status s => s.text
  | .bytes b => "0x" ++ .ofList (b.flatMap byteText)
  | .list items => "[" ++ ", ".intercalate (texts items) ++ "]"

/-- The texts of several values. -/
def texts : List Value → List String
  | [] => []
  | v :: vs => v.text :: texts vs

end

end Value
end Listing
