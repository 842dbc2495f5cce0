/-! # JSON documents

  A document as far as readers of records look at it. Whole numbers
  keep their value; a number written with a fraction, an exponent or
  as minus zero is only known to be one. A text whose escapes do not
  make up characters stays a text, of which nothing is known.
-/

namespace Listing

/-- A JSON value. -/
inductive Json
  | null
  | bool (b : Bool)
  /-- A number written as an integer, other than `-0`. -/
  | int (n : Int)
  /-- A number written in any other way. -/
  | decimal
  /-- A text; none if it escapes half of a surrogate pair. -/
  | string (text : Option String)
  | array (items : List Json)
  /-- Names and values in the order in which they are written. -/
  | object (members : List (Option String × Json))

namespace Json

instance : Inhabited Json := ⟨.null⟩

/-- A text that is known. -/
def text (s : String) : Json := .string (some s)

/-- Named values. -/
def record (members : List (String × Json)) : Json :=
  .object (members.map fun (name, value) => (some name, value))

end Json
end Listing
