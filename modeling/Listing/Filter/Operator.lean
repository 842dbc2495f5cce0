import Listing.Comparison
import Listing.Named

/-! # Operators of a filter

  Each type of field has operators of its own. The ordered types have
  all six comparisons, each under the words that suit the type.
-/

namespace Listing

/-- Conditions on a text. -/
inductive StringOperator
  | equal
  | notEqual
  | startsWith
  | endsWith
  | contains
  | notContains
deriving DecidableEq, Repr

/-- Conditions on a number. -/
inductive NumberOperator
  | equal
  | notEqual
  | lessThan
  | lessThanOrEqual
  | greaterThan
  | greaterThanOrEqual
deriving DecidableEq, Repr

/-- Conditions on a time. -/
inductive DateOperator
  | equal
  | notEqual
  | before
  | beforeOrEqual
  | after
  | afterOrEqual
deriving DecidableEq, Repr

/-- Conditions on a duration. -/
inductive DurationOperator
  | equal
  | notEqual
  | shorterThan
  | shorterThanOrEqual
  | longerThan
  | longerThanOrEqual
deriving DecidableEq, Repr

/-- Conditions on a status. -/
inductive StatusOperator
  | equal
  | notEqual
deriving DecidableEq, Repr

/-- Conditions on a collection of texts. -/
inductive ArrayOperator
  | contains
  | notContains
deriving DecidableEq, Repr

/-- Conditions on a truth value. -/
inductive BooleanOperator
  | is
  | isNot
deriving DecidableEq, Repr

/-! ### Names -/

instance : Named StringOperator where
  members := [.equal, .notEqual, .startsWith, .endsWith, .contains, .notContains]
  name
    | .equal => "Equal"
    | .notEqual => "NotEqual"
    | .startsWith => "StartsWith"
    | .endsWith => "EndsWith"
    | .contains => "Contains"
    | .notContains => "NotContains"
  complete a := by cases a <;> decide
  distinct := by decide

instance : Named NumberOperator where
  members := [.equal, .notEqual, .lessThan, .lessThanOrEqual, .greaterThan, .greaterThanOrEqual]
  name
    | .equal => "Equal"
    | .notEqual => "NotEqual"
    | .lessThan => "LessThan"
    | .lessThanOrEqual => "LessThanOrEqual"
    | .greaterThan => "GreaterThan"
    | .greaterThanOrEqual => "GreaterThanOrEqual"
  complete a := by cases a <;> decide
  distinct := by decide

instance : Named DateOperator where
  members := [.equal, .notEqual, .before, .beforeOrEqual, .after, .afterOrEqual]
  name
    | .equal => "Equal"
    | .notEqual => "NotEqual"
    | .before => "Before"
    | .beforeOrEqual => "BeforeOrEqual"
    | .after => "After"
    | .afterOrEqual => "AfterOrEqual"
  complete a := by cases a <;> decide
  distinct := by decide

instance : Named DurationOperator where
  members := [.equal, .notEqual, .shorterThan, .shorterThanOrEqual, .longerThan,
    .longerThanOrEqual]
  name
    | .equal => "Equal"
    | .notEqual => "NotEqual"
    | .shorterThan => "ShorterThan"
    | .shorterThanOrEqual => "ShorterThanOrEqual"
    | .longerThan => "LongerThan"
    | .longerThanOrEqual => "LongerThanOrEqual"
  complete a := by cases a <;> decide
  distinct := by decide

instance : Named StatusOperator where
  members := [.equal, .notEqual]
  name
    | .equal => "Equal"
    | .notEqual => "NotEqual"
  complete a := by cases a <;> decide
  distinct := by decide

instance : Named ArrayOperator where
  members := [.contains, .notContains]
  name
    | .contains => "Contains"
    | .notContains => "NotContains"
  complete a := by cases a <;> decide
  distinct := by decide

instance : Named BooleanOperator where
  members := [.is, .isNot]
  name
    | .is => "Is"
    | .isNot => "IsNot"
  complete a := by cases a <;> decide
  distinct := by decide

/-! ### Comparisons of the ordered types -/

namespace Comparison

/-- The comparison of numbers. -/
def number : Comparison → NumberOperator
  | .equal => .equal
  | .notEqual => .notEqual
  | .less => .lessThan
  | .lessOrEqual => .lessThanOrEqual
  | .greater => .greaterThan
  | .greaterOrEqual => .greaterThanOrEqual

/-- The comparison of times. -/
def date : Comparison → DateOperator
  | .equal => .equal
  | .notEqual => .notEqual
  | .less => .before
  | .lessOrEqual => .beforeOrEqual
  | .greater => .after
  | .greaterOrEqual => .afterOrEqual

/-- The comparison of durations. -/
def duration : Comparison → DurationOperator
  | .equal => .equal
  | .notEqual => .notEqual
  | .less => .shorterThan
  | .lessOrEqual => .shorterThanOrEqual
  | .greater => .longerThan
  | .greaterOrEqual => .longerThanOrEqual

end Comparison
end Listing
