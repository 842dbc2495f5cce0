/-! # Comparisons

  The six comparison operators, as conditions on how two values are
  ordered.
-/

namespace Listing

/-- A comparison operator. -/
inductive Comparison
  | equal
  | notEqual
  | less
  | lessOrEqual
  | greater
  | greaterOrEqual
deriving DecidableEq, Repr

namespace Comparison

/-- The operator's sign. -/
def text : Comparison → String
  | .equal => "=="
  | .notEqual => "!="
  | .less => "<"
  | .lessOrEqual => "<="
  | .greater => ">"
  | .greaterOrEqual => ">="

/-- The comparison is true of values in the given order. -/
def holds : Comparison → Ordering → Bool
  | .equal, o => o == .eq
  | .notEqual, o => o != .eq
  | .less, o => o == .lt
  | .lessOrEqual, o => o != .gt
  | .greater, o => o == .gt
  | .greaterOrEqual, o => o != .lt

/-- The comparison that is true exactly when this one is false. -/
def negate : Comparison → Comparison
  | .equal => .notEqual
  | .notEqual => .equal
  | .less => .greaterOrEqual
  | .lessOrEqual => .greater
  | .greater => .lessOrEqual
  | .greaterOrEqual => .less

/-- The same comparison with its operands exchanged. -/
def swap : Comparison → Comparison
  | .equal => .equal
  | .notEqual => .notEqual
  | .less => .greater
  | .lessOrEqual => .greaterOrEqual
  | .greater => .less
  | .greaterOrEqual => .lessOrEqual

/-- The comparison asks for equality or difference alone. -/
def isEquality : Comparison → Bool
  | .equal | .notEqual => true
  | _ => false

/-! ### Small facts -/

@[simp] theorem holds_negate (c : Comparison) (o : Ordering) :
    c.negate.holds o = !c.holds o := by
  cases c <;> cases o <;> rfl

@[simp] theorem holds_swap (c : Comparison) (o : Ordering) :
    c.swap.holds o = c.holds o.swap := by
  cases c <;> cases o <;> rfl

@[simp] theorem negate_negate (c : Comparison) : c.negate.negate = c := by cases c <;> rfl

@[simp] theorem swap_swap (c : Comparison) : c.swap.swap = c := by cases c <;> rfl

end Comparison
end Listing
