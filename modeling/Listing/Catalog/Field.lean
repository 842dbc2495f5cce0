import Listing.Text.Numeral
import Listing.Value

/-! # Fields

  Which attribute of which entity a filter or an ordering speaks of.
  The service knows attributes by selectors; expressions know them by
  paths, which a catalog resolves.
-/

namespace Listing

/-- What can be listed. -/
inductive EntityKind
  | session
  | task
  | result
  | partition
deriving DecidableEq, Repr

/-- The name of a kind of entity. -/
def EntityKind.name : EntityKind → String
  | .session => "Session"
  | .task => "Task"
  | .result => "Result"
  | .partition => "Partition"

/-- A kind of entity in messages. -/
def EntityKind.text : EntityKind → String
  | .session => "session"
  | .task => "task"
  | .result => "result"
  | .partition => "partition"

instance : Named EntityKind where
  members := [.session, .task, .result, .partition]
  name := EntityKind.name
  complete a := by cases a <;> decide
  distinct := by decide

/-- The group of attributes in which a code counts. -/
inductive FieldScope
  /-- The attributes of the entity itself. -/
  | summary
  /-- The options of its tasks. -/
  | taskOptions
deriving DecidableEq, Repr

/-- The name of a group. -/
def FieldScope.name : FieldScope → String
  | .summary => "Summary"
  | .taskOptions => "TaskOptions"

instance : Named FieldScope where
  members := [.summary, .taskOptions]
  name := FieldScope.name
  complete a := by cases a <;> decide
  distinct := by decide

/-- An attribute as the service knows it. -/
structure Selector where
  /-- The kind of entity. -/
  entity : EntityKind
  /-- The group of attributes. -/
  scope : FieldScope
  /-- The number of the attribute in its group. -/
  code : UInt16
deriving DecidableEq, Repr

/-- The selector in messages. -/
def Selector.text (s : Selector) : String :=
  let scope := match s.scope with
    | .summary => "#"
    | .taskOptions => ".options#"
  s.entity.text ++ scope ++ Text.natText s.code.toNat

/-- An attribute with the type of its values. -/
structure Field where
  /-- The attribute. -/
  selector : Selector
  /-- The declared type. -/
  type : TypeTag
deriving DecidableEq, Repr

end Listing
