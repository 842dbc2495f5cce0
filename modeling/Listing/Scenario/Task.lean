import Listing.Catalog.Entities
import Listing.Compile.Predicate

/-! # Task listings at a fixed time

  Ready-made parts of scenarios: a pinned time, predicates about
  tasks, and tests of task fields.
-/

namespace Listing.Scenario

open Time (Timestamp)

/-- Noon of 1 March 2024. -/
def noon : Timestamp := ⟨1709294400, 0, by decide⟩

/-- What predicates about an entity are compiled by at noon, with nothing captured. -/
def compilerAtNoon (entity : EntityKind) : Compiler :=
  ⟨.ofEntity entity, .builtin, ⟨.empty, noon⟩⟩

/-- A predicate about tasks, compiled with the functions that every library starts with. -/
def compileTasks (captured : Table Value) (now : Timestamp) (p : Lambda) :
    Except CompileError Compiled :=
  Compiler.compile ⟨.ofEntity .task, .builtin, ⟨captured, now⟩⟩ p

/-- The task has the status. -/
def statusIs (status : TaskStatus) : FieldTest :=
  ⟨⟨.task, .summary, 5⟩, .status .equal (.task status)⟩

/-- The name of the task's application starts with the text. -/
def applicationStartsWith (text : String) : FieldTest :=
  ⟨⟨.task, .taskOptions, 5⟩, .string .startsWith text⟩

/-- The priority of the task meets the condition. -/
def priority (operator : NumberOperator) (value : Int64) : FieldTest :=
  ⟨⟨.task, .taskOptions, 3⟩, .number operator value⟩

/-- The limit on retries of the task meets the condition. -/
def maxRetries (operator : NumberOperator) (value : Int64) : FieldTest :=
  ⟨⟨.task, .taskOptions, 2⟩, .number operator value⟩

end Listing.Scenario
