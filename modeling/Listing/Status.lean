import Listing.Named

/-! # Statuses

  The life-cycle states of sessions, tasks and results. A status
  belongs to one family, and statuses of different families are never
  equal.
-/

namespace Listing

/-- Whose life cycle a status belongs to. -/
inductive StatusFamily
  | session
  | task
  | result
deriving DecidableEq, Repr

/-- The states of a session. -/
inductive SessionStatus
  | unspecified
  | running
  | cancelled
  | paused
  | closed
  | purged
  | deleted
deriving DecidableEq, Repr

/-- The states of a task. -/
inductive TaskStatus
  | unspecified
  | creating
  | submitted
  | dispatched
  | completed
  | error
  | timeout
  | cancelling
  | cancelled
  | processing
  | processed
  | retried
  | pending
  | paused
deriving DecidableEq, Repr

/-- The states of a result. -/
inductive ResultStatus
  | unspecified
  | created
  | completed
  | aborted
  | deleted
deriving DecidableEq, Repr

/-- A status of any family. -/
inductive Status
  | session (status : SessionStatus)
  | task (status : TaskStatus)
  | result (status : ResultStatus)
deriving DecidableEq, Repr

/-! ### Names -/

/-- The short name of a family. -/
def StatusFamily.name : StatusFamily → String
  | .session => "Session"
  | .task => "Task"
  | .result => "Result"

/-- The name of the type of a family's statuses. -/
def StatusFamily.text (f : StatusFamily) : String := f.name ++ "Status"

/-- The name of a session's state. -/
def SessionStatus.name : SessionStatus → String
  | .unspecified => "Unspecified"
  | .running => "Running"
  | .cancelled => "Cancelled"
  | .paused => "Paused"
  | .closed => "Closed"
  | .purged => "Purged"
  | .deleted => "Deleted"

/-- The name of a task's state. -/
def TaskStatus.name : TaskStatus → String
  | .unspecified => "Unspecified"
  | .creating => "Creating"
  | .submitted => "Submitted"
  | .dispatched => "Dispatched"
  | .completed => "Completed"
  | .error => "Error"
  | .timeout => "Timeout"
  | .cancelling => "Cancelling"
  | .cancelled => "Cancelled"
  | .processing => "Processing"
  | .processed => "Processed"
  | .retried => "Retried"
  | .pending => "Pending"
  | .paused => "Paused"

/-- The name of a result's state. -/
def ResultStatus.name : ResultStatus → String
  | .unspecified => "Unspecified"
  | .created => "Created"
  | .completed => "Completed"
  | .aborted => "Aborted"
  | .deleted => "Deleted"

instance : Named StatusFamily where
  members := [.session, .task, .result]
  name := StatusFamily.name
  complete a := by cases a <;> decide
  distinct := by decide

instance : Named SessionStatus where
  members := [.unspecified, .running, .cancelled, .paused, .closed, .purged, .deleted]
  name := SessionStatus.name
  complete a := by cases a <;> decide
  distinct := by decide

instance : Named TaskStatus where
  members := [.unspecified, .creating, .submitted, .dispatched, .completed, .error, .timeout,
    .cancelling, .cancelled, .processing, .processed, .retried, .pending, .paused]
  name := TaskStatus.name
  complete a := by cases a <;> decide
  distinct := by decide

instance : Named ResultStatus where
  members := [.unspecified, .created, .completed, .aborted, .deleted]
  name := ResultStatus.name
  complete a := by cases a <;> decide
  distinct := by decide

/-! ### Parts of a status -/

namespace Status

/-- The family a status belongs to. -/
def family : Status → StatusFamily
  | .session _ => .session
  | .task _ => .task
  | .result _ => .result

/-- The name of the state, without its family. -/
def name : Status → String
  | .session s => s.name
  | .task s => s.name
  | .result s => s.name

/-- The number of the state in its family, in order of declaration from 0. -/
def code : Status → Nat
  | .session s => s.ctorIdx
  | .task s => s.ctorIdx
  | .result s => s.ctorIdx

/-- The family and the state, joined by a point. -/
def text (s : Status) : String := s.family.text ++ "." ++ s.name

end Status
end Listing
