import Listing.Library.Callable

/-! # Functions of time -/

namespace Listing.Callable

open Time (Duration)

/-- A unit of time with functions of its own. -/
inductive TimeUnit
  | seconds
  | minutes
  | hours
  | days
deriving DecidableEq, Repr

namespace TimeUnit

/-- The unit in function names. -/
def name : TimeUnit → String
  | .seconds => "Seconds"
  | .minutes => "Minutes"
  | .hours => "Hours"
  | .days => "Days"

/-- How many seconds the unit has. -/
def length : TimeUnit → Int
  | .seconds => 1
  | .minutes => 60
  | .hours => 3600
  | .days => 86400

/-- The duration of `n` units. -/
def duration? (u : TimeUnit) (n : Int64) : Option Duration :=
  Duration.ofSeconds? (n.toInt * u.length)

end TimeUnit

/-- The time of evaluation. It is that of the scope, so all calls within one compilation agree on
it. -/
def utcNow : Callable
  | scope, [] => .ok (.timestamp scope.now)
  | _, args => .error (wrongCount "UtcNow" 0 args)

/-- A number of units as a duration. -/
def fromUnit (u : TimeUnit) : Callable
  | _, [.int n] =>
    match u.duration? n with
    | some d => .ok (.duration d)
    | none => .error (.overflow ("From" ++ u.name))
  | _, [v] => .error (wrongType ("From" ++ u.name) "int" v)
  | _, args => .error (wrongCount ("From" ++ u.name) 1 args)

/-- The time a number of units later. -/
def addUnit (u : TimeUnit) : Callable
  | _, [.timestamp t, .int n] =>
    match (u.duration? n).bind t.add? with
    | some t => .ok (.timestamp t)
    | none => .error (.overflow ("Add" ++ u.name))
  | _, [.timestamp _, v] => .error (wrongType ("Add" ++ u.name) "int" v)
  | _, [v, _] => .error (wrongType ("Add" ++ u.name) "timestamp" v)
  | _, args => .error (wrongCount ("Add" ++ u.name) 2 args)

end Listing.Callable
