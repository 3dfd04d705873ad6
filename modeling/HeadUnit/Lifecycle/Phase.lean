/-!
# Phases of a service

A service is stopped, starting, running, stopping or crashed. `Phase.canMove`
is the table of allowed changes.
-/

namespace HeadUnit

/-- The phase of a service. A code without a meaning reads as `unknown`, which
    nothing leads to or from. -/
inductive Phase
  | stopped
  | starting
  | running
  | stopping
  | crashed
  | unknown
  deriving DecidableEq, Repr

namespace Phase

def ofCode (n : Int64) : Phase :=
  match n.toInt with
  | 0 => stopped
  | 1 => starting
  | 2 => running
  | 3 => stopping
  | 4 => crashed
  | _ => unknown

def text : Phase → String
  | stopped => "Stopped"
  | starting => "Starting"
  | running => "Running"
  | stopping => "Stopping"
  | crashed => "Crashed"
  | unknown => "Unknown"

/-- The phases reachable in one change. -/
def next : Phase → List Phase
  | stopped => [starting]
  | starting => [running, crashed]
  | running => [stopping, crashed]
  | stopping => [stopped, crashed]
  | crashed => [starting, stopping]
  | unknown => []

/-- Whether the change from `a` to `b` is allowed. -/
def canMove (a b : Phase) : Bool := a.next.contains b

/-- Whether a start may be tried. -/
def canStart (p : Phase) : Bool := p == stopped || p == crashed

/-- Whether a stop may be tried. -/
def canStop (p : Phase) : Bool := p == running || p == crashed

end Phase

end HeadUnit
