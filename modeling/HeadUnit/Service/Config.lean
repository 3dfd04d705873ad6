import HeadUnit.Fault
import HeadUnit.Time.Duration

/-!
# Service configuration

Fields that are zero take their defaults; then at least two users may run and
both timeouts are positive.
-/

namespace HeadUnit.Service

/-- The configuration of a service. -/
structure Config where
  /-- The folder of the state file; empty keeps the state in memory. -/
  stateDir : String := ""
  /-- How many users may run at once, the system user included. -/
  maxRunning : Int64 := 0
  coordinatorTimeout : Duration := 0
  headless : Bool := false
  shutdownTimeout : Duration := 0
  deriving DecidableEq, Repr

namespace Config

/-- Fills in the defaults of fields that are zero. -/
def withDefaults (c : Config) : Config :=
  { c with
    maxRunning := if c.maxRunning = 0 then 3 else c.maxRunning
    coordinatorTimeout :=
      if c.coordinatorTimeout = 0 then 5 * Duration.second else c.coordinatorTimeout
    shutdownTimeout := if c.shutdownTimeout = 0 then 30 * Duration.second else c.shutdownTimeout }

/-- The configuration with nothing set. -/
def default : Config := withDefaults {}

/-- What is wrong with a configuration, if anything. -/
def problem? (c : Config) : Option ConfigProblem :=
  if c.maxRunning < 2 then some (.tooFewRunning c.maxRunning)
  else if c.coordinatorTimeout ≤ 0 then some .coordinatorTimeout
  else if c.shutdownTimeout ≤ 0 then some .shutdownTimeout
  else none

end Config

end HeadUnit.Service
