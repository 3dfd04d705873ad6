import HeadUnit.Lifecycle.Phase
import HeadUnit.Outcome

/-!
# Faults

Why an operation failed. Every cause is a constructor; `Fault.message` is the
one place that words them.
-/

namespace HeadUnit

/-- The calls of which the vehicle takes one at a time. -/
inductive RequestKind
  | create
  | setAssociation
  deriving DecidableEq, Repr

def RequestKind.text : RequestKind → String
  | create => "create"
  | setAssociation => "set_association"

/-- What is wrong with a service configuration. -/
inductive ConfigProblem
  | tooFewRunning (n : Int64)
  | coordinatorTimeout
  | shutdownTimeout
  | noSessions
  | noUsers
  deriving DecidableEq, Repr

def ConfigProblem.message : ConfigProblem → String
  | tooFewRunning n => "max running users must be at least 2, got " ++ toString n.toInt
  | coordinatorTimeout => "coordinator timeout must be positive"
  | shutdownTimeout => "shutdown timeout must be positive"
  | noSessions => "a session manager is required"
  | noUsers => "an identity store is required"

/-- The step of reading or writing the state file that failed. -/
inductive FileStage
  | read
  | decode
  | createFolder
  | createPending
  | replace
  deriving DecidableEq, Repr

def FileStage.message : FileStage → String
  | read => "read state file"
  | decode => "decode state file"
  | createFolder => "create state dir"
  | createPending => "create pending state file"
  | replace => "atomically replace state file"

/-- Why an operation failed. -/
inductive Fault
  | alreadyRunning
  | notRunning
  | shutdownTimeout
  | invalidConfig (problem : ConfigProblem)
  | noSuchUser (id : UserId)
  | noSuchParent (id : UserId)
  | notSupported
  /-- Another request of the kind is pending; the kind is known to whoever
      refuses it. -/
  | requestPending (kind : Option RequestKind)
  | malformedResponse
  | listenerMissing
  /-- The listener cannot be told from others; `type` describes it. -/
  | listenerNotComparable (type : String)
  | handleMissing (uid : Int64)
  | invalidTransition (source target : Phase)
  /-- The workers did not return in time. -/
  | workersOverdue
  /-- The vehicle did not answer in time. -/
  | tripTimeout
  | canceled
  | deadline
  | userNotStarted (id : UserId)
  | userInForeground (id : UserId)
  | noSwitchHandler (target : UserId)
  | noToken
  | stateFile (stage : FileStage)
  | driverNotCreated (number : Nat) (status : CreateStatus) (message : String)
  /-- A fault reported from outside, in its own words. -/
  | told (message : String)
  /-- A fault passed on with words before it. -/
  | wrapped (context : String) (cause : Fault)
  deriving DecidableEq, Repr

namespace Fault

/-- The wording of a fault. -/
def message : Fault → String
  | alreadyRunning => "usercoord: already running"
  | notRunning => "usercoord: not running"
  | shutdownTimeout => "usercoord: shutdown timeout"
  | invalidConfig p => "usercoord: invalid configuration: " ++ p.message
  | noSuchUser id => "user " ++ id.text ++ ": usercoord: user not found"
  | noSuchParent id => "profile parent " ++ id.text ++ ": usercoord: user not found"
  | notSupported => "usercoord: coordinator capability not supported"
  | requestPending kind =>
    (match kind with
      | some k => k.text ++ ": "
      | none => "") ++ "usercoord: request of the same kind already pending"
  | malformedResponse => "usercoord: malformed coordinator response"
  | listenerMissing => "nil listener: usercoord: listener is not comparable"
  | listenerNotComparable t => t ++ ": usercoord: listener is not comparable"
  | handleMissing uid =>
    "register remote listener for uid " ++ toString uid.toInt ++ ": nil handle"
  | invalidTransition a b => "invalid lifecycle transition: " ++ a.text ++ " -> " ++ b.text
  | workersOverdue => "shutdown timeout"
  | tripTimeout => "coordinator request timed out"
  | canceled => "context canceled"
  | deadline => "context deadline exceeded"
  | userNotStarted id => "unlock user " ++ id.text ++ ": not running"
  | userInForeground id => "stop user " ++ id.text ++ ": user is in the foreground"
  | noSwitchHandler id => "initiate switch to " ++ id.text ++ ": no switch handler"
  | noToken => "approval without correlation token"
  | stateFile s => s.message
  | driverNotCreated n s m =>
    "create driver " ++ toString n ++ ": " ++ s.text ++ ": " ++ m
  | told m => m
  | wrapped c f => c ++ ": " ++ f.message

/-- The fault without the words it was passed on with. -/
def root : Fault → Fault
  | wrapped _ f => f.root
  | f => f

/-- Whether the fault is, or passes on, a missed deadline. -/
def isDeadline (f : Fault) : Bool := f.root == deadline

/-- Whether the fault is, or passes on, a cancellation. -/
def isCanceled (f : Fault) : Bool := f.root == canceled

end Fault

end HeadUnit
