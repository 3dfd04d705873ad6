import HeadUnit.User

/-!
# Outcomes of requests

The status with which a switch, a creation, a removal or an association call
ends, and the answer of the vehicle to the question which user should come up
at boot. Each status has a code; `ofCode?` reads it.
-/

namespace HeadUnit

/-- The text of a code that stands for nothing in its enumeration. -/
def unknownCode (enumeration : String) (n : Int64) : String :=
  enumeration ++ "(" ++ toString n.toInt ++ ")"

/-- How a switch request ended. -/
inductive SwitchStatus
  | successful
  | alreadyInForeground
  | alreadyBeingSwitchedTo
  | abandonedForNewerRequest
  | coordinatorFailure
  | coordinatorInternalFailure
  | osFailure
  | invalidRequest
  deriving DecidableEq, Repr

namespace SwitchStatus

def ofCode? (n : Int64) : Option SwitchStatus :=
  match n.toInt with
  | 1 => some successful
  | 2 => some alreadyInForeground
  | 3 => some alreadyBeingSwitchedTo
  | 4 => some abandonedForNewerRequest
  | 5 => some coordinatorFailure
  | 6 => some coordinatorInternalFailure
  | 7 => some osFailure
  | 8 => some invalidRequest
  | _ => none

def text : SwitchStatus → String
  | successful => "Successful"
  | alreadyInForeground => "AlreadyInForeground"
  | alreadyBeingSwitchedTo => "AlreadyBeingSwitchedTo"
  | abandonedForNewerRequest => "AbandonedForNewerRequest"
  | coordinatorFailure => "CoordinatorFailure"
  | coordinatorInternalFailure => "CoordinatorInternalFailure"
  | osFailure => "OSFailure"
  | invalidRequest => "InvalidRequest"

/-- Whether the target is in the foreground. -/
def isSuccess (s : SwitchStatus) : Bool := s == successful || s == alreadyInForeground

end SwitchStatus

/-- The one result of a switch request. -/
structure SwitchResult where
  status : SwitchStatus
  message : String
  deriving DecidableEq, Repr

/-- How the creation of a user ended. -/
inductive CreateStatus
  | successful
  | localFailure
  | coordinatorFailure
  | coordinatorInternalFailure
  | invalidRequest
  deriving DecidableEq, Repr

namespace CreateStatus

def ofCode? (n : Int64) : Option CreateStatus :=
  match n.toInt with
  | 1 => some successful
  | 2 => some localFailure
  | 3 => some coordinatorFailure
  | 4 => some coordinatorInternalFailure
  | 5 => some invalidRequest
  | _ => none

def text : CreateStatus → String
  | successful => "Successful"
  | localFailure => "AndroidFailure"
  | coordinatorFailure => "HalFailure"
  | coordinatorInternalFailure => "HalInternalFailure"
  | invalidRequest => "InvalidRequest"

end CreateStatus

/-- The result of a creation, with the new user on success. -/
structure CreateResult where
  status : CreateStatus
  user : Option User
  message : String
  deriving DecidableEq, Repr

/-- How the removal of a user ended. -/
inductive RemoveStatus
  | successful
  | successfulLastAdminRemoved
  | targetIsCurrentUser
  | userDoesNotExist
  | localFailure
  deriving DecidableEq, Repr

namespace RemoveStatus

def ofCode? (n : Int64) : Option RemoveStatus :=
  match n.toInt with
  | 1 => some successful
  | 2 => some successfulLastAdminRemoved
  | 3 => some targetIsCurrentUser
  | 4 => some userDoesNotExist
  | 5 => some localFailure
  | _ => none

def text : RemoveStatus → String
  | successful => "Successful"
  | successfulLastAdminRemoved => "SuccessfulLastAdminRemoved"
  | targetIsCurrentUser => "TargetIsCurrentUser"
  | userDoesNotExist => "UserDoesNotExist"
  | localFailure => "AndroidFailure"

/-- Whether the user is gone. -/
def isSuccess (s : RemoveStatus) : Bool := s == successful || s == successfulLastAdminRemoved

end RemoveStatus

/-- How an association call ended. -/
inductive AssociationStatus
  | successful
  | failure
  | notSupported
  | invalidRequest
  deriving DecidableEq, Repr

namespace AssociationStatus

def ofCode? (n : Int64) : Option AssociationStatus :=
  match n.toInt with
  | 1 => some successful
  | 2 => some failure
  | 3 => some notSupported
  | 4 => some invalidRequest
  | _ => none

def text : AssociationStatus → String
  | successful => "Successful"
  | failure => "Failure"
  | notSupported => "NotSupported"
  | invalidRequest => "InvalidRequest"

end AssociationStatus

/-- The result of an association call. No values differs from an empty list of
    values. -/
structure AssociationResult where
  status : AssociationStatus
  values : Option (List Int64)
  message : String
  deriving DecidableEq, Repr

/-- What the vehicle wants done about the boot user. Codes without a meaning
    are kept. -/
inductive InitialAction
  | default
  | switch
  | create
  | other (code : Int64)
  deriving DecidableEq, Repr

namespace InitialAction

def ofCode (n : Int64) : InitialAction :=
  match n.toInt with
  | 0 => default
  | 1 => switch
  | 2 => create
  | _ => other n

def text : InitialAction → String
  | default => "Default"
  | switch => "Switch"
  | create => "Create"
  | other n => unknownCode "InitialUserAction" n

end InitialAction

/-- The decision of the vehicle about the boot user. -/
structure InitialInfo where
  action : InitialAction
  /-- The user to switch to. -/
  user : UserId
  /-- Name and flags of the user to create. -/
  name : String
  flags : Flags
  locales : String
  deriving DecidableEq, Repr

/-- No decision: the default is kept. -/
def InitialInfo.blank : InitialInfo := ⟨.default, 0, "", Flags.none, ""⟩

end HeadUnit
