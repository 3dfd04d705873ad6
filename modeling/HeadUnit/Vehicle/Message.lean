import HeadUnit.Fault
import HeadUnit.Transaction

/-!
# Messages to and from the vehicle

The vehicle approves, vetoes or itself starts user changes. It is asked by
`Request`s, which wait for a `Response`, and told by `Notice`s, which do not.
-/

namespace HeadUnit.Vehicle

/-- What the vehicle is able to do. -/
structure Capabilities where
  switch : Bool
  create : Bool
  remove : Bool
  association : Bool
  deriving DecidableEq, Repr

/-- A vehicle that is able to do nothing. -/
def Capabilities.none : Capabilities := ⟨false, false, false, false⟩

/-- A vehicle that is able to do everything. -/
def Capabilities.all : Capabilities := ⟨true, true, true, true⟩

/-- The verdict on a switch. Codes without a meaning are kept. -/
inductive Decision
  | approved
  | vetoed
  | other (code : Int64)
  deriving DecidableEq, Repr

namespace Decision

def ofCode (n : Int64) : Decision :=
  match n.toInt with
  | 1 => approved
  | 2 => vetoed
  | _ => other n

def code : Decision → Int64
  | approved => 1
  | vetoed => 2
  | other n => n

end Decision

/-- The answer to a switch request. -/
structure SwitchResponse where
  token : Token
  decision : Decision
  message : String
  deriving DecidableEq, Repr

/-- No answer. -/
def SwitchResponse.blank : SwitchResponse := ⟨Token.unset, .other 0, ""⟩

/-- The answer to a creation. -/
structure CreateResponse where
  approved : Bool
  message : String
  deriving DecidableEq, Repr

/-- No answer. -/
def CreateResponse.blank : CreateResponse := ⟨false, ""⟩

/-- The answer to an association call. -/
structure AssociationResponse where
  values : Option (List Int64)
  message : String
  deriving DecidableEq, Repr

/-- No answer. -/
def AssociationResponse.blank : AssociationResponse := ⟨none, ""⟩

/-- A question that waits for its answer. -/
inductive Request
  | switch (target : User) (users : Directory)
  | create (user : User) (name : String) (users : Directory)
  | getAssociations (user : User) (types : List Int64)
  | setAssociations (user : User) (types values : List Int64)
  | initialInfo (requestType : Int64) (users : Directory)
  deriving DecidableEq, Repr

/-- An answer. -/
inductive Response
  | switch (r : SwitchResponse)
  | create (r : CreateResponse)
  | association (r : AssociationResponse)
  | initial (i : InitialInfo)
  deriving DecidableEq, Repr

/-- The answer to a switch; blank if it answers something else. -/
def Response.asSwitch : Response → SwitchResponse
  | .switch r => r
  | _ => SwitchResponse.blank

/-- The answer to a creation; blank if it answers something else. -/
def Response.asCreate : Response → CreateResponse
  | .create r => r
  | _ => CreateResponse.blank

/-- The answer to an association call; blank if it answers something else. -/
def Response.asAssociation : Response → AssociationResponse
  | .association r => r
  | _ => AssociationResponse.blank

/-- The boot decision; blank if it answers something else. -/
def Response.asInitial : Response → InitialInfo
  | .initial i => i
  | _ => InitialInfo.blank

/-- The answer of a call that got none. -/
def Request.blank : Request → Response
  | .switch .. => .switch SwitchResponse.blank
  | .create .. => .create CreateResponse.blank
  | .getAssociations .. => .association AssociationResponse.blank
  | .setAssociations .. => .association AssociationResponse.blank
  | .initialInfo .. => .initial InitialInfo.blank

/-- News that wait for nothing. -/
inductive Notice
  /-- A negotiated switch ended. -/
  | postSwitch (token : Token) (prior target : UserId) (users : Directory)
  /-- A switch happened that was not negotiated. -/
  | legacySwitch (source : UserId) (target : User) (users : Directory)
  | remove (user : User) (users : Directory)
  deriving DecidableEq, Repr

end HeadUnit.Vehicle
