import HeadUnit.Metrics
import HeadUnit.Roster
import HeadUnit.Vehicle.Message

/-!
# Associations

What binds a user to the vehicle, such as a key fob: a value for each
association type, read and written through the vehicle. A call is checked
first; then it is a `Question` for the vehicle.
-/

namespace HeadUnit.Association

/-- Where a call stands after the checks. -/
inductive Question
  | refused (result : AssociationResult)
  | ask (request : Vehicle.Request)

def unsupportedMessage : String :=
  "coordinator does not support user identification associations"

/-- A list of numbers in brackets. -/
def listText (ns : List Int64) : String :=
  "[" ++ " ".intercalate (ns.map fun n => toString n.toInt) ++ "]"

def refuse (status : AssociationStatus) (message : String) : Question :=
  .refused ⟨status, none, message⟩

/-- Checks a read. -/
def read (r : Roster) (supported : Bool) (caller : UserId) (types : List Int64) : Question :=
  if !supported then refuse .notSupported unsupportedMessage
  else if types.isEmpty then refuse .invalidRequest "must have at least one type"
  else match r.user caller with
    | .error f => refuse .invalidRequest f.message
    | .ok user => .ask (.getAssociations user types)

/-- Checks a write. -/
def write (r : Roster) (supported : Bool) (caller : UserId) (types values : List Int64) :
    Question :=
  if !supported then refuse .notSupported unsupportedMessage
  else if types.isEmpty then refuse .invalidRequest "must have at least one type"
  else if values.isEmpty then refuse .invalidRequest "must have at least one value"
  else if types.length ≠ values.length then
    refuse .invalidRequest ("types (" ++ listText types ++ ") and values (" ++ listText values
      ++ ") should have the same length")
  else match r.user caller with
    | .error f => refuse .invalidRequest f.message
    | .ok user => .ask (.setAssociations user types values)

/-- The result of a call the vehicle was asked about, and what to report. The
    vehicle's own words come before those of a fault. -/
def answered (isWrite : Bool) (caller : UserId) (response : Vehicle.AssociationResponse)
    (fault : Option Fault) : AssociationResult × List Note :=
  match fault with
  | some f =>
    (⟨.failure, none, if response.message != "" then response.message else f.message⟩,
      [Note.warn (if isWrite then "set associations failed" else "get associations failed")
        [Log.int "user" caller, Log.err (some f)]])
  | none => (⟨.successful, response.values, response.message⟩, [])

end HeadUnit.Association
