import HeadUnit.Metrics
import HeadUnit.Vehicle.Message

/-!
# A simulated vehicle

It approves what it is not told to veto or reject, keeps associations in
memory, and answers after a latency. Of creations and of association writes it
takes one at a time: a call of either kind holds the slot of its kind from the
moment it is taken until it returns, however it returns.

A call begins with `enter`, gets its answer by `serve`, and returns by `leave`.
Without latency a call does all of it when it is asked (`ask`). With latency it
stays in progress until it gets its answer and returns (`finish`), or until its
caller is gone (`abandon`).
-/

namespace HeadUnit.Vehicle

/-- A call in progress. -/
structure Pending where
  id : Nat
  request : Request
  /-- The token minted for a switch. -/
  token : Token
  due : Int
  deriving Repr

/-- The simulated vehicle. -/
structure Simulator where
  capabilities : Capabilities := Capabilities.all
  latency : Duration := 0
  /-- The call that holds the slot of a kind. -/
  slots : List (RequestKind × Nat) := []
  calls : List Pending := []
  vetoes : List (UserId × String) := []
  /-- Why creations are rejected; empty if they are not. -/
  rejection : String := ""
  associations : List ((UserId × Int64) × Int64) := []
  initial : InitialInfo := InitialInfo.blank
  /-- Somebody takes the switches that the vehicle starts. -/
  hasHandler : Bool := false
  /-- How many tokens were minted. -/
  minted : Nat := 0
  posts : List (Token × UserId × UserId) := []
  legacy : List (UserId × UserId) := []
  removed : List UserId := []
  deriving Repr

/-- What becomes of a call that is taken. -/
inductive Taken
  | answered (response : Response) (fault : Option Fault)
  | inProgress

namespace Simulator

/-- How the vehicle calls what it mints in its own log. -/
def mintedName : String := "<uuid>"

/-- The `n`-th token. -/
def tokenText (n : Nat) : Token := ⟨"tok" ++ toString n⟩

/-- Vetoes switches to a user; an empty message lifts the veto. -/
def veto (s : Simulator) (target : UserId) (message : String) : Simulator :=
  let others := s.vetoes.filter (·.1 != target)
  { s with vetoes := if message = "" then others else (target, message) :: others }

/-- The value of an association type of a user; 0 if it has none. -/
def association (s : Simulator) (user : UserId) (type : Int64) : Int64 :=
  ((s.associations.find? (·.1 == (user, type))).map (·.2)).getD 0

/-- Stores one association. -/
def associate (user : UserId) (as : List ((UserId × Int64) × Int64)) (p : Int64 × Int64) :
    List ((UserId × Int64) × Int64) :=
  ((user, p.1), p.2) :: as.filter (·.1 != (user, p.1))

/-- The slot that a request needs. -/
def slotOf? : Request → Option RequestKind
  | .create .. => some .create
  | .setAssociations .. => some .setAssociation
  | _ => none

/-- Whether the vehicle is able to take a request at all. -/
def supports (s : Simulator) : Request → Bool
  | .switch .. => s.capabilities.switch
  | .create .. => s.capabilities.create
  | .getAssociations .. => s.capabilities.association
  | .setAssociations .. => s.capabilities.association
  | .initialInfo .. => true

/-- Whether a request cannot be understood. -/
def isMalformed : Request → Bool
  | .setAssociations _ types values => types.length != values.length
  | _ => false

/-- The answer to a request as things stand, and what it changes. -/
def answer (s : Simulator) (token : Token) : Request → Response × Simulator
  | .switch target _ =>
    match s.vetoes.find? (·.1 == target.id) with
    | some (_, message) => (.switch ⟨token, .vetoed, message⟩, s)
    | none => (.switch ⟨token, .approved, ""⟩, s)
  | .create .. =>
    (.create (if s.rejection = "" then ⟨true, ""⟩ else ⟨false, s.rejection⟩), s)
  | .getAssociations user types =>
    (.association ⟨some (types.map (s.association user.id)), ""⟩, s)
  | .setAssociations user types values =>
    (.association ⟨if values.isEmpty then none else some values, ""⟩,
      { s with associations := (types.zip values).foldl (associate user.id) s.associations })
  | .initialInfo .. => (.initial s.initial, s)

/-- Whether a request is answered at once, whoever asks. -/
def isPrompt : Request → Bool
  | .getAssociations .. => true
  | _ => false

/-- A switch gets a new token. -/
def mint (s : Simulator) : Request → Token × Simulator
  | .switch .. => (tokenText (s.minted + 1), { s with minted := s.minted + 1 })
  | _ => (Token.unset, s)

/-- The call that holds the slot of a kind. -/
def holder? (s : Simulator) (kind : RequestKind) : Option Nat :=
  (s.slots.find? (·.1 == kind)).map (·.2)

/-- Takes a slot for a call, if its request needs one. -/
def occupy (s : Simulator) (id : Nat) (request : Request) : Simulator :=
  match slotOf? request with
  | some kind => { s with slots := (kind, id) :: s.slots }
  | none => s

/-- Frees the slot of a call. A slot that another call holds is not touched. -/
def release (s : Simulator) (id : Nat) (request : Request) : Simulator :=
  match slotOf? request with
  | some kind => { s with slots := s.slots.filter (· != (kind, id)) }
  | none => s

/-- A call begins. It is refused if the slot that it needs is taken. -/
def enter (s : Simulator) (id : Nat) (request : Request) (now : Int) :
    Except (Fault × List Note) Simulator :=
  if !s.supports request then .error (.notSupported, [])
  else if isMalformed request then .error (.malformedResponse, [])
  else match (slotOf? request).filter fun kind => (s.holder? kind).isSome with
    | some kind => .error (.requestPending (some kind),
        [(Note.warn "request already pending"
          [Log.str "kind" kind.text, Log.str "pending" mintedName]).writtenBy "sim"])
    | none =>
      let (token, s) := s.mint request
      let s := s.occupy id request
      .ok { s with calls := s.calls ++ [⟨id, request, token, now + s.latency.toInt⟩] }

/-- A call in progress gets its answer, as things stand; it has not returned yet. -/
def serve (s : Simulator) (id : Nat) : Option (Response × Simulator) :=
  (s.calls.find? (·.id == id)).map fun c => s.answer c.token c.request

/-- A call returns, with an answer or without. -/
def leave (s : Simulator) (id : Nat) : Simulator :=
  match s.calls.find? (·.id == id) with
  | none => s
  | some c => { s with calls := s.calls.filter (·.id != id) }.release id c.request

/-- The latency of a call is over: it gets its answer, and returns. -/
def finish (s : Simulator) (id : Nat) : Option (Response × Simulator) :=
  (s.serve id).map fun (r, s) => (r, s.leave id)

/-- The caller of a call is gone. -/
def abandon (s : Simulator) (id : Nat) : Simulator := s.leave id

/-- Takes a call; `gone` tells that its caller already left. -/
def ask (s : Simulator) (id : Nat) (request : Request) (gone : Option Fault) (now : Int) :
    Taken × Simulator × List Note :=
  match s.enter id request now with
  | .error (f, notes) => (.answered request.blank (some f), s, notes)
  | .ok s =>
    match if isPrompt request then none else gone with
    | some f => (.answered request.blank (some f), s.leave id, [])
    | none =>
      match if isPrompt request || s.latency ≤ 0 then s.finish id else none with
      | some (r, s) => (.answered r none, s, [])
      | none => (.inProgress, s, [])

/-- Takes a notice. -/
def notify (s : Simulator) : Notice → Simulator × List Note
  | .postSwitch token prior target _ =>
    ({ s with posts := s.posts ++ [(token, prior, target)] },
      [(Note.debug "post switch received"
        [Log.str "token" token.text, Log.int "prior" prior, Log.int "target" target]).writtenBy
          "sim"])
  | .legacySwitch source target _ => ({ s with legacy := s.legacy ++ [(source, target.id)] }, [])
  | .remove user _ =>
    ({ s with
        removed := s.removed ++ [user.id]
        associations := s.associations.filter (·.1.1 != user.id) }, [])

/-- The vehicle starts a switch: the token it mints. -/
def initiate (s : Simulator) (target : UserId) : Except Fault (Token × Simulator × List Note) :=
  if s.hasHandler then
    let s := { s with minted := s.minted + 1 }
    let token := tokenText s.minted
    .ok (token, s, [(Note.info "coordinator initiating switch"
      [Log.int "target" target, Log.str "token" mintedName]).writtenBy "sim"])
  else .error (.noSwitchHandler target)

end Simulator

end HeadUnit.Vehicle
