import HeadUnit.Vehicle.Simulator

/-!
# A scripted vehicle

For every kind of call a behaviour is set beforehand: it answers at once, after
a delay, or when it is told to. Calls that wait to be told are numbered as they
arrive. A *held* call is given up with its caller, a *hanging* one is not. Each
has a place for one answer: a call that waits takes it out at once, and what
comes after that stays there, with no effect.
-/

namespace HeadUnit.Bench

open Vehicle

/-- The calls a behaviour can be set for. -/
inductive CallKind
  | switch
  | create
  | getAssociations
  | setAssociations
  | initial
  deriving DecidableEq, Repr

def CallKind.of : Request → CallKind
  | .switch .. => switch
  | .create .. => create
  | .getAssociations .. => getAssociations
  | .setAssociations .. => setAssociations
  | .initialInfo .. => initial

/-- What a scripted call says. -/
structure Reply where
  fault : Option Fault := none
  /-- The token of a switch; none stands for the next one. -/
  token : Option String := none
  decision : Int64 := 1
  message : String := ""
  approved : Bool := true
  /-- The association values; none stands for the usual ones. -/
  values : Option (List Int64) := none
  info : InitialInfo := InitialInfo.blank
  deriving Repr

/-- When a scripted call says it. -/
inductive Mode
  | atOnce
  | delayed (millis : Int64)
  | held
  | hanging
  deriving DecidableEq, Repr

/-- The behaviour of a kind of call. -/
structure Behaviour where
  mode : Mode := .atOnce
  reply : Reply := {}
  deriving Repr

/-- A call that waits to be told what to say. -/
structure Held where
  number : Nat
  id : Nat
  request : Request
  /-- How many switches had arrived. -/
  switches : Nat
  /-- It is not given up with its caller. -/
  heedless : Bool
  /-- It has not been told anything yet. -/
  waits : Bool
  /-- Its caller is still there. -/
  awaited : Bool
  /-- The place for an answer is taken. -/
  full : Bool := false
  deriving Repr

/-- A call that answers at an instant. -/
structure Delayed where
  id : Nat
  due : Int
  response : Response
  fault : Option Fault
  deriving Repr

/-- The scripted vehicle. -/
structure Script where
  capabilities : Capabilities := Capabilities.all
  behaviours : List (CallKind × Behaviour) := []
  /-- How many switches have arrived. -/
  switches : Nat := 0
  held : List Held := []
  delayed : List Delayed := []
  deriving Repr

namespace Script

/-- What a call of this kind says. -/
def respond (r : Reply) (switches : Nat) : Request → Response
  | .switch .. =>
    let token := match r.token with
      | some t => ⟨t⟩
      | none => if r.fault.isSome then Token.unset else Simulator.tokenText switches
    .switch ⟨token, Decision.ofCode r.decision, r.message⟩
  | .create .. => .create ⟨r.approved, r.message⟩
  | .getAssociations _ types =>
    .association ⟨some (r.values.getD (types.map fun _ => 0)), r.message⟩
  | .setAssociations _ _ values => .association ⟨some (r.values.getD values), r.message⟩
  | .initialInfo .. => .initial r.info

def setBehaviour (s : Script) (k : CallKind) (b : Behaviour) : Script :=
  { s with behaviours := (k, b) :: s.behaviours.filter (·.1 != k) }

def behaviour (s : Script) (k : CallKind) : Behaviour :=
  ((s.behaviours.find? (·.1 == k)).map (·.2)).getD {}

/-- Takes a call; `gone` tells that its caller already left. -/
def ask (s : Script) (id : Nat) (request : Request) (gone : Option Fault) (now : Int) :
    Taken × Script :=
  let kind := CallKind.of request
  let s := if kind = .switch then { s with switches := s.switches + 1 } else s
  let gone := if kind = .getAssociations then none else gone
  let b := s.behaviour kind
  let heedless := b.mode = .hanging
  let held : Held :=
    ⟨s.held.length + 1, id, request, s.switches, heedless, heedless || gone.isNone, gone.isNone,
      false⟩
  let givenUp : Taken := .answered request.blank gone
  match b.mode, gone with
  | .atOnce, some _ => (givenUp, s)
  | .atOnce, none => (.answered (respond b.reply s.switches request) b.reply.fault, s)
  | .delayed _, some _ => (givenUp, s)
  | .delayed ms, none =>
    let d : Delayed := ⟨id, now + (Duration.ofMillis ms).toInt,
      respond b.reply s.switches request, b.reply.fault⟩
    (.inProgress, { s with delayed := s.delayed ++ [d] })
  | .held, some _ => (givenUp, { s with held := s.held ++ [held] })
  | .held, none => (.inProgress, { s with held := s.held ++ [held] })
  | .hanging, _ => (.inProgress, { s with held := s.held ++ [held] })

/-- The caller of a call is gone. -/
def abandon (s : Script) (id : Nat) : Script :=
  { s with
    held := s.held.map fun h =>
      if h.id = id then { h with awaited := false, waits := h.waits && h.heedless } else h
    delayed := s.delayed.filter (·.id != id) }

/-- Changes the call with a number. -/
def onHeld (s : Script) (number : Nat) (f : Held → Held) : Script :=
  { s with held := s.held.map fun h => if h.number = number then f h else h }

/-- Tells a call what to say: the answer to hand on, if it waits and its caller
    is still there; none if there is no such call or no place for the answer. -/
def answer (s : Script) (number : Int64) (r : Reply) :
    Option (Script × Option (Nat × Response × Option Fault)) :=
  match s.held.find? fun h => (h.number : Int) == number.toInt with
  | none => none
  | some h =>
    if h.waits then
      some (s.onHeld h.number fun h => { h with waits := false },
        if h.awaited then some (h.id, respond r h.switches h.request, r.fault) else none)
    else if h.full then none
    else some (s.onHeld h.number fun h => { h with full := true }, none)

end Script

end HeadUnit.Bench
