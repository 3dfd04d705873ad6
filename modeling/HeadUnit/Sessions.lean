import HeadUnit.Event
import HeadUnit.Fault

/-!
# Sessions

The session manager of the operating system, kept in memory: the foreground
user, who is running, who is unlocked. Each call gives the events it emits, in
order; a call that fails emits nothing and changes nothing. Faults can be put
in place for every call.
-/

namespace HeadUnit

/-- The session manager. -/
structure Sessions where
  current : UserId
  running : List UserId
  unlocked : List UserId
  switchFault : Option Fault := none
  startFaults : List (UserId × Fault) := []
  unlockFaults : List (UserId × Fault) := []
  stopFaults : List (UserId × Fault) := []
  /-- Targets of the switches that succeeded, in order. -/
  switches : List UserId := []
  /-- Users stopped so far, in order. -/
  stops : List UserId := []
  /-- Users of whom the manager says that they do not run, whether they do or not. -/
  denied : List UserId := []
  deriving Repr

namespace Sessions

/-- Adds an id to a set of ids. -/
def mark (id : UserId) (ids : List UserId) : List UserId :=
  if ids.contains id then ids else ids ++ [id]

/-- Takes an id out of a set of ids. -/
def unmark (id : UserId) (ids : List UserId) : List UserId := ids.filter (· != id)

/-- The system user and the foreground user run and are unlocked. -/
def fresh (current : UserId) : Sessions where
  current := current
  running := mark current [UserId.system]
  unlocked := mark current [UserId.system]

/-- The fault put in place for a user. -/
def faultFor? (id : UserId) (faults : List (UserId × Fault)) : Option Fault :=
  (faults.find? (·.1 == id)).map (·.2)

/-- Puts a fault in place for a user, or clears it. -/
def setFault (id : UserId) (f : Option Fault) (faults : List (UserId × Fault)) :
    List (UserId × Fault) :=
  let others := faults.filter (·.1 != id)
  match f with
  | some f => (id, f) :: others
  | none => others

def isRunning (s : Sessions) (id : UserId) : Bool := s.running.contains id

/-- The answer to the question whether a user runs. -/
def reportsRunning (s : Sessions) (id : UserId) : Bool :=
  s.isRunning id && !s.denied.contains id

def isUnlocked (s : Sessions) (id : UserId) : Bool := s.unlocked.contains id

/-- Changes the foreground user without an event. -/
def setCurrent (s : Sessions) (id : UserId) : Sessions :=
  { s with current := id, running := mark id s.running }

/-- Marks a user running, and unlocked or not, without an event. -/
def setRunning (s : Sessions) (id : UserId) (unlocked : Bool) : Sessions :=
  { s with
    running := mark id s.running
    unlocked := if unlocked then mark id s.unlocked else unmark id s.unlocked }

/-- Brings a user to the foreground. A user that did not run is started, one
    that was locked is unlocked. -/
def switchTo (s : Sessions) (id : UserId) (millis : Int64) :
    Except Fault (Sessions × List Event) :=
  match s.switchFault with
  | some f => .error f
  | none =>
    let started := if s.isRunning id then [] else [Event.about .starting id millis]
    let opened :=
      if s.isUnlocked id then []
      else [Event.about .unlocking id millis, Event.about .unlocked id millis,
        Event.about .postUnlocked id millis]
    .ok ({ s with
        current := id
        running := mark id s.running
        unlocked := mark id s.unlocked
        switches := s.switches ++ [id] },
      started ++ [⟨.switching, s.current, id, millis⟩] ++ opened)

/-- Starts a user in the background. -/
def startInBackground (s : Sessions) (id : UserId) (millis : Int64) :
    Except Fault (Sessions × List Event) :=
  match faultFor? id s.startFaults with
  | some f => .error f
  | none =>
    .ok ({ s with running := mark id s.running },
      if s.isRunning id then [] else [Event.about .starting id millis])

/-- Unlocks a running user. -/
def unlock (s : Sessions) (id : UserId) (millis : Int64) :
    Except Fault (Sessions × List Event) :=
  match faultFor? id s.unlockFaults with
  | some f => .error f
  | none =>
    if s.isRunning id then
      .ok ({ s with unlocked := mark id s.unlocked },
        if s.isUnlocked id then []
        else [Event.about .unlocking id millis, Event.about .unlocked id millis])
    else .error (.userNotStarted id)

/-- Stops a user that is not in the foreground. -/
def stop (s : Sessions) (id : UserId) (millis : Int64) :
    Except Fault (Sessions × List Event) :=
  match faultFor? id s.stopFaults with
  | some f => .error f
  | none =>
    if id = s.current then .error (.userInForeground id)
    else
      .ok ({ s with
          running := unmark id s.running
          unlocked := unmark id s.unlocked
          stops := s.stops ++ [id] },
        if s.isRunning id then
          [Event.about .stopping id millis, Event.about .stopped id millis]
        else [])

end Sessions

end HeadUnit
