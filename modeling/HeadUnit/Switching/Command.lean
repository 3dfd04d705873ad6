import HeadUnit.Metrics
import HeadUnit.Vehicle.Message

/-!
# Commands of the switch desk

A command is a unit of work for the desk's worker: the answer to a switch
request, a switch that needs no approval, a switch the vehicle started, and
news about users that unlocked or came to the foreground.
-/

namespace HeadUnit.Switching

/-- Identifies a switch request, for its reply. -/
abbrev Ticket := Nat

/-- The answer to a switch request: the transaction as it was installed, what
    the vehicle said, and who waits. -/
structure Answer where
  tx : Transaction
  response : Vehicle.SwitchResponse
  fault : Option Fault
  ticket : Ticket
  deriving DecidableEq, Repr

/-- A unit of work. -/
inductive Command
  | answer (a : Answer)
  /-- A switch without a vehicle to ask. -/
  | direct (target : UserId) (ticket : Ticket)
  /-- A switch the vehicle started. -/
  | initiated (token : Token) (target : UserId)
  | unlocked (user : UserId)
  | switched (source target : UserId)
  deriving DecidableEq, Repr

/-- Whoever hands a command to the desk. -/
inductive Poster
  /-- The worker itself, through the events of its own commit. -/
  | worker
  /-- A trip that ended. -/
  | trip
  /-- The event bus. -/
  | bus
  | caller (id : Nat)
  deriving DecidableEq, Repr

/-- A poster that waits for room in the queue, with the commands it has left. -/
structure Waiting where
  poster : Poster
  commands : List Command
  deriving DecidableEq, Repr

/-- A commit that the worker is waiting for. -/
inductive Commit
  | answer (a : Answer)
  | direct (target : UserId) (ticket : Ticket)
  /-- With the foreground user before it. -/
  | initiated (token : Token) (target prior : UserId)
  deriving DecidableEq, Repr

def Commit.target : Commit → UserId
  | answer a => a.tx.target
  | direct t _ => t
  | initiated _ t _ => t

/-- What the worker is doing. -/
inductive Worker
  | unstarted
  | idle
  | committing (c : Commit)
  /-- About to report the transaction of a switch the vehicle started. -/
  | marking
  | stopped
  deriving DecidableEq, Repr

/-- A trip of the desk that has not ended. -/
structure Outstanding where
  tx : Transaction
  ticket : Ticket
  deriving DecidableEq, Repr

/-- A request whose transaction is tracked, but neither reported nor put to the
    vehicle yet. -/
structure Launch where
  trip : Outstanding
  poster : Poster
  request : Vehicle.Request
  timeout : Duration
  deriving DecidableEq, Repr

/-- The screen that shows a switch in progress, and how showing it fails. -/
structure Panel where
  fault : Option Fault
  deriving DecidableEq, Repr

/-- What the desk sees of its surroundings: the known users, the foreground
    user, and whether the vehicle negotiates switches. -/
structure View where
  users : List User
  current : UserId
  negotiates : Bool
  deriving Repr

def View.find? (v : View) (id : UserId) : Option User := v.users.find? (·.id == id)

def View.directory (v : View) : Directory := Directory.of v.current v.users

/-- What the desk asks of its surroundings. -/
inductive Effect
  | note (n : Note)
  /-- The one result of a request. -/
  | reply (ticket : Ticket) (result : SwitchResult)
  /-- Ask the vehicle to approve a switch. -/
  | negotiate (o : Outstanding) (request : Vehicle.Request) (timeout : Duration)
  /-- Have the operating system switch; `Desk.committed` tells how it went. -/
  | osSwitch (target : UserId)
  | notify (n : Vehicle.Notice)
  /-- Show a switch in progress. -/
  | signal (target : UserId)
  /-- All commands of a poster have been taken or refused. -/
  | admitted (p : Poster)
  deriving Repr

end HeadUnit.Switching
