import HeadUnit.Bench.Script
import HeadUnit.Service.Boot

/-!
# Steps of a scenario

A scenario is a list of steps played on the bench. A step is a `Command` with a
`Frame`: whether it is played in the background, how often, and in what
context. Listeners, remote handles and plugins have steps of their own, played
when they are called.
-/

namespace HeadUnit.Bench

open Service

/-- How a step is played. -/
structure Frame where
  /-- The name of its result, if it is played in the background. -/
  background : Option String := none
  /-- How often it is played. -/
  times : Nat := 1
  /-- Its context has already been canceled. -/
  canceled : Bool := false
  /-- How long its context lasts. -/
  contextMillis : Option Int64 := none
  deriving Repr

/-- Which value is offered as a listener. -/
inductive Offered
  | proper
  | missing
  | incomparable
  deriving DecidableEq, Repr

/-- How a worker of the lifecycle manager behaves before it returns. -/
inductive Chore
  /-- It works for a while. -/
  | sleep (millis : Int64)
  /-- It waits for its context to end, and may return that as its fault. -/
  | untilDone (returnsContext : Bool)
  /-- It waits to be released. -/
  | hang
  deriving DecidableEq, Repr

/-- Fields of the persisted state to set. -/
structure Patch where
  background : Option (List Ranked) := none
  promoted : Option UserId := none
  counter : Option UInt64 := none
  initial : Option UserId := none
  deriving Repr

def Patch.apply (p : Patch) (s : Snapshot) : Snapshot :=
  { s with
    background := p.background.getD s.background
    promoted := p.promoted.getD s.promoted
    counter := p.counter.getD s.counter
    initial := p.initial.getD s.initial }

/-- A configuration as a scenario gives it. -/
structure Setup where
  config : Config := {}
  /-- The state is kept in a file. -/
  usesFolder : Bool := false
  deriving Repr

/-- A call of the session manager. -/
inductive SessionCall
  | switch
  | start
  | unlock
  | stop
  deriving DecidableEq, Repr

/-- What a step does. -/
inductive Command
  /-- The step cannot be understood; `what` is wrong with it. -/
  | invalid (what : String)
  | advance (millis : Int64)
  | now
  | metrics
  | panic (value : String)
  /-- Reports something. -/
  | note (n : Note)
  -- The service
  | start
  | stop
  /-- Ends the context that workers were started with. -/
  | cancelContext
  | reboot (setup : Setup) (keepSessions : Bool) (current : UserId)
  | perform (op : Operation)
  | requestSwitch (name : String) (target : UserId) (timeout : Duration)
  | initiateSwitch (target : UserId) (noHandler : Bool)
  | setTimeout (d : Duration)
  | setMax (n : Int64)
  | startBackground
  | persistentUsers
  | profilesOf (driver : UserId)
  | getInitial
  | seedDrivers (n : Int64)
  | listDrivers
  | boot (drivers : List UserId)
  -- Bare parts
  /-- Starts the worker of a bare bus or desk. -/
  | run
  /-- Closes a desk whose worker never ran. -/
  | closeDesk
  | registryAdd (u : User)
  | registryRestore (s : Snapshot)
  | registryRemove (id : UserId)
  | registryForget (id : UserId)
  -- Listeners
  | event (e : Event)
  /-- Adds a listener that logs every event. -/
  | logEvents
  | addListener (name : String) (offered : Offered)
      (reactions : List (String × Nat × List (Frame × Command)))
  | removeListener (name : String) (offered : Offered)
  | addRemote (uid : Int64) (name : String) (missing : Bool) (failFrom : Int64)
      (fault : Option Fault) (reactions : List (String × Nat × List (Frame × Command)))
  | removeRemote (uid : Int64)
  | killRemote (name : String)
  -- Sessions
  | session (c : SessionCall) (user : UserId)
  | currentUser
  | setCurrent (user : UserId)
  | setRunning (user : UserId) (unlocked : Bool)
  | sessionOf (user : UserId)
  | sessionHistory
  | failSession (c : SessionCall) (user : UserId) (fault : Option Fault)
  | denyRunning (user : UserId) (on : Bool)
  | gate (on : Bool)
  | release
  -- Roster
  | putUser (u : User)
  | getUser (id : UserId)
  | allUsers
  | createRecord (name kind : String) (flags : Flags)
  | createProfileRecord (name kind : String) (flags : Flags) (parent : UserId)
  | removeRecord (id : UserId)
  | failCreate (fault : Option Fault)
  | failRemove (fault : Option Fault)
  -- The vehicle
  | veto (target : UserId) (message : String)
  | rejectCreate (message : String)
  | setInitialInfo (info : InitialInfo)
  /-- Asks the vehicle directly. -/
  | ask (request : Vehicle.Request)
  /-- Tells the vehicle directly. -/
  | tell (notice : Vehicle.Notice)
  | vehicleHistory
  | script (kind : CallKind) (b : Behaviour)
  | answer (number : Int64) (reply : Reply)
  -- Persistence
  | failLoad (fault : Option Fault)
  | failSave (fault : Option Fault)
  | storeLoad
  | storeUpdate (p : Patch)
  | storeSnapshot
  | repositoryLoad
  | repositorySave (s : Snapshot)
  | repositorySaves
  | setFileText (text : String)
  | fileText
  | blockFolder
  | blockFile
  -- The lifecycle manager
  | beginGroup (reason : String)
  | move (target : Phase) (reason : String)
  | shutdown (millis : Int64)
  | abort (reason : String)
  | work (name : String) (chore : Chore) (fault : Option Fault)
  | releaseWork (name : String)

/-- A command with how it is played. -/
abbrev Step := Frame × Command

/-- What a listener or handle does about events of a kind (any if empty), how
    often at most, by which steps. -/
abbrev Reaction := String × Nat × List Step

/-- The result of a step. -/
inductive Answer
  | nothing
  | invalid (what : String)
  | background
  | broken
  | flag (b : Bool)
  | number (n : Int)
  | text (s : Option String)
  | status (fault : Option Fault)
  | switch (r : SwitchResult)
  | create (r : CreateResult)
  | removed (s : RemoveStatus)
  | association (r : AssociationResult)
  | initial (r : Except Fault InitialInfo)
  | ids (ids : List UserId)
  | users (us : List User)
  | user (r : Except Fault User)
  | seeded (drivers : List UserId) (fault : Option Fault)
  | session (running unlocked : Bool)
  | sessionHistory (switches stops : List UserId)
  /-- The answer of the vehicle to a direct question. -/
  | vehicle (response : Vehicle.Response) (fault : Option Fault)
  | vehicleHistory (posts : List (Token × UserId × UserId)) (legacy : List (UserId × UserId))
      (removed : List UserId)
  | loaded (s : Snapshot) (fault : Option Fault)
  | cached (s : Snapshot)
  | stored (s : Snapshot) (fault : Option Fault)
  | metrics (m : Metrics)

/-- The answer that a result of the service stands for. -/
def Answer.ofResult : Result → Answer
  | .nothing => .nothing
  | .status f => .status f
  | .switch r => .switch r
  | .create r => .create r
  | .removed s => .removed s
  | .association r => .association r
  | .initial r => .initial r
  | .users us => .ids us
  | .flag b => .flag b
  | .broken => .broken

end HeadUnit.Bench
