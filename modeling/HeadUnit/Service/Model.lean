import HeadUnit.Bus
import HeadUnit.Lifecycle.Manager
import HeadUnit.Registry
import HeadUnit.Roster
import HeadUnit.Service.Config
import HeadUnit.State.Store
import HeadUnit.Switching.Desk
import HeadUnit.Trip

/-!
# The service and what it works on

A `System` is the service together with everything it works on: the users, the
sessions, the persisted state. Each start of the service makes a *run*, with a
bus and a switch desk of its own. The run that operations go to is the
*published* one; an earlier run whose workers did not return in time lives on
beside it.

The vehicle, remote handles, listeners and plugins are outside. The system
reaches them through effects, appended to `out` in order, and is told about
their answers. A question to the vehicle that has no answer yet is an `Ask`; an
operation that has not returned is a `Call`.
-/

namespace HeadUnit.Service

/-- Who listens on a bus: the desk and the registry, or somebody outside. -/
inductive Listener
  | desk
  | registry
  | outside (id : Nat)
  deriving DecidableEq, Repr

/-- The workers of one start. -/
structure Run where
  bus : Bus Listener Nat := {}
  desk : Switching.Desk
  /-- The user that the registry has looked up for the event it was called with,
      and not recorded yet. -/
  found : Option User := none
  /-- The lifecycle group of the workers; none if nobody manages them. -/
  group : Option Nat := none
  /-- The return of the bus worker was reported. -/
  busReported : Bool := false
  /-- The return of the desk worker was reported. -/
  deskReported : Bool := false
  deriving Repr

/-- A plugin, and how its shutdown fails. -/
structure Plugin where
  name : String
  shutdownFault : Option Fault
  deriving Repr

/-- The context of a call: whether it has ended, and when it will. -/
structure Context where
  gone : Option Fault := none
  deadline : Option Int := none
  deriving Repr

/-- Who waits for the answer of the vehicle. -/
inductive Owner
  | desk (run : Nat) (ticket : Switching.Ticket)
  | call (id : Nat)
  deriving DecidableEq, Repr

/-- A question to the vehicle without an answer. -/
structure Ask where
  id : Nat
  request : Vehicle.Request
  started : Int
  /-- When the wait ends; none if it does not. -/
  deadline : Option Int
  owner : Owner
  deriving Repr

/-- What a call waits for, or is about to do. -/
inductive Work
  /-- The desk to take a command. -/
  | posting
  /-- The result of a switch request. -/
  | switching
  /-- The vehicle to ratify a new user. -/
  | creating (user : User)
  /-- The vehicle to read or write associations. -/
  | associating (isWrite : Bool) (caller : UserId)
  /-- The vehicle to decide about the boot user. -/
  | consulting
  /-- The bus to release a barrier. -/
  | flushing
  /-- About to change the bound of the registry. -/
  | bounding (n : Int64)
  /-- About to read the persisted state. -/
  | loading
  /-- About to cache the state that was read. -/
  | caching (st : Snapshot)
  /-- About to restore the registry from a state. -/
  | restoring (st : Snapshot)
  /-- About to make a run. -/
  | building
  /-- About to register the listeners left on the bus of a run, and to publish
      it. -/
  | wiring (run : Nat) (left : List Listener)
  /-- A plugin to be ready. -/
  | starting (plugin : Nat)
  /-- The workers to return after a start failed. -/
  | aborting (fault : Fault)
  /-- The workers to return. -/
  | stopping
  /-- About to shut down the plugins left. -/
  | shutting (left : Nat) (fault : Option Fault)
  deriving Repr

/-- An operation that has not returned. -/
structure Call where
  id : Nat
  deadline : Option Int
  work : Work
  deriving Repr

/-- What an operation returns. -/
inductive Result
  | nothing
  /-- Success, or why not. -/
  | status (fault : Option Fault)
  | switch (r : SwitchResult)
  | create (r : CreateResult)
  | removed (s : RemoveStatus)
  | association (r : AssociationResult)
  | initial (r : Except Fault InitialInfo)
  | users (ids : List UserId)
  | flag (b : Bool)
  /-- The registry was found broken. -/
  | broken
  deriving Repr

/-- Where the events of the sessions go. -/
inductive Sink
  | nowhere
  /-- To the service, which posts them to the published bus. -/
  | service
  /-- Straight to the desk of the published run. -/
  | desk
  /-- Out of the system. -/
  | outside
  deriving DecidableEq, Repr

/-- A start or stop that waits for another one to return. -/
inductive Control
  | start (call : Nat) (parentDone : Bool)
  | stop (call : Nat)
  deriving DecidableEq, Repr

/-- What the system asks of its surroundings. -/
inductive Effect
  | note (n : Note)
  | returned (call : Nat) (result : Result)
  /-- A switch request that nobody waits for got its result. -/
  | replied (ticket : Switching.Ticket) (result : SwitchResult)
  /-- Ask the vehicle; `gone` tells that the asker already left. -/
  | ask (id : Nat) (request : Vehicle.Request) (gone : Option Fault)
  /-- Nobody waits for an answer any more. -/
  | abandon (id : Nat)
  | notify (n : Vehicle.Notice)
  /-- Call a listener with an event. -/
  | deliver (run : Nat) (listener : Nat) (e : Event)
  /-- Send an event to a remote handle. -/
  | send (run : Nat) (uid : Int64) (handle : Nat) (e : Event)
  /-- The desk of a run waits for the operating system to switch. -/
  | commit (run : Nat) (target : UserId)
  | signal (target : UserId)
  | changed (source target : Phase) (reason : String)
  | initPlugin (index : Nat)
  | shutdownPlugin (index : Nat)
  /-- A state was handed to the repository. -/
  | offered (s : Snapshot)
  /-- An event of the sessions left the system. -/
  | emitted (e : Event)
  deriving Repr

/-- The service and what it works on. -/
structure System where
  /-- Nanoseconds since 1970. -/
  now : Int := 0
  config : Config := Config.default
  plugins : List Plugin := []
  capabilities : Vehicle.Capabilities := Vehicle.Capabilities.all
  /-- There is a vehicle at all. -/
  hasVehicle : Bool := true
  roster : Roster := Roster.fresh
  sessions : Sessions := Sessions.fresh UserId.system
  sink : Sink := .service
  repository : Repository := {}
  store : Store := {}
  registry : Registry
  /-- Changes of the registry are persisted. -/
  persists : Bool := true
  manager : Lifecycle.Manager := {}
  /-- The timeout of trips when none is given. -/
  timeout : Duration
  maxRunning : Int64
  panel : Option Switching.Panel := none
  provisionTimeout : Duration
  associationTimeout : Duration
  runs : List Run := []
  published : Option Nat := none
  asks : List Ask := []
  calls : List Call := []
  nextId : Nat := 1
  /-- A start or stop is under way. -/
  busy : Bool := false
  controls : List Control := []
  metrics : Metrics := {}
  out : List Effect := []
  deriving Repr

namespace System

/-- A stopped system with this configuration, which is taken as it is. -/
def fresh (c : Config) : System where
  config := c
  registry := { maxRunning := c.maxRunning }
  timeout := c.coordinatorTimeout
  maxRunning := c.maxRunning
  provisionTimeout := c.coordinatorTimeout
  associationTimeout := c.coordinatorTimeout

/-! ### Views -/

/-- The current time in milliseconds. -/
def millis (s : System) : Int64 := Int64.ofInt (s.now / 1000000)

/-- What the desks see. -/
def view (s : System) : Switching.View :=
  ⟨s.roster.users, s.sessions.current, s.capabilities.switch⟩

def directory (s : System) : Directory := Directory.of s.sessions.current s.roster.users

/-- The run that operations go to. -/
def run? (s : System) : Option Run := s.published.bind (s.runs[·]?)

/-- The tracked transaction, if the service is running. -/
def inFlight (s : System) : Option Transaction := s.run?.bind (·.desk.tx)

/-- The restart registry, most recent first. -/
def backgroundUsers (s : System) : List UserId := s.registry.users

/-- The users started by the last restart and not stopped since. -/
def restartedUsers (s : System) : List UserId := s.registry.restartedHere

/-- The user to come up at boot. -/
def initialUser (s : System) : UserId := s.store.cache.initial

/-! ### Effects -/

def emit (s : System) (e : Effect) : System := { s with out := s.out ++ [e] }

/-- Reports a note and takes it into account. -/
def note (s : System) (n : Note) : System :=
  { s with metrics := s.metrics.record n, out := s.out ++ [.note n] }

def notes (s : System) (ns : List Note) : System := ns.foldl note s

/-- Takes what was asked so far. -/
def take (s : System) : List Effect × System := (s.out, { s with out := [] })

/-- A new number for a call or a question. -/
def freshId (s : System) : Nat × System := (s.nextId, { s with nextId := s.nextId + 1 })

def call? (s : System) (id : Nat) : Option Call := s.calls.find? (·.id == id)

/-- Puts a call among those that have not returned. -/
def await (s : System) (id : Nat) (deadline : Option Int) (w : Work) : System :=
  { s with calls := s.calls ++ [⟨id, deadline, w⟩] }

/-- Changes what a call waits for. -/
def await' (s : System) (id : Nat) (w : Work) : System :=
  { s with calls := s.calls.map fun c => if c.id = id then { c with work := w } else c }

/-- Ends a call. -/
def finish (s : System) (id : Nat) (r : Result) : System :=
  { s with calls := s.calls.filter (·.id != id) }.emit (.returned id r)

/-- Reports what the manager has reported. -/
def flushManager (s : System) : System :=
  let (es, m) := s.manager.take
  es.foldl (fun s e => match e with
    | .note n => s.note n
    | .changed a b r => s.emit (.changed a b r)) { s with manager := m }

end System

/-- A stopped system, unless the configuration is wrong or something required
    is missing. -/
def new (c : Config) (hasSessions hasUsers : Bool) : Except Fault System :=
  let c := c.withDefaults
  match c.problem? with
  | some p => .error (.invalidConfig p)
  | none =>
    if !hasSessions then .error (.invalidConfig .noSessions)
    else if !hasUsers then .error (.invalidConfig .noUsers)
    else .ok (System.fresh c)

end HeadUnit.Service
