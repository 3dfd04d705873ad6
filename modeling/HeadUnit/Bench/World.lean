import HeadUnit.Bench.Step
import HeadUnit.Service.Step

/-!
# The bench

The bench is a world in virtual time: a system with a vehicle, listeners,
remote handles and plugins whose behaviour is scripted. Steps are played by
*procedures*, which run side by side: the one of the scenario itself, those in
the background, and those inside listeners, handles and plugins. A procedure
that waits for something is blocked until it arrives.

This module holds the state of the bench and how it takes what the system asks
of its surroundings: everything is recorded, and what has to be told to the
system in turn is put into an inbox, to be taken out one at a time.
-/

namespace HeadUnit.Bench

open Service

/-- What a scenario is about. -/
inductive Subject
  | service
  | bus
  | registry
  | switching
  | sessions
  | roster
  | vehicle
  | state
  | lifecycle
  deriving DecidableEq, Repr

/-- A scripted listener. -/
structure ListenerScript where
  name : String
  reactions : List Reaction := []
  /-- It logs what it gets. -/
  logs : Bool := false

/-- A scripted remote handle. -/
structure HandleScript where
  name : String
  /-- From which send on it fails; never if not positive. -/
  failFrom : Int64
  fault : Option Fault
  reactions : List Reaction
  sends : Nat := 0
  dead : Bool := false

/-- A scripted plugin. -/
structure PluginScript where
  name : String
  initFault : Option Fault := none
  shutdownFault : Option Fault := none
  steps : List Step := []
  /-- It does nothing at all, and leaves no record. -/
  plain : Bool := false

/-- Where a procedure is played. -/
inductive Role
  | main
  | background (name : String)
  /-- Inside the delivery of an event to a listener. -/
  | listener (system run : Nat)
  /-- Inside the delivery of an event to a remote handle. -/
  | handle (system run : Nat)
  /-- While a plugin gets ready, for a start of the service. -/
  | plugin (system call : Nat) (fault : Option Fault)
  deriving Repr

/-- What arrives for a blocked procedure. -/
inductive Arrival
  | result (r : Result)
  | response (r : Vehicle.Response) (fault : Option Fault)
  | woken

/-- What a procedure is blocked on. -/
inductive Block
  /-- A call of a system. -/
  | call (system id : Nat)
  /-- A question to the vehicle; its own context may end before. -/
  | vehicle (id : Nat) (request : Vehicle.Request) (deadline : Option Int)
  /-- A wait of the bare lifecycle manager. -/
  | manager (call : Nat)
  | sleep (wake : Int)
  /-- Nothing else can happen without time passing. -/
  | settled

/-- How a step goes on when something arrives. -/
inductive Activity
  /-- The arrival is the answer. -/
  | operation
  /-- The answer is already known. -/
  | known (a : Answer)
  /-- The answer is the timeout of trips. -/
  | timeout
  /-- The answer is how many users may run. -/
  | maxRunning
  | seeding (s : Seeding)
  | booting (drivers : List UserId) (b : Booting)
  | rebooting (setup : Setup) (keepSessions : Bool) (current : UserId)

/-- A procedure. -/
structure Procedure where
  id : Nat
  role : Role
  steps : List Step
  /-- The step in progress, and how often it is still to be played. -/
  current : Option (Step × Nat) := none
  /-- The context of the step in progress. -/
  context : Context := {}
  activity : Option Activity := none
  block : Option Block := none
  arrived : Option Arrival := none

/-- A message to or from the vehicle, as it was received. -/
inductive Message
  | request (r : Vehicle.Request)
  | notice (n : Vehicle.Notice)

/-- What happened since the last step. -/
structure Record where
  vehicle : List Message := []
  /-- Events delivered, with the name of their receiver. -/
  events : List (String × Event) := []
  signals : List UserId := []
  phases : List (Phase × Phase × String) := []
  plugins : List String := []
  saved : Option Snapshot := none
  nested : List Answer := []
  done : List (String × Answer) := []
  log : List Log.Entry := []

/-- Which vehicle there is. -/
inductive VehicleKind
  | absent
  | simulated
  | scripted
  deriving DecidableEq, Repr

/-- A worker of the bare lifecycle manager. -/
structure Worker where
  group : Nat
  name : String
  chore : Chore
  fault : Option Fault
  /-- When a working one returns. -/
  due : Int

/-- The bench. -/
structure World where
  subject : Subject
  /-- Nanoseconds since 1970. -/
  clock : Int
  /-- The systems; all but the last are what reboots left behind. -/
  systems : List System
  /-- Which session manager each system has. -/
  seats : List Nat := [0]
  kind : VehicleKind := .simulated
  simulator : Vehicle.Simulator := {}
  script : Script := {}
  listeners : List ListenerScript := []
  handles : List HandleScript := []
  plugins : List PluginScript := []
  /-- The repository is one that the scenario gave, and what is handed to it is
      recorded. -/
  ownRepository : Bool := false
  /-- The folder of the state file, while the repository keeps no file in it. -/
  folder : Disk := .vacant
  noSink : Bool := false
  /-- Changes of the phase of the service are logged. -/
  logsPhases : Bool := false
  panel : Option Switching.Panel := none
  /-- Commits of desks are held back. -/
  gated : Bool := false
  held : List (Nat × Nat) := []
  manager : Lifecycle.Manager := {}
  workers : List Worker := []
  procedures : List Procedure := []
  nextProcedure : Nat := 0
  /-- Switch requests and the names of their results. -/
  tickets : List (Nat × String) := []
  inbox : List (Nat × Action) := []
  record : Record := {}
  /-- The answer of the step being played. -/
  answer : Option Answer := none

namespace World

/-! ### Systems -/

/-- The system in use. -/
def active (w : World) : Nat := w.systems.length - 1

/-- What systems share: time, users, the repository, metrics and numbers; and
    the sessions, if they have the same session manager. -/
def share (source target : System) (sameSeat : Bool) : System :=
  let s := { target with
    roster := source.roster
    repository := source.repository
    metrics := source.metrics
    nextId := source.nextId }
  if sameSeat then { s with sessions := source.sessions } else s

def seat (w : World) (i : Nat) : Nat := (w.seats[i]?).getD 0

/-- The system `i` with what it shares as it stands. -/
def system? (w : World) (i : Nat) : Option System := do
  let s ← w.systems[i]?
  let a ← w.systems[w.active]?
  return { share a s (w.seat i == w.seat w.active) with now := w.clock }

/-- Puts the system `i` back, and what it shares into the one in use. -/
def putSystem (w : World) (i : Nat) (s : System) : World :=
  let w := { w with systems := w.systems.set i s }
  if i = w.active then w
  else
    { w with
      systems := w.systems.modify w.active fun a => share s a (w.seat i == w.seat w.active) }

/-! ### Records -/

def onRecord (w : World) (f : Record → Record) : World := { w with record := f w.record }

def logs (w : World) (es : List Log.Entry) : World :=
  w.onRecord fun r => { r with log := r.log ++ es }

/-- Takes a note; metrics are kept by the system in use. -/
def note (w : World) (n : Note) : World :=
  let w := { w with
    systems := w.systems.modify w.active fun s => { s with metrics := s.metrics.record n } }
  match n with
  | .log e => w.logs [e]
  | _ => w

def notes (w : World) (ns : List Note) : World := ns.foldl note w

/-- Puts an action into the inbox. -/
def tell (w : World) (system : Nat) (a : Action) : World :=
  { w with inbox := w.inbox ++ [(system, a)] }

/-! ### Procedures -/

/-- Starts a procedure. -/
def spawn (w : World) (role : Role) (steps : List Step) : World :=
  { w with
    procedures := w.procedures ++ [{ id := w.nextProcedure, role := role, steps := steps }]
    nextProcedure := w.nextProcedure + 1 }

def putProcedure (w : World) (p : Procedure) : World :=
  { w with procedures := w.procedures.map fun q => if q.id = p.id then p else q }

def removeProcedure (w : World) (p : Procedure) : World :=
  { w with procedures := w.procedures.filter (·.id != p.id) }

/-- Something arrives for the procedures that `waits` picks. -/
def arrive (w : World) (waits : Block → Bool) (a : Arrival) : World :=
  { w with procedures := w.procedures.map fun p =>
    if p.block.any waits then { p with block := none, arrived := some a } else p }

/-! ### The vehicle -/

/-- The vehicle takes a question: an answer, if there is one at once. -/
def askVehicle (w : World) (id : Nat) (request : Vehicle.Request) (gone : Option Fault) :
    World × Vehicle.Taken :=
  let received := w.onRecord fun r => { r with vehicle := r.vehicle ++ [.request request] }
  match w.kind with
  | .absent => (w, .answered request.blank (some .notSupported))
  | .simulated =>
    let (t, s, ns) := w.simulator.ask id request gone w.clock
    ({ received with simulator := s }.notes ns, t)
  | .scripted =>
    let (t, s) := w.script.ask id request gone w.clock
    ({ received with script := s }, t)

/-- The vehicle takes a notice. -/
def notifyVehicle (w : World) (n : Vehicle.Notice) : World :=
  let received := w.onRecord fun r => { r with vehicle := r.vehicle ++ [.notice n] }
  match w.kind with
  | .absent => w
  | .simulated =>
    let (s, ns) := w.simulator.notify n
    { received with simulator := s }.notes ns
  | .scripted => received

/-- Nobody waits for an answer any more. -/
def abandon (w : World) (id : Nat) : World :=
  { w with simulator := w.simulator.abandon id, script := w.script.abandon id }

/-- The system that waits for the answer to a question. -/
def askerOf? (w : World) (id : Nat) : Option Nat :=
  w.systems.findIdx? fun s => s.asks.any (·.id == id)

/-- An answer goes to whoever asked. -/
def handOn (w : World) (id : Nat) (r : Vehicle.Response) (f : Option Fault) : World :=
  match w.askerOf? id with
  | some i => w.tell i (.answered id r f)
  | none =>
    w.arrive (fun
      | .vehicle b _ _ => b == id
      | _ => false) (.response r f)

/-! ### Deliveries -/

/-- The entry about an event. -/
def eventEntry (e : Event) : Log.Entry where
  level := .info
  message := "user lifecycle"
  fields := [Log.str "type" e.kind.text, Log.int "from" e.source, Log.int "to" e.user]

/-- The steps of the reactions to an event, and the reactions left. -/
def react (kind : EventKind) : List Reaction → List Step × List Reaction
  | [] => ([], [])
  | (on, times, steps) :: rest =>
    let (more, rest) := react kind rest
    if (on == "" || on == kind.text) && 0 < times then
      (steps ++ more, (on, times - 1, steps) :: rest)
    else (more, (on, times, steps) :: rest)

def recordEvent (w : World) (name : String) (e : Event) : World :=
  w.onRecord fun r => { r with events := r.events ++ [(name, e)] }

/-- A listener gets an event. -/
def deliver (w : World) (i run l : Nat) (e : Event) : World :=
  match w.listeners[l]? with
  | none => w.tell i (.listenerReturned run none)
  | some s =>
    let (steps, left) := react e.kind s.reactions
    let w := { w with listeners := w.listeners.set l { s with reactions := left } }
    let w := (if s.logs then w.logs [eventEntry e] else w).recordEvent s.name e
    if steps.isEmpty then w.tell i (.listenerReturned run none)
    else w.spawn (.listener i run) steps

/-- A remote handle gets an event, or fails. -/
def send (w : World) (i run h : Nat) (e : Event) : World :=
  match w.handles[h]? with
  | none => w.tell i (.handleTook run none)
  | some s =>
    let s := { s with sends := s.sends + 1 }
    let w := { w with handles := w.handles.set h s }
    if (0 : Int64) < s.failFrom && s.failFrom.toInt ≤ (s.sends : Int) then
      w.tell i (.handleTook run s.fault)
    else
      let (steps, left) := react e.kind s.reactions
      let w := { w with handles := w.handles.set h { s with reactions := left } }
      let w := w.recordEvent s.name e
      if steps.isEmpty then w.tell i (.handleTook run none) else w.spawn (.handle i run) steps

/-- A plugin gets ready. -/
def initPlugin (w : World) (i index : Nat) : World :=
  let call := ((w.systems[i]?).bind fun s => s.calls.find? fun c => match c.work with
    | .starting _ => true
    | _ => false).map (·.id)
  match w.plugins[index]?, call with
  | some p, some call =>
    if p.plain then w.tell i (.pluginReady call none)
    else
      (w.onRecord fun r => { r with plugins := r.plugins ++ ["init " ++ p.name] }).spawn
        (.plugin i call p.initFault) p.steps
  | _, _ => w

/-- A plugin is shut down. -/
def shutdownPlugin (w : World) (index : Nat) : World :=
  match w.plugins[index]? with
  | none => w
  | some p =>
    if p.plain then w
    else w.onRecord fun r => { r with plugins := r.plugins ++ ["shutdown " ++ p.name] }

/-! ### Effects -/

/-- The entry about a change of the phase. -/
def phaseEntry (source target : Phase) (reason : String) : Log.Entry where
  level := .debug
  message := "service state"
  fields := [Log.str "from" source.text, Log.str "to" target.text, Log.str "reason" reason]

/-- Takes one thing that the system `i` asked for. -/
def absorbOne (i : Nat) (w : World) : Effect → World
  | .note (.log e) => w.logs [e]
  | .note _ => w
  | .returned id r =>
    w.arrive (fun
      | .call s b => s == i && b == id
      | _ => false) (.result r)
  | .replied ticket r =>
    match w.tickets.find? (·.1 == ticket) with
    | none => w
    | some (_, name) =>
      { w with tickets := w.tickets.filter (·.1 != ticket) }.onRecord fun rec =>
        { rec with done := rec.done ++ [(name, Answer.switch r)] }
  | .ask id request gone =>
    match w.askVehicle id request gone with
    | (w, .answered r f) => w.tell i (.answered id r f)
    | (w, .inProgress) =>
      match gone with
      | some .deadline => w.tell i (.expired id)
      | some _ => w.tell i (.canceled id)
      | none => w
  | .abandon id => w.abandon id
  | .notify n => w.notifyVehicle n
  | .deliver run l e => w.deliver i run l e
  | .send run _ h e => w.send i run h e
  | .commit run _ =>
    if w.gated then { w with held := w.held ++ [(i, run)] } else w.tell i (.commit run)
  | .signal target => w.onRecord fun r => { r with signals := r.signals ++ [target] }
  | .changed a b reason =>
    (if w.logsPhases then w.logs [phaseEntry a b reason] else w).onRecord fun r =>
      { r with phases := r.phases ++ [(a, b, reason)] }
  | .initPlugin index => w.initPlugin i index
  | .shutdownPlugin index => w.shutdownPlugin index
  | .offered s =>
    let failing := ((w.systems[i]?).map (·.repository.saveFault.isSome)).getD false
    if w.ownRepository && !failing then w.onRecord fun r => { r with saved := some s } else w
  | .emitted e =>
    -- Sessions that outlive a reboot report to the system in use.
    if w.subject = .service then w.tell w.active (.perform {} (.event e)) else w.recordEvent "" e

/-- Has the system `i` do something, and takes what it asks for. -/
def onSystem (w : World) (i : Nat) (f : System → System) : World :=
  match w.system? i with
  | none => w
  | some s =>
    let (es, s) := (f s).take
    es.foldl (absorbOne i) (w.putSystem i s)

/-- Has the system in use do something. -/
def onActive (w : World) (f : System → System) : World := w.onSystem w.active f

/-- The system in use. -/
def current? (w : World) : Option System := w.system? w.active

/-- Takes what the bare lifecycle manager has reported. -/
def flushManager (w : World) : World :=
  let (es, m) := w.manager.take
  es.foldl (fun w e => match e with
    | .note n => w.note n
    | .changed a b reason =>
      w.onRecord fun r => { r with phases := r.phases ++ [(a, b, reason)] })
    { w with manager := m }

end World

end HeadUnit.Bench
