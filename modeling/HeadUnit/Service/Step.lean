import HeadUnit.Service.Startup

/-!
# Steps of the system

An `Action` is one thing that can happen to a system: an operation is asked
for, somebody outside answers, time passes, or a worker takes its next step.
`System.step` is what it does; an action that is not possible changes nothing.
`System.internal` lists the actions that need nothing from outside.
-/

namespace HeadUnit.Service

/-- One thing that can happen to a system. -/
inductive Action
  /-- Time passes up to an instant. -/
  | elapse (t : Int)
  /-- An operation is asked for. -/
  | perform (ctx : Context) (op : Operation)
  | start (parentDone : Bool)
  | stop
  /-- The context that the workers of a run were started with ends. -/
  | parentEnded (run : Nat)
  /-- The context of a call ends. -/
  | contextEnded (call : Nat) (f : Fault)
  /-- The vehicle answers. -/
  | answered (ask : Nat) (response : Vehicle.Response) (fault : Option Fault)
  /-- The wait for an answer passes its deadline. -/
  | expired (ask : Nat)
  /-- The asker is canceled. -/
  | canceled (ask : Nat)
  /-- The operating system performs the switch that a desk waits for. -/
  | commit (run : Nat)
  | listenerReturned (run : Nat) (crash : Option Bus.Crash)
  | handleTook (run : Nat) (fault : Option Fault)
  | handleDied (handle : Nat)
  | pluginReady (call : Nat) (fault : Option Fault)
  /-- The workers of a run learn that their context has ended. -/
  | notice (run : Nat)
  /-- The worker of a bus takes its next step. -/
  | busStep (run : Nat)
  /-- The worker of a desk takes a command. -/
  | deskWork (run : Nat)
  /-- The worker of a desk finds its context ended. -/
  | deskStop (run : Nat)
  /-- A switch request that was installed is reported and put to the vehicle. -/
  | launch (run : Nat) (ticket : Switching.Ticket)
  /-- The worker of a desk reports a switch that the vehicle started. -/
  | deskMark (run : Nat)
  /-- The registry records a user that it has looked up. -/
  | record (run : Nat)
  /-- A call takes a step that needs nothing from outside. -/
  | goOn (call : Nat)
  /-- A worker that has finished returns. -/
  | reap (run : Nat)
  /-- A wait for workers ends. -/
  | settleWait (late : Bool)
  /-- A start or stop that waited begins. -/
  | nextControl

namespace System

/-- Whether the context of the workers of a run has ended. -/
def contextDone (s : System) (r : Run) : Bool :=
  match r.group with
  | none => false
  | some g => s.manager.contextDone g

/-- The worker of the bus of run `i` takes its next step. -/
def busStep? (s : System) (i : Nat) : Option System := do
  let r ← s.runs[i]?
  let b ← r.bus.step?
  return (s.onBus i fun _ => b).flushBus i

/-- The worker of the desk of run `i` takes a command. -/
def deskWork? (s : System) (i : Nat) : Option System := do
  let r ← s.runs[i]?
  let d ← r.desk.work? s.view
  return s.onDesk i fun _ => d

/-- The worker of the desk of run `i` stops. -/
def deskStop? (s : System) (i : Nat) : Option System := do
  let r ← s.runs[i]?
  let d ← r.desk.stop? s.view
  return s.onDesk i fun _ => d

/-- The workers of run `i` learn that their context has ended. -/
def notice? (s : System) (i : Nat) : Option System := do
  let r ← s.runs[i]?
  if s.contextDone r && !(r.bus.contextDone && r.desk.contextDone) then
    some (s.onRun i fun r => { r with bus := r.bus.endContext, desk := r.desk.endContext })
  else none

/-- A worker of a group returned without fault. -/
def workerReturned (s : System) (group : Option Nat) (name : String) : System :=
  match group with
  | none => s
  | some g => { s with manager := s.manager.workerDone g name none }.flushManager

/-- A worker of run `i` that has finished returns. -/
def reap? (s : System) (i : Nat) : Option System := do
  let r ← s.runs[i]?
  if r.bus.worker == .finished && !r.busReported then
    some ((s.onRun i fun r => { r with busReported := true }).workerReturned r.group "eventbus")
  else if r.desk.worker == .stopped && !r.deskReported then
    some ((s.onRun i fun r => { r with deskReported := true }).workerReturned r.group "switching")
  else none

/-- A listener outside returns to the bus of run `i`, or crashes. -/
def listenerReturned (s : System) (i : Nat) (crash : Option Bus.Crash) : System :=
  match s.runs[i]? with
  | none => s
  | some r =>
    match r.bus.worker with
    | .calling (.outside _) .. => (s.onBus i (·.returned crash)).flushBus i
    | _ => s

/-- A call takes the next step that needs nothing from outside. -/
def goOn? (s : System) (id : Nat) : Option System := do
  let c ← s.call? id
  match c.work with
  | .bounding n => some (s.bound id n)
  | .loading => some (s.readState id)
  | .caching st => some (s.cacheState id st)
  | .restoring st => some (s.restoreState id st)
  | .building => some (s.buildRun id)
  | .wiring run left => some (s.wire id run left)
  | .shutting left fault => some (s.shutNext id fault left)
  | _ => none

/-- The first question whose asker is canceled: the trips of a desk end with
    its worker. -/
def canceledAsk? (s : System) : Option Nat :=
  (s.asks.find? fun a => match a.owner with
    | .desk i _ => (s.runs[i]?).any (·.desk.tripsDone)
    | .call _ => false).map (·.id)

/-- What an action does. -/
def step (s : System) : Action → System
  | .elapse t => { s with now := max s.now t }
  | .perform ctx op =>
    let (id, s) := s.freshId
    s.perform id ctx op
  | .start parentDone =>
    let (id, s) := s.freshId
    s.request (.start id parentDone)
  | .stop =>
    let (id, s) := s.freshId
    s.request (.stop id)
  | .parentEnded i =>
    match (s.runs[i]?).bind (·.group) with
    | some g => { s with manager := s.manager.parentEnded g }
    | none => s
  | .contextEnded call f => s.contextEnded call f
  | .answered ask r f => s.askEnded ask (.answered r f)
  | .expired ask => s.askEnded ask .expired
  | .canceled ask => s.askEnded ask .canceled
  | .commit i => s.commit i
  | .listenerReturned i crash => s.listenerReturned i crash
  | .handleTook i fault => (s.onBus i (·.sent fault)).flushBus i
  | .handleDied h =>
    { s with runs := s.runs.map fun r => { r with bus := r.bus.handleDied h } }
  | .pluginReady call fault => s.pluginReady call fault
  | .notice i => (s.notice? i).getD s
  | .busStep i => (s.busStep? i).getD s
  | .deskWork i => (s.deskWork? i).getD s
  | .deskStop i => (s.deskStop? i).getD s
  | .launch i ticket => s.onDesk i (·.launch ticket)
  | .deskMark i => s.onDesk i (·.mark)
  | .record i => (s.record? i).getD s
  | .goOn call => (s.goOn? call).getD s
  | .reap i => (s.reap? i).getD s
  | .settleWait late => (s.settleWait? late).getD s
  | .nextControl => s.nextControl?.getD s

/-- The steps that the workers of run `i` can take by themselves; a desk with
    commands left takes them before it stops. -/
def internalRun? (s : System) (i : Nat) : Option System :=
  (s.notice? i) <|> (s.busStep? i) <|> (s.deskWork? i) <|> (s.deskStop? i) <|> (s.reap? i)

/-- The first request to be launched by the desk of run `i`. -/
def launch? (s : System) (i : Nat) : Option System := do
  let r ← s.runs[i]?
  let l ← r.desk.launching.head?
  return s.onDesk i (·.launch l.trip.ticket)

/-- The worker of the desk of run `i` reports a switch that the vehicle started. -/
def deskMark? (s : System) (i : Nat) : Option System := do
  let r ← s.runs[i]?
  if r.desk.worker == .marking then some (s.onDesk i (·.mark)) else none

/-- What has been begun in run `i` and only has to be carried on. -/
def pending? (s : System) (i : Nat) : Option System :=
  (s.record? i) <|> (s.launch? i) <|> (s.deskMark? i)

/-- The next step that needs nothing from outside; what has been begun is carried
    on before anything else happens. -/
def internal? (s : System) : Option System :=
  s.calls.findSome? (fun c => s.goOn? c.id)
    <|> (List.range s.runs.length).findSome? s.pending?
    <|> (List.range s.runs.length).findSome? s.internalRun?
    <|> s.canceledAsk?.map (fun id => s.askEnded id .canceled)
    <|> s.settleWait? true
    <|> s.nextControl?

end System

end HeadUnit.Service
