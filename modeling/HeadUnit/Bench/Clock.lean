import HeadUnit.Bench.Play

/-!
# The clock of the bench

Time stands still while anything can happen: `tick` is the next thing that
happens, `settle` lets things happen until nothing more does. Then the clock
goes on to the next instant at which something is due. A step of the scenario
is over when its own procedure is done and the world has settled.

Every loop has a bound on its rounds, far above what a scenario takes.
-/

namespace HeadUnit.Bench.World

open Service

/-! ### Timers -/

/-- What is due at an instant. -/
inductive Timer
  /-- The wait for an answer of the vehicle ends. -/
  | ask (system id : Nat)
  /-- The context of a call ends. -/
  | call (system id : Nat)
  /-- The context of a direct question ends. -/
  | direct (id : Nat) (request : Vehicle.Request)
  /-- The simulated vehicle answers. -/
  | simulated (id : Nat)
  /-- The scripted vehicle answers. -/
  | scripted (d : Delayed)
  /-- A sleeping procedure wakes. -/
  | sleep (procedure : Nat)

/-- The timers of one system. -/
def systemTimers (i : Nat) (s : System) : List (Int × Timer) :=
  s.asks.filterMap (fun a => a.deadline.map fun d => (d, .ask i a.id))
    ++ s.calls.filterMap (fun c => c.deadline.map fun d => (d, .call i c.id))

/-- The timers of a procedure. -/
def procedureTimers (p : Procedure) : List (Int × Timer) :=
  match p.block with
  | some (.vehicle id request (some d)) => [(d, .direct id request)]
  | some (.sleep wake) => [(wake, .sleep p.id)]
  | _ => []

/-- All timers; of those due at the same instant, waits end before answers
    come. -/
def timers (w : World) : List (Int × Timer) :=
  (w.systems.mapIdx systemTimers).flatten
    ++ (w.procedures.map procedureTimers).flatten
    ++ w.simulator.calls.map (fun c => (c.due, .simulated c.id))
    ++ w.script.delayed.map (fun d => (d.due, .scripted d))

/-- What a timer does. -/
def fire (w : World) : Timer → World
  | .ask i id => w.onSystem i (·.step (.expired id))
  | .call i id => w.onSystem i (·.step (.contextEnded id .deadline))
  | .direct id request =>
    (w.abandon id).arrive (fun
      | .vehicle b _ _ => b == id
      | _ => false) (.response request.blank (some .deadline))
  | .simulated id =>
    match w.simulator.finish id with
    | none => w
    | some (r, s) => { w with simulator := s }.handOn id r none
  | .scripted d =>
    { w with script := w.script.abandon d.id }.handOn d.id d.response d.fault
  | .sleep p =>
    { w with procedures := w.procedures.map fun q =>
      if q.id = p then { q with block := none, arrived := some .woken } else q }

/-- The first timer that is due. -/
def dueTimer? (w : World) : Option Timer :=
  ((w.timers.filter (·.1 ≤ w.clock)).mergeSort (fun a b => a.1 ≤ b.1)).head?.map (·.2)

/-- The instants at which waits for workers give up and at which workers
    return. -/
def managerInstants (w : World) : List Int :=
  let waits (m : Lifecycle.Manager) : List Int := m.waits.filterMap (·.deadline?)
  (w.systems.map fun s => waits s.manager).flatten ++ waits w.manager
    ++ w.workers.filterMap fun k => match k.chore with
      | .sleep _ => some k.due
      | _ => none

/-- The next instant at which something is due. -/
def nextInstant? (w : World) : Option Int := (w.timers.map (·.1) ++ w.managerInstants).min?

/-! ### The bare lifecycle manager -/

/-- The fault with which a worker returns now; none if it does not return. -/
def workerEnd? (w : World) (k : Worker) : Option (Option Fault) :=
  match k.chore with
  | .sleep _ => if k.due ≤ w.clock then some k.fault else none
  | .untilDone returnsContext =>
    if w.manager.contextDone k.group then
      some (if returnsContext then some .canceled else k.fault)
    else none
  | .hang => none

/-- A worker that can return does so. -/
def workerTick? (w : World) : Option World := do
  let i ← w.workers.findIdx? fun k => (w.workerEnd? k).isSome
  let k ← w.workers[i]?
  let fault ← w.workerEnd? k
  return { w with workers := w.workers.eraseIdx i }.workerReturns k fault

/-- A wait for workers that can end does so. -/
def waitTick? (w : World) : Option World :=
  (w.manager.settleWait w.clock true).map fun (call, fault, m) =>
    { w with manager := m }.flushManager.arrive (fun
      | .manager c => c == call
      | _ => false) (.result (.status fault))

/-! ### What happens next -/

/-- An action is taken out of the inbox. -/
def inboxTick? (w : World) : Option World :=
  match w.inbox with
  | [] => none
  | (i, a) :: rest => some ({ w with inbox := rest }.onSystem i (·.step a))

/-- A procedure that is not blocked takes a step. -/
def procedureTick? (w : World) : Option World :=
  (w.procedures.find? (·.block.isNone)).map w.proceed

/-- A system takes a step of its own. -/
def systemTick? (w : World) : Option World :=
  (List.range w.systems.length).findSome? fun i => do
    let s ← w.system? i
    let s ← s.internal?
    return w.onSystem i fun _ => s

/-- A timer that is due is fired. -/
def timerTick? (w : World) : Option World := w.dueTimer?.map w.fire

/-- A procedure that waits until all is settled goes on. -/
def settledTick? (w : World) : Option World :=
  (w.procedures.find? fun p => match p.block with
    | some .settled => true
    | _ => false).map fun p => w.putProcedure { p with block := none }

/-- The next thing that happens without time passing. -/
def tick? (w : World) : Option World :=
  w.inboxTick? <|> w.procedureTick? <|> w.systemTick? <|> w.workerTick? <|> w.waitTick?
    <|> w.timerTick? <|> w.settledTick?

/-- Lets things happen until nothing more does. -/
def settle : Nat → World → World
  | 0, w => w
  | rounds + 1, w =>
    match w.tick? with
    | none => w
    | some w => settle rounds w

/-- How many things may happen at one instant. -/
def settleRounds : Nat := 1000000

/-- How many instants a step may take. -/
def instantRounds : Nat := 1000000

/-- Whether the procedure of the scenario is still at work. -/
def isBusy (w : World) : Bool := w.procedures.any fun p => match p.role with
  | .main => true
  | _ => false

/-- Settles, and lets time pass as long as the scenario waits for it. -/
def runUntilDone : Nat → World → World
  | 0, w => w
  | rounds + 1, w =>
    let w := w.settle settleRounds
    if w.isBusy then
      match w.nextInstant? with
      | none => w
      | some t => runUntilDone rounds { w with clock := max w.clock t }
    else w

/-- Lets time pass until nothing is due any more. -/
def runOut : Nat → World → World
  | 0, w => w
  | rounds + 1, w =>
    let w := w.settle settleRounds
    match w.nextInstant? with
    | none => w
    | some t => runOut rounds { w with clock := max w.clock t }

/-- Plays one step of the scenario. -/
def playStep (w : World) (s : Step) : World :=
  let w := { w with record := {}, answer := none }
  let w := (w.spawn .main [s]).runUntilDone instantRounds
  -- A step that will never end is left behind.
  { w with procedures := w.procedures.filter fun p => match p.role with
      | .main => false
      | _ => true }

end HeadUnit.Bench.World
