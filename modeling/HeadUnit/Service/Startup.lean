import HeadUnit.Service.Operation

/-!
# Starting and stopping the service

A start restores the persisted state, makes a run, registers its listeners,
publishes it, and has the plugins get ready one after the other; if a listener
is refused or a plugin fails, the run is withdrawn and its workers are waited
for. A stop withdraws the run, waits for its workers until the shutdown timeout,
and shuts the plugins down in reverse order.

Other operations go on meanwhile, so every step of a start or stop that others
may notice is a move of its own: the call keeps in its `Work` what it has to do
next.

Only one start or stop is under way at a time; others wait for it. A stop lets
the next one begin before it shuts down the plugins.
-/

namespace HeadUnit.Service.System

/-! ### Starting -/

/-- Ends a start or stop. -/
def release (s : System) : System := { s with busy := false }

/-- Reads the persisted state; if that fails, the start goes on with an empty one. -/
def readState (s : System) (id : Nat) : System :=
  match s.repository.load with
  | .ok st => s.await' id (.caching st)
  | .error f =>
    (s.note (Note.error "failed to load state" [Log.err (some f)])).await' id
      (.restoring Snapshot.empty)

/-- Caches the state that was read. -/
def cacheState (s : System) (id : Nat) (st : Snapshot) : System :=
  { s with store := Store.keeping st }.await' id (.restoring st)

/-- Restores the registry. -/
def restoreState (s : System) (id : Nat) (st : Snapshot) : System :=
  let c := s.registry.restore st
  let s := s.applyChange c
  if c.broken then s.release.finish id .broken else s.await' id .building

/-- Makes a run with both workers, in the current group. -/
def buildRun (s : System) (id : Nat) : System :=
  let bus : Bus Listener Nat := {}
  let desk := Switching.Desk.fresh s.timeout s.config.headless
  let run : Run := { bus := bus.start, desk := desk.start, group := s.manager.current }
  { s with
    manager := s.manager.join.join
    runs := s.runs ++ [run] }.await' id (.wiring s.runs.length [.desk, .registry])

/-- Hands the tunables to a run and publishes it. -/
def publish (s : System) (i : Nat) : System :=
  { s.onRun i fun r => { r with desk := (r.desk.setTimeout s.timeout).setPanel s.panel } with
    published := some i }

/-- Has the next plugin get ready; after the last one the service is running. -/
def nextPlugin (s : System) (id index : Nat) : System :=
  if index < s.plugins.length then (s.await' id (.starting index)).emit (.initPlugin index)
  else
    match s.manager.move .running "workers started" with
    | .ok m => ({ s with manager := m }.flushManager.release).finish id (.status none)
    | .error f => s.release.finish id (.status (some f))

/-- Withdraws what a start has made, and waits for the workers. -/
def abort (s : System) (id : Nat) (reason : String) (f : Fault) : System :=
  { s with manager := s.manager.abort id reason }.await' id (.aborting f)

/-- Registers the next listener of a run; after the last one the run is
    published. -/
def wire (s : System) (id i : Nat) : List Listener → System
  | [] => (s.publish i).nextPlugin id 0
  | l :: left =>
    match s.tryBus i (·.register (.listener l)) with
    | (s, none) => s.await' id (.wiring i left)
    | (s, some f) => s.abort id "listener registration failed" f

/-- Starts the service; `parentDone` tells whether its context has already
    ended. -/
def startNow (s : System) (id : Nat) (parentDone : Bool) : System :=
  if !s.manager.phase.canStart then s.finish id (.status (some .alreadyRunning))
  else match s.manager.beginGroup parentDone "Start() called" with
    | .error f => s.finish id (.status (some f))
    | .ok m => { s with manager := m, busy := true }.flushManager.await id none .loading

/-- A plugin is ready, or failed to get ready. -/
def pluginReady (s : System) (id : Nat) (fault : Option Fault) : System :=
  match s.call? id with
  | some ⟨_, _, .starting index⟩ =>
    let name := ((s.plugins[index]?).map (·.name)).getD ""
    match fault with
    | none =>
      (s.note (Note.info "plugin initialized" [Log.str "plugin" name])).nextPlugin id (index + 1)
    | some f =>
      let s := s.note (Note.error "plugin initialization failed"
        [Log.str "plugin" name, Log.err (some f)])
      { s with published := none }.abort id ("plugin init failed: " ++ name) f
  | _ => s

/-! ### Stopping -/

/-- Stops the service. -/
def stopNow (s : System) (id : Nat) : System :=
  if !s.manager.phase.canStop then s.finish id (.status (some .notRunning))
  else match s.manager.shutdown id s.config.shutdownTimeout s.now with
    | .error f =>
      -- The plugins are shut down all the same.
      { s with published := none }.await id none (.shutting s.plugins.length (some f))
    | .ok m =>
      { s with published := none, manager := m, busy := true }.flushManager.await id none .stopping

/-- Shuts one plugin down. -/
def shutdownPlugin (s : System) (index : Nat) : System :=
  match s.plugins[index]? with
  | none => s
  | some p =>
    let s := s.emit (.shutdownPlugin index)
    match p.shutdownFault with
    | some f =>
      s.note (Note.error "plugin shutdown failed" [Log.str "plugin" p.name, Log.err (some f)])
    | none => s.note (Note.info "plugin shutdown complete" [Log.str "plugin" p.name])

/-- Shuts the plugins left down, the last one first. -/
def shutNext (s : System) (id : Nat) (fault : Option Fault) : Nat → System
  | 0 => s.finish id (.status fault)
  | left + 1 => (s.shutdownPlugin left).await' id (.shutting left fault)

/-- The workers have returned, or did not in time. -/
def workersGone (s : System) (id : Nat) (fault : Option Fault) : System :=
  match s.call? id with
  | some ⟨_, _, .aborting f⟩ => s.release.finish id (.status (some f))
  | some ⟨_, _, .stopping⟩ =>
    s.release.await' id (.shutting s.plugins.length (fault.map fun _ => .shutdownTimeout))
  | _ => s

/-! ### One at a time -/

/-- Begins a start or stop. -/
def control (s : System) : Control → System
  | .start id parentDone => s.startNow id parentDone
  | .stop id => s.stopNow id

/-- Begins a start or stop, or lets it wait. -/
def request (s : System) (c : Control) : System :=
  if s.busy then { s with controls := s.controls ++ [c] } else s.control c

/-- Begins the start or stop that waited longest, once nothing is under way. -/
def nextControl? (s : System) : Option System :=
  match s.busy, s.controls with
  | false, c :: cs => some ({ s with controls := cs }.control c)
  | _, _ => none

/-- Brings the first wait for workers that can end to its end; `late` tells what
    is noticed first if it can end in two ways. -/
def settleWait? (s : System) (late : Bool) : Option System :=
  (s.manager.settleWait s.now late).map fun (id, fault, m) =>
    { s with manager := m }.flushManager.workersGone id fault

end HeadUnit.Service.System
