import HeadUnit.Bench.Clock

/-!
# Scenarios

A scenario sets up a bench and plays steps on it, one after the other. After
each step the bench is settled, and a `Report` tells the answer of the step,
how its subject stands, and what happened since the step before.
-/

namespace HeadUnit.Bench

open Service

/-- The repository that a scenario gives to its subject. -/
structure StateSetup where
  /-- The state is kept in a file, not in memory. -/
  inFile : Bool
  /-- A state saved beforehand. -/
  initial : Option Snapshot := none
  loadFault : Option Fault := none
  saveFault : Option Fault := none
  deriving Repr

/-- How a bench is set up. -/
structure Scenario where
  subject : Subject
  /-- When it begins, in nanoseconds since 1970. -/
  clock : Int := 946684800000000000
  /-- Users put into the roster, in order. -/
  users : List User := []
  current : UserId := UserId.system
  vehicle : VehicleKind := .simulated
  /-- How long the simulated vehicle takes to answer. -/
  latency : Duration := 0
  capabilities : Vehicle.Capabilities := Vehicle.Capabilities.all
  state : Option StateSetup := none
  setup : Setup := {}
  /-- What stands in the folder of the state file. -/
  folder : Disk := .vacant
  /-- The events of the sessions go nowhere. -/
  noSink : Bool := false
  /-- Changes of the phase of the service are logged. -/
  logsPhases : Bool := false
  panel : Option Switching.Panel := none
  plugins : List PluginScript := []
  /-- The bound of a bare registry. -/
  maxRunning : Int64 := 0
  /-- The timeout of a bare desk. -/
  timeout : Duration := 0
  /-- Whether a bare desk is headless. -/
  headless : Bool := false

namespace Scenario

/-- The repository as the scenario finds it. -/
def repository (sc : Scenario) (now : Int) : Repository :=
  match sc.state with
  | none => { medium := if sc.setup.usesFolder then .file sc.folder else Medium.fresh }
  | some st =>
    let medium := if st.inFile then Medium.file .vacant else Medium.fresh
    let medium := match st.initial with
      | none => medium
      | some s =>
        match medium.save none s now with
        | .ok m => m
        | .error _ => medium
    { medium := medium, loadFault := st.loadFault, saveFault := st.saveFault }

/-- A run whose workers have not been started. -/
def bareRun (sc : Scenario) : Run where
  desk := (Switching.Desk.fresh sc.timeout sc.headless).setPanel sc.panel

/-- The parts of the system that depend on what the scenario is about. -/
def fit (sc : Scenario) (s : System) : System :=
  match sc.subject with
  | .service => s
  | .bus => { s with sink := .nowhere, runs := [sc.bareRun], published := some 0 }
  | .switching =>
    { s with
      sink := if sc.noSink then .nowhere else .desk
      runs := [sc.bareRun]
      published := some 0 }
  | .registry =>
    { s with
      sink := .nowhere
      registry := { maxRunning := sc.maxRunning }
      persists := sc.state.isSome }
  | .sessions => { s with sink := if sc.noSink then .nowhere else .outside }
  | _ => { s with sink := .nowhere }

/-- The bench before any system is on it. -/
def bare (sc : Scenario) : World where
  subject := sc.subject
  clock := sc.clock
  systems := []
  kind := sc.vehicle
  simulator :=
    { capabilities := sc.capabilities
      latency := sc.latency
      hasHandler := sc.subject == .service }
  script := { capabilities := sc.capabilities }
  plugins := sc.plugins
  ownRepository := sc.state.isSome
  folder := sc.folder
  noSink := sc.noSink
  logsPhases := sc.logsPhases
  panel := sc.panel

/-- The bench at the start, unless the configuration is wrong. -/
def world (sc : Scenario) : Except Fault World :=
  let w := sc.bare
  (w.boot sc.setup (Sessions.fresh sc.current)).map fun s =>
    { w with
      systems := [sc.fit { s with
        roster := sc.users.foldl Roster.put Roster.fresh
        repository := sc.repository w.clock }] }

end Scenario

/-- How the subject of a scenario stands. -/
inductive Facet
  | service (phase : Phase) (current : UserId) (inFlight : Option Transaction)
      (background restarted : List UserId)
  | bus (locals remotes : Nat)
  | registry (background restarted : List UserId)
  | switching (inFlight : Option Transaction) (current : UserId)
  | sessions (current : UserId)
  | lifecycle (phase : Phase) (contextDone : Bool)
  | nothing

namespace World

/-- How the subject stands. -/
def facet (w : World) : Facet :=
  match w.current? with
  | none => .nothing
  | some s =>
    match w.subject with
    | .service =>
      .service s.manager.phase s.sessions.current s.inFlight s.backgroundUsers s.restartedUsers
    | .bus => ((s.runs[0]?).map fun r => Facet.bus r.bus.localCount r.bus.remoteCount).getD .nothing
    | .registry => .registry s.backgroundUsers s.restartedUsers
    | .switching => .switching s.inFlight s.sessions.current
    | .sessions => .sessions s.sessions.current
    | .lifecycle =>
      .lifecycle w.manager.phase
        (match w.manager.groups.length with
          | 0 => false
          | n + 1 => w.manager.contextDone n)
    | _ => .nothing

end World

/-- What is told after a step. -/
structure Report where
  answer : Answer
  facet : Facet
  /-- What happened, with finished steps in the order of their names. -/
  record : Record
  /-- The lines of the log, in order. -/
  log : List String

/-- The report on the step played last. -/
def World.report (w : World) : Report where
  answer := w.answer.getD .nothing
  facet := w.facet
  record := { w.record with done := w.record.done.mergeSort fun a b => decide (a.1 ≤ b.1) }
  log := (w.record.log.map (·.text)).mergeSort fun a b => decide (a ≤ b)

/-- Plays steps one after the other. -/
def World.playAll (w : World) : List Step → List Report
  | [] => []
  | s :: rest =>
    let w := w.playStep s
    w.report :: w.playAll rest

/-- Plays a scenario, unless its configuration is wrong. -/
def Scenario.play (sc : Scenario) (steps : List Step) : Except Fault (List Report) :=
  sc.world.map (·.playAll steps)

end HeadUnit.Bench
