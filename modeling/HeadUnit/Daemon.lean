import HeadUnit.Address
import HeadUnit.Bench.Scenario
import HeadUnit.CommandLine
import HeadUnit.Log.Line
import HeadUnit.Watcher

/-!
# The daemon

The daemon runs the service against in-memory sessions and a simulated vehicle:
it reads its settings, starts the service, seeds drivers, brings up the boot
user and restarts background users, and stops when it is told to.

It has no surroundings of its own: `Surroundings` is all that it finds around
it, and `Session` is a bench with the lines written so far. So a whole run,
`Daemon.run`, is a value.
-/

namespace HeadUnit.Daemon

open Bench Service

/-- What stands at a path. -/
inductive Place
  | missing
  | folder
  | file (text : String)
  deriving DecidableEq, Repr

/-- What the daemon finds around it. -/
structure Surroundings where
  /-- Nanoseconds since 1970. -/
  now : Int := 946684800000000000
  /-- The home folder; empty if there is none. -/
  home : String
  /-- The variable of a setting; empty if there is none. -/
  value : Setting → String
  place : String → Place

/-- Why the daemon ends with an error. -/
inductive Failure
  | usage (p : CommandLine.Problem)
  | settings (p : Settings.Problem)
  /-- The settings file at this path is a folder. -/
  | settingsFolder (path : String)
  | settingsFile
  | create (f : Fault)
  | start (f : Fault)
  | stop (f : Fault)
  | metrics (p : Address.Problem)
  deriving DecidableEq, Repr

def Failure.message : Failure → String
  | usage p => p.message
  | settings p => p.message
  | settingsFolder path => "load config: read " ++ path ++ ": is a directory"
  | settingsFile => "load config: toml: malformed document"
  | create f => "create service: " ++ f.message
  | start f => "start service: " ++ f.message
  | stop f => "stop service: " ++ f.message
  | metrics p => "metrics server: listen tcp: " ++ p.message

/-! ### Preparation -/

/-- What the command line asks the daemon to do. -/
inductive Job
  | showHelp
  | showVersion
  /-- Run with these settings, from the settings file at `path`. -/
  | serve (s : Settings) (path : String)
  deriving DecidableEq, Repr

/-- Takes the offers of a source. -/
def adopt (explicit : List Setting) (s : Settings) (os : List Settings.Offer) :
    Except Failure Settings :=
  match s.adopt explicit os with
  | (s, none) => .ok s
  | (_, some p) => .error (.settings p)

/-- Takes what the settings file says, if it is there. -/
def adoptFile (place : Place) (path : String) (explicit : List Setting) (s : Settings) :
    Except Failure Settings :=
  match place with
  | .missing => .ok s
  | .folder => .error (.settingsFolder path)
  | .file text =>
    match Settings.File.parse? text with
    | none => .error .settingsFile
    | some f => adopt explicit s f.offers

/-- What the command line asks for. -/
def request (home : String) (args : List String) : Except Failure CommandLine.Request :=
  (CommandLine.parse { settings := Settings.standard home } args).mapError Failure.usage

/-- The path of the settings file; empty if there is none. -/
def settingsPath (home : String) (r : CommandLine.Request) : String :=
  if r.config = "" then Settings.fileIn home else r.config

/-- Finds out what to do. The environment wins over the file, and the command
    line over both. -/
def prepare (around : Surroundings) (args : List String) : Except Failure Job := do
  let r ← request around.home args
  if r.help then return .showHelp
  if r.version then return .showVersion
  let path := settingsPath around.home r
  let s ← if path = "" then pure r.settings
    else adoptFile (around.place path) path r.explicit r.settings
  let s ← adopt r.explicit s (Settings.environmentOffers around.value)
  match s.problem? with
  | some p => throw (.settings p)
  | none => return .serve s path

/-! ### The bench of the daemon -/

/-- The command that carries out a tuning. -/
def tune : Tuning → Command
  | .coordinatorTimeout d => .setTimeout d
  | .maxRunning n => .setMax n

/-- A step that is played once, in the foreground. -/
def step (c : Command) : Step := ({}, c)

/-- What a watcher of the file at `path` finds there. -/
def Place.finding (path : String) : Place → Finding
  | missing => .missing
  | folder => .unreadable (.told ("read " ++ path ++ ": is a directory"))
  | file text => .text text

/-- The watcher of the settings file, as a plugin of the service. -/
def watcher (around : Surroundings) (path : String) : PluginScript :=
  let folder := Path.folder path
  let fault := match around.place folder with
    | .missing => some (Fault.told ("watch " ++ folder ++ ": no such file or directory"))
    | _ => none
  match Watcher.start path true fault ((around.place path).finding path) with
  | .error f => { name := Watcher.name, initFault := some f }
  | .ok s =>
    { name := Watcher.name
      steps := s.tunings.map (fun t => step (tune t)) ++ s.notes.map fun n => step (.note n) }

/-- The state file of the daemon. -/
def stateFile (s : Settings) : String := Path.join s.stateDir "usercoord.json"

/-- What stands in the folder of the state file. -/
def stateDisk (around : Surroundings) (s : Settings) : Disk :=
  match around.place s.stateDir, around.place (stateFile s) with
  | .file _, _ => .noFolder
  | _, .missing => .vacant
  | _, .folder => .folderAtFile
  | _, .file text => .holding text

/-- The bench that the daemon runs on. -/
def scenario (around : Surroundings) (s : Settings) (path : String) : Scenario where
  subject := .service
  clock := around.now
  latency := s.simLatency
  setup := ⟨s.service, s.stateDir != ""⟩
  folder := stateDisk around s
  logsPhases := true
  plugins := if path = "" then [] else [watcher around path]

/-! ### Sessions -/

/-- A running daemon. -/
structure Session where
  world : World
  threshold : Log.Threshold
  /-- The entries written so far, in order. -/
  written : List Log.Entry := []

namespace Session

/-- Writes the entries that the threshold admits. -/
def write (s : Session) (es : List Log.Entry) : Session :=
  { s with written := s.written ++ es.filter fun e => s.threshold.admits e.level }

/-- Plays a command. -/
def play (s : Session) (c : Command) : Session × Answer :=
  let w := s.world.playStep (step c)
  ({ s with world := w }.write w.record.log, w.answer.getD .nothing)

/-- Plays a command whose answer does not matter. -/
def tell (s : Session) (c : Command) : Session := (s.play c).1

/-- Lets time pass until nothing is due any more. -/
def linger (s : Session) : Session :=
  let w := { s.world with record := {} }.runOut World.instantRounds
  { s with world := w }.write w.record.log

/-- Seeds drivers: those there are then. -/
def seed (s : Session) (n : Int64) : Session × List UserId :=
  match s.play (.seedDrivers n) with
  | (s, .seeded drivers none) => (s, drivers)
  | (s, .seeded drivers (some f)) =>
    (s.tell (.note (Note.error "failed to seed drivers" [Log.err (some f)])), drivers)
  | (s, _) => (s, [])

/-- Brings up the boot user. -/
def bringUp (s : Session) (drivers : List UserId) : Session :=
  match s.play (.boot drivers) with
  | (s, .number n) =>
    let id := Int64.ofInt n
    if id = UserId.null then s
    else s.tell (.note (Note.info "initial user in foreground" [Log.int "user" id]))
  | (s, _) => s

/-- Has every event logged. -/
def watchEvents (s : Session) : Session :=
  match s.play .logEvents with
  | (s, .status (some f)) =>
    s.tell (.note (Note.warn "failed to add lifecycle listener" [Log.err (some f)]))
  | (s, _) => s

/-- What follows the start of the service, until nothing more happens. -/
def boot (s : Session) (settings : Settings) : Session :=
  let s := s.watchEvents
  let s := if settings.metricsAddress = "" then s
    else s.tell (.note (Note.info "metrics server listening"
      [Log.str "addr" settings.metricsAddress]))
  let (s, drivers) := s.seed settings.simDrivers
  ((s.bringUp drivers).tell .startBackground).linger

/-- The settings file has been replaced, or moved away. -/
def fileChanged (s : Session) (path : String) (file : Finding) : Session :=
  match Watcher.reload path file with
  | (ts, ns) =>
    let s := ts.foldl (fun s t => s.tell (tune t)) s
    (ns.foldl (fun s n => s.tell (.note n)) s).linger

/-- Stops the service; `cause` is why the metrics cannot be served, if that is
    the reason. -/
def halt (s : Session) (cause : Option Address.Problem) : Session × Option Failure :=
  let note := match cause with
    | none => Note.info "received signal, stopping..." []
    | some _ => Note.error "auxiliary server failed, stopping..." []
  let (s, answer) := (s.tell (.note note)).play .stop
  (s, match cause, answer with
    | some p, _ => some (.metrics p)
    | none, .status (some f) => some (.stop f)
    | none, _ => none)

/-- The text of the state file, if there is one. -/
def stateText? (s : Session) : Option String :=
  match s.world.disk with
  | .holding text => some text
  | _ => none

end Session

/-- The settings as a value. -/
def settingsData (s : Settings) : Log.Data :=
  let number (n : Int64) : Log.Data := .number (toString n.toInt)
  .record [("StateDir", .string s.stateDir), ("MaxRunningUsers", number s.maxRunning),
    ("CoordinatorTimeout", number s.coordinatorTimeout),
    ("ShutdownTimeout", number s.shutdownTimeout), ("Headless", .bool s.headless),
    ("LogLevel", .string s.logLevel), ("MetricsAddr", .string s.metricsAddress),
    ("SimLatency", number s.simLatency), ("SimDrivers", number s.simDrivers)]

/-- The entry that a run begins with. -/
def settingsEntry (s : Settings) (path : String) : Log.Entry where
  level := .info
  message := "configuration"
  fields := [⟨"config", .data (settingsData s)⟩, Log.str "config_file" path]

/-- The daemon as far as it gets by itself: until it waits to be told to stop,
    or fails. -/
def serve (around : Surroundings) (s : Settings) (path : String) : Session × Option Failure :=
  let sc := scenario around s path
  match sc.world with
  | .error f =>
    (Session.write { world := sc.bare, threshold := s.threshold } [settingsEntry s path],
      some (.create f))
  | .ok w =>
    let session := Session.write { world := w, threshold := s.threshold } [settingsEntry s path]
    match session.play .start with
    | (session, .status (some f)) => (session, some (.start f))
    | (session, _) => (session.boot s, none)

/-- Why metrics cannot be served, if they are to be. -/
def metricsProblem? (s : Settings) : Option Address.Problem :=
  if s.metricsAddress = "" then none else Address.problem? s.metricsAddress

/-! ### A whole run -/

/-- What a run leaves. -/
structure Outcome where
  written : List Log.Entry := []
  failure : Option Failure := none
  /-- The state file: where it is, and its text. -/
  state : Option (String × String) := none

/-- A run fails with 1. -/
def Outcome.exitCode (o : Outcome) : Nat := if o.failure.isSome then 1 else 0

/-- The lines of a run, without the times at which they were written. -/
def Outcome.lines (o : Outcome) : List String :=
  o.written.map (Log.Line.console false "") ++ o.failure.toList.map fun f => "Error: " ++ f.message

/-- What a session leaves. -/
def Session.outcome (s : Session) (settings : Settings) (failure : Option Failure) : Outcome where
  written := s.written
  failure := failure
  state := s.stateText?.map fun text => (stateFile settings, text)

/-- A run that is told to stop once nothing more happens. -/
def run (around : Surroundings) (args : List String) : Outcome :=
  match prepare around args with
  | .error f => { failure := some f }
  | .ok .showHelp => {}
  | .ok .showVersion => {}
  | .ok (.serve settings path) =>
    match serve around settings path with
    | (s, some f) => s.outcome settings (some f)
    | (s, none) =>
      let (s, failure) := s.halt (metricsProblem? settings)
      s.outcome settings failure

end HeadUnit.Daemon
