import HeadUnit.Log.Threshold
import HeadUnit.Service.Config
import HeadUnit.Text.Path

/-!
# Settings of the daemon

The settings come from several sources: their standards, a file, the
environment, and the command line, which wins. What a source gives for a
setting is an *offer*. The offers of a source are taken in order up to the
first that cannot be read; those before it stay in force.
-/

namespace HeadUnit

/-- The settings of the daemon. -/
structure Settings where
  /-- The folder of the state file; empty keeps the state in memory. -/
  stateDir : String := ""
  /-- How many users may run at once, the system user included. -/
  maxRunning : Int64 := 0
  coordinatorTimeout : Duration := 0
  shutdownTimeout : Duration := 0
  headless : Bool := false
  logLevel : String := ""
  /-- Where metrics are served; empty serves none. -/
  metricsAddress : String := ""
  /-- How long the simulated vehicle takes to answer. -/
  simLatency : Duration := 0
  /-- How many drivers there are at least after a boot. -/
  simDrivers : Int64 := 0
  deriving DecidableEq, Repr

/-- The settings by name. -/
inductive Setting
  | stateDir
  | maxRunning
  | coordinatorTimeout
  | shutdownTimeout
  | headless
  | logLevel
  | metricsAddress
  | simLatency
  | simDrivers
  deriving DecidableEq, Repr

namespace Setting

/-- The name of a setting on the command line. -/
def flag : Setting → String
  | stateDir => "state-dir"
  | maxRunning => "max-running-users"
  | coordinatorTimeout => "coordinator-timeout"
  | shutdownTimeout => "shutdown-timeout"
  | headless => "headless"
  | logLevel => "log-level"
  | metricsAddress => "metrics-addr"
  | simLatency => "sim-latency"
  | simDrivers => "sim-drivers"

/-- All settings. -/
def all : List Setting :=
  [stateDir, maxRunning, coordinatorTimeout, shutdownTimeout, headless, logLevel, metricsAddress,
   simLatency, simDrivers]

theorem mem_all (s : Setting) : s ∈ all := by cases s <;> decide

/-- The setting with this name on the command line. -/
def ofFlag? (name : String) : Option Setting := all.find? (·.flag == name)

/-- The name of a setting in the environment, without what all of them begin
    with: its flag in capitals, with underscores. -/
def shortName (s : Setting) : String :=
  String.ofList (s.flag.toList.map fun c => if c = '-' then '_' else c.toUpper)

/-- The name of a setting in the environment. -/
def variableName (s : Setting) : String := "USERCOORD_" ++ s.shortName

end Setting

namespace Settings

/-- The folder of the program in a home folder; an empty one is none. -/
def folderIn (home : String) : String := if home = "" then "" else Path.join home ".usercoord"

/-- The file with settings in a home folder. -/
def fileIn (home : String) : String :=
  if home = "" then "" else Path.join (folderIn home) "config.toml"

/-- The settings when no source offers anything. -/
def standard (home : String) : Settings where
  stateDir := folderIn home
  maxRunning := 3
  coordinatorTimeout := 5 * Duration.second
  shutdownTimeout := 30 * Duration.second
  logLevel := "info"
  metricsAddress := ":9464"
  simLatency := 50 * Duration.millisecond
  simDrivers := 2

/-! ### Problems -/

/-- What is wrong with settings, or with what was offered for one. -/
inductive Problem
  | duration (s : Setting) (p : Duration.Problem)
  | number (s : Setting) (p : Integer.Problem) (text : String)
  | tooFewRunning (n : Int64)
  | coordinatorTimeout
  | shutdownTimeout
  | simLatency
  | logLevel (p : Log.Threshold.Problem)
  deriving DecidableEq, Repr

def Problem.message : Problem → String
  | duration s p => "parse " ++ s.flag ++ ": " ++ p.message
  | number s p text => "parse " ++ s.flag ++ ": " ++ p.message "strconv.Atoi" text
  | tooFewRunning n => "max-running-users must be at least 2, got " ++ toString n.toInt
  | coordinatorTimeout => "coordinator timeout must be positive"
  | shutdownTimeout => "shutdown timeout must be positive"
  | simLatency => "sim latency must not be negative"
  | logLevel p => "log level: " ++ p.message

/-- What is wrong with settings, if anything. -/
def problem? (s : Settings) : Option Problem :=
  if s.maxRunning < 2 then some (.tooFewRunning s.maxRunning)
  else if s.coordinatorTimeout ≤ 0 then some .coordinatorTimeout
  else if s.shutdownTimeout ≤ 0 then some .shutdownTimeout
  else if s.simLatency < 0 then some .simLatency
  else match Log.Threshold.parse s.logLevel with
    | .error p => some (.logLevel p)
    | .ok _ => none

/-- Which entries are logged; those from `info` on if nothing in particular is
    set. -/
def threshold (s : Settings) : Log.Threshold :=
  match Log.Threshold.parse s.logLevel with
  | .error _ => Log.Threshold.info
  | .ok t => if t = Log.Threshold.unspecified then Log.Threshold.info else t

/-- The configuration of the service. -/
def service (s : Settings) : Service.Config where
  stateDir := s.stateDir
  maxRunning := s.maxRunning
  coordinatorTimeout := s.coordinatorTimeout
  headless := s.headless
  shutdownTimeout := s.shutdownTimeout

/-! ### Offers -/

/-- What a source gives for a setting: a change of the settings, unless it
    cannot be read. -/
structure Offer where
  setting : Setting
  change : Except Problem (Settings → Settings)

/-- Takes offers in order, up to the first that cannot be read. Those for
    settings that are given explicitly are passed over. -/
def adopt (explicit : List Setting) (s : Settings) : List Offer → Settings × Option Problem
  | [] => (s, none)
  | o :: rest =>
    if explicit.contains o.setting then s.adopt explicit rest
    else match o.change with
      | .error p => (s, some p)
      | .ok f => (f s).adopt explicit rest

end Settings

end HeadUnit
