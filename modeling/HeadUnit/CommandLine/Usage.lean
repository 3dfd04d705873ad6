import HeadUnit.CommandLine

/-!
# Usage

What is shown when the command line asks for help or for the version.
-/

namespace HeadUnit.CommandLine

/-- What a flag is for. -/
def Flag.purpose : Flag → String
  | help => "help for usercoord"
  | version => "version for usercoord"
  | config => "path to config file (default: $HOME/.usercoord/config.toml)"
  | setting .stateDir => "directory for persisted state (empty keeps state in memory)"
  | setting .maxRunning => "maximum number of running users, system user included"
  | setting .coordinatorTimeout => "default timeout of coordinator round trips"
  | setting .shutdownTimeout => "maximum time to wait for workers on shutdown"
  | setting .headless => "run without a display; the system user cannot be switched to"
  | setting .logLevel => "log level (debug, info, warn, error)"
  | setting .metricsAddress => "address of the Prometheus metrics endpoint (empty disables it)"
  | setting .simLatency => "answer latency of the simulated coordinator"
  | setting .simDrivers => "drivers to create at boot when none exist"

/-- All flags. -/
def Flag.all : List Flag := [help, version, config] ++ Setting.all.map setting

/-- The lines of the help. -/
def usage : List String :=
  ["Coordinate user switching, creation and removal on a multi-user head unit",
    "with an external vehicle coordinator.", "", "Usage:", "  usercoord [flags]", "", "Flags:"]
    ++ Flag.all.map fun f => "  " ++ f.shown ++ "   " ++ f.purpose

/-- The line with the version. -/
def versionLine : String := "usercoord version dev"

end HeadUnit.CommandLine
