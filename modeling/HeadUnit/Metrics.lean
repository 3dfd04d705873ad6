import HeadUnit.Log
import HeadUnit.Event

/-!
# Metrics

Gauges, counters and the durations of calls into the vehicle. A `Note` is what
a component reports as it works: a log entry, or a change of a metric.
-/

namespace HeadUnit

/-- The calls into the vehicle that are waited for. -/
inductive TripKind
  | switch
  | create
  | setAssociation
  | initialInfo
  | other (name : String)
  deriving DecidableEq, Repr

def TripKind.text : TripKind → String
  | switch => "switch"
  | create => "create"
  | setAssociation => "set_association"
  | initialInfo => "initial_user_info"
  | other name => name

/-- How a call into the vehicle ended. -/
inductive TripOutcome
  | ok
  | error
  | timeout
  deriving DecidableEq, Repr

def TripOutcome.text : TripOutcome → String
  | ok => "ok"
  | error => "error"
  | timeout => "timeout"

/-- How the start of a background user ended. -/
inductive StartOutcome
  | startFailed
  | alreadyUnlocked
  | unlocked
  | locked
  | unlockFailed
  deriving DecidableEq, Repr

def StartOutcome.text : StartOutcome → String
  | startFailed => "start_failed"
  | alreadyUnlocked => "already_unlocked"
  | unlocked => "unlocked"
  | locked => "locked"
  | unlockFailed => "unlock_failed"

/-- How a reload of the settings file ended. -/
inductive ReloadOutcome
  | ok
  | missing
  | error
  deriving DecidableEq, Repr

def ReloadOutcome.text : ReloadOutcome → String
  | ok => "ok"
  | missing => "missing"
  | error => "error"

/-- What is counted. -/
inductive Counter
  | switchResult (status : SwitchStatus)
  | creation (status : CreateStatus)
  | removal (status : RemoveStatus)
  | association (write : Bool) (status : AssociationStatus)
  | event (kind : EventKind)
  | listenerFailure (remote : Bool)
  | backgroundStart (outcome : StartOutcome)
  | reload (outcome : ReloadOutcome)
  deriving DecidableEq, Repr

/-- The name of a counter with its labels, in order of their names. -/
def Counter.name : Counter → String
  | switchResult s => "switch_results_total\x7bstatus=" ++ s.text ++ "\x7d"
  | creation s => "user_creates_total\x7bstatus=" ++ s.text ++ "\x7d"
  | removal s => "user_removals_total\x7bstatus=" ++ s.text ++ "\x7d"
  | association w s =>
    "association_calls_total\x7bop=" ++ (if w then "set" else "get") ++ ",status=" ++ s.text
      ++ "\x7d"
  | event k => "lifecycle_events_total\x7btype=" ++ k.text ++ "\x7d"
  | listenerFailure r =>
    "listener_failures_total\x7bkind=" ++ (if r then "remote" else "local") ++ "\x7d"
  | backgroundStart o => "background_starts_total\x7boutcome=" ++ o.text ++ "\x7d"
  | reload o => "config_reloads_total\x7boutcome=" ++ o.text ++ "\x7d"

/-- What a component reports as it works. -/
inductive Note
  | log (entry : Log.Entry)
  | count (counter : Counter)
  /-- Whether a switch transaction is tracked. -/
  | inFlight (tracked : Bool)
  | remoteListeners (n : Nat)
  | backgroundUsers (n : Nat)
  /-- A call into the vehicle ended after `elapsed`. -/
  | trip (kind : TripKind) (outcome : TripOutcome) (elapsed : Int)
  deriving Repr

namespace Note

def debug (message : String) (fields : List Log.Field) : Note := .log ⟨.debug, message, fields, none⟩
def info (message : String) (fields : List Log.Field) : Note := .log ⟨.info, message, fields, none⟩
def warn (message : String) (fields : List Log.Field) : Note := .log ⟨.warn, message, fields, none⟩
def error (message : String) (fields : List Log.Field) : Note := .log ⟨.error, message, fields, none⟩
def critical (message : String) (fields : List Log.Field) : Note :=
  .log ⟨.critical, message, fields, none⟩

/-- Names the component that wrote a note. -/
def writtenBy (component : String) : Note → Note
  | .log e => .log { e with component := some component }
  | n => n

end Note

/-- The current values of all metrics. -/
structure Metrics where
  inFlight : Nat := 0
  remoteListeners : Nat := 0
  backgroundUsers : Nat := 0
  counts : List (Counter × Nat) := []
  trips : List (TripKind × TripOutcome × Int) := []
  deriving Repr

namespace Metrics

/-- One more of `c`, counters in the order of their first use. -/
def bump (c : Counter) : List (Counter × Nat) → List (Counter × Nat)
  | [] => [(c, 1)]
  | (d, n) :: rest => if d = c then (d, n + 1) :: rest else (d, n) :: bump c rest

/-- Takes a note into account; log entries change nothing. -/
def record (m : Metrics) : Note → Metrics
  | .log _ => m
  | .count c => { m with counts := bump c m.counts }
  | .inFlight b => { m with inFlight := if b then 1 else 0 }
  | .remoteListeners n => { m with remoteListeners := n }
  | .backgroundUsers n => { m with backgroundUsers := n }
  | .trip k o d => { m with trips := m.trips ++ [(k, o, d)] }

/-- The upper bounds of the duration buckets, in nanoseconds. -/
def buckets : List Int :=
  [10000000, 50000000, 100000000, 250000000, 500000000, 1000000000, 2500000000, 5000000000,
   10000000000]

/-- For each bucket the number of durations within its bound, then the number
    of all. -/
def histogram (ds : List Int) : List Nat :=
  buckets.map (fun b => (ds.filter (· ≤ b)).length) ++ [ds.length]

/-- The kinds and outcomes of the trips seen, each once. -/
def tripLabels (m : Metrics) : List (TripKind × TripOutcome) :=
  (m.trips.map fun t => (t.1, t.2.1)).eraseDups

/-- The histograms of trip durations by name. -/
def tripHistograms (m : Metrics) : List (String × List Nat) :=
  m.tripLabels.map fun (k, o) =>
    ("coordinator_request_duration_seconds\x7bop=" ++ k.text ++ ",outcome=" ++ o.text ++ "\x7d",
      histogram ((m.trips.filter fun t => t.1 == k && t.2.1 == o).map (·.2.2)))

/-- The counters by name. -/
def counters (m : Metrics) : List (String × Nat) := m.counts.map fun (c, n) => (c.name, n)

/-- The gauges by name. -/
def gauges (m : Metrics) : List (String × Nat) :=
  [("switch_in_flight", m.inFlight), ("remote_listeners", m.remoteListeners),
   ("background_restart_users", m.backgroundUsers)]

end Metrics

end HeadUnit
