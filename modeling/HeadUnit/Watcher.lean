import HeadUnit.Metrics
import HeadUnit.Text.Path
import HeadUnit.Toml.Fill

/-!
# Watching the settings file

Two settings can be tuned while the service runs: the timeout of the
coordinator and how many users may run. A watcher reads them from the settings
file when it starts and whenever the file changes. Nothing changes if the file
is missing, cannot be read or makes no sense.

The folder of the file is watched, so that a file put in its place by a rename
is noticed; of what happens there, only changes of the contents of the file
itself count. The file is read when it has been left alone for a while, so a
burst of changes leads to one reload.

* `Watcher.reload` is one reading of the file;
* `Watcher.take` is what an event does: it sets a timer in place of the one that
  was set last;
* `Watcher.run` is what a watcher does over time, and `Watcher.readings` when it
  reads the file.
-/

namespace HeadUnit

/-- A change of a running service. -/
inductive Tuning
  | coordinatorTimeout (d : Duration)
  | maxRunning (n : Int64)
  deriving DecidableEq, Repr

/-- What a settings file says about what can be tuned. An empty text and a
    number that is not positive leave things as they are. -/
structure Tunables where
  coordinatorTimeout : String := ""
  maxRunning : Int64 := 0
  deriving DecidableEq, Repr

namespace Tunables

/-- The keys that are looked at. -/
def shape : Toml.Shape Tunables
  | "coordinator_timeout" => some (Toml.setText fun t v => { t with coordinatorTimeout := v })
  | "max_running_users" => some (Toml.setInteger fun t v => { t with maxRunning := v })
  | _ => none

/-- Reads the text of a file. -/
def parse? (text : String) : Option Tunables := Toml.fill? shape {} text

/-- The tunings asked for, the timeout first; none of them if the timeout is no
    duration. -/
def tunings (t : Tunables) : Except Duration.Problem (List Tuning) := do
  let timeout ← if t.coordinatorTimeout = "" then pure []
    else (fun d => [Tuning.coordinatorTimeout d]) <$> Duration.parse t.coordinatorTimeout
  return timeout ++ if 0 < t.maxRunning then [.maxRunning t.maxRunning] else []

end Tunables

/-- What is found where a file is expected. -/
inductive Finding
  | missing
  /-- Something is there that cannot be read. -/
  | unreadable (f : Fault)
  | text (t : String)
  deriving DecidableEq, Repr

/-- A file that can be read if it is there. -/
instance : Coe (Option String) Finding where
  coe
    | none => .missing
    | some t => .text t

namespace Watcher

/-- The name of the watcher among plugins. -/
def name : String := "configwatcher"

/-- A reload that failed. -/
def failed (path : String) (f : Fault) : List Note :=
  [.count (.reload .error),
    Note.error "config reload failed" [Log.str "path" path, Log.err (some f)]]

/-- Reads the file at `path`. -/
def reload (path : String) (file : Finding) : List Tuning × List Note :=
  match file with
  | .missing => ([], [.count (.reload .missing)])
  | .unreadable f => ([], failed path f)
  | .text text =>
    match Tunables.parse? text with
    | none => ([], failed path (.told "toml: malformed document"))
    | some t =>
      match t.tunings with
      | .error p => ([], failed path (.wrapped "parse coordinator_timeout" (.told p.message)))
      | .ok ts =>
        (ts, [.count (.reload .ok), Note.info "config reloaded" [Log.str "path" path]])

/-- How the start of a watcher went. -/
structure Started where
  /-- It watches the folder of the file. -/
  watching : Bool
  tunings : List Tuning
  notes : List Note

/-- Starts a watcher. Without a path, or with nothing that can be tuned, it does
    not watch; `folder` tells why the folder of the file cannot be watched, if
    it cannot. -/
def start (path : String) (tunable : Bool) (folder : Option Fault) (file : Finding) :
    Except Fault Started :=
  if path = "" || !tunable then
    .ok ⟨false, [], [Note.warn "config watcher disabled: no config path" []]⟩
  else match folder with
    | some f => .error f
    | none =>
      let (ts, ns) := reload path file
      .ok ⟨true, ts, ns ++ [Note.info "config watcher plugin initialized" [Log.str "path" path]]⟩

end Watcher

/-! ### Watching -/

/-- What happened to a file; several things may be reported at once. -/
structure FileEvent where
  path : String
  created : Bool := false
  written : Bool := false
  renamed : Bool := false
  removed : Bool := false
  /-- Its permissions changed. -/
  touched : Bool := false
  deriving DecidableEq, Repr

/-- Whether an event is about the contents of the file at `path`. -/
def FileEvent.concerns (e : FileEvent) (path : String) : Bool :=
  Path.name e.path == Path.name path && (e.written || e.created || e.renamed)

/-- A timer that runs. -/
structure Alarm where
  id : Nat
  /-- When it goes off. -/
  due : Int
  /-- The context in which it was set. -/
  context : Nat
  deriving DecidableEq, Repr

/-- A watcher. Every start gives it a context of its own to work in; contexts and
    timers are counted. -/
structure Watcher where
  path : String
  /-- How long the file has to be left alone before it is read. -/
  delay : Duration
  /-- The timers that run. -/
  alarms : List Alarm := []
  /-- The timer that was set last; it may have gone off or been called off since. -/
  latest : Option Nat := none
  /-- How many timers have been set. -/
  minted : Nat := 0
  context : Nat := 0
  /-- Its context has ended, or it has none yet. -/
  ended : Bool := true
  deriving DecidableEq, Repr

namespace Watcher

/-- A watcher that has not been started; a delay that is not positive is a tenth
    of a second. -/
def fresh (path : String) (delay : Duration) : Watcher where
  path := path
  delay := if delay ≤ 0 then 100 * Duration.millisecond else delay

/-- Goes to work in a context of its own; the one of before has ended. -/
def enter (w : Watcher) : Watcher := { w with context := w.context + 1, ended := false }

/-- Starts a watcher; `file` is what it finds then. -/
def launch (w : Watcher) (tunable : Bool) (folder : Option Fault) (file : Finding) :
    Except Fault (Started × Watcher) :=
  (start w.path tunable folder file).map fun s => (s, if s.watching then w.enter else w)

/-- Calls off the timer that was set last, if there is one. -/
def callOff (w : Watcher) : Watcher :=
  { w with alarms := w.alarms.filter fun a => w.latest != some a.id }

/-- Sets a timer in place of the one that was set last. -/
def schedule (w : Watcher) (now : Int) : Watcher :=
  let w := w.callOff
  { w with
    alarms := w.alarms ++ [⟨w.minted, now + w.delay.toInt, w.context⟩]
    latest := some w.minted
    minted := w.minted + 1 }

/-- What happens to a watcher. -/
inductive Happening
  /-- Something happens in the folder of the file. -/
  | event (e : FileEvent)
  /-- The folder cannot be watched properly. -/
  | trouble (f : Fault)
  /-- The context that it was started with ends. -/
  | contextEnded
  | shutdown
  deriving DecidableEq, Repr

/-- What a watcher does. -/
inductive Doing
  /-- It reads the file: what is tuned, and what is noted. -/
  | read (tunings : List Tuning) (notes : List Note)
  | note (n : Note)

/-- What came of a reading, if the file was read. -/
def Doing.reading? : Doing → Option (List Tuning × List Note)
  | read ts ns => some (ts, ns)
  | note _ => none

/-- Takes what happens. Once its context has ended, nothing that happens to files
    is listened to. -/
def take (w : Watcher) (now : Int) : Happening → Watcher
  | .event e => if !w.ended && e.concerns w.path then w.schedule now else w
  | .trouble _ => w
  | .contextEnded => { w with ended := true }
  | .shutdown => { w with ended := true }.callOff

/-- What is done at once when something happens. -/
def answer (w : Watcher) (now : Int) : Happening → List (Int × Doing)
  | .trouble f =>
    if w.ended then [] else [(now, .note (Note.error "config watcher error" [Log.err (some f)]))]
  | _ => []

/-- Whether the context has not ended in which a timer was set. -/
def lasts (w : Watcher) (a : Alarm) : Bool := !w.ended && a.context == w.context

/-- What is done when a timer goes off whose context has not ended: the file is
    read; `file` tells what is found when. -/
def ring (w : Watcher) (file : Int → Finding) (a : Alarm) : List (Int × Doing) :=
  if w.lasts a then
    let (ts, ns) := reload w.path (file a.due)
    [(a.due, .read ts ns)]
  else []

/-- What is done when timers go off, in the order of time. -/
def rings (w : Watcher) (file : Int → Finding) (alarms : List Alarm) : List (Int × Doing) :=
  (alarms.mergeSort fun a b => a.due ≤ b.due).flatMap (w.ring file)

/-- Time passes until `now`; the timers that are due have gone off. -/
def lapse (w : Watcher) (now : Int) : Watcher :=
  { w with alarms := w.alarms.filter (now < ·.due) }

/-- The watcher after what happens when, in the order of time. -/
def after (w : Watcher) : List (Int × Happening) → Watcher
  | [] => w
  | (now, h) :: rest => ((w.lapse now).take now h).after rest

/-- What a watcher does when, given what happens when, in the order of time. A
    timer that is due when something else happens goes off first. -/
def run (w : Watcher) (file : Int → Finding) : List (Int × Happening) → List (Int × Doing)
  | [] => w.rings file w.alarms
  | (now, h) :: rest =>
    w.rings file (w.alarms.filter (·.due ≤ now)) ++ (w.lapse now).answer now h ++
      ((w.lapse now).take now h).run file rest

/-- The readings of a file among what is done when. -/
def readingsOf (ds : List (Int × Doing)) : List (Int × List Tuning × List Note) :=
  ds.filterMap fun (t, d) => d.reading?.map (t, ·)

/-- When a watcher reads the file, and what comes of it. -/
def readings (w : Watcher) (file : Int → Finding) (hs : List (Int × Happening)) :
    List (Int × List Tuning × List Note) :=
  readingsOf (w.run file hs)

/-- What is done in the folder of the file. -/
inductive Change
  /-- The file is replaced by one with this text. -/
  | replaced (text : String)
  /-- The file is moved away. -/
  | movedAway
  /-- Another file is put in place. -/
  | otherFile
  /-- The permissions of the file change. -/
  | permissions
  deriving DecidableEq, Repr

/-- The events of a change of the file at `path`. -/
def Change.events (path : String) : Change → List FileEvent
  | replaced _ => [{ path := path, created := true }]
  | movedAway => [{ path := path, renamed := true }]
  | otherFile => [{ path := path ++ ".other", created := true }]
  | permissions => [{ path := path, touched := true }]

/-- What the file holds after a change, if it held `text` before. -/
def Change.contents (text : Option String) : Change → Option String
  | replaced t => some t
  | movedAway => none
  | otherFile => text
  | permissions => text

/-- The reload that a change leads to, if it does. -/
def observe (path : String) (text : Option String) (c : Change) :
    Option (List Tuning × List Note) :=
  let seen := (c.events path).map fun e => (0, Happening.event e)
  ((fresh path 0).enter.readings (fun _ => c.contents text) seen).head?.map (·.2)

end Watcher

end HeadUnit
