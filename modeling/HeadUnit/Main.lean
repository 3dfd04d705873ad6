import HeadUnit.CommandLine.Usage
import HeadUnit.Daemon
import Std.Time.DateTime.Timestamp

/-!
# The program

Looks around, runs the daemon, prints what it writes and keeps its state file.
The daemon is told to stop when standard input ends; until then its settings
file is looked at ten times a second.
-/

namespace HeadUnit.Program

open Daemon

/-- Looks at what stands at a path. -/
def look (path : String) : IO Place := do
  try
    return .file (← IO.FS.readFile path)
  catch
    | .noFileOrDirectory .. => return .missing
    | _ => return .folder

/-- Looks at paths. -/
def lookAt (paths : List String) : IO (String → Place) := do
  let places ← paths.mapM fun p => return (p, ← look p)
  return fun path => (places.lookup path).getD .missing

/-- The variables of all settings. -/
def readVariables : IO (Setting → String) := do
  let values ← Setting.all.mapM fun s => return (s, (← IO.getEnv s.variableName).getD "")
  return fun s => (values.lookup s).getD ""

/-- Prints what a session has written since `count` entries, and saves its
    state. -/
def publish (settings : Settings) (count : Nat) (s : Session) : IO Nat := do
  let out ← IO.getStderr
  for e in s.written.drop count do
    let now ← Std.Time.Timestamp.now
    let stamp := (Stamp.ofUnixNanos now.toNanosecondsSinceUnixEpoch.val).text
    out.putStrLn (Log.Line.console false stamp e)
  if let some text := s.stateText? then
    IO.FS.createDirAll settings.stateDir
    IO.FS.writeFile (stateFile settings) text
  return s.written.length

/-- Takes care of changes of the settings file until standard input ends. -/
partial def attend (settings : Settings) (path : String) (ended : Task (Except IO.Error Unit))
    (seen : Place) (count : Nat) (s : Session) : IO (Session × Nat) := do
  if ← IO.hasFinished ended then return (s, count)
  IO.sleep 100
  let found ← look path
  if found = seen then attend settings path ended seen count s
  else
    let s := s.fileChanged path (found.finding path)
    attend settings path ended found (← publish settings count s) s

/-- Reads standard input to its end. -/
partial def readToEnd : IO Unit := do
  let line ← (← IO.getStdin).getLine
  if line.isEmpty then return
  readToEnd

/-- Prints why the program ends. -/
def report : Option Failure → IO UInt32
  | none => return 0
  | some f => do
    (← IO.getStderr).putStrLn ("Error: " ++ f.message)
    return 1

end HeadUnit.Program

open HeadUnit HeadUnit.Daemon HeadUnit.Program in
/-- The program. -/
def main (args : List String) : IO UInt32 := do
  let home := (← IO.getEnv "HOME").getD ""
  let value ← readVariables
  let now := (← Std.Time.Timestamp.now).toNanosecondsSinceUnixEpoch.val
  let path := match request home args with
    | .ok r => settingsPath home r
    | .error _ => ""
  let place ← lookAt [path, Path.folder path]
  match prepare ⟨now, home, value, place⟩ args with
  | .error f => report (some f)
  | .ok .showHelp => CommandLine.usage.forM IO.println; return 0
  | .ok .showVersion => IO.println CommandLine.versionLine; return 0
  | .ok (.serve settings path) =>
    let place ← lookAt [path, Path.folder path, settings.stateDir, stateFile settings]
    let (s, failure) := serve ⟨now, home, value, place⟩ settings path
    let count ← publish settings 0 s
    if failure.isSome then return ← report failure
    let problem := metricsProblem? settings
    let (s, count) ← if problem.isSome then pure (s, count)
      else attend settings path (← IO.asTask readToEnd) (place path) count s
    let (s, failure) := s.halt problem
    let _ ← publish settings count s
    report failure
