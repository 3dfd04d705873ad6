import HeadUnit.Fault
import HeadUnit.State.Snapshot

/-!
# Where the state is kept

A medium is memory or a file in a folder; what stands in the place of folder
and file decides which step of a load or save fails. A `Repository` is a medium
whose loads and saves can be made to fail.
-/

namespace HeadUnit

/-- What is found in the folder of the state file. -/
inductive Disk
  /-- No file yet. -/
  | vacant
  | holding (text : String)
  /-- The place of the folder is taken by a file. -/
  | noFolder
  /-- The place of the file is taken by a folder. -/
  | folderAtFile
  deriving DecidableEq, Repr

namespace Disk

def load : Disk → Except Fault Snapshot
  | vacant => .ok Snapshot.empty
  | holding text =>
    match Snapshot.parse? text with
    | some s => .ok s
    | none => .error (.stateFile .decode)
  | noFolder => .error (.stateFile .read)
  | folderAtFile => .error (.stateFile .read)

/-- Replaces the file, stamped with the time of the save. -/
def save (d : Disk) (s : Snapshot) (now : Int) : Except Fault Disk :=
  match d with
  | noFolder => .error (.stateFile .createFolder)
  | folderAtFile => .error (.stateFile .replace)
  | _ => .ok (.holding { s with savedAt := Stamp.ofUnixNanos now }.render)

end Disk

/-- Memory or a file. -/
inductive Medium
  | memory (state : Snapshot) (saves : Nat)
  | file (disk : Disk)
  deriving Repr

namespace Medium

/-- Memory with nothing in it. -/
def fresh : Medium := .memory Snapshot.empty 0

def load : Medium → Except Fault Snapshot
  | memory s _ => .ok s
  | file d => d.load

/-- Saves a state. Only a file cares whether the caller is still there. -/
def save (m : Medium) (gone : Option Fault) (s : Snapshot) (now : Int) : Except Fault Medium :=
  match m with
  | memory _ n => .ok (.memory s (n + 1))
  | file d =>
    match gone with
    | some f => .error f
    | none => (d.save s now).map .file

end Medium

/-- A medium with faults put in place. -/
structure Repository where
  medium : Medium := Medium.fresh
  loadFault : Option Fault := none
  saveFault : Option Fault := none
  deriving Repr

namespace Repository

def load (r : Repository) : Except Fault Snapshot :=
  match r.loadFault with
  | some f => .error f
  | none => r.medium.load

def save (r : Repository) (gone : Option Fault) (s : Snapshot) (now : Int) :
    Except Fault Repository :=
  match r.saveFault with
  | some f => .error f
  | none => (r.medium.save gone s now).map fun m => { r with medium := m }

end Repository

end HeadUnit
