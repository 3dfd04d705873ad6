import HeadUnit.Metrics

/-!
# The lifecycle manager

It moves a service through its phases and owns its workers. The workers of one
start form a group; the group's context ends when it is canceled, when the
context it was begun with ends, or when a worker fails.

Two operations wait for a group to empty: an *abort*, which waits as long as it
takes, and a *shutdown*, which gives up at its deadline. Both are recorded as a
`Wait` and brought to an end by `finish` or `expire`.

What the manager reports is appended to `out`, in order.
-/

namespace HeadUnit.Lifecycle

/-- The workers of one start. -/
structure Group where
  /-- The context the group was begun with has ended. -/
  parentDone : Bool
  /-- The group was canceled, or one of its workers failed. -/
  canceled : Bool := false
  /-- How many workers have not returned. -/
  live : Nat := 0
  deriving DecidableEq, Repr

/-- Whether the context of the group has ended. -/
def Group.done (g : Group) : Bool := g.parentDone || g.canceled

/-- What a wait for a group is for. -/
inductive Purpose
  | abort (reason : String)
  | shutdown (timeout : Duration) (deadline : Int)
  deriving DecidableEq, Repr

/-- A call that waits for a group to empty. -/
structure Wait where
  call : Nat
  /-- The group waited for; none if there was none. -/
  group : Option Nat
  purpose : Purpose
  deriving DecidableEq, Repr

/-- Whether a wait has passed its deadline. -/
def Wait.isOverdue (w : Wait) (now : Int) : Bool :=
  match w.purpose with
  | .abort _ => false
  | .shutdown _ deadline => deadline ≤ now

/-- When a wait gives up. -/
def Wait.deadline? (w : Wait) : Option Int :=
  match w.purpose with
  | .abort _ => none
  | .shutdown _ deadline => some deadline

/-- What the manager reports. -/
inductive Effect
  | note (n : Note)
  /-- The phase changed. -/
  | changed (source target : Phase) (reason : String)
  deriving Repr

/-- The lifecycle manager. Groups are numbered in the order they were begun. -/
structure Manager where
  phase : Phase := .stopped
  groups : List Group := []
  /-- The group that new workers join. -/
  current : Option Nat := none
  waits : List Wait := []
  out : List Effect := []
  deriving Repr

namespace Manager

def note (m : Manager) (n : Note) : Manager := { m with out := m.out ++ [.note n] }

/-- Takes what was reported so far. -/
def take (m : Manager) : List Effect × Manager := (m.out, { m with out := [] })

/-- Changes the phase if the table allows it. -/
def move (m : Manager) (target : Phase) (reason : String) : Except Fault Manager :=
  if m.phase.canMove target then
    .ok { m with
      phase := target
      out := m.out ++ [.changed m.phase target reason,
        .note (Note.info "state transition"
          [Log.str "from" m.phase.text, Log.str "to" target.text, Log.str "reason" reason])] }
  else .error (.invalidTransition m.phase target)

/-- Changes the phase if the table allows it, and else does nothing. -/
def tryMove (m : Manager) (target : Phase) (reason : String) : Manager :=
  match m.move target reason with
  | .ok m' => m'
  | .error _ => m

/-- Changes one group. -/
def onGroup (m : Manager) (g : Nat) (f : Group → Group) : Manager :=
  { m with groups := m.groups.modify g f }

/-- Starts a new group; `parentDone` tells whether the context it is begun with
    has already ended. -/
def beginGroup (m : Manager) (parentDone : Bool) (reason : String) : Except Fault Manager :=
  (m.move .starting reason).map fun m =>
    { m with groups := m.groups ++ [⟨parentDone, false, 0⟩], current := some m.groups.length }

/-- A worker joins the current group. -/
def join (m : Manager) : Manager :=
  match m.current with
  | some g => m.onGroup g fun g => { g with live := g.live + 1 }
  | none => m

/-- A worker returned. A fault other than a cancellation crashes the service
    and cancels the worker's group. -/
def workerDone (m : Manager) (g : Nat) (name : String) (fault : Option Fault) : Manager :=
  let failed := fault.filter fun f => !f.isCanceled
  match failed with
  | none => m.onGroup g fun g => { g with live := g.live - 1 }
  | some f =>
    let m := m.note (Note.error "worker failed" [Log.str "worker" name, Log.err (some f)])
    let m := m.tryMove .crashed (name ++ ": " ++ f.message)
    m.onGroup g fun g => { g with live := g.live - 1, canceled := true }

/-- The context a group was begun with has ended. -/
def parentEnded (m : Manager) (g : Nat) : Manager :=
  m.onGroup g fun g => { g with parentDone := true }

/-- Whether the context of a group has ended. -/
def contextDone (m : Manager) (g : Nat) : Bool := (m.groups[g]?).any Group.done

/-- Cancels the current group. -/
def cancelCurrent (m : Manager) : Manager :=
  match m.current with
  | some g => m.onGroup g fun g => { g with canceled := true }
  | none => m

/-- Cancels the current group and waits for it, as a failed start does. -/
def abort (m : Manager) (call : Nat) (reason : String) : Manager :=
  let m := m.cancelCurrent
  { m with waits := m.waits ++ [⟨call, m.current, .abort reason⟩] }

/-- Cancels the current group and waits for it until a deadline. -/
def shutdown (m : Manager) (call : Nat) (timeout : Duration) (now : Int) :
    Except Fault Manager :=
  (m.move .stopping "shutdown requested").map fun m =>
    let m := m.cancelCurrent
    { m with
      current := none
      waits := m.waits ++ [⟨call, m.current, .shutdown timeout (now + max timeout.toInt 0)⟩] }

/-- Whether the group waited for is empty. -/
def isReady (m : Manager) (w : Wait) : Bool :=
  match w.group with
  | none => true
  | some g => (m.groups[g]?).all (·.live == 0)

/-- Ends a wait whose group is empty. -/
def finish (m : Manager) (w : Wait) : Manager :=
  let m := { m with waits := m.waits.filter (·.call != w.call) }
  match w.purpose with
  | .abort reason => m.tryMove .crashed reason
  | .shutdown .. => m.tryMove .stopped "graceful shutdown"

/-- Ends a wait that has passed its deadline. -/
def expire (m : Manager) (w : Wait) : Manager :=
  let m := { m with waits := m.waits.filter (·.call != w.call) }
  match w.purpose with
  | .abort _ => m
  | .shutdown timeout _ =>
    (m.note (Note.warn "shutdown timeout, forcing exit" [Log.span "timeout" timeout])).tryMove
      .crashed "shutdown timeout"

/-- Brings the first wait that can end to its end, with the result of its call.
    Where the group is empty and the deadline has passed, either may be noticed
    first: `late` tells that it is the deadline. -/
def settleWait (m : Manager) (now : Int) (late : Bool) : Option (Nat × Option Fault × Manager) :=
  match m.waits.find? (fun w => w.isOverdue now || m.isReady w) with
  | none => none
  | some w =>
    if w.isOverdue now && (late || !m.isReady w) then
      some (w.call, some .workersOverdue, m.expire w)
    else some (w.call, none, m.finish w)

end Manager

end HeadUnit.Lifecycle
