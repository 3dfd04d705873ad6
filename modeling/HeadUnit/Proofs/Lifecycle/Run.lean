import HeadUnit.Proofs.Lifecycle.Manager

/-!
# Runs of the lifecycle manager

A *move* is one thing that can happen to a manager: a call, a worker that joins or returns, the
end of the context that a group was begun with, or a call that has waited long enough. What a
move does is `Manager.step`, which only calls the operations of the manager. A run (`IsRun`)
begins with a fresh manager and makes moves in any order. One that is not possible changes
nothing.

Time is not trusted: a call may be woken at any instant, however late (`Move.settle`), and the
instants need not be in order. If it is woken after its deadline and its workers have returned, it
may notice either.
-/

namespace HeadUnit.Lifecycle

/-- One thing that can happen to a manager. -/
inductive Move
  /-- A group is begun; `parentDone` if the context it is begun with has already ended. -/
  | start (parentDone : Bool) (reason : String)
  /-- Somebody asks for a change of the phase. -/
  | transition (target : Phase) (reason : String)
  /-- A worker joins the current group. -/
  | join
  /-- A worker of a group returns. -/
  | returned (group : Nat) (name : String) (fault : Option Fault)
  /-- The context that a group was begun with ends. -/
  | parentEnded (group : Nat)
  | abort (call : Nat) (reason : String)
  | shutdown (call : Nat) (timeout : Duration) (now : Int)
  /-- A call that need not wait any more returns. -/
  | settle (now : Int) (late : Bool)

/-- What a move does; one that is not possible changes nothing. -/
def Manager.step (m : Manager) : Move → Manager
  | .start parentDone reason => (m.beginGroup parentDone reason).toOption.getD m
  | .transition target reason => m.tryMove target reason
  | .join => m.join
  | .returned g name fault =>
    if (m.groups[g]?).any (0 < ·.live) then m.workerDone g name fault else m
  | .parentEnded g => m.parentEnded g
  | .abort call reason => m.abort call reason
  | .shutdown call timeout now => (m.shutdown call timeout now).toOption.getD m
  | .settle now late => ((m.settleWait now late).map (·.2.2)).getD m

/-- A move, and the manager it was made on. -/
structure Moment where
  before : Manager
  move : Move

/-- The manager afterwards. -/
def Moment.after (x : Moment) : Manager := x.before.step x.move

/-- What happened so far, the oldest first. -/
abbrev History := List Moment

/-- The history `h` is one of a run, which has led to the manager `m`. -/
inductive IsRun : History → Manager → Prop
  | fresh : IsRun [] {}
  | step {h : History} {m : Manager} (x : Move) : IsRun h m → IsRun (h ++ [⟨m, x⟩]) (m.step x)

/-- The history and the manager after the moves. -/
def played (h : History) (m : Manager) : List Move → History × Manager
  | [] => (h, m)
  | x :: xs => played (h ++ [⟨m, x⟩]) (m.step x) xs

/-- Moves make a run longer. -/
theorem IsRun.play {h : History} {m : Manager} (run : IsRun h m) (xs : List Move) :
    IsRun (played h m xs).1 (played h m xs).2 := by
  induction xs generalizing h m with
  | nil => exact run
  | cons x xs ih => exact ih (run.step x)

end HeadUnit.Lifecycle
