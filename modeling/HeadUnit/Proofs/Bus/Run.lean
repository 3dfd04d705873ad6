import HeadUnit.Bus

/-!
# Runs of the event bus

A *move* is one thing that can happen to a bus: somebody posts an event or a
command, a handle dies, its watchers report it, the worker makes a step, or the
call it waits for returns. What a move does is `Bus.move`, which only calls the
operations of the bus. A run (`IsRun`) begins with a fresh bus and makes moves
in any order; so posts from inside a listener, while the worker waits for it, are
among them. One that is not possible changes nothing.

Watchers are not trusted. They may report an entry at any time, however late and
however often (`Move.report`), and a report that is posted at once may come
later after all (`Move.withhold`).

A move leaves *occurrences*: an event or a command was accepted, a command was
applied, a delivery started, the turn of a listener or a handle came. The *trace*
of a history is the list of them. Calls and sends stand in it as the bus asked
for them (`IsRun.deliveries_eq`).
-/

namespace HeadUnit.Bus

variable {L H : Type}

/-- One thing that can happen to a bus. -/
inductive Move (L H : Type)
  /-- An event is posted. -/
  | dispatch (e : Event)
  | register (o : Offer L)
  | unregister (o : Offer L)
  | registerRemote (uid : Int64) (handle : Option H)
  | unregisterRemote (uid : Int64)
  | flush (barrier : Nat)
  /-- A handle dies, and whoever watches it reports it. -/
  | die (handle : H)
  /-- Somebody reports that the handle of an entry died. -/
  | report (uid : Int64) (stamp : Nat)
  /-- A report that was posted is not there yet. -/
  | withhold (uid : Int64) (stamp : Nat)
  /-- The worker starts. -/
  | start
  /-- The context of the worker ends. -/
  | endContext
  /-- An idle worker wakes up, whether or not there is work; `closing` if it
      finds its context ended. -/
  | wake (closing : Bool)
  /-- The worker makes a step. -/
  | work
  /-- The listener that was called returns, or crashes. -/
  | returned (crash : Option Crash)
  /-- The handle takes the event, or fails to. -/
  | sent (fault : Option Fault)

/-- The command that a move asks to post. -/
def Move.order? : Move L H → Option (Command L H)
  | register (.listener l) => some (.addLocal l)
  | unregister (.listener l) => some (.removeLocal l)
  | registerRemote uid (some h) => some (.addRemote uid h)
  | unregisterRemote uid => some (.removeRemote uid)
  | _ => none

/-- What a move leaves in the trace. -/
inductive Occurrence (L H : Type)
  /-- An event was accepted. -/
  | accepted (e : Event)
  /-- A command was accepted. -/
  | posted (c : Command L H)
  /-- The worker applied a command. -/
  | applied (c : Command L H)
  /-- The delivery of an event started; these listeners were registered. -/
  | started (e : Event) (registry : List L)
  /-- The turn of a listener came, and it was called. -/
  | called (l : L) (e : Event)
  /-- The turn of a listener came, but it was not registered any more. -/
  | passed (l : L) (e : Event)
  /-- The turn of an entry came, and the event was sent to its handle. -/
  | sent (r : Remote H) (e : Event)
  /-- The handle of an entry failed to take the event. -/
  | refused (uid : Int64) (stamp : Nat)
  /-- The turn of an entry came, but its handle was dead. -/
  | foundDead (uid : Int64) (stamp : Nat)
  /-- The worker finished. -/
  | finished
  deriving DecidableEq

namespace Occurrence

/-- The event that was accepted. -/
def accepted? : Occurrence L H → Option Event
  | accepted e => some e
  | _ => none

/-- The event whose delivery started. -/
def started? : Occurrence L H → Option Event
  | started e _ => some e
  | _ => none

/-- The command that was accepted. -/
def posted? : Occurrence L H → Option (Command L H)
  | posted c => some c
  | _ => none

/-- The command that was applied. -/
def applied? : Occurrence L H → Option (Command L H)
  | applied c => some c
  | _ => none

/-- The listener whose turn came, and the event. -/
def turn? : Occurrence L H → Option (L × Event)
  | called l e | passed l e => some (l, e)
  | _ => none

/-- The delivery that was made. -/
def delivery? : Occurrence L H → Option (Effect L H)
  | called l e => some (.call l e)
  | sent r e => some (.send r.uid r.handle e)
  | _ => none

end Occurrence

/-- Whether an effect delivers an event. -/
def Effect.isDelivery : Effect L H → Bool
  | call .. | send .. => true
  | note _ | release _ => false

variable [DecidableEq L] [DecidableEq H]

/-- What a move does; one that is not possible changes nothing. -/
def move (b : Bus L H) : Move L H → Bus L H
  | .dispatch e => b.dispatch e
  | .register o => (b.register o).toOption.getD b
  | .unregister o => (b.unregister o).toOption.getD b
  | .registerRemote uid h => (b.registerRemote uid h).toOption.getD b
  | .unregisterRemote uid => (b.unregisterRemote uid).toOption.getD b
  | .flush barrier => (b.flush barrier).toOption.getD b
  | .die h => b.handleDied h
  | .report uid stamp => (b.post (.remoteDied uid stamp)).toOption.getD b
  | .withhold uid stamp => { b with control := b.control.erase (.remoteDied uid stamp) }
  | .start => b.start
  | .endContext => b.endContext
  | .wake closing =>
    match b.worker with
    | .idle => { b with closed := b.closed || closing && b.contextDone, worker := .draining }
    | _ => b
  | .work => b.step?.getD b
  | .returned crash => b.returned crash
  | .sent fault => b.sent fault

/-- What a step of the worker leaves: the commands it applies, then what it does. -/
def worked (b : Bus L H) : List (Occurrence L H) :=
  match b.worker with
  | .draining => b.control.map .applied ++
    match b.queue with
    | .event e :: _ => [.started e b.applyControl.locals]
    | .barrier _ :: _ => []
    | [] => if b.closed then [.finished] else []
  | .locals e (l :: _) => b.control.map .applied ++
    [if b.applyControl.locals.contains l then .called l e else .passed l e]
  | .remotes e (uid :: _) => b.control.map .applied ++
    match b.applyControl.remote? uid with
    | some r =>
      [if b.applyControl.dead.contains r.handle then .foundDead uid r.stamp else .sent r e]
    | none => []
  | _ => []

/-- What a move leaves. -/
def occurrences (b : Bus L H) : Move L H → List (Occurrence L H)
  | .dispatch e => if b.closed then [] else [.accepted e]
  | .work => b.worked
  | .sent fault =>
    match b.worker, fault with
    | .sending uid stamp _ _, some _ => [.refused uid stamp]
    | _, _ => []
  | m => if b.closed then [] else m.order?.toList.map .posted

/-- A move, and the bus it was made on. -/
structure Moment (L H : Type) where
  before : Bus L H
  move : Move L H

namespace Moment

/-- What the bus asked for. -/
def effects (m : Moment L H) : List (Effect L H) := (m.before.move m.move).take.1

/-- The bus afterwards. -/
def after (m : Moment L H) : Bus L H := (m.before.move m.move).take.2

/-- What the move left. -/
def occurrences (m : Moment L H) : List (Occurrence L H) := m.before.occurrences m.move

end Moment

/-! ## Histories -/

/-- What happened so far, the oldest first. -/
abbrev History (L H : Type) := List (Moment L H)

/-- What occurred so far, the oldest first. -/
abbrev Trace (L H : Type) := List (Occurrence L H)

namespace History

/-- What the bus has delivered. -/
def deliveries (h : History L H) : List (Effect L H) :=
  (h.flatMap (·.effects)).filter (·.isDelivery)

/-- What has occurred. -/
def trace (h : History L H) : Trace L H := h.flatMap (·.occurrences)

variable (h : History L H) (m : Moment L H)

theorem deliveries_snoc :
    deliveries (h ++ [m]) = deliveries h ++ m.effects.filter (·.isDelivery) := by
  simp [deliveries]

theorem trace_snoc : trace (h ++ [m]) = trace h ++ m.occurrences := by simp [trace]

end History

namespace Trace

omit [DecidableEq L] [DecidableEq H]

/-- The events that were accepted. -/
def accepted (t : Trace L H) : List Event := t.filterMap (·.accepted?)

/-- The events whose delivery started. -/
def started (t : Trace L H) : List Event := t.filterMap (·.started?)

/-- The commands that were accepted. -/
def posted (t : Trace L H) : List (Command L H) := t.filterMap (·.posted?)

/-- The commands that were applied. -/
def applied (t : Trace L H) : List (Command L H) := t.filterMap (·.applied?)

/-- The listeners whose turn came, with the events. -/
def turns (t : Trace L H) : List (L × Event) := t.filterMap (·.turn?)

/-- The deliveries that were made. -/
def deliveries (t : Trace L H) : List (Effect L H) := t.filterMap (·.delivery?)

variable (t t' : Trace L H)

@[simp]
theorem accepted_append : accepted (t ++ t') = accepted t ++ accepted t' :=
  List.filterMap_append ..

@[simp]
theorem started_append : started (t ++ t') = started t ++ started t' :=
  List.filterMap_append ..

@[simp]
theorem posted_append : posted (t ++ t') = posted t ++ posted t' :=
  List.filterMap_append ..

@[simp]
theorem applied_append : applied (t ++ t') = applied t ++ applied t' :=
  List.filterMap_append ..

@[simp]
theorem turns_append : turns (t ++ t') = turns t ++ turns t' :=
  List.filterMap_append ..

@[simp]
theorem deliveries_append : deliveries (t ++ t') = deliveries t ++ deliveries t' :=
  List.filterMap_append ..

@[simp]
theorem accepted_singleton (o : Occurrence L H) : accepted [o] = o.accepted?.toList := by
  cases e : o.accepted? <;> simp [accepted, e]

@[simp]
theorem started_singleton (o : Occurrence L H) : started [o] = o.started?.toList := by
  cases e : o.started? <;> simp [started, e]

@[simp]
theorem posted_singleton (o : Occurrence L H) : posted [o] = o.posted?.toList := by
  cases e : o.posted? <;> simp [posted, e]

@[simp]
theorem applied_singleton (o : Occurrence L H) : applied [o] = o.applied?.toList := by
  cases e : o.applied? <;> simp [applied, e]

@[simp]
theorem turns_singleton (o : Occurrence L H) : turns [o] = o.turn?.toList := by
  cases e : o.turn? <;> simp [turns, e]

@[simp]
theorem deliveries_singleton (o : Occurrence L H) : deliveries [o] = o.delivery?.toList := by
  cases e : o.delivery? <;> simp [deliveries, e]

/-! While commands are applied, nothing else occurs. -/

variable (cs : List (Command L H))

@[simp]
theorem accepted_map_applied : accepted (cs.map .applied : Trace L H) = [] := by
  simp [accepted, List.filterMap_map, Occurrence.accepted?]

@[simp]
theorem started_map_applied : started (cs.map .applied : Trace L H) = [] := by
  simp [started, List.filterMap_map, Occurrence.started?]

@[simp]
theorem posted_map_applied : posted (cs.map .applied : Trace L H) = [] := by
  simp [posted, List.filterMap_map, Occurrence.posted?]

@[simp]
theorem applied_map_applied : applied (cs.map .applied : Trace L H) = cs := by
  rw [applied, List.filterMap_map]
  exact List.filterMap_some

@[simp]
theorem turns_map_applied : turns (cs.map .applied : Trace L H) = [] := by
  simp [turns, List.filterMap_map, Occurrence.turn?]

@[simp]
theorem deliveries_map_applied : deliveries (cs.map .applied : Trace L H) = [] := by
  simp [deliveries, List.filterMap_map, Occurrence.delivery?]

end Trace

/-! ## Runs -/

/-- The history `h` is one of a run, which has led to the bus `b`. -/
inductive IsRun : History L H → Bus L H → Prop
  | fresh : IsRun [] {}
  | step {h : History L H} {b : Bus L H} (m : Move L H) : IsRun h b →
      IsRun (h ++ [⟨b, m⟩]) (Moment.mk b m).after

/-- Between moves nothing is left that the bus asked for. -/
theorem IsRun.out_eq_nil {h : History L H} {b : Bus L H} (run : IsRun h b) : b.out = [] := by
  cases run <;> rfl

/-- The history and the bus after the moves. -/
def played (h : History L H) (b : Bus L H) : List (Move L H) → History L H × Bus L H
  | [] => (h, b)
  | m :: ms => played (h ++ [⟨b, m⟩]) (Moment.mk b m).after ms

/-- Moves make a run longer. -/
theorem IsRun.play {h : History L H} {b : Bus L H} (run : IsRun h b) (ms : List (Move L H)) :
    IsRun (played h b ms).1 (played h b ms).2 := by
  induction ms generalizing h b with
  | nil => exact run
  | cons m ms ih => exact ih (run.step m)

/-! ## A sample run

Two listeners and a handle are registered. During the first delivery the first
listener removes the second one, registers another handle for the uid, and crashes.
Then the death of the handle that was replaced is reported, the second listener
is registered again, and during the second delivery the handle fails. -/

namespace Sample

def hello : Event := .about .unlocked 10 1

def bye : Event := .about .stopped 10 2

def moves : List (Move Nat Nat) :=
  [.register (.listener 1), .register (.listener 2), .registerRemote 7 (some 70), .start,
    .dispatch hello, .work, .work, .unregister (.listener 2), .registerRemote 7 (some 71),
    .returned (some ⟨"listener", "out of luck"⟩), .work, .work, .work, .sent none, .work, .work,
    .report 7 0, .register (.listener 2), .dispatch bye, .work, .work, .work, .returned none, .work,
    .returned none, .work, .work, .sent (some (.told "gone")), .work, .work]

/-- The history and the bus after the moves. -/
def state : History Nat Nat × Bus Nat Nat := played [] {} moves

theorem isRun : IsRun state.1 state.2 := IsRun.fresh.play moves

end Sample

end HeadUnit.Bus
