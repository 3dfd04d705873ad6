import HeadUnit.Metrics

/-!
# The event bus

Lifecycle events are delivered by one worker, in the order they were posted:
each event first to the in-process listeners, in the order they registered,
then to the remote handles, in the order of their uids.

* Registrations are posted as *commands*. The worker applies all posted
  commands before it takes the next event and before every single delivery, so
  commands overtake queued events, and a listener that was removed during a
  delivery gets nothing more.
* A remote handle is kept in an entry with a *stamp* of its own. The news that
  a handle died names the stamp, so it never removes a later entry of the same
  uid.
* A barrier in the queue is released once every event before it is delivered.
* When its context ends, the worker delivers what is queued, accepts nothing
  more and finishes.

The worker calls out to listeners and handles through effects, and goes on when
it is told that the call returned. Effects are appended to `out`, in order.
-/

namespace HeadUnit

namespace Bus

/-- A change of the listeners. -/
inductive Command (L H : Type)
  | addLocal (l : L)
  | removeLocal (l : L)
  | addRemote (uid : Int64) (handle : H)
  | removeRemote (uid : Int64)
  | remoteDied (uid : Int64) (stamp : Nat)
  deriving DecidableEq, Repr

/-- What is queued: an event, or a barrier to be released. -/
inductive Item
  | event (e : Event)
  | barrier (id : Nat)
  deriving DecidableEq, Repr

/-- A registered remote handle. -/
structure Remote (H : Type) where
  uid : Int64
  stamp : Nat
  handle : H
  deriving DecidableEq, Repr

/-- What the worker is doing. -/
inductive Worker (L : Type)
  | unstarted
  | idle
  /-- About to take the next item. -/
  | draining
  /-- Delivering an event to the listeners left. -/
  | locals (e : Event) (todo : List L)
  /-- Waiting for a listener to return. -/
  | calling (l : L) (e : Event) (todo : List L)
  /-- Delivering an event to the remote handles left. -/
  | remotes (e : Event) (todo : List Int64)
  /-- Waiting for a handle to take the event. -/
  | sending (uid : Int64) (stamp : Nat) (e : Event) (todo : List Int64)
  | finished
  deriving DecidableEq, Repr

/-- What the bus asks of its surroundings. -/
inductive Effect (L H : Type)
  | note (n : Note)
  /-- Call a listener with an event. -/
  | call (l : L) (e : Event)
  /-- Send an event to a handle. -/
  | send (uid : Int64) (handle : H) (e : Event)
  /-- Everything before a barrier is delivered. -/
  | release (barrier : Nat)
  deriving Repr

/-- A value offered as a listener. -/
inductive Offer (L : Type)
  | missing
  /-- It cannot be told from others; `type` describes it. -/
  | notComparable (type : String)
  | listener (l : L)

/-- The listener, if it can be one. -/
def Offer.check {L : Type} : Offer L → Except Fault L
  | .missing => .error .listenerMissing
  | .notComparable t => .error (.listenerNotComparable t)
  | .listener l => .ok l

/-- How a listener failed: what it is and what it said. -/
structure Crash where
  listener : String
  value : String
  deriving DecidableEq, Repr

end Bus

open Bus in
/-- The event bus for listeners `L` and remote handles `H`. -/
structure Bus (L H : Type) where
  control : List (Command L H) := []
  queue : List Item := []
  /-- Nothing is accepted any more. -/
  closed : Bool := false
  /-- The context of the worker has ended. -/
  contextDone : Bool := false
  worker : Worker L := .unstarted
  locals : List L := []
  /-- The remote entries, in increasing order of their uids. -/
  remotes : List (Remote H) := []
  nextStamp : Nat := 0
  /-- The handles that are dead. -/
  dead : List H := []
  /-- The published numbers of listeners. -/
  localCount : Nat := 0
  remoteCount : Nat := 0
  out : List (Effect L H) := []
  deriving Repr

namespace Bus

variable {L H : Type} [DecidableEq L] [DecidableEq H]

def emit (b : Bus L H) (es : List (Effect L H)) : Bus L H := { b with out := b.out ++ es }

def note (b : Bus L H) (n : Note) : Bus L H := b.emit [.note n]

/-- Takes what was asked so far. -/
def take (b : Bus L H) : List (Effect L H) × Bus L H := (b.out, { b with out := [] })

/-! ### Posting -/

/-- Posts an event; after the bus closed it is dropped. -/
def dispatch (b : Bus L H) (e : Event) : Bus L H :=
  if b.closed then
    b.note (Note.debug "lifecycle event dropped, bus stopped" [Log.str "event" e.text])
  else { b with queue := b.queue ++ [.event e] }

/-- Posts a command; after the bus closed it is refused. -/
def post (b : Bus L H) (c : Command L H) : Except Fault (Bus L H) :=
  if b.closed then .error .notRunning else .ok { b with control := b.control ++ [c] }

def register (b : Bus L H) (o : Offer L) : Except Fault (Bus L H) := do
  let l ← o.check
  b.post (.addLocal l)

def unregister (b : Bus L H) (o : Offer L) : Except Fault (Bus L H) := do
  let l ← o.check
  b.post (.removeLocal l)

/-- Adds or replaces the handle of a uid. -/
def registerRemote (b : Bus L H) (uid : Int64) : Option H → Except Fault (Bus L H)
  | none => .error (.handleMissing uid)
  | some h => b.post (.addRemote uid h)

def unregisterRemote (b : Bus L H) (uid : Int64) : Except Fault (Bus L H) :=
  b.post (.removeRemote uid)

/-- Posts a barrier. -/
def flush (b : Bus L H) (barrier : Nat) : Except Fault (Bus L H) :=
  if b.closed then .error .notRunning else .ok { b with queue := b.queue ++ [.barrier barrier] }

/-- Posts the news that the handles of some entries are dead. -/
def postDeaths (b : Bus L H) (rs : List (Remote H)) : Bus L H :=
  if b.closed then b
  else { b with control := b.control ++ rs.map fun r => .remoteDied r.uid r.stamp }

/-- A handle died: whoever watches one of its entries reports it. -/
def handleDied (b : Bus L H) (h : H) : Bus L H :=
  { b with dead := h :: b.dead }.postDeaths (b.remotes.filter (·.handle == h))

/-! ### Commands -/

/-- Puts an entry at its place, replacing one with the same uid. -/
def insertRemote (r : Remote H) : List (Remote H) → List (Remote H)
  | [] => [r]
  | s :: rs =>
    if r.uid < s.uid then r :: s :: rs
    else if r.uid = s.uid then r :: rs
    else s :: insertRemote r rs

/-- The entry of a uid. -/
def remote? (b : Bus L H) (uid : Int64) : Option (Remote H) := b.remotes.find? (·.uid == uid)

/-- Removes the entry of a uid. -/
def dropRemote (b : Bus L H) (uid : Int64) : Bus L H :=
  { b with remotes := b.remotes.filter (·.uid != uid) }

/-- Removes the entry of a uid if it still has this stamp. -/
def dropStamped (b : Bus L H) (uid : Int64) (stamp : Nat) : Bus L H :=
  { b with remotes := b.remotes.filter fun r => !(r.uid == uid && r.stamp == stamp) }

/-- Applies one command. -/
def applyOne (b : Bus L H) : Command L H → Bus L H
  | .addLocal l => if b.locals.contains l then b else { b with locals := b.locals ++ [l] }
  | .removeLocal l => { b with locals := b.locals.erase l }
  | .addRemote uid h =>
    let b := if (b.remote? uid).isSome then
        b.note (Note.debug "replacing remote lifecycle listener" [Log.int "uid" uid])
      else b
    let r : Remote H := ⟨uid, b.nextStamp, h⟩
    let b := { b with remotes := insertRemote r b.remotes, nextStamp := b.nextStamp + 1 }
    if b.dead.contains h then b.postDeaths [r] else b
  | .removeRemote uid => b.dropRemote uid
  | .remoteDied uid stamp =>
    if (b.remote? uid).any (·.stamp == stamp) then
      (b.dropStamped uid stamp).note
        (Note.info "remote lifecycle listener died" [Log.int "uid" uid])
    else b

/-- Publishes the numbers of listeners. -/
def publishCounts (b : Bus L H) : Bus L H :=
  { b with localCount := b.locals.length, remoteCount := b.remotes.length }.note
    (.remoteListeners b.remotes.length)

/-- Applies the posted commands. -/
def applyControl (b : Bus L H) : Bus L H :=
  (b.control.foldl applyOne { b with control := [] }).publishCounts

/-! ### The worker -/

/-- Starts the worker. -/
def start (b : Bus L H) : Bus L H :=
  match b.worker with
  | .unstarted => { b with worker := .draining }
  | _ => b

/-- The context of the worker ends. -/
def endContext (b : Bus L H) : Bus L H := { b with contextDone := true }

/-- The worker finishes: nobody is registered any more. -/
def finish (b : Bus L H) : Bus L H :=
  let barriers := b.queue.filterMap fun
    | .barrier id => some id
    | .event _ => none
  { b with
    closed := true
    queue := []
    control := []
    locals := []
    remotes := []
    localCount := 0
    remoteCount := 0
    worker := .finished
    out := b.out ++ barriers.map .release ++ [.note (.remoteListeners 0)] }

/-- Takes the next item of the queue. -/
def takeItem (b : Bus L H) : Bus L H :=
  let b := b.applyControl
  match b.queue with
  | .barrier id :: rest => { b with queue := rest }.emit [.release id]
  | .event e :: rest =>
    { b with queue := rest, worker := .locals e b.locals }.note (.count (.event e.kind))
  | [] => if b.closed then b.finish else { b with worker := .idle }

/-- Turns to the next listener of a delivery. -/
def nextLocal (b : Bus L H) (e : Event) : List L → Bus L H
  | [] => { b with worker := .remotes e (b.remotes.map (·.uid)) }
  | l :: todo =>
    let b := b.applyControl
    if b.locals.contains l then { b with worker := .calling l e todo }.emit [.call l e]
    else { b with worker := .locals e todo }

/-- Turns to the next remote handle of a delivery. -/
def nextRemote (b : Bus L H) (e : Event) : List Int64 → Bus L H
  | [] =>
    { b with remoteCount := b.remotes.length, worker := .draining }.note
      (.remoteListeners b.remotes.length)
  | uid :: todo =>
    let b := b.applyControl
    match b.remote? uid with
    | none => { b with worker := .remotes e todo }
    | some r =>
      if b.dead.contains r.handle then
        { b.dropRemote uid with worker := .remotes e todo }.note
          (Note.info "remote lifecycle listener died" [Log.int "uid" uid])
      else { b with worker := .sending uid r.stamp e todo }.emit [.send uid r.handle e]

/-- Whether something was posted. -/
def hasWork (b : Bus L H) : Bool := !b.control.isEmpty || !b.queue.isEmpty

/-- One step of the worker; none if it waits for something from outside. -/
def step? (b : Bus L H) : Option (Bus L H) :=
  match b.worker with
  | .unstarted => none
  | .idle =>
    if b.hasWork then some { b with worker := .draining }
    else if b.contextDone then some { b with closed := true, worker := .draining }
    else none
  | .draining => some b.takeItem
  | .locals e todo => some (b.nextLocal e todo)
  | .calling .. => none
  | .remotes e todo => some (b.nextRemote e todo)
  | .sending .. => none
  | .finished => none

/-- The listener that was called returned, or crashed. -/
def returned (b : Bus L H) (crash : Option Crash) : Bus L H :=
  match b.worker with
  | .calling _ e todo =>
    let b := { b with worker := .locals e todo }
    match crash with
    | none => b
    | some c =>
      b.emit [.note (.count (.listenerFailure false)),
        .note (Note.error "lifecycle listener panicked"
          [Log.str "event" e.text, Log.str "listener" c.listener, Log.str "panic" c.value])]
  | _ => b

/-- The handle took the event, or failed to. -/
def sent (b : Bus L H) (fault : Option Fault) : Bus L H :=
  match b.worker with
  | .sending uid stamp e todo =>
    let b := { b with worker := .remotes e todo }
    match fault with
    | none => b
    | some f =>
      (b.emit [.note (.count (.listenerFailure true)),
        .note (Note.warn "dropping remote lifecycle listener after failed delivery"
          [Log.int "uid" uid, Log.str "event" e.text, Log.err (some f)])]).dropStamped uid stamp
  | _ => b

end Bus

end HeadUnit
