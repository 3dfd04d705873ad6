import HeadUnit.Association
import HeadUnit.Provision
import HeadUnit.Service.Model

/-!
# Wiring of the service

How the parts of the service reach each other: what the registry changes is
persisted, events of the sessions go to the bus, the bus calls desk and
registry, and what the desk asks for goes out. Every function here takes what
a part has asked for and hands it on, in order.
-/

namespace HeadUnit.Service.System

/-! ### The registry and the store -/

/-- Changes the persisted state; tells why it could not be saved. -/
def updateStore (s : System) (gone : Option Fault) (change : Snapshot → Snapshot) :
    System × Option Fault :=
  let u := s.store.update s.repository gone s.now change
  let s := { s with store := u.store, repository := u.repository }
  let s := match u.offered with
    | some st => s.emit (.offered st)
    | none => s
  (s, u.fault)

/-- Persists the registry. -/
def persistRegistry (s : System) : System :=
  if !s.persists then s
  else
    let r := s.registry
    let (s, fault) := s.updateStore none fun st =>
      { st with background := r.entries, promoted := r.promoted, counter := r.counter }
    match fault with
    | none => s
    | some f => s.note (Note.error "failed to persist restart registry" [Log.err (some f)])

/-- Takes over a change of the registry. -/
def applyChange (s : System) (c : Registry.Change) : System :=
  let s := { s with registry := c.registry }.notes c.notes
  if c.persist then s.persistRegistry else s

/-- A registry that was found broken, as a listener reports it. -/
def brokenRegistry : Bus.Crash := ⟨"<type>", "runtime error: index out of range [-1]"⟩

/-! ### Desks -/

/-- Changes one run. -/
def onRun (s : System) (i : Nat) (f : Run → Run) : System := { s with runs := s.runs.modify i f }

/-- Changes the bus of a run; what it asks for is handed on later. -/
def onBus (s : System) (i : Nat) (f : Bus Listener Nat → Bus Listener Nat) : System :=
  s.onRun i fun r => { r with bus := f r.bus }

/-- Puts a question to the vehicle. -/
def askVehicle (s : System) (request : Vehicle.Request) (timeout : Option Duration)
    (ctx : Context) (owner : Owner) : System :=
  let (id, s) := s.freshId
  let cutoff := timeout.map fun t => s.now + t.toInt
  let deadline := match cutoff, ctx.deadline with
    | some a, some b => some (min a b)
    | some a, none => some a
    | none, b => b
  let ask : Ask := ⟨id, request, s.now, deadline, owner⟩
  { s with asks := s.asks ++ [ask] }.emit (.ask id request ctx.gone)

/-- Hands on one thing the desk of run `i` asked for. -/
def fromDesk (i : Nat) (s : System) : Switching.Effect → System
  | .note n => s.note n
  | .reply ticket result =>
    match s.call? ticket with
    | some ⟨_, _, .switching⟩ => s.finish ticket (.switch result)
    | _ => s.emit (.replied ticket result)
  | .negotiate o request timeout =>
    let gone := (s.runs[i]?).bind fun r => if r.desk.tripsDone then some Fault.canceled else none
    s.askVehicle request (some timeout) ⟨gone, none⟩ (.desk i o.ticket)
  | .osSwitch target => s.emit (.commit i target)
  | .notify n => s.emit (.notify n)
  | .signal target => s.emit (.signal target)
  | .admitted (.caller id) =>
    match s.call? id with
    | some ⟨_, _, .posting⟩ => s.finish id .nothing
    | _ => s
  | .admitted .bus => s.onBus i (·.returned none)
  | .admitted .trip => s
  | .admitted .worker => s

/-- Has the desk of run `i` do something, and hands on what it asks for. -/
def onDesk (s : System) (i : Nat) (f : Switching.Desk → Switching.Desk) : System :=
  match s.runs[i]? with
  | none => s
  | some r =>
    let (es, desk) := (f r.desk).take
    es.foldl (fromDesk i) (s.onRun i fun r => { r with desk := desk })

/-! ### Buses -/

/-- Hands on one thing the bus of run `i` asked for. -/
def fromBus (i : Nat) (s : System) : Bus.Effect Listener Nat → System
  | .note n => s.note n
  | .call .desk e => s.onDesk i (·.onEvents s.view .bus [e])
  | .call .registry e =>
    match Registry.lookUp s.roster.user e with
    | none => s.onBus i (·.returned none)
    | some (.error n) => (s.note n).onBus i (·.returned none)
    | some (.ok u) => s.onRun i fun r => { r with found := some u }
  | .call (.outside l) e => s.emit (.deliver i l e)
  | .send uid h e => s.emit (.send i uid h e)
  | .release barrier =>
    match s.call? barrier with
    | some ⟨_, _, .flushing⟩ => s.finish barrier (.status none)
    | _ => s

/-- Hands on what the bus of run `i` has asked for. -/
def flushBus (s : System) (i : Nat) : System :=
  match s.runs[i]? with
  | none => s
  | some r =>
    let (es, bus) := r.bus.take
    es.foldl (fromBus i) (s.onBus i fun _ => bus)

/-- The registry records the user that it has looked up for the bus of run `i`,
    and returns. -/
def record? (s : System) (i : Nat) : Option System := do
  let r ← s.runs[i]?
  let u ← r.found
  let c := s.registry.add u s.sessions.current
  let s := (s.applyChange c).onRun i fun r => { r with found := none }
  return (s.onBus i (·.returned (if c.broken then some brokenRegistry else none))).flushBus i

/-- Has the bus of run `i` do something that may be refused. -/
def tryBus (s : System) (i : Nat) (f : Bus Listener Nat → Except Fault (Bus Listener Nat)) :
    System × Option Fault :=
  match s.runs[i]? with
  | none => (s, some .notRunning)
  | some r =>
    match f r.bus with
    | .error e => (s, some e)
    | .ok b => ((s.onBus i fun _ => b).flushBus i, none)

/-! ### Events -/

/-- An event arrives at the service. -/
def onEvent (s : System) (e : Event) : System :=
  match s.published with
  | none =>
    s.note (Note.debug "lifecycle event dropped, service not running" [Log.str "event" e.text])
  | some i => (s.onBus i (·.dispatch e)).flushBus i

/-- Events of the sessions go where they have to. -/
def emitEvents (s : System) (p : Switching.Poster) (es : List Event) : System :=
  match s.sink with
  | .nowhere => s
  | .service => es.foldl onEvent s
  | .desk =>
    match s.published with
    | none => s
    | some i => s.onDesk i (·.onEvents s.view p es)
  | .outside => es.foldl (fun s e => s.emit (.emitted e)) s

/-- Takes over what a call of the session manager did; tells why it failed. -/
def onSessions (s : System) (p : Switching.Poster)
    (r : Except Fault (Sessions × List Event)) : System × Option Fault :=
  match r with
  | .error f => (s, some f)
  | .ok (sessions, es) => ({ s with sessions := sessions }.emitEvents p es, none)

/-- The operating system performs the switch that the desk of run `i` waits
    for. -/
def commit (s : System) (i : Nat) : System :=
  match s.runs[i]? with
  | none => s
  | some r =>
    match r.desk.worker with
    | .committing c =>
      let (s, fault) := s.onSessions .worker (s.sessions.switchTo c.target s.millis)
      s.onDesk i (·.committed s.view fault)
    | _ => s

/-! ### Answers of the vehicle -/

/-- The kind under which a question is recorded; reads are not. -/
def tripKind? : Vehicle.Request → Option TripKind
  | .switch .. => some .switch
  | .create .. => some .create
  | .getAssociations .. => none
  | .setAssociations .. => some .setAssociation
  | .initialInfo .. => some .initialInfo

/-- The result of an association call. -/
def associated (s : System) (id : Nat) (isWrite : Bool) (r : AssociationResult) : System :=
  (s.note (.count (.association isWrite r.status))).finish id (.association r)

/-- A call goes on with the answer to its question. -/
def answerCall (s : System) (id : Nat) (v : Trip.Verdict Vehicle.Response) : System :=
  match s.call? id with
  | some ⟨_, _, .creating user⟩ =>
    let st := Provision.ratified s.roster user v.value.asCreate v.fault
    ({ s with roster := st.roster }.notes st.notes).finish id (.create st.value)
  | some ⟨_, _, .associating isWrite caller⟩ =>
    let (r, notes) := Association.answered isWrite caller v.value.asAssociation v.fault
    (s.notes notes).associated id isWrite r
  | some ⟨_, _, .consulting⟩ =>
    match v.fault with
    | some f =>
      (s.note (Note.warn "initial user info failed" [Log.err (some f)])).finish id
        (.initial (.error f))
    | none => s.finish id (.initial (.ok v.value.asInitial))
  | _ => s

/-- The wait for an answer ends. -/
def askEnded (s : System) (id : Nat) (e : Trip.Ending Vehicle.Response) : System :=
  match s.asks.find? (·.id == id) with
  | none => s
  | some a =>
    let s := { s with asks := s.asks.filter (·.id != id) }
    let s := match e with
      | .answered .. => s
      | _ => s.emit (.abandon id)
    let v : Trip.Verdict Vehicle.Response := match tripKind? a.request, e with
      | none, .answered r f => ⟨r, f, .ok⟩
      | _, e => e.verdict a.request.blank
    let s := match tripKind? a.request with
      | some k => s.note (.trip k v.outcome (s.now - a.started))
      | none => s
    match a.owner with
    | .desk i ticket => s.onDesk i (·.tripEnded s.view ticket v.value.asSwitch v.fault)
    | .call c => s.answerCall c v

end HeadUnit.Service.System
