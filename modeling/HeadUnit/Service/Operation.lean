import HeadUnit.Service.Wiring

/-!
# Operations of the service

An `Operation` is something that is asked of the service. It is performed on
behalf of a call: sooner or later the call returns, once, with its result.
-/

namespace HeadUnit.Service

/-- Something that is asked of the service. A timeout that is not positive
    stands for the default. -/
inductive Operation
  | requestSwitch (target : UserId) (timeout : Duration)
  | switchUser (target : UserId) (timeout : Duration)
  | switchDriver (target : UserId) (timeout : Duration)
  /-- The vehicle starts a switch itself. -/
  | initiatedSwitch (token : Token) (target : UserId)
  | setPanel (p : Option Switching.Panel)
  | setTimeout (d : Duration)
  | setMaxRunning (n : Int64)
  | createUser (name kind : String) (flags : Flags) (timeout : Duration)
  | createDriver (name : String) (admin : Bool)
  | createProfile (name : String) (driver : UserId)
  | removeUser (id : UserId)
  | startBackground
  | stopBackground (id : UserId)
  | setInitial (id : UserId)
  | initialInfo (requestType : Int64) (timeout : Duration)
  | getAssociations (caller : UserId) (types : List Int64)
  | setAssociations (caller : UserId) (types values : List Int64) (timeout : Duration)
  | event (e : Event)
  | addListener (o : Bus.Offer Listener)
  | removeListener (o : Bus.Offer Listener)
  | addRemote (uid : Int64) (handle : Option Nat)
  | removeRemote (uid : Int64)
  | flush

namespace System

def notRunningMessage : String := "service not running"

/-- The result of a switch while the service is not running. -/
def notRunningResult : SwitchResult := ⟨.osFailure, notRunningMessage⟩

/-! ### Switching -/

/-- Asks for a switch and returns; the result comes later. -/
def requestSwitch (s : System) (id : Nat) (target : UserId) (timeout : Duration) : System :=
  match s.published with
  | none => (s.emit (.replied id notRunningResult)).finish id .nothing
  | some i =>
    (s.await id none .posting).onDesk i (·.request s.view (.caller id) id target timeout)

/-- A caller whose context has ended gets no result of the switch. -/
def leaveSwitch (s : System) (id : Nat) (f : Fault) : System :=
  match s.call? id with
  | some ⟨_, _, .switching⟩ =>
    s.finish id (.switch ⟨.coordinatorInternalFailure, f.message⟩)
  | _ => s

/-- Asks for a switch and waits for its result, as long as the context lasts. -/
def switchUser (s : System) (id : Nat) (ctx : Context) (target : UserId) (timeout : Duration) :
    System :=
  match s.published with
  | none => s.finish id (.switch notRunningResult)
  | some i =>
    let s := (s.await id ctx.deadline .switching).onDesk i
      (·.request s.view (.caller id) id target timeout)
    match ctx.gone with
    | some f => s.leaveSwitch id f
    | none => s

/-- Switches to a driver, a full user that is no profile. -/
def switchDriver (s : System) (id : Nat) (ctx : Context) (target : UserId)
    (timeout : Duration) : System :=
  match s.roster.user target with
  | .error f => s.finish id (.switch ⟨.invalidRequest, f.message⟩)
  | .ok u =>
    if u.isManagedProfile then
      (s.note (Note.warn "refusing to switch to a profile user as driver"
        [Log.int "user" target])).finish id
          (.switch ⟨.invalidRequest, "user is a profile, not a driver"⟩)
    else s.switchUser id ctx target timeout

/-- The vehicle starts a switch. While the service is not running, its token is
    acknowledged at once, with the foreground user unchanged. -/
def initiatedSwitch (s : System) (id : Nat) (token : Token) (target : UserId) : System :=
  match s.published with
  | none =>
    ((s.note (Note.warn "coordinator switch dropped, service not running"
      [Log.int "target" target, Log.str "token" token.text])).emit
        (.notify (.postSwitch token s.sessions.current target s.directory))).finish id .nothing
  | some i => (s.await id none .posting).onDesk i (·.initiate s.view (.caller id) token target)

/-! ### Tunables -/

/-- Changes something about the desk of the published run. -/
def onPublishedDesk (s : System) (f : Switching.Desk → Switching.Desk) : System :=
  match s.published with
  | none => s
  | some i => s.onRun i fun r => { r with desk := f r.desk }

def setPanel (s : System) (p : Option Switching.Panel) : System :=
  { s with panel := p }.onPublishedDesk (·.setPanel p)

/-- Changes the timeout of trips everywhere; a non-positive one is ignored. -/
def setTimeout (s : System) (d : Duration) : System :=
  if d ≤ 0 then
    s.note (Note.warn "ignoring non-positive coordinator timeout" [Log.span "timeout" d])
  else
    { s with timeout := d, provisionTimeout := d, associationTimeout := d }.onPublishedDesk
      (·.setTimeout d)

/-- Changes how many users may run; fewer than two are ignored. The bound of the
    registry follows later. -/
def setMaxRunning (s : System) (id : Nat) (n : Int64) : System :=
  if n < 2 then
    (s.note (Note.warn "ignoring max running users below 2"
      [Log.int "max_running_users" n])).finish id .nothing
  else { s with maxRunning := n }.await id none (.bounding n)

/-- Changes the bound of the registry. -/
def bound (s : System) (id : Nat) (n : Int64) : System :=
  let c := s.registry.setMax n
  (s.applyChange c).finish id (if c.broken then .broken else .nothing)

/-! ### Users -/

/-- Goes on with a creation that was checked and made locally. -/
def created (s : System) (id : Nat) (ctx : Context) (timeout : Duration)
    (st : Provision.Step Provision.Creation) : System :=
  let s := { s with roster := st.roster }.notes st.notes
  match st.value with
  | .done r => s.finish id (.create r)
  | .ratify user request =>
    (s.await id none (.creating user)).askVehicle request (some timeout) ctx (.call id)

def createUser (s : System) (id : Nat) (ctx : Context) (name kind : String) (flags : Flags)
    (timeout : Duration) : System :=
  s.created id ctx (if timeout ≤ 0 then s.provisionTimeout else timeout)
    (Provision.create s.roster s.sessions.current s.capabilities.create name kind flags)

def createDriver (s : System) (id : Nat) (ctx : Context) (name : String) (admin : Bool) :
    System :=
  s.created id ctx s.provisionTimeout
    (Provision.createDriver s.roster s.sessions.current s.capabilities.create name admin)

def createProfile (s : System) (id : Nat) (name : String) (driver : UserId) : System :=
  let st := Provision.createProfile s.roster name driver
  ({ s with roster := st.roster }.notes st.notes).finish id (.create st.value)

/-- Removes a user; the registry forgets it, and the vehicle is told. -/
def removeUser (s : System) (id : Nat) (user : UserId) : System :=
  let st := Provision.remove s.roster s.sessions.current s.capabilities.remove user
  let s := { s with roster := st.roster }
  let s := if st.value.status.isSuccess then s.applyChange (s.registry.forget user).1 else s
  let s := match st.value.notice with
    | some n => s.emit (.notify n)
    | none => s
  (s.notes st.notes).finish id (.removed st.value.status)

/-! ### Background users -/

/-- Starts the users of the registry on behalf of a call: those that run. -/
def startRegistered (s : System) (id : Nat) : System × List UserId :=
  let (r, st) := s.registry.startAll s.sessions s.millis
  (({ s with registry := r, sessions := st.sessions }.notes st.notes).emitEvents (.caller id)
    st.events, st.running)

/-- Starts the users of the registry, and reports it. -/
def startBackground (s : System) (id : Nat) : System :=
  let (s, running) := s.startRegistered id
  let shown := if running.isEmpty then none else some running
  (s.note (Note.info "background users started" [Log.users "users" shown])).finish id
    (.users running)

/-- Stops a user of the background. -/
def stopBackground (s : System) (id : Nat) (user : UserId) : System :=
  let (r, sessions, events, notes, ok) := s.registry.stop s.sessions user s.millis
  (({ s with registry := r, sessions := sessions }.notes notes).emitEvents (.caller id)
    events).finish id (.flag ok)

/-! ### Boot -/

/-- Records the user to come up at boot. -/
def setInitial (s : System) (id : Nat) (ctx : Context) (user : UserId) : System :=
  let known : Except Fault Unit :=
    if user = UserId.null then .ok () else (s.roster.user user).map fun _ => ()
  match known with
  | .error f => s.finish id (.status (some f))
  | .ok _ =>
    let (s, fault) := s.updateStore ctx.gone fun st => { st with initial := user }
    s.finish id (.status fault)

/-- Asks the vehicle which user should come up. -/
def initialInfo (s : System) (id : Nat) (ctx : Context) (requestType : Int64)
    (timeout : Duration) : System :=
  if !s.hasVehicle then s.finish id (.initial (.error .notSupported))
  else
    (s.await id none .consulting).askVehicle (.initialInfo requestType s.directory)
      (some (if timeout ≤ 0 then s.timeout else timeout)) ctx (.call id)

/-! ### Associations -/

/-- Goes on with an association call that was checked. -/
def associate (s : System) (id : Nat) (isWrite : Bool) (caller : UserId)
    (timeout : Option Duration) (ctx : Context) : Association.Question → System
  | .refused r => s.associated id isWrite r
  | .ask request =>
    (s.await id none (.associating isWrite caller)).askVehicle request timeout ctx (.call id)

/-! ### Listeners -/

/-- Has the published bus do something that may be refused. -/
def onPublishedBus (s : System) (id : Nat)
    (f : Bus Listener Nat → Except Fault (Bus Listener Nat)) : System :=
  match s.published with
  | none => s.finish id (.status (some .notRunning))
  | some i =>
    let (s, fault) := s.tryBus i f
    s.finish id (.status fault)

/-- Waits until every event posted so far is delivered, as long as the context
    lasts. -/
def flushEvents (s : System) (id : Nat) (ctx : Context) : System :=
  match s.published with
  | none => s.finish id (.status (some .notRunning))
  | some i =>
    let (s, fault) := (s.await id ctx.deadline .flushing).tryBus i (·.flush id)
    match fault, ctx.gone with
    | some f, _ => s.finish id (.status (some f))
    | none, some f => s.finish id (.status (some f))
    | none, none => s

/-! ### All operations -/

/-- Performs an operation on behalf of the call `id`. -/
def perform (s : System) (id : Nat) (ctx : Context) : Operation → System
  | .requestSwitch target timeout => s.requestSwitch id target timeout
  | .switchUser target timeout => s.switchUser id ctx target timeout
  | .switchDriver target timeout => s.switchDriver id ctx target timeout
  | .initiatedSwitch token target => s.initiatedSwitch id token target
  | .setPanel p => (s.setPanel p).finish id .nothing
  | .setTimeout d => (s.setTimeout d).finish id .nothing
  | .setMaxRunning n => s.setMaxRunning id n
  | .createUser name kind flags timeout => s.createUser id ctx name kind flags timeout
  | .createDriver name admin => s.createDriver id ctx name admin
  | .createProfile name driver => s.createProfile id name driver
  | .removeUser user => s.removeUser id user
  | .startBackground => s.startBackground id
  | .stopBackground user => s.stopBackground id user
  | .setInitial user => s.setInitial id ctx user
  | .initialInfo type timeout => s.initialInfo id ctx type timeout
  | .getAssociations caller types =>
    s.associate id false caller none {}
      (Association.read s.roster s.capabilities.association caller types)
  | .setAssociations caller types values timeout =>
    s.associate id true caller (some (if timeout ≤ 0 then s.associationTimeout else timeout)) ctx
      (Association.write s.roster s.capabilities.association caller types values)
  | .event e => (s.onEvent e).finish id .nothing
  | .addListener o => s.onPublishedBus id (·.register o)
  | .removeListener o => s.onPublishedBus id (·.unregister o)
  | .addRemote uid h => s.onPublishedBus id (·.registerRemote uid h)
  | .removeRemote uid => s.onPublishedBus id (·.unregisterRemote uid)
  | .flush => s.flushEvents id ctx

/-- The context of a call has ended. Questions to the vehicle end by
    themselves; switches and flushes are left. -/
def contextEnded (s : System) (id : Nat) (f : Fault) : System :=
  match s.call? id with
  | some ⟨_, _, .switching⟩ => s.leaveSwitch id f
  | some ⟨_, _, .flushing⟩ => s.finish id (.status (some f))
  | _ => s

end System

end HeadUnit.Service
