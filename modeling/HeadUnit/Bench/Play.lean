import HeadUnit.Bench.World

/-!
# Playing steps

What the commands of a scenario do. Most end at once, with an answer; those are
grouped by what they act on. The others are calls: the procedure that plays
them is blocked until the result arrives, and `resume` goes on from there.

A procedure is blocked *before* its call is made, so that a call that returns
at once finds it waiting.
-/

namespace HeadUnit.Bench

open Service

/-- The context of a step that begins at an instant. -/
def Frame.context (f : Frame) (now : Int) : Context :=
  if f.canceled then { gone := some .canceled }
  else match f.contextMillis with
    | none => {}
    | some ms =>
      if ms ≤ 0 then { gone := some .deadline }
      else { deadline := some (now + (Duration.ofMillis ms).toInt) }

namespace World

/-! ### The end of a step -/

/-- Whether the result of a command leaves a record inside a plugin. -/
def isRecorded : Role → Command → Bool
  | .plugin .., .setTimeout _ => false
  | .plugin .., .setMax _ => false
  | .plugin .., .note _ => false
  | _, _ => true

/-- Keeps the answer of a step, where the role of its procedure has it. -/
def keepAnswer (w : World) (role : Role) (c : Command) (a : Answer) : World :=
  match role with
  | .main => { w with answer := some a }
  | .background name => w.onRecord fun r => { r with done := r.done ++ [(name, a)] }
  | _ => if isRecorded role c then w.onRecord fun r => { r with nested := r.nested ++ [a] } else w

/-- The step of a procedure has been played once, with this answer. Plugins
    wait after each step until all is settled. -/
def complete (w : World) (p : Procedure) (a : Answer) : World :=
  let p := { p with activity := none, block := none, arrived := none }
  match p.current with
  | none => w.putProcedure p
  | some (s, left + 1) => w.putProcedure { p with current := some (s, left) }
  | some ((_, c), 0) =>
    let block := match p.role with
      | .plugin .. => some Block.settled
      | _ => none
    (w.keepAnswer p.role c a).putProcedure { p with current := none, block := block }

/-- A procedure has no steps left: whoever waits for it is told. -/
def retire (w : World) (p : Procedure) : World :=
  let w := w.removeProcedure p
  match p.role with
  | .main => w
  | .background _ => w
  | .listener i run => w.tell i (.listenerReturned run none)
  | .handle i run => w.tell i (.handleTook run none)
  | .plugin i call fault => w.tell i (.pluginReady call fault)

/-- A step fails badly: a listener crashes with its words. -/
def crash (w : World) (p : Procedure) (value : String) : World :=
  match p.role with
  | .listener i run =>
    (w.removeProcedure p).tell i (.listenerReturned run (some ⟨"<type>", value⟩))
  | _ => w.complete p .broken

/-! ### Calls -/

/-- Blocks a procedure. -/
def wait (w : World) (p : Procedure) (b : Block) (a : Activity) : World :=
  w.putProcedure { p with block := some b, activity := some a, arrived := none }

/-- Makes a call of the system in use; `f` gets the number of the call. -/
def callWith (w : World) (p : Procedure) (a : Activity) (f : Nat → System → System) : World :=
  let id := ((w.systems[w.active]?).map (·.nextId)).getD 0
  (w.wait p (.call w.active id) a).onActive fun s => f id { s with nextId := id + 1 }

/-- Asks the system in use for an operation. -/
def perform (w : World) (p : Procedure) (a : Activity) (ctx : Context) (op : Operation) : World :=
  w.callWith p a fun id s => s.perform id ctx op

/-- Hands commands to a bare desk, and returns when it has taken them. -/
def post (w : World) (p : Procedure) (f : System → Switching.Poster → Switching.Desk →
    Switching.Desk) : World :=
  w.callWith p .operation fun id s =>
    (s.await id none .posting).onDesk 0 (f s (.caller id))

/-- A call of the session manager; its events may have to wait. -/
def callSessions (w : World) (p : Procedure) (c : SessionCall) (user : UserId) : World :=
  let result (s : System) : Except Fault (Sessions × List Event) := match c with
    | .switch => s.sessions.switchTo user s.millis
    | .start => s.sessions.startInBackground user s.millis
    | .unlock => s.sessions.unlock user s.millis
    | .stop => s.sessions.stop user s.millis
  let fault := w.current?.bind fun s => match result s with
    | .error f => some f
    | .ok _ => none
  w.callWith p (.known (.status fault)) fun id s =>
    let waits := fault.isNone && s.sink = .desk
    let s := ((s.await id none .posting).onSessions (.caller id) (result s)).1
    if waits then s else s.finish id .nothing

/-- The next creation of drivers, or the end. -/
def seed (w : World) (p : Procedure) (ctx : Context) (sd : Seeding) : World :=
  match sd.next? with
  | some op => w.perform p (.seeding sd) ctx op
  | none => w.complete p (.seeded sd.drivers none)

/-- The next operation of a boot, or the end. -/
def bringUp (w : World) (p : Procedure) (ctx : Context) (drivers : List UserId) (b : Booting) :
    World :=
  match b, b.next? with
  | _, some op => w.perform p (.booting drivers b) ctx op
  | .done user, none => w.complete p (.number user.toInt)
  | _, none => w.complete p .nothing

/-! ### Commands that end at once -/

/-- Changes the system in use without a call. -/
def adjust (w : World) (f : System → System) : World × Answer := (w.onActive f, .nothing)

/-- What the system in use shows. -/
def inspect (w : World) (f : System → Answer) : World × Answer :=
  (w, (w.current?.map f).getD .nothing)

/-- Takes over a change of the registry; a broken one is the answer. -/
def changeRegistry (w : World) (f : System → Registry.Change) (a : Answer) : World × Answer :=
  let broken := (w.current?.map fun s => (f s).broken).getD false
  (w.onActive fun s => s.applyChange (f s), if broken then .broken else a)

/-- Puts a fault of the session manager in place, or clears it. -/
def failSession (s : Sessions) (c : SessionCall) (user : UserId) (f : Option Fault) : Sessions :=
  match c with
  | .switch => { s with switchFault := f }
  | .start => { s with startFaults := Sessions.setFault user f s.startFaults }
  | .unlock => { s with unlockFaults := Sessions.setFault user f s.unlockFaults }
  | .stop => { s with stopFaults := Sessions.setFault user f s.stopFaults }

/-- Commands about the sessions. -/
def sessionCommand? (w : World) : Command → Option (World × Answer)
  | .currentUser => some (w.inspect fun s => .number s.sessions.current.toInt)
  | .setCurrent user =>
    some (w.adjust fun s => { s with sessions := s.sessions.setCurrent user })
  | .setRunning user unlocked =>
    some (w.adjust fun s => { s with sessions := s.sessions.setRunning user unlocked })
  | .sessionOf user =>
    some (w.inspect fun s => .session (s.sessions.reportsRunning user) (s.sessions.isUnlocked user))
  | .sessionHistory => some (w.inspect fun s => .sessionHistory s.sessions.switches s.sessions.stops)
  | .failSession c user f =>
    some (w.adjust fun s => { s with sessions := failSession s.sessions c user f })
  | .denyRunning user on =>
    some (w.adjust fun s =>
      let others := Sessions.unmark user s.sessions.denied
      { s with sessions := { s.sessions with denied := if on then user :: others else others } })
  | .gate on => some ({ w with gated := on }, .nothing)
  | .release =>
    match w.held with
    | [] => some (w, .flag false)
    | (i, run) :: rest => some ({ w with held := rest }.tell i (.commit run), .flag true)
  | _ => none

/-- The answer to a creation in the roster, which it changes. -/
def recordCreated (w : World) (f : Roster → Except Fault (User × Roster)) : World × Answer :=
  match w.current?.map fun s => f s.roster with
  | some (.ok (u, r)) => (w.onActive fun s => { s with roster := r }, .user (.ok u))
  | some (.error e) => (w, .user (.error e))
  | none => (w, .nothing)

/-- Commands about the roster. -/
def rosterCommand? (w : World) : Command → Option (World × Answer)
  | .putUser u => some (w.adjust fun s => { s with roster := s.roster.put u })
  | .getUser id => some (w.inspect fun s => .user (s.roster.user id))
  | .allUsers => some (w.inspect fun s => .users s.roster.users)
  | .createRecord name kind flags => some (w.recordCreated fun r => r.create name kind flags)
  | .createProfileRecord name kind flags parent =>
    some (w.recordCreated fun r => r.createProfile name kind flags parent)
  | .removeRecord id => do
    let s ← w.current?
    match s.roster.remove id with
    | .ok r => return (w.onActive fun s => { s with roster := r }, .status none)
    | .error e => return (w, .status (some e))
  | .failCreate f =>
    some (w.adjust fun s => { s with roster := { s.roster with createFault := f } })
  | .failRemove f =>
    some (w.adjust fun s => { s with roster := { s.roster with removeFault := f } })
  | _ => none

/-- Commands about the vehicle. -/
def vehicleCommand? (w : World) : Command → Option (World × Answer)
  | .veto target message =>
    some ({ w with simulator := w.simulator.veto target message }, .nothing)
  | .rejectCreate message =>
    some ({ w with simulator := { w.simulator with rejection := message } }, .nothing)
  | .setInitialInfo info =>
    some ({ w with simulator := { w.simulator with initial := info } }, .nothing)
  | .tell n => some (w.notifyVehicle n, .nothing)
  | .vehicleHistory =>
    some (w, .vehicleHistory w.simulator.posts w.simulator.legacy w.simulator.removed)
  | .script kind b => some ({ w with script := w.script.setBehaviour kind b }, .nothing)
  | .answer number reply =>
    match w.script.answer number reply with
    | none => some (w, .flag false)
    | some (s, none) => some ({ w with script := s }, .flag true)
    | some (s, some (id, r, f)) => some ({ w with script := s }.handOn id r f, .flag true)
  | _ => none

/-- The folder of the state file. -/
def disk (w : World) : Disk :=
  match w.current? with
  | none => w.folder
  | some s =>
    match s.repository.medium with
    | .file d => d
    | .memory .. => w.folder

/-- Changes what stands in the folder of the state file. -/
def putDisk (w : World) (d : Disk) : World :=
  { w with folder := d }.onActive fun s => match s.repository.medium with
    | .file _ => { s with repository := { s.repository with medium := .file d } }
    | .memory .. => s

/-- Commands about the persisted state. -/
def stateCommand? (w : World) (ctx : Context) : Command → Option (World × Answer)
  | .failLoad f => some (w.adjust fun s =>
      if w.ownRepository then { s with repository := { s.repository with loadFault := f } } else s)
  | .failSave f => some (w.adjust fun s =>
      if w.ownRepository then { s with repository := { s.repository with saveFault := f } } else s)
  | .storeLoad => do
    let s ← w.current?
    match s.store.load s.repository with
    | (store, .ok st) => return (w.onActive fun s => { s with store := store }, .loaded st none)
    | (_, .error f) => return (w, .loaded Snapshot.empty (some f))
  | .storeUpdate patch =>
    let fault := w.current?.bind fun s => (s.updateStore ctx.gone patch.apply).2
    some (w.onActive fun s => (s.updateStore ctx.gone patch.apply).1, .status fault)
  | .storeSnapshot => some (w.inspect fun s => .cached s.store.cache)
  | .repositoryLoad => some (w.inspect fun s => match s.repository.medium.load with
      | .ok st => .stored st none
      | .error f => .stored Snapshot.empty (some f))
  | .repositorySave st => do
    let s ← w.current?
    match s.repository.medium.save ctx.gone st s.now with
    | .ok m =>
      return (w.onActive fun s => { s with repository := { s.repository with medium := m } },
        .status none)
    | .error f => return (w, .status (some f))
  | .repositorySaves => some (w.inspect fun s => match s.repository.medium with
      | .memory _ n => .number n
      | .file _ => .number 0)
  | .setFileText text => some (w.putDisk (.holding text), .nothing)
  | .fileText => some (w, .text (match w.disk with
      | .holding t => some t
      | _ => none))
  | .blockFolder => some (w.putDisk .noFolder, .nothing)
  | .blockFile => some (w.putDisk .folderAtFile, .nothing)
  | _ => none

/-- Takes over what the bare lifecycle manager did, or why it did not. -/
def onManager (w : World) (r : Except Fault Lifecycle.Manager) : World × Answer :=
  match r with
  | .ok m => ({ w with manager := m }.flushManager, .status none)
  | .error f => (w, .status (some f))

/-- A worker of the bare lifecycle manager returns. -/
def workerReturns (w : World) (k : Worker) (fault : Option Fault) : World :=
  { w with manager := w.manager.workerDone k.group k.name fault }.flushManager

/-- Commands about the bare lifecycle manager. -/
def lifecycleCommand? (w : World) : Command → Option (World × Answer)
  | .beginGroup reason => some (w.onManager (w.manager.beginGroup false reason))
  | .move target reason => some (w.onManager (w.manager.move target reason))
  | .work name chore fault =>
    match w.manager.current with
    | none => some (w, .broken)
    | some g =>
      let wait := match chore with
        | .sleep ms => max (Duration.ofMillis ms).toInt 0
        | _ => 0
      some ({ w with
        manager := w.manager.join
        workers := w.workers ++ [⟨g, name, chore, fault, w.clock + wait⟩] }, .nothing)
  | .releaseWork name =>
    let (gone, left) := w.workers.partition fun k => k.name == name && k.chore == .hang
    some (gone.foldl (fun w k => w.workerReturns k k.fault) { w with workers := left }, .nothing)
  | _ => none

/-- Commands about a bare bus, desk or registry. -/
def partCommand? (w : World) : Command → Option (World × Answer)
  | .run => some (w.adjust fun s =>
      s.onRun 0 fun r => match w.subject with
        | .bus => { r with bus := r.bus.start }
        | _ => { r with desk := r.desk.start })
  | .closeDesk => some (w.adjust fun s => s.onDesk 0 (·.close s.view))
  | .registryAdd u =>
    some (w.changeRegistry (fun s => s.registry.add u s.sessions.current) .nothing)
  | .registryRestore st => some (w.changeRegistry (fun s => s.registry.restore st) .nothing)
  | .registryRemove id =>
    let removed := (w.current?.map fun s => (s.registry.remove id s.sessions.current).2).getD false
    some (w.changeRegistry (fun s => (s.registry.remove id s.sessions.current).1) (.flag removed))
  | .registryForget id => some (w.changeRegistry (fun s => (s.registry.forget id).1) .nothing)
  | _ => none

/-- The contexts that workers were started with end. -/
def endContexts (w : World) : World :=
  match w.subject with
  | .bus => w.onActive fun s => s.onRun 0 fun r =>
      if r.bus.worker == .unstarted then r else { r with bus := r.bus.endContext }
  | .switching => w.onActive fun s => s.onRun 0 fun r =>
      if r.desk.worker == .unstarted then r else { r with desk := r.desk.endContext }
  | _ =>
    let ended (s : System) : System :=
      (List.range s.runs.length).foldl (fun s run => s.step (.parentEnded run)) s
    (List.range w.systems.length).foldl (fun w i => w.onSystem i ended) w

/-- The handle with this name dies, unless it is dead. -/
def killHandle (w : World) (name : String) : World × Answer :=
  match w.handles.findIdx? fun h => h.name == name && !h.dead with
  | none => (w, .flag false)
  | some h =>
    let w := { w with handles := w.handles.modify h fun s => { s with dead := true } }
    ((List.range w.systems.length).foldl (fun w i => w.onSystem i (·.step (.handleDied h))) w,
      .flag true)

/-- Commands about the service that end at once. -/
def serviceCommand? (w : World) : Command → Option (World × Answer)
  | .now => some (w, .number (w.clock / 1000000))
  | .metrics => some (w.inspect fun s => .metrics s.metrics)
  | .invalid what => some (w, .invalid what)
  | .note n => some (w.note n, .nothing)
  | .cancelContext => some (w.endContexts, .nothing)
  | .persistentUsers =>
    some (w.inspect fun s => .users (Provision.persistentUsers s.roster s.config.headless))
  | .profilesOf driver =>
    some (w.inspect fun s => .users (Provision.profilesOf s.roster s.config.headless driver))
  | .getInitial => some (w.inspect fun s => .number s.initialUser.toInt)
  | .listDrivers => some (w.inspect fun s => .ids s.drivers)
  | .killRemote name => some (w.killHandle name)
  | _ => none

/-- The commands that end at once. -/
def atOnce? (w : World) (ctx : Context) (c : Command) : Option (World × Answer) :=
  w.serviceCommand? c <|> w.sessionCommand? c <|> w.rosterCommand? c <|> w.vehicleCommand? c
    <|> w.stateCommand? ctx c <|> w.lifecycleCommand? c <|> w.partCommand? c

/-! ### Listeners and handles -/

/-- The number of the listener with this name, made at its first use. -/
def listener (w : World) (name : String) (reactions : List Reaction) : Nat × World :=
  match w.listeners.findIdx? (·.name == name) with
  | some l => (l, w)
  | none =>
    (w.listeners.length,
      { w with listeners := w.listeners ++ [{ name := name, reactions := reactions }] })

/-- What is offered as a listener. -/
def offer (w : World) (name : String) (o : Offered) (reactions : List Reaction) :
    Bus.Offer Listener × World :=
  match o with
  | .missing => (.missing, w)
  | .incomparable => (.notComparable "<type>", w)
  | .proper =>
    let (l, w) := w.listener name reactions
    (.listener (.outside l), w)

/-- The number of the handle with this name, made at its first use. A handle
    that died before a run began is dead in that run too. -/
def handle (w : World) (made : HandleScript) : Nat × World :=
  match w.handles.findIdx? (·.name == made.name) with
  | none => (w.handles.length, { w with handles := w.handles ++ [made] })
  | some h =>
    if (w.handles[h]?).any (·.dead) then (h, w.onActive (·.step (.handleDied h))) else (h, w)

/-! ### The vehicle -/

/-- Asks the vehicle directly. -/
def askDirectly (w : World) (p : Procedure) (ctx : Context) (request : Vehicle.Request) : World :=
  let id := ((w.systems[w.active]?).map (·.nextId)).getD 0
  let w := w.onActive fun s => { s with nextId := id + 1 }
  match w.askVehicle id request ctx.gone with
  | (w, .answered r f) => w.complete p (.vehicle r f)
  | (w, .inProgress) => w.wait p (.vehicle id request ctx.deadline) .operation

/-- The vehicle starts a switch, if somebody takes it. -/
def initiate (w : World) (p : Procedure) (target : UserId) : World :=
  match w.simulator.initiate target with
  | .error f => w.complete p (.status (some f))
  | .ok (token, s, ns) =>
    ({ w with simulator := s }.notes ns).perform p (.known (.status none)) {}
      (.initiatedSwitch token target)

/-! ### Reboots -/

/-- Where the service of a new boot keeps its state, if the scenario gives no
    repository. -/
def mediumFor (w : World) (setup : Setup) : Medium :=
  if setup.usesFolder then .file w.disk else Medium.fresh

/-- The system of a new boot, unless its configuration is wrong. -/
def boot (w : World) (setup : Setup) (sessions : Sessions) : Except Fault System :=
  (Service.new setup.config true true).map fun s =>
    { s with
      now := w.clock
      plugins := w.plugins.map fun p => ⟨p.name, p.shutdownFault⟩
      capabilities := match w.kind with
        | .absent => Vehicle.Capabilities.none
        | .simulated => w.simulator.capabilities
        | .scripted => w.script.capabilities
      hasVehicle := w.kind != .absent
      sessions := sessions
      sink := if w.noSink then .nowhere else .service
      panel := w.panel }

/-- A stopped system is replaced by a new one. -/
def reboot (w : World) (setup : Setup) (keepSessions : Bool) (current : UserId) : World × Answer :=
  let sessions := match keepSessions, w.current? with
    | true, some s => s.sessions
    | _, _ => Sessions.fresh current
  match w.boot setup sessions, w.current? with
  | .error f, _ => (w, .status (some f))
  | .ok _, none => (w, .nothing)
  | .ok s, some old =>
    let s := share old s keepSessions
    let s := if w.ownRepository then s
      else { s with repository := { medium := w.mediumFor setup } }
    let seats := w.seats ++ [if keepSessions then w.seat w.active else w.systems.length]
    let systems := if keepSessions && !w.noSink then
        w.systems.modify w.active fun s => { s with sink := .outside }
      else w.systems
    ({ w with
      folder := w.disk
      systems := systems ++ [s]
      seats := seats
      simulator := { w.simulator with hasHandler := true } }, .status none)

/-! ### All commands -/

/-- Plays a command that is a call, or leads to one. -/
def begin (w : World) (p : Procedure) (ctx : Context) : Command → World
  | .panic value => w.crash p value
  | .advance ms =>
    let span := (Duration.ofMillis ms).toInt
    if span ≤ 0 then w.complete p .nothing
    else w.wait p (.sleep (w.clock + span)) (.known .nothing)
  | .start => w.callWith p .operation fun id s => s.request (.start id false)
  | .stop => w.callWith p .operation fun id s => s.request (.stop id)
  | .reboot setup keep current =>
    w.callWith p (.rebooting setup keep current) fun id s => s.request (.stop id)
  | .perform op => w.perform p .operation ctx op
  | .requestSwitch name target timeout =>
    let id := ((w.systems[w.active]?).map (·.nextId)).getD 0
    { w with tickets := w.tickets ++ [(id, name)] }.perform p .operation ctx
      (.requestSwitch target timeout)
  | .initiateSwitch target noHandler =>
    (if noHandler then { w with simulator := { w.simulator with hasHandler := false } }
      else w).initiate p target
  | .setTimeout d =>
    if w.subject = .switching then
      let w := w.onActive fun s => s.onRun 0 fun r =>
        { r with desk := r.desk.setTimeout d }
      w.complete p (((w.current?.bind (·.runs[0]?)).map fun r =>
        Answer.number r.desk.timeout.toMillis.toInt).getD .nothing)
    else w.perform p .timeout ctx (.setTimeout d)
  | .setMax n =>
    if w.subject = .registry then
      let (w, a) := w.changeRegistry (fun s => s.registry.setMax n) .nothing
      w.complete p a
    else w.perform p .maxRunning ctx (.setMaxRunning n)
  | .startBackground =>
    if w.subject = .registry then
      w.callWith p .operation fun id s =>
        let (s, running) := s.startRegistered id
        s.finish id (.users running)
    else w.perform p .operation ctx .startBackground
  | .seedDrivers n =>
    w.seed p ctx ⟨n, (w.current?.map (·.drivers)).getD []⟩
  | .boot drivers => w.bringUp p ctx drivers .consulting
  | .event e =>
    match w.subject with
    | .registry =>
      let (w, a) := w.changeRegistry
        (fun s => s.registry.onEvent s.roster.user s.sessions.current e) .nothing
      w.complete p a
    | .switching => w.post p fun s poster d => d.onEvents s.view poster [e]
    | _ => w.perform p .operation ctx (.event e)
  | .logEvents =>
    let script : ListenerScript := { name := "", logs := true }
    { w with listeners := w.listeners ++ [script] }.perform p .operation ctx
      (.addListener (.listener (.outside w.listeners.length)))
  | .addListener name o reactions =>
    let (l, w) := w.offer name o reactions
    w.perform p .operation ctx (.addListener l)
  | .removeListener name o =>
    let (l, w) := w.offer name o []
    w.perform p .operation ctx (.removeListener l)
  | .addRemote uid name missing failFrom fault reactions =>
    if missing then w.perform p .operation ctx (.addRemote uid none)
    else
      let (h, w) := w.handle
        { name := name, failFrom := failFrom, fault := fault, reactions := reactions }
      w.perform p .operation ctx (.addRemote uid (some h))
  | .removeRemote uid => w.perform p .operation ctx (.removeRemote uid)
  | .session c user => w.callSessions p c user
  | .ask request => w.askDirectly p ctx request
  | .shutdown ms =>
    match w.manager.shutdown p.id (Duration.ofMillis ms) w.clock with
    | .error f => w.complete p (.status (some f))
    | .ok m => ({ w with manager := m }.wait p (.manager p.id) .operation).flushManager
  | .abort reason =>
    { w with manager := w.manager.abort p.id reason }.wait p (.manager p.id) (.known .nothing)
  | _ => w.complete p .nothing

/-- Plays a command. -/
def play (w : World) (p : Procedure) (ctx : Context) (c : Command) : World :=
  match w.atOnce? ctx c with
  | some (w, a) => w.complete p a
  | none => w.begin p ctx c

/-- The context that a step goes on with after a call. -/
def contextOf (w : World) (p : Procedure) : Context :=
  if p.context.gone.isNone && p.context.deadline.any (· ≤ w.clock) then
    { p.context with gone := some .deadline }
  else p.context

/-- A procedure goes on with what arrived. -/
def resume (w : World) (p : Procedure) : Activity → Arrival → World
  | .known a, _ => w.complete p a
  | .operation, .result r => w.complete p (Answer.ofResult r)
  | .operation, .response r f => w.complete p (.vehicle r f)
  | .operation, .woken => w.complete p .nothing
  | .timeout, _ =>
    let (w, a) := w.inspect fun s => .number s.timeout.toMillis.toInt
    w.complete p a
  | .maxRunning, .result .broken => w.complete p .broken
  | .maxRunning, _ =>
    let (w, a) := w.inspect fun s => .number s.maxRunning.toInt
    w.complete p a
  | .seeding sd, .result (.create r) =>
    match sd.resume r with
    | .ok (sd, ns) => (w.notes ns).seed p (w.contextOf p) sd
    | .error f => w.complete p (.seeded sd.drivers (some f))
  | .booting drivers b, .result r =>
    match w.current? with
    | none => w.complete p .nothing
    | some s =>
      let (b, ns) := b.resume s drivers r
      (w.notes ns).bringUp p (w.contextOf p) drivers b
  | .rebooting setup keep current, _ =>
    let (w, a) := w.reboot setup keep current
    w.complete p a
  | _, _ => w.complete p .nothing

/-- A procedure that is not blocked takes its next step. -/
def proceed (w : World) (p : Procedure) : World :=
  match p.activity, p.arrived with
  | some a, some x => w.resume { p with activity := none, arrived := none } a x
  | _, _ =>
    match p.current, p.steps with
    | some ((f, c), _), _ =>
      let ctx := f.context w.clock
      w.play { p with context := ctx } ctx c
    | none, [] => w.retire p
    | none, (f, c) :: rest =>
      match f.background with
      | none => w.putProcedure { p with steps := rest, current := some ((f, c), f.times - 1) }
      | some name =>
        let w := (w.putProcedure { p with steps := rest }).spawn (.background name)
          [({ f with background := none }, c)]
        w.keepAnswer p.role c .background

end World

end HeadUnit.Bench
