import HeadUnit.Proofs.Service.Keeping

/-!
# What a move makes of the scene

`Happening` lists what a move of the system can make of its scene, one constructor per
outcome, with what is known in that outcome; `happening_move` says that the list is complete.
At most one desk makes a move that is more than the arrival of an event, and the list says
which; what starts and stops do is a list of its own (`Steering`). While a start gives a run its
listeners, what the bus has asked for is handed on first.

Proofs about calls, workers and what the system says go by cases on `Happening` and on the
steps behind the calls.
-/

namespace HeadUnit.Service

open HeadUnit.Service.System

/-! ## The list of happenings -/

/-- The question whose answer is not waited for any more after the move. -/
def Move.ends? : Move → Option Nat
  | act (.answered ask _ _) | act (.expired ask) | act (.canceled ask) => some ask
  | _ => none

/-- By the move `m` of the system `s`, the context of the call `id` ends, or the call is made
    with a context that has ended. -/
def Move.Leaves (s : System) (m : Move) (id : Nat) : Prop :=
  (∃ f, m = .act (.contextEnded id f)) ∨
    ∃ ctx op f, m = .act (.perform ctx op) ∧ ctx.gone = some f ∧ s.nextId = id

/-- What a call that is made by the move may have to do before it returns. -/
inductive Move.Awaits (m : Move) : Work → Prop
  | other {w : Work} (ordinary : w.isOrdinary = true) : Awaits m w
  | bounding {ctx : Context} {n : Int64} (move : m = .act (.perform ctx (.setMaxRunning n)))
      (enough : 2 ≤ n) : Awaits m (.bounding n)

/-- It does not belong to starts and stops. -/
theorem Move.Awaits.ordinary {m : Move} {w : Work} (awaits : m.Awaits w) : w.isSteered = false := by
  cases awaits with
  | other ordinary => cases w <;> first | rfl | cases ordinary
  | bounding => rfl

/-- A call is made by the move, under a number of its own; it may have to wait. -/
inductive Scene.Opens (m : Move) (x : Scene) : Scene → Prop
  | numbered : Opens m x { x with nextId := x.nextId + 1 }
  | waiting (deadline : Option Int) (w : Work) (awaits : m.Awaits w) :
      Opens m x ({ x with nextId := x.nextId + 1 }.await x.nextId deadline w)

/-- The call `id` returns, or does not yet. -/
inductive Scene.Closes (id : Nat) (x : Scene) : Scene → Prop
  | pending : Closes id x x
  | returned (r : Result) : Closes id x (x.finish id r)
  /-- The result of a switch comes before the call returns. -/
  | replied (r : SwitchResult) : Closes id x ((x.say (.replied id r)).finish id .nothing)

/-- The call `id`, which waits for a switch, is left if its context has ended. -/
inductive Scene.Left (s : System) (m : Move) (id : Nat) (x : Scene) : Scene → Prop
  | stayed : Left s m id x x
  | left (deadline : Option Int) (f : Fault) (leaves : m.Leaves s id)
      (waits : x.call? id = some ⟨id, deadline, .switching⟩) :
      Left s m id x (x.finish id (.switch ⟨.coordinatorInternalFailure, f.message⟩))

/-- From `x` to `y` only calls, numbers and what was said change. -/
def Scene.Aside (x y : Scene) : Prop :=
  ∃ calls nextId said, y = { x with calls := calls, nextId := nextId, said := said }

theorem Scene.Opens.aside {m : Move} {x y : Scene} (opens : x.Opens m y) : x.Aside y := by
  cases opens <;> exact ⟨_, _, _, rfl⟩

theorem Scene.Closes.aside {id : Nat} {x y : Scene} (closes : x.Closes id y) : x.Aside y := by
  cases closes <;> exact ⟨_, _, _, rfl⟩

theorem Scene.Left.aside {s : System} {m : Move} {id : Nat} {x y : Scene} (left : x.Left s m id y) :
    x.Aside y := by
  cases left <;> exact ⟨_, _, _, rfl⟩

/-- What the move `m` of the system `s` makes of its scene. -/
inductive Happening (s : System) (m : Move) : Scene → Prop
  /-- Steps behind the calls. -/
  | behind {x : Scene} (steps : Scene.Steps (s.scene, emptyHand) (x, emptyHand)) : Happening s m x
  /-- A call is made, steps are taken for it, and it returns at once or later. -/
  | performed {x y z : Scene} (opens : s.scene.Opens m x)
      (steps : Scene.Steps (x, emptyHand) (y, emptyHand)) (closes : y.Closes s.nextId z) :
      Happening s m z
  /-- The published desk is asked for a switch. -/
  | asked {i : Nat} {q : Switching.Move} {x z : Scene} (published : s.published = some i)
      (asks : Asks s m q) (sees : q.view? = some s.view) (opens : s.scene.Opens m x)
      (left : (x.moveDesk i q).Left s m s.nextId z) : Happening s m z
  /-- A caller does not wait for a switch any more. -/
  | left {id : Nat} {z : Scene} (left : s.scene.Left s m id z) : Happening s m z
  /-- The worker of a desk takes a command. -/
  | worked {i : Nat} (move : m = .act (.deskWork i)) :
      Happening s m (s.scene.moveDesk i (.work s.view))
  /-- The worker of a desk stops. -/
  | stopped {i : Nat} (move : m = .act (.deskStop i)) :
      Happening s m (s.scene.moveDesk i (.stop s.view))
  /-- A trip of a desk ends. -/
  | tripEnded {id i : Nat} {v : Switching.View} {k : Switching.Ticket}
      {response : Vehicle.SwitchResponse} {fault : Option Fault} (ends : m.ends? = some id)
      (found : s.scene.asks.find? (·.1 == id) = some (id, .desk i k)) :
      Happening s m ({ s.scene with asks := s.scene.asks.filter (·.1 != id) }.moveDesk i
        (.tripEnded v k response fault))
  /-- The operating system has switched for a desk, or failed to. -/
  | committed {i : Nat} {r : Run} {c : Switching.Commit} {t : System} {fault : Option Fault}
      (move : m = .act (.commit i)) (here : s.runs[i]? = some r)
      (doing : r.desk.worker = .committing c)
      (switched : s.onSessions .worker (s.sessions.switchTo c.target s.millis) = (t, fault)) :
      Happening s m (t.scene.moveDesk i (.committed t.view fault))
  /-- A request that was installed is reported and put to the vehicle. -/
  | launched {i : Nat} {k : Switching.Ticket} (move : m = .act (.launch i k)) :
      Happening s m (s.scene.moveDesk i (.launch k))
  /-- A switch that the vehicle has started is reported. -/
  | marked {i : Nat} (move : m = .act (.deskMark i)) : Happening s m (s.scene.moveDesk i .mark)
  /-- The bound of the registry changes. -/
  | bounded {c : Call} {n : Int64} {r : Result} (move : m = .act (.goOn c.id))
      (found : s.scene.call? c.id = some c) (work : c.work = .bounding n)
      (returns : r = .nothing ∨ r = .broken) : Happening s m (s.scene.finish c.id r)
  /-- Whatever belongs to starts and stops. -/
  | steered {x : Scene} (steering : Steering s.scene m x) : Happening s m x
  /-- A run that a start has made gets a listener, or its settings. -/
  | wired {id i : Nat} {left : List Listener} {x y : Scene} (move : m = .act (.goOn id))
      (tasks : s.scene.tasks = [⟨id, none, .wiring i left⟩])
      (steps : Scene.Steps (s.scene, emptyHand) (x, emptyHand)) (steering : Steering x m y) :
      Happening s m y

/-! ## The list is complete -/

section Complete

variable {s t : System} {m : Move}

/-- Nothing that shows. -/
theorem Happening.same (same : t.scene = s.scene) : Happening s m t.scene := by
  rw [same]
  exact .behind .refl

theorem Happening.of_leads (leads : Leads s emptyHand t emptyHand) : Happening s m t.scene :=
  .behind leads

/-! ### Calls -/

/-- A call that returns at once. -/
theorem Happening.returned {r : Result} (leads : Leads s.freshId.2 emptyHand t emptyHand) :
    Happening s m (t.finish s.nextId r).scene := by
  rw [scene_finish]
  exact .performed .numbered leads (.returned r)

/-- A call that has to wait. -/
theorem Happening.waits {u : System} {deadline : Option Int} {w : Work}
    (same : t.scene = s.freshId.2.scene) (awaits : m.Awaits w)
    (leads : Leads (t.await s.nextId deadline w) emptyHand u emptyHand) :
    Happening s m u.scene := by
  rw [Leads, scene_await, same] at leads
  exact .performed (.waiting deadline w awaits) leads .pending

/-- A call that waits for the vehicle. -/
theorem Happening.consults {w : Work} (same : t.scene = s.freshId.2.scene)
    (ordinary : w.isOrdinary = true) (request : Vehicle.Request) (timeout : Option Duration)
    (ctx : Context) : Happening s m ((t.await s.nextId none w).askVehicle request timeout ctx
      (.call s.nextId)).scene :=
  .waits same (.other ordinary) (.single (.asked _ _ s.nextId) (scene_askVehicle ..))

/-! ### Switches -/

/-- The published desk is asked for a switch on behalf of a call. -/
theorem Happening.of_onDesk {i : Nat} {q : Switching.Move} {deadline : Option Int} {w : Work}
    (published : s.published = some i) (asks : Asks s m q) (sees : q.view? = some s.view)
    (ordinary : w.isOrdinary = true) :
    Happening s m ((s.freshId.2.await s.nextId deadline w).onDesk i (·.move q)).scene := by
  rw [scene_onDesk]
  exact .asked published asks sees (.waiting deadline w (.other ordinary)) .stayed

theorem happening_requestSwitch {target : UserId} {timeout : Duration} :
    Happening s m (s.freshId.2.requestSwitch s.nextId target timeout).scene := by
  unfold requestSwitch
  split
  · rw [scene_finish, scene_emit]
    exact .performed .numbered .refl (.replied _)
  · next i published =>
    exact .of_onDesk (q := .request s.view (.caller s.nextId) s.nextId target timeout)
      published rfl rfl rfl

theorem left_leaveSwitch {id : Nat} {f : Fault} (leaves : m.Leaves s id) :
    t.scene.Left s m id (t.leaveSwitch id f).scene := by
  unfold leaveSwitch
  split
  · next own deadline found =>
    obtain rfl : own = id := by simpa using List.find?_some found
    rw [scene_finish]
    exact .left deadline f leaves found
  · exact .stayed

theorem happening_switchUser {ctx : Context} {op : Operation} {target : UserId}
    {timeout : Duration} : Happening s (.act (.perform ctx op))
      (s.freshId.2.switchUser s.nextId ctx target timeout).scene := by
  unfold switchUser
  split
  · exact .returned (.refl _ _)
  · next i published =>
    let q : Switching.Move := .request s.view (.caller s.nextId) s.nextId target timeout
    have asks : Asks s (.act (.perform ctx op)) q := rfl
    dsimp only
    split
    · next f gone =>
      have leaves : (Move.act (.perform ctx op)).Leaves s s.nextId :=
        .inr ⟨ctx, op, f, rfl, gone, rfl⟩
      have left := left_leaveSwitch (f := f)
        (t := (s.freshId.2.await s.nextId ctx.deadline .switching).onDesk i (·.move q)) leaves
      rw [scene_onDesk] at left
      exact .asked published asks rfl (.waiting ctx.deadline .switching (.other rfl)) left
    · exact Happening.of_onDesk (s := s) published asks rfl rfl

theorem happening_switchDriver {ctx : Context} {op : Operation} {target : UserId}
    {timeout : Duration} : Happening s (.act (.perform ctx op))
      (s.freshId.2.switchDriver s.nextId ctx target timeout).scene := by
  unfold switchDriver
  split
  · exact .returned (.refl _ _)
  · split
    · exact .returned (.of_eq (scene_plain _ rfl))
    · exact happening_switchUser

theorem happening_initiatedSwitch {ctx : Context} {token : Token} {target : UserId} :
    Happening s (.act (.perform ctx (.initiatedSwitch token target)))
      (s.freshId.2.initiatedSwitch s.nextId token target).scene := by
  unfold initiatedSwitch
  split
  · refine .returned (Leads.trans (.of_eq ?_) (.single (.told _ emptyHand _ rfl) (scene_emit ..)))
    exact scene_plain _ rfl
  · next i published =>
    exact .of_onDesk (q := .initiate s.view (.caller s.nextId) token target) published rfl rfl rfl

theorem happening_commit (i : Nat) : Happening s (.act (.commit i)) (s.commit i).scene := by
  unfold commit
  split
  · exact .same rfl
  · next r here =>
    split
    · next c doing =>
      have moved := scene_onDesk (s.onSessions .worker (s.sessions.switchTo c.target s.millis)).1 i
        (.committed (s.onSessions .worker (s.sessions.switchTo c.target s.millis)).1.view
          (s.onSessions .worker (s.sessions.switchTo c.target s.millis)).2)
      exact moved ▸ .committed rfl here doing rfl
    · exact .same rfl

/-! ### Users -/

theorem happening_created {ctx : Context} {timeout : Duration}
    {st : Provision.Step Provision.Creation} (plain : Note.ArePlain st.notes) :
    Happening s m (s.freshId.2.created s.nextId ctx timeout st).scene := by
  have noted : ({ s.freshId.2 with roster := st.roster }.notes st.notes).scene =
      s.freshId.2.scene := scene_notes _ plain
  unfold created
  dsimp only
  split
  · exact .returned (.of_eq noted)
  · exact .consults noted rfl ..

theorem happening_removeUser {user : UserId} :
    Happening s m (s.freshId.2.removeUser s.nextId user).scene := by
  have plain := Provision.plain_remove s.roster s.sessions.current s.capabilities.remove user
  have other : ∀ n, (Provision.remove s.roster s.sessions.current s.capabilities.remove
      user).value.notice = some n → n.isLegacy = false := by
    unfold Provision.remove
    split
    · nofun
    split
    · nofun
    · dsimp only
      split
      · nofun
      · split
        all_goals
          dsimp only [Provision.removalEnded]
          split
          · rintro n ⟨⟩
            rfl
          · nofun
  unfold removeUser
  refine .returned ?_
  have unchanged : Provision.remove s.freshId.2.roster s.freshId.2.sessions.current
      s.freshId.2.capabilities.remove user =
    Provision.remove s.roster s.sessions.current s.capabilities.remove user := rfl
  rw [unchanged]
  generalize Provision.remove s.roster s.sessions.current s.capabilities.remove user = st at *
  dsimp only
  have forgotten (b : Bool) (t : System) (same : t.scene = s.freshId.2.scene) :
      (if b then t.applyChange (t.registry.forget user).1 else t).scene = s.freshId.2.scene := by
    split
    · exact (scene_applyChange t (Registry.plain_forget _ _)).trans same
    · exact same
  have dropped := forgotten st.value.status.isSuccess { s.freshId.2 with roster := st.roster } rfl
  refine Leads.trans ?_ (.of_eq (scene_notes _ plain))
  split
  · next n told =>
    refine Leads.since (.single (.told _ emptyHand n (other n told)) ?_) dropped
    exact scene_emit ..
  · exact .of_eq dropped

/-! ### Operations -/

theorem happening_setMaxRunning {ctx : Context} {n : Int64} :
    Happening s (.act (.perform ctx (.setMaxRunning n)))
      (s.freshId.2.setMaxRunning s.nextId n).scene := by
  unfold setMaxRunning
  split
  · exact .returned (.of_eq (scene_plain _ rfl))
  · next enough =>
    exact .waits (t := { s.freshId.2 with maxRunning := n }) rfl
      (.bounding rfl (Int64.not_lt.1 enough)) (.refl _ _)

theorem happening_bound {c : Call} {n : Int64} (found : s.call? c.id = some c)
    (work : c.work = .bounding n) :
    Happening s (.act (.goOn c.id)) (s.bound c.id n).scene := by
  have applied := scene_applyChange s (Registry.plain_setMax s.registry n)
  unfold bound
  dsimp only
  rw [scene_finish, applied]
  refine .bounded rfl found work ?_
  split
  · exact .inr rfl
  · exact .inl rfl

theorem happening_startBackground (wired : s.sink = .service) :
    Happening s m (s.freshId.2.startBackground s.nextId).scene := by
  have plain := Registry.plain_startAll s.registry s.sessions s.millis
  have noted := scene_notes { s.freshId.2 with
    registry := (s.registry.startAll s.sessions s.millis).1
    sessions := (s.registry.startAll s.sessions s.millis).2.sessions } plain
  have kept : System.sink _ = .service := (congrArg Scene.sink noted).trans wired
  exact .returned (((leads_emitEvents _ kept _ _).since noted).upTo (scene_plain _ rfl))

theorem happening_stopBackground (wired : s.sink = .service) {user : UserId} :
    Happening s m (s.freshId.2.stopBackground s.nextId user).scene := by
  have plain := Registry.plain_stop s.registry s.sessions user s.millis
  have noted := scene_notes { s.freshId.2 with
    registry := (s.registry.stop s.sessions user s.millis).1
    sessions := (s.registry.stop s.sessions user s.millis).2.1 } plain
  have kept : System.sink _ = .service := (congrArg Scene.sink noted).trans wired
  exact .returned ((leads_emitEvents _ kept _ _).since noted)

theorem happening_setInitial {ctx : Context} {user : UserId} :
    Happening s m (s.freshId.2.setInitial s.nextId ctx user).scene := by
  unfold setInitial
  dsimp only
  split
  · exact .returned (.refl _ _)
  · exact .returned (.of_eq (scene_updateStore ..))

theorem happening_initialInfo {ctx : Context} {requestType : Int64} {timeout : Duration} :
    Happening s m (s.freshId.2.initialInfo s.nextId ctx requestType timeout).scene := by
  unfold initialInfo
  split
  · exact .returned (.refl _ _)
  · exact .consults rfl rfl ..

theorem happening_associate {isWrite : Bool} {caller : UserId} {timeout : Option Duration}
    {ctx : Context} {q : Association.Question} :
    Happening s m (s.freshId.2.associate s.nextId isWrite caller timeout ctx q).scene := by
  cases q with
  | refused r => exact .returned (.of_eq (scene_plain _ rfl))
  | ask request => exact .consults rfl rfl ..

theorem happening_onPublishedBus (b : Bus.Move Listener Nat) (outer : IsOuter b)
    (live : b ≠ .endContext)
    {f : Bus Listener Nat → Except Fault (Bus Listener Nat)}
    (made : ∀ x, (f x).toOption.getD x = x.move b) :
    Happening s m (s.freshId.2.onPublishedBus s.nextId f).scene := by
  unfold onPublishedBus
  split
  · exact .returned (.refl _ _)
  · next i _ => exact .returned (leads_tryBus _ i b outer live made)

theorem happening_flushEvents {ctx : Context} :
    Happening s m (s.freshId.2.flushEvents s.nextId ctx).scene := by
  have flushed (i : Nat) := leads_tryBus (s.freshId.2.await s.nextId ctx.deadline .flushing) i
    (.flush s.nextId) trivial (by simp) fun _ => rfl
  have opens : s.scene.Opens m (s.freshId.2.await s.nextId ctx.deadline .flushing).scene :=
    .waiting ctx.deadline .flushing (.other rfl)
  rcases s.freshId.2.flushEvents_cases s.nextId ctx with same | ⟨i, -, same | ⟨f, same⟩⟩
  · rw [same]
    exact .returned (.refl _ _)
  · rw [same]
    exact .performed opens (flushed i) .pending
  · rw [same, scene_finish]
    exact .performed opens (flushed i) (.returned _)

theorem happening_contextEnded {id : Nat} {f : Fault} :
    Happening s (.act (.contextEnded id f)) (s.contextEnded id f).scene := by
  unfold contextEnded
  split
  · exact .left (left_leaveSwitch (.inl ⟨f, rfl⟩))
  · next found => exact .of_leads (leads_finish s emptyHand rfl found trivial)
  · exact .same rfl

/-! ### Calls that go on -/

/-- The settings are handed to a run. -/
theorem leads_hand (i : Nat) : Leads s emptyHand
    (s.onRun i fun r => { r with desk := (r.desk.setTimeout s.timeout).setPanel s.panel })
    emptyHand := by
  have first : Leads s emptyHand (s.onRun i fun r => { r with desk := r.desk.setTimeout s.timeout })
      emptyHand := .single (.setting s.scene emptyHand i (.setTimeout s.timeout) trivial (by simp)) rfl
  refine first.trans (.single (.setting _ emptyHand i (.setPanel s.panel) trivial (by simp)) ?_)
  simp [scene, Scene.onRun, onRun, List.modify_modify_eq, Function.comp_def,
    Switching.Desk.move]

theorem happening_wire (orderly : s.scene.Orderly) {id i : Nat} {left : List Listener}
    (tasks : s.scene.tasks = [⟨id, none, .wiring i left⟩]) :
    Happening s (.act (.goOn id)) (s.wire id i left).scene := by
  cases left with
  | nil =>
    have steps := leads_hand (s := s) i
    have keeps := Scene.Steps.keeps steps orderly.numbered
    exact .wired rfl tasks steps
      (steering_publish (keeps.orderly orderly) (keeps.tasks.trans tasks))
  | cons l left =>
    have steps := leads_tryBus s i (.register (.listener l)) trivial (by simp)
      (f := (·.register (.listener l))) fun _ => rfl
    have keeps := Scene.Steps.keeps steps orderly.numbered
    obtain ⟨accepted, rejected⟩ :=
      steering_wire (keeps.orderly orderly) (keeps.tasks.trans tasks)
    rcases s.wire_cases id i l left with ⟨-, same⟩ | ⟨f, -, same⟩
    · exact same ▸ .wired rfl tasks steps accepted
    · exact same ▸ .wired rfl tasks steps (rejected f _)

theorem happening_goOn (orderly : s.scene.Orderly) (id : Nat) :
    Happening s (.act (.goOn id)) ((s.goOn? id).getD s).scene := by
  -- Unless it only shuts down plugins, the call is the start that is under way.
  have under {c : Call} (here : s.call? id = some c) (control : c.work.isControl = true) :
      s.scene.tasks = [⟨id, none, c.work⟩] := orderly.task here control
  have on := s.goesOn id
  generalize (s.goOn? id).getD s = s' at on
  cases on with
  | nothing => exact .same rfl
  | bounded here work =>
    obtain rfl : _ = id := by simpa using List.find?_some here
    exact happening_bound here work
  | read here work => exact .steered (steering_readState (work ▸ under here (work ▸ rfl)))
  | cached here work =>
    exact .steered (.advanced rfl (work ▸ under here (work ▸ rfl)) (.cached _))
  | restored here work => exact .steered (steering_restoreState (work ▸ under here (work ▸ rfl)))
  | built here work => exact .steered (steering_buildRun (work ▸ under here (work ▸ rfl)))
  | wired here work => exact happening_wire orderly (work ▸ under here (work ▸ rfl))
  | shut here work => exact .steered (steering_shutNext orderly here work)

/-! ### Answers -/

/-- Whoever asked learns how the wait has ended. -/
theorem happening_told {id : Nat} {o : Owner} (ends : m.ends? = some id)
    (found : s.scene.asks.find? (·.1 == id) = some (id, o))
    (gone : t.scene = { s.scene with asks := s.scene.asks.filter (·.1 != id) })
    (v : Trip.Verdict Vehicle.Response) : Happening s m (t.told v o).scene := by
  cases o with
  | desk i k =>
    have moved := scene_onDesk t i (.tripEnded t.view k v.value.asSwitch v.fault)
    rw [gone] at moved
    exact moved ▸ .tripEnded ends found
  | call c =>
    refine .behind (.head (.answered s.scene emptyHand id c found) ?_)
    rw [← gone]
    exact leads_answerCall t emptyHand c v

theorem happening_askEnded {id : Nat} {e : Trip.Ending Vehicle.Response}
    (ends : m.ends? = some id) : Happening s m (s.askEnded id e).scene := by
  rcases s.askEnded_cases id e with same | ⟨a, found, same⟩
  · rw [same]
    exact .same rfl
  · obtain rfl : a.id = id := by simpa using List.find?_some found
    have found' : s.scene.asks.find? (·.1 == a.id) = some (a.id, a.owner) := by
      simp only [scene, List.find?_map, Function.comp_def, found, Option.map_some]
    rw [same]
    refine happening_told ends found' ?_ _
    refine (sparing_scene.dropAsk s a e (fun _ _ _ => rfl) rfl).trans ?_
    simp only [scene, List.filter_map, Function.comp_def]

/-- An operation is performed on behalf of a new call. -/
theorem happening_perform (wired : s.sink = .service) (ctx : Context) (op : Operation)
    (proper : (Move.act (.perform ctx op)).Proper) :
    Happening s (.act (.perform ctx op)) (s.freshId.2.perform s.nextId ctx op).scene := by
  cases op with
  | requestSwitch target timeout => exact happening_requestSwitch
  | switchUser target timeout => exact happening_switchUser
  | switchDriver target timeout => exact happening_switchDriver
  | initiatedSwitch token target => exact happening_initiatedSwitch
  | setPanel p => exact .returned (leads_setPanel ..)
  | setTimeout d => exact .returned (leads_setTimeout ..)
  | setMaxRunning n => exact happening_setMaxRunning
  | createUser name kind flags timeout =>
    exact happening_created (Provision.plain_create _ _ _ _ _ _)
  | createDriver name admin => exact happening_created (Provision.plain_createDriver _ _ _ _ _)
  | createProfile name driver =>
    refine .returned (.of_eq ?_)
    exact scene_notes { s.freshId.2 with roster := _ } (Provision.plain_createProfile _ _ _)
  | removeUser user => exact happening_removeUser
  | startBackground => exact happening_startBackground wired
  | stopBackground user => exact happening_stopBackground wired
  | setInitial user => exact happening_setInitial
  | initialInfo type timeout => exact happening_initialInfo
  | getAssociations caller types => exact happening_associate
  | setAssociations caller types values timeout => exact happening_associate
  | event e => exact .returned (leads_onEvent ..)
  | addListener o => exact happening_onPublishedBus (.register o) trivial (by simp) fun _ => rfl
  | removeListener o =>
    refine happening_onPublishedBus (.unregister o) ?_ (by simp) fun _ => rfl
    cases o with
    | listener l => exact proper l rfl
    | missing | notComparable => trivial
  | addRemote uid handle =>
    exact happening_onPublishedBus (.registerRemote uid handle) trivial (by simp) fun _ => rfl
  | removeRemote uid =>
    exact happening_onPublishedBus (.unregisterRemote uid) trivial (by simp) fun _ => rfl
  | flush => exact happening_flushEvents

theorem happening_step (wired : s.sink = .service) (orderly : s.scene.Orderly) (a : Action)
    (proper : (Move.act a).Proper) : Happening s (.act a) (s.step a).scene := by
  cases a with
  | elapse t => exact .same rfl
  | perform ctx op => exact happening_perform wired ctx op proper
  | start parentDone => exact .steered (steering_request orderly rfl)
  | stop => exact .steered (steering_request orderly rfl)
  | parentEnded i =>
    dsimp only [step]
    split
    · next g _ => exact .steered (.orphaned g rfl)
    · exact .same rfl
  | contextEnded call f => exact happening_contextEnded
  | answered ask r f => exact happening_askEnded rfl
  | expired ask => exact happening_askEnded rfl
  | canceled ask => exact happening_askEnded rfl
  | commit i => exact happening_commit i
  | listenerReturned i crash => exact .of_leads (leads_listenerReturned s i crash)
  | handleTook i fault => exact .of_leads (leads_moveBus s i (.sent fault) trivial (by simp))
  | handleDied h => exact .behind (.single (.died s.scene emptyHand h))
  | pluginReady call fault => exact .steered (steering_pluginReady orderly call fault)
  | notice i => exact .of_leads (leads_notice s emptyHand i)
  | busStep i => exact .of_leads (leads_busStep s i)
  | deskWork i =>
    rw [step, deskWork?]
    rcases s.deskMove_cases i (q := .work s.view) fun _ => rfl with same | same
    · rw [same]
      exact .same rfl
    · rw [same, scene_onDesk]
      exact .worked rfl
  | deskStop i =>
    rw [step, deskStop?]
    rcases s.deskMove_cases i (q := .stop s.view) fun _ => rfl with same | same
    · rw [same]
      exact .same rfl
    · rw [same, scene_onDesk]
      exact .stopped rfl
  | launch i ticket =>
    have moved := scene_onDesk s i (.launch ticket)
    exact moved ▸ .launched rfl
  | deskMark i =>
    have moved := scene_onDesk s i .mark
    exact moved ▸ .marked rfl
  | record i => exact .of_leads (leads_record s i)
  | goOn id => exact happening_goOn orderly id
  | reap i => exact .steered (steering_reap orderly i)
  | settleWait late => exact .steered (steering_settleWait orderly late)
  | nextControl => exact .steered (steering_nextControl orderly)

/-- Every proper move is one of the happenings. -/
theorem happening_move (wired : s.sink = .service) (orderly : s.scene.Orderly) (proper : m.Proper) :
    Happening s m (s.move m).scene := by
  cases m with
  | act a => exact happening_step wired orderly a proper
  | intervene c =>
    exact .performed .numbered (leads_onSessions s.freshId.2 wired (.caller s.nextId) _) .pending
  | roster r => exact .same rfl
  | repository r => exact .same rfl
  | faults => exact .same rfl

end Complete

end HeadUnit.Service
