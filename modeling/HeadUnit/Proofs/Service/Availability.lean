import HeadUnit.Proofs.Service.Replies
import HeadUnit.Proofs.Service.Serving
import HeadUnit.Proofs.Service.Starting

/-!
# Available while running

Whenever no start or stop is under way, a run is published if and only if the service is running,
however starts failed and stops timed out before. So an operation that needs a run is dismissed
(`Dismissed`) while the service is not running, which changes nothing. It is accepted (`Accepted`)
while the service is running, as the workers of the published run take what is posted.

Main statement: `available_while_running`, which also says how starts fail, and that a crashed
service can be started again.
-/

/-! ## What a bus has left to say -/

namespace HeadUnit.Bus

variable {L H : Type}

/-- All that the bus has left to say is notes. -/
def IsHushed (b : Bus L H) : Prop := ∃ ns : List Note, b.out = ns.map .note

theorem IsHushed.note {b : Bus L H} (hushed : b.IsHushed) (n : Note) : (b.note n).IsHushed := by
  obtain ⟨ns, out⟩ := hushed
  exact ⟨ns ++ [n], by simp [Bus.note, emit, out]⟩

variable [DecidableEq L] [DecidableEq H] {b : Bus L H}

/-- Only the worker says more. -/
theorem IsHushed.move (hushed : b.IsHushed) {m : Move L H} (outer : m ≠ .work) :
    (b.move m).IsHushed := by
  have posted (c : Command L H) : ((b.post c).toOption.getD b).IsHushed := by
    unfold post
    split <;> exact hushed
  cases m with
  | work => exact absurd rfl outer
  | dispatch e =>
    simp only [Bus.move, dispatch]
    split
    · exact hushed.note _
    · exact hushed
  | register o | unregister o =>
    cases o with
    | listener l => exact posted _
    | missing | notComparable => exact hushed
  | registerRemote uid h =>
    cases h with
    | some h => exact posted _
    | none => exact hushed
  | unregisterRemote uid | report uid stamp => exact posted _
  | flush barrier =>
    simp only [Bus.move, flush]
    split <;> exact hushed
  | die h =>
    simp only [Bus.move, handleDied, postDeaths]
    split <;> exact hushed
  | withhold uid stamp | endContext => exact hushed
  | start =>
    simp only [Bus.move, start]
    split <;> exact hushed
  | wake closing =>
    simp only [Bus.move]
    split <;> exact hushed
  | returned crash =>
    obtain ⟨ns, out⟩ := hushed
    simp only [Bus.move, returned]
    split
    · cases crash with
      | none => exact ⟨ns, out⟩
      | some c => exact ⟨ns ++ [_, _], by simp [emit, out]; exact ⟨rfl, rfl⟩⟩
    · exact ⟨ns, out⟩
  | sent fault =>
    obtain ⟨ns, out⟩ := hushed
    simp only [Bus.move, sent]
    split
    · cases fault with
      | none => exact ⟨ns, out⟩
      | some f => exact ⟨ns ++ [_, _], by simp [emit, dropStamped, out]; exact ⟨rfl, rfl⟩⟩
    · exact ⟨ns, out⟩

end HeadUnit.Bus

namespace HeadUnit.Service

open HeadUnit.Service.System

theorem Run.Step.hushed {x y : Run × Hand} (step : Run.Step x y) (hushed : x.1.bus.IsHushed) :
    y.1.bus.IsHushed := by
  cases step with
  | bus r es m outer =>
    refine hushed.move ?_
    rintro rfl
    exact outer
  | worked | taken => exact ⟨[], rfl⟩
  | passed | called | desk | setting | found | reported => exact hushed

/-- Between moves, all that a bus has left to say is notes. -/
theorem IsRun.hushed {h : History} {s : System} (run : IsRun h s) {i : Nat} {r : Run}
    (here : s.runs[i]? = some r) : r.bus.IsHushed :=
  run.bus_of_steps ⟨[], rfl⟩ Run.Step.hushed here

/-! ## Dismissed -/

/-- What an operation that needs a run says where there is none, apart from notes; none if it
    needs no run. A switch that the vehicle starts is acknowledged, with the foreground user
    unchanged. -/
def Operation.dismissal? (s : System) : Operation → Option (List Effect)
  | .requestSwitch .. => some [.replied s.nextId notRunningResult, .returned s.nextId .nothing]
  | .switchUser .. => some [.returned s.nextId (.switch notRunningResult)]
  | .addListener _ | .removeListener _ | .addRemote .. | .removeRemote _ | .flush =>
    some [.returned s.nextId (.status (some .notRunning))]
  | .initiatedSwitch token target =>
    some [.notify (.postSwitch token s.sessions.current target s.directory),
      .returned s.nextId .nothing]
  | .event _ => some [.returned s.nextId .nothing]
  | _ => none

/-- All that comes of an operation is that it says `es`, and what it notes before. -/
structure Dismissed (s : System) (ctx : Context) (op : Operation) (es : List Effect) : Prop where
  said : ∃ ns : List Note,
    (Moment.mk s (.act (.perform ctx op))).effects = ns.map .note ++ es
  unchanged : (Moment.mk s (.act (.perform ctx op))).after =
    { s with
      nextId := s.nextId + 1
      metrics := (Moment.mk s (.act (.perform ctx op))).after.metrics }

namespace System

theorem foldl_emit (s : System) (es : List Effect) :
    es.foldl emit s = { s with out := s.out ++ es } := by
  induction es generalizing s with
  | nil => simp
  | cons e es ih =>
    rw [List.foldl_cons, ih]
    simp [emit]

end System

/-- An operation notes something and says something, and returns. -/
theorem IsRun.dismissed_of_eq {h : History} {s : System} (run : IsRun h s) {ctx : Context}
    {op : Operation} (ns : List Note) (es : List Effect) {r : Result}
    (is : s.freshId.2.perform s.nextId ctx op =
      (es.foldl emit (s.freshId.2.notes ns)).finish s.nextId r) :
    Dismissed s ctx op (es ++ [.returned s.nextId r]) := by
  have out := run.out_eq_nil
  -- Nobody has the number of the new call.
  have calls : s.calls.filter (·.id != s.nextId) = s.calls := by
    refine List.filter_eq_self.2 fun c mem => ?_
    have given := run.orderly.numbered.given c.id (List.mem_append_left _ (List.mem_map_of_mem mem))
    exact bne_iff_ne.2 (Nat.ne_of_lt given)
  have made : s.move (.act (.perform ctx op)) =
      { s with
        nextId := s.nextId + 1
        metrics := (s.freshId.2.notes ns).metrics
        out := ns.map .note ++ (es ++ [.returned s.nextId r]) } := by
    refine Eq.trans is ?_
    rw [foldl_emit, notes_eq]
    simp [finish, emit, freshId, calls, out]
  refine ⟨⟨ns, congrArg System.out made⟩, ?_⟩
  rw [Moment.after, made]
  simp [take, out]

/-- Where no run is published, an operation that needs one is dismissed. -/
theorem IsRun.dismissed {h : History} {s : System} (run : IsRun h s) (none : s.published = none)
    (ctx : Context) {op : Operation} {es : List Effect} (needs : op.dismissal? s = some es) :
    Dismissed s ctx op es := by
  have none' : s.freshId.2.published = .none := none
  cases op with
  | requestSwitch target timeout =>
    cases needs
    refine run.dismissed_of_eq [] [_] ?_
    simp only [perform, requestSwitch, none']
    rfl
  | switchUser target timeout =>
    cases needs
    refine run.dismissed_of_eq [] [] ?_
    simp only [perform, switchUser, none']
    rfl
  | addListener | removeListener | addRemote | removeRemote =>
    cases needs
    refine run.dismissed_of_eq [] [] ?_
    simp only [perform, onPublishedBus, none']
    rfl
  | flush =>
    cases needs
    refine run.dismissed_of_eq [] [] ?_
    simp only [perform, flushEvents, none']
    rfl
  | initiatedSwitch token target =>
    cases needs
    refine run.dismissed_of_eq [Note.warn "coordinator switch dropped, service not running"
      [Log.int "target" target, Log.str "token" token.text]] [_] ?_
    simp only [perform, initiatedSwitch, none']
    rfl
  | event e =>
    cases needs
    refine run.dismissed_of_eq [Note.debug "lifecycle event dropped, service not running"
      [Log.str "event" e.text]] [] ?_
    simp only [perform, onEvent, none']
    rfl
  | _ => cases needs

/-! ## Accepted -/

/-- The operation does not say that the service is not running, and what it posts arrives at the
    run `r`, the `i`-th. -/
structure Accepted (s : System) (ctx : Context) (op : Operation) (es : List Effect) (i : Nat)
    (r : Run) : Prop where
  unsaid : ∀ e ∈ es, (∀ id, e ≠ .returned id .nothing) →
    e ∉ (Moment.mk s (.act (.perform ctx op))).effects
  event : ∀ e, op = .event e →
    ∃ r', (Moment.mk s (.act (.perform ctx op))).after.runs[i]? = some r' ∧
      r'.bus.queue = r.bus.queue ++ [.event e]
  initiated : ∀ token target, op = .initiatedSwitch token target →
    ∃ r', (Moment.mk s (.act (.perform ctx op))).after.runs[i]? = some r' ∧
      .initiated token target ∈ r'.desk.pending

/-! ### Buses -/

section

variable {t : System} {i : Nat} {r : Run}

/-- A bus that has only notes to say says them. -/
theorem flushBus_of_hushed (here : t.runs[i]? = some r) {ns : List Note}
    (out : r.bus.out = ns.map .note) :
    t.flushBus i = (t.onBus i fun _ => { r.bus with out := [] }).notes ns := by
  simp only [flushBus, here, Bus.take, out, List.foldl_map]
  rfl

/-- The bus does what is asked for, and says nothing more; or the fault is another than that the
    service is not running. -/
def Obeys (b : Bus Listener Nat) : Except Fault (Bus Listener Nat) → Prop
  | .ok b' => b'.out = b.out
  | .error f => f ≠ .notRunning

theorem obeys_post {b : Bus Listener Nat} (isOpen : b.closed = false)
    (c : Bus.Command Listener Nat) : Obeys b (b.post c) := by
  rw [Bus.post, if_neg (by simp [isOpen])]
  rfl

/-- An offer that is no listener is refused as such. -/
theorem obeys_offer {b : Bus Listener Nat} (isOpen : b.closed = false) (o : Bus.Offer Listener)
    (c : Listener → Bus.Command Listener Nat) : Obeys b (do b.post (c (← o.check))) := by
  cases o with
  | missing | notComparable => simp [Bus.Offer.check, Bind.bind, Except.bind, Obeys]
  | listener l => exact obeys_post isOpen (c l)

/-- A bus that obeys does not say that the service is not running. -/
theorem mem_out_tryBus (here : t.runs[i]? = some r) (hushed : r.bus.IsHushed) (quiet : t.out = [])
    {f : Bus Listener Nat → Except Fault (Bus Listener Nat)} (obeys : Obeys r.bus (f r.bus)) :
    (t.tryBus i f).2 ≠ some .notRunning ∧ ∀ e ∈ (t.tryBus i f).1.out, ∃ n, e = .note n := by
  unfold tryBus
  rw [here]
  dsimp only
  cases is : f r.bus with
  | error e =>
    rw [is] at obeys
    refine ⟨fun same => obeys (Option.some.inj same), fun e mem => ?_⟩
    rw [quiet] at mem
    exact absurd mem List.not_mem_nil
  | ok b =>
    rw [is] at obeys
    obtain ⟨ns, out⟩ := hushed
    have there : (t.onBus i fun _ => b).runs[i]? = some { r with bus := b } := by
      simp [onBus, onRun, here]
    refine ⟨by simp, fun e mem => ?_⟩
    dsimp only at mem
    rw [flushBus_of_hushed there (Eq.trans obeys out), notes_eq] at mem
    rcases List.mem_append.1 mem with old | new
    · exact absurd (quiet ▸ old) List.not_mem_nil
    · obtain ⟨n, _, rfl⟩ := List.mem_map.1 new
      exact ⟨n, rfl⟩

end

namespace IsRun

variable {h : History} {s : System} {i : Nat} {r : Run}

theorem unsaid_onPublishedBus (run : IsRun h s) (published : s.published = some i)
    (here : s.runs[i]? = some r) {f : Bus Listener Nat → Except Fault (Bus Listener Nat)}
    (obeys : Obeys r.bus (f r.bus)) : .returned s.nextId (.status (some .notRunning)) ∉
      (s.freshId.2.onPublishedBus s.nextId f).out := by
  obtain ⟨other, notes⟩ :=
    mem_out_tryBus (t := s.freshId.2) here (run.hushed here) run.out_eq_nil obeys
  intro mem
  simp only [onPublishedBus, show s.freshId.2.published = some i from published] at mem
  rcases List.mem_append.1 mem with old | new
  · obtain ⟨n, is⟩ := notes _ old
    cases is
  · exact other (by simpa using (List.mem_singleton.1 new).symm)

theorem unsaid_flush (run : IsRun h s) (published : s.published = some i)
    (here : s.runs[i]? = some r) (isOpen : r.IsOpen) {ctx : Context}
    (other : ctx.gone ≠ some .notRunning) : .returned s.nextId (.status (some .notRunning)) ∉
      (s.freshId.2.flushEvents s.nextId ctx).out := by
  have obeys : Obeys r.bus (r.bus.flush s.nextId) := by
    rw [Bus.flush, if_neg (by simp [isOpen.bus])]
    rfl
  obtain ⟨posted, notes⟩ := mem_out_tryBus (t := s.freshId.2.await s.nextId ctx.deadline .flushing)
    (f := (·.flush s.nextId)) here (run.hushed here) run.out_eq_nil obeys
  intro mem
  simp only [flushEvents, show s.freshId.2.published = some i from published] at mem
  split at mem
  · next f is =>
    rcases List.mem_append.1 mem with old | new
    · obtain ⟨n, is⟩ := notes _ old
      cases is
    · rw [is] at posted
      exact posted (by simpa using (List.mem_singleton.1 new).symm)
  · next f is gone =>
    rcases List.mem_append.1 mem with old | new
    · obtain ⟨n, is⟩ := notes _ old
      cases is
    · rw [gone] at other
      exact other (by simpa using (List.mem_singleton.1 new).symm)
  · obtain ⟨n, is⟩ := notes _ mem
    cases is

/-- An event is queued at the published bus. -/
theorem queued_event (run : IsRun h s) (published : s.published = some i)
    (here : s.runs[i]? = some r) (isOpen : r.IsOpen) (e : Event) :
    ∃ r', (s.freshId.2.onEvent e).runs[i]? = some r' ∧
      r'.bus.queue = r.bus.queue ++ [.event e] := by
  obtain ⟨ns, out⟩ := run.hushed here
  have dispatched : r.bus.dispatch e = { r.bus with queue := r.bus.queue ++ [.event e] } := by
    rw [Bus.dispatch, if_neg (by simp [isOpen.bus])]
  have there : (s.freshId.2.onBus i (·.dispatch e)).runs[i]? =
      some { r with bus := r.bus.dispatch e } := by
    simp [onBus, onRun, freshId, here]
  simp only [onEvent, show s.freshId.2.published = some i from published]
  rw [flushBus_of_hushed there ((congrArg Bus.out dispatched).trans out), notes_eq, dispatched]
  refine ⟨{ r with bus := { r.bus with queue := r.bus.queue ++ [.event e], out := [] } }, ?_, rfl⟩
  simp [onBus, onRun, freshId, here]

end IsRun

/-! ### Desks -/

/-- An open desk turns no request down for the operating system. -/
theorem status_of_request {d : Switching.Desk} (silent : d.out = []) (isOpen : d.closed = false)
    {v : Switching.View} {p : Switching.Poster} {k : Switching.Ticket} {target : UserId}
    {timeout : Duration} {a : Switching.Ticket × SwitchResult}
    (mem : a ∈ (d.request v p k target timeout).out.filterMap (·.result?)) :
    a.2.status ≠ .osFailure := by
  rw [← Switching.filterMap_loud Switching.result?_of_quiet] at mem
  change a ∈ (d.request v p k target timeout).standing.said.filterMap (·.result?) at mem
  have nothing : d.standing.said = [] := by simp [Switching.Desk.standing, silent]
  have change := Switching.change_request d v p k target timeout
  generalize (d.request v p k target timeout).standing = s at change mem
  cases change with
  | rejected down =>
    obtain rfl := List.mem_singleton.1 (by
      simpa [Switching.Standing.say, nothing, Switching.Effect.result?] using mem)
    rcases down with is | is | is <;> simp [is]
  | direct free =>
    rw [Switching.Standing.post, if_neg (by simp [isOpen])] at mem
    simp [nothing] at mem
  | installed =>
    simp [nothing, Switching.Effect.result?] at mem
  | closed _ _ down => rcases down with e | e <;> cases e
  | adjusted other => cases other

theorem Scene.answers_moveDesk {x : Scene} {i : Nat} {r : Run} (here : x.runs[i]? = some r)
    (q : Switching.Move) : (x.moveDesk i q).answers =
      x.answers ++ (r.desk.move q).out.filterMap (·.result?) := by
  rw [moveDesk, here]
  exact answers_foldl_hear ..

/-- A switch that the vehicle starts is handed to the worker of an open desk, and nobody is told. -/
theorem initiated_of_open {t : System} {i : Nat} {r : Run} (here : t.runs[i]? = some r)
    (quiet : t.out = []) (silent : r.desk.out = []) (isOpen : r.desk.closed = false)
    (v : Switching.View) (id : Nat) (token : Token) (target : UserId) :
    (∀ n, .notify n ∉ (t.onDesk i (·.initiate v (.caller id) token target)).out) ∧
      ∃ r', (t.onDesk i (·.initiate v (.caller id) token target)).runs[i]? = some r' ∧
        .initiated token target ∈ r'.desk.pending := by
  let d := r.desk.initiate v (.caller id) token target
  have posted : d.standing = r.desk.standing.post v [.initiated token target] :=
    Switching.Desk.standing_post ..
  have pending : .initiated token target ∈ d.take.2.pending := by
    have held := congrArg Switching.Standing.pending posted
    rw [Switching.Standing.post, if_neg (by simp [isOpen])] at held
    have mem : Switching.Command.initiated token target ∈ d.standing.pending := by
      rw [held]
      exact Multiset.mem_add.2 (.inr (List.mem_singleton_self _))
    exact Multiset.mem_coe.1 mem
  have put : (t.onRun i fun r => { r with desk := d.take.2 }).runs[i]? =
      some { r with desk := d.take.2 } := by
    simp [onRun, here]
  -- All that the desk asks for is that the caller may go on.
  have said : d.out = [] ∨ d.out = [.admitted (.caller id)] := by
    simp only [d, Switching.Desk.initiate, Switching.Desk.post, isOpen, Bool.false_eq_true,
      if_false]
    split
    · exact .inr (by simp [Switching.Desk.emit, silent])
    · exact .inl silent
  have made : t.onDesk i (·.initiate v (.caller id) token target) =
      d.out.foldl (fromDesk i) (t.onRun i fun r => { r with desk := d.take.2 }) := by
    simp only [onDesk, here]
    rfl
  rw [made]
  rcases said with none | one
  · rw [none, List.foldl_nil]
    exact ⟨fun n mem => absurd (quiet ▸ mem) List.not_mem_nil, _, put, pending⟩
  · rw [one, List.foldl_cons, List.foldl_nil]
    dsimp only [fromDesk]
    split
    · refine ⟨fun n mem => ?_, _, put, pending⟩
      rcases List.mem_append.1 mem with old | new
      · exact absurd (quiet ▸ old) List.not_mem_nil
      · cases List.mem_singleton.1 new
    · exact ⟨fun n mem => absurd (quiet ▸ mem) List.not_mem_nil, _, put, pending⟩

namespace IsRun

variable {h : History} {s : System} {i : Nat} {r : Run}

theorem silent_desk (run : IsRun h s) (here : s.runs[i]? = some r) : r.desk.out = [] :=
  (run.serves here).out_eq_nil

/-- A request for a switch is not answered that the service is not running. -/
theorem unanswered (run : IsRun h s) (here : s.runs[i]? = some r) (isOpen : r.IsOpen) {t : System}
    (runs : t.runs = s.runs) (quiet : t.out = s.out) {v : Switching.View} {p : Switching.Poster}
    {k : Switching.Ticket} {target : UserId} {timeout : Duration}
    {a : Switching.Ticket × SwitchResult}
    (mem : a ∈ (t.onDesk i (·.request v p k target timeout)).scene.answers) :
    a.2 ≠ notRunningResult := by
  have here' : t.scene.runs[i]? = some r := (congrArg (·[i]?) runs).trans here
  have none : t.scene.said = [] := by
    simp only [scene, quiet, run.out_eq_nil, List.filter_nil]
  have moved := scene_onDesk t i (.request v p k target timeout)
  rw [show (t.onDesk i (·.request v p k target timeout)).scene = _ from moved,
    Scene.answers_moveDesk here', Scene.answers, none] at mem
  intro same
  exact status_of_request (run.silent_desk here) isOpen.desk mem (by rw [same]; rfl)

theorem unsaid_requestSwitch (run : IsRun h s) (published : s.published = some i)
    (here : s.runs[i]? = some r) (isOpen : r.IsOpen) (target : UserId) (timeout : Duration) :
    .replied s.nextId notRunningResult ∉
      (s.freshId.2.requestSwitch s.nextId target timeout).out := by
  intro mem
  have answer : (s.nextId, notRunningResult) ∈
      (s.freshId.2.requestSwitch s.nextId target timeout).scene.answers :=
    List.mem_filterMap.2 ⟨_, List.mem_filter.2 ⟨mem, rfl⟩, rfl⟩
  simp only [requestSwitch, show s.freshId.2.published = some i from published] at answer
  exact run.unanswered (t := s.freshId.2.await s.nextId none .posting) here isOpen rfl rfl answer
    rfl

theorem unsaid_switchUser (run : IsRun h s) (published : s.published = some i)
    (here : s.runs[i]? = some r) (isOpen : r.IsOpen) (ctx : Context) (target : UserId)
    (timeout : Duration) : .returned s.nextId (.switch notRunningResult) ∉
      (s.freshId.2.switchUser s.nextId ctx target timeout).out := by
  intro mem
  have answer : (s.nextId, notRunningResult) ∈
      (s.freshId.2.switchUser s.nextId ctx target timeout).scene.answers :=
    List.mem_filterMap.2 ⟨_, List.mem_filter.2 ⟨mem, rfl⟩, rfl⟩
  let t := s.freshId.2.await s.nextId ctx.deadline .switching
  have desk {a : Switching.Ticket × SwitchResult}
      (mem : a ∈ (t.onDesk i (·.request s.freshId.2.view (.caller s.nextId) s.nextId target
        timeout)).scene.answers) : a.2 ≠ notRunningResult :=
    run.unanswered here isOpen (t := t) rfl rfl mem
  simp only [switchUser, show s.freshId.2.published = some i from published] at answer
  split at answer
  · -- A caller whose context has ended is told so.
    unfold leaveSwitch at answer
    split at answer
    · rw [scene_finish, Scene.answers_finish] at answer
      rcases List.mem_append.1 answer with old | new
      · exact desk old rfl
      · simp [Effect.answer?, notRunningResult] at new
    · exact desk answer rfl
  · exact desk answer rfl

/-- An operation that needs a run is accepted by the published one. -/
theorem accepted (run : IsRun h s) (published : s.published = some i) (here : s.runs[i]? = some r)
    (isOpen : r.IsOpen) {ctx : Context} (other : ctx.gone ≠ some .notRunning) {op : Operation}
    {es : List Effect} (needs : op.dismissal? s = some es) : Accepted s ctx op es i r := by
  -- One thing is not said; that the call returns may be.
  have unsaid {e : Effect} (not : e ∉ (Moment.mk s (.act (.perform ctx op))).effects) :
      ∀ e' ∈ [e, .returned s.nextId .nothing], (∀ id, e' ≠ .returned id .nothing) →
        e' ∉ (Moment.mk s (.act (.perform ctx op))).effects := by
    intro e' mem some
    rcases List.mem_cons.1 mem with rfl | last
    · exact not
    · exact absurd (List.mem_singleton.1 last) (some _)
  have alone {e : Effect} (not : e ∉ (Moment.mk s (.act (.perform ctx op))).effects) :
      ∀ e' ∈ [e], (∀ id, e' ≠ .returned id .nothing) →
        e' ∉ (Moment.mk s (.act (.perform ctx op))).effects :=
    fun e' mem => unsaid not e' (List.mem_append_left _ mem)
  cases op with
  | requestSwitch target timeout =>
    cases needs
    exact ⟨unsaid (run.unsaid_requestSwitch published here isOpen target timeout), by simp, by simp⟩
  | switchUser target timeout =>
    cases needs
    exact ⟨alone (run.unsaid_switchUser published here isOpen ctx target timeout), by simp, by simp⟩
  | addListener o =>
    cases needs
    have obeys := obeys_offer isOpen.bus o .addLocal
    exact ⟨alone (run.unsaid_onPublishedBus published here obeys), by simp, by simp⟩
  | removeListener o =>
    cases needs
    have obeys := obeys_offer isOpen.bus o .removeLocal
    exact ⟨alone (run.unsaid_onPublishedBus published here obeys), by simp, by simp⟩
  | addRemote uid handle =>
    cases needs
    have obeys : Obeys r.bus (r.bus.registerRemote uid handle) := by
      cases handle with
      | none => simp [Bus.registerRemote, Obeys]
      | some k => exact obeys_post isOpen.bus _
    exact ⟨alone (run.unsaid_onPublishedBus published here obeys), by simp, by simp⟩
  | removeRemote uid =>
    cases needs
    have obeys := obeys_post isOpen.bus (.removeRemote uid)
    exact ⟨alone (run.unsaid_onPublishedBus published here obeys), by simp, by simp⟩
  | flush =>
    cases needs
    exact ⟨alone (run.unsaid_flush published here isOpen other), by simp, by simp⟩
  | initiatedSwitch token target =>
    cases needs
    have handed := initiated_of_open (t := s.freshId.2.await s.nextId none .posting) here
      run.out_eq_nil (run.silent_desk here) isOpen.desk s.freshId.2.view s.nextId token target
    have made : s.move (.act (.perform ctx (.initiatedSwitch token target))) =
        (s.freshId.2.await s.nextId none .posting).onDesk i
          (·.initiate s.freshId.2.view (.caller s.nextId) token target) := by
      show s.freshId.2.initiatedSwitch s.nextId token target = _
      simp only [initiatedSwitch, show s.freshId.2.published = some i from published]
    refine ⟨unsaid fun mem => ?_, by simp, fun token' target' same => ?_⟩
    · rw [Moment.effects, made] at mem
      exact handed.1 _ mem
    · cases same
      obtain ⟨r', there, mem⟩ := handed.2
      exact ⟨r', (congrArg (·.runs[i]?) made).trans there, mem⟩
  | event e =>
    cases needs
    refine ⟨fun e' mem other => ?_, fun e' same => ?_, by simp⟩
    · exact absurd (List.mem_singleton.1 mem) (other _)
    cases same
    exact run.queued_event published here isOpen e
  | _ => cases needs

end IsRun

/-! ## Main statement -/

/-- While no start or stop is under way, a run is published if and only if the service is running.
    So operations that need a run are dismissed while it is not, and accepted while it is. A start
    that returns a fault, unless the service was already running, leaves it crashed; a crashed
    service that finds a state it can restore can be started again. The contexts of starts stay
    live; plugins may fail to get ready, and stops may time out. -/
theorem available_while_running {h : History} {s : System} (run : IsRun h s)
    (live : ∀ n ∈ h, n.move.isLive = true) :
    (s.busy = false →
      (s.published.isSome = true ↔ s.manager.phase = .running) ∧
      (s.manager.phase ≠ .running → s.inFlight = none ∧
        ∀ ctx op es, op.dismissal? s = some es → Dismissed s ctx op es) ∧
      (s.manager.phase = .running → ∃ i r, s.published = some i ∧ s.runs[i]? = some r ∧
        s.inFlight = r.desk.tx ∧ ∀ ctx op es, ctx.gone ≠ some .notRunning →
          op.dismissal? s = some es → Accepted s ctx op es i r)) ∧
    (∀ m, m.Proper → ∀ n ∈ h ++ [⟨s, m⟩], ∀ parentDone f, n.move = .act (.start parentDone) →
      .returned n.before.nextId (.status (some f)) ∈ (Moment.mk s m).effects → f ≠ .alreadyRunning →
      (Moment.mk s m).after.manager.phase = .crashed ∧ (Moment.mk s m).after.published = none) ∧
    (s.busy = false → s.manager.phase = .crashed → (s.registry.restore s.saved).broken = false →
      let t := played h s ((startUp s.nextId).map .act ++
        List.replicate s.plugins.length (.act (.pluginReady s.nextId none)))
      t.2.busy = false ∧ t.2.manager.phase = .running ∧
        ∃ n ∈ t.1, .returned s.nextId (.status none) ∈ n.effects) := by
  refine ⟨fun free => ?_, fun m proper n mem parentDone f asked returned other => ?_,
    fun free crashed whole => run.restarted live free crashed whole⟩
  · obtain ⟨_, _, _, ⟨running, n, _, published⟩ | ⟨other, none⟩⟩ := run.orderly.rest free
    · have published' : s.published = some n := published
      obtain ⟨r, here, isOpen⟩ := run.serving live published'
      refine ⟨?_, fun not => absurd running not, fun _ => ⟨n, r, published', here, ?_, ?_⟩⟩
      · exact ⟨fun _ => running, fun _ => Option.isSome_of_eq_some published'⟩
      · simp [inFlight, run?, published', here]
      · exact fun ctx op es gone needs => run.accepted published' here isOpen gone needs
    · have none' : s.published = .none := none
      refine ⟨?_, fun _ => ⟨?_, ?_⟩, fun is => absurd is other⟩
      · exact ⟨fun some => by simp [none'] at some, fun is => absurd is other⟩
      · simp [inFlight, run?, none']
      · exact fun ctx op es needs => run.dismissed none' ctx needs
  · exact run.crashed_of_fault proper mem asked returned other

/-! ### A start that fails, and a stop that times out -/

namespace Outage

/-- There is a plugin. -/
def world : Surroundings := { plugins := [⟨"p", none⟩] }

/-- The plugin fails, and the workers return. -/
def failing : List Action :=
  startUp 1 ++ [.pluginReady 1 (some (.told "boom")), .notice 0, .busStep 0, .busStep 0,
    .busStep 0, .deskStop 0, .reap 0, .reap 0]

/-- The start ends, and the next one does not fail. -/
def running : List Action :=
  failing ++ [.settleWait true] ++ startUp 2 ++ [.pluginReady 2 none]

/-- The stop after it times out. -/
def crashing : List Action :=
  running ++ [.stop, .elapse 1000000000000, .settleWait true, .goOn 3, .goOn 3]

def failed : History × System := acted world failing

def served : History × System := acted world running

def crashed : History × System := acted world crashing

theorem isRun_failed : IsRun failed.1 failed.2 := isRun_acted world (by decide)

theorem isRun_served : IsRun served.1 served.2 := isRun_acted world (by decide)

theorem isRun_crashed : IsRun crashed.1 crashed.2 := isRun_acted world (by decide)

theorem told : .returned 1 (.status (some (.told "boom"))) ∈
    (Moment.mk failed.2 (.act (.settleWait true))).effects := List.mem_of_getElem? (i := 2) rfl

end Outage

open Outage in
/-- The start fails and leaves the service crashed; the next one lets it run, and listeners can
    be added; after a stop that timed out a switch is dismissed, and a third start lets it run
    again. -/
theorem available_of_outage :
    (Moment.mk failed.2 (.act (.settleWait true))).after.manager.phase = .crashed ∧
    (served.2.published.isSome = true ∧ ∃ i r, served.2.published = some i ∧
      Accepted served.2 {} (.addListener (.listener (.outside 7)))
        [.returned served.2.nextId (.status (some .notRunning))] i r) ∧
    (crashed.2.manager.phase = .crashed ∧ crashed.2.inFlight = none ∧
      Dismissed crashed.2 {} (.switchUser 10 0)
        [.returned crashed.2.nextId (.switch notRunningResult)]) ∧
    (played crashed.1 crashed.2 ((startUp 4).map .act ++ [.act (.pluginReady 4 none)])).2.manager.phase
      = .running := by
  have live : ∀ n ∈ crashed.1, n.move.isLive = true := by decide +kernel
  have rests : crashed.2.busy = false ∧ crashed.2.manager.phase = .crashed ∧
      (crashed.2.registry.restore crashed.2.saved).broken = false := by decide +kernel
  obtain ⟨rest, -, again⟩ := available_while_running isRun_crashed live
  obtain ⟨-, dismissed, -⟩ := rest rests.1
  obtain ⟨none, dismissed⟩ := dismissed (by rw [rests.2.1]; decide)
  have live' : ∀ n ∈ served.1, n.move.isLive = true := by decide +kernel
  have serves : served.2.busy = false ∧ served.2.manager.phase = .running := by decide +kernel
  obtain ⟨published, -, accepted⟩ := (available_while_running isRun_served live').1 serves.1
  obtain ⟨i, r, is, -, -, accepts⟩ := accepted serves.2
  have live'' : ∀ n ∈ failed.1, n.move.isLive = true := by decide +kernel
  have first : Moment.mk ((System.fresh Config.default).within world) (.act (.start false)) ∈
      failed.1 ++ [⟨failed.2, .act (.settleWait true)⟩] := List.mem_of_getElem? (i := 0) rfl
  have fails := (available_while_running isRun_failed live'').2.1 (.act (.settleWait true))
    (Move.proper_of_offered rfl) _ first false _ rfl told (by decide)
  refine ⟨fails.1, ⟨published.2 serves.2, i, r, is, ?_⟩, ⟨rests.2.1, none, ?_⟩, ?_⟩
  · exact accepts {} _ _ (by decide) rfl
  · exact dismissed {} _ _ rfl
  · have next : crashed.2.nextId = 4 ∧ crashed.2.plugins.length = 1 := by decide +kernel
    have up := (again rests.1 rests.2.1 rests.2.2).2.1
    rw [next.1, next.2] at up
    exact up

end HeadUnit.Service
