import HeadUnit.Proofs.Service.Order
import HeadUnit.Proofs.Switching.Line
import HeadUnit.Proofs.Switching.Trim

/-!
# Runs that serve

The workers of a run do not shut by themselves: unless the context of the run has ended, its bus
and its desk take whatever is posted (`Scene.Attends`). While the contexts that starts are given
stay live (`Move.isLive`), the context of a run that gets its listeners or is published has not
ended (`Scene.IsLit`), as whatever cancels it withdraws the run first. So a published run serves
(`IsRun.serving`).
-/

namespace HeadUnit.Service

open HeadUnit.Service.System
open Switching (Desk)

/-! ## Workers that take what is posted -/

/-- The workers of a run take what is posted: neither has learnt that its context has ended, and
    neither is shut. -/
structure Run.IsOpen (r : Run) : Prop where
  busContext : r.bus.contextDone = false
  bus : r.bus.closed = false
  deskContext : r.desk.contextDone = false
  desk : r.desk.closed = false

namespace Run

variable {r : Run}

theorem IsOpen.moveBus (isOpen : r.IsOpen) {m : Bus.Move Listener Nat} (live : m ≠ .endContext) :
    ({ r with bus := r.bus.move m } : Run).IsOpen :=
  have ⟨context, stays⟩ := Bus.open_move isOpen.busContext isOpen.bus live
  ⟨context, stays, isOpen.deskContext, isOpen.desk⟩

theorem IsOpen.moveDesk (isOpen : r.IsOpen) {q : Switching.Move} (live : q ≠ .endContext)
    (unclosed : ∀ v, q ≠ .close v) : ({ r with desk := r.desk.move q } : Run).IsOpen := by
  have context := (r.desk.contextDone_move live).trans isOpen.deskContext
  refine ⟨isOpen.busContext, isOpen.bus, context, ?_⟩
  rcases r.desk.closed_move q with same | ⟨_, ended | ⟨v, closes⟩⟩
  · exact same.trans isOpen.desk
  · exact nomatch ended.symm.trans isOpen.deskContext
  · exact absurd closes (unclosed v)

/-- A run as it is made is open. -/
theorem IsNew.isOpen {group : Option Nat} (new : r.IsNew group) : r.IsOpen := by
  obtain ⟨timeout, headless, desk⟩ := new.desk
  exact ⟨by rw [new.bus]; rfl, by rw [new.bus]; rfl, by rw [desk]; rfl, by rw [desk]; rfl⟩

end Run

/-- Unless its context has ended, a run is open. -/
def Scene.Attends (x : Scene) : Prop := ∀ r ∈ x.runs, x.contextDone r = false → r.IsOpen

namespace Scene.Attends

variable {x y : Scene}

/-- Each run is open if it was before. -/
theorem of_each (attends : x.Attends) (manager : y.manager = x.manager)
    (each : ∀ r' ∈ y.runs, ∃ r ∈ x.runs, r'.group = r.group ∧
      (x.contextDone r = false → r.IsOpen → r'.IsOpen)) : y.Attends := by
  intro r' mem live
  obtain ⟨r, before, group, stays⟩ := each r' mem
  have live' : x.contextDone r = false := by
    rwa [contextDone, group, manager] at live
  exact stays live' (attends r before live')

/-- Contexts may end, but the runs are the same. -/
theorem of_done (attends : x.Attends) (runs : y.runs = x.runs)
    (more : ∀ g, x.manager.contextDone g = true → y.manager.contextDone g = true) : y.Attends := by
  intro r mem live
  refine attends r (runs ▸ mem) ?_
  -- A context that had ended before would have ended still.
  cases done : x.contextDone r with
  | false => rfl
  | true =>
    unfold contextDone at done live
    cases group : r.group with
    | none => simp [group] at done
    | some g =>
      rw [group] at done live
      exact nomatch (more g done).symm.trans live

theorem of_same (attends : x.Attends) (runs : y.runs = x.runs) (manager : y.manager = x.manager) :
    y.Attends := attends.of_done runs fun _ done => manager ▸ done

/-! ### Workers -/

theorem onRun (attends : x.Attends) (i : Nat) {f : Run → Run} (group : ∀ r, (f r).group = r.group)
    (stays : ∀ r, x.runs[i]? = some r → x.contextDone r = false → r.IsOpen → (f r).IsOpen) :
    (x.onRun i f).Attends := by
  refine attends.of_each rfl fun r' mem => ?_
  obtain ⟨j, there⟩ := List.mem_iff_getElem?.1 mem
  obtain ⟨r, here, rfl⟩ := origin_modify there
  refine ⟨r, List.mem_of_getElem? here, ?_⟩
  split
  · next own =>
    subst own
    exact ⟨group r, stays r here⟩
  · exact ⟨rfl, fun _ isOpen => isOpen⟩

theorem onBus (attends : x.Attends) (i : Nat) {m : Bus.Move Listener Nat} (live : m ≠ .endContext) :
    (x.onBus i (·.move m)).Attends :=
  attends.onRun i (fun _ => by rfl) fun _ _ _ isOpen => isOpen.moveBus live

theorem of_hears {i : Nat} {e : Switching.Effect} (hears : x.Hears i e y) (attends : x.Attends) :
    y.Attends := by
  cases hears with
  | noted n => cases n <;> exact attends.of_same rfl rfl
  | turned => exact attends.onBus i (m := .returned none) (by simp)
  | _ => exact attends.of_same rfl rfl

theorem moveDesk (attends : x.Attends) (i : Nat) {q : Switching.Move} (live : q ≠ .endContext)
    (unclosed : ∀ v, q ≠ .close v) : (x.moveDesk i q).Attends := by
  unfold Scene.moveDesk
  split
  · exact attends
  · next r here =>
    refine List.foldlRecOn _ _ (attends.onRun i (fun _ => by rfl) fun r' here' _ isOpen => ?_)
      fun y attends e _ => of_hears (y.hears i e) attends
    obtain rfl := Option.some.inj (here.symm.trans here')
    have moved := isOpen.moveDesk live unclosed
    exact ⟨moved.busContext, moved.bus, moved.deskContext, moved.desk⟩

end Scene.Attends

/-! ### Steps -/

theorem Scene.Step.attends {x y : Scene × (Nat → Hand)} (step : Step x y) (attends : x.1.Attends) :
    y.1.Attends := by
  -- The context of a run has not ended where it is not due.
  have early {x : Scene} {i : Nat} {r : Run} (here : x.runs[i]? = some r)
      (live : x.contextDone r = false) : ¬x.IsOver i := by
    rintro ⟨r', here', done⟩
    obtain rfl := Option.some.inj (here.symm.trans here')
    exact nomatch done.symm.trans live
  cases step with
  | asked | answered | told | ended => exact attends.of_same rfl rfl
  | bus x hand i m outer due =>
    refine attends.onRun i (fun _ => by rfl) fun r here live isOpen => ?_
    exact isOpen.moveBus fun ends => early here live (due ends)
  | died x hand h =>
    refine attends.of_each rfl fun r' mem => ?_
    obtain ⟨r, before, rfl⟩ := List.mem_map.1 mem
    exact ⟨r, before, rfl, fun _ isOpen => isOpen.moveBus (m := .die h) (by simp)⟩
  | worked x i r here =>
    refine attends.onRun i (fun _ => by rfl) fun r' here' _ isOpen => ?_
    obtain rfl := Option.some.inj (here.symm.trans here')
    have moved := isOpen.moveBus (m := .work) (by simp)
    exact ⟨moved.busContext, moved.bus, moved.deskContext, moved.desk⟩
  | taken x i r here =>
    refine attends.onRun i (fun _ => by rfl) fun r' here' _ isOpen => ?_
    obtain rfl := Option.some.inj (here.symm.trans here')
    exact ⟨isOpen.busContext, isOpen.bus, isOpen.deskContext, isOpen.desk⟩
  | noted x i n es => cases n <;> exact attends.of_same rfl rfl
  | passed => exact attends
  | called x i v event es => exact attends.moveDesk i (by simp) (by simp)
  | found x hand i u =>
    refine attends.onRun i (fun _ => by rfl) fun r _ _ isOpen => ?_
    exact ⟨isOpen.busContext, isOpen.bus, isOpen.deskContext, isOpen.desk⟩
  | setting x hand i q setting due =>
    refine attends.onRun i (fun _ => by rfl) fun r here live isOpen => ?_
    refine isOpen.moveDesk (fun ends => early here live (due ends)) fun v closes => ?_
    rw [closes] at setting
    exact setting

theorem Scene.Steps.attends {x y : Scene × (Nat → Hand)} (steps : Steps x y)
    (attends : x.1.Attends) : y.1.Attends := by
  induction steps with
  | refl => exact attends
  | tail _ step ih => exact step.attends ih

theorem Scene.Aside.attends {x y : Scene} (aside : x.Aside y) (attends : x.Attends) :
    y.Attends := by
  obtain ⟨_, _, _, rfl⟩ := aside
  exact attends.of_same rfl rfl

/-! ### Starts and stops -/

/-- A group begins, which ends no context. -/
theorem Scene.contextDone_begin (x : Scene) (parentDone : Bool) {g : Nat}
    (done : x.manager.contextDone g = true) :
    (x.begin parentDone).manager.contextDone g = true := by
  simp only [Lifecycle.Manager.contextDone, Option.any_eq_true] at done ⊢
  obtain ⟨k, there, is⟩ := done
  exact ⟨k, List.getElem?_append_left (List.getElem?_eq_some_iff.1 there).1 ▸ there, is⟩

theorem Scene.groups_prepare (x : Scene) (id k : Nat) :
    (x.prepare id k).manager.groups = x.manager.groups := by
  unfold prepare
  split <;> rfl

theorem Steering.attends {x y : Scene} {m : Move} (steering : Steering x m y) (orderly : x.Orderly)
    (attends : x.Attends) : y.Attends := by
  have prepared {x : Scene} (attends : x.Attends) (id k : Nat) : (x.prepare id k).Attends :=
    attends.of_done (x.runs_prepare id k) fun g done => by
      rwa [Lifecycle.Manager.contextDone, x.groups_prepare]
  -- A worker that returns is not counted any more, which ends no context.
  have reaped (i : Nat) (group : Option Nat) {f : Run → Run} (own : ∀ r, (f r).group = r.group)
      (stays : ∀ r, r.IsOpen → (f r).IsOpen) : (x.reap i group f).Attends := by
    have told : (x.onRun i f).Attends := attends.onRun i own fun r _ _ isOpen => stays r isOpen
    refine told.of_done rfl fun g done => ?_
    cases group with
    | none => exact done
    | some k =>
      refine x.manager.contextDone_onGroup k (f := fun g => { g with live := g.live - 1 }) ?_ done
      exact fun _ is => is
  cases steering with
  | idle => exact attends
  | queued begins | refused begins =>
    obtain ⟨_, _, _, n, cs, rfl⟩ := begins.enters orderly.numbered
    exact attends.of_same rfl rfl
  | begun begins =>
    obtain ⟨_, _, _, n, cs, rfl⟩ := begins.enters orderly.numbered
    exact attends.of_done rfl fun g done => x.contextDone_begin _ done
  | advanced | broken | accepted | shut | finished => exact attends.of_same rfl rfl
  | built move tasks new =>
    intro r' mem live
    rcases List.mem_append.1 mem with old | last
    · -- The two workers that join the group do not end any context.
      refine attends r' old ?_
      unfold Scene.contextDone at live ⊢
      cases group : r'.group with
      | none => rfl
      | some g =>
        rw [group] at live
        have joined := (x.manager.join.contextDone_join g).trans (x.manager.contextDone_join g)
        exact joined.symm.trans live
    · exact List.mem_singleton.1 last ▸ new.isOpen
  | @published id i =>
    have handed : ({ x with published := some i } : Scene).Attends := attends.of_same rfl rfl
    exact prepared handed id 0
  | stopped begins =>
    obtain ⟨_, _, _, n, cs, rfl⟩ := begins.enters orderly.numbered
    exact attends.of_done rfl fun g done => x.manager.contextDone_cancelCurrent done
  | prepared => exact prepared attends _ _
  | failed | rejected => exact attends.of_done rfl fun g done => x.manager.contextDone_cancelCurrent done
  | aborted | halted | expired => exact attends.of_done rfl fun _ done => done
  | busReaped | deskReaped =>
    refine reaped _ _ (fun _ => by rfl) fun r isOpen => ?_
    exact ⟨isOpen.busContext, isOpen.bus, isOpen.deskContext, isOpen.desk⟩
  | orphaned group =>
    exact attends.of_done rfl fun g done =>
      x.manager.contextDone_onGroup group (fun k _ => by simp [Lifecycle.Group.done]) done

theorem Happening.attends {s : System} {m : Move} {y : Scene} (happening : Happening s m y)
    (wired : s.sink = .service) (orderly : s.scene.Orderly) (attends : s.scene.Attends) :
    y.Attends := by
  cases happening with
  | behind steps => exact Scene.Steps.attends steps attends
  | performed opens steps closes =>
    exact closes.aside.attends (Scene.Steps.attends steps (opens.aside.attends attends))
  | @asked i q x z published asks sees opens left =>
    have unended : q ≠ .endContext := by rintro rfl; exact asks
    have unclosed (v : Switching.View) : q ≠ .close v := by rintro rfl; exact asks
    exact left.aside.attends ((opens.aside.attends attends).moveDesk i unended unclosed)
  | left left => exact left.aside.attends attends
  | worked | stopped | launched | marked => exact attends.moveDesk _ (by simp) (by simp)
  | bounded => exact attends.of_same rfl rfl
  | @tripEnded id i v k response fault ends found =>
    have ended : ({ s.scene with asks := s.scene.asks.filter (·.1 != id) } : Scene).Attends :=
      attends.of_same rfl rfl
    exact ended.moveDesk i (by simp) (by simp)
  | @committed i r c t fault move here doing switched =>
    have leads := leads_onSessions s wired .worker (s.sessions.switchTo c.target s.millis)
    rw [switched] at leads
    exact (Scene.Steps.attends leads attends).moveDesk _ (by simp) (by simp)
  | steered steering => exact steering.attends orderly attends
  | wired move tasks steps steering =>
    have keeps := Scene.Steps.keeps steps orderly.numbered
    exact steering.attends (keeps.orderly orderly) (Scene.Steps.attends steps attends)

/-! ## The published run -/

/-- The context of a start stays live. -/
def Move.isLive : Move → Bool
  | act (.start parentDone) => !parentDone
  | act (.parentEnded _) => false
  | _ => true

/-- The context of a group has not ended. -/
def Lit (m : Lifecycle.Manager) (group : Option Nat) : Prop :=
  ∃ g k, group = some g ∧ m.groups[g]? = some k ∧ k.done = false

namespace Lit

variable {m : Lifecycle.Manager} {g : Option Nat}

/-- Workers that are counted end no context. -/
theorem onGroup (lit : Lit m g) (k : Nat) {f : Lifecycle.Group → Lifecycle.Group}
    (stays : ∀ x, (f x).done = x.done) : Lit (m.onGroup k f) g := by
  obtain ⟨g, x, rfl, known, undone⟩ := lit
  refine ⟨g, if k = g then f x else x, rfl, ?_, ?_⟩
  · rw [Lifecycle.Manager.onGroup, List.getElem?_modify, known]
    rfl
  · split
    · exact (stays x).trans undone
    · exact undone

theorem join (lit : Lit m g) : Lit m.join g := by
  unfold Lifecycle.Manager.join
  split
  · exact lit.onGroup _ fun _ => rfl
  · exact lit

end Lit

/-- The groups whose contexts matter: of the start that is under way, until it has made a run, of the
    run that gets its listeners, and of the published run. -/
inductive Scene.Matters (x : Scene) : Option Nat → Prop
  | begun {id : Nat} {w : Work} (tasks : x.tasks = [⟨id, none, w⟩]) (early : w.isEarly = true) :
      Matters x x.manager.current
  | wired {id i : Nat} {left : List Listener} {r : Run}
      (tasks : x.tasks = [⟨id, none, .wiring i left⟩]) (here : x.runs[i]? = some r) :
      Matters x r.group
  | published {i : Nat} {r : Run} (published : x.published = some i) (here : x.runs[i]? = some r) :
      Matters x r.group

/-- No start that waits has a context that has ended, nor has a group that matters. -/
structure Scene.IsLit (x : Scene) : Prop where
  waiting : ∀ id, Control.start id true ∉ x.controls
  lit : ∀ g, x.Matters g → Lit x.manager g

namespace Scene

variable {x y : Scene}

/-- Where runs keep their groups, no other group comes to matter, unless a start goes on. -/
theorem Matters.of_each {g : Option Nat} (matters : y.Matters g)
    (each : ∀ {i : Nat} {r' : Run}, y.runs[i]? = some r' →
      ∃ r, x.runs[i]? = some r ∧ r'.group = r.group)
    (tasks : y.tasks = x.tasks ∨ y.IsSetUp)
    (published : y.published = x.published ∨ y.published = none)
    (current : y.manager.current = x.manager.current) : x.Matters g := by
  cases matters with
  | begun one early =>
    rcases tasks with same | setUp
    · exact current ▸ .begun (same.symm.trans one) early
    · exact nomatch (setUp _ _ one).1.symm.trans early
  | wired one there =>
    rcases tasks with same | setUp
    · obtain ⟨r, here, group⟩ := each there
      exact group ▸ .wired (same.symm.trans one) here
    · exact absurd rfl ((setUp _ _ one).2 _ _)
  | published out there =>
    rcases published with same | withdrawn
    · obtain ⟨r, here, group⟩ := each there
      exact group ▸ .published (same.symm.trans out) here
    · exact nomatch withdrawn.symm.trans out

namespace IsLit

/-- The contexts that have not ended still have not. -/
theorem of_each (lit : x.IsLit) (controls : y.controls = x.controls)
    (each : ∀ {i : Nat} {r' : Run}, y.runs[i]? = some r' →
      ∃ r, x.runs[i]? = some r ∧ r'.group = r.group)
    (tasks : y.tasks = x.tasks ∨ y.IsSetUp)
    (published : y.published = x.published ∨ y.published = none)
    (current : y.manager.current = x.manager.current)
    (live : ∀ g, Lit x.manager g → Lit y.manager g) : y.IsLit where
  waiting := by rw [controls]; exact lit.waiting
  lit g matters := live g (lit.lit g (matters.of_each each tasks published current))

/-- No run and no group changes. -/
theorem of_same (lit : x.IsLit) (controls : y.controls = x.controls) (runs : y.runs = x.runs)
    (tasks : y.tasks = x.tasks ∨ y.IsSetUp)
    (published : y.published = x.published ∨ y.published = none)
    (current : y.manager.current = x.manager.current)
    (groups : y.manager.groups = x.manager.groups) : y.IsLit :=
  lit.of_each controls (fun {_ r'} there => ⟨r', by rwa [← runs], rfl⟩) tasks published current
    fun g => by rw [Lit, Lit, groups]; exact id

/-- Nothing is published, and no start is about to. -/
theorem of_none (controls : ∀ id, Control.start id true ∉ y.controls) (none : y.published = none)
    (setUp : y.IsSetUp) : y.IsLit := by
  refine ⟨controls, fun g matters => ?_⟩
  cases matters with
  | begun one early => cases (setUp _ _ one).1.symm.trans early
  | wired one => exact absurd rfl ((setUp _ _ one).2 _ _)
  | published out => cases none.symm.trans out

theorem of_keeps (lit : x.IsLit) (keeps : x.Keeps y) : y.IsLit := by
  refine lit.of_each keeps.controls (fun there => ?_) (.inl keeps.tasks) (.inl keeps.published)
    (by rw [keeps.manager]) fun g => by rw [keeps.manager]; exact id
  obtain ⟨r, here, holds⟩ := keeps.runs.back there
  exact ⟨r, here, holds.group⟩

/-- A live start or a stop is asked for, or one that waited is taken. -/
theorem of_begins (lit : x.IsLit) {m : Move} (live : m.isLive = true) {c : Control}
    (begins : x.Begins m c y) : y.IsLit ∧ ∀ id, c ≠ .start id true := by
  cases begins with
  | requested asked =>
    refine ⟨lit.of_same rfl rfl (.inl rfl) (.inl rfl) rfl rfl, fun id is => ?_⟩
    subst is
    unfold Move.control? at asked
    split at asked
    · next parentDone =>
      obtain rfl : parentDone = false := by simpa [Move.isLive] using live
      cases asked
    · cases asked
    · cases asked
  | resumed cs move first =>
    have waiting (id : Nat) (mem : Control.start id true ∈ c :: cs) : False :=
      lit.waiting id (first ▸ mem)
    have taken : ({ x with controls := cs } : Scene).IsLit := by
      refine ⟨fun id mem => waiting id (List.mem_cons_of_mem c mem), fun g matters => lit.lit g ?_⟩
      exact matters.of_each (fun {_ r'} there => ⟨r', there, rfl⟩) (.inl rfl) (.inl rfl) rfl
    exact ⟨taken, fun id is => waiting id (is ▸ List.mem_cons_self)⟩

/-- A worker has returned. -/
theorem reap (lit : x.IsLit) (i : Nat) (group : Option Nat) {f : Run → Run}
    (own : ∀ r, (f r).group = r.group) : (x.reap i group f).IsLit := by
  refine lit.of_each rfl (fun there => ?_) (.inl rfl) (.inl rfl) ?_ fun g before => ?_
  · obtain ⟨r, here, rfl⟩ := origin_modify there
    refine ⟨r, here, ?_⟩
    split
    · exact own r
    · rfl
  · rw [Scene.manager_reap]
  · cases group with
    | none => exact before
    | some k => exact before.onGroup k fun _ => rfl

/-- A start begins, in a context that is live. -/
theorem begin (waiting : ∀ id, Control.start id true ∉ x.controls) (none : x.tasks = [])
    (withdrawn : x.published = .none) (id : Nat) :
    ({ x.begin false with busy := true }.await id .none .loading).IsLit := by
  have turned := tasks_await (x := { x.begin false with busy := true }) (w := .loading) none rfl id
    .none
  refine ⟨waiting, fun g matters => ?_⟩
  cases matters with
  | begun =>
    exact ⟨x.manager.groups.length, ⟨false, false, 0⟩, rfl, by simp [Scene.begin, Scene.await], rfl⟩
  | wired one => cases Orderly.eq_of_tasks turned one
  | published out => cases withdrawn.symm.trans out

/-- A start goes on before it makes a run. -/
theorem advance (lit : x.IsLit) (numbered : x.Numbered) {id : Nat} {w w' : Work}
    (tasks : x.tasks = [⟨id, none, w⟩]) (next : w.Next w') : (x.turnTo id w').IsLit := by
  have turned := tasks_turnTo numbered tasks (Work.isControl_of_isEarly next.early.2)
  refine ⟨lit.waiting, fun g matters => lit.lit g ?_⟩
  cases matters with
  | begun => exact .begun tasks next.early.1
  | wired one =>
    rw [Orderly.eq_of_tasks turned one] at next
    cases next.early.2
  | published out here => exact .published out here

/-- A run is made, in the group of the start. -/
theorem build (lit : x.IsLit) (numbered : x.Numbered) {id : Nat}
    (tasks : x.tasks = [⟨id, none, .building⟩]) (withdrawn : x.published = none) {r : Run}
    (new : r.IsNew x.manager.current) : (x.build id r).IsLit := by
  have turned := tasks_build numbered tasks r
  refine ⟨lit.waiting, fun g matters => ?_⟩
  cases matters with
  | begun one early =>
    cases Orderly.eq_of_tasks turned one
    cases early
  | wired one here =>
    cases Orderly.eq_of_tasks turned one
    have own : (x.runs ++ [r])[x.runs.length]? = some r := List.getElem?_concat_length
    obtain rfl := Option.some.inj (own.symm.trans here)
    exact (new.group ▸ lit.lit _ (.begun tasks rfl)).join.join
  | published out => cases withdrawn.symm.trans out

/-- A run has got a listener. -/
theorem accept (lit : x.IsLit) (numbered : x.Numbered) {id i : Nat} {left left' : List Listener}
    (tasks : x.tasks = [⟨id, none, .wiring i left'⟩]) : (x.turnTo id (.wiring i left)).IsLit := by
  have turned : (x.turnTo id (.wiring i left)).tasks = [⟨id, none, .wiring i left⟩] :=
    tasks_turnTo numbered tasks rfl
  refine ⟨lit.waiting, fun g matters => lit.lit g ?_⟩
  cases matters with
  | begun one early =>
    cases Orderly.eq_of_tasks turned one
    cases early
  | wired one here =>
    cases Orderly.eq_of_tasks turned one
    exact .wired tasks here
  | published out here => exact .published out here

/-- The run that has got its listeners is published. -/
theorem publish (lit : x.IsLit) {id i : Nat} {left : List Listener}
    (tasks : x.tasks = [⟨id, none, .wiring i left⟩]) :
    ({ x with published := some i } : Scene).IsLit := by
  refine ⟨lit.waiting, fun g matters => lit.lit g ?_⟩
  cases matters with
  | begun one early => exact .begun one early
  | wired one here => exact .wired one here
  | published out here =>
    cases out
    exact .wired tasks here

/-- The start comes to a plugin, or to its end. -/
theorem prepare (lit : x.IsLit) (numbered : x.Numbered) {id : Nat} {w : Work}
    (tasks : x.tasks = [⟨id, none, w⟩]) (k : Nat) : (x.prepare id k).IsLit := by
  have setUp := isSetUp_prepare numbered tasks k
  refine lit.of_same ?_ (x.runs_prepare ..) (.inr setUp) (.inl (x.published_prepare ..)) ?_
    (x.groups_prepare ..)
  · unfold Scene.prepare
    split <;> rfl
  · unfold Scene.prepare
    split <;> rfl

end IsLit

end Scene

/-- Whatever starts and stops do, no context that matters ends. -/
theorem Steering.isLit {x y : Scene} {m : Move} (steering : Steering x m y) (orderly : x.Orderly)
    (live : m.isLive = true) (lit : x.IsLit) : y.IsLit := by
  have numbered := orderly.numbered
  cases steering with
  | idle => exact lit
  | queued begins =>
    obtain ⟨lit', other⟩ := lit.of_begins live begins
    refine ⟨fun id mem => ?_, fun g matters => lit'.lit g ?_⟩
    · rcases List.mem_append.1 mem with old | last
      · exact lit'.waiting id old
      · exact other id (List.mem_singleton.1 last).symm
    · exact matters.of_each (fun {_ r'} there => ⟨r', there, rfl⟩) (.inl rfl) (.inl rfl) rfl
  | @refused c y begins free =>
    have lit' := (lit.of_begins live begins).1
    obtain ⟨_, _, _, n, cs, rfl⟩ := begins.enters numbered
    refine lit'.of_same rfl rfl (.inr (.of_none ?_)) (.inl rfl) rfl rfl
    rw [Scene.tasks_finish]
    exact congrArg (List.filter _) (orderly.rest free).1
  | @begun id parentDone y begins free able =>
    obtain ⟨lit', other⟩ := lit.of_begins live begins
    have waiting := lit'.waiting
    obtain ⟨_, _, _, n, cs, rfl⟩ := begins.enters numbered
    -- The context of the start is live, asked for now or before.
    cases parentDone with
    | true => exact absurd rfl (other id)
    | false =>
      exact .begin (x := { x with nextId := n, controls := cs }) waiting (orderly.rest free).1
        (orderly.withdrawn free able) id
  | advanced move tasks next => exact lit.advance numbered tasks next
  | broken move tasks =>
    exact lit.of_same rfl rfl (.inr (.of_none
      (Scene.tasks_finish_own (x := { x with busy := false }) tasks .broken))) (.inl rfl) rfl rfl
  | built move tasks new =>
    exact lit.build numbered tasks (orderly.preparing tasks rfl).2.2.2 new
  | accepted move tasks => exact lit.accept numbered tasks
  | rejected move tasks | failed move tasks =>
    exact .of_none lit.waiting rfl
      (.of_tasks (x := x.abort ..) (Scene.tasks_turnTo numbered tasks rfl) rfl (by rintro _ _ ⟨⟩))
  | published move tasks => exact (lit.publish tasks).prepare (numbered.of_same rfl rfl rfl) tasks 0
  | prepared move tasks => exact lit.prepare numbered tasks _
  | @stopped id timeout deadline y begins free =>
    have waiting := (lit.of_begins live begins).1.waiting
    obtain ⟨_, _, _, n, cs, rfl⟩ := begins.enters numbered
    have one : (({ x with nextId := n, controls := cs } : Scene).halt id timeout deadline).tasks =
        [⟨id, none, .stopping⟩] := Scene.tasks_await (orderly.rest free).1 rfl id none
    exact .of_none waiting rfl (.of_tasks one rfl (by rintro _ _ ⟨⟩))
  | aborted tasks =>
    exact lit.of_same rfl rfl (.inr (.of_none (Scene.tasks_finish_own (x := x.settle ..) tasks _)))
      (.inl rfl) rfl rfl
  | halted tasks | expired tasks =>
    exact lit.of_same rfl rfl
      (.inr (.of_none (Scene.tasks_turnTo_shutting (x := x.settle ..) tasks _ _))) (.inl rfl) rfl rfl
  | shut move found work =>
    have apart := numbered.other_of_found found (by rw [work]; rfl)
    exact lit.of_same rfl rfl (.inl (Scene.tasks_turnTo_of_ne (x := x.say _) apart rfl)) (.inl rfl)
      rfl rfl
  | finished move found work =>
    have apart := numbered.other_of_found found (by rw [work]; rfl)
    exact lit.of_same rfl rfl (.inl (Scene.tasks_finish_of_ne apart _)) (.inl rfl) rfl rfl
  | busReaped | deskReaped => exact lit.reap _ _ fun _ => by rfl
  | orphaned group move =>
    rw [move] at live
    cases live

/-! ## Runs of the service -/

namespace IsRun

variable {h : History} {s : System}

/-- In every state of a run of the service, whoever's context has not ended is open. -/
theorem attends (run : IsRun h s) : s.scene.Attends := by
  induction run with
  | new made w =>
    rw [eq_fresh_of_new made]
    exact fun r mem => absurd mem List.not_mem_nil
  | @step h s m run proper ih =>
    have after := (run.happening proper).attends run.sink run.orderly ih
    exact after.of_same rfl rfl

/-- While the contexts of starts stay live, none that matters has ended. -/
theorem isLit (run : IsRun h s) (live : ∀ n ∈ h, n.move.isLive = true) : s.scene.IsLit := by
  induction run with
  | new made w =>
    rw [eq_fresh_of_new made]
    exact .of_none (fun _ => List.not_mem_nil) rfl (.of_none rfl)
  | @step h s m run proper ih =>
    have lit := ih fun n mem => live n (List.mem_append_left _ mem)
    have own : m.isLive = true := live ⟨s, m⟩ (List.mem_append_right _ (List.mem_singleton_self _))
    -- Only starts and stops touch the groups.
    have after : (Moment.mk s m).outcome.IsLit := by
      rcases (run.happening proper).keeps_or_steered run.sink run.orderly.numbered with
        keeps | ⟨x, keeps, steering⟩
      · exact lit.of_keeps keeps
      · exact steering.isLit (keeps.orderly run.orderly) own (lit.of_keeps keeps)
    exact after.of_same rfl rfl (.inl rfl) (.inl rfl) rfl rfl

/-- The workers of a run whose group matters take what is posted. -/
theorem isOpen_of_matters (run : IsRun h s) (live : ∀ n ∈ h, n.move.isLive = true) {i : Nat} {r : Run}
    (here : s.runs[i]? = some r) (matters : s.scene.Matters r.group) : r.IsOpen := by
  obtain ⟨g, k, group, known, undone⟩ := (run.isLit live).lit _ matters
  refine run.attends r (List.mem_of_getElem? here) ?_
  simp only [Scene.contextDone, group, Lifecycle.Manager.contextDone]
  rw [known]
  simpa using undone

/-- A published run serves: its workers take what is posted. -/
theorem serving (run : IsRun h s) (live : ∀ n ∈ h, n.move.isLive = true) {i : Nat}
    (published : s.published = some i) : ∃ r, s.runs[i]? = some r ∧ r.IsOpen := by
  have last := run.orderly.last_of_published published
  have lt : i < s.runs.length := last ▸ Nat.lt_succ_self i
  have here : s.runs[i]? = some s.runs[i] := List.getElem?_eq_getElem lt
  exact ⟨_, here, run.isOpen_of_matters live here (.published published here)⟩

end IsRun

end HeadUnit.Service
