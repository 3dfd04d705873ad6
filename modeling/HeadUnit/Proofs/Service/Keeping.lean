import HeadUnit.Proofs.Service.Control
import HeadUnit.Proofs.Service.News
import HeadUnit.Proofs.Switching.Change

/-!
# What leaves starts and stops alone

Whatever goes on behind the calls leaves starts and stops alone (`Scene.Keeps`): the calls
that start or stop the service, the manager, which run is published, and who listens on the bus of
a run for the run itself (`Tends`). Where they stand, the next step of a start or stop finds them
(`Scene.Keeps.orderly`).
-/

namespace HeadUnit.Switching

/-- A worker that has stopped stays so. -/
theorem Desk.worker_move_of_stopped {d : Desk} (stopped : d.worker = .stopped) (q : Move) :
    (d.move q).worker = .stopped := by
  by_cases marks : q = .mark
  · have unable : d.worker ≠ .marking := by simp [stopped]
    rw [marks, move, Desk.mark_of_unable d unable, stopped]
  · exact (worker_move_of_held (.inl stopped) marks).trans stopped

end HeadUnit.Switching

namespace HeadUnit.Service

open HeadUnit.Service.System

/-! ## Numbers -/

/-- The calls that belong to starts and stops. -/
def Scene.steered (x : Scene) : List Call := x.calls.filter (·.work.isSteered)

theorem Scene.tasks_eq (x : Scene) : x.tasks = x.steered.filter (·.work.isControl) := by
  rw [tasks, steered, List.filter_filter]
  refine List.filter_congr fun c _ => ?_
  cases c.work <;> rfl

namespace Scene.Numbered

variable {x y : Scene}

/-- Fewer numbers are in use, and no fewer were given out. -/
theorem of_sublist (numbered : x.Numbered) (sub : y.ids.Sublist x.ids) (more : x.nextId ≤ y.nextId) :
    y.Numbered where
  nodup := numbered.nodup.sublist sub
  given id mem := Nat.lt_of_lt_of_le (numbered.given id (sub.subset mem)) more

theorem of_same (numbered : x.Numbered) (calls : y.calls = x.calls)
    (controls : y.controls = x.controls) (nextId : y.nextId = x.nextId) : y.Numbered :=
  numbered.of_sublist (by rw [ids, calls, controls, ids]) (Nat.le_of_eq nextId.symm)

/-- One more number is in use, which was not. -/
theorem of_perm (numbered : x.Numbered) {id : Nat} (perm : y.ids.Perm (id :: x.ids))
    (new : id ∉ x.ids) (given : id < x.nextId) (same : y.nextId = x.nextId) : y.Numbered where
  nodup := perm.nodup_iff.2 (List.nodup_cons.2 ⟨new, numbered.nodup⟩)
  given k mem := by
    rw [same]
    rcases List.mem_cons.1 (perm.subset mem) with rfl | old
    · exact given
    · exact numbered.given k old

theorem finish (numbered : x.Numbered) (id : Nat) (r : Result) : (x.finish id r).Numbered :=
  numbered.of_sublist ((List.filter_sublist.map _).append (.refl _)) (Nat.le_refl _)

/-- No other call has the number. -/
theorem eq_of_found (numbered : x.Numbered) {id : Nat} {c t : Call} (found : x.call? id = some c)
    (there : t ∈ x.calls) (same : t.id = id) : t = c := by
  have own : c.id = id := by simpa using List.find?_some found
  have nodup := (List.nodup_append.1 numbered.nodup).1
  exact List.inj_on_of_nodup_map nodup there (List.mem_of_find?_eq_some found)
    (same.trans own.symm)

/-- What waits for something else is no start or stop. -/
theorem other_of_found (numbered : x.Numbered) {id : Nat} {c : Call} (found : x.call? id = some c)
    (ordinary : c.work.isControl = false) : ∀ t ∈ x.tasks, t.id ≠ id := by
  intro t mem same
  obtain ⟨there, control⟩ := List.mem_filter.1 mem
  rw [numbered.eq_of_found found there same, ordinary] at control
  cases control

/-- What waits for something else does not belong to starts and stops. -/
theorem apart_of_found (numbered : x.Numbered) {id : Nat} {c : Call} (found : x.call? id = some c)
    (ordinary : c.work.isSteered = false) : ∀ t ∈ x.steered, t.id ≠ id := by
  intro t mem same
  obtain ⟨there, steered⟩ := List.mem_filter.1 mem
  rw [numbered.eq_of_found found there same, ordinary] at steered
  cases steered

end Scene.Numbered

namespace Scene

/-- A call that ends is none of its kind any more. -/
theorem filter_finish (x : Scene) (p : Call → Bool) (id : Nat) (r : Result) :
    (x.finish id r).calls.filter p = (x.calls.filter p).filter (·.id != id) := by
  simp only [finish, say, List.filter_filter, Bool.and_comm]

/-- A call that ends is no start or stop any more. -/
theorem tasks_finish (x : Scene) (id : Nat) (r : Result) :
    (x.finish id r).tasks = x.tasks.filter (·.id != id) := filter_finish ..

/-- A call that ends leaves the starts and stops that have other numbers. -/
theorem tasks_finish_of_ne {x : Scene} {id : Nat} (other : ∀ c ∈ x.tasks, c.id ≠ id) (r : Result) :
    (x.finish id r).tasks = x.tasks := by
  rw [tasks_finish]
  exact List.filter_eq_self.2 fun c mem => by simpa using other c mem

/-- So it does all that belongs to starts and stops. -/
theorem steered_finish_of_ne {x : Scene} {id : Nat} (other : ∀ c ∈ x.steered, c.id ≠ id)
    (r : Result) : (x.finish id r).steered = x.steered := by
  have same : (x.finish id r).steered = x.steered.filter (·.id != id) := filter_finish ..
  rw [same]
  exact List.filter_eq_self.2 fun c mem => by simpa using other c mem

/-- The start or stop that is under way ends. -/
theorem tasks_finish_own {x : Scene} {c : Call} (one : x.tasks = [c]) (r : Result) :
    (x.finish c.id r).tasks = [] := by
  rw [tasks_finish, one]
  simp

/-- A start or stop comes under way. -/
theorem tasks_await {x : Scene} {w : Work} (none : x.tasks = []) (control : w.isControl = true)
    (id : Nat) (deadline : Option Int) : (x.await id deadline w).tasks = [⟨id, deadline, w⟩] := by
  simp only [tasks, await, List.filter_append] at none ⊢
  simp [none, control]

end Scene

namespace Scene

variable {x y : Scene}

/-- How far starts and stops have come hangs on nothing else. -/
theorem Station.of_same (station : x.Station) (tasks : y.tasks = x.tasks)
    (published : y.published = x.published) (busy : y.busy = x.busy)
    (plugins : y.plugins = x.plugins) (length : y.runs.length = x.runs.length)
    (phase : y.manager.phase = x.manager.phase) (waits : y.manager.waits = x.manager.waits)
    (current : y.manager.current = x.manager.current) : y.Station := by
  have serving : y.IsServing = x.IsServing := by simp only [IsServing, length, published]
  cases station with
  | resting free none noWaits other one =>
    rw [← phase, ← serving, ← published] at one
    exact .resting (busy.trans free) (tasks.trans none) (waits.trans noWaits)
      (by rwa [← phase] at other) one
  | preparing early held one noWaits is withdrawn =>
    exact .preparing early (busy.trans held) (tasks.trans one) (waits.trans noWaits)
      (phase.trans is) (published.trans withdrawn)
  | wiring held one noWaits is last withdrawn =>
    exact .wiring (busy.trans held) (tasks.trans one) (waits.trans noWaits) (phase.trans is)
      (length.trans last) (published.trans withdrawn)
  | starting held one noWaits is last plugin =>
    rw [← serving] at last
    rw [← plugins] at plugin
    exact .starting (busy.trans held) (tasks.trans one) (waits.trans noWaits) (phase.trans is) last
      plugin
  | aborting held one wait is withdrawn =>
    rw [← current] at wait
    exact .aborting (busy.trans held) (tasks.trans one) (waits.trans wait) (phase.trans is)
      (published.trans withdrawn)
  | stopping held one wait is withdrawn =>
    exact .stopping (busy.trans held) (tasks.trans one) (waits.trans wait) (phase.trans is)
      (published.trans withdrawn)

/-- While nothing is under way. -/
theorem Orderly.rest (orderly : x.Orderly) (free : x.busy = false) :
    x.tasks = [] ∧ x.manager.waits = [] ∧ x.manager.phase ≠ .stopping ∧
      (x.manager.phase = .running ∧ x.IsServing ∨
        x.manager.phase ≠ .running ∧ x.published = none) := by
  cases orderly.station with
  | resting _ tasks waits phase one => exact ⟨tasks, waits, phase, one⟩
  | preparing _ held | wiring held | starting held | aborting held | stopping held =>
    exact nomatch free.symm.trans held

/-- Nothing is published while the service can be started. -/
theorem Orderly.withdrawn (orderly : x.Orderly) (free : x.busy = false)
    (able : x.manager.phase.canStart = true) : x.published = none := by
  obtain ⟨-, -, -, ⟨running, -⟩ | ⟨-, withdrawn⟩⟩ := orderly.rest free
  · rw [running] at able
    cases able
  · exact withdrawn

/-- Only the last run is ever published. -/
theorem Orderly.last_of_published (orderly : x.Orderly) {i : Nat} (published : x.published = some i) :
    i + 1 = x.runs.length := by
  have serving : x.IsServing := by
    cases orderly.station with
    | resting _ _ _ _ one => exact (one.resolve_right fun none => nomatch none.2.symm.trans published).2
    | starting _ _ _ _ serving => exact serving
    | preparing _ _ _ _ _ withdrawn | wiring _ _ _ _ _ withdrawn | aborting _ _ _ _ withdrawn
    | stopping _ _ _ _ withdrawn => exact nomatch withdrawn.symm.trans published
  obtain ⟨n, length, last⟩ := serving
  rw [length, Option.some.inj (published.symm.trans last)]

/-- The start or stop that is under way waits for something else. -/
theorem tasks_turnTo (numbered : x.Numbered) {id : Nat} {deadline : Option Int} {w w' : Work}
    (one : x.tasks = [⟨id, deadline, w⟩]) (control : w'.isControl = true) :
    (x.turnTo id w').tasks = [⟨id, deadline, w'⟩] := by
  have mem : Call.mk id deadline w ∈ x.tasks := one ▸ List.mem_singleton_self _
  -- Nobody else has the number, so the same calls are starts and stops.
  have same : ∀ c ∈ x.calls, (if c.id = id then { c with work := w' } else c).work.isControl =
      c.work.isControl := by
    intro c there
    split
    · next own =>
      have eq := List.inj_on_of_nodup_map (List.nodup_append.1 numbered.nodup).1 there
        (List.mem_filter.1 mem).1 own
      rw [control, eq]
      exact (List.mem_filter.1 mem).2.symm
    · rfl
  simp only [tasks, turnTo, List.filter_map, Function.comp_def] at one ⊢
  rw [List.filter_congr same, one]
  simp

theorem ids_turnTo (x : Scene) (id : Nat) (w : Work) : (x.turnTo id w).ids = x.ids := by
  simp only [ids, turnTo, List.map_map]
  congr 1
  refine List.map_congr_left fun c _ => ?_
  dsimp only [Function.comp]
  split <;> rfl

theorem Numbered.turnTo (numbered : x.Numbered) (id : Nat) (w : Work) :
    (x.turnTo id w).Numbered :=
  numbered.of_sublist (ids_turnTo x id w ▸ .refl _) (Nat.le_refl _)

end Scene

/-! ## What leaves starts and stops alone -/

/-- Whatever the workers of a run do, this stays. -/
structure Run.Holds (r r' : Run) : Prop where
  group : r'.group = r.group
  busReported : r'.busReported = r.busReported
  deskReported : r'.deskReported = r.deskReported
  /-- A worker that has stopped stays so. -/
  stopped : r.desk.worker = .stopped → r'.desk.worker = .stopped
  bus : Tends r.bus r'.bus

/-- The runs `rs` have become the runs `rs'`. -/
structure Run.Hold (rs rs' : List Run) : Prop where
  length : rs'.length = rs.length
  each : ∀ {i : Nat} {r : Run}, rs[i]? = some r → ∃ r', rs'[i]? = some r' ∧ Run.Holds r r'

namespace Run

theorem Holds.refl (r : Run) : r.Holds r := ⟨rfl, rfl, rfl, id, .refl r.bus⟩

theorem Hold.refl (rs : List Run) : Hold rs rs := ⟨rfl, fun here => ⟨_, here, .refl _⟩⟩

theorem Hold.trans {rs rs' rs'' : List Run} (one : Hold rs rs') (other : Hold rs' rs'') :
    Hold rs rs'' := by
  refine ⟨other.length.trans one.length, fun here => ?_⟩
  obtain ⟨r, there, first⟩ := one.each here
  obtain ⟨r', there', second⟩ := other.each there
  exact ⟨r', there', second.group.trans first.group, second.busReported.trans first.busReported,
    second.deskReported.trans first.deskReported, second.stopped ∘ first.stopped,
    first.bus.trans second.bus⟩

/-- Every run was there before. -/
theorem Hold.back {rs rs' : List Run} (hold : Hold rs rs') {i : Nat} {r' : Run}
    (there : rs'[i]? = some r') : ∃ r, rs[i]? = some r ∧ r.Holds r' := by
  have lt : i < rs.length := hold.length ▸ (List.getElem?_eq_some_iff.1 there).1
  have here : rs[i]? = some rs[i] := List.getElem?_eq_getElem lt
  obtain ⟨r, there', holds⟩ := hold.each here
  obtain rfl := Option.some.inj (there.symm.trans there')
  exact ⟨_, here, holds⟩

/-- One run changes. -/
theorem Hold.modify {rs : List Run} {i : Nat} {f : Run → Run}
    (holds : ∀ r, rs[i]? = some r → r.Holds (f r)) : Hold rs (rs.modify i f) := by
  refine ⟨List.length_modify .., fun {j r} here => ?_⟩
  simp only [List.getElem?_modify, here, Option.map_eq_map, Option.map_some]
  split
  · next own =>
    subst own
    exact ⟨f r, rfl, holds r here⟩
  · exact ⟨r, rfl, .refl r⟩

end Run

/-- The phase changes, or plugins get ready or are shut down. -/
def Effect.isSteering : Effect → Bool
  | .changed .. | .initPlugin _ | .shutdownPlugin _ => true
  | _ => false

namespace Scene

/-- From `x` to `y`, starts and stops are left alone. -/
structure Keeps (x y : Scene) : Prop where
  numbered : y.Numbered
  ids : x.nextId ≤ y.nextId
  steered : y.steered = x.steered
  published : y.published = x.published
  manager : y.manager = x.manager
  busy : y.busy = x.busy
  controls : y.controls = x.controls
  plugins : y.plugins = x.plugins
  said : y.said.filter (·.isSteering) = x.said.filter (·.isSteering)
  runs : Run.Hold x.runs y.runs

namespace Keeps

variable {x y z : Scene}

/-- Calls, manager and plugins are not touched at all. -/
theorem aside (numbered : x.Numbered) {runs : List Run} (hold : Run.Hold x.runs runs)
    {asks : List (Nat × Owner)} {nextId : Nat} (ids : x.nextId ≤ nextId) {gauge : Nat}
    {said : List Effect}
    (quiet : said.filter (·.isSteering) = x.said.filter (·.isSteering)) :
    Keeps x { x with runs := runs, asks := asks, nextId := nextId, gauge := gauge, said := said } :=
  ⟨numbered.of_sublist (.refl _) ids, ids, rfl, rfl, rfl, rfl, rfl, rfl, quiet, hold⟩

theorem refl (numbered : x.Numbered) : Keeps x x := aside numbered (.refl _) (Nat.le_refl _) rfl

theorem trans (one : Keeps x y) (other : Keeps y z) : Keeps x z where
  numbered := other.numbered
  ids := Nat.le_trans one.ids other.ids
  steered := other.steered.trans one.steered
  published := other.published.trans one.published
  manager := other.manager.trans one.manager
  busy := other.busy.trans one.busy
  controls := other.controls.trans one.controls
  plugins := other.plugins.trans one.plugins
  said := other.said.trans one.said
  runs := one.runs.trans other.runs

theorem tasks (keeps : Keeps x y) : y.tasks = x.tasks := by
  rw [tasks_eq, keeps.steered, ← tasks_eq]

/-- Starts and stops that are left alone stay in order. -/
theorem orderly (keeps : Keeps x y) (orderly : x.Orderly) : y.Orderly where
  numbered := keeps.numbered
  quiet := by
    rw [keeps.manager]
    exact orderly.quiet
  left c mem k f work := by
    have known : c ∈ y.steered := List.mem_filter.2 ⟨mem, by rw [work]; rfl⟩
    rw [keeps.steered] at known
    rw [keeps.plugins]
    exact orderly.left c (List.mem_filter.1 known).1 k f work
  station := orderly.station.of_same keeps.tasks keeps.published keeps.busy keeps.plugins
    keeps.runs.length (by rw [keeps.manager]) (by rw [keeps.manager]) (by rw [keeps.manager])

/-! ### Operations -/

theorem note (numbered : x.Numbered) (n : Note) : Keeps x (x.note n) := by
  cases n with
  | inFlight b => exact aside numbered (.refl _) (Nat.le_refl _) rfl
  | _ => exact refl numbered

theorem say (numbered : x.Numbered) {e : Effect} (other : e.isSteering = false) :
    Keeps x (x.say e) := by
  refine aside numbered (.refl _) (Nat.le_refl _) ?_
  rw [List.filter_append, List.filter_filter]
  simp [other]

theorem ask (numbered : x.Numbered) (o : Owner) : Keeps x (x.ask o) :=
  aside numbered (.refl _) (Nat.le_succ _) rfl

/-- A call ends that does not belong to starts and stops. -/
theorem finish (numbered : x.Numbered) {id : Nat} (other : ∀ c ∈ x.steered, c.id ≠ id)
    (r : Result) : Keeps x (x.finish id r) :=
  ⟨numbered.finish id r, Nat.le_refl _, steered_finish_of_ne other r, rfl, rfl, rfl, rfl, rfl,
    (say numbered (e := .returned id r) rfl).said, .refl _⟩

theorem onRun (numbered : x.Numbered) (i : Nat) {f : Run → Run}
    (holds : ∀ r, x.runs[i]? = some r → r.Holds (f r)) : Keeps x (x.onRun i f) :=
  aside numbered (.modify holds) (Nat.le_refl _) rfl

theorem onBus (numbered : x.Numbered) (i : Nat) {f : Bus Listener Nat → Bus Listener Nat}
    (tends : ∀ r, x.runs[i]? = some r → Tends r.bus (f r.bus)) : Keeps x (x.onBus i f) :=
  onRun numbered i fun r here => ⟨rfl, rfl, rfl, id, tends r here⟩

theorem of_hears {i : Nat} {e : Switching.Effect} (hears : x.Hears i e y)
    (numbered : x.Numbered) : Keeps x y := by
  cases hears with
  | noted n => exact note numbered n
  | switched _ found | posted found => exact finish numbered (numbered.apart_of_found found rfl) _
  | replied | committed | notified | signalled => exact say numbered rfl
  | asked => exact ask numbered _
  | turned => exact onBus numbered i fun r _ => .of_outer r.bus (m := .returned none) trivial
  | passed => exact refl numbered

/-- What is done for each of a list leaves starts and stops alone if it does for each. -/
theorem foldl {α : Type} {f : Scene → α → Scene} (each : ∀ {x a}, x.Numbered → Keeps x (f x a))
    (numbered : x.Numbered) (as : List α) : Keeps x (as.foldl f x) := by
  induction as generalizing x with
  | nil => exact refl numbered
  | cons a as ih =>
    have first := each (a := a) numbered
    exact first.trans (ih first.numbered)

theorem moveDesk (numbered : x.Numbered) (i : Nat) (q : Switching.Move) :
    Keeps x (x.moveDesk i q) := by
  unfold Scene.moveDesk
  split
  · exact refl numbered
  · next r here =>
    have moved :
        Keeps x (x.onRun i fun s => { s with desk := (Switching.Moment.mk r.desk q).after }) := by
      refine onRun numbered i fun r' there => ⟨rfl, rfl, rfl, fun stopped => ?_, .refl r'.bus⟩
      obtain rfl := Option.some.inj (here.symm.trans there)
      exact Switching.Desk.worker_move_of_stopped stopped q
    exact moved.trans (foldl (fun n => of_hears (hears _ i _) n) moved.numbered _)

end Keeps

/-! ### Steps -/

/-- What is yielded without a desk does not belong to starts and stops. -/
theorem isSteered_of_yields {w : Work} {r : Result} (yields : w.Yields r) :
    w.isSteered = false := by
  cases w <;> first | rfl | exact yields.elim

theorem Step.keeps {x y : Scene × (Nat → Hand)} (step : Step x y) (numbered : x.1.Numbered) :
    Keeps x.1 y.1 := by
  cases step with
  | asked x hand id => exact .ask numbered _
  | answered x hand id c found => exact .aside numbered (.refl _) (Nat.le_refl _) rfl
  | told x hand n other => exact .say numbered rfl
  | bus x hand i m outer => exact .onBus (f := (·.move m)) numbered i fun r _ => .of_outer r.bus outer
  | died x hand h =>
    refine .aside numbered ⟨List.length_map .., fun here => ?_⟩ (Nat.le_refl _) rfl
    exact ⟨_, (List.getElem?_map ..).trans (congrArg _ here), rfl, rfl, rfl, id,
      .of_outer _ (m := .die h) trivial⟩
  | worked x i r here =>
    refine .onBus (f := fun _ => (Bus.Moment.mk r.bus .work).after) numbered i fun r' there => ?_
    obtain rfl := Option.some.inj (here.symm.trans there)
    exact .work r.bus
  | taken x i r here =>
    refine .onBus (f := fun _ => r.bus.take.2) numbered i fun r' there => ?_
    obtain rfl := Option.some.inj (here.symm.trans there)
    exact .take r.bus
  | noted x i n es => exact .note numbered n
  | passed => exact .refl numbered
  | called x i v event es => exact .moveDesk numbered i _
  | found x hand i u => exact .onRun numbered i fun r _ => ⟨rfl, rfl, rfl, id, .refl r.bus⟩
  | setting x hand i q setting =>
    exact .onRun numbered i fun r _ => ⟨rfl, rfl, rfl, fun stopped =>
      Switching.Desk.worker_move_of_stopped stopped q, .refl r.bus⟩
  | ended x hand c r found yields =>
    exact .finish numbered (numbered.apart_of_found found (isSteered_of_yields yields)) r

theorem Steps.keeps {x y : Scene × (Nat → Hand)} (steps : Steps x y) (numbered : x.1.Numbered) :
    Keeps x.1 y.1 := by
  induction steps with
  | refl => exact .refl numbered
  | tail _ step ih => exact ih.trans (step.keeps ih.numbered)

end Scene

end HeadUnit.Service
