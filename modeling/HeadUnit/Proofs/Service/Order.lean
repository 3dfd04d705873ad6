import HeadUnit.Proofs.Service.Happening

/-!
# Starts and stops stay in order

Only what belongs to starts and stops moves the service from one station to the next
(`Steering.orderly`), and starts and stops are in order along every run of a service
(`IsRun.orderly`). With that, every moment of a run is one of the happenings
(`IsRun.happening`).
-/

namespace HeadUnit.Service

open HeadUnit.Service.System

namespace Scene

/-! ### Calls -/

theorem Opens.keeps {m : Move} {x y : Scene} (opens : x.Opens m y) (numbered : x.Numbered) :
    Keeps x y := by
  have new : x.nextId ∉ x.ids := fun mem => Nat.lt_irrefl _ (numbered.given _ mem)
  have one : ({ x with nextId := x.nextId + 1 } : Scene).Numbered :=
    numbered.of_sublist (.refl _) (Nat.le_succ _)
  cases opens with
  | numbered => exact .aside numbered (.refl _) (Nat.le_succ _) rfl
  | waiting deadline w awaits =>
    have perm : (({ x with nextId := x.nextId + 1 }.await x.nextId deadline w).ids).Perm
        (x.nextId :: x.ids) := by
      simp only [ids, await, List.map_append, List.map_cons, List.map_nil, List.append_assoc,
        List.cons_append, List.nil_append]
      exact List.perm_middle
    have steered : ({ x with nextId := x.nextId + 1 }.await x.nextId deadline w).steered =
        x.steered := by
      simp [steered, await, awaits.ordinary]
    exact ⟨one.of_perm perm new (Nat.lt_succ_self _) rfl, Nat.le_succ _, steered, rfl, rfl, rfl,
      rfl, rfl, rfl, .refl _⟩

/-- The call `id` does not belong to starts and stops. -/
theorem Closes.keeps {x y : Scene} {id : Nat} (closes : x.Closes id y) (numbered : x.Numbered)
    (other : ∀ c ∈ x.steered, c.id ≠ id) : Keeps x y := by
  cases closes with
  | pending => exact .refl numbered
  | returned r => exact .finish numbered other r
  | replied r =>
    have said : Keeps x (x.say (.replied id r)) := .say numbered rfl
    exact said.trans (.finish said.numbered other _)

theorem Left.keeps {s : System} {m : Move} {id : Nat} {x y : Scene} (left : x.Left s m id y)
    (numbered : x.Numbered) : Keeps x y := by
  cases left with
  | stayed => exact .refl numbered
  | left deadline f leaves waits =>
    exact .finish numbered (numbered.apart_of_found waits rfl) _

end Scene

/-! ## What starts and stops do -/

namespace Scene

variable {x y : Scene}

/-- Whoever begins has a number that is not in use. -/
structure Enters (x : Scene) (c : Control) (y : Scene) : Prop where
  numbered : y.Numbered
  new : c.call ∉ y.ids
  given : c.call < y.nextId
  same : ∃ n cs, y = { x with nextId := n, controls := cs }

theorem Begins.enters {m : Move} {c : Control} (begins : x.Begins m c y) (numbered : x.Numbered) :
    Enters x c y := by
  cases begins with
  | requested asked =>
    have own := Move.call_of_control? asked
    refine ⟨numbered.of_sublist (.refl _) (Nat.le_succ _), fun mem => ?_, ?_, _, _, rfl⟩
    · exact Nat.lt_irrefl _ (own ▸ numbered.given _ mem)
    · exact own ▸ Nat.lt_succ_self _
  | resumed cs move first =>
    have perm : x.ids.Perm (c.call :: ({ x with controls := cs } : Scene).ids) := by
      simp only [ids, first, List.map_cons]
      exact List.perm_middle
    have nodup := List.nodup_cons.1 (perm.nodup_iff.1 numbered.nodup)
    have given := fun k mem => numbered.given k (perm.symm.subset mem)
    exact ⟨⟨nodup.2, fun k mem => given k (List.mem_cons_of_mem _ mem)⟩, nodup.1,
      given _ List.mem_cons_self, _, _, rfl⟩

/-- A call of a number that is not in use is put among those that have not returned. -/
theorem Numbered.await (numbered : x.Numbered) {id : Nat} (new : id ∉ x.ids) (given : id < x.nextId)
    (deadline : Option Int) (w : Work) : (x.await id deadline w).Numbered := by
  refine numbered.of_perm ?_ new given rfl
  simp only [ids, Scene.await, List.map_append, List.map_cons, List.map_nil, List.append_assoc,
    List.cons_append, List.nil_append]
  exact List.perm_middle

namespace Shutting

/-- A call turns to something else. -/
theorem turnTo (left : x.Shutting) {id : Nat} {w : Work}
    (known : ∀ k f, w = .shutting k f → k ≤ x.plugins) : (x.turnTo id w).Shutting := by
  intro c mem k f work
  obtain ⟨d, there, rfl⟩ := List.mem_map.1 mem
  split at work
  · exact known k f work
  · exact left d there k f work

theorem finish (left : x.Shutting) (id : Nat) (r : Result) : (x.finish id r).Shutting :=
  fun c mem => left c (List.mem_filter.1 mem).1

theorem await (left : x.Shutting) {w : Work} (other : ∀ k f, w ≠ .shutting k f) (id : Nat)
    (deadline : Option Int) : (x.await id deadline w).Shutting := by
  intro c mem k f work
  rcases List.mem_append.1 mem with old | new
  · exact left c old k f work
  · obtain rfl := List.mem_singleton.1 new
    exact absurd work (other k f)

end Shutting

/-- A call that is none of the kind `p` turns to something else that is not. -/
theorem filter_turnTo {p : Work → Bool} {id : Nat}
    (other : ∀ c ∈ x.calls.filter (p ·.work), c.id ≠ id) {w : Work} (out : p w = false) :
    (x.turnTo id w).calls.filter (p ·.work) = x.calls.filter (p ·.work) := by
  have kept : ∀ c ∈ x.calls, p (if c.id = id then { c with work := w } else c).work = p c.work ∧
      (p c.work = true → (if c.id = id then { c with work := w } else c) = c) := by
    intro c mem
    split
    · next own =>
      have apart : p c.work = false := by
        by_contra kind
        exact other c (List.mem_filter.2 ⟨mem, by simpa using kind⟩) own
      exact ⟨out.trans apart.symm, fun kind => nomatch apart.symm.trans kind⟩
    · exact ⟨rfl, fun _ => rfl⟩
  simp only [turnTo, List.filter_map, Function.comp_def]
  rw [List.filter_congr fun c mem => (kept c mem).1]
  refine (List.map_congr_left fun c mem => ?_).trans (List.map_id _)
  obtain ⟨there, kind⟩ := List.mem_filter.1 mem
  exact (kept c there).2 kind

/-- A call that is not under way turns to something else that is not. -/
theorem tasks_turnTo_of_ne {id : Nat} (other : ∀ c ∈ x.tasks, c.id ≠ id) {w : Work}
    (ordinary : w.isControl = false) : (x.turnTo id w).tasks = x.tasks :=
  filter_turnTo (p := Work.isControl) other ordinary

/-- What a stop turns to is under way no more. -/
theorem tasks_turnTo_shutting {c : Call} (one : x.tasks = [c]) (k : Nat) (f : Option Fault) :
    (x.turnTo c.id (.shutting k f)).tasks = [] := by
  refine List.eq_nil_iff_forall_not_mem.2 fun d mem => ?_
  obtain ⟨there, control⟩ := List.mem_filter.1 mem
  obtain ⟨d', mem', rfl⟩ := List.mem_map.1 there
  split at control
  · cases control
  · next other =>
    -- Whoever else is under way would be one more.
    have under : d' ∈ x.tasks := List.mem_filter.2 ⟨mem', control⟩
    rw [one] at under
    exact other (congrArg Call.id (List.mem_singleton.1 under))

/-! ### Starts -/

/-- No start is under way that has yet to publish a run. -/
def IsSetUp (x : Scene) : Prop :=
  ∀ id w, x.tasks = [⟨id, none, w⟩] → w.isEarly = false ∧ ∀ i left, w ≠ .wiring i left

theorem IsSetUp.of_none (none : x.tasks = []) : x.IsSetUp := fun _ _ one =>
  nomatch none.symm.trans one

theorem IsSetUp.of_tasks {id : Nat} {deadline : Option Int} {w : Work}
    (tasks : x.tasks = [⟨id, deadline, w⟩]) (late : w.isEarly = false)
    (other : ∀ i left, w ≠ .wiring i left) : x.IsSetUp := fun _ _ one =>
  Orderly.eq_of_tasks tasks one ▸ ⟨late, other⟩

theorem isSetUp_prepare (numbered : x.Numbered) {id : Nat} {w : Work}
    (tasks : x.tasks = [⟨id, none, w⟩]) (k : Nat) : (x.prepare id k).IsSetUp := by
  unfold prepare
  split
  · exact .of_tasks (tasks_turnTo numbered tasks rfl) rfl fun _ _ => by nofun
  · exact .of_none
      (tasks_finish_own (x := { x.enter .running "workers started" with busy := false }) tasks _)

/-- A start begins. -/
theorem orderly_begin (numbered : x.Numbered) (quiet : x.manager.out = []) (left : x.Shutting)
    (none : x.tasks = []) (waits : x.manager.waits = []) (withdrawn : x.published = Option.none)
    {id : Nat} (new : id ∉ x.ids) (given : id < x.nextId) (parentDone : Bool) :
    ({ x.begin parentDone with busy := true }.await id .none .loading).Orderly :=
  ⟨(numbered.await new given .none .loading).of_same rfl rfl rfl,
    .preparing rfl rfl (tasks_await none rfl id .none) waits rfl withdrawn, quiet,
    left.await (fun k f same => by cases same) id .none⟩

theorem runs_prepare (x : Scene) (id k : Nat) : (x.prepare id k).runs = x.runs := by
  unfold prepare
  split <;> rfl

theorem published_prepare (x : Scene) (id k : Nat) : (x.prepare id k).published = x.published := by
  unfold prepare
  split <;> rfl

/-- From plugin to plugin, until the service is running. -/
theorem orderly_prepare {id : Nat} {w : Work} (numbered : x.Numbered) (quiet : x.manager.out = [])
    (left : x.Shutting) (busy : x.busy = true) (tasks : x.tasks = [⟨id, none, w⟩])
    (waits : x.manager.waits = []) (phase : x.manager.phase = .starting) (serving : x.IsServing)
    (next : Nat) : (x.prepare id next).Orderly := by
  unfold prepare
  split
  · next more =>
    exact ⟨(numbered.turnTo id (.starting next)).of_same rfl rfl rfl,
      .starting busy (tasks_turnTo numbered tasks rfl) waits phase serving more, quiet,
      left.turnTo fun k f same => by cases same⟩
  · refine ⟨(numbered.finish id (.status none)).of_same rfl rfl rfl,
      .resting rfl ?_ waits nofun (.inl ⟨rfl, serving⟩), quiet, left.finish id (.status none)⟩
    exact tasks_finish_own tasks (.status none)

/-- The start has failed. -/
theorem orderly_abort (numbered : x.Numbered) (quiet : x.manager.out = []) (left : x.Shutting)
    (busy : x.busy = true) {id : Nat} {w : Work} (tasks : x.tasks = [⟨id, none, w⟩])
    (waits : x.manager.waits = []) (phase : x.manager.phase = .starting) (f : Fault)
    (reason : String) : (x.abort id f reason).Orderly := by
  have canceled := Lifecycle.Manager.cancelCurrent_eq x.manager
  refine ⟨(numbered.turnTo id (.aborting f)).of_same rfl rfl rfl, ?_, ?_,
    left.turnTo fun k f same => by cases same⟩
  · have wait : (x.abort id f reason).manager.waits =
        [⟨id, (x.abort id f reason).manager.current, .abort reason⟩] := by
      have before : x.manager.cancelCurrent.waits = [] :=
        (congrArg Lifecycle.Manager.waits canceled).trans waits
      simp only [abort, turnTo, Lifecycle.Manager.abort, before, List.nil_append]
    exact .aborting busy (tasks_turnTo numbered tasks rfl) wait
      ((congrArg Lifecycle.Manager.phase canceled).trans phase) rfl
  · exact (congrArg Lifecycle.Manager.out canceled).trans quiet

/-- Workers that join touch nothing else. -/
theorem manager_build (x : Scene) (id : Nat) (r : Run) : (x.build id r).manager =
    { x.manager with groups := (x.build id r).manager.groups } := by
  rw [build, turnTo, Lifecycle.Manager.join_eq, Lifecycle.Manager.join_eq x.manager]

/-- The run that is made gets its listeners. -/
theorem tasks_build (numbered : x.Numbered) {id : Nat} (tasks : x.tasks = [⟨id, none, .building⟩])
    (r : Run) :
    (x.build id r).tasks = [⟨id, none, .wiring x.runs.length [.desk, .registry]⟩] :=
  tasks_turnTo (x := { x with manager := x.manager.join.join, runs := x.runs ++ [r] })
    (numbered.of_same rfl rfl rfl) tasks rfl

/-- A run is one of those before, or the one that was made. -/
theorem run_cases_build {id i : Nat} {r r' : Run} (there : (x.build id r).runs[i]? = some r') :
    x.runs[i]? = some r' ∨ i = x.runs.length ∧ r' = r := by
  rcases Nat.lt_or_ge i x.runs.length with lt | ge
  · exact .inl ((List.getElem?_append_left lt).symm.trans there)
  · have at_end : [r][i - x.runs.length]? = some r' :=
      (List.getElem?_append_right ge).symm.trans there
    obtain ⟨lt, own⟩ := List.getElem?_eq_some_iff.1 at_end
    have zero : i - x.runs.length = 0 := by simpa using lt
    exact .inr ⟨by omega, by simpa [zero] using own.symm⟩

/-- A run is made. -/
theorem orderly_build (numbered : x.Numbered) (quiet : x.manager.out = []) (left : x.Shutting)
    (busy : x.busy = true) {id : Nat} (tasks : x.tasks = [⟨id, none, .building⟩])
    (waits : x.manager.waits = []) (phase : x.manager.phase = .starting)
    (withdrawn : x.published = none) (r : Run) : (x.build id r).Orderly := by
  have joined := manager_build x id r
  refine ⟨(numbered.turnTo id _).of_same rfl rfl rfl,
    .wiring busy (tasks_build numbered tasks r) ?_ ?_ List.length_append withdrawn, ?_, ?_⟩
  · exact (congrArg Lifecycle.Manager.waits joined).trans waits
  · exact (congrArg Lifecycle.Manager.phase joined).trans phase
  · exact (congrArg Lifecycle.Manager.out joined).trans quiet
  · exact Shutting.turnTo (x := { x with manager := x.manager.join.join, runs := x.runs ++ [r] })
      left fun k f same => by cases same

/-! ### Stops -/

/-- The service begins to stop. -/
theorem orderly_halt (numbered : x.Numbered) (quiet : x.manager.out = []) (left : x.Shutting)
    (none : x.tasks = []) (waits : x.manager.waits = []) {id : Nat} (new : id ∉ x.ids)
    (given : id < x.nextId) (timeout : Duration) (deadline : Int) :
    (x.halt id timeout deadline).Orderly := by
  refine ⟨(numbered.await new given .none .stopping).of_same rfl rfl rfl, ?_, ?_,
    left.await (fun k f same => by cases same) id .none⟩
  · have wait : (x.halt id timeout deadline).manager.waits =
        [⟨id, x.manager.current, .shutdown timeout deadline⟩] := by
      simp only [halt, Scene.await, waits, List.nil_append]
    exact .stopping rfl (tasks_await none rfl id .none) wait rfl rfl
  · exact (congrArg Lifecycle.Manager.out (Lifecycle.Manager.cancelCurrent_eq _)).trans quiet

/-- The workers are waited for no more, and the plugins are to be shut down. -/
theorem orderly_turn (numbered : x.Numbered) (quiet : x.manager.out = []) (left : x.Shutting)
    {id : Nat} {w : Work} (tasks : x.tasks = [⟨id, none, w⟩]) (withdrawn : x.published = none)
    {p : Phase} (other : p ≠ .running) (ended : p ≠ .stopping) (reason : String) (f : Option Fault) :
    ((x.settle p reason).turnTo id (.shutting x.plugins f)).Orderly where
  numbered := (numbered.turnTo id _).of_same rfl rfl rfl
  station := .resting rfl (tasks_turnTo_shutting (x := x.settle p reason) tasks _ f) rfl ended
    (.inr ⟨other, withdrawn⟩)
  quiet := quiet
  left := Shutting.turnTo (x := x.settle p reason) left fun k _ same => by
    cases same
    exact Nat.le_refl _

/-! ### Workers -/

/-- A worker that returns is counted in its group, and nothing else. -/
theorem manager_reap (x : Scene) (i : Nat) (group : Option Nat) (f : Run → Run) :
    (x.reap i group f).manager = { x.manager with groups := (x.reap i group f).manager.groups } := by
  cases group <;> rfl

/-- A worker has returned. -/
theorem orderly_reap (orderly : x.Orderly) (i : Nat) (group : Option Nat) (f : Run → Run) :
    (x.reap i group f).Orderly := by
  refine ⟨orderly.numbered.of_same rfl rfl rfl, orderly.station.of_same rfl rfl rfl rfl
    (List.length_modify ..) ?_ ?_ ?_, ?_, orderly.left⟩
  all_goals rw [manager_reap]
  exact orderly.quiet

end Scene

/-- Starts and stops stay in order. -/
theorem Steering.orderly {x y : Scene} {m : Move} (steering : Steering x m y)
    (orderly : x.Orderly) : y.Orderly := by
  have quiet := orderly.quiet
  have left := orderly.left
  cases steering with
  | idle => exact orderly
  | @queued c y begins busy =>
    obtain ⟨numbered, new, given, n, cs, rfl⟩ := begins.enters orderly.numbered
    have perm : ({ x with nextId := n, controls := cs ++ [c] } : Scene).ids.Perm
        (c.call :: ({ x with nextId := n, controls := cs } : Scene).ids) := by
      simp only [Scene.ids, List.map_append, List.map_cons, List.map_nil, ← List.append_assoc]
      exact List.perm_append_singleton ..
    exact ⟨numbered.of_perm perm new given rfl,
      orderly.station.of_same rfl rfl rfl rfl rfl rfl rfl rfl, quiet, left⟩
  | @refused c y begins free unable =>
    obtain ⟨numbered, new, given, n, cs, rfl⟩ := begins.enters orderly.numbered
    obtain ⟨none, _, _, _⟩ := orderly.rest free
    refine ⟨numbered.finish c.call (.status (some c.refusal)), ?_, quiet,
      left.finish c.call (.status (some c.refusal))⟩
    refine orderly.station.of_same ?_ rfl rfl rfl rfl rfl rfl rfl
    rw [none, Scene.tasks_finish]
    exact congrArg (List.filter _) none
  | begun begins free able =>
    obtain ⟨numbered, new, given, n, cs, rfl⟩ := begins.enters orderly.numbered
    obtain ⟨none, waits, _, _⟩ := orderly.rest free
    exact Scene.orderly_begin numbered quiet left none waits (orderly.withdrawn free able) new given _
  | @advanced id w w' move tasks next =>
    obtain ⟨busy, waits, phase, withdrawn⟩ := orderly.preparing tasks next.early.1
    have control := Work.isControl_of_isEarly next.early.2
    exact ⟨(orderly.numbered.turnTo id w').of_same rfl rfl rfl,
      .preparing next.early.2 busy (Scene.tasks_turnTo orderly.numbered tasks control) waits phase
        withdrawn, quiet, left.turnTo fun k f same => by cases same ▸ control⟩
  | @broken id st move tasks =>
    obtain ⟨busy, waits, phase, withdrawn⟩ := orderly.preparing tasks rfl
    have waits' : ({ x with busy := false }.finish id .broken : Scene).manager.waits = [] := waits
    exact ⟨(orderly.numbered.finish id .broken).of_same rfl rfl rfl,
      .resting rfl (Scene.tasks_finish_own tasks .broken) waits' (phase.trans_ne (by decide))
        (.inr ⟨phase.trans_ne (by decide), withdrawn⟩), quiet, left.finish id .broken⟩
  | built move tasks new =>
    obtain ⟨busy, waits, phase, withdrawn⟩ := orderly.preparing tasks rfl
    exact Scene.orderly_build orderly.numbered quiet left busy tasks waits phase withdrawn _
  | @accepted id i l rest move tasks =>
    obtain ⟨busy, waits, phase, last, withdrawn⟩ := orderly.wiring tasks
    exact ⟨(orderly.numbered.turnTo id _).of_same rfl rfl rfl,
      .wiring busy (Scene.tasks_turnTo orderly.numbered tasks rfl) waits phase last withdrawn, quiet,
      left.turnTo fun k f same => by cases same⟩
  | rejected move tasks =>
    obtain ⟨busy, waits, phase, _, _⟩ := orderly.wiring tasks
    exact Scene.orderly_abort orderly.numbered quiet left busy tasks waits phase _ _
  | @published id i move tasks =>
    obtain ⟨busy, waits, phase, last, _⟩ := orderly.wiring tasks
    exact Scene.orderly_prepare (x := { x with published := some i })
      (orderly.numbered.of_same rfl rfl rfl) quiet left busy tasks waits phase ⟨i, last, rfl⟩ 0
  | stopped begins free able =>
    obtain ⟨numbered, new, given, n, cs, rfl⟩ := begins.enters orderly.numbered
    obtain ⟨none, waits, _, _⟩ := orderly.rest free
    exact Scene.orderly_halt numbered quiet left none waits new given _ _
  | prepared move tasks =>
    obtain ⟨busy, waits, phase, serving, _⟩ := orderly.starting tasks
    exact Scene.orderly_prepare orderly.numbered quiet left busy tasks waits phase serving _
  | failed move tasks =>
    obtain ⟨busy, waits, phase, _, _⟩ := orderly.starting tasks
    exact Scene.orderly_abort orderly.numbered quiet left busy tasks waits phase _ _
  | @aborted id f group reason tasks waits ready =>
    have crashed : ((x.settle .crashed reason).finish id (.status (some f))).manager.phase =
        .crashed := rfl
    exact ⟨(orderly.numbered.finish id (.status (some f))).of_same rfl rfl rfl,
      .resting rfl (Scene.tasks_finish_own (x := x.settle .crashed reason) tasks _) rfl
        (crashed.trans_ne (by decide)) (.inr ⟨crashed.trans_ne (by decide),
          (orderly.aborting tasks).2⟩), quiet, left.finish id (.status (some f))⟩
  | halted tasks waits ready =>
    exact Scene.orderly_turn (p := .stopped) orderly.numbered quiet left tasks
      (orderly.stopping tasks).2 (by decide) (by decide) _ _
  | expired tasks waits =>
    exact Scene.orderly_turn (p := .crashed) orderly.numbered quiet left tasks
      (orderly.stopping tasks).2 (by decide) (by decide) _ _
  | @shut c k f move found work =>
    have other := orderly.numbered.other_of_found found (by rw [work]; rfl)
    refine ⟨(orderly.numbered.turnTo c.id _).of_same rfl rfl rfl,
      orderly.station.of_same (Scene.tasks_turnTo_of_ne (x := x.say _) other rfl) rfl rfl rfl rfl rfl
        rfl rfl, quiet, Scene.Shutting.turnTo (x := x.say _) left fun k' f' same => ?_⟩
    cases same
    exact Nat.le_of_succ_le (left c (List.mem_of_find?_eq_some found) _ f work)
  | @finished c f move found work =>
    have other := orderly.numbered.other_of_found found (by rw [work]; rfl)
    exact ⟨orderly.numbered.finish c.id _, orderly.station.of_same
      (Scene.tasks_finish_of_ne other _) rfl rfl rfl rfl rfl rfl rfl, quiet, left.finish c.id _⟩
  | busReaped here finished first => exact Scene.orderly_reap orderly _ _ _
  | deskReaped here finished first => exact Scene.orderly_reap orderly _ _ _
  | orphaned group =>
    exact ⟨orderly.numbered.of_same rfl rfl rfl,
      orderly.station.of_same rfl rfl rfl rfl rfl rfl rfl rfl, quiet, left⟩

/-- What becomes of the start or stop that is under way, as long as no run is published yet. -/
inductive Scene.Turns (x : Scene) (m : Move) (y : Scene) : Prop
  | same (same : y.tasks = x.tasks)
  | begun {id : Nat} (after : y.tasks = [⟨id, none, .loading⟩])
  | advanced {id : Nat} {w w' : Work} (move : m = .act (.goOn id))
      (before : x.tasks = [⟨id, none, w⟩]) (after : y.tasks = [⟨id, none, w'⟩]) (next : w.Next w')
  | built {id : Nat} (before : x.tasks = [⟨id, none, .building⟩])
      (after : y.tasks = [⟨id, none, .wiring x.runs.length [.desk, .registry]⟩])
  | accepted {id i : Nat} {l : Listener} {left : List Listener} (move : m = .act (.goOn id))
      (before : x.tasks = [⟨id, none, .wiring i (l :: left)⟩])
      (after : y.tasks = [⟨id, none, .wiring i left⟩])
  /-- The run is published, or given up. -/
  | setUp (done : y.IsSetUp)

theorem Steering.turns {x y : Scene} {m : Move} (steering : Steering x m y) (orderly : x.Orderly) :
    x.Turns m y := by
  have numbered := orderly.numbered
  cases steering with
  | idle | orphaned | busReaped | deskReaped => exact .same rfl
  | queued begins =>
    obtain ⟨_, _, _, n, cs, rfl⟩ := begins.enters numbered
    exact .same rfl
  | refused begins free =>
    obtain ⟨_, _, _, n, cs, rfl⟩ := begins.enters numbered
    refine .setUp (.of_none ?_)
    rw [Scene.tasks_finish]
    exact congrArg (List.filter _) (orderly.rest free).1
  | @begun id parentDone y begins free =>
    obtain ⟨_, _, _, n, cs, rfl⟩ := begins.enters numbered
    exact .begun (Scene.tasks_await (x := { ({ x with nextId := n, controls := cs } : Scene).begin
      parentDone with busy := true }) (orderly.rest free).1 rfl id none)
  | advanced move before next =>
    have turned := Scene.tasks_turnTo numbered before (Work.isControl_of_isEarly next.early.2)
    exact .advanced move before turned next
  | broken move before =>
    exact .setUp (.of_none
      (Scene.tasks_finish_own (x := { x with busy := false }) before .broken))
  | @built id r move before new => exact .built before (Scene.tasks_build numbered before r)
  | accepted move before => exact .accepted move before (Scene.tasks_turnTo numbered before rfl)
  | rejected move before | failed move before =>
    exact .setUp (.of_tasks (x := x.abort ..) (Scene.tasks_turnTo numbered before rfl) rfl
      fun _ _ => by nofun)
  | @published id i move before =>
    exact .setUp (Scene.isSetUp_prepare (x := { x with published := some i })
      (numbered.of_same rfl rfl rfl) before 0)
  | prepared move before => exact .setUp (Scene.isSetUp_prepare numbered before _)
  | @stopped id timeout deadline y begins free =>
    obtain ⟨_, _, _, n, cs, rfl⟩ := begins.enters numbered
    have one : (({ x with nextId := n, controls := cs } : Scene).halt id timeout deadline).tasks =
        [⟨id, none, .stopping⟩] := Scene.tasks_await (orderly.rest free).1 rfl id none
    exact .setUp (.of_tasks one rfl fun _ _ => by nofun)
  | aborted before =>
    exact .setUp (.of_none (Scene.tasks_finish_own (x := x.settle ..) before _))
  | halted before | expired before =>
    exact .setUp (.of_none (Scene.tasks_turnTo_shutting (x := x.settle ..) before _ _))
  | shut move found work =>
    have apart := numbered.other_of_found found (by rw [work]; rfl)
    exact .same (Scene.tasks_turnTo_of_ne (x := x.say _) apart rfl)
  | finished move found work =>
    have apart := numbered.other_of_found found (by rw [work]; rfl)
    exact .same (Scene.tasks_finish_of_ne apart _)

/-- A run after the move was there before, with its bus, its desk and its group, or was made. -/
theorem Steering.run_back {x y : Scene} {m : Move} (steering : Steering x m y)
    (numbered : x.Numbered) {i : Nat} {r' : Run} (there : y.runs[i]? = some r') :
    (∃ r, x.runs[i]? = some r ∧ r'.bus = r.bus ∧ r'.desk = r.desk ∧ r'.group = r.group) ∨
      (∃ id, x.tasks = [⟨id, none, .building⟩]) ∧ i = x.runs.length ∧
        r'.IsNew x.manager.current := by
  have same {x : Scene} (here : x.runs[i]? = some r') :
      ∃ r, x.runs[i]? = some r ∧ r'.bus = r.bus ∧ r'.desk = r.desk ∧ r'.group = r.group :=
    ⟨r', here, rfl, rfl, rfl⟩
  cases steering with
  | idle | advanced | broken | accepted | rejected | failed | aborted | halted | expired | shut
  | finished | orphaned => exact .inl (same there)
  | queued begins | refused begins | begun begins | stopped begins =>
    obtain ⟨_, _, _, n, cs, rfl⟩ := begins.enters numbered
    exact .inl (same there)
  | published | prepared =>
    rw [Scene.runs_prepare] at there
    exact .inl (same there)
  | built move tasks new =>
    rcases Scene.run_cases_build there with here | ⟨last, rfl⟩
    · exact .inl (same here)
    · exact .inr ⟨⟨_, tasks⟩, last, new⟩
  | busReaped | deskReaped =>
    obtain ⟨r, here, rfl⟩ := origin_modify there
    refine .inl ⟨r, here, ?_⟩
    split <;> exact ⟨rfl, rfl, rfl⟩

/-- A run that is published after the move was published before, or has got all its listeners. -/
theorem Steering.published_back {x y : Scene} {m : Move} (steering : Steering x m y)
    (numbered : x.Numbered) {i : Nat} (out : y.published = some i) :
    x.published = some i ∨ ∃ id, x.tasks = [⟨id, none, .wiring i []⟩] := by
  cases steering with
  | idle | advanced | broken | built | accepted | aborted | halted | expired | shut | finished
  | busReaped | deskReaped | orphaned => exact .inl out
  | queued begins | refused begins | begun begins =>
    obtain ⟨_, _, _, n, cs, rfl⟩ := begins.enters numbered
    exact .inl out
  | rejected | failed | stopped => cases out
  | published move tasks =>
    rw [Scene.published_prepare] at out
    cases out
    exact .inr ⟨_, tasks⟩
  | prepared =>
    rw [Scene.published_prepare] at out
    exact .inl out

/-! ## Runs -/

/-- Whatever does not belong to starts and stops leaves them alone. -/
theorem Happening.keeps_or_steered {s : System} {m : Move} {y : Scene} (happening : Happening s m y)
    (wired : s.sink = .service) (numbered : s.scene.Numbered) :
    s.scene.Keeps y ∨ ∃ x, s.scene.Keeps x ∧ Steering x m y := by
  cases happening with
  | behind steps => exact .inl (Scene.Steps.keeps steps numbered)
  | performed opens steps closes =>
    have opened := opens.keeps numbered
    have stepped := opened.trans (Scene.Steps.keeps steps opened.numbered)
    refine .inl (stepped.trans (closes.keeps stepped.numbered fun c mem same => ?_))
    -- The number of the call was not in use.
    have mem' : c ∈ s.scene.steered := stepped.steered ▸ mem
    have given := numbered.given c.id
      (List.mem_append_left _ (List.mem_map.2 ⟨c, (List.mem_filter.1 mem').1, rfl⟩))
    exact Nat.lt_irrefl _ (same ▸ given)
  | @asked i q x y published asks sees opens left =>
    have opened := opens.keeps numbered
    have moved := opened.trans (.moveDesk opened.numbered i q)
    exact .inl (moved.trans (left.keeps moved.numbered))
  | left left => exact .inl (left.keeps numbered)
  | worked move | stopped move | launched move | marked move => exact .inl (.moveDesk numbered _ _)
  | bounded move found work =>
    exact .inl (.finish numbered (numbered.apart_of_found found (by rw [work]; rfl)) _)
  | @tripEnded id i v k response fault ends found =>
    have ended : s.scene.Keeps { s.scene with asks := s.scene.asks.filter (·.1 != id) } :=
      .aside numbered (.refl _) (Nat.le_refl _) rfl
    exact .inl (ended.trans (.moveDesk ended.numbered _ _))
  | @committed i r c t fault move here doing switched =>
    have leads := leads_onSessions s wired .worker (s.sessions.switchTo c.target s.millis)
    rw [switched] at leads
    have stepped := Scene.Steps.keeps leads numbered
    exact .inl (stepped.trans (.moveDesk stepped.numbered _ _))
  | steered steering => exact .inr ⟨_, .refl numbered, steering⟩
  | wired move tasks steps steering =>
    exact .inr ⟨_, Scene.Steps.keeps steps numbered, steering⟩

namespace Moment

/-- What the system asked for. -/
def effects (m : Moment) : List Effect := (m.before.move m.move).take.1

/-- What goes on after the move, before what was said is taken away. -/
def outcome (m : Moment) : Scene := (m.before.move m.move).scene

theorem scene_after (m : Moment) : m.after.scene = { m.outcome with said := [] } := rfl

theorem said_outcome (m : Moment) : m.outcome.said = m.effects.filter (·.isLoud) := rfl

end Moment

/-- What was said is not part of the order. -/
theorem Scene.Orderly.quieten {x : Scene} (orderly : x.Orderly) :
    ({ x with said := [] } : Scene).Orderly :=
  ⟨orderly.numbered.of_same rfl rfl rfl, orderly.station.of_same rfl rfl rfl rfl rfl rfl rfl rfl,
    orderly.quiet, orderly.left⟩

namespace IsRun

variable {h : History} {s : System}

/-- Between moves nothing is left that the system asked for. -/
theorem out_eq_nil (run : IsRun h s) : s.out = [] := by
  cases run with
  | new made w =>
    rw [eq_fresh_of_new made]
    rfl
  | step => rfl

/-- Starts and stops are in order, in every state of a run. -/
theorem orderly (run : IsRun h s) : s.scene.Orderly := by
  induction run with
  | new made w =>
    rw [eq_fresh_of_new made]
    refine ⟨⟨List.nodup_nil, fun id mem => absurd mem List.not_mem_nil⟩, ?_, rfl,
      fun c mem => absurd mem List.not_mem_nil⟩
    exact .resting rfl rfl rfl nofun (.inr ⟨nofun, rfl⟩)
  | @step h s m run proper ih =>
    have happening := happening_move run.sink ih proper
    rw [Moment.scene_after]
    refine Scene.Orderly.quieten ?_
    rcases happening.keeps_or_steered run.sink ih.numbered with keeps | ⟨x, keeps, steering⟩
    · exact keeps.orderly ih
    · exact steering.orderly (keeps.orderly ih)

/-- Every move of a run is one of the happenings. -/
theorem happening (run : IsRun h s) {m : Move} (proper : m.Proper) :
    Happening s m (Moment.mk s m).outcome := happening_move run.sink run.orderly proper

/-- A run up to one of its moments is a run, and the move was proper. -/
theorem at_moment (run : IsRun h s) {h₁ h₂ : History} {m : Moment} (e : h = h₁ ++ m :: h₂) :
    IsRun h₁ m.before ∧ m.move.Proper := by
  induction run generalizing h₂ with
  | new => simp at e
  | step run proper ih =>
    rcases h₂.eq_nil_or_concat with rfl | ⟨h₂, n, rfl⟩
    · obtain ⟨rfl, rfl⟩ := List.append_singleton_inj.1 e
      exact ⟨run, proper⟩
    · rw [List.concat_eq_append, ← List.cons_append, ← List.append_assoc] at e
      exact ih (List.append_singleton_inj.1 e).1

end IsRun

/-- Actions that offer no listener make a run. -/
theorem isRun_acted (w : Surroundings) {as : List Action}
    (none : ∀ a ∈ as, (Move.act a).offered? = none) : IsRun (acted w as).1 (acted w as).2 :=
  (IsRun.new new_default w).play (Move.proper_of_acts none)

end HeadUnit.Service
