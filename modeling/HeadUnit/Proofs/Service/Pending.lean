import HeadUnit.Proofs.Service.Order

/-!
# What calls are about to do

Some calls wait for nobody, and yet do not do at once what they have to do: a start takes over the
persisted state step by step, and a change of the bound reaches the registry after the service. In
between anything else may happen.

* `IsRun.early_back`: a start that is under way goes on only by its own step;
* `IsRun.holds_back`: the state that a start holds was read from the repository;
* `Happening.rebounds`: a change of the bound that is under way (`Scene.bounding`) was asked for, and
  goes on by its own step only.
-/

namespace HeadUnit.Service

open HeadUnit.Service.System

namespace Work

/-- Whether the bound of the registry is about to be set. -/
def isBounding : Work → Bool
  | .bounding _ => true
  | _ => false

/-- The state that a start has read and not restored yet. -/
def held? : Work → Option Snapshot
  | .caching st | .restoring st => some st
  | _ => none

theorem isEarly_of_held? {w : Work} {st : Snapshot} (holds : w.held? = some st) :
    w.isEarly = true := by
  cases w <;> first | rfl | cases holds

/-- Starts and stops set no bound. -/
theorem isBounding_of_isControl {w : Work} (control : w.isControl = true) :
    w.isBounding = false := by
  cases w <;> first | rfl | cases control

theorem isSteered_of_isOrdinary {w : Work} (ordinary : w.isOrdinary = true) :
    w.isSteered = false := by
  cases w <;> first | rfl | cases ordinary

theorem isOrdinary_of_yields {w : Work} {r : Result} (yields : w.Yields r) :
    w.isOrdinary = true := by
  cases w <;> first | rfl | exact yields.elim

theorem isBounding_of_isOrdinary {w : Work} (ordinary : w.isOrdinary = true) :
    w.isBounding = false := by
  cases w <;> first | rfl | cases ordinary

end Work

/-- A call is about to do this. -/
def System.Has (s : System) (w : Work) : Prop := ∃ c ∈ s.calls, c.work = w

/-- A start has read the state, and not restored it yet. -/
def System.Holds (s : System) (st : Snapshot) : Prop := ∃ c ∈ s.calls, c.work.held? = some st

/-! ## Starts -/

/-- What a start does that has yet to make a run was its turn before the move, or becomes so by
    its own step. -/
theorem IsRun.early_back {h : History} {s : System} {m : Move} (run : IsRun h s)
    (proper : m.Proper) {c : Call} (mem : c ∈ (Moment.mk s m).after.calls)
    (early : c.work.isEarly = true) :
    c ∈ s.calls ∨ c.work = .loading ∨
      ∃ id w, m = .act (.goOn id) ∧ s.call? id = some ⟨id, none, w⟩ ∧ w.Next c.work := by
  have task : c ∈ (Moment.mk s m).outcome.tasks :=
    List.mem_filter.2 ⟨mem, Work.isControl_of_isEarly early⟩
  rcases (run.happening proper).keeps_or_steered run.sink run.orderly.numbered
    with keeps | ⟨x, keeps, steering⟩
  · rw [keeps.tasks] at task
    exact .inl (List.mem_filter.1 task).1
  · cases steering.turns (keeps.orderly run.orderly) with
    | same same =>
      rw [same, keeps.tasks] at task
      exact .inl (List.mem_filter.1 task).1
    | begun after =>
      rw [after] at task
      exact .inr (.inl (by rw [List.mem_singleton.1 task]))
    | @advanced id w w' move before after next =>
      rw [after] at task
      obtain rfl := List.mem_singleton.1 task
      have found := run.orderly.numbered.call?_of_task (keeps.tasks.symm.trans before)
      exact .inr (.inr ⟨id, w, move, found, next⟩)
    | built before after | accepted move before after =>
      rw [after] at task
      obtain rfl := List.mem_singleton.1 task
      cases early
    | setUp done =>
      have one := (run.step proper).orderly.task_of_mem task
      exact nomatch (done c.id c.work one).1.symm.trans early

/-- A call turns to something else. -/
theorem System.mem_await' {s : System} {id : Nat} {w : Work} {c : Call}
    (mem : c ∈ (s.await' id w).calls) : c ∈ s.calls ∨ c.work = w := by
  obtain ⟨c', mem', rfl⟩ := List.mem_map.1 mem
  split
  · exact .inr rfl
  · exact .inl mem'

/-- A start holds a state that it has held before, or that it has just read; if that failed, the
    state is empty. -/
theorem IsRun.holds_back {h : History} {s : System} {m : Move} (run : IsRun h s)
    (proper : m.Proper) {st : Snapshot} (holds : (Moment.mk s m).after.Holds st) :
    s.Holds st ∨ (Moment.mk s m).after.repository.load = .ok st ∨
      st = Snapshot.empty ∧ ∃ f, (Moment.mk s m).after.repository.load = .error f := by
  obtain ⟨c, mem, held⟩ := holds
  rcases run.early_back proper mem (Work.isEarly_of_held? held) with
    before | loading | ⟨id, w, rfl, found, next⟩
  · exact .inl ⟨c, before, held⟩
  · rw [loading] at held
    cases held
  · generalize kind : c.work = w' at held next
    cases next with
    | cached st' =>
      cases held
      exact .inl ⟨_, List.mem_of_find?_eq_some found, rfl⟩
    | restored => cases held
    | read | lost =>
      have read : s.move (.act (.goOn id)) = s.readState id := by
        simp [System.move, System.step, System.goOn?, found]
      have there : c ∈ (s.move (.act (.goOn id))).calls := mem
      have same : (Moment.mk s (.act (.goOn id))).after.repository = s.repository :=
        (congrArg System.repository read).trans (congrArg Books.repository (books_readState s id))
      rw [read] at there
      rw [same]
      rw [← kind] at held
      unfold readState at there
      split at there
      · next st' loaded =>
        rcases System.mem_await' there with before | turned
        · exact .inl ⟨c, before, held⟩
        · rw [turned] at held
          cases held
          exact .inr (.inl loaded)
      · next f lost =>
        rcases System.mem_await' there with before | turned
        · exact .inl ⟨c, before, held⟩
        · rw [turned] at held
          cases held
          exact .inr (.inr ⟨rfl, f, lost⟩)

/-- A start that is about to make a run was so before, or has just restored a state. -/
theorem IsRun.building_back {h : History} {s : System} {m : Move} (run : IsRun h s)
    (proper : m.Proper) (building : (Moment.mk s m).after.Has .building) :
    s.Has .building ∨ ∃ id st, m = .act (.goOn id) ∧ s.call? id = some ⟨id, none, .restoring st⟩ := by
  obtain ⟨c, mem, work⟩ := building
  rcases run.early_back proper mem (by rw [work]; rfl) with
    before | loading | ⟨id, w, move, found, next⟩
  · exact .inl ⟨c, before, work⟩
  · exact nomatch work.symm.trans loading
  · rw [work] at next
    cases next with
    | restored st => exact .inr ⟨id, st, move, found⟩

/-! ## Changes of the bound -/

namespace Scene

/-- The calls that are about to set the bound. -/
def bounding (x : Scene) : List Call := x.calls.filter (·.work.isBounding)

/-- No call of this number is about to set the bound. -/
def Unbound (x : Scene) (id : Nat) : Prop := ∀ c ∈ x.bounding, c.id ≠ id

variable {x y z : Scene}

theorem Numbered.unbound_of_found (numbered : x.Numbered) {id : Nat} {c : Call}
    (found : x.call? id = some c) (other : c.work.isBounding = false) : x.Unbound id := by
  intro t mem same
  obtain ⟨there, binds⟩ := List.mem_filter.1 mem
  rw [numbered.eq_of_found found there same, other] at binds
  cases binds

theorem Numbered.unbound_of_task (numbered : x.Numbered) {id : Nat} {w : Work}
    (task : x.tasks = [⟨id, none, w⟩]) : x.Unbound id := by
  have control := (List.mem_filter.1 (task ▸ List.mem_singleton_self _)).2
  exact numbered.unbound_of_found (numbered.call?_of_task task)
    (Work.isBounding_of_isControl control)

/-- A number that is not in use. -/
theorem unbound_of_new {id : Nat} (new : id ∉ x.ids) : x.Unbound id := fun c mem same =>
  absurd (List.mem_append_left _ (List.mem_map.2 ⟨c, (List.mem_filter.1 mem).1, same⟩)) new

theorem bounding_finish (x : Scene) (id : Nat) (r : Result) :
    (x.finish id r).bounding = x.bounding.filter (·.id != id) := filter_finish ..

theorem Unbound.bounding_finish {id : Nat} (unbound : x.Unbound id) (r : Result) :
    (x.finish id r).bounding = x.bounding := by
  rw [Scene.bounding_finish]
  exact List.filter_eq_self.2 fun c mem => by simpa using unbound c mem

/-- A call turns from one thing to another that both are no change of the bound. -/
theorem Unbound.bounding_turnTo {id : Nat} (unbound : x.Unbound id) {w : Work}
    (other : w.isBounding = false) : (x.turnTo id w).bounding = x.bounding :=
  filter_turnTo (p := Work.isBounding) unbound other

theorem bounding_await (id : Nat) (deadline : Option Int) {w : Work} (other : w.isBounding = false) :
    (x.await id deadline w).bounding = x.bounding := by
  simp [bounding, await, other]

/-- From `x` to `y`, starts and stops are left alone, and so are changes of the bound. -/
structure Rests (x y : Scene) : Prop where
  keeps : x.Keeps y
  bounding : y.bounding = x.bounding

namespace Rests

theorem refl (numbered : x.Numbered) : Rests x x := ⟨.refl numbered, rfl⟩

theorem trans (one : Rests x y) (other : Rests y z) : Rests x z :=
  ⟨one.keeps.trans other.keeps, other.bounding.trans one.bounding⟩

/-- A call ends that waits for somebody else. -/
theorem finish (numbered : x.Numbered) {id : Nat} {c : Call} (found : x.call? id = some c)
    (ordinary : c.work.isOrdinary = true) (r : Result) : Rests x (x.finish id r) :=
  ⟨.finish numbered (numbered.apart_of_found found (Work.isSteered_of_isOrdinary ordinary)) r,
    (numbered.unbound_of_found found (Work.isBounding_of_isOrdinary ordinary)).bounding_finish r⟩

theorem of_hears {i : Nat} {e : Switching.Effect} (hears : x.Hears i e y) (numbered : x.Numbered) :
    Rests x y := by
  refine ⟨.of_hears hears numbered, ?_⟩
  cases hears with
  | switched _ found | posted found => exact (Rests.finish numbered found rfl _).bounding
  | noted n => cases n <;> rfl
  | replied | asked | committed | notified | signalled | turned | passed => rfl

theorem moveDesk (numbered : x.Numbered) (i : Nat) (q : Switching.Move) :
    Rests x (x.moveDesk i q) := by
  refine ⟨.moveDesk numbered i q, ?_⟩
  unfold Scene.moveDesk
  split
  · rfl
  · next r here =>
    have moved :
        (x.onRun i fun s => { s with desk := (Switching.Moment.mk r.desk q).after }).Numbered :=
      numbered.of_same rfl rfl rfl
    have heard := List.foldlRecOn
      (motive := Rests (x.onRun i fun s => { s with desk := (Switching.Moment.mk r.desk q).after }))
      (Switching.Moment.mk r.desk q).effects _ (.refl moved)
      fun y before e _ => before.trans (of_hears (hears y i e) before.keeps.numbered)
    exact heard.bounding

end Rests

theorem Step.rests {x y : Scene × (Nat → Hand)} (step : Step x y) (numbered : x.1.Numbered) :
    Rests x.1 y.1 := by
  refine ⟨step.keeps numbered, ?_⟩
  cases step with
  | called x i v event es => exact (Rests.moveDesk numbered i _).bounding
  | ended x hand c r found yields =>
    exact (Rests.finish numbered found (Work.isOrdinary_of_yields yields) r).bounding
  | noted x i n => cases n <;> rfl
  | asked | answered | told | bus | died | worked | taken | passed | found | setting => rfl

theorem Steps.rests {x y : Scene × (Nat → Hand)} (steps : Steps x y) (numbered : x.1.Numbered) :
    Rests x.1 y.1 := by
  induction steps with
  | refl => exact .refl numbered
  | tail _ step ih => exact ih.trans (step.rests ih.keeps.numbered)

theorem Left.rests {s : System} {m : Move} {id : Nat} (left : x.Left s m id y)
    (numbered : x.Numbered) : Rests x y := by
  cases left with
  | stayed => exact .refl numbered
  | left deadline f leaves waits => exact .finish numbered waits rfl _

/-- A call that is made may be about to set the bound. -/
theorem Opens.bounding {m : Move} (opens : x.Opens m y) : y.bounding = x.bounding ∨
    ∃ ctx n deadline, m = .act (.perform ctx (.setMaxRunning n)) ∧ 2 ≤ n ∧
      y.bounding = x.bounding ++ [⟨x.nextId, deadline, .bounding n⟩] := by
  cases opens with
  | numbered => exact .inl rfl
  | waiting deadline w awaits =>
    cases awaits with
    | other ordinary =>
      exact .inl (bounding_await (x := { x with nextId := x.nextId + 1 }) _ _
        (Work.isBounding_of_isOrdinary ordinary))
    | @bounding ctx n move enough =>
      refine .inr ⟨ctx, n, deadline, move, enough, ?_⟩
      simp [Scene.bounding, await, Work.isBounding]

/-- A call that returns is not about to set the bound any more. -/
theorem Closes.bounding {id : Nat} (closes : x.Closes id y) :
    y.bounding = x.bounding ∨ y.bounding = x.bounding.filter (·.id != id) := by
  cases closes with
  | pending => exact .inl rfl
  | returned r => exact .inr (bounding_finish ..)
  | replied r => exact .inr (bounding_finish (x.say _) ..)

/-- From plugin to plugin. -/
theorem Numbered.bounding_prepare (numbered : x.Numbered) {id : Nat} {w : Work}
    (task : x.tasks = [⟨id, none, w⟩]) (k : Nat) : (x.prepare id k).bounding = x.bounding := by
  have unbound := numbered.unbound_of_task task
  unfold prepare
  split
  · exact unbound.bounding_turnTo rfl
  · exact Unbound.bounding_finish (x := { x.enter .running "workers started" with busy := false })
      unbound _

end Scene

/-- Starts and stops leave changes of the bound alone. -/
theorem Steering.bounding {x y : Scene} {m : Move} (steering : Steering x m y) (orderly : x.Orderly) :
    y.bounding = x.bounding := by
  have numbered := orderly.numbered
  cases steering with
  | idle | orphaned | busReaped | deskReaped => rfl
  | queued begins =>
    obtain ⟨_, _, _, n, cs, rfl⟩ := begins.enters numbered
    rfl
  | refused begins =>
    obtain ⟨_, new, _, n, cs, rfl⟩ := begins.enters numbered
    exact (Scene.unbound_of_new new).bounding_finish _
  | @begun id parentDone y begins =>
    obtain ⟨_, _, _, n, cs, rfl⟩ := begins.enters numbered
    exact Scene.bounding_await (x := { ({ x with nextId := n, controls := cs } : Scene).begin
      parentDone with busy := true }) id none rfl
  | advanced move tasks next =>
    have early := Work.isBounding_of_isControl (Work.isControl_of_isEarly next.early.2)
    exact (numbered.unbound_of_task tasks).bounding_turnTo early
  | broken move tasks =>
    exact Scene.Unbound.bounding_finish (x := { x with busy := false })
      (numbered.unbound_of_task tasks) _
  | @built id r move tasks new =>
    exact Scene.Unbound.bounding_turnTo
      (x := { x with manager := x.manager.join.join, runs := x.runs ++ [r] })
      (numbered.unbound_of_task tasks) rfl
  | accepted move tasks => exact (numbered.unbound_of_task tasks).bounding_turnTo rfl
  | @rejected id i l left f reason move tasks | @failed id k f reason move tasks =>
    exact Scene.Unbound.bounding_turnTo
      (x := { x with published := none, manager := x.manager.abort id reason })
      (numbered.unbound_of_task tasks) rfl
  | @published id i move tasks =>
    exact Scene.Numbered.bounding_prepare (x := { x with published := some i })
      (numbered.of_same rfl rfl rfl) tasks 0
  | @stopped id timeout deadline y begins =>
    obtain ⟨_, _, _, n, cs, rfl⟩ := begins.enters numbered
    exact Scene.bounding_await _ _ rfl
  | prepared move tasks => exact numbered.bounding_prepare tasks _
  | @aborted id f group reason tasks =>
    exact Scene.Unbound.bounding_finish (x := x.settle .crashed reason)
      (numbered.unbound_of_task tasks) _
  | halted tasks | expired tasks =>
    exact Scene.Unbound.bounding_turnTo (x := x.settle ..) (numbered.unbound_of_task tasks) rfl
  | @shut c k f move found work =>
    exact Scene.Unbound.bounding_turnTo (x := x.say (.shutdownPlugin k))
      (numbered.unbound_of_found found (by rw [work]; rfl)) rfl
  | finished move found work =>
    exact (numbered.unbound_of_found found (by rw [work]; rfl)).bounding_finish _

/-- What becomes of the changes of the bound that are under way: one comes when it is asked for, and
    one goes when the registry takes it over. -/
inductive Scene.Rebounds (s : System) (m : Move) (y : Scene) : Prop
  | same (same : y.bounding = s.scene.bounding)
  | asked {ctx : Context} {n : Int64} {deadline : Option Int}
      (move : m = .act (.perform ctx (.setMaxRunning n))) (enough : 2 ≤ n)
      (after : y.bounding = s.scene.bounding ++ [⟨s.nextId, deadline, .bounding n⟩])
  | taken {c : Call} {n : Int64} (move : m = .act (.goOn c.id)) (found : s.call? c.id = some c)
      (work : c.work = .bounding n) (after : y.bounding = s.scene.bounding.filter (·.id != c.id))

/-- Whoever returns at once leaves the changes of the bound alone. -/
theorem Scene.Rebounds.of_closes {s : System} {m : Move} {x y z : Scene}
    (numbered : s.scene.Numbered) (opens : s.scene.Opens m x) (same : y.bounding = x.bounding)
    (closes : y.Closes s.nextId z) : Rebounds s m z := by
  -- The number of the call was not in use.
  have apart : s.scene.bounding.filter (·.id != s.nextId) = s.scene.bounding := by
    refine List.filter_eq_self.2 fun c mem => ?_
    have given : c.id < s.nextId := numbered.given c.id
      (List.mem_append_left _ (List.mem_map.2 ⟨c, (List.mem_filter.1 mem).1, rfl⟩))
    simpa using Nat.ne_of_lt given
  rcases opens.bounding with before | ⟨ctx, n, deadline, move, enough, more⟩
  · rcases closes.bounding with still | left
    · exact .same (still.trans (same.trans before))
    · exact .same (left.trans (by rw [same, before, apart]))
  · rcases closes.bounding with still | left
    · exact .asked move enough (still.trans (same.trans more))
    · refine .same (left.trans ?_)
      rw [same, more, List.filter_append, apart]
      simp [show s.scene.nextId = s.nextId from rfl]

theorem Happening.rebounds {s : System} {m : Move} {y : Scene} (happening : Happening s m y)
    (wired : s.sink = .service) (orderly : s.scene.Orderly) : Scene.Rebounds s m y := by
  have numbered := orderly.numbered
  cases happening with
  | behind steps => exact .same (Scene.Steps.rests steps numbered).bounding
  | performed opens steps closes =>
    have stepped := Scene.Steps.rests steps (opens.keeps numbered).numbered
    exact .of_closes numbered opens stepped.bounding closes
  | @asked i q x y published asks sees opens left =>
    have moved := Scene.Rests.moveDesk (opens.keeps numbered).numbered i q
    exact .of_closes numbered opens (moved.trans (left.rests moved.keeps.numbered)).bounding .pending
  | left left => exact .same (left.rests numbered).bounding
  | worked move | stopped move | launched move | marked move =>
    exact .same (Scene.Rests.moveDesk numbered _ _).bounding
  | @bounded c n r move found work => exact .taken move found work (Scene.bounding_finish ..)
  | @tripEnded id i v k response fault ends found =>
    exact .same (Scene.Rests.moveDesk
      (x := { s.scene with asks := s.scene.asks.filter (·.1 != id) })
      (numbered.of_same rfl rfl rfl) i _).bounding
  | @committed i r c t fault move here doing switched =>
    have leads := leads_onSessions s wired .worker (s.sessions.switchTo c.target s.millis)
    rw [switched] at leads
    have stepped := Scene.Steps.rests leads numbered
    exact .same (stepped.trans (.moveDesk stepped.keeps.numbered _ _)).bounding
  | steered steering => exact .same (steering.bounding orderly)
  | wired move tasks steps steering =>
    have stepped := Scene.Steps.rests steps numbered
    have steered := steering.bounding (stepped.keeps.orderly orderly)
    exact .same (steered.trans stepped.bounding)

/-- No call sets the bound to fewer than two. -/
theorem IsRun.enough {h : History} {s : System} (run : IsRun h s) {c : Call} {n : Int64}
    (mem : c ∈ s.calls) (work : c.work = .bounding n) : 2 ≤ n := by
  have binds : c ∈ s.scene.bounding := List.mem_filter.2 ⟨mem, by rw [work]; rfl⟩
  clear mem
  induction run generalizing c n with
  | new made w =>
    rw [eq_fresh_of_new made] at binds
    exact absurd binds List.not_mem_nil
  | @step h s m run proper ih =>
    have after : c ∈ (Moment.mk s m).outcome.bounding := binds
    cases (run.happening proper).rebounds run.sink run.orderly with
    | same same => exact ih work (same ▸ after)
    | asked move enough more =>
      rw [more] at after
      rcases List.mem_append.1 after with before | new
      · exact ih work before
      · obtain rfl := List.mem_singleton.1 new
        cases work
        exact enough
    | taken move found kind left =>
      rw [left] at after
      exact ih work (List.mem_filter.1 after).1

end HeadUnit.Service
