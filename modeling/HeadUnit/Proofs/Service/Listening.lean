import HeadUnit.Proofs.Service.Order

/-!
# The listeners of a run

A start registers the desk and the registry with the bus of the run that it has made, one after
the other, before it publishes the run (`Scene.Listens`). So both are attached to the bus of the
published run (`IsRun.attached_of_published`), and the desk of a run that gets its listeners was
never asked for a switch (`IsRun.unasked_of_wiring`).
-/

namespace HeadUnit.Service

open Switching (Desk)
open HeadUnit.Service.System

/-! ## Starts -/

namespace Scene

/-- The listeners of a run are attached to its bus: those that a start has registered, and all of
    them once the run is published. -/
structure Listens (x : Scene) : Prop where
  wired : ∀ {id i : Nat} {left : List Listener} {r : Run} {l : Listener},
    x.tasks = [⟨id, none, .wiring i left⟩] → x.runs[i]? = some r → l.isOwn = true → l ∉ left →
    r.bus.standing.Attached l
  published : ∀ {i : Nat} {r : Run} {l : Listener}, x.published = some i → x.runs[i]? = some r →
    l.isOwn = true → r.bus.standing.Attached l

variable {x y : Scene}

namespace Listens

/-- Nobody takes away the listeners of a run, and no run is published. -/
theorem of_each (listens : x.Listens)
    (each : ∀ {i : Nat} {r' : Run}, y.runs[i]? = some r' →
      ∃ r, x.runs[i]? = some r ∧ Tends r.bus r'.bus)
    (tasks : y.tasks = x.tasks ∨ y.IsSetUp)
    (published : y.published = x.published ∨ y.published = none) : y.Listens where
  wired one there own registered := by
    obtain ⟨r, here, tends⟩ := each there
    rcases tasks with same | setUp
    · exact tends.attached own (listens.wired (same.symm.trans one) here own registered)
    · exact absurd rfl ((setUp _ _ one).2 _ _)
  published out there own := by
    obtain ⟨r, here, tends⟩ := each there
    rcases published with same | withdrawn
    · exact tends.attached own (listens.published (same.symm.trans out) here own)
    · exact nomatch withdrawn.symm.trans out

/-- No run changes. -/
theorem of_runs (listens : x.Listens) (runs : y.runs = x.runs)
    (tasks : y.tasks = x.tasks ∨ y.IsSetUp)
    (published : y.published = x.published ∨ y.published = none) : y.Listens :=
  listens.of_each (fun {_ r'} there => ⟨r', by rwa [← runs], .refl r'.bus⟩) tasks published

end Listens

end Scene

/-- Whatever starts and stops do, the listeners of a run are attached, as long as the one whose turn
    it is is. -/
theorem Steering.listens {x y : Scene} {m : Move} (steering : Steering x m y) (orderly : x.Orderly)
    (registered : ∀ {id i : Nat} {l : Listener} {left : List Listener} {r : Run},
      m = .act (.goOn id) → x.tasks = [⟨id, none, .wiring i (l :: left)⟩] →
      y.tasks = [⟨id, none, .wiring i left⟩] → y.runs[i]? = some r → l.isOwn = true →
      r.bus.standing.Attached l)
    (listens : x.Listens) : y.Listens := by
  refine ⟨fun {_ _ _ _ l'} one there own last => ?_, fun out there own => ?_⟩
  · cases steering.turns orderly with
    | same same =>
      have tasks := same.symm.trans one
      rcases steering.run_back orderly.numbered there with ⟨r, here, bus, -⟩ | ⟨⟨_, building⟩, -⟩
      · rw [bus]
        exact listens.wired tasks here own last
      · cases building.symm.trans tasks
    | begun after => cases Scene.Orderly.eq_of_tasks after one
    | advanced move before after next =>
      rw [Scene.Orderly.eq_of_tasks after one] at next
      cases next.early.2
    | built before after =>
      -- Both listeners are left.
      cases Scene.Orderly.eq_of_tasks after one
      cases l' with
      | desk | registry => simp at last
      | outside id => cases own
    | @accepted _ _ l _ move before after =>
      cases Scene.Orderly.eq_of_tasks after one
      by_cases now : l' = l
      · exact now ▸ registered move before after there (now ▸ own)
      · rcases steering.run_back orderly.numbered there with ⟨r, here, bus, -⟩ | ⟨⟨_, building⟩, -⟩
        · rw [bus]
          exact listens.wired before here own (by simp [now, last])
        · cases building.symm.trans before
    | setUp done => exact absurd rfl ((done _ _ one).2 _ _)
  · have back := steering.published_back orderly.numbered out
    rcases steering.run_back orderly.numbered there with ⟨r, here, bus, -⟩ | ⟨⟨_, building⟩, -⟩
    · rw [bus]
      rcases back with before | ⟨_, tasks⟩
      · exact listens.published before here own
      · exact listens.wired tasks here own List.not_mem_nil
    · -- A run that is made is not published yet.
      rcases back with before | ⟨_, tasks⟩
      · cases (orderly.preparing building rfl).2.2.2.symm.trans before
      · cases building.symm.trans tasks

/-- A run that gets its listeners after the move got some before, or has just been made. -/
theorem Steering.wiring_back {x y : Scene} {m : Move} (steering : Steering x m y)
    (orderly : x.Orderly) {id i : Nat} {left : List Listener}
    (tasks : y.tasks = [⟨id, none, .wiring i left⟩]) :
    (∃ left', x.tasks = [⟨id, none, .wiring i left'⟩]) ∨ i = x.runs.length := by
  cases steering.turns orderly with
  | same same => exact .inl ⟨left, same.symm.trans tasks⟩
  | begun after => cases Scene.Orderly.eq_of_tasks after tasks
  | advanced move before after next =>
    rw [Scene.Orderly.eq_of_tasks after tasks] at next
    cases next.early.2
  | built before after =>
    cases Scene.Orderly.eq_of_tasks after tasks
    exact .inr rfl
  | accepted move before after =>
    cases after.symm.trans tasks
    exact .inl ⟨_, before⟩
  | setUp done => exact absurd rfl ((done _ _ tasks).2 i left)

/-! ## Runs -/

/-- A listener that the bus of a run accepts is attached, unless its removal waits already. -/
theorem System.attached_tryBus {s : System} {i : Nat} {l : Listener} (own : l.isOwn = true)
    (accepted : (s.tryBus i (·.register (.listener l))).2 = none)
    (kept : ∀ r, s.runs[i]? = some r → .removeLocal l ∉ r.bus.standing.orders) {r : Run}
    (there : (s.tryBus i (·.register (.listener l))).1.runs[i]? = some r) :
    r.bus.standing.Attached l := by
  unfold tryBus at accepted there
  cases here : s.runs[i]? with
  | none => simp [here] at accepted
  | some r₀ =>
    cases taken : r₀.bus.register (.listener l) with
    | error f => simp [here, taken] at accepted
    | ok b =>
      simp only [here, taken] at there
      have attached : b.standing.Attached l := Bus.attached_of_register taken (kept r₀ here)
      obtain ⟨r₁, there₁, steps⟩ := (follows_flushBus (s.onBus i fun _ => b) i).origin there
      obtain rfl : r₁ = { r₀ with bus := b } := by
        simpa [onBus, onRun, here] using there₁.symm
      exact (Run.Steps.tends steps).attached own attached

namespace IsRun

variable {h : History} {s : System}

/-- Nobody has asked for the listeners of a run to be removed. -/
theorem kept (run : IsRun h s) {i : Nat} {r : Run} (here : s.runs[i]? = some r) {l : Listener}
    (own : l.isOwn = true) : .removeLocal l ∉ r.bus.standing.orders :=
  run.bus_of_steps (P := fun b => .removeLocal l ∉ b.standing.orders) List.not_mem_nil
    (fun step => step.tends.kept own) here

/-- Whatever a bus has asked for was handed on, in every state of a run. -/
theorem silent (run : IsRun h s) {i : Nat} {r : Run} (here : s.runs[i]? = some r) :
    r.bus.standing.said = [] :=
  run.bus_of_steps (P := fun b => b.standing.said = []) rfl Run.Step.silent here

/-- In every state of a run, the listeners that a start has registered are attached. -/
theorem listens (run : IsRun h s) : s.scene.Listens := by
  induction run with
  | new made w =>
    rw [eq_fresh_of_new made]
    exact ⟨nofun, nofun⟩
  | @step h s m run proper ih =>
    have kept {x : Scene} (keeps : s.scene.Keeps x) : x.Listens := by
      refine ih.of_each (fun there => ?_) (.inl keeps.tasks) (.inl keeps.published)
      obtain ⟨r, here, holds⟩ := keeps.runs.back there
      exact ⟨r, here, holds.bus⟩
    have listens : (Moment.mk s m).outcome.Listens := by
      rcases (run.happening proper).keeps_or_steered run.sink run.orderly.numbered
        with keeps | ⟨x, keeps, steering⟩
      · exact kept keeps
      · refine steering.listens (keeps.orderly run.orderly) ?_ (kept keeps)
        rintro id i l left r rfl tasks turned there own
        -- The start goes on only if the bus has accepted the listener.
        have tasks' : s.scene.tasks = [⟨id, none, .wiring i (l :: left)⟩] :=
          keeps.tasks.symm.trans tasks
        have found : s.call? id = some ⟨id, none, .wiring i (l :: left)⟩ :=
          run.orderly.numbered.call?_of_task tasks'
        have wired : (Moment.mk s (.act (.goOn id))).outcome = (s.wire id i (l :: left)).scene := by
          simp [Moment.outcome, System.move, System.step, System.goOn?, found]
        rw [wired] at turned there
        rcases s.wire_cases id i l left with ⟨accepted, same⟩ | ⟨f, _, same⟩
        · rw [same] at there
          exact attached_tryBus own accepted (fun r here => run.kept here own) there
        · have tried := Scene.Steps.keeps (leads_tryBus s i (.register (.listener l)) trivial (by simp)
            (f := (·.register (.listener l))) fun _ => rfl) run.orderly.numbered
          have aborted : (Scene.turnTo _ id (.aborting f)).tasks = [⟨id, none, .aborting f⟩] :=
            Scene.tasks_turnTo tried.numbered (tried.tasks.trans tasks') rfl
          rw [same] at turned
          cases Scene.Orderly.eq_of_tasks aborted turned
    exact listens.of_runs rfl (.inl rfl) (.inl rfl)

/-- The listeners of the published run are attached. -/
theorem attached_of_published (run : IsRun h s) {i : Nat} {r : Run}
    (published : s.published = some i) (here : s.runs[i]? = some r) {l : Listener}
    (own : l.isOwn = true) : r.bus.standing.Attached l := run.listens.published published here own

/-- Nobody has asked the desk of a run that gets its listeners for a switch. -/
theorem unasked_of_wiring (run : IsRun h s) {id i : Nat} {left : List Listener}
    (tasks : s.scene.tasks = [⟨id, none, .wiring i left⟩]) {r : Run} (here : s.runs[i]? = some r) :
    IsUnasked r.desk.standing := by
  induction run generalizing id left r with
  | new made w =>
    rw [eq_fresh_of_new made] at here
    cases here
  | @step h s m run proper ih =>
    -- A run that was there before got listeners before.
    have before {r : Run} (there : s.runs[i]? = some r) :
        ∃ left', s.scene.tasks = [⟨id, none, .wiring i left'⟩] := by
      rcases (run.happening proper).keeps_or_steered run.sink run.orderly.numbered
        with keeps | ⟨x, keeps, steering⟩
      · exact ⟨left, keeps.tasks.symm.trans tasks⟩
      · rcases steering.wiring_back (keeps.orderly run.orderly) tasks with ⟨left', tasks'⟩ | new
        · exact ⟨left', keeps.tasks.symm.trans tasks'⟩
        · have lt := (List.getElem?_eq_some_iff.1 there).1
          exact absurd (new.trans keeps.runs.length) (Nat.ne_of_lt lt)
    cases ((Moment.mk s m).change proper).turn here with
    | stepped there steps | published there steps =>
      obtain ⟨_, tasks'⟩ := before there
      exact Run.Steps.unasked steps (run.serves there) (ih tasks' there)
    | asked there _ _ published =>
      obtain ⟨_, tasks'⟩ := before there
      obtain ⟨-, -, -, -, withdrawn⟩ := run.orderly.wiring tasks'
      exact nomatch withdrawn.symm.trans published
    | @committed r₀ r₁ c s₁ v fault move there doing =>
      obtain ⟨_, tasks'⟩ := before there
      exact absurd doing ((ih tasks' there).commits c)
    | built bus desk =>
      rw [desk]
      exact .fresh ..

end IsRun

end HeadUnit.Service
