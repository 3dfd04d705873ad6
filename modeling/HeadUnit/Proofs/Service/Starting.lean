import HeadUnit.Proofs.Service.Serving

/-!
# How starts end

A start that returns with a fault leaves the service crashed and nothing published, unless the
service was already running (`IsRun.crashed_of_fault`). The number of a start is not given to
anybody else (`Scene.Begun`), so what returns under it is what starts return: this is kept by
whatever goes on behind the calls (`Scene.Spares`), and read off what starts and stops do.

A crashed service can be started again: once the start has gone on as far as it can by itself
(`startUp`) and all plugins are ready, it is running (`IsRun.restarted`).
-/

namespace HeadUnit.Service

open HeadUnit.Service.System

/-! ## The number of a start -/

/-- Starting the service. -/
def Work.isStart : Work → Bool
  | .loading | .caching _ | .restoring _ | .building | .wiring .. => true
  | .starting _ | .aborting _ => true
  | _ => false

theorem Work.isStart_of_isEarly {w : Work} (early : w.isEarly = true) : w.isStart = true := by
  cases w <;> first | rfl | cases early

def Control.isStart : Control → Bool
  | .start .. => true
  | .stop _ => false

namespace Scene

/-- The number `id` was given out, and whoever has it is a start. -/
structure Begun (x : Scene) (id : Nat) : Prop where
  given : id < x.nextId
  calls : ∀ c ∈ x.calls, c.id = id → c.work.isStart = true
  controls : ∀ c ∈ x.controls, c.call = id → c.isStart = true

/-- From `x` to `y`, no start of the number `id` returns. -/
structure Spares (id : Nat) (x y : Scene) : Prop where
  begun : y.Begun id
  said : ∀ r, .returned id r ∈ y.said → .returned id r ∈ x.said

variable {x y z : Scene} {id : Nat}

/-- A call that waits for something else has another number. -/
theorem Begun.other_of_found (begun : x.Begun id) {k : Nat} {c : Call} (found : x.call? k = some c)
    (ordinary : c.work.isStart = false) : k ≠ id := by
  rintro rfl
  have own : c.id = k := by simpa using List.find?_some found
  exact nomatch (begun.calls c (List.mem_of_find?_eq_some found) own).symm.trans ordinary

namespace Spares

theorem trans (one : Spares id x y) (other : Spares id y z) : Spares id x z :=
  ⟨other.begun, fun r mem => one.said r (other.said r mem)⟩

/-- Neither calls nor controls are touched. -/
theorem aside (begun : x.Begun id) (ids : x.nextId ≤ y.nextId) (calls : y.calls = x.calls)
    (controls : y.controls = x.controls)
    (said : ∀ r, Effect.returned id r ∈ y.said → Effect.returned id r ∈ x.said) : Spares id x y :=
  ⟨⟨Nat.lt_of_lt_of_le begun.given ids, calls ▸ begun.calls, controls ▸ begun.controls⟩, said⟩

theorem refl (begun : x.Begun id) : Spares id x x := ⟨begun, fun _ mem => mem⟩

/-! ### Operations -/

theorem note (begun : x.Begun id) (n : Note) : Spares id x (x.note n) := by
  cases n <;> exact aside begun (Nat.le_refl _) rfl rfl fun _ mem => mem

theorem say (begun : x.Begun id) {e : Effect} (other : ∀ r, e ≠ .returned id r) :
    Spares id x (x.say e) := by
  refine aside begun (Nat.le_refl _) rfl rfl fun r mem => ?_
  rcases List.mem_append.1 mem with old | new
  · exact old
  · exact absurd (List.mem_singleton.1 (List.mem_filter.1 new).1).symm (other r)

theorem finish (begun : x.Begun id) {k : Nat} (other : k ≠ id) (r : Result) :
    Spares id x (x.finish k r) := by
  have fewer : Spares id x { x with calls := x.calls.filter (·.id != k) } :=
    ⟨⟨begun.given, fun c mem => begun.calls c (List.mem_of_mem_filter mem), begun.controls⟩,
      fun _ mem => mem⟩
  refine fewer.trans (say fewer.begun fun r' same => ?_)
  cases same
  exact other rfl

theorem of_hears {i : Nat} {e : Switching.Effect} (hears : x.Hears i e y) (begun : x.Begun id) :
    Spares id x y := by
  cases hears with
  | noted n => exact note begun n
  | switched _ found | posted found => exact finish begun (begun.other_of_found found rfl) _
  | replied | committed | notified | signalled => exact say begun (by simp)
  | asked => exact aside begun (Nat.le_succ _) rfl rfl fun _ mem => mem
  | turned => exact aside begun (Nat.le_refl _) rfl rfl fun _ mem => mem
  | passed => exact refl begun

theorem foldl_hear (begun : x.Begun id) (i : Nat) (es : List Switching.Effect) :
    Spares id x (es.foldl (Scene.hear i) x) := by
  induction es generalizing x with
  | nil => exact refl begun
  | cons e es ih =>
    have first := of_hears (x.hears i e) begun
    exact first.trans (ih first.begun)

theorem moveDesk (begun : x.Begun id) (i : Nat) (q : Switching.Move) :
    Spares id x (x.moveDesk i q) := by
  unfold Scene.moveDesk
  split
  · exact refl begun
  · next r here =>
    have moved : Spares id x
        (x.onRun i fun s => { s with desk := (Switching.Moment.mk r.desk q).after }) :=
      aside begun (Nat.le_refl _) rfl rfl fun _ mem => mem
    exact moved.trans (foldl_hear moved.begun i _)

end Spares

/-! ### Steps -/

/-- What is yielded without a desk is no start. -/
theorem isStart_of_yields {w : Work} {r : Result} (yields : w.Yields r) : w.isStart = false := by
  cases w <;> first | rfl | exact yields.elim

theorem Step.spares {x y : Scene × (Nat → Hand)} (step : Step x y) (begun : x.1.Begun id) :
    Spares id x.1 y.1 := by
  cases step with
  | asked => exact .aside begun (Nat.le_succ _) rfl rfl fun _ mem => mem
  | answered | bus | died | worked | taken | setting | found =>
    exact .aside begun (Nat.le_refl _) rfl rfl fun _ mem => mem
  | told => exact .say begun (by simp)
  | noted x i n es => exact .note begun n
  | passed => exact .refl begun
  | called x i v event es => exact .moveDesk begun i _
  | ended x hand c r found yields =>
    exact .finish begun (begun.other_of_found found (isStart_of_yields yields)) r

theorem Steps.spares {x y : Scene × (Nat → Hand)} (steps : Steps x y) (begun : x.1.Begun id) :
    Spares id x.1 y.1 := by
  induction steps with
  | refl => exact .refl begun
  | tail _ step ih => exact ih.trans (step.spares ih.begun)

/-! ### Calls -/

theorem Opens.spares {m : Move} (opens : x.Opens m y) (begun : x.Begun id) : Spares id x y := by
  cases opens with
  | numbered => exact .aside begun (Nat.le_succ _) rfl rfl fun _ mem => mem
  | waiting deadline w awaits =>
    refine ⟨⟨Nat.lt_succ_of_lt begun.given, fun c mem own => ?_, begun.controls⟩, fun _ mem => mem⟩
    rcases List.mem_append.1 mem with old | new
    · exact begun.calls c old own
    · -- The number of the new call was not given out before.
      rw [List.mem_singleton.1 new] at own
      exact absurd begun.given (own ▸ Nat.lt_irrefl _)

theorem Closes.spares {k : Nat} (closes : x.Closes k y) (begun : x.Begun id) (other : k ≠ id) :
    Spares id x y := by
  cases closes with
  | pending => exact .refl begun
  | returned r => exact .finish begun other r
  | replied r =>
    have said : Spares id x (x.say (.replied k r)) := .say begun (by simp)
    exact said.trans (.finish said.begun other _)

theorem Left.spares {s : System} {m : Move} {k : Nat} (left : x.Left s m k y) (begun : x.Begun id) :
    Spares id x y := by
  cases left with
  | stayed => exact .refl begun
  | left deadline f leaves waits => exact .finish begun (begun.other_of_found waits rfl) _

end Scene

/-! ## Starts and stops -/

/-- A start that returns a fault, of the number `id`, finds the service running or leaves it
    crashed. -/
structure Scene.Settles (id : Nat) (y : Scene) : Prop where
  begun : y.Begun id
  crashed : ∀ f, .returned id (.status (some f)) ∈ y.said → f ≠ .alreadyRunning →
    y.manager.phase = .crashed ∧ y.published = none

namespace Scene

variable {x y : Scene} {id : Nat}

/-- No start returns a fault. -/
theorem Settles.of_none (begun : y.Begun id)
    (none : ∀ f, Effect.returned id (.status (some f)) ∉ y.said) : y.Settles id :=
  ⟨begun, fun f mem => absurd mem (none f)⟩

theorem Spares.settles (spares : Spares id x y) (quiet : x.said = []) : y.Settles id := by
  refine .of_none spares.begun fun f mem => ?_
  have before := spares.said _ mem
  rw [quiet] at before
  exact List.not_mem_nil before

/-- Whoever begins has a number of its own; if it is the one of a start, it is a start. -/
theorem Begins.begun {m : Move} {c : Control} (begins : x.Begins m c y) (begun : x.Begun id) :
    y.Begun id ∧ (c.call = id → c.isStart = true) := by
  cases begins with
  | requested asked =>
    refine ⟨⟨Nat.lt_succ_of_lt begun.given, begun.calls, begun.controls⟩, fun own => ?_⟩
    rw [Move.call_of_control? asked] at own
    exact absurd begun.given (own ▸ Nat.lt_irrefl _)
  | resumed cs move first =>
    have known (k : Control) (mem : k ∈ c :: cs) : k.call = id → k.isStart = true :=
      begun.controls k (first ▸ mem)
    exact ⟨⟨begun.given, begun.calls, fun k mem => known k (List.mem_cons_of_mem c mem)⟩,
      known c List.mem_cons_self⟩

/-- The call of a start waits for something else. -/
theorem Begun.turnTo (begun : x.Begun id) (k : Nat) {w : Work} (start : w.isStart = true) :
    (x.turnTo k w).Begun id where
  given := begun.given
  calls c mem own := by
    obtain ⟨c', before, rfl⟩ := List.mem_map.1 mem
    by_cases same : c'.id = k
    · rw [if_pos same]
      exact start
    · rw [if_neg same] at own ⊢
      exact begun.calls c' before own
  controls := begun.controls

/-- Another call waits for something else. -/
theorem Begun.turnTo_of_ne (begun : x.Begun id) {k : Nat} (other : k ≠ id) {w : Work} :
    (x.turnTo k w).Begun id where
  given := begun.given
  calls c mem own := by
    obtain ⟨c', before, rfl⟩ := List.mem_map.1 mem
    by_cases same : c'.id = k
    · rw [if_pos same] at own
      exact absurd (same.symm.trans own) other
    · rw [if_neg same] at own ⊢
      exact begun.calls c' before own
  controls := begun.controls

/-- A call is made that is one of a start, or has another number. -/
theorem Begun.await (begun : x.Begun id) {k : Nat} {w : Work} (start : k = id → w.isStart = true)
    (deadline : Option Int) : (x.await k deadline w).Begun id := by
  refine ⟨begun.given, fun c mem own => ?_, begun.controls⟩
  rcases List.mem_append.1 mem with old | last
  · exact begun.calls c old own
  · obtain rfl := List.mem_singleton.1 last
    exact start own

/-- A call returns, the first that does. -/
theorem Begun.finish (begun : x.Begun id)
    (none : ∀ f, Effect.returned id (.status (some f)) ∉ x.said) {k : Nat} {r : Result}
    (fault : k = id → ∀ f, r = .status (some f) → f ≠ .alreadyRunning →
      x.manager.phase = .crashed ∧ x.published = .none) : (x.finish k r).Settles id := by
  refine ⟨⟨begun.given, fun c mem => begun.calls c (List.mem_of_mem_filter mem), begun.controls⟩,
    fun f mem other => ?_⟩
  rcases List.mem_append.1 mem with old | new
  · exact absurd old (none f)
  · have same := List.mem_singleton.1 (List.mem_of_mem_filter new)
    cases same
    exact fault rfl f rfl other

/-- From plugin to plugin, no start returns a fault. -/
theorem Begun.prepare (begun : x.Begun id)
    (none : ∀ f, Effect.returned id (.status (some f)) ∉ x.said) (k next : Nat) :
    (x.prepare k next).Settles id := by
  unfold Scene.prepare
  split
  · have turned := begun.turnTo k (w := .starting next) rfl
    refine .of_none ⟨turned.given, turned.calls, turned.controls⟩ fun f mem => ?_
    rcases List.mem_append.1 mem with old | new
    · exact none f old
    · simp [Effect.isLoud] at new
  · have entered : ({ x.enter .running "workers started" with busy := false }).Begun id :=
      ⟨begun.given, begun.calls, begun.controls⟩
    refine entered.finish (fun f mem => ?_) (by simp)
    rcases List.mem_append.1 mem with old | new
    · exact none f old
    · simp [Effect.isLoud] at new

end Scene

theorem Steering.settles {x y : Scene} {m : Move} {id : Nat} (steering : Steering x m y)
    (orderly : x.Orderly) (silent : ∀ f, Effect.returned id (.status (some f)) ∉ x.said)
    (begun : x.Begun id) : y.Settles id := by
  cases steering with
  | idle => exact .of_none begun silent
  | @queued c y begins busy =>
    obtain ⟨begun', start⟩ := begins.begun begun
    obtain ⟨_, _, _, n, cs, rfl⟩ := begins.enters orderly.numbered
    refine .of_none ⟨begun'.given, begun'.calls, fun k mem => ?_⟩ silent
    rcases List.mem_append.1 mem with old | new
    · exact begun'.controls k old
    · exact List.mem_singleton.1 new ▸ start
  | @refused c y begins free unable =>
    obtain ⟨begun', start⟩ := begins.begun begun
    obtain ⟨_, _, _, n, cs, rfl⟩ := begins.enters orderly.numbered
    refine begun'.finish silent fun own f is other => ?_
    -- A start is refused because the service is running.
    cases c with
    | start k parentDone =>
      cases is
      exact absurd rfl other
    | stop k => cases start own
  | @begun k parentDone y begins free able =>
    obtain ⟨begun', _⟩ := begins.begun begun
    obtain ⟨_, _, _, n, cs, rfl⟩ := begins.enters orderly.numbered
    have got : ({ ({ x with nextId := n, controls := cs } : Scene).begin parentDone with
        busy := true } : Scene).Begun id := ⟨begun'.given, begun'.calls, begun'.controls⟩
    refine .of_none (got.await (fun _ => rfl) none) ?_
    simp [Scene.begin, Scene.enter, Scene.say, Scene.await, silent, Effect.isLoud]
  | @advanced k w w' move tasks next =>
    exact .of_none (begun.turnTo k (Work.isStart_of_isEarly next.early.2)) silent
  | broken =>
    have freed : ({ x with busy := false } : Scene).Begun id :=
      ⟨begun.given, begun.calls, begun.controls⟩
    exact freed.finish silent fun _ f is => by cases is
  | @built k r =>
    have made : ({ x with manager := x.manager.join.join, runs := x.runs ++ [r] } : Scene).Begun id :=
      ⟨begun.given, begun.calls, begun.controls⟩
    exact .of_none (made.turnTo k rfl) silent
  | @accepted k => exact .of_none (begun.turnTo k rfl) silent
  | @published k i =>
    have handed : ({ x with published := some i } : Scene).Begun id :=
      ⟨begun.given, begun.calls, begun.controls⟩
    exact handed.prepare silent k 0
  | @stopped k timeout deadline y begins free able =>
    obtain ⟨begun', start⟩ := begins.begun begun
    obtain ⟨_, _, _, n, cs, rfl⟩ := begins.enters orderly.numbered
    refine .of_none ⟨begun'.given, fun c mem own => ?_, begun'.controls⟩ ?_
    · rcases List.mem_append.1 mem with old | last
      · exact begun'.calls c old own
      · -- A stop has another number.
        rw [List.mem_singleton.1 last] at own
        cases start own
    · simp [Scene.halt, Scene.enter, Scene.say, Scene.await, silent, Effect.isLoud]
  | prepared => exact begun.prepare silent _ _
  | @failed k _ f reason | @rejected k _ _ _ f reason =>
    have turned := begun.turnTo k (w := .aborting f) rfl
    exact .of_none ⟨turned.given, turned.calls, turned.controls⟩ silent
  | @aborted k f group reason tasks =>
    have settled : (x.settle .crashed reason).Begun id := ⟨begun.given, begun.calls, begun.controls⟩
    refine settled.finish ?_ fun _ _ _ _ => ?_
    · simp [Scene.settle, Scene.enter, Scene.say, silent, Effect.isLoud]
    · exact ⟨rfl, (orderly.aborting tasks).2⟩
  | @halted k _ _ _ tasks | @expired k _ _ _ tasks =>
    have other := begun.other_of_found (orderly.numbered.call?_of_task tasks) rfl
    refine .of_none ⟨begun.given, (begun.turnTo_of_ne other).calls, begun.controls⟩ ?_
    simp [Scene.turnTo, Scene.settle, Scene.enter, Scene.say, silent, Effect.isLoud]
  | @shut c k f move found work =>
    have other := begun.other_of_found found (by rw [work]; rfl)
    refine .of_none ⟨begun.given, (begun.turnTo_of_ne other).calls, begun.controls⟩ ?_
    simp [Scene.turnTo, Scene.say, silent, Effect.isLoud]
  | @finished c f move found work =>
    have other := begun.other_of_found found (by rw [work]; rfl)
    exact begun.finish silent fun own => absurd own other
  | busReaped | deskReaped | orphaned =>
    exact .of_none ⟨begun.given, begun.calls, begun.controls⟩ silent

theorem Happening.settles {s : System} {m : Move} {y : Scene} {id : Nat}
    (happening : Happening s m y) (wired : s.sink = .service) (orderly : s.scene.Orderly)
    (quiet : s.scene.said = []) (begun : s.scene.Begun id) : y.Settles id := by
  have other : s.nextId ≠ id := (Nat.ne_of_lt begun.given).symm
  cases happening with
  | behind steps => exact (Scene.Steps.spares steps begun).settles quiet
  | performed opens steps closes =>
    have opened := opens.spares begun
    have stepped := opened.trans (Scene.Steps.spares steps opened.begun)
    exact (stepped.trans (closes.spares stepped.begun other)).settles quiet
  | @asked i q x y published asks sees opens left =>
    have opened := opens.spares begun
    have moved := opened.trans (.moveDesk opened.begun i q)
    exact (moved.trans (left.spares moved.begun)).settles quiet
  | left left => exact (left.spares begun).settles quiet
  | worked | stopped | launched | marked => exact (Scene.Spares.moveDesk begun _ _).settles quiet
  | bounded move found work =>
    have apart := begun.other_of_found found (by rw [work]; rfl)
    exact (Scene.Spares.finish begun apart _).settles quiet
  | @tripEnded k i v ticket response fault ends found =>
    have ended : s.scene.Spares id { s.scene with asks := s.scene.asks.filter (·.1 != k) } :=
      .aside begun (Nat.le_refl _) rfl rfl fun _ mem => mem
    exact (ended.trans (.moveDesk ended.begun _ _)).settles quiet
  | @committed i r c t fault move here doing switched =>
    have leads := leads_onSessions s wired .worker (s.sessions.switchTo c.target s.millis)
    rw [switched] at leads
    have stepped := Scene.Steps.spares leads begun
    exact (stepped.trans (.moveDesk stepped.begun _ _)).settles quiet
  | steered steering =>
    exact steering.settles orderly (fun f => by rw [quiet]; exact List.not_mem_nil) begun
  | wired move tasks steps steering =>
    have spares := Scene.Steps.spares steps begun
    have keeps := Scene.Steps.keeps steps orderly.numbered
    refine steering.settles (keeps.orderly orderly) (fun f mem => ?_) spares.begun
    have before := spares.said _ mem
    rw [quiet] at before
    exact List.not_mem_nil before

/-! ### A start that is asked for -/

/-- The next number is the one of a start that is asked for now. -/
theorem Scene.Numbered.begun {x : Scene} (numbered : x.Numbered) :
    ({ x with nextId := x.nextId + 1 } : Scene).Begun x.nextId where
  given := Nat.lt_succ_self _
  calls c mem own := by
    have given := numbered.given c.id (List.mem_append_left _ (List.mem_map_of_mem mem))
    exact absurd given (own ▸ Nat.lt_irrefl _)
  controls c mem own := by
    have given := numbered.given c.call (List.mem_append_right _ (List.mem_map_of_mem mem))
    exact absurd given (own ▸ Nat.lt_irrefl _)

theorem settles_start {s : System} (orderly : s.scene.Orderly) (quiet : s.out = [])
    (parentDone : Bool) :
    (s.step (.start parentDone)).scene.Settles s.nextId := by
  have said : s.scene.said = [] := by
    simp only [scene, quiet, List.filter_nil]
  have begun : s.freshId.2.scene.Begun s.nextId := orderly.numbered.begun
  have silent (f : Fault) :
      Effect.returned s.nextId (.status (some f)) ∉ s.freshId.2.scene.said := by
    rw [scene_freshId, said]
    exact List.not_mem_nil
  dsimp only [step, request]
  split
  · refine .of_none ⟨begun.given, begun.calls, fun c mem own => ?_⟩ silent
    rcases List.mem_append.1 mem with old | new
    · exact begun.controls c old own
    · exact List.mem_singleton.1 new ▸ rfl
  · dsimp only [System.control]
    show Scene.Settles s.nextId (s.freshId.2.startNow s.nextId parentDone).scene
    by_cases able : s.freshId.2.manager.phase.canStart = true
    · rw [scene_startNow (t := s.freshId.2) orderly.quiet able]
      have got : ({ s.freshId.2.scene.begin parentDone with busy := true } : Scene).Begun s.nextId :=
        ⟨begun.given, begun.calls, begun.controls⟩
      refine .of_none (got.await (fun _ => rfl) none) ?_
      simp [Scene.begin, Scene.enter, Scene.say, Scene.await, scene_freshId, said, Effect.isLoud]
    · -- The service is running already, which is the fault that does not count.
      unfold startNow
      rw [if_pos (by simpa using able), scene_finish]
      refine begun.finish silent fun _ f is other => ?_
      cases is
      exact absurd rfl other

/-! ## Runs of the service -/

namespace Scene

variable {x : Scene} {id k : Nat}

theorem prepare_of_lt (more : k < x.plugins) :
    x.prepare id k = (x.turnTo id (.starting k)).say (.initPlugin k) := if_pos more

theorem prepare_of_not_lt (last : ¬k < x.plugins) : x.prepare id k =
    { x.enter .running "workers started" with busy := false }.finish id (.status none) :=
  if_neg last

theorem plugins_prepare (x : Scene) (id k : Nat) : (x.prepare id k).plugins = x.plugins := by
  unfold prepare
  split <;> rfl

end Scene

theorem Steering.plugins {x y : Scene} {m : Move} (steering : Steering x m y)
    (numbered : x.Numbered) : y.plugins = x.plugins := by
  cases steering with
  | queued begins | refused begins | begun begins | stopped begins =>
    obtain ⟨_, _, _, n, cs, rfl⟩ := begins.enters numbered
    rfl
  | published | prepared => exact Scene.plugins_prepare ..
  | _ => rfl

namespace IsRun

variable {h : History} {s : System}

theorem said_eq_nil (run : IsRun h s) : s.scene.said = [] := by
  simp only [scene, run.out_eq_nil, List.filter_nil]

/-- The number of a start that was asked for belongs to it. -/
theorem begun (run : IsRun h s) {n : Moment} (mem : n ∈ h) {parentDone : Bool}
    (asked : n.move = .act (.start parentDone)) : s.scene.Begun n.before.nextId := by
  -- The start is the last move, or its number has been its own before that.
  induction run with
  | new => exact absurd mem List.not_mem_nil
  | @step h s m run proper ih =>
    rcases List.mem_append.1 mem with old | last
    · have settles := (run.happening proper).settles run.sink run.orderly run.said_eq_nil (ih old)
      exact ⟨settles.begun.given, settles.begun.calls, settles.begun.controls⟩
    · obtain rfl := List.mem_singleton.1 last
      obtain rfl : m = .act (.start parentDone) := asked
      have settles := settles_start run.orderly run.out_eq_nil parentDone
      exact ⟨settles.begun.given, settles.begun.calls, settles.begun.controls⟩

/-- A start that returns a fault finds the service running or leaves it crashed. -/
theorem crashed_of_fault (run : IsRun h s) {m : Move} (proper : m.Proper) {n : Moment}
    (mem : n ∈ h ++ [⟨s, m⟩]) {parentDone : Bool} (asked : n.move = .act (.start parentDone))
    {f : Fault} (returned : .returned n.before.nextId (.status (some f)) ∈ (Moment.mk s m).effects)
    (other : f ≠ .alreadyRunning) :
    (Moment.mk s m).after.manager.phase = .crashed ∧ (Moment.mk s m).after.published = none := by
  have settles : (Moment.mk s m).outcome.Settles n.before.nextId := by
    rcases List.mem_append.1 mem with old | last
    · exact (run.happening proper).settles run.sink run.orderly run.said_eq_nil
        (run.begun old asked)
    · obtain rfl := List.mem_singleton.1 last
      obtain rfl : m = .act (.start parentDone) := asked
      exact settles_start run.orderly run.out_eq_nil parentDone
  exact settles.crashed f (List.mem_filter.2 ⟨returned, rfl⟩) other

/-! ### Starting again -/

/-- How many plugins there are does not change. -/
theorem plugins_after (run : IsRun h s) {m : Move} (proper : m.Proper) :
    (Moment.mk s m).after.plugins.length = s.plugins.length := by
  show (Moment.mk s m).outcome.plugins = s.scene.plugins
  rcases (run.happening proper).keeps_or_steered run.sink run.orderly.numbered with
    keeps | ⟨x, keeps, steering⟩
  · exact keeps.plugins
  · exact (steering.plugins keeps.numbered).trans keeps.plugins

end IsRun

/-- The state that a start restores. -/
def System.saved (s : System) : Snapshot :=
  match s.repository.load with
  | .ok st => st
  | .error _ => Snapshot.empty

/-- By these moves, the start `id` returns and the service is running. -/
def ComesUp (h : History) (s : System) (id : Nat) (ms : List Move) : Prop :=
  let t := played h s ms
  t.2.busy = false ∧ t.2.manager.phase = .running ∧
    ∃ n ∈ t.1, .returned id (.status none) ∈ n.effects

namespace ComesUp

variable {h : History} {s : System} {id : Nat} {ms : List Move}

/-- What happened before does not matter. -/
theorem since (up : ComesUp h s id ms) (h' : History) : ComesUp (h ++ h') s id ms := by
  obtain ⟨free, running, n, mem, returned⟩ := up
  rw [played_eq] at free running mem
  rw [ComesUp, played_eq]
  refine ⟨free, running, n, ?_, returned⟩
  rcases List.mem_append.1 mem with old | new
  · exact List.mem_append_left _ (List.mem_append_left _ old)
  · exact List.mem_append_right _ new

/-- A start that waits for something else does not go on by itself. -/
theorem waits (up : ComesUp h s id ms) (silent : s.out = []) (stays : s.goOn? id = none) (n : Nat) :
    ComesUp h s id (List.replicate n (.act (.goOn id)) ++ ms) := by
  have same : (Moment.mk s (.act (.goOn id))).after = s := by
    simp only [Moment.after, System.move, System.step, stays, Option.getD_none, System.take, ← silent]
  induction n generalizing h with
  | zero => exact up
  | succ n ih =>
    have later := ih (up.since [⟨s, .act (.goOn id)⟩])
    rw [List.replicate_succ, List.cons_append, ComesUp, played, same]
    exact later

end ComesUp

/-- The plugins from the `k`-th on get ready. -/
def readyFrom (s : System) (id k : Nat) : List Move :=
  List.replicate (s.plugins.length - k) (.act (.pluginReady id none))

namespace IsRun

variable {h : History} {s : System} {id : Nat}

/-- Once the plugins left are ready, the service is running. -/
theorem readied (run : IsRun h s) {k : Nat} (tasks : s.scene.tasks = [⟨id, none, .starting k⟩]) :
    ComesUp h s id (readyFrom s id k) := by
  have plugin : k < s.scene.plugins := (run.orderly.starting tasks).2.2.2.2
  unfold readyFrom
  -- The induction is on the number of plugins that are left.
  generalize left : s.plugins.length - k = d
  induction d generalizing h s k with
  | zero => exact absurd left (Nat.sub_ne_zero_of_lt plugin)
  | succ d ih =>
    let m : Move := .act (.pluginReady id none)
    have found := run.orderly.numbered.call?_of_task tasks
    have ready : (Moment.mk s m).outcome = s.scene.prepare id (k + 1) :=
      scene_pluginReady run.orderly found
    have after : (Moment.mk s m).after.scene = { s.scene.prepare id (k + 1) with said := [] } := by
      rw [Moment.scene_after, ready]
    have proper : m.Proper := Move.proper_of_offered rfl
    have plugins := run.plugins_after proper
    rw [List.replicate_succ]
    by_cases more : k + 1 < s.scene.plugins
    · have tasks' : (Moment.mk s m).after.scene.tasks = [⟨id, none, .starting (k + 1)⟩] := by
        rw [after, Scene.prepare_of_lt more]
        have control : (Work.starting (k + 1)).isControl = true := rfl
        exact Scene.tasks_turnTo run.orderly.numbered tasks control
      have plugin' : k + 1 < (Moment.mk s m).after.plugins.length := by rwa [plugins]
      exact ih (run.step proper) tasks' plugin' (by rw [plugins]; omega)
    · -- This was the last one.
      obtain rfl : d = 0 := by
        have last : s.plugins.length ≤ k + 1 := Nat.le_of_not_lt more
        omega
      have done := after
      rw [Scene.prepare_of_not_lt more] at done ready
      refine ⟨congrArg Scene.busy done, congrArg (·.manager.phase) done, ⟨s, m⟩,
        List.mem_append_right _ (List.mem_singleton_self _), ?_⟩
      have said : Effect.returned id (.status none) ∈ (Moment.mk s m).outcome.said := by
        rw [ready]
        exact List.mem_append_right _ (List.mem_singleton_self _)
      exact List.mem_of_mem_filter said

/-- The start has come to the plugins. -/
theorem comesUp_of_prepare (run : IsRun h s) {m : Move} (proper : m.Proper) {y : Scene}
    (is : (Moment.mk s m).outcome = y.prepare id 0) (numbered : y.Numbered) {w : Work}
    (tasks : y.tasks = [⟨id, none, w⟩]) (n : Nat) :
    ComesUp h s id (m :: (List.replicate n (.act (.goOn id)) ++ readyFrom s id 0)) := by
  have after : (Moment.mk s m).after.scene = { y.prepare id 0 with said := [] } := by
    rw [Moment.scene_after, is]
  have plugins := run.plugins_after proper
  have same : y.plugins = s.plugins.length := by
    rw [← plugins]
    exact (Scene.plugins_prepare ..).symm.trans (congrArg Scene.plugins after).symm
  have silent : (Moment.mk s m).after.out = [] := rfl
  have ready : readyFrom s id 0 = readyFrom (Moment.mk s m).after id 0 := by
    rw [readyFrom, readyFrom, plugins]
  rw [ready, ComesUp, played]
  by_cases some : 0 < y.plugins
  · have tasks' : (Moment.mk s m).after.scene.tasks = [⟨id, none, .starting 0⟩] := by
      rw [after, Scene.prepare_of_lt some]
      exact Scene.tasks_turnTo numbered tasks rfl
    have found : (Moment.mk s m).after.call? id = .some ⟨id, none, .starting 0⟩ :=
      (run.step proper).orderly.numbered.call?_of_task tasks'
    exact ((run.step proper).readied tasks').waits silent (by simp [goOn?, found]) n
  · have none : s.plugins.length = 0 := same ▸ Nat.eq_zero_of_not_pos some
    rw [Scene.prepare_of_not_lt some] at is after
    have gone : (Moment.mk s m).after.call? id = .none := by
      have calls : (Moment.mk s m).after.calls = y.calls.filter (·.id != id) :=
        congrArg Scene.calls after
      rw [System.call?, calls]
      simp
    refine ComesUp.waits ?_ silent (by simp [goOn?, gone]) n
    have nothing : readyFrom (Moment.mk s m).after id 0 = [] := by
      rw [readyFrom, plugins, none]
      rfl
    rw [nothing]
    refine ⟨congrArg Scene.busy after, congrArg (·.manager.phase) after, ⟨s, m⟩,
      List.mem_append_right _ (List.mem_singleton_self _), ?_⟩
    have said : Effect.returned id (.status .none) ∈ (Moment.mk s m).outcome.said := by
      rw [is]
      exact List.mem_append_right _ (List.mem_singleton_self _)
    exact List.mem_of_mem_filter said

/-- If the service comes up after the start has gone on, it comes up. -/
theorem comesUp_next (run : IsRun h s) (live : ∀ n ∈ h, n.move.isLive = true) {n : Nat}
    (up : IsRun (h ++ [⟨s, .act (.goOn id)⟩]) (Moment.mk s (.act (.goOn id))).after →
      (∀ n ∈ h ++ [⟨s, .act (.goOn id)⟩], n.move.isLive = true) →
      ComesUp (h ++ [⟨s, .act (.goOn id)⟩]) (Moment.mk s (.act (.goOn id))).after id
        (List.replicate n (.act (.goOn id)) ++
          readyFrom (Moment.mk s (.act (.goOn id))).after id 0)) :
    ComesUp h s id (List.replicate (n + 1) (.act (.goOn id)) ++ readyFrom s id 0) := by
  have proper : (Move.act (.goOn id)).Proper := Move.proper_of_offered rfl
  have later := up (run.step proper) fun m mem => by
    rcases List.mem_append.1 mem with old | new
    · exact live m old
    · rw [List.mem_singleton.1 new]
      rfl
  rw [readyFrom, run.plugins_after proper] at later
  exact later

/-- The run gets the listeners left, is published, and the plugins get ready. -/
theorem comesUp_of_wiring (run : IsRun h s) (live : ∀ n ∈ h, n.move.isLive = true) {i : Nat}
    {left : List Listener} (tasks : s.scene.tasks = [⟨id, none, .wiring i left⟩]) {n : Nat}
    (enough : left.length < n) :
    ComesUp h s id (List.replicate n (.act (.goOn id)) ++ readyFrom s id 0) := by
  induction left generalizing h s n with
  | nil =>
    obtain ⟨n, rfl⟩ := Nat.exists_eq_succ_of_ne_zero (Nat.ne_of_gt enough)
    have found : s.call? id = some ⟨id, none, .wiring i []⟩ :=
      run.orderly.numbered.call?_of_task tasks
    have proper : (Move.act (.goOn id)).Proper := Move.proper_of_offered rfl
    have is : (Moment.mk s (.act (.goOn id))).outcome = (s.publish i).scene.prepare id 0 := by
      have made : s.move (.act (.goOn id)) = (s.publish i).nextPlugin id 0 := by
        simp [System.move, System.step, System.goOn?, found, wire]
      rw [Moment.outcome, made]
      exact scene_nextPlugin (s := s.publish i) run.orderly.quiet (run.orderly.wiring tasks).2.2.1 id 0
    rw [List.replicate_succ]
    exact run.comesUp_of_prepare proper is (run.orderly.numbered.of_same rfl rfl rfl) tasks n
  | cons l left ih =>
    obtain ⟨n, rfl⟩ := Nat.exists_eq_succ_of_ne_zero (Nat.ne_of_gt (Nat.zero_lt_of_lt enough))
    have found : s.call? id = some ⟨id, none, .wiring i (l :: left)⟩ :=
      run.orderly.numbered.call?_of_task tasks
    have proper : (Move.act (.goOn id)).Proper := Move.proper_of_offered rfl
    have made : s.move (.act (.goOn id)) = s.wire id i (l :: left) := by
      simp [System.move, System.step, System.goOn?, found]
    have last : s.runs.length = i + 1 := (run.orderly.wiring tasks).2.2.2.1
    obtain ⟨r, here⟩ : ∃ r, s.runs[i]? = some r :=
      ⟨_, List.getElem?_eq_getElem (last ▸ Nat.lt_succ_self i)⟩
    have isOpen := run.isOpen_of_matters live here (.wired tasks here)
    have accepted : (s.tryBus i (·.register (.listener l))).2 = none := by
      simp [tryBus, here, Bus.register, Bus.Offer.check, Bus.post, isOpen.bus, Bind.bind, Except.bind]
    rcases s.wire_cases id i l left with ⟨-, same⟩ | ⟨f, refused, -⟩
    · have tried := Scene.Steps.keeps (leads_tryBus s i (.register (.listener l)) trivial (by simp)
        (f := (·.register (.listener l))) fun _ => rfl) run.orderly.numbered
      have tasks' : (Moment.mk s (.act (.goOn id))).after.scene.tasks =
          [⟨id, none, .wiring i left⟩] := by
        rw [Moment.scene_after, Moment.outcome, made, same]
        exact Scene.tasks_turnTo tried.numbered (tried.tasks.trans tasks) rfl
      exact run.comesUp_next live fun run live => ih run live tasks' (Nat.lt_of_succ_lt_succ enough)
    · cases accepted.symm.trans refused

/-- A run is made, and gets its listeners. -/
theorem comesUp_of_building (run : IsRun h s) (live : ∀ n ∈ h, n.move.isLive = true)
    (tasks : s.scene.tasks = [⟨id, none, .building⟩]) {n : Nat} (enough : 3 < n) :
    ComesUp h s id (List.replicate n (.act (.goOn id)) ++ readyFrom s id 0) := by
  obtain ⟨n, rfl⟩ := Nat.exists_eq_succ_of_ne_zero (Nat.ne_of_gt (Nat.zero_lt_of_lt enough))
  have found : s.call? id = some ⟨id, none, .building⟩ := run.orderly.numbered.call?_of_task tasks
  have made : s.move (.act (.goOn id)) = s.buildRun id := by
    simp [System.move, System.step, System.goOn?, found]
  have tasks' : (Moment.mk s (.act (.goOn id))).after.scene.tasks =
      [⟨id, none, .wiring s.runs.length [.desk, .registry]⟩] := by
    rw [Moment.scene_after, Moment.outcome, made]
    exact Scene.tasks_build run.orderly.numbered tasks
      { bus := ({} : Bus Listener Nat).start
        desk := (Switching.Desk.fresh s.timeout s.config.headless).start
        group := s.manager.current }
  exact run.comesUp_next live fun run live =>
    run.comesUp_of_wiring live tasks' (Nat.lt_of_succ_lt_succ enough)

/-- The registry is restored, which is found whole. -/
theorem comesUp_of_restoring (run : IsRun h s) (live : ∀ n ∈ h, n.move.isLive = true) {st : Snapshot}
    (tasks : s.scene.tasks = [⟨id, none, .restoring st⟩])
    (whole : (s.registry.restore st).broken = false) {n : Nat} (enough : 4 < n) :
    ComesUp h s id (List.replicate n (.act (.goOn id)) ++ readyFrom s id 0) := by
  obtain ⟨n, rfl⟩ := Nat.exists_eq_succ_of_ne_zero (Nat.ne_of_gt (Nat.zero_lt_of_lt enough))
  have found : s.call? id = some ⟨id, none, .restoring st⟩ :=
    run.orderly.numbered.call?_of_task tasks
  have made : s.move (.act (.goOn id)) =
      (s.applyChange (s.registry.restore st)).await' id .building := by
    simp [System.move, System.step, System.goOn?, found, restoreState, whole]
  have tasks' : (Moment.mk s (.act (.goOn id))).after.scene.tasks = [⟨id, none, .building⟩] := by
    rw [Moment.scene_after, Moment.outcome, made, scene_await',
      scene_applyChange s (Registry.plain_restore s.registry st)]
    exact Scene.tasks_turnTo run.orderly.numbered tasks rfl
  exact run.comesUp_next live fun run live =>
    run.comesUp_of_building live tasks' (Nat.lt_of_succ_lt_succ enough)

/-- The state that was read is cached. -/
theorem comesUp_of_caching (run : IsRun h s) (live : ∀ n ∈ h, n.move.isLive = true) {st : Snapshot}
    (tasks : s.scene.tasks = [⟨id, none, .caching st⟩])
    (whole : (s.registry.restore st).broken = false) {n : Nat} (enough : 5 < n) :
    ComesUp h s id (List.replicate n (.act (.goOn id)) ++ readyFrom s id 0) := by
  obtain ⟨n, rfl⟩ := Nat.exists_eq_succ_of_ne_zero (Nat.ne_of_gt (Nat.zero_lt_of_lt enough))
  have found : s.call? id = some ⟨id, none, .caching st⟩ :=
    run.orderly.numbered.call?_of_task tasks
  have made : s.move (.act (.goOn id)) = s.cacheState id st := by
    simp [System.move, System.step, System.goOn?, found]
  have tasks' : (Moment.mk s (.act (.goOn id))).after.scene.tasks = [⟨id, none, .restoring st⟩] := by
    rw [Moment.scene_after, Moment.outcome, made]
    exact Scene.tasks_turnTo run.orderly.numbered tasks rfl
  have same : (Moment.mk s (.act (.goOn id))).after.registry = s.registry := by
    rw [Moment.after, made]
    rfl
  exact run.comesUp_next live fun run live =>
    run.comesUp_of_restoring live tasks' (same ▸ whole) (Nat.lt_of_succ_lt_succ enough)

/-- The persisted state is read, or an empty one taken. -/
theorem comesUp_of_loading (run : IsRun h s) (live : ∀ n ∈ h, n.move.isLive = true)
    (tasks : s.scene.tasks = [⟨id, none, .loading⟩])
    (whole : (s.registry.restore s.saved).broken = false) {n : Nat} (enough : 6 < n) :
    ComesUp h s id (List.replicate n (.act (.goOn id)) ++ readyFrom s id 0) := by
  obtain ⟨n, rfl⟩ := Nat.exists_eq_succ_of_ne_zero (Nat.ne_of_gt (Nat.zero_lt_of_lt enough))
  have found : s.call? id = some ⟨id, none, .loading⟩ := run.orderly.numbered.call?_of_task tasks
  have made : s.move (.act (.goOn id)) = s.readState id := by
    simp [System.move, System.step, System.goOn?, found]
  have same : (Moment.mk s (.act (.goOn id))).after.registry = s.registry := by
    rw [Moment.after, made, readState]
    split <;> rfl
  have less := Nat.lt_of_succ_lt_succ enough
  cases loaded : s.repository.load with
  | ok st =>
    have tasks' : (Moment.mk s (.act (.goOn id))).after.scene.tasks = [⟨id, none, .caching st⟩] := by
      rw [Moment.scene_after, Moment.outcome, made, readState, loaded]
      exact Scene.tasks_turnTo run.orderly.numbered tasks rfl
    rw [saved, loaded] at whole
    exact run.comesUp_next live fun run live =>
      run.comesUp_of_caching live tasks' (same ▸ whole) less
  | error f =>
    have tasks' : (Moment.mk s (.act (.goOn id))).after.scene.tasks =
        [⟨id, none, .restoring Snapshot.empty⟩] := by
      rw [Moment.scene_after, Moment.outcome, made, readState, loaded]
      dsimp only
      rw [scene_await', scene_plain s rfl]
      exact Scene.tasks_turnTo run.orderly.numbered tasks rfl
    rw [saved, loaded] at whole
    exact run.comesUp_next live fun run live =>
      run.comesUp_of_restoring live tasks' (same ▸ whole) (Nat.lt_of_succ_lt less)

/-- A crashed service that finds a state it can restore is running again once it was started and
    all plugins are ready. -/
theorem restarted (run : IsRun h s) (live : ∀ n ∈ h, n.move.isLive = true) (free : s.busy = false)
    (crashed : s.manager.phase = .crashed) (whole : (s.registry.restore s.saved).broken = false) :
    ComesUp h s s.nextId ((startUp s.nextId).map .act ++ readyFrom s s.nextId 0) := by
  let m : Move := .act (.start false)
  have able : s.freshId.2.manager.phase.canStart = true :=
    (congrArg Phase.canStart crashed).trans rfl
  have starts : s.move m = s.freshId.2.startNow s.nextId false := by
    show s.freshId.2.request (.start s.nextId false) = _
    rw [request, if_neg (by simp [freshId, free])]
    rfl
  have tasks : (Moment.mk s m).after.scene.tasks = [⟨s.nextId, none, .loading⟩] := by
    rw [Moment.scene_after, Moment.outcome, starts,
      scene_startNow (t := s.freshId.2) run.orderly.quiet able]
    exact Scene.tasks_await (run.orderly.rest free).1 rfl s.nextId none
  have proper : m.Proper := Move.proper_of_offered rfl
  have live' : ∀ n ∈ h ++ [⟨s, m⟩], n.move.isLive = true := by
    intro n mem
    rcases List.mem_append.1 mem with old | new
    · exact live n old
    · rw [List.mem_singleton.1 new]
      rfl
  -- The registry and what is persisted of it are as they were.
  have same : (Moment.mk s m).after.registry = s.registry ∧
      (Moment.mk s m).after.repository = s.repository := by
    have books : (s.move m).books = s.books := by
      rw [starts, books_startNow]
      rfl
    exact ⟨congrArg Books.registry books, congrArg Books.repository books⟩
  have whole' : ((Moment.mk s m).after.registry.restore (Moment.mk s m).after.saved).broken = false := by
    rw [saved, same.1, same.2]
    exact whole
  have up := (run.step proper).comesUp_of_loading live' tasks whole' (n := 7) (Nat.lt_succ_self 6)
  rw [readyFrom, run.plugins_after proper] at up
  exact up

end IsRun

end HeadUnit.Service
