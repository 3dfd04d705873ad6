import HeadUnit.Proofs.Service.Order

/-!
# Plugins get ready and are shut down in turn

A plugin gets ready when a start comes to it, and all plugins are shut down by a stop. In the
history of a plugin the two take turns, beginning with it getting ready, as long as the service
does not start or stop out of a crash: a start that fails leaves the plugins before the failed
one as they are, and a stop shuts all of them down, whether they are ready or not. A stop lets
the next start or stop begin before it shuts down the plugins, so the two may overlap.

The history of a plugin is a list of *marks* (`History.marks`), and its *condition* is known
until the service leaves a crash or such an overlap. The main statement is
`alternates_until_revived`; `ready_twice_after_failed_start` is the history in which a plugin gets
ready twice in a row.
-/

namespace HeadUnit.Service

open HeadUnit.Service.System

/-! ## Marks and conditions -/

/-- One thing in the history of a plugin. -/
inductive Mark
  /-- The plugin got ready. -/
  | ready
  /-- The plugin was shut down. -/
  | down
  /-- The service starts or stops out of a crash. -/
  | revived
  /-- A stop that is still to shut down the plugin overlaps with another start or stop. -/
  | overlapped
  deriving DecidableEq

/-- What is known about a plugin. -/
inductive Condition
  | up
  | down
  | unsure
  deriving DecidableEq

/-- What is known after a mark. -/
def Mark.leaves : Mark → Condition
  | ready => .up
  | down => .down
  | revived | overlapped => .unsure

namespace Condition

/-- Only a plugin that is not up gets ready, and only one that is not down is shut down. -/
def Admits (c : Condition) : Mark → Prop
  | .ready => c ≠ up
  | .down => c ≠ down
  | .revived | .overlapped => True

/-- What is known after the marks. -/
def after (c : Condition) (ms : List Mark) : Condition := ms.foldl (fun _ m => m.leaves) c

end Condition

/-- From the condition `c` on, the plugin gets ready and is shut down in turn. -/
def Alternates (c : Condition) : List Mark → Prop
  | [] => True
  | m :: ms => c.Admits m ∧ Alternates m.leaves ms

instance (c : Condition) : (m : Mark) → Decidable (c.Admits m)
  | .ready => inferInstanceAs (Decidable (c ≠ .up))
  | .down => inferInstanceAs (Decidable (c ≠ .down))
  | .revived | .overlapped => isTrue trivial

instance decidableAlternates : (c : Condition) → (ms : List Mark) → Decidable (Alternates c ms)
  | _, [] => isTrue trivial
  | c, m :: ms =>
    have : Decidable (Alternates m.leaves ms) := decidableAlternates m.leaves ms
    inferInstanceAs (Decidable (c.Admits m ∧ _))

theorem alternates_append {c : Condition} {ms ns : List Mark} :
    Alternates c (ms ++ ns) ↔ Alternates c ms ∧ Alternates (c.after ms) ns := by
  induction ms generalizing c with
  | nil => simp [Alternates, Condition.after]
  | cons m ms ih => simp only [List.cons_append, Alternates, ih, Condition.after,
      List.foldl_cons, and_assoc]

theorem Condition.after_append (c : Condition) (ms ns : List Mark) :
    c.after (ms ++ ns) = (c.after ms).after ns := List.foldl_append

/-- What an effect means for the plugin `p`. -/
def Effect.mark? (p : Nat) : Effect → Option Mark
  | .shutdownPlugin k => if k = p then some .down else none
  | .changed .crashed _ _ => some .revived
  | _ => none

/-- Whether the plugin `p` is still to be shut down. -/
def Work.shuts (p : Nat) : Work → Bool
  | .shutting k _ => p < k
  | _ => false

namespace Scene

/-- How many stops are still to shut down the plugin `p`. -/
def downs (p : Nat) (x : Scene) : Nat := x.calls.countP (·.work.shuts p)

/-- A stop that is still to shut down the plugin `p` is not alone. -/
def overlaps (p : Nat) (x : Scene) : Bool :=
  1 < x.downs p || 0 < x.downs p && !x.manager.phase.canStart

end Scene

namespace Moment

/-- The plugin that gets ready. -/
def ready? (m : Moment) : Option Nat :=
  match m.move with
  | .act (.pluginReady id none) =>
    match m.before.call? id with
    | some ⟨_, _, .starting k⟩ => some k
    | _ => none
  | _ => none

/-- What happens to the plugin `p`. -/
def marks (p : Nat) (m : Moment) : List Mark :=
  (if m.ready? = some p then [.ready] else []) ++ m.effects.filterMap (·.mark? p) ++
    if m.before.scene.overlaps p || m.after.scene.overlaps p then [.overlapped] else []

end Moment

/-- What has happened to the plugin `p` so far, the oldest first. -/
def History.marks (p : Nat) (h : History) : List Mark := h.flatMap (·.marks p)

theorem History.marks_snoc (p : Nat) (h : History) (m : Moment) :
    History.marks p (h ++ [m]) = History.marks p h ++ m.marks p := by
  simp [History.marks]

/-! ## Stops that shut down plugins -/

/-- The plugin that a start has come to. -/
def Work.plugin? : Work → Option Nat
  | .loading | .caching _ | .restoring _ | .building | .wiring .. => some 0
  | .starting k => some k
  | _ => none

theorem Work.plugin?_of_isEarly {w : Work} (early : w.isEarly = true) : w.plugin? = some 0 := by
  cases w <;> first | rfl | cases early

/-- What is under way shuts down no plugin yet. -/
theorem Work.shuts_of_isControl {w : Work} (control : w.isControl = true) (p : Nat) :
    w.shuts p = false := by
  cases w <;> first | rfl | cases control

namespace Scene

variable {x : Scene} {p : Nat}

/-- Only what belongs to starts and stops shuts down plugins. -/
theorem downs_eq (x : Scene) (p : Nat) : x.downs p = x.steered.countP (·.work.shuts p) := by
  rw [downs, steered, List.countP_filter]
  refine List.countP_congr fun c _ => ?_
  cases c.work <;> simp [Work.shuts, Work.isSteered]

theorem downs_await {w : Work} (other : w.shuts p = false) (id : Nat) (deadline : Option Int) :
    (x.await id deadline w).downs p = x.downs p := by
  simp [downs, await, other]

/-- A call ends that shuts down the plugin no more. -/
theorem downs_finish {id : Nat} (other : ∀ c ∈ x.calls, c.id = id → c.work.shuts p = false)
    (r : Result) : (x.finish id r).downs p = x.downs p := by
  rw [downs, finish, say, List.countP_filter, downs]
  refine List.countP_congr fun c mem => ?_
  simp only [Bool.and_eq_true, bne_iff_ne, and_iff_left_iff_imp]
  intro shuts same
  rw [other c mem same] at shuts
  cases shuts

/-- A call turns to something else. -/
theorem downs_turnTo (numbered : x.Numbered) {id : Nat} {c : Call} (found : x.call? id = some c)
    (w : Work) : (x.turnTo id w).downs p + (c.work.shuts p).toNat =
      x.downs p + (w.shuts p).toNat := by
  obtain ⟨own, before, since, calls, -⟩ := List.find?_eq_some_iff_append.1 found
  have own' : c.id = id := by simpa using own
  -- Nobody else has the number.
  have other : ∀ d ∈ before ++ since, d.id ≠ id := by
    have nodup := (List.nodup_append.1 numbered.nodup).1
    rw [calls, List.map_append, List.map_cons, List.nodup_middle, ← List.map_append, own'] at nodup
    exact fun d mem same => (List.nodup_cons.1 nodup).1 (same ▸ List.mem_map_of_mem mem)
  have kept {l : List Call} (others : ∀ d ∈ l, d.id ≠ id) :
      l.map (fun d => if d.id = id then { d with work := w } else d) = l := by
    refine (List.map_congr_left fun d mem => ?_).trans (List.map_id l)
    exact if_neg (others d mem)
  have first := kept fun d mem => other d (List.mem_append_left _ mem)
  have last := kept fun d mem => other d (List.mem_append_right _ mem)
  simp only [downs, turnTo, calls, List.map_append, List.map_cons, first, last, own', if_true,
    List.countP_append, List.countP_cons]
  cases c.work.shuts p <;> cases w.shuts p <;> simp <;> omega

/-- A start or stop goes on. -/
theorem downs_turnTo_of_task (numbered : x.Numbered) {c : Call} (task : x.tasks = [c]) (w : Work) :
    (x.turnTo c.id w).downs p = x.downs p + (w.shuts p).toNat := by
  have control := (List.mem_filter.1 (task ▸ List.mem_singleton_self c)).2
  have turned := downs_turnTo (p := p) numbered (numbered.call?_of_task task) w
  rwa [Work.shuts_of_isControl control] at turned

/-- A start or stop returns. -/
theorem downs_finish_of_task (numbered : x.Numbered) {c : Call} (task : x.tasks = [c])
    (r : Result) : (x.finish c.id r).downs p = x.downs p := by
  have control := (List.mem_filter.1 (task ▸ List.mem_singleton_self c)).2
  refine downs_finish (fun d mem same => ?_) r
  rw [numbered.eq_of_found (numbered.call?_of_task task) mem same]
  exact Work.shuts_of_isControl control p

/-- The plugin `k` gets ready. -/
theorem downs_prepare (numbered : x.Numbered) {c : Call} (task : x.tasks = [c]) (k : Nat) :
    (x.prepare c.id k).downs p = x.downs p := by
  unfold prepare
  split
  · exact downs_turnTo_of_task numbered task (.starting k)
  · exact downs_finish_of_task (x := { x.enter .running "workers started" with busy := false })
      (numbered.of_same rfl rfl rfl) task (.status none)

end Scene

/-! ## Conditions and stations -/

/-- A start that comes to a plugin, or is to, is under way. -/
theorem Scene.Orderly.starting_of_plugin {x : Scene} (orderly : x.Orderly) {id k : Nat} {w : Work}
    (tasks : x.tasks = [⟨id, none, w⟩]) (comes : w.plugin? = some k) :
    x.manager.phase = .starting := by
  cases orderly.station with
  | resting _ one => exact nomatch one.symm.trans tasks
  | preparing _ _ _ _ phase | wiring _ _ _ phase | starting _ _ _ phase => exact phase
  | aborting _ one | stopping _ one =>
    obtain rfl := eq_of_tasks one tasks
    cases comes

/-- What the scene says about the condition `c` of the plugin `p`. -/
structure Fits (p : Nat) (x : Scene) (c : Condition) : Prop where
  /-- There is no such plugin. -/
  beyond : x.plugins ≤ p → c ≠ .up
  /-- The start has come to the plugin `k`. -/
  starting : ∀ {id : Nat} {w : Work} {k : Nat}, x.tasks = [⟨id, none, w⟩] → w.plugin? = some k →
    (p < k → c ≠ .down) ∧ (k ≤ p → c ≠ .up)
  up : x.manager.phase = .running ∨ x.manager.phase = .stopping → p < x.plugins → c ≠ .down
  shutting : 0 < x.downs p → c ≠ .down
  down : x.manager.phase = .stopped → x.downs p = 0 → c ≠ .up

namespace Scene

/-- What was said means this for the plugin `p`. -/
def marks (p : Nat) (x : Scene) : List Mark := x.said.filterMap (·.mark? p)

variable {x : Scene} {p : Nat}

theorem marks_say (e : Effect) (loud : e.isLoud = true) :
    (x.say e).marks p = x.marks p ++ [e].filterMap (·.mark? p) := by
  rw [marks, said_say loud, List.filterMap_append, marks]

theorem marks_finish (id : Nat) (r : Result) : (x.finish id r).marks p = x.marks p :=
  (marks_say _ rfl).trans (List.append_nil _)

/-- A change of the phase means something if it leaves a crash. -/
theorem marks_enter (q : Phase) (reason : String) : (x.enter q reason).marks p =
    x.marks p ++ if x.manager.phase = .crashed then [.revived] else [] := by
  refine (marks_say _ rfl).trans (congrArg _ ?_)
  cases x.manager.phase <;> simp [Effect.mark?]

/-- Only starts and stops mean something for a plugin. -/
theorem Keeps.marks {y : Scene} (keeps : Keeps x y) : y.marks p = x.marks p := by
  have steering (es : List Effect) :
      es.filterMap (·.mark? p) = (es.filter (·.isSteering)).filterMap (·.mark? p) := by
    rw [List.filterMap_filter]
    refine List.filterMap_congr fun e _ => ?_
    cases e <;> rfl
  rw [Scene.marks, steering, keeps.said, ← steering, Scene.marks]

theorem Keeps.downs {y : Scene} (keeps : Keeps x y) : y.downs p = x.downs p := by
  rw [downs_eq, keeps.steered, ← downs_eq]

theorem Keeps.overlaps {y : Scene} (keeps : Keeps x y) : y.overlaps p = x.overlaps p := by
  rw [Scene.overlaps, keeps.downs, keeps.manager, ← Scene.overlaps]

/-- That the next plugin gets ready means nothing for the others. -/
theorem marks_prepare (phase : x.manager.phase = .starting) (id k : Nat) :
    (x.prepare id k).marks p = x.marks p := by
  unfold prepare
  split
  · exact (marks_say _ rfl).trans (List.append_nil _)
  · have entered := marks_enter (x := x) (p := p) .running "workers started"
    rw [phase, if_neg nofun, List.append_nil] at entered
    exact (marks_finish ..).trans entered

/-- Without an overlap, a stop that is still to shut down the plugin has the service to itself. -/
theorem alone_of_downs (alone : x.overlaps p = false) (due : 0 < x.downs p) :
    x.downs p = 1 ∧ x.manager.phase.canStart = true := by
  simp only [overlaps, due, Bool.or_eq_false_iff, decide_eq_false_iff_not] at alone
  exact ⟨by omega, by simpa using alone.2⟩

/-- Without an overlap, a service that is no longer at rest has shut down the plugin. -/
theorem downs_eq_zero (alone : x.overlaps p = false) (active : x.manager.phase.canStart = false) :
    x.downs p = 0 := by
  by_contra due
  exact nomatch active.symm.trans (alone_of_downs alone (Nat.pos_of_ne_zero due)).2

end Scene

/-! ## Steps -/

namespace Fits

variable {p : Nat} {x y : Scene} {c : Condition}

/-- What is known about a plugin hangs on nothing else. -/
theorem of_same (fits : Fits p x c) (plugins : y.plugins = x.plugins) (tasks : y.tasks = x.tasks)
    (phase : y.manager.phase = x.manager.phase) (downs : y.downs p = x.downs p) : Fits p y c := by
  obtain ⟨beyond, starting, up, shutting, down⟩ := fits
  rw [← plugins] at beyond up
  rw [← tasks] at starting
  rw [← phase] at up down
  rw [← downs] at shutting down
  exact ⟨beyond, starting, up, shutting, down⟩

/-- Nothing is known about a plugin. -/
theorem unsure : Fits p x .unsure := ⟨nofun, fun _ _ => ⟨nofun, nofun⟩, nofun, nofun, nofun⟩

/-- A start goes on that does not come to another plugin. -/
theorem turnTo (fits : Fits p x c) (numbered : x.Numbered) {id : Nat} {w w' : Work}
    (task : x.tasks = [⟨id, none, w⟩]) (control : w'.isControl = true)
    (same : w'.plugin? = w.plugin?) : Fits p (x.turnTo id w') c := by
  have downs : (x.turnTo id w').downs p = x.downs p := by
    rw [Scene.downs_turnTo_of_task numbered task, Work.shuts_of_isControl control]
    rfl
  refine ⟨fits.beyond, fun one comes => ?_, fits.up, downs ▸ fits.shutting, downs ▸ fits.down⟩
  have own := (Scene.tasks_turnTo numbered task control).symm.trans one
  simp only [List.cons.injEq, Call.mk.injEq] at own
  obtain ⟨⟨_, _, rfl⟩, _⟩ := own
  exact fits.starting task (same.symm.trans comes)

/-- Of a service that has crashed, nothing is known. -/
theorem of_crash (fits : Fits p x c) (plugins : y.plugins = x.plugins)
    (tasks : ∀ {id w k}, y.tasks = [⟨id, none, w⟩] → w.plugin? ≠ some k)
    (phase : y.manager.phase = .starting ∨ y.manager.phase = .crashed)
    (downs : y.downs p = x.downs p) : Fits p y c where
  beyond := plugins ▸ fits.beyond
  starting one comes := absurd comes (tasks one)
  up is := by rcases phase with e | e <;> rw [e] at is <;> exact is.elim nofun nofun
  shutting := downs ▸ fits.shutting
  down is := by rcases phase with e | e <;> rw [e] at is <;> cases is

/-- The start comes to the plugin `k`, and ends after the last one. -/
theorem prepare {id k : Nat} {w : Work} (numbered : x.Numbered)
    (tasks : x.tasks = [⟨id, none, w⟩]) (phase : x.manager.phase = .starting)
    (beyond : x.plugins ≤ p → c ≠ .up) (before : p < k → c ≠ .down) (since : k ≤ p → c ≠ .up)
    (shutting : 0 < x.downs p → c ≠ .down) : Fits p (x.prepare id k) c := by
  -- The start turns to the plugin `k` if there is one, and returns if there is none.
  have downs : (x.prepare id k).downs p = x.downs p := Scene.downs_prepare numbered tasks k
  have shutting' : 0 < (x.prepare id k).downs p → c ≠ .down := downs ▸ shutting
  clear downs
  unfold Scene.prepare at shutting' ⊢
  by_cases more : k < x.plugins
  · rw [if_pos more] at shutting' ⊢
    refine ⟨beyond, fun one comes => ?_, fun is => ?_, shutting', fun is => ?_⟩
    · have own := (Scene.tasks_turnTo numbered tasks rfl).symm.trans one
      simp only [List.cons.injEq, Call.mk.injEq] at own
      obtain ⟨⟨_, _, rfl⟩, _⟩ := own
      cases comes
      exact ⟨before, since⟩
    · exact is.elim (fun is => nomatch phase.symm.trans is) fun is => nomatch phase.symm.trans is
    · exact nomatch phase.symm.trans is
  · rw [if_neg more] at shutting' ⊢
    refine ⟨beyond, fun one => ?_, fun _ lt => ?_, shutting', nofun⟩
    · exact nomatch (Scene.tasks_finish_own tasks (.status none)).symm.trans one
    · exact before (Nat.lt_of_lt_of_le lt (Nat.le_of_not_lt more))

end Fits

/-- By the marks `ms`, the plugin `p` goes from one condition to the next; while stops overlap,
    nothing is known. -/
def Turns (p : Nat) (c : Condition) (x y : Scene) (ms : List Mark) : Prop :=
  Alternates c ms ∧ (x.overlaps p = false → y.overlaps p = false → Fits p y (c.after ms))

namespace Turns

variable {p : Nat} {x y : Scene} {c : Condition} {ms : List Mark}

/-- Nothing is said that means something. -/
theorem silent (none : ms = []) (fits : x.overlaps p = false → y.overlaps p = false → Fits p y c) :
    Turns p c x y ms := by
  subst none
  exact ⟨trivial, fits⟩

/-- The service leaves the phase of `x`, and if that was a crash, nothing is known. -/
theorem leave (marks : ms = if x.manager.phase = .crashed then [.revived] else [])
    (fits : x.manager.phase ≠ .crashed → y.overlaps p = false → Fits p y c) :
    Turns p c x y ms := by
  by_cases crash : x.manager.phase = .crashed
  · rw [if_pos crash] at marks
    subst marks
    exact ⟨⟨trivial, trivial⟩, fun _ _ => .unsure⟩
  · rw [if_neg crash] at marks
    exact silent marks fun _ => fits crash

/-- The service has stopped, and all plugins are to be shut down. -/
theorem settle (none : x.marks p = []) (fits : Fits p x c) (orderly : x.Orderly)
    {id : Nat} (tasks : x.tasks = [⟨id, .none, .stopping⟩]) {q : Phase}
    (ended : q = .stopped ∨ q = .crashed) (reason : String) (f : Option Fault) :
    Turns p c x ((x.settle q reason).turnTo id (.shutting x.plugins f))
      (((x.settle q reason).turnTo id (.shutting x.plugins f)).marks p) := by
  obtain ⟨phase, -⟩ := orderly.stopping tasks
  have downs : ((x.settle q reason).turnTo id (.shutting x.plugins f)).downs p =
      x.downs p + (decide (p < x.plugins)).toNat :=
    Scene.downs_turnTo_of_task (x := x.settle q reason) (orderly.numbered.of_same rfl rfl rfl)
      tasks (.shutting x.plugins f)
  have tasks' := Scene.tasks_turnTo_shutting (x := x.settle q reason) tasks x.plugins f
  refine .silent ?_ fun alone _ => ?_
  · have entered := Scene.marks_enter (x := x) (p := p) q reason
    rwa [none, phase, if_neg nofun] at entered
  · -- No other stop is still to shut it down, so this one is if there is such a plugin.
    rw [Scene.downs_eq_zero alone (by rw [phase]; rfl), Nat.zero_add] at downs
    refine ⟨fits.beyond, fun one => (nomatch tasks'.symm.trans one), fun is => ?_, fun due => ?_,
      fun _ past => ?_⟩
    · rcases ended with rfl | rfl <;> exact is.elim nofun nofun
    · refine fits.up (.inr phase) ?_
      by_contra beyond
      rw [downs, decide_eq_false beyond] at due
      cases due
    · refine fits.beyond (Nat.le_of_not_lt fun lt => ?_)
      rw [downs, decide_eq_true lt] at past
      cases past

/-- A plugin is shut down. -/
theorem shut (none : x.marks p = []) (fits : Fits p x c) (orderly : x.Orderly) {d : Call} {k : Nat}
    {f : Option Fault} (found : x.call? d.id = some d) (work : d.work = .shutting (k + 1) f) :
    Turns p c x ((x.say (.shutdownPlugin k)).turnTo d.id (.shutting k f))
      (((x.say (.shutdownPlugin k)).turnTo d.id (.shutting k f)).marks p) := by
  let y := (x.say (.shutdownPlugin k)).turnTo d.id (.shutting k f)
  have said : y.marks p = if k = p then [.down] else [] := by
    refine (Scene.marks_say (x := x) (p := p) (.shutdownPlugin k) rfl).trans ?_
    rw [none, List.nil_append]
    by_cases own : k = p
    · simp [Effect.mark?, own]
    · simp [Effect.mark?, own]
  have tasks : y.tasks = x.tasks := Scene.tasks_turnTo_of_ne (x := x.say (.shutdownPlugin k))
    (orderly.numbered.other_of_found found (by rw [work]; rfl)) rfl
  have downs : y.downs p + (d.work.shuts p).toNat = x.downs p + (decide (p < k)).toNat :=
    Scene.downs_turnTo (x := x.say (.shutdownPlugin k)) (orderly.numbered.of_same rfl rfl rfl)
      found (.shutting k f)
  rw [work] at downs
  simp only [Work.shuts] at downs
  by_cases own : k = p
  · rw [if_pos own] at said
    subst own
    have due : x.downs k = y.downs k + 1 := by simpa using downs.symm
    rw [show ((x.say (.shutdownPlugin k)).turnTo d.id (.shutting k f)).marks k = _ from said]
    refine ⟨⟨fits.shutting (due ▸ Nat.succ_pos _), trivial⟩, fun alone _ => ?_⟩
    -- Without an overlap, it was the only stop to do so, and the service has not started again.
    obtain ⟨one, rest⟩ := Scene.alone_of_downs alone (due ▸ Nat.succ_pos _)
    refine ⟨nofun, fun {id w k'} task comes => ?_, fun is => ?_, fun left => ?_, nofun⟩
    · have starting := orderly.starting_of_plugin (tasks.symm.trans task) comes
      exact nomatch (congrArg Phase.canStart starting).symm.trans rest
    · have active : x.manager.phase = .running ∨ x.manager.phase = .stopping := is
      rcases active with is | is <;> exact nomatch (congrArg Phase.canStart is).symm.trans rest
    · exact absurd (one ▸ due) (by have : 0 < y.downs k := left; omega)
  · rw [if_neg own] at said
    have same : y.downs p = x.downs p := by
      have : (decide (p < k + 1)).toNat = (decide (p < k)).toNat :=
        congrArg Bool.toNat (decide_eq_decide.2 ⟨fun lt => by omega, fun lt => by omega⟩)
      omega
    exact .silent said fun _ _ => fits.of_same rfl tasks rfl same

/-- A start goes on that does not come to another plugin. -/
theorem turnTo (none : x.marks p = []) (fits : Fits p x c) (numbered : x.Numbered) {id : Nat}
    {w w' : Work} (tasks : x.tasks = [⟨id, .none, w⟩]) (control : w'.isControl = true)
    (same : w'.plugin? = w.plugin?) : Turns p c x (x.turnTo id w') ((x.turnTo id w').marks p) :=
  .silent none fun _ _ => fits.turnTo numbered tasks control same

/-- A start has failed. -/
theorem abort (none : x.marks p = []) (fits : Fits p x c) (numbered : x.Numbered) {id : Nat}
    {w : Work} (tasks : x.tasks = [⟨id, .none, w⟩]) (phase : x.manager.phase = .starting) (f : Fault)
    (reason : String) : Turns p c x (x.abort id f reason) ((x.abort id f reason).marks p) := by
  have turned : (x.abort id f reason).tasks = [⟨id, .none, .aborting f⟩] :=
    Scene.tasks_turnTo numbered tasks rfl
  have downs : (x.abort id f reason).downs p = x.downs p :=
    Scene.downs_turnTo_of_task numbered tasks (.aborting f)
  refine .silent none fun _ _ => fits.of_crash rfl (fun one comes => ?_) (.inl ?_) downs
  · cases turned.symm.trans one
    cases comes
  · exact (congrArg Lifecycle.Manager.phase (Lifecycle.Manager.cancelCurrent_eq _)).trans phase

/-- A start begins: after a stop, the plugin is down. -/
theorem begin (none : x.marks p = []) (fits : Fits p x c) (tasks : x.tasks = [])
    (able : x.manager.phase.canStart = true) (id : Nat) (parentDone : Bool) :
    Turns p c x ({ x.begin parentDone with busy := true }.await id .none .loading)
      (({ x.begin parentDone with busy := true }.await id .none .loading).marks p) := by
  let y : Scene := { x.begin parentDone with busy := true }
  refine .leave ((Scene.marks_enter ..).trans (congrArg (· ++ _) none)) fun fine alone => ?_
  have stopped : x.manager.phase = .stopped := by
    cases phase : x.manager.phase with
    | stopped => rfl
    | crashed => exact absurd phase fine
    | _ => simp [phase, Phase.canStart] at able
  have downs : (y.await id .none .loading).downs p = x.downs p :=
    Scene.downs_await (x := y) rfl id .none
  have past := Scene.downs_eq_zero alone rfl
  refine ⟨fits.beyond, fun one comes => ?_, (by rintro (is | is) <;> cases is), fun due => ?_,
    (by rintro ⟨⟩)⟩
  · cases (Scene.tasks_await (x := y) tasks rfl id .none).symm.trans one
    cases comes
    exact ⟨fun lt => absurd lt (Nat.not_lt_zero p), fun _ => fits.down stopped (downs.symm.trans past)⟩
  · exact absurd due (by rw [past]; exact Nat.lt_irrefl 0)

/-- A stop begins: the plugin of a service that runs is up. -/
theorem halt (none : x.marks p = []) (fits : Fits p x c) (tasks : x.tasks = [])
    (able : x.manager.phase.canStop = true) (id : Nat) (timeout : Duration) (deadline : Int) :
    Turns p c x (x.halt id timeout deadline) ((x.halt id timeout deadline).marks p) := by
  refine .leave ((Scene.marks_enter ..).trans (congrArg (· ++ _) none)) fun fine alone => ?_
  have running : x.manager.phase = .running := by
    cases phase : x.manager.phase with
    | running => rfl
    | crashed => exact absurd phase fine
    | _ => simp [phase, Phase.canStop] at able
  have past := Scene.downs_eq_zero alone rfl
  refine ⟨fits.beyond, fun one comes => ?_, fun _ => fits.up (.inl running), fun due => ?_,
    (by rintro ⟨⟩)⟩
  · cases (Scene.tasks_await tasks rfl _ .none).symm.trans one
    cases comes
  · exact absurd due (by rw [past]; exact Nat.lt_irrefl 0)

end Turns

/-- What starts and stops do to a plugin, apart from it getting ready. -/
theorem Steering.condition {x y : Scene} {m : Move} (steering : Steering x m y) (orderly : x.Orderly)
    {p : Nat} (none : x.marks p = []) {c : Condition} (fits : Fits p x c)
    (other : ∀ {id k}, x.tasks = [⟨id, .none, .starting k⟩] → m ≠ .act (.pluginReady id .none)) :
    Turns p c x y (y.marks p) := by
  have numbered := orderly.numbered
  cases steering with
  | idle => exact .silent none fun _ _ => fits
  | queued begins busy =>
    obtain ⟨_, _, _, n, cs, rfl⟩ := begins.enters numbered
    exact .silent none fun _ _ => fits.of_same rfl rfl rfl rfl
  | @refused b y begins free =>
    obtain ⟨_, new, _, n, cs, rfl⟩ := begins.enters numbered
    refine .silent ((Scene.marks_finish ..).trans none) fun _ _ => fits.of_same rfl ?_ rfl ?_
    · rw [Scene.tasks_finish, (orderly.rest free).1]
      exact congrArg (List.filter _) (orderly.rest free).1
    · refine Scene.downs_finish (x := { x with nextId := n, controls := cs }) (fun d mem same => ?_) _
      exact absurd (List.mem_append_left _ (List.mem_map.2 ⟨d, mem, same⟩)) new
  | @begun id parentDone y begins free able =>
    obtain ⟨_, _, _, n, cs, rfl⟩ := begins.enters numbered
    have same : Fits p { x with nextId := n, controls := cs } c := fits.of_same rfl rfl rfl rfl
    exact Turns.begin (x := { x with nextId := n, controls := cs }) none same (orderly.rest free).1
      able id parentDone
  | advanced move tasks next =>
    refine .turnTo none fits numbered tasks (Work.isControl_of_isEarly next.early.2) ?_
    rw [Work.plugin?_of_isEarly next.early.1, Work.plugin?_of_isEarly next.early.2]
  | @broken id st move tasks =>
    obtain ⟨_, _, phase, _⟩ := orderly.preparing tasks rfl
    refine .silent ((Scene.marks_finish ..).trans none) fun _ _ =>
      fits.of_crash rfl (fun one => ?_) (.inl phase) ?_
    · cases (Scene.tasks_finish_own (x := { x with busy := false }) tasks .broken).symm.trans one
    · exact Scene.downs_finish_of_task (x := { x with busy := false }) (numbered.of_same rfl rfl rfl)
        tasks .broken
  | @built id r move tasks new =>
    let z : Scene := { x with manager := x.manager.join.join, runs := x.runs ++ [r] }
    have joined := congrArg Lifecycle.Manager.phase (Scene.manager_build x id r)
    have same : Fits p z c := fits.of_same rfl rfl joined rfl
    exact .silent none fun _ _ =>
      same.turnTo (numbered.of_same rfl rfl rfl) tasks rfl rfl
  | accepted move tasks => exact .turnTo none fits numbered tasks rfl rfl
  | rejected move tasks =>
    exact .abort none fits numbered tasks (orderly.wiring tasks).2.2.1 _ _
  | @published id i move tasks =>
    obtain ⟨_, _, phase, _, _⟩ := orderly.wiring tasks
    obtain ⟨before, since⟩ := fits.starting tasks rfl
    refine .silent ((Scene.marks_prepare (x := { x with published := some i }) phase ..).trans none)
      fun _ _ => ?_
    exact .prepare (x := { x with published := some i }) (numbered.of_same rfl rfl rfl) tasks phase
      fits.beyond before since fits.shutting
  | @stopped id timeout deadline y begins free able =>
    obtain ⟨_, _, _, n, cs, rfl⟩ := begins.enters numbered
    have same : Fits p { x with nextId := n, controls := cs } c := fits.of_same rfl rfl rfl rfl
    exact Turns.halt (x := { x with nextId := n, controls := cs }) none same (orderly.rest free).1
      able id timeout deadline
  | prepared move tasks => exact absurd move (other tasks)
  | failed move tasks =>
    exact .abort none fits numbered tasks (orderly.starting tasks).2.2.1 _ _
  | @aborted id f group reason tasks waits ready =>
    refine .silent ?_ fun _ _ => fits.of_crash rfl (fun one => ?_) (.inr rfl) ?_
    · rw [Scene.marks_finish]
      refine (Scene.marks_enter ..).trans ?_
      rw [none, (orderly.aborting tasks).1]
      rfl
    · cases (Scene.tasks_finish_own (x := x.settle .crashed reason) tasks (.status (some f))).symm.trans
        one
    · exact Scene.downs_finish_of_task (x := x.settle .crashed reason) (numbered.of_same rfl rfl rfl)
        tasks (.status (some f))
  | halted tasks waits ready => exact .settle none fits orderly tasks (.inl rfl) _ _
  | expired tasks waits => exact .settle none fits orderly tasks (.inr rfl) _ _
  | shut move found work => exact .shut none fits orderly found work
  | @finished d f move found work =>
    have apart := numbered.other_of_found found (by rw [work]; rfl)
    refine .silent ((Scene.marks_finish ..).trans none) fun _ _ =>
      fits.of_same rfl (Scene.tasks_finish_of_ne apart _) rfl ?_
    refine Scene.downs_finish (fun t mem same => ?_) (.status f)
    rw [numbered.eq_of_found found mem same, work]
    rfl
  | busReaped here finished first | deskReaped here finished first =>
    refine .silent none fun _ _ => fits.of_same rfl rfl ?_ rfl
    rw [Scene.manager_reap]
  | orphaned group => exact .silent none fun _ _ => fits.of_same rfl rfl rfl rfl

/-! ## Runs -/

/-- What is known about the plugin `p`, which is nothing while stops overlap. -/
def Known (p : Nat) (x : Scene) (c : Condition) : Prop :=
  Fits p x c ∧ (x.overlaps p = true → c = .unsure)

/-- An overlap before or after a move leaves nothing that is known. -/
theorem Turns.known {p : Nat} {x y : Scene} {c : Condition} {ms : List Mark}
    (turns : Turns p c x y ms) :
    Alternates c (ms ++ if x.overlaps p || y.overlaps p then [.overlapped] else []) ∧
      Known p y (c.after (ms ++ if x.overlaps p || y.overlaps p then [.overlapped] else [])) := by
  rw [alternates_append, Condition.after_append]
  obtain ⟨alternates, fits⟩ := turns
  by_cases overlaps : (x.overlaps p || y.overlaps p) = true
  · rw [if_pos overlaps]
    exact ⟨⟨alternates, trivial, trivial⟩, .unsure, fun _ => rfl⟩
  · rw [if_neg overlaps]
    obtain ⟨before, after⟩ : x.overlaps p = false ∧ y.overlaps p = false := by simpa using overlaps
    exact ⟨⟨alternates, trivial⟩, fits before after, fun yes => nomatch after.symm.trans yes⟩

theorem Moment.marks_eq (m : Moment) (p : Nat) :
    m.marks p = ((if m.ready? = some p then [.ready] else []) ++ m.outcome.marks p) ++
      if m.before.scene.overlaps p || m.outcome.overlaps p then [.overlapped] else [] := by
  have loud : m.effects.filterMap (·.mark? p) =
      (m.effects.filter (·.isLoud)).filterMap (·.mark? p) := by
    rw [List.filterMap_filter]
    refine List.filterMap_congr fun e _ => ?_
    cases e <;> rfl
  rw [marks, loud, ← said_outcome, Scene.marks]
  rfl

theorem Moment.eq_of_ready {m : Moment} {k : Nat} (ready : m.ready? = some k) :
    ∃ id own deadline, m.move = .act (.pluginReady id none) ∧
      m.before.call? id = some ⟨own, deadline, .starting k⟩ := by
  unfold ready? at ready
  split at ready
  · next id move =>
    split at ready
    · next own deadline k' found =>
      obtain rfl := Option.some.inj ready
      exact ⟨id, own, deadline, move, found⟩
    · cases ready
  · cases ready

/-- A plugin gets ready. -/
theorem Turns.ready {x : Scene} {p : Nat} {c : Condition} (fits : Fits p x c) (orderly : x.Orderly)
    {id k : Nat} (tasks : x.tasks = [⟨id, none, .starting k⟩]) :
    Turns p c x (x.prepare id (k + 1)) (if some k = some p then [.ready] else []) := by
  obtain ⟨_, _, phase, _, plugin⟩ := orderly.starting tasks
  obtain ⟨before, since⟩ := fits.starting tasks rfl
  by_cases own : k = p
  · subst own
    rw [if_pos rfl]
    refine ⟨⟨since (Nat.le_refl k), trivial⟩, fun _ _ =>
      .prepare orderly.numbered tasks phase ?_ nofun ?_ nofun⟩
    · exact fun beyond => absurd plugin (Nat.not_lt_of_le beyond)
    · exact fun beyond => absurd beyond (Nat.not_succ_le_self k)
  · rw [if_neg (mt Option.some.inj own)]
    refine .silent rfl fun _ _ => .prepare orderly.numbered tasks phase fits.beyond (fun lt => ?_)
      (fun le => ?_) fits.shutting
    · exact before (Nat.lt_of_le_of_ne (Nat.le_of_lt_succ lt) (Ne.symm own))
    · exact since (Nat.le_of_succ_le le)

/-- One move of the service, and the plugin `p`. -/
theorem IsRun.turn {h : History} {s : System} (run : IsRun h s) {m : Move} (proper : m.Proper)
    {p : Nat} {c : Condition} (fits : Fits p s.scene c) :
    Alternates c ((Moment.mk s m).marks p) ∧
      Known p (Moment.mk s m).after.scene (c.after ((Moment.mk s m).marks p)) := by
  have orderly := run.orderly
  have none : s.scene.marks p = [] := by
    rw [Scene.marks, scene, run.out_eq_nil]
    rfl
  -- What was said is not part of what is known.
  have quieten {c : Condition} (known : Known p (Moment.mk s m).outcome c) :
      Known p (Moment.mk s m).after.scene c := ⟨known.1.of_same rfl rfl rfl rfl, known.2⟩
  have turns : Turns p c s.scene (Moment.mk s m).outcome
      ((if (Moment.mk s m).ready? = some p then [.ready] else []) ++
        (Moment.mk s m).outcome.marks p) := by
    cases ready : (Moment.mk s m).ready? with
    | some k =>
      obtain ⟨id, own, deadline, rfl, found⟩ := Moment.eq_of_ready ready
      have outcome : (Moment.mk s (.act (.pluginReady id .none))).outcome =
          s.scene.prepare id (k + 1) := scene_pluginReady orderly found
      have tasks := orderly.task found rfl
      obtain ⟨_, _, phase, _, _⟩ := orderly.starting tasks
      rw [outcome, Scene.marks_prepare phase, none, List.append_nil]
      exact .ready fits orderly tasks
    | none =>
      rw [if_neg (by simp), List.nil_append]
      rcases (run.happening proper).keeps_or_steered run.sink orderly.numbered with
        keeps | ⟨x, keeps, steering⟩
      · exact .silent (keeps.marks.trans none) fun _ _ =>
          fits.of_same keeps.plugins keeps.tasks (by rw [keeps.manager]) keeps.downs
      · have fits' : Fits p x c :=
          fits.of_same keeps.plugins keeps.tasks (by rw [keeps.manager]) keeps.downs
        have turned := steering.condition (keeps.orderly orderly) (keeps.marks.trans none) fits'
          fun {id k} tasks move => by
            have found : s.call? id = some ⟨id, .none, .starting k⟩ :=
              orderly.numbered.call?_of_task (keeps.tasks.symm.trans tasks)
            subst move
            simp [Moment.ready?, found] at ready
        exact ⟨turned.1, fun alone => turned.2 (keeps.overlaps.trans alone)⟩
  obtain ⟨alternates, known⟩ := turns.known
  rw [Moment.marks_eq]
  exact ⟨alternates, quieten known⟩

/-- In every state of a run, what has happened to a plugin tells its condition. -/
theorem IsRun.fits {h : History} {s : System} (run : IsRun h s) (p : Nat) :
    Alternates .down (h.marks p) ∧ Known p s.scene (Condition.down.after (h.marks p)) := by
  induction run with
  | new made w =>
    rw [eq_fresh_of_new made]
    exact ⟨trivial, ⟨nofun, nofun, fun is => is.elim nofun nofun, nofun, nofun⟩, nofun⟩
  | step run proper ih =>
    obtain ⟨alternates, known⟩ := run.turn proper ih.2.1
    rw [History.marks_snoc, alternates_append, Condition.after_append]
    exact ⟨⟨ih.1, alternates⟩, known⟩

/-- In the history of a plugin, getting ready and being shut down take turns, beginning with
    getting ready; only a start or stop out of a crash, or one that overlaps with a stop that is
    still to shut down the plugin, may find the plugin either way. -/
theorem alternates_until_revived {h : History} {s : System} (run : IsRun h s) (p : Nat) :
    Alternates .down (h.marks p) := (run.fits p).1

namespace Retry

/-- There are two plugins. -/
def world : Surroundings := { plugins := [⟨"p", none⟩, ⟨"q", none⟩] }

/-- The workers of a run return, and whoever waits for them goes on. -/
def returns (run : Nat) : List Action :=
  [.notice run, .busStep run, .busStep run, .busStep run, .deskStop run, .reap run, .reap run,
    .settleWait true]

/-- The second plugin fails; the service starts again, and is stopped. -/
def actions : List Action :=
  List.flatten [startUp 1, [.pluginReady 1 none, .pluginReady 1 (some (.told "boom"))],
    returns 0, startUp 2, [.pluginReady 2 none, .pluginReady 2 none, .stop], returns 1,
    [.goOn 3, .goOn 3, .goOn 3]]

theorem isRun : IsRun (acted world actions).1 (acted world actions).2 :=
  isRun_acted world (by decide)

theorem marks : (acted world actions).1.marks 0 = [.ready, .revived, .ready, .down] := by
  decide +kernel

end Retry

open Retry in
/-- The first of two plugins, through a start that fails, one that does not, and a stop. -/
theorem alternates_of_retry : IsRun (acted world actions).1 (acted world actions).2 ∧
    (acted world actions).1.marks 0 = [.ready, .revived, .ready, .down] ∧
    Alternates .down ((acted world actions).1.marks 0) :=
  ⟨isRun, marks, alternates_until_revived isRun 0⟩

open Retry in
/-- So it is not true that a plugin gets ready and is shut down in turn in every history: after a
    start in which the next plugin failed, the plugin gets ready a second time. -/
theorem ready_twice_after_failed_start : ¬∀ (h : History) (s : System), IsRun h s →
    ∀ p, Alternates .down ((h.marks p).filter fun k => k = .ready ∨ k = .down) := by
  intro strict
  have turns := strict _ _ isRun 0
  rw [marks] at turns
  exact absurd turns (by decide)

end HeadUnit.Service
