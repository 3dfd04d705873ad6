import HeadUnit.Proofs.Lifecycle.Manager
import HeadUnit.Proofs.Service.Scene
import Mathlib.Data.List.Nodup

/-!
# Starts and stops

One start or stop of the service is under way at a time. How far it is, is its *station*
(`Scene.Station`): nothing is under way, the persisted state is taken over, a run gets its
listeners, a plugin gets ready, or workers are waited for after a start failed or for a stop. The
station fixes the phase, what the manager waits for, and whether a run is published. A stop that
shuts down the plugins is under way no more: the next start or stop may begin meanwhile.

`Steering` lists what starts, stops and all that belongs to them make of the scene, one
constructor per outcome. In an orderly scene (`Scene.Orderly`), i.e., at a station and with
no number given out twice, the list is complete; there is one lemma `steering_` per operation.
-/

namespace HeadUnit.Service

open HeadUnit.Service.System

/-! ## Stations -/

namespace Work

/-- What a start has to do before there is a run. -/
def isEarly : Work → Bool
  | .loading | .caching _ | .restoring _ | .building => true
  | _ => false

/-- Starting or stopping the service. -/
def isControl : Work → Bool
  | .loading | .caching _ | .restoring _ | .building | .wiring .. => true
  | .starting _ | .aborting _ | .stopping => true
  | .posting | .switching | .creating _ | .associating .. | .consulting | .flushing => false
  | .bounding _ | .shutting .. => false

/-- Whatever belongs to starts and stops. -/
def isSteered : Work → Bool
  | .shutting .. => true
  | w => w.isControl

/-- Waiting for somebody else, which neither starts and stops do nor changes of the bound. -/
def isOrdinary : Work → Bool
  | .bounding _ => false
  | w => !w.isSteered

theorem isControl_of_isEarly {w : Work} (early : w.isEarly = true) : w.isControl = true := by
  cases w <;> first | rfl | cases early

/-- What a start does next until it makes a run. -/
inductive Next : Work → Work → Prop
  | read (st : Snapshot) : Next .loading (.caching st)
  /-- The state cannot be read. -/
  | lost : Next .loading (.restoring Snapshot.empty)
  | cached (st : Snapshot) : Next (.caching st) (.restoring st)
  | restored (st : Snapshot) : Next (.restoring st) .building

theorem Next.early {w w' : Work} (next : w.Next w') : w.isEarly = true ∧ w'.isEarly = true := by
  cases next <;> exact ⟨rfl, rfl⟩

end Work

namespace Control

/-- The number of the call that starts or stops the service. -/
def call : Control → Nat
  | start id _ | stop id => id

/-- Whether it is possible in a phase. -/
def isPossible (p : Phase) : Control → Bool
  | start .. => p.canStart
  | stop _ => p.canStop

/-- What it returns where it is not possible. -/
def refusal : Control → Fault
  | start .. => .alreadyRunning
  | stop _ => .notRunning

end Control

/-- The start or stop that is asked for, under the number `id`. -/
def Move.control? (id : Nat) : Move → Option Control
  | act (.start parentDone) => some (.start id parentDone)
  | act .stop => some (.stop id)
  | _ => none

theorem Move.call_of_control? {m : Move} {id : Nat} {c : Control} (asked : m.control? id = some c) :
    c.call = id := by
  unfold control? at asked
  split at asked
  · cases asked
    rfl
  · cases asked
    rfl
  · cases asked

namespace Scene

variable (x : Scene)

/-- The calls that start or stop the service. -/
def tasks : List Call := x.calls.filter (·.work.isControl)

/-- The numbers of all calls, and of those that wait for their turn. -/
def ids : List Nat := x.calls.map (·.id) ++ x.controls.map (·.call)

/-- No number is given out twice. -/
structure Numbered : Prop where
  nodup : x.ids.Nodup
  given : ∀ id ∈ x.ids, id < x.nextId

/-- The last run is published. -/
def IsServing : Prop := ∃ n, x.runs.length = n + 1 ∧ x.published = some n

/-- How far the start or stop that is under way has come. -/
inductive Station : Prop
  /-- Nothing is under way; a run is published while the service is running. -/
  | resting (free : x.busy = false) (tasks : x.tasks = []) (waits : x.manager.waits = [])
      (phase : x.manager.phase ≠ .stopping)
      (published : x.manager.phase = .running ∧ x.IsServing ∨
        x.manager.phase ≠ .running ∧ x.published = none)
  /-- The persisted state is taken over. -/
  | preparing {id : Nat} {w : Work} (early : w.isEarly = true) (busy : x.busy = true)
      (tasks : x.tasks = [⟨id, none, w⟩]) (waits : x.manager.waits = [])
      (phase : x.manager.phase = .starting) (withdrawn : x.published = none)
  /-- The last run gets its listeners. -/
  | wiring {id i : Nat} {left : List Listener} (busy : x.busy = true)
      (tasks : x.tasks = [⟨id, none, .wiring i left⟩]) (waits : x.manager.waits = [])
      (phase : x.manager.phase = .starting) (last : x.runs.length = i + 1)
      (withdrawn : x.published = none)
  /-- A plugin gets ready. -/
  | starting {id k : Nat} (busy : x.busy = true) (tasks : x.tasks = [⟨id, none, .starting k⟩])
      (waits : x.manager.waits = []) (phase : x.manager.phase = .starting) (serving : x.IsServing)
      (plugin : k < x.plugins)
  /-- The start has failed, and the workers are waited for. -/
  | aborting {id : Nat} {f : Fault} {reason : String} (busy : x.busy = true)
      (tasks : x.tasks = [⟨id, none, .aborting f⟩])
      (waits : x.manager.waits = [⟨id, x.manager.current, .abort reason⟩])
      (phase : x.manager.phase = .starting) (withdrawn : x.published = none)
  /-- The service stops, and the workers are waited for. -/
  | stopping {id : Nat} {group : Option Nat} {timeout : Duration} {deadline : Int}
      (busy : x.busy = true) (tasks : x.tasks = [⟨id, none, .stopping⟩])
      (waits : x.manager.waits = [⟨id, group, .shutdown timeout deadline⟩])
      (phase : x.manager.phase = .stopping) (withdrawn : x.published = none)

/-- Only plugins that there are have to be shut down. -/
def Shutting : Prop := ∀ c ∈ x.calls, ∀ k f, c.work = .shutting k f → k ≤ x.plugins

/-- Starts and stops are in order. -/
structure Orderly : Prop where
  numbered : x.Numbered
  station : x.Station
  /-- Whatever the manager has reported was passed on. -/
  quiet : x.manager.out = []
  left : x.Shutting

end Scene

/-! ## What starts and stops do -/

namespace Scene

variable (x : Scene)

/-- The phase changes, which is said. -/
def enter (p : Phase) (reason : String) : Scene :=
  { x with manager := { x.manager with phase := p } }.say (.changed x.manager.phase p reason)

/-- A group of workers begins. -/
def begin (parentDone : Bool) : Scene :=
  { x.enter .starting "Start() called" with
    manager := { x.manager with
      phase := .starting
      groups := x.manager.groups ++ [⟨parentDone, false, 0⟩]
      current := some x.manager.groups.length } }

/-- What the call `id` waits for changes. -/
def turnTo (id : Nat) (w : Work) : Scene :=
  { x with calls := x.calls.map fun c => if c.id = id then { c with work := w } else c }

/-- A run with two workers is made. -/
def build (id : Nat) (r : Run) : Scene :=
  { x with
    manager := x.manager.join.join
    runs := x.runs ++ [r] }.turnTo id (.wiring x.runs.length [.desk, .registry])

/-- The plugin `k` gets ready; after the last one the service is running. -/
def prepare (id k : Nat) : Scene :=
  if k < x.plugins then (x.turnTo id (.starting k)).say (.initPlugin k)
  else { x.enter .running "workers started" with busy := false }.finish id (.status none)

/-- The start has failed: the run is withdrawn, and its workers are waited for. -/
def abort (id : Nat) (f : Fault) (reason : String) : Scene :=
  { x with published := none, manager := x.manager.abort id reason }.turnTo id (.aborting f)

/-- The service stops: the run is withdrawn, and its workers are waited for. -/
def halt (id : Nat) (timeout : Duration) (deadline : Int) : Scene :=
  { x.enter .stopping "shutdown requested" with
    manager := { x.manager.cancelCurrent with
      phase := .stopping
      current := none
      waits := x.manager.waits ++
        [(⟨id, x.manager.current, .shutdown timeout deadline⟩ : Lifecycle.Wait)] }
    published := none
    busy := true }.await id none .stopping

/-- The wait for the workers ends, in this phase. -/
def settle (p : Phase) (reason : String) : Scene :=
  { x.enter p reason with manager := { x.manager with phase := p, waits := [] }, busy := false }

/-- The call `id`, which waited for the workers, returns, or goes on to shut down the plugins. -/
def released (id : Nat) (fault : Option Fault) : Work → Scene
  | .aborting f => x.finish id (.status (some f))
  | .stopping => x.turnTo id (.shutting x.plugins (fault.map fun _ => .shutdownTimeout))
  | _ => x

/-- A start or stop is asked for, or one that waited longest is taken. -/
inductive Begins (m : Move) (c : Control) : Scene → Prop
  | requested (asked : m.control? x.nextId = some c) : Begins m c { x with nextId := x.nextId + 1 }
  | resumed (cs : List Control) (move : m = .act .nextControl) (first : x.controls = c :: cs) :
      Begins m c { x with controls := cs }

/-- The worker of run `i` that has finished is reported to the manager. -/
def reap (i : Nat) (group : Option Nat) (f : Run → Run) : Scene :=
  { x.onRun i f with
    manager := match group with
      | none => x.manager
      | some g => x.manager.onGroup g fun g => { g with live := g.live - 1 } }

end Scene

/-- A run as it is made. -/
structure Run.IsNew (r : Run) (group : Option Nat) : Prop where
  bus : r.bus = ({} : Bus Listener Nat).start
  desk : ∃ timeout headless, r.desk = (Switching.Desk.fresh timeout headless).start
  found : r.found = none
  group : r.group = group
  busReported : r.busReported = false
  deskReported : r.deskReported = false

/-- What the move `m` makes of the scene, as far as it belongs to starts and stops. -/
inductive Steering (x : Scene) (m : Move) : Scene → Prop
  /-- Nothing that is due. -/
  | idle : Steering x m x
  /-- A start or stop waits for its turn. -/
  | queued {c : Control} {y : Scene} (begins : x.Begins m c y) (busy : x.busy = true) :
      Steering x m { y with controls := y.controls ++ [c] }
  /-- A start or stop is not possible. -/
  | refused {c : Control} {y : Scene} (begins : x.Begins m c y) (free : x.busy = false)
      (unable : c.isPossible x.manager.phase = false) :
      Steering x m (y.finish c.call (.status (some c.refusal)))
  /-- A start begins. -/
  | begun {id : Nat} {parentDone : Bool} {y : Scene}
      (begins : x.Begins m (.start id parentDone) y) (free : x.busy = false)
      (able : x.manager.phase.canStart = true) :
      Steering x m ({ y.begin parentDone with busy := true }.await id none .loading)
  /-- A start goes on with taking over the persisted state. -/
  | advanced {id : Nat} {w w' : Work} (move : m = .act (.goOn id))
      (tasks : x.tasks = [⟨id, none, w⟩]) (next : w.Next w') : Steering x m (x.turnTo id w')
  /-- A start finds the registry broken. -/
  | broken {id : Nat} {st : Snapshot} (move : m = .act (.goOn id))
      (tasks : x.tasks = [⟨id, none, .restoring st⟩]) :
      Steering x m ({ x with busy := false }.finish id .broken)
  /-- A run is made. -/
  | built {id : Nat} {r : Run} (move : m = .act (.goOn id)) (tasks : x.tasks = [⟨id, none, .building⟩])
      (new : r.IsNew x.manager.current) : Steering x m (x.build id r)
  /-- A listener of the new run was accepted. -/
  | accepted {id i : Nat} {l : Listener} {left : List Listener} (move : m = .act (.goOn id))
      (tasks : x.tasks = [⟨id, none, .wiring i (l :: left)⟩]) :
      Steering x m (x.turnTo id (.wiring i left))
  /-- A listener of the new run was turned down. -/
  | rejected {id i : Nat} {l : Listener} {left : List Listener} {f : Fault} {reason : String}
      (move : m = .act (.goOn id)) (tasks : x.tasks = [⟨id, none, .wiring i (l :: left)⟩]) :
      Steering x m (x.abort id f reason)
  /-- The new run is published. -/
  | published {id i : Nat} (move : m = .act (.goOn id))
      (tasks : x.tasks = [⟨id, none, .wiring i []⟩]) :
      Steering x m ({ x with published := some i }.prepare id 0)
  /-- A stop begins. -/
  | stopped {id : Nat} {timeout : Duration} {deadline : Int} {y : Scene}
      (begins : x.Begins m (.stop id) y) (free : x.busy = false)
      (able : x.manager.phase.canStop = true) : Steering x m (y.halt id timeout deadline)
  /-- A plugin is ready. -/
  | prepared {id k : Nat} (move : m = .act (.pluginReady id none))
      (tasks : x.tasks = [⟨id, none, .starting k⟩]) : Steering x m (x.prepare id (k + 1))
  /-- A plugin has failed to get ready. -/
  | failed {id k : Nat} {f : Fault} {reason : String}
      (move : m = .act (.pluginReady id (some f))) (tasks : x.tasks = [⟨id, none, .starting k⟩]) :
      Steering x m (x.abort id f reason)
  /-- The workers have returned after the start had failed. -/
  | aborted {id : Nat} {f : Fault} {group : Option Nat} {reason : String}
      (tasks : x.tasks = [⟨id, none, .aborting f⟩])
      (waits : x.manager.waits = [⟨id, group, .abort reason⟩])
      (ready : x.manager.isReady ⟨id, group, .abort reason⟩ = true) :
      Steering x m ((x.settle .crashed reason).finish id (.status (some f)))
  /-- The workers have returned, and the service is stopped. -/
  | halted {id : Nat} {group : Option Nat} {timeout : Duration} {deadline : Int}
      (tasks : x.tasks = [⟨id, none, .stopping⟩])
      (waits : x.manager.waits = [⟨id, group, .shutdown timeout deadline⟩])
      (ready : x.manager.isReady ⟨id, group, .shutdown timeout deadline⟩ = true) :
      Steering x m ((x.settle .stopped "graceful shutdown").turnTo id (.shutting x.plugins none))
  /-- The workers have not returned in time. -/
  | expired {id : Nat} {group : Option Nat} {timeout : Duration} {deadline : Int}
      (tasks : x.tasks = [⟨id, none, .stopping⟩])
      (waits : x.manager.waits = [⟨id, group, .shutdown timeout deadline⟩]) :
      Steering x m ((x.settle .crashed "shutdown timeout").turnTo id
        (.shutting x.plugins (some .shutdownTimeout)))
  /-- A plugin is shut down. -/
  | shut {c : Call} {k : Nat} {f : Option Fault} (move : m = .act (.goOn c.id))
      (found : x.call? c.id = some c) (work : c.work = .shutting (k + 1) f) :
      Steering x m ((x.say (.shutdownPlugin k)).turnTo c.id (.shutting k f))
  /-- All plugins are shut down, and the stop returns. -/
  | finished {c : Call} {f : Option Fault} (move : m = .act (.goOn c.id))
      (found : x.call? c.id = some c) (work : c.work = .shutting 0 f) :
      Steering x m (x.finish c.id (.status f))
  /-- The worker of a bus has returned. -/
  | busReaped {i : Nat} {r : Run} (here : x.runs[i]? = some r) (finished : r.bus.worker = .finished)
      (first : r.busReported = false) :
      Steering x m (x.reap i r.group fun r => { r with busReported := true })
  /-- The worker of a desk has returned. -/
  | deskReaped {i : Nat} {r : Run} (here : x.runs[i]? = some r) (finished : r.desk.worker = .stopped)
      (first : r.deskReported = false) :
      Steering x m (x.reap i r.group fun r => { r with deskReported := true })
  /-- The context that a group of workers was begun with ends. -/
  | orphaned {i : Nat} (group : Nat) (move : m = .act (.parentEnded i)) :
      Steering x m { x with manager := x.manager.parentEnded group }

/-! ## The list is complete -/

section Complete

variable {s : System} {m : Move}

/-! ### The manager -/

namespace Scene

variable {x : Scene}

/-- A change of phase is passed on, after what was noted before it. -/
theorem report_changed {mgr : Lifecycle.Manager} {a b : Phase} {reason : String} {n : Note}
    (plain : n.isPlain = true) (ns : List Note) (before : Note.ArePlain ns)
    (out : mgr.out = ns.map .note ++ [.changed a b reason, .note n]) :
    x.report mgr = { x with manager := { mgr with out := [] } }.say (.changed a b reason) := by
  simp only [report, out, List.foldl_append, List.foldl_map, List.foldl_cons, List.foldl_nil,
    Lifecycle.Manager.take]
  rw [note_of_isPlain plain]
  congr 1
  clear out
  induction ns with
  | nil => rfl
  | cons n ns ih =>
    rw [List.foldl_cons, note_of_isPlain (before n List.mem_cons_self)]
    exact ih fun n mem => before n (List.mem_cons_of_mem _ mem)

/-- The manager changes the phase, and what it reports is passed on. -/
theorem report_move {mgr : Lifecycle.Manager} {p : Phase} {reason : String}
    (quiet : x.manager.out = []) (ok : x.manager.move p reason = .ok mgr) :
    x.report mgr = x.enter p reason := by
  obtain ⟨n, plain, rfl⟩ := Lifecycle.Manager.move_eq ok
  rw [quiet]
  exact (report_changed plain [] (.of_all rfl) rfl).trans (by simp only [enter, ← quiet])

/-- A group of workers begins, and what the manager reports is passed on. -/
theorem report_beginGroup {mgr : Lifecycle.Manager} {parentDone : Bool}
    (quiet : x.manager.out = [])
    (ok : x.manager.beginGroup parentDone "Start() called" = .ok mgr) :
    x.report mgr = x.begin parentDone := by
  unfold Lifecycle.Manager.beginGroup at ok
  cases moved : x.manager.move .starting "Start() called" with
  | error f => simp [moved, Except.map] at ok
  | ok m =>
    simp only [moved, Except.map, Except.ok.injEq] at ok
    obtain ⟨n, plain, rfl⟩ := Lifecycle.Manager.move_eq moved
    subst ok
    rw [quiet]
    exact (report_changed plain [] (.of_all rfl) rfl).trans
      (by simp only [begin, enter, say, ← quiet])

end Scene

/-! ### Starts -/

theorem scene_await' (id : Nat) (w : Work) : (s.await' id w).scene = s.scene.turnTo id w := rfl

theorem scene_nextPlugin (quiet : s.manager.out = []) (phase : s.manager.phase = .starting)
    (id k : Nat) : (s.nextPlugin id k).scene = s.scene.prepare id k := by
  unfold nextPlugin Scene.prepare
  rw [show s.scene.plugins = s.plugins.length from rfl]
  split
  · exact scene_emit ..
  · have able : s.manager.phase.canMove .running = true := by
      rw [phase]
      decide
    cases moved : s.manager.move .running "workers started" with
    | error f => simp [Lifecycle.Manager.move, able] at moved
    | ok m =>
      dsimp only
      rw [scene_finish, scene_release, scene_flushManager, Scene.report_move quiet moved]

/-- A start that is possible begins. -/
theorem scene_startNow {t : System} (quiet : t.manager.out = [])
    (able : t.manager.phase.canStart = true) (id : Nat) (parentDone : Bool) :
    (t.startNow id parentDone).scene =
      { t.scene.begin parentDone with busy := true }.await id none .loading := by
  unfold startNow
  rw [if_neg (by simp [able])]
  split
  · next f refused =>
    -- The manager lets a group begin whenever a start is possible.
    have moves := Phase.canMove_of_canStart able
    simp [Lifecycle.Manager.beginGroup, Lifecycle.Manager.move, moves, Except.map] at refused
  · next mgr ok =>
    have begun := scene_flushManager { t with busy := true } mgr
    rw [Scene.report_beginGroup (x := ({ t with busy := true } : System).scene) quiet ok] at begun
    exact congrArg (Scene.await · id none .loading) begun

theorem steering_startNow {t : System} {id : Nat} {parentDone : Bool}
    (begins : s.scene.Begins m (.start id parentDone) t.scene) (free : s.busy = false)
    (quiet : s.manager.out = []) (same : t.manager = s.manager) :
    Steering s.scene m (t.startNow id parentDone).scene := by
  by_cases able : t.manager.phase.canStart = true
  · rw [scene_startNow (same ▸ quiet) able]
    have able' : s.manager.phase.canStart = true := same ▸ able
    exact .begun begins free able'
  · unfold startNow
    have unable : s.manager.phase.canStart = false := by simpa [same] using able
    rw [if_pos (by simpa using able), scene_finish]
    exact .refused (c := .start id parentDone) begins free unable

/-- A call that starts or stops the service is the only one. -/
theorem Scene.Orderly.task_of_mem {x : Scene} (orderly : x.Orderly) {c : Call} (mem : c ∈ x.tasks) :
    x.tasks = [⟨c.id, none, c.work⟩] := by
  cases orderly.station with
  | resting _ tasks =>
    rw [tasks] at mem
    exact absurd mem List.not_mem_nil
  | preparing _ _ tasks | wiring _ tasks | starting _ tasks | aborting _ tasks | stopping _ tasks =>
    rw [tasks] at mem ⊢
    rw [List.mem_singleton.1 mem]

theorem Scene.Orderly.task {x : Scene} (orderly : x.Orderly) {id : Nat} {c : Call}
    (found : x.call? id = some c) (control : c.work.isControl = true) :
    x.tasks = [⟨id, none, c.work⟩] := by
  obtain rfl : c.id = id := by simpa using List.find?_some found
  exact orderly.task_of_mem (List.mem_filter.2 ⟨List.mem_of_find?_eq_some found, control⟩)

namespace Scene.Orderly

variable {x : Scene} {id : Nat} {deadline : Option Int}

/-- A start or stop waits for one thing at a time. -/
theorem eq_of_tasks {id' : Nat} {deadline' : Option Int} {w w' : Work}
    (one : x.tasks = [⟨id', deadline', w'⟩]) (tasks : x.tasks = [⟨id, deadline, w⟩]) : w' = w := by
  have same := one.symm.trans tasks
  simp only [List.cons.injEq, Call.mk.injEq] at same
  exact same.1.2.2

/-- While the persisted state is taken over. -/
theorem preparing (orderly : x.Orderly) {w : Work} (tasks : x.tasks = [⟨id, deadline, w⟩])
    (early : w.isEarly = true) :
    x.busy = true ∧ x.manager.waits = [] ∧ x.manager.phase = .starting ∧ x.published = none := by
  cases orderly.station with
  | preparing _ busy _ waits phase withdrawn => exact ⟨busy, waits, phase, withdrawn⟩
  | resting _ one => exact nomatch one.symm.trans tasks
  | wiring _ one | starting _ one | aborting _ one | stopping _ one =>
    obtain rfl := eq_of_tasks one tasks
    cases early

/-- While the last run gets its listeners. -/
theorem wiring (orderly : x.Orderly) {i : Nat} {left : List Listener}
    (tasks : x.tasks = [⟨id, deadline, .wiring i left⟩]) :
    x.busy = true ∧ x.manager.waits = [] ∧ x.manager.phase = .starting ∧
      x.runs.length = i + 1 ∧ x.published = none := by
  cases orderly.station with
  | wiring busy one waits phase last withdrawn =>
    have own := one.symm.trans tasks
    simp only [List.cons.injEq, Call.mk.injEq, Work.wiring.injEq] at own
    exact ⟨busy, waits, phase, own.1.2.2.1 ▸ last, withdrawn⟩
  | preparing early _ one =>
    obtain rfl := eq_of_tasks one tasks
    cases early
  | resting _ one | starting _ one | aborting _ one | stopping _ one =>
    exact nomatch one.symm.trans tasks

/-- While a plugin gets ready. -/
theorem starting (orderly : x.Orderly) {k : Nat} (tasks : x.tasks = [⟨id, deadline, .starting k⟩]) :
    x.busy = true ∧ x.manager.waits = [] ∧ x.manager.phase = .starting ∧ x.IsServing ∧
      k < x.plugins := by
  cases orderly.station with
  | starting busy one waits phase serving plugin =>
    have own := one.symm.trans tasks
    simp only [List.cons.injEq, Call.mk.injEq, Work.starting.injEq] at own
    exact ⟨busy, waits, phase, serving, own.1.2.2 ▸ plugin⟩
  | preparing early _ one =>
    obtain rfl := eq_of_tasks one tasks
    cases early
  | resting _ one | wiring _ one | aborting _ one | stopping _ one =>
    exact nomatch one.symm.trans tasks

/-- While the workers are waited for after the start has failed. -/
theorem aborting (orderly : x.Orderly) {f : Fault} (tasks : x.tasks = [⟨id, deadline, .aborting f⟩]) :
    x.manager.phase = .starting ∧ x.published = none := by
  cases orderly.station with
  | aborting _ _ _ phase withdrawn => exact ⟨phase, withdrawn⟩
  | preparing early _ one =>
    obtain rfl := eq_of_tasks one tasks
    cases early
  | resting _ one | wiring _ one | starting _ one | stopping _ one =>
    exact nomatch one.symm.trans tasks

/-- While the workers are waited for to stop. -/
theorem stopping (orderly : x.Orderly) (tasks : x.tasks = [⟨id, deadline, .stopping⟩]) :
    x.manager.phase = .stopping ∧ x.published = none := by
  cases orderly.station with
  | stopping _ _ _ phase withdrawn => exact ⟨phase, withdrawn⟩
  | preparing early _ one =>
    obtain rfl := eq_of_tasks one tasks
    cases early
  | resting _ one | wiring _ one | starting _ one | aborting _ one =>
    exact nomatch one.symm.trans tasks

end Scene.Orderly

/-- The start has failed. -/
theorem scene_abort (s : System) (id : Nat) (f : Fault) (reason : String) :
    ({ s with published := none }.abort id reason f).scene = s.scene.abort id f reason := rfl

/-- A plugin is ready, which is noted. -/
theorem scene_pluginReady (orderly : s.scene.Orderly) {id k : Nat} {own : Nat}
    {deadline : Option Int} (found : s.call? id = some ⟨own, deadline, .starting k⟩) :
    (s.pluginReady id none).scene = s.scene.prepare id (k + 1) := by
  obtain ⟨_, _, phase, _, _⟩ := orderly.starting (orderly.task found rfl)
  simp only [pluginReady, found]
  refine (scene_nextPlugin (s := s.note _) orderly.quiet phase id (k + 1)).trans ?_
  rw [scene_plain s rfl]

theorem steering_pluginReady (orderly : s.scene.Orderly) (id : Nat) (fault : Option Fault) :
    Steering s.scene (.act (.pluginReady id fault)) (s.pluginReady id fault).scene := by
  cases found : s.call? id with
  | none =>
    simp only [pluginReady, found]
    exact .idle
  | some c =>
    obtain ⟨own, deadline, w⟩ := c
    cases w with
    | starting k =>
      have tasks := orderly.task found rfl
      cases fault with
      | none =>
        rw [scene_pluginReady orderly found]
        exact .prepared rfl tasks
      | some f =>
        simp only [pluginReady, found]
        rw [scene_abort, scene_plain s rfl]
        exact .failed rfl tasks
    | _ =>
      simp only [pluginReady, found]
      exact .idle

/-! ### Starts that go on -/

theorem steering_readState {id : Nat} (tasks : s.scene.tasks = [⟨id, none, .loading⟩]) :
    Steering s.scene (.act (.goOn id)) (s.readState id).scene := by
  unfold readState
  split
  · next st _ => exact .advanced rfl tasks (.read st)
  · next f _ =>
    have noted := scene_plain s (n := Note.error "failed to load state" [Log.err (some f)]) rfl
    rw [scene_await', noted]
    exact .advanced rfl tasks .lost

theorem steering_restoreState {id : Nat} {st : Snapshot}
    (tasks : s.scene.tasks = [⟨id, none, .restoring st⟩]) :
    Steering s.scene (.act (.goOn id)) (s.restoreState id st).scene := by
  have applied := scene_applyChange s (Registry.plain_restore s.registry st)
  unfold restoreState
  dsimp only
  split
  · rw [scene_finish, scene_release, applied]
    exact .broken rfl tasks
  · rw [scene_await', applied]
    exact .advanced rfl tasks (.restored st)

theorem steering_buildRun {id : Nat} (tasks : s.scene.tasks = [⟨id, none, .building⟩]) :
    Steering s.scene (.act (.goOn id)) (s.buildRun id).scene :=
  .built rfl tasks ⟨rfl, ⟨s.timeout, s.config.headless, rfl⟩, rfl, rfl, rfl, rfl⟩

/-- The new run is published, once its desk has the settings. -/
theorem steering_publish (orderly : s.scene.Orderly) {id i : Nat}
    (tasks : s.scene.tasks = [⟨id, none, .wiring i []⟩]) :
    Steering s.scene (.act (.goOn id))
      (({ s with published := some i } : System).nextPlugin id 0).scene := by
  obtain ⟨-, -, phase, -, -⟩ := orderly.wiring tasks
  rw [scene_nextPlugin (s := { s with published := some i }) orderly.quiet phase]
  exact .published rfl tasks

theorem steering_wire (orderly : s.scene.Orderly) {id i : Nat} {l : Listener} {left : List Listener}
    (tasks : s.scene.tasks = [⟨id, none, .wiring i (l :: left)⟩]) :
    Steering s.scene (.act (.goOn id)) (s.await' id (.wiring i left)).scene ∧
      ∀ f reason, Steering s.scene (.act (.goOn id)) (s.abort id reason f).scene := by
  obtain ⟨-, -, -, -, withdrawn⟩ := orderly.wiring tasks
  refine ⟨.accepted rfl tasks, fun f reason => ?_⟩
  have same : ({ s with published := none } : System) = s :=
    congrArg (fun p => { s with published := p }) (Eq.symm withdrawn)
  rw [← same, scene_abort]
  exact .rejected rfl tasks

/-! ### Stops -/

/-- The service begins to stop. -/
theorem scene_stopNow {t : System} (quiet : t.manager.out = [])
    (able : t.manager.phase.canStop = true) (id : Nat) :
    (t.stopNow id).scene = t.scene.halt id t.config.shutdownTimeout
      (t.now + max t.config.shutdownTimeout.toInt 0) := by
  have moves : t.manager.phase.canMove .stopping = true := by
    cases phase : t.manager.phase with
    | running | crashed => decide
    | _ => simp [phase, Phase.canStop] at able
  have kept : t.manager.cancelCurrent.out = [] := by
    rw [← quiet, Lifecycle.Manager.cancelCurrent]
    split <;> rfl
  cases ok : t.manager.shutdown id t.config.shutdownTimeout t.now with
  | error f => simp [Lifecycle.Manager.shutdown, Lifecycle.Manager.move, moves, Except.map] at ok
  | ok mgr =>
    simp only [stopNow, able, Bool.not_true, Bool.false_eq_true, if_false, ok]
    obtain ⟨n, plain, rfl⟩ := Lifecycle.Manager.shutdown_eq ok
    have reported := scene_flushManager { t with published := none, busy := true }
      { t.manager.cancelCurrent with
        phase := .stopping
        current := none
        waits := t.manager.waits ++ [⟨id, t.manager.current, .shutdown t.config.shutdownTimeout
          (t.now + max t.config.shutdownTimeout.toInt 0)⟩]
        out := t.manager.out ++ [.changed t.manager.phase .stopping "shutdown requested", .note n] }
    rw [scene_await, reported, Scene.report_changed plain [] (.of_all rfl) (by rw [quiet]; rfl)]
    simp only [← kept]
    rfl

theorem steering_stopNow {t : System} {id : Nat} (begins : s.scene.Begins m (.stop id) t.scene)
    (free : s.busy = false) (quiet : s.manager.out = []) (same : t.manager = s.manager) :
    Steering s.scene m (t.stopNow id).scene := by
  by_cases able : t.manager.phase.canStop = true
  · rw [scene_stopNow (same ▸ quiet) able]
    exact .stopped begins free (by rwa [same] at able)
  · unfold stopNow
    have unable : s.manager.phase.canStop = false := by simpa [same] using able
    rw [if_pos (by simpa using able), scene_finish]
    exact .refused (c := .stop id) begins free unable

theorem steering_request (orderly : s.scene.Orderly) {c : Control}
    (asked : m.control? s.nextId = some c) :
    Steering s.scene m (s.freshId.2.request c).scene := by
  have begins : s.scene.Begins m c s.freshId.2.scene := .requested asked
  unfold request
  split
  · next busy => exact .queued begins busy
  · next free =>
    have free' : s.busy = false := by simpa [freshId] using free
    cases c with
    | start id parentDone => exact steering_startNow begins free' orderly.quiet rfl
    | stop id => exact steering_stopNow begins free' orderly.quiet rfl

theorem steering_nextControl (orderly : s.scene.Orderly) :
    Steering s.scene (.act .nextControl) (s.nextControl?.getD s).scene := by
  unfold nextControl?
  split
  · next c cs free first =>
    have begins : s.scene.Begins (.act .nextControl) c ({ s with controls := cs } : System).scene :=
      .resumed cs rfl first
    cases c with
    | start id parentDone => exact steering_startNow begins free orderly.quiet rfl
    | stop id => exact steering_stopNow begins free orderly.quiet rfl
  · exact .idle

/-- A plugin that there is is shut down. -/
theorem scene_shutdownPlugin {k : Nat} (known : k < s.plugins.length) :
    (s.shutdownPlugin k).scene = s.scene.say (.shutdownPlugin k) := by
  unfold shutdownPlugin
  rw [List.getElem?_eq_getElem known]
  dsimp only
  split <;> exact (scene_plain _ rfl).trans (scene_emit ..)

theorem steering_shutNext (orderly : s.scene.Orderly) {id left : Nat} {c : Call} {f : Option Fault}
    (found : s.call? id = some c) (work : c.work = .shutting left f) :
    Steering s.scene (.act (.goOn id)) (s.shutNext id f left).scene := by
  obtain rfl : c.id = id := by simpa using List.find?_some found
  cases left with
  | zero =>
    rw [shutNext, scene_finish]
    exact .finished rfl found work
  | succ k =>
    have known : k < s.plugins.length :=
      orderly.left c (List.mem_of_find?_eq_some found) (k + 1) f work
    rw [shutNext, scene_await', scene_shutdownPlugin known]
    exact .shut rfl found work

/-! ### Workers -/

/-- The call that starts or stops the service is found under its number. -/
theorem Scene.Numbered.call?_of_task {x : Scene} (numbered : x.Numbered) {c : Call}
    (task : x.tasks = [c]) : x.call? c.id = some c := by
  have mem : c ∈ x.calls := (List.mem_filter.1 (task ▸ List.mem_singleton_self c)).1
  cases found : x.call? c.id with
  | none => simpa using List.find?_eq_none.1 found c mem
  | some d =>
    have own : d.id = c.id := by simpa using List.find?_some found
    have nodup := (List.nodup_append.1 numbered.nodup).1
    rw [List.inj_on_of_nodup_map nodup (List.mem_of_find?_eq_some found) mem own]

/-- The wait for the workers ends, with what was noted before. -/
theorem Scene.report_settled {x : Scene} {mgr : Lifecycle.Manager} {ns : List Note}
    (before : Note.ArePlain ns)
    (past : mgr = { x.manager with waits := [], out := ns.map .note }) (quiet : x.manager.out = [])
    {p : Phase} (able : x.manager.phase.canMove p = true) (reason : String) :
    { x.report (mgr.tryMove p reason) with busy := false } = x.settle p reason := by
  subst past
  obtain ⟨n, plain, moved⟩ := Lifecycle.Manager.tryMove_eq
    (m := { x.manager with waits := [], out := ns.map .note }) able reason
  rw [moved, report_changed plain ns before rfl]
  simp only [settle, enter, say, quiet]

/-- The call that waited for the workers goes on. -/
theorem scene_workersGone {t : System} {id : Nat} {w : Work}
    (found : t.call? id = some ⟨id, none, w⟩) (waits : (∃ f, w = .aborting f) ∨ w = .stopping)
    (fault : Option Fault) :
    (t.workersGone id fault).scene = { t.scene with busy := false }.released id fault w := by
  unfold workersGone
  rw [found]
  rcases waits with ⟨f, rfl⟩ | rfl
  · exact scene_finish ..
  · rfl

/-- The wait of the call `id` for the workers ends, and the phase is `p` then. -/
theorem scene_settleWait {id : Nat} {w : Work} {fault : Option Fault} {mgr : Lifecycle.Manager}
    {p : Phase} {reason : String} (ns : List Note) (orderly : s.scene.Orderly)
    (tasks : s.scene.tasks = [⟨id, none, w⟩]) (waits : (∃ f, w = .aborting f) ∨ w = .stopping)
    {late : Bool} (settled : s.manager.settleWait s.now late = some (id, fault, mgr.tryMove p reason))
    (before : Note.ArePlain ns)
    (past : mgr = { s.manager with waits := [], out := ns.map .note })
    (able : s.manager.phase.canMove p = true) :
    ((s.settleWait? late).getD s).scene = (s.scene.settle p reason).released id fault w := by
  rw [settleWait?, settled]
  have reported := scene_flushManager s (mgr.tryMove p reason)
  have phase := Scene.report_settled before past orderly.quiet able reason
  rw [← reported] at phase
  have found : { s with manager := mgr.tryMove p reason }.flushManager.call? id =
      some ⟨id, none, w⟩ := by
    have same : { s with manager := mgr.tryMove p reason }.flushManager.calls = s.calls :=
      congrArg Scene.calls phase
    rw [call?, same]
    exact orderly.numbered.call?_of_task tasks
  rw [← phase]
  exact scene_workersGone found waits fault

theorem steering_settleWait (orderly : s.scene.Orderly) (late : Bool) :
    Steering s.scene m ((s.settleWait? late).getD s).scene := by
  have quiet : s.manager.out = [] := orderly.quiet
  have idle (none : s.manager.settleWait s.now late = none) :
      Steering s.scene m ((s.settleWait? late).getD s).scene := by
    rw [settleWait?, none]
    exact .idle
  cases orderly.station with
  | resting _ _ waits | preparing _ _ _ waits | wiring _ _ waits | starting _ _ waits =>
    have waits' : s.manager.waits = [] := waits
    exact idle (by simp [Lifecycle.Manager.settleWait, waits'])
  | @aborting id f reason _ tasks waits phase =>
    have phase' : s.manager.phase = .starting := phase
    have waits' : s.manager.waits = [⟨id, s.manager.current, .abort reason⟩] := waits
    by_cases ready : s.manager.isReady ⟨id, s.manager.current, .abort reason⟩ = true
    · have settled : s.manager.settleWait s.now late = some (id, none,
          { s.manager with waits := [] }.tryMove .crashed reason) := by
        simp [Lifecycle.Manager.settleWait, waits', ready, Lifecycle.Wait.isOverdue,
          Lifecycle.Manager.finish]
      rw [scene_settleWait [] orderly tasks (.inl ⟨f, rfl⟩) settled (.of_all rfl)
        (by simp [quiet]) (by rw [phase']; decide)]
      exact .aborted tasks waits ready
    · exact idle (by
        simp [Lifecycle.Manager.settleWait, waits', ready, Lifecycle.Wait.isOverdue])
  | @stopping id group timeout deadline _ tasks waits phase =>
    have phase' : s.manager.phase = .stopping := phase
    have waits' : s.manager.waits = [⟨id, group, .shutdown timeout deadline⟩] := waits
    let w : Lifecycle.Wait := ⟨id, group, .shutdown timeout deadline⟩
    -- Where the wait can end in two ways, `late` decides.
    by_cases overdue : w.isOverdue s.now = true ∧ (late = true ∨ s.manager.isReady w = false)
    · have settled : s.manager.settleWait s.now late = some (id, some .workersOverdue,
          ({ s.manager with waits := [] }.note (Note.warn "shutdown timeout, forcing exit"
            [Log.span "timeout" timeout])).tryMove .crashed "shutdown timeout") := by
        obtain ⟨due, first⟩ := overdue
        rcases first with rfl | unready
        · simp [Lifecycle.Manager.settleWait, waits', w, due, Lifecycle.Manager.expire]
        · simp [Lifecycle.Manager.settleWait, waits', w, due, unready, Lifecycle.Manager.expire]
      rw [scene_settleWait [_] orderly tasks (.inr rfl) settled (.of_all rfl)
        (by simp [quiet, Lifecycle.Manager.note]; rfl) (by rw [phase']; decide)]
      exact .expired tasks waits
    · by_cases ready : s.manager.isReady w = true
      · have settled : s.manager.settleWait s.now late = some (id, none,
            { s.manager with waits := [] }.tryMove .stopped "graceful shutdown") := by
          have first : w.isOverdue s.now = true → late = false := by simpa [ready] using overdue
          simpa [Lifecycle.Manager.settleWait, waits', w, ready, Lifecycle.Manager.finish]
            using first
        rw [scene_settleWait [] orderly tasks (.inr rfl) settled (.of_all rfl)
          (by simp [quiet]) (by rw [phase']; decide)]
        exact .halted tasks waits ready
      · have due : w.isOverdue s.now = false := by simpa [ready] using overdue
        exact idle (by simp [Lifecycle.Manager.settleWait, waits', w, ready, due])

theorem steering_reap (orderly : s.scene.Orderly) (i : Nat) :
    Steering s.scene m ((s.reap? i).getD s).scene := by
  -- The manager has nothing to report about it.
  have returned (f : Run → Run) (group : Option Nat) (name : String) :
      ((s.onRun i f).workerReturned group name).scene = s.scene.reap i group f := by
    unfold workerReturned
    split
    · rfl
    · next g =>
      have quiet : s.manager.out = [] := orderly.quiet
      have silent : (s.manager.workerDone g name none).out = [] := quiet
      refine (scene_flushManager (s.onRun i f) _).trans ?_
      rw [Scene.report, show (s.onRun i f).manager = s.manager from rfl, silent, List.foldl_nil]
      simp only [Lifecycle.Manager.take, ← silent]
      rfl
  rcases s.reap_cases i with same | ⟨r, here, ⟨finished, first, same⟩ | ⟨finished, first, same⟩⟩
  · rw [same]
    exact .idle
  · rw [same, returned]
    exact .busReaped here finished first
  · rw [same, returned]
    exact .deskReaped here finished first

end Complete

end HeadUnit.Service
