import Mathlib.Data.List.Nodup
import HeadUnit.Proofs.Notes
import HeadUnit.Proofs.Service.Books
import HeadUnit.Proofs.Service.Change

/-!
# The scene of a system

What goes on in a system, apart from its users, sessions and registry: the runs with their
workers, the calls that have not returned, the questions to the vehicle, the starts and
stops, and what the system has said out *loud*, i.e., results, notices, commits and changes
of phase. This is the *scene* of the system (`System.scene`).

Each operation that says something or touches a call or a worker has one equation `scene_`;
whatever else an operation does is not in the scene (`sparing_scene`). `Scene.moveDesk` is what a
move of a desk makes of the scene, with all that the desk asks for handed on.

What goes on behind the calls comes down to a few kinds of steps (`Scene.Step`): a bus makes
a move, what it asks for is handed on one after the other, a desk gets an event or a setting,
a call gets what it waits for. There is one lemma `leads_` per operation that takes such
steps only.
-/

namespace HeadUnit

/-- The vehicle is told of a switch that nobody negotiated. -/
def Vehicle.Notice.isLegacy : Vehicle.Notice → Bool
  | .legacySwitch .. => true
  | _ => false

namespace Service

open Switching (Desk)
open HeadUnit.Service.System (inHand emptyHand)

/-! ## Scenes -/

/-- What whoever is outside gets to hear, apart from events and questions. -/
def Effect.isLoud : Effect → Bool
  | .returned .. | .replied .. | .notify _ | .commit .. | .signal _ => true
  | .changed .. | .initPlugin _ | .shutdownPlugin _ => true
  | .note _ | .ask .. | .abandon _ | .deliver .. | .send .. | .offered _ | .emitted _ => false

/-- What goes on in a system. -/
structure Scene where
  runs : List Run
  published : Option Nat
  calls : List Call
  /-- The questions to the vehicle, with whoever waits for the answer. -/
  asks : List (Nat × Owner)
  nextId : Nat
  manager : Lifecycle.Manager
  busy : Bool
  controls : List Control
  /-- How many plugins there are. -/
  plugins : Nat
  sink : Sink
  /-- The gauge of tracked switches. -/
  gauge : Nat
  /-- What was said out loud. -/
  said : List Effect

def System.scene (s : System) : Scene where
  runs := s.runs
  published := s.published
  calls := s.calls
  asks := s.asks.map fun a => (a.id, a.owner)
  nextId := s.nextId
  manager := s.manager
  busy := s.busy
  controls := s.controls
  plugins := s.plugins.length
  sink := s.sink
  gauge := s.metrics.inFlight
  said := s.out.filter (·.isLoud)

namespace Scene

variable (x : Scene)

/-- A note is taken into account. -/
def note : Note → Scene
  | .inFlight tracked => { x with gauge := if tracked then 1 else 0 }
  | _ => x

/-- Something is said, which shows if it is loud. -/
def say (e : Effect) : Scene := { x with said := x.said ++ [e].filter (·.isLoud) }

def call? (id : Nat) : Option Call := x.calls.find? (·.id == id)

/-- A call is put among those that have not returned. -/
def await (id : Nat) (deadline : Option Int) (w : Work) : Scene :=
  { x with calls := x.calls ++ [⟨id, deadline, w⟩] }

/-- A call ends. -/
def finish (id : Nat) (r : Result) : Scene :=
  { x with calls := x.calls.filter (·.id != id) }.say (.returned id r)

/-- A question is put to the vehicle. -/
def ask (o : Owner) : Scene :=
  { x with asks := x.asks ++ [(x.nextId, o)], nextId := x.nextId + 1 }

def onRun (i : Nat) (f : Run → Run) : Scene := { x with runs := x.runs.modify i f }

def onBus (i : Nat) (f : Bus Listener Nat → Bus Listener Nat) : Scene :=
  x.onRun i fun r => { r with bus := f r.bus }

/-- One thing that the desk of run `i` asked for is handed on. -/
def hear (i : Nat) (x : Scene) : Switching.Effect → Scene
  | .note n => x.note n
  | .reply ticket result =>
    match x.call? ticket with
    | some ⟨_, _, .switching⟩ => x.finish ticket (.switch result)
    | _ => x.say (.replied ticket result)
  | .negotiate o _ _ => x.ask (.desk i o.ticket)
  | .osSwitch target => x.say (.commit i target)
  | .notify n => x.say (.notify n)
  | .signal target => x.say (.signal target)
  | .admitted (.caller id) =>
    match x.call? id with
    | some ⟨_, _, .posting⟩ => x.finish id .nothing
    | _ => x
  | .admitted .bus => x.onBus i (·.returned none)
  | .admitted .trip => x
  | .admitted .worker => x

/-- The desk of run `i` makes a move, and all that it asks for is handed on. -/
def moveDesk (i : Nat) (q : Switching.Move) : Scene :=
  match x.runs[i]? with
  | none => x
  | some r =>
    (Switching.Moment.mk r.desk q).effects.foldl (hear i)
      (x.onRun i fun s => { s with desk := (Switching.Moment.mk r.desk q).after })

/-- What the manager has reported is passed on. -/
def report (m : Lifecycle.Manager) : Scene :=
  m.out.foldl (fun x e => match e with
    | .note n => x.note n
    | .changed a b r => x.say (.changed a b r)) { x with manager := m.take.2 }

end Scene

/-! ## Operations -/

namespace Scene

variable {x : Scene}

/-- A plain note does not show. -/
@[simp]
theorem note_of_isPlain {n : Note} (plain : n.isPlain = true) : x.note n = x := by
  cases n with
  | inFlight b => cases plain
  | _ => rfl

/-- What is not loud does not show. -/
@[simp]
theorem say_of_quiet {e : Effect} (quiet : e.isLoud = false) : x.say e = x := by
  simp [say, quiet]

theorem said_say {e : Effect} (loud : e.isLoud = true) : (x.say e).said = x.said ++ [e] := by
  simp [say, loud]

/-! ### What a desk asks for -/

/-- What becomes of a scene when one thing that the desk of run `i` asked for is handed on. -/
inductive Hears (i : Nat) (x : Scene) : Switching.Effect → Scene → Prop
  | noted (n : Note) : Hears i x (.note n) (x.note n)
  /-- The call that waits for the switch returns. -/
  | switched {id k : Nat} {deadline : Option Int} (r : SwitchResult)
    (found : x.call? id = some ⟨k, deadline, .switching⟩) :
    Hears i x (.reply id r) (x.finish id (.switch r))
  | replied (id : Nat) (r : SwitchResult) : Hears i x (.reply id r) (x.say (.replied id r))
  | asked (o : Switching.Outstanding) (request : Vehicle.Request) (timeout : Duration) :
    Hears i x (.negotiate o request timeout) (x.ask (.desk i o.ticket))
  | committed (target : UserId) : Hears i x (.osSwitch target) (x.say (.commit i target))
  | notified (n : Vehicle.Notice) : Hears i x (.notify n) (x.say (.notify n))
  | signalled (target : UserId) : Hears i x (.signal target) (x.say (.signal target))
  /-- The call that waits for its event to be taken returns. -/
  | posted {id k : Nat} {deadline : Option Int}
    (found : x.call? id = some ⟨k, deadline, .posting⟩) :
    Hears i x (.admitted (.caller id)) (x.finish id .nothing)
  /-- The listener of the bus returns. -/
  | turned : Hears i x (.admitted .bus) (x.onBus i (·.returned none))
  | passed (p : Switching.Poster) : Hears i x (.admitted p) x

theorem hears (x : Scene) (i : Nat) (e : Switching.Effect) : x.Hears i e (x.hear i e) := by
  cases e with
  | note n => exact .noted n
  | reply ticket result =>
    dsimp only [hear]
    split
    · next found => exact .switched result found
    · exact .replied ticket result
  | negotiate o request timeout => exact .asked o request timeout
  | osSwitch target => exact .committed target
  | notify n => exact .notified n
  | signal target => exact .signalled target
  | admitted p =>
    cases p with
    | caller id =>
      dsimp only [hear]
      split
      · next found => exact .posted found
      · exact .passed _
    | bus => exact .turned
    | trip | worker => exact .passed _

/-! ### The desks -/

def desks (x : Scene) : List Desk := x.runs.map (·.desk)

theorem desks_getElem? {i : Nat} {r : Run} (here : x.runs[i]? = some r) :
    x.desks[i]? = some r.desk := by
  simp [desks, here]

/-- Every desk is that of a run. -/
theorem exists_run {i : Nat} {d : Desk} (here : x.desks[i]? = some d) :
    ∃ r, x.runs[i]? = some r ∧ r.desk = d :=
  Option.map_eq_some_iff.1 (List.getElem?_map.symm.trans here)

/-- A run changes but for its desk. -/
theorem desks_onRun (i : Nat) {f : Run → Run} (desk : ∀ r, (f r).desk = r.desk) :
    (x.onRun i f).desks = x.desks :=
  map_modify_of_eq desk x.runs i

theorem Hears.desks {i : Nat} {e : Switching.Effect} {y : Scene} (hears : x.Hears i e y) :
    y.desks = x.desks := by
  cases hears with
  | noted n => cases n <;> rfl
  | turned => exact desks_onRun i fun _ => rfl
  | _ => rfl

theorem desks_foldl_hear (i : Nat) (es : List Switching.Effect) :
    (es.foldl (hear i) x).desks = x.desks := by
  induction es generalizing x with
  | nil => rfl
  | cons e es ih => exact ih.trans (x.hears i e).desks

/-- Only the desk that makes the move changes. -/
theorem desks_moveDesk {i : Nat} {r : Run} (here : x.runs[i]? = some r) (q : Switching.Move) :
    (x.moveDesk i q).desks = x.desks.set i (Switching.Moment.mk r.desk q).after := by
  simp only [moveDesk, here, List.set_eq_modify]
  exact (desks_foldl_hear i _).trans (@map_modify _ (·.desk) _ _ (fun _ => by rfl) x.runs i)

end Scene

namespace System

variable (s : System)

theorem scene_emit (e : Effect) : (s.emit e).scene = s.scene.say e := by
  simp only [scene, emit, Scene.say, List.filter_append]

theorem scene_note (n : Note) : (s.note n).scene = s.scene.note n := by
  have same : (s.out ++ [Effect.note n]).filter (·.isLoud) = s.out.filter (·.isLoud) := by
    simp [Effect.isLoud]
  cases n with
  | inFlight b => simp only [scene, note, same, Metrics.record, Scene.note]
  | _ => simp only [scene, note, same, Metrics.record, Scene.note]

theorem scene_freshId : s.freshId.2.scene = { s.scene with nextId := s.nextId + 1 } := rfl

theorem scene_await (id : Nat) (deadline : Option Int) (w : Work) :
    (s.await id deadline w).scene = s.scene.await id deadline w := rfl

theorem scene_finish (id : Nat) (r : Result) : (s.finish id r).scene = s.scene.finish id r :=
  scene_emit { s with calls := s.calls.filter (·.id != id) } _

theorem scene_release : s.release.scene = { s.scene with busy := false } := rfl

/-- What is done for each element of a list shows as it does for each. -/
theorem scene_foldl {α : Type} {f : System → α → System} {g : Scene → α → Scene}
    (each : ∀ s a, (f s a).scene = g s.scene a) (as : List α) :
    (as.foldl f s).scene = as.foldl g s.scene :=
  (List.foldl_hom System.scene fun t a => (each t a).symm).symm

theorem scene_flushManager (m : Lifecycle.Manager) :
    { s with manager := m }.flushManager.scene = s.scene.report m := by
  unfold flushManager Scene.report
  refine scene_foldl _ (fun s e => ?_) m.out
  cases e with
  | note n => exact scene_note s n
  | changed a b r => exact scene_emit s _

/-! ### Operations that do not show -/

theorem scene_plain {n : Note} (plain : n.isPlain = true) : (s.note n).scene = s.scene := by
  rw [scene_note, Scene.note_of_isPlain plain]

theorem scene_quiet {e : Effect} (quiet : e.isLoud = false) : (s.emit e).scene = s.scene := by
  rw [scene_emit, Scene.say_of_quiet quiet]

/-- Plain notes, what is not loud and what is stored do not show. -/
theorem sparing_scene : Sparing (·.isPlain = true) (·.isLoud = false)
    fun s t => t.scene = s.scene where
  refl _ := rfl
  trans one other := other.trans one
  noted s _ plain := scene_plain s plain
  said s _ quiet := scene_quiet s quiet
  stored _ _ _ := rfl
  offered _ := rfl

theorem scene_notes {ns : List Note} (plain : Note.ArePlain ns) : (s.notes ns).scene = s.scene :=
  sparing_scene.notes s plain

theorem scene_updateStore (gone : Option Fault) (change : Snapshot → Snapshot) :
    (s.updateStore gone change).1.scene = s.scene := sparing_scene.updateStore ..

theorem scene_applyChange {c : Registry.Change} (plain : Note.ArePlain c.notes) :
    (s.applyChange c).scene = s.scene := sparing_scene.applyChange s plain fun _ => rfl

/-! ### Desks -/

theorem scene_askVehicle (request : Vehicle.Request) (timeout : Option Duration) (ctx : Context)
    (owner : Owner) : (s.askVehicle request timeout ctx owner).scene = s.scene.ask owner := by
  unfold askVehicle
  dsimp only
  rw [scene_quiet _ rfl]
  simp [scene, Scene.ask, freshId]

theorem scene_call? (id : Nat) : s.scene.call? id = s.call? id := rfl

theorem scene_fromDesk (i : Nat) (e : Switching.Effect) :
    (fromDesk i s e).scene = s.scene.hear i e := by
  cases e with
  | note n => exact scene_note s n
  | reply ticket result =>
    simp only [fromDesk, Scene.hear, scene_call?]
    cases s.call? ticket with
    | none => exact scene_emit ..
    | some c =>
      obtain ⟨_, _, w⟩ := c
      cases w with
      | switching => exact scene_finish ..
      | _ => exact scene_emit ..
  | negotiate o request timeout => exact scene_askVehicle ..
  | osSwitch target | notify n | signal target => exact scene_emit ..
  | admitted p =>
    cases p with
    | caller id =>
      simp only [fromDesk, Scene.hear, scene_call?]
      cases s.call? id with
      | none => rfl
      | some c =>
        obtain ⟨_, _, w⟩ := c
        cases w with
        | posting => exact scene_finish ..
        | _ => rfl
    | bus | trip | worker => rfl

/-- A desk makes a move, and what it asks for is handed on. -/
theorem scene_onDesk (i : Nat) (q : Switching.Move) :
    (s.onDesk i (·.move q)).scene = s.scene.moveDesk i q := by
  unfold onDesk Scene.moveDesk
  rw [show s.scene.runs = s.runs from rfl]
  cases s.runs[i]? with
  | none => rfl
  | some r => exact scene_foldl _ (fun s e => scene_fromDesk s i e) _

end System

/-! ## Steps -/

/-- What a call that waits for this may get without a desk. -/
def Work.Yields : Work → Result → Prop
  | .creating _, .create _ => True
  | .associating .., .association _ => True
  | .consulting, .initial _ => True
  | .flushing, .status _ => True
  | _, _ => False

/-- Whether the context of the workers of a run has ended. -/
def Scene.contextDone (x : Scene) (r : Run) : Bool :=
  match r.group with
  | none => false
  | some g => x.manager.contextDone g

/-- The context of the workers of run `i` has ended. -/
def Scene.IsOver (x : Scene) (i : Nat) : Prop :=
  ∃ r, x.runs[i]? = some r ∧ x.contextDone r = true

/-- A step of the scene, with what is in hand of each run before and after. -/
inductive Scene.Step : Scene × (Nat → Hand) → Scene × (Nat → Hand) → Prop
  /-- A call that is under way asks the vehicle. -/
  | asked (x : Scene) (hand : Nat → Hand) (id : Nat) : Step (x, hand) (x.ask (.call id), hand)
  /-- The wait of a call for the vehicle ends. -/
  | answered (x : Scene) (hand : Nat → Hand) (id c : Nat)
      (found : x.asks.find? (·.1 == id) = some (id, .call c)) :
      Step (x, hand) ({ x with asks := x.asks.filter (·.1 != id) }, hand)
  /-- The vehicle is told something, but not of a switch that nobody negotiated. -/
  | told (x : Scene) (hand : Nat → Hand) (n : Vehicle.Notice)
      (other : n.isLegacy = false) : Step (x, hand) (x.say (.notify n), hand)
  /-- A bus makes a move; its context ends only if the one of the run has. -/
  | bus (x : Scene) (hand : Nat → Hand) (i : Nat) (m : Bus.Move Listener Nat) (outer : IsOuter m)
      (due : m = .endContext → x.IsOver i) : Step (x, hand) (x.onBus i (·.move m), hand)
  /-- A handle dies, which all buses learn. -/
  | died (x : Scene) (hand : Nat → Hand) (h : Nat) :
      Step (x, hand)
        ({ x with runs := x.runs.map fun r => { r with bus := r.bus.handleDied h } }, hand)
  /-- The worker of a bus makes a move, and what it asks for is taken in hand. -/
  | worked (x : Scene) (i : Nat) (r : Run) (here : x.runs[i]? = some r) :
      Step (x, emptyHand)
        (x.onBus i fun _ => (Bus.Moment.mk r.bus .work).after,
          inHand i (Bus.Moment.mk r.bus .work).effects)
  /-- What a bus has asked for is taken in hand. -/
  | taken (x : Scene) (i : Nat) (r : Run) (here : x.runs[i]? = some r) :
      Step (x, emptyHand) (x.onBus i fun _ => r.bus.take.2, inHand i r.bus.take.1)
  /-- The next thing in hand is a note. -/
  | noted (x : Scene) (i : Nat) (n : Note) (es : Hand) :
      Step (x, inHand i (.note n :: es)) (x.note n, inHand i es)
  /-- The next thing in hand is neither a note nor a call of the desk. -/
  | passed (x : Scene) (i : Nat) (e : Bus.Effect Listener Nat) (es : Hand) (quiet : ∀ n, e ≠ .note n)
      (other : ∀ event, e ≠ .call .desk event) : Step (x, inHand i (e :: es)) (x, inHand i es)
  /-- The next thing in hand is a call of the desk, which is made. -/
  | called (x : Scene) (i : Nat) (v : Switching.View) (event : Event) (es : Hand) :
      Step (x, inHand i (.call .desk event :: es))
        (x.moveDesk i (.events v .bus [event]), inHand i es)
  /-- The registry has looked up a user, or recorded it. -/
  | found (x : Scene) (hand : Nat → Hand) (i : Nat) (u : Option User) :
      Step (x, hand) (x.onRun i fun r => { r with found := u }, hand)
  /-- Something about a desk is set; its context ends only if the one of the run has. -/
  | setting (x : Scene) (hand : Nat → Hand) (i : Nat) (q : Switching.Move) (setting : IsSetting q)
      (due : q = .endContext → x.IsOver i) :
      Step (x, hand) (x.onRun i fun r => { r with desk := r.desk.move q }, hand)
  /-- A call gets what it waits for. -/
  | ended (x : Scene) (hand : Nat → Hand) (c : Call) (r : Result) (found : x.call? c.id = some c)
      (yields : c.work.Yields r) : Step (x, hand) (x.finish c.id r, hand)

/-- Steps one after the other. -/
abbrev Scene.Steps : Scene × (Nat → Hand) → Scene × (Nat → Hand) → Prop :=
  Relation.ReflTransGen Scene.Step

namespace System

/-- The scene of `s` goes on by steps to the one of `t`. -/
def Leads (s : System) (hand : Nat → Hand) (t : System) (hand' : Nat → Hand) : Prop :=
  Scene.Steps (s.scene, hand) (t.scene, hand')

namespace Leads

variable {s t u : System} {hand hand' hand'' : Nat → Hand}

theorem refl (s : System) (hand : Nat → Hand) : Leads s hand s hand := Relation.ReflTransGen.refl

theorem trans (one : Leads s hand t hand') (other : Leads t hand' u hand'') :
    Leads s hand u hand'' := Relation.ReflTransGen.trans one other

/-- What does not show is no step at all. -/
theorem of_eq (same : t.scene = s.scene) : Leads s hand t hand := by
  rw [Leads, same]

/-- What does not show comes first. -/
theorem since (other : Leads t hand u hand') (same : t.scene = s.scene) : Leads s hand u hand' :=
  (of_eq same).trans other

/-- What does not show comes last. -/
theorem upTo (one : Leads s hand t hand') (same : u.scene = t.scene) : Leads s hand u hand' :=
  one.trans (of_eq same)

/-- A single step. -/
theorem single {x : Scene} (step : Scene.Step (s.scene, hand) (x, hand')) (is : t.scene = x) :
    Leads s hand t hand' := by
  rw [Leads, is]
  exact .single step

end Leads

/-! ### Calls and notices -/

variable (s : System) (hand : Nat → Hand)

/-- A call that waits for something else than a desk gets it. -/
theorem leads_finish {t : System} (same : t.scene = s.scene) {id : Nat} {c : Call} {r : Result}
    (found : s.call? id = some c) (yields : c.work.Yields r) : Leads s hand (t.finish id r) hand := by
  have own : c.id = id := by simpa using List.find?_some found
  subst own
  refine .single (.ended s.scene hand c r found yields) ?_
  rw [scene_finish, same]

theorem leads_answerCall (id : Nat) (v : Trip.Verdict Vehicle.Response) :
    Leads s hand (s.answerCall id v) hand := by
  unfold answerCall
  split
  · next found =>
    refine leads_finish s hand ?_ found trivial
    exact scene_notes { s with roster := _ } (Provision.plain_ratified _ _ _ _)
  · next found =>
    refine leads_finish s hand ?_ found trivial
    exact (scene_plain _ rfl).trans (scene_notes _ (Association.plain_answered _ _ _ _))
  · next found =>
    split
    · exact leads_finish s hand (scene_plain _ rfl) found trivial
    · exact leads_finish s hand rfl found trivial
  · exact .refl s hand

/-! ### Buses -/

theorem leads_onBus (i : Nat) (m : Bus.Move Listener Nat) (outer : IsOuter m)
    (due : m = .endContext → s.scene.IsOver i) : Leads s hand (s.onBus i (·.move m)) hand :=
  .single (.bus s.scene hand i m outer due) rfl

/-- One thing that a bus asked for is handed on. -/
theorem leads_fromBus (i : Nat) (e : Bus.Effect Listener Nat) (es : Hand) :
    Leads s (inHand i (e :: es)) (fromBus i s e) (inHand i es) := by
  -- Unless there is a note or the desk is called, the scene does not notice.
  have pass (quiet : ∀ n, e ≠ .note n) (other : ∀ x, e ≠ .call .desk x) :
      Leads s (inHand i (e :: es)) s (inHand i es) :=
    .single (.passed s.scene i e es quiet other) rfl
  cases e with
  | note n => exact .single (.noted s.scene i n es) (scene_note ..)
  | send uid h x => exact (pass nofun nofun).upTo (scene_quiet s rfl)
  | release barrier =>
    refine (pass nofun nofun).trans ?_
    dsimp only [fromBus]
    split
    · next found => exact leads_finish s _ rfl found trivial
    · exact .refl s _
  | call l x =>
    cases l with
    | outside id => exact (pass nofun nofun).upTo (scene_quiet s rfl)
    | desk =>
      exact .single (.called s.scene i s.view x es) (scene_onDesk s i (.events s.view .bus [x]))
    | registry =>
      refine (pass nofun nofun).trans ?_
      dsimp only [fromBus]
      split
      · exact leads_onBus s _ i (.returned none) trivial (by simp)
      · next n missed =>
        exact (leads_onBus _ _ i (.returned none) trivial (by simp)).since
          (scene_plain s (Registry.isPlain_lookUp missed))
      · next u _ => exact .single (.found s.scene _ i (some u)) rfl

theorem leads_foldl_fromBus (i : Nat) (es : Hand) :
    Leads s (inHand i es) (es.foldl (fromBus i) s) emptyHand := by
  induction es generalizing s with
  | nil => exact inHand_nil i ▸ Leads.refl s (inHand i [])
  | cons e es ih => exact (leads_fromBus s i e es).trans (ih _)

/-- All that a bus asked for is handed on. -/
theorem leads_flushBus (i : Nat) : Leads s emptyHand (s.flushBus i) emptyHand := by
  rcases s.flushBus_cases i with same | ⟨r, here, same⟩
  · rw [same]
    exact .refl s emptyHand
  · rw [same]
    exact Leads.trans (.single (.taken s.scene i r here) rfl) (leads_foldl_fromBus _ i r.bus.take.1)

/-- A bus makes a move, and what it asks for is handed on. -/
theorem leads_moveBus (i : Nat) (m : Bus.Move Listener Nat) (outer : IsOuter m)
    (live : m ≠ .endContext) :
    Leads s emptyHand ((s.onBus i (·.move m)).flushBus i) emptyHand :=
  (leads_onBus s emptyHand i m outer fun ends => absurd ends live).trans (leads_flushBus _ i)

/-- A bus makes a move that may be refused. -/
theorem leads_tryBus (i : Nat) (m : Bus.Move Listener Nat) (outer : IsOuter m)
    (live : m ≠ .endContext) {f : Bus Listener Nat → Except Fault (Bus Listener Nat)}
    (made : ∀ b, (f b).toOption.getD b = b.move m) :
    Leads s emptyHand (s.tryBus i f).1 emptyHand := by
  rcases s.tryBus_cases i made with same | same
  · rw [same]
    exact .refl s emptyHand
  · rw [same]
    exact leads_moveBus s i m outer live

/-- A listener outside returns, if it was called. -/
theorem leads_listenerReturned (i : Nat) (crash : Option Bus.Crash) :
    Leads s emptyHand (s.listenerReturned i crash) emptyHand := by
  rcases s.listenerReturned_cases i crash with same | ⟨r, l, e, left, -, -, same⟩
  · rw [same]
    exact .refl s emptyHand
  · rw [same]
    exact leads_moveBus s i (.returned crash) trivial (by simp)

/-- The registry records the user that it has looked up. -/
theorem leads_record (i : Nat) : Leads s emptyHand ((s.record? i).getD s) emptyHand := by
  rcases s.record_cases i with same | ⟨r, u, -, -, same⟩
  · rw [same]
    exact .refl s emptyHand
  · rw [same]
    refine Leads.trans ?_ (leads_moveBus _ i (.returned _) trivial (by simp))
    have applied := scene_applyChange s (Registry.plain_add s.registry u s.sessions.current)
    refine .single (.found s.scene emptyHand i none) ?_
    exact congrArg (fun x : Scene => x.onRun i fun r => { r with found := none }) applied

theorem leads_busStep (i : Nat) : Leads s emptyHand ((s.busStep? i).getD s) emptyHand := by
  rcases s.busStep_cases i with same | ⟨r, here, same⟩
  · rw [same]
    exact .refl s emptyHand
  · -- Putting the bus back and taking what it asked for is one change of the run.
    rw [same, flushBus_onBus here]
    exact Leads.trans (.single (.worked s.scene i r here) rfl) (leads_foldl_fromBus _ i _)

/-! ### Events -/

theorem leads_onEvent (e : Event) : Leads s emptyHand (s.onEvent e) emptyHand := by
  unfold onEvent
  split
  · exact .of_eq (scene_plain s rfl)
  · next i _ => exact leads_moveBus s i (.dispatch e) trivial (by simp)

/-- The events of the sessions go to the service. -/
theorem leads_emitEvents (wired : s.sink = .service) (p : Switching.Poster) (es : List Event) :
    Leads s emptyHand (s.emitEvents p es) emptyHand := by
  unfold emitEvents
  rw [wired]
  exact List.foldlRecOn (motive := (Leads s emptyHand · emptyHand)) es _ (.refl s emptyHand)
    fun t here e _ => here.trans (leads_onEvent t e)

theorem leads_onSessions (wired : s.sink = .service) (p : Switching.Poster)
    (r : Except Fault (Sessions × List Event)) :
    Leads s emptyHand (s.onSessions p r).1 emptyHand := by
  unfold onSessions
  split
  · exact .refl s emptyHand
  · next sessions es =>
    exact (leads_emitEvents { s with sessions := sessions } wired p es).since rfl

/-! ### Settings -/

theorem leads_onPublishedDesk (q : Switching.Move) (setting : IsSetting q)
    (live : q ≠ .endContext) : Leads s hand (s.onPublishedDesk (·.move q)) hand := by
  unfold onPublishedDesk
  split
  · exact .refl s hand
  · next i _ => exact .single (.setting s.scene hand i q setting fun ends => absurd ends live) rfl

theorem leads_setPanel (p : Option Switching.Panel) : Leads s hand (s.setPanel p) hand :=
  (leads_onPublishedDesk { s with panel := p } hand (.setPanel p) trivial (by simp)).since rfl

theorem leads_setTimeout (d : Duration) : Leads s hand (s.setTimeout d) hand := by
  unfold setTimeout
  split
  · exact .of_eq (scene_plain s rfl)
  · exact (leads_onPublishedDesk
      { s with timeout := d, provisionTimeout := d, associationTimeout := d } hand (.setTimeout d)
      trivial (by simp)).since rfl

theorem leads_notice (i : Nat) : Leads s hand ((s.notice? i).getD s) hand := by
  rcases s.notice_cases i with same | ⟨r, here, due, same⟩
  · rw [same]
    exact .refl s hand
  · rw [same]
    refine .trans (t := s.onBus i (·.endContext))
      (leads_onBus s hand i .endContext trivial fun _ => ⟨r, here, due⟩) ?_
    have there : (s.onBus i (·.endContext)).runs[i]? = some { r with bus := r.bus.endContext } := by
      simp [onBus, onRun, here]
    refine .single (.setting _ hand i .endContext trivial fun _ => ⟨_, there, due⟩) ?_
    simp [scene, Scene.onRun, onBus, onRun, List.modify_modify_eq, Function.comp_def, Desk.move]

end System

end Service

end HeadUnit
