import Mathlib.Logic.Relation
import HeadUnit.Proofs.Service.Outline

/-!
# What reaches the workers

Whatever an operation of the system does, it reaches the workers of its runs only
through moves of their buses and desks. `Run.Step` lists these moves, for a run
and what is *in hand*: effects that the bus has asked for and that are being
handed on, one after the other.

An operation that does not touch a run is *quiet* (`System.Quiet`), which all is that goes
on around the calls (`aloof_quiet`). Most others let every run take such steps, withdraw the
published run at most and give out numbers at most: the system *follows* (`System.Follows`).
There is one lemma per operation, `quiet_` or `follows_`; `System.putDesk` stands where a desk
is asked for a switch or comes back from a commit, which are no steps of a run by itself.
-/

namespace HeadUnit.Service

open Switching (View)

/-! ## Steps of a run -/

/-- A move of a desk that nobody asks for: what its worker does, what the launch and
    the end of a trip and the arrival of events do. -/
def IsOwn : Switching.Move → Prop
  | .launch _ | .tripEnded .. | .events .. | .work _ | .mark | .stop _ => True
  | .request .. | .initiate .. | .committed .. | .close _ => False
  | .start | .endContext | .setTimeout _ | .setPanel _ => False

/-- A move of a desk that asks for nothing. -/
def IsSetting : Switching.Move → Prop
  | .start | .endContext | .setTimeout _ | .setPanel _ => True
  | _ => False

/-- A move of a bus that is not one of its worker, and removes no listener of the
    service. -/
def IsOuter : Bus.Move Listener Nat → Prop
  | .work => False
  | .unregister (.listener l) => ∃ id, l = .outside id
  | _ => True

/-- Effects of a bus that are being handed on. -/
abbrev Hand := List (Bus.Effect Listener Nat)

/-- A step of a run, with what is in hand before and after. -/
inductive Run.Step : Run × Hand → Run × Hand → Prop
  | bus (r : Run) (es : Hand) (m : Bus.Move Listener Nat) (outer : IsOuter m) :
      Step (r, es) ({ r with bus := r.bus.move m }, es)
  /-- The worker of the bus makes a move, and what it asks for is taken in hand. -/
  | worked (r : Run) :
      Step (r, [])
        ({ r with bus := (Bus.Moment.mk r.bus .work).after }, (Bus.Moment.mk r.bus .work).effects)
  /-- What the bus has asked for is taken in hand. -/
  | taken (r : Run) : Step (r, []) ({ r with bus := r.bus.take.2 }, r.bus.take.1)
  /-- The next thing in hand is no call of the desk. -/
  | passed (r : Run) (es : Hand) (e : Bus.Effect Listener Nat) (other : ∀ x, e ≠ .call .desk x) :
      Step (r, e :: es) (r, es)
  /-- The next thing in hand is a call of the desk, which is made. -/
  | called (r : Run) (es : Hand) (v : View) (x : Event) :
      Step (r, .call .desk x :: es)
        ({ r with desk := (Switching.Moment.mk r.desk (.events v .bus [x])).after }, es)
  | desk (r : Run) (es : Hand) (m : Switching.Move) (own : IsOwn m) :
      Step (r, es) ({ r with desk := (Switching.Moment.mk r.desk m).after }, es)
  | setting (r : Run) (es : Hand) (m : Switching.Move) (setting : IsSetting m) :
      Step (r, es) ({ r with desk := r.desk.move m }, es)
  /-- The registry has looked up a user, or recorded it. -/
  | found (r : Run) (es : Hand) (u : Option User) : Step (r, es) ({ r with found := u }, es)
  /-- The return of a worker is reported. -/
  | reported (r : Run) (es : Hand) (bus desk : Bool) :
      Step (r, es) ({ r with busReported := bus, deskReported := desk }, es)

/-- Steps one after the other. -/
abbrev Run.Steps : Run × Hand → Run × Hand → Prop := Relation.ReflTransGen Run.Step

namespace System

/-! ## Quiet operations -/

/-- No run is touched. -/
structure Quiet (s s' : System) : Prop where
  runs : s'.runs = s.runs
  published : s'.published = s.published
  sink : s'.sink = s.sink
  ids : s.nextId ≤ s'.nextId

namespace Quiet

theorem refl (s : System) : Quiet s s := ⟨rfl, rfl, rfl, Nat.le_refl _⟩

theorem trans {s t u : System} (one : Quiet s t) (other : Quiet t u) : Quiet s u where
  runs := other.runs.trans one.runs
  published := other.published.trans one.published
  sink := other.sink.trans one.sink
  ids := Nat.le_trans one.ids other.ids

/-- The same composition, for an operation whose beginning is a change of other
    fields. -/
theorem since {s t u : System} (other : Quiet t u) (one : Quiet s t) : Quiet s u := one.trans other

end Quiet

variable (s : System)

theorem quiet_emit (e : Effect) : Quiet s (s.emit e) := ⟨rfl, rfl, rfl, Nat.le_refl _⟩

theorem quiet_note (n : Note) : Quiet s (s.note n) := ⟨rfl, rfl, rfl, Nat.le_refl _⟩

theorem quiet_freshId : Quiet s s.freshId.2 := ⟨rfl, rfl, rfl, Nat.le_succ _⟩

theorem quiet_askVehicle (request : Vehicle.Request) (timeout : Option Duration) (ctx : Context)
    (owner : Owner) : Quiet s (s.askVehicle request timeout ctx owner) :=
  ⟨rfl, rfl, rfl, Nat.le_succ _⟩

/-- What goes on around the calls touches no run. -/
theorem aloof_quiet : Aloof Quiet where
  refl := .refl
  trans := .trans
  noted s n _ := quiet_note s n
  said s e _ := quiet_emit s e
  called _ _ := ⟨rfl, rfl, rfl, Nat.le_refl _⟩
  asked := quiet_askVehicle
  steered _ _ _ := ⟨rfl, rfl, rfl, Nat.le_refl _⟩

/-- Nor does what is stored. -/
theorem sparing_quiet : Sparing (fun _ => True) (fun _ => True) Quiet where
  refl := .refl
  trans := .trans
  noted s n _ := quiet_note s n
  said s e _ := quiet_emit s e
  stored _ _ _ := ⟨rfl, rfl, rfl, Nat.le_refl _⟩
  offered _ := trivial

theorem quiet_notes (ns : List Note) : Quiet s (s.notes ns) := aloof_quiet.notes s ns

theorem quiet_await (id : Nat) (deadline : Option Int) (w : Work) :
    Quiet s (s.await id deadline w) := aloof_quiet.await ..

theorem quiet_finish (id : Nat) (r : Result) : Quiet s (s.finish id r) := aloof_quiet.finish ..

theorem quiet_flushManager : Quiet s s.flushManager := aloof_quiet.flushManager s

theorem quiet_applyChange (c : Registry.Change) : Quiet s (s.applyChange c) :=
  (sparing_quiet.applyChange s (fun _ _ => trivial) fun _ => trivial).since
    ⟨rfl, rfl, rfl, Nat.le_refl _⟩

theorem quiet_answerCall (id : Nat) (v : Trip.Verdict Vehicle.Response) :
    Quiet s (s.answerCall id v) := by
  unfold answerCall
  split
  · exact ((quiet_notes ..).trans (quiet_finish ..)).since ⟨rfl, rfl, rfl, Nat.le_refl _⟩
  · exact (quiet_notes ..).trans (aloof_quiet.associated ..)
  · split
    · exact (quiet_note ..).trans (quiet_finish ..)
    · exact quiet_finish ..
  · exact .refl s

theorem quiet_setMaxRunning (id : Nat) (n : Int64) : Quiet s (s.setMaxRunning id n) := by
  unfold setMaxRunning
  split
  · exact (quiet_note ..).trans (quiet_finish ..)
  · exact (quiet_await ..).since ⟨rfl, rfl, rfl, Nat.le_refl _⟩

theorem quiet_bound (id : Nat) (n : Int64) : Quiet s (s.bound id n) :=
  (quiet_applyChange ..).trans (quiet_finish ..)

theorem quiet_created (id : Nat) (ctx : Context) (timeout : Duration)
    (st : Provision.Step Provision.Creation) : Quiet s (s.created id ctx timeout st) :=
  (aloof_quiet.created s id ctx timeout st).since ⟨rfl, rfl, rfl, Nat.le_refl _⟩

theorem quiet_removeUser (id : Nat) (user : UserId) : Quiet s (s.removeUser id user) := by
  unfold removeUser
  dsimp only
  refine Quiet.trans ?_ ((quiet_notes ..).trans (quiet_finish ..))
  have forgotten (b : Bool) (t : System) (c : Registry.Change) (quiet : Quiet s t) :
      Quiet s (if b then t.applyChange c else t) := by
    split
    · exact quiet.trans (quiet_applyChange ..)
    · exact quiet
  split
  · exact (quiet_emit ..).since (forgotten _ _ _ ⟨rfl, rfl, rfl, Nat.le_refl _⟩)
  · exact forgotten _ _ _ ⟨rfl, rfl, rfl, Nat.le_refl _⟩

theorem quiet_setInitial (id : Nat) (ctx : Context) (user : UserId) :
    Quiet s (s.setInitial id ctx user) := by
  unfold setInitial
  dsimp only
  split
  · exact quiet_finish ..
  · exact (sparing_quiet.updateStore ..).trans (quiet_finish ..)

/-! ## Operations that reach the workers -/

/-- What is in hand when the effects `es` of the bus of run `i` are handed on. -/
def inHand (i : Nat) (es : Hand) (j : Nat) : Hand := if j = i then es else []

/-- Nothing is in hand. -/
def emptyHand (_ : Nat) : Hand := []

theorem inHand_nil (i : Nat) : inHand i [] = emptyHand := by
  funext j
  exact ite_self _

/-- Every run takes steps, the published run is withdrawn at most, and numbers are
    given out at most. -/
structure Follows (s : System) (hand : Nat → Hand) (s' : System) (hand' : Nat → Hand) : Prop where
  runs : ∀ j r, s.runs[j]? = some r →
    ∃ r', s'.runs[j]? = some r' ∧ Run.Steps (r, hand j) (r', hand' j)
  length : s'.runs.length = s.runs.length
  published : s'.published = s.published ∨ s'.published = none
  sink : s'.sink = s.sink
  ids : s.nextId ≤ s'.nextId

namespace Follows

variable {s t u : System} {hand hand' hand'' : Nat → Hand}

theorem trans (one : Follows s hand t hand') (other : Follows t hand' u hand'') :
    Follows s hand u hand'' where
  runs j r here := by
    obtain ⟨r₁, there, steps⟩ := one.runs j r here
    obtain ⟨r₂, last, more⟩ := other.runs j r₁ there
    exact ⟨r₂, last, steps.trans more⟩
  length := other.length.trans one.length
  published := by
    rcases other.published with same | gone
    · rcases one.published with same' | gone'
      · exact .inl (same.trans same')
      · exact .inr (same.trans gone')
    · exact .inr gone
  sink := other.sink.trans one.sink
  ids := Nat.le_trans one.ids other.ids

theorem of_quiet (quiet : Quiet s t) : Follows s hand t hand where
  runs j r here := ⟨r, by rw [quiet.runs, here], .refl⟩
  length := by rw [quiet.runs]
  published := .inl quiet.published
  sink := quiet.sink
  ids := quiet.ids

theorem refl (s : System) (hand : Nat → Hand) : Follows s hand s hand := of_quiet (.refl s)

/-- A quiet operation comes first. -/
theorem since (other : Follows t hand u hand') (one : Quiet s t) : Follows s hand u hand' :=
  (of_quiet one).trans other

/-- What is quiet does not matter. -/
theorem aloof (hand : Nat → Hand) : Aloof (Follows · hand · hand) where
  refl s := refl s hand
  trans := trans
  noted s n h := of_quiet (aloof_quiet.noted s n h)
  said s e h := of_quiet (aloof_quiet.said s e h)
  called s calls := of_quiet (aloof_quiet.called s calls)
  asked s request timeout ctx owner := of_quiet (aloof_quiet.asked s request timeout ctx owner)
  steered s manager busy := of_quiet (aloof_quiet.steered s manager busy)

/-- The published run is withdrawn, and nothing else. -/
theorem withdrawn (runs : t.runs = s.runs) (published : t.published = none)
    (sink : t.sink = s.sink) (ids : s.nextId ≤ t.nextId) : Follows s hand t hand where
  runs j r here := ⟨r, by rw [runs, here], .refl⟩
  length := by rw [runs]
  published := .inr published
  sink := sink
  ids := ids

end Follows

variable {s}

/-- If the run `i` takes steps, so does the system. -/
theorem follows_onRun {i : Nat} {f : Run → Run} {hand hand' : Nat → Hand}
    (steps : ∀ r, s.runs[i]? = some r → Run.Steps (r, hand i) (f r, hand' i))
    (others : ∀ j, j ≠ i → hand' j = hand j) : Follows s hand (s.onRun i f) hand' where
  runs j r here := by
    by_cases same : i = j
    · subst same
      exact ⟨f r, by simp [onRun, here], steps r here⟩
    · refine ⟨r, by simp [onRun, same, here], ?_⟩
      rw [others j (Ne.symm same)]
  length := List.length_modify ..
  published := .inl rfl
  sink := rfl
  ids := Nat.le_refl _

/-- What is in hand may be put down without the system noticing. -/
theorem follows_hand {i : Nat} {hand hand' : Nat → Hand}
    (steps : ∀ r, s.runs[i]? = some r → Run.Steps (r, hand i) (r, hand' i))
    (others : ∀ j, j ≠ i → hand' j = hand j) : Follows s hand s hand' where
  runs j r here := by
    by_cases same : j = i
    · subst same
      exact ⟨r, here, steps r here⟩
    · exact ⟨r, here, by rw [others j same]⟩
  length := rfl
  published := .inl rfl
  sink := rfl
  ids := Nat.le_refl _

variable {hand : Nat → Hand}

theorem follows_onRun_step {i : Nat} {f : Run → Run}
    (step : ∀ r, s.runs[i]? = some r → Run.Step (r, hand i) (f r, hand i)) :
    Follows s hand (s.onRun i f) hand :=
  follows_onRun (fun r here => .single (step r here)) fun _ _ => rfl

variable (s) (hand)

theorem follows_onBus (i : Nat) (m : Bus.Move Listener Nat) (outer : IsOuter m) :
    Follows s hand (s.onBus i (·.move m)) hand :=
  follows_onRun_step fun r _ => .bus r _ m outer

/-- What a desk asks for is handed on without a desk being reached. -/
theorem follows_fromDesk (i : Nat) (e : Switching.Effect) :
    Follows s hand (fromDesk i s e) hand :=
  (Follows.aloof hand).fromDesk s i e fun t => follows_onBus t hand i (.returned none) trivial

/-- Puts a desk in the place of another. -/
def putDesk (s : System) (i : Nat) (d : Switching.Desk) : System :=
  s.onRun i fun r => { r with desk := d }

variable {s}

/-- A desk makes a move, and what it asks for is handed on. -/
theorem follows_putDesk {i : Nat} {r : Run} (here : s.runs[i]? = some r) (m : Switching.Move) :
    Follows (s.putDesk i (Switching.Moment.mk r.desk m).after) hand (s.onDesk i (·.move m))
      hand := by
  unfold onDesk
  rw [here]
  exact (Follows.aloof hand).foldl _ fun t e _ => follows_fromDesk t hand i e

variable (s)

theorem follows_onDesk (i : Nat) (m : Switching.Move) (own : IsOwn m) :
    Follows s hand (s.onDesk i (·.move m)) hand := by
  cases here : s.runs[i]? with
  | none =>
    unfold onDesk
    rw [here]
    exact .refl s hand
  | some r =>
    refine Follows.trans (follows_onRun_step fun r' here' => ?_) (follows_putDesk hand here m)
    obtain rfl : r = r' := Option.some.inj (here.symm.trans here')
    exact .desk r _ m own

theorem inHand_self (i : Nat) (es : Hand) : inHand i es i = es := if_pos rfl

theorem inHand_of_ne {i j : Nat} (ne : j ≠ i) (es : Hand) : inHand i es j = [] := if_neg ne

/-- One thing that a bus asked for is handed on. -/
theorem follows_fromBus (i : Nat) (e : Bus.Effect Listener Nat) (es : Hand) :
    Follows s (inHand i (e :: es)) (fromBus i s e) (inHand i es) := by
  have others (j : Nat) (ne : j ≠ i) : inHand i es j = inHand i (e :: es) j := by
    rw [inHand_of_ne ne, inHand_of_ne ne]
  -- Unless the desk is called, the run does not notice.
  have pass (other : ∀ x, e ≠ .call .desk x) : Follows s (inHand i (e :: es)) s (inHand i es) := by
    refine follows_hand (fun r _ => ?_) others
    rw [inHand_self, inHand_self]
    exact .single (.passed r es e other)
  cases e with
  | note n => exact (pass nofun).trans (.of_quiet (quiet_note ..))
  | send uid h x => exact (pass nofun).trans (.of_quiet (quiet_emit ..))
  | release barrier =>
    refine (pass nofun).trans ?_
    dsimp only [fromBus]
    split
    · exact .of_quiet (quiet_finish ..)
    · exact .refl s _
  | call l x =>
    cases l with
    | outside id => exact (pass nofun).trans (.of_quiet (quiet_emit ..))
    | registry =>
      refine (pass nofun).trans ?_
      dsimp only [fromBus]
      split
      · exact follows_onBus _ _ i (.returned none) trivial
      · exact (follows_onBus _ _ i (.returned none) trivial).since (quiet_note ..)
      · exact follows_onRun_step fun r _ => .found r _ _
    | desk =>
      cases here : s.runs[i]? with
      | none =>
        have same : fromBus i s (.call .desk x) = s := by simp only [fromBus, onDesk, here]
        rw [same]
        refine follows_hand (fun r there => ?_) others
        cases here.symm.trans there
      | some r =>
        refine Follows.trans (follows_onRun (fun r' here' => ?_) others)
          (follows_putDesk (inHand i es) here (.events s.view .bus [x]))
        obtain rfl : r = r' := Option.some.inj (here.symm.trans here')
        rw [inHand_self, inHand_self]
        exact .single (.called r es s.view x)

theorem follows_foldl_fromBus (i : Nat) (es : Hand) :
    Follows s (inHand i es) (es.foldl (fromBus i) s) emptyHand := by
  induction es generalizing s with
  | nil => exact inHand_nil i ▸ Follows.refl s (inHand i [])
  | cons e es ih => exact (follows_fromBus s i e es).trans (ih _)

/-- All that a bus asked for is handed on. -/
theorem follows_flushBus (i : Nat) : Follows s emptyHand (s.flushBus i) emptyHand := by
  rcases s.flushBus_cases i with same | ⟨r, here, same⟩
  · rw [same]
    exact .refl s emptyHand
  · rw [same]
    refine Follows.trans (follows_onRun (fun r' here' => ?_) fun j ne => ?_)
      (follows_foldl_fromBus _ i r.bus.take.1)
    · obtain rfl : r = r' := Option.some.inj (here.symm.trans here')
      rw [inHand_self]
      exact .single (.taken r)
    · exact inHand_of_ne ne _

/-- A bus makes a move, and what it asks for is handed on. -/
theorem follows_moveBus (i : Nat) (m : Bus.Move Listener Nat) (outer : IsOuter m) :
    Follows s emptyHand ((s.onBus i (·.move m)).flushBus i) emptyHand :=
  (follows_onBus s emptyHand i m outer).trans (follows_flushBus _ i)

/-- A bus makes a move that may be refused. -/
theorem follows_tryBus (i : Nat) (m : Bus.Move Listener Nat) (outer : IsOuter m)
    {f : Bus Listener Nat → Except Fault (Bus Listener Nat)}
    (made : ∀ b, (f b).toOption.getD b = b.move m) :
    Follows s emptyHand (s.tryBus i f).1 emptyHand := by
  rcases s.tryBus_cases i made with same | same
  · rw [same]
    exact .refl s emptyHand
  · exact same ▸ follows_moveBus s i m outer

/-! ### Events -/

theorem follows_onEvent (e : Event) : Follows s emptyHand (s.onEvent e) emptyHand := by
  unfold onEvent
  split
  · exact .of_quiet (quiet_note ..)
  · next i _ => exact follows_moveBus s i (.dispatch e) trivial

theorem follows_foldl_onEvent (es : List Event) :
    Follows s emptyHand (es.foldl onEvent s) emptyHand :=
  (Follows.aloof emptyHand).foldl s fun t e _ => follows_onEvent t e

theorem follows_emitEvents (p : Switching.Poster) (es : List Event) :
    Follows s emptyHand (s.emitEvents p es) emptyHand :=
  (Follows.aloof emptyHand).emitEvents s p es (fun t e _ => follows_onEvent t e)
    (fun i => follows_onDesk s emptyHand i (.events s.view p es) trivial) fun _ => trivial

theorem follows_onSessions (p : Switching.Poster) (r : Except Fault (Sessions × List Event)) :
    Follows s emptyHand (s.onSessions p r).1 emptyHand := by
  unfold onSessions
  split
  · exact .refl s emptyHand
  · exact (follows_emitEvents ..).since ⟨rfl, rfl, rfl, Nat.le_refl _⟩

/-- Whoever asked learns how the wait has ended. -/
theorem follows_told (v : Trip.Verdict Vehicle.Response) (o : Owner) :
    Follows s emptyHand (s.told v o) emptyHand := by
  cases o with
  | desk i ticket => exact follows_onDesk s emptyHand i (.tripEnded s.view ticket _ _) trivial
  | call c => exact .of_quiet (quiet_answerCall ..)

/-- A question is dropped. -/
theorem quiet_dropAsk (a : Ask) (e : Trip.Ending Vehicle.Response) : Quiet s (s.dropAsk a e) :=
  (aloof_quiet.dropAsk s a e (fun _ _ _ => trivial) trivial).since ⟨rfl, rfl, rfl, Nat.le_refl _⟩

theorem follows_askEnded (id : Nat) (e : Trip.Ending Vehicle.Response) :
    Follows s emptyHand (s.askEnded id e) emptyHand := by
  rcases s.askEnded_cases id e with same | ⟨a, -, same⟩
  · rw [same]
    exact .refl s emptyHand
  · exact same ▸ (follows_told _ (a.verdict e) a.owner).since (quiet_dropAsk s a e)

/-! ### Operations -/

/-- Settings reach the published desk. -/
theorem follows_onPublishedDesk (m : Switching.Move) (setting : IsSetting m) :
    Follows s emptyHand (s.onPublishedDesk (·.move m)) emptyHand := by
  unfold onPublishedDesk
  split
  · exact .refl s emptyHand
  · exact follows_onRun_step fun r _ => .setting r _ m setting

theorem follows_setPanel (p : Option Switching.Panel) :
    Follows s emptyHand (s.setPanel p) emptyHand :=
  (follows_onPublishedDesk _ (.setPanel p) trivial).since ⟨rfl, rfl, rfl, Nat.le_refl _⟩

theorem follows_setTimeout (d : Duration) : Follows s emptyHand (s.setTimeout d) emptyHand := by
  unfold setTimeout
  split
  · exact .of_quiet (quiet_note ..)
  · exact (follows_onPublishedDesk _ (.setTimeout d) trivial).since ⟨rfl, rfl, rfl, Nat.le_refl _⟩

theorem follows_startBackground (id : Nat) :
    Follows s emptyHand (s.startBackground id) emptyHand := by
  have started : Follows s emptyHand (s.startRegistered id).1 emptyHand := by
    unfold startRegistered
    dsimp only
    exact ((follows_emitEvents ..).since (quiet_notes ..)).since ⟨rfl, rfl, rfl, Nat.le_refl _⟩
  exact started.trans (.of_quiet ((quiet_note ..).trans (quiet_finish ..)))

theorem follows_stopBackground (id : Nat) (user : UserId) :
    Follows s emptyHand (s.stopBackground id user) emptyHand := by
  unfold stopBackground
  dsimp only
  refine Follows.trans ?_ (.of_quiet (quiet_finish ..))
  exact ((follows_emitEvents ..).since (quiet_notes ..)).since ⟨rfl, rfl, rfl, Nat.le_refl _⟩

/-- The published bus makes a move that may be refused. -/
theorem follows_onPublishedBus (id : Nat) (m : Bus.Move Listener Nat) (outer : IsOuter m)
    {f : Bus Listener Nat → Except Fault (Bus Listener Nat)}
    (made : ∀ b, (f b).toOption.getD b = b.move m) :
    Follows s emptyHand (s.onPublishedBus id f) emptyHand := by
  unfold onPublishedBus
  split
  · exact .of_quiet (quiet_finish ..)
  · next i _ => exact (follows_tryBus s i m outer made).trans (.of_quiet (quiet_finish ..))

theorem follows_flushEvents (id : Nat) (ctx : Context) :
    Follows s emptyHand (s.flushEvents id ctx) emptyHand := by
  rcases s.flushEvents_cases id ctx with none | ⟨i, -, done⟩
  · exact none ▸ .of_quiet (quiet_finish ..)
  · have flushed : Follows s emptyHand
        ((s.await id ctx.deadline .flushing).tryBus i (·.flush id)).1 emptyHand :=
      (follows_tryBus _ i (.flush id) trivial fun _ => rfl).since (quiet_await ..)
    rcases done with waits | ⟨f, ended⟩
    · exact waits ▸ flushed
    · exact ended ▸ flushed.trans (.of_quiet (quiet_finish ..))

/-! ### Starting and stopping -/

theorem quiet_cacheState (id : Nat) (st : Snapshot) : Quiet s (s.cacheState id st) :=
  ⟨rfl, rfl, rfl, Nat.le_refl _⟩

theorem quiet_restoreState (id : Nat) (st : Snapshot) : Quiet s (s.restoreState id st) := by
  have applied := quiet_applyChange s (s.registry.restore st)
  unfold restoreState
  dsimp only
  split
  · exact applied.trans ((aloof_quiet.release _).trans (quiet_finish ..))
  · exact applied.trans (aloof_quiet.await' ..)

theorem quiet_startNow (id : Nat) (parentDone : Bool) : Quiet s (s.startNow id parentDone) := by
  unfold startNow
  split
  · exact quiet_finish ..
  · split
    · exact quiet_finish ..
    · exact ((quiet_flushManager _).trans (quiet_await ..)).since ⟨rfl, rfl, rfl, Nat.le_refl _⟩

theorem follows_stopNow (id : Nat) : Follows s emptyHand (s.stopNow id) emptyHand := by
  unfold stopNow
  split
  · exact .of_quiet (quiet_finish ..)
  · split
    · refine Follows.trans (t := { s with published := none }) ?_ (.of_quiet (quiet_await ..))
      exact .withdrawn rfl rfl rfl (Nat.le_refl _)
    · next m _ =>
      refine Follows.trans (t := { s with published := none, manager := m, busy := true }) ?_
        (.of_quiet ((quiet_flushManager _).trans (quiet_await ..)))
      exact .withdrawn rfl rfl rfl (Nat.le_refl _)

theorem follows_pluginReady (id : Nat) (fault : Option Fault) :
    Follows s emptyHand (s.pluginReady id fault) emptyHand := by
  unfold pluginReady
  split
  · dsimp only
    split
    · exact .of_quiet ((quiet_note ..).trans (aloof_quiet.nextPlugin ..))
    · exact Follows.withdrawn rfl rfl rfl (Nat.le_refl _)
  · exact .refl s emptyHand

/-- The next listener of a run that is not published yet is registered, or refused. -/
theorem follows_wire (id i : Nat) (l : Listener) (left : List Listener) :
    Follows s emptyHand (s.wire id i (l :: left)) emptyHand := by
  have tried := follows_tryBus s i (.register (.listener l)) trivial
    (f := (·.register (.listener l))) fun _ => rfl
  rcases s.wire_cases id i l left with ⟨-, same⟩ | ⟨f, -, same⟩
  · exact same ▸ tried.trans (.of_quiet (aloof_quiet.await' ..))
  · exact same ▸ tried.trans (.of_quiet (aloof_quiet.abort ..))

/-! ### Steps of workers -/

/-- The registry records the user that it has looked up. -/
theorem follows_record (i : Nat) : Follows s emptyHand ((s.record? i).getD s) emptyHand := by
  rcases s.record_cases i with same | ⟨r, u, -, -, same⟩
  · rw [same]
    exact .refl s emptyHand
  · rw [same]
    refine Follows.trans ?_ (follows_moveBus _ i (.returned _) trivial)
    exact (follows_onRun_step fun r _ => .found r _ none).since (quiet_applyChange ..)

/-- A listener outside returns, if it was called. -/
theorem follows_listenerReturned (i : Nat) (crash : Option Bus.Crash) :
    Follows s emptyHand (s.listenerReturned i crash) emptyHand := by
  rcases s.listenerReturned_cases i crash with same | ⟨r, l, e, k, -, -, same⟩
  · rw [same]
    exact .refl s emptyHand
  · exact same ▸ follows_moveBus s i (.returned crash) trivial

theorem follows_busStep (i : Nat) : Follows s emptyHand ((s.busStep? i).getD s) emptyHand := by
  rcases s.busStep_cases i with same | ⟨r, here, same⟩
  · rw [same]
    exact .refl s emptyHand
  · -- Putting the bus back and taking what it asked for is one change of the run.
    rw [same, flushBus_onBus here]
    refine Follows.trans (follows_onRun (fun r' here' => ?_) fun j ne => ?_)
      (follows_foldl_fromBus _ i _)
    · obtain rfl : r = r' := Option.some.inj (here.symm.trans here')
      rw [inHand_self]
      exact .single (.worked r)
    · exact inHand_of_ne ne _

/-- The worker of a desk makes a move that may not be possible. -/
theorem follows_deskMove (i : Nat) (m : Switching.Move) (own : IsOwn m)
    {f : Switching.Desk → Option Switching.Desk} (made : ∀ d, (f d).getD d = d.move m) :
    Follows s emptyHand ((do
      let r ← s.runs[i]?
      let d ← f r.desk
      return s.onDesk i fun _ => d : Option System).getD s) emptyHand := by
  rcases s.deskMove_cases i made with same | same
  · rw [same]
    exact .refl s emptyHand
  · exact same ▸ follows_onDesk s emptyHand i m own

theorem follows_notice (i : Nat) : Follows s emptyHand ((s.notice? i).getD s) emptyHand := by
  rcases s.notice_cases i with same | ⟨r, -, -, same⟩
  · rw [same]
    exact .refl s emptyHand
  · rw [same]
    refine follows_onRun (fun r _ => ?_) fun _ _ => rfl
    refine .head (.bus r [] .endContext trivial) (.single ?_)
    exact .setting { r with bus := r.bus.endContext } [] .endContext trivial

theorem follows_reap (i : Nat) : Follows s emptyHand ((s.reap? i).getD s) emptyHand := by
  rcases s.reap_cases i with same | ⟨r, -, ⟨-, -, same⟩ | ⟨-, -, same⟩⟩
  · rw [same]
    exact .refl s emptyHand
  · rw [same]
    refine Follows.trans (follows_onRun_step fun r _ => ?_) (.of_quiet (aloof_quiet.workerReturned ..))
    exact .reported r _ true r.deskReported
  · rw [same]
    refine Follows.trans (follows_onRun_step fun r _ => ?_) (.of_quiet (aloof_quiet.workerReturned ..))
    exact .reported r _ r.busReported true

theorem follows_handleDied (h : Nat) : Follows s emptyHand
    { s with runs := s.runs.map fun r => { r with bus := r.bus.handleDied h } } emptyHand where
  runs j r here := ⟨{ r with bus := r.bus.handleDied h }, by simp [here],
    .single (.bus r [] (.die h) trivial)⟩
  length := List.length_map _
  published := .inl rfl
  sink := rfl
  ids := Nat.le_refl _

/-! ### Looking back -/

/-- Every run comes from one that was there before. -/
theorem Follows.origin {s s' : System} {hand hand' : Nat → Hand} (follows : Follows s hand s' hand')
    {j : Nat} {r' : Run} (there : s'.runs[j]? = some r') :
    ∃ r, s.runs[j]? = some r ∧ Run.Steps (r, hand j) (r', hand' j) := by
  have lt : j < s.runs.length := by
    rw [← follows.length]
    exact (List.getElem?_eq_some_iff.1 there).1
  obtain ⟨r₁, there₁, steps⟩ := follows.runs j s.runs[j] (List.getElem?_eq_getElem lt)
  obtain rfl : r₁ = r' := Option.some.inj (there₁.symm.trans there)
  exact ⟨s.runs[j], List.getElem?_eq_getElem lt, steps⟩

theorem Follows.kept {s s' : System} {hand hand' : Nat → Hand} (follows : Follows s hand s' hand')
    {j : Nat} (published : s'.published = some j) : s.published = some j := by
  rcases follows.published with same | gone
  · exact same.symm.trans published
  · exact nomatch gone.symm.trans published

/-- When a run is published, its desk gets the settings. -/
theorem origin_publish (s : System) (i : Nat) {j : Nat} {r' : Run}
    (there : (s.publish i).runs[j]? = some r') :
    ∃ r, s.runs[j]? = some r ∧ Run.Steps (r, []) (r', []) := by
  obtain ⟨r, here, rfl⟩ := origin_modify there
  refine ⟨r, here, ?_⟩
  split
  · exact .head (.setting r [] (.setTimeout s.timeout) trivial)
      (.single (.setting { r with desk := r.desk.setTimeout s.timeout } [] (.setPanel s.panel)
        trivial))
  · exact .refl

/-- Only the run `i` has another desk. -/
theorem runs_putDesk {s : System} {i j : Nat} {d : Switching.Desk} {r' : Run}
    (there : (s.putDesk i d).runs[j]? = some r') :
    ∃ r, s.runs[j]? = some r ∧ r' = if i = j then { r with desk := d } else r :=
  origin_modify there

end System

end HeadUnit.Service
