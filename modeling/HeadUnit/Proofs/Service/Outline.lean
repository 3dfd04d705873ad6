import HeadUnit.Proofs.Bus.Run
import HeadUnit.Proofs.Service.Run
import HeadUnit.Proofs.Switching.Run

/-!
# What the operations come to

A system is looked at from several sides, i.e., its runs, its books, what is tuned about it, what is
heard of it, and from each of them all operations are gone through. What is the same every time is
done here.

* Some functions may find nothing to do, and leave the system as it is. The lemmas `_cases` say
  what they come to: steps of workers, moves that a bus may refuse, ends of questions to the vehicle.
* Some relations between systems do not mind what is merely said (`System.Lenient`), others what is
  stored either (`System.Sparing`), others neither calls nor how far starts and stops have come
  (`System.Aloof`). There is one lemma for each operation that does nothing else.
-/

namespace HeadUnit.Service

open Switching (Desk)

/-! ## Changes at one place of a list -/

section Modify

variable {α : Type} {f : α → α} {l : List α} {i : Nat}

/-- What a place holds after a change of the place `i` comes from what it held before. -/
theorem origin_modify {j : Nat} {b : α} (there : (l.modify i f)[j]? = some b) :
    ∃ a, l[j]? = some a ∧ b = if i = j then f a else a := by
  rw [List.getElem?_modify] at there
  obtain ⟨a, here, rfl⟩ := Option.map_eq_some_iff.1 there
  exact ⟨a, here, rfl⟩

/-- What holds of each element, and of what becomes of it, holds after a change of one of them. -/
theorem mem_modify {P : α → Prop} (each : ∀ a ∈ l, P a) (changed : ∀ a ∈ l, P (f a)) :
    ∀ a ∈ l.modify i f, P a := by
  intro b mem
  obtain ⟨j, there⟩ := List.mem_iff_getElem?.1 mem
  obtain ⟨a, here, rfl⟩ := origin_modify there
  have mem := List.mem_iff_getElem?.2 ⟨j, here⟩
  split
  · exact changed a mem
  · exact each a mem

end Modify

/-- The verdict on the end of a wait for an answer; reads of the vehicle are no trips. -/
def Ask.verdict (a : Ask) (e : Trip.Ending Vehicle.Response) : Trip.Verdict Vehicle.Response :=
  match System.tripKind? a.request, e with
  | none, .answered r f => ⟨r, f, .ok⟩
  | _, e => e.verdict a.request.blank

namespace System

variable (s : System)

/-! ## Steps of workers -/

/-- A bus that is put back after a change has changed. -/
theorem onBus_eq {s : System} {i : Nat} {r : Run} (here : s.runs[i]? = some r)
    (f : Bus Listener Nat → Bus Listener Nat) : (s.onBus i fun _ => f r.bus) = s.onBus i f := by
  unfold onBus onRun
  congr 1
  refine List.ext_getElem? fun j => ?_
  simp only [List.getElem?_modify]
  by_cases own : i = j
  · subst own
    simp [here]
  · simp [own]

/-- A bus makes a move, and what it asks for is handed on. -/
theorem flushBus_onBus {s : System} {i : Nat} {r : Run} (here : s.runs[i]? = some r)
    (m : Bus.Move Listener Nat) : (s.onBus i (·.move m)).flushBus i =
      (Bus.Moment.mk r.bus m).effects.foldl (fromBus i)
        (s.onBus i fun _ => (Bus.Moment.mk r.bus m).after) := by
  simp [flushBus, onBus, onRun, here, List.modify_modify_eq, Function.comp_def,
    Bus.Moment.effects, Bus.Moment.after]

theorem flushBus_cases (i : Nat) : s.flushBus i = s ∨ ∃ r, s.runs[i]? = some r ∧
    s.flushBus i = r.bus.take.1.foldl (fromBus i) (s.onBus i fun _ => r.bus.take.2) := by
  unfold flushBus
  cases s.runs[i]? with
  | none => exact .inl rfl
  | some r => exact .inr ⟨r, rfl, rfl⟩

/-- A bus refuses, or makes its move. -/
theorem tryBus_cases (i : Nat) {m : Bus.Move Listener Nat}
    {f : Bus Listener Nat → Except Fault (Bus Listener Nat)}
    (made : ∀ b, (f b).toOption.getD b = b.move m) :
    (s.tryBus i f).1 = s ∨ (s.tryBus i f).1 = (s.onBus i (·.move m)).flushBus i := by
  unfold tryBus
  cases here : s.runs[i]? with
  | none => exact .inl rfl
  | some r =>
    dsimp only
    split
    · exact .inl rfl
    · next b ok =>
      obtain rfl : b = r.bus.move m := by rw [← made, ok]; rfl
      exact .inr (congrArg (flushBus · i) (onBus_eq here (·.move m)))

/-- The worker of a bus cannot go on, or does. -/
theorem busStep_cases (i : Nat) : (s.busStep? i).getD s = s ∨ ∃ r, s.runs[i]? = some r ∧
    (s.busStep? i).getD s = (s.onBus i (·.move .work)).flushBus i := by
  unfold busStep?
  cases here : s.runs[i]? with
  | none => exact .inl rfl
  | some r =>
    cases next : r.bus.step? with
    | none => exact .inl (by simp [next])
    | some b =>
      obtain rfl : b = r.bus.move .work := by simp [Bus.move, next]
      refine .inr ⟨r, rfl, ?_⟩
      simp only [Option.bind_eq_bind, Option.bind_some, next]
      exact congrArg (flushBus · i) (onBus_eq here (·.move .work))

/-- A desk that is put back after a move has made the move. -/
theorem eq_of_deskMove {s t : System} {i : Nat} {q : Switching.Move} {f : Desk → Option Desk}
    (made : ∀ d, (f d).getD d = d.move q)
    (next : (do
      let r ← s.runs[i]?
      let d ← f r.desk
      return s.onDesk i fun _ => d : Option System) = some t) : t = s.onDesk i (·.move q) := by
  obtain ⟨r, here, next⟩ := Option.bind_eq_some_iff.1 next
  obtain ⟨d, moved, next⟩ := Option.bind_eq_some_iff.1 next
  obtain rfl := Option.some.inj next
  simp only [onDesk, here, ← made, moved, Option.getD_some]

/-- The worker of a desk cannot make the move, or does. -/
theorem deskMove_cases (i : Nat) {q : Switching.Move} {f : Desk → Option Desk}
    (made : ∀ d, (f d).getD d = d.move q) :
    let moved : Option System := do
      let r ← s.runs[i]?
      let d ← f r.desk
      return s.onDesk i fun _ => d
    moved.getD s = s ∨ moved.getD s = s.onDesk i (·.move q) := by
  intro moved
  cases next : moved with
  | none => exact .inl rfl
  | some t => exact .inr (eq_of_deskMove made next)

/-- The workers of a run learn that their context has ended, if it has. -/
theorem notice_cases (i : Nat) : (s.notice? i).getD s = s ∨ ∃ r, s.runs[i]? = some r ∧
    s.contextDone r = true ∧ (s.notice? i).getD s =
      s.onRun i fun r => { r with bus := r.bus.endContext, desk := r.desk.endContext } := by
  unfold notice?
  cases s.runs[i]? with
  | none => exact .inl rfl
  | some r =>
    simp only [Option.bind_eq_bind, Option.bind_some]
    split
    · next due =>
      rw [Bool.and_eq_true] at due
      exact .inr ⟨r, rfl, due.1, rfl⟩
    · exact .inl rfl

/-- The return of a worker is reported, of which the run takes note. -/
theorem reap_cases (i : Nat) : (s.reap? i).getD s = s ∨ ∃ r, s.runs[i]? = some r ∧
    (r.bus.worker = .finished ∧ r.busReported = false ∧ (s.reap? i).getD s =
        (s.onRun i fun r => { r with busReported := true }).workerReturned r.group "eventbus" ∨
      r.desk.worker = .stopped ∧ r.deskReported = false ∧ (s.reap? i).getD s =
        (s.onRun i fun r => { r with deskReported := true }).workerReturned r.group
          "switching") := by
  unfold reap?
  cases s.runs[i]? with
  | none => exact .inl rfl
  | some r =>
    simp only [Option.bind_eq_bind, Option.bind_some]
    split
    · next due =>
      simp only [Bool.and_eq_true, beq_iff_eq, Bool.not_eq_true'] at due
      exact .inr ⟨r, rfl, .inl ⟨due.1, due.2, rfl⟩⟩
    split
    · next due =>
      simp only [Bool.and_eq_true, beq_iff_eq, Bool.not_eq_true'] at due
      exact .inr ⟨r, rfl, .inr ⟨due.1, due.2, rfl⟩⟩
    · exact .inl rfl

/-- The first wait for workers that can end comes to its end. -/
theorem settleWait_cases (late : Bool) : (s.settleWait? late).getD s = s ∨ ∃ id fault m,
    s.manager.settleWait s.now late = some (id, fault, m) ∧
      (s.settleWait? late).getD s = { s with manager := m }.flushManager.workersGone id fault := by
  unfold settleWait?
  cases s.manager.settleWait s.now late with
  | none => exact .inl rfl
  | some w => exact .inr ⟨w.1, w.2.1, w.2.2, rfl, rfl⟩

/-- A listener outside returns, if it was called. -/
theorem listenerReturned_cases (i : Nat) (crash : Option Bus.Crash) :
    s.listenerReturned i crash = s ∨ ∃ r l e left, s.runs[i]? = some r ∧
      r.bus.worker = .calling (.outside l) e left ∧
      s.listenerReturned i crash = (s.onBus i (·.move (.returned crash))).flushBus i := by
  unfold listenerReturned
  cases s.runs[i]? with
  | none => exact .inl rfl
  | some r =>
    dsimp only
    split
    · next doing => exact .inr ⟨r, _, _, _, rfl, doing, rfl⟩
    · exact .inl rfl

/-- The registry records the user that it has looked up, if there is one. -/
theorem record_cases (i : Nat) : (s.record? i).getD s = s ∨ ∃ r u, s.runs[i]? = some r ∧
    r.found = some u ∧ let c := s.registry.add u s.sessions.current
    let crash := if c.broken then some brokenRegistry else none
    (s.record? i).getD s = (((s.applyChange c).onRun i fun r => { r with found := none }).onBus i
      (·.move (.returned crash))).flushBus i := by
  unfold record?
  cases s.runs[i]? with
  | none => exact .inl rfl
  | some r =>
    cases found : r.found with
    | none => exact .inl (by simp [found])
    | some u => exact .inr ⟨r, u, rfl, found, by simp [found, Bus.move]⟩

/-- A listener is registered on the bus of a run that a start has made, or refused. -/
theorem wire_cases (id i : Nat) (l : Listener) (left : List Listener) :
    let tried := s.tryBus i (·.register (.listener l))
    tried.2 = none ∧ s.wire id i (l :: left) = tried.1.await' id (.wiring i left) ∨
      ∃ f, tried.2 = some f ∧
        s.wire id i (l :: left) = tried.1.abort id "listener registration failed" f := by
  dsimp only [wire]
  cases fault : (s.tryBus i (·.register (.listener l))).2 with
  | none =>
    have whole : s.tryBus i (·.register (.listener l)) = (_, none) := Prod.ext rfl fault
    exact .inl ⟨rfl, by rw [whole]⟩
  | some f =>
    have whole : s.tryBus i (·.register (.listener l)) = (_, some f) := Prod.ext rfl fault
    exact .inr ⟨f, rfl, by rw [whole]⟩

/-- How a call goes on with what it is about to do. -/
inductive GoesOn (s : System) (id : Nat) : System → Prop
  | nothing : GoesOn s id s
  | bounded {c : Call} {n : Int64} (here : s.call? id = some c) (work : c.work = .bounding n) :
      GoesOn s id (s.bound id n)
  | read {c : Call} (here : s.call? id = some c) (work : c.work = .loading) :
      GoesOn s id (s.readState id)
  | cached {c : Call} {st : Snapshot} (here : s.call? id = some c) (work : c.work = .caching st) :
      GoesOn s id (s.cacheState id st)
  | restored {c : Call} {st : Snapshot} (here : s.call? id = some c)
      (work : c.work = .restoring st) : GoesOn s id (s.restoreState id st)
  | built {c : Call} (here : s.call? id = some c) (work : c.work = .building) :
      GoesOn s id (s.buildRun id)
  | wired {c : Call} {i : Nat} {left : List Listener} (here : s.call? id = some c)
      (work : c.work = .wiring i left) : GoesOn s id (s.wire id i left)
  | shut {c : Call} {left : Nat} {fault : Option Fault} (here : s.call? id = some c)
      (work : c.work = .shutting left fault) : GoesOn s id (s.shutNext id fault left)

theorem goesOn (id : Nat) : s.GoesOn id ((s.goOn? id).getD s) := by
  unfold goOn?
  cases here : s.call? id with
  | none => exact .nothing
  | some c =>
    simp only [Option.bind_eq_bind, Option.bind_some]
    cases work : c.work with
    | bounding n => exact .bounded here work
    | loading => exact .read here work
    | caching st => exact .cached here work
    | restoring st => exact .restored here work
    | building => exact .built here work
    | wiring i left => exact .wired here work
    | shutting left fault => exact .shut here work
    | _ => exact .nothing

/-- Whoever waits for the events waits for the published bus, unless there is none or the context
    has ended. -/
theorem flushEvents_cases (id : Nat) (ctx : Context) :
    s.flushEvents id ctx = s.finish id (.status (some .notRunning)) ∨ ∃ i,
      s.published = some i ∧
        let t := ((s.await id ctx.deadline .flushing).tryBus i (·.flush id)).1
        s.flushEvents id ctx = t ∨ ∃ f, s.flushEvents id ctx = t.finish id (.status (some f)) := by
  unfold flushEvents
  split
  · exact .inl rfl
  · next i published =>
    refine .inr ⟨i, published, ?_⟩
    dsimp only
    split
    · exact .inr ⟨_, rfl⟩
    · exact .inr ⟨_, rfl⟩
    · exact .inl rfl

/-! ## Questions that end -/

/-- A trip is recorded, with how it has ended; reads of the vehicle are no trips. -/
def recorded (s : System) (a : Ask) (o : TripOutcome) : System :=
  match tripKind? a.request with
  | some k => s.note (.trip k o (s.now - a.started))
  | none => s

/-- A question is dropped, of which the vehicle learns unless it has answered, and the trip is
    recorded. -/
def dropAsk (s : System) (a : Ask) (e : Trip.Ending Vehicle.Response) : System :=
  let s := { s with asks := s.asks.filter (·.id != a.id) }
  let s := match e with
    | .answered .. => s
    | _ => s.emit (.abandon a.id)
  s.recorded a (a.verdict e).outcome

/-- Whoever has asked learns how the wait has ended. -/
def told (s : System) (v : Trip.Verdict Vehicle.Response) : Owner → System
  | .desk i ticket => s.onDesk i (·.tripEnded s.view ticket v.value.asSwitch v.fault)
  | .call c => s.answerCall c v

variable {s}

theorem askEnded_eq {id : Nat} {a : Ask} (found : s.asks.find? (·.id == id) = some a)
    (e : Trip.Ending Vehicle.Response) :
    s.askEnded id e = (s.dropAsk a e).told (a.verdict e) a.owner := by
  obtain rfl : a.id = id := by simpa using List.find?_some found
  unfold askEnded
  rw [found]
  dsimp only
  cases a.owner <;> rfl

variable (s)

theorem askEnded_cases (id : Nat) (e : Trip.Ending Vehicle.Response) : s.askEnded id e = s ∨
    ∃ a, s.asks.find? (·.id == id) = some a ∧
      s.askEnded id e = (s.dropAsk a e).told (a.verdict e) a.owner := by
  cases found : s.asks.find? (·.id == id) with
  | none => exact .inl (by simp only [askEnded, found])
  | some a => exact .inr ⟨a, rfl, askEnded_eq found e⟩

/-! ## What is merely said -/

/-- A relation that does not mind notes of `P`, or that something of `Q` is said. -/
structure Lenient (P : Note → Prop) (Q : Effect → Prop) (R : System → System → Prop) : Prop where
  refl : ∀ s, R s s
  trans : ∀ {s t u}, R s t → R t u → R s u
  noted : ∀ s n, P n → R s (s.note n)
  said : ∀ s e, Q e → R s (s.emit e)

namespace Lenient

variable {P : Note → Prop} {Q : Effect → Prop} {R : System → System → Prop}
  (lenient : Lenient P Q R)

include lenient

/-- It does not mind what is done for each element of a list, if it does not for any. -/
theorem foldl {α : Type} {f : System → α → System} {as : List α}
    (each : ∀ s, ∀ a ∈ as, R s (f s a)) : R s (as.foldl f s) :=
  List.foldlRecOn (motive := R s) as f (lenient.refl s) fun t here a mem =>
    lenient.trans here (each t a mem)

theorem notes {ns : List Note} (all : ∀ n ∈ ns, P n) : R s (s.notes ns) :=
  lenient.foldl s fun t n mem => lenient.noted t n (all n mem)

/-- What the manager has reported is passed on. -/
theorem flushManager (taken : R s { s with manager := s.manager.take.2 }) (all : ∀ n, P n)
    (changed : ∀ a b reason, Q (.changed a b reason)) : R s s.flushManager := by
  refine lenient.trans taken (lenient.foldl _ fun t e _ => ?_)
  cases e with
  | note n => exact lenient.noted t n (all n)
  | changed a b reason => exact lenient.said t _ (changed a b reason)

/-- Events of the sessions go where they have to. -/
theorem emitEvents (p : Switching.Poster) (es : List Event)
    (event : ∀ t, ∀ e ∈ es, R t (t.onEvent e))
    (desk : ∀ i, R s (s.onDesk i (·.move (.events s.view p es))))
    (emitted : ∀ e, Q (.emitted e)) : R s (s.emitEvents p es) := by
  unfold System.emitEvents
  split
  · exact lenient.refl s
  · exact lenient.foldl s event
  · split
    · exact lenient.refl s
    · next i _ => exact desk i
  · exact lenient.foldl s fun t e _ => lenient.said t _ (emitted e)

theorem recorded (a : Ask) (o : TripOutcome) (all : ∀ k o d, P (.trip k o d)) :
    R s (s.recorded a o) := by
  unfold System.recorded
  split
  · exact lenient.noted s _ (all ..)
  · exact lenient.refl s

/-- But for the list of questions, it is not minded that one is dropped. -/
theorem dropAsk (a : Ask) (e : Trip.Ending Vehicle.Response) (all : ∀ k o d, P (.trip k o d))
    (abandoned : Q (.abandon a.id)) :
    R { s with asks := s.asks.filter (·.id != a.id) } (s.dropAsk a e) := by
  cases e with
  | answered => exact lenient.recorded _ a _ all
  | expired | canceled =>
    exact lenient.trans (lenient.said _ _ abandoned) (lenient.recorded _ a _ all)

end Lenient

/-! ## What is stored -/

/-- A relation that does not mind what is stored either. -/
structure Sparing (P : Note → Prop) (Q : Effect → Prop) (R : System → System → Prop) : Prop
    extends Lenient P Q R where
  stored : ∀ s store repository, R s { s with store := store, repository := repository }
  offered : ∀ st, Q (.offered st)

namespace Sparing

variable {P : Note → Prop} {Q : Effect → Prop} {R : System → System → Prop}
  (sparing : Sparing P Q R)

include sparing

theorem updateStore (gone : Option Fault) (change : Snapshot → Snapshot) :
    R s (s.updateStore gone change).1 := by
  unfold System.updateStore
  dsimp only
  split
  · exact sparing.trans (sparing.stored s _ _) (sparing.said _ _ (sparing.offered _))
  · exact sparing.stored s _ _

theorem persistRegistry
    (failed : ∀ f, P (Note.error "failed to persist restart registry" [Log.err (some f)])) :
    R s s.persistRegistry := by
  unfold System.persistRegistry
  split
  · exact sparing.refl s
  · dsimp only
    split
    · exact sparing.updateStore ..
    · next f _ => exact sparing.trans (sparing.updateStore ..) (sparing.noted _ _ (failed f))

/-- But for the registry itself, its changes are not minded. -/
theorem applyChange {c : Registry.Change} (all : ∀ n ∈ c.notes, P n)
    (failed : ∀ f, P (Note.error "failed to persist restart registry" [Log.err (some f)])) :
    R { s with registry := c.registry } (s.applyChange c) := by
  have noted := sparing.notes { s with registry := c.registry } all
  unfold System.applyChange
  dsimp only
  split
  · exact sparing.trans noted (sparing.persistRegistry _ failed)
  · exact noted

end Sparing

/-! ## What goes on around the calls -/

/-- A relation that minds neither calls nor questions, nor how far starts and stops have come. -/
structure Aloof (R : System → System → Prop) : Prop
    extends Lenient (fun _ => True) (fun _ => True) R where
  called : ∀ s calls, R s { s with calls := calls }
  asked : ∀ s request timeout ctx owner, R s (s.askVehicle request timeout ctx owner)
  steered : ∀ s manager busy, R s { s with manager := manager, busy := busy }

namespace Aloof

variable {R : System → System → Prop} (aloof : Aloof R)

include aloof

theorem await (id : Nat) (deadline : Option Int) (w : Work) : R s (s.await id deadline w) :=
  aloof.called s _

theorem await' (id : Nat) (w : Work) : R s (s.await' id w) := aloof.called s _

theorem release : R s s.release := aloof.steered s _ _

theorem finish (id : Nat) (r : Result) : R s (s.finish id r) :=
  aloof.trans (aloof.called s _) (aloof.said _ _ trivial)

theorem notes (ns : List Note) : R s (s.notes ns) := aloof.toLenient.notes s fun _ _ => trivial

theorem flushManager : R s s.flushManager :=
  aloof.toLenient.flushManager s (aloof.steered s _ _) (fun _ => trivial) fun _ _ _ => trivial

theorem associated (id : Nat) (isWrite : Bool) (r : AssociationResult) :
    R s (s.associated id isWrite r) := aloof.trans (aloof.noted s _ trivial) (aloof.finish _ _ _)

theorem leaveSwitch (id : Nat) (f : Fault) : R s (s.leaveSwitch id f) := by
  unfold System.leaveSwitch
  split
  · exact aloof.finish ..
  · exact aloof.refl s

theorem contextEnded (id : Nat) (f : Fault) : R s (s.contextEnded id f) := by
  unfold System.contextEnded
  split
  · exact aloof.leaveSwitch ..
  · exact aloof.finish ..
  · exact aloof.refl s

theorem initialInfo (id : Nat) (ctx : Context) (requestType : Int64) (timeout : Duration) :
    R s (s.initialInfo id ctx requestType timeout) := by
  unfold System.initialInfo
  split
  · exact aloof.finish ..
  · exact aloof.trans (aloof.await ..) (aloof.asked ..)

theorem associate (id : Nat) (isWrite : Bool) (caller : UserId) (timeout : Option Duration)
    (ctx : Context) (q : Association.Question) :
    R s (s.associate id isWrite caller timeout ctx q) := by
  cases q with
  | refused r => exact aloof.associated ..
  | ask request => exact aloof.trans (aloof.await ..) (aloof.asked ..)

/-- But for the users, creations are not minded. -/
theorem created (id : Nat) (ctx : Context) (timeout : Duration)
    (st : Provision.Step Provision.Creation) :
    R { s with roster := st.roster } (s.created id ctx timeout st) := by
  have noted := aloof.notes { s with roster := st.roster } st.notes
  unfold System.created
  dsimp only
  split
  · exact aloof.trans noted (aloof.finish ..)
  · exact aloof.trans noted (aloof.trans (aloof.await ..) (aloof.asked ..))

theorem readState (id : Nat) : R s (s.readState id) := by
  unfold System.readState
  split
  · exact aloof.await' ..
  · exact aloof.trans (aloof.noted s _ trivial) (aloof.await' ..)

theorem nextPlugin (id index : Nat) : R s (s.nextPlugin id index) := by
  have released (t : System) (r : Result) : R t (t.release.finish id r) :=
    aloof.trans (aloof.release t) (aloof.finish ..)
  unfold System.nextPlugin
  split
  · exact aloof.trans (aloof.await' ..) (aloof.said _ _ trivial)
  · split
    · next m _ =>
      exact aloof.trans (aloof.steered s m s.busy)
        (aloof.trans (aloof.flushManager _) (released ..))
    · exact released ..

theorem abort (id : Nat) (reason : String) (f : Fault) : R s (s.abort id reason f) :=
  aloof.trans (aloof.steered s _ s.busy) (aloof.await' ..)

theorem shutdownPlugin (index : Nat) : R s (s.shutdownPlugin index) := by
  unfold System.shutdownPlugin
  split
  · exact aloof.refl s
  · dsimp only
    split <;> exact aloof.trans (aloof.said _ _ trivial) (aloof.noted _ _ trivial)

theorem shutNext (id : Nat) (fault : Option Fault) (left : Nat) : R s (s.shutNext id fault left) := by
  cases left with
  | zero => exact aloof.finish ..
  | succ left => exact aloof.trans (aloof.shutdownPlugin ..) (aloof.await' ..)

theorem workersGone (id : Nat) (fault : Option Fault) : R s (s.workersGone id fault) := by
  unfold System.workersGone
  split
  · exact aloof.trans (aloof.release s) (aloof.finish ..)
  · exact aloof.trans (aloof.release s) (aloof.await' ..)
  · exact aloof.refl s

theorem workerReturned (group : Option Nat) (name : String) :
    R s (s.workerReturned group name) := by
  cases group with
  | none => exact aloof.refl s
  | some g => exact aloof.trans (aloof.steered s _ s.busy) (aloof.flushManager _)

theorem settleWait (late : Bool) : R s ((s.settleWait? late).getD s) := by
  rcases s.settleWait_cases late with same | ⟨id, fault, m, -, same⟩
  · rw [same]
    exact aloof.refl s
  · rw [same]
    exact aloof.trans (aloof.steered s m s.busy)
      (aloof.trans (aloof.flushManager _) (aloof.workersGone ..))

/-- One thing that a desk asks for is handed on. -/
theorem fromDesk (i : Nat) (e : Switching.Effect)
    (bus : ∀ t : System, R t (t.onBus i (·.move (.returned none)))) : R s (fromDesk i s e) := by
  cases e with
  | note n => exact aloof.noted s n trivial
  | negotiate o request timeout =>
    dsimp only [System.fromDesk]
    exact aloof.asked ..
  | osSwitch target | notify n | signal target => exact aloof.said s _ trivial
  | reply ticket result =>
    dsimp only [System.fromDesk]
    split
    · exact aloof.finish ..
    · exact aloof.said s _ trivial
  | admitted p =>
    cases p with
    | bus => exact bus s
    | trip | worker => exact aloof.refl s
    | caller id =>
      dsimp only [System.fromDesk]
      split
      · exact aloof.finish ..
      · exact aloof.refl s

end Aloof

end System

end HeadUnit.Service
