import HeadUnit.Proofs.Service.Deals
import HeadUnit.Proofs.Service.Scene

/-!
# What a caller deals with

The *front* of a system (`System.front`) is what a caller deals with: its books, the calls that
have not returned, and what calls have returned.

If nobody calls the service and no start or stop goes on, whatever moves is *behind* the calls
(`Move.IsBehind`): answers of the vehicle, workers, the operating system. What such a move makes
of the front comes down to a few kinds of steps (`Front.Step`), and to switches of the operating
system (`Front.Passes`). There is one lemma `clears_` per operation that takes such steps only, and
`passes_move` is about all moves.

Of several calls each returns by a step of its own, so a call that is alone returns by one step or
not at all (`Front.Steps.alone`).
-/

namespace HeadUnit.Service

open Switching (Desk)
open HeadUnit.Service.System

/-! ## Fronts -/

/-- What a call has returned. -/
def Effect.returned? : Effect → Option (Nat × Result)
  | .returned id r => some (id, r)
  | _ => none

/-- What a caller deals with. -/
structure Front where
  books : Books
  calls : List Call
  /-- What calls have returned, the oldest first. -/
  returned : List (Nat × Result)

def System.front (s : System) : Front := ⟨s.books, s.calls, s.out.filterMap (·.returned?)⟩

namespace Front

variable (x : Front)

def call? (id : Nat) : Option Call := x.calls.find? (·.id == id)

/-- A call ends. -/
def finish (id : Nat) (r : Result) : Front :=
  { x with calls := x.calls.filter (·.id != id), returned := x.returned ++ [(id, r)] }

/-- One thing that a desk asked for is handed on. -/
def hear : Switching.Effect → Front
  | .reply ticket result =>
    match x.call? ticket with
    | some ⟨_, _, .switching⟩ => x.finish ticket (.switch result)
    | _ => x
  | .admitted (.caller id) =>
    match x.call? id with
    | some ⟨_, _, .posting⟩ => x.finish id .nothing
    | _ => x
  | _ => x

/-- A desk makes a move, and all that it asks for is handed on. -/
def moveDesk (i : Nat) (q : Switching.Move) : Front :=
  match x.books.desks[i]? with
  | none => x
  | some d =>
    (Switching.Moment.mk d q).effects.foldl hear { x with books := x.books.moveDesk i q }

/-- Only the books change. -/
def withBooks (b : Books) : Front := { x with books := b }

/-- What becomes of a front when one thing that a desk asked for is handed on: the call that
    waited for it returns, or nothing happens. -/
inductive Hears (x : Front) : Switching.Effect → Front → Prop
  | switched {id k : Nat} {deadline : Option Int} (r : SwitchResult)
    (found : x.call? id = some ⟨k, deadline, .switching⟩) :
    Hears x (.reply id r) (x.finish id (.switch r))
  | posted {id k : Nat} {deadline : Option Int}
    (found : x.call? id = some ⟨k, deadline, .posting⟩) :
    Hears x (.admitted (.caller id)) (x.finish id .nothing)
  | passed (e : Switching.Effect) : Hears x e x

theorem hears (e : Switching.Effect) : x.Hears e (x.hear e) := by
  cases e with
  | reply ticket result =>
    dsimp only [hear]
    split
    · next found => exact .switched result found
    · exact .passed _
  | admitted p =>
    cases p with
    | caller id =>
      dsimp only [hear]
      split
      · next found => exact .posted found
      · exact .passed _
    | bus | trip | worker => exact .passed _
  | _ => exact .passed _

/-- The desk hears nothing about books. -/
theorem Hears.books {x y : Front} {e : Switching.Effect} (hears : x.Hears e y) :
    y.books = x.books := by
  cases hears <;> rfl

theorem books_foldl_hear (es : List Switching.Effect) : (es.foldl hear x).books = x.books := by
  induction es generalizing x with
  | nil => rfl
  | cons e es ih => exact (ih _).trans (x.hears e).books

theorem books_moveDesk (i : Nat) (q : Switching.Move) :
    (x.moveDesk i q).books = x.books.moveDesk i q := by
  unfold moveDesk
  split
  · next missing =>
    rw [Books.moveDesk, List.modify_eq_self (List.getElem?_eq_none_iff.1 missing)]
  · exact books_foldl_hear ..

end Front

/-! ## Steps -/

/-- What a call may return without a desk, and without a new user. -/
def Work.Gets : Work → Result → Prop
  | .associating .., .association _ => True
  | .consulting, .initial _ => True
  | .flushing, .status _ => True
  | _, _ => False

/-- A step behind the calls. -/
inductive Front.Step (x : Front) : Front → Prop
  /-- A user has unlocked, and is looked up for the registry. -/
  | found (i : Nat) (e : Event) (u : User) (unlocked : e.kind = .unlocked)
      (known : x.books.roster.user e.user = .ok u) :
      Step x (x.withBooks { x.books with found := x.books.found.modify i fun _ => some u })
  /-- The registry records the user that was looked up for it. -/
  | recorded (i : Nat) (u : User) (found : x.books.found[i]? = some (some u)) : Step x
      (x.withBooks ((x.books.change (x.books.registry.add u x.books.sessions.current)).settle i))
  /-- A desk does something by itself. -/
  | desk (i : Nat) (q : Switching.Move) (own : IsOwn q) (sees : ∀ v ∈ q.view?, v = x.books.view) :
      Step x (x.moveDesk i q)
  /-- Something about a desk is set. -/
  | setting (i : Nat) (q : Switching.Move) (setting : IsSetting q) :
      Step x (x.withBooks { x.books with desks := x.books.desks.modify i (·.move q) })
  | elapsed (t : Int) : Step x (x.withBooks { x.books with now := t })
  /-- A call gets what it waits for. -/
  | returned {c : Call} {r : Result} (found : x.call? c.id = some c) (gets : c.work.Gets r) :
      Step x (x.finish c.id r)
  /-- The vehicle has ratified a user or not. -/
  | created {c : Call} {user : User} (found : x.call? c.id = some c)
      (creating : c.work = .creating user) (response : Vehicle.CreateResponse)
      (fault : Option Fault) :
      Step x ((x.withBooks { x.books with
        roster := (Provision.ratified x.books.roster user response fault).roster }).finish c.id
          (.create (Provision.ratified x.books.roster user response fault).value))

/-- Steps one after the other. -/
abbrev Front.Steps : Front → Front → Prop := Relation.ReflTransGen Front.Step

namespace System

/-- Calls and what they have returned are left alone. -/
structure Silent (s t : System) : Prop where
  calls : t.calls = s.calls
  returned : t.front.returned = s.front.returned

namespace Silent

variable {s t u : System}

theorem refl (s : System) : Silent s s := ⟨rfl, rfl⟩

theorem trans (one : Silent s t) (other : Silent t u) : Silent s u where
  calls := other.calls.trans one.calls
  returned := other.returned.trans one.returned

/-- Something else about the system has changed before. -/
theorem since (other : Silent t u) (calls : t.calls = s.calls) (out : t.out = s.out) :
    Silent s u where
  calls := other.calls.trans calls
  returned := other.returned.trans (congrArg (List.filterMap Effect.returned?) out)

/-- Only the books change. -/
theorem front_eq (silent : Silent s t) {b : Books} (books : t.books = b) :
    t.front = s.front.withBooks b := by
  have whole : t.front = ⟨t.books, t.calls, t.front.returned⟩ := rfl
  rw [whole, books, silent.calls, silent.returned]
  rfl

theorem same_front (silent : Silent s t) (books : t.books = s.books) : t.front = s.front :=
  silent.front_eq books

end Silent

variable (s : System)

theorem silent_emit {e : Effect} (other : e.returned? = none) : Silent s (s.emit e) where
  calls := rfl
  returned := by simp [front, emit, other]

theorem silent_askVehicle (request : Vehicle.Request) (timeout : Option Duration) (ctx : Context)
    (owner : Owner) : Silent s (s.askVehicle request timeout ctx owner) where
  calls := rfl
  returned := by simp [front, askVehicle, freshId, emit, Effect.returned?]

theorem silent_note (n : Note) : Silent s (s.note n) where
  calls := rfl
  returned := by simp [front, note, Effect.returned?]

/-- Neither notes nor what is stored are returned by a call. -/
theorem sparing_silent : Sparing (fun _ => True) (·.returned? = none) Silent where
  refl := .refl
  trans := .trans
  noted s n _ := silent_note s n
  said s _ other := silent_emit s other
  stored _ _ _ := ⟨rfl, rfl⟩
  offered _ := rfl

theorem silent_notes (ns : List Note) : Silent s (s.notes ns) :=
  sparing_silent.notes s fun _ _ => trivial

theorem silent_applyChange (c : Registry.Change) : Silent s (s.applyChange c) :=
  (sparing_silent.applyChange s (fun _ _ => trivial) fun _ => trivial).since rfl rfl

theorem silent_flushManager : Silent s s.flushManager :=
  sparing_silent.flushManager s ⟨rfl, rfl⟩ (fun _ => trivial) fun _ _ _ => rfl

theorem silent_onRun (i : Nat) (f : Run → Run) : Silent s (s.onRun i f) := ⟨rfl, rfl⟩

theorem silent_onBus (i : Nat) (f : Bus Listener Nat → Bus Listener Nat) :
    Silent s (s.onBus i f) := ⟨rfl, rfl⟩

theorem silent_workerReturned (group : Option Nat) (name : String) :
    Silent s (s.workerReturned group name) := by
  cases group with
  | none => exact .refl s
  | some g =>
    exact (silent_flushManager { s with manager := s.manager.workerDone g name none }).since rfl rfl

theorem silent_reap (i : Nat) : Silent s ((s.reap? i).getD s) := by
  rcases s.reap_cases i with same | ⟨r, -, ⟨-, -, same⟩ | ⟨-, -, same⟩⟩
  · rw [same]
    exact .refl s
  · rw [same]
    exact (silent_onRun s i _).trans (silent_workerReturned ..)
  · rw [same]
    exact (silent_onRun s i _).trans (silent_workerReturned ..)

/-! ## Operations -/

theorem front_finish (id : Nat) (r : Result) : (s.finish id r).front = s.front.finish id r := by
  simp [front, finish, emit, Front.finish, Effect.returned?, books]

theorem front_call? (id : Nat) : s.front.call? id = s.call? id := rfl

theorem front_fromDesk (i : Nat) (e : Switching.Effect) :
    (fromDesk i s e).front = s.front.hear e := by
  cases e with
  | note n => exact (silent_note s n).same_front rfl
  | reply ticket result =>
    simp only [fromDesk, Front.hear, front_call?]
    cases s.call? ticket with
    | none => exact (silent_emit s rfl).same_front rfl
    | some c =>
      obtain ⟨_, _, w⟩ := c
      cases w with
      | switching => exact front_finish ..
      | _ => exact (silent_emit s rfl).same_front rfl
  | negotiate o request timeout =>
    exact (silent_askVehicle ..).same_front (books_fromDesk s i (.negotiate o request timeout))
  | osSwitch target | notify n | signal target => exact (silent_emit s rfl).same_front rfl
  | admitted p =>
    cases p with
    | caller id =>
      simp only [fromDesk, Front.hear, front_call?]
      cases s.call? id with
      | none => rfl
      | some c =>
        obtain ⟨_, _, w⟩ := c
        cases w with
        | posting => exact front_finish ..
        | _ => rfl
    | bus => exact (silent_onBus s i _).same_front (books_onBus ..)
    | trip | worker => rfl

/-- What is done for each element of a list changes the front as it does for each. -/
theorem front_foldl {α : Type} {f : System → α → System} {g : Front → α → Front}
    (each : ∀ s a, (f s a).front = g s.front a) (as : List α) :
    (as.foldl f s).front = as.foldl g s.front :=
  (List.foldl_hom System.front fun t a => (each t a).symm).symm

/-- A desk makes a move, and what it asks for is handed on. -/
theorem front_onDesk (i : Nat) (q : Switching.Move) :
    (s.onDesk i (·.move q)).front = s.front.moveDesk i q := by
  have books := books_onDesk s i q
  have desk : s.books.desks[i]? = (s.runs[i]?).map (·.desk) := by simp [System.books]
  unfold onDesk at books ⊢
  unfold Front.moveDesk
  rw [show s.front.books = s.books from rfl, desk]
  cases here : s.runs[i]? with
  | none => rfl
  | some r =>
    rw [here] at books
    dsimp only [Option.map_some] at books ⊢
    rw [books_foldl _ (fun s e => books_fromDesk s i e)] at books
    rw [front_foldl _ (fun s e => front_fromDesk s i e)]
    exact congrArg (List.foldl Front.hear · _) ((silent_onRun s i _).front_eq books)

/-- The front of `s` goes on by steps to the one of `t`. -/
def Clears (s t : System) : Prop := Front.Steps s.front t.front

namespace Clears

variable {s t u : System}

theorem refl (s : System) : Clears s s := Relation.ReflTransGen.refl

theorem trans (one : Clears s t) (other : Clears t u) : Clears s u :=
  Relation.ReflTransGen.trans one other

theorem of_eq (same : t.front = s.front) : Clears s t := by
  rw [Clears, same]

/-- What is silent and leaves the books alone is no step at all. -/
theorem of_silent (silent : Silent s t) (books : t.books = s.books) : Clears s t :=
  .of_eq (silent.same_front books)

/-- A single step. -/
theorem single {x : Front} (step : s.front.Step x) (is : t.front = x) : Clears s t := by
  rw [Clears, is]
  exact .single step

end Clears

theorem lenient_clears : Lenient (fun _ => True) (·.returned? = none) Clears where
  refl := .refl
  trans := .trans
  noted s n _ := .of_silent (silent_note s n) rfl
  said s _ other := .of_silent (silent_emit s other) rfl

/-- A call gets what it waits for. -/
theorem clears_finish {t : System} (same : t.front = s.front) {id : Nat} {c : Call} {r : Result}
    (found : s.call? id = some c) (gets : c.work.Gets r) : Clears s (t.finish id r) := by
  have own : c.id = id := by simpa using List.find?_some found
  subst own
  exact .single (.returned found gets) (by rw [front_finish, same])

/-- A desk does something by itself. -/
theorem clears_onDesk (i : Nat) (q : Switching.Move) (own : IsOwn q)
    (sees : ∀ v ∈ q.view?, v = s.view) : Clears s (s.onDesk i (·.move q)) :=
  .single (.desk i q own sees) (front_onDesk s i q)

/-! ### Buses and events -/

/-- One thing that a bus asked for is handed on. -/
theorem clears_fromBus (i : Nat) (e : Bus.Effect Listener Nat) : Clears s (fromBus i s e) := by
  cases e with
  | note n => exact .of_silent (silent_note ..) rfl
  | send uid h x => exact .of_silent (silent_emit s rfl) rfl
  | release barrier =>
    dsimp only [fromBus]
    split
    · next found => exact clears_finish s rfl found trivial
    · exact .refl s
  | call l x =>
    cases l with
    | outside id => exact .of_silent (silent_emit s rfl) rfl
    | desk => exact clears_onDesk s i (.events s.view .bus [x]) trivial (sees_of_eq rfl)
    | registry =>
      dsimp only [fromBus]
      cases asked : Registry.lookUp s.roster.user x with
      | none => exact .of_silent (silent_onBus ..) (books_onBus ..)
      | some looked =>
        cases looked with
        | error n =>
          exact .of_silent ((silent_note s n).trans (silent_onBus ..)) (books_onBus (s.note n) ..)
        | ok u =>
          obtain ⟨unlocked, known⟩ := Registry.found_of_lookUp asked
          exact .single (.found i x u unlocked known)
            ((silent_onRun s i _).front_eq (books_onRun_found s (some u) i))

/-- A bus does something, and what it asks for is handed on. -/
theorem clears_onBus (i : Nat) (f : Bus Listener Nat → Bus Listener Nat) :
    Clears s ((s.onBus i f).flushBus i) := by
  have changed (g : Bus Listener Nat → Bus Listener Nat) (t : System) : Clears t (t.onBus i g) :=
    .of_silent (silent_onBus ..) (books_onBus ..)
  refine (changed f s).trans ?_
  rcases (s.onBus i f).flushBus_cases i with same | ⟨r, -, same⟩
  · rw [same]
    exact .refl _
  · rw [same]
    exact (changed _ _).trans (lenient_clears.foldl _ fun t e _ => clears_fromBus t i e)

theorem clears_onEvent (e : Event) : Clears s (s.onEvent e) := by
  unfold onEvent
  split
  · exact .of_silent (silent_note ..) rfl
  · exact clears_onBus ..

theorem clears_emitEvents (p : Switching.Poster) (es : List Event) :
    Clears s (s.emitEvents p es) :=
  lenient_clears.emitEvents s p es (fun t e _ => clears_onEvent t e)
    (fun i => clears_onDesk s i (.events s.view p es) trivial (sees_of_eq rfl)) fun _ => rfl

/-! ### Answers -/

/-- A call goes on with the answer to its question. -/
theorem clears_answerCall {t : System} (same : t.front = s.front) (id : Nat)
    (v : Trip.Verdict Vehicle.Response) : Clears s (t.answerCall id v) := by
  have calls : t.call? id = s.call? id := congrArg (Front.call? · id) same
  have roster : t.roster = s.roster := congrArg (·.books.roster) same
  unfold answerCall
  rw [calls, roster]
  split
  · next n deadline user found =>
    obtain rfl : n = id := by simpa using List.find?_some found
    dsimp only
    generalize st : Provision.ratified s.roster user v.value.asCreate v.fault = st'
    have noted : ({ t with roster := st'.roster }.notes st'.notes).front =
        t.front.withBooks { t.books with roster := st'.roster } :=
      Silent.front_eq ((silent_notes { t with roster := st'.roster } _).since rfl rfl)
        (books_notes ..)
    refine .single (.created (x := s.front) (c := ⟨n, deadline, .creating user⟩) found rfl
      v.value.asCreate v.fault) ?_
    rw [front_finish, noted, same, show t.books = s.books from congrArg Front.books same,
      show s.front.books.roster = s.roster from rfl, st]
    rfl
  · next found =>
    refine clears_finish s ?_ found trivial
    refine (Silent.same_front ?_ ((books_note ..).trans (books_notes ..))).trans same
    exact (silent_notes ..).trans (silent_note ..)
  · next found =>
    split
    · exact clears_finish s ((Silent.same_front (silent_note ..) rfl).trans same) found trivial
    · exact clears_finish s same found trivial
  · exact .of_eq same

/-- Whoever asked learns how the wait has ended. -/
theorem clears_told {t : System} (same : t.front = s.front) (v : Trip.Verdict Vehicle.Response)
    (o : Owner) : Clears s (t.told v o) := by
  cases o with
  | desk i ticket =>
    exact (Clears.of_eq same).trans
      (clears_onDesk t i (.tripEnded t.view ticket _ _) trivial (sees_of_eq rfl))
  | call c => exact clears_answerCall s same c v

theorem clears_askEnded (id : Nat) (e : Trip.Ending Vehicle.Response) :
    Clears s (s.askEnded id e) := by
  rcases s.askEnded_cases id e with same | ⟨a, -, same⟩
  · rw [same]
    exact .refl s
  · rw [same]
    have silent : Silent s (s.dropAsk a e) :=
      (sparing_silent.dropAsk s a e (fun _ _ _ => trivial) rfl).since rfl rfl
    have books : (s.dropAsk a e).books = s.books :=
      aloof_books.dropAsk s a e (fun _ _ _ => trivial) trivial
    exact clears_told s (silent.same_front books) ..

/-! ### Workers -/

theorem clears_busStep (i : Nat) : Clears s ((s.busStep? i).getD s) := by
  rcases s.busStep_cases i with same | ⟨r, -, same⟩
  · rw [same]
    exact .refl s
  · rw [same]
    exact clears_onBus s i _

theorem clears_listenerReturned (i : Nat) (crash : Option Bus.Crash) :
    Clears s (s.listenerReturned i crash) := by
  rcases s.listenerReturned_cases i crash with same | ⟨r, l, e, left, -, -, same⟩
  · rw [same]
    exact .refl s
  · rw [same]
    exact clears_onBus s i _

theorem clears_record (i : Nat) : Clears s ((s.record? i).getD s) := by
  rcases s.record_cases i with same | ⟨r, u, here, found, same⟩
  · rw [same]
    exact .refl s
  · have listed : s.front.books.found[i]? = some (some u) := by simp [front, books, here, found]
    have books : ((s.applyChange (s.registry.add u s.sessions.current)).onRun i
        fun r => { r with found := none }).books =
        (s.books.change (s.registry.add u s.sessions.current)).settle i := by
      rw [books_onRun_found, books_applyChange]
      rfl
    have silent := (silent_applyChange s (s.registry.add u s.sessions.current)).trans
      (silent_onRun _ i fun r => { r with found := none })
    rw [same]
    exact (Clears.single (.recorded i u listed) (silent.front_eq books)).trans (clears_onBus ..)

/-- A desk is put back after a move that may not be possible. -/
theorem clears_deskMove (i : Nat) (q : Switching.Move) {f : Desk → Option Desk}
    (made : ∀ d, (f d).getD d = d.move q) (own : IsOwn q) (sees : ∀ v ∈ q.view?, v = s.view) :
    Clears s ((do
      let r ← s.runs[i]?
      let d ← f r.desk
      return s.onDesk i fun _ => d : Option System).getD s) := by
  rcases s.deskMove_cases i made with same | same
  · rw [same]
    exact .refl s
  · rw [same]
    exact clears_onDesk s i q own sees

theorem clears_notice (i : Nat) : Clears s ((s.notice? i).getD s) := by
  rcases s.notice_cases i with same | ⟨r, -, -, same⟩
  · rw [same]
    exact .refl s
  · rw [same]
    refine .single (.setting i .endContext trivial) ?_
    refine (silent_onRun s i _).front_eq ((books_onRun s (g := (·.endContext)) (k := id)
      (fun _ => by rfl) (fun _ => by rfl) i).trans ?_)
    rw [List.modify_id]
    rfl

end System

/-! ## Moves behind the calls -/

/-- A switch that succeeds brings its target to the foreground. -/
theorem current_switchTo {sessions sessions' : Sessions} {user : UserId} {millis : Int64}
    {es : List Event} (ok : sessions.switchTo user millis = .ok (sessions', es)) :
    sessions'.current = user := by
  unfold Sessions.switchTo at ok
  split at ok
  · cases ok
  · cases ok
    rfl

/-- Nobody calls the service, no call is left, and no start or stop goes on. -/
def Move.IsBehind : Move → Prop
  | .act (.perform ..) | .act (.start _) | .act .stop | .act .nextControl => False
  | .act (.contextEnded ..) | .act (.pluginReady ..) => False
  | .act (.goOn _) | .act (.settleWait _) => False
  | .act _ => True
  | .intervene _ | .roster _ | .repository _ | .faults .. => False

/-- What a move behind the calls makes of the front. -/
inductive Front.Passes (x : Front) : Front → Prop
  | aside {y : Front} (steps : x.Steps y) : Passes x y
  /-- The operating system switches for a desk. -/
  | switched {i : Nat} {d : Desk} {c : Switching.Commit} {sessions : Sessions} {y : Front}
      (here : x.books.desks[i]? = some d) (doing : d.worker = .committing c)
      (foreground : sessions.current = c.target)
      (steps : Front.Steps (x.withBooks { x.books with sessions := sessions }) y) :
      Passes x (y.moveDesk i (.committed y.books.view none))
  /-- The operating system does not switch. -/
  | failed {i : Nat} {d : Desk} {c : Switching.Commit} (f : Fault)
      (here : x.books.desks[i]? = some d) (doing : d.worker = .committing c) :
      Passes x (x.moveDesk i (.committed x.books.view (some f)))

section Moves

variable (s : System)

theorem passes_commit (i : Nat) : s.front.Passes (s.commit i).front := by
  unfold commit
  split
  · exact .aside .refl
  · next r here =>
    split
    · next c doing =>
      have there : s.front.books.desks[i]? = some r.desk := by simp [front, books, here]
      dsimp only
      cases switched : s.sessions.switchTo c.target s.millis with
      | error f =>
        rw [show (s.onSessions .worker (.error f)).1 = s from rfl,
          show (s.onSessions .worker (.error f)).2 = some f from rfl]
        exact front_onDesk s i (.committed s.view (some f)) ▸ .failed f there doing
      | ok result =>
        obtain ⟨sessions, es⟩ := result
        have steps : Front.Steps (s.front.withBooks { s.front.books with sessions := sessions })
            (s.onSessions .worker (.ok (sessions, es))).1.front :=
          clears_emitEvents { s with sessions := sessions } .worker es
        exact front_onDesk (s.onSessions .worker (.ok (sessions, es))).1 i (.committed _ none) ▸
          .switched there doing (current_switchTo switched) steps
    · exact .aside .refl

/-- Whatever moves behind the calls. -/
theorem passes_move {m : Move} (behind : m.IsBehind) : s.front.Passes (s.move m).front := by
  cases m with
  | act a =>
    cases a with
    | elapse t => exact .aside (.single (.elapsed _))
    | parentEnded i =>
      refine .aside (Clears.of_eq (t := s.step (.parentEnded i)) ?_)
      dsimp only [step]
      split
      · rfl
      · rfl
    | answered ask r f => exact .aside (clears_askEnded ..)
    | expired ask => exact .aside (clears_askEnded ..)
    | canceled ask => exact .aside (clears_askEnded ..)
    | commit i => exact passes_commit s i
    | listenerReturned i crash => exact .aside (clears_listenerReturned ..)
    | handleTook i fault => exact .aside (clears_onBus ..)
    | handleDied h => exact .aside (Clears.of_silent ⟨rfl, rfl⟩ (books_handleDied s h))
    | notice i => exact .aside (clears_notice ..)
    | busStep i => exact .aside (clears_busStep ..)
    | deskWork i =>
      exact .aside (clears_deskMove s i (.work s.view) (fun _ => rfl) trivial (sees_of_eq rfl))
    | deskStop i =>
      exact .aside (clears_deskMove s i (.stop s.view) (fun _ => rfl) trivial (sees_of_eq rfl))
    | launch i ticket =>
      exact .aside (clears_onDesk s i (.launch ticket) trivial fun _ mem => by cases mem)
    | deskMark i => exact .aside (clears_onDesk s i .mark trivial fun _ mem => by cases mem)
    | record i => exact .aside (clears_record s i)
    | reap i => exact .aside (Clears.of_silent (silent_reap ..) (books_reap s i))
    | perform | start | stop | contextEnded | pluginReady | nextControl | goOn | settleWait =>
      exact behind.elim
  | intervene | roster | repository | faults => exact behind.elim

end Moves

end HeadUnit.Service
