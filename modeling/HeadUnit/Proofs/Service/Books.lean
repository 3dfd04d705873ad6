import HeadUnit.Proofs.Registry.Invariant
import HeadUnit.Proofs.Service.Follow

/-!
# The books of a system

What outlives an operation of the service, apart from calls, questions and buses: the
users, the sessions, the registry with what is persisted of it, and of each run the desk and the
user that was looked up for the registry. These are the *books* of the system (`System.books`).

Most of what a system does leaves the books alone, which the equations `books_` say, one per
operation; whatever goes on around the calls is one case of it (`aloof_books`). What goes on
behind the calls comes down to a few kinds of entries in the books
(`Books.Step`): the registry looks up a user, or records the one it has looked up, a desk reacts
to what happens around it, seeing the books as they are, or a setting of a desk changes. There is
one lemma `steps_` per operation that makes such entries only.
-/

namespace HeadUnit.Service

open Switching (Desk View)

/-! ## Books -/

/-- What the operations of a system work on. -/
structure Books where
  now : Int
  capabilities : Vehicle.Capabilities
  roster : Roster
  sessions : Sessions
  registry : Registry
  /-- Changes of the registry are persisted. -/
  persists : Bool
  store : Store
  repository : Repository
  /-- The desks of all runs, the oldest first. -/
  desks : List Desk
  /-- The users that were looked up and are not recorded yet, for each run. -/
  found : List (Option User)

def System.books (s : System) : Books where
  now := s.now
  capabilities := s.capabilities
  roster := s.roster
  sessions := s.sessions
  registry := s.registry
  persists := s.persists
  store := s.store
  repository := s.repository
  desks := s.runs.map (·.desk)
  found := s.runs.map (·.found)

namespace Books

/-- What the desks see. -/
def view (b : Books) : View := ⟨b.roster.users, b.sessions.current, b.capabilities.switch⟩

/-- Changes the persisted state. -/
def update (b : Books) (gone : Option Fault) (change : Snapshot → Snapshot) : Books :=
  let u := b.store.update b.repository gone b.now change
  { b with store := u.store, repository := u.repository }

/-- The persisted state with what the registry records. -/
def recorded (r : Registry) (st : Snapshot) : Snapshot :=
  { st with background := r.entries, promoted := r.promoted, counter := r.counter }

/-- Persists the registry. -/
def persist (b : Books) : Books :=
  if b.persists then b.update none (recorded b.registry) else b

/-- Takes over a change of the registry. -/
def change (b : Books) (c : Registry.Change) : Books :=
  let b := { b with registry := c.registry }
  if c.persist then b.persist else b

/-- A desk makes a move, and what it asks for is handed on. -/
def moveDesk (b : Books) (i : Nat) (q : Switching.Move) : Books :=
  { b with desks := b.desks.modify i fun d => (Switching.Moment.mk d q).after }

/-- Whoever was looked up for the bus of run `i` is forgotten. -/
def settle (b : Books) (i : Nat) : Books := { b with found := b.found.modify i fun _ => none }

/-- A move of a desk that follows from what happens around it or was begun before: a trip is
    launched or ends, events arrive, a switch is reported, or its context has ended. -/
def IsReaction : Switching.Move → Prop
  | .launch _ | .tripEnded .. | .events .. | .mark | .stop _ => True
  | _ => False

/-- An entry in the books that no call makes. -/
inductive Step : Books → Books → Prop
  /-- A user has unlocked, and is looked up for the registry, through the bus of run `i`. -/
  | found (b : Books) (i : Nat) (e : Event) (u : User) (started : b.desks ≠ [])
      (unlocked : e.kind = .unlocked) (known : b.roster.user e.user = .ok u) :
      Step b { b with found := b.found.modify i fun _ => some u }
  /-- The registry records the user that was looked up for it, through the bus of run `i`. -/
  | recorded (b : Books) (i : Nat) (u : User) (found : b.found[i]? = some (some u)) :
      Step b ((b.change (b.registry.add u b.sessions.current)).settle i)
  | desk (b : Books) (i : Nat) (q : Switching.Move) (reaction : IsReaction q)
      (sees : ∀ v ∈ q.view?, v = b.view) : Step b (b.moveDesk i q)
  | setting (b : Books) (i : Nat) (q : Switching.Move) (setting : IsSetting q) :
      Step b { b with desks := b.desks.modify i (·.move q) }

/-- Entries one after the other. -/
abbrev Steps : Books → Books → Prop := Relation.ReflTransGen Step

end Books

/-- A change of a run changes a part of it. -/
theorem map_modify {α : Type} {part : Run → α} {f : Run → Run} {g : α → α}
    (same : ∀ r, part (f r) = g (part r)) (rs : List Run) (i : Nat) :
    (rs.modify i f).map part = (rs.map part).modify i g := by
  refine List.ext_getElem? fun j => ?_
  simp only [List.getElem?_map, List.getElem?_modify]
  cases rs[j]? with
  | none => rfl
  | some r =>
    by_cases own : i = j
    · simp [own, same]
    · simp [own]

/-- A part that no change touches is left alone. -/
theorem map_modify_of_eq {α : Type} {part : Run → α} {f : Run → Run}
    (same : ∀ r, part (f r) = part r) (rs : List Run) (i : Nat) :
    (rs.modify i f).map part = rs.map part :=
  (map_modify (g := id) same rs i).trans (List.modify_id i _)

namespace System

variable (s : System)

/-! ## Operations that leave the books alone -/

@[simp]
theorem books_emit (e : Effect) : (s.emit e).books = s.books := rfl

@[simp]
theorem books_note (n : Note) : (s.note n).books = s.books := rfl

/-- What goes on around the calls is not in the books. -/
theorem aloof_books : Aloof fun s t => t.books = s.books where
  refl _ := rfl
  trans one other := other.trans one
  noted s n _ := books_note s n
  said s e _ := books_emit s e
  called _ _ := rfl
  asked _ _ _ _ _ := rfl
  steered _ _ _ := rfl

/-- What is done for each element of a list leaves the books alone if it does for each. -/
theorem books_foldl {α : Type} {f : System → α → System} (each : ∀ s a, (f s a).books = s.books)
    (as : List α) : (as.foldl f s).books = s.books := aloof_books.foldl s fun t a _ => each t a

/-- Notes are recorded, and said. -/
theorem notes_eq (ns : List Note) : s.notes ns =
    { s with metrics := (s.notes ns).metrics, out := s.out ++ ns.map .note } := by
  induction ns generalizing s with
  | nil => simp [notes]
  | cons n ns ih =>
    have rest := ih (s.note n)
    simp only [notes, List.foldl_cons] at rest ⊢
    rw [rest]
    simp [note]

@[simp]
theorem books_notes (ns : List Note) : (s.notes ns).books = s.books := aloof_books.notes s ns

@[simp]
theorem books_freshId : s.freshId.2.books = s.books := rfl

@[simp]
theorem books_await (id : Nat) (deadline : Option Int) (w : Work) :
    (s.await id deadline w).books = s.books := rfl

@[simp]
theorem books_finish (id : Nat) (r : Result) : (s.finish id r).books = s.books := rfl

@[simp]
theorem books_flushManager : s.flushManager.books = s.books := aloof_books.flushManager s

@[simp]
theorem books_associated (id : Nat) (isWrite : Bool) (r : AssociationResult) :
    (s.associated id isWrite r).books = s.books := rfl

@[simp]
theorem books_leaveSwitch (id : Nat) (f : Fault) : (s.leaveSwitch id f).books = s.books :=
  aloof_books.leaveSwitch ..

@[simp]
theorem books_contextEnded (id : Nat) (f : Fault) : (s.contextEnded id f).books = s.books :=
  aloof_books.contextEnded ..

@[simp]
theorem books_initialInfo (id : Nat) (ctx : Context) (requestType : Int64) (timeout : Duration) :
    (s.initialInfo id ctx requestType timeout).books = s.books := aloof_books.initialInfo ..

@[simp]
theorem books_associate (id : Nat) (isWrite : Bool) (caller : UserId) (timeout : Option Duration)
    (ctx : Context) (q : Association.Question) :
    (s.associate id isWrite caller timeout ctx q).books = s.books := aloof_books.associate ..

@[simp]
theorem books_nextPlugin (id index : Nat) : (s.nextPlugin id index).books = s.books :=
  aloof_books.nextPlugin ..

@[simp]
theorem books_shutdownPlugin (index : Nat) : (s.shutdownPlugin index).books = s.books :=
  aloof_books.shutdownPlugin ..

@[simp]
theorem books_workerReturned (group : Option Nat) (name : String) :
    (s.workerReturned group name).books = s.books := aloof_books.workerReturned ..

@[simp]
theorem books_settleWait (late : Bool) : ((s.settleWait? late).getD s).books = s.books :=
  aloof_books.settleWait s late

@[simp]
theorem books_readState (id : Nat) : (s.readState id).books = s.books := aloof_books.readState ..

@[simp]
theorem books_shutNext (id : Nat) (fault : Option Fault) (left : Nat) :
    (s.shutNext id fault left).books = s.books := aloof_books.shutNext ..

@[simp]
theorem books_startNow (id : Nat) (parentDone : Bool) :
    (s.startNow id parentDone).books = s.books := by
  unfold startNow
  split
  · rfl
  · split
    · rfl
    · rw [books_await, books_flushManager]
      rfl

@[simp]
theorem books_stopNow (id : Nat) : (s.stopNow id).books = s.books := by
  unfold stopNow
  split
  · rfl
  · split
    · rfl
    · rw [books_await, books_flushManager]
      rfl

@[simp]
theorem books_pluginReady (id : Nat) (fault : Option Fault) :
    (s.pluginReady id fault).books = s.books := by
  unfold pluginReady
  split
  · dsimp only
    split
    · rw [books_nextPlugin, books_note]
    · rfl
  · rfl

/-- Of a run, the books show the desk and whoever was looked up. -/
theorem books_onRun {f : Run → Run} {g : Desk → Desk} {k : Option User → Option User}
    (desk : ∀ r, (f r).desk = g r.desk) (found : ∀ r, (f r).found = k r.found) (i : Nat) :
    (s.onRun i f).books = { s.books with
      desks := s.books.desks.modify i g
      found := s.books.found.modify i k } := by
  simp only [books, onRun, map_modify desk, map_modify found]

/-- A desk changes. -/
theorem books_onRun_desk (g : Desk → Desk) (i : Nat) :
    (s.onRun i fun r => { r with desk := g r.desk }).books =
      { s.books with desks := s.books.desks.modify i g } := by
  refine (books_onRun s (k := id) (fun _ => by rfl) (fun _ => by rfl) i).trans ?_
  rw [List.modify_id]

/-- Somebody is looked up, or forgotten. -/
theorem books_onRun_found (found : Option User) (i : Nat) :
    (s.onRun i fun r => { r with found := found }).books =
      { s.books with found := s.books.found.modify i fun _ => found } := by
  refine (books_onRun s (g := id) (k := fun _ => found) (fun _ => by rfl) (fun _ => by rfl) i).trans
    ?_
  rw [List.modify_id]

/-- A run changes in what the books do not show. -/
theorem books_onRun_of_eq {f : Run → Run} (desk : ∀ r, (f r).desk = r.desk)
    (found : ∀ r, (f r).found = r.found) (i : Nat) : (s.onRun i f).books = s.books := by
  rw [books_onRun s (g := id) (k := id) desk found i, List.modify_id, List.modify_id]

@[simp]
theorem books_onBus (i : Nat) (f : Bus Listener Nat → Bus Listener Nat) :
    (s.onBus i f).books = s.books :=
  books_onRun_of_eq s (fun _ => by rfl) (fun _ => by rfl) i

@[simp]
theorem books_fromDesk (i : Nat) (e : Switching.Effect) : (fromDesk i s e).books = s.books :=
  aloof_books.fromDesk s i e fun t => t.books_onBus i _

/-! ## Operations that change the books -/

theorem books_updateStore (gone : Option Fault) (change : Snapshot → Snapshot) :
    (s.updateStore gone change).1.books = s.books.update gone change := by
  unfold updateStore
  dsimp only
  split <;> rfl

theorem books_persistRegistry : s.persistRegistry.books = s.books.persist := by
  have updated := books_updateStore s none (Books.recorded s.registry)
  unfold persistRegistry Books.persist
  cases on : s.persists with
  | false => simp [show s.books.persists = false from on]
  | true =>
    rw [if_pos (show s.books.persists = true from on), if_neg (by simp)]
    dsimp only
    split
    · exact updated
    · exact updated

theorem books_applyChange (c : Registry.Change) :
    (s.applyChange c).books = s.books.change c := by
  have noted : ({ s with registry := c.registry }.notes c.notes).books =
      { s.books with registry := c.registry } := books_notes ..
  unfold applyChange Books.change
  dsimp only
  split
  · rw [books_persistRegistry, noted]
  · exact noted

/-- A desk does something, and what it asks for is handed on. -/
theorem books_onDesk (i : Nat) (q : Switching.Move) :
    (s.onDesk i (·.move q)).books = s.books.moveDesk i q := by
  unfold onDesk
  split
  · next missing =>
    have none : s.books.desks[i]? = none := by simp [books, missing]
    rw [Books.moveDesk, List.modify_eq_self (List.getElem?_eq_none_iff.1 none)]
  · next r here =>
    have there : s.books.desks[i]? = some r.desk := by simp [books, here]
    rw [books_foldl _ (fun s e => books_fromDesk s i e)]
    refine (books_onRun_desk s (fun _ => (Switching.Moment.mk r.desk q).after) i).trans ?_
    refine congrArg (fun ds => { s.books with desks := ds }) (List.ext_getElem? fun j => ?_)
    simp only [List.getElem?_modify]
    by_cases own : i = j
    · subst own
      rw [there]
      rfl
    · simp [own]

end System

/-! ## Workers that go on -/

namespace Books

/-- A change of the registry touches the registry and what is persisted, nothing else. -/
theorem change_eq (b : Books) (c : Registry.Change) : ∃ store repository, b.change c =
    { b with registry := c.registry, store := store, repository := repository } := by
  unfold change persist
  dsimp only
  split
  · split
    · exact ⟨_, _, rfl⟩
    · exact ⟨_, _, rfl⟩
  · exact ⟨_, _, rfl⟩

@[simp]
theorem registry_change (b : Books) (c : Registry.Change) :
    (b.change c).registry = c.registry := by
  obtain ⟨_, _, e⟩ := b.change_eq c
  rw [e]

@[simp]
theorem desks_change (b : Books) (c : Registry.Change) : (b.change c).desks = b.desks := by
  obtain ⟨_, _, e⟩ := b.change_eq c
  rw [e]

@[simp]
theorem found_change (b : Books) (c : Registry.Change) : (b.change c).found = b.found := by
  obtain ⟨_, _, e⟩ := b.change_eq c
  rw [e]

/-- No desk comes or goes. -/
theorem Step.length {b b' : Books} (step : Step b b') : b'.desks.length = b.desks.length := by
  cases step with
  | found => rfl
  | recorded i u => exact congrArg List.length (desks_change ..)
  | desk | setting => exact List.length_modify ..

theorem Steps.length {b b' : Books} (steps : Steps b b') : b'.desks.length = b.desks.length := by
  induction steps with
  | refl => rfl
  | tail _ step ih => exact step.length.trans ih

theorem Steps.started {b b' : Books} (steps : Steps b b') (started : b.desks ≠ []) :
    b'.desks ≠ [] := by
  rw [← List.length_pos_iff, Steps.length steps, List.length_pos_iff]
  exact started

/-- Users and sessions stay as they are. -/
theorem Steps.unmoved {b b' : Books} (steps : Steps b b') :
    b'.roster = b.roster ∧ b'.sessions = b.sessions := by
  induction steps with
  | refl => exact ⟨rfl, rfl⟩
  | tail _ step ih =>
    cases step with
    | recorded i u =>
      obtain ⟨_, _, e⟩ := Books.change_eq _ _
      rwa [Books.settle, e]
    | found | desk | setting => exact ih

/-- What leaves the books alone are no entries at all. -/
theorem Steps.of_eq {b b' : Books} (same : b' = b) : Steps b b' := same ▸ .refl

end Books

namespace System

variable (s : System)

/-- Around the calls, there are no entries. -/
theorem aloof_steps : Aloof fun s t => Books.Steps s.books t.books where
  refl _ := .refl
  trans := .trans
  noted s n h := .of_eq (aloof_books.noted s n h)
  said s e h := .of_eq (aloof_books.said s e h)
  called s calls := .of_eq (aloof_books.called s calls)
  asked s request timeout ctx owner := .of_eq (aloof_books.asked s request timeout ctx owner)
  steered s manager busy := .of_eq (aloof_books.steered s manager busy)

/-- A move that looks around sees what there is. -/
theorem sees_of_eq {q : Switching.Move} {v : View} (same : q.view? = some v) :
    ∀ w ∈ q.view?, w = v := fun _ mem => (Option.some.inj (mem.symm.trans same))

theorem steps_onDesk (i : Nat) (q : Switching.Move) (reaction : Books.IsReaction q)
    (sees : ∀ v ∈ q.view?, v = s.view) : Books.Steps s.books (s.onDesk i (·.move q)).books := by
  rw [books_onDesk]
  exact .single (.desk s.books i q reaction sees)

/-- One thing that a bus asked for is handed on. -/
theorem steps_fromBus (i : Nat) (e : Bus.Effect Listener Nat) (started : s.books.desks ≠ []) :
    Books.Steps s.books (fromBus i s e).books := by
  cases e with
  | note n | send uid h x => exact .refl
  | release barrier =>
    refine .of_eq ?_
    dsimp only [fromBus]
    split <;> rfl
  | call l x =>
    cases l with
    | outside id => exact .refl
    | desk => exact steps_onDesk s i (.events s.view .bus [x]) trivial (sees_of_eq rfl)
    | registry =>
      dsimp only [fromBus]
      cases asked : Registry.lookUp s.roster.user x with
      | none => exact .of_eq (books_onBus ..)
      | some looked =>
        cases looked with
        | error n => exact .of_eq (books_onBus ..)
        | ok u =>
          obtain ⟨unlocked, known⟩ := Registry.found_of_lookUp asked
          dsimp only
          rw [books_onRun_found]
          exact .single (.found s.books i x u started unlocked known)

theorem steps_foldl_fromBus (i : Nat) (es : Hand) (started : s.books.desks ≠ []) :
    Books.Steps s.books (es.foldl (fromBus i) s).books := by
  induction es generalizing s with
  | nil => exact .refl
  | cons e es ih =>
    have first := steps_fromBus s i e started
    exact first.trans (ih _ (Books.Steps.started first started))

/-- All that a bus asked for is handed on. -/
theorem steps_flushBus (i : Nat) : Books.Steps s.books (s.flushBus i).books := by
  rcases s.flushBus_cases i with same | ⟨r, here, same⟩
  · rw [same]
  · rw [same]
    have some : s.runs ≠ [] := by
      rintro none
      simp [none] at here
    have same : (s.onBus i fun _ => r.bus.take.2).books = s.books := books_onBus ..
    have started : (s.onBus i fun _ => r.bus.take.2).books.desks ≠ [] := by
      rw [same]
      exact fun none => some (List.map_eq_nil_iff.1 none)
    have on := steps_foldl_fromBus _ i r.bus.take.1 started
    rwa [same] at on

/-- A bus does something, and what it asks for is handed on. -/
theorem steps_onBus (i : Nat) (f : Bus Listener Nat → Bus Listener Nat) :
    Books.Steps s.books ((s.onBus i f).flushBus i).books := by
  have on := steps_flushBus (s.onBus i f) i
  rwa [books_onBus] at on

theorem steps_tryBus (i : Nat) (f : Bus Listener Nat → Except Fault (Bus Listener Nat)) :
    Books.Steps s.books (s.tryBus i f).1.books := by
  unfold tryBus
  split
  · exact .refl
  · split
    · exact .refl
    · exact steps_onBus ..

/-! ### Events -/

theorem steps_onEvent (e : Event) : Books.Steps s.books (s.onEvent e).books := by
  unfold onEvent
  split
  · exact .refl
  · exact steps_onBus ..

theorem steps_emitEvents (p : Switching.Poster) (es : List Event) :
    Books.Steps s.books (s.emitEvents p es).books :=
  aloof_steps.emitEvents s p es (fun t e _ => steps_onEvent t e)
    (fun i => steps_onDesk s i (.events s.view p es) trivial (sees_of_eq rfl)) fun _ => trivial

/-- The sessions are as the session manager has left them, then its events arrive. -/
theorem steps_onSessions (p : Switching.Poster) (sessions : Sessions) (es : List Event) :
    Books.Steps { s.books with sessions := sessions }
      (s.onSessions p (.ok (sessions, es))).1.books :=
  steps_emitEvents { s with sessions := sessions } p es

/-! ### Listeners and settings -/

theorem steps_onPublishedBus (id : Nat) (f : Bus Listener Nat → Except Fault (Bus Listener Nat)) :
    Books.Steps s.books (s.onPublishedBus id f).books := by
  unfold onPublishedBus
  split
  · exact .refl
  · exact steps_tryBus ..

theorem steps_flushEvents (id : Nat) (ctx : Context) :
    Books.Steps s.books (s.flushEvents id ctx).books := by
  have flushed (i : Nat) : Books.Steps s.books
      ((s.await id ctx.deadline .flushing).tryBus i (·.flush id)).1.books :=
    steps_tryBus (s.await id ctx.deadline .flushing) i _
  rcases s.flushEvents_cases id ctx with same | ⟨i, -, same | ⟨f, same⟩⟩
  · rw [same]
    exact .refl
  · rw [same]
    exact flushed i
  · rw [same]
    exact flushed i

/-- Settings reach the published desk. -/
theorem steps_onPublishedDesk (q : Switching.Move) (setting : IsSetting q) :
    Books.Steps s.books (s.onPublishedDesk (·.move q)).books := by
  unfold onPublishedDesk
  split
  · exact .refl
  · next i _ =>
    dsimp only
    rw [books_onRun_desk s (·.move q) i]
    exact .single (.setting s.books i q setting)

theorem steps_setPanel (p : Option Switching.Panel) :
    Books.Steps s.books (s.setPanel p).books :=
  steps_onPublishedDesk { s with panel := p } (.setPanel p) trivial

theorem steps_setTimeout (d : Duration) : Books.Steps s.books (s.setTimeout d).books := by
  unfold setTimeout
  split
  · exact .refl
  · exact steps_onPublishedDesk
      { s with timeout := d, provisionTimeout := d, associationTimeout := d } (.setTimeout d)
      trivial

/-! ### Steps of workers -/

theorem steps_busStep (i : Nat) : Books.Steps s.books ((s.busStep? i).getD s).books := by
  rcases s.busStep_cases i with same | ⟨r, -, same⟩
  · rw [same]
  · rw [same]
    exact steps_onBus ..

theorem steps_record (i : Nat) : Books.Steps s.books ((s.record? i).getD s).books := by
  rcases s.record_cases i with same | ⟨r, u, here, found, same⟩
  · rw [same]
  · have listed : s.books.found[i]? = some (some u) := by simp [books, here, found]
    have recorded : ((s.applyChange (s.registry.add u s.sessions.current)).onRun i
        fun r => { r with found := none }).books =
        (s.books.change (s.registry.add u s.sessions.current)).settle i := by
      rw [books_onRun_found, books_applyChange]
      rfl
    rw [same]
    exact (Relation.ReflTransGen.single (recorded ▸ .recorded s.books i u listed)).trans
      (steps_onBus ..)

theorem steps_deskStop (i : Nat) : Books.Steps s.books ((s.deskStop? i).getD s).books := by
  rcases s.deskMove_cases i (q := .stop s.view) fun _ => rfl with same | same
  · rw [deskStop?, same]
  · rw [deskStop?, same]
    exact steps_onDesk s i (.stop s.view) trivial (sees_of_eq rfl)

theorem steps_notice (i : Nat) : Books.Steps s.books ((s.notice? i).getD s).books := by
  rcases s.notice_cases i with same | ⟨r, -, -, same⟩
  · rw [same]
  · have ended : (s.onRun i fun r =>
        { r with bus := r.bus.endContext, desk := r.desk.endContext }).books =
        { s.books with desks := s.books.desks.modify i (·.move .endContext) } :=
      (books_onRun s (g := (·.endContext)) (k := id) (fun _ => by rfl) (fun _ => by rfl) i).trans
        (by rw [List.modify_id]; rfl)
    rw [same, ended]
    exact .single (.setting s.books i .endContext trivial)

theorem books_reap (i : Nat) : ((s.reap? i).getD s).books = s.books := by
  -- That a worker has returned is not in the books.
  have reported (f : Run → Run) (desk : ∀ r, (f r).desk = r.desk)
      (found : ∀ r, (f r).found = r.found) (name : String) (group : Option Nat) :
      ((s.onRun i f).workerReturned group name).books = s.books := by
    rw [books_workerReturned, books_onRun_of_eq s desk found]
  rcases s.reap_cases i with same | ⟨r, -, ⟨-, -, same⟩ | ⟨-, -, same⟩⟩
  · rw [same]
  · rw [same]
    exact reported (fun r => { r with busReported := true }) (fun _ => rfl) (fun _ => rfl) ..
  · rw [same]
    exact reported (fun r => { r with deskReported := true }) (fun _ => rfl) (fun _ => rfl) ..

/-! ### Starts -/

theorem books_restoreState (id : Nat) (st : Snapshot) :
    (s.restoreState id st).books = s.books.change (s.registry.restore st) := by
  rw [← books_applyChange]
  unfold restoreState
  dsimp only
  generalize s.applyChange (s.registry.restore st) = t
  split
  · rfl
  · rfl

theorem books_buildRun (id : Nat) : (s.buildRun id).books = { s.books with
    desks := s.books.desks ++ [(Desk.fresh s.timeout s.config.headless).start]
    found := s.books.found ++ [none] } := by
  simp [books, buildRun, await']

theorem steps_publish (i : Nat) : Books.Steps s.books (s.publish i).books := by
  have handed : (s.publish i).books =
      { s.books with desks := s.books.desks.modify i fun d =>
        (d.move (.setTimeout s.timeout)).move (.setPanel s.panel) } :=
    books_onRun_desk s (fun d => (d.setTimeout s.timeout).setPanel s.panel) i
  have first := Books.Step.setting s.books i (.setTimeout s.timeout) trivial
  refine (Relation.ReflTransGen.single first).tail ?_
  rw [handed]
  convert Books.Step.setting _ i (.setPanel s.panel) trivial using 2
  simp [List.modify_modify_eq, Function.comp_def]

theorem steps_wire (id i : Nat) (left : List Listener) :
    Books.Steps s.books (s.wire id i left).books := by
  cases left with
  | nil =>
    dsimp only [wire]
    rw [books_nextPlugin]
    exact steps_publish s i
  | cons l left =>
    have tried := steps_tryBus s i (·.register (.listener l))
    rcases s.wire_cases id i l left with ⟨-, same⟩ | ⟨f, -, same⟩
    · rw [same]
      exact tried
    · rw [same]
      exact tried

theorem books_handleDied (h : Nat) :
    ({ s with runs := s.runs.map fun r => { r with bus := r.bus.handleDied h } } : System).books =
      s.books := by
  simp only [books, List.map_map, Function.comp_def]

end System

end HeadUnit.Service
