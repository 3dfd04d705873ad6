import HeadUnit.Proofs.Registry.Eviction
import HeadUnit.Proofs.Registry.Restart
import HeadUnit.Proofs.Service.Books
import HeadUnit.Proofs.Service.Change

/-!
# What a move enters in the books

`Deal` lists what a move of the system can make of its books, one constructor per outcome,
with what is known in that outcome; `deal_move` says that the list is complete. Proofs about
users, sessions and the registry go by cases on `Deal` and on the entries that no call makes,
and look into no operation.
-/

namespace HeadUnit

/-! ## Users that are known -/

namespace Roster

/-- There is a record of the user. -/
def Knows (r : Roster) (id : UserId) : Prop := (r.find? id).isSome = true

instance (r : Roster) (id : UserId) : Decidable (r.Knows id) :=
  inferInstanceAs (Decidable ((r.find? id).isSome = true))

theorem knows_iff {r : Roster} {id : UserId} : r.Knows id ↔ ∃ u ∈ r.users, u.id = id := by
  simp [Knows, find?, List.find?_isSome]

theorem knows_of_user {r : Roster} {id : UserId} {u : User} (found : r.user id = .ok u) :
    r.Knows id := by
  unfold user at found
  unfold Knows
  split at found
  · next here => simp [here]
  · cases found

/-- The record that is found is the one of the user. -/
theorem id_of_user {r : Roster} {id : UserId} {u : User} (found : r.user id = .ok u) :
    u.id = id := by
  unfold user at found
  split at found
  · next here =>
    cases found
    simpa using List.find?_some here
  · cases found

/-- A record that is put in replaces one of the same user only. -/
theorem mem_ids_insert {u : User} {id : UserId} {us : List User}
    (mem : id ∈ us.map (·.id)) : id ∈ (insert u us).map (·.id) := by
  induction us with
  | nil => exact absurd mem List.not_mem_nil
  | cons v vs ih =>
    unfold insert
    split
    · exact List.mem_cons_of_mem _ mem
    · split
      · next same =>
        rw [List.map_cons, ← same] at mem
        exact mem
      · rcases List.mem_cons.1 mem with first | later
        · exact List.mem_cons.2 (.inl first)
        · exact List.mem_cons_of_mem _ (ih later)

theorem knows_addNew {r r' : Roster} {name kind : String} {flags : Flags} {group : UserId}
    {u : User} (added : r.addNew name kind flags group = .ok (u, r')) {id : UserId}
    (known : r.Knows id) : r'.Knows id := by
  unfold addNew at added
  split at added
  · cases added
  · cases added
    rw [knows_iff] at known ⊢
    exact List.mem_map.1 (mem_ids_insert (List.mem_map.2 known))

/-- Whoever is removed is not known any more; all others are. -/
theorem knows_remove {r r' : Roster} {id : UserId} (gone : r.remove id = .ok r') {x : UserId} :
    r'.Knows x ↔ r.Knows x ∧ x ≠ id := by
  unfold remove at gone
  split at gone
  · cases gone
  · split at gone
    · cases gone
    · cases gone
      simp only [knows_iff, List.mem_filter, bne_iff_ne]
      constructor
      · rintro ⟨u, ⟨mem, other⟩, rfl⟩
        exact ⟨⟨u, mem, rfl⟩, other⟩
      · rintro ⟨⟨u, mem, rfl⟩, other⟩
        exact ⟨u, ⟨mem, other⟩, rfl⟩

end Roster

namespace Provision

theorem knows_create {r : Roster} {current : UserId} {ratifies : Bool} {name kind : String}
    {flags : Flags} {id : UserId} (known : r.Knows id) :
    (create r current ratifies name kind flags).roster.Knows id := by
  unfold create
  split
  · exact known
  · split
    · exact known
    · next u r' added =>
      dsimp only
      split
      · exact Roster.knows_addNew added known
      · exact Roster.knows_addNew added known

theorem knows_createDriver {r : Roster} {current : UserId} {ratifies : Bool} {name : String}
    {admin : Bool} {id : UserId} (known : r.Knows id) :
    (createDriver r current ratifies name admin).roster.Knows id := by
  unfold createDriver
  split
  · exact known
  · exact knows_create known

theorem knows_createProfile {r : Roster} {name : String} {driver id : UserId}
    (known : r.Knows id) : (createProfile r name driver).roster.Knows id := by
  unfold createProfile
  split
  · exact known
  · split
    · exact known
    · split
      · exact known
      · next u r' added =>
        unfold Roster.createProfile at added
        split at added
        · cases added
        · exact Roster.knows_addNew added known

/-- A creation that is not ratified is taken back, if that is possible. -/
theorem roster_ratified (r : Roster) (user : User) (response : Vehicle.CreateResponse)
    (fault : Option Fault) :
    (ratified r user response fault).roster = r ∨
      r.remove user.id = .ok (ratified r user response fault).roster := by
  have compensated (reason : String) :
      (compensate r user reason).1 = r ∨ r.remove user.id = .ok (compensate r user reason).1 := by
    unfold compensate
    dsimp only
    split
    · next gone => exact .inr gone
    · exact .inl rfl
  unfold ratified
  split
  · exact compensated _
  · split
    · exact .inl rfl
    · exact compensated _

/-- A removal that succeeds removes a user who is not in the foreground; one that does not
    removes nobody. -/
theorem roster_remove (r : Roster) (current : UserId) (tells : Bool) (id : UserId) :
    (remove r current tells id).value.status.isSuccess = true ∧ id ≠ current ∧
        r.remove id = .ok (remove r current tells id).roster ∨
      (remove r current tells id).value.status.isSuccess = false ∧
        (remove r current tells id).roster = r := by
  unfold remove
  split
  · exact .inr ⟨rfl, rfl⟩
  · next other =>
    split
    · exact .inr ⟨rfl, rfl⟩
    · dsimp only
      split
      · exact .inr ⟨rfl, rfl⟩
      · next gone =>
        split
        · exact .inl ⟨rfl, other, gone⟩
        · exact .inl ⟨rfl, other, gone⟩

end Provision

namespace Service

open Switching (Desk View)
open HeadUnit.Service.System

/-! ## The list of deals -/

/-- What the move `m` of the system `s` makes of its books. -/
inductive Deal (s : System) (m : Move) : Books → Prop
  /-- Entries that no call makes. -/
  | behind {b : Books} (steps : Books.Steps s.books b) : Deal s m b
  | elapsed (t : Int) : Deal s m { s.books with now := t }
  /-- A desk is asked for a switch. -/
  | asked {i : Nat} {q : Switching.Move} (asks : Asks s m q) (sees : q.view? = some s.view) :
      Deal s m (s.books.moveDesk i q)
  /-- The worker of a desk takes a command. -/
  | worked {i : Nat} (move : m = .act (.deskWork i)) :
      Deal s m (s.books.moveDesk i (.work s.view))
  /-- The operating system has switched for a desk, or failed to. -/
  | committed {i : Nat} {d : Desk} {c : Switching.Commit} {sessions : Sessions} {b : Books}
      {fault : Option Fault} (here : s.books.desks[i]? = some d)
      (doing : d.worker = .committing c)
      (foreground : sessions.current = s.sessions.current ∨ sessions.current = c.target)
      (steps : Books.Steps { s.books with sessions := sessions } b) :
      Deal s m (b.moveDesk i (.committed b.view fault))
  /-- Users are started or stopped in the background, or others call the session manager. -/
  | served {registry : Registry} {sessions : Sessions} {b : Books}
      (alike : s.registry.Alike registry) (bound : registry.maxRunning = s.registry.maxRunning)
      (foreground : sessions.current = s.sessions.current ∨ ∃ user, m = .intervene (.switch user))
      (steps : Books.Steps { s.books with registry := registry, sessions := sessions } b) :
      Deal s m b
  /-- A user is created. -/
  | enrolled {roster : Roster} (more : ∀ id, s.roster.Knows id → roster.Knows id) :
      Deal s m { s.books with roster := roster }
  /-- A user that was created is not ratified, and removed again. -/
  | withdrawn {call : Call} {user : User} {roster : Roster} (mem : call ∈ s.calls)
      (creating : call.work = .creating user) (gone : s.roster.remove user.id = .ok roster) :
      Deal s m { s.books with roster := roster }
  /-- A user is removed, and the registry forgets it. -/
  | removed {ctx : Context} {id : UserId} {roster : Roster}
      (move : m = .act (.perform ctx (.removeUser id))) (other : id ≠ s.sessions.current)
      (gone : s.roster.remove id = .ok roster) :
      Deal s m (Books.change { s.books with roster := roster } (s.registry.forget id).1)
  /-- The bound of the registry changes. -/
  | bounded {c : Call} {n : Int64} (move : m = .act (.goOn c.id)) (mem : c ∈ s.calls)
      (work : c.work = .bounding n) : Deal s m (s.books.change (s.registry.setMax n))
  /-- The user to come up at boot is recorded. -/
  | recorded (gone : Option Fault) (id : UserId) :
      Deal s m (s.books.update gone fun st => { st with initial := id })
  /-- A start caches the state that it has read. -/
  | cached {c : Call} {st : Snapshot} (mem : c ∈ s.calls) (work : c.work = .caching st) :
      Deal s m { s.books with store := Store.keeping st }
  /-- A start takes over the state that it has read. -/
  | restored {c : Call} {st : Snapshot} (mem : c ∈ s.calls) (work : c.work = .restoring st) :
      Deal s m { s.books with registry := (s.registry.restore st).registry }
  /-- A start makes a run. -/
  | built {c : Call} {timeout : Duration} {headless : Bool} (mem : c ∈ s.calls)
      (work : c.work = .building) : Deal s m { s.books with
      desks := s.books.desks ++ [(Desk.fresh timeout headless).start]
      found := s.books.found ++ [none] }
  /-- Somebody else changes the users. -/
  | edited {roster : Roster} (move : m = .roster roster) :
      Deal s m { s.books with roster := roster }
  /-- Somebody else changes the repository. -/
  | replaced {r : Repository} (move : m = .repository r) :
      Deal s m { s.books with repository := r }

/-! ## The list is complete -/

section Complete

variable {s t : System} {m : Move}

/-- The books are left alone. -/
theorem Deal.same (same : t.books = s.books) : Deal s m t.books := .behind (.of_eq same)

/-! ### Switches -/

/-- A desk is asked for a switch on behalf of a call. -/
theorem Deal.of_onDesk {i : Nat} {q : Switching.Move} (same : t.books = s.books)
    (asks : Asks s m q) (sees : q.view? = some s.view) :
    Deal s m (t.onDesk i (·.move q)).books := by
  rw [books_onDesk, same]
  exact .asked asks sees

theorem deal_requestSwitch {target : UserId} {timeout : Duration} :
    Deal s m (s.freshId.2.requestSwitch s.nextId target timeout).books := by
  unfold requestSwitch
  split
  · refine .same ?_
    rw [books_finish, books_emit, books_freshId]
  · exact Deal.of_onDesk (q := .request s.view (.caller s.nextId) s.nextId target timeout)
      rfl rfl rfl

theorem deal_switchUser {ctx : Context} {target : UserId} {timeout : Duration} :
    Deal s m (s.freshId.2.switchUser s.nextId ctx target timeout).books := by
  unfold switchUser
  split
  · exact .same rfl
  · next i _ =>
    have asked : Deal s m ((s.freshId.2.await s.nextId ctx.deadline .switching).onDesk i
        (·.request s.view (.caller s.nextId) s.nextId target timeout)).books :=
      Deal.of_onDesk (q := .request s.view (.caller s.nextId) s.nextId target timeout) rfl rfl rfl
    dsimp only
    split
    · rw [books_leaveSwitch]
      exact asked
    · exact asked

theorem deal_switchDriver {ctx : Context} {target : UserId} {timeout : Duration} :
    Deal s m (s.freshId.2.switchDriver s.nextId ctx target timeout).books := by
  unfold switchDriver
  split
  · refine .same ?_
    rw [books_finish, books_freshId]
  · split
    · refine .same ?_
      rw [books_finish, books_note, books_freshId]
    · exact deal_switchUser

theorem deal_initiatedSwitch {ctx : Context} {token : Token} {target : UserId} :
    Deal s (.act (.perform ctx (.initiatedSwitch token target)))
      (s.freshId.2.initiatedSwitch s.nextId token target).books := by
  unfold initiatedSwitch
  split
  · refine .same ?_
    rw [books_finish, books_emit, books_note, books_freshId]
  · exact Deal.of_onDesk (q := .initiate s.view (.caller s.nextId) token target) rfl rfl rfl

theorem deal_commit (i : Nat) : Deal s m (s.commit i).books := by
  unfold commit
  split
  · exact .same rfl
  · next r here =>
    split
    · next c doing =>
      have here' : s.books.desks[i]? = some r.desk := by simp [books, here]
      dsimp only
      cases switched : s.sessions.switchTo c.target s.millis with
      | error f =>
        have moved := books_onDesk s i (.committed s.view (some f))
        exact moved ▸ Deal.committed here' doing (.inl rfl) .refl
      | ok result =>
        obtain ⟨sessions, es⟩ := result
        have foreground : sessions.current = c.target := by
          unfold Sessions.switchTo at switched
          split at switched
          · cases switched
          · cases switched
            rfl
        have steps := steps_onSessions s .worker sessions es
        have moved := books_onDesk (s.onSessions .worker (.ok (sessions, es))).1 i
          (.committed (s.onSessions .worker (.ok (sessions, es))).1.view none)
        exact moved ▸ Deal.committed here' doing (.inr foreground) steps
    · exact .same rfl

/-! ### Users -/

theorem books_created (s : System) (id : Nat) (ctx : Context) (timeout : Duration)
    (st : Provision.Step Provision.Creation) :
    (s.created id ctx timeout st).books = { s.books with roster := st.roster } :=
  aloof_books.created s id ctx timeout st

theorem books_createProfile (s : System) (id : Nat) (name : String) (driver : UserId) :
    (s.createProfile id name driver).books =
      { s.books with roster := (Provision.createProfile s.roster name driver).roster } :=
  books_notes ..

theorem books_removeUser (s : System) (id : Nat) (user : UserId) :
    (s.removeUser id user).books =
      let st := Provision.remove s.roster s.sessions.current s.capabilities.remove user
      let b := { s.books with roster := st.roster }
      if st.value.status.isSuccess then b.change (s.registry.forget user).1 else b := by
  unfold removeUser
  generalize Provision.remove s.roster s.sessions.current s.capabilities.remove user = st
  obtain ⟨roster, notes, status, notice⟩ := st
  dsimp only
  -- Neither reports nor the notice for the vehicle are in the books.
  cases notice with
  | none =>
    rw [books_finish, books_notes]
    dsimp only
    split
    · exact books_applyChange ..
    · rfl
  | some n =>
    rw [books_finish, books_notes, books_emit]
    split
    · exact books_applyChange ..
    · rfl

theorem deal_removeUser {ctx : Context} {user : UserId} :
    Deal s (.act (.perform ctx (.removeUser user)))
      (s.freshId.2.removeUser s.nextId user).books := by
  rw [books_removeUser]
  dsimp only
  rcases Provision.roster_remove s.roster s.sessions.current s.capabilities.remove user with
    ⟨success, other, gone⟩ | ⟨failure, same⟩
  · rw [if_pos (by exact success)]
    exact .removed rfl other gone
  · rw [if_neg (by exact Bool.eq_false_iff.1 failure)]
    refine .behind (.of_eq ?_)
    exact congrArg (fun r => { s.books with roster := r }) same

/-- A call goes on with the answer to its question. -/
theorem deal_answerCall {id : Nat} {v : Trip.Verdict Vehicle.Response} (calls : t.calls = s.calls)
    (same : t.books = s.books) : Deal s m (t.answerCall id v).books := by
  have roster : t.roster = s.roster := congrArg Books.roster same
  unfold answerCall
  split
  · next i deadline user found =>
    have noted (st : Provision.Step CreateResult) :
        (({ t with roster := st.roster }.notes st.notes).finish id (.create st.value)).books =
          { s.books with roster := st.roster } := by
      rw [books_finish, books_notes, ← same]
      rfl
    have mem : (⟨i, deadline, .creating user⟩ : Call) ∈ s.calls :=
      calls ▸ List.mem_of_find?_eq_some found
    dsimp only
    rw [noted, roster]
    rcases Provision.roster_ratified s.roster user v.value.asCreate v.fault with unchanged | gone
    · rw [unchanged]
      exact .behind .refl
    · exact .withdrawn mem rfl gone
  · refine .same ?_
    dsimp only
    rw [books_associated, books_notes, same]
  · split
    · exact .same same
    · exact .same same
  · exact .same same

/-! ### Operations -/

theorem books_setMaxRunning (s : System) (id : Nat) (n : Int64) :
    (s.setMaxRunning id n).books = s.books := by
  unfold setMaxRunning
  split <;> rfl

theorem deal_startBackground : Deal s m (s.freshId.2.startBackground s.nextId).books := by
  have spares := Registry.spares_startAll s.registry s.sessions s.millis
  have alike : s.registry.Alike (s.registry.startAll s.sessions s.millis).1 := ⟨rfl, rfl, rfl⟩
  have bound : (s.registry.startAll s.sessions s.millis).1.maxRunning = s.registry.maxRunning := rfl
  have unchanged : s.freshId.2.registry.startAll s.freshId.2.sessions s.freshId.2.millis =
      s.registry.startAll s.sessions s.millis := rfl
  unfold startBackground startRegistered
  rw [unchanged]
  generalize s.registry.startAll s.sessions s.millis = started at spares alike bound
  obtain ⟨registry, st⟩ := started
  refine .served alike bound (.inl spares.sessions.foreground) ?_
  have noted : (({ s.freshId.2 with registry := registry, sessions := st.sessions } : System).notes
      st.notes).books = { s.books with registry := registry, sessions := st.sessions } :=
    books_notes ..
  rw [books_finish, books_note, ← noted]
  exact steps_emitEvents ..

theorem current_stop {sessions sessions' : Sessions} {user : UserId} {millis : Int64}
    {es : List Event} (ok : sessions.stop user millis = .ok (sessions', es)) :
    sessions'.current = sessions.current := by
  unfold Sessions.stop at ok
  split at ok
  · cases ok
  · split at ok
    · cases ok
    · cases ok
      rfl

/-- To stop a user changes neither the entries of the registry nor the foreground user. -/
theorem kept_stop (r : Registry) (sessions : Sessions) (id : UserId) (millis : Int64) :
    r.Alike (r.stop sessions id millis).1 ∧
      (r.stop sessions id millis).1.maxRunning = r.maxRunning ∧
      (r.stop sessions id millis).2.1.current = sessions.current := by
  unfold Registry.stop
  split
  · exact ⟨.refl r, rfl, rfl⟩
  · split
    · exact ⟨.refl r, rfl, rfl⟩
    · split
      · exact ⟨.refl r, rfl, rfl⟩
      · next stopped => exact ⟨⟨rfl, rfl, rfl⟩, rfl, current_stop stopped⟩

theorem deal_stopBackground {user : UserId} :
    Deal s m (s.freshId.2.stopBackground s.nextId user).books := by
  obtain ⟨alike, bound, foreground⟩ := kept_stop s.registry s.sessions user s.millis
  have unchanged : s.freshId.2.registry.stop s.freshId.2.sessions user s.freshId.2.millis =
      s.registry.stop s.sessions user s.millis := rfl
  unfold stopBackground
  rw [unchanged]
  generalize s.registry.stop s.sessions user s.millis = stopped at alike bound foreground
  obtain ⟨registry, sessions, events, notes, ok⟩ := stopped
  refine .served alike bound (.inl foreground) ?_
  have noted : (({ s.freshId.2 with registry := registry, sessions := sessions } : System).notes
      notes).books = { s.books with registry := registry, sessions := sessions } := books_notes ..
  rw [books_finish, ← noted]
  exact steps_emitEvents ..

theorem deal_setInitial {ctx : Context} {user : UserId} :
    Deal s m (s.freshId.2.setInitial s.nextId ctx user).books := by
  unfold setInitial
  dsimp only
  split
  · exact .same rfl
  · rw [books_finish, books_updateStore]
    exact .recorded ctx.gone user

theorem deal_intervene (c : Intervention) :
    Deal s (.intervene c) (s.move (.intervene c)).books := by
  have steps (sessions : Sessions) (es : List Event) : Books.Steps
      { s.books with registry := s.registry, sessions := sessions }
      (s.freshId.2.onSessions (.caller s.nextId) (.ok (sessions, es))).1.books :=
    steps_onSessions s.freshId.2 (.caller s.nextId) sessions es
  show Deal s (.intervene c) (s.freshId.2.onSessions (.caller s.nextId)
    (c.result s.sessions s.millis)).1.books
  cases result : c.result s.sessions s.millis with
  | error f => exact .same rfl
  | ok changed =>
    obtain ⟨sessions, es⟩ := changed
    refine .served (.refl _) rfl ?_ (steps sessions es)
    cases c with
    | switch user => exact .inr ⟨user, rfl⟩
    | start user => exact .inl (Sessions.spares_startInBackground result).foreground
    | unlock user => exact .inl (Sessions.spares_unlock result).foreground
    | stop user => exact .inl (current_stop result)

/-! ### Starts -/

theorem persist_restore (r : Registry) (st : Snapshot) : (r.restore st).persist = false := by
  unfold Registry.restore
  dsimp only
  split <;> rfl

/-- A start takes over the registry, of which nothing is persisted. -/
theorem books_change_restore (b : Books) (st : Snapshot) :
    b.change (b.registry.restore st) = { b with registry := (b.registry.restore st).registry } := by
  rw [Books.change, persist_restore]
  rfl

theorem books_control (s : System) (c : Control) : (s.control c).books = s.books := by
  cases c with
  | start id parentDone => exact books_startNow s id parentDone
  | stop id => exact books_stopNow s id

theorem books_request (s : System) (c : Control) : (s.request c).books = s.books := by
  unfold request
  split
  · rfl
  · exact books_control s c

theorem books_nextControl (s : System) : (s.nextControl?.getD s).books = s.books := by
  unfold nextControl?
  split
  · next c cs _ _ => exact books_control { s with controls := cs } c
  · rfl

/-- A call goes on with what it is about to do. -/
theorem deal_goOn (id : Nat) : Deal s (.act (.goOn id)) ((s.goOn? id).getD s).books := by
  have on := s.goesOn id
  generalize (s.goOn? id).getD s = s' at on
  cases on with
  | nothing => exact .same rfl
  | @bounded c n here work =>
    obtain rfl : c.id = id := by simpa using List.find?_some here
    exact books_applyChange s (s.registry.setMax n) ▸
      .bounded rfl (List.mem_of_find?_eq_some here) work
  | read => exact .same (books_readState ..)
  | cached here work => exact .cached (List.mem_of_find?_eq_some here) work
  | @restored c st here work =>
    have taken := (books_restoreState s id st).trans (books_change_restore s.books st)
    exact taken ▸ .restored (List.mem_of_find?_eq_some here) work
  | built here work =>
    rw [books_buildRun]
    exact .built (List.mem_of_find?_eq_some here) work
  | wired => exact .behind (steps_wire ..)
  | shut => exact .same (books_shutNext ..)

/-! ### Answers -/

/-- Whoever asked learns how the wait has ended. -/
theorem deal_told (calls : t.calls = s.calls) (same : t.books = s.books)
    (v : Trip.Verdict Vehicle.Response) (o : Owner) : Deal s m (t.told v o).books := by
  cases o with
  | desk i ticket =>
    refine .behind ?_
    rw [← same]
    exact steps_onDesk t i (.tripEnded t.view ticket _ _) trivial (sees_of_eq rfl)
  | call c => exact deal_answerCall calls same

/-- What is said is neither among the calls nor in the books. -/
theorem lenient_same : Lenient (fun _ => True) (fun _ => True)
    fun s t => t.calls = s.calls ∧ t.books = s.books where
  refl _ := ⟨rfl, rfl⟩
  trans one other := ⟨other.1.trans one.1, other.2.trans one.2⟩
  noted _ _ _ := ⟨rfl, rfl⟩
  said _ _ _ := ⟨rfl, rfl⟩

theorem deal_askEnded (id : Nat) (e : Trip.Ending Vehicle.Response) :
    Deal s m (s.askEnded id e).books := by
  rcases s.askEnded_cases id e with same | ⟨a, -, same⟩
  · rw [same]
    exact .same rfl
  · obtain ⟨calls, books⟩ := lenient_same.dropAsk s a e (fun _ _ _ => trivial) trivial
    exact same ▸ deal_told (s := s) calls books (a.verdict e) a.owner

/-! ### All moves -/

theorem deal_perform (ctx : Context) (op : Operation) :
    Deal s (.act (.perform ctx op)) (s.freshId.2.perform s.nextId ctx op).books := by
  cases op with
  | requestSwitch target timeout => exact deal_requestSwitch
  | switchUser target timeout => exact deal_switchUser
  | switchDriver target timeout => exact deal_switchDriver
  | initiatedSwitch token target => exact deal_initiatedSwitch
  | setPanel p => exact .behind (steps_setPanel s.freshId.2 p)
  | setTimeout d => exact .behind (steps_setTimeout s.freshId.2 d)
  | setMaxRunning n => exact .same (books_setMaxRunning ..)
  | createUser name kind flags timeout =>
    rw [perform, createUser, books_created]
    exact .enrolled fun _ => Provision.knows_create
  | createDriver name admin =>
    rw [perform, createDriver, books_created]
    exact .enrolled fun _ => Provision.knows_createDriver
  | createProfile name driver =>
    rw [perform, books_createProfile]
    exact .enrolled fun _ => Provision.knows_createProfile
  | removeUser user => exact deal_removeUser
  | startBackground => exact deal_startBackground
  | stopBackground user => exact deal_stopBackground
  | setInitial user => exact deal_setInitial
  | initialInfo type timeout => exact .same (books_initialInfo ..)
  | getAssociations caller types => exact .same (books_associate ..)
  | setAssociations caller types values timeout => exact .same (books_associate ..)
  | event e => exact .behind (steps_onEvent s.freshId.2 e)
  | addListener o => exact .behind (steps_onPublishedBus s.freshId.2 ..)
  | removeListener o => exact .behind (steps_onPublishedBus s.freshId.2 ..)
  | addRemote uid handle => exact .behind (steps_onPublishedBus s.freshId.2 ..)
  | removeRemote uid => exact .behind (steps_onPublishedBus s.freshId.2 ..)
  | flush => exact .behind (steps_flushEvents s.freshId.2 ..)

theorem deal_step (a : Action) : Deal s (.act a) (s.step a).books := by
  cases a with
  | elapse t => exact .elapsed _
  | perform ctx op => exact deal_perform ctx op
  | start parentDone => exact .same (books_request s.freshId.2 _)
  | stop => exact .same (books_request s.freshId.2 _)
  | parentEnded i =>
    dsimp only [step]
    split
    · exact .same rfl
    · exact .same rfl
  | contextEnded call f => exact .same (books_contextEnded ..)
  | answered ask r f => exact deal_askEnded ..
  | expired ask => exact deal_askEnded ..
  | canceled ask => exact deal_askEnded ..
  | commit i => exact deal_commit i
  | listenerReturned i crash =>
    dsimp only [step]
    rcases s.listenerReturned_cases i crash with same | ⟨r, l, e, left, -, -, same⟩
    · exact .same (congrArg books same)
    · rw [same]
      exact .behind (steps_onBus ..)
  | handleTook i fault => exact .behind (steps_onBus ..)
  | handleDied h => exact .same (books_handleDied s h)
  | pluginReady call fault => exact .same (books_pluginReady ..)
  | notice i => exact .behind (steps_notice s i)
  | busStep i => exact .behind (steps_busStep s i)
  | deskWork i =>
    rw [step, deskWork?]
    rcases s.deskMove_cases i (q := .work s.view) fun _ => rfl with same | same
    · rw [same]
      exact .same rfl
    · rw [same, books_onDesk]
      exact .worked rfl
  | deskStop i => exact .behind (steps_deskStop s i)
  | launch i ticket =>
      exact .behind (steps_onDesk s i (.launch ticket) trivial fun _ mem => by cases mem)
  | deskMark i => exact .behind (steps_onDesk s i .mark trivial fun _ mem => by cases mem)
  | record i => exact .behind (steps_record s i)
  | goOn id => exact deal_goOn id
  | reap i => exact .same (books_reap s i)
  | settleWait late => exact .same (books_settleWait s late)
  | nextControl => exact .same (books_nextControl s)

/-- Every move is one of the deals. -/
theorem deal_move (s : System) (m : Move) : Deal s m (s.move m).books := by
  cases m with
  | act a => exact deal_step a
  | intervene c => exact deal_intervene c
  | roster r => exact .edited rfl
  | repository r => exact .replaced rfl
  | faults switch start unlock stop denied =>
    have foreground : (s.move (.faults switch start unlock stop denied)).sessions.current =
        s.sessions.current := rfl
    exact .served (.refl s.registry) rfl (.inl foreground) .refl

end Complete

/-- So is every moment of a run. -/
theorem Moment.deal (m : Moment) : Deal m.before m.move m.after.books := deal_move m.before m.move

end Service

end HeadUnit
