import Mathlib.Data.List.Induction
import HeadUnit.Proofs.Service.Books

/-!
# No update of the persisted state is lost

The state is cached, and each update changes the cache before it is saved. So the cache runs ahead
of the repository when a save fails, and the next save that succeeds makes up for it:

* what was loaded, with all updates since applied in order (`Store.carried`), is what is cached,
  and what a save that succeeds leaves in the repository but for its time stamp
  (`Store.Made.carried`);
* the registry and the choice of the initial user share the state without getting in each other's
  way: whatever their order, each save carries the last of both (`carried_writings`).

The main statement is `saved_with_all_updates`.
-/

namespace HeadUnit

/-! ## What a repository holds -/

/-- The medium holds the state, but for the time stamp of the save. -/
def Medium.Holds (m : Medium) (st : Snapshot) : Prop :=
  ∃ t, match m with
    | .memory st' _ => st' = { st with savedAt := t }
    | .file d => d = .holding { st with savedAt := t }.render

/-- The repository holds the state, whether or not it can be loaded at the moment. -/
def Repository.Holds (r : Repository) (st : Snapshot) : Prop := r.medium.Holds st

theorem Medium.holds_of_saved {m m' : Medium} {gone : Option Fault} {st : Snapshot} {now : Int}
    (saved : m.save gone st now = .ok m') : m'.Holds st := by
  cases m with
  | memory old n =>
    cases saved
    exact ⟨st.savedAt, rfl⟩
  | file d =>
    cases gone with
    | some f => cases saved
    | none =>
      cases d with
      | noFolder | folderAtFile => cases saved
      | vacant | holding =>
        cases saved
        exact ⟨_, rfl⟩

theorem Repository.holds_of_saved {r r' : Repository} {gone : Option Fault} {st : Snapshot}
    {now : Int} (saved : r.save gone st now = .ok r') : r'.Holds st := by
  unfold Repository.save at saved
  split at saved
  · cases saved
  · cases stored : r.medium.save gone st now with
    | error f => simp [stored, Except.map] at saved
    | ok m =>
      simp only [stored, Except.map, Except.ok.injEq] at saved
      subst saved
      exact Medium.holds_of_saved stored

namespace Store

/-! ## Updates -/

/-- An update, with the repository as it is found then. -/
structure Update where
  repository : Repository
  /-- Why whoever makes the update is not there any more. -/
  gone : Option Fault
  now : Int
  change : Snapshot → Snapshot

/-- What an update does to a store. -/
def Update.outcome (u : Update) (s : Store) : Updated :=
  s.update u.repository u.gone u.now u.change

/-- The state with all updates applied, in order. -/
def carried (st : Snapshot) (us : List Update) : Snapshot := us.foldl (fun st u => u.change st) st

/-- The state `st` was loaded, and `us` are the updates since, the last of which has done this. -/
inductive Made (st : Snapshot) : List Update → Updated → Prop
  /-- The first update after a load. -/
  | loaded {s s' : Store} {r : Repository} (ok : s.load r = (s', .ok st)) (u : Update) :
      Made st [u] (u.outcome s')
  /-- An update that has loaded the state itself. -/
  | read {s : Store} {u : Update} (unread : s.loaded = false) (ok : u.repository.load = .ok st) :
      Made st [u] (u.outcome s)
  | next {us : List Update} {o : Updated} (before : Made st us o) (u : Update) :
      Made st (us ++ [u]) (u.outcome o.store)

/-- The state `st` is cached, or an update finds it in the repository. -/
def Ready (s : Store) (st : Snapshot) (u : Update) : Prop :=
  (if s.loaded then .ok s.cache else u.repository.load) = .ok st

/-- What was done is cached, and held by the repository unless the save has failed. -/
structure Carries (o : Updated) (st : Snapshot) : Prop where
  store : o.store = ⟨st, true⟩
  saved : o.fault = none → o.repository.Holds st

/-- An update of a state that is at hand is made whether or not it can be saved. -/
theorem Ready.carries {s : Store} {u : Update} {st : Snapshot} (ready : s.Ready st u) :
    Carries (u.outcome s) (u.change st) := by
  unfold Update.outcome update
  rw [ready]
  dsimp only
  split
  · next r saved => exact ⟨rfl, fun _ => Repository.holds_of_saved saved⟩
  · exact ⟨rfl, nofun⟩

/-- An update whose load fails does nothing. -/
theorem outcome_of_unread {s : Store} {u : Update} {f : Fault} (unread : s.loaded = false)
    (failed : u.repository.load = .error f) : u.outcome s = ⟨s, u.repository, none, some f⟩ := by
  simp [Update.outcome, update, unread, failed]

theorem ready_of_loaded {s : Store} {st : Snapshot} (loaded : s = ⟨st, true⟩) (u : Update) :
    s.Ready st u := by
  rw [loaded]
  rfl

theorem load_eq {s s' : Store} {r : Repository} {st : Snapshot} (ok : s.load r = (s', .ok st)) :
    s' = ⟨st, true⟩ := by
  unfold load at ok
  split at ok
  · cases ok
    rfl
  · cases ok

theorem Made.carried {st : Snapshot} {us : List Update} {o : Updated} (made : Made st us o) :
    Carries o (carried st us) := by
  induction made with
  | loaded ok u => exact (ready_of_loaded (load_eq ok) u).carries
  | read unread ok =>
    refine Ready.carries ?_
    rwa [Ready, unread, if_neg nofun]
  | next _ u ih =>
    -- After the first update the state is cached, so the repository is not asked any more.
    rw [Store.carried, List.foldl_append]
    exact (ready_of_loaded ih.store u).carries

end Store

namespace Service

open Store (Update carried)

/-! ## Who updates the state -/

/-- Who updates the persisted state. -/
inductive Writer
  /-- The registry, as it has become. -/
  | registry (r : Registry)
  /-- The user to come up at boot is set. -/
  | initial (call : Nat) (ctx : Context) (user : UserId)

/-- One update of the persisted state, with the repository as it is found then. -/
structure Writing where
  repository : Repository
  now : Int
  writer : Writer

/-- What comes of it. -/
def System.write (s : System) (t : Writing) : System :=
  match t.writer with
  | .registry r =>
    System.persistRegistry { s with repository := t.repository, now := t.now, registry := r }
  | .initial call ctx user =>
    System.setInitial { s with repository := t.repository, now := t.now } call ctx user

namespace Writing

/-- The registry that is persisted. -/
def persisted? (t : Writing) : Option Registry :=
  match t.writer with
  | .registry r => some r
  | .initial .. => none

/-- The initial user that is set, which is nobody or somebody who is known. -/
def initial? (roster : Roster) (t : Writing) : Option UserId :=
  match t.writer with
  | .registry _ => none
  | .initial _ _ user =>
    if user = UserId.null ∨ (roster.user user).toOption.isSome then some user else none

/-- The update that is made. -/
def update? (roster : Roster) (t : Writing) : Option Update :=
  match t.writer with
  | .registry r => some ⟨t.repository, none, t.now, Books.recorded r⟩
  | .initial _ ctx _ =>
    (t.initial? roster).map fun user =>
      ⟨t.repository, ctx.gone, t.now, fun st => { st with initial := user }⟩

end Writing

/-- Nothing but store and repository of the books changes. -/
theorem books_write (s : System) (t : Writing) (persists : s.persists = true) :
    (s.write t).books = { s.books with
      now := t.now
      registry := t.persisted?.getD s.registry
      store := ((t.update? s.roster).map fun u => (u.outcome s.store).store).getD s.store
      repository := ((t.update? s.roster).map fun u =>
        (u.outcome s.store).repository).getD t.repository } := by
  obtain ⟨repository, now, writer⟩ := t
  cases writer with
  | registry r =>
    refine (System.books_persistRegistry _).trans ?_
    rw [Books.persist, if_pos (by exact persists)]
    rfl
  | initial call ctx user =>
    by_cases null : user = UserId.null
    · simp only [System.write, System.setInitial, null, if_true, System.books_finish,
        System.books_updateStore]
      simp [Writing.update?, Writing.initial?, Writing.persisted?, Books.update, System.books,
        Update.outcome]
    · cases known : s.roster.user user with
      | error f =>
        -- Nobody who is not known is set, and nothing is updated.
        simp [System.write, System.setInitial, null, known, Writing.update?, Writing.initial?,
          Writing.persisted?, System.books, Except.map, Except.toOption, System.finish, System.emit]
      | ok u =>
        simp only [System.write, System.setInitial, null, if_false, known, Except.map,
          System.books_finish, System.books_updateStore]
        simp [Writing.update?, Writing.initial?, Writing.persisted?, known, Except.toOption,
          Books.update, System.books, Update.outcome]

/-- A turn that finds a state to update: the change is made, and saved unless that fails. -/
theorem write_of_update {s : System} {t : Writing} {u : Update} {st : Snapshot}
    (persists : s.persists = true) (ready : s.store.Ready st u)
    (update : t.update? s.roster = some u) : (s.write t).store = ⟨u.change st, true⟩ ∧
      ((u.outcome s.store).fault = none → (s.write t).repository.Holds (u.change st)) := by
  have books := books_write s t persists
  rw [update] at books
  have repository : (s.write t).repository = (u.outcome s.store).repository :=
    congrArg Books.repository books
  refine ⟨(congrArg Books.store books).trans ready.carries.store, fun ok => ?_⟩
  rw [repository]
  exact ready.carries.saved ok

/-! ## Turns -/

/-- The registry that was persisted last. -/
def lastRegistry (ts : List Writing) : Option Registry := (ts.filterMap (·.persisted?)).getLast?

/-- The initial user that was set last. -/
def lastInitial (roster : Roster) (ts : List Writing) : Option UserId :=
  (ts.filterMap (·.initial? roster)).getLast?

/-- The state `st` with the registry that was persisted last and the initial user that was set
    last. -/
def latest (roster : Roster) (st : Snapshot) (ts : List Writing) : Snapshot where
  background := ((lastRegistry ts).map (·.entries)).getD st.background
  promoted := ((lastRegistry ts).map (·.promoted)).getD st.promoted
  counter := ((lastRegistry ts).map (·.counter)).getD st.counter
  initial := (lastInitial roster ts).getD st.initial
  savedAt := st.savedAt

/-- The updates that are made by turns. -/
def updates (roster : Roster) (ts : List Writing) : List Update := ts.filterMap (·.update? roster)

/-- What comes last of a list is what its last element gives, if it gives anything. -/
theorem getLast?_filterMap_snoc {α β : Type} (f : α → Option β) (as : List α) (a : α) :
    ((as ++ [a]).filterMap f).getLast? = (f a).or (as.filterMap f).getLast? := by
  rw [List.filterMap_append, List.getLast?_append]
  cases given : f a <;> simp [given]

/-- Of registry and initial user, the last of each counts, however they take turns. -/
theorem carried_writings (roster : Roster) (st : Snapshot) (ts : List Writing) :
    carried st (updates roster ts) = latest roster st ts := by
  induction ts using List.reverseRecOn with
  | nil => rfl
  | append_singleton ts t ih =>
    have snoc : carried st (updates roster (ts ++ [t])) =
        (t.update? roster).elim id (·.change) (latest roster st ts) := by
      rw [← ih, updates, List.filterMap_append, carried, List.foldl_append]
      cases update : t.update? roster <;> simp [update] <;> rfl
    have registry : lastRegistry (ts ++ [t]) = t.persisted?.or (lastRegistry ts) :=
      getLast?_filterMap_snoc ..
    have initial : lastInitial roster (ts ++ [t]) =
        (t.initial? roster).or (lastInitial roster ts) :=
      getLast?_filterMap_snoc ..
    -- The last turn replaces one of the two, and leaves the other as it was.
    rw [snoc, latest, latest, registry, initial]
    obtain ⟨repository, now, writer⟩ := t
    cases writer with
    | registry r => rfl
    | initial call ctx user =>
      cases set : Writing.initial? roster ⟨repository, now, .initial call ctx user⟩ with
      | none => simp [Writing.update?, Writing.persisted?, set]
      | some user => simp [Writing.update?, Writing.persisted?, set]

/-- Turns touch neither the users nor whether the registry is persisted. -/
theorem foldl_write {s : System} (persists : s.persists = true) (ts : List Writing) :
    (ts.foldl System.write s).roster = s.roster ∧ (ts.foldl System.write s).persists = true := by
  induction ts generalizing s with
  | nil => exact ⟨rfl, persists⟩
  | cons t ts ih =>
    have books := books_write s t persists
    obtain ⟨roster, on⟩ := ih ((congrArg Books.persists books).trans persists)
    exact ⟨roster.trans (congrArg Books.roster books), on⟩

/-- After turns, the next update finds what they carry. -/
theorem ready_foldl_write {s : System} {st : Snapshot} {ts : List Writing} {u : Update}
    (persists : s.persists = true)
    (ready : ∀ u' ∈ (updates s.roster ts ++ [u]).head?, s.store.Ready st u') :
    (ts.foldl System.write s).store.Ready (carried st (updates s.roster ts)) u := by
  induction ts generalizing s st with
  | nil => exact ready u rfl
  | cons t ts ih =>
    have books := books_write s t persists
    have roster : (s.write t).roster = s.roster := congrArg Books.roster books
    have persists' : (s.write t).persists = true := (congrArg Books.persists books).trans persists
    rw [updates, List.filterMap_cons] at ready ⊢
    rw [List.foldl_cons]
    cases update : t.update? s.roster with
    | none =>
      -- The store is as it was, so it is the next turn that loads the state.
      rw [update] at books ready
      have store : (s.write t).store = s.store := congrArg Books.store books
      exact roster ▸ ih persists' (by rwa [store, roster])
    | some u' =>
      rw [update] at ready
      have written := (write_of_update persists (ready u' rfl) update).1
      exact roster ▸ ih persists' fun u _ => Store.ready_of_loaded written u

/-- Once a state was loaded, each save that succeeds leaves in the repository what was loaded, with
    all updates since applied in order, also those whose own save has failed, and the same is
    cached. So however the registry and the choice of the initial user take turns, a save carries
    the registry that was persisted last and the initial user that was set last. An update whose
    load fails returns the fault and does nothing. -/
theorem saved_with_all_updates :
    (∀ (st : Snapshot) (us : List Update) (o : Store.Updated), Store.Made st us o →
      o.store.cache = carried st us ∧ (o.fault = none → o.repository.Holds (carried st us))) ∧
    (∀ (s : System) (st : Snapshot) (ts : List Writing) (t : Writing) (u : Update),
      s.persists = true → t.update? s.roster = some u →
      (∀ first ∈ (updates s.roster ts ++ [u]).head?, s.store.Ready st first) →
      let before := ts.foldl System.write s
      let after := before.write t
      after.store.cache = latest s.roster st (ts ++ [t]) ∧
      ((u.outcome before.store).fault = none →
        after.repository.Holds (latest s.roster st (ts ++ [t])))) ∧
    (∀ (s : Store) (u : Update) (f : Fault), s.loaded = false → u.repository.load = .error f →
      (u.outcome s).fault = some f ∧ (u.outcome s).store = s ∧
      (u.outcome s).repository = u.repository) := by
  refine ⟨fun st us o made => ?_, fun s st ts t u persists update ready => ?_,
    fun s u f unread failed => ?_⟩
  · exact ⟨congrArg Store.cache made.carried.store, made.carried.saved⟩
  · obtain ⟨roster, on⟩ := foldl_write persists ts
    obtain ⟨cached, saved⟩ := write_of_update on (ready_foldl_write persists ready)
      (roster.symm ▸ update)
    have all : u.change (carried st (updates s.roster ts)) = latest s.roster st (ts ++ [t]) := by
      rw [← carried_writings, updates, updates, List.filterMap_append, carried, carried,
        List.foldl_append]
      simp [update]
    rw [all] at cached saved
    exact ⟨congrArg Store.cache cached, saved⟩
  · rw [Store.outcome_of_unread unread failed]
    exact ⟨rfl, rfl, rfl⟩

namespace Retried

/-- A service that has loaded an empty state. -/
def system : System := { System.fresh Config.default with store := ⟨Snapshot.empty, true⟩ }

/-- The registry is persisted while saves fail. -/
def missed : Writing :=
  ⟨{ saveFault := some (.told "full") }, 1,
    .registry { maxRunning := 3, entries := [⟨10, 1⟩], counter := 1 }⟩

/-- Then the initial user is set. -/
def retry : Writing := ⟨{}, 2, .initial 1 {} UserId.system⟩

/-- The update of the initial user. -/
def update : Update := ⟨{}, none, 2, fun st => { st with initial := UserId.system }⟩

end Retried

open Retried in
/-- The save of the initial user carries the registry whose own save has failed. -/
theorem saved_of_retry : retry.update? system.roster = some update ∧
    (update.outcome (system.write missed).store).fault = none ∧
    ((system.write missed).write retry).repository.Holds
      ⟨[⟨10, 1⟩], UserId.null, 1, UserId.system, Stamp.unset⟩ := by
  have made : retry.update? system.roster = some update := by rfl
  have ok : (update.outcome (system.write missed).store).fault = none := by rfl
  have latest : latest system.roster Snapshot.empty [missed, retry] =
      ⟨[⟨10, 1⟩], UserId.null, 1, UserId.system, Stamp.unset⟩ := by rfl
  obtain ⟨_, saved⟩ :=
    saved_with_all_updates.2.1 system Snapshot.empty [missed] retry update rfl made
    fun u _ => Store.ready_of_loaded rfl u
  exact ⟨made, ok, latest ▸ saved ok⟩

end Service

end HeadUnit
