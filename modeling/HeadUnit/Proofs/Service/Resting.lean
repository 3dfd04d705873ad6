import HeadUnit.Proofs.Service.Alone
import HeadUnit.Proofs.Service.Busy
import HeadUnit.Proofs.Service.Order
import HeadUnit.Proofs.Service.Persistence
import HeadUnit.Proofs.Service.Updates

/-!
# A service at rest

Between two operations that are carried out alone a service *stands* (`System.Stands`): no call is
left, no desk is busy, and it is known who is in the foreground and who comes up at boot.

Nothing that goes on behind the calls disturbs that. A desk at rest stays at rest, so the
operating system does not switch (`Front.AtRest.passes`), and who comes up at boot stays cached
and recorded, whatever else is persisted (`Front.Remembers.passes`). What is left to say of an
operation that waits for no desk is what it makes of the books itself (`CarriesOut.stands`):

* `CarriesOut.consulted`, `CarriesOut.madeUser`: the vehicle is asked, and a user is created;
* `CarriesOut.recorded`: another user is to come up at boot.
-/

namespace HeadUnit

/-- The repository holds a state with this user to come up at boot, whether or not it can be loaded
    at the moment. -/
def Repository.Records (r : Repository) (id : UserId) : Prop := ∃ st, r.Holds st ∧ st.initial = id

/-- Whoever loads the state finds this user to come up at boot. -/
theorem Repository.Records.of_load {r : Repository} {id : UserId} (records : r.Records id)
    {st : Snapshot} (loaded : r.load = .ok st) : st.initial = id := by
  obtain ⟨st', ⟨t, holds⟩, rfl⟩ := records
  unfold Repository.load at loaded
  split at loaded
  · cases loaded
  · cases stored : r.medium with
    | memory old n =>
      rw [stored] at holds loaded
      have same : old = { st' with savedAt := t } := holds
      cases loaded
      rw [same]
    | file d =>
      rw [stored] at holds loaded
      subst holds
      rw [Medium.load, Disk.load, Snapshot.parse?_render] at loaded
      cases read : Stamp.parse? t.text.toList with
      | none => simp [read] at loaded
      | some t' =>
        simp only [read, Option.map_some, Except.ok.injEq] at loaded
        exact loaded ▸ rfl

namespace Service

open Switching (Desk)
open HeadUnit.Service.System

/-! ## Desks -/

/-- A desk that is not busy. -/
structure DeskRests (d : Desk) : Prop where
  rests : d.standing.Rests
  silent : d.out = []

/-- A move by which nobody asks for anything, and no commit ends. -/
def IsPassive (q : Switching.Move) : Prop := IsOwn q ∨ IsSetting q

namespace IsPassive

variable {q : Switching.Move} {d : Desk}

theorem unasked (passive : IsPassive q) (silent : d.out = []) :
    (Switching.Moment.mk d q).Unasked := by
  refine ⟨?_, fun v same => ?_, silent⟩
  · cases q <;> first | trivial | (rcases passive with own | setting <;> contradiction)
  · subst same
    rcases passive with own | setting <;> contradiction

theorem other (passive : IsPassive q) (v : Switching.View) (f : Option Fault) :
    q ≠ .committed v f := by
  rintro rfl
  rcases passive with own | setting <;> contradiction

end IsPassive

/-- A setting asks for nothing. -/
theorem out_of_setting {d : Desk} (silent : d.out = []) {q : Switching.Move}
    (setting : IsSetting q) : (d.move q).out = [] := by
  cases q with
  | endContext | setPanel => exact silent
  | start =>
    simp only [Desk.move, Desk.start]
    split
    · exact silent
    · exact silent
  | setTimeout t =>
    simp only [Desk.move, Desk.setTimeout]
    split
    · exact silent
    · exact silent
  | _ => exact setting.elim

namespace DeskRests

variable {d : Desk}

theorem idle (rests : DeskRests d) {c : Switching.Commit} : d.worker ≠ .committing c :=
  Desk.not_committing rests.rests.free

theorem move (rests : DeskRests d) {q : Switching.Move} (passive : IsPassive q) :
    DeskRests (Switching.Moment.mk d q).after :=
  ⟨(Switching.Moment.rests (passive.unasked rests.silent) rests.rests).1, rfl⟩

end DeskRests

/-- A setting of a silent desk is a move of it like others. -/
theorem Front.moveDesk_of_setting {x : Front} (silent : ∀ d ∈ x.books.desks, d.out = [])
    {q : Switching.Move} (setting : IsSetting q) (i : Nat) : x.moveDesk i q =
      x.withBooks { x.books with desks := x.books.desks.modify i (·.move q) } := by
  unfold Front.moveDesk
  cases here : x.books.desks[i]? with
  | none =>
    dsimp only
    rw [List.modify_eq_self (List.getElem?_eq_none_iff.1 here)]
    rfl
  | some d =>
    have out := out_of_setting (silent d (List.mem_iff_getElem?.2 ⟨i, here⟩)) setting
    have after : (Switching.Moment.mk d q).after = d.move q := by
      rw [Switching.Moment.after, Desk.take, ← out]
    have effects : (Switching.Moment.mk d q).effects = [] := out
    dsimp only
    rw [effects, Books.moveDesk]
    refine congrArg (fun ds => x.withBooks { x.books with desks := ds }) ?_
    refine List.ext_getElem? fun j => ?_
    rw [List.getElem?_modify, List.getElem?_modify]
    split
    · next own =>
      subst own
      rw [here]
      exact congrArg some after
    · rfl

/-! ## Fronts at rest -/

/-- No desk is busy, no call waits for one, and this user is in the foreground. -/
structure Front.AtRest (x : Front) (foreground : UserId) : Prop where
  deaf : x.IsDeaf
  desks : ∀ d ∈ x.books.desks, DeskRests d
  foreground : x.books.sessions.current = foreground

namespace Front.AtRest

variable {x y : Front} {foreground : UserId}

/-- Something else about the books changes. -/
theorem withBooks (rest : x.AtRest foreground) {b : Books} (desks : b.desks = x.books.desks)
    (sessions : b.sessions = x.books.sessions) : (x.withBooks b).AtRest foreground where
  deaf := rest.deaf
  desks := desks ▸ rest.desks
  foreground := (congrArg Sessions.current sessions).trans rest.foreground

/-- A call returns. -/
theorem finish (rest : x.AtRest foreground) (id : Nat) (r : Result) :
    (x.finish id r).AtRest foreground where
  deaf c mem := rest.deaf c (List.mem_of_mem_filter mem)
  desks := rest.desks
  foreground := rest.foreground

theorem moveDesk (rest : x.AtRest foreground) (i : Nat) {q : Switching.Move}
    (passive : IsPassive q) : (x.withBooks (x.books.moveDesk i q)).AtRest foreground where
  deaf := rest.deaf
  desks := mem_modify rest.desks fun d mem => (rest.desks d mem).move passive
  foreground := rest.foreground

theorem step (rest : x.AtRest foreground) (step : x.Step y) : y.AtRest foreground := by
  cases step with
  | found => exact rest.withBooks rfl rfl
  | recorded i u =>
    obtain ⟨_, _, changed⟩ := x.books.change_eq
      (x.books.registry.add u x.books.sessions.current)
    rw [changed]
    exact rest.withBooks rfl rfl
  | desk i q own =>
    rw [moveDesk_of_deaf rest.deaf]
    exact rest.moveDesk i (.inl own)
  | setting i q setting =>
    rw [← moveDesk_of_setting (fun d mem => (rest.desks d mem).silent) setting,
      moveDesk_of_deaf rest.deaf]
    exact rest.moveDesk i (.inr setting)
  | elapsed t => exact rest.withBooks rfl rfl
  | returned found gets => exact rest.finish _ _
  | created found creating response fault =>
    exact (rest.withBooks (b := { x.books with
      roster := (Provision.ratified x.books.roster _ response fault).roster }) rfl rfl).finish _ _

/-- The operating system switches for no desk. -/
theorem passes (rest : x.AtRest foreground) (passes : x.Passes y) : y.AtRest foreground := by
  cases passes with
  | aside steps =>
    induction steps with
    | refl => exact rest
    | tail _ next ih => exact ih.step next
  | switched here doing | failed f here doing =>
    -- Nobody waits for the operating system.
    exact absurd doing (rest.desks _ (List.mem_iff_getElem?.2 ⟨_, here⟩)).idle

theorem proceeds (rest : x.AtRest foreground) (proceeds : x.Proceeds y) : y.AtRest foreground := by
  induction proceeds with
  | refl => exact rest
  | tail _ next ih => exact ih.passes next

end Front.AtRest

/-! ## What is remembered -/

/-- The state is cached, and can be saved. This user comes up at boot; if `held`, the repository
    holds that too. -/
structure Books.Remembers (b : Books) (initial : UserId) (held : Prop) : Prop where
  loaded : b.store.loaded = true
  cached : b.store.cache.initial = initial
  saves : b.repository.CanSave
  records : held → b.repository.Records initial

namespace Books.Remembers

variable {b : Books} {initial : UserId} {held : Prop}

theorem mono (remembers : b.Remembers initial held) {held' : Prop} (less : held' → held) :
    b.Remembers initial held' :=
  { remembers with records := fun h => remembers.records (less h) }

/-- An update of the state is made, and saved. -/
theorem update (remembers : b.Remembers initial held) {change : Snapshot → Snapshot}
    {initial' : UserId} (sets : (change b.store.cache).initial = initial') :
    (b.update none change).Remembers initial' True ∧
      (b.store.update b.repository none b.now change).fault = none := by
  obtain ⟨r', saved⟩ := remembers.saves (change b.store.cache) b.now
  unfold Books.update Store.update
  rw [if_pos remembers.loaded]
  dsimp only
  rw [saved]
  exact ⟨⟨rfl, sets, Repository.canSave_of_saved saved,
    fun _ => ⟨_, Repository.holds_of_saved saved, sets⟩⟩, rfl⟩

/-- The registry is persisted, with the same user to come up at boot. -/
theorem change (remembers : b.Remembers initial held) (c : Registry.Change) :
    (b.change c).Remembers initial held := by
  have changed : Books.Remembers { b with registry := c.registry } initial held :=
    { remembers with }
  unfold Books.change Books.persist
  dsimp only
  split
  · split
    · exact (changed.update changed.cached).1.mono fun _ => trivial
    · exact changed
  · exact changed

theorem moveDesk (remembers : b.Remembers initial held) (i : Nat) (q : Switching.Move) :
    (b.moveDesk i q).Remembers initial held := { remembers with }

end Books.Remembers

/-- What is remembered stays so behind the calls. -/
theorem Front.Passes.remembers {x y : Front} {initial : UserId} {held : Prop} (passes : x.Passes y)
    (remembers : x.books.Remembers initial held) : y.books.Remembers initial held := by
  refine passes.keep (I := fun x => x.books.Remembers initial held) ?_ ?_ ?_ remembers
  · intro x y here step
    cases step with
    | found => exact { here with }
    | recorded => exact { here.change _ with }
    | desk i q => exact x.books_moveDesk i q ▸ here.moveDesk i q
    | setting | elapsed | returned | created => exact { here with }
  · exact fun _ here => { here with }
  · exact fun {x} i v fault here => x.books_moveDesk i _ ▸ here.moveDesk i _

theorem Front.Proceeds.remembers {x y : Front} {initial : UserId} {held : Prop}
    (proceeds : x.Proceeds y) (remembers : x.books.Remembers initial held) :
    y.books.Remembers initial held := by
  induction proceeds with
  | refl => exact remembers
  | tail _ next ih => exact next.remembers ih

/-! ## Standing services -/

/-- No call is left and no desk is busy. This user is in the foreground, and that one comes up at
    boot. -/
structure System.Stands (s : System) (foreground initial : UserId) (held : Prop) : Prop where
  run : ∃ h, IsRun h s
  alone : s.calls = []
  rests : ∀ r ∈ s.runs, r.desk.standing.Rests
  foreground : s.sessions.current = foreground
  remembers : s.books.Remembers initial held

namespace System.Stands

variable {s : System} {foreground initial : UserId} {held : Prop}

theorem silent (stands : s.Stands foreground initial held) : s.out = [] :=
  stands.run.elim fun _ run => run.out_eq_nil

theorem desks (stands : s.Stands foreground initial held) : ∀ d ∈ s.books.desks, DeskRests d := by
  obtain ⟨h, run⟩ := stands.run
  rintro _ mem
  obtain ⟨r, there, rfl⟩ := List.mem_map.1 mem
  obtain ⟨i, here⟩ := List.mem_iff_getElem?.1 there
  exact ⟨stands.rests r there, (run.serves here).out_eq_nil⟩

end System.Stands

section Operations

variable {ctx : Context} {op : Operation} {s t : System} {r : Result} {h : History}
  {foreground initial : UserId} {held : Prop}

/-- What is behind the calls is proper. -/
theorem Move.IsBehind.proper {m : Move} (behind : m.IsBehind) : m.Proper := by
  refine Move.proper_of_offered ?_
  cases m with
  | act a =>
    cases a with
    | perform => exact behind.elim
    | _ => rfl
  | _ => rfl

/-- An operation that offers no listener makes a run longer. -/
theorem CarriesOut.run {h₀ : History} (carries : CarriesOut ctx op s r h t) (run : IsRun h₀ s)
    (none : (Move.act (.perform ctx op)).offered? = none) : IsRun (h₀ ++ h) t := by
  obtain ⟨ms, behind, led⟩ := carries.moves
  have proper : ∀ m ∈ .act (.perform ctx op) :: ms, m.Proper := fun m mem =>
    (List.mem_cons.1 mem).elim (fun own => own ▸ Move.proper_of_offered none) fun mem =>
      (behind m mem).proper
  have longer := run.play proper
  rw [played_eq, led] at longer
  exact longer

/-- The front that a call has left is one of a service that stands. -/
theorem System.Stands.of_front {h₀ : History} (run : IsRun h₀ t) (alone : t.calls = [])
    {l : List (Nat × Result)} (rest : Front.AtRest ⟨t.books, t.calls, l⟩ foreground)
    (remembers : t.books.Remembers initial held) : t.Stands foreground initial held :=
  ⟨⟨h₀, run⟩, alone, fun _ mem => (rest.desks _ (List.mem_map_of_mem mem)).rests, rest.foreground,
    remembers⟩

/-- A service that stands carries out an operation that waits for no desk. -/
theorem CarriesOut.stands {Q : Result → Roster → Prop} {initial' : UserId} {held' : Prop}
    (carries : CarriesOut ctx op s r h t) (stands : s.Stands foreground initial held)
    (none : (Move.act (.perform ctx op)).offered? = none)
    (begun : (s.freshId.2.perform s.nextId ctx op).front.Waits s.nextId Q)
    (desks : (s.freshId.2.perform s.nextId ctx op).books.desks = s.books.desks)
    (sessions : (s.freshId.2.perform s.nextId ctx op).books.sessions = s.sessions)
    (remembers : (s.freshId.2.perform s.nextId ctx op).books.Remembers initial' held') :
    Q r t.roster ∧ t.Stands foreground initial' held' := by
  obtain ⟨h₀, run⟩ := stands.run
  obtain ⟨holds, alone, -⟩ := carries.ended begun
  have proceeds := carries.passes.2
  have rest : (s.freshId.2.perform s.nextId ctx op).front.AtRest foreground :=
    ⟨begun.isDeaf, desks ▸ stands.desks,
      (congrArg Sessions.current sessions).trans stands.foreground⟩
  exact ⟨holds, .of_front (carries.run run none) alone (rest.proceeds proceeds)
    (proceeds.remembers remembers)⟩

/-- A call returns at once. -/
theorem Front.Waits.of_finish {x : Front} {id : Nat} {Q : Result → Roster → Prop}
    (alone : x.calls = []) (silent : x.returned = []) (holds : Q r x.books.roster) :
    (x.finish id r).Waits id Q :=
  .ended (by simp [Front.finish, alone]) (by simp [Front.finish, silent]) holds

theorem System.Stands.returned (stands : s.Stands foreground initial held) :
    s.front.returned = [] := by
  simp [front, stands.silent]

/-! ### Asking, creating, recording -/

/-- The vehicle is asked who should come up, and says so or not. -/
theorem CarriesOut.consulted {type : Int64} {timeout : Duration}
    (carries : CarriesOut ctx (.initialInfo type timeout) s r h t)
    (stands : s.Stands foreground initial held) :
    (∃ r', r = .initial r') ∧ t.Stands foreground initial held := by
  have books : (s.freshId.2.perform s.nextId ctx (.initialInfo type timeout)).books = s.books :=
    books_initialInfo ..
  have begun : (s.freshId.2.perform s.nextId ctx (.initialInfo type timeout)).front.Waits s.nextId
      fun r _ => ∃ r', r = .initial r' := by
    dsimp only [perform]
    unfold initialInfo
    split
    · rw [front_finish]
      exact .of_finish stands.alone stands.returned ⟨_, rfl⟩
    · rw [(silent_askVehicle ..).same_front rfl, front_await]
      refine .pending (c := ⟨s.nextId, none, .consulting⟩) ?_ rfl stands.returned id ?_ nofun
      · exact congrArg (· ++ _) stands.alone
      · intro r gets
        cases r with
        | initial r' => exact ⟨r', rfl⟩
        | _ => exact gets.elim
  exact carries.stands stands rfl begun (by rw [books]) (by rw [books]; rfl)
    (books ▸ stands.remembers)

/-- A user is created or not. -/
theorem CarriesOut.madeUser {name kind : String} {flags : Flags} {timeout : Duration}
    (carries : CarriesOut ctx (.createUser name kind flags timeout) s r h t)
    (stands : s.Stands foreground initial held) :
    (∃ r', r = .create r' ∧ Provision.Ends (Provision.create s.roster s.sessions.current
      s.capabilities.create name kind flags) r' t.roster) ∧ t.Stands foreground initial held := by
  have books : (s.freshId.2.perform s.nextId ctx (.createUser name kind flags timeout)).books =
      _ := books_created ..
  have begun : (s.freshId.2.perform s.nextId ctx (.createUser name kind flags timeout)).front.Waits
      s.nextId _ :=
    waits_created stands.alone stands.silent
      (if timeout ≤ 0 then s.provisionTimeout else timeout)
      (Provision.create s.roster s.sessions.current s.capabilities.create name kind flags)
  exact carries.stands stands rfl begun (by rw [books]; rfl) (by rw [books]; rfl)
    (books ▸ { stands.remembers with })

/-- A user that is known is recorded as the one to come up at boot. -/
theorem CarriesOut.recorded {user : UserId} (carries : CarriesOut ctx (.setInitial user) s r h t)
    (stands : s.Stands foreground initial held) (live : ctx.gone = none)
    (known : s.roster.Knows user) :
    (r = .status none ∧ t.roster = s.roster) ∧ t.Stands foreground user True := by
  let change (st : Snapshot) : Snapshot := { st with initial := user }
  -- The state is cached, so the update is made, and the repository lets it be saved.
  have sets : (change s.books.store.cache).initial = user := rfl
  obtain ⟨updated, ok⟩ := stands.remembers.update sets
  have performs : s.freshId.2.perform s.nextId ctx (.setInitial user) =
      (s.freshId.2.updateStore none fun st => { st with initial := user }).1.finish s.nextId
        (.status none) := by
    obtain ⟨u, found⟩ := Option.isSome_iff_exists.1 known
    have named : s.freshId.2.roster.user user = .ok u := by
      unfold Roster.user
      rw [show s.freshId.2.roster.find? user = some u from found]
    have checked : (if user = UserId.null then .ok ()
        else (Except.ok u : Except Fault User).map fun _ => ()) = .ok () := by
      split
      · rfl
      · rfl
    dsimp only [perform]
    unfold setInitial
    rw [named, live, checked]
    exact congrArg (fun fault => finish _ s.nextId (.status fault)) ok
  have silent := sparing_silent.updateStore s.freshId.2 none fun st => { st with initial := user }
  have begun : (s.freshId.2.perform s.nextId ctx (.setInitial user)).front.Waits s.nextId
      fun r roster => r = .status none ∧ roster = s.roster := by
    rw [performs, front_finish, silent.front_eq (books_updateStore ..)]
    exact .of_finish stands.alone stands.returned ⟨rfl, rfl⟩
  have books : (s.freshId.2.perform s.nextId ctx (.setInitial user)).books =
      s.books.update none fun st => { st with initial := user } := by
    rw [performs, books_finish, books_updateStore]
    rfl
  exact carries.stands stands rfl begun (by rw [books]; rfl) (by rw [books]; rfl) (books ▸ updated)

end Operations

end Service

end HeadUnit
