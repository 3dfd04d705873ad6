import HeadUnit.Proofs.Provision.Run
import HeadUnit.Proofs.Service.Resting
import HeadUnit.Service.Boot

/-!
# Booting brings up what it reports

A service that stands carries out one operation after the other (`Boots`), as `Booting.next?` and
`Booting.resume` say, while the vehicle answers what it likes and whenever it likes.

Of these only the switch has to do with desks. How far it has come is one of three things
(`Front.Switches`): the desk is busy with the request, or waits for the operating system, or rests
again after the call has returned. If the operating system switches, it does so for this desk and
to the target (`Front.Switches.passes`), and then the result cannot be a failure any more. So the
result tells who is in the foreground (`CarriesOut.switched`).

* `Boots.wishes`, `Boots.brings`: the operations of booting and what they leave;
* `boot_brings_up`: the main result.
-/

namespace HeadUnit

/-- A creation that succeeds tells who was created. -/
theorem Provision.Ends.user_of_successful {r roster : Roster} {st : Step Creation}
    {result : CreateResult} (ends : Ends st result roster) (begins : Begins r st)
    (success : result.status = .successful) : ∃ u, result.user = some u := by
  cases ends with
  | done value =>
    cases begins with
    | refused _ value' failed =>
      cases value.symm.trans value'
      exact absurd success failed
    | made u _ message value' =>
      cases value.symm.trans value'
      exact ⟨u, rfl⟩
    | awaits _ _ _ value' => cases value.symm.trans value'
  | @ratified user _ _ response fault =>
    cases fault with
    | some f => cases success
    | none =>
      unfold Provision.ratified at success ⊢
      dsimp only at success ⊢
      split at success
      · next approved =>
        rw [if_pos approved]
        exact ⟨user, rfl⟩
      · cases success

namespace Service

open Switching (Desk)
open HeadUnit.Service.System

/-! ## Desks that move -/

namespace Books

variable {b : Books} {i j : Nat} {q : Switching.Move}

theorem desk_moved {d : Desk} (here : b.desks[i]? = some d) :
    (b.moveDesk i q).desks[i]? = some (Switching.Moment.mk d q).after := by
  simp [moveDesk, here]

theorem desk_unmoved (other : i ≠ j) : (b.moveDesk i q).desks[j]? = b.desks[j]? := by
  simp [moveDesk, other]

end Books

/-! ## A switch that is carried out alone -/

namespace Front

variable {x y : Front} {k : Nat} {deadline : Option Int} {es : List Switching.Effect}

/-- Where a single call waits for a switch, nothing but results is heard. -/
theorem Hears.eq_of_switching {e : Switching.Effect} (hears : x.Hears e y)
    (calls : x.calls = [⟨k, deadline, .switching⟩]) (none : e.result? = none) : y = x := by
  cases hears with
  | switched => cases none
  | posted found =>
    rw [call?, calls] at found
    cases List.mem_singleton.1 (List.mem_of_find?_eq_some found)
  | passed => rfl

theorem foldl_hear_of_none (calls : x.calls = [⟨k, deadline, .switching⟩])
    (none : es.filterMap (·.result?) = []) : es.foldl hear x = x := by
  induction es with
  | nil => rfl
  | cons e es ih =>
    cases result : e.result? with
    | none =>
      rw [List.filterMap_cons_none result] at none
      rw [List.foldl_cons, (x.hears e).eq_of_switching calls result]
      exact ih none
    | some r =>
      rw [List.filterMap_cons_some result] at none
      cases none

/-- The call returns with the result, and nothing is heard after that. -/
theorem foldl_hear_of_one {r : SwitchResult} (calls : x.calls = [⟨k, deadline, .switching⟩])
    (one : es.filterMap (·.result?) = [(k, r)]) : es.foldl hear x = x.finish k (.switch r) := by
  induction es with
  | nil => cases one
  | cons e es ih =>
    cases result : e.result? with
    | none =>
      rw [List.filterMap_cons_none result] at one
      rw [List.foldl_cons, (x.hears e).eq_of_switching calls result]
      exact ih one
    | some r' =>
      rw [List.filterMap_cons_some result] at one
      cases e with
      | reply ticket answer =>
        cases result
        obtain ⟨rfl, rfl⟩ := Prod.mk.inj (List.cons.inj one).1
        have found : x.call? ticket = some ⟨ticket, deadline, .switching⟩ := by
          simp [call?, calls]
        have told : x.hear (.reply ticket answer) = x.finish ticket (.switch answer) := by
          simp only [hear, found]
        have deaf : (x.finish ticket (.switch answer)).IsDeaf := by
          intro c mem
          simp [finish, calls] at mem
        -- No call is left that could hear the rest.
        rw [List.foldl_cons, told]
        exact foldl_hear_of_deaf deaf es
      | _ => cases result

variable {i : Nat} {d : Desk} {q : Switching.Move}

/-- A desk makes a move that gives no result. -/
theorem moveDesk_of_none (calls : x.calls = [⟨k, deadline, .switching⟩])
    (here : x.books.desks[i]? = some d)
    (none : (Switching.Moment.mk d q).effects.filterMap (·.result?) = []) :
    x.moveDesk i q = x.withBooks (x.books.moveDesk i q) := by
  unfold moveDesk
  rw [here]
  exact foldl_hear_of_none (x := x.withBooks (x.books.moveDesk i q)) calls none

/-- A desk makes a move that gives the result. -/
theorem moveDesk_of_one {r : SwitchResult} (calls : x.calls = [⟨k, deadline, .switching⟩])
    (here : x.books.desks[i]? = some d)
    (one : (Switching.Moment.mk d q).effects.filterMap (·.result?) = [(k, r)]) :
    x.moveDesk i q = (x.withBooks (x.books.moveDesk i q)).finish k (.switch r) := by
  unfold moveDesk
  rw [here]
  exact foldl_hear_of_one (x := x.withBooks (x.books.moveDesk i q)) calls one

end Front

/-- The call `k` waits for a switch, with which the desk `d` deals, the one of the run `i`. All
    other desks rest. -/
structure Front.Attends (x : Front) (k : Nat) (roster : Roster) (foreground : UserId) (i : Nat)
    (d : Desk) : Prop where
  calls : ∃ deadline, x.calls = [⟨k, deadline, .switching⟩]
  returned : x.returned = []
  here : x.books.desks[i]? = some d
  silent : d.out = []
  others : ∀ j d', i ≠ j → x.books.desks[j]? = some d' → DeskRests d'
  roster : x.books.roster = roster
  foreground : x.books.sessions.current = foreground

/-- How far a switch to `target` has come that is carried out alone. -/
inductive Front.Switches (x : Front) (k : Nat) (target : UserId) (roster : Roster)
    (foreground : UserId) : Prop
  | bears {i : Nat} {d : Desk} (attends : x.Attends k roster foreground i d)
      (bears : d.standing.Bears k target) (known : roster.Knows target)
  | commits {i : Nat} {d : Desk} {c : Switching.Commit}
      (attends : x.Attends k roster foreground i d) (commits : d.standing.Commits k target c)
      (known : roster.Knows target)
  | ended {r : SwitchResult} (waits : x.Waits k fun r' roster' => r' = .switch r ∧ roster' = roster)
      (rest : x.AtRest (if r.status.isSuccess then target else foreground))
      (known : r.status.isSuccess = true → roster.Knows target)

namespace Front.Attends

variable {x y : Front} {k : Nat} {target foreground : UserId} {roster : Roster} {i : Nat} {d : Desk}
  {q : Switching.Move}

theorem out_eq_nil (attends : x.Attends k roster foreground i d) :
    ∀ d' ∈ x.books.desks, d'.out = [] := by
  intro d' mem
  obtain ⟨j, there⟩ := List.mem_iff_getElem?.1 mem
  by_cases own : i = j
  · subst own
    cases attends.here.symm.trans there
    exact attends.silent
  · exact (attends.others j d' own there).silent

/-- Something else about the books changes. -/
theorem withBooks (attends : x.Attends k roster foreground i d) {b : Books}
    (desks : b.desks = x.books.desks) (users : b.roster = x.books.roster) {foreground' : UserId}
    (current : b.sessions.current = foreground') :
    (x.withBooks b).Attends k roster foreground' i d :=
  ⟨attends.calls, attends.returned, desks ▸ attends.here, attends.silent, desks ▸ attends.others,
    users.trans attends.roster, current⟩

/-- Another desk makes a move. -/
theorem aside (attends : x.Attends k roster foreground i d) {j : Nat} (other : i ≠ j)
    (passive : IsPassive q) : (x.moveDesk j q).Attends k roster foreground i d := by
  obtain ⟨deadline, calls⟩ := attends.calls
  cases there : x.books.desks[j]? with
  | none =>
    unfold moveDesk
    rw [there]
    exact attends
  | some d' =>
    have rests := attends.others j d' other there
    rw [moveDesk_of_none calls there
      (Switching.Moment.rests (passive.unasked rests.silent) rests.rests).2]
    refine ⟨⟨deadline, calls⟩, attends.returned,
      (Books.desk_unmoved other.symm).trans attends.here, attends.silent, fun n e apart found => ?_,
      attends.roster, attends.foreground⟩
    by_cases own : j = n
    · subst own
      cases (Books.desk_moved there).symm.trans found
      exact rests.move passive
    · exact attends.others n e apart ((Books.desk_unmoved own).symm.trans found)

/-- The desk makes a move that gives no result. -/
theorem goOn (attends : x.Attends k roster foreground i d)
    (none : (Switching.Moment.mk d q).effects.filterMap (·.result?) = []) :
    (x.moveDesk i q).Attends k roster foreground i (Switching.Moment.mk d q).after := by
  obtain ⟨deadline, calls⟩ := attends.calls
  rw [moveDesk_of_none calls attends.here none]
  exact ⟨⟨deadline, calls⟩, attends.returned, Books.desk_moved attends.here, rfl,
    fun n e apart found => attends.others n e apart ((Books.desk_unmoved apart).symm.trans found),
    attends.roster, attends.foreground⟩

/-- The desk makes a move that gives the result, and rests. -/
theorem close (attends : x.Attends k roster foreground i d) {r : SwitchResult}
    (one : (Switching.Moment.mk d q).effects.filterMap (·.result?) = [(k, r)])
    (rests : (Switching.Moment.mk d q).after.standing.Rests) {foreground' : UserId}
    (current : foreground = if r.status.isSuccess then target else foreground')
    (known : r.status.isSuccess = true → roster.Knows target) :
    (x.moveDesk i q).Switches k target roster foreground' := by
  obtain ⟨deadline, calls⟩ := attends.calls
  rw [moveDesk_of_one calls attends.here one]
  have left : ((x.withBooks (x.books.moveDesk i q)).finish k (.switch r)).calls = [] := by
    simp [finish, Front.withBooks, calls]
  have told : ((x.withBooks (x.books.moveDesk i q)).finish k (.switch r)).returned =
      [(k, .switch r)] := by
    simp [finish, Front.withBooks, attends.returned]
  refine .ended (.ended left told ⟨rfl, attends.roster⟩)
    ⟨isDeaf_of_alone left, fun d' mem => ?_, ?_⟩ known
  · obtain ⟨j, found⟩ := List.mem_iff_getElem?.1 mem
    have found : (x.books.moveDesk i q).desks[j]? = some d' := found
    by_cases own : i = j
    · subst own
      cases (Books.desk_moved attends.here).symm.trans found
      exact ⟨rests, rfl⟩
    · exact attends.others j d' own ((Books.desk_unmoved own).symm.trans found)
  · exact attends.foreground.trans current

/-- Either the desk makes a move, or it is as far as before. -/
theorem step (attends : x.Attends k roster foreground i d) (step : x.Step y) :
    y.Attends k roster foreground i d ∨ ∃ q, IsPassive q ∧ y = x.moveDesk i q := by
  obtain ⟨deadline, calls⟩ := attends.calls
  -- Whatever moves a desk, it is either this one or another one that rests.
  have moved (j : Nat) {q : Switching.Move} (passive : IsPassive q) :
      (x.moveDesk j q).Attends k roster foreground i d ∨
        ∃ q', IsPassive q' ∧ x.moveDesk j q = x.moveDesk i q' := by
    by_cases own : i = j
    · exact .inr ⟨q, passive, by rw [own]⟩
    · exact .inl (attends.aside own passive)
  cases step with
  | found =>
    refine .inl (attends.withBooks ?_ ?_ ?_)
    · rfl
    · rfl
    · exact attends.foreground
  | recorded j u =>
    obtain ⟨_, _, changed⟩ := x.books.change_eq
      (x.books.registry.add u x.books.sessions.current)
    rw [changed]
    refine .inl (attends.withBooks ?_ ?_ ?_)
    · rfl
    · rfl
    · exact attends.foreground
  | desk j q own => exact moved j (.inl own)
  | setting j q setting =>
    rw [← moveDesk_of_setting attends.out_eq_nil setting]
    exact moved j (.inr setting)
  | elapsed t =>
    refine .inl (attends.withBooks ?_ ?_ ?_)
    · rfl
    · rfl
    · exact attends.foreground
  | returned found gets =>
    obtain rfl := Waits.eq_of_found calls found
    exact gets.elim
  | created found creating =>
    obtain rfl := Waits.eq_of_found calls found
    cases creating

/-- While the operating system switches, nothing but the commit ends that. -/
theorem steps {c : Switching.Commit} (attends : x.Attends k roster foreground i d)
    (commits : d.standing.Commits k target c) (steps : x.Steps y) :
    ∃ d', y.Attends k roster foreground i d' ∧ d'.standing.Commits k target c := by
  induction steps with
  | refl => exact ⟨d, attends, commits⟩
  | tail _ next ih =>
    obtain ⟨d', attends, commits⟩ := ih
    rcases attends.step next with same | ⟨q, passive, rfl⟩
    · exact ⟨d', same, commits⟩
    · obtain ⟨on, none⟩ :=
        Switching.Moment.commits (passive.unasked attends.silent) passive.other commits
      exact ⟨_, attends.goOn none, on⟩

/-- If the operating system switches for a desk, it is this one. -/
theorem eq_of_committing (attends : x.Attends k roster foreground i d) {j : Nat} {d' : Desk}
    {c : Switching.Commit} (here : x.books.desks[j]? = some d')
    (doing : d'.worker = .committing c) :
    j = i ∧ d' = d := by
  by_cases own : i = j
  · subst own
    exact ⟨rfl, Option.some.inj (here.symm.trans attends.here)⟩
  · exact absurd doing (attends.others j d' own here).idle

end Front.Attends

namespace Front.Switches

variable {x y : Front} {k : Nat} {target foreground : UserId} {roster : Roster}

theorem step (switches : x.Switches k target roster foreground) (step : x.Step y) :
    y.Switches k target roster foreground := by
  cases switches with
  | bears attends bears known =>
    rcases attends.step step with same | ⟨q, passive, rfl⟩
    · exact .bears same bears known
    · rcases Switching.Moment.bears (passive.unasked attends.silent) bears with
        ⟨goes, none⟩ | ⟨rests, r, one, failed⟩
      · rcases goes with bears | ⟨c, commits⟩
        · exact .bears (attends.goOn none) bears known
        · exact .commits (attends.goOn none) commits known
      · exact attends.close one rests (by rw [failed]; rfl) fun _ => known
  | commits attends commits known =>
    obtain ⟨d', attends, commits⟩ := attends.steps commits (.single step)
    exact .commits attends commits known
  | ended waits rest known => exact .ended (waits.step step) (rest.step step) known

/-- A desk that waits for the operating system is told how the switch has ended. -/
theorem committed {i : Nat} {d : Desk} {c : Switching.Commit} {v : Switching.View}
    {fault : Option Fault} {current : UserId} (attends : x.Attends k roster current i d)
    (commits : d.standing.Commits k target c) (known : roster.Knows target)
    (switched : current = if fault.isNone then target else foreground) :
    (x.moveDesk i (.committed v fault)).Switches k target roster foreground := by
  obtain ⟨rests, r, one, success⟩ := Switching.Moment.committed attends.silent commits
  exact attends.close one rests (success ▸ switched) fun _ => known

theorem passes (switches : x.Switches k target roster foreground) (passes : x.Passes y) :
    y.Switches k target roster foreground := by
  cases passes with
  | aside steps =>
    induction steps with
    | refl => exact switches
    | tail _ next ih => exact ih.step next
  | @switched _ _ _ sessions _ here doing current steps =>
    cases switches with
    | bears attends bears =>
      obtain ⟨rfl, rfl⟩ := attends.eq_of_committing here doing
      exact absurd doing (Desk.not_committing bears.free)
    | commits attends commits known =>
      obtain ⟨rfl, rfl⟩ := attends.eq_of_committing here doing
      cases doing.symm.trans commits.worker
      -- The target is in the foreground, and the desk has yet to be told.
      have moved := attends.withBooks (b := { x.books with sessions := sessions }) rfl rfl
        (current.trans commits.serves.target_eq)
      obtain ⟨d', attends, commits⟩ := moved.steps commits steps
      exact committed attends commits known rfl
    | ended waits rest =>
      exact absurd doing (rest.desks _ (List.mem_iff_getElem?.2 ⟨_, here⟩)).idle
  | failed f here doing =>
    cases switches with
    | bears attends bears =>
      obtain ⟨rfl, rfl⟩ := attends.eq_of_committing here doing
      exact absurd doing (Desk.not_committing bears.free)
    | commits attends commits known =>
      obtain ⟨rfl, rfl⟩ := attends.eq_of_committing here doing
      exact committed attends commits known rfl
    | ended waits rest =>
      exact absurd doing (rest.desks _ (List.mem_iff_getElem?.2 ⟨_, here⟩)).idle

theorem proceeds (switches : x.Switches k target roster foreground) (proceeds : x.Proceeds y) :
    y.Switches k target roster foreground := by
  induction proceeds with
  | refl => exact switches
  | tail _ next ih => exact ih.passes next

end Front.Switches

section Operations

variable {ctx : Context} {op : Operation} {s t : System} {r : Result} {h : History}
  {foreground initial target : UserId} {held : Prop} {timeout : Duration}

/-- A switch begins with a request to the desk of the published run. -/
theorem front_switchUser {i : Nat} (published : s.published = some i) (live : ctx.gone = none) :
    (s.freshId.2.perform s.nextId ctx (.switchUser target timeout)).front =
      Front.moveDesk { s.front with
        calls := s.front.calls ++ [⟨s.nextId, ctx.deadline, .switching⟩] }
        i (.request s.view (.caller s.nextId) s.nextId target timeout) := by
  have published : s.freshId.2.published = some i := published
  dsimp only [perform]
  unfold switchUser
  rw [published, live]
  exact front_onDesk (s.freshId.2.await s.nextId ctx.deadline .switching) i
    (.request s.view (.caller s.nextId) s.nextId target timeout)

/-- The request is turned down at once, or the desk is busy with it. -/
theorem System.Stands.switches (stands : s.Stands foreground initial held)
    (live : ctx.gone = none) :
    (s.freshId.2.perform s.nextId ctx (.switchUser target timeout)).front.Switches s.nextId target
      s.roster foreground ∧
    (s.freshId.2.perform s.nextId ctx (.switchUser target timeout)).front.books.Remembers initial
      held := by
  cases published : s.published with
  | none =>
    have performs : s.freshId.2.perform s.nextId ctx (.switchUser target timeout) =
        s.freshId.2.finish s.nextId (.switch notRunningResult) := by
      have published : s.freshId.2.published = none := published
      dsimp only [perform]
      unfold switchUser
      rw [published]
    have rest : s.front.AtRest foreground :=
      ⟨Front.isDeaf_of_alone stands.alone, stands.desks, stands.foreground⟩
    rw [performs, front_finish]
    exact ⟨.ended (.of_finish stands.alone stands.returned ⟨rfl, rfl⟩) (rest.finish ..) nofun,
      stands.remembers⟩
  | some i =>
    obtain ⟨h₀, run⟩ := stands.run
    have last : i + 1 = s.runs.length := run.orderly.last_of_published published
    obtain ⟨d, here⟩ : ∃ d, s.books.desks[i]? = some d :=
      ⟨_, List.getElem?_eq_getElem (by simp [books]; omega)⟩
    have rests := stands.desks d (List.mem_iff_getElem?.2 ⟨i, here⟩)
    have attends : Front.Attends { s.front with
        calls := s.front.calls ++ [⟨s.nextId, ctx.deadline, .switching⟩] } s.nextId s.roster
        foreground i d :=
      ⟨⟨ctx.deadline, congrArg (· ++ _) stands.alone⟩, stands.returned, here, rests.silent,
        fun j d' _ found => stands.desks d' (List.mem_iff_getElem?.2 ⟨j, found⟩), rfl,
        stands.foreground⟩
    rw [front_switchUser published live, Front.books_moveDesk]
    refine ⟨?_, stands.remembers.moveDesk ..⟩
    rcases Switching.Moment.requested rests.silent rests.rests s.view (.caller s.nextId) s.nextId
        target timeout with
      ⟨rests, r, one, success⟩ | ⟨bears, none, known⟩
    · refine attends.close one rests ?_ fun ok => (success ok).2
      split
      · next ok => exact stands.foreground.symm.trans (success ok).1.symm
      · rfl
    · exact .bears (attends.goOn none) bears known

/-- A switch that is carried out alone returns a result. If it succeeds, the target is known and in
    the foreground; else the foreground user is the one it was before. -/
theorem CarriesOut.switched (carries : CarriesOut ctx (.switchUser target timeout) s r h t)
    (stands : s.Stands foreground initial held) (live : ctx.gone = none) :
    ∃ r' : SwitchResult, r = .switch r' ∧ t.roster = s.roster ∧
      t.Stands (if r'.status.isSuccess then target else foreground) initial held ∧
      (r'.status.isSuccess = true → s.roster.Knows target) := by
  obtain ⟨h₀, run⟩ := stands.run
  have proceeds := carries.passes.2
  obtain ⟨begun, remembers⟩ := stands.switches live
  have switches := begun.proceeds proceeds
  have remembers : t.books.Remembers initial held := proceeds.remembers remembers
  have told := carries.returns
  cases switches with
  | bears attends | commits attends =>
    rw [show History.returned h = [] from attends.returned] at told
    cases told
  | @ended r' waits rest known =>
    cases waits with
    | pending calls own returned =>
      rw [show History.returned h = [] from returned] at told
      cases told
    | ended calls returned holds =>
      rw [show History.returned h = _ from returned] at told
      cases List.mem_singleton.1 told
      obtain ⟨rfl, roster⟩ := holds
      exact ⟨r', rfl, roster, .of_front (carries.run run rfl) calls rest remembers, known⟩

end Operations

/-! ## Booting -/

/-- Booting goes on from `b` until a user is reported: the operations that are carried out one
    after the other, with their results, what happens in the meantime, and the system and the
    user reported in the end. -/
inductive Boots (ctx : Context) (drivers : List UserId) :
    Booting → System → List (Operation × Result) → History → System → UserId → Prop
  | done {s : System} {user : UserId} : Boots ctx drivers (.done user) s [] [] s user
  | next {b : Booting} {op : Operation} {s t u : System} {r : Result} {h h' : History}
      {acts : List (Operation × Result)} {user : UserId} (next : b.next? = some op)
      (carries : CarriesOut ctx op s r h t)
      (rest : Boots ctx drivers (b.resume t drivers r).1 t acts h' u user) :
      Boots ctx drivers b s ((op, r) :: acts) (h ++ h') u user

namespace Booting

/-- Whom booting tries to bring up: the user that is wanted, else the one that is recorded, else
    the first driver. -/
def tried (wanted initial : UserId) (drivers : List UserId) : UserId :=
  ((wanted :: initial :: drivers.take 1).find? (· != UserId.null)).getD UserId.null

theorem choose_eq (s : System) (drivers : List UserId) (wanted : UserId) :
    choose s drivers wanted =
      if tried wanted s.initialUser drivers = UserId.null then done UserId.null
      else switching (tried wanted s.initialUser drivers) := by
  unfold choose tried
  by_cases wants : wanted = UserId.null
  · by_cases records : s.initialUser = UserId.null
    · cases drivers with
      | nil => simp [wants, records]
      | cons first others => by_cases none : first = UserId.null <;> simp [wants, records, none]
    · simp [wants, records]
  · simp [wants]

theorem resume_switching (s : System) (drivers : List UserId) (target : UserId)
    (r : SwitchResult) : (resume s drivers (switching target) (.switch r)).1 =
      if r.status.isSuccess then recording target else done UserId.null := by
  dsimp only [resume]
  split
  · rfl
  · rfl

/-- The operations by which it is found out whom the vehicle wants, with their results; it is
    `UserId.null` if there is nobody. -/
inductive Wishes : List (Operation × Result) → UserId → Prop
  /-- The vehicle does not say. -/
  | silent {f : Fault} : Wishes [(.initialInfo requestType 0, .initial (.error f))] UserId.null
  | switch {info : InitialInfo} (wants : info.action = .switch) :
      Wishes [(.initialInfo requestType 0, .initial (.ok info))] info.user
  /-- The user is created first. -/
  | created {info : InitialInfo} (wants : info.action = .create) {u : User} {message : String} :
      Wishes [(.initialInfo requestType 0, .initial (.ok info)),
        (.createUser info.name Kind.full info.flags 0,
          .create ⟨.successful, some u, message⟩)] u.id
  | notCreated {info : InitialInfo} (wants : info.action = .create) {r : CreateResult}
      (failed : r.status ≠ .successful) :
      Wishes [(.initialInfo requestType 0, .initial (.ok info)),
        (.createUser info.name Kind.full info.flags 0, .create r)] UserId.null
  /-- The vehicle leaves it to the head unit. -/
  | none {info : InitialInfo} (other : info.action ≠ .switch) (old : info.action ≠ .create) :
      Wishes [(.initialInfo requestType 0, .initial (.ok info))] UserId.null

/-- The operations by which `user` is brought up, with their results, and who is reported then. -/
inductive BringsUp (user : UserId) : List (Operation × Result) → UserId → Prop
  | nobody (none : user = UserId.null) : BringsUp user [] UserId.null
  | failed (some : user ≠ UserId.null) {r : SwitchResult} (failed : r.status.isSuccess = false) :
      BringsUp user [(.switchUser user 0, .switch r)] UserId.null
  | done (some : user ≠ UserId.null) {r : SwitchResult} (done : r.status.isSuccess = true) :
      BringsUp user [(.switchUser user 0, .switch r), (.setInitial user, .status none)] user

end Booting

/-- What is left of booting: a service as it was before, or one with the user that is reported. -/
inductive Leaves (foreground initial : UserId) (held : Prop) (t : System) : UserId → Prop
  | before (stands : t.Stands foreground initial held) :
      Leaves foreground initial held t UserId.null
  | up {user : UserId} (some : user ≠ UserId.null) (known : t.roster.Knows user)
      (stands : t.Stands user user True) : Leaves foreground initial held t user

section Boots

open Booting

variable {ctx : Context} {drivers : List UserId} {s t : System} {acts : List (Operation × Result)}
  {h : History} {foreground initial wanted user : UserId} {held : Prop}

/-- Somebody is brought up, or nobody. -/
theorem Boots.brings (boots : Boots ctx drivers (choose s drivers wanted) s acts h t user)
    (stands : s.Stands foreground initial held) (live : ctx.gone = none) :
    BringsUp (tried wanted initial drivers) acts user ∧ Leaves foreground initial held t user := by
  have recorded : s.initialUser = initial := stands.remembers.cached
  rw [choose_eq, recorded] at boots
  -- From here on it does not matter how the target was found.
  generalize tried wanted initial drivers = target at boots
  split at boots
  · next none =>
    cases boots with
    | done => exact ⟨.nobody none, .before stands⟩
    | next next => cases next
  · next some =>
    cases boots with
    | next next carries rest =>
      cases next
      obtain ⟨r, rfl, roster, stands, known⟩ := carries.switched stands live
      rw [resume_switching] at rest
      cases success : r.status.isSuccess with
      | false =>
        rw [success] at stands rest
        cases rest with
        | done => exact ⟨.failed some success, .before stands⟩
        | next next => cases next
      | true =>
        rw [success] at stands rest
        cases rest with
        | next next carries rest =>
          cases next
          have known := roster ▸ known success
          obtain ⟨⟨rfl, same⟩, stands⟩ := carries.recorded stands live known
          cases rest with
          | done => exact ⟨.done some success, .up some (same ▸ known) stands⟩
          | next next => cases next

/-- The vehicle is asked first. -/
theorem Boots.wishes (boots : Boots ctx drivers .consulting s acts h t user)
    (stands : s.Stands foreground initial held) (live : ctx.gone = none) :
    ∃ wanted first rest, acts = first ++ rest ∧ Wishes first wanted ∧
      BringsUp (tried wanted initial drivers) rest user ∧
        Leaves foreground initial held t user := by
  cases boots with
  | next next carries rest =>
    cases next
    obtain ⟨⟨r, rfl⟩, stands⟩ := carries.consulted stands
    cases r with
    | error f => exact ⟨_, _, _, rfl, .silent, Boots.brings rest stands live⟩
    | ok info =>
      cases action : info.action with
      | switch =>
        simp only [resume, action] at rest
        exact ⟨_, _, _, rfl, .switch action, Boots.brings rest stands live⟩
      | create =>
        simp only [resume, action] at rest
        cases rest with
        | next next carries rest =>
          cases next
          obtain ⟨⟨r, rfl, ends⟩, stands⟩ := carries.madeUser stands
          dsimp only [resume] at rest
          split at rest
          · next u success created =>
            obtain ⟨status, made, message⟩ := r
            cases success
            cases created
            exact ⟨_, _, _, rfl, .created action, Boots.brings rest stands live⟩
          · next failed =>
            refine ⟨_, _, _, rfl, .notCreated action fun success => ?_,
              Boots.brings rest stands live⟩
            obtain ⟨u, made⟩ := ends.user_of_successful (Provision.begins_create ..) success
            exact failed u success made
      | default | other code =>
        simp only [resume, action] at rest
        exact ⟨_, _, _, rfl, .none (by rw [action]; nofun) (by rw [action]; nofun),
          Boots.brings rest stands live⟩

end Boots

/-! ## Main result -/

/-- Booting brings up what it reports. The service has loaded its state and can save it, no
    operation is under way, and nobody else calls the service meanwhile. Then the user that is
    reported, if there is one, is known, in the foreground, and recorded as the one to come up at
    boot. Booting tries to bring up whom the vehicle wants, else the one that was recorded, else the
    first driver. If nobody is reported, foreground user and recorded user are those from
    before. -/
theorem boot_brings_up {h₀ h : History} {s t : System} {ctx : Context} {drivers : List UserId}
    {acts : List (Operation × Result)} {user : UserId} (run : IsRun h₀ s) (alone : s.calls = [])
    (rests : ∀ r ∈ s.runs, r.desk.standing.Rests) (loaded : s.store.loaded = true)
    (saves : s.repository.CanSave) (live : ctx.gone = none)
    (boots : Boots ctx drivers .consulting s acts h t user) :
    (user = UserId.null ∨ t.roster.Knows user ∧ t.sessions.current = user ∧
      t.initialUser = user ∧ t.repository.Records user) ∧
    (∃ wanted first rest, acts = first ++ rest ∧ Booting.Wishes first wanted ∧
      Booting.BringsUp (Booting.tried wanted s.initialUser drivers) rest user) ∧
    (user = UserId.null → t.sessions.current = s.sessions.current ∧
      t.initialUser = s.initialUser ∧
      (s.repository.Records s.initialUser → t.repository.Records s.initialUser)) := by
  have stands : s.Stands s.sessions.current s.initialUser (s.repository.Records s.initialUser) :=
    ⟨⟨h₀, run⟩, alone, rests, rfl, loaded, rfl, saves, id⟩
  obtain ⟨wanted, first, rest, split, wishes, brings, leaves⟩ := boots.wishes stands live
  refine ⟨?_, ⟨wanted, first, rest, split, wishes, brings⟩, fun nobody => ?_⟩
  · cases leaves with
    | before => exact .inl rfl
    | up some known stands =>
      have remembers := stands.remembers
      exact .inr ⟨known, stands.foreground, remembers.cached, remembers.records trivial⟩
  · cases leaves with
    | before stands =>
      exact ⟨stands.foreground, stands.remembers.cached, stands.remembers.records⟩
    | up some => exact absurd nobody some

namespace Arrival

/-- Ann is one of the users. -/
def world : Surroundings :=
  { roster := Roster.fresh.put ⟨10, "Ann", "full.secondary", Flags.none, UserId.null, true⟩ }

def started : History × System := acted world (startUp 1)

/-- The vehicle wants Ann. -/
def info : InitialInfo := ⟨.switch, 10, "", Flags.none, ""⟩

def asked : History × System := played [] started.2
  [.act (.perform {} (.initialInfo Booting.requestType 0)), .act (.answered 3 (.initial info) none)]

def switched : History × System := played [] asked.2
  [.act (.perform {} (.switchUser 10 0)), .act (.launch 0 4),
    .act (.answered 5 (.switch ⟨⟨"A"⟩, .approved, ""⟩) none), .act (.deskWork 0), .act (.commit 0)]

def recorded : History × System := played [] switched.2 [.act (.perform {} (.setInitial 10))]

/-- The operations that bring Ann up, with their results. -/
def acts : List (Operation × Result) :=
  [(.initialInfo Booting.requestType 0, .initial (.ok info)),
    (.switchUser 10 0, .switch ⟨.successful, ""⟩), (.setInitial 10, .status none)]

theorem boots : Boots {} [] .consulting started.2 acts
    (asked.1 ++ (switched.1 ++ (recorded.1 ++ []))) recorded.2 10 := by
  have told : History.returned asked.1 = [(2, .initial (.ok info))] := by rfl
  have done : History.returned switched.1 = [(4, .switch ⟨.successful, ""⟩)] := by rfl
  have set : History.returned recorded.1 = [(6, .status none)] := by rfl
  refine .next rfl ⟨⟨_, ?_, rfl⟩, told ▸ List.mem_singleton.2 rfl⟩ ?_
  · simp [Move.IsBehind]
  refine .next (t := switched.2) rfl ⟨⟨_, ?_, rfl⟩, done ▸ List.mem_singleton.2 rfl⟩ ?_
  · simp [Move.IsBehind]
  refine .next (t := recorded.2) rfl ⟨⟨_, ?_, rfl⟩, set ▸ List.mem_singleton.2 rfl⟩ .done
  simp

/-- The desk of the service that has started is not busy. -/
theorem rests : ∀ r ∈ started.2.runs, r.desk.standing.Rests := by
  have idle : ∀ r ∈ started.2.runs, r.desk.trips = [] ∧ r.desk.pending = [] ∧
      r.desk.worker.commit? = none := by decide +kernel
  intro r mem
  obtain ⟨trips, pending, free⟩ := idle r mem
  refine ⟨congrArg _ trips, ?_, free⟩
  rw [Desk.standing_pending, pending]
  exact fun c mem => absurd mem (Multiset.notMem_zero c)

end Arrival

open Arrival in
/-- The sample brings Ann up. -/
theorem arrival_of_sample : Boots {} [] .consulting started.2 acts
    (asked.1 ++ (switched.1 ++ (recorded.1 ++ []))) recorded.2 10 ∧
      recorded.2.sessions.current = 10 ∧ recorded.2.repository.Records 10 := by
  have run : IsRun started.1 started.2 := isRun_acted world (by decide)
  have saves := (Repository.works_of_isSound (r := started.2.repository) rfl).saves
  obtain ⟨nobody | ⟨-, current, -, records⟩, -, -⟩ :=
    boot_brings_up run rfl rests rfl saves rfl boots
  · cases nobody
  · exact ⟨boots, current, records⟩

end Service

end HeadUnit
