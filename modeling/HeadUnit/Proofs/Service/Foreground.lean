import HeadUnit.Proofs.Service.Deals
import HeadUnit.Proofs.Service.Unlocking
import HeadUnit.Proofs.Switching.Heading

/-!
# The user in the foreground

A switch is asked for only to users who are known, and users in the foreground are not removed.
Between a request and the switch, the vehicle is asked and the operating system is waited for;
all that time the user is *on stage* (`Books.OnStage`), as it is afterwards. Whoever comes on
stage is known then (`Deal.onStage`). But users on their way to the foreground can be removed, and
a creation that is not ratified is taken back whoever is in the foreground (`Moment.Strands`).

The main statement, `known_or_stranded`, says that there is no other reason for which the user in
the foreground is not known. For this one it happens (`stranded_in_foreground`).
-/

namespace HeadUnit.Service

open Switching (Desk)
open HeadUnit.Service.System

/-! ## Desks -/

namespace Books

/-- A desk may yet bring the user to the foreground. -/
def HeadsTo (b : Books) (user : UserId) : Prop := ∃ d ∈ b.desks, d.standing.HeadsTo user

/-- The user is in the foreground, or on its way there. -/
def OnStage (b : Books) (user : UserId) : Prop := b.sessions.current = user ∨ b.HeadsTo user

variable {b b' : Books} {user : UserId}

/-- Only the desk that changes may head to somebody new. -/
theorem HeadsTo.of_modify {i : Nat} {f : Desk → Desk}
    (heads : HeadsTo { b with desks := b.desks.modify i f } user) :
    b.HeadsTo user ∨ ∃ d, b.desks[i]? = some d ∧ (f d).standing.HeadsTo user := by
  obtain ⟨d', mem, heads⟩ := heads
  obtain ⟨j, there⟩ := List.mem_iff_getElem?.1 mem
  obtain ⟨d, here, rfl⟩ := origin_modify there
  split at heads
  · next own =>
    subst own
    exact .inr ⟨d, here, heads⟩
  · exact .inl ⟨d, List.mem_of_getElem? here, heads⟩

theorem HeadsTo.of_moveDesk {i : Nat} {q : Switching.Move}
    (heads : (b.moveDesk i q).HeadsTo user) :
    b.HeadsTo user ∨ ∃ d, b.desks[i]? = some d ∧ d.TurnsTo user q := by
  rcases heads.of_modify with before | ⟨d, here, after⟩
  · exact .inl before
  · -- What the desk has said is taken away, which does not matter.
    have moved : (d.move q).standing.HeadsTo user :=
      after.mono (fun _ mem => mem) (fun _ mem => mem) (.inl rfl)
    rcases Switching.heads_move moved with before | turns
    · exact .inl ⟨d, List.mem_of_getElem? here, before⟩
    · exact .inr ⟨d, here, turns⟩

/-- What happens around a desk does not turn it to anybody. -/
theorem HeadsTo.of_step (heads : b'.HeadsTo user) (step : Step b b') : b.HeadsTo user := by
  cases step with
  | found => exact heads
  | recorded i u =>
    unfold HeadsTo settle at heads
    rwa [desks_change] at heads
  | desk i q reaction =>
    rcases heads.of_moveDesk with before | ⟨d, _, turns⟩
    · exact before
    · cases turns with
      | asked | taken => exact reaction.elim
  | setting i q setting =>
    rcases heads.of_modify with before | ⟨d, here, after⟩
    · exact before
    · rcases Switching.heads_move after with before | turns
      · exact ⟨d, List.mem_of_getElem? here, before⟩
      · cases turns with
        | asked | taken => exact setting.elim

theorem HeadsTo.of_steps (heads : b'.HeadsTo user) (steps : Steps b b') : b.HeadsTo user := by
  induction steps with
  | refl => exact heads
  | tail _ step ih => exact ih (heads.of_step step)

/-- A new desk heads to nobody. -/
theorem not_heads_fresh (timeout : Duration) (headless : Bool) :
    ¬(Desk.fresh timeout headless).start.standing.HeadsTo user := by
  intro heads
  rcases Switching.heads_move (q := .start) heads with first | turns
  · cases first with
    | trip mem | command mem => exact absurd mem (Multiset.notMem_zero _)
    | commit doing => cases doing
  · cases turns

/-- Nor does anybody else when it comes. -/
theorem HeadsTo.of_built {timeout : Duration} {headless : Bool} {found : List (Option User)}
    (heads : HeadsTo { b with
      desks := b.desks ++ [(Desk.fresh timeout headless).start], found := found } user) :
    b.HeadsTo user := by
  obtain ⟨d, mem, heads⟩ := heads
  rcases List.mem_append.1 mem with old | new
  · exact ⟨d, old, heads⟩
  · rw [List.mem_singleton.1 new] at heads
    exact absurd heads (not_heads_fresh timeout headless)

end Books

/-! ## Moves -/

/-- Nobody but the service changes the foreground user, users are removed through the service
    only, and whoever the vehicle switches to is known when the worker of a desk takes it up. -/
structure Moment.Fair (m : Moment) : Prop where
  foreground : ∀ user, m.move ≠ .intervene (.switch user)
  users : ∀ r, m.move = .roster r → ∀ id, m.before.roster.Knows id → r.Knows id
  vehicle : ∀ i d token target, m.move = .act (.deskWork i) →
    m.before.books.desks[i]? = some d → d.worker = .idle →
    d.queue.head? = some (.initiated token target) → m.before.roster.Knows target

/-- The move removes the user: somebody asks for it while another one is in the foreground, or
    its creation is not ratified. -/
inductive Moment.Removing (m : Moment) (user : UserId) : Prop
  | asked {ctx : Context} (move : m.move = .act (.perform ctx (.removeUser user)))
      (other : user ≠ m.before.sessions.current)
  | unratified {call : Call} {u : User} (mem : call ∈ m.before.calls)
      (creating : call.work = .creating u) (own : u.id = user)

/-- A user is removed who is in the foreground, or on its way there. -/
structure Moment.Strands (m : Moment) (user : UserId) : Prop where
  removing : m.Removing user
  onStage : m.before.books.OnStage user
  known : m.before.roster.Knows user
  gone : ¬m.after.roster.Knows user

section Deals

variable {s : System} {m : Move} {b : Books} {user : UserId}

/-- Whoever comes on stage is known. -/
theorem Deal.onStage (deal : Deal s m b) (fair : (Moment.mk s m).Fair) (on : b.OnStage user) :
    s.books.OnStage user ∨ b.roster = s.roster ∧ s.roster.Knows user := by
  -- Neither the foreground user nor the desks have moved.
  have still {b : Books} (sessions : b.sessions = s.sessions) (desks : b.desks = s.books.desks)
      (on : b.OnStage user) : s.books.OnStage user := by
    unfold Books.OnStage Books.HeadsTo at on
    rwa [sessions, desks] at on
  cases deal with
  | behind steps =>
    refine .inl (on.imp (fun current => ?_) fun heads => heads.of_steps steps)
    rwa [(Books.Steps.unmoved steps).2] at current
  | elapsed | enrolled | withdrawn | recorded | cached | restored | edited | replaced =>
    exact .inl (still rfl rfl on)
  | @asked i q asks sees =>
    rcases on with current | heads
    · exact .inl (.inl current)
    · rcases heads.of_moveDesk with before | ⟨d, _, turns⟩
      · exact .inl (.inr before)
      · cases turns with
        | asked seen =>
          cases sees
          exact .inr ⟨rfl, seen⟩
        | taken => exact asks.elim
  | @worked i move =>
    rcases on with current | heads
    · exact .inl (.inl current)
    · rcases heads.of_moveDesk with before | ⟨d, here, turns⟩
      · exact .inl (.inr before)
      · cases turns with
        | taken idle head => exact .inr ⟨rfl, fair.vehicle i d _ user move here idle head⟩
  | @committed i d c sessions b fault here doing foreground steps =>
    rcases on with current | heads
    · -- The desk was heading to whoever has come to the foreground.
      have moved : sessions.current = user := by
        rw [← current]
        exact (congrArg Sessions.current (Books.Steps.unmoved steps).2).symm
      rcases foreground with same | own
      · exact .inl (.inl (same.symm.trans moved))
      · exact .inl (.inr ⟨d, List.mem_of_getElem? here, .commit doing (own.symm.trans moved)⟩)
    · rcases heads.of_moveDesk with before | ⟨d, _, turns⟩
      · have earlier := before.of_steps steps
        exact .inl (.inr earlier)
      · cases turns
  | @served registry sessions b alike bound foreground steps =>
    rcases on with current | heads
    · rw [(Books.Steps.unmoved steps).2] at current
      rcases foreground with same | ⟨user', move⟩
      · exact .inl (.inl (same.symm.trans current))
      · exact absurd move (fair.foreground user')
    · have earlier := heads.of_steps steps
      exact .inl (.inr earlier)
  | @removed ctx id roster =>
    obtain ⟨_, _, e⟩ := Books.change_eq { s.books with roster := roster } (s.registry.forget id).1
    rw [e] at on
    exact .inl (still rfl rfl on)
  | @bounded c n =>
    obtain ⟨_, _, e⟩ := Books.change_eq s.books (s.registry.setMax n)
    rw [e] at on
    exact .inl (still rfl rfl on)
  | built => exact .inl (on.imp_right fun heads => heads.of_built)

/-- Whoever is known stays so, unless it is removed. -/
theorem Deal.knows (deal : Deal s m b) (fair : (Moment.mk s m).Fair) (known : s.roster.Knows user) :
    b.roster.Knows user ∨ (Moment.mk s m).Removing user ∧ ¬b.roster.Knows user := by
  have left {id : UserId} {roster : Roster} (gone : s.roster.remove id = .ok roster)
      (removing : (Moment.mk s m).Removing id) :
      roster.Knows user ∨ (Moment.mk s m).Removing user ∧ ¬roster.Knows user := by
    by_cases own : user = id
    · subst own
      exact .inr ⟨removing, fun still => (Roster.knows_remove gone).1 still |>.2 rfl⟩
    · exact .inl ((Roster.knows_remove gone).2 ⟨known, own⟩)
  cases deal with
  | behind steps =>
    rw [(Books.Steps.unmoved steps).1]
    exact .inl known
  | elapsed | asked | worked | recorded | cached | restored | built | replaced =>
    exact .inl known
  | @committed i d c sessions b fault here doing foreground steps =>
    have same : b.roster = s.roster := (Books.Steps.unmoved steps).1
    have still : b.roster.Knows user := same ▸ known
    exact .inl still
  | served alike bound foreground steps =>
    rw [(Books.Steps.unmoved steps).1]
    exact .inl known
  | enrolled more => exact .inl (more user known)
  | withdrawn mem creating gone => exact left gone (.unratified mem creating rfl)
  | @removed ctx id roster move other gone =>
    obtain ⟨_, _, e⟩ := Books.change_eq { s.books with roster := roster } (s.registry.forget id).1
    rw [e]
    exact left gone (.asked move other)
  | @bounded c n =>
    obtain ⟨_, _, e⟩ := Books.change_eq s.books (s.registry.setMax n)
    rw [e]
    exact .inl known
  | @edited roster move => exact .inl (fair.users roster move user known)

end Deals

/-! ## Runs -/

/-- A run that begins with a user in the foreground who is known, and in which all moves are
    fair. -/
inductive IsGuarded : History → System → Prop
  | new {c : Config} {s : System} {w : Surroundings} (made : Service.new c true true = .ok s)
      (known : w.roster.Knows w.sessions.current) : IsGuarded [] (s.within w)
  | step {h : History} {s : System} {m : Move} : IsGuarded h s → m.Proper →
      (Moment.mk s m).Fair → IsGuarded (h ++ [⟨s, m⟩]) (Moment.mk s m).after

/-- Whoever is in the foreground, or on its way there, is known: or else it was removed in the
    meantime. -/
theorem IsGuarded.onStage {h : History} {s : System} (guarded : IsGuarded h s) {user : UserId}
    (on : s.books.OnStage user) : s.roster.Knows user ∨ ∃ m ∈ h, m.Strands user := by
  induction guarded with
  | new made known =>
    rw [eq_fresh_of_new made] at on ⊢
    rcases on with rfl | ⟨d, mem, _⟩
    · exact .inl known
    · exact absurd mem List.not_mem_nil
  | @step h s m guarded proper fair ih =>
    have deal := (Moment.mk s m).deal
    rcases deal.onStage fair on with before | ⟨same, known⟩
    · rcases ih before with known | ⟨x, mem, strands⟩
      · refine (deal.knows fair known).imp_right fun ⟨removing, gone⟩ => ?_
        exact ⟨⟨s, m⟩, List.mem_append_right _ List.mem_cons_self, removing, before, known, gone⟩
      · exact .inr ⟨x, List.mem_append_left _ mem, strands⟩
    · have still : (Moment.mk s m).after.roster = s.roster := same
      exact .inl (still ▸ known)

/-- No desk has a switch of the vehicle to take next. -/
def Books.isFree (b : Books) : Bool :=
  b.desks.all fun d => match d.queue.head? with
    | some (.initiated ..) => false
    | _ => true

/-- An action is fair if there is no switch of the vehicle to take. -/
theorem fair_of_isFree {s : System} {a : Action} (free : s.books.isFree = true) :
    (Moment.mk s (.act a)).Fair := by
  refine ⟨nofun, nofun, fun i d token target _ here _ head => ?_⟩
  have none := List.all_eq_true.1 free d (List.mem_of_getElem? here)
  rw [head] at none
  cases none

theorem IsGuarded.play {h : History} {s : System} (guarded : IsGuarded h s) {as : List Action}
    (offered : ∀ a ∈ as, (Move.act a).offered? = none)
    (free : ∀ x ∈ (played h s (as.map .act)).1, x.before.books.isFree = true) :
    IsGuarded (played h s (as.map .act)).1 (played h s (as.map .act)).2 := by
  induction as generalizing h s with
  | nil => exact guarded
  | cons a as ih =>
    have proper := Move.proper_of_offered (offered a List.mem_cons_self)
    have now : (⟨s, .act a⟩ : Moment) ∈ (played (h ++ [⟨s, .act a⟩]) (Moment.mk s (.act a)).after
        (as.map .act)).1 := mem_played (List.mem_append_right _ List.mem_cons_self)
    exact ih (guarded.step proper (fair_of_isFree (free ⟨s, .act a⟩ now)))
      (fun b mem => offered b (List.mem_cons_of_mem a mem)) free

namespace Boarding

/-- Ann is one of the users, and the system user is in the foreground. -/
def world : Surroundings :=
  { roster := Roster.fresh.put ⟨10, "Ann", "full.secondary", Flags.none, UserId.null, true⟩ }

/-- The vehicle approves the switch, the operating system switches, and the news of it get to
    bus and desk. -/
def approval : List Action :=
  List.flatten [[.answered 3 (.switch ⟨⟨"A"⟩, .approved, ""⟩) none, .deskWork 0, .commit 0],
    List.replicate 18 (.busStep 0), [.record 0], List.replicate 8 (.busStep 0),
    [.deskWork 0, .deskWork 0]]

/-- The service switches to Ann. -/
def switch : List Action := startUp 1 ++ [.perform {} (.switchUser 10 0), .launch 0 2] ++ approval

/-- While the vehicle is asked, Ann is removed. -/
def removal : List Action :=
  startUp 1 ++ [.perform {} (.switchUser 10 0), .launch 0 2, .perform {} (.removeUser 10)] ++
    approval

end Boarding

end HeadUnit.Service
