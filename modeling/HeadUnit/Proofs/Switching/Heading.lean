import HeadUnit.Proofs.Switching.Change

/-!
# Where a desk is heading

A desk *heads to* a user (`Standing.HeadsTo`) from the moment a request is accepted until the
operating system has switched, or until it is settled that it will not: as long as the vehicle is
asked, its answer waits for the worker, or the worker waits for the operating system. A switch
that the vehicle starts counts from the moment the worker takes it.

`heads_move` says that a desk turns to a user (`Desk.TurnsTo`) in two ways only, and that a
request is accepted only for users that the desk sees.
-/

namespace HeadUnit.Switching

/-- The target of a command that goes back to a request. -/
def Command.requested? : Command → Option UserId
  | answer a => some a.tx.target
  | direct target _ => some target
  | initiated .. | unlocked _ | switched .. => none

/-- The desk may yet bring the user to the foreground. -/
inductive Standing.HeadsTo (s : Standing) (user : UserId) : Prop
  /-- The vehicle is asked. -/
  | trip {o : Outstanding} (mem : o ∈ s.trips) (own : o.tx.target = user)
  /-- The worker has not taken the command. -/
  | command {c : Command} (mem : c ∈ s.pending) (own : c.requested? = some user)
  /-- The worker waits for the operating system. -/
  | commit {c : Commit} (doing : s.worker = .committing c) (own : c.target = user)

/-- What makes a desk turn to a user: a request, if it sees the user, and that the worker takes a
    switch of the vehicle. -/
inductive Desk.TurnsTo (d : Desk) (user : UserId) : Move → Prop
  | asked {v : View} {p : Poster} {k : Ticket} {timeout : Duration}
      (seen : (v.find? user).isSome = true) : TurnsTo d user (.request v p k user timeout)
  | taken {v : View} {token : Token} (idle : d.worker = .idle)
      (head : d.queue.head? = some (.initiated token user)) : TurnsTo d user (.work v)

namespace Standing.HeadsTo

variable {s s' : Standing} {user : UserId}

/-- Fewer trips, fewer commands and no new commit. -/
theorem mono (heads : s'.HeadsTo user) (trips : ∀ o ∈ s'.trips, o ∈ s.trips)
    (pending : ∀ c ∈ s'.pending, c ∈ s.pending)
    (worker : s'.worker = s.worker ∨ s'.worker.commit? = none) : s.HeadsTo user := by
  cases heads with
  | trip mem own => exact .trip (trips _ mem) own
  | command mem own => exact .command (pending _ mem) own
  | commit doing own =>
    rcases worker with same | none
    · exact .commit (same ▸ doing) own
    · rw [doing] at none
      cases none

/-- What a desk says does not matter. -/
theorem of_say {es : List Effect} (heads : (s.say es).HeadsTo user) : s.HeadsTo user :=
  heads.mono (fun _ mem => mem) (fun _ mem => mem) (.inl rfl)

theorem of_post {v : View} {cs : List Command} (heads : (s.post v cs).HeadsTo user) :
    s.HeadsTo user ∨ ∃ c ∈ cs, c.requested? = some user := by
  unfold Standing.post at heads
  split at heads
  · exact .inl heads.of_say
  · cases heads with
    | trip mem own => exact .inl (.trip mem own)
    | command mem own =>
      rcases Multiset.mem_add.1 mem with old | new
      · exact .inl (.command old own)
      · exact .inr ⟨_, new, own⟩
    | commit doing own => exact .inl (.commit doing own)

end Standing.HeadsTo

variable {d : Desk} {user : UserId}

/-- A request for a user whom the desk does not see is turned down. -/
theorem heads_request {v : View} {p : Poster} {k : Ticket} {target : UserId} {timeout : Duration}
    (heads : (d.request v p k target timeout).standing.HeadsTo user) :
    d.standing.HeadsTo user ∨ target = user ∧ (v.find? user).isSome = true := by
  cases seen : v.find? target with
  | none =>
    rw [Desk.request, seen, Desk.standing_admitted, Desk.standing_resolve] at heads
    exact .inl heads.of_say
  | some u =>
    have own (same : target = user) : target = user ∧ (v.find? user).isSome = true :=
      ⟨same, by rw [← same, seen]; rfl⟩
    have change := change_request d v p k target timeout
    generalize (d.request v p k target timeout).standing = s at change heads
    cases change with
    | rejected => exact .inl heads.of_say
    | direct =>
      refine heads.of_post.imp_right ?_
      rintro ⟨c, mem, same⟩
      obtain rfl := List.mem_singleton.1 mem
      exact own (Option.some.inj same)
    | installed tx new =>
      cases heads with
      | @trip o mem same =>
        have either : o ∈ ⟨tx, k⟩ ::ₘ d.standing.trips := mem
        rcases Multiset.mem_cons.1 either with rfl | old
        · rw [new] at same
          exact .inr (own same)
        · exact .inl (.trip old same)
      | command mem same => exact .inl (.command mem same)
      | commit doing same => exact .inl (.commit doing same)
    | closed tx w down => rcases down with e | e <;> cases e
    | adjusted other => cases other

/-- The answer to a trip heads to where the trip headed. -/
theorem heads_tripEnded {v : View} {k : Ticket} {response : Vehicle.SwitchResponse}
    {fault : Option Fault} (heads : (d.tripEnded v k response fault).standing.HeadsTo user) :
    d.standing.HeadsTo user := by
  unfold Desk.tripEnded at heads
  split at heads
  · exact heads
  · next o found =>
    rw [Desk.standing_post] at heads
    rcases heads.of_post with before | ⟨c, mem, own⟩
    · exact before.mono (fun o mem => (List.mem_filter.1 (Multiset.mem_coe.1 mem)).1)
        (fun _ mem => mem) (.inl rfl)
    · obtain rfl := List.mem_singleton.1 mem
      exact .trip (Multiset.mem_coe.2 (List.mem_of_find?_eq_some found)) (Option.some.inj own)

/-- The worker takes a command, and heads to where the command did. -/
theorem heads_work {v : View} (heads : ((d.work? v).getD d).standing.HeadsTo user) :
    d.standing.HeadsTo user ∨ d.TurnsTo user (.work v) := by
  by_cases able : d.worker = .idle ∧ d.queue ≠ []
  · have change := change_work d v able.1 able.2
    generalize ((d.work? v).getD d).standing = s at change heads
    have fewer {c : Command} {rest : Multiset Command} (takes : Takes d c rest) :
        ∀ x ∈ rest, x ∈ d.standing.pending := fun x mem => by
      rw [Desk.standing_pending, takes.pending]
      exact Multiset.mem_cons_of_mem mem
    have first {c : Command} {rest : Multiset Command} (takes : Takes d c rest) :
        c ∈ d.standing.pending := by
      rw [Desk.standing_pending, takes.pending]
      exact Multiset.mem_cons_self c rest
    cases change with
    | superseded a rest takes | denied a rest takes | unlocked t rest takes =>
      exact .inl (heads.of_say.mono (fun _ mem => mem) (fewer takes) (.inl rfl))
    | noted c rest takes =>
      exact .inl (heads.mono (fun _ mem => mem) (fewer takes) (.inl rfl))
    | approved a rest takes | directTaken rest takes =>
      cases heads.of_say with
      | trip mem own => exact .inl (.trip mem own)
      | command mem own => exact .inl (.command (fewer takes _ mem) own)
      | commit doing own =>
        cases doing
        exact .inl (.command (first takes) (congrArg some own))
    | initiatedTaken rest takes =>
      cases heads.of_say with
      | trip mem own => exact .inl (.trip mem own)
      | command mem own => exact .inl (.command (fewer takes _ mem) own)
      | commit doing own =>
        cases doing
        subst own
        exact .inr (.taken takes.idle takes.head)
    | closed tx w down => rcases down with e | e <;> cases e
    | adjusted other => cases other
  · rw [d.work_of_unable v able] at heads
    exact .inl heads

/-- The worker comes back, and heads nowhere. -/
theorem heads_committed {v : View} {fault : Option Fault}
    (heads : (d.committed v fault).standing.HeadsTo user) : d.standing.HeadsTo user := by
  by_cases busy : d.worker.commit?.isSome
  · have change : Change d (.committed v fault) (d.committed v fault).standing :=
      change_committed d v busy
    generalize (d.committed v fault).standing = s at change heads
    cases change with
    | commitSuperseded | commitFailed | commitDone | directFailed | directDone | initiatedFailed =>
      exact heads.of_say.mono (fun _ mem => mem) (fun _ mem => mem) (.inr rfl)
    | initiatedDone => exact heads.mono (fun _ mem => mem) (fun _ mem => mem) (.inr rfl)
    | closed tx w down => rcases down with e | e <;> cases e
    | adjusted other => cases other
  · rwa [d.committed_of_unable v fault busy] at heads

/-- A desk that closes dismisses all commands. -/
theorem heads_close {v : View} (heads : (d.close v).standing.HeadsTo user) :
    d.standing.HeadsTo user := by
  obtain ⟨tx, _, same⟩ := d.standing_close v
  rw [same] at heads
  exact heads.of_say.mono (fun _ mem => mem) (fun _ mem => absurd mem (Multiset.notMem_zero _))
    (.inl rfl)

/-- A desk heads to where it headed before, or to where the move has turned it. -/
theorem heads_move {q : Move} (heads : (d.move q).standing.HeadsTo user) :
    d.standing.HeadsTo user ∨ d.TurnsTo user q := by
  cases q with
  | request v p k target timeout =>
    rcases heads_request heads with before | ⟨rfl, seen⟩
    · exact .inl before
    · exact .inr (.asked seen)
  | launch k =>
    refine .inl ?_
    rw [Desk.move, Desk.launch] at heads
    split at heads
    · exact heads
    · rw [Desk.standing_emit] at heads
      exact heads.of_say.mono (fun _ mem => mem) (fun _ mem => mem) (.inl rfl)
  | tripEnded => exact .inl (heads_tripEnded heads)
  | initiate v p token target =>
    rw [Desk.move, Desk.initiate, Desk.standing_post] at heads
    rcases heads.of_post with before | ⟨c, mem, own⟩
    · exact .inl before
    · obtain rfl := List.mem_singleton.1 mem
      cases own
  | events v p es =>
    rw [Desk.move, Desk.onEvents, Desk.standing_post] at heads
    rcases heads.of_post with before | ⟨c, mem, own⟩
    · exact .inl before
    · have news := Command.isNews_of_mem_events mem
      cases c with
      | answer | direct => exact news.elim
      | initiated | unlocked | switched => cases own
  | start =>
    refine .inl ?_
    rw [Desk.move, Desk.start] at heads
    split at heads
    · exact heads.mono (fun _ mem => mem) (fun _ mem => mem) (.inr rfl)
    · exact heads
  | work v => exact heads_work heads
  | committed => exact .inl (heads_committed heads)
  | mark =>
    refine .inl ?_
    rw [Desk.move, Desk.mark] at heads
    split at heads
    · rw [Desk.standing_note] at heads
      exact heads.mono (fun _ mem => mem) (fun _ mem => mem) (.inr rfl)
    · exact heads
  | stop v =>
    refine .inl ?_
    rw [Desk.move, Desk.stop?] at heads
    split at heads
    · split at heads
      · have closed : (d.close v).standing.HeadsTo user :=
          heads.mono (fun _ mem => mem) (fun _ mem => mem) (.inr rfl)
        exact heads_close closed
      · exact heads
    · exact heads
  | close => exact .inl (heads_close heads)
  | setTimeout t =>
    refine .inl ?_
    rw [Desk.move, Desk.setTimeout] at heads
    split at heads
    · exact heads
    · exact heads
  | endContext | setPanel => exact .inl heads

end HeadUnit.Switching
