import HeadUnit.Registry

/-!
# Starting the users of a registry

Whoever is started in the background does not come to the foreground, and nobody is started
who has no entry (`spares_startAll`). If the sessions say of everybody who runs that they do, then
all users of the background are started whose start is not made to fail, and the registry
remembers these, in the order of its entries (`restarts_startAll`, `restartedHere_restartable`). The
users are started one after the other, so this is a fact about one start (`spares_startOne`,
`begins_startOne`), carried along the list of users.

What comes of it reaches the registry again: it is told who unlocked. As long as whoever
unlocks is listed, and not in the foreground, that is no news to it (`add_of_knows`).
-/

namespace HeadUnit

namespace Sessions

/-- The foreground user stays, and nobody but `ids` is started. -/
structure Spares (s s' : Sessions) (ids : List UserId) : Prop where
  foreground : s'.current = s.current
  others : ∀ id, id ∉ ids → s'.isRunning id = s.isRunning id

namespace Spares

variable {s s' s'' : Sessions} {ids ids' : List UserId}

theorem refl (s : Sessions) (ids : List UserId) : Spares s s ids := ⟨rfl, fun _ _ => rfl⟩

theorem trans (one : Spares s s' ids) (other : Spares s' s'' ids') :
    Spares s s'' (ids ++ ids') where
  foreground := other.foreground.trans one.foreground
  others id none := by
    rw [List.mem_append, not_or] at none
    rw [other.others id none.2, one.others id none.1]

end Spares

theorem mem_mark {id user : UserId} {ids : List UserId} :
    user ∈ mark id ids ↔ user = id ∨ user ∈ ids := by
  rw [mark]
  split
  · next listed =>
    rw [List.contains_iff_mem] at listed
    exact ⟨.inr, fun either => either.elim (fun own => own ▸ listed) fun mem => mem⟩
  · rw [List.mem_append, List.mem_singleton, or_comm]

/-- To mark a user says nothing about others. -/
theorem contains_mark {id user : UserId} (other : id ≠ user) (ids : List UserId) :
    (mark user ids).contains id = ids.contains id := by
  unfold mark
  split
  · rfl
  · simp [other]

theorem spares_startInBackground {s s' : Sessions} {user : UserId} {millis : Int64}
    {es : List Event} (ok : s.startInBackground user millis = .ok (s', es)) :
    Spares s s' [user] := by
  unfold startInBackground at ok
  split at ok
  · cases ok
  · cases ok
    exact ⟨rfl, fun id none => contains_mark (mt List.mem_singleton.2 none) s.running⟩

theorem spares_unlock {s s' : Sessions} {user : UserId} {millis : Int64} {es : List Event}
    (ok : s.unlock user millis = .ok (s', es)) : Spares s s' [] := by
  unfold unlock at ok
  split at ok
  · cases ok
  · split at ok
    · cases ok
      exact ⟨rfl, fun _ _ => rfl⟩
    · cases ok

end Sessions

namespace Registry

/-! ## What is no news -/

/-- The event is no news to the registry: if a user unlocked, the user is listed, and not in the
    foreground. -/
def Knows (r : Registry) (foreground : UserId) (e : Event) : Prop :=
  e.kind = .unlocked → e.user ∈ r.users ∧ e.user ≠ foreground

/-- The registry is left alone by what is no news to it. -/
theorem add_of_knows {r : Registry} {foreground : UserId} {e : Event}
    (knows : r.Knows foreground e) (unlocked : e.kind = .unlocked) {u : User}
    (own : u.id = e.user) : r.add u foreground = { registry := r } := by
  obtain ⟨listed, background⟩ := knows unlocked
  rw [add, own, if_neg background, if_pos (List.contains_iff_mem.2 listed), ite_self]

/-! ## Starting -/

/-- Nobody but `ids` is started, and nobody but `ids` is said to run. -/
structure Started.Spares (st st' : Started) (ids : List UserId) : Prop where
  sessions : st.sessions.Spares st'.sessions ids
  running : ∀ id ∈ st'.running, id ∈ st.running ∨ id ∈ ids

/-- One user is started. -/
theorem spares_startOne (millis : Int64) (st : Started) (user : UserId) :
    st.Spares (startOne millis st user) [user] := by
  have listed (id : UserId) (mem : id ∈ st.running ++ [user]) : id ∈ st.running ∨ id ∈ [user] :=
    List.mem_append.1 mem
  unfold startOne
  split
  · exact ⟨.refl _ _, fun _ mem => .inl mem⟩
  · next s es started =>
    have spares := Sessions.spares_startInBackground started
    dsimp only
    split
    · exact ⟨spares, listed⟩
    · split
      · next s' es' unlocked =>
        exact ⟨spares.trans (Sessions.spares_unlock unlocked), listed⟩
      · split
        · exact ⟨spares, listed⟩
        · exact ⟨spares, fun _ mem => .inl mem⟩

theorem spares_foldl_startOne (millis : Int64) (st : Started) (users : List UserId) :
    st.Spares (users.foldl (startOne millis) st) users := by
  induction users generalizing st with
  | nil => exact ⟨.refl _ _, fun _ mem => .inl mem⟩
  | cons user users ih =>
    have one := spares_startOne millis st user
    have rest := ih (startOne millis st user)
    refine ⟨one.sessions.trans rest.sessions, fun id mem => ?_⟩
    rcases rest.running id mem with before | later
    · exact (one.running id before).imp_right fun own => List.mem_cons.2 (.inl (by simpa using own))
    · exact .inr (List.mem_cons_of_mem user later)

/-- Nobody is started, or said to run, who has no entry. -/
theorem spares_startAll (r : Registry) (s : Sessions) (millis : Int64) :
    ({ sessions := s } : Started).Spares (r.startAll s millis).2 r.users := by
  have all := spares_foldl_startOne millis { sessions := s } (r.users.filter (· != s.current))
  refine ⟨⟨all.sessions.foreground, fun id none => all.sessions.others id fun mem => ?_⟩,
    fun id mem => (all.running id mem).imp_right fun listed => ?_⟩
  · exact none ((List.mem_filter.1 mem).1)
  · exact (List.mem_filter.1 listed).1

/-! ## Who is started -/

/-- The users whose start is not made to fail. -/
def startable (s : Sessions) (ids : List UserId) : List UserId :=
  ids.filter fun id => (Sessions.faultFor? id s.startFaults).isNone

/-- What has become of starting the users `ids`: those whose start does not fail are said to run,
    and do, and there are events about no others. -/
structure Started.Begins (st st' : Started) (ids : List UserId) : Prop where
  faults : st'.sessions.startFaults = st.sessions.startFaults
  denied : st'.sessions.denied = st.sessions.denied
  running : st'.running = st.running ++ startable st.sessions ids
  kept : ∀ id ∈ st.sessions.running, id ∈ st'.sessions.running
  started : ∀ id ∈ startable st.sessions ids, id ∈ st'.sessions.running
  events : ∃ es, st'.events = st.events ++ es ∧ ∀ e ∈ es, e.user ∈ ids

theorem Started.Begins.trans {st st' st'' : Started} {ids ids' : List UserId}
    (one : st.Begins st' ids) (other : st'.Begins st'' ids') : st.Begins st'' (ids ++ ids') := by
  have both : startable st.sessions (ids ++ ids') =
      startable st.sessions ids ++ startable st'.sessions ids' := by
    rw [startable, startable, startable, one.faults, List.filter_append]
  obtain ⟨es, said, about⟩ := one.events
  obtain ⟨es', said', about'⟩ := other.events
  refine ⟨other.faults.trans one.faults, other.denied.trans one.denied, ?_,
    fun id mem => other.kept id (one.kept id mem), fun id mem => ?_, es ++ es', ?_, ?_⟩
  · rw [other.running, one.running, both, List.append_assoc]
  · rw [both] at mem
    rcases List.mem_append.1 mem with first | second
    · exact other.kept id (one.started id first)
    · exact other.started id second
  · rw [said', said, List.append_assoc]
  · intro e mem
    rcases List.mem_append.1 mem with first | second
    · exact List.mem_append_left _ (about e first)
    · exact List.mem_append_right _ (about' e second)

/-- One user is started. -/
theorem begins_startOne (millis : Int64) (st : Started) (honest : st.sessions.denied = [])
    (user : UserId) : st.Begins (startOne millis st user) [user] := by
  rw [startOne, Sessions.startInBackground]
  cases fault : Sessions.faultFor? user st.sessions.startFaults with
  | some f =>
    have none : startable st.sessions [user] = [] := by simp [startable, fault]
    refine ⟨rfl, rfl, ?_, fun _ mem => mem, ?_, [], (List.append_nil _).symm, nofun⟩
    · rw [none]
      exact (List.append_nil _).symm
    · rw [none]
      nofun
  | none =>
    have one : startable st.sessions [user] = [user] := by simp [startable, fault]
    have kept (id : UserId) (mem : id ∈ st.sessions.running) :
        id ∈ Sessions.mark user st.sessions.running := Sessions.mem_mark.2 (.inr mem)
    have here : user ∈ Sessions.mark user st.sessions.running := Sessions.mem_mark.2 (.inl rfl)
    have started (id : UserId) (mem : id ∈ startable st.sessions [user]) :
        id ∈ Sessions.mark user st.sessions.running := by
      rw [one, List.mem_singleton] at mem
      exact mem ▸ here
    have runs : (Sessions.mark user st.sessions.running).contains user = true :=
      List.contains_iff_mem.2 here
    have first : ∀ e ∈ if st.sessions.isRunning user = true then []
        else [Event.about .starting user millis], e.user ∈ [user] := by
      intro e mem
      split at mem
      · cases mem
      · rw [List.mem_singleton.1 mem]
        exact List.mem_singleton_self user
    dsimp only
    split
    · exact ⟨rfl, rfl, by rw [one], kept, started, _, rfl, first⟩
    · rw [Sessions.unlock]
      cases Sessions.faultFor? user st.sessions.unlockFaults with
      | some f =>
        -- The user runs, and the sessions say so.
        have said : ({ st.sessions with
            running := Sessions.mark user st.sessions.running } : Sessions).reportsRunning user =
              true := by
          rw [Sessions.reportsRunning, Sessions.isRunning, honest, runs]
          rfl
        dsimp only
        rw [if_pos said]
        exact ⟨rfl, rfl, by rw [one], kept, started, _, rfl, first⟩
      | none =>
        dsimp only
        have isRunning : ({ st.sessions with
            running := Sessions.mark user st.sessions.running } : Sessions).isRunning user =
              true := runs
        rw [if_pos isRunning]
        refine ⟨rfl, rfl, by rw [one], kept, started, _, List.append_assoc .., fun e mem => ?_⟩
        rcases List.mem_append.1 mem with begun | opened
        · exact first e begun
        · split at opened
          · cases opened
          · rcases List.mem_cons.1 opened with rfl | last
            · exact List.mem_singleton_self user
            · rw [List.mem_singleton.1 last]
              exact List.mem_singleton_self user

theorem begins_foldl_startOne (millis : Int64) (st : Started) (honest : st.sessions.denied = [])
    (users : List UserId) : st.Begins (users.foldl (startOne millis) st) users := by
  induction users generalizing st with
  | nil =>
    exact ⟨rfl, rfl, (List.append_nil _).symm, fun _ mem => mem, nofun, [],
      (List.append_nil _).symm, nofun⟩
  | cons user users ih =>
    have one := begins_startOne millis st honest user
    exact one.trans (ih (startOne millis st user) (one.denied.trans honest))

/-- The users of the registry that are in the background, and whose start is not made to fail. -/
def restartable (r : Registry) (s : Sessions) : List UserId :=
  startable s (r.users.filter (· != s.current))

/-- What has become of restarting the users of the registry `r`: it remembers who was started, and
    nothing else of it changes. Whoever was started runs, and the events are no news. -/
structure Restarts (r : Registry) (s : Sessions) (r' : Registry) (st : Started) : Prop where
  registry : r' = { r with restarted := r.restartable s }
  running : st.running = r.restartable s
  started : ∀ id ∈ r.restartable s, id ∈ st.sessions.running
  foreground : st.sessions.current = s.current
  honest : st.sessions.denied = []
  known : ∀ e ∈ st.events, r.Knows s.current e

theorem restarts_startAll (r : Registry) (s : Sessions) (honest : s.denied = []) (millis : Int64) :
    r.Restarts s (r.startAll s millis).1 (r.startAll s millis).2 := by
  have begins := begins_foldl_startOne millis { sessions := s } honest
    (r.users.filter (· != s.current))
  obtain ⟨es, said, about⟩ := begins.events
  refine ⟨?_, begins.running, begins.started, (spares_startAll r s millis).sessions.foreground,
    begins.denied.trans honest, fun e mem _ => ?_⟩
  · exact congrArg (fun ids => { r with restarted := ids }) begins.running
  · have same : (r.startAll s millis).2.events = es := said
    have listed := List.mem_filter.1 (about e (same ▸ mem))
    exact ⟨listed.1, bne_iff_ne.1 listed.2⟩

/-- Whoever is restarted of the users of a registry is listed as such, in the order of the
    entries. -/
theorem restartedHere_restartable (r : Registry) (s : Sessions) :
    { r with restarted := r.restartable s }.restartedHere = r.restartable s := by
  rw [restartedHere, restartable, startable, List.filter_filter]
  refine List.filter_congr fun id mem => ?_
  rw [Bool.eq_iff_iff, List.contains_iff_mem, List.mem_filter]
  exact ⟨And.right, fun both => ⟨mem, both⟩⟩

end Registry

end HeadUnit
