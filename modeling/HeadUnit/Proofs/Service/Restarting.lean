import HeadUnit.Proofs.Service.Calm

/-!
# Restarting leaves the registry alone

The users of the registry are started in the background, and the sessions tell the service who
starts and who unlocks. This goes back to the registry, through the bus of the published run, and
whoever unlocks would be put among the entries. But the events are about users that are listed,
and not in the foreground, so they are no news to it (`Registry.restarts_startAll`,
`Registry.add_of_knows`).

`expects_startBackground` says what the call leaves behind, and `Undisturbed.played` that nothing
of it changes by what goes on behind the calls: while the events are delivered, and after that.
Together they are `restart_leaves_registry`.
-/

namespace HeadUnit.Service

open HeadUnit.Service.System

variable {P : Event → Prop} {s : System}

/-- What goes on behind the calls, one thing after the other. -/
theorem System.Undisturbed.played (expects : s.Expects P) (knows : s.Knows P) (h : History)
    {ms : List Move} (passive : ∀ x ∈ (Service.played [] s ms).1, x.IsPassive) :
    Undisturbed P s (Service.played h s ms).2 := by
  induction ms generalizing h s with
  | nil => exact .refl expects
  | cons m ms ih =>
    rw [played_cons] at passive
    have moved := Undisturbed.passive expects knows (passive _ List.mem_cons_self)
    have taken : Undisturbed P s (Moment.mk s m).after :=
      moved.trans ⟨moved.expects.of_runs rfl, rfl, rfl, rfl⟩
    exact taken.trans (ih taken.expects (taken.knows knows) _ fun x mem =>
      passive x (List.mem_cons_of_mem _ mem))

/-- The users of the registry are restarted, and what the registry is to be told of it is no
    news. -/
theorem expects_startBackground (honest : s.sessions.denied = [])
    (expects : s.Expects (s.registry.Knows s.sessions.current)) (id : Nat) :
    let users := s.registry.restartable s.sessions
    let t := s.startBackground id
    t.Expects (s.registry.Knows s.sessions.current) ∧
      t.registry = { s.registry with restarted := users } ∧
      t.sessions = (s.registry.startAll s.sessions s.millis).2.sessions ∧
      .returned id (.users users) ∈ t.out := by
  have restarts := s.registry.restarts_startAll s.sessions honest s.millis
  rw [startBackground, startRegistered]
  generalize s.registry.startAll s.sessions s.millis = all at restarts
  obtain ⟨registry, st⟩ := all
  obtain ⟨rfl, running, -, foreground, -, known⟩ := restarts
  let begun : System := { s with
    registry := { s.registry with restarted := s.registry.restartable s.sessions }
    sessions := st.sessions }
  have noted : (begun.notes st.notes).Expects (s.registry.Knows s.sessions.current) :=
    (expects.of_runs rfl : begun.Expects _).quiet (quiet_notes ..)
  have books : (begun.notes st.notes).books = begun.books := books_notes ..
  have registry : (begun.notes st.notes).registry = begun.registry := congrArg Books.registry books
  have sessions : (begun.notes st.notes).sessions = st.sessions := congrArg Books.sessions books
  have knows : (begun.notes st.notes).Knows (s.registry.Knows s.sessions.current) := by
    intro e mem
    rw [registry, sessions, foreground]
    exact mem
  have told := Undisturbed.emitEvents noted (.caller id) known
  dsimp only
  refine ⟨?_, ?_, ?_, ?_⟩
  · exact told.expects.quiet ((quiet_note ..).trans (quiet_finish ..))
  · exact told.registry.trans registry
  · exact told.sessions.trans sessions
  · rw [running]
    exact List.mem_append_right _ (List.mem_singleton_self _)

/-- Restarting the users of the background leaves the registry alone.

    The call returns, in the order of the entries, the users that are not in the foreground and
    whose start is not made to fail. Whatever goes on behind the calls then, so also when all
    events were delivered, the registry has but these users marked as restarted, all of them
    run, and they are the restarted users of the service. -/
theorem restart_leaves_registry (honest : s.sessions.denied = [])
    (expects : s.Expects (s.registry.Knows s.sessions.current)) (h : History) (ctx : Context)
    {ms : List Move} (passive : ∀ x ∈ (played []
      (Moment.mk s (.act (.perform ctx .startBackground))).after ms).1, x.IsPassive) :
    let users := s.registry.restartable s.sessions
    let restart := Moment.mk s (.act (.perform ctx .startBackground))
    let later := (played (h ++ [restart]) restart.after ms).2
    .returned s.nextId (.users users) ∈ (s.move restart.move).out ∧
      later.registry = { s.registry with restarted := users } ∧
      (∀ user ∈ users, later.sessions.reportsRunning user = true) ∧
      later.restartedUsers = users := by
  intro users restart later
  have restarts := s.registry.restarts_startAll s.sessions honest s.millis
  have moved : s.move restart.move = s.freshId.2.startBackground s.nextId := rfl
  obtain ⟨still, registry, sessions, returned⟩ :=
    expects_startBackground (s := s.freshId.2) honest (expects.quiet (quiet_freshId s)) s.nextId
  rw [← moved] at still registry sessions returned
  have taken : restart.after.Expects (s.registry.Knows s.sessions.current) := still.of_runs rfl
  -- From the restart on, only who is marked as restarted and who runs is different.
  have marked : restart.after.registry = { s.registry with restarted := users } := registry
  have started : restart.after.sessions = (s.registry.startAll s.sessions s.millis).2.sessions :=
    sessions
  have knows : restart.after.Knows (s.registry.Knows s.sessions.current) := by
    intro e mem
    rw [marked, started, restarts.foreground]
    exact mem
  have after := Undisturbed.played taken knows (h ++ [restart]) passive
  refine ⟨returned, after.registry.trans marked, fun user mem => ?_, ?_⟩
  · rw [after.sessions, started, Sessions.reportsRunning, Sessions.isRunning, restarts.honest,
      List.contains_iff_mem.2 (restarts.started user mem)]
    rfl
  · rw [restartedUsers, after.registry, marked]
    exact s.registry.restartedHere_restartable s.sessions

namespace Restarting.Sample

def config : Config := { Config.default with maxRunning := 5 }

/-- Users with these ids, and the system user. -/
def roster (ids : List UserId) : Roster :=
  ids.foldl (fun r id => r.put ⟨id, "", Kind.full, ⟨0⟩, UserId.null, true⟩) Roster.fresh

/-- Four users are persisted, the first of whom is in the foreground. Of the others, one cannot be
    started, and one cannot be unlocked. -/
def world : Surroundings where
  roster := roster [10, 11, 12, 13]
  sessions := { Sessions.fresh 10 with
    startFaults := [(12, .canceled)]
    unlockFaults := [(13, .canceled)] }
  repository :=
    { medium := .memory ⟨[⟨10, 4⟩, ⟨11, 3⟩, ⟨12, 2⟩, ⟨13, 1⟩], 10, 4, UserId.null, Stamp.unset⟩ 0 }

/-- The service starts, and its bus settles. -/
def actions : List Action := startUp 1 ++ [.busStep 0, .busStep 0]

def state : History × System :=
  played [] ((System.fresh config).within world) (actions.map .act)

theorem isRun : IsRun state.1 state.2 :=
  have none : ∀ a ∈ actions, (Move.act a).offered? = none := by decide
  (IsRun.new (rfl : new config true true = .ok (System.fresh config)) world).play
    (Move.proper_of_acts none)

theorem settled : state.2.Settled := by decide +kernel

/-- Nobody tells the registry anything. -/
theorem expects : state.2.Expects (state.2.registry.Knows state.2.sessions.current) :=
  fun r mem => ((isRun.calm settled) r mem).mono nofun

/-- The users are restarted. -/
def restart : Moment := ⟨state.2, .act (.perform {} .startBackground)⟩

/-- The steps by which the events are delivered, and whoever has unlocked is recorded. -/
def delivery : List Move := List.flatten (List.replicate 24 [.act (.busStep 0), .act (.record 0)])

theorem isPassive : ∀ x ∈ (played [] restart.after delivery).1, x.IsPassive := by
  intro x mem
  have made := move_mem_of_played mem
  simp only [delivery, List.mem_flatten, List.mem_replicate] at made
  obtain ⟨_, ⟨_, rfl⟩, either⟩ := made
  rcases List.mem_pair.1 either with same | same
  all_goals
    rw [Moment.IsPassive, same]
    trivial

end Restarting.Sample

open Restarting.Sample in
/-- Of the three users in the background, two are restarted. That leaves the bus with events to
    deliver, and when nothing is left to do, the entries are as before. -/
theorem restart_of_sample :
    let later := (played [restart] restart.after delivery).2
    ¬restart.after.Settled ∧ later.Settled ∧
      later.registry.entries = [⟨10, 4⟩, ⟨11, 3⟩, ⟨12, 2⟩, ⟨13, 1⟩] ∧
      later.registry.counter = 4 ∧ later.registry.promoted = 10 ∧
      later.restartedUsers = [11, 13] ∧ later.sessions.isUnlocked 11 = true := by
  have users : state.2.registry.restartable state.2.sessions = [11, 13] := by decide +kernel
  have before : state.2.registry.entries = [⟨10, 4⟩, ⟨11, 3⟩, ⟨12, 2⟩, ⟨13, 1⟩] := by decide +kernel
  have counter : state.2.registry.counter = 4 := by decide +kernel
  have promoted : state.2.registry.promoted = 10 := by decide +kernel
  obtain ⟨-, registry, -, restarted⟩ :=
    restart_leaves_registry (s := state.2) (by decide +kernel) expects [] {} isPassive
  intro later
  have same : later.registry = { state.2.registry with restarted := [11, 13] } := users ▸ registry
  refine ⟨by decide +kernel, by decide +kernel, ?_, ?_, ?_, users ▸ restarted, by decide +kernel⟩
  · rw [same, before]
  · rw [same, counter]
  · rw [same, promoted]

end HeadUnit.Service
