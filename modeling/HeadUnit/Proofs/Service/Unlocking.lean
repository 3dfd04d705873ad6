import HeadUnit.Proofs.Service.Listening

/-!
# Switches that wait for their target to unlock

After its commit, a switch stays tracked until its target unlocks; then the vehicle is
told. But that a user has unlocked is told only if it was locked before: a switch to a
user who is unlocked already waits for news that nobody sends.

The main statement, `foundUnlocked_of_settled`, says that there is no other reason for
which the desk of a settled service waits. It rests on `IsRun.watched`: the published run
is watched in every state, if those are excused whom the operating system found unlocked
when it switched. Requests keep a run watched (`Watched.asked`), as they make the desk wait
for nobody; so does a switch of the operating system (`Watched.switched`), as during a
commit the news of an unlocking get to the bus (`onWay_of_switched`) and not past the desk.

That a desk waits for users who are unlocked does happen (`awaited_while_unlocked`).
-/

namespace HeadUnit.Service

open Switching (Desk)
open HeadUnit.Service.System

/-! ## Switches that are asked for -/

/-- What is asked of a desk in service is possible. -/
theorem Asks.allowed {s : System} {m : Move} {q : Switching.Move} (asks : Asks s m q)
    {h : Switching.History} {d : Desk} {count : Nat} {switches : List (Token × UserId)}
    (service : InService h d s.nextId count switches) : Switching.Allowed h d q := by
  cases q with
  | request v p k target timeout =>
    obtain rfl : k = s.nextId := asks
    exact fun mem => Nat.lt_irrefl _ (service.tickets _ mem)
  | initiate => trivial
  | _ => exact asks.elim

/-- A desk that is asked for a switch waits for nobody new. -/
theorem Watched.asked {excused : Transaction → Prop} {r : Run} {es : Hand}
    (watched : Watched excused r es) {s : System} {m : Move} {q : Switching.Move}
    (asks : Asks s m q) {count : Nat} {switches : List (Token × UserId)}
    (serves : Serves s.nextId count switches r.desk) :
    Watched excused { r with desk := (Switching.Moment.mk r.desk q).after } es := by
  obtain ⟨h, service⟩ := serves
  have retains : Retains r.desk (Switching.Moment.mk r.desk q).after.standing := by
    refine .after (.of_change (service.run.change (asks.allowed service)) rfl ?_)
    rintro v fault rfl
    exact asks
  exact watched.retains ⟨watched.tended.attached, watched.tended.silent⟩ retains
    (fun user accepts way => way.desk (retains.news accepts.desk user))
    fun accepts => ⟨accepts.bus, retains.shut accepts.desk⟩

/-! ## Commits -/

/-- The end of a commit leaves the commands alone, and does not close the desk. -/
theorem pending_of_committed {d : Desk} {v : Switching.View} {fault : Option Fault}
    {s : Switching.Standing} (change : Switching.Change d (.committed v fault) s) :
    s.pending = d.pending ∧ s.closed = d.closed := by
  cases change with
  | closed tx w down => rcases down with e | e <;> cases e
  | adjusted other => cases other
  | _ => exact ⟨rfl, rfl⟩

/-- After a commit the desk waits for whom it waited for, or for the target of the
    commit, and then with a token. -/
theorem awaits_of_committed {h : Switching.History} {d : Desk} {ids count : Nat}
    {switches : List (Token × UserId)} (service : InService h d ids count switches)
    (few : count < 2 ^ 64) (minted : ∀ x ∈ switches, x.1.isSet = true) {c : Switching.Commit}
    (doing : d.worker = .committing c) {v : Switching.View} {fault : Option Fault}
    {t : Transaction} (awaits : Awaits (Switching.Moment.mk d (.committed v fault)).after t) :
    Awaits d t ∨ fault = none ∧ t.target = c.target ∧ t.token.isSet = true := by
  have able : Switching.Allowed h d (.committed v fault) := by
    rw [Switching.Allowed, doing]
    rfl
  have origin := service.run.origin_of_committing doing
  have change := service.run.change able
  have tracked : (Switching.Moment.mk d (.committed v fault)).outcome.tx = some t := awaits.tracked
  generalize (Switching.Moment.mk d (.committed v fault)).outcome = s at change tracked
  cases change with
  | commitSuperseded | directFailed | directDone | initiatedFailed =>
    exact .inl ⟨tracked, awaits.stage⟩
  | commitFailed => cases tracked
  | commitDone a doing' current =>
    cases doing.symm.trans doing'
    -- What is tracked is the transaction of the answer, as no number is given out twice.
    have limit := Nat.lt_of_le_of_lt service.few few
    obtain ⟨t₀, tracked₀, same⟩ :=
      service.run.sameSwitch_of_isCurrent limit origin.1.1 current
    simp only [Switching.Standing.say, tracked₀, Option.map_some] at tracked
    obtain rfl := Option.some.inj tracked
    exact .inr ⟨rfl, same.target, origin.2.token⟩
  | initiatedDone doing' =>
    cases doing.symm.trans doing'
    obtain rfl := Option.some.inj tracked
    exact .inr ⟨rfl, rfl, minted _ (service.initiated _ _ origin.1)⟩
  | closed tx w down => rcases down with e | e <;> cases e
  | adjusted other => cases other

/-- A commit keeps a run watched, if its target is excused or the news of the unlocking
    are on their way. -/
theorem Watched.committed {excused : Transaction → Prop} {r : Run} {es : Hand}
    (watched : Watched excused r es) {ids count : Nat} {switches : List (Token × UserId)}
    (serves : Serves ids count switches r.desk) (few : count < 2 ^ 64)
    (minted : ∀ x ∈ switches, x.1.isSet = true) {c : Switching.Commit}
    (doing : r.desk.worker = .committing c) {v : Switching.View} {fault : Option Fault}
    (told : fault = none → r.Accepts → ∀ t, t.target = c.target →
      excused t ∨ OnWay t.target r es) :
    Watched excused { r with desk := (Switching.Moment.mk r.desk (.committed v fault)).after }
      es := by
  obtain ⟨h, service⟩ := serves
  have able : Switching.Allowed h r.desk (.committed v fault) := by
    rw [Switching.Allowed, doing]
    rfl
  obtain ⟨pending, closed⟩ := pending_of_committed (service.run.change able)
  refine ⟨⟨watched.tended.attached, watched.tended.silent⟩, fun t awaits => ?_,
    fun accepts t awaits => ?_⟩
  · rcases awaits_of_committed service few minted doing awaits with before | ⟨_, _, set⟩
    · exact watched.set t before
    · exact set
  · have accepts' : r.Accepts := ⟨accepts.bus, closed.symm.trans accepts.desk⟩
    -- Neither the bus nor the commands of the desk have changed.
    have either : excused t ∨ OnWay t.target r es := by
      rcases awaits_of_committed service few minted doing awaits with before | ⟨done, target, _⟩
      · exact watched.news accepts' t before
      · exact told done accepts' t target
    refine either.imp_right fun way => (way.desk fun mem => .inl ?_).resolve_right id
    have mem' : .unlocked t.target ∈ (r.desk.pending : Multiset Switching.Command) := mem
    rw [← pending] at mem'
    exact mem'

/-! ## Events of the sessions -/

/-- Among the events of a switch to a locked user is that it has unlocked. -/
theorem mem_events_of_switchTo {s s' : Sessions} {user : UserId} {millis : Int64}
    {es : List Event} (ok : s.switchTo user millis = .ok (s', es))
    (locked : s.isUnlocked user = false) : Event.about .unlocked user millis ∈ es := by
  unfold Sessions.switchTo at ok
  split at ok
  · cases ok
  · cases ok
    simp [locked]

section Events

variable {i ids count : Nat} {switches : List (Token × UserId)} {c : Switching.Commit}
  {user : UserId} {e : Event}

/-- An event that reaches the published run during a commit is on its way, whatever
    events follow. -/
theorem onWay_of_event {s : System} {r r' : Run} (here : s.runs[i]? = some r)
    (serves : Serves ids count switches r.desk) (tended : r.Tended)
    (doing : r.desk.worker = .committing c) (tells : Desk.commandOf? e = some (.unlocked user))
    {es : List Event} (published : (es.foldl onEvent (s.onEvent e)).published = some i)
    (there : (es.foldl onEvent (s.onEvent e)).runs[i]? = some r') (accepts : r'.Accepts) :
    OnWay user r' [] := by
  have same : s.published = some i :=
    (follows_onEvent s e).kept ((follows_foldl_onEvent _ es).kept published)
  have posting : s.onEvent e = (s.onBus i (·.dispatch e)).flushBus i := by
    simp only [onEvent, same]
  rw [posting] at there
  -- First the event is posted, then what follows is steps of the run.
  have step := Run.Step.bus r [] (.dispatch e) trivial
  have follows := (follows_flushBus (s.onBus i (·.dispatch e)) i).trans (follows_foldl_onEvent _ es)
  obtain ⟨r₁, there₁, steps⟩ := follows.runs i { r with bus := r.bus.dispatch e }
    (by simp [onBus, onRun, here])
  obtain rfl : r₁ = r' := Option.some.inj (there₁.symm.trans there)
  have isOpen : r.bus.closed = false :=
    (step.accepts serves (Run.Steps.accepts steps (step.serves serves) accepts)).bus
  refine Run.Steps.onWay steps (step.serves serves) (step.tended tended) accepts doing
    (.due tells (.inl ?_))
  simp [Bus.dispatch, isOpen, Bus.standing, Bus.Item.event?]

/-- So are events that reach it one after the other. -/
theorem onWay_of_events {s : System} {r r' : Run} (here : s.runs[i]? = some r)
    (serves : Serves ids count switches r.desk) (tended : r.Tended)
    (doing : r.desk.worker = .committing c) (tells : Desk.commandOf? e = some (.unlocked user))
    {es : List Event} (mem : e ∈ es) (published : (es.foldl onEvent s).published = some i)
    (there : (es.foldl onEvent s).runs[i]? = some r') (accepts : r'.Accepts) :
    OnWay user r' [] := by
  induction es generalizing s r with
  | nil => exact absurd mem List.not_mem_nil
  | cons e' es ih =>
    rcases List.mem_cons.1 mem with rfl | later
    · exact onWay_of_event here serves tended doing tells published there accepts
    · obtain ⟨r₁, here₁, steps⟩ := (follows_onEvent s e').runs i r here
      exact ih here₁ (Run.Steps.serves steps serves) (Run.Steps.tended steps tended)
        (Run.Steps.committing steps serves doing) later published there

end Events

/-- The operating system switches to a locked user: that it has unlocked is on its way. -/
theorem onWay_of_switched {s s₁ : System} {i ids count : Nat} {switches : List (Token × UserId)}
    {r r₁ : Run} {c : Switching.Commit} (sink : s.sink = .service) (here : s.runs[i]? = some r)
    (serves : Serves ids count switches r.desk) (tended : r.Tended)
    (doing : r.desk.worker = .committing c)
    (switched : s.onSessions .worker (s.sessions.switchTo c.target s.millis) = (s₁, none))
    (locked : s.sessions.isUnlocked c.target = false) (published : s₁.published = some i)
    (there : s₁.runs[i]? = some r₁) (accepts : r₁.Accepts) : OnWay c.target r₁ [] := by
  cases result : s.sessions.switchTo c.target s.millis with
  | error f => simp [result, onSessions] at switched
  | ok x =>
    obtain ⟨sessions, es⟩ := x
    have handed : es.foldl onEvent { s with sessions := sessions } = s₁ := by
      simpa [result, onSessions, emitEvents, sink] using switched
    rw [← handed] at published there
    exact onWay_of_events (s := { s with sessions := sessions }) here serves tended doing rfl
      (mem_events_of_switchTo result locked) published there accepts

/-- When the operating system has switched for its desk, a run is still watched, if the
    target is excused as well in case it was unlocked before. -/
theorem Watched.switched {excused : Transaction → Prop} {s s₁ : System} {i ids count : Nat}
    {switches : List (Token × UserId)} {r r₁ : Run} (watched : Watched excused r [])
    (sink : s.sink = .service) (here : s.runs[i]? = some r)
    (serves : Serves ids count switches r.desk) (few : count < 2 ^ 64)
    (minted : ∀ x ∈ switches, x.1.isSet = true) {c : Switching.Commit}
    (doing : r.desk.worker = .committing c) {v : Switching.View} {fault : Option Fault}
    (switched : s.onSessions .worker (s.sessions.switchTo c.target s.millis) = (s₁, fault))
    (published : s₁.published = some i) (there : s₁.runs[i]? = some r₁)
    (steps : Run.Steps (r, []) (r₁, [])) :
    Watched (fun t => excused t ∨ s.sessions.isUnlocked t.target = true ∧ c.target = t.target)
      { r₁ with desk := (Switching.Moment.mk r₁.desk (.committed v fault)).after } [] := by
  have before := (Run.Steps.watched steps serves watched).mono fun t (fine : excused t) =>
    (Or.inl fine : excused t ∨ s.sessions.isUnlocked t.target = true ∧ c.target = t.target)
  refine before.committed (Run.Steps.serves steps serves) few minted
    (Run.Steps.committing steps serves doing) ?_
  rintro rfl accepts t target
  cases locked : s.sessions.isUnlocked t.target with
  | true => exact .inl (.inr ⟨rfl, target.symm⟩)
  | false =>
    rw [target] at locked ⊢
    exact .inr (onWay_of_switched sink here serves watched.tended doing switched locked published
      there accepts)

/-! ## Runs -/

/-- For the run `i`, the operating system switches to the target of `t` and finds it
    unlocked; the desk waits for it all the same. -/
structure Moment.FindsUnlocked (m : Moment) (i : Nat) (t : Transaction) : Prop where
  move : m.move = .act (.commit i)
  commit : ∃ r c, m.before.runs[i]? = some r ∧ r.desk.worker = .committing c ∧
    c.target = t.target
  unlocked : m.before.sessions.isUnlocked t.target = true
  awaits : ∃ r, m.after.runs[i]? = some r ∧ Awaits r.desk t

/-- When it switched for the transaction `t` of the run `i`, the operating system found
    the target unlocked. -/
def History.FoundUnlocked (h : History) (i : Nat) (t : Transaction) : Prop :=
  ∃ m ∈ h, m.FindsUnlocked i t

/-- A run whose desk nobody has asked for a switch is watched once the desk listens. -/
theorem Watched.of_unasked {excused : Transaction → Prop} {r : Run} (tended : r.Tended)
    (unasked : IsUnasked r.desk.standing) : Watched excused r [] := by
  have none (t : Transaction) (awaits : Awaits r.desk t) : False :=
    nomatch unasked.tx.symm.trans awaits.tracked
  exact ⟨tended, fun t awaits => (none t awaits).elim, fun _ t awaits => (none t awaits).elim⟩

/-- The published run is watched, in every state of a run of the service. -/
theorem IsRun.watched {h : History} {s : System} (run : IsRun h s) (few : h.length < 2 ^ 64)
    (minted : ∀ x ∈ h.initiated, x.1.isSet = true) {i : Nat} {r : Run}
    (published : s.published = some i) (here : s.runs[i]? = some r) :
    Watched (h.FoundUnlocked i) r [] := by
  induction run generalizing i r with
  | new made w =>
    rw [eq_fresh_of_new made] at here
    cases here
  | @step h s m run proper ih =>
    have change := (Moment.mk s m).change proper
    have after := run.step proper
    rw [List.length_append, List.length_singleton] at few
    rw [History.initiated_snoc] at minted
    have few' : h.length < 2 ^ 64 := Nat.lt_of_succ_lt few
    have minted' : ∀ x ∈ h.initiated, x.1.isSet = true := fun x mem =>
      minted x (List.mem_append_left _ mem)
    have more (t : Transaction) :
        h.FoundUnlocked i t → History.FoundUnlocked (h ++ [⟨s, m⟩]) i t := by
      rintro ⟨m', mem, found⟩
      exact ⟨m', List.mem_append_left _ mem, found⟩
    cases change.turn here with
    | @stepped r₀ before steps kept =>
      have watched := ih few' minted' (kept published) before
      exact (Run.Steps.watched steps (run.serves before) watched).mono more
    | @asked r₀ q before asks numbered published' steps =>
      have watched := (ih few' minted' published' before).asked asks (run.serves before)
      have serves := (run.serves before).asked asks numbered
        (List.subset_append_left _ m.initiated?.toList)
        fun x own => List.mem_append_right _ (Option.mem_toList.2 own)
      exact (Run.Steps.watched steps serves watched).mono more
    | @committed r₀ r₁ c s₁ v fault move before doing switched there first steps kept =>
      -- The run is still published when the desk learns that the switch is over, so the
      -- events of the switch have reached its bus.
      have follows := follows_onSessions s .worker (s.sessions.switchTo c.target s.millis)
      rw [show s.onSessions .worker _ = (s₁, fault) from switched] at follows
      have watched₀ := ih few' minted' (follows.kept (kept published)) before
      have watched := watched₀.switched (v := v) run.sink before (run.serves before) few' minted'
        doing switched (kept published) there first
      obtain ⟨tended, set, news⟩ :=
        Run.Steps.watched steps (Run.Steps.serves first (run.serves before)).committed watched
      refine ⟨tended, set, fun accepts t awaits => (news accepts t awaits).imp_left ?_⟩
      rintro (old | ⟨unlocked, target⟩)
      · exact more t old
      · exact ⟨⟨s, m⟩, List.mem_append_right _ List.mem_cons_self, move,
          ⟨r₀, c, before, doing, target⟩, unlocked, r, here, awaits⟩
    | published before steps call work =>
      -- Nobody has asked its desk for a switch yet.
      have tasks := run.orderly.task call (by rw [work]; rfl)
      rw [work] at tasks
      exact .of_unasked ⟨after.attached_of_published published here rfl, after.silent here⟩
        (Run.Steps.unasked steps (run.serves before) (run.unasked_of_wiring tasks before))
    | built bus desk =>
      exact .of_unasked ⟨after.attached_of_published published here rfl, after.silent here⟩
        (desk ▸ .fresh ..)

/-! ## Settled runs -/

/-- Bus and desk run and have nothing to do, and no trip is outstanding. -/
structure Run.Settled (r : Run) : Prop where
  accepts : r.Accepts
  events : r.bus.queue = []
  delivered : r.bus.worker = .idle
  commands : r.desk.pending = []
  idle : r.desk.worker = .idle
  trips : r.desk.trips = []

instance Run.decidableSettled (r : Run) : Decidable r.Settled :=
  decidable_of_iff (r.bus.closed = false ∧ r.desk.closed = false ∧ r.bus.queue = [] ∧
      r.bus.worker = .idle ∧ r.desk.pending = [] ∧ r.desk.worker = .idle ∧ r.desk.trips = [])
    ⟨fun ⟨bus, desk, events, delivered, commands, idle, trips⟩ =>
      ⟨⟨bus, desk⟩, events, delivered, commands, idle, trips⟩,
    fun ⟨⟨bus, desk⟩, events, delivered, commands, idle, trips⟩ =>
      ⟨bus, desk, events, delivered, commands, idle, trips⟩⟩

/-- In a settled run no news are on their way. -/
theorem Run.Settled.not_onWay {r : Run} (settled : r.Settled) (tended : r.Tended)
    (user : UserId) : ¬OnWay user r [] := by
  rintro (⟨_, queued | turn | asked⟩ | ⟨_, mem⟩ | mem)
  · simp [Bus.standing, settled.events] at queued
  · simp [Bus.standing, settled.delivered, Bus.Worker.pending] at turn
  · rw [tended.silent] at asked
    exact absurd asked List.not_mem_nil
  · exact absurd mem List.not_mem_nil
  · rw [settled.commands] at mem
    exact absurd mem List.not_mem_nil

/-- Once the published run of a service has settled, its desk waits for a user to unlock
    only if the operating system found that user unlocked when it switched for the desk: a
    switch to a user who was locked is not tracked any more. -/
theorem foundUnlocked_of_settled {h : History} {s : System} (run : IsRun h s)
    (few : h.length < 2 ^ 64) (minted : ∀ x ∈ h.initiated, x.1.isSet = true) {i : Nat} {r : Run}
    (published : s.published = some i) (here : s.runs[i]? = some r) (settled : r.Settled)
    {t : Transaction} (awaits : Awaits r.desk t) : h.FoundUnlocked i t := by
  have watched := run.watched few minted published here
  rcases watched.news settled.accepts t awaits with found | way
  · exact found
  · exact absurd way (settled.not_onWay watched.tended t.target)

namespace Sample

/-- Ann is one of the users, and the system user is in the foreground. -/
def world : Surroundings :=
  { roster := Roster.fresh.put ⟨10, "Ann", "full.secondary", Flags.none, UserId.null, true⟩ }

/-- A switch to a user, which the vehicle approves; then the bus makes so many steps, and users
    that were looked up are recorded. -/
def switch (user : UserId) (ask : Nat) (token : String) (steps : Nat) : List Action :=
  let begun : List Action := [.perform {} (.switchUser user 0), .launch 0 (ask - 1),
    .answered ask (.switch ⟨⟨token⟩, .approved, ""⟩) none, .deskWork 0, .commit 0]
  begun.append (List.replicate steps [.busStep 0, .record 0]).flatten

/-- The service starts, switches to Ann, who is locked, and back to the system user, who
    is unlocked all the time. -/
def actions : List Action :=
  List.flatten [startUp 1, [.busStep 0], switch 10 3 "A" 26, [.deskWork 0, .deskWork 0],
    switch UserId.system 5 "B" 6, [.deskWork 0]]

def state : History × System :=
  played [] ((System.fresh Config.default.withDefaults).within world) (actions.map .act)

theorem isRun : IsRun state.1 state.2 := by
  have made : new Config.default true true = .ok (System.fresh Config.default.withDefaults) := by
    rfl
  have none : ∀ m ∈ actions.map Move.act, m.offered? = none := by decide
  refine (IsRun.new made world).play fun m mem l offered => ?_
  exact nomatch (none m mem).symm.trans offered

/-- The switch back to the system user. -/
def back : Transaction := ⟨UserId.system, ⟨"B"⟩, 10, .awaitingUnlockAck, 2⟩

theorem published : state.2.published = some 0 := by decide +kernel

theorem minted : ∀ x ∈ state.1.initiated, x.1.isSet = true := by
  have none : state.1.initiated = [] := by decide +kernel
  rw [none]
  exact fun _ mem => absurd mem List.not_mem_nil

/-- Nothing is left to do, and the desk waits for the system user to unlock. -/
theorem settled : ∃ r, state.2.runs[0]? = some r ∧ r.Settled ∧ Awaits r.desk back := by
  have all : state.2.runs[0]?.any (fun r => r.bus.closed = false ∧ r.desk.closed = false ∧
      r.bus.queue = [] ∧ r.bus.worker = .idle ∧ r.desk.pending = [] ∧ r.desk.worker = .idle ∧
      r.desk.trips = [] ∧ r.desk.tx = some back) = true := by decide +kernel
  obtain ⟨r, here, all⟩ := Option.any_eq_true _ _ |>.1 all
  obtain ⟨bus, desk, queue, delivered, pending, idle, trips, tx⟩ := of_decide_eq_true all
  exact ⟨r, here, ⟨⟨bus, desk⟩, queue, delivered, pending, idle, trips⟩, tx, rfl⟩

end Sample

/-- The desk waits for the system user to unlock, who was unlocked when the operating
    system switched. -/
theorem foundUnlocked_of_sample : ∃ r, Sample.state.2.runs[0]? = some r ∧ r.Settled ∧
    Awaits r.desk Sample.back ∧ Sample.state.1.FoundUnlocked 0 Sample.back := by
  obtain ⟨r, here, settled, awaits⟩ := Sample.settled
  have few : Sample.state.1.length < 2 ^ 64 := by decide +kernel
  exact ⟨r, here, settled, awaits,
    foundUnlocked_of_settled Sample.isRun few Sample.minted Sample.published here settled awaits⟩

/-- So it is not true that a desk waits only for users who are locked. -/
theorem awaited_while_unlocked : ¬∀ (h : History) (s : System) (i : Nat) (r : Run)
    (t : Transaction), IsRun h s → (∀ x ∈ h.initiated, x.1.isSet = true) →
    s.published = some i → s.runs[i]? = some r → r.Settled → Awaits r.desk t →
    s.sessions.isUnlocked t.target = false := by
  intro locked
  obtain ⟨r, here, settled, awaits⟩ := Sample.settled
  have unlocked : Sample.state.2.sessions.isUnlocked Sample.back.target = true := by decide +kernel
  have := locked _ _ 0 r Sample.back Sample.isRun Sample.minted Sample.published here settled awaits
  exact nomatch this.symm.trans unlocked

end HeadUnit.Service
