import HeadUnit.Proofs.Bus.Attachment
import HeadUnit.Proofs.Service.Desks

/-!
# News on their way

That a user has unlocked is *on its way* to a desk (`OnWay`) from the moment the event
is posted to the bus until the worker of the desk takes it. A run of the service is
*watched* (`Watched`) if the desk waits for no user but those the news of whose unlocking
are on their way, and those that are *excused*.

* `Retains`: what every move of a desk does, but for the end of a commit: the desk
  waits for nobody new, and loses no news but those its worker takes;
* `Run.Steps.onWay`: during a commit no news get lost;
* `Run.Steps.watched`: whatever a run does by itself, it stays watched.
-/

namespace HeadUnit.Service

open Switching (Desk)

/-! ## Listeners of a run -/

/-- The listeners that a run has itself. -/
def Listener.isOwn : Listener → Bool
  | .desk | .registry => true
  | .outside _ => false

/-- From `b` to `b'`, nobody takes away the listeners of a run. -/
structure Tends (b b' : Bus Listener Nat) : Prop where
  kept : ∀ {l : Listener}, l.isOwn = true → .removeLocal l ∉ b.standing.orders →
    .removeLocal l ∉ b'.standing.orders
  attached : ∀ {l : Listener}, l.isOwn = true → b.standing.Attached l → b'.standing.Attached l

namespace Tends

variable {b b' b'' : Bus Listener Nat}

theorem refl (b : Bus Listener Nat) : Tends b b := ⟨fun _ => id, fun _ => id⟩

theorem trans (one : Tends b b') (other : Tends b' b'') : Tends b b'' :=
  ⟨fun own => other.kept own ∘ one.kept own, fun own => other.attached own ∘ one.attached own⟩

theorem move (b : Bus Listener Nat) {m : Bus.Move Listener Nat}
    (outer : ∀ l : Listener, l.isOwn = true → m ≠ .unregister (.listener l)) :
    Tends b (b.move m) := by
  have change := Bus.change_move b m
  have none {l : Listener} (own : l.isOwn = true) : .posted (.removeLocal l) ∉ b.occurrences m :=
    fun posted => outer l own (Bus.Move.eq_unregister_of_order? (Bus.order?_of_posted posted))
  exact ⟨fun own => change.kept (none own), fun own => change.attached (none own)⟩

/-- Only whoever is outside is removed from outside. -/
theorem of_outer (b : Bus Listener Nat) {m : Bus.Move Listener Nat} (outer : IsOuter m) :
    Tends b (b.move m) := by
  refine move b fun l own same => ?_
  subst same
  obtain ⟨id, rfl⟩ := outer
  cases own

theorem take (b : Bus Listener Nat) : Tends b b.take.2 :=
  ⟨fun _ => id, fun _ attached => attached.take⟩

theorem work (b : Bus Listener Nat) : Tends b (Bus.Moment.mk b .work).after :=
  (move b (m := .work) fun _ _ => nofun).trans (take _)

end Tends

/-- Whatever a run does by itself, its listeners stay. -/
theorem Run.Step.tends {x y : Run × Hand} (step : Run.Step x y) : Tends x.1.bus y.1.bus := by
  cases step with
  | bus r es m outer => exact .of_outer r.bus outer
  | worked r => exact .work r.bus
  | taken r => exact .take r.bus
  | passed r | called r | desk r | setting r | found r | reported r => exact .refl r.bus

theorem Run.Steps.tends {x y : Run × Hand} (steps : Run.Steps x y) : Tends x.1.bus y.1.bus := by
  induction steps with
  | refl => exact .refl _
  | tail _ step ih => exact ih.trans step.tends

/-! ## Desks that wait -/

/-- The desk tracks `t`, and waits for its target to unlock. -/
structure Awaits (d : Desk) (t : Transaction) : Prop where
  tracked : d.tx = some t
  stage : t.stage = .awaitingUnlockAck

/-- The desk `d`, whose standing is `s` then, waits for nobody new, is not opened again,
    goes on with its commit, and loses no news but those that its worker takes: the desk
    does not track a transaction with a token then that these are about. -/
structure Retains (d : Desk) (s : Switching.Standing) : Prop where
  tx : ∀ t, s.tx = some t → t.stage = .awaitingUnlockAck → d.tx = some t
  shut : s.closed = false → d.closed = false
  commit : ∀ c, d.worker = .committing c → s.worker = .committing c
  news : s.closed = false → ∀ user, .unlocked user ∈ d.pending → .unlocked user ∈ s.pending ∨
    d.worker = .idle ∧ ∀ t, s.tx = some t → t.target = user → t.token.isSet = false

/-- The worker takes the news that a user has unlocked: a transaction with a token that
    waits for this user is not tracked any more. -/
theorem isSet_of_unlocked {d : Desk} {v : Switching.View} {user : UserId} {t : Transaction}
    (idle : d.worker = .idle) (head : d.queue.head? = some (.unlocked user))
    (tracked : (d.move (.work v)).tx = some t) (target : t.target = user) :
    t.token.isSet = false := by
  obtain ⟨rest, queue⟩ := List.head?_eq_some_iff.1 head
  simp only [Desk.move, Desk.work?, idle, queue, Option.getD_some, Desk.apply] at tracked
  unfold Desk.applyUnlocked at tracked
  split at tracked
  · next none =>
    rw [none] at tracked
    cases tracked
  · next t' some =>
    split at tracked
    · cases tracked
    · next other =>
      obtain rfl : t' = t := Option.some.inj (some.symm.trans tracked)
      simpa [target] using other

namespace Retains

variable {d : Desk} {s : Switching.Standing}

/-- Nothing happens to the desk. -/
theorem same : Retains d d.standing :=
  ⟨fun _ tracked _ => tracked, id, fun _ doing => doing, fun _ _ mem => .inl mem⟩

/-- Commands are posted, and trips end at most. -/
theorem post (trips : Multiset Switching.Outstanding) (v : Switching.View)
    (cs : List Switching.Command) :
    Retains d (({ d.standing with trips := trips } : Switching.Standing).post v cs) := by
  unfold Switching.Standing.post
  split
  · exact ⟨fun _ tracked _ => tracked, id, fun _ doing => doing, fun _ _ mem => .inl mem⟩
  · exact ⟨fun _ tracked _ => tracked, id, fun _ doing => doing,
      fun _ _ mem => .inl (Multiset.mem_add.2 (.inl mem))⟩

/-- The worker takes a command. -/
theorem takes {c : Switching.Command} {rest : Multiset Switching.Command}
    (takes : Switching.Takes d c rest) (pending : s.pending = rest) (closed : s.closed = d.closed)
    (tx : ∀ t, s.tx = some t → t.stage = .awaitingUnlockAck → d.tx = some t)
    (done : ∀ user, c = .unlocked user → ∀ t, s.tx = some t → t.target = user →
      t.token.isSet = false) : Retains d s where
  tx := tx
  shut := fun free => closed ▸ free
  commit c' doing := nomatch takes.idle.symm.trans doing
  news _ user mem := by
    rw [pending]
    have mem' : .unlocked user ∈ (d.pending : Multiset Switching.Command) := mem
    rw [takes.pending, Multiset.mem_cons] at mem'
    rcases mem' with first | later
    · exact .inr ⟨takes.idle, done user first.symm⟩
    · exact .inl later

/-- What was said does not matter. -/
theorem after {q : Switching.Move} (retains : Retains d (d.move q).standing) :
    Retains d (Switching.Moment.mk d q).after.standing :=
  ⟨retains.tx, retains.shut, retains.commit, retains.news⟩

/-- Every move but the end of a commit. -/
theorem of_change {q : Switching.Move} (change : Switching.Change d q s)
    (out : (d.move q).standing = s) (other : ∀ v fault, q ≠ .committed v fault) :
    Retains d s := by
  cases change with
  | commitSuperseded | commitFailed | commitDone | directFailed | directDone | initiatedFailed
  | initiatedDone => exact absurd rfl (other _ _)
  | rejected | launched | adjusted => exact ⟨same.tx, same.shut, same.commit, same.news⟩
  | marked doing =>
    exact ⟨same.tx, same.shut, fun _ other => (nomatch doing.symm.trans other), same.news⟩
  | direct | initiated | events => exact post d.standing.trips ..
  | tripEnded o rest => exact post ..
  | installed tx new =>
    -- A new transaction waits for the vehicle first.
    refine ⟨fun t tracked stage => ?_, same.shut, same.commit, fun _ _ mem => .inl mem⟩
    obtain rfl : tx = t := Option.some.inj tracked
    rw [new] at stage
    cases stage
  | started new =>
    exact ⟨same.tx, same.shut, fun _ doing => (nomatch new.symm.trans doing), same.news⟩
  | superseded a rest t | directTaken rest t | initiatedTaken rest t =>
    exact takes t rfl rfl same.tx nofun
  | denied a rest t => exact takes t rfl rfl nofun nofun
  | unlocked tx rest t => exact takes t rfl rfl nofun fun _ _ => nofun
  | approved a rest t =>
    refine takes t rfl rfl (fun t' tracked stage => ?_) nofun
    obtain ⟨t₀, _, rfl⟩ := Option.map_eq_some_iff.1 tracked
    cases stage
  | noted c rest t =>
    -- The news may be of an unlocking, but then not of one that the desk waits for.
    refine takes t rfl rfl same.tx fun user unlocked t' tracked target => ?_
    have tx : (d.move (.work _)).tx = d.tx := congrArg Switching.Standing.tx out
    exact isSet_of_unlocked t.idle (unlocked ▸ t.head) (tx.trans tracked) target
  | closed tx w down less before =>
    refine ⟨fun t tracked _ => ?_, nofun, fun c doing => ?_, nofun⟩
    · rcases less with e | e
      · exact e ▸ tracked
      · exact nomatch e.symm.trans tracked
    · rw [doing] at before
      cases before

end Retains

/-- A desk in service retains what it has in every move of its own. -/
theorem Serves.retains {d : Desk} {ids count : Nat} {switches : List (Token × UserId)}
    (serves : Serves ids count switches d) {q : Switching.Move} (own : IsOwn q ∨ IsSetting q) :
    Retains d (d.move q).standing := by
  obtain ⟨h, service⟩ := serves
  rcases allowed_or_same (h := h) service.staffed own with able | same
  · refine .of_change (service.run.change able) rfl ?_
    rintro v fault rfl
    exact own.elim id id
  · rw [same]
    exact .same

/-! ## News on their way -/

/-- The news that `user` has unlocked have not reached the worker of the desk: they are
    due at the bus, among what it has asked for, or posted to the desk. -/
inductive OnWay (user : UserId) (r : Run) (es : Hand) : Prop
  | due {e : Event} (tells : Desk.commandOf? e = some (.unlocked user))
      (due : r.bus.standing.Due .desk e)
  | inHand {e : Event} (tells : Desk.commandOf? e = some (.unlocked user))
      (mem : .call .desk e ∈ es)
  | posted (mem : .unlocked user ∈ r.desk.pending)

/-- With another desk, news are on their way or what becomes of those that were posted
    holds. -/
theorem OnWay.desk {user : UserId} {r : Run} {es : Hand} (way : OnWay user r es) {d : Desk}
    {lost : Prop} (posted : .unlocked user ∈ r.desk.pending → .unlocked user ∈ d.pending ∨ lost) :
    OnWay user { r with desk := d } es ∨ lost := by
  cases way with
  | due tells due => exact .inl (.due tells due)
  | inHand tells mem => exact .inl (.inHand tells mem)
  | posted mem => exact (posted mem).imp_left .posted

/-- Bus and desk accept what is posted to them. -/
structure Run.Accepts (r : Run) : Prop where
  bus : r.bus.closed = false
  desk : r.desk.closed = false

/-- The desk listens to the bus, and nothing that the bus has asked for is left. -/
structure Run.Tended (r : Run) : Prop where
  attached : r.bus.standing.Attached .desk
  silent : r.bus.standing.said = []

/-- What a step does to the desk. -/
theorem Run.Step.retains {x y : Run × Hand} (step : Run.Step x y) {ids count : Nat}
    {switches : List (Token × UserId)} (serves : Serves ids count switches x.1.desk) :
    Retains x.1.desk y.1.desk.standing := by
  cases step with
  | bus | worked | taken | passed | found | reported => exact .same
  | called r es v e =>
    exact (serves.retains (q := .events v .bus [e]) (.inl trivial)).after
  | desk r es q own => exact (serves.retains (.inl own)).after
  | setting r es q setting => exact serves.retains (.inr setting)

/-- A run that accepts has accepted before. -/
theorem Run.Step.accepts {x y : Run × Hand} (step : Run.Step x y) {ids count : Nat}
    {switches : List (Token × UserId)} (serves : Serves ids count switches x.1.desk)
    (accepts : y.1.Accepts) : x.1.Accepts where
  desk := (step.retains serves).shut accepts.desk
  bus := by
    have moved {b : Bus Listener Nat} {m : Bus.Move Listener Nat}
        (free : (b.move m).closed = false) : b.closed = false := by
      cases closed : b.closed with
      | false => rfl
      | true => exact nomatch (Bus.closed_move closed m).symm.trans free
    cases step with
    | bus | worked => exact moved accepts.bus
    | taken | passed | called | desk | setting | found | reported => exact accepts.bus

/-- Whatever the bus has asked for is in hand at once. -/
theorem Run.Step.silent {x y : Run × Hand} (step : Run.Step x y)
    (silent : x.1.bus.standing.said = []) : y.1.bus.standing.said = [] := by
  cases step with
  | bus r es m outer =>
    refine (Bus.said_move ?_).trans silent
    rintro rfl
    exact outer
  | worked | taken => rfl
  | passed | called | desk | setting | found | reported => exact silent

/-- The desk goes on listening. -/
theorem Run.Step.tended {x y : Run × Hand} (step : Run.Step x y) (tended : x.1.Tended) :
    y.1.Tended :=
  ⟨step.tends.attached rfl tended.attached, step.silent tended.silent⟩

/-- News that arrive at an open desk are posted. -/
theorem mem_pending_events {d : Desk} {v : Switching.View} {p : Switching.Poster} {e : Event}
    {c : Switching.Command} (tells : Desk.commandOf? e = some c) (isOpen : d.closed = false) :
    c ∈ (Switching.Moment.mk d (.events v p [e])).after.pending := by
  have post : (d.move (.events v p [e])).standing = d.standing.post v [c] := by
    rw [Desk.move, Desk.onEvents, Desk.standing_post]
    simp [tells]
  have pending := congrArg Switching.Standing.pending post
  rw [Switching.Standing.post, Desk.standing_closed, isOpen] at pending
  have mem : c ∈ (d.move (.events v p [e])).standing.pending := by
    rw [pending]
    exact Multiset.mem_add.2 (.inr (Multiset.mem_singleton_self c))
  exact mem

/-- News on their way stay so, unless the worker of the desk takes them. -/
theorem Run.Step.onWay {x y : Run × Hand} (step : Run.Step x y) {ids count : Nat}
    {switches : List (Token × UserId)} (serves : Serves ids count switches x.1.desk)
    (tended : x.1.Tended) (accepts : y.1.Accepts) {user : UserId} (way : OnWay user x.1 x.2) :
    OnWay user y.1 y.2 ∨ x.1.desk.worker = .idle ∧
      ∀ t, y.1.desk.tx = some t → t.target = user → t.token.isSet = false := by
  cases way with
  | due tells due =>
    -- As long as the desk is attached, its turn comes, and the call is taken in hand.
    refine .inl ?_
    have moved (m : Bus.Move Listener Nat) : (x.1.bus.move m).standing.Due .desk _ :=
      (Bus.change_move x.1.bus m).due tended.attached due
    cases step with
    | bus r es m => exact .due tells (moved m)
    | worked r =>
      rcases (moved .work).take with still | asked
      · exact .due tells still
      · exact .inHand tells asked
    | taken r =>
      rcases due.take with still | asked
      · exact .due tells still
      · exact .inHand tells asked
    | passed | called | desk | setting | found | reported => exact .due tells due
  | inHand tells mem =>
    -- Once the call is made, the news are posted, as the desk is open.
    refine .inl ?_
    cases step with
    | worked | taken => exact absurd mem List.not_mem_nil
    | passed r es e other =>
      rcases List.mem_cons.1 mem with first | later
      · exact absurd first.symm (other _)
      · exact .inHand tells later
    | called r es v e =>
      rcases List.mem_cons.1 mem with first | later
      · cases first
        have isOpen := (Run.Step.called r es v _).accepts serves accepts
        exact .posted (mem_pending_events tells isOpen.desk)
      · exact .inHand tells later
    | bus | desk | setting | found | reported => exact .inHand tells mem
  | posted mem =>
    rcases (step.retains serves).news accepts.desk user mem with still | taken
    · exact .inl (.posted still)
    · exact .inr taken

/-! ## Several steps -/

section Steps

variable {x y : Run × Hand} {ids count : Nat} {switches : List (Token × UserId)}

theorem Run.Steps.accepts (steps : Run.Steps x y) (serves : Serves ids count switches x.1.desk)
    (accepts : y.1.Accepts) : x.1.Accepts := by
  induction steps with
  | refl => exact accepts
  | tail before step ih => exact ih (step.accepts (Run.Steps.serves before serves) accepts)

theorem Run.Steps.tended (steps : Run.Steps x y) (tended : x.1.Tended) : y.1.Tended := by
  induction steps with
  | refl => exact tended
  | tail _ step ih => exact step.tended ih

/-- A desk in a commit stays in it. -/
theorem Run.Steps.committing (steps : Run.Steps x y)
    (serves : Serves ids count switches x.1.desk) {c : Switching.Commit}
    (doing : x.1.desk.worker = .committing c) : y.1.desk.worker = .committing c := by
  induction steps with
  | refl => exact doing
  | tail before step ih => exact (step.retains (Run.Steps.serves before serves)).commit c ih

/-- During a commit no news get lost. -/
theorem Run.Steps.onWay (steps : Run.Steps x y) (serves : Serves ids count switches x.1.desk)
    (tended : x.1.Tended) (accepts : y.1.Accepts) {c : Switching.Commit}
    (doing : x.1.desk.worker = .committing c) {user : UserId} (way : OnWay user x.1 x.2) :
    OnWay user y.1 y.2 := by
  induction steps with
  | refl => exact way
  | @tail y z before step ih =>
    have serves' := Run.Steps.serves before serves
    have way' := ih (step.accepts serves' accepts)
    rcases step.onWay serves' (Run.Steps.tended before tended) accepts way' with still | ⟨idle, _⟩
    · exact still
    · exact nomatch idle.symm.trans (Run.Steps.committing before serves doing)

end Steps

/-! ## Watched runs -/

/-- The desk waits only for targets that are excused, or the news of whose unlocking are
    on their way; what waits has a token. -/
structure Watched (excused : Transaction → Prop) (r : Run) (es : Hand) : Prop where
  tended : r.Tended
  set : ∀ t, Awaits r.desk t → t.token.isSet = true
  news : r.Accepts → ∀ t, Awaits r.desk t → excused t ∨ OnWay t.target r es

section Watched

variable {excused excused' : Transaction → Prop} {ids count : Nat}
  {switches : List (Token × UserId)}

theorem Watched.mono {r : Run} {es : Hand} (watched : Watched excused r es)
    (more : ∀ t, excused t → excused' t) : Watched excused' r es :=
  ⟨watched.tended, watched.set, fun accepts t awaits =>
    (watched.news accepts t awaits).imp_left (more t)⟩

/-- A run whose desk retains what it has stays watched, if the news on their way stay so
    unless they are taken. -/
theorem Watched.retains {r r' : Run} {es es' : Hand} (watched : Watched excused r es)
    (tended : r'.Tended) (retains : Retains r.desk r'.desk.standing)
    (way : ∀ user, r'.Accepts → OnWay user r es → OnWay user r' es' ∨ r.desk.worker = .idle ∧
      ∀ t, r'.desk.tx = some t → t.target = user → t.token.isSet = false)
    (accepted : r'.Accepts → r.Accepts) : Watched excused r' es' := by
  have before (t : Transaction) (awaits : Awaits r'.desk t) : Awaits r.desk t :=
    ⟨retains.tx t awaits.tracked awaits.stage, awaits.stage⟩
  refine ⟨tended, fun t awaits => watched.set t (before t awaits), fun accepts t awaits => ?_⟩
  rcases watched.news (accepted accepts) t (before t awaits) with fine | told
  · exact .inl fine
  · rcases way t.target accepts told with still | ⟨_, taken⟩
    · exact .inr still
    · -- With the news taken, a transaction with a token would not be tracked any more.
      have unset := taken t awaits.tracked rfl
      exact nomatch unset.symm.trans (watched.set t (before t awaits))

theorem Run.Step.watched {x y : Run × Hand} (step : Run.Step x y)
    (serves : Serves ids count switches x.1.desk) (watched : Watched excused x.1 x.2) :
    Watched excused y.1 y.2 :=
  watched.retains (step.tended watched.tended) (step.retains serves)
    (fun _ accepts => step.onWay serves watched.tended accepts) (step.accepts serves)

/-- Whatever a run does by itself, it stays watched. -/
theorem Run.Steps.watched {x y : Run × Hand} (steps : Run.Steps x y)
    (serves : Serves ids count switches x.1.desk) (watched : Watched excused x.1 x.2) :
    Watched excused y.1 y.2 := by
  induction steps with
  | refl => exact watched
  | tail before step ih => exact step.watched (Run.Steps.serves before serves) ih

end Watched

end HeadUnit.Service
