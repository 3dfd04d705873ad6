import HeadUnit.Proofs.Registry.Restart
import HeadUnit.Proofs.Service.Deals
import HeadUnit.Proofs.Service.News

/-!
# Events that change nothing

The buses of a system tell its registry of events, and the registry records whoever it has looked
up for one of them. A system *expects* `P` (`System.Expects`) if every event that is due to the
registry, in any run, is one of `P`, and so are those it has still to record a user for. No event is
due that nobody has posted, so what a system expects stays so as long as nobody posts other events.

If the registry *knows* all of `P` (`Registry.Knows`), it is left alone when it records them. So
whatever goes on behind the calls of such a system leaves registry and sessions alone: it is
*undisturbed* (`System.Undisturbed`). There is one lemma per operation, and
`Undisturbed.passive` is about every move by which nobody asks for anything new (`Moment.IsPassive`).
-/

namespace HeadUnit.Service

open HeadUnit.Service.System

/-- Every event that is due to the registry is one of `P`, and so is the one for which it has
    looked up a user. -/
structure Run.Expects (r : Run) (P : Event → Prop) : Prop where
  due : ∀ e, r.bus.standing.Due .registry e → P e
  found : ∀ u, r.found = some u → ∃ e, P e ∧ e.kind = .unlocked ∧ u.id = e.user

/-- Every event that the registry has still to deal with, in any run, is one of `P`. -/
def System.Expects (s : System) (P : Event → Prop) : Prop := ∀ r ∈ s.runs, r.Expects P

variable {P : Event → Prop}

/-! ## Runs -/

namespace Run.Expects

variable {r : Run}

/-- Only what is dispatched is accepted. -/
theorem eq_dispatch_of_accepted {b : Bus Listener Nat} {m : Bus.Move Listener Nat} {e : Event}
    (accepted : .accepted e ∈ b.occurrences m) : m = .dispatch e := by
  cases m with
  | work => exact absurd accepted (b.accepted_not_mem_worked e)
  | dispatch | sent =>
    simp only [Bus.occurrences] at accepted
    split at accepted <;> simp_all
  | _ =>
    simp only [Bus.occurrences] at accepted
    split at accepted <;> simp at accepted

/-- A bus makes a move. -/
theorem move (expects : r.Expects P) {m : Bus.Move Listener Nat} (posted : ∀ e, m = .dispatch e → P e) :
    ({ r with bus := r.bus.move m } : Run).Expects P where
  due e due := by
    by_cases accepted : .accepted e ∈ r.bus.occurrences m
    · exact posted e (eq_dispatch_of_accepted accepted)
    · exact expects.due e ((Bus.change_move r.bus m).was_due accepted due)
  found := expects.found

/-- What a bus has asked for is taken. -/
theorem take (expects : r.Expects P) : ({ r with bus := r.bus.take.2 } : Run).Expects P where
  due e due := by
    refine expects.due e ?_
    rcases due with queued | turn | asked
    · exact .inl queued
    · exact .inr (.inl turn)
    · exact absurd asked List.not_mem_nil
  found := expects.found

/-- What the registry is told is what was due. -/
theorem told (expects : r.Expects P) {e : Event} (mem : .call .registry e ∈ r.bus.take.1) : P e :=
  expects.due e (.inr (.inr (List.mem_filter.2 ⟨mem, rfl⟩)))

theorem mono {Q : Event → Prop} (expects : r.Expects P) (more : ∀ e, P e → Q e) : r.Expects Q where
  due e due := more e (expects.due e due)
  found u found := by
    obtain ⟨e, mem, rest⟩ := expects.found u found
    exact ⟨e, more e mem, rest⟩

/-- Neither the bus nor whoever was looked up changes. -/
theorem of_eq {r' : Run} (expects : r.Expects P) (bus : r'.bus = r.bus) (found : r'.found = r.found) :
    r'.Expects P where
  due e := bus ▸ expects.due e
  found u := found ▸ expects.found u

end Run.Expects

/-! ## Systems -/

namespace System

variable {s t u : System}

theorem Expects.of_runs (expects : s.Expects P) (runs : t.runs = s.runs) : t.Expects P := by
  intro r mem
  exact expects r (runs ▸ mem)

theorem Expects.quiet (expects : s.Expects P) (quiet : Quiet s t) : t.Expects P :=
  expects.of_runs quiet.runs

/-- A run changes. -/
theorem Expects.onRun (expects : s.Expects P) (i : Nat) {f : Run → Run}
    (still : ∀ r, s.runs[i]? = some r → r.Expects P → (f r).Expects P) :
    (s.onRun i f).Expects P := by
  intro r' mem
  obtain ⟨j, there⟩ := List.mem_iff_getElem?.1 mem
  obtain ⟨r, here, rfl⟩ := origin_modify there
  have before := expects r (List.mem_of_getElem? here)
  split
  · next own =>
    subst own
    exact still r here before
  · exact before

/-- A bus makes a move. -/
theorem Expects.onBus (expects : s.Expects P) (i : Nat) {m : Bus.Move Listener Nat}
    (posted : ∀ e, m = .dispatch e → P e) : (s.onBus i (·.move m)).Expects P :=
  expects.onRun i fun _ _ before => before.move posted

/-- `t` expects `P`, and registry, sessions and repository are those of `s`. -/
structure Undisturbed (P : Event → Prop) (s t : System) : Prop where
  expects : t.Expects P
  registry : t.registry = s.registry
  sessions : t.sessions = s.sessions
  repository : t.repository = s.repository

/-- The registry of the system knows all of `P`. -/
def Knows (s : System) (P : Event → Prop) : Prop :=
  ∀ e, P e → s.registry.Knows s.sessions.current e

namespace Undisturbed

theorem refl (expects : s.Expects P) : Undisturbed P s s := ⟨expects, rfl, rfl, rfl⟩

theorem trans (one : Undisturbed P s t) (other : Undisturbed P t u) : Undisturbed P s u where
  expects := other.expects
  registry := other.registry.trans one.registry
  sessions := other.sessions.trans one.sessions
  repository := other.repository.trans one.repository

theorem of_books (expects : t.Expects P) (books : t.books = s.books) : Undisturbed P s t where
  expects := expects
  registry := congrArg Books.registry books
  sessions := congrArg Books.sessions books
  repository := congrArg Books.repository books

/-- What the registry knows does not change. -/
theorem knows (undisturbed : Undisturbed P s t) (knows : s.Knows P) : t.Knows P := by
  intro e mem
  rw [undisturbed.registry, undisturbed.sessions]
  exact knows e mem

end Undisturbed

/-! ### Desks -/

/-- What goes on around the calls disturbs nobody. -/
theorem aloof_undisturbed : Aloof fun s t => s.Expects P → Undisturbed P s t where
  refl _ := .refl
  trans one other expects := (one expects).trans (other (one expects).expects)
  noted s n h expects := .of_books (expects.quiet (aloof_quiet.noted s n h)) rfl
  said s e h expects := .of_books (expects.quiet (aloof_quiet.said s e h)) rfl
  called s calls expects := .of_books (expects.quiet (aloof_quiet.called s calls)) rfl
  asked s request timeout ctx owner expects :=
    .of_books (expects.quiet (aloof_quiet.asked s request timeout ctx owner)) rfl
  steered s manager busy expects := .of_books (expects.quiet (aloof_quiet.steered s manager busy)) rfl

/-- What a desk asks for is handed on. -/
theorem Undisturbed.fromDesk (expects : s.Expects P) (i : Nat) (e : Switching.Effect) :
    Undisturbed P s (fromDesk i s e) := by
  refine aloof_undisturbed.fromDesk s i e (fun t before => ?_) expects
  exact .of_books (before.onBus i (m := .returned none) nofun) (books_onBus ..)

theorem Undisturbed.onDesk (expects : s.Expects P) (i : Nat) (q : Switching.Move) :
    Undisturbed P s (s.onDesk i (·.move q)) := by
  rw [System.onDesk]
  split
  · exact .refl expects
  · next r _ =>
    have put : Undisturbed P s (s.onRun i fun r' => { r' with desk := (r.desk.move q).take.2 }) :=
      ⟨expects.onRun i fun _ _ before => before.of_eq rfl rfl, rfl, rfl, rfl⟩
    exact put.trans (aloof_undisturbed.foldl _ (fun _ e _ here => .fromDesk here i e) put.expects)

/-- The worker of a desk makes a move that may not be possible. -/
theorem Undisturbed.deskMove (expects : s.Expects P) (i : Nat) (q : Switching.Move)
    {f : Switching.Desk → Option Switching.Desk} (made : ∀ d, (f d).getD d = d.move q) :
    Undisturbed P s ((do
      let r ← s.runs[i]?
      let d ← f r.desk
      return s.onDesk i fun _ => d : Option System).getD s) := by
  rcases s.deskMove_cases i made with same | same
  · rw [same]
    exact .refl expects
  · rw [same]
    exact .onDesk expects i q

/-! ### Buses -/

/-- One thing that a bus asked for is handed on. -/
theorem Undisturbed.fromBus (expects : s.Expects P) (i : Nat) {e : Bus.Effect Listener Nat}
    (told : ∀ x, e = .call .registry x → P x) : Undisturbed P s (fromBus i s e) := by
  cases e with
  | note n => exact ⟨expects.quiet (quiet_note ..), rfl, rfl, rfl⟩
  | send uid h x => exact ⟨expects.quiet (quiet_emit ..), rfl, rfl, rfl⟩
  | release barrier =>
    dsimp only [System.fromBus]
    split
    · exact ⟨expects.quiet (quiet_finish ..), rfl, rfl, rfl⟩
    · exact .refl expects
  | call l x =>
    cases l with
    | outside id => exact ⟨expects.quiet (quiet_emit ..), rfl, rfl, rfl⟩
    | desk => exact .onDesk expects i (.events s.view .bus [x])
    | registry =>
      have returned {t : System} (before : t.Expects P) (books : t.books = s.books) :
          Undisturbed P s (t.onBus i (·.returned none)) :=
        .of_books (before.onBus i (m := .returned none) nofun) ((books_onBus ..).trans books)
      dsimp only [System.fromBus]
      cases asked : Registry.lookUp s.roster.user x with
      | none => exact returned expects rfl
      | some looked =>
        cases looked with
        | error n => exact returned (expects.quiet (quiet_note s n)) rfl
        | ok u =>
          obtain ⟨unlocked, known⟩ := Registry.found_of_lookUp asked
          refine ⟨expects.onRun i fun r _ before => ⟨before.due, ?_⟩, rfl, rfl, rfl⟩
          rintro _ ⟨⟩
          exact ⟨x, told x rfl, unlocked, Roster.id_of_user known⟩

theorem Undisturbed.foldl_fromBus (expects : s.Expects P) (i : Nat) {es : Hand}
    (told : ∀ x, .call .registry x ∈ es → P x) :
    Undisturbed P s (es.foldl (System.fromBus i) s) := by
  refine List.foldlRecOn (motive := Undisturbed P s) es _ (.refl expects) fun t here e listed => ?_
  exact here.trans (.fromBus here.expects i fun x same => told x (same ▸ listed))

/-- All that a bus asked for is handed on. -/
theorem Undisturbed.flushBus (expects : s.Expects P) (i : Nat) :
    Undisturbed P s (s.flushBus i) := by
  rcases s.flushBus_cases i with same | ⟨r, here, same⟩
  · rw [same]
    exact .refl expects
  · rw [same]
    have before := expects r (List.mem_of_getElem? here)
    have put : (s.onBus i fun _ => r.bus.take.2).Expects P := expects.onRun i fun r' here' _ => by
      obtain rfl := Option.some.inj (here.symm.trans here')
      exact before.take
    exact Undisturbed.trans (.of_books put (books_onBus ..))
      (.foldl_fromBus put i fun x mem => before.told mem)

/-- A bus makes a move, and what it asks for is handed on. -/
theorem Undisturbed.onBus (expects : s.Expects P) (i : Nat)
    {m : Bus.Move Listener Nat} (posted : ∀ e, m = .dispatch e → P e) :
    Undisturbed P s ((s.onBus i (·.move m)).flushBus i) := by
  have moved : Undisturbed P s (s.onBus i (·.move m)) :=
    .of_books (expects.onBus i posted) (books_onBus ..)
  exact moved.trans (.flushBus moved.expects i)

/-- A bus makes a move that may be refused. -/
theorem Undisturbed.tryBus (expects : s.Expects P) (i : Nat)
    {m : Bus.Move Listener Nat} (posted : ∀ e, m = .dispatch e → P e)
    {f : Bus Listener Nat → Except Fault (Bus Listener Nat)}
    (made : ∀ b, (f b).toOption.getD b = b.move m) : Undisturbed P s (s.tryBus i f).1 := by
  rcases s.tryBus_cases i made with same | same
  · rw [same]
    exact .refl expects
  · rw [same]
    exact .onBus expects i posted

/-- The registry records whoever it has looked up, which is no news to it. -/
theorem Undisturbed.record (expects : s.Expects P) (knows : s.Knows P) (i : Nat) :
    Undisturbed P s ((s.record? i).getD s) := by
  rcases s.record_cases i with same | ⟨r, u, here, found, same⟩
  · rw [same]
    exact .refl expects
  · obtain ⟨e, mem, unlocked, own⟩ := (expects r (List.mem_of_getElem? here)).found u found
    have told : s.registry.add u s.sessions.current = { registry := s.registry } :=
      Registry.add_of_knows (knows e mem) unlocked own
    have recorded : Undisturbed P s ((s.applyChange { registry := s.registry }).onRun i
        fun r => { r with found := none }) := by
      refine ⟨(expects.quiet (quiet_applyChange ..)).onRun i fun r _ before => ⟨before.due, nofun⟩,
        rfl, rfl, rfl⟩
    rw [same, told]
    exact recorded.trans (.onBus recorded.expects i (m := .returned _) nofun)

/-! ### Events -/

theorem Undisturbed.onEvent (expects : s.Expects P) {e : Event} (mem : P e) :
    Undisturbed P s (s.onEvent e) := by
  rw [System.onEvent]
  split
  · exact ⟨expects.quiet (quiet_note ..), rfl, rfl, rfl⟩
  · next i _ => exact .onBus expects i (m := .dispatch e) fun _ own => by cases own; exact mem

theorem Undisturbed.emitEvents (expects : s.Expects P) (p : Switching.Poster)
    {es : List Event} (mem : ∀ e ∈ es, P e) : Undisturbed P s (s.emitEvents p es) := by
  rw [System.emitEvents]
  split
  · exact .refl expects
  · refine List.foldlRecOn (motive := Undisturbed P s) es _ (.refl expects) fun t here e listed => ?_
    exact here.trans (.onEvent here.expects (mem e listed))
  · split
    · exact .refl expects
    · next i _ => exact .onDesk expects i (.events s.view p es)
  · exact aloof_undisturbed.foldl s (fun t e _ => aloof_undisturbed.said t (.emitted e) trivial) expects

/-! ### Calls -/

theorem Undisturbed.answerCall (expects : s.Expects P) (id : Nat) (v : Trip.Verdict Vehicle.Response) :
    Undisturbed P s (s.answerCall id v) := by
  have quiet := expects.quiet (quiet_answerCall s id v)
  rw [System.answerCall] at quiet ⊢
  split at quiet
  · next user _ =>
    have noted := books_notes ({ s with roster :=
      (Provision.ratified s.roster user v.value.asCreate v.fault).roster } : System)
      (Provision.ratified s.roster user v.value.asCreate v.fault).notes
    exact ⟨quiet, congrArg Books.registry noted, congrArg Books.sessions noted,
      congrArg Books.repository noted⟩
  · refine .of_books quiet ?_
    dsimp only
    rw [books_associated, books_notes]
  · refine .of_books quiet ?_
    split <;> rfl
  · exact .refl expects

/-- Whoever asked learns how the wait has ended. -/
theorem Undisturbed.told (here : Undisturbed P s t) (v : Trip.Verdict Vehicle.Response) (o : Owner) :
    Undisturbed P s (t.told v o) := by
  cases o with
  | desk i ticket => exact here.trans (.onDesk here.expects i (.tripEnded t.view ticket _ _))
  | call c => exact here.trans (.answerCall here.expects ..)

theorem Undisturbed.askEnded (expects : s.Expects P) (id : Nat) (e : Trip.Ending Vehicle.Response) :
    Undisturbed P s (s.askEnded id e) := by
  rcases s.askEnded_cases id e with same | ⟨a, -, same⟩
  · rw [same]
    exact .refl expects
  · rw [same]
    -- Before the asker learns of it, only reports are made.
    have books : (s.dropAsk a e).books = s.books :=
      aloof_books.dropAsk s a e (fun _ _ _ => trivial) trivial
    exact .told (.of_books (expects.quiet (quiet_dropAsk s a e)) books) ..

/-! ### Workers -/

/-- The worker of a bus takes a step. -/
theorem Undisturbed.busStep (expects : s.Expects P) (i : Nat) :
    Undisturbed P s ((s.busStep? i).getD s) := by
  rcases s.busStep_cases i with same | ⟨r, -, same⟩
  · rw [same]
    exact .refl expects
  · rw [same]
    exact .onBus expects i (m := .work) nofun

/-- A listener outside returns. -/
theorem Undisturbed.listenerReturned (expects : s.Expects P) (i : Nat) (crash : Option Bus.Crash) :
    Undisturbed P s (s.listenerReturned i crash) := by
  rcases s.listenerReturned_cases i crash with same | ⟨r, l, e, left, -, -, same⟩
  · rw [same]
    exact .refl expects
  · rw [same]
    exact .onBus expects i (m := .returned crash) nofun

theorem Undisturbed.notice (expects : s.Expects P) (i : Nat) :
    Undisturbed P s ((s.notice? i).getD s) := by
  rcases s.notice_cases i with same | ⟨r, -, -, same⟩
  · rw [same]
    exact .refl expects
  · rw [same]
    exact ⟨expects.onRun i fun _ _ before => (before.move (m := .endContext) nofun).of_eq rfl rfl,
      rfl, rfl, rfl⟩

theorem Expects.reap (expects : s.Expects P) (i : Nat) : ((s.reap? i).getD s).Expects P := by
  rcases s.reap_cases i with same | ⟨r, -, ⟨-, -, same⟩ | ⟨-, -, same⟩⟩
  · rwa [same]
  · have reported : (s.onRun i fun r => { r with busReported := true }).Expects P :=
      expects.onRun i fun _ _ before => before.of_eq rfl rfl
    exact same ▸ reported.quiet (aloof_quiet.workerReturned ..)
  · have reported : (s.onRun i fun r => { r with deskReported := true }).Expects P :=
      expects.onRun i fun _ _ before => before.of_eq rfl rfl
    exact same ▸ reported.quiet (aloof_quiet.workerReturned ..)

/-- A remote listener dies. -/
theorem Expects.handleDied (expects : s.Expects P) (h : Nat) :
    ({ s with runs := s.runs.map fun r => { r with bus := r.bus.handleDied h } } :
      System).Expects P := by
  intro r' mem
  obtain ⟨r, here, rfl⟩ := List.mem_map.1 mem
  exact (expects r here).move (m := .die h) nofun

/-! ### Starts and stops -/

theorem Expects.startNow (expects : s.Expects P) (id : Nat) (parentDone : Bool) :
    (s.startNow id parentDone).Expects P := by
  rw [System.startNow]
  split
  · exact expects.quiet (quiet_finish ..)
  · split
    · exact expects.quiet (quiet_finish ..)
    · next m _ =>
      have begun : ({ s with manager := m, busy := true } : System).Expects P := expects.of_runs rfl
      exact begun.quiet ((quiet_flushManager _).trans (quiet_await ..))

theorem Expects.buildRun (expects : s.Expects P) (id : Nat) : (s.buildRun id).Expects P := by
  intro r mem
  rcases List.mem_append.1 mem with old | new
  · exact expects r old
  · -- A new run has no events.
    obtain rfl := List.mem_singleton.1 new
    refine ⟨?_, nofun⟩
    rintro e (queued | turn | asked)
    · exact absurd queued List.not_mem_nil
    · exact absurd turn List.not_mem_nil
    · exact absurd asked List.not_mem_nil

/-- A start registers a listener, or publishes the run. -/
theorem Undisturbed.wire (expects : s.Expects P) (id i : Nat) (left : List Listener) :
    Undisturbed P s (s.wire id i left) := by
  cases left with
  | nil =>
    have handed : Undisturbed P s (s.publish i) :=
      ⟨expects.onRun i fun _ _ before => before.of_eq rfl rfl, rfl, rfl, rfl⟩
    exact handed.trans (aloof_undisturbed.nextPlugin _ id 0 handed.expects)
  | cons l left =>
    have tried : Undisturbed P s (s.tryBus i (·.register (.listener l))).1 :=
      .tryBus expects i (m := .register (.listener l)) nofun fun _ => rfl
    rcases s.wire_cases id i l left with ⟨-, same⟩ | ⟨f, -, same⟩
    · exact same ▸ tried.trans (aloof_undisturbed.await' _ id _ tried.expects)
    · exact same ▸ tried.trans (aloof_undisturbed.abort _ id _ f tried.expects)

theorem Expects.stopNow (expects : s.Expects P) (id : Nat) : (s.stopNow id).Expects P := by
  rw [System.stopNow]
  split
  · exact expects.quiet (quiet_finish ..)
  · split
    · exact expects.of_runs rfl
    · next m _ =>
      have withdrawn : ({ s with published := none, manager := m, busy := true } :
          System).Expects P := expects.of_runs rfl
      exact withdrawn.quiet ((quiet_flushManager _).trans (quiet_await ..))

theorem Expects.control (expects : s.Expects P) (c : Control) : (s.control c).Expects P := by
  cases c with
  | start id parentDone => exact expects.startNow id parentDone
  | stop id => exact expects.stopNow id

theorem Expects.request (expects : s.Expects P) (c : Control) : (s.request c).Expects P := by
  rw [System.request]
  split
  · exact expects.of_runs rfl
  · exact expects.control c

theorem Expects.nextControl (expects : s.Expects P) : (s.nextControl?.getD s).Expects P := by
  rw [System.nextControl?]
  split
  · next c cs _ _ =>
    have others : ({ s with controls := cs } : System).Expects P := expects.of_runs rfl
    exact others.control c
  · exact expects

theorem Expects.pluginReady (expects : s.Expects P) (id : Nat) (fault : Option Fault) :
    (s.pluginReady id fault).Expects P := by
  rw [System.pluginReady]
  split
  · dsimp only
    split
    · exact expects.quiet ((quiet_note ..).trans (aloof_quiet.nextPlugin ..))
    · exact expects.of_runs rfl
  · exact expects

theorem Undisturbed.flushEvents (expects : s.Expects P) (id : Nat)
    (ctx : Context) : Undisturbed P s (s.flushEvents id ctx) := by
  have waiting : Undisturbed P s (s.await id ctx.deadline .flushing) :=
    .of_books (expects.quiet (quiet_await ..)) rfl
  have flushed (i : Nat) := waiting.trans
    (.tryBus waiting.expects i (m := .flush id) nofun fun _ => rfl)
  rcases s.flushEvents_cases id ctx with same | ⟨i, -, same | ⟨f, same⟩⟩
  · exact same ▸ aloof_undisturbed.finish s id _ expects
  · exact same ▸ flushed i
  · exact same ▸ (flushed i).trans (aloof_undisturbed.finish _ id _ (flushed i).expects)

end System

/-! ## What goes on behind the calls -/

/-- What is done next neither restores the registry nor changes its bound. -/
def Work.IsPassive : Work → Prop
  | .bounding _ | .restoring _ => False
  | _ => True

/-- Nobody asks for anything new, but to wait for events or to stop, and no call goes on to change
    the registry. -/
def Moment.IsPassive (x : Moment) : Prop :=
  match x.move with
  | .act (.perform _ .flush) => True
  | .act (.perform ..) | .act (.start _) | .act .nextControl | .act (.commit _) => False
  | .act (.goOn id) => ∀ c, x.before.call? id = some c → c.work.IsPassive
  | .act _ => True
  | _ => False

/-- A call goes on with something that is not about the registry. -/
theorem System.Undisturbed.goOn {s : System} (expects : s.Expects P) {id : Nat}
    (passive : ∀ c, s.call? id = some c → c.work.IsPassive) :
    Undisturbed P s ((s.goOn? id).getD s) := by
  have on := s.goesOn id
  generalize (s.goOn? id).getD s = s' at on
  cases on with
  | nothing => exact .refl expects
  | @bounded c n here work | @restored c st here work =>
    have ruled := passive c here
    rw [work] at ruled
    exact ruled.elim
  | read => exact aloof_undisturbed.readState s id expects
  | cached => exact ⟨expects.of_runs rfl, rfl, rfl, rfl⟩
  | built => exact ⟨expects.buildRun id, rfl, rfl, rfl⟩
  | wired => exact .wire expects ..
  | shut => exact aloof_undisturbed.shutNext s id _ _ expects

/-- What goes on behind the calls of a system leaves its registry and its sessions alone, if all that
    the registry is about to be told is no news to it. -/
theorem System.Undisturbed.passive {s : System} (expects : s.Expects P) (knows : s.Knows P) {m : Move}
    (passive : (Moment.mk s m).IsPassive) : Undisturbed P s (s.move m) := by
  cases m with
  | act a =>
    cases a with
    | perform ctx op =>
      cases op with
      | flush =>
        have fresh : Undisturbed P s s.freshId.2 := .of_books (expects.quiet (quiet_freshId s)) rfl
        exact fresh.trans (.flushEvents fresh.expects s.nextId ctx)
      | _ => exact passive.elim
    | elapse t => exact ⟨expects.of_runs rfl, rfl, rfl, rfl⟩
    | stop =>
      have books : (s.freshId.2.request (.stop s.nextId)).books = s.books := by
        rw [request]
        split
        · rfl
        · exact books_stopNow s.freshId.2 s.nextId
      exact .of_books ((expects.quiet (quiet_freshId s)).request _) books
    | parentEnded i =>
      have moved : s.move (.act (.parentEnded i)) = s.step (.parentEnded i) := rfl
      rw [moved, step]
      split
      · exact ⟨expects.of_runs rfl, rfl, rfl, rfl⟩
      · exact .refl expects
    | contextEnded call f =>
      exact .of_books (expects.quiet (aloof_quiet.contextEnded ..)) (books_contextEnded ..)
    | answered ask r f => exact .askEnded expects ask (.answered r f)
    | expired ask => exact .askEnded expects ask .expired
    | canceled ask => exact .askEnded expects ask .canceled
    | listenerReturned i crash => exact .listenerReturned expects i crash
    | handleTook i fault => exact .onBus expects i (m := .sent fault) (by rintro _ ⟨⟩)
    | handleDied h => exact .of_books (expects.handleDied h) (books_handleDied s h)
    | pluginReady call fault => exact .of_books (expects.pluginReady call fault) (books_pluginReady ..)
    | notice i => exact .notice expects i
    | busStep i => exact .busStep expects i
    | deskWork i => exact .deskMove expects i (.work s.view) fun _ => rfl
    | deskStop i => exact .deskMove expects i (.stop s.view) fun _ => rfl
    | launch i ticket => exact .onDesk expects i (.launch ticket)
    | deskMark i => exact .onDesk expects i .mark
    | record i => exact .record expects knows i
    | goOn id => exact .goOn expects passive
    | reap i => exact .of_books (expects.reap i) (books_reap s i)
    | settleWait late =>
      exact .of_books (expects.quiet (aloof_quiet.settleWait s late)) (books_settleWait s late)
    | _ => exact passive.elim
  | _ => exact passive.elim

end HeadUnit.Service
