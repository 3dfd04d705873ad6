import Mathlib.Algebra.Order.Group.Multiset
import Mathlib.Tactic.Abel
import HeadUnit.Proofs.Switching.Run

/-!
# What a move changes

Most of what a desk does is bookkeeping: notes, the order of its queue, who
waits for room. What counts is its *standing* (`Desk.standing`): the tracked
transaction and the counter, the outstanding trips, those of them that are to be
launched and the commands that are not done, all without their order, what the
worker is doing, and what the desk has said out *loud*, i.e., results,
acknowledgments, questions to the vehicle and calls of the operating system.

Each operation of the desk has one equation for the standing it leaves
(`standing_post`, `standing_refuse`, ...). From them, `Change` lists what a move
can do to the standing, one constructor per outcome, with what is known in that
outcome; `change_of_allowed` says that the list is complete. Proofs about runs
go by cases on `Change` and look into no operation.
-/

namespace HeadUnit.Switching

/-! ## Loud effects -/

/-- Results, acknowledgments, questions to the vehicle and calls of the operating
    system; all other effects are quiet. -/
def Effect.isLoud : Effect → Bool
  | reply .. | negotiate .. | osSwitch _ | notify (.postSwitch ..) => true
  | _ => false

/-- The loud effects. -/
def loud (es : List Effect) : List Effect := es.filter (·.isLoud)

@[simp]
theorem loud_nil : loud [] = [] := rfl

@[simp]
theorem loud_cons (e : Effect) (es : List Effect) :
    loud (e :: es) = if e.isLoud then e :: loud es else loud es := List.filter_cons

@[simp]
theorem loud_append (es fs : List Effect) : loud (es ++ fs) = loud es ++ loud fs :=
  List.filter_append ..

/-- Whatever only loud effects show is shown by the loud effects. -/
theorem filterMap_loud {α : Type} {f : Effect → Option α}
    (quiet : ∀ e, e.isLoud = false → f e = none) (es : List Effect) :
    (loud es).filterMap f = es.filterMap f := by
  induction es with
  | nil => rfl
  | cons e es ih =>
    rw [loud] at ih ⊢
    cases l : e.isLoud with
    | false => rw [List.filter_cons_of_neg (by simp [l]), ih, List.filterMap_cons_none (quiet e l)]
    | true => rw [List.filter_cons_of_pos l, List.filterMap_cons, List.filterMap_cons, ih]

theorem result?_of_quiet (e : Effect) (l : e.isLoud = false) : e.result? = none := by
  cases e <;> first | rfl | cases l

theorem acknowledged?_of_quiet (e : Effect) (l : e.isLoud = false) : e.acknowledged? = none := by
  cases e with
  | notify n => cases n <;> first | rfl | cases l
  | _ => rfl

theorem negotiated?_of_quiet (e : Effect) (l : e.isLoud = false) : e.negotiated? = none := by
  cases e <;> first | rfl | cases l

/-! ## Standings -/

/-- What counts about a desk. -/
structure Standing where
  tx : Option Transaction
  seq : UInt64
  closed : Bool
  trips : Multiset Outstanding
  /-- The trips that are to be launched. -/
  launching : Multiset Outstanding
  /-- The commands that are queued or whose posters wait. -/
  pending : Multiset Command
  worker : Worker
  /-- What was said out loud. -/
  said : List Effect

/-- The commands that are queued or whose posters wait. -/
def Desk.pending (d : Desk) : List Command := d.waiting.flatMap (·.commands) ++ d.queue

def Desk.standing (d : Desk) : Standing where
  tx := d.tx
  seq := d.seq
  closed := d.closed
  trips := d.trips
  launching := (d.launching.map (·.trip) : List Outstanding)
  pending := d.pending
  worker := d.worker
  said := loud d.out

@[simp]
theorem Desk.standing_tx (d : Desk) : d.standing.tx = d.tx := rfl

@[simp]
theorem Desk.standing_seq (d : Desk) : d.standing.seq = d.seq := rfl

@[simp]
theorem Desk.standing_closed (d : Desk) : d.standing.closed = d.closed := rfl

@[simp]
theorem Desk.standing_worker (d : Desk) : d.standing.worker = d.worker := rfl

@[simp]
theorem Desk.standing_pending (d : Desk) : d.standing.pending = d.pending := rfl

namespace Command

/-- What is said when a command is dismissed. -/
def dismissal (v : View) : Command → List Effect
  | answer a => [.reply a.ticket ⟨.coordinatorInternalFailure, stoppedMessage⟩]
  | direct _ ticket => [.reply ticket ⟨.osFailure, stoppedMessage⟩]
  | initiated token target => [.notify (.postSwitch token v.current target v.directory)]
  | unlocked _ | switched .. => []

/-- What is said when commands are dismissed, one after the other. -/
def dismissals (v : View) (cs : List Command) : List Effect := cs.flatMap (·.dismissal v)

@[simp]
theorem dismissals_cons (v : View) (c : Command) (cs : List Command) :
    dismissals v (c :: cs) = c.dismissal v ++ dismissals v cs := List.flatMap_cons

@[simp]
theorem dismissals_append (v : View) (cs cs' : List Command) :
    dismissals v (cs ++ cs') = dismissals v cs ++ dismissals v cs' := List.flatMap_append

/-- News about users, which nobody waits for. -/
def IsNews : Command → Prop
  | unlocked _ | switched .. => True
  | answer _ | direct .. | initiated .. => False

/-- Events are news. -/
theorem isNews_of_mem_events {es : List Event} {c : Command}
    (mem : c ∈ es.filterMap Desk.commandOf?) : c.IsNews := by
  obtain ⟨e, _, h⟩ := List.mem_filterMap.1 mem
  unfold Desk.commandOf? at h
  split at h <;> cases h <;> trivial

end Command

namespace Standing

/-- Says something out loud. -/
def say (s : Standing) (es : List Effect) : Standing := { s with said := s.said ++ es }

/-- Takes commands, or dismisses them once closed. -/
def post (s : Standing) (v : View) (cs : List Command) : Standing :=
  if s.closed then s.say (Command.dismissals v cs) else { s with pending := s.pending + cs }

@[simp]
theorem say_nil (s : Standing) : s.say [] = s := by simp [say]

@[simp]
theorem say_say (s : Standing) (es fs : List Effect) : (s.say es).say fs = s.say (es ++ fs) := by
  simp [say]

@[simp]
theorem said_say (s : Standing) (es : List Effect) : (s.say es).said = s.said ++ es := rfl

@[simp]
theorem post_seq (s : Standing) (v : View) (cs : List Command) :
    (s.post v cs).seq = s.seq := by
  unfold post
  split <;> rfl

@[simp]
theorem post_trips (s : Standing) (v : View) (cs : List Command) :
    (s.post v cs).trips = s.trips := by
  unfold post
  split <;> rfl

@[simp]
theorem post_launching (s : Standing) (v : View) (cs : List Command) :
    (s.post v cs).launching = s.launching := by
  unfold post
  split <;> rfl

@[simp]
theorem post_tx (s : Standing) (v : View) (cs : List Command) :
    (s.post v cs).tx = s.tx := by
  unfold post
  split <;> rfl

@[simp]
theorem post_worker (s : Standing) (v : View) (cs : List Command) :
    (s.post v cs).worker = s.worker := by
  unfold post
  split <;> rfl

/-- Posting says nothing unless the commands are dismissed. -/
theorem dismissed_of_post {s : Standing} {v : View} {cs : List Command} {e : Effect}
    (mem : e ∈ (s.post v cs).said) (silent : s.said = []) :
    s.closed = true ∧ e ∈ Command.dismissals v cs := by
  unfold post at mem
  split at mem
  · next shut =>
    rw [said_say, silent] at mem
    exact ⟨shut, mem⟩
  · rw [silent] at mem
    exact absurd mem List.not_mem_nil

end Standing

/-- An answer that lets a switch go ahead. -/
structure Answer.Approves (a : Answer) : Prop where
  fault : a.fault = none
  decision : a.response.decision = .approved
  token : a.response.token.isSet = true

namespace Desk

variable (d : Desk) (v : View)

/-! ## Operations that only speak -/

@[simp]
theorem standing_emit (es : List Effect) : (d.emit es).standing = d.standing.say (loud es) := by
  simp [emit, standing, pending, Standing.say]

@[simp]
theorem standing_admitted (p : Poster) : (d.emit [.admitted p]).standing = d.standing := by
  simp [Effect.isLoud]

@[simp]
theorem standing_note (n : Note) : (d.note n).standing = d.standing := by
  simp [note, Effect.isLoud]

@[simp]
theorem standing_resolve (k : Ticket) (target : UserId) (status : SwitchStatus)
    (message : String) :
    (d.resolve k target status message).standing = d.standing.say [.reply k ⟨status, message⟩] := by
  simp [resolve, Effect.isLoud]

@[simp]
theorem standing_acknowledge (token : Token) (prior target : UserId) :
    (d.acknowledge v token prior target).standing =
      d.standing.say [.notify (.postSwitch token prior target v.directory)] := by
  simp [acknowledge, Effect.isLoud]

@[simp]
theorem standing_signalPanel (target : UserId) : (d.signalPanel target).standing = d.standing := by
  unfold signalPanel
  split
  · rfl
  · split <;> simp [Effect.isLoud]

@[simp]
theorem standing_dropInitiated (token : Token) (target : UserId) :
    (d.dropInitiated v token target).standing =
      d.standing.say ((Command.initiated token target).dismissal v) := by
  simp [dropInitiated, Command.dismissal]

@[simp]
theorem standing_refuse (c : Command) :
    (refuse v d c).standing = d.standing.say (c.dismissal v) := by
  cases c <;> simp [refuse, Command.dismissal]

theorem standing_foldl_refuse (cs : List Command) :
    (cs.foldl (refuse v) d).standing = d.standing.say (Command.dismissals v cs) := by
  induction cs generalizing d with
  | nil => exact (Standing.say_nil _).symm
  | cons c cs ih =>
    rw [List.foldl_cons, ih, standing_refuse, Standing.say_say, Command.dismissals_cons]

/-! ## Operations on the transaction -/

@[simp]
theorem standing_clear : d.clear.standing = { d.standing with tx := none } := by
  rw [clear, standing_note]
  rfl

@[simp]
theorem standing_advance (f : Transaction → Transaction) :
    (d.advance f).standing = { d.standing with tx := d.tx.map f } := rfl

@[simp]
theorem standing_install (l : Launch) :
    (d.install l).standing = { d.standing with
      tx := some l.trip.tx
      seq := l.trip.tx.seq
      trips := l.trip ::ₘ d.standing.trips
      launching := l.trip ::ₘ d.standing.launching } := by
  have last (os : List Outstanding) :
      ((os ++ [l.trip] : List Outstanding) : Multiset Outstanding) = l.trip ::ₘ os := by
    rw [← Multiset.coe_add, Multiset.add_comm]
    rfl
  simp only [install, standing, pending, List.map_append, List.map_singleton, last]

@[simp]
theorem standing_beginCommit (c : Commit) :
    (d.beginCommit c).standing =
      ({ d.standing with worker := .committing c } : Standing).say [.osSwitch c.target] := by
  rw [beginCommit, standing_emit]
  rfl

/-! ## Posting -/

theorem standing_repend (q : List Command) (ws : List Waiting) :
    { d with queue := q, waiting := ws }.standing =
      { d.standing with pending := (ws.flatMap (·.commands) ++ q : List Command) } := rfl

theorem standing_post (p : Poster) (cs : List Command) :
    (d.post v p cs).standing = d.standing.post v cs := by
  unfold post Standing.post
  by_cases c : d.closed
  · rw [if_pos c, if_pos (show d.standing.closed = true from c), standing_admitted,
      standing_foldl_refuse]
  · rw [if_neg c, if_neg (show ¬d.standing.closed = true from c)]
    dsimp only
    split
    · next fits =>
      rw [List.take_of_length_le fits, standing_admitted, standing_repend]
      simp only [standing, pending, ← Multiset.coe_add, add_assoc]
    · next =>
      -- What has no room waits: together both parts are what was posted.
      have parts : (cs : Multiset Command) =
          cs.take (queueSize - d.queue.length) + cs.drop (queueSize - d.queue.length) := by
        rw [Multiset.coe_add, List.take_append_drop]
      rw [standing_repend]
      refine congrArg (fun cs => { d.standing with pending := cs }) ?_
      simp only [standing, pending, List.flatMap_append, List.flatMap_cons, List.flatMap_nil,
        List.append_nil, ← Multiset.coe_add, parts]
      abel

/-- Whoever gets room only moves commands from the posters to the queue. -/
@[simp]
theorem standing_admitWaiting : d.admitWaiting.standing = d.standing := by
  unfold admitWaiting
  split
  · rfl
  · next w ws e =>
    split
    · next ec =>
      rw [standing_admitted, standing_repend]
      simp [standing, pending, e, ec]
    · next c ec =>
      rw [standing_admitted, standing_repend]
      simp only [standing, pending, e, ec, List.flatMap_cons, ← Multiset.coe_add]
      congr 1
      abel
    · next c cs _ ec =>
      rw [standing_repend]
      simp only [standing, pending, e, ec, List.flatMap_cons, List.flatMap_append,
        List.flatMap_nil, List.append_nil, ← Multiset.coe_add, ← Multiset.cons_coe,
        ← Multiset.singleton_add c]
      congr 1
      abel

/-! ## Shutting down -/

/-- A command that fails is dismissed; the transaction stops being tracked if
    the command was its answer. -/
theorem standing_fail (c : Command) :
    ∃ tx, (tx = d.tx ∨ tx = none) ∧
      (fail v d c).standing = ({ d.standing with tx := tx } : Standing).say (c.dismissal v) := by
  cases c with
  | answer a =>
    by_cases current : d.isCurrent a.tx
    · refine ⟨none, .inr rfl, ?_⟩
      rw [fail, if_pos current, standing_resolve, standing_clear]
      rfl
    · refine ⟨d.tx, .inl rfl, ?_⟩
      rw [fail, if_neg current, standing_resolve]
      rfl
  | direct target k => exact ⟨d.tx, .inl rfl, standing_refuse d v (.direct target k)⟩
  | initiated token target => exact ⟨d.tx, .inl rfl, standing_refuse d v (.initiated token target)⟩
  | unlocked user => exact ⟨d.tx, .inl rfl, standing_refuse d v (.unlocked user)⟩
  | switched source target =>
    exact ⟨d.tx, .inl rfl, standing_refuse d v (.switched source target)⟩

theorem standing_foldl_fail (cs : List Command) :
    ∃ tx, (tx = d.tx ∨ tx = none) ∧
      (cs.foldl (fail v) d).standing =
        ({ d.standing with tx := tx } : Standing).say (Command.dismissals v cs) := by
  induction cs generalizing d with
  | nil => exact ⟨d.tx, .inl rfl, (Standing.say_nil _).symm⟩
  | cons c cs ih =>
    obtain ⟨tx, htx, e⟩ := d.standing_fail v c
    obtain ⟨tx', htx', e'⟩ := ih (fail v d c)
    have kept : (fail v d c).tx = tx := congrArg Standing.tx e
    refine ⟨tx', ?_, ?_⟩
    · rcases htx' with rfl | rfl
      · exact kept ▸ htx
      · exact .inr rfl
    · rw [List.foldl_cons, e', e, Command.dismissals_cons, ← Standing.say_say]
      rfl

theorem standing_foldl_refuseWaiting (ws : List Waiting) :
    (ws.foldl (refuseWaiting v) d).standing =
      d.standing.say (Command.dismissals v (ws.flatMap (·.commands))) := by
  induction ws generalizing d with
  | nil => exact (Standing.say_nil _).symm
  | cons w ws ih =>
    have first : (refuseWaiting v d w).standing =
        d.standing.say (Command.dismissals v w.commands) := by
      rw [refuseWaiting, standing_admitted, standing_foldl_refuse]
    rw [List.foldl_cons, ih, first, Standing.say_say, List.flatMap_cons, Command.dismissals_append]

/-- A desk that closes dismisses all it has. -/
theorem standing_close :
    ∃ tx, (tx = d.tx ∨ tx = none) ∧
      (d.close v).standing =
        ({ d.standing with tx := tx, closed := true, pending := 0 } : Standing).say
          (Command.dismissals v d.pending) := by
  obtain ⟨tx, htx, e⟩ := standing_foldl_fail
    (d.waiting.foldl (refuseWaiting v) { d with closed := true, waiting := [], queue := [] }) v
    d.queue
  have refused := standing_foldl_refuseWaiting
    { d with closed := true, waiting := [], queue := [] } v d.waiting
  refine ⟨tx, ?_, ?_⟩
  · rwa [show Desk.tx _ = d.tx from congrArg Standing.tx refused] at htx
  · rw [close, e, refused, pending, Command.dismissals_append, ← Standing.say_say]
    rfl

end Desk

/-! ## The list of changes -/

/-- The worker is idle and takes the command `c`, which leaves `rest`. -/
structure Takes (d : Desk) (c : Command) (rest : Multiset Command) : Prop where
  idle : d.worker = .idle
  head : d.queue.head? = some c
  pending : (d.pending : Multiset Command) = c ::ₘ rest

/-- What a move can do to the standing of a desk. -/
inductive Change (d : Desk) : Move → Standing → Prop
  /-- A request is turned down at once. -/
  | rejected {v p k target timeout status message}
      (down : status = .invalidRequest ∨ status = .alreadyInForeground ∨
        status = .alreadyBeingSwitchedTo) :
      Change d (.request v p k target timeout) (d.standing.say [.reply k ⟨status, message⟩])
  /-- A request with no vehicle to ask is handed to the worker. -/
  | direct {v p k target timeout} (free : v.negotiates = false) :
      Change d (.request v p k target timeout) (d.standing.post v [.direct target k])
  /-- A request installs a transaction, whose trip is to be launched. -/
  | installed {v p k target timeout} (tx : Transaction)
      (new : tx = ⟨target, Token.unset, v.current, .awaitingCoordinator, d.seq + 1⟩) :
      Change d (.request v p k target timeout) { d.standing with
        tx := some tx
        seq := d.seq + 1
        trips := ⟨tx, k⟩ ::ₘ d.standing.trips
        launching := ⟨tx, k⟩ ::ₘ d.standing.launching }
  /-- A trip is launched. -/
  | launched {k question limit} (o : Outstanding) (rest : Multiset Outstanding)
      (own : o.ticket = k) (launching : d.standing.launching = o ::ₘ rest) :
      Change d (.launch k) (({ d.standing with launching := rest } : Standing).say
        [.negotiate o question limit])
  /-- A trip ends, and its answer is handed to the worker. -/
  | tripEnded {v k response fault} (o : Outstanding) (rest : Multiset Outstanding)
      (own : o.ticket = k) (trips : d.standing.trips = o ::ₘ rest) :
      Change d (.tripEnded v k response fault)
        (({ d.standing with trips := rest } : Standing).post v [.answer ⟨o.tx, response, fault, k⟩])
  /-- A switch of the vehicle is handed to the worker. -/
  | initiated {v p token target} :
      Change d (.initiate v p token target) (d.standing.post v [.initiated token target])
  /-- News are handed to the worker. -/
  | events {v p es} :
      Change d (.events v p es) (d.standing.post v (es.filterMap Desk.commandOf?))
  | started (new : d.worker = .unstarted) : Change d .start { d.standing with worker := .idle }
  /-- An answer comes too late. -/
  | superseded {v} (a : Answer) (rest : Multiset Command) (takes : Takes d (.answer a) rest)
      (late : d.isCurrent a.tx = false) :
      Change d (.work v) (({ d.standing with pending := rest } : Standing).say
        [.reply a.ticket ⟨.abandonedForNewerRequest, ""⟩])
  /-- An answer does not let the switch go ahead. -/
  | denied {v status message} (a : Answer) (rest : Multiset Command)
      (takes : Takes d (.answer a) rest) (current : d.isCurrent a.tx = true)
      (no : ¬a.Approves)
      (down : status = .coordinatorInternalFailure ∨ status = .coordinatorFailure) :
      Change d (.work v) (({ d.standing with tx := none, pending := rest } : Standing).say
        [.reply a.ticket ⟨status, message⟩])
  /-- An answer lets the switch go ahead. -/
  | approved {v} (a : Answer) (rest : Multiset Command) (takes : Takes d (.answer a) rest)
      (current : d.isCurrent a.tx = true) (yes : a.Approves) :
      Change d (.work v) (({ d.standing with
        tx := d.tx.map fun t => { t with stage := .awaitingOSCommit }
        pending := rest
        worker := .committing (.answer a) } : Standing).say [.osSwitch a.tx.target])
  | directTaken {v target k} (rest : Multiset Command) (takes : Takes d (.direct target k) rest) :
      Change d (.work v) (({ d.standing with
        pending := rest
        worker := .committing (.direct target k) } : Standing).say [.osSwitch target])
  | initiatedTaken {v token target} (rest : Multiset Command)
      (takes : Takes d (.initiated token target) rest) :
      Change d (.work v) (({ d.standing with
        pending := rest
        worker := .committing (.initiated token target v.current) } : Standing).say [.osSwitch target])
  /-- The target of the tracked switch has unlocked, and the vehicle is told. -/
  | unlocked {v user} (t : Transaction) (rest : Multiset Command)
      (takes : Takes d (.unlocked user) rest) (tracked : d.tx = some t)
      (set : t.token.isSet = true) :
      Change d (.work v) (({ d.standing with tx := none, pending := rest } : Standing).say
        [.notify (.postSwitch t.token t.prior t.target v.directory)])
  /-- News that do not touch the tracked switch. -/
  | noted {v} (c : Command) (rest : Multiset Command) (takes : Takes d c rest) (news : c.IsNews) :
      Change d (.work v) { d.standing with pending := rest }
  /-- The commit of an answer ends too late. -/
  | commitSuperseded {v fault} (a : Answer) (doing : d.worker = .committing (.answer a))
      (late : d.isCurrent a.tx = false) :
      Change d (.committed v fault) (({ d.standing with worker := .idle } : Standing).say
        [.reply a.ticket ⟨.abandonedForNewerRequest, ""⟩])
  /-- The commit of an answer fails, and the vehicle is told. -/
  | commitFailed {v f} (a : Answer) (doing : d.worker = .committing (.answer a))
      (current : d.isCurrent a.tx = true) :
      Change d (.committed v (some f))
        (({ d.standing with tx := none, worker := .idle } : Standing).say
          [.notify (.postSwitch a.response.token a.tx.prior a.tx.target v.directory),
            .reply a.ticket ⟨.osFailure, f.message⟩])
  /-- The commit of an answer is done; its target has to unlock. -/
  | commitDone {v} (a : Answer) (doing : d.worker = .committing (.answer a))
      (current : d.isCurrent a.tx = true) :
      Change d (.committed v none) (({ d.standing with
        tx := d.tx.map fun t => { t with token := a.response.token, stage := .awaitingUnlockAck }
        worker := .idle } : Standing).say [.reply a.ticket ⟨.successful, ""⟩])
  | directFailed {v f target k} (doing : d.worker = .committing (.direct target k)) :
      Change d (.committed v (some f)) (({ d.standing with worker := .idle } : Standing).say
        [.reply k ⟨.osFailure, f.message⟩])
  | directDone {v target k} (doing : d.worker = .committing (.direct target k)) :
      Change d (.committed v none) (({ d.standing with worker := .idle } : Standing).say
        [.reply k ⟨.successful, ""⟩])
  /-- The commit of a switch of the vehicle fails, and the vehicle is told. -/
  | initiatedFailed {v f token target prior}
      (doing : d.worker = .committing (.initiated token target prior)) :
      Change d (.committed v (some f)) (({ d.standing with worker := .idle } : Standing).say
        [.notify (.postSwitch token prior target v.directory)])
  /-- The commit of a switch of the vehicle is done, and its transaction installed, which is to be
      reported. -/
  | initiatedDone {v token target prior}
      (doing : d.worker = .committing (.initiated token target prior)) :
      Change d (.committed v none) { d.standing with
        tx := some ⟨target, token, prior, .awaitingUnlockAck, d.seq + 1⟩
        seq := d.seq + 1
        worker := .marking }
  | marked (doing : d.worker = .marking) : Change d .mark { d.standing with worker := .idle }
  /-- The desk is shut down, and all it has is dismissed. -/
  | closed {m v} (tx : Option Transaction) (w : Worker) (down : m = .stop v ∨ m = .close v)
      (less : tx = d.tx ∨ tx = none) (before : d.worker.commit? = none)
      (after : w.commit? = none) (done : w ≠ .marking) :
      Change d m
        (({ d.standing with tx := tx, closed := true, pending := 0, worker := w } : Standing).say
          (Command.dismissals v d.pending))
  /-- Nothing that counts. -/
  | adjusted {m} (other : m.view? = none) : Change d m d.standing

/-! ## The list is complete -/

variable (d : Desk) (v : View)

theorem change_request (p : Poster) (k : Ticket) (target : UserId) (timeout : Duration) :
    Change d (.request v p k target timeout) (d.request v p k target timeout).standing := by
  unfold Desk.request
  split
  · rw [Desk.standing_admitted, Desk.standing_resolve]
    exact .rejected (.inl rfl)
  split
  · rw [Desk.standing_admitted, Desk.standing_resolve]
    exact .rejected (.inl rfl)
  split
  · rw [Desk.standing_admitted, Desk.standing_resolve]
    exact .rejected (.inr (.inl rfl))
  split
  · next free =>
    rw [Desk.standing_post]
    exact .direct (by simpa using free)
  split
  · rw [Desk.standing_admitted, Desk.standing_resolve, Desk.standing_note]
    exact .rejected (.inr (.inr rfl))
  · -- A note about the superseded transaction is all that its presence changes.
    cases e : d.tx with
    | none =>
      rw [Desk.standing_install]
      exact .installed _ rfl
    | some old =>
      rw [Desk.standing_install, Desk.standing_note]
      exact .installed _ rfl

/-- What is found first is what is erased. -/
theorem perm_cons_eraseP {α : Type} {p : α → Bool} {l : List α} {a : α}
    (found : l.find? p = some a) : l.Perm (a :: l.eraseP p) := by
  obtain ⟨holds, before, after, rfl, none⟩ := List.find?_eq_some_iff_append.1 found
  have first : ∀ b ∈ before, ¬p b = true := fun b mem => by simpa using none b mem
  rw [List.eraseP_append_right _ first, List.eraseP_cons_of_pos holds]
  exact List.perm_middle

/-- A trip is launched, and no other. -/
theorem change_launch {k : Ticket} (waits : k ∈ d.launching.map (·.trip.ticket)) :
    Change d (.launch k) (d.launch k).standing := by
  unfold Desk.launch
  cases found : d.launching.find? (·.trip.ticket == k) with
  | none =>
    obtain ⟨l, mem, own⟩ := List.mem_map.1 waits
    exact absurd (beq_iff_eq.2 own) (List.find?_eq_none.1 found l mem)
  | some l =>
    have own : l.trip.ticket = k := by simpa using List.find?_some found
    have launching : d.standing.launching =
        l.trip ::ₘ ((d.launching.eraseP (·.trip.ticket == k)).map (·.trip) : List Outstanding) :=
      Multiset.coe_eq_coe.2 ((perm_cons_eraseP found).map _)
    dsimp only
    rw [Desk.standing_emit]
    exact .launched l.trip _ own launching

/-- If no two trips share a ticket, exactly one trip ends. -/
theorem change_tripEnded {k : Ticket} {response : Vehicle.SwitchResponse} {fault : Option Fault}
    (outstanding : k ∈ d.trips.map (·.ticket)) (distinct : (d.trips.map (·.ticket)).Nodup) :
    Change d (.tripEnded v k response fault) (d.tripEnded v k response fault).standing := by
  cases found : d.trips.find? (·.ticket == k) with
  | none =>
    obtain ⟨o, mem, own⟩ := List.mem_map.1 outstanding
    exact absurd (beq_iff_eq.2 own) (List.find?_eq_none.1 found o mem)
  | some o =>
    have own : o.ticket = k := by simpa using List.find?_some found
    have mem : o ∈ d.trips := List.mem_of_find?_eq_some found
    have others : d.trips.filter (·.ticket != k) = d.trips.erase o := by
      rw [(List.Nodup.of_map _ distinct).erase_eq_filter]
      refine List.filter_congr fun x hx => ?_
      rw [Bool.eq_iff_iff, bne_iff_ne, bne_iff_ne, ← own]
      exact ⟨fun ne e => ne (e ▸ rfl), fun ne e => ne (List.inj_on_of_nodup_map distinct hx mem e)⟩
    have trips : d.standing.trips = o ::ₘ (d.trips.erase o : List Outstanding) :=
      Multiset.coe_eq_coe.2 (List.perm_cons_erase mem)
    unfold Desk.tripEnded
    rw [found]
    simp only [Desk.standing_post, others]
    exact .tripEnded o _ own trips

/-- An answer without a problem that says yes lets the switch go ahead. -/
theorem Answer.approves_iff {a : Answer} :
    a.Approves ↔ Desk.Answer.problem? a = none ∧ a.response.decision = .approved := by
  unfold Desk.Answer.problem?
  constructor
  · rintro ⟨f, y, t⟩
    simp [f, y, t]
  · rintro ⟨none, y⟩
    cases f : a.fault with
    | some f => simp [f] at none
    | none => exact ⟨f, y, by simpa [f, y] using none⟩

/-! ### Moves that are not possible -/

theorem Desk.work_of_unable (unable : ¬(d.worker = .idle ∧ d.queue ≠ [])) : d.work? v = none := by
  unfold work?
  split
  · next idle queue => exact absurd ⟨idle, by simp [queue]⟩ unable
  · rfl

theorem Desk.committed_of_unable (fault : Option Fault) (unable : ¬d.worker.commit?.isSome) :
    d.committed v fault = d := by
  unfold committed
  split
  · next c doing => simp [doing, Worker.commit?] at unable
  · rfl

theorem Desk.mark_of_unable (unable : d.worker ≠ .marking) : d.mark = d := by
  unfold mark
  split
  · next doing => exact absurd doing unable
  · rfl

/-! ### The worker takes a command

The desk `d'` is what the worker has in front of it once it has taken the first
command of `d`, and room in the queue has been given away. -/

section Work

variable {d} {d' : Desk} {rest : Multiset Command}
  (taken : d'.standing = { d.standing with pending := rest })

include taken

theorem change_applyAnswer {a : Answer} (takes : Takes d (.answer a) rest) :
    Change d (.work v) (d'.applyAnswer a).standing := by
  have tx : d'.tx = d.tx := congrArg Standing.tx taken
  have same : d'.isCurrent a.tx = d.isCurrent a.tx := by rw [Desk.isCurrent, tx, Desk.isCurrent]
  unfold Desk.applyAnswer
  dsimp only
  split
  · next late =>
    rw [Desk.standing_resolve, Desk.standing_note, taken]
    exact .superseded a _ takes (by simpa [same] using late)
  · next current =>
    replace current : d.isCurrent a.tx = true := by simpa [same] using current
    split
    · next f problem =>
      have no : ¬a.Approves := fun y => by simp [(Answer.approves_iff.1 y).1] at problem
      rw [Desk.standing_resolve, Desk.standing_note, Desk.standing_clear, taken]
      exact .denied a _ takes current no (.inl rfl)
    · next fine =>
      split
      · next veto =>
        have no : ¬a.Approves := fun y => by simp [y.decision] at veto
        rw [Desk.standing_resolve, Desk.standing_note, Desk.standing_clear, taken]
        exact .denied a _ takes current no (.inr rfl)
      · next yes =>
        rw [Desk.standing_beginCommit, Desk.standing_advance, taken, tx]
        exact .approved a _ takes current (Answer.approves_iff.2 ⟨fine, yes⟩)
      · next code unknown =>
        have no : ¬a.Approves := fun y => by simp [y.decision] at unknown
        rw [Desk.standing_resolve, Desk.standing_note, Desk.standing_clear, taken]
        exact .denied a _ takes current no (.inl rfl)

theorem change_applyUnlocked {user : UserId} (takes : Takes d (.unlocked user) rest) :
    Change d (.work v) (d'.applyUnlocked v user).standing := by
  have tx : d'.tx = d.tx := congrArg Standing.tx taken
  unfold Desk.applyUnlocked
  split
  · rw [taken]
    exact .noted _ _ takes trivial
  · next t tracked =>
    split
    · next waits =>
      rw [Desk.standing_acknowledge, Desk.standing_clear, taken]
      exact .unlocked t _ takes (tx ▸ tracked) waits.2
    · rw [taken]
      exact .noted _ _ takes trivial

theorem change_applySwitched {source target : UserId}
    (takes : Takes d (.switched source target) rest) :
    Change d (.work v) (d'.applySwitched v source target).standing := by
  have same : (d'.applySwitched v source target).standing = d'.standing := by
    unfold Desk.applySwitched
    split
    · rfl
    split <;> simp [Effect.isLoud]
  rw [same, taken]
  exact .noted _ _ takes trivial

theorem change_apply {c : Command} (takes : Takes d c rest) :
    Change d (.work v) (d'.apply v c).standing := by
  cases c with
  | answer a => exact change_applyAnswer v taken takes
  | direct target k =>
    rw [Desk.apply, Desk.standing_beginCommit, taken]
    exact .directTaken _ takes
  | initiated token target =>
    rw [Desk.apply, Desk.standing_beginCommit, Desk.standing_note, taken]
    exact .initiatedTaken _ takes
  | unlocked user => exact change_applyUnlocked v taken takes
  | switched source target => exact change_applySwitched v taken takes

end Work

theorem change_work (idle : d.worker = .idle) (full : d.queue ≠ []) :
    Change d (.work v) ((d.work? v).getD d).standing := by
  obtain ⟨c, q, e⟩ := List.exists_cons_of_ne_nil full
  have work : d.work? v = some ({ d with queue := q }.admitWaiting.apply v c) := by
    simp only [Desk.work?, idle, e]
  have takes : Takes d c ({ d with queue := q }.pending : List Command) := by
    refine ⟨idle, by rw [e]; rfl, ?_⟩
    simp only [Desk.pending, e, Multiset.cons_coe]
    exact Multiset.coe_eq_coe.2 List.perm_middle
  have taken : { d with queue := q }.admitWaiting.standing =
      { d.standing with pending := ({ d with queue := q }.pending : List Command) } :=
    Desk.standing_admitWaiting _
  rw [work]
  exact change_apply v taken takes

/-! ### The worker comes back -/

theorem change_answerCommitted {a : Answer} {d' : Desk} (fault : Option Fault)
    (doing : d.worker = .committing (.answer a))
    (back : d'.standing = { d.standing with worker := .idle }) :
    Change d (.committed v fault) (d'.answerCommitted v a fault).standing := by
  have tx : d'.tx = d.tx := congrArg Standing.tx back
  have same : d'.isCurrent a.tx = d.isCurrent a.tx := by rw [Desk.isCurrent, tx, Desk.isCurrent]
  unfold Desk.answerCommitted
  dsimp only
  split
  · next late =>
    rw [Desk.standing_resolve, Desk.standing_note, back]
    exact .commitSuperseded a doing (by simpa [same] using late)
  · next current =>
    replace current : d.isCurrent a.tx = true := by simpa [same] using current
    split
    · rw [Desk.standing_resolve, Desk.standing_acknowledge, Desk.standing_note,
        Desk.standing_clear, back, Standing.say_say]
      exact .commitFailed a doing current
    · rw [Desk.standing_resolve, Desk.standing_signalPanel, Desk.standing_advance, back, tx]
      exact .commitDone a doing current

theorem change_directCommitted {target : UserId} {k : Ticket} {d' : Desk} (fault : Option Fault)
    (doing : d.worker = .committing (.direct target k))
    (back : d'.standing = { d.standing with worker := .idle }) :
    Change d (.committed v fault) (d'.directCommitted target k fault).standing := by
  unfold Desk.directCommitted
  split
  · rw [Desk.standing_resolve, Desk.standing_note, back]
    exact .directFailed doing
  · rw [Desk.standing_resolve, Desk.standing_signalPanel, back]
    exact .directDone doing

theorem change_initiatedCommitted {token : Token} {target prior : UserId} {d' : Desk}
    (fault : Option Fault) (doing : d.worker = .committing (.initiated token target prior))
    (back : d'.standing = { d.standing with worker := .idle }) :
    Change d (.committed v fault) (d'.initiatedCommitted v token target prior fault).standing := by
  unfold Desk.initiatedCommitted
  split
  · rw [Desk.standing_acknowledge, Desk.standing_note, back]
    exact .initiatedFailed doing
  · -- Before the transaction is installed there may be a note about the old one.
    have installed (d₂ : Desk) (same : d₂.standing = d'.standing) :
        Change d (.committed v none) { d₂ with
          seq := d₂.seq + 1
          tx := some ⟨target, token, prior, .awaitingUnlockAck, d₂.seq + 1⟩
          worker := .marking }.standing := by
      rw [back] at same
      have seq : d₂.seq = d.seq := congrArg Standing.seq same
      have track (n : UInt64) (t : Transaction) :
          { d₂ with seq := n, tx := some t, worker := .marking }.standing =
            { d₂.standing with seq := n, tx := some t, worker := .marking } := rfl
      rw [seq, track, same]
      exact .initiatedDone doing
    cases d'.tx with
    | none => exact installed d' rfl
    | some old =>
      dsimp only
      split
      · exact installed d' rfl
      · exact installed _ (Desk.standing_note ..)

theorem change_committed {fault : Option Fault} (busy : d.worker.commit?.isSome) :
    Change d (.committed v fault) (d.committed v fault).standing := by
  unfold Desk.committed
  split
  · next c doing =>
    cases c with
    | answer a => exact change_answerCommitted d v fault doing rfl
    | direct target k => exact change_directCommitted d v fault doing rfl
    | initiated token target prior => exact change_initiatedCommitted d v fault doing rfl
  · next idle =>
    cases w : d.worker with
    | committing c => exact absurd w (idle c)
    | _ => simp [w, Worker.commit?] at busy

/-! ### All moves -/

theorem change_stop (idle : d.worker = .idle) (ended : d.contextDone = true) :
    Change d (.stop v) ((d.stop? v).getD d).standing := by
  obtain ⟨tx, less, e⟩ := d.standing_close v
  have stopped : ((d.stop? v).getD d).standing =
      { (d.close v).standing with worker := .stopped } := by
    simp only [Desk.stop?, idle, ended]
    rfl
  rw [stopped, e]
  exact .closed tx .stopped (.inl rfl) less (by rw [idle]; rfl) rfl (by simp)

/-- The list of changes is complete. -/
theorem change_of_allowed {h : History} {m : Move} (able : Allowed h d m)
    (distinct : (d.trips.map (·.ticket)).Nodup) : Change d m (d.move m).standing := by
  cases m with
  | request v p k target timeout => exact change_request d v p k target timeout
  | launch k => exact change_launch d able
  | tripEnded v k response fault => exact change_tripEnded d v able distinct
  | initiate v p token target =>
    rw [Desk.move, Desk.initiate, Desk.standing_post]
    exact .initiated
  | events v p es =>
    rw [Desk.move, Desk.onEvents, Desk.standing_post]
    exact .events
  | start =>
    rw [Desk.move, Desk.start, show d.worker = .unstarted from able]
    exact .started able
  | work v => exact change_work d v able.1 able.2
  | committed v fault => exact change_committed d v able
  | mark =>
    rw [Desk.move, Desk.mark, show d.worker = .marking from able]
    exact Desk.standing_note { d with worker := .idle } _ ▸ .marked able
  | endContext => exact .adjusted rfl
  | stop v => exact change_stop d v able.1 able.2.1
  | close v =>
    obtain ⟨tx, less, e⟩ := d.standing_close v
    rw [Desk.move, e]
    exact .closed tx d.worker (.inr rfl) less (by rw [able.1]; rfl) (by rw [able.1]; rfl)
      (by simp [able.1])
  | setTimeout t =>
    have same : (d.setTimeout t).standing = d.standing := by
      unfold Desk.setTimeout
      split <;> rfl
    rw [Desk.move, same]
    exact .adjusted rfl
  | setPanel p => exact .adjusted rfl

/-! ### What holds the worker -/

theorem Desk.worker_post (p : Poster) (cs : List Command) : (d.post v p cs).worker = d.worker :=
  (congrArg Standing.worker (d.standing_post v p cs)).trans (Standing.post_worker ..)

/-- A worker that has stopped stays so, and one that is about to report does until it does. -/
theorem Desk.worker_move_of_held {d : Desk} (held : d.worker = .stopped ∨ d.worker = .marking)
    {q : Move} (other : q ≠ .mark) : (d.move q).worker = d.worker := by
  cases q with
  | request v p k target timeout =>
    have change := change_request d v p k target timeout
    rw [move, ← standing_worker, ← standing_worker]
    generalize (d.request v p k target timeout).standing = s at change
    cases change with
    | rejected | installed => rfl
    | direct => exact Standing.post_worker ..
    | closed _ _ down => rcases down with e | e <;> cases e
    | adjusted other => cases other
  | launch k =>
    simp only [move, launch]
    split <;> rfl
  | tripEnded v k response fault =>
    simp only [move, tripEnded]
    split
    · rfl
    · exact worker_post ..
  | initiate v p token target => exact worker_post ..
  | events v p es => exact worker_post ..
  | start => rcases held with w | w <;> simp only [move, start, w]
  | work v => rcases held with w | w <;> simp only [move, work?, w, Option.getD_none]
  | committed v fault => rcases held with w | w <;> simp only [move, committed, w]
  | mark => exact absurd rfl other
  | endContext => rfl
  | stop v => rcases held with w | w <;> simp only [move, stop?, w, Option.getD_none]
  | close v =>
    obtain ⟨tx, _, e⟩ := d.standing_close v
    exact congrArg Standing.worker e
  | setTimeout t =>
    simp only [move, setTimeout]
    split <;> rfl
  | setPanel p => rfl

/-! ## Moments -/

namespace Moment

variable (m : Moment)

/-- The standing that a move leaves, before what the desk said is taken away. -/
def outcome : Standing := (m.before.move m.move).standing

theorem standing_after : m.after.standing = { m.outcome with said := [] } := rfl

theorem results_eq : m.effects.filterMap (·.result?) = m.outcome.said.filterMap (·.result?) :=
  (filterMap_loud result?_of_quiet _).symm

theorem acknowledged_eq :
    m.effects.filterMap (·.acknowledged?) = m.outcome.said.filterMap (·.acknowledged?) :=
  (filterMap_loud acknowledged?_of_quiet _).symm

theorem negotiated_eq :
    m.effects.filterMap (·.negotiated?) = m.outcome.said.filterMap (·.negotiated?) :=
  (filterMap_loud negotiated?_of_quiet _).symm

theorem notice_mem_said {m : Moment} {token : Token} {prior target : UserId}
    (mem : (token, prior, target) ∈ m.effects.filterMap (·.acknowledged?)) :
    ∃ users, .notify (.postSwitch token prior target users) ∈ m.outcome.said := by
  obtain ⟨e, he, eq⟩ := List.mem_filterMap.1 mem
  cases e with
  | notify n =>
    cases n <;> cases eq
    exact ⟨_, List.mem_filter.2 ⟨he, rfl⟩⟩
  | _ => cases eq

theorem reply_mem_said {m : Moment} {k : Ticket} {r : SwitchResult}
    (mem : (k, r) ∈ m.effects.filterMap (·.result?)) : .reply k r ∈ m.outcome.said := by
  obtain ⟨e, he, eq⟩ := List.mem_filterMap.1 mem
  cases e <;> cases eq
  exact List.mem_filter.2 ⟨he, rfl⟩

end Moment

end HeadUnit.Switching
