import Mathlib.Data.List.Basic
import Mathlib.Data.List.Induction
import HeadUnit.Proofs.Bus.Ledger

/-!
# Nothing that was accepted is dropped

When a barrier is released, exactly those items are settled that were accepted before it
(`IsRun.settled_of_released`). A worker finishes with everything settled and nothing left in the
mailbox (`IsRun.settled_of_finished`). And a bus that has closed accepts nothing
(`refuses_of_closed`).

The main statement is `settled_or_refused`.
-/

namespace HeadUnit.Bus

variable {L H : Type}

/-! ## Releases -/

/-- The barrier that is released. -/
def Effect.released? : Effect L H → Option Nat
  | release id => some id
  | _ => none

def Entry.released? : Entry L → Option Nat
  | released id => some id
  | _ => none

/-- The barriers that the bus has asked to release. -/
def releases (b : Bus L H) : List Nat := b.out.filterMap (·.released?)

theorem releases_emit (b : Bus L H) (es : List (Effect L H)) :
    (b.emit es).releases = b.releases ++ es.filterMap (·.released?) := List.filterMap_append ..

@[simp]
theorem releases_note (b : Bus L H) (n : Note) : (b.note n).releases = b.releases := by
  rw [note, releases_emit]
  exact List.append_nil _

@[simp]
theorem releases_postDeaths (b : Bus L H) (rs : List (Remote H)) :
    (b.postDeaths rs).releases = b.releases := by
  unfold postDeaths
  split <;> rfl

section Moves

variable [DecidableEq L] [DecidableEq H]

theorem releases_applyOne (b : Bus L H) (c : Command L H) :
    (b.applyOne c).releases = b.releases := by
  cases c with
  | addLocal l =>
    rw [applyOne]
    split <;> rfl
  | removeLocal l => rfl
  | addRemote uid h =>
    simp only [applyOne]
    split
    · -- The entry replaces one.
      split
      · exact (releases_postDeaths ..).trans (releases_note ..)
      · exact releases_note ..
    · split
      · exact releases_postDeaths ..
      · rfl
  | removeRemote uid => rfl
  | remoteDied uid stamp =>
    rw [applyOne]
    split
    · exact releases_note ..
    · rfl

theorem releases_applyControl (b : Bus L H) : b.applyControl.releases = b.releases := by
  have applied (cs : List (Command L H)) (b : Bus L H) :
      (cs.foldl applyOne b).releases = b.releases := by
    induction cs generalizing b with
    | nil => rfl
    | cons c cs ih => exact (ih _).trans (releases_applyOne b c)
  exact (releases_note _ _).trans (applied b.control _)

/-- The worker takes an item, and releases it if it is a barrier. -/
theorem releases_takeItem {b : Bus L H} (doing : b.worker = .draining) : b.takeItem.releases =
    b.releases ++ (b.enters?.bind (·.released?)).toList := by
  have applied := releases_applyControl b
  cases items : b.queue with
  | nil =>
    have queue : b.applyControl.queue = [] := (alike_applyControl b).queue.trans items
    simp only [takeItem, enters?, doing, queue, items]
    rw [Option.bind_none, Option.toList_none, List.append_nil]
    split
    · -- There is no barrier left.
      have finished : b.applyControl.finish.out =
          b.applyControl.out ++ [.note (.remoteListeners 0)] := by simp [finish, queue]
      rw [← applied, releases, finished]
      exact (List.filterMap_append ..).trans (List.append_nil _)
    · exact applied
  | cons i is =>
    have queue : b.applyControl.queue = i :: is := (alike_applyControl b).queue.trans items
    cases i with
    | event e =>
      simp only [takeItem, enters?, doing, queue, items]
      exact (releases_note ..).trans (applied.trans (List.append_nil _).symm)
    | barrier id =>
      simp only [takeItem, enters?, doing, queue, items]
      rw [releases_emit]
      exact congrArg (· ++ [id]) applied

/-- The worker turns to a listener, and releases nothing. -/
theorem releases_nextLocal (b : Bus L H) (e : Event) (todo : List L) :
    (b.nextLocal e todo).releases = b.releases := by
  cases todo with
  | nil => rfl
  | cons l todo =>
    simp only [nextLocal]
    split
    · rw [releases_emit, ← releases_applyControl b]
      exact List.append_nil _
    · exact releases_applyControl b

/-- The worker turns to a handle, and releases nothing. -/
theorem releases_nextRemote (b : Bus L H) (e : Event) (todo : List Int64) :
    (b.nextRemote e todo).releases = b.releases := by
  cases todo with
  | nil => exact releases_note ..
  | cons uid todo =>
    simp only [nextRemote]
    split
    · exact releases_applyControl b
    · split
      · exact (releases_note ..).trans (releases_applyControl b)
      · rw [releases_emit, ← releases_applyControl b]
        exact List.append_nil _

/-- A move releases the barrier that is written down, and no other. -/
theorem releases_move (b : Bus L H) (m : Move L H) : (b.move m).releases =
    b.releases ++ ((Moment.mk b m).writes?.bind (·.released?)).toList := by
  have posted (c : Command L H) : ((b.post c).toOption.getD b).releases = b.releases := by
    unfold post
    split <;> rfl
  have quiet {b' : Bus L H} (same : b'.releases = b.releases) : b'.releases =
      b.releases ++ ((none : Option (Entry L)).bind (·.released?)).toList :=
    same.trans (List.append_nil _).symm
  cases m with
  | work =>
    simp only [move, step?, Moment.writes?]
    cases doing : b.worker with
    | draining => exact releases_takeItem doing
    | locals e todo =>
      have silent : (b.enters?.bind (·.released?)).toList = [] := by
        cases todo <;> simp [enters?, doing, Entry.released?]
      rw [silent, List.append_nil]
      exact releases_nextLocal ..
    | remotes e todo =>
      have silent : (b.enters?.bind (·.released?)).toList = [] := by
        cases todo <;> simp [enters?, doing, Entry.released?]
      rw [silent, List.append_nil]
      exact releases_nextRemote ..
    | idle =>
      simp only [enters?, doing]
      rw [Option.bind_none, Option.toList_none, List.append_nil]
      split
      · rfl
      · split <;> rfl
    | unstarted | calling | sending | finished =>
      simp only [enters?, doing]
      exact (List.append_nil _).symm
  | dispatch e =>
    refine quiet ?_
    simp only [move, dispatch]
    split
    · exact releases_note ..
    · rfl
  | flush id =>
    refine quiet ?_
    simp only [move, flush]
    split <;> rfl
  | register o | unregister o =>
    cases o with
    | listener l => exact quiet (posted _)
    | missing | notComparable => exact quiet rfl
  | registerRemote uid h =>
    cases h with
    | some h => exact quiet (posted _)
    | none => exact quiet rfl
  | unregisterRemote | report => exact quiet (posted _)
  | die h => exact quiet (releases_postDeaths ..)
  | withhold | endContext => exact quiet rfl
  | start =>
    refine quiet ?_
    simp only [move, start]
    split <;> rfl
  | wake closing =>
    refine quiet ?_
    simp only [move]
    split <;> rfl
  | returned crash =>
    refine quiet ?_
    simp only [move, returned]
    split
    · cases crash with
      | none => rfl
      | some c => exact (releases_emit ..).trans (List.append_nil _)
    · rfl
  | sent fault =>
    refine quiet ?_
    simp only [move, sent]
    split
    · cases fault with
      | none => rfl
      | some f => exact (releases_emit ..).trans (List.append_nil _)
    · rfl

/-- A barrier is released where this is written down. -/
theorem Moment.release_mem_iff {m : Moment L H} (silent : m.before.out = []) (id : Nat) :
    .release id ∈ m.effects ↔ m.writes? = some (.released id) := by
  have releases := releases_move m.before m.move
  have none : m.before.releases = [] := by rw [Bus.releases, silent]; rfl
  rw [none, List.nil_append] at releases
  have mem : .release id ∈ m.effects ↔ id ∈ (m.before.move m.move).releases := by
    constructor
    · exact fun mem => List.mem_filterMap.2 ⟨_, mem, rfl⟩
    · intro mem
      obtain ⟨e, there, own⟩ := List.mem_filterMap.1 mem
      cases e <;> cases own
      exact there
  rw [mem, releases, Option.mem_toList, Option.bind_eq_some_iff]
  constructor
  · rintro ⟨e, written, own⟩
    cases e <;> cases own
    exact written
  · exact fun written => ⟨_, written, rfl⟩

/-! ## Barriers -/

/-- A run up to a moment. -/
theorem IsRun.before {h₁ h₂ : History L H} {m : Moment L H} {b : Bus L H}
    (run : IsRun (h₁ ++ m :: h₂) b) : IsRun h₁ m.before := by
  induction h₂ using List.reverseRecOn generalizing b with
  | nil =>
    generalize e : h₁ ++ [m] = h at run
    cases run with
    | fresh => simp at e
    | step m' run =>
      obtain ⟨rfl, rfl⟩ := List.append_singleton_inj.1 e
      exact run
  | append_singleton h₂ x ih =>
    rw [← List.cons_append, ← List.append_assoc] at run
    generalize e : h₁ ++ m :: h₂ ++ [x] = h at run
    cases run with
    | fresh => simp at e
    | step m' run =>
      obtain ⟨rfl, rfl⟩ := List.append_singleton_inj.1 e
      exact ih run

/-- A barrier is written down as released where it is the first in the queue, and the worker is
    about to take it. -/
theorem Moment.of_released {m : Moment L H} {id : Nat} (written : m.writes? = some (.released id)) :
    m.before.worker.event? = none ∧ ∃ is, m.before.queue = .barrier id :: is := by
  have shift := shift_move m.before m.move
  generalize (m.before.move m.move).worker = w at shift
  generalize (m.before.move m.move).queue = q at shift
  generalize m.before.posts? m.move = p at shift
  rw [show (Moment.mk m.before m.move).writes? = some (.released id) from written] at shift
  cases shift with
  | released doing first => exact ⟨doing ▸ rfl, _, first⟩

/-- When a barrier is released, all that is settled is what was accepted before it, and the
    barrier itself. -/
theorem IsRun.settled_of_released {h₁ h₂ h₃ : History L H} {f m : Moment L H} {b : Bus L H}
    {id : Nat} (run : IsRun (h₁ ++ f :: (h₂ ++ m :: h₃)) b) (flush : f.posts? = some (.barrier id))
    (own : ∀ x ∈ h₁ ++ h₂, x.posts? ≠ some (.barrier id)) (release : .release id ∈ m.effects) :
    Settled (History.posts h₁ ++ [.barrier id]) (History.journal (h₁ ++ f :: (h₂ ++ [m]))) := by
  rw [← List.cons_append, ← List.append_assoc] at run
  have before := run.before
  have written := (Moment.release_mem_iff before.out_eq_nil id).1 release
  obtain ⟨rest, is, first⟩ := Moment.of_released written
  obtain ⟨jobs, es, ledger⟩ := before.ledger
  obtain ⟨balance, log⟩ := ledger.at_rest rest
  have absent {h : History L H} (part : ∀ x ∈ h, x ∈ h₁ ++ h₂) : .barrier id ∉ History.posts h := by
    intro mem
    obtain ⟨x, there, posted⟩ := List.mem_filterMap.1 mem
    exact own x (part x there) posted
  have accepted : History.posts (h₁ ++ f :: h₂) =
      History.posts h₁ ++ .barrier id :: History.posts h₂ := by
    rw [List.append_cons, History.posts_append, History.posts_append, History.posts_singleton,
      flush]
    simp
  -- The barrier stands at one place among what was accepted.
  have before' : .barrier id ∉ History.posts h₁ := absent fun _ => List.mem_append_left _
  have after' : .barrier id ∉ History.posts h₂ := absent fun _ => List.mem_append_right _
  obtain ⟨settled, _, _⟩ := (List.append_cons_inj_of_notMem before' after').1
    (accepted.symm.trans (balance.trans (congrArg _ first)))
  refine ⟨jobs ++ [.barrier id], ?_, ?_⟩
  · rw [List.map_append, ← settled]
    rfl
  · rw [← List.cons_append, ← List.append_assoc, History.journal_append, log,
      History.journal_singleton, written, List.flatMap_append]
    rfl

/-! ## The end -/

/-- Nothing is left in the mailbox, and nothing comes in. -/
structure Vacated (b : Bus L H) : Prop where
  closed : b.closed = true
  queue : b.queue = []
  control : b.control = []

omit [DecidableEq L] [DecidableEq H] in
/-- A worker that is busy does not finish. -/
theorem Shift.ne_finished {b : Bus L H} {w : Worker L} {queue : List Item} {p : Option Item}
    {en : Option (Entry L)} (shift : Shift b w queue p en) (busy : b.worker.event? ≠ none) :
    w ≠ .finished := by
  intro finished
  cases shift with
  | nothing | posted => exact busy (finished ▸ rfl)
  | moved rest | begun rest => exact busy rest
  | released doing => exact busy (doing ▸ rfl)
  | turn doing next => rcases next with rfl | rfl <;> cases finished
  | came doing next => rcases next with ⟨_, rfl⟩ | rfl <;> cases finished
  | returned | turned | taken | ended => cases finished

/-- When the worker finishes, nothing is left. -/
theorem vacated_work {b : Bus L H} (vacated : b.worker = .finished → b.Vacated)
    (finished : (b.step?.getD b).worker = .finished) : (b.step?.getD b).Vacated := by
  have shift := shift_work b
  cases doing : b.worker with
  | finished =>
    have same : b.step?.getD b = b := by simp [step?, doing]
    rw [same]
    exact vacated doing
  | unstarted =>
    have same : b.step?.getD b = b := by simp [step?, doing]
    rw [same, doing] at finished
    cases finished
  | idle =>
    simp only [step?, doing] at finished
    split at finished
    · cases finished
    · split at finished
      · cases finished
      · rw [Option.getD_none, doing] at finished
        cases finished
  | draining =>
    have worker : b.applyControl.worker = .draining := (alike_applyControl b).worker.trans doing
    simp only [step?, doing, Option.getD_some, takeItem] at finished ⊢
    split at finished
    · rw [worker] at finished
      cases finished
    · cases finished
    · next empty =>
      rw [empty]
      split at finished
      · next closed =>
        rw [if_pos closed]
        exact ⟨rfl, rfl, rfl⟩
      · cases finished
  | locals | calling | remotes | sending =>
    exact absurd finished (shift.ne_finished (by simp [doing, Worker.event?]))

/-- A worker that has finished has left nothing. -/
theorem vacated_move {b : Bus L H} (vacated : b.worker = .finished → b.Vacated) (m : Move L H)
    (finished : (b.move m).worker = .finished) : (b.move m).Vacated := by
  have posted (c : Command L H) (finished : ((b.post c).toOption.getD b).worker = .finished) :
      ((b.post c).toOption.getD b).Vacated := by
    unfold post at finished ⊢
    split
    · next closed =>
      rw [if_pos closed] at finished
      exact vacated finished
    · next isOpen =>
      rw [if_neg isOpen] at finished
      exact absurd (vacated finished).closed isOpen
  cases m with
  | work => exact vacated_work vacated finished
  | dispatch e =>
    simp only [move, dispatch] at finished ⊢
    split at finished
    · next closed =>
      rw [if_pos closed]
      obtain ⟨closed, queue, control⟩ := vacated finished
      exact ⟨closed, queue, control⟩
    · next isOpen => exact absurd (vacated finished).closed isOpen
  | flush id =>
    simp only [move, flush] at finished ⊢
    split at finished
    · next closed =>
      rw [if_pos closed]
      exact vacated finished
    · next isOpen => exact absurd (vacated finished).closed isOpen
  | register o | unregister o =>
    cases o with
    | listener l => exact posted _ finished
    | missing | notComparable => exact vacated finished
  | registerRemote uid h =>
    cases h with
    | some h => exact posted _ finished
    | none => exact vacated finished
  | unregisterRemote | report => exact posted _ finished
  | die h =>
    have alike := alike_postDeaths { b with dead := h :: b.dead } (b.remotes.filter (·.handle == h))
    obtain ⟨closed, queue, control⟩ := vacated (alike.worker.symm.trans finished)
    refine ⟨alike.closed.trans closed, alike.queue.trans queue, ?_⟩
    simp [move, handleDied, postDeaths, closed, control]
  | withhold uid stamp =>
    obtain ⟨closed, queue, control⟩ := vacated finished
    exact ⟨closed, queue, by simp [move, control]⟩
  | endContext =>
    obtain ⟨closed, queue, control⟩ := vacated finished
    exact ⟨closed, queue, control⟩
  | start =>
    simp only [move, start] at finished ⊢
    split at finished
    · cases finished
    · exact vacated finished
  | wake closing =>
    simp only [move] at finished ⊢
    split at finished
    · cases finished
    · exact vacated finished
  | returned crash =>
    simp only [move, returned] at finished ⊢
    split at finished
    · cases crash <;> cases finished
    · exact vacated finished
  | sent fault =>
    simp only [move, sent] at finished ⊢
    split at finished
    · cases fault <;> cases finished
    · exact vacated finished

theorem IsRun.vacated {h : History L H} {b : Bus L H} (run : IsRun h b)
    (finished : b.worker = .finished) : b.Vacated := by
  induction run with
  | fresh => cases finished
  | @step h b m run ih =>
    obtain ⟨closed, queue, control⟩ := vacated_move ih m finished
    exact ⟨closed, queue, control⟩

/-- A worker that has finished has settled all that was accepted, and applied all orders. -/
theorem IsRun.settled_of_finished {h : History L H} {b : Bus L H} (run : IsRun h b)
    (finished : b.worker = .finished) : Settled h.posts h.journal ∧
      h.trace.posted = orders h.trace.applied ∧ b.queue = [] ∧ b.control = [] := by
  obtain ⟨_, queue, control⟩ := run.vacated finished
  obtain ⟨jobs, es, ledger⟩ := run.ledger
  obtain ⟨balance, log⟩ := ledger.at_rest (finished ▸ rfl)
  rw [queue, List.append_nil] at balance
  have none : b.standing.orders = [] := by simp [standing, control, orders]
  have posted := run.books.posted
  rw [none, List.append_nil] at posted
  exact ⟨⟨jobs, balance.symm, log⟩, posted, queue, control⟩

/-! ## Closing -/

/-- A closed bus accepts nothing, and stays closed. -/
structure Refuses (b : Bus L H) : Prop where
  stays : ∀ m, (b.move m).closed = true
  posts : ∀ m, b.posts? m = none
  dispatch : ∀ e, (b.dispatch e).queue = b.queue ∧ (b.dispatch e).control = b.control
  register : ∀ l, b.register (.listener l) = .error .notRunning
  unregister : ∀ l, b.unregister (.listener l) = .error .notRunning
  registerRemote : ∀ uid handle, b.registerRemote uid (some handle) = .error .notRunning
  unregisterRemote : ∀ uid, b.unregisterRemote uid = .error .notRunning
  flush : ∀ id, b.flush id = .error .notRunning
  /-- What can be no listener is refused for this reason, as ever. -/
  invalid : ∀ o f, o.check = .error f → b.register o = .error f ∧ b.unregister o = .error f
  missing : ∀ uid, b.registerRemote uid none = .error (.handleMissing uid)

theorem refuses_of_closed {b : Bus L H} (closed : b.closed = true) : b.Refuses := by
  have refused (c : Command L H) : b.post c = .error .notRunning := by simp [post, closed]
  refine ⟨closed_move closed, fun m => ?_, fun e => ?_, fun l => refused _, fun l => refused _,
    fun uid handle => refused _, fun uid => refused _, fun id => ?_, fun o f invalid => ?_,
    fun uid => rfl⟩
  · cases m <;> simp [posts?, closed]
  · simp [Bus.dispatch, closed, note, emit]
  · simp [Bus.flush, closed]
  · rw [Bus.register, Bus.unregister, invalid]
    exact ⟨rfl, rfl⟩

/-! ## What is written down -/

/-- What is written down is so. The turn of a listener passes only if it is not registered any
    more, and the turn of a uid if it has no entry or if its handle is dead. -/
def Moment.Honest (m : Moment L H) : Prop :=
  match m.writes? with
  | some (.begun _ ls) => ls = m.before.applyControl.locals
  | some (.turn l e) => .call l e ∈ m.effects ∨ l ∉ m.before.applyControl.locals
  | some (.turned _ uids) => uids = m.before.remotes.map (·.uid)
  | some (.came uid e) => ∀ r, m.before.applyControl.remote? uid = some r →
    .send uid r.handle e ∈ m.effects ∨ r.handle ∈ m.before.applyControl.dead
  | some (.released id) => .release id ∈ m.effects
  | some (.ended _) | none => True

/-- The turn of a listener. -/
theorem call_or_gone (b : Bus L H) (l : L) (e : Event) (todo : List L) :
    .call l e ∈ (b.nextLocal e (l :: todo)).out ∨ l ∉ b.applyControl.locals := by
  simp only [nextLocal]
  split
  · exact .inl (List.mem_append_right _ (List.mem_singleton.2 rfl))
  · next gone => exact .inr (mt List.contains_iff_mem.2 gone)

/-- The turn of a uid. -/
theorem send_or_dead (b : Bus L H) (uid : Int64) (e : Event) (todo : List Int64) {r : Remote H}
    (there : b.applyControl.remote? uid = some r) :
    .send uid r.handle e ∈ (b.nextRemote e (uid :: todo)).out ∨
      r.handle ∈ b.applyControl.dead := by
  simp only [nextRemote, there]
  split
  · next dead => exact .inr (List.contains_iff_mem.1 dead)
  · exact .inl (List.mem_append_right _ (List.mem_singleton.2 rfl))

theorem Moment.honest {m : Moment L H} (silent : m.before.out = []) : m.Honest := by
  have released := fun id => (m.release_mem_iff silent id).2
  obtain ⟨b, move⟩ := m
  cases move with
  | work =>
    unfold Honest
    cases doing : b.worker with
    | draining =>
      cases items : b.queue with
      | nil => simp [writes?, enters?, doing, items]
      | cons i is =>
        cases i with
        | event e => simp [writes?, enters?, doing, items]
        | barrier id =>
          have written : (Moment.mk b .work).writes? = some (.released id) := by
            simp [writes?, enters?, doing, items]
          rw [written]
          exact released id written
    | locals e todo =>
      cases todo with
      | nil => simp [writes?, enters?, doing]
      | cons l todo =>
        have made : (Moment.mk b .work).effects = (b.nextLocal e (l :: todo)).out := by
          simp [effects, Bus.move, take, step?, doing]
        simp only [writes?, enters?, doing]
        rw [made]
        exact call_or_gone b l e todo
    | remotes e todo =>
      cases todo with
      | nil => simp [writes?, enters?, doing]
      | cons uid todo =>
        have made : (Moment.mk b .work).effects = (b.nextRemote e (uid :: todo)).out := by
          simp [effects, Bus.move, take, step?, doing]
        simp only [writes?, enters?, doing]
        rw [made]
        exact fun r there => send_or_dead b uid e todo there
    | unstarted | idle | calling | sending | finished => simp [writes?, enters?, doing]
  | _ => exact trivial

/-- Between moves nothing is left to be said, so all moments of a run are honest. -/
theorem IsRun.honest {h : History L H} {b : Bus L H} (run : IsRun h b) : ∀ m ∈ h, m.Honest := by
  intro m mem
  obtain ⟨h₁, h₂, rfl⟩ := List.append_of_mem mem
  exact Moment.honest run.before.out_eq_nil

/-- Nothing that was accepted is dropped by flushing or stopping, in every run.

    * When a barrier is released, then what is settled is what was accepted before it, and the
      barrier itself.
    * When the worker has finished, then all that was accepted is settled, all orders are applied,
      and the mailbox is empty.
    * When the bus has closed, it accepts nothing more.

    What is settled is written down in full, and all that is written down is so. -/
theorem settled_or_refused {h : History L H} {b : Bus L H} (run : IsRun h b) :
    (∀ (h₁ : History L H) (f : Moment L H) (h₂ : History L H) (m : Moment L H) (h₃ : History L H)
      (id : Nat), h = h₁ ++ f :: (h₂ ++ m :: h₃) → f.posts? = some (.barrier id) →
      (∀ x ∈ h₁ ++ h₂, x.posts? ≠ some (.barrier id)) → .release id ∈ m.effects →
      Settled (History.posts h₁ ++ [.barrier id]) (History.journal (h₁ ++ f :: (h₂ ++ [m])))) ∧
    (b.worker = .finished → Settled h.posts h.journal ∧
      h.trace.posted = orders h.trace.applied ∧ b.queue = [] ∧ b.control = []) ∧
    (b.closed = true → b.Refuses) ∧
    ∀ m ∈ h, m.Honest := by
  refine ⟨fun h₁ f h₂ m h₃ id split flush own release => ?_, run.settled_of_finished,
    refuses_of_closed, run.honest⟩
  exact IsRun.settled_of_released (split ▸ run) flush own release

end Moves

/-- But a bus that has closed does not refuse everything as not running: where there is no
    listener at all, this is said first. -/
theorem missing_before_closed : ¬∀ (h : History Nat Nat) (b : Bus Nat Nat), IsRun h b →
    b.closed = true → ∀ o, b.register o = .error .notRunning := by
  intro refused
  have run := (IsRun.fresh (L := Nat) (H := Nat)).play [.start, .work, .endContext, .work]
  have same : Except.error Fault.listenerMissing = Except.error Fault.notRunning :=
    refused _ _ run rfl .missing
  cases same

namespace Sample

/-- While `hello` is delivered, the listener posts `bye`, behind a barrier, and the context ends.
    What comes once the bus has closed is dropped. -/
def drain : List (Move Nat Nat) :=
  [.register (.listener 1), .registerRemote 7 (some 70), .start, .dispatch hello, .flush 5, .work,
    .work, .dispatch bye, .endContext, .returned none, .work, .work, .sent none, .work, .work,
    .work, .work, .returned none, .work, .work, .sent none, .work, .work, .wake true,
    .dispatch hello, .work]

/-- The history and the bus after the moves. -/
def drained : History Nat Nat × Bus Nat Nat := played [] {} drain

theorem isRun_drained : IsRun drained.1 drained.2 := IsRun.fresh.play drain

end Sample

/-- When the barrier is released, `hello` is delivered, and `bye` still waits. When the worker
    has finished, `bye` is delivered as well. -/
theorem drained_of_sample : IsRun Sample.drained.1 Sample.drained.2 ∧
    (∃ h₁ f h₂ m h₃, Sample.drained.1 = h₁ ++ f :: (h₂ ++ m :: h₃) ∧
      m.before.queue = [.barrier 5, .event Sample.bye] ∧
      Settled [.event Sample.hello, .barrier 5] (History.journal (h₁ ++ f :: (h₂ ++ [m])))) ∧
    Settled [.event Sample.hello, .barrier 5, .event Sample.bye] Sample.drained.1.journal := by
  have run := Sample.isRun_drained
  obtain ⟨released, finished, _⟩ := settled_or_refused run
  let h := Sample.drained.1
  have split : h = h.take 4 ++ h[4] :: ((h.drop 5).take 9 ++ h[14] :: h.drop 15) := rfl
  refine ⟨run, ⟨_, _, _, _, _, split, rfl, ?_⟩, (finished rfl).1⟩
  exact released _ _ _ _ _ 5 split rfl (by decide) ((Moment.release_mem_iff rfl 5).2 rfl)

end HeadUnit.Bus
