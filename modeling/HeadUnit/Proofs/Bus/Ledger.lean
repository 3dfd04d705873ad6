import HeadUnit.Proofs.Bus.Attachment

/-!
# The ledger of a bus

Events and barriers wait in one queue, and the worker does one *job* for each of them (`Job`): it
releases the barrier, or delivers the event, i.e., turns to every listener that was registered when
the delivery started, and then to the uid of every handle that was registered when the listeners
were done. What it does is written down, entry by entry (`Entry`), and `Shift` lists how a move
can change worker and queue, and what it writes down.

The *ledger* (`Ledger`) balances the two: the items that were accepted are those of the jobs that
are done, then the one that is under way, then the queue. Every run has one (`IsRun.ledger`).
-/

namespace HeadUnit.Bus

variable {L H : Type}

/-! ## Entries and jobs -/

/-- What the worker writes down. -/
inductive Entry (L : Type)
  /-- The delivery of an event starts; these listeners are registered. -/
  | begun (e : Event) (ls : List L)
  /-- The turn of a listener has come. -/
  | turn (l : L) (e : Event)
  /-- The listeners are done; handles are registered for these uids. -/
  | turned (e : Event) (uids : List Int64)
  /-- The turn of a uid has come. -/
  | came (uid : Int64) (e : Event)
  /-- The delivery is complete. -/
  | ended (e : Event)
  | released (barrier : Nat)
  deriving DecidableEq

/-- What the worker does about an item. -/
inductive Job (L : Type)
  | event (e : Event) (ls : List L) (uids : List Int64)
  | barrier (id : Nat)

namespace Job

def item : Job L → Item
  | event e _ _ => .event e
  | barrier id => .barrier id

/-- All that is written down of a job. -/
def log : Job L → List (Entry L)
  | event e ls uids =>
    .begun e ls :: ls.map (.turn · e) ++ .turned e uids :: uids.map (.came · e) ++ [.ended e]
  | barrier id => [.released id]

end Job

/-- All that was written down is of jobs that are done, one for each of the items. -/
def Settled (items : List Item) (journal : List (Entry L)) : Prop :=
  ∃ jobs : List (Job L), jobs.map (·.item) = items ∧ journal = jobs.flatMap (·.log)

/-- What was written down of the job that is under way. -/
inductive Underway : Worker L → List (Entry L) → Prop
  | rest {w : Worker L} (none : w.event? = none) : Underway w []
  | locals {e : Event} {ls todo : List L} :
      Underway (.locals e todo) (.begun e (ls ++ todo) :: ls.map (.turn · e))
  | calling {l : L} {e : Event} {ls todo : List L} :
      Underway (.calling l e todo) (.begun e (ls ++ todo) :: ls.map (.turn · e))
  | remotes {e : Event} {ls : List L} {uids todo : List Int64} :
      Underway (.remotes e todo)
        (.begun e ls :: ls.map (.turn · e) ++ .turned e (uids ++ todo) :: uids.map (.came · e))
  | sending {uid : Int64} {stamp : Nat} {e : Event} {ls : List L} {uids todo : List Int64} :
      Underway (.sending uid stamp e todo)
        (.begun e ls :: ls.map (.turn · e) ++ .turned e (uids ++ todo) :: uids.map (.came · e))

namespace Underway

variable {w : Worker L} {es : List (Entry L)} {e : Event}

theorem eq_nil (underway : Underway w es) (none : w.event? = none) : es = [] := by
  cases underway with
  | rest => rfl
  | _ => cases none

theorem begun (e : Event) (ls : List L) : Underway (.locals e ls) [.begun e ls] :=
  @locals L e [] ls

theorem turn {l : L} {todo : List L} (underway : Underway (.locals e (l :: todo)) es) :
    Underway (.calling l e todo) (es ++ [.turn l e]) ∧
      Underway (.locals e todo) (es ++ [.turn l e]) := by
  cases underway with
  | rest none => cases none
  | @locals _ ls =>
    have more : Entry.begun e (ls ++ l :: todo) :: ls.map (Entry.turn · e) ++ [Entry.turn l e] =
        Entry.begun e ((ls ++ [l]) ++ todo) :: (ls ++ [l]).map (Entry.turn · e) := by simp
    rw [more]
    exact ⟨.calling, .locals⟩

theorem returned {l : L} {todo : List L} (underway : Underway (.calling l e todo) es) :
    Underway (.locals e todo) es := by
  cases underway with
  | rest none => cases none
  | calling => exact .locals

theorem turned (underway : Underway (.locals e []) es) (uids : List Int64) :
    Underway (.remotes e uids) (es ++ [.turned e uids]) := by
  cases underway with
  | rest none => cases none
  | @locals _ ls =>
    rw [List.append_nil]
    exact @remotes L e ls [] uids

theorem came {uid : Int64} {todo : List Int64} (underway : Underway (.remotes e (uid :: todo)) es) :
    (∀ stamp, Underway (.sending uid stamp e todo) (es ++ [.came uid e])) ∧
      Underway (.remotes e todo) (es ++ [.came uid e]) := by
  cases underway with
  | rest none => cases none
  | @remotes _ ls uids =>
    have more : (Entry.begun e ls :: ls.map (Entry.turn · e) ++
        Entry.turned e (uids ++ uid :: todo) :: uids.map (Entry.came · e)) ++ [Entry.came uid e] =
        Entry.begun e ls :: ls.map (Entry.turn · e) ++
          Entry.turned e ((uids ++ [uid]) ++ todo) :: (uids ++ [uid]).map (Entry.came · e) := by
      simp
    rw [more]
    exact ⟨fun _ => .sending, .remotes⟩

theorem taken {uid : Int64} {stamp : Nat} {todo : List Int64}
    (underway : Underway (.sending uid stamp e todo) es) : Underway (.remotes e todo) es := by
  cases underway with
  | rest none => cases none
  | sending => exact .remotes

/-- Once every turn has come, the job is done. -/
theorem ended (underway : Underway (.remotes e []) es) :
    ∃ ls uids, es ++ [.ended e] = (Job.event e ls uids).log := by
  cases underway with
  | rest none => cases none
  | @remotes _ ls uids => exact ⟨ls, uids, by simp [Job.log]⟩

end Underway

/-- The books of what was accepted and of what was written down. -/
structure Ledger (posts : List Item) (journal : List (Entry L)) (w : Worker L) (queue : List Item)
    (jobs : List (Job L)) (es : List (Entry L)) : Prop where
  posts : posts = jobs.map (·.item) ++ (w.event?.map Item.event).toList ++ queue
  journal : journal = jobs.flatMap (·.log) ++ es
  underway : Underway w es

namespace Ledger

variable {posts queue : List Item} {journal es es' : List (Entry L)} {jobs : List (Job L)}
  {w w' : Worker L}

/-- While nothing is under way, what was accepted is settled or queued. -/
theorem at_rest (ledger : Ledger posts journal w queue jobs es) (rest : w.event? = none) :
    posts = jobs.map (·.item) ++ queue ∧ journal = jobs.flatMap (·.log) := by
  have none := ledger.underway.eq_nil rest
  refine ⟨?_, ?_⟩
  · rw [ledger.posts, rest, Option.map_none, Option.toList_none, List.append_nil]
  · rw [ledger.journal, none, List.append_nil]

theorem of_rest (rest : w.event? = none) (balance : posts = jobs.map (·.item) ++ queue)
    (written : journal = jobs.flatMap (·.log)) : Ledger posts journal w queue jobs [] where
  posts := by rw [balance, rest, Option.map_none, Option.toList_none, List.append_nil]
  journal := by rw [written, List.append_nil]
  underway := .rest rest

/-- The job that is under way goes on, and maybe something is written down. -/
theorem goes_on (ledger : Ledger posts journal w queue jobs es) (same : w'.event? = w.event?)
    (underway : Underway w' (es ++ es')) :
    Ledger posts (journal ++ es') w' queue jobs (es ++ es') where
  posts := by rw [same, ledger.posts]
  journal := by rw [ledger.journal, List.append_assoc]
  underway := underway

end Ledger

/-! ## What a move does to worker and queue -/

section Moves

variable [DecidableEq L] [DecidableEq H]

/-- The item that a move puts into the queue. -/
def posts? (b : Bus L H) : Move L H → Option Item
  | .dispatch e => if b.closed then none else some (.event e)
  | .flush id => if b.closed then none else some (.barrier id)
  | _ => none

/-- What a step of the worker writes down. -/
def enters? (b : Bus L H) : Option (Entry L) :=
  match b.worker with
  | .draining =>
    match b.queue with
    | .event e :: _ => some (.begun e b.applyControl.locals)
    | .barrier id :: _ => some (.released id)
    | [] => none
  | .locals e [] => some (.turned e (b.remotes.map (·.uid)))
  | .locals e (l :: _) => some (.turn l e)
  | .remotes e [] => some (.ended e)
  | .remotes e (uid :: _) => some (.came uid e)
  | _ => none

namespace Moment

def posts? (m : Moment L H) : Option Item := m.before.posts? m.move

def writes? (m : Moment L H) : Option (Entry L) :=
  match m.move with
  | .work => m.before.enters?
  | _ => none

end Moment

/-- What becomes of worker and queue, the item that is accepted, and what is written down. -/
inductive Shift (b : Bus L H) : Worker L → List Item → Option Item → Option (Entry L) → Prop
  | nothing : Shift b b.worker b.queue none none
  | posted (i : Item) : Shift b b.worker (b.queue ++ [i]) (some i) none
  /-- The worker starts or wakes up, or finds nothing to do. -/
  | moved (rest : b.worker.event? = none) {w : Worker L} (rest' : w.event? = none) :
      Shift b w b.queue none none
  | begun {e : Event} {is : List Item} (rest : b.worker.event? = none)
      (first : b.queue = .event e :: is) (ls : List L) :
      Shift b (.locals e ls) is none (some (.begun e ls))
  | released {id : Nat} {is : List Item} (doing : b.worker = .draining)
      (first : b.queue = .barrier id :: is) : Shift b .draining is none (some (.released id))
  | turn {l : L} {e : Event} {todo : List L} (doing : b.worker = .locals e (l :: todo))
      {w : Worker L} (next : w = .calling l e todo ∨ w = .locals e todo) :
      Shift b w b.queue none (some (.turn l e))
  | returned {l : L} {e : Event} {todo : List L} (doing : b.worker = .calling l e todo) :
      Shift b (.locals e todo) b.queue none none
  | turned {e : Event} (doing : b.worker = .locals e []) (uids : List Int64) :
      Shift b (.remotes e uids) b.queue none (some (.turned e uids))
  | came {uid : Int64} {e : Event} {todo : List Int64} (doing : b.worker = .remotes e (uid :: todo))
      {w : Worker L} (next : (∃ stamp, w = .sending uid stamp e todo) ∨ w = .remotes e todo) :
      Shift b w b.queue none (some (.came uid e))
  | taken {uid : Int64} {stamp : Nat} {e : Event} {todo : List Int64}
      (doing : b.worker = .sending uid stamp e todo) : Shift b (.remotes e todo) b.queue none none
  | ended {e : Event} (doing : b.worker = .remotes e []) :
      Shift b .draining b.queue none (some (.ended e))

/-- The worker takes an item, or finds none. -/
theorem shift_takeItem {b : Bus L H} (doing : b.worker = .draining) :
    Shift b b.takeItem.worker b.takeItem.queue none b.enters? := by
  have rest : b.worker.event? = none := by rw [doing]; rfl
  have alike := alike_applyControl b
  have worker : b.applyControl.worker = .draining := alike.worker.trans doing
  cases items : b.queue with
  | nil =>
    have queue : b.applyControl.queue = [] := alike.queue.trans items
    simp only [takeItem, enters?, doing, queue, items]
    rw [← items]
    split
    · have empty : b.applyControl.finish.queue = b.queue := items.symm
      rw [empty]
      exact .moved rest rfl
    · exact .moved rest rfl
  | cons i is =>
    have queue : b.applyControl.queue = i :: is := alike.queue.trans items
    cases i with
    | event e =>
      simp only [takeItem, enters?, doing, queue, items]
      exact .begun rest items _
    | barrier id =>
      simp only [takeItem, enters?, doing, queue, items]
      dsimp only [emit]
      rw [worker]
      exact .released doing items

/-- The worker turns to the next listener. -/
theorem shift_nextLocal {b : Bus L H} {e : Event} {todo : List L}
    (doing : b.worker = .locals e todo) :
    Shift b (b.nextLocal e todo).worker (b.nextLocal e todo).queue none b.enters? := by
  have queue : b.applyControl.queue = b.queue := (alike_applyControl b).queue
  cases todo with
  | nil =>
    simp only [nextLocal, enters?, doing]
    exact .turned doing _
  | cons l todo =>
    simp only [nextLocal, enters?, doing]
    split
    · dsimp only [emit]
      rw [queue]
      exact .turn doing (.inl rfl)
    · rw [queue]
      exact .turn doing (.inr rfl)

/-- The worker turns to the next handle. -/
theorem shift_nextRemote {b : Bus L H} {e : Event} {todo : List Int64}
    (doing : b.worker = .remotes e todo) :
    Shift b (b.nextRemote e todo).worker (b.nextRemote e todo).queue none b.enters? := by
  have queue : b.applyControl.queue = b.queue := (alike_applyControl b).queue
  cases todo with
  | nil =>
    simp only [nextRemote, enters?, doing]
    exact .ended doing
  | cons uid todo =>
    simp only [nextRemote, enters?, doing]
    split
    · rw [queue]
      exact .came doing (.inr rfl)
    · split
      · dsimp only [note, emit, dropRemote]
        rw [queue]
        exact .came doing (.inr rfl)
      · dsimp only [emit]
        rw [queue]
        exact .came doing (.inl ⟨_, rfl⟩)

/-- A step of the worker is a shift. -/
theorem shift_work (b : Bus L H) :
    Shift b (b.step?.getD b).worker (b.step?.getD b).queue none b.enters? := by
  unfold step?
  split
  · next w => simpa [enters?, w] using Shift.nothing (b := b)
  · next w =>
    have rest : b.worker.event? = none := by rw [w]; rfl
    simp only [enters?, w]
    split
    · exact .moved rest rfl
    · split
      · exact .moved rest rfl
      · exact .nothing
  · next w => exact shift_takeItem w
  · next w => exact shift_nextLocal w
  · next w => simpa [enters?, w] using Shift.nothing (b := b)
  · next w => exact shift_nextRemote w
  · next w => simpa [enters?, w] using Shift.nothing (b := b)
  · next w => simpa [enters?, w] using Shift.nothing (b := b)

omit [DecidableEq L] [DecidableEq H] in
/-- Posting a command touches neither worker nor queue. -/
theorem shift_post (b : Bus L H) (c : Command L H) :
    Shift b ((b.post c).toOption.getD b).worker ((b.post c).toOption.getD b).queue none none := by
  unfold post
  split
  · exact .nothing
  · exact .nothing

/-- Every move is one of the shifts. -/
theorem shift_move (b : Bus L H) (m : Move L H) :
    Shift b (b.move m).worker (b.move m).queue (b.posts? m) (Moment.mk b m).writes? := by
  cases m with
  | dispatch e =>
    simp only [move, dispatch, posts?]
    split
    · exact .nothing
    · exact .posted _
  | flush id =>
    simp only [move, flush, posts?]
    split
    · exact .nothing
    · exact .posted _
  | register o | unregister o =>
    cases o with
    | listener l => exact shift_post ..
    | missing | notComparable => exact .nothing
  | registerRemote uid h =>
    cases h with
    | some h => exact shift_post ..
    | none => exact .nothing
  | unregisterRemote | report => exact shift_post ..
  | die h =>
    have alike := alike_postDeaths { b with dead := h :: b.dead } (b.remotes.filter (·.handle == h))
    have worker : (b.move (.die h)).worker = b.worker := alike.worker
    have queue : (b.move (.die h)).queue = b.queue := alike.queue
    rw [worker, queue]
    exact .nothing
  | withhold | endContext => exact .nothing
  | start =>
    simp only [move, start]
    split
    · next new => exact .moved (new ▸ rfl) rfl
    · exact .nothing
  | wake closing =>
    simp only [move]
    split
    · next idle => exact .moved (idle ▸ rfl) rfl
    · exact .nothing
  | work => exact shift_work b
  | returned crash =>
    simp only [move, returned]
    split
    · next l e todo doing => cases crash <;> exact .returned doing
    · exact .nothing
  | sent fault =>
    simp only [move, sent]
    split
    · next uid stamp e todo doing => cases fault <;> exact .taken doing
    · exact .nothing

/-! ## Runs have ledgers -/

omit [DecidableEq L] [DecidableEq H] in
/-- Whatever a move does, the ledger can be kept. -/
theorem Shift.ledger {b : Bus L H} {w : Worker L} {queue : List Item} {p : Option Item}
    {en : Option (Entry L)} (shift : Shift b w queue p en) {posts : List Item}
    {journal es : List (Entry L)} {jobs : List (Job L)}
    (ledger : Ledger posts journal b.worker b.queue jobs es) :
    ∃ jobs es, Ledger (posts ++ p.toList) (journal ++ en.toList) w queue jobs es := by
  have underway := ledger.underway
  cases shift with
  | nothing =>
    rw [Option.toList_none, List.append_nil, Option.toList_none, List.append_nil]
    exact ⟨jobs, es, ledger⟩
  | posted i =>
    rw [Option.toList_none, List.append_nil]
    exact ⟨jobs, es, by simp [ledger.posts], ledger.journal, underway⟩
  | moved rest rest' =>
    obtain ⟨balance, written⟩ := ledger.at_rest rest
    exact ⟨jobs, [], .of_rest rest' (by simpa using balance) (by simpa using written)⟩
  | @begun e is rest first ls =>
    obtain ⟨balance, written⟩ := ledger.at_rest rest
    refine ⟨jobs, [.begun e ls], ?_, by simp [written], .begun e ls⟩
    rw [balance, first]
    simp [Worker.event?]
  | @released id is doing first =>
    obtain ⟨balance, written⟩ := ledger.at_rest (doing ▸ rfl)
    refine ⟨jobs ++ [.barrier id], [], .of_rest rfl ?_ (by simp [written, Job.log])⟩
    rw [balance, first]
    simp [Job.item]
  | turn doing next =>
    rw [doing] at ledger underway
    rw [Option.toList_none, List.append_nil]
    rcases next with rfl | rfl
    · exact ⟨jobs, _, ledger.goes_on rfl underway.turn.1⟩
    · exact ⟨jobs, _, ledger.goes_on rfl underway.turn.2⟩
  | returned doing =>
    rw [doing] at ledger underway
    rw [Option.toList_none, List.append_nil]
    exact ⟨jobs, _, ledger.goes_on rfl (by simpa using underway.returned)⟩
  | turned doing uids =>
    rw [doing] at ledger underway
    rw [Option.toList_none, List.append_nil]
    exact ⟨jobs, _, ledger.goes_on rfl (underway.turned uids)⟩
  | came doing next =>
    rw [doing] at ledger underway
    rw [Option.toList_none, List.append_nil]
    rcases next with ⟨stamp, rfl⟩ | rfl
    · exact ⟨jobs, _, ledger.goes_on rfl (underway.came.1 stamp)⟩
    · exact ⟨jobs, _, ledger.goes_on rfl underway.came.2⟩
  | taken doing =>
    rw [doing] at ledger underway
    rw [Option.toList_none, List.append_nil]
    exact ⟨jobs, _, ledger.goes_on rfl (by simpa using underway.taken)⟩
  | @ended e doing =>
    rw [doing] at ledger underway
    obtain ⟨ls, uids, done⟩ := underway.ended
    refine ⟨jobs ++ [.event e ls uids], [], .of_rest rfl ?_ ?_⟩
    · simp [ledger.posts, Worker.event?, Job.item]
    · simp [ledger.journal, done]

namespace History

/-- The items that were accepted, in order. -/
def posts (h : History L H) : List Item := h.filterMap (·.posts?)

/-- All that was written down, in order. -/
def journal (h : History L H) : List (Entry L) := h.filterMap (·.writes?)

variable (h h' : History L H) (m : Moment L H)

omit [DecidableEq L] [DecidableEq H] in
@[simp]
theorem posts_append : posts (h ++ h') = posts h ++ posts h' := List.filterMap_append ..

@[simp]
theorem journal_append : journal (h ++ h') = journal h ++ journal h' := List.filterMap_append ..

omit [DecidableEq L] [DecidableEq H] in
@[simp]
theorem posts_singleton : posts [m] = m.posts?.toList := by
  cases e : m.posts? <;> simp [posts, e]

@[simp]
theorem journal_singleton : journal [m] = m.writes?.toList := by
  cases e : m.writes? <;> simp [journal, e]

end History

theorem IsRun.ledger {h : History L H} {b : Bus L H} (run : IsRun h b) :
    ∃ jobs es, Ledger h.posts h.journal b.worker b.queue jobs es := by
  induction run with
  | fresh => exact ⟨[], [], .of_rest rfl rfl rfl⟩
  | @step h b m run ih =>
    obtain ⟨jobs, es, ledger⟩ := ih
    rw [History.posts_append, History.journal_append, History.posts_singleton,
      History.journal_singleton]
    exact (shift_move b m).ledger ledger

end Moves

end HeadUnit.Bus
