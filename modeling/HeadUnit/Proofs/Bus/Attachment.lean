import HeadUnit.Proofs.Bus.Delivery

/-!
# Listeners that stay

A listener is *attached* if its registration was applied or waits to be, and no
removal waits behind it; a bus whose worker has finished has nobody attached, and
needs nobody. An event is *due* to a listener as long as it waits in the queue, the
turn of the listener is to come, or its call was asked for and not handed on.

* `Change.attached`: a listener stays attached until its removal is accepted, which
  happens only at the request of somebody (`order?_of_posted`);
* `Change.due`: an event that is due to an attached listener stays due until its
  call is handed on; none becomes due that was not accepted (`Change.was_due`);
* `said_move`: only the worker asks for deliveries;
* `closed_move`: a closed bus stays closed, and `open_move`: an open one does until its context
  ends.
-/

namespace HeadUnit.Bus

variable {L H : Type}

namespace Standing

/-- The listener is registered or will be, and nobody removes it. -/
structure Stays (s : Standing L H) (l : L) : Prop where
  kept : .removeLocal l ∉ s.orders
  there : l ∈ s.locals ∨ .addLocal l ∈ s.orders

/-- The listener stays, unless the worker has finished. -/
def Attached (s : Standing L H) (l : L) : Prop := s.worker ≠ .finished → s.Stays l

/-- The listener has not been called with the event yet. -/
def Due (s : Standing L H) (l : L) (e : Event) : Prop :=
  e ∈ s.events ∨ (l, e) ∈ s.worker.pending ∨ .call l e ∈ s.said

end Standing

variable {b : Bus L H} {s : Standing L H} {os : Trace L H} {l : L} {e : Event}

/-- What the worker is doing may tell that it has not finished. -/
theorem Standing.Attached.stays (attached : b.standing.Attached l) {w : Worker L}
    (doing : b.worker = w) (works : w ≠ .finished) : b.standing.Stays l :=
  attached fun finished => works (doing.symm.trans finished)

/-- Where no listener's turn is to come, an event that is due is queued, or its call
    was asked for. -/
theorem Standing.Due.queued_or_asked (due : b.standing.Due l e) {w : Worker L}
    (doing : b.worker = w) (none : w.pending = []) :
    e ∈ b.standing.events ∨ .call l e ∈ b.standing.said := by
  rcases due with queued | turn | asked
  · exact .inl queued
  · rw [show b.standing.worker = w from doing, none] at turn
    exact absurd turn List.not_mem_nil
  · exact .inr asked

/-- Who is attached stays so when what the bus asked for is taken. -/
theorem Standing.Attached.take (attached : b.standing.Attached l) :
    b.take.2.standing.Attached l := fun works => ⟨(attached works).kept, (attached works).there⟩

/-- What is due stays due when what the bus asked for is taken, or is among it. -/
theorem Standing.Due.take (due : b.standing.Due l e) :
    b.take.2.standing.Due l e ∨ .call l e ∈ b.take.1 := by
  rcases due with queued | turn | asked
  · exact .inl (.inl queued)
  · exact .inl (.inr (.inl turn))
  · exact .inr ((List.mem_filter.1 asked).1)

theorem Move.eq_unregister_of_order? {m : Move L H} (asks : m.order? = some (.removeLocal l)) :
    m = .unregister (.listener l) := by
  unfold Move.order? at asks
  split at asks
  all_goals cases asks
  rfl

variable [DecidableEq L] [DecidableEq H]

/-! ## Emptying the mailbox -/

theorem mem_locals_applyOne {c : Command L H} (kept : c ≠ .removeLocal l)
    (there : l ∈ b.locals ∨ c = .addLocal l) : l ∈ (b.applyOne c).locals := by
  cases c with
  | addLocal l' =>
    rw [applyOne]
    split
    · next known =>
      rcases there with mem | new
      · exact mem
      · cases new
        exact List.contains_iff_mem.1 known
    · rcases there with mem | new
      · exact List.mem_append_left _ mem
      · cases new
        exact List.mem_append_right _ List.mem_cons_self
  | removeLocal l' =>
    have mem : l ∈ b.locals := there.resolve_right (by simp)
    have other : l ≠ l' := fun same => kept (congrArg Command.removeLocal same.symm)
    exact (List.mem_erase_of_ne other).2 mem
  | addRemote uid h =>
    exact (locals_addRemote b uid h).symm ▸ there.resolve_right (by simp)
  | removeRemote uid => exact there.resolve_right (by simp)
  | remoteDied uid stamp =>
    exact (locals_remoteDied b uid stamp).symm ▸ there.resolve_right (by simp)

theorem mem_locals_foldl_applyOne {cs : List (Command L H)} (kept : .removeLocal l ∉ cs)
    (there : l ∈ b.locals ∨ .addLocal l ∈ cs) : l ∈ (cs.foldl applyOne b).locals := by
  induction cs generalizing b with
  | nil => exact there.resolve_right List.not_mem_nil
  | cons c cs ih =>
    rw [List.mem_cons, not_or] at kept
    refine ih kept.2 ?_
    rcases there with mem | new
    · exact .inl (mem_locals_applyOne (Ne.symm kept.1) (.inl mem))
    · rcases List.mem_cons.1 new with first | later
      · exact .inl (mem_locals_applyOne (Ne.symm kept.1) (.inr first.symm))
      · exact .inr later

/-- Once the mailbox is emptied, a listener that stays is registered. -/
theorem mem_locals_applied (stays : b.standing.Stays l) : l ∈ b.applied.locals := by
  have order {c : Command L H} (o : c.isNotice = false) :
      c ∈ b.control ↔ c ∈ b.standing.orders := by
    simp [standing, orders, o]
  refine mem_locals_foldl_applyOne (b := { b with control := [] }) ?_ ?_
  · rw [order rfl]
    exact stays.kept
  · rw [order rfl]
    exact stays.there

theorem stays_of_applied (stays : b.standing.Stays l) {s : Standing L H}
    (locals : s.locals = b.applied.locals) (orders : s.orders = b.applied.orders) : s.Stays l where
  kept := by
    rw [orders, (emptied_applied b).orders]
    exact List.not_mem_nil
  there := .inl (locals ▸ mem_locals_applied stays)

/-! ## Moves -/

/-- A listener stays attached until its removal is accepted. -/
theorem Change.attached (change : Change b s os) (kept : .posted (.removeLocal l) ∉ os)
    (attached : b.standing.Attached l) : s.Attached l := by
  intro works
  cases change with
  | nothing => exact attached works
  | accepted => exact ⟨(attached works).kept, (attached works).there⟩
  | posted c order =>
    obtain ⟨safe, there⟩ := attached works
    refine ⟨fun mem => ?_, there.imp_right (List.mem_append_left _)⟩
    rcases List.mem_append.1 mem with old | new
    · exact safe old
    · exact kept (List.mem_singleton.1 new ▸ List.mem_cons_self)
  | roused rest =>
    have old : b.standing.Stays l := by
      rcases rest with doing | doing
      · exact attached.stays doing nofun
      · exact attached.stays doing nofun
    exact ⟨old.kept, old.there⟩
  | returned doing | taken doing | refused doing | turned doing | completed doing =>
    have old := attached.stays doing nofun
    exact ⟨old.kept, old.there⟩
  | finished => exact absurd rfl works
  | looked w doing | started doing | called doing | passed doing | sent doing | foundDead doing
  | absent doing => exact stays_of_applied (attached.stays doing nofun) rfl rfl

/-- Nobody waits for a removal that was not accepted. -/
theorem Change.kept (change : Change b s os) (none : .posted (.removeLocal l) ∉ os)
    (kept : .removeLocal l ∉ b.standing.orders) : .removeLocal l ∉ s.orders := by
  have applied : .removeLocal l ∉ b.applied.orders := by
    rw [(emptied_applied b).orders]
    exact List.not_mem_nil
  cases change with
  | nothing | accepted | roused | returned | taken | refused | turned | completed => exact kept
  | posted c order =>
    intro mem
    rcases List.mem_append.1 mem with old | new
    · exact kept old
    · exact none (List.mem_singleton.1 new ▸ List.mem_cons_self)
  | looked | started | finished | called | passed | sent | foundDead | absent => exact applied

/-- An event that is due to an attached listener stays due. -/
theorem Change.due (change : Change b s os) (attached : b.standing.Attached l)
    (due : b.standing.Due l e) : s.Due l e := by
  have empty := emptied_applied b
  have emptied (either : e ∈ b.standing.events ∨ .call l e ∈ b.standing.said) (w : Worker L) :
      e ∈ b.applied.events ∨ (l, e) ∈ w.pending ∨ .call l e ∈ b.applied.said := by
    rw [empty.events, empty.said]
    exact either.imp_right .inr
  cases change with
  | nothing | posted => exact due
  | accepted e' => exact due.imp_left (List.mem_append_left _)
  | roused rest =>
    have either : e ∈ b.standing.events ∨ .call l e ∈ b.standing.said := by
      rcases rest with doing | doing
      · exact due.queued_or_asked doing rfl
      · exact due.queued_or_asked doing rfl
    exact either.imp_right .inr
  | returned doing =>
    rw [Standing.Due, show b.standing.worker = _ from doing] at due
    exact due
  | taken doing | refused doing | turned doing | completed doing =>
    exact (due.queued_or_asked doing rfl).imp_right .inr
  | looked w doing | foundDead doing | absent doing =>
    exact emptied (due.queued_or_asked doing rfl) _
  | sent doing =>
    have either := due.queued_or_asked doing rfl
    exact (emptied either _).imp_right (.imp_right (List.mem_append_left _))
  | @started e' es doing first =>
    rcases due.queued_or_asked doing rfl with queued | asked
    · rw [first] at queued
      rcases List.mem_cons.1 queued with rfl | later
      · -- The listener is registered, so its turn will come.
        have there := mem_locals_applied (attached.stays doing nofun)
        exact .inr (.inl (List.mem_map_of_mem there))
      · exact .inl later
    · exact .inr (.inr (empty.said ▸ asked))
  | finished doing none =>
    rcases due.queued_or_asked doing rfl with queued | asked
    · rw [none] at queued
      exact absurd queued List.not_mem_nil
    · exact .inr (.inr (empty.said ▸ asked))
  | @called l' e' todo doing there =>
    rcases due with queued | turn | asked
    · exact .inl (empty.events ▸ queued)
    · rw [show b.standing.worker = _ from doing] at turn
      rcases List.mem_cons.1 turn with now | later
      · cases now
        exact .inr (.inr (List.mem_append_right _ List.mem_cons_self))
      · exact .inr (.inl later)
    · exact .inr (.inr (List.mem_append_left _ (empty.said ▸ asked)))
  | @passed l' e' todo doing gone =>
    rcases due with queued | turn | asked
    · exact .inl (empty.events ▸ queued)
    · rw [show b.standing.worker = _ from doing] at turn
      rcases List.mem_cons.1 turn with now | later
      · cases now
        exact absurd (mem_locals_applied (attached.stays doing nofun)) gone
      · exact .inr (.inl later)
    · exact .inr (.inr (empty.said ▸ asked))

/-- An event that is due was due before, unless it has just been accepted. -/
theorem Change.was_due (change : Change b s os) (none : .accepted e ∉ os) (due : s.Due l e) :
    b.standing.Due l e := by
  have empty := emptied_applied b
  have emptied (either : e ∈ b.applied.events ∨ .call l e ∈ b.applied.said) :
      b.standing.Due l e := by
    rw [empty.events, empty.said] at either
    exact either.imp_right .inr
  cases change with
  | nothing | posted => exact due
  | accepted e' =>
    rcases due with queued | later
    · rcases List.mem_append.1 queued with old | new
      · exact .inl old
      · exact absurd (List.mem_singleton.1 new ▸ List.mem_cons_self) none
    · exact .inr later
  | roused | taken | refused | turned | completed =>
    rcases due with queued | turn | asked
    · exact .inl queued
    · exact absurd turn List.not_mem_nil
    · exact .inr (.inr asked)
  | returned doing =>
    rw [Standing.Due, show b.standing.worker = _ from doing]
    exact due
  | looked w doing next =>
    rcases due with queued | turn | asked
    · exact emptied (.inl queued)
    · rcases next with rfl | rfl
      all_goals exact absurd turn List.not_mem_nil
    · exact emptied (.inr asked)
  | finished | foundDead | absent =>
    rcases due with queued | turn | asked
    · exact emptied (.inl queued)
    · exact absurd turn List.not_mem_nil
    · exact emptied (.inr asked)
  | sent =>
    rcases due with queued | turn | asked
    · exact emptied (.inl queued)
    · exact absurd turn List.not_mem_nil
    · rcases List.mem_append.1 asked with old | new
      · exact emptied (.inr old)
      · exact nomatch List.mem_singleton.1 new
  | @started e' es doing first =>
    rcases due with queued | turn | asked
    · exact .inl (first ▸ List.mem_cons_of_mem e' queued)
    · -- Its delivery begins, so it was the first one in the queue.
      obtain ⟨_, _, own⟩ := List.mem_map.1 turn
      cases own
      exact .inl (first ▸ List.mem_cons_self)
    · exact emptied (.inr asked)
  | @called l' e' todo doing there =>
    rcases due with queued | turn | asked
    · exact emptied (.inl queued)
    · refine .inr (.inl ?_)
      rw [show b.standing.worker = _ from doing]
      exact List.mem_cons_of_mem _ turn
    · rcases List.mem_append.1 asked with old | new
      · exact emptied (.inr old)
      · refine .inr (.inl ?_)
        cases List.mem_singleton.1 new
        rw [show b.standing.worker = _ from doing]
        exact List.mem_cons_self
  | @passed l' e' todo doing gone =>
    rcases due with queued | turn | asked
    · exact emptied (.inl queued)
    · refine .inr (.inl ?_)
      rw [show b.standing.worker = _ from doing]
      exact List.mem_cons_of_mem _ turn
    · exact emptied (.inr asked)

/-- The worker accepts no events. -/
theorem accepted_not_mem_worked (b : Bus L H) (e : Event) : .accepted e ∉ b.worked := by
  grind [worked]

omit [DecidableEq L] [DecidableEq H] in
/-- A listener whose registration is accepted is attached, unless its removal waits already. -/
theorem attached_of_register {b' : Bus L H} (accepted : b.register (.listener l) = .ok b')
    (kept : .removeLocal l ∉ b.standing.orders) : b'.standing.Attached l := by
  have orders : b'.standing.orders = b.standing.orders ++ [.addLocal l] := by
    simp only [register, Offer.check, post] at accepted
    split at accepted
    · cases accepted
    · cases accepted
      simp [standing, orders, Command.isNotice]
  refine fun _ => ⟨?_, .inr ?_⟩
  · rw [orders]
    simpa using kept
  · rw [orders]
    exact List.mem_append_right _ List.mem_cons_self

/-- An order is accepted only from whoever gives it. -/
theorem order?_of_posted {m : Move L H} {c : Command L H}
    (posted : .posted c ∈ b.occurrences m) : m.order? = some c := by
  cases m with
  | work =>
    have none : .posted c ∉ b.worked := by grind [worked]
    exact absurd posted none
  | dispatch | sent =>
    simp only [occurrences] at posted
    split at posted <;> simp at posted
  | _ =>
    simp only [occurrences] at posted
    split at posted
    · exact absurd posted List.not_mem_nil
    · simpa using posted

/-- Only the worker asks for deliveries. -/
theorem said_move {m : Move L H} (outer : m ≠ .work) :
    (b.move m).standing.said = b.standing.said := by
  have none : Trace.deliveries (b.occurrences m) = [] := by
    cases m with
    | work => exact absurd rfl outer
    | dispatch | sent =>
      simp only [occurrences]
      split <;> rfl
    | _ =>
      simp only [occurrences]
      split
      · rfl
      · simp [Trace.deliveries, Occurrence.delivery?]
  rw [(change_move b m).said_eq, none, List.append_nil]

/-! ## Closing -/

theorem closed_work (closed : b.closed = true) : (b.step?.getD b).closed = true := by
  have applied : b.applyControl.closed = true := (alike_applyControl b).closed.trans closed
  unfold step?
  split
  · exact closed
  · split
    · exact closed
    · split
      · rfl
      · exact closed
  · simp only [Option.getD_some, takeItem, applied, if_true]
    split <;> rfl
  · next todo _ =>
    cases todo with
    | nil => exact closed
    | cons l todo =>
      simp only [Option.getD_some, nextLocal]
      split
      · exact applied
      · exact applied
  · exact closed
  · next todo _ =>
    cases todo with
    | nil => exact closed
    | cons uid todo =>
      simp only [Option.getD_some, nextRemote]
      split
      · exact applied
      · split
        · exact applied
        · exact applied
  · exact closed
  · exact closed

/-- A closed bus stays closed. -/
theorem closed_move (closed : b.closed = true) (m : Move L H) : (b.move m).closed = true := by
  have refused (c : Command L H) : ((b.post c).toOption.getD b).closed = true := by
    simp [post, closed, Except.toOption]
  cases m with
  | dispatch e => simp [move, dispatch, closed, note, emit]
  | register o | unregister o =>
    cases o with
    | listener l => exact refused _
    | missing | notComparable => exact closed
  | registerRemote uid h =>
    cases h with
    | some h => exact refused _
    | none => exact closed
  | unregisterRemote uid => exact refused _
  | flush barrier => simp [move, flush, closed, Except.toOption]
  | die h => simp [move, handleDied, postDeaths, closed]
  | report uid stamp => exact refused _
  | withhold | endContext => exact closed
  | start =>
    simp only [move, start]
    split
    · exact closed
    · exact closed
  | wake closing =>
    simp only [move]
    split
    · simp [closed]
    · exact closed
  | work => exact closed_work closed
  | returned crash =>
    simp only [move, returned]
    split
    · cases crash <;> exact closed
    · exact closed
  | sent fault =>
    simp only [move, sent]
    split
    · cases fault <;> exact closed
    · exact closed

/-- A worker does not end its own context, and closes the bus only once it has ended. -/
theorem open_work (live : b.contextDone = false) (isOpen : b.closed = false) :
    (b.step?.getD b).contextDone = false ∧ (b.step?.getD b).closed = false := by
  have applied : b.applyControl.contextDone = false ∧ b.applyControl.closed = false :=
    ⟨(alike_applyControl b).contextDone.trans live, (alike_applyControl b).closed.trans isOpen⟩
  unfold step?
  split
  · exact ⟨live, isOpen⟩
  · split
    · exact ⟨live, isOpen⟩
    · rw [live]
      exact ⟨live, isOpen⟩
  · simp only [Option.getD_some, takeItem]
    split
    · exact applied
    · exact applied
    · rw [if_neg (by simp [applied.2])]
      exact applied
  · next todo _ =>
    cases todo with
    | nil => exact ⟨live, isOpen⟩
    | cons l todo =>
      simp only [Option.getD_some, nextLocal]
      split <;> exact applied
  · exact ⟨live, isOpen⟩
  · next todo _ =>
    cases todo with
    | nil => exact ⟨live, isOpen⟩
    | cons uid todo =>
      simp only [Option.getD_some, nextRemote]
      split
      · exact applied
      · split <;> exact applied
  · exact ⟨live, isOpen⟩
  · exact ⟨live, isOpen⟩

/-- A bus whose context has not ended stays open, unless the context ends. -/
theorem open_move (live : b.contextDone = false) (isOpen : b.closed = false) {m : Move L H}
    (other : m ≠ .endContext) : (b.move m).contextDone = false ∧ (b.move m).closed = false := by
  have posted (c : Command L H) : ((b.post c).toOption.getD b).contextDone = false ∧
      ((b.post c).toOption.getD b).closed = false := by
    simp [post, isOpen, live, Except.toOption]
  cases m with
  | dispatch e => simp [move, dispatch, isOpen, live]
  | register o | unregister o =>
    cases o with
    | listener l => exact posted _
    | missing | notComparable => exact ⟨live, isOpen⟩
  | registerRemote uid h =>
    cases h with
    | some h => exact posted _
    | none => exact ⟨live, isOpen⟩
  | unregisterRemote uid => exact posted _
  | flush barrier => simp [move, flush, isOpen, live, Except.toOption]
  | die h =>
    have alike := alike_postDeaths { b with dead := h :: b.dead } (b.remotes.filter (·.handle == h))
    exact ⟨alike.contextDone.trans live, alike.closed.trans isOpen⟩
  | report uid stamp => exact posted _
  | withhold => exact ⟨live, isOpen⟩
  | endContext => exact absurd rfl other
  | start =>
    simp only [move, start]
    split <;> exact ⟨live, isOpen⟩
  | wake closing =>
    simp only [move]
    split
    · simp [live, isOpen]
    · exact ⟨live, isOpen⟩
  | work => exact open_work live isOpen
  | returned crash =>
    simp only [move, returned]
    split
    · cases crash <;> exact ⟨live, isOpen⟩
    · exact ⟨live, isOpen⟩
  | sent fault =>
    simp only [move, sent]
    split
    · cases fault <;> exact ⟨live, isOpen⟩
    · exact ⟨live, isOpen⟩

end HeadUnit.Bus
