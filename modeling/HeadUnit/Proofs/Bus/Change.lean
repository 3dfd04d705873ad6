import Mathlib.Tactic.Convert
import HeadUnit.Proofs.Bus.Run

/-!
# What a move changes

What counts about a bus is its *standing* (`Bus.standing`): the events in its
queue without the barriers between them, the *orders* in its mailbox, i.e., the
commands that are not notices of death, what the worker is doing, who is
registered, and the deliveries the bus has asked for.

`Change` lists what a move can do to the standing and which occurrences it
leaves, one constructor per outcome, with what is known in that outcome;
`change_move` says that the list is complete. The commands stay closed here:
`Bus.applied` is the standing once the mailbox is emptied. Proofs about runs go
by cases on `Change` and look into no operation of the worker.

* `IsRun.deliveries_eq`: the deliveries in the trace are those the bus asked for.
-/

namespace HeadUnit.Bus

variable {L H : Type}

/-! ## Standings -/

/-- Whether a command is a notice of death. -/
def Command.isNotice : Command L H → Bool
  | remoteDied .. => true
  | addLocal _ | removeLocal _ | addRemote .. | removeRemote _ => false

/-- The commands that are not notices of death. -/
def orders (cs : List (Command L H)) : List (Command L H) := cs.filter (!·.isNotice)

@[simp]
theorem orders_append (cs cs' : List (Command L H)) :
    orders (cs ++ cs') = orders cs ++ orders cs' := List.filter_append ..

@[simp]
theorem orders_notices (rs : List (Remote H)) :
    orders (rs.map fun r => (Command.remoteDied r.uid r.stamp : Command L H)) = [] := by
  simp [orders, Command.isNotice]

theorem orders_singleton {c : Command L H} (order : c.isNotice = false) : orders [c] = [c] := by
  simp [orders, order]

theorem orders_erase_notice [DecidableEq L] [DecidableEq H] (cs : List (Command L H)) (uid : Int64)
    (stamp : Nat) : orders (cs.erase (.remoteDied uid stamp)) = orders cs := by
  rw [orders, orders, ← List.erase_filter, List.erase_of_not_mem]
  simp [Command.isNotice]

/-- The event of an item. -/
def Item.event? : Item → Option Event
  | event e => some e
  | barrier _ => none

/-- What counts about a bus. -/
structure Standing (L H : Type) where
  /-- The events in the queue. -/
  events : List Event
  /-- The orders in the mailbox. -/
  orders : List (Command L H)
  worker : Worker L
  locals : List L
  remotes : List (Remote H)
  nextStamp : Nat
  remoteCount : Nat
  /-- The deliveries that were asked for. -/
  said : List (Effect L H)

def standing (b : Bus L H) : Standing L H where
  events := b.queue.filterMap (·.event?)
  orders := Bus.orders b.control
  worker := b.worker
  locals := b.locals
  remotes := b.remotes
  nextStamp := b.nextStamp
  remoteCount := b.remoteCount
  said := b.out.filter (·.isDelivery)

@[simp]
theorem standing_note (b : Bus L H) (n : Note) : (b.note n).standing = b.standing := by
  simp [note, emit, standing, Effect.isDelivery]

/-! ## Emptying the mailbox -/

/-- The same bus but for the registry, the notices in the mailbox and what was
    noted. -/
structure Alike (b b' : Bus L H) : Prop where
  queue : b'.queue = b.queue
  closed : b'.closed = b.closed
  contextDone : b'.contextDone = b.contextDone
  worker : b'.worker = b.worker
  dead : b'.dead = b.dead
  orders : orders b'.control = orders b.control
  said : b'.out.filter (·.isDelivery) = b.out.filter (·.isDelivery)

theorem Alike.refl (b : Bus L H) : b.Alike b where
  queue := rfl
  closed := rfl
  contextDone := rfl
  worker := rfl
  dead := rfl
  orders := rfl
  said := rfl

theorem Alike.trans {a b c : Bus L H} (ab : a.Alike b) (bc : b.Alike c) : a.Alike c where
  queue := bc.queue.trans ab.queue
  closed := bc.closed.trans ab.closed
  contextDone := bc.contextDone.trans ab.contextDone
  worker := bc.worker.trans ab.worker
  dead := bc.dead.trans ab.dead
  orders := bc.orders.trans ab.orders
  said := bc.said.trans ab.said

theorem alike_note (b : Bus L H) (n : Note) : b.Alike (b.note n) :=
  { Alike.refl b with said := by simp [note, emit, Effect.isDelivery] }

theorem alike_postDeaths (b : Bus L H) (rs : List (Remote H)) : b.Alike (b.postDeaths rs) := by
  unfold postDeaths
  split
  · exact .refl b
  · exact { Alike.refl b with orders := by simp }

/-- The registry does not count here. -/
theorem alike_registry (b : Bus L H) (ls : List L) (rs : List (Remote H)) (n : Nat) :
    b.Alike { b with locals := ls, remotes := rs, nextStamp := n } :=
  { Alike.refl b with }

variable [DecidableEq L] [DecidableEq H]

theorem alike_applyOne (b : Bus L H) (c : Command L H) : b.Alike (b.applyOne c) := by
  cases c with
  | addLocal l =>
    rw [applyOne]
    split
    · exact .refl b
    · exact alike_registry b ..
  | removeLocal l => exact alike_registry b ..
  | addRemote uid h =>
    simp only [applyOne]
    split
    · -- The entry replaces one.
      split
      · exact ((alike_note b _).trans (alike_registry ..)).trans (alike_postDeaths ..)
      · exact (alike_note b _).trans (alike_registry ..)
    · split
      · exact (alike_registry b ..).trans (alike_postDeaths ..)
      · exact alike_registry b ..
  | removeRemote uid => exact alike_registry b ..
  | remoteDied uid stamp =>
    rw [applyOne]
    split
    · exact (alike_registry b ..).trans (alike_note ..)
    · exact .refl b

theorem alike_foldl_applyOne (cs : List (Command L H)) (b : Bus L H) :
    b.Alike (cs.foldl applyOne b) := by
  induction cs generalizing b with
  | nil => exact .refl b
  | cons c cs ih => exact (alike_applyOne b c).trans (ih (b.applyOne c))

/-- Emptying the mailbox changes only the registry. -/
theorem alike_applyControl (b : Bus L H) : Alike { b with control := [] } b.applyControl :=
  (alike_foldl_applyOne b.control _).trans ((alike_note _ _).trans { Alike.refl _ with })

/-- The standing once the mailbox is emptied. -/
def applied (b : Bus L H) : Standing L H := b.applyControl.standing

namespace Standing

/-- The standing `s` is the one of the bus `b` but for its registry, and no order
    is left. -/
structure Emptied (b : Bus L H) (s : Standing L H) : Prop where
  events : s.events = b.standing.events
  orders : s.orders = []
  worker : s.worker = b.worker
  counted : s.remoteCount = s.remotes.length
  said : s.said = b.standing.said

end Standing

theorem emptied_applied (b : Bus L H) : Standing.Emptied b b.applied where
  events := congrArg (·.filterMap (·.event?)) (alike_applyControl b).queue
  orders := (alike_applyControl b).orders
  worker := (alike_applyControl b).worker
  counted := rfl
  said := (alike_applyControl b).said

/-! ## Changes -/

/-- What a move can do to the standing, and the occurrences it leaves. -/
inductive Change (b : Bus L H) : Standing L H → Trace L H → Prop
  /-- Nothing that counts. -/
  | nothing : Change b b.standing []
  | accepted (e : Event) :
      Change b { b.standing with events := b.standing.events ++ [e] } [.accepted e]
  | posted (c : Command L H) (order : c.isNotice = false) :
      Change b { b.standing with orders := b.standing.orders ++ [c] } [.posted c]
  /-- The worker starts or wakes up. -/
  | roused (rest : b.worker = .unstarted ∨ b.worker = .idle) :
      Change b { b.standing with worker := .draining } []
  | returned {l : L} {e : Event} {todo : List L} (doing : b.worker = .calling l e todo) :
      Change b { b.standing with worker := .locals e todo } []
  | taken {uid : Int64} {stamp : Nat} {e : Event} {todo : List Int64}
      (doing : b.worker = .sending uid stamp e todo) :
      Change b { b.standing with worker := .remotes e todo } []
  | refused {uid : Int64} {stamp : Nat} {e : Event} {todo : List Int64}
      (doing : b.worker = .sending uid stamp e todo) :
      Change b { b.standing with
        worker := .remotes e todo, remotes := (b.dropStamped uid stamp).remotes }
        [.refused uid stamp]
  /-- The worker releases a barrier, or finds nothing to do. -/
  | looked (w : Worker L) (doing : b.worker = .draining) (next : w = .draining ∨ w = .idle) :
      Change b { b.applied with worker := w } (b.control.map .applied)
  | started {e : Event} {es : List Event} (doing : b.worker = .draining)
      (first : b.standing.events = e :: es) :
      Change b { b.applied with events := es, worker := .locals e b.applied.locals }
        (b.control.map .applied ++ [.started e b.applied.locals])
  | finished (doing : b.worker = .draining) (none : b.standing.events = []) :
      Change b { b.applied with worker := .finished, locals := [], remotes := [], remoteCount := 0 }
        (b.control.map .applied ++ [.finished])
  | called {l : L} {e : Event} {todo : List L} (doing : b.worker = .locals e (l :: todo))
      (there : l ∈ b.applied.locals) :
      Change b { b.applied with
        worker := .calling l e todo, said := b.applied.said ++ [.call l e] }
        (b.control.map .applied ++ [.called l e])
  | passed {l : L} {e : Event} {todo : List L} (doing : b.worker = .locals e (l :: todo))
      (gone : l ∉ b.applied.locals) :
      Change b { b.applied with worker := .locals e todo }
        (b.control.map .applied ++ [.passed l e])
  /-- The listeners are done, and the handles follow. -/
  | turned {e : Event} (doing : b.worker = .locals e []) :
      Change b { b.standing with worker := .remotes e (b.remotes.map (·.uid)) } []
  | sent {r : Remote H} {e : Event} {todo : List Int64}
      (doing : b.worker = .remotes e (r.uid :: todo)) (there : r ∈ b.applied.remotes)
      (alive : r.handle ∉ b.dead) :
      Change b { b.applied with
        worker := .sending r.uid r.stamp e todo
        said := b.applied.said ++ [.send r.uid r.handle e] }
        (b.control.map .applied ++ [.sent r e])
  | foundDead {r : Remote H} {e : Event} {todo : List Int64}
      (doing : b.worker = .remotes e (r.uid :: todo)) (there : r ∈ b.applied.remotes) :
      Change b { b.applied with
        worker := .remotes e todo, remotes := (b.applyControl.dropRemote r.uid).remotes }
        (b.control.map .applied ++ [.foundDead r.uid r.stamp])
  | absent {uid : Int64} {e : Event} {todo : List Int64}
      (doing : b.worker = .remotes e (uid :: todo)) :
      Change b { b.applied with worker := .remotes e todo } (b.control.map .applied)
  /-- The delivery of an event is complete. -/
  | completed {e : Event} (doing : b.worker = .remotes e []) :
      Change b { b.standing with worker := .draining, remoteCount := b.remotes.length } []

/-! ## Every move is a change -/

/-- The worker takes an item, or finds none. -/
theorem change_takeItem {b : Bus L H} (doing : b.worker = .draining) :
    Change b b.takeItem.standing b.worked := by
  have alike := alike_applyControl b
  have queue : b.applyControl.queue = b.queue := alike.queue
  have closed : b.applyControl.closed = b.closed := alike.closed
  have events : b.standing.events = b.queue.filterMap (·.event?) := rfl
  simp only [takeItem, worked, doing, queue, closed]
  split
  · next id rest items =>
    simp only [items, List.append_nil]
    convert Change.looked .draining doing (.inl rfl) using 1
    simp [emit, standing, applied, queue, items, Item.event?, Effect.isDelivery, alike.worker,
      doing]
  · next e rest items =>
    simp only [items]
    rw [items] at events
    rw [standing_note]
    exact .started doing events
  · next items =>
    simp only [items]
    rw [items] at events
    split
    · convert Change.finished doing events using 1
      have none : orders b.applyControl.control = [] := alike.orders
      simp [finish, standing, applied, queue, items, Effect.isDelivery, none]
      rfl
    · rw [List.append_nil]
      convert Change.looked .idle doing (.inr rfl) using 1
      simp [standing, applied, queue, items]

/-- The worker turns to the next listener. -/
theorem change_nextLocal {b : Bus L H} {e : Event} {todo : List L}
    (doing : b.worker = .locals e todo) : Change b (b.nextLocal e todo).standing b.worked := by
  cases todo with
  | nil =>
    simp only [nextLocal, worked, doing]
    exact .turned doing
  | cons l todo =>
    simp only [nextLocal, worked, doing]
    split
    · next there =>
      convert Change.called doing (List.contains_iff_mem.1 there) using 1
      simp [emit, standing, applied, Effect.isDelivery]
    · next gone =>
      exact Change.passed doing (mt List.contains_iff_mem.2 gone)

/-- The worker turns to the next handle. -/
theorem change_nextRemote {b : Bus L H} {e : Event} {todo : List Int64}
    (doing : b.worker = .remotes e todo) : Change b (b.nextRemote e todo).standing b.worked := by
  cases todo with
  | nil =>
    simp only [nextRemote, worked, doing]
    convert Change.completed doing using 1
    simp [note, emit, standing, Effect.isDelivery]
  | cons uid todo =>
    simp only [nextRemote, worked, doing]
    split
    · next none =>
      rw [none]
      rw [List.append_nil]
      exact .absent doing
    · next r found =>
      have there : r ∈ b.applied.remotes := List.mem_of_find?_eq_some found
      obtain rfl : r.uid = uid := by simpa using List.find?_some found
      have dead : b.applyControl.dead = b.dead := (alike_applyControl b).dead
      simp only [found, dead]
      split
      · convert Change.foundDead doing there using 1
        simp [note, emit, dropRemote, standing, applied, Effect.isDelivery]
      · next alive =>
        convert Change.sent doing there (mt List.contains_iff_mem.2 alive) using 1
        simp [emit, standing, applied, Effect.isDelivery]

/-- A step of the worker is a change. -/
theorem change_work (b : Bus L H) : Change b (b.step?.getD b).standing b.worked := by
  unfold step?
  split
  · next w => simpa [worked, w] using Change.nothing (b := b)
  · next w =>
    simp only [worked, w]
    split
    · exact .roused (.inr w)
    · split
      · exact .roused (.inr w)
      · exact .nothing
  · next w => exact change_takeItem w
  · next w => exact change_nextLocal w
  · next w => simpa [worked, w] using Change.nothing (b := b)
  · next w => exact change_nextRemote w
  · next w => simpa [worked, w] using Change.nothing (b := b)
  · next w => simpa [worked, w] using Change.nothing (b := b)

/-- Posting a command. -/
theorem change_post (b : Bus L H) (c : Command L H) (order : c.isNotice = false) :
    Change b ((b.post c).toOption.getD b).standing (if b.closed then [] else [.posted c]) := by
  unfold post
  split
  · exact .nothing
  · convert Change.posted c order using 1
    simp [Except.toOption, standing, orders_singleton order]

theorem change_returned (b : Bus L H) (crash : Option Crash) :
    Change b (b.returned crash).standing [] := by
  unfold returned
  split
  · next l e todo doing =>
    convert Change.returned doing using 1
    cases crash <;> simp [emit, standing, Effect.isDelivery]
  · exact .nothing

theorem change_sent (b : Bus L H) (fault : Option Fault) :
    Change b (b.sent fault).standing (b.occurrences (.sent fault)) := by
  cases doing : b.worker with
  | sending uid stamp e todo =>
    simp only [sent, occurrences, doing]
    cases fault with
    | none => exact .taken doing
    | some f =>
      convert Change.refused doing using 1
      simp [emit, dropStamped, standing, Effect.isDelivery]
  | _ =>
    simp only [sent, occurrences, doing]
    exact .nothing

/-- What posts no order leaves nothing, whether or not the bus is closed. -/
theorem Change.of_no_order {b : Bus L H} {s : Standing L H} (change : Change b s []) :
    Change b s (if b.closed then [] else []) := by
  rwa [ite_self]

/-- Every move is one of the changes. -/
theorem change_move (b : Bus L H) (m : Move L H) :
    Change b (b.move m).standing (b.occurrences m) := by
  cases m with
  | dispatch e =>
    simp only [move, occurrences, dispatch]
    split
    · rw [standing_note]
      exact .nothing
    · convert Change.accepted (b := b) e using 1
      simp [standing, Item.event?]
  | register o =>
    cases o with
    | listener l => exact change_post b (.addLocal l) rfl
    | missing | notComparable => exact Change.nothing.of_no_order
  | unregister o =>
    cases o with
    | listener l => exact change_post b (.removeLocal l) rfl
    | missing | notComparable => exact Change.nothing.of_no_order
  | registerRemote uid h =>
    cases h with
    | some h => exact change_post b (.addRemote uid h) rfl
    | none => exact Change.nothing.of_no_order
  | unregisterRemote uid => exact change_post b (.removeRemote uid) rfl
  | flush barrier =>
    refine Change.of_no_order ?_
    have same : (b.move (.flush barrier)).standing = b.standing := by
      simp only [move, flush]
      split <;> simp [Except.toOption, standing, Item.event?]
    rw [same]
    exact .nothing
  | die h =>
    refine Change.of_no_order ?_
    have same : (b.move (.die h)).standing = b.standing := by
      simp only [move, handleDied, postDeaths]
      split <;> simp [standing]
    rw [same]
    exact .nothing
  | report uid stamp =>
    refine Change.of_no_order ?_
    have same : (b.move (.report uid stamp)).standing = b.standing := by
      simp only [move, post]
      split <;> simp [Except.toOption, standing, orders, Command.isNotice]
    rw [same]
    exact .nothing
  | withhold uid stamp =>
    refine Change.of_no_order ?_
    have same : (b.move (.withhold uid stamp)).standing = b.standing := by
      simp [move, standing, orders_erase_notice]
    rw [same]
    exact .nothing
  | start =>
    refine Change.of_no_order ?_
    simp only [move, start]
    split
    · next new => exact .roused (.inl new)
    · exact .nothing
  | endContext => exact Change.nothing.of_no_order
  | wake closing =>
    refine Change.of_no_order ?_
    simp only [move]
    split
    · next idle => exact .roused (.inr idle)
    · exact .nothing
  | work => exact change_work b
  | returned crash => exact (change_returned b crash).of_no_order
  | sent fault => exact change_sent b fault

/-! ## Runs -/

namespace Moment

/-- The standing once a move is made, with what it said. -/
def outcome (m : Moment L H) : Standing L H := (m.before.move m.move).standing

theorem change (m : Moment L H) : Change m.before m.outcome m.occurrences :=
  change_move m.before m.move

end Moment

/-- A change says the deliveries among the occurrences it leaves. -/
theorem Change.said_eq {b : Bus L H} {s : Standing L H} {t : Trace L H} (change : Change b s t) :
    s.said = b.standing.said ++ t.deliveries := by
  have same := (emptied_applied b).said
  cases change with
  | nothing | accepted | posted | roused | returned | taken | refused | turned | completed =>
    simp [Trace.deliveries, Occurrence.delivery?]
  | looked | absent => simp [same]
  | started | finished | called | passed | sent | foundDead =>
    simp [Occurrence.delivery?, same]

/-- The deliveries in the trace are those the bus asked for. -/
theorem IsRun.deliveries_eq {h : History L H} {b : Bus L H} (run : IsRun h b) :
    History.deliveries h = (History.trace h).deliveries := by
  induction run with
  | fresh => rfl
  | @step h b m run ih =>
    have said := (Moment.mk b m).change.said_eq
    have nothing : b.standing.said = [] := by rw [standing, run.out_eq_nil]; rfl
    rw [nothing, List.nil_append] at said
    rw [History.deliveries_snoc, History.trace_snoc, Trace.deliveries_append, ih, ← said]
    rfl

end HeadUnit.Bus
