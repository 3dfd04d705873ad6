import HeadUnit.Proofs.Bus.Attachment

/-!
# The line of a listener

The events that a listener has yet to receive stand in a *line* (`Standing.line`): first those
whose calls were asked for and not handed on, then the one whose delivery is under way, if the turn
of the listener is to come, then those in the queue.

As long as the listener is attached, nobody jumps the line and nobody is lost: every move leaves
it as it is, but for an event that was accepted, which is put at its end (`line_move`); a call
leaves at its front when it is handed on (`line_take`).
-/

namespace HeadUnit.Bus

variable {L H : Type} [DecidableEq L]

/-- The event that the listener is called with. -/
def Effect.called? (l : L) : Effect L H → Option Event
  | call l' e => if l' = l then some e else none
  | _ => none

/-- What was not noted as a delivery calls nobody. -/
theorem filterMap_called?_filter (l : L) (es : List (Effect L H)) :
    (es.filter (·.isDelivery)).filterMap (·.called? l) = es.filterMap (·.called? l) := by
  rw [List.filterMap_filter]
  congr 1
  funext e
  cases e <;> rfl

/-- The event of the delivery under way, if the turn of the listener is to come. -/
def Worker.turn (w : Worker L) (l : L) : List Event := (w.pending.filter (·.1 = l)).map (·.2)

/-- The events that the listener has yet to receive, in the order in which it will. -/
def Standing.line (s : Standing L H) (l : L) : List Event :=
  s.said.filterMap (·.called? l) ++ s.worker.turn l ++ s.events

/-- Among listeners that are distinct, everyone who is registered has one turn. -/
theorem turn_locals {ls : List L} {l : L} (distinct : ls.Nodup) (there : l ∈ ls) (e : Event) :
    (Worker.locals e ls).turn l = [e] := by
  have one : ls.filter (· = l) = [l] := by
    rw [List.filter_eq l, distinct.count, if_pos there]
    rfl
  simp only [Worker.turn, Worker.pending, List.filter_map, List.map_map, Function.comp_def]
  rw [one]
  rfl

variable [DecidableEq H]

/-! ## Listeners are distinct -/

theorem nodup_applyOne {b : Bus L H} (distinct : b.locals.Nodup) (c : Command L H) :
    (b.applyOne c).locals.Nodup := by
  cases c with
  | addLocal l =>
    rw [applyOne]
    split
    · exact distinct
    · next new =>
      have new : l ∉ b.locals := fun mem => new (List.contains_iff_mem.2 mem)
      exact List.nodup_append.2 ⟨distinct, List.pairwise_singleton .., fun a mem b' mem' same =>
        new (List.mem_singleton.1 mem' ▸ same ▸ mem)⟩
  | removeLocal l => exact distinct.erase l
  | addRemote uid h => exact locals_addRemote b uid h ▸ distinct
  | removeRemote uid => exact distinct
  | remoteDied uid stamp => exact locals_remoteDied b uid stamp ▸ distinct

theorem nodup_applied {b : Bus L H} (distinct : b.locals.Nodup) : b.applied.locals.Nodup := by
  have all (cs : List (Command L H)) (b : Bus L H) (distinct : b.locals.Nodup) :
      (cs.foldl applyOne b).locals.Nodup := by
    induction cs generalizing b with
    | nil => exact distinct
    | cons c cs ih => exact ih _ (nodup_applyOne distinct c)
  exact all b.control { b with control := [] } distinct

variable {b : Bus L H} {s : Standing L H} {os : Trace L H} {l : L}

theorem Change.nodup (change : Change b s os) (distinct : b.locals.Nodup) : s.locals.Nodup := by
  cases change with
  | nothing | accepted | posted | roused | returned | taken | refused | turned | completed =>
    exact distinct
  | finished => exact List.nodup_nil
  | looked | started | called | passed | sent | foundDead | absent => exact nodup_applied distinct

/-! ## Moves -/

/-- A move leaves the line of an attached listener as it is, but for an event that is accepted. -/
theorem Change.line_eq (change : Change b s os) (attached : b.standing.Attached l)
    (distinct : b.locals.Nodup) : s.line l = b.standing.line l ++ os.accepted := by
  have empty := emptied_applied b
  -- What the worker leaves besides the commands is no event that was accepted.
  have quiet {o : Occurrence L H} (none : o.accepted? = none) :
      Trace.accepted (b.control.map .applied ++ [o]) = [] := by
    rw [Trace.accepted_append, Trace.accepted_map_applied, Trace.accepted_singleton, none]
    rfl
  have turn {w : Worker L} (doing : b.worker = w) : b.standing.worker.turn l = w.turn l :=
    congrArg (Worker.turn · l) doing
  -- Nobody's turn is to come before and after.
  have rest {s : Standing L H} (events : s.events = b.standing.events)
      (said : s.said.filterMap (·.called? l) = b.standing.said.filterMap (·.called? l))
      (before : b.standing.worker.turn l = []) (after : s.worker.turn l = []) :
      s.line l = b.standing.line l ++ [] := by
    rw [Standing.line, Standing.line, events, said, before, after, List.append_nil (_ ++ _)]
  cases change with
  | nothing | posted => exact (List.append_nil _).symm
  | accepted e => exact (List.append_assoc ..).symm
  | roused resting =>
    refine rest (s := { b.standing with worker := .draining }) rfl rfl ?_ rfl
    rcases resting with doing | doing <;> exact turn doing
  | returned doing =>
    rw [Standing.line, Standing.line, turn doing]
    exact (List.append_nil _).symm
  | taken doing =>
    exact rest (s := { b.standing with worker := .remotes .. }) rfl rfl (turn doing) rfl
  | refused doing =>
    exact rest (s := { b.standing with worker := .remotes .., remotes := _ }) rfl rfl
      (turn doing) rfl
  | turned doing =>
    exact rest (s := { b.standing with worker := .remotes .. }) rfl rfl (turn doing) rfl
  | completed doing =>
    exact rest (s := { b.standing with worker := .draining, remoteCount := _ }) rfl rfl
      (turn doing) rfl
  | looked w doing next =>
    rw [Trace.accepted_map_applied]
    refine rest empty.events (congrArg _ empty.said) (turn doing) ?_
    rcases next with rfl | rfl <;> rfl
  | foundDead doing =>
    rw [quiet rfl]
    exact rest empty.events (congrArg _ empty.said) (turn doing) rfl
  | sent doing =>
    rw [quiet rfl]
    refine rest empty.events ?_ (turn doing) rfl
    simp [empty.said, Effect.called?]
  | absent doing =>
    rw [Trace.accepted_map_applied]
    exact rest empty.events (congrArg _ empty.said) (turn doing) rfl
  | finished doing none =>
    rw [quiet rfl]
    exact rest empty.events (congrArg _ empty.said) (turn doing) rfl
  | @started e es doing first =>
    -- The first event of the queue is the one whose delivery is under way then.
    have there := mem_locals_applied (attached.stays doing (by simp))
    have now : b.standing.worker.turn l = [] := turn doing
    rw [quiet rfl]
    simp only [Standing.line, empty.said, turn_locals (nodup_applied distinct) there, now, first,
      List.append_nil, List.append_assoc, List.singleton_append]
  | @called l' e todo doing there =>
    have now : b.standing.worker.turn l = _ := turn doing
    rw [quiet rfl]
    simp only [Standing.line, empty.said, empty.events, now, List.append_nil, List.filterMap_append]
    by_cases own : l' = l
    · simp [Worker.turn, Worker.pending, Effect.called?, own]
    · simp [Worker.turn, Worker.pending, Effect.called?, own]
  | @passed l' e todo doing gone =>
    have now : b.standing.worker.turn l = _ := turn doing
    have other : l' ≠ l := fun own =>
      gone (own ▸ mem_locals_applied (attached.stays doing (by simp)))
    rw [quiet rfl]
    simp only [Standing.line, empty.said, empty.events, now, List.append_nil]
    simp [Worker.turn, Worker.pending, other]

/-- The event that is accepted by a move. -/
def admits (b : Bus L H) : Move L H → List Event
  | .dispatch e => if b.closed then [] else [e]
  | _ => []

theorem accepted_occurrences (b : Bus L H) (m : Move L H) :
    Trace.accepted (b.occurrences m) = b.admits m := by
  cases m with
  | dispatch e =>
    simp only [occurrences, admits]
    split <;> rfl
  | work =>
    refine List.filterMap_eq_nil_iff.2 fun o mem => ?_
    cases o with
    | accepted e => exact absurd mem (accepted_not_mem_worked b e)
    | _ => rfl
  | sent fault =>
    simp only [occurrences]
    split <;> rfl
  | _ =>
    simp only [occurrences]
    split
    · rfl
    · simp [Trace.accepted, admits, Occurrence.accepted?]

theorem line_move (attached : b.standing.Attached l) (distinct : b.locals.Nodup) (m : Move L H) :
    (b.move m).standing.line l = b.standing.line l ++ b.admits m := by
  rw [(change_move b m).line_eq attached distinct, accepted_occurrences]

omit [DecidableEq H] in
/-- The calls that were asked for are at the front of the line. -/
theorem line_take (b : Bus L H) (l : L) :
    b.take.1.filterMap (·.called? l) ++ b.take.2.standing.line l = b.standing.line l := by
  rw [Standing.line, Standing.line]
  simp only [standing, take, List.filter_nil, List.filterMap_nil, List.nil_append,
    filterMap_called?_filter, List.append_assoc]

end HeadUnit.Bus
