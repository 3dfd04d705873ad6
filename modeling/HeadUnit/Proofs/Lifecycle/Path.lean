import HeadUnit.Proofs.Lifecycle.Run

/-!
# The phases that a manager goes through

The changes of the phase that a manager reports (`Manager.changes`) are a path in the table of
allowed changes (`Phase.Path`), from `stopped` to the phase it is in. This rests on two facts about
a single move.

* A move tries at most one change of the phase (`Manager.attempt?`). If the table allows it, it is
  made and reported, and else neither (`Manager.changes_step`).
* Only calls that ask for a change tell of a refusal (`Manager.error?`), and a call that does has
  no effect at all (`Manager.step_of_error`).

As a group can only be begun while the manager is stopped or has crashed, it becomes either of the
two between two starts (`IsRun.leads`).
-/

namespace HeadUnit

/-- The changes in the list lead from one phase to another, each of them as the table allows. -/
inductive Phase.Path : Phase → List (Phase × Phase) → Phase → Prop
  | nil (p : Phase) : Path p [] p
  | cons {a b c : Phase} {changes : List (Phase × Phase)} (allowed : a.canMove b = true)
      (rest : Path b changes c) : Path a ((a, b) :: changes) c

/-- A path is made longer at its end. -/
theorem Phase.Path.snoc {a b c : Phase} {changes : List (Phase × Phase)} (path : Path a changes b)
    (allowed : b.canMove c = true) : Path a (changes ++ [(b, c)]) c := by
  induction path with
  | nil p => exact .cons allowed (.nil c)
  | cons first _ ih => exact .cons first (ih allowed)

namespace Lifecycle

/-- The change of the phase that is reported, if any. -/
def Effect.change? : Effect → Option (Phase × Phase)
  | .note _ => none
  | .changed source target _ => some (source, target)

/-- The move is a call that asks for a change of the phase. -/
def Move.asks : Move → Bool
  | .start .. | .transition .. | .shutdown .. => true
  | _ => false

/-- The phase that the end of a call leads to; `overdue` if it is ended by its deadline. -/
def Wait.goal (w : Wait) (overdue : Bool) : Phase :=
  match w.purpose with
  | .abort _ => .crashed
  | .shutdown .. => if overdue then .crashed else .stopped

/-- The fault of a result. -/
def faultOf? (r : Except Fault Manager) : Option Fault :=
  match r with
  | .ok _ => none
  | .error f => some f

namespace Manager

/-- The changes of the phase that were reported, the oldest first. -/
def changes (m : Manager) : List (Phase × Phase) := m.out.filterMap Effect.change?

/-- The phase that a move tries to change to. -/
def attempt? (m : Manager) : Move → Option Phase
  | .start .. => some .starting
  | .transition target _ => some target
  | .join | .parentEnded _ | .abort .. => none
  | .returned g _ fault =>
    if (m.groups[g]?).any (0 < ·.live) then
      (fault.filter fun f => !f.isCanceled).map fun _ => .crashed
    else none
  | .shutdown .. => some .stopping
  | .settle now late =>
    (m.waits.find? fun w => w.isOverdue now || m.isReady w).map fun w =>
      w.goal (w.isOverdue now && (late || !m.isReady w))

/-- The fault with which a call is refused that asks for a change. -/
def error? (m : Manager) : Move → Option Fault
  | .start parentDone reason => faultOf? (m.beginGroup parentDone reason)
  | .transition target reason => faultOf? (m.move target reason)
  | .shutdown call timeout now => faultOf? (m.shutdown call timeout now)
  | _ => none

/-! ## Moves -/

/-- The phase changes from that of `m` to `target`, if there is one, and exactly this is
    reported. -/
structure Changes (m m' : Manager) (target : Option Phase) : Prop where
  phase : m'.phase = target.getD m.phase
  reports : m'.changes = m.changes ++ target.toList.map (m.phase, ·)

variable {m m' : Manager}

theorem Changes.of_frame (phase : m'.phase = m.phase) (out : m'.out = m.out) :
    Changes m m' none where
  phase := phase
  reports := by simp [changes, out]

/-- What changes neither the phase nor the reports may come after a change. -/
theorem Changes.before {m₁ : Manager} {target : Option Phase} (change : Changes m m₁ target)
    (phase : m'.phase = m₁.phase) (out : m'.out = m₁.out) : Changes m m' target where
  phase := phase.trans change.phase
  reports := by rw [changes, out]; exact change.reports

/-- A change that the table allows is made. -/
theorem Changes.of_able {p : Phase} {reason : String} {n : Note} (phase : m'.phase = p)
    (out : m'.out = m.out ++ [.changed m.phase p reason, .note n]) : Changes m m' (some p) where
  phase := phase
  reports := by simp [changes, out, Effect.change?]

/-- A change is tried, after what neither changed the phase nor reported a change. -/
theorem changes_tryMove (phase : m'.phase = m.phase) (same : m'.changes = m.changes) (p : Phase)
    (reason : String) : Changes m (m'.tryMove p reason) ((some p).filter m.phase.canMove) := by
  cases able : m.phase.canMove p with
  | true =>
    obtain ⟨n, -, eq⟩ := tryMove_eq (phase ▸ able) reason
    rw [Option.filter_some_pos able, eq]
    refine ⟨rfl, ?_⟩
    rw [← same]
    simp [changes, Effect.change?, phase]
  | false =>
    rw [Option.filter_some_neg (by simp [able]), tryMove_of_not (phase ▸ able)]
    exact ⟨phase, by simpa using same⟩

/-- A call that is refused. -/
theorem move_of_not {p : Phase} (unable : m.phase.canMove p = false) (reason : String) :
    m.move p reason = .error (.invalidTransition m.phase p) := by
  rw [move, if_neg (by simp [unable])]

theorem beginGroup_of_not (unable : m.phase.canMove .starting = false) (parentDone : Bool)
    (reason : String) :
    m.beginGroup parentDone reason = .error (.invalidTransition m.phase .starting) := by
  rw [beginGroup, move_of_not unable, Except.map]

theorem shutdown_of_not (unable : m.phase.canMove .stopping = false) (call : Nat)
    (timeout : Duration) (now : Int) :
    m.shutdown call timeout now = .error (.invalidTransition m.phase .stopping) := by
  rw [shutdown, move_of_not unable, Except.map]

theorem changes_workerDone (m : Manager) (g : Nat) (name : String) (fault : Option Fault) :
    Changes m (m.workerDone g name fault)
      (((fault.filter fun f => !f.isCanceled).map fun _ => .crashed).filter m.phase.canMove) := by
  cases failed : fault.filter (fun f => !f.isCanceled) with
  | none =>
    rw [workerDone_of_fine failed]
    exact .of_frame rfl rfl
  | some f =>
    obtain ⟨n, eq⟩ := workerDone_of_failed failed m g name
    rw [eq]
    -- The failure is noted first, and the worker leaves its group last.
    have phase : (m.note n).phase = m.phase := rfl
    have silent : (m.note n).changes = m.changes := by simp [changes, note, Effect.change?]
    exact (changes_tryMove phase silent .crashed _).before rfl rfl

theorem changes_finish (m : Manager) (w : Wait) :
    Changes m (m.finish w) ((some (w.goal false)).filter m.phase.canMove) := by
  unfold finish Wait.goal
  cases w.purpose with
  | abort reason => exact changes_tryMove (by rfl) (by rfl) _ _
  | shutdown timeout deadline => exact changes_tryMove (by rfl) (by rfl) _ _

theorem changes_expire (m : Manager) (w : Wait) {now : Int} (overdue : w.isOverdue now = true) :
    Changes m (m.expire w) ((some (w.goal true)).filter m.phase.canMove) := by
  unfold expire Wait.goal
  cases purpose : w.purpose with
  | abort reason => simp [Wait.isOverdue, purpose] at overdue
  | shutdown timeout deadline =>
    exact changes_tryMove (by rfl) (by simp [changes, note, Effect.change?]) _ _

theorem changes_settle (m : Manager) (now : Int) (late : Bool) :
    Changes m (m.step (.settle now late))
      ((m.attempt? (.settle now late)).filter m.phase.canMove) := by
  simp only [step, attempt?, settleWait]
  cases m.waits.find? fun w => w.isOverdue now || m.isReady w with
  | none => exact .of_frame rfl rfl
  | some w =>
    simp only [Option.map_some]
    cases ended : w.isOverdue now && (late || !m.isReady w) with
    | true =>
      rw [Bool.and_eq_true] at ended
      exact changes_expire m w ended.1
    | false => exact changes_finish m w

/-- A move makes the change it tries if the table allows it, and else none. -/
theorem changes_step (m : Manager) (x : Move) :
    Changes m (m.step x) ((m.attempt? x).filter m.phase.canMove) := by
  cases x with
  | start parentDone reason =>
    cases able : m.phase.canMove .starting with
    | true =>
      rw [attempt?, Option.filter_some_pos able, step, beginGroup, move, if_pos able]
      exact .of_able rfl rfl
    | false =>
      rw [attempt?, Option.filter_some_neg (by simp [able]), step, beginGroup_of_not able]
      exact .of_frame rfl rfl
  | transition target reason => exact changes_tryMove (by rfl) (by rfl) target reason
  | join =>
    rw [step, join_eq]
    exact .of_frame rfl rfl
  | returned g name fault =>
    simp only [step, attempt?]
    split
    · exact changes_workerDone m g name fault
    · exact .of_frame rfl rfl
  | parentEnded g => exact .of_frame rfl rfl
  | abort call reason =>
    rw [step, abort, cancelCurrent_eq]
    exact .of_frame rfl rfl
  | shutdown call timeout now =>
    cases accepted : m.shutdown call timeout now with
    | ok m' =>
      have able : m.phase.canMove .stopping = true := by
        cases able : m.phase.canMove .stopping with
        | true => rfl
        | false =>
          rw [shutdown_of_not able] at accepted
          cases accepted
      obtain ⟨n, -, eq⟩ := shutdown_eq accepted
      rw [attempt?, Option.filter_some_pos able, step, accepted]
      exact .of_able (congrArg phase eq) (congrArg out eq)
    | error f =>
      have unable : m.phase.canMove .stopping = false := by
        refine Bool.eq_false_iff.2 fun able => ?_
        rw [shutdown, move, if_pos able] at accepted
        cases accepted
      rw [attempt?, Option.filter_some_neg unable, step, accepted]
      exact .of_frame rfl rfl
  | settle now late => exact changes_settle m now late

/-! ## Refusals -/

/-- A call is refused if and only if the table does not allow the change it asks for. -/
theorem error?_eq_some_iff {x : Move} {f : Fault} :
    m.error? x = some f ↔ x.asks = true ∧
      ∃ p, m.attempt? x = some p ∧ m.phase.canMove p = false ∧
        f = .invalidTransition m.phase p := by
  -- What a call answers is decided by the change it asks for.
  have of_asked {p : Phase} {r : Except Fault Manager} (able : m.phase.canMove p = true →
      faultOf? r = none) (unable : m.phase.canMove p = false →
      r = .error (.invalidTransition m.phase p)) : faultOf? r = some f ↔
        ∃ q, some p = some q ∧ m.phase.canMove q = false ∧ f = .invalidTransition m.phase q := by
    cases can : m.phase.canMove p with
    | true => simp [able can, can]
    | false =>
      rw [unable can]
      constructor
      · intro told
        exact ⟨p, rfl, can, (Option.some.inj told).symm⟩
      · rintro ⟨q, same, -, rfl⟩
        cases same
        rfl
  cases x with
  | start parentDone reason =>
    simp only [error?, Move.asks, attempt?, true_and]
    exact of_asked (fun able => by simp [beginGroup, move, able, Except.map, faultOf?])
      fun unable => beginGroup_of_not unable ..
  | transition target reason =>
    simp only [error?, Move.asks, attempt?, true_and]
    exact of_asked (fun able => by simp [move, able, faultOf?]) fun unable => move_of_not unable _
  | shutdown call timeout now =>
    simp only [error?, Move.asks, attempt?, true_and]
    exact of_asked (fun able => by simp [shutdown, move, able, Except.map, faultOf?])
      fun unable => shutdown_of_not unable ..
  | join | returned | parentEnded | abort | settle => simp [error?, Move.asks]

/-- A call that is refused has no effect. -/
theorem step_of_error {x : Move} {f : Fault} (refused : m.error? x = some f) : m.step x = m := by
  obtain ⟨asks, p, tries, unable, -⟩ := error?_eq_some_iff.1 refused
  cases x with
  | start parentDone reason =>
    cases tries
    rw [step, beginGroup_of_not unable]
    rfl
  | transition target reason =>
    cases tries
    exact tryMove_of_not unable reason
  | shutdown call timeout now =>
    cases tries
    rw [step, shutdown_of_not unable]
    rfl
  | join | returned | parentEnded | abort | settle => cases asks

end Manager

/-! ## Runs -/

/-- A group is begun. -/
def Moment.Begins (x : Moment) : Prop :=
  ∃ parentDone reason m', x.move = .start parentDone reason ∧
    x.before.beginGroup parentDone reason = .ok m'

/-- A group is begun while the manager is stopped or has crashed, and then it is starting. -/
theorem Moment.Begins.phases {x : Moment} (begins : x.Begins) :
    (x.before.phase = .stopped ∨ x.before.phase = .crashed) ∧ x.after.phase = .starting := by
  obtain ⟨parentDone, reason, m', move, ok⟩ := begins
  obtain ⟨able, out, eq⟩ := Manager.beginGroup_eq ok
  refine ⟨?_, ?_⟩
  · cases phase : x.before.phase with
    | stopped => exact .inl rfl
    | crashed => exact .inr rfl
    | starting | running | stopping | unknown =>
      rw [phase] at able
      cases able
  · rw [Moment.after, move, Manager.step, ok, eq]
    rfl

/-- The moments of a run tell the changes of the manager. -/
theorem Moment.changes (x : Moment) : Manager.Changes x.before x.after
    ((x.before.attempt? x.move).filter x.before.phase.canMove) :=
  x.before.changes_step x.move

namespace IsRun

variable {h h₁ h₂ : History} {m : Manager} {x : Moment}

/-- The reported changes lead from `stopped` to the phase of the manager. -/
theorem path (run : IsRun h m) : Phase.Path .stopped m.changes m.phase := by
  induction run with
  | fresh => exact .nil _
  | @step h m x _ ih =>
    have change := m.changes_step x
    cases target : (m.attempt? x).filter m.phase.canMove with
    | none =>
      rw [target] at change
      rw [change.phase, change.reports]
      simpa using ih
    | some p =>
      rw [target] at change
      rw [change.phase, change.reports]
      exact ih.snoc (Option.filter_eq_some_iff.1 target).2

/-- The run up to a moment. -/
theorem before (run : IsRun h m) (split : h = h₁ ++ x :: h₂) : IsRun h₁ x.before := by
  induction run generalizing h₂ with
  | fresh => simp at split
  | @step h m y run ih =>
    rcases List.eq_nil_or_concat h₂ with rfl | ⟨rest, z, rfl⟩
    · obtain ⟨rfl, eq⟩ := List.append_inj' split rfl
      cases eq
      exact run
    · rw [List.concat_eq_append, ← List.cons_append, ← List.append_assoc] at split
      exact ih (List.append_inj' split rfl).1

/-- If the phase was another one after a moment, the manager has changed to its phase since, and
    reported it. -/
theorem leads (run : IsRun h m) (split : h = h₁ ++ x :: h₂) (other : x.after.phase ≠ m.phase) :
    ∃ z ∈ h₂, z.after.phase = m.phase ∧
      z.after.changes = z.before.changes ++ [(z.before.phase, m.phase)] := by
  induction run generalizing h₂ with
  | fresh => simp at split
  | @step h m y run ih =>
    rcases List.eq_nil_or_concat h₂ with rfl | ⟨rest, z, rfl⟩
    · obtain ⟨-, eq⟩ := List.append_inj' split rfl
      cases eq
      exact absurd rfl other
    · rw [List.concat_eq_append, ← List.cons_append, ← List.append_assoc] at split
      obtain ⟨earlier, eq⟩ := List.append_inj' split rfl
      cases eq
      have change := m.changes_step y
      cases target : (m.attempt? y).filter m.phase.canMove with
      | none =>
        rw [target] at change
        rw [change.phase] at other ⊢
        obtain ⟨z, mem, here⟩ := ih earlier other
        exact ⟨z, by simp [mem], here⟩
      | some p =>
        rw [target] at change
        exact ⟨⟨m, y⟩, by simp, rfl, by rw [change.phase]; exact change.reports⟩

end IsRun

/-! ## Main result -/

/-- The phases of a manager follow the table, whatever happens to it. The reported changes are a
    path from `stopped` to its phase. A move changes the phase to the one it tries, and reports
    that, if the table allows it; else it does neither. A call is refused exactly if the table does
    not allow what it asks for, and then it has no effect. Between two starts the manager has
    reported to be stopped or to have crashed. -/
theorem phases_follow_table {h : History} {m : Manager} (run : IsRun h m) :
    Phase.Path .stopped m.changes m.phase ∧
      (∀ x ∈ h, ∀ p, x.before.attempt? x.move = some p → x.before.phase.canMove p = true →
        x.after.phase = p ∧ x.after.changes = x.before.changes ++ [(x.before.phase, p)]) ∧
      (∀ x ∈ h, (∀ p, x.before.attempt? x.move = some p → x.before.phase.canMove p = false) →
        x.after.phase = x.before.phase ∧ x.after.changes = x.before.changes) ∧
      (∀ x ∈ h, ∀ f, x.before.error? x.move = some f ↔ x.move.asks = true ∧
        ∃ p, x.before.attempt? x.move = some p ∧ x.before.phase.canMove p = false ∧
          f = .invalidTransition x.before.phase p) ∧
      (∀ x ∈ h, ∀ f, x.before.error? x.move = some f → x.after = x.before) ∧
      ∀ h₁ x h₂ y h₃, h = h₁ ++ x :: (h₂ ++ y :: h₃) → x.Begins → y.Begins →
        ∃ z ∈ h₂, ∃ p, (p = .stopped ∨ p = .crashed) ∧ z.after.phase = p ∧
          z.after.changes = z.before.changes ++ [(z.before.phase, p)] := by
  refine ⟨run.path, fun x _ p tries able => ?_, fun x _ unable => ?_,
    fun x _ f => Manager.error?_eq_some_iff, fun x _ f => Manager.step_of_error,
    fun h₁ x h₂ y h₃ split begins again => ?_⟩
  · have change := x.changes
    rw [tries, Option.filter_some_pos able] at change
    exact ⟨change.phase, change.reports⟩
  · have change := x.changes
    have none : (x.before.attempt? x.move).filter x.before.phase.canMove = none :=
      Option.filter_eq_none_iff.2 fun p tries => by simp [unable p tries]
    rw [none] at change
    exact ⟨change.phase, by simpa using change.reports⟩
  · rw [← List.cons_append, ← List.append_assoc] at split
    have idle := again.phases.1
    have other : x.after.phase ≠ y.before.phase := by
      rw [begins.phases.2]
      rcases idle with e | e <;> rw [e] <;> decide
    obtain ⟨z, mem, phase, reports⟩ := (run.before split).leads rfl other
    exact ⟨z, mem, y.before.phase, idle, phase, reports⟩

namespace Sample

/-- A service crashes because of a worker, is shut down in vain, and is started again. -/
def career : List Move :=
  [.start false "up", .join, .transition .running "up", .transition .starting "up",
    .returned 0 "a" (some (.told "boom")), .shutdown 1 10 0, .abort 2 "late", .settle 20 true,
    .settle 20 true, .start false "again"]

end Sample

/-- The changes of the sample: it is stopped only at first, and asking for a second start is
    refused. -/
theorem phases_of_sample :
    Phase.Path .stopped
        [(.stopped, .starting), (.starting, .running), (.running, .crashed), (.crashed, .stopping),
          (.stopping, .crashed), (.crashed, .starting)] .starting ∧
      ∃ x ∈ (played [] {} Sample.career).1,
        x.before.error? x.move = some (.invalidTransition .running .starting) := by
  obtain ⟨path, -, -, refused, -⟩ := phases_follow_table (IsRun.fresh.play Sample.career)
  refine ⟨path, (played [] {} Sample.career).1.get ⟨3, by decide⟩, List.get_mem _ _, ?_⟩
  exact (refused _ (List.get_mem _ _) _).2 ⟨rfl, .starting, rfl, rfl, rfl⟩

end Lifecycle

end HeadUnit
