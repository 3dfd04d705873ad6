import HeadUnit.Proofs.Lifecycle.Run

/-!
# Workers and the runs they belong to

Whatever ends a group ends its context: a failed worker cancels its group, and so do an abort and
a shutdown before they wait. So when the manager has crashed, or begins a new group, all contexts
should have ended. That is not so, as workers and waiting calls outlive their group when a
shutdown gives up, and whichever of them ends later crashes the manager for the group that was
begun since (`Moment.Overtakes`), of which they know nothing.

* `Carries`: what every move but a start does to groups and contexts;
* `IsRun.kept`: every context has ended, or its group is under way or was overtaken;
* `done_or_overtaken`: what is known when the manager has crashed and when it begins a group.
-/

namespace HeadUnit.Lifecycle

/-! ## Groups under way -/

/-- The phase is changed by hand only from starting to running. -/
def Move.isRegular : Move → Bool
  | .transition target _ => target == .running
  | _ => true

/-- The group is the last one that was begun, and neither stopped nor crashed since. -/
structure Manager.IsUnderWay (m : Manager) (g : Nat) : Prop where
  last : g + 1 = m.groups.length
  current : m.current = some g
  phase : m.phase = .starting ∨ m.phase = .running

/-- Such a group can crash, but not be stopped at once. -/
theorem Manager.IsUnderWay.canMove {m : Manager} {g : Nat} (underWay : m.IsUnderWay g) :
    m.phase.canMove .crashed = true ∧ m.phase.canMove .stopped = false := by
  rcases underWay.phase with e | e <;> rw [e] <;> decide

/-- A group under way, whose context has not ended, is taken for crashed: because of a worker of
    an earlier group, or at the end of a call that waits for other workers than its own. -/
structure Moment.Overtakes (x : Moment) (g : Nat) : Prop where
  underWay : x.before.IsUnderWay g
  crashed : x.after.phase = .crashed
  healthy : x.after.contextDone g = false
  foreign :
    (∃ k < g, ∃ name f, x.move = .returned k name (some f) ∧ f.isCanceled = false) ∨
    ∃ now late, x.move = .settle now late ∧ ∃ w ∈ x.before.waits, w.group ≠ some g ∧
      (x.after = x.before.finish w ∨ x.after = x.before.expire w)

/-- A group was overtaken at some time. -/
def History.Overtaken (h : History) (g : Nat) : Prop := ∃ x ∈ h, Moment.Overtakes x g

/-! ## What a move does to groups -/

namespace Manager

/-- What a move that begins no group does to groups, and to the calls that wait for them. -/
structure Carries (m : Manager) (x : Move) : Prop where
  length : (m.step x).groups.length = m.groups.length
  current : (m.step x).current = m.current ∨ (m.step x).current = none
  contexts : ∀ {g}, m.contextDone g = true → (m.step x).contextDone g = true
  waits : ∀ w ∈ (m.step x).waits, w ∈ m.waits ∨
    ∀ g, w.group = some g → (m.step x).contextDone g = true
  underWay : ∀ {g}, m.IsUnderWay g → (m.step x).contextDone g = true ∨ (m.step x).IsUnderWay g ∨
    Moment.Overtakes ⟨m, x⟩ g

variable {m : Manager} {x : Move}

theorem carries_of_same (same : m.step x = m) : Carries m x where
  length := by rw [same]
  current := by rw [same]; exact .inl rfl
  contexts done := by rw [same]; exact done
  waits w mem := by rw [same] at mem; exact .inl mem
  underWay underWay := by rw [same]; exact .inr (.inl underWay)

/-- A group is changed, but no context revived. -/
theorem carries_of_onGroup {k : Nat} {f : Group → Group} (changed : m.step x = m.onGroup k f)
    (stays : ∀ k, k.done = true → (f k).done = true) : Carries m x where
  length := by rw [changed, length_onGroup]
  current := by rw [changed]; exact .inl rfl
  contexts done := by rw [changed]; exact m.contextDone_onGroup k stays done
  waits w mem := by rw [changed] at mem; exact .inl mem
  underWay underWay := by
    rw [changed]
    have last := underWay.last
    rw [← length_onGroup m k f] at last
    exact .inr (.inl ⟨last, underWay.current, underWay.phase⟩)

theorem carries_transition (reason : String) : Carries m (.transition .running reason) where
  length := by simp [step]
  current := by simp [step]
  contexts done := by simpa [step, contextDone] using done
  waits w mem := by simp_all [step]
  underWay underWay := by
    refine .inr (.inl ⟨by simpa [step] using underWay.last, by simpa [step] using underWay.current,
      .inr ?_⟩)
    rw [step, phase_tryMove]
    rcases underWay.phase with e | e
    · rw [e]
      rfl
    · rw [e]
      rfl

theorem carries_join : Carries m .join := by
  cases current : m.current with
  | none => exact carries_of_same (by simp [step, join, current])
  | some g =>
    have changed : m.step .join = m.onGroup g fun k => { k with live := k.live + 1 } := by
      simp [step, join, current]
    exact carries_of_onGroup changed fun k done => done

theorem carries_returned (k : Nat) (name : String) (fault : Option Fault) :
    Carries m (.returned k name fault) := by
  by_cases live : (m.groups[k]?).any (0 < ·.live) = true
  · have step : m.step (.returned k name fault) = m.workerDone k name fault := by
      rw [step, if_pos live]
    cases failed : fault.filter (fun f => !f.isCanceled) with
    | none =>
      exact carries_of_onGroup (step.trans (workerDone_of_fine failed m k name)) fun _ done => done
    | some f =>
      obtain ⟨n, eq⟩ := workerDone_of_failed failed m k name
      rw [eq] at step
      have known : k < m.groups.length := by
        obtain ⟨group, there, -⟩ := Option.any_eq_true _ _ |>.1 live
        exact (List.getElem?_eq_some_iff.1 there).1
      refine ⟨?_, ?_, fun done => ?_, ?_, ?_⟩
      · simp [step, length_onGroup, note]
      · simp [step, onGroup, note]
      · rw [step]
        refine contextDone_onGroup _ k (by simp [Group.done]) ?_
        simpa [contextDone, note] using done
      · intro w mem
        exact .inl (by simpa [step, onGroup, note] using mem)
      · intro g underWay
        cases healthy : (m.step (.returned k name fault)).contextDone g with
        | true => exact .inl rfl
        | false =>
          -- The worker is not one of the group, as that one would have been canceled.
          have other : k ≠ g := by
            rintro rfl
            simp [step, contextDone, onGroup, note, known, Group.done] at healthy
          obtain ⟨faulty, isFault⟩ := Option.filter_eq_some_iff.1 failed
          have last := underWay.last
          refine .inr (.inr ⟨underWay, ?_, healthy, .inl ⟨k, by omega, name, f, ?_, ?_⟩⟩)
          · rw [Moment.after, step]
            exact (phase_tryMove ..).trans (if_pos underWay.canMove.1)
          · rw [faulty]
          · simpa using isFault
  · exact carries_of_same (by rw [step, if_neg live])

/-- A call cancels the current group and waits for it. -/
theorem carries_of_cancel {w : Wait} (known : ∀ {g}, m.current = some g → g < m.groups.length)
    (groups : (m.step x).groups = m.cancelCurrent.groups)
    (current : (m.step x).current = m.current ∨ (m.step x).current = none)
    (waits : (m.step x).waits = m.waits ++ [w]) (group : w.group = m.current) : Carries m x := by
  have context {g : Nat} : (m.step x).contextDone g = m.cancelCurrent.contextDone g := by
    rw [contextDone, groups, contextDone]
  have canceled {g : Nat} (own : m.current = some g) : (m.step x).contextDone g = true := by
    rw [context]
    exact contextDone_cancelCurrent_self own (known own)
  refine ⟨?_, current, fun done => ?_, fun v mem => ?_, fun underWay => ?_⟩
  · rw [groups, length_cancelCurrent]
  · rw [context]
    exact m.contextDone_cancelCurrent done
  · rw [waits] at mem
    rcases List.mem_append.1 mem with old | new
    · exact .inl old
    · obtain rfl := List.mem_singleton.1 new
      exact .inr fun g own => canceled (group ▸ own)
  · exact .inl (canceled underWay.current)

theorem carries_abort (known : ∀ {g}, m.current = some g → g < m.groups.length) (call : Nat)
    (reason : String) : Carries m (.abort call reason) := by
  refine carries_of_cancel (w := ⟨call, m.current, .abort reason⟩) known rfl (.inl ?_) ?_ rfl
  · exact m.current_cancelCurrent
  · simp [step, abort]

theorem carries_shutdown (known : ∀ {g}, m.current = some g → g < m.groups.length) (call : Nat)
    (timeout : Duration) (now : Int) : Carries m (.shutdown call timeout now) := by
  cases accepted : m.shutdown call timeout now with
  | error f => exact carries_of_same (by rw [step, accepted]; rfl)
  | ok m' =>
    obtain ⟨n, -, eq⟩ := shutdown_eq accepted
    have step : m.step (.shutdown call timeout now) = m' := by rw [step, accepted]; rfl
    have group (purpose : Purpose) : (Wait.mk call m.current purpose).group = m.current := rfl
    refine carries_of_cancel known ?_ (.inr ?_) ?_
      (group (.shutdown timeout (now + max timeout.toInt 0)))
    · rw [step, eq]
    · rw [step, eq]
    · rw [step, eq]

/-- A group under way is not stopped by a call that returns. -/
theorem IsUnderWay.phase_ended {g : Nat} (underWay : m.IsUnderWay g) {m' : Manager} {w : Wait}
    (ended : m' = m.finish w ∨ m' = m.expire w) : m'.phase = .crashed ∨ m'.phase = m.phase := by
  obtain ⟨crashes, stops⟩ := underWay.canMove
  rcases ended with rfl | rfl
  · rw [phase_finish]
    cases w.purpose with
    | abort reason => exact .inl (if_pos crashes)
    | shutdown timeout deadline => exact .inr (if_neg (by simp [stops]))
  · rw [phase_expire]
    cases w.purpose with
    | abort reason => exact .inr rfl
    | shutdown timeout deadline => exact .inl (if_pos crashes)

/-- A call returns. A group that it waited for was canceled when the call was made. -/
theorem carries_settle (canceled : ∀ w ∈ m.waits, ∀ g, w.group = some g → m.contextDone g = true)
    (now : Int) (late : Bool) : Carries m (.settle now late) := by
  cases settles : m.settleWait now late with
  | none => exact carries_of_same (by rw [step, settles]; rfl)
  | some result =>
    obtain ⟨call, fault, m'⟩ := result
    have step : m.step (.settle now late) = m' := by rw [step, settles]; rfl
    obtain ⟨w, mem, -, ended, -⟩ := settleWait_eq settles
    have groups : m'.groups = m.groups := by rcases ended with rfl | rfl <;> simp
    have current : m'.current = m.current := by rcases ended with rfl | rfl <;> simp
    have waits : m'.waits = m.waits.filter (·.call != w.call) := by
      rcases ended with rfl | rfl <;> simp
    have context (g : Nat) : m'.contextDone g = m.contextDone g := by
      rw [contextDone, groups, contextDone]
    refine ⟨?_, ?_, fun done => ?_, fun v mem => ?_, fun {g} underWay => ?_⟩
    · rw [step, groups]
    · rw [step]
      exact .inl current
    · rw [step, context]
      exact done
    · rw [step, waits] at mem
      exact .inl (List.mem_filter.1 mem).1
    · rw [step]
      rcases underWay.phase_ended ended with crashed | same
      · cases healthy : m'.contextDone g with
        | true => exact .inl rfl
        | false =>
          refine .inr (.inr ⟨underWay, ?_, ?_, .inr ⟨now, late, rfl, w, mem, ?_, ?_⟩⟩)
          · rw [Moment.after, step]
            exact crashed
          · rw [Moment.after, step]
            exact healthy
          · intro own
            rw [context, canceled w mem g own] at healthy
            cases healthy
          · rw [Moment.after, step]
            exact ended
      · exact .inr (.inl ⟨by rw [groups]; exact underWay.last, current.trans underWay.current,
          same ▸ underWay.phase⟩)

end Manager

/-! ## What a run keeps -/

/-- What is known at every time of a run: the current group exists, every group that is waited
    for is canceled, and a group whose context has not ended is under way or was overtaken. -/
structure Kept (h : History) (m : Manager) : Prop where
  known : ∀ {g}, m.current = some g → g < m.groups.length
  canceled : ∀ w ∈ m.waits, ∀ g, w.group = some g → m.contextDone g = true
  ended : ∀ {g}, g < m.groups.length →
    m.contextDone g = true ∨ m.IsUnderWay g ∨ History.Overtaken h g

namespace Kept

variable {h : History} {m : Manager} {x : Move}

theorem fresh : Kept [] {} where
  known current := by cases current
  canceled w mem := absurd mem List.not_mem_nil
  ended lt := absurd lt (Nat.not_lt_zero _)

theorem overtaken_snoc {g : Nat} (overtaken : h.Overtaken g) (x : Moment) :
    History.Overtaken (h ++ [x]) g := by
  obtain ⟨y, mem, overtakes⟩ := overtaken
  exact ⟨y, List.mem_append_left _ mem, overtakes⟩

theorem carried (kept : Kept h m) (carries : m.Carries x) : Kept (h ++ [⟨m, x⟩]) (m.step x) where
  known {g} current := by
    rw [carries.length]
    rcases carries.current with e | e
    · exact kept.known (e ▸ current)
    · rw [e] at current
      cases current
  canceled w mem g own := by
    rcases carries.waits w mem with old | new
    · exact carries.contexts (kept.canceled w old g own)
    · exact new g own
  ended {g} lt := by
    rcases kept.ended (carries.length ▸ lt) with done | underWay | overtaken
    · exact .inl (carries.contexts done)
    · rcases carries.underWay underWay with done | underWay | overtakes
      · exact .inl done
      · exact .inr (.inl underWay)
      · exact .inr (.inr ⟨_, List.mem_append_right h (List.mem_singleton.2 rfl), overtakes⟩)
    · exact .inr (.inr (overtaken_snoc overtaken _))

/-- Where no group is under way, all contexts have ended but those of groups that were
    overtaken. -/
theorem ended_of_idle (kept : Kept h m) (starting : m.phase ≠ .starting)
    (running : m.phase ≠ .running) {g : Nat} (lt : g < m.groups.length) :
    m.contextDone g = true ∨ h.Overtaken g := by
  rcases kept.ended lt with done | underWay | overtaken
  · exact .inl done
  · rcases underWay.phase with e | e
    · exact absurd e starting
    · exact absurd e running
  · exact .inr overtaken

/-- A group is begun only where none is under way. -/
theorem ended_of_begin (kept : Kept h m) {m' : Manager} {parentDone : Bool} {reason : String}
    (begins : m.beginGroup parentDone reason = .ok m') {g : Nat} (lt : g < m.groups.length) :
    m.contextDone g = true ∨ h.Overtaken g := by
  obtain ⟨able, -⟩ := Manager.beginGroup_eq begins
  refine kept.ended_of_idle ?_ ?_ lt
  · intro e
    rw [e] at able
    cases able
  · intro e
    rw [e] at able
    cases able

theorem begun (kept : Kept h m) {m' : Manager} {parentDone : Bool} {reason : String}
    (begins : m.beginGroup parentDone reason = .ok m') (x : Moment) : Kept (h ++ [x]) m' := by
  obtain ⟨-, out, rfl⟩ := Manager.beginGroup_eq begins
  have context {g : Nat} (done : m.contextDone g = true) :
      (m.groups ++ [⟨parentDone, false, 0⟩])[g]?.any Group.done = true := by
    obtain ⟨group, there, is⟩ := Option.any_eq_true _ _ |>.1 done
    rw [List.getElem?_append_left (List.getElem?_eq_some_iff.1 there).1, there]
    exact is
  refine ⟨fun {g} current => ?_, fun w mem g own => context (kept.canceled w mem g own),
    fun {g} lt => ?_⟩
  · simp only [Option.some.injEq] at current
    simp [← current]
  · simp only [List.length_append, List.length_singleton] at lt
    rcases Nat.lt_succ_iff_lt_or_eq.1 lt with old | rfl
    · rcases kept.ended_of_begin begins old with done | overtaken
      · exact .inl (context done)
      · exact .inr (.inr (overtaken_snoc overtaken x))
    · exact .inr (.inl ⟨by simp, rfl, .inl rfl⟩)

theorem step (kept : Kept h m) (regular : x.isRegular = true) :
    Kept (h ++ [⟨m, x⟩]) (m.step x) := by
  cases x with
  | start parentDone reason =>
    cases begins : m.beginGroup parentDone reason with
    | error f => exact kept.carried (Manager.carries_of_same (by rw [Manager.step, begins]; rfl))
    | ok m' =>
      have step : m.step (.start parentDone reason) = m' := by rw [Manager.step, begins]; rfl
      rw [step]
      exact kept.begun begins _
  | transition target reason =>
    obtain rfl : target = .running := by simpa [Move.isRegular] using regular
    exact kept.carried (Manager.carries_transition reason)
  | join => exact kept.carried Manager.carries_join
  | returned k name fault => exact kept.carried (Manager.carries_returned k name fault)
  | parentEnded k =>
    have changed : m.step (.parentEnded k) =
        m.onGroup k fun g => { g with parentDone := true } := rfl
    exact kept.carried (Manager.carries_of_onGroup changed (by simp [Group.done]))
  | abort call reason => exact kept.carried (Manager.carries_abort kept.known call reason)
  | shutdown call timeout now =>
    exact kept.carried (Manager.carries_shutdown kept.known call timeout now)
  | settle now late => exact kept.carried (Manager.carries_settle kept.canceled now late)

end Kept

theorem IsRun.kept {h : History} {m : Manager} (run : IsRun h m)
    (regular : ∀ x ∈ h, x.move.isRegular = true) : Kept h m := by
  induction run with
  | fresh => exact .fresh
  | step x run ih =>
    have before := ih fun y mem => regular y (List.mem_append_left _ mem)
    exact before.step (regular _ (List.mem_append_right _ (List.mem_singleton.2 rfl)))

/-! ## A crash by somebody else -/

namespace Sample

/-- The worker of the first group outlives its shutdown, and fails when the second group runs. -/
def moves : List Move :=
  [.start false "first", .join, .transition .running "up", .shutdown 0 10 0, .settle 10 true,
    .start false "second", .transition .running "up", .returned 0 "a" (some (.told "boom"))]

def overtaken : History × Manager := played [] {} moves

theorem isRun : IsRun overtaken.1 overtaken.2 := IsRun.fresh.play moves

end Sample

/-- When the manager has crashed, the context of the last group has ended, and when it can begin
    a group, the contexts of all groups have, unless the group was overtaken: then it was under
    way with a live context when a worker of an earlier group failed, or when a call returned
    that waited for other workers than those of the group. -/
theorem done_or_overtaken {h : History} {m : Manager} (run : IsRun h m)
    (regular : ∀ x ∈ h, x.move.isRegular = true) :
    (m.phase = .crashed → ∀ g, g + 1 = m.groups.length →
      m.contextDone g = true ∨ h.Overtaken g) ∧
    ∀ parentDone reason m', m.beginGroup parentDone reason = .ok m' →
      ∀ g < m.groups.length, m.contextDone g = true ∨ h.Overtaken g := by
  have kept := run.kept regular
  refine ⟨fun crashed g last => ?_, fun _ _ _ begins g lt => kept.ended_of_begin begins lt⟩
  exact kept.ended_of_idle (by simp [crashed]) (by simp [crashed]) (by omega)

/-- In the sample the second group was overtaken by the worker of the first one. -/
theorem done_or_overtaken_of_sample :
    Sample.overtaken.2.phase = .crashed ∧ Sample.overtaken.2.groups.length = 2 ∧
      (Sample.overtaken.2.contextDone 1 = true ∨ Sample.overtaken.1.Overtaken 1) :=
  have regular : ∀ x ∈ Sample.overtaken.1, x.move.isRegular = true := by decide
  ⟨rfl, rfl, (done_or_overtaken Sample.isRun regular).1 rfl 1 rfl⟩

/-- A worker of a group that was shut down fails late and crashes the manager for the group under
    way, whose context has not ended. Then another group can begin, while that one is alive. -/
theorem crashed_by_earlier_worker :
    IsRun Sample.overtaken.1 Sample.overtaken.2 ∧
      (∀ x ∈ Sample.overtaken.1, x.move.isRegular = true) ∧
      Sample.overtaken.2.phase = .crashed ∧ Sample.overtaken.2.waits = [] ∧
      Sample.overtaken.2.groups.length = 2 ∧ Sample.overtaken.2.contextDone 1 = false ∧
      ∃ m', Sample.overtaken.2.beginGroup false "third" = .ok m' :=
  ⟨Sample.isRun, by decide, rfl, rfl, rfl, rfl, _, rfl⟩

end HeadUnit.Lifecycle
