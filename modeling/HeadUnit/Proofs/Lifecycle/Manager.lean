import HeadUnit.Lifecycle.Manager
import HeadUnit.Proofs.Notes

/-!
# What the lifecycle manager does

What the operations of the manager change, and what they leave alone: a change of the phase, the
workers that are counted in a group, and the contexts of groups. Contexts only ever end
(`contextDone_onGroup`).
-/

/-- From where a start may be tried, it can begin. -/
theorem HeadUnit.Phase.canMove_of_canStart {p : HeadUnit.Phase} (able : p.canStart = true) :
    p.canMove .starting = true := by
  cases p <;> first | rfl | cases able

namespace HeadUnit.Lifecycle.Manager

/-! ## Changes of the phase -/

/-- The manager changes the phase and reports it. -/
theorem move_eq {m m' : Manager} {p : Phase} {reason : String} (ok : m.move p reason = .ok m') :
    ∃ n, n.isPlain = true ∧
      m' = { m with phase := p, out := m.out ++ [.changed m.phase p reason, .note n] } := by
  unfold move at ok
  split at ok
  · cases ok
    exact ⟨_, rfl, rfl⟩
  · cases ok

theorem tryMove_eq {m : Manager} {p : Phase} (able : m.phase.canMove p = true) (reason : String) :
    ∃ n, n.isPlain = true ∧ m.tryMove p reason =
      { m with phase := p, out := m.out ++ [.changed m.phase p reason, .note n] } := by
  refine ⟨_, ?_, by rw [tryMove, move, if_pos able]⟩
  rfl

/-- Where the table does not allow a change, nothing happens. -/
theorem tryMove_of_not {m : Manager} {p : Phase} (unable : m.phase.canMove p = false)
    (reason : String) : m.tryMove p reason = m := by
  simp [tryMove, move, unable]

/-- A change of the phase leaves all else alone but the reports. -/
theorem tryMove_frame (m : Manager) (p : Phase) (reason : String) :
    ∃ out, m.tryMove p reason =
      { m with phase := if m.phase.canMove p then p else m.phase, out := out } := by
  cases able : m.phase.canMove p with
  | true =>
    obtain ⟨n, -, e⟩ := tryMove_eq able reason
    exact ⟨_, e⟩
  | false => exact ⟨m.out, tryMove_of_not able reason⟩

section

variable (m : Manager) (p : Phase) (reason : String)

theorem phase_tryMove : (m.tryMove p reason).phase = if m.phase.canMove p then p else m.phase := by
  obtain ⟨out, e⟩ := tryMove_frame m p reason
  rw [e]

@[simp]
theorem groups_tryMove : (m.tryMove p reason).groups = m.groups := by
  obtain ⟨out, e⟩ := tryMove_frame m p reason
  rw [e]

@[simp]
theorem current_tryMove : (m.tryMove p reason).current = m.current := by
  obtain ⟨out, e⟩ := tryMove_frame m p reason
  rw [e]

@[simp]
theorem waits_tryMove : (m.tryMove p reason).waits = m.waits := by
  obtain ⟨out, e⟩ := tryMove_frame m p reason
  rw [e]

end

/-- The manager cancels the current group, to wait for it. -/
theorem shutdown_eq {m m' : Manager} {call : Nat} {timeout : Duration} {now : Int}
    (ok : m.shutdown call timeout now = .ok m') :
    ∃ n, n.isPlain = true ∧ m' = { m.cancelCurrent with
      phase := .stopping
      current := none
      waits := m.waits ++ [⟨call, m.current, .shutdown timeout (now + max timeout.toInt 0)⟩]
      out := m.out ++ [.changed m.phase .stopping "shutdown requested", .note n] } := by
  unfold shutdown at ok
  cases moved : m.move .stopping "shutdown requested" with
  | error f => simp [moved, Except.map] at ok
  | ok mgr =>
    simp only [moved, Except.map, Except.ok.injEq] at ok
    obtain ⟨n, plain, rfl⟩ := move_eq moved
    refine ⟨n, plain, ok ▸ ?_⟩
    unfold cancelCurrent
    cases m.current <;> rfl

/-- A new group is begun, which is the current one from then on. -/
theorem beginGroup_eq {m m' : Manager} {parentDone : Bool} {reason : String}
    (ok : m.beginGroup parentDone reason = .ok m') :
    m.phase.canMove .starting = true ∧ ∃ out, m' = { m with
      phase := .starting
      groups := m.groups ++ [⟨parentDone, false, 0⟩]
      current := some m.groups.length
      out := out } := by
  unfold beginGroup move at ok
  split at ok
  · next able =>
    cases ok
    exact ⟨able, _, rfl⟩
  · cases ok

/-! ## Workers -/

/-- A worker that joins is counted in its group, and nothing else. -/
theorem join_eq (m : Manager) : m.join = { m with groups := m.join.groups } := by
  obtain ⟨phase, groups, current, waits, out⟩ := m
  cases current <;> rfl

/-- Canceling a group touches nothing else. -/
theorem cancelCurrent_eq (m : Manager) :
    m.cancelCurrent = { m with groups := m.cancelCurrent.groups } := by
  obtain ⟨phase, groups, current, waits, out⟩ := m
  cases current <;> rfl

@[simp]
theorem current_cancelCurrent (m : Manager) : m.cancelCurrent.current = m.current := by
  rw [cancelCurrent_eq]

@[simp]
theorem waits_cancelCurrent (m : Manager) : m.cancelCurrent.waits = m.waits := by
  rw [cancelCurrent_eq]

/-- How many workers of a group have not returned. -/
def live (m : Manager) (g : Nat) : Option Nat := (m.groups[g]?).map (·.live)

/-- A change of a group that does not count workers. -/
theorem live_onGroup (m : Manager) (i : Nat) (f : Group → Group) (same : ∀ g, (f g).live = g.live)
    (g : Nat) : (m.onGroup i f).live g = m.live g := by
  simp only [live, onGroup, List.getElem?_modify]
  split
  · simp [Option.map_map, Function.comp_def, same]
  · simp

theorem live_cancelCurrent (m : Manager) (g : Nat) : m.cancelCurrent.live g = m.live g := by
  rw [cancelCurrent]
  split
  · refine live_onGroup m _ _ (fun _ => ?_) g
    rfl
  · rfl

/-- A worker joins the current group, and no other. -/
theorem live_join {m : Manager} {i : Nat} (current : m.current = some i) (g : Nat) :
    m.join.live g = if i = g then (m.live g).map (· + 1) else m.live g := by
  simp only [join, current, live, onGroup, List.getElem?_modify]
  split
  · simp [Option.map_map, Function.comp_def]
  · simp

/-- A worker returns without a fault, or because it was canceled. -/
theorem workerDone_of_fine {fault : Option Fault}
    (fine : fault.filter (fun f => !f.isCanceled) = none) (m : Manager) (g : Nat) (name : String) :
    m.workerDone g name fault = m.onGroup g fun k => { k with live := k.live - 1 } := by
  simp [workerDone, fine]

/-- A worker fails, which crashes the service and cancels its group. -/
theorem workerDone_of_failed {fault : Option Fault} {f : Fault}
    (failed : fault.filter (fun f => !f.isCanceled) = some f) (m : Manager) (g : Nat)
    (name : String) : ∃ n, m.workerDone g name fault =
      ((m.note n).tryMove .crashed (name ++ ": " ++ f.message)).onGroup g fun k =>
        { k with live := k.live - 1, canceled := true } := by
  simp only [workerDone, failed]
  exact ⟨_, rfl⟩

theorem length_onGroup (m : Manager) (g : Nat) (f : Group → Group) :
    (m.onGroup g f).groups.length = m.groups.length := by
  rw [onGroup, List.length_modify]

theorem length_cancelCurrent (m : Manager) :
    m.cancelCurrent.groups.length = m.groups.length := by
  unfold cancelCurrent
  split
  · exact length_onGroup ..
  · rfl

/-! ## Calls that return -/

section

variable (m : Manager) (w : Wait)

@[simp]
theorem groups_finish : (m.finish w).groups = m.groups := by
  unfold finish
  split <;> simp

@[simp]
theorem current_finish : (m.finish w).current = m.current := by
  unfold finish
  split <;> simp

@[simp]
theorem waits_finish : (m.finish w).waits = m.waits.filter (·.call != w.call) := by
  unfold finish
  split <;> simp

theorem phase_finish : (m.finish w).phase =
    match w.purpose with
    | .abort _ => if m.phase.canMove .crashed then .crashed else m.phase
    | .shutdown .. => if m.phase.canMove .stopped then .stopped else m.phase := by
  unfold finish
  cases w.purpose with
  | abort reason => exact phase_tryMove ..
  | shutdown timeout deadline => exact phase_tryMove ..

@[simp]
theorem groups_expire : (m.expire w).groups = m.groups := by
  unfold expire
  split <;> simp [note]

@[simp]
theorem current_expire : (m.expire w).current = m.current := by
  unfold expire
  split <;> simp [note]

@[simp]
theorem waits_expire : (m.expire w).waits = m.waits.filter (·.call != w.call) := by
  unfold expire
  split <;> simp [note]

theorem phase_expire : (m.expire w).phase =
    match w.purpose with
    | .abort _ => m.phase
    | .shutdown .. => if m.phase.canMove .crashed then .crashed else m.phase := by
  unfold expire
  cases w.purpose with
  | abort reason => rfl
  | shutdown timeout deadline => exact phase_tryMove ..

end

/-- The call that returns is one that waits, and its time is up or its group is empty; if both,
    `late` tells what is noticed. -/
theorem settleWait_eq {m m' : Manager} {now : Int} {late : Bool} {call : Nat}
    {fault : Option Fault} (settles : m.settleWait now late = some (call, fault, m')) :
    ∃ w ∈ m.waits, w.call = call ∧ (m' = m.finish w ∨ m' = m.expire w) ∧
      (w.isOverdue now = true ∧ (late = true ∨ m.isReady w = false) ∧
          fault = some .workersOverdue ∧ m' = m.expire w ∨
        m.isReady w = true ∧ (late = false ∨ w.isOverdue now = false) ∧
          fault = none ∧ m' = m.finish w) := by
  unfold settleWait at settles
  split at settles
  · cases settles
  · next w found =>
    refine ⟨w, List.mem_of_find?_eq_some found, ?_⟩
    split at settles
    · next overdue =>
      cases settles
      simp only [Bool.and_eq_true, Bool.or_eq_true, Bool.not_eq_true'] at overdue
      exact ⟨rfl, .inr rfl, .inl ⟨overdue.1, overdue.2, rfl, rfl⟩⟩
    · next early =>
      cases settles
      have able := List.find?_some found
      refine ⟨rfl, .inl rfl, .inr ?_⟩
      cases due : w.isOverdue now <;> cases ready : m.isReady w <;> simp_all

/-! ## Contexts -/

/-- A context that has ended stays so if its group does. -/
theorem contextDone_onGroup (m : Manager) (g : Nat) {f : Group → Group}
    (stays : ∀ k, k.done = true → (f k).done = true) {j : Nat} (done : m.contextDone j = true) :
    (m.onGroup g f).contextDone j = true := by
  simp only [contextDone, onGroup, List.getElem?_modify, Option.any_eq_true] at done ⊢
  obtain ⟨k, there, is⟩ := done
  by_cases own : g = j
  · exact ⟨f k, by simp [own, there], stays k is⟩
  · exact ⟨k, by simp [own, there], is⟩

theorem contextDone_cancelCurrent (m : Manager) {j : Nat} (done : m.contextDone j = true) :
    m.cancelCurrent.contextDone j = true := by
  unfold cancelCurrent
  split
  · exact m.contextDone_onGroup _ (fun k _ => by simp [Group.done]) done
  · exact done

/-- The context of the current group ends. -/
theorem contextDone_cancelCurrent_self {m : Manager} {g : Nat} (current : m.current = some g)
    (known : g < m.groups.length) : m.cancelCurrent.contextDone g = true := by
  simp [cancelCurrent, current, contextDone, onGroup, known, Group.done]

/-- A worker joins, which ends no context. -/
theorem contextDone_join (m : Manager) (j : Nat) : m.join.contextDone j = m.contextDone j := by
  unfold join
  split
  · next g _ =>
    simp only [contextDone, onGroup, List.getElem?_modify]
    cases m.groups[j]? with
    | none => rfl
    | some k =>
      by_cases own : g = j
      · simp [own, Group.done]
      · simp [own]
  · rfl

end HeadUnit.Lifecycle.Manager
