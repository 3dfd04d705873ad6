import HeadUnit.Proofs.Lifecycle.Run

/-!
# How a shutdown ends

A shutdown cancels the current group and waits for its workers. While it waits, time passes from
one instant to the next (`Instant`): a worker of some group may return, and then every call
returns that need not wait any more. That goes on until the shutdown itself returns
(`Manager.await`).

It returns without a fault if all workers of its group do before the deadline, and with one if
some do not even at the deadline. If the last ones return just then, or if there is nothing to wait
for and no time to wait, either may happen (`Instant.late`). The phase in the end is another
matter: a worker that fails while the shutdown waits crashes the manager, and then it stays
crashed, even if all workers return in time. Other calls that wait may do the same.

* `settleUntil_eq`: what happens at an instant;
* `await_eq`: what happens until the shutdown returns;
* `shutdown_outcome`: the fault and the phase.
-/

namespace HeadUnit

/-! ## The last phases of a group -/

/-- The phases that a manager may be in while a shutdown waits and nothing else is asked for. -/
def Phase.IsLast (p : Phase) : Prop := p = stopping ∨ p = stopped ∨ p = crashed

namespace Phase.IsLast

variable {p target : Phase}

theorem change (last : p.IsLast) (ended : target = stopped ∨ target = crashed) :
    (if p.canMove target then target else p).IsLast := by
  split
  · exact .inr ended
  · exact last

/-- The first call that returns settles the phase. -/
theorem settles (last : p.IsLast) (ended : target = stopped ∨ target = crashed) :
    (if p.canMove target then target else p) = stopped ∨
      (if p.canMove target then target else p) = crashed := by
  rcases last with rfl | rfl | rfl <;> rcases ended with rfl | rfl <;> decide

theorem crashed_iff (last : p.IsLast) (ended : target = stopped ∨ target = crashed)
    (alive : p ≠ stopped) :
    (if p.canMove target then target else p) = crashed ↔ p = crashed ∨ target = crashed := by
  rcases last with rfl | rfl | rfl
  · rcases ended with rfl | rfl <;> decide
  · exact absurd rfl alive
  · rcases ended with rfl | rfl <;> decide

end Phase.IsLast

namespace Lifecycle

/-! ## Time passes -/

/-- A worker returns. -/
structure Return where
  group : Nat
  name : String
  fault : Option Fault

/-- Whether the worker failed. -/
def Return.isFailure (r : Return) : Bool := r.fault.any (!·.isCanceled)

/-- An instant, at which a worker may return. -/
structure Instant where
  time : Int
  returned : Option Return
  /-- A call whose time is up notices this first, even if its workers have returned. -/
  late : Bool := true

namespace Instant

/-- Whether a worker of a group returns. -/
def isOf (i : Instant) (g : Nat) : Bool := i.returned.any (·.group == g)

/-- Whether a worker fails. -/
def isFailure (i : Instant) : Bool := i.returned.any (·.isFailure)

end Instant

/-- How many workers of a group return before a time. -/
def returnsBefore (g : Nat) (time : Int) (is : List Instant) : Nat :=
  is.countP fun i => i.isOf g && i.time < time

section

variable {g : Nat} {time : Int} {i : Instant} {is : List Instant}

theorem returnsBefore_cons (g : Nat) (time : Int) (i : Instant) (is : List Instant) :
    returnsBefore g time (i :: is) =
      returnsBefore g time is + if i.isOf g ∧ i.time < time then 1 else 0 := by
  simp [returnsBefore, List.countP_cons]

/-- If a worker returns before a time, this time is not over at the first instant. -/
theorem time_lt_of_returnsBefore (sorted : (i :: is).Pairwise (·.time ≤ ·.time))
    (present : 0 < returnsBefore g time (i :: is)) : i.time < time := by
  obtain ⟨j, mem, early⟩ := List.countP_pos_iff.1 present
  simp only [Bool.and_eq_true, decide_eq_true_eq] at early
  rcases List.mem_cons.1 mem with rfl | mem
  · exact early.2
  · exact Int.lt_of_le_of_lt ((List.pairwise_cons.1 sorted).1 j mem) early.2

/-- Before a time that has come, nobody returns any more. -/
theorem returnsBefore_eq_zero (come : ∀ i ∈ is, time ≤ i.time) : returnsBefore g time is = 0 :=
  List.countP_eq_zero.2 fun i mem => by simp [Int.not_lt.2 (come i mem)]

/-- If no worker returns at a time, as many do before it as until then. -/
theorem returnsBefore_succ (untied : ∀ i ∈ is, i.isOf g = true → i.time ≠ time) :
    returnsBefore g (time + 1) is = returnsBefore g time is := by
  refine List.countP_congr fun i mem => ?_
  simp only [Bool.and_eq_true, decide_eq_true_eq]
  refine and_congr_right fun own => ?_
  have apart := untied i mem own
  omega

end

/-- Time passes from `now` on, and does not pass over the deadline. -/
structure Passes (now deadline : Int) (is : List Instant) : Prop where
  later : ∀ i ∈ is, now ≤ i.time
  sorted : is.Pairwise (·.time ≤ ·.time)
  arrives : ∃ i ∈ is, i.time = deadline

/-- What is left when a call has returned. -/
structure Outcome where
  fault : Option Fault
  manager : Manager
  /-- The instants still to come. -/
  rest : List Instant

namespace Manager

/-- A worker returns, or none. -/
def receive (m : Manager) : Option Return → Manager
  | none => m
  | some r => m.workerDone r.group r.name r.fault

/-- Calls that need not wait any more return, up to the given one; the result is the fault that
    it returns. -/
def settleUntil (call : Nat) (now : Int) (late : Bool) :
    Nat → Manager → Manager × Option (Option Fault)
  | 0, m => (m, none)
  | rounds + 1, m =>
    match m.settleWait now late with
    | none => (m, none)
    | some (c, fault, m) =>
      if c = call then (m, some fault) else settleUntil call now late rounds m

/-- Time passes until a call returns. -/
def await (call : Nat) (m : Manager) : List Instant → Option Outcome
  | [] => none
  | i :: is =>
    match settleUntil call i.time i.late m.waits.length (m.receive i.returned) with
    | (m, some fault) => some ⟨fault, m, is⟩
    | (m, none) => m.await call is

/-! ## Workers return -/

/-- A worker of some group is not counted any more. -/
theorem live_leave {m : Manager} {g n : Nat} (live : m.live g = some n) {k : Nat}
    {f : Group → Group} (leaves : ∀ a, (f a).live = a.live - 1) :
    (m.onGroup k f).live g = some (if k = g then n - 1 else n) := by
  obtain ⟨a, there, rfl⟩ := Option.map_eq_some_iff.1 live
  simp only [Manager.live, onGroup, List.getElem?_modify, there]
  split <;> simp [leaves]

theorem live_receive {m : Manager} {g n : Nat} (live : m.live g = some n) (i : Instant) :
    (m.receive i.returned).live g = some (n - if i.isOf g then 1 else 0) := by
  obtain ⟨time, _ | ⟨k, name, fault⟩, late⟩ := i
  · exact live
  · have counted : n - (if Instant.isOf ⟨time, some ⟨k, name, fault⟩, late⟩ g then 1 else 0) =
        if k = g then n - 1 else n := by
      by_cases own : k = g <;> simp [Instant.isOf, own]
    rw [counted]
    simp only [receive]
    cases failed : fault.filter (fun f => !f.isCanceled) with
    | none =>
      rw [workerDone_of_fine failed]
      exact live_leave live fun _ => rfl
    | some f =>
      obtain ⟨note, eq⟩ := workerDone_of_failed failed m k name
      rw [eq]
      refine live_leave ?_ fun _ => rfl
      rw [Manager.live, groups_tryMove]
      exact live

theorem waits_receive (m : Manager) (r : Option Return) : (m.receive r).waits = m.waits := by
  obtain _ | ⟨k, name, fault⟩ := r
  · rfl
  · cases failed : fault.filter (fun f => !f.isCanceled) with
    | none => simp only [receive, workerDone_of_fine failed, onGroup]
    | some f =>
      obtain ⟨note, eq⟩ := workerDone_of_failed failed m k name
      simp only [receive, eq, onGroup, waits_tryMove]
      rfl

theorem phase_receive (m : Manager) (i : Instant) : (m.receive i.returned).phase =
    if i.isFailure ∧ m.phase.canMove .crashed then .crashed else m.phase := by
  obtain ⟨time, _ | ⟨k, name, fault⟩, late⟩ := i
  · simp [Instant.isFailure, receive]
  · cases failed : fault.filter (fun f => !f.isCanceled) with
    | none =>
      have fine : fault.any (!·.isCanceled) = false := by
        cases fault <;> simp_all
      simp [Instant.isFailure, Return.isFailure, receive, workerDone_of_fine failed, onGroup, fine]
    | some f =>
      obtain ⟨note, eq⟩ := workerDone_of_failed failed m k name
      obtain ⟨rfl, isFault⟩ := Option.filter_eq_some_iff.1 failed
      simp only [receive, eq, onGroup, phase_tryMove, Instant.isFailure, Return.isFailure,
        Option.any_some, isFault, true_and]
      rfl

/-! ## Calls return -/

/-- No call needs to go on. -/
theorem settleWait_eq_none {m : Manager} {now : Int} {late : Bool}
    (settled : m.settleWait now late = none) :
    ∀ w ∈ m.waits, w.isOverdue now = false ∧ m.isReady w = false := by
  unfold settleWait at settled
  split at settled
  · next none =>
    intro w mem
    simpa using List.find?_eq_none.1 none w mem
  · split at settled <;> cases settled

theorem isReady_eq {m : Manager} {w : Wait} {g n : Nat} (group : w.group = some g)
    (live : m.live g = some n) : m.isReady w = (n == 0) := by
  obtain ⟨a, there, rfl⟩ := Option.map_eq_some_iff.1 live
  simp [isReady, group, there]

/-- A call waits for the `n` workers of a group, and others have waited for longer. -/
structure Awaits (m : Manager) (others : List Wait) (w : Wait) (n : Nat) : Prop where
  waits : m.waits = others ++ [w]
  fresh : ∀ v ∈ others, v.call ≠ w.call
  live : ∃ g, w.group = some g ∧ m.live g = some n
  phase : m.phase.IsLast

namespace Awaits

variable {m : Manager} {others : List Wait} {w : Wait} {n : Nat}

/-- Another call returns first. -/
theorem other (awaits : m.Awaits others w n) {v : Wait} (apart : v.call ≠ w.call) {m' : Manager}
    (ended : m' = m.finish v ∨ m' = m.expire v) :
    m'.Awaits (others.filter (·.call != v.call)) w n where
  waits := by
    have waits : m'.waits = m.waits.filter (·.call != v.call) := by
      rcases ended with rfl | rfl <;> simp
    rw [waits, awaits.waits, List.filter_append,
      List.filter_cons_of_pos (by simpa using apart.symm), List.filter_nil]
  fresh u mem := awaits.fresh u (List.mem_filter.1 mem).1
  live := by
    obtain ⟨g, group, live⟩ := awaits.live
    have groups : m'.groups = m.groups := by rcases ended with rfl | rfl <;> simp
    exact ⟨g, group, by rw [Manager.live, groups]; exact live⟩
  phase := by
    rcases ended with rfl | rfl
    · rw [phase_finish]
      cases v.purpose with
      | abort reason => exact awaits.phase.change (.inr rfl)
      | shutdown timeout deadline => exact awaits.phase.change (.inl rfl)
    · rw [phase_expire]
      cases v.purpose with
      | abort reason => exact awaits.phase
      | shutdown timeout deadline => exact awaits.phase.change (.inr rfl)

theorem receive (awaits : m.Awaits others w n) {g : Nat} (group : w.group = some g) (i : Instant) :
    (m.receive i.returned).Awaits others w (n - if i.isOf g then 1 else 0) where
  waits := (waits_receive m i.returned).trans awaits.waits
  fresh := awaits.fresh
  live := by
    obtain ⟨k, own, live⟩ := awaits.live
    obtain rfl : g = k := Option.some.inj (group.symm.trans own)
    exact ⟨g, group, live_receive live i⟩
  phase := by
    rw [phase_receive]
    split
    · exact .inr (.inr rfl)
    · exact awaits.phase

end Awaits

/-- At an instant the call returns if its time is up or its group is empty, after others that
    have waited for longer. -/
theorem settleUntil_eq {m : Manager} {others : List Wait} {w : Wait} {n : Nat}
    (awaits : m.Awaits others w n) {rounds : Nat} (enough : others.length < rounds) (now : Int)
    (late : Bool) :
    ∃ m' others', m'.Awaits others' w n ∧ (others = [] → others' = [] ∧ m' = m) ∧
      settleUntil w.call now late rounds m =
        if w.isOverdue now = true ∧ (late = true ∨ n ≠ 0) then
          (m'.expire w, some (some .workersOverdue))
        else if n = 0 then (m'.finish w, some none)
        else (m', none) := by
  induction rounds generalizing m others with
  | zero => exact absurd enough (Nat.not_lt_zero _)
  | succ rounds ih =>
    obtain ⟨g, group, live⟩ := awaits.live
    have ready : m.isReady w = (n == 0) := isReady_eq group live
    rw [settleUntil]
    cases settles : m.settleWait now late with
    | none =>
      obtain ⟨early, busy⟩ := settleWait_eq_none settles w (by simp [awaits.waits])
      rw [ready] at busy
      refine ⟨m, others, awaits, fun alone => ⟨alone, rfl⟩, ?_⟩
      simp_all
    | some result =>
      obtain ⟨call, fault, m₁⟩ := result
      obtain ⟨v, mem, rfl, ended, outcome⟩ := settleWait_eq settles
      rw [awaits.waits] at mem
      by_cases own : v.call = w.call
      · obtain rfl : v = w := by
          rcases List.mem_append.1 mem with old | last
          · exact absurd own (awaits.fresh v old)
          · exact List.mem_singleton.1 last
        refine ⟨m, others, awaits, fun alone => ⟨alone, rfl⟩, ?_⟩
        rcases outcome with ⟨overdue, first, rfl, rfl⟩ | ⟨able, first, rfl, rfl⟩
        · have noticed : late = true ∨ n ≠ 0 := first.imp_right fun busy => by simp_all
          simp [overdue, noticed]
        · rw [ready, beq_iff_eq] at able
          rcases first with first | first <;> simp [able, first]
      · have old : v ∈ others := by
          rcases List.mem_append.1 mem with old | last
          · exact old
          · exact absurd (congrArg Wait.call (List.mem_singleton.1 last)) own
        have fewer : (others.filter (·.call != v.call)).length < others.length :=
          List.length_filter_lt_length_iff_exists.2 ⟨v, old, by simp⟩
        obtain ⟨m', others', later, -, eq⟩ := ih (awaits.other own ended) (by omega)
        refine ⟨m', others', later, fun alone => ?_, ?_⟩
        · rw [alone] at old
          exact absurd old List.not_mem_nil
        · rw [← eq]
          simp [own]

/-! ## Until the call returns -/

/-- How the wait for a group ends: without a fault if it may end `early`, and only if it ends
    `justInTime`. Alone, i.e., where no other call waits, the phase tells whether a worker
    failed. -/
structure Ends (early justInTime failed alone : Prop) (o : Outcome) : Prop where
  fault : o.fault = none ∧ justInTime ∨ o.fault = some .workersOverdue ∧ ¬early
  phase : o.manager.phase = .stopped ∨ o.manager.phase = .crashed
  crashed : alone → (o.manager.phase = .crashed ↔ o.fault ≠ none ∨ failed)

theorem Ends.mono {early early' inTime inTime' failed failed' alone alone' : Prop} {o : Outcome}
    (ends : Ends early inTime failed alone o) (less : early' → early) (more : inTime → inTime')
    (fails : alone' → (failed' ↔ failed)) (only : alone' → alone) :
    Ends early' inTime' failed' alone' o where
  fault := ends.fault.imp (fun ⟨e, timely⟩ => ⟨e, more timely⟩) fun ⟨e, late⟩ => ⟨e, mt less late⟩
  phase := ends.phase
  crashed isAlone := by rw [fails isAlone]; exact ends.crashed (only isAlone)

section

variable {m : Manager} {others : List Wait} {w : Wait} {n : Nat} {timeout : Duration}
  {deadline : Int}

theorem Awaits.ends_expire (awaits : m.Awaits others w n)
    (purpose : w.purpose = .shutdown timeout deadline) {early : Prop} (late : ¬early)
    (inTime failed : Prop) (rest : List Instant) :
    Ends early inTime failed (m.phase ≠ .stopped) ⟨some .workersOverdue, m.expire w, rest⟩ := by
  have phase : (m.expire w).phase = if m.phase.canMove .crashed then .crashed else m.phase := by
    rw [phase_expire, purpose]
  refine ⟨.inr ⟨rfl, late⟩, ?_, fun alone => ?_⟩
  · rw [phase]
    exact awaits.phase.settles (.inr rfl)
  · rw [phase, awaits.phase.crashed_iff (.inr rfl) alone]
    simp

theorem Awaits.ends_finish (awaits : m.Awaits others w n)
    (purpose : w.purpose = .shutdown timeout deadline) (early : Prop) {inTime : Prop}
    (timely : inTime) (rest : List Instant) :
    Ends early inTime (m.phase = .crashed) (m.phase ≠ .stopped) ⟨none, m.finish w, rest⟩ := by
  have phase : (m.finish w).phase = if m.phase.canMove .stopped then .stopped else m.phase := by
    rw [phase_finish, purpose]
  refine ⟨.inl ⟨rfl, timely⟩, ?_, fun alone => ?_⟩
  · rw [phase]
    exact awaits.phase.settles (.inl rfl)
  · rw [phase, awaits.phase.crashed_iff (.inl rfl) alone]
    simp

/-- A worker that fails while a call waits crashes the manager, unless it has stopped. -/
theorem Awaits.crashed_receive (awaits : m.Awaits others w n) (alone : m.phase ≠ .stopped)
    (i : Instant) : (m.receive i.returned).phase ≠ .stopped ∧
      ((m.receive i.returned).phase = .crashed ↔ m.phase = .crashed ∨ i.isFailure = true) := by
  rw [phase_receive]
  cases fails : i.isFailure with
  | true =>
    have crashed := (awaits.phase.crashed_iff (.inr rfl) alone).2 (.inr rfl)
    simp [crashed]
  | false => simpa using alone

variable {g : Nat} {i : Instant} {is : List Instant}

/-- At the next instant the call returns, or it still waits for some workers before its
    deadline. -/
theorem Awaits.await_cons (awaits : m.Awaits others w n) (group : w.group = some g)
    (purpose : w.purpose = .shutdown timeout deadline) (arrives : i.time ≤ deadline) :
    (∃ o, o.rest = is ∧ m.await w.call (i :: is) = some o ∧
      Ends (i.time < deadline ∧ n ≤ returnsBefore g deadline (i :: is))
        (n ≤ returnsBefore g (deadline + 1) (i :: is))
        (m.phase = .crashed ∨ i.isFailure = true) (others = [] ∧ m.phase ≠ .stopped) o) ∨
    i.time < deadline ∧ ∃ m' others' n', 0 < n' ∧ n = n' + (if i.isOf g then 1 else 0) ∧
      m'.Awaits others' w n' ∧ (others = [] → others' = [] ∧ m' = m.receive i.returned) ∧
      m.await w.call (i :: is) = m'.await w.call is := by
  have rounds : others.length < m.waits.length := by simp [awaits.waits]
  obtain ⟨m', others', later, same, eq⟩ :=
    settleUntil_eq (awaits.receive group i) rounds i.time i.late
  have overdue : w.isOverdue i.time = true ↔ deadline ≤ i.time := by
    rw [Wait.isOverdue, purpose, decide_eq_true_eq]
  have phases (alone : others = [] ∧ m.phase ≠ .stopped) : m'.phase ≠ .stopped ∧
      (m'.phase = .crashed ↔ m.phase = .crashed ∨ i.isFailure = true) := by
    rw [(same alone.1).2]
    exact awaits.crashed_receive alone.2 i
  have counted := returnsBefore_cons g (deadline + 1) i is
  have counts : i.time < deadline + 1 := by omega
  simp only [counts, and_true] at counted
  rw [await, eq]
  by_cases late : w.isOverdue i.time = true ∧ (i.late = true ∨ n - (if i.isOf g then 1 else 0) ≠ 0)
  · refine .inl ⟨⟨some .workersOverdue, m'.expire w, is⟩, rfl, by rw [if_pos late], ?_⟩
    exact (later.ends_expire purpose (fun early => Int.not_le.2 early.1 (overdue.1 late.1)) _ _
      is).mono id id
      (fun _ => Iff.rfl) fun alone => (phases alone).1
  · by_cases empty : n - (if i.isOf g then 1 else 0) = 0
    · refine .inl ⟨⟨none, m'.finish w, is⟩, rfl, by rw [if_neg late, if_pos empty], ?_⟩
      exact (later.ends_finish purpose _ (by omega) is).mono id id
        (fun alone => (phases alone).2.symm) fun alone => (phases alone).1
    · refine .inr ⟨?_, m', others', _, Nat.pos_of_ne_zero empty, by omega, later, same, ?_⟩
      · exact Int.lt_of_not_ge fun come => late ⟨overdue.2 come, .inr empty⟩
      · rw [if_neg late, if_neg empty]

end

/-- A call that waits for a group returns, with a fault or without one. -/
theorem await_eq {m : Manager} {others : List Wait} {w : Wait} {n : Nat} {timeout : Duration}
    {deadline : Int} {g : Nat} (awaits : m.Awaits others w n) (group : w.group = some g)
    (purpose : w.purpose = .shutdown timeout deadline) {i : Instant} {is : List Instant}
    (sorted : (i :: is).Pairwise (·.time ≤ ·.time)) (passes : ∃ j ∈ i :: is, j.time = deadline) :
    ∃ o done, i :: is = done ++ o.rest ∧ m.await w.call (i :: is) = some o ∧
      Ends (i.time < deadline ∧ n ≤ returnsBefore g deadline (i :: is))
        (n ≤ returnsBefore g (deadline + 1) (i :: is))
        (m.phase = .crashed ∨ ∃ j ∈ done, j.isFailure = true)
        (others = [] ∧ m.phase ≠ .stopped) o := by
  have arrives : i.time ≤ deadline := by
    obtain ⟨j, mem, rfl⟩ := passes
    rcases List.mem_cons.1 mem with rfl | mem
    · exact Int.le_refl _
    · exact (List.pairwise_cons.1 sorted).1 j mem
  induction is generalizing m others n i with
  | nil =>
    rcases awaits.await_cons group purpose arrives with ⟨o, rest, eq, ends⟩ | ⟨early, -⟩
    · exact ⟨o, [i], by rw [rest, List.append_nil], eq, by simpa using ends⟩
    · obtain ⟨j, mem, e⟩ := passes
      obtain rfl := List.mem_singleton.1 mem
      omega
  | cons j js ih =>
    rcases awaits.await_cons group purpose arrives with ⟨o, rest, eq, ends⟩ |
      ⟨early, m', others', n', busy, counts, awaits', same, eq⟩
    · exact ⟨o, [i], by rw [rest]; rfl, eq, by simpa using ends⟩
    · obtain ⟨-, sorted'⟩ := List.pairwise_cons.1 sorted
      obtain ⟨k, later, e⟩ : ∃ k ∈ j :: js, k.time = deadline := by
        obtain ⟨k, mem, e⟩ := passes
        rcases List.mem_cons.1 mem with rfl | mem
        · omega
        · exact ⟨k, mem, e⟩
      have arrives' : j.time ≤ deadline := by
        rcases List.mem_cons.1 later with rfl | mem
        · exact Int.le_of_eq e
        · exact e ▸ (List.pairwise_cons.1 sorted').1 k mem
      obtain ⟨o, done, split, eq', ends⟩ := ih awaits' sorted' ⟨k, later, e⟩ arrives'
      have before := returnsBefore_cons g deadline i (j :: js)
      have until' := returnsBefore_cons g (deadline + 1) i (j :: js)
      have counted : i.time < deadline + 1 := by omega
      simp only [early, counted, and_true] at before until'
      refine ⟨o, i :: done, by rw [split]; rfl, eq.trans eq', ends.mono ?_ ?_ ?_ ?_⟩
      · rintro ⟨-, enough⟩
        have present : 0 < returnsBefore g deadline (j :: js) := by omega
        exact ⟨time_lt_of_returnsBefore sorted' present, by omega⟩
      · intro enough
        omega
      · intro alone
        rw [(same alone.1).2, (awaits.crashed_receive alone.2 i).2]
        simp [or_assoc]
      · intro alone
        obtain ⟨only, eq⟩ := same alone.1
        exact ⟨only, eq ▸ (awaits.crashed_receive alone.2 i).1⟩

end Manager

/-! ## Main result -/

/-- Where the table allows no shutdown, it is refused. -/
theorem shutdown_refused {m : Manager} (unable : ¬(m.phase = .running ∨ m.phase = .crashed))
    (call : Nat) (timeout : Duration) (now : Int) :
    m.shutdown call timeout now = .error (.invalidTransition m.phase .stopping) := by
  have refused : m.phase.canMove .stopping = false := by
    cases e : m.phase with
    | running => exact absurd (.inl e) unable
    | crashed => exact absurd (.inr e) unable
    | stopped | starting | stopping | unknown => rfl
  simp [Manager.shutdown, Manager.move, refused, Except.map]

/-- A shutdown that is accepted waits for the workers of the current group. -/
theorem awaits_of_shutdown {m : Manager} (able : m.phase = .running ∨ m.phase = .crashed)
    (call : Nat) (timeout : Duration) (now : Int) :
    ∃ m', m.shutdown call timeout now = .ok m' ∧ m'.phase = .stopping ∧
      ∀ g n, m.current = some g → m.live g = some n → (∀ w ∈ m.waits, w.call ≠ call) →
        m'.Awaits m.waits ⟨call, some g, .shutdown timeout (now + max timeout.toInt 0)⟩ n := by
  have allowed : m.phase.canMove .stopping = true := by
    rcases able with e | e <;> rw [e] <;> rfl
  cases accepted : m.shutdown call timeout now with
  | error f => simp [Manager.shutdown, Manager.move, allowed, Except.map] at accepted
  | ok m' =>
    obtain ⟨note, -, rfl⟩ := Manager.shutdown_eq accepted
    refine ⟨_, rfl, rfl, fun g n current live fresh => ⟨?_, fresh, ⟨g, rfl, ?_⟩, .inl rfl⟩⟩
    · rw [current]
    · exact (m.live_cancelCurrent g).trans live

/-- How a shutdown ends. Where the table allows none, it is refused and changes nothing. Else it
    returns. It does so without a fault if all workers of the current group return before the
    deadline, and only if they do so until then; so it is exactly if they do so before, provided
    that none returns just then and that there is something to wait for, or time to wait. In the end
    the manager has stopped or crashed; if no other call waits, it has crashed exactly if the
    shutdown returns a fault or any worker fails meanwhile. -/
theorem shutdown_outcome (m : Manager) (call : Nat) (timeout : Duration) (now : Int) :
    (¬(m.phase = .running ∨ m.phase = .crashed) →
      m.shutdown call timeout now = .error (.invalidTransition m.phase .stopping) ∧
      m.step (.shutdown call timeout now) = m) ∧
    (m.phase = .running ∨ m.phase = .crashed →
      ∃ m', m.shutdown call timeout now = .ok m' ∧
      ∀ g n, m.current = some g → m.live g = some n → (∀ w ∈ m.waits, w.call ≠ call) →
      ∀ late is, Passes now (now + max timeout.toInt 0) is →
      ∃ o done, ⟨now, none, late⟩ :: is = done ++ o.rest ∧
        m'.await call (⟨now, none, late⟩ :: is) = some o ∧
        let deadline := now + max timeout.toInt 0
        let inTime := 0 < timeout.toInt ∧ n ≤ returnsBefore g deadline is
        (o.fault = none ∨ o.fault = some .workersOverdue) ∧
        (inTime → o.fault = none) ∧ (o.fault = none → n ≤ returnsBefore g (deadline + 1) is) ∧
        ((∀ i ∈ is, i.isOf g = true → i.time ≠ deadline) → 0 < timeout.toInt ∨ 0 < n →
          (o.fault = none ↔ inTime) ∧ (o.fault = some .workersOverdue ↔ ¬inTime)) ∧
        (o.manager.phase = .stopped ∨ o.manager.phase = .crashed) ∧
        (m.waits = [] →
          (o.manager.phase = .crashed ↔ o.fault ≠ none ∨ ∃ i ∈ done, i.isFailure = true))) := by
  refine ⟨fun unable => ?_, fun able => ?_⟩
  · have refused := shutdown_refused unable call timeout now
    refine ⟨refused, ?_⟩
    rw [Manager.step, refused]
    rfl
  · obtain ⟨m', accepted, stopping, waiting⟩ := awaits_of_shutdown able call timeout now
    refine ⟨m', accepted, fun g n current live fresh late is passes => ?_⟩
    have sorted : (⟨now, none, late⟩ :: is : List Instant).Pairwise (·.time ≤ ·.time) :=
      List.pairwise_cons.2 ⟨passes.later, passes.sorted⟩
    obtain ⟨i, mem, e⟩ := passes.arrives
    obtain ⟨o, done, split, eq, ends⟩ :=
      Manager.await_eq (waiting g n current live fresh) rfl rfl sorted
        ⟨i, List.mem_cons_of_mem _ mem, e⟩
    -- Nobody returns at the first instant, when the shutdown may return at once.
    have counted (time : Int) : returnsBefore g time (⟨now, none, late⟩ :: is) =
        returnsBefore g time is := by simp [returnsBefore_cons, Instant.isOf]
    rw [counted, counted] at ends
    obtain ⟨fault, phase, crashed⟩ := ends
    have early (timely : 0 < timeout.toInt ∧ n ≤ returnsBefore g (now + max timeout.toInt 0) is) :
        o.fault = none := by
      rcases fault with ⟨ok, -⟩ | ⟨-, never⟩
      · exact ok
      · exact absurd ⟨by dsimp only; omega, timely.2⟩ never
    have justInTime (ok : o.fault = none) :
        n ≤ returnsBefore g (now + max timeout.toInt 0 + 1) is := by
      rcases fault with ⟨-, timely⟩ | ⟨failed, -⟩
      · exact timely
      · rw [ok] at failed
        cases failed
    have either : o.fault = none ∨ o.fault = some .workersOverdue :=
      fault.imp And.left And.left
    refine ⟨o, done, split, eq, either, early, justInTime, fun untied waits => ?_, phase,
      fun alone => ?_⟩
    · have timely (ok : o.fault = none) :
          0 < timeout.toInt ∧ n ≤ returnsBefore g (now + max timeout.toInt 0) is := by
        have enough := justInTime ok
        rw [returnsBefore_succ untied] at enough
        refine ⟨Int.lt_of_not_ge fun never => ?_, enough⟩
        -- Without time to wait, no worker returns before the deadline.
        have none' : returnsBefore g (now + max timeout.toInt 0) is = 0 :=
          returnsBefore_eq_zero fun i mem => by
            have later := passes.later i mem
            omega
        omega
      refine ⟨⟨timely, early⟩, fun failed inTime => ?_, fun late => either.resolve_left ?_⟩
      · rw [early inTime] at failed
        cases failed
      · exact fun ok => late (timely ok)
    · simpa [stopping] using crashed ⟨alone, by simp [stopping]⟩

namespace Sample

/-- A service runs with two workers, and nobody waits. -/
def running : Manager :=
  (played [] {} [.start false "up", .join, .join, .transition .running "up"]).2

/-- One worker fails, the other one returns with its context, and then the deadline comes. -/
def instants : List Instant :=
  [⟨3, some ⟨0, "a", some (.told "boom")⟩, true⟩, ⟨5, some ⟨0, "b", some .canceled⟩, true⟩,
    ⟨10, none, true⟩]

theorem passes : Passes 0 10 instants := ⟨by decide, by decide, by decide⟩

end Sample

/-- Two workers return in time, and so does the shutdown. -/
theorem shutdown_outcome_of_sample :
    Sample.running.phase = .running ∧ Sample.running.waits = [] ∧
      ∃ m' o, Sample.running.shutdown 1 10 0 = .ok m' ∧
        m'.await 1 (⟨0, none, true⟩ :: Sample.instants) = some o ∧ o.fault = none := by
  refine ⟨rfl, rfl, ?_⟩
  obtain ⟨m', accepted, returns⟩ := (shutdown_outcome Sample.running 1 10 0).2 (.inl rfl)
  obtain ⟨o, done, -, eq, -, -, -, untied, -⟩ :=
    returns 0 2 rfl rfl (by decide) true Sample.instants Sample.passes
  exact ⟨m', o, accepted, eq, (untied (by decide) (by decide)).1.2 (by decide)⟩

/-- All workers return in time and the shutdown returns without a fault, but the manager has
    crashed. -/
theorem crashed_without_fault : ∃ m' o, Sample.running.shutdown 1 10 0 = .ok m' ∧
    m'.await 1 (⟨0, none, true⟩ :: Sample.instants) = some o ∧
    2 ≤ returnsBefore 0 10 Sample.instants ∧ o.fault = none ∧ o.manager.phase = .crashed :=
  ⟨_, _, rfl, rfl, by decide, rfl, rfl⟩

end Lifecycle

end HeadUnit
