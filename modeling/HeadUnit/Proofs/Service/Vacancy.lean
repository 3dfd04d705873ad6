import HeadUnit.Proofs.Service.Order

/-!
# The workers of earlier runs have stopped

A stop that does not time out returns only once both workers of its run have returned. So while
a run is published, the desks of all earlier runs have stopped, and while nothing is under way
and no run is published, all desks have (`IsRun.stopped_of_over`).

What is counted in the groups of the manager are the workers that have not been reported
(`Manned`), whether or not stops time out; that whoever is not waited for has stopped (`Vacant`)
holds as long as none does (`Moment.timesOut`).
-/

namespace HeadUnit.Service

open HeadUnit.Service.System

/-! ## Workers and groups -/

/-- How many workers of a run were not reported. -/
def Run.unreported (r : Run) : Nat :=
  (if r.busReported then 0 else 1) + if r.deskReported then 0 else 1

namespace Scene

/-- Every run has a group of its own, in which its workers are counted until they are reported. -/
structure Manned (x : Scene) : Prop where
  counted : ∀ {i : Nat} {r : Run}, x.runs[i]? = some r →
    ∃ g n, r.group = some g ∧ x.manager.live g = some n ∧ r.unreported ≤ n
  apart : ∀ {i j : Nat} {r r' : Run}, x.runs[i]? = some r → x.runs[j]? = some r' →
    r.group = r'.group → i = j
  reported : ∀ {i : Nat} {r : Run}, x.runs[i]? = some r → r.deskReported = true →
    r.desk.worker = .stopped

/-- A start that has not made a run yet has a group without workers. -/
structure Cleared (x : Scene) : Prop where
  empty : ∀ {id : Nat} {w : Work}, x.tasks = [⟨id, none, w⟩] → w.isEarly = true →
    ∃ g, x.manager.current = some g ∧ x.manager.live g = some 0 ∧
      ∀ {i : Nat} {r : Run}, x.runs[i]? = some r → r.group ≠ some g

/-- A worker is counted no more in its group. -/
theorem live_reap {x : Scene} {group : Option Nat} {g : Nat} (own : group = some g) (i : Nat)
    (f : Run → Run) (k : Nat) : (x.reap i group f).manager.live k =
      if g = k then (x.manager.live k).map (· - 1) else x.manager.live k := by
  simp only [Scene.reap, own, Lifecycle.Manager.live, Lifecycle.Manager.onGroup,
    List.getElem?_modify]
  split
  · simp [Option.map_map, Function.comp_def]
  · simp

namespace Manned

variable {x y : Scene}

/-- Whatever leaves the runs and the counts alone. -/
theorem of_hold (manned : x.Manned) (hold : Run.Hold x.runs y.runs)
    (live : ∀ {g n : Nat}, x.manager.live g = some n → y.manager.live g = some n) :
    y.Manned where
  counted there := by
    obtain ⟨r, here, holds⟩ := hold.back there
    obtain ⟨g, n, group, count, le⟩ := manned.counted here
    refine ⟨g, n, holds.group.trans group, live count, ?_⟩
    rwa [Run.unreported, holds.busReported, holds.deskReported]
  apart there there' same := by
    obtain ⟨r, here, holds⟩ := hold.back there
    obtain ⟨r', here', holds'⟩ := hold.back there'
    exact manned.apart here here' (holds.group.symm.trans (same.trans holds'.group))
  reported there told := by
    obtain ⟨r, here, holds⟩ := hold.back there
    exact holds.stopped (manned.reported here (holds.deskReported.symm.trans told))

/-- A group begins, which has no run yet. -/
theorem begin (manned : x.Manned) (parentDone : Bool) : (x.begin parentDone).Manned := by
  refine manned.of_hold (.refl _) fun {g n} count => ?_
  simp only [Lifecycle.Manager.live, Option.map_eq_some_iff] at count ⊢
  obtain ⟨group, there, rfl⟩ := count
  refine ⟨group, ?_, rfl⟩
  exact (List.getElem?_append_left (List.getElem?_eq_some_iff.1 there).1).trans there

/-- A run of a group without workers is made. -/
theorem build (manned : x.Manned) {id : Nat} {r : Run} {g : Nat}
    (current : x.manager.current = some g) (empty : x.manager.live g = some 0)
    (group : r.group = some g)
    (new : ∀ {i : Nat} {r' : Run}, x.runs[i]? = some r' → r'.group ≠ some g)
    (first : r.deskReported = false) : (x.build id r).Manned := by
  have joined (k : Nat) : (x.build id r).manager.live k =
      if g = k then (x.manager.live k).map (· + 2) else x.manager.live k := by
    have current' : x.manager.join.current = some g :=
      (congrArg Lifecycle.Manager.current (Lifecycle.Manager.join_eq _)).trans current
    rw [Scene.build, turnTo, Lifecycle.Manager.live_join current',
      Lifecycle.Manager.live_join current]
    split
    · rw [Option.map_map]
      rfl
    · rfl
  -- Runs that were there before are of other groups, so nobody else is counted in this one.
  refine ⟨fun there => ?_, fun there there' same => ?_, fun there told => ?_⟩
  · rcases run_cases_build there with old | ⟨_, rfl⟩
    · obtain ⟨k, n, group', count, le⟩ := manned.counted old
      refine ⟨k, n, group', ?_, le⟩
      rw [joined, if_neg ?_, count]
      rintro rfl
      exact new old group'
    · refine ⟨g, 2, group, by rw [joined, if_pos rfl, empty]; rfl, ?_⟩
      rw [Run.unreported]
      split <;> split <;> decide
  · rcases run_cases_build there with old | ⟨rfl, rfl⟩ <;>
      rcases run_cases_build there' with old' | ⟨rfl, rfl⟩
    · exact manned.apart old old' same
    · exact absurd (same.trans group) (new old)
    · exact absurd (same.symm.trans group) (new old')
    · rfl
  · rcases run_cases_build there with old | ⟨_, rfl⟩
    · exact manned.reported old told
    · cases first.symm.trans told

/-- A worker that has returned is reported. -/
theorem reap (manned : x.Manned) {i : Nat} {r : Run} (here : x.runs[i]? = some r) {f : Run → Run}
    (group : (f r).group = r.group) (fewer : (f r).unreported + 1 = r.unreported)
    (stopped : (f r).deskReported = true → (f r).desk.worker = .stopped) :
    (x.reap i r.group f).Manned := by
  obtain ⟨g, n, own, count, le⟩ := manned.counted here
  -- One less is counted in its group, and one less is unreported.
  have left := live_reap (x := x) own i f
  have cases_of {j : Nat} {r' : Run} (there : (x.reap i r.group f).runs[j]? = some r') :
      j ≠ i ∧ x.runs[j]? = some r' ∨ j = i ∧ r' = f r := by
    obtain ⟨r₀, old, rfl⟩ := origin_modify there
    split
    · next same =>
      subst same
      cases here.symm.trans old
      exact .inr ⟨rfl, rfl⟩
    · next other => exact .inl ⟨Ne.symm other, old⟩
  refine ⟨fun there => ?_, fun there there' same => ?_, fun there told => ?_⟩
  · rcases cases_of there with ⟨other, old⟩ | ⟨_, rfl⟩
    · obtain ⟨k, n', group', count', le'⟩ := manned.counted old
      refine ⟨k, n', group', ?_, le'⟩
      rw [left, if_neg ?_, count']
      rintro rfl
      exact other (manned.apart old here (group'.trans own.symm))
    · refine ⟨g, n - 1, group.trans own, by rw [left, if_pos rfl, count]; rfl, ?_⟩
      omega
  · rcases cases_of there with ⟨other, old⟩ | ⟨rfl, rfl⟩ <;>
      rcases cases_of there' with ⟨other', old'⟩ | ⟨rfl, rfl⟩
    · exact manned.apart old old' same
    · exact manned.apart old here (same.trans group)
    · exact manned.apart here old' (group.symm.trans same)
    · rfl
  · rcases cases_of there with ⟨_, old⟩ | ⟨_, rfl⟩
    · exact manned.reported old told
    · exact stopped told

end Manned

/-! ## Who may be at work -/

/-- The group whose workers may be at work. -/
def watched (x : Scene) : Option Nat :=
  match x.manager.phase with
  | .running => x.manager.current
  | .starting => if x.busy then x.manager.current else none
  | .stopping => x.manager.waits.head?.bind (·.group)
  | _ => none

/-- All desks have stopped but that of the last run, and that one if its group is not watched. -/
structure Vacant (x : Scene) : Prop where
  earlier : ∀ {i : Nat} {r : Run}, x.runs[i]? = some r → i + 1 < x.runs.length →
    r.desk.worker = .stopped
  last : ∀ {i : Nat} {r : Run}, x.runs[i]? = some r → i + 1 = x.runs.length →
    r.desk.worker = .stopped ∨ r.group = x.watched

namespace Vacant

variable {x y : Scene}

/-- Whoever has stopped stays so, in its group. -/
theorem of_each (vacant : x.Vacant) (length : y.runs.length = x.runs.length)
    (each : ∀ {i : Nat} {r' : Run}, y.runs[i]? = some r' → ∃ r, x.runs[i]? = some r ∧
      r'.group = r.group ∧ (r.desk.worker = .stopped → r'.desk.worker = .stopped))
    (same : y.watched = x.watched) : y.Vacant where
  earlier there lt := by
    obtain ⟨r, here, _, stays⟩ := each there
    exact stays (vacant.earlier here (length ▸ lt))
  last there eq := by
    obtain ⟨r, here, group, stays⟩ := each there
    rw [group, same]
    exact (vacant.last here (length ▸ eq)).imp_left stays

theorem of_hold (vacant : x.Vacant) (hold : Run.Hold x.runs y.runs) (same : y.watched = x.watched) :
    y.Vacant := by
  refine vacant.of_each hold.length (fun there => ?_) same
  obtain ⟨r, here, holds⟩ := hold.back there
  exact ⟨r, here, holds.group, holds.stopped⟩

/-- A worker has returned. -/
theorem reap (vacant : x.Vacant) (i : Nat) (group : Option Nat) {f : Run → Run}
    (same : ∀ r, (f r).group = r.group) (desk : ∀ r, (f r).desk = r.desk) :
    (x.reap i group f).Vacant := by
  refine vacant.of_each (List.length_modify ..) (fun {j r'} there => ?_) ?_
  · obtain ⟨r, here, rfl⟩ := origin_modify there
    refine ⟨r, here, ?_⟩
    split
    · exact ⟨same r, fun stopped => by rwa [desk]⟩
    · exact ⟨rfl, id⟩
  · rw [watched, manager_reap]
    rfl

/-- If nobody is watched, all desks have stopped. -/
theorem stopped (vacant : x.Vacant) (manned : x.Manned) (none : x.watched = none) {i : Nat} {r : Run}
    (here : x.runs[i]? = some r) : r.desk.worker = .stopped := by
  have lt : i < x.runs.length := (List.getElem?_eq_some_iff.1 here).1
  rcases Nat.lt_or_eq_of_le (Nat.succ_le_of_lt lt) with earlier | last
  · exact vacant.earlier here earlier
  · obtain ⟨g, _, group, _, _⟩ := manned.counted here
    exact (vacant.last here last).resolve_right fun same =>
      nomatch (same.symm.trans group).symm.trans none

/-- All desks have stopped. -/
theorem of_stopped (all : ∀ {i : Nat} {r : Run}, x.runs[i]? = some r → r.desk.worker = .stopped) :
    x.Vacant := ⟨fun here _ => all here, fun here _ => .inl (all here)⟩

/-- Once the watched group is empty, all desks have stopped. -/
theorem stopped_of_ready (vacant : x.Vacant) (manned : x.Manned) {w : Lifecycle.Wait}
    (own : w.group = x.watched) (ready : x.manager.isReady w = true) {i : Nat} {r : Run}
    (here : x.runs[i]? = some r) : r.desk.worker = .stopped := by
  have lt : i < x.runs.length := (List.getElem?_eq_some_iff.1 here).1
  rcases Nat.lt_or_eq_of_le (Nat.succ_le_of_lt lt) with earlier | last
  · exact vacant.earlier here earlier
  · rcases vacant.last here last with stopped | watched
    · exact stopped
    · -- Nobody is counted in its group any more, so its desk was reported.
      obtain ⟨g, n, group, count, le⟩ := manned.counted here
      have zero : n = 0 := by
        have waits : w.group = some g := own.trans (watched.symm.trans group)
        simp only [Lifecycle.Manager.live, Option.map_eq_some_iff] at count
        obtain ⟨grp, there, rfl⟩ := count
        simpa [Lifecycle.Manager.isReady, waits, there] using ready
      refine manned.reported here ?_
      cases told : r.deskReported with
      | true => rfl
      | false =>
        simp only [Run.unreported, told, zero] at le
        simp at le

end Vacant

end Scene

/-! ## Starts and stops -/

namespace Scene

variable {x y : Scene}

theorem Manned.prepare (manned : x.Manned) (id k : Nat) : (x.prepare id k).Manned := by
  unfold Scene.prepare
  split
  · exact manned.of_hold (.refl _) fun count => count
  · exact manned.of_hold (.refl _) fun count => count

namespace Cleared

/-- Nothing is under way that has not made a run yet. -/
theorem of_tasks {id : Nat} {deadline : Option Int} {w : Work}
    (tasks : y.tasks = [⟨id, deadline, w⟩]) (late : w.isEarly = false) : y.Cleared := by
  refine ⟨fun one early => ?_⟩
  obtain rfl := Orderly.eq_of_tasks tasks one
  exact nomatch late.symm.trans early

theorem of_none (none : y.tasks = []) : y.Cleared := ⟨fun one => nomatch none.symm.trans one⟩

/-- Whatever leaves the runs, their groups and the counts alone. -/
theorem of_hold (cleared : x.Cleared) (hold : Run.Hold x.runs y.runs)
    (tasks : ∀ {id w}, y.tasks = [⟨id, none, w⟩] → w.isEarly = true →
      ∃ w', x.tasks = [⟨id, none, w'⟩] ∧ w'.isEarly = true)
    (current : y.manager.current = x.manager.current)
    (live : ∀ {g n : Nat}, x.manager.live g = some n → y.manager.live g = some n) :
    y.Cleared := by
  refine ⟨fun one early => ?_⟩
  obtain ⟨w', one', early'⟩ := tasks one early
  obtain ⟨g, own, empty, new⟩ := cleared.empty one' early'
  refine ⟨g, current.trans own, live empty, fun there => ?_⟩
  obtain ⟨r, here, holds⟩ := hold.back there
  rw [holds.group]
  exact new here

/-- The start comes to a plugin, or to its end. -/
theorem prepare (numbered : x.Numbered) {id k : Nat} {w : Work} (tasks : x.tasks = [⟨id, none, w⟩]) :
    (x.prepare id k).Cleared :=
  ⟨fun one early => nomatch (isSetUp_prepare numbered tasks k _ _ one).1.symm.trans early⟩

/-- A worker has returned, which is none of the current group. -/
theorem reap (cleared : x.Cleared) (manned : x.Manned) {i : Nat} {r : Run}
    (here : x.runs[i]? = some r) {f : Run → Run} (group : ∀ r, (f r).group = r.group) :
    (x.reap i r.group f).Cleared := by
  refine ⟨fun one early => ?_⟩
  obtain ⟨g, own, empty, new⟩ := cleared.empty one early
  obtain ⟨k, n, group', count, _⟩ := manned.counted here
  refine ⟨g, ?_, ?_, fun {j r'} there => ?_⟩
  · rw [manager_reap]
    exact own
  · rw [live_reap group', if_neg, empty]
    rintro rfl
    exact new here group'
  · obtain ⟨r', old, rfl⟩ := origin_modify there
    split
    · rw [group]
      exact new old
    · exact new old

end Cleared

end Scene

/-- Whatever starts and stops do, a start that has not made a run has a group without workers. -/
theorem Steering.cleared {x y : Scene} {m : Move} (steering : Steering x m y) (orderly : x.Orderly)
    (manned : x.Manned) (cleared : x.Cleared) : y.Cleared := by
  have numbered := orderly.numbered
  cases steering with
  | idle => exact cleared
  | queued begins =>
    obtain ⟨_, _, _, n, cs, rfl⟩ := begins.enters numbered
    exact cleared.of_hold (.refl _) (fun one early => ⟨_, one, early⟩) rfl fun count => count
  | refused begins free =>
    refine .of_none ?_
    obtain ⟨_, _, _, n, cs, rfl⟩ := begins.enters numbered
    rw [Scene.tasks_finish]
    exact congrArg (List.filter _) (orderly.rest free).1
  | @begun id parentDone y begins free able =>
    obtain ⟨_, _, _, n, cs, rfl⟩ := begins.enters numbered
    refine ⟨fun _ _ => ⟨x.manager.groups.length, rfl, ?_, fun there own => ?_⟩⟩
    · simp [Lifecycle.Manager.live, Scene.begin, Scene.await]
    · -- The groups of the runs were there before.
      obtain ⟨g, n, group, count, _⟩ := manned.counted there
      obtain rfl : g = x.manager.groups.length := Option.some.inj (group.symm.trans own)
      simp [Lifecycle.Manager.live] at count
  | @advanced id w w' move tasks next =>
    have turned : (x.turnTo id w').tasks = [⟨id, none, w'⟩] :=
      Scene.tasks_turnTo numbered tasks (Work.isControl_of_isEarly next.early.2)
    refine cleared.of_hold (.refl _) (fun one early => ?_) rfl fun count => count
    obtain ⟨rfl, -⟩ : id = _ ∧ w' = _ := by simpa using turned.symm.trans one
    exact ⟨w, tasks, next.early.1⟩
  | broken move tasks =>
    exact .of_none (Scene.tasks_finish_own (x := { x with busy := false }) tasks .broken)
  | @built id r move tasks new =>
    exact .of_tasks (Scene.tasks_build numbered tasks r) rfl
  | accepted move tasks => exact .of_tasks (Scene.tasks_turnTo numbered tasks rfl) rfl
  | rejected move tasks | failed move tasks =>
    exact .of_tasks (y := x.abort ..) (Scene.tasks_turnTo numbered tasks rfl) rfl
  | @published id i move tasks =>
    exact .prepare (x := { x with published := some i }) (numbered.of_same rfl rfl rfl) tasks
  | prepared move tasks => exact .prepare numbered tasks
  | stopped begins free =>
    obtain ⟨_, _, _, n, cs, rfl⟩ := begins.enters numbered
    exact .of_tasks (Scene.tasks_await (orderly.rest free).1 rfl _ none) rfl
  | aborted tasks => exact .of_none (Scene.tasks_finish_own (x := x.settle ..) tasks _)
  | halted tasks | expired tasks =>
    exact .of_none (Scene.tasks_turnTo_shutting (x := x.settle ..) tasks _ _)
  | shut move found work =>
    have apart := numbered.other_of_found found (by rw [work]; rfl)
    refine cleared.of_hold (.refl _) (fun one early => ⟨_, ?_, early⟩) rfl fun count => count
    exact (Scene.tasks_turnTo_of_ne (x := x.say _) apart rfl).symm.trans one
  | finished move found work =>
    have apart := numbered.other_of_found found (by rw [work]; rfl)
    refine cleared.of_hold (.refl _) (fun one early => ⟨_, ?_, early⟩) rfl fun count => count
    exact (Scene.tasks_finish_of_ne apart _).symm.trans one
  | busReaped here | deskReaped here => exact cleared.reap manned here fun _ => rfl
  | orphaned group =>
    refine cleared.of_hold (.refl _) (fun one early => ⟨_, one, early⟩) rfl fun {g _} count => ?_
    refine (Lifecycle.Manager.live_onGroup x.manager group _ (fun _ => ?_) g).trans count
    rfl

/-- Whatever starts and stops do, the workers that were not reported are counted. -/
theorem Steering.manned {x y : Scene} {m : Move} (steering : Steering x m y) (orderly : x.Orderly)
    (manned : x.Manned) (cleared : x.Cleared) : y.Manned := by
  cases steering with
  | idle => exact manned
  | queued begins | refused begins =>
    obtain ⟨_, _, _, n, cs, rfl⟩ := begins.enters orderly.numbered
    exact manned.of_hold (.refl _) fun count => count
  | @begun id parentDone y begins =>
    obtain ⟨_, _, _, n, cs, rfl⟩ := begins.enters orderly.numbered
    have renumbered : ({ x with nextId := n, controls := cs } : Scene).Manned :=
      manned.of_hold (.refl _) fun count => count
    exact (renumbered.begin parentDone).of_hold (.refl _) fun count => count
  | built move tasks new =>
    obtain ⟨g, current, empty, unused⟩ := cleared.empty tasks rfl
    exact manned.build current empty (new.group.trans current) unused new.deskReported
  | @published id i =>
    have handed : ({ x with published := some i } : Scene).Manned :=
      manned.of_hold (.refl _) fun count => count
    exact handed.prepare id 0
  | advanced | accepted | broken | shut | finished =>
    exact manned.of_hold (.refl _) fun count => count
  | stopped begins =>
    obtain ⟨_, _, _, n, cs, rfl⟩ := begins.enters orderly.numbered
    refine manned.of_hold (.refl _) fun {g _} count => ?_
    exact (Lifecycle.Manager.live_cancelCurrent x.manager g).trans count
  | prepared => exact manned.prepare ..
  | failed | rejected =>
    refine manned.of_hold (.refl _) fun {g _} count => ?_
    exact (Lifecycle.Manager.live_cancelCurrent x.manager g).trans count
  | aborted | halted | expired => exact manned.of_hold (.refl _) fun count => count
  | @busReaped i r here finished first =>
    have reported : r.deskReported = true → r.desk.worker = .stopped := manned.reported here
    refine manned.reap here rfl ?_ reported
    simp [Run.unreported, first, Nat.add_comm]
  | deskReaped here finished first =>
    refine manned.reap here rfl ?_ fun _ => finished
    simp [Run.unreported, first]
  | orphaned group =>
    refine manned.of_hold (.refl _) fun {g _} count => ?_
    refine (Lifecycle.Manager.live_onGroup x.manager group _ (fun _ => ?_) g).trans count
    rfl

/-- A stop gives up waiting for the workers. -/
def Moment.timesOut (m : Moment) : Bool :=
  m.effects.any fun
    | .changed .stopping .crashed _ => true
    | _ => false

namespace Scene

variable {x : Scene}

/-- While a start is under way, and once it has come to its end. -/
theorem watched_prepare (phase : x.manager.phase = .starting) (busy : x.busy = true) (id k : Nat) :
    (x.prepare id k).watched = x.manager.current := by
  unfold prepare
  split
  · simp [watched, turnTo, say, phase, busy]
  · simp [watched, enter, finish, say]

/-- The start has failed, and its workers are waited for. -/
theorem watched_abort (phase : x.manager.phase = .starting) (id : Nat) (f : Fault)
    (reason : String) : (x.abort id f reason).watched = x.watched := by
  have canceled := Lifecycle.Manager.cancelCurrent_eq x.manager
  have phase' : x.manager.cancelCurrent.phase = .starting :=
    (congrArg Lifecycle.Manager.phase canceled).trans phase
  simp [watched, abort, turnTo, Lifecycle.Manager.abort, phase, phase']

namespace Vacant

/-- Before a start has made a run, all desks have stopped. -/
theorem stopped_of_early (vacant : x.Vacant) (cleared : x.Cleared) (orderly : x.Orderly)
    {id : Nat} {w : Work} (tasks : x.tasks = [⟨id, none, w⟩]) (early : w.isEarly = true) {i : Nat}
    {r : Run} (here : x.runs[i]? = some r) : r.desk.worker = .stopped := by
  obtain ⟨busy, _, phase, _⟩ := orderly.preparing tasks early
  obtain ⟨g, current, _, new⟩ := cleared.empty tasks early
  have watched : x.watched = some g := by simp [Scene.watched, phase, busy, current]
  have lt : i < x.runs.length := (List.getElem?_eq_some_iff.1 here).1
  rcases Nat.lt_or_eq_of_le (Nat.succ_le_of_lt lt) with earlier | last
  · exact vacant.earlier here earlier
  · exact (vacant.last here last).resolve_right fun same => new here (same.trans watched)

/-- A run is made while all other desks have stopped. -/
theorem build (vacant : x.Vacant) (cleared : x.Cleared) (orderly : x.Orderly) {id : Nat}
    (tasks : x.tasks = [⟨id, none, .building⟩]) {r : Run} (new : r.IsNew x.manager.current) :
    (x.build id r).Vacant := by
  obtain ⟨busy, _, phase, _⟩ := orderly.preparing tasks rfl
  have joined := manager_build x id r
  have watched : (x.build id r).watched = x.manager.current := by
    have phase' : (x.build id r).manager.phase = .starting :=
      (congrArg Lifecycle.Manager.phase joined).trans phase
    have busy' : (x.build id r).busy = true := busy
    have current := congrArg Lifecycle.Manager.current joined
    simp [Scene.watched, phase', busy', current]
  have length : (x.build id r).runs.length = x.runs.length + 1 := List.length_append
  refine ⟨fun there lt => ?_, fun there eq => ?_⟩
  · rcases run_cases_build there with old | ⟨rfl, _⟩
    · exact vacant.stopped_of_early cleared orderly tasks rfl old
    · omega
  · rcases run_cases_build there with old | ⟨_, rfl⟩
    · exact .inl (vacant.stopped_of_early cleared orderly tasks rfl old)
    · exact .inr (new.group.trans watched.symm)

end Vacant

end Scene

/-- Unless a stop gives up, the workers of earlier runs have stopped. -/
theorem Steering.vacant {x y : Scene} {m : Move} (steering : Steering x m y) (orderly : x.Orderly)
    (manned : x.Manned) (cleared : x.Cleared) (vacant : x.Vacant)
    (patient : ∀ reason, .changed .stopping .crashed reason ∉ y.said) : y.Vacant := by
  -- Nobody is at work in a service that may start.
  have unwatched (able : x.manager.phase.canStart = true) : x.watched = none := by
    cases phase : x.manager.phase with
    | stopped | crashed => simp [Scene.watched, phase]
    | _ => simp [phase, Phase.canStart] at able
  cases steering with
  | idle => exact vacant
  | queued begins | refused begins =>
    obtain ⟨_, _, _, n, cs, rfl⟩ := begins.enters orderly.numbered
    exact vacant.of_hold (.refl _) rfl
  | @begun id parentDone y begins free able =>
    obtain ⟨_, _, _, n, cs, rfl⟩ := begins.enters orderly.numbered
    exact .of_stopped fun here => vacant.stopped manned (unwatched able) here
  | advanced | accepted | shut | finished => exact vacant.of_hold (.refl _) rfl
  | broken move tasks =>
    exact .of_stopped fun here => vacant.stopped_of_early cleared orderly tasks rfl here
  | built move tasks new => exact vacant.build cleared orderly tasks new
  | rejected move tasks =>
    obtain ⟨_, _, phase, _, _⟩ := orderly.wiring tasks
    exact vacant.of_hold (.refl _) (Scene.watched_abort phase ..)
  | @published id i move tasks =>
    obtain ⟨busy, _, phase, _, _⟩ := orderly.wiring tasks
    have watched : x.watched = x.manager.current := by simp [Scene.watched, phase, busy]
    refine vacant.of_hold ?_ ((Scene.watched_prepare (x := { x with published := some i }) phase busy
      ..).trans watched.symm)
    rw [Scene.runs_prepare]
    exact .refl _
  | stopped begins free able =>
    obtain ⟨_, _, _, n, cs, rfl⟩ := begins.enters orderly.numbered
    cases phase : x.manager.phase with
    | running =>
      -- The stop waits for the group that was running.
      refine vacant.of_hold (.refl _) ?_
      simp [Scene.watched, Scene.halt, Scene.await, phase, (orderly.rest free).2.1]
    | crashed =>
      have none : x.watched = none := by simp [Scene.watched, phase]
      exact .of_stopped fun here => vacant.stopped manned none here
    | _ => simp [phase, Phase.canStop] at able
  | prepared move tasks =>
    obtain ⟨busy, _, phase, _, _⟩ := orderly.starting tasks
    have watched : x.watched = x.manager.current := by simp [Scene.watched, phase, busy]
    refine vacant.of_hold ?_ ((Scene.watched_prepare phase busy ..).trans watched.symm)
    rw [Scene.runs_prepare]
    exact .refl _
  | failed move tasks =>
    obtain ⟨_, _, phase, _, _⟩ := orderly.starting tasks
    exact vacant.of_hold (.refl _) (Scene.watched_abort phase ..)
  | @aborted id f group reason tasks waits ready =>
    have watched : group = x.watched := by
      cases orderly.station with
      | aborting busy _ wait phase =>
        have own := waits.symm.trans wait
        simp only [List.cons.injEq, Lifecycle.Wait.mk.injEq] at own
        simp [Scene.watched, phase, busy, own.1.2.1]
      | preparing early _ one =>
        obtain rfl := Scene.Orderly.eq_of_tasks one tasks
        cases early
      | resting _ one | wiring _ one | starting _ one | stopping _ one => cases one.symm.trans tasks
    exact .of_stopped fun here => vacant.stopped_of_ready manned watched ready here
  | @halted id group timeout deadline tasks waits ready =>
    have watched : group = x.watched := by
      simp [Scene.watched, (orderly.stopping tasks).1, waits]
    exact .of_stopped fun here => vacant.stopped_of_ready manned watched ready here
  | expired tasks waits =>
    refine absurd ?_ (patient "shutdown timeout")
    simp [Scene.turnTo, Scene.settle, Scene.enter, Scene.say, Effect.isLoud,
      (orderly.stopping tasks).1]
  | busReaped | deskReaped => exact vacant.reap _ _ (fun _ => rfl) fun _ => rfl
  | orphaned group => exact vacant.of_hold (.refl _) rfl

/-! ## Runs -/

/-- The run `i` is over: a later one was begun, or it was withdrawn and nothing is under way. -/
def System.IsOver (s : System) (i : Nat) : Prop :=
  i + 1 < s.runs.length ∨ i + 1 = s.runs.length ∧ s.published = none ∧ s.busy = false

instance (s : System) (i : Nat) : Decidable (s.IsOver i) :=
  inferInstanceAs (Decidable (_ ∨ _ ∧ _ ∧ _))

namespace IsRun

variable {h : History} {s : System}

/-- In every state of a run, the workers that were not reported are counted. -/
theorem manned_and_cleared (run : IsRun h s) : s.scene.Manned ∧ s.scene.Cleared := by
  induction run with
  | new made w =>
    rw [eq_fresh_of_new made]
    exact ⟨⟨nofun, nofun, nofun⟩, .of_none rfl⟩
  | @step h s m run proper ih =>
    -- What leaves starts and stops alone.
    have kept {x : Scene} (keeps : s.scene.Keeps x) : x.Manned ∧ x.Cleared :=
      ⟨ih.1.of_hold keeps.runs fun count => keeps.manager ▸ count,
        ih.2.of_hold keeps.runs (fun one early => ⟨_, keeps.tasks.symm.trans one, early⟩)
          (by rw [keeps.manager]) fun count => keeps.manager ▸ count⟩
    obtain ⟨manned, cleared⟩ : (Moment.mk s m).outcome.Manned ∧ (Moment.mk s m).outcome.Cleared := by
      rcases (run.happening proper).keeps_or_steered run.sink run.orderly.numbered
        with keeps | ⟨x, keeps, steering⟩
      · exact kept keeps
      · have orderly := keeps.orderly run.orderly
        obtain ⟨manned, cleared⟩ := kept keeps
        exact ⟨steering.manned orderly manned cleared, steering.cleared orderly manned cleared⟩
    exact ⟨manned.of_hold (.refl _) fun count => count,
      cleared.of_hold (.refl _) (fun one early => ⟨_, one, early⟩) rfl fun count => count⟩

theorem manned (run : IsRun h s) : s.scene.Manned := run.manned_and_cleared.1

/-- In every state of a run in which no stop has given up, the workers of earlier runs have
    stopped. -/
theorem vacant (run : IsRun h s) (patient : ∀ m ∈ h, m.timesOut = false) : s.scene.Vacant := by
  induction run with
  | new made w =>
    rw [eq_fresh_of_new made]
    exact ⟨nofun, nofun⟩
  | @step h s m run proper ih =>
    have before := ih fun n mem => patient n (List.mem_append_left _ mem)
    have now := patient ⟨s, m⟩ (List.mem_append_right _ (List.mem_singleton_self _))
    have kept {x : Scene} (keeps : s.scene.Keeps x) : x.Vacant := by
      refine before.of_hold keeps.runs ?_
      rw [Scene.watched, keeps.manager, keeps.busy, Scene.watched]
    have vacant : (Moment.mk s m).outcome.Vacant := by
      rcases (run.happening proper).keeps_or_steered run.sink run.orderly.numbered
        with keeps | ⟨x, keeps, steering⟩
      · exact kept keeps
      · obtain ⟨manned, cleared⟩ := run.manned_and_cleared
        refine steering.vacant (keeps.orderly run.orderly)
          (manned.of_hold keeps.runs fun count => keeps.manager ▸ count)
          (cleared.of_hold keeps.runs (fun one early => ⟨_, keeps.tasks.symm.trans one, early⟩)
            (by rw [keeps.manager]) fun count => keeps.manager ▸ count)
          (kept keeps) fun reason said => ?_
        have mem := (List.mem_filter.1 said).1
        exact Bool.false_ne_true (now.symm.trans (List.any_eq_true.2 ⟨_, mem, rfl⟩))
    exact vacant.of_hold (.refl _) rfl

/-- The desk of a run that is over has stopped. -/
theorem stopped_of_over (run : IsRun h s) (patient : ∀ m ∈ h, m.timesOut = false) {i : Nat}
    {r : Run} (here : s.runs[i]? = some r) (past : s.IsOver i) : r.desk.worker = .stopped := by
  rcases past with earlier | ⟨last, withdrawn, free⟩
  · exact (run.vacant patient).earlier here earlier
  · refine (run.vacant patient).stopped run.manned ?_ here
    obtain ⟨_, _, ended, ⟨_, n, _, published⟩ | ⟨other, _⟩⟩ := run.orderly.rest free
    · exact nomatch withdrawn.symm.trans published
    · have free' : s.scene.busy = false := free
      cases phase : s.scene.manager.phase with
      | running => exact absurd phase other
      | stopping => exact absurd phase ended
      | _ => simp [Scene.watched, phase, free']

end IsRun

end HeadUnit.Service
