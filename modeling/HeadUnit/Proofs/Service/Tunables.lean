import HeadUnit.Daemon
import HeadUnit.Proofs.Service.Pending
import HeadUnit.Proofs.Service.Tuned
import Mathlib.Data.List.Induction

/-!
# Tunables agree

The timeout of trips, the bound of running users and the panel are kept in several places
(`Tuned`), and the desk of a run is made anew with each start.

* `Tuned.Turns` lists what a move can make of these places, and `System.turns_move` says that
  the list is complete;
* `Tuned.Agrees` is what holds between any two moves: all copies of the timeout are the same, and
  the published desk has it (`agrees_played`);
* `System.Heeds` is about the two bounds. The service takes over a new one before the registry does,
  so that they differ while a change is under way; and if two changes overlap, they may differ for
  good (`heeds_played`);
* `Deed.moves` is one reading of the settings file, which asks for tunings of the service;
* `tunables_agree_or_overlap` is about everything that can be done to a service, in any order.

After changes that overlap the bounds do differ (`bounds_differ_after_overlap`).
-/

namespace HeadUnit

/-- The operation that carries out a tuning. -/
def Tuning.operation : Tuning → Service.Operation
  | coordinatorTimeout d => .setTimeout d
  | maxRunning n => .setMaxRunning n

namespace Service

open Switching (Desk Trim Panel)

/-! ## What a move tunes -/

/-- The panel that is set, if one is set or taken away. -/
def Move.panel? : Move → Option (Option Panel)
  | .act (.perform _ (.setPanel p)) => some p
  | _ => none

namespace Tuned

/-- The desks, with a change of what is set about the one that is published. -/
def reset (x : Tuned) (f : Trim → Trim) : List Trim :=
  x.published.elim x.desks (x.desks.modify · f)

/-- What the move `m` makes of what can be tuned, where the calls `due` are about to set the bound. -/
inductive Turns (due : Nat → Int64 → Prop) (x : Tuned) (m : Move) : Tuned → Prop
  | kept (unset : m.panel? = none) : Turns due x m x
  | timed {ctx : Context} {d : Duration} (move : m = .act (.perform ctx (.setTimeout d)))
      (accepted : 0 < d) :
      Turns due x m { x with
        timeout := d
        provision := d
        association := d
        desks := x.reset fun t => ⟨d, t.panel⟩ }
  | shown {ctx : Context} {p : Option Panel} (move : m = .act (.perform ctx (.setPanel p))) :
      Turns due x m { x with panel := p, desks := x.reset fun t => ⟨t.timeout, p⟩ }
  /-- The service takes over a new bound, and the registry does not know it yet. -/
  | asked {ctx : Context} {n : Int64} (move : m = .act (.perform ctx (.setMaxRunning n)))
      (accepted : 2 ≤ n) : Turns due x m { x with maxRunning := n }
  /-- The registry takes over the new bound of the call `id`. -/
  | bounded {id : Nat} {n : Int64} (move : m = .act (.goOn id)) (own : due id n) :
      Turns due x m { x with bound := n }
  /-- The service makes a new run. -/
  | built (unset : m.panel? = none) {trim : Trim} : Turns due x m { x with desks := x.desks ++ [trim] }
  /-- The run `i` is published, and its desk gets what is set. -/
  | published (unset : m.panel? = none) {i : Nat} (made : i < x.desks.length) :
      Turns due x m { x with
        desks := x.desks.modify i fun _ => ⟨x.timeout, x.panel⟩
        published := some i }
  /-- The run that was published is so no longer. -/
  | withdrawn (unset : m.panel? = none) : Turns due x m { x with published := none }

theorem Turns.of_eq {due : Nat → Int64 → Prop} {x y : Tuned} {m : Move} (unset : m.panel? = none)
    (same : y = x) : Turns due x m y := same ▸ .kept unset

end Tuned

namespace System

variable {s : System} {m : Move} {due : Nat → Int64 → Prop}

/-- The call `id` is about to set the bound to `n`. -/
def Binds (s : System) (id : Nat) (n : Int64) : Prop :=
  ∃ c, s.call? id = some c ∧ c.work = .bounding n

theorem tuned_buildRun (id : Nat) : (s.buildRun id).tuned = { s.tuned with
    desks := s.tuned.desks ++ [((Desk.fresh s.timeout s.config.headless).start).trim] } := by
  simp [tuned, buildRun, await']

/-- A run that is published gets what is set. -/
theorem tuned_publish (positive : 0 < s.timeout) (i : Nat) : (s.publish i).tuned =
    { s.tuned with
      desks := s.tuned.desks.modify i fun _ => ⟨s.timeout, s.panel⟩
      published := some i } := by
  have set (r : Run) : ((r.desk.setTimeout s.timeout).setPanel s.panel).trim =
      ⟨s.timeout, s.panel⟩ := by
    simp [Desk.setTimeout, Desk.setPanel, Desk.trim, Int64.not_le.2 positive]
  have desks : (s.runs.modify i fun r =>
        { r with desk := (r.desk.setTimeout s.timeout).setPanel s.panel }).map (·.desk.trim) =
      (s.runs.map (·.desk.trim)).modify i fun _ => ⟨s.timeout, s.panel⟩ :=
    map_trim_modify fun r _ => set r
  simp only [tuned, publish, onRun, desks]

/-- The run that a start makes is there. -/
theorem made_of_wiring {h : History} (run : IsRun h s) {id i : Nat} {left : List Listener} {c : Call}
    (found : s.call? id = some c) (work : c.work = .wiring i left) : i < s.tuned.desks.length := by
  have task := run.orderly.task found (by rw [work]; rfl)
  have length : s.tuned.desks.length = s.runs.length := List.length_map ..
  rw [work] at task
  -- A call that wires is the start that is under way, and the run it wires is the last one.
  cases run.orderly.station with
  | wiring _ tasks _ _ last =>
    cases task.symm.trans tasks
    have last : s.runs.length = i + 1 := last
    omega
  | preparing early _ tasks =>
    cases task.symm.trans tasks
    cases early
  | resting _ tasks | starting _ tasks | aborting _ tasks | stopping _ tasks =>
    cases task.symm.trans tasks

/-- A call goes on with what it is about to do. -/
theorem turns_goOn {h : History} (run : IsRun h s) (positive : 0 < s.timeout) (id : Nat) :
    Tuned.Turns s.Binds s.tuned (.act (.goOn id)) ((s.goOn? id).getD s).tuned := by
  have on := s.goesOn id
  generalize (s.goOn? id).getD s = s' at on
  cases on with
  | nothing => exact .kept rfl
  | @bounded c n found work =>
    have bound : (s.bound id n).tuned = { s.tuned with bound := n } :=
      (tuned_applyChange s _).trans (by rw [Registry.maxRunning_setMax])
    exact bound ▸ .bounded rfl ⟨c, found, work⟩
  | read => exact .of_eq rfl (aloof_tuned.readState ..)
  | cached => exact .kept rfl
  | @restored c st found work =>
    refine .of_eq rfl ?_
    have applied := tuned_applyChange_of_eq s (Registry.maxRunning_restore s.registry st)
    rw [← applied]
    -- Whether the registry is broken now only tells how the start goes on.
    unfold restoreState
    dsimp only
    generalize s.applyChange (s.registry.restore st) = t
    split
    · rfl
    · rfl
  | built => exact tuned_buildRun (s := s) id ▸ .built rfl
  | @wired c i left found work =>
    have made := made_of_wiring run found work
    cases left with
    | nil =>
      have published := (aloof_tuned.nextPlugin (s.publish i) id 0).trans (tuned_publish positive i)
      exact published ▸ .published rfl made
    | cons l left =>
      have tried := s.tuned_tryBus i (·.register (.listener l))
      rcases s.wire_cases id i l left with ⟨-, same⟩ | ⟨f, -, same⟩
      · exact .of_eq rfl ((congrArg tuned same).trans tried)
      · exact .of_eq rfl ((congrArg tuned same).trans tried)
  | shut => exact .of_eq rfl (aloof_tuned.shutNext ..)

theorem tuned_startNow (id : Nat) (parentDone : Bool) :
    (s.startNow id parentDone).tuned = s.tuned := by
  unfold startNow
  split
  · rfl
  · split
    · rfl
    · exact tuned_flushManager _

theorem turns_control (unset : m.panel? = none) (c : Control) :
    Tuned.Turns due s.tuned m (s.control c).tuned := by
  cases c with
  | start id parentDone => exact .of_eq unset (tuned_startNow ..)
  | stop id =>
    dsimp only [control]
    unfold stopNow
    split
    · exact .kept unset
    · split
      · exact .withdrawn unset
      · next m' _ =>
        have same : ({ s with published := none, manager := m', busy := true } :
            System).flushManager.tuned = { s.tuned with published := none } := tuned_flushManager _
        exact same ▸ .withdrawn unset

theorem turns_request (unset : m.panel? = none) (c : Control) :
    Tuned.Turns due s.tuned m (s.request c).tuned := by
  unfold request
  split
  · exact .kept unset
  · exact turns_control unset c

theorem turns_nextControl (unset : m.panel? = none) :
    Tuned.Turns due s.tuned m (s.nextControl?.getD s).tuned := by
  unfold nextControl?
  split
  · next c cs _ _ => exact turns_control (s := { s with controls := cs }) unset c
  · exact .kept unset

theorem turns_pluginReady (unset : m.panel? = none) (id : Nat) (fault : Option Fault) :
    Tuned.Turns due s.tuned m (s.pluginReady id fault).tuned := by
  unfold pluginReady
  split
  · dsimp only
    split
    · exact .of_eq unset (aloof_tuned.nextPlugin ..)
    · exact .withdrawn unset
  · exact .kept unset

/-- Something is set about the desk that is published. -/
theorem tuned_onPublishedDesk (s : System) {f : Desk → Desk} {g : Trim → Trim}
    (set : ∀ d, (f d).trim = g d.trim) :
    (s.onPublishedDesk f).tuned = { s.tuned with desks := s.tuned.reset g } := by
  unfold onPublishedDesk Tuned.reset
  cases published : s.published with
  | none => simp [tuned, published]
  | some i =>
    have desks : (s.runs.modify i fun r => { r with desk := f r.desk }).map (·.desk.trim) =
        (s.runs.map (·.desk.trim)).modify i g := map_trim_modify fun r _ => set r.desk
    simp [tuned, onRun, desks, published]

theorem turns_setTimeout {ctx : Context} {d : Duration} :
    Tuned.Turns due s.tuned (.act (.perform ctx (.setTimeout d))) (s.setTimeout d).tuned := by
  unfold setTimeout
  split
  · exact .kept rfl
  · next accepted =>
    have set (k : Desk) : (k.setTimeout d).trim = ⟨d, k.trim.panel⟩ := by
      simp [Desk.setTimeout, accepted, Desk.trim]
    rw [tuned_onPublishedDesk _ (g := fun t => ⟨d, t.panel⟩) set]
    exact .timed rfl (Int64.not_le.1 accepted)

theorem turns_setPanel {ctx : Context} {p : Option Panel} :
    Tuned.Turns due s.tuned (.act (.perform ctx (.setPanel p))) (s.setPanel p).tuned := by
  have set (k : Desk) : (k.setPanel p).trim = ⟨k.trim.timeout, p⟩ := rfl
  unfold setPanel
  rw [tuned_onPublishedDesk _ (g := fun t => ⟨t.timeout, p⟩) set]
  exact .shown rfl

theorem turns_setMaxRunning {ctx : Context} {id : Nat} {n : Int64} :
    Tuned.Turns due s.tuned (.act (.perform ctx (.setMaxRunning n))) (s.setMaxRunning id n).tuned := by
  unfold setMaxRunning
  split
  · exact .kept rfl
  · next accepted => exact .asked rfl (Int64.not_lt.1 accepted)

theorem turns_perform (ctx : Context) (op : Operation) :
    Tuned.Turns due s.tuned (.act (.perform ctx op)) (s.freshId.2.perform s.nextId ctx op).tuned := by
  cases op with
  | setPanel p => exact turns_setPanel (s := s.freshId.2)
  | setTimeout d => exact turns_setTimeout (s := s.freshId.2)
  | setMaxRunning n => exact turns_setMaxRunning (s := s.freshId.2)
  | requestSwitch target timeout => exact .of_eq rfl (tuned_requestSwitch ..)
  | switchUser target timeout => exact .of_eq rfl (tuned_switchUser ..)
  | switchDriver target timeout => exact .of_eq rfl (tuned_switchDriver ..)
  | initiatedSwitch token target => exact .of_eq rfl (tuned_initiatedSwitch ..)
  | createUser name kind flags timeout => exact .of_eq rfl (aloof_tuned.created ..)
  | createDriver name admin => exact .of_eq rfl (aloof_tuned.created ..)
  | createProfile name driver => exact .of_eq rfl (tuned_notes ..)
  | removeUser user => exact .of_eq rfl (tuned_removeUser ..)
  | startBackground => exact .of_eq rfl (tuned_startBackground ..)
  | stopBackground user => exact .of_eq rfl (tuned_stopBackground ..)
  | setInitial user => exact .of_eq rfl (tuned_setInitial ..)
  | initialInfo type timeout => exact .of_eq rfl (aloof_tuned.initialInfo ..)
  | getAssociations caller types => exact .of_eq rfl (aloof_tuned.associate ..)
  | setAssociations caller types values timeout => exact .of_eq rfl (aloof_tuned.associate ..)
  | event e => exact .of_eq rfl (tuned_onEvent ..)
  | addListener o | removeListener o => exact .of_eq rfl (tuned_onPublishedBus ..)
  | addRemote uid handle => exact .of_eq rfl (tuned_onPublishedBus ..)
  | removeRemote uid => exact .of_eq rfl (tuned_onPublishedBus ..)
  | flush => exact .of_eq rfl (tuned_flushEvents ..)

theorem turns_step {h : History} (run : IsRun h s) (positive : 0 < s.timeout) (a : Action) :
    Tuned.Turns s.Binds s.tuned (.act a) (s.step a).tuned := by
  cases a with
  | elapse t => exact .kept rfl
  | perform ctx op => exact turns_perform ctx op
  | start parentDone => exact turns_request (s := s.freshId.2) rfl _
  | stop => exact turns_request (s := s.freshId.2) rfl _
  | parentEnded i =>
    dsimp only [step]
    split <;> exact .kept rfl
  | contextEnded call f => exact .of_eq rfl (aloof_tuned.contextEnded ..)
  | answered ask r f => exact .of_eq rfl (tuned_askEnded ..)
  | expired ask => exact .of_eq rfl (tuned_askEnded ..)
  | canceled ask => exact .of_eq rfl (tuned_askEnded ..)
  | commit i => exact .of_eq rfl (tuned_commit ..)
  | listenerReturned i crash =>
    refine .of_eq rfl ?_
    rcases s.listenerReturned_cases i crash with same | ⟨r, l, e, left, -, -, same⟩
    · exact congrArg tuned same
    · exact (congrArg tuned same).trans ((tuned_flushBus ..).trans (tuned_onBus ..))
  | handleTook i fault => exact .of_eq rfl ((tuned_flushBus ..).trans (tuned_onBus ..))
  | handleDied h =>
    refine .of_eq rfl ?_
    simp only [step, tuned, List.map_map, Function.comp_def]
  | pluginReady call fault => exact turns_pluginReady rfl ..
  | notice i => exact .of_eq rfl (tuned_notice ..)
  | busStep i => exact .of_eq rfl (tuned_busStep ..)
  | deskWork i => exact .of_eq rfl (tuned_deskMove s i (q := .work s.view) trivial fun _ => rfl)
  | deskStop i => exact .of_eq rfl (tuned_deskMove s i (q := .stop s.view) trivial fun _ => rfl)
  | launch i ticket => exact .of_eq rfl (tuned_moveDesk s i (q := .launch ticket) trivial)
  | deskMark i => exact .of_eq rfl (tuned_moveDesk s i (q := .mark) trivial)
  | record i => exact .of_eq rfl (tuned_record ..)
  | goOn id => exact turns_goOn run positive id
  | reap i => exact .of_eq rfl (tuned_reap ..)
  | settleWait => exact .of_eq rfl (aloof_tuned.settleWait ..)
  | nextControl => exact turns_nextControl rfl

/-- The list is complete. -/
theorem turns_move {h : History} (run : IsRun h s) (positive : 0 < s.timeout) (m : Move) :
    Tuned.Turns s.Binds s.tuned m (s.move m).tuned := by
  cases m with
  | act a => exact turns_step run positive a
  | intervene c => exact .of_eq rfl (tuned_onSessions ..)
  | roster | repository | faults => exact .kept rfl

end System

/-! ## All copies agree -/

namespace Tuned

/-- Every copy of the timeout says the same, the published desk has what is set, and all of it is
    sensible. -/
structure Agrees (x : Tuned) : Prop where
  positive : 0 < x.timeout
  provision : x.provision = x.timeout
  association : x.association = x.timeout
  enough : 2 ≤ x.maxRunning
  bound : 2 ≤ x.bound
  desk : ∀ i, x.published = some i → x.desks[i]? = some ⟨x.timeout, x.panel⟩

/-- What is set about the published desk reaches it. -/
theorem Agrees.reset {x : Tuned} (agrees : x.Agrees) (f : Trim → Trim) {i : Nat}
    (published : x.published = some i) : (x.reset f)[i]? = some (f ⟨x.timeout, x.panel⟩) := by
  simp [Tuned.reset, published, agrees.desk i published]

/-- What a move tunes is tuned everywhere, and the panel is the one that was set last. -/
theorem Turns.agrees {due : Nat → Int64 → Prop} {x y : Tuned} {m : Move} (turns : Turns due x m y)
    (enough : ∀ id n, due id n → 2 ≤ n) (agrees : x.Agrees) :
    y.Agrees ∧ y.panel = m.panel?.getD x.panel := by
  cases turns with
  | kept unset => exact ⟨agrees, by rw [unset]; rfl⟩
  | @timed ctx d move accepted =>
    subst move
    exact ⟨⟨accepted, rfl, rfl, agrees.enough, agrees.bound, fun _ => agrees.reset _⟩, rfl⟩
  | @shown ctx p move =>
    subst move
    exact ⟨{ agrees with desk := fun _ => agrees.reset _ }, rfl⟩
  | @asked ctx n move accepted =>
    subst move
    exact ⟨{ agrees with enough := accepted }, rfl⟩
  | @bounded id n move own =>
    subst move
    exact ⟨{ agrees with bound := enough id n own }, rfl⟩
  | built unset =>
    -- The new desk comes last, so the published one stays where it is.
    refine ⟨{ agrees with desk := fun i here => ?_ }, by rw [unset]; rfl⟩
    have there := agrees.desk i here
    exact (List.getElem?_append_left (List.getElem?_eq_some_iff.1 there).1).trans there
  | published unset made =>
    -- Whatever was set since the run was made, its desk gets it now.
    refine ⟨{ agrees with desk := fun i here => ?_ }, by rw [unset]; rfl⟩
    obtain rfl := Option.some.inj here
    simp [List.getElem?_eq_getElem made]
  | withdrawn unset => exact ⟨{ agrees with desk := nofun }, by rw [unset]; rfl⟩

end Tuned

/-- A service that is made with a configuration that is accepted. -/
theorem agrees_new {c : Config} {s : System} (made : new c true true = .ok s)
    (w : Surroundings) : (s.within w).tuned.Agrees := by
  unfold new at made
  dsimp only at made
  split at made
  · cases made
  · next fine =>
    cases made
    unfold Config.problem? at fine
    split at fine
    · cases fine
    · next enough =>
      split at fine
      · cases fine
      · next positive =>
        exact ⟨Int64.not_le.1 positive, rfl, rfl, Int64.not_lt.1 enough, Int64.not_lt.1 enough,
          nofun⟩

/-- The panel after the moves, if there was the panel `p` before. -/
def lastPanel (p : Option Panel) (ms : List Move) : Option Panel :=
  (ms.filterMap Move.panel?).getLast?.getD p

theorem lastPanel_cons (p : Option Panel) (m : Move) (ms : List Move) :
    lastPanel p (m :: ms) = lastPanel (m.panel?.getD p) ms := by
  unfold lastPanel
  cases set : m.panel? with
  | none => rw [List.filterMap_cons_none set, Option.getD_none]
  | some q => rw [List.filterMap_cons_some set, List.getLast?_cons, Option.getD_some, Option.getD_some]

/-- All copies still agree after moves, and the panel is the one that was set last. -/
theorem agrees_played {h : History} {s : System} (run : IsRun h s) (agrees : s.tuned.Agrees)
    {ms : List Move} (proper : ∀ m ∈ ms, m.Proper) : (played h s ms).2.tuned.Agrees ∧
      (played h s ms).2.panel = lastPanel s.panel ms := by
  induction ms generalizing h s with
  | nil => exact ⟨agrees, rfl⟩
  | cons m ms ih =>
    -- What is due has passed the check of the service when it was asked for.
    have enough : ∀ id n, s.Binds id n → 2 ≤ n := fun id n ⟨c, found, work⟩ =>
      run.enough (List.mem_of_find?_eq_some found) work
    have turns := System.turns_move run agrees.positive m
    have agrees' := turns.agrees enough agrees
    have panel : (Moment.mk s m).after.panel = m.panel?.getD s.panel := agrees'.2
    rw [lastPanel_cons, ← panel]
    exact ih (run.step (proper m List.mem_cons_self)) agrees'.1
      fun x mem => proper x (List.mem_cons_of_mem m mem)

/-! ## The two bounds -/

/-- The bound `n` is asked for, and accepted. -/
def Move.Resets (m : Move) (n : Int64) : Prop :=
  2 ≤ n ∧ ∃ ctx, m = .act (.perform ctx (.setMaxRunning n))

/-- What a move makes of the bound of the service, of the one that the registry goes by, and of the
    calls that are about to make them the same. -/
inductive System.Sets (s : System) (m : Move) (t : System) : Prop
  | same (other : ∀ n, ¬m.Resets n) (bounding : t.scene.bounding = s.scene.bounding)
      (ours : t.maxRunning = s.maxRunning) (bound : t.registry.maxRunning = s.registry.maxRunning)
  | asked {c : Call} {n : Int64} (resets : m.Resets n) (work : c.work = .bounding n)
      (bounding : t.scene.bounding = s.scene.bounding ++ [c]) (ours : t.maxRunning = n)
  | taken {c : Call} {n : Int64} (other : ∀ n, ¬m.Resets n) (mem : c ∈ s.scene.bounding)
      (work : c.work = .bounding n)
      (bounding : t.scene.bounding = s.scene.bounding.filter (·.id != c.id))
      (ours : t.maxRunning = s.maxRunning) (bound : t.registry.maxRunning = n)

/-- Other moves leave both bounds alone. -/
theorem Tuned.Turns.bounds {due : Nat → Int64 → Prop} {x y : Tuned} {m : Move}
    (turns : Turns due x m y) (other : ∀ n, ¬m.Resets n)
    (apart : ∀ id n, m = .act (.goOn id) → ¬due id n) :
    y.maxRunning = x.maxRunning ∧ y.bound = x.bound := by
  cases turns with
  | asked move accepted => exact absurd ⟨accepted, _, move⟩ (other _)
  | bounded move own => exact absurd own (apart _ _ move)
  | kept | timed | shown | built | published | withdrawn => exact ⟨rfl, rfl⟩

theorem IsRun.sets {h : History} {s : System} {m : Move} (run : IsRun h s) (proper : m.Proper)
    (agrees : s.tuned.Agrees) : s.Sets m (Moment.mk s m).after := by
  -- A bound is asked for, or a call goes on that is about to set one, or neither.
  by_cases resets : ∃ n, m.Resets n
  · obtain ⟨n, accepted, ctx, rfl⟩ := resets
    have moved : s.move (.act (.perform ctx (.setMaxRunning n))) =
        { s.freshId.2 with maxRunning := n }.await s.nextId none (.bounding n) :=
      if_neg (Int64.not_lt.2 accepted)
    refine .asked (c := ⟨s.nextId, none, .bounding n⟩) ⟨accepted, ctx, rfl⟩ rfl ?_ ?_
    · show (s.move _).scene.bounding = _
      rw [moved]
      exact List.filter_append ..
    · exact congrArg System.maxRunning moved
  · have other : ∀ n, ¬m.Resets n := fun n resets' => resets ⟨n, resets'⟩
    by_cases binds : ∃ c n, m = .act (.goOn c.id) ∧ s.call? c.id = some c ∧ c.work = .bounding n
    · obtain ⟨c, n, rfl, found, work⟩ := binds
      have moved : s.move (.act (.goOn c.id)) = s.bound c.id n := by
        simp [System.move, System.step, System.goOn?, found, work]
      have mem : c ∈ s.scene.bounding :=
        List.mem_filter.2 ⟨List.mem_of_find?_eq_some found, by rw [work]; rfl⟩
      have tuned : (s.bound c.id n).tuned = { s.tuned with bound := n } :=
        (System.tuned_applyChange s _).trans (by rw [Registry.maxRunning_setMax])
      refine .taken other mem work ?_ ?_ ?_
      · show (s.move _).scene.bounding = _
        rw [moved, System.bound, System.scene_finish,
          System.scene_applyChange s (Registry.plain_setMax s.registry n)]
        exact Scene.bounding_finish ..
      · exact congrArg Tuned.maxRunning ((congrArg System.tuned moved).trans tuned)
      · exact congrArg Tuned.bound ((congrArg System.tuned moved).trans tuned)
    · have bounding : (Moment.mk s m).after.scene.bounding = s.scene.bounding := by
        cases (run.happening proper).rebounds run.sink run.orderly with
        | same same => exact same
        | asked move enough => exact absurd ⟨enough, _, move⟩ (other _)
        | taken move found work => exact absurd ⟨_, _, move, found, work⟩ binds
      have apart : ∀ id n, m = .act (.goOn id) → ¬s.Binds id n := by
        rintro id n rfl ⟨c, found, work⟩
        obtain rfl : c.id = id := by simpa using List.find?_some found
        exact binds ⟨c, n, rfl, found, work⟩
      have same := (System.turns_move run agrees.positive m).bounds other apart
      exact .same other bounding same.1 same.2

/-- The registry goes by the bound of the service, or will do so once the only change that is under
    way has reached it. -/
inductive System.Heeds (s : System) : Prop
  | settled (none : s.scene.bounding = []) (same : s.registry.maxRunning = s.maxRunning)
  | due {c : Call} (one : s.scene.bounding = [c]) (last : c.work = .bounding s.maxRunning)

/-- Another bound is asked for while a change of the bound is under way. -/
def Moment.Overlaps (m : Moment) : Prop := (∃ n, m.move.Resets n) ∧ m.before.scene.bounding ≠ []

/-- Another bound is asked for while no other change of the bound is under way. -/
def Moment.Renews (m : Moment) : Prop := (∃ n, m.move.Resets n) ∧ m.before.scene.bounding = []

/-- Changes of the bound have overlapped, and since then every one has overlapped with another. -/
def History.Overlapped (h : History) : Prop :=
  ∃ h₁ m h₂, h = h₁ ++ m :: h₂ ∧ m.Overlaps ∧ ∀ x ∈ h₂, ¬x.Renews

/-- The registry goes by the service after a move, if it has done so before. Otherwise it does so as
    soon as another bound is asked for while no change is under way. -/
theorem System.Sets.heeds {h : History} {s t : System} {m : Move} (sets : s.Sets m t)
    (before : s.Heeds ∨ History.Overlapped h) :
    t.Heeds ∨ History.Overlapped (h ++ [⟨s, m⟩]) := by
  -- What has overlapped once.
  have still (other : ∀ n, ¬m.Resets n) (overlapped : History.Overlapped h) :
      History.Overlapped (h ++ [⟨s, m⟩]) := by
    obtain ⟨h₁, x, h₂, rfl, overlaps, rest⟩ := overlapped
    refine ⟨h₁, x, h₂ ++ [⟨s, m⟩], by simp, overlaps, fun y mem => ?_⟩
    rcases List.mem_append.1 mem with old | new
    · exact rest y old
    · obtain rfl := List.mem_singleton.1 new
      exact fun ⟨⟨n, resets⟩, _⟩ => other n resets
  cases sets with
  | same other bounding ours bound =>
    refine before.imp (fun heeds => ?_) (still other)
    cases heeds with
    | settled none same => exact .settled (bounding.trans none) (by rw [bound, ours, same])
    | due one last => exact .due (bounding.trans one) (ours ▸ last)
  | @asked c n resets work bounding ours =>
    -- Alone, the change makes up for whatever has overlapped before.
    by_cases none : s.scene.bounding = []
    · rw [none, List.nil_append] at bounding
      exact .inl (.due bounding (ours ▸ work))
    · exact .inr ⟨h, ⟨s, m⟩, [], rfl, ⟨⟨n, resets⟩, none⟩,
        fun _ mem => absurd mem List.not_mem_nil⟩
  | @taken c n other mem work bounding ours bound =>
    refine before.imp (fun heeds => ?_) (still other)
    cases heeds with
    | settled none same => exact absurd (none ▸ mem) List.not_mem_nil
    | @due d one last =>
      -- It was the only one.
      obtain rfl : c = d := List.mem_singleton.1 (one ▸ mem)
      obtain rfl : n = s.maxRunning := by
        have same := work.symm.trans last
        injection same
      rw [one] at bounding
      exact .settled (bounding.trans (by simp)) (bound.trans ours.symm)

/-- In every state of a run the registry goes by the bound of the service or is about to, unless
    changes of the bound have overlapped. -/
theorem heeds_played {h : History} {s : System} (run : IsRun h s) (agrees : s.tuned.Agrees)
    (before : s.Heeds ∨ History.Overlapped h) {ms : List Move} (proper : ∀ m ∈ ms, m.Proper) :
    (played h s ms).2.Heeds ∨ History.Overlapped (played h s ms).1 := by
  induction ms generalizing h s with
  | nil => exact before
  | cons m ms ih =>
    have now := proper m List.mem_cons_self
    have sets := run.sets now agrees
    have one : ∀ x ∈ [m], x.Proper := fun x mem => List.mem_singleton.1 mem ▸ now
    exact ih (run.step now) (agrees_played run agrees one).1 (sets.heeds before)
      fun x mem => proper x (List.mem_cons_of_mem m mem)

/-! ## Reading the settings file -/

/-- The daemon carries out a tuning by this operation. -/
theorem play_tune (w : Bench.World) (service : w.subject = .service) (p : Bench.Procedure)
    (ctx : Context) (t : Tuning) :
    ∃ a, w.play p ctx (Daemon.tune t) = w.perform p a ctx t.operation := by
  cases t with
  | coordinatorTimeout d =>
    refine ⟨.timeout, ?_⟩
    show (if w.subject = .switching then _ else _) = _
    rw [service, if_neg (by decide)]
    rfl
  | maxRunning n =>
    refine ⟨.maxRunning, ?_⟩
    show (if w.subject = .registry then _ else _) = _
    rw [service, if_neg (by decide)]
    rfl

/-- What is done to a service. -/
inductive Deed
  | move (m : Move)
  /-- The settings file at `path` is read. -/
  | reload (path : String) (file : Finding)

/-- The moves that it consists of. To read the settings file is to carry out what it asks for. -/
def Deed.moves : Deed → List Move
  | .move m => [m]
  | .reload path file => (Watcher.reload path file).1.map fun t => .act (.perform {} t.operation)

/-- There is no text to be read, or the text is no settings file, or the timeout in it is no
    duration. A text that gives an empty timeout gives none. -/
def IsUnreadable : Finding → Prop
  | .missing | .unreadable _ => True
  | .text text => ∀ t, Tunables.parse? text = some t → ∃ p, t.tunings = .error p

/-- Nothing is asked for by such a file. -/
theorem reload_of_unreadable {file : Finding} (unreadable : IsUnreadable file) (path : String) :
    (Watcher.reload path file).1 = [] := by
  cases file with
  | missing | unreadable f => rfl
  | text text =>
    unfold Watcher.reload
    cases parsed : Tunables.parse? text with
    | none => simp [parsed]
    | some t =>
      obtain ⟨p, wrong⟩ := unreadable t parsed
      simp [parsed, wrong]

/-- To read the settings file is to add no listener. -/
theorem Deed.proper {d : Deed} (proper : ∀ m, d = .move m → m.Proper) : ∀ m ∈ d.moves, m.Proper := by
  cases d with
  | move m =>
    intro x mem
    obtain rfl := List.mem_singleton.1 mem
    exact proper x rfl
  | reload path file =>
    intro x mem
    obtain ⟨t, -, rfl⟩ := List.mem_map.1 mem
    refine Move.proper_of_offered ?_
    cases t <;> rfl

/-- Whatever is done to a service, readings of the settings file included, its timeout is positive
    and the same everywhere, and both the service and the registry allow for at least two users. The
    registry goes by the bound of the service or is about to, unless changes of the bound have
    overlapped. A run that is published has the timeout of the service and the panel that was set
    last. A settings file that cannot be read changes nothing of this. -/
theorem tunables_agree_or_overlap {c : Config} {s : System} (made : new c true true = .ok s)
    (w : Surroundings) (ds : List Deed) (proper : ∀ m, .move m ∈ ds → m.Proper) :
    let ms := ds.flatMap Deed.moves
    let h := (played [] (s.within w) ms).1
    let t := (played [] (s.within w) ms).2
    (0 < t.timeout ∧ t.provisionTimeout = t.timeout ∧ t.associationTimeout = t.timeout) ∧
    (2 ≤ t.maxRunning ∧ 2 ≤ t.registry.maxRunning) ∧
    (t.registry.maxRunning = t.maxRunning ∨ (∃ c ∈ t.calls, c.work = .bounding t.maxRunning) ∨
      History.Overlapped h) ∧
    (∀ i, t.published = some i → ∃ r, t.runs[i]? = some r ∧ r.desk.timeout = t.timeout ∧
      r.desk.panel = lastPanel w.panel ms) ∧
    ∀ path file, IsUnreadable file → (played h t (Deed.reload path file).moves).2 = t := by
  intro ms h t
  have proper' : ∀ m ∈ ms, m.Proper := by
    intro m mem
    obtain ⟨d, there, own⟩ := List.mem_flatMap.1 mem
    exact Deed.proper (fun x same => proper x (same ▸ there)) m own
  have run : IsRun [] (s.within w) := .new made w
  have agrees := agrees_new made w
  obtain ⟨agrees', panel⟩ := agrees_played run agrees proper'
  have begun : (s.within w).Heeds := by
    rw [eq_fresh_of_new made]
    exact .settled rfl rfl
  have heeds := heeds_played run agrees (.inl begun) proper'
  refine ⟨⟨agrees'.positive, agrees'.provision, agrees'.association⟩,
    ⟨agrees'.enough, agrees'.bound⟩, ?_, fun i published => ?_, fun path file unreadable => ?_⟩
  · rcases heeds with heeds | overlapped
    · cases heeds with
      | settled _ same => exact .inl same
      | @due c one last =>
        have mem : c ∈ t.scene.bounding := one ▸ List.mem_singleton_self c
        exact .inr (.inl ⟨c, (List.mem_filter.1 mem).1, last⟩)
    · exact .inr (.inr overlapped)
  · obtain ⟨r, here, set⟩ := Option.map_eq_some_iff.1
      ((List.getElem?_map ..).symm.trans (agrees'.desk i published))
    refine ⟨r, here, congrArg Trim.timeout set, ?_⟩
    exact (congrArg Trim.panel set).trans panel
  · rw [Deed.moves, reload_of_unreadable unreadable path]
    rfl

/-! ### A service that is tuned while it runs -/

namespace Retuned

def settings : String := "coordinator_timeout = \"2s\"\nmax_running_users = 5\n"

def unfinished : String := "max_running_users = "

/-- A negative timeout is ignored; then the settings file is read. -/
def deeds : List Deed :=
  ((startUp 1).map fun a => .move (.act a)) ++
    [.move (.act (.perform {} (.setTimeout (-1)))),
      .move (.act (.perform {} (.setPanel (some ⟨none⟩)))),
      .reload "usercoord.toml" (.text settings), .move (.act (.goOn 5))]

def state : History × System :=
  played [] ((System.fresh Config.default).within {}) (deeds.flatMap Deed.moves)

theorem proper : ∀ m, .move m ∈ deeds → m.Proper := by
  have none : ∀ a ∈ startUp 1, (Move.act a).offered? = none := by decide
  intro m mem
  refine Move.proper_of_offered ?_
  rcases List.mem_append.1 mem with begun | tuned
  · obtain ⟨a, there, same⟩ := List.mem_map.1 begun
    cases same
    exact none a there
  · simp only [List.mem_cons, Deed.move.injEq, reduceCtorEq, List.not_mem_nil, or_false,
      false_or] at tuned
    rcases tuned with rfl | rfl | rfl
    all_goals rfl

/-- While the bound is set to three users, it is set to five. -/
def overlapping : List Action := startUp 1 ++
  [.perform {} (.setMaxRunning 3), .perform {} (.setMaxRunning 5), .goOn 3, .goOn 2]

end Retuned

open Retuned in
/-- The timeout and the bound are those of the settings file, the panel is the one that was set, and
    a file that ends too early changes none of them. -/
theorem tunables_agree_of_reload : state.2.timeout = 2 * Duration.second ∧ state.2.maxRunning = 5 ∧
    state.2.registry.maxRunning = 5 ∧
    (∃ r, state.2.runs[0]? = some r ∧ r.desk.timeout = state.2.timeout ∧
      r.desk.panel = some ⟨none⟩) ∧
    (played state.1 state.2 (Deed.reload "usercoord.toml" (.text unfinished)).moves).2 =
      state.2 := by
  have all := tunables_agree_or_overlap new_default {} deeds proper
  dsimp only at all
  rw [show played [] _ (deeds.flatMap Deed.moves) = state from rfl] at all
  obtain ⟨-, -, -, desk, reload⟩ := all
  have unreadable : IsUnreadable (.text unfinished) := by
    have none : Tunables.parse? unfinished = none := by decide +kernel
    intro t parsed
    rw [none] at parsed
    cases parsed
  have timeout : state.2.timeout = 2 * Duration.second := by decide +kernel
  have ours : state.2.maxRunning = 5 := by decide +kernel
  have bound : state.2.registry.maxRunning = 5 := by decide +kernel
  have published : state.2.published = some 0 := by decide +kernel
  have panel : lastPanel none (deeds.flatMap Deed.moves) = some ⟨none⟩ := by decide +kernel
  obtain ⟨r, here, same, shown⟩ := desk 0 published
  exact ⟨timeout, ours, bound, ⟨r, here, same, shown.trans panel⟩, reload _ _ unreadable⟩

open Retuned in
/-- So it is not true that the registry of a running service goes by the bound of the service
    whenever no call is left: two changes of the bound that overlap leave five users to the service,
    and three to the registry. -/
theorem bounds_differ_after_overlap : ¬∀ (h : History) (s : System), IsRun h s →
    s.manager.phase = .running → s.calls = [] → s.registry.maxRunning = s.maxRunning := by
  intro agree
  have run : IsRun (acted {} overlapping).1 (acted {} overlapping).2 :=
    (IsRun.new new_default {}).play (Move.proper_of_acts (by decide))
  have running : (acted {} overlapping).2.manager.phase = .running := by decide +kernel
  have none : (acted {} overlapping).2.calls = [] :=
    List.length_eq_zero_iff.1 (by decide +kernel)
  have differ : (acted {} overlapping).2.registry.maxRunning ≠
      (acted {} overlapping).2.maxRunning := by decide +kernel
  exact differ (agree _ _ run running none)

end Service

end HeadUnit
