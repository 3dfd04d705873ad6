import HeadUnit.Proofs.Service.Vacancy

/-!
# Every request is answered once

A request for a switch is answered by its desk, under the number of the call that made it: as
the call returns if it waits for that, else by a reply of its own. A caller may leave before,
if its context ends (`Move.Leaves`).

The account of a number (`Scene.tally`) counts the answers said and what the desks still owe.
It is opened by the call of that number, and no move adds to it later; so a number that was
answered is owed nothing any more (`IsRun.settled_of_answer`), and gets no other answer
but that by which its caller leaves (`IsRun.leaves_of_answer`).
-/

namespace HeadUnit.Switching

/-- A move that does not shut the desk down is one of the changes, or changes nothing; one that
    ends a trip, if no two trips share a ticket. -/
theorem Desk.change_or_same (d : Desk) {q : Move} (unclosed : ∀ v, q ≠ .close v)
    (distinct : q.ended? ≠ none → (d.trips.map (·.ticket)).Nodup) :
    Change d q (d.move q).standing ∨ d.move q = d ∧ q.ticket? = none := by
  cases q with
  | request v p k target timeout => exact .inl (change_request d v p k target timeout)
  | tripEnded v k response fault =>
    by_cases outstanding : k ∈ d.trips.map (·.ticket)
    · exact .inl (change_tripEnded d v outstanding (distinct nofun))
    · have none : d.trips.find? (·.ticket == k) = none := by
        refine List.find?_eq_none.2 fun o mem same => outstanding ?_
        exact List.mem_map.2 ⟨o, mem, by simpa using same⟩
      exact .inr ⟨by simp only [move, tripEnded, none], rfl⟩
  | launch k =>
    by_cases waits : k ∈ d.launching.map (·.trip.ticket)
    · exact .inl (change_launch d waits)
    · have none : d.launching.find? (·.trip.ticket == k) = none := by
        refine List.find?_eq_none.2 fun l mem same => waits ?_
        exact List.mem_map.2 ⟨l, mem, by simpa using same⟩
      exact .inr ⟨by simp only [move, launch, none], rfl⟩
  | mark =>
    by_cases doing : d.worker = .marking
    · refine .inl ?_
      rw [move, mark, doing]
      exact standing_note { d with worker := .idle } _ ▸ .marked doing
    · exact .inr ⟨d.mark_of_unable doing, rfl⟩
  | initiate v p token target =>
    rw [move, initiate, standing_post]
    exact .inl .initiated
  | events v p es =>
    rw [move, onEvents, standing_post]
    exact .inl .events
  | start =>
    cases w : d.worker with
    | unstarted =>
      rw [move, start, w]
      exact .inl (.started w)
    | _ => exact .inr ⟨by simp only [move, start, w], rfl⟩
  | work v =>
    by_cases able : d.worker = .idle ∧ d.queue ≠ []
    · exact .inl (change_work d v able.1 able.2)
    · refine .inr ⟨?_, rfl⟩
      rw [move, work?]
      split
      · next idle next => exact absurd ⟨idle, by simp [next]⟩ able
      · rfl
  | committed v fault =>
    by_cases busy : d.worker.commit?.isSome
    · exact .inl (change_committed d v busy)
    · refine .inr ⟨?_, rfl⟩
      rw [move, committed]
      split
      · next doing => exact absurd (by rw [doing]; rfl) busy
      · rfl
  | stop v =>
    by_cases able : d.worker = .idle ∧ d.contextDone = true
    · exact .inl (change_stop d v able.1 able.2)
    · refine .inr ⟨?_, rfl⟩
      rw [move, stop?]
      split
      · next idle => rw [if_neg fun ended => able ⟨idle, ended⟩, Option.getD_none]
      · rfl
  | close v => exact absurd rfl (unclosed v)
  | endContext | setPanel => exact .inl (.adjusted rfl)
  | setTimeout t =>
    have same : (d.setTimeout t).standing = d.standing := by
      unfold Desk.setTimeout
      split <;> rfl
    rw [move, same]
    exact .inl (.adjusted rfl)

/-- Only a request opens an account at a desk, and nothing closes one. -/
theorem Desk.tally_move (d : Desk) {q : Move} (unclosed : ∀ v, q ≠ .close v)
    (distinct : q.ended? ≠ none → (d.trips.map (·.ticket)).Nodup) (k : Ticket) :
    (d.move q).standing.tally k = d.standing.tally k + q.ticket?.toList.count k := by
  rcases d.change_or_same unclosed distinct with change | ⟨same, unasked⟩
  · exact change.tally_eq k
  · rw [same, unasked]
    rfl

/-- What a move says is taken off the account of the desk. -/
theorem Moment.tally_after (m : Moment) (k : Ticket) :
    (m.effects.filterMap (·.result?)).countP (·.1 = k) + m.after.standing.tally k =
      (m.before.move m.move).standing.tally k := by
  rw [m.results_eq, m.standing_after]
  exact congrArg _ (Nat.zero_add _)

end HeadUnit.Switching

namespace HeadUnit.Service

open Switching (Desk)
open HeadUnit.Service.System

/-- Settings ask for nothing, and end and close nothing. -/
theorem setting_spec {q : Switching.Move} (setting : IsSetting q) :
    (∀ v, q ≠ .close v) ∧ q.ended? = none ∧ q.ticket? = none := by
  cases q with
  | start | endContext | setTimeout | setPanel => exact ⟨nofun, rfl, rfl⟩
  | _ => exact setting.elim

/-- Settings open no account. -/
theorem tally_setting (d : Desk) {q : Switching.Move} (setting : IsSetting q) (k : Switching.Ticket) :
    (d.move q).standing.tally k = d.standing.tally k := by
  obtain ⟨unclosed, unended, unasked⟩ := setting_spec setting
  rw [d.tally_move unclosed (fun ends => absurd unended ends) k, unasked]
  rfl

/-! ## Answers -/

/-- The answer to a request for a switch. -/
def Effect.answer? : Effect → Option (Switching.Ticket × SwitchResult)
  | .replied k r | .returned k (.switch r) => some (k, r)
  | _ => none

namespace Scene

/-- What was answered. -/
def answers (x : Scene) : List (Switching.Ticket × SwitchResult) :=
  x.said.filterMap (·.answer?)

/-- What the desks owe the number `k`. -/
def owed (x : Scene) (k : Switching.Ticket) : Nat := (x.desks.map (·.standing.tally k)).sum

/-- How many answers the number `k` has got, and how many it is owed. -/
def tally (x : Scene) (k : Switching.Ticket) : Nat := x.answers.countP (·.1 = k) + x.owed k

variable {x y : Scene}

theorem answers_say (e : Effect) : (x.say e).answers = x.answers ++ e.answer?.toList := by
  rw [answers, say, List.filterMap_append, ← answers]
  congr 1
  cases e with
  | returned id r => cases r <;> rfl
  | _ => rfl

theorem answers_finish (id : Nat) (r : Result) :
    (x.finish id r).answers = x.answers ++ (Effect.returned id r).answer?.toList := answers_say _

theorem Hears.answers {i : Nat} {e : Switching.Effect} (hears : x.Hears i e y) :
    y.answers = x.answers ++ e.result?.toList := by
  cases hears with
  | noted n => cases n <;> exact (List.append_nil _).symm
  | switched | posted => exact answers_finish ..
  | replied | committed | notified | signalled => exact answers_say ..
  | asked | turned | passed => exact (List.append_nil _).symm

/-- What a desk asks for is said in the same order. -/
theorem filterMap_foldl_hear {α : Type} {f : Effect → Option α} {g : Switching.Effect → Option α}
    {i : Nat} (one : ∀ (x : Scene) (e : Switching.Effect),
      (x.hear i e).said.filterMap f = x.said.filterMap f ++ (g e).toList)
    (x : Scene) (es : List Switching.Effect) :
    (es.foldl (hear i) x).said.filterMap f = x.said.filterMap f ++ es.filterMap g := by
  induction es generalizing x with
  | nil => exact (List.append_nil _).symm
  | cons e es ih =>
    rw [List.foldl_cons, ih, one, List.append_assoc]
    cases h : g e <;> simp [h]

theorem answers_foldl_hear (i : Nat) (es : List Switching.Effect) :
    (es.foldl (hear i) x).answers = x.answers ++ es.filterMap (·.result?) :=
  filterMap_foldl_hear (fun x e => (x.hears i e).answers) x es

end Scene

/-- One element of a list changes in a way that does not show. -/
theorem map_modify_of_same {α β : Type} {f : α → α} {g : α → β} (same : ∀ a, g (f a) = g a)
    (l : List α) (i : Nat) : (l.modify i f).map g = l.map g := by
  refine List.ext_getElem? fun j => ?_
  simp only [List.getElem?_map, List.getElem?_modify]
  cases l[j]? with
  | none => rfl
  | some a =>
    by_cases own : i = j
    · simp [own, same]
    · simp [own]

/-- One element of a list changes, and with it the sum. -/
theorem sum_map_set {α : Type} (f : α → Nat) {l : List α} {i : Nat} {a : α} (here : l[i]? = some a)
    (b : α) : ((l.set i b).map f).sum + f a = (l.map f).sum + f b := by
  induction l generalizing i with
  | nil => cases here
  | cons c l ih =>
    cases i with
    | zero =>
      cases here
      simp only [List.set_cons_zero, List.map_cons, List.sum_cons]
      omega
    | succ i =>
      have rest := ih (i := i) (by simpa using here)
      simp only [List.set_cons_succ, List.map_cons, List.sum_cons]
      omega

namespace Scene

variable {x y : Scene}

theorem tally_say (e : Effect) (k : Switching.Ticket) :
    (x.say e).tally k = x.tally k + e.answer?.toList.countP (·.1 = k) := by
  rw [tally, answers_say, List.countP_append, tally]
  exact Nat.add_right_comm ..

theorem tally_finish (id : Nat) (r : Result) (k : Switching.Ticket) : (x.finish id r).tally k =
    x.tally k + (Effect.returned id r).answer?.toList.countP (·.1 = k) :=
  tally_say (x := { x with calls := x.calls.filter (·.id != id) }) _ k

/-- Neither the desks nor what was answered change. -/
theorem tally_of_same (desks : y.desks = x.desks) (answers : y.answers = x.answers)
    (k : Switching.Ticket) :
    y.tally k = x.tally k := by
  rw [tally, owed, desks, answers, tally, owed]

/-- A move of a desk adds to the account of the number that it is asked under. -/
theorem tally_moveDesk (i : Nat) {q : Switching.Move} (unclosed : ∀ v, q ≠ .close v)
    (distinct : q.ended? ≠ none → ∀ r, x.runs[i]? = some r → (r.desk.trips.map (·.ticket)).Nodup)
    (k : Switching.Ticket) : (x.moveDesk i q).tally k ≤ x.tally k + q.ticket?.toList.count k := by
  cases here : x.runs[i]? with
  | none =>
    rw [moveDesk, here]
    exact Nat.le_add_right ..
  | some r =>
    have answered : (x.moveDesk i q).answers =
        x.answers ++ (Switching.Moment.mk r.desk q).effects.filterMap (·.result?) := by
      rw [moveDesk, here]
      exact answers_foldl_hear ..
    have desk := r.desk.tally_move unclosed (fun ends => distinct ends r here) k
    have said := (Switching.Moment.mk r.desk q).tally_after k
    have owed := sum_map_set (·.standing.tally k) (desks_getElem? here)
      (Switching.Moment.mk r.desk q).after
    rw [tally, tally, answered, List.countP_append, Scene.owed, desks_moveDesk here, Scene.owed]
    dsimp only at said
    omega

/-! ### Steps -/

theorem Step.tally_le {p p' : Scene × (Nat → Hand)} (step : Step p p') (k : Switching.Ticket) :
    p'.1.tally k ≤ p.1.tally k := by
  cases step with
  | asked | answered | passed => exact Nat.le_refl _
  | told x hand n other => exact (tally_say (.notify n) k).le
  | bus x hand i m outer =>
    have same : (x.onBus i (·.move m)).desks = x.desks := desks_onRun i fun _ => rfl
    exact (tally_of_same same rfl k).le
  | worked x i r here =>
    have same : (x.onBus i fun _ => (Bus.Moment.mk r.bus .work).after).desks = x.desks :=
      desks_onRun i fun _ => rfl
    exact (tally_of_same same rfl k).le
  | taken x i r here =>
    have same : (x.onBus i fun _ => r.bus.take.2).desks = x.desks := desks_onRun i fun _ => rfl
    exact (tally_of_same same rfl k).le
  | died x hand h =>
    have same : ({ x with runs := x.runs.map fun r =>
        { r with bus := r.bus.handleDied h } } : Scene).desks = x.desks := List.map_map ..
    exact (tally_of_same same rfl k).le
  | noted x i n es => cases n <;> exact Nat.le_refl _
  | found x hand i u =>
    have same : (x.onRun i fun r => { r with found := u }).desks = x.desks :=
      desks_onRun i fun _ => rfl
    exact (tally_of_same same rfl k).le
  | called x i v event es =>
    exact tally_moveDesk (q := .events v .bus [event]) i nofun (fun ends => absurd rfl ends) k
  | setting x hand i q setting =>
    have desks : (x.onRun i fun r => { r with desk := r.desk.move q }).desks =
        x.desks.modify i (·.move q) := map_modify (fun _ => by rfl) x.runs i
    have owed : (x.onRun i fun r => { r with desk := r.desk.move q }).owed k = x.owed k := by
      rw [owed, desks, map_modify_of_same fun d => tally_setting d setting k, owed]
    exact (congrArg (x.answers.countP (·.1 = k) + ·) owed).le
  | ended x hand c r found yields =>
    have none : (Effect.returned c.id r).answer? = none := by
      obtain ⟨_, _, w⟩ := c
      cases w <;> cases r <;> first | rfl | exact yields.elim
    rw [tally_finish, none]
    exact Nat.le_refl _

theorem Steps.tally_le {p p' : Scene × (Nat → Hand)} (steps : Steps p p') (k : Switching.Ticket) :
    p'.1.tally k ≤ p.1.tally k := by
  induction steps with
  | refl => exact Nat.le_refl _
  | tail _ step ih => exact (step.tally_le k).trans ih

/-! ### Calls -/

theorem Opens.lt_nextId {m : Move} (opens : x.Opens m y) : x.nextId < y.nextId := by
  cases opens <;> exact Nat.lt_succ_self _

theorem Opens.tally_eq {m : Move} (opens : x.Opens m y) (k : Switching.Ticket) :
    y.tally k = x.tally k := by
  cases opens <;> rfl

/-- A call that returns may get an answer. -/
theorem Closes.tally_le {id : Nat} (closes : x.Closes id y) (k : Switching.Ticket) :
    y.tally k ≤ x.tally k + if id = k then 1 else 0 := by
  cases closes with
  | pending => exact Nat.le_add_right ..
  | returned r =>
    rw [tally_finish]
    refine Nat.add_le_add_left ?_ _
    cases r with
    | «switch» r => simp [Effect.answer?, List.countP_cons]
    | _ => exact Nat.zero_le _
  | replied r =>
    rw [tally_finish, tally_say]
    simp [Effect.answer?, List.countP_cons]

end Scene

/-! ## Moves -/

namespace Scene

variable (x : Scene)

theorem answers_enter (p : Phase) (reason : String) : (x.enter p reason).answers = x.answers :=
  (answers_say _).trans (List.append_nil _)

theorem answers_status (id : Nat) (fault : Option Fault) :
    (x.finish id (.status fault)).answers = x.answers :=
  (answers_finish id _).trans (List.append_nil _)

theorem answers_prepare (id k : Nat) : (x.prepare id k).answers = x.answers := by
  unfold prepare
  split
  · exact (answers_say _).trans (List.append_nil _)
  · exact (answers_status ..).trans (answers_enter ..)

end Scene

/-- A desk as it is made owes nothing. -/
theorem Run.IsNew.tally_eq {r : Run} {group : Option Nat} (new : r.IsNew group)
    (k : Switching.Ticket) : r.desk.standing.tally k = 0 := by
  obtain ⟨timeout, headless, desk⟩ := new.desk
  rw [desk]
  exact tally_setting (q := .start) (Desk.fresh timeout headless) trivial k

/-- Starts and stops answer nothing. -/
theorem Steering.tally_le {x y : Scene} {m : Move} (steering : Steering x m y)
    (numbered : x.Numbered) (k : Switching.Ticket) : y.tally k ≤ x.tally k := by
  have same {y : Scene} (desks : y.desks = x.desks) (answers : y.answers = x.answers) :
      y.tally k ≤ x.tally k := (Scene.tally_of_same desks answers k).le
  cases steering with
  | idle => exact Nat.le_refl _
  | queued begins =>
    obtain ⟨_, _, _, n, cs, rfl⟩ := begins.enters numbered
    exact Nat.le_refl _
  | refused begins =>
    obtain ⟨_, _, _, n, cs, rfl⟩ := begins.enters numbered
    exact same rfl (Scene.answers_status ..)
  | begun begins =>
    obtain ⟨_, _, _, n, cs, rfl⟩ := begins.enters numbered
    exact same rfl (Scene.answers_enter ..)
  | advanced | accepted | rejected => exact same rfl rfl
  | broken => exact same rfl ((Scene.answers_finish ..).trans (List.append_nil _))
  | @built id r move tasks new =>
    have desks : (x.build id r).desks = x.desks ++ [r.desk] := List.map_append
    have answers : (x.build id r).answers = x.answers := rfl
    rw [Scene.tally, answers, Scene.owed, desks, List.map_append, List.sum_append,
      List.map_singleton, new.tally_eq k]
    exact Nat.le_refl _
  | stopped begins =>
    obtain ⟨_, _, _, n, cs, rfl⟩ := begins.enters numbered
    exact same rfl (Scene.answers_enter ..)
  | published | prepared =>
    exact same (congrArg (List.map Run.desk) (Scene.runs_prepare ..)) (Scene.answers_prepare ..)
  | failed => exact same rfl rfl
  | aborted => exact same rfl ((Scene.answers_status ..).trans (Scene.answers_enter ..))
  | halted | expired => exact same rfl (Scene.answers_enter ..)
  | shut => exact same rfl ((Scene.answers_say _).trans (List.append_nil _))
  | finished => exact same rfl (Scene.answers_status ..)
  | busReaped | deskReaped => exact same (Scene.desks_onRun _ fun _ => rfl) rfl
  | orphaned => exact same rfl rfl

/-- What a move asks of a desk under a number is asked under its own. -/
theorem asks_spec {s : System} {m : Move} {q : Switching.Move} (asks : Asks s m q) :
    (∀ v, q ≠ .close v) ∧ q.ended? = none ∧ ∀ k, q.ticket? = some k → k = s.nextId := by
  cases q with
  | request v p k target timeout => exact ⟨nofun, rfl, fun k' own => Option.some.inj own ▸ asks⟩
  | initiate => exact ⟨nofun, rfl, nofun⟩
  | _ => exact asks.elim

/-- Up to its last step, by which a caller may leave, a move adds at most to the account of the
    call that it makes. -/
theorem Happening.tally_le {s : System} {m : Move} {y : Scene} (happening : Happening s m y)
    (wired : s.sink = .service) (numbered : s.scene.Numbered)
    (distinct : ∀ {i : Nat} {r : Run}, s.runs[i]? = some r → (r.desk.trips.map (·.ticket)).Nodup) :
    ∃ (id : Nat) (x : Scene), (∀ k : Nat, x.tally k ≤ s.scene.tally k +
      if s.nextId = k ∧ k < x.nextId then 1 else 0) ∧ x.Left s m id y := by
  -- Nothing is added.
  have plain {x : Scene} (le : ∀ k, x.tally k ≤ s.scene.tally k) :
      ∃ (id : Nat) (x' : Scene), (∀ k : Nat, x'.tally k ≤ s.scene.tally k +
        if s.nextId = k ∧ k < x'.nextId then 1 else 0) ∧ x'.Left s m id x :=
    ⟨0, x, fun k => (le k).trans (Nat.le_add_right ..), .stayed⟩
  cases happening with
  | behind steps => exact plain (Scene.Steps.tally_le steps)
  | performed opens steps closes =>
    refine ⟨0, y, fun k => ?_, .stayed⟩
    have opened := opens.keeps numbered
    have more : s.nextId < y.nextId := by
      refine Nat.lt_of_lt_of_le opens.lt_nextId ((Scene.Steps.keeps steps opened.numbered).ids.trans ?_)
      cases closes <;> exact Nat.le_refl _
    have closed := closes.tally_le k
    have stepped := Scene.Steps.tally_le steps k
    rw [opens.tally_eq] at stepped
    split at closed
    · next own =>
      rw [if_pos ⟨own, own ▸ more⟩]
      exact closed.trans (Nat.add_le_add_right stepped 1)
    · next other =>
      rw [if_neg fun both => other both.1]
      exact closed.trans (Nat.add_le_add_right stepped 0)
  | @asked i q x z published asks sees opens left =>
    refine ⟨s.nextId, x.moveDesk i q, fun k => ?_, left⟩
    have opened := opens.keeps numbered
    have more : s.nextId < (x.moveDesk i q).nextId :=
      Nat.lt_of_lt_of_le opens.lt_nextId (Scene.Keeps.moveDesk opened.numbered i q).ids
    obtain ⟨unclosed, unended, own⟩ := asks_spec asks
    have moved := Scene.tally_moveDesk (x := x) i unclosed (fun ends => absurd unended ends) k
    rw [opens.tally_eq] at moved
    refine moved.trans (Nat.add_le_add_left ?_ _)
    split
    · exact List.count_le_length.trans (Option.length_toList_le ..)
    · next other =>
      refine (List.count_eq_zero.2 fun mem => other ?_).le
      have same : k = s.nextId := own k (Option.mem_toList.1 mem)
      exact ⟨same.symm, same ▸ more⟩
  | @left id z left => exact ⟨id, s.scene, fun k => Nat.le_add_right .., left⟩
  | @worked i move =>
    exact plain fun k =>
      Scene.tally_moveDesk (q := .work s.view) i nofun (fun ends => absurd rfl ends) k
  | @stopped i move =>
    exact plain fun k =>
      Scene.tally_moveDesk (q := .stop s.view) i nofun (fun ends => absurd rfl ends) k
  | @tripEnded id i v k response fault ends found =>
    exact plain fun k' => Scene.tally_moveDesk (q := .tripEnded v k response fault)
      (x := { s.scene with asks := s.scene.asks.filter (·.1 != id) }) i nofun
      (fun _ r here => distinct here) k'
  | @committed i r c t fault move here doing switched =>
    have leads := leads_onSessions s wired .worker (s.sessions.switchTo c.target s.millis)
    rw [switched] at leads
    refine plain fun k => ?_
    exact (Scene.tally_moveDesk (q := .committed t.view fault) i nofun
      (fun ends => absurd rfl ends) k).trans (Scene.Steps.tally_le leads k)
  | @launched i ticket move =>
    exact plain fun k =>
      Scene.tally_moveDesk (q := .launch ticket) i nofun (fun ends => absurd rfl ends) k
  | @marked i move =>
    exact plain fun k => Scene.tally_moveDesk (q := .mark) i nofun (fun ends => absurd rfl ends) k
  | @bounded c n r move found work returns =>
    refine plain fun k => ?_
    rw [Scene.tally_finish]
    rcases returns with rfl | rfl <;> exact Nat.le_refl _
  | steered steering => exact plain (steering.tally_le numbered)
  | wired move tasks steps steering =>
    exact plain fun k => (steering.tally_le (Scene.Steps.keeps steps numbered).numbered k).trans
      (Scene.Steps.tally_le steps k)

namespace Scene.Left

variable {s : System} {m : Move} {id : Nat} {x y : Scene}

theorem nextId_eq (left : x.Left s m id y) : y.nextId = x.nextId := by
  cases left <;> rfl

theorem owed_eq (left : x.Left s m id y) (k : Switching.Ticket) : y.owed k = x.owed k := by
  cases left <;> rfl

/-- Whatever is answered was answered before, or to a caller who leaves. -/
theorem answers_subset (left : x.Left s m id y) {k : Nat} {r : SwitchResult}
    (answer : (k, r) ∈ y.answers) : (k, r) ∈ x.answers ∨ m.Leaves s k := by
  cases left with
  | stayed => exact .inl answer
  | left deadline f leaves waits =>
    rw [answers_finish] at answer
    rcases List.mem_append.1 answer with old | new
    · exact .inl old
    · cases List.mem_singleton.1 new
      exact .inr leaves

end Scene.Left

/-! ## Runs -/

/-- The answers given by a move. -/
def Moment.answers (m : Moment) : List (Switching.Ticket × SwitchResult) :=
  m.effects.filterMap (·.answer?)

/-- Answers are loud. -/
theorem Moment.answers_outcome (m : Moment) : m.outcome.answers = m.answers := by
  rw [Scene.answers, m.said_outcome, List.filterMap_filter, answers]
  congr 1
  funext e
  cases e with
  | returned id r => rfl
  | _ => rfl

namespace IsRun

variable {h : History} {s : System}

/-- No two trips of a desk share a ticket. -/
theorem nodup_trips (run : IsRun h s) {i : Nat} {r : Run} (here : s.runs[i]? = some r) :
    (r.desk.trips.map (·.ticket)).Nodup := by
  obtain ⟨_, service⟩ := run.serves here
  exact Desk.nodup_trips fun k => (Nat.le_add_left ..).trans (service.run.tally_le_one k)

/-- Between moves the account of a number is what it is owed. -/
theorem tally_eq_owed (run : IsRun h s) (k : Switching.Ticket) : s.scene.tally k = s.scene.owed k := by
  have none : s.scene.answers = [] := by
    simp only [Scene.answers, System.scene, run.out_eq_nil, List.filter_nil, List.filterMap_nil]
  rw [Scene.tally, none]
  exact Nat.zero_add _

/-- What a move adds to the accounts, up to the step by which a caller may leave. -/
theorem account (run : IsRun h s) {m : Move} (proper : m.Proper) :
    ∃ (id : Nat) (x : Scene), (∀ k : Nat, x.tally k ≤ s.scene.owed k +
      if s.nextId = k ∧ k < x.nextId then 1 else 0) ∧ x.Left s m id (Moment.mk s m).outcome := by
  obtain ⟨id, x, le, left⟩ := (run.happening proper).tally_le run.sink run.orderly.numbered
    run.nodup_trips
  exact ⟨id, x, fun k => run.tally_eq_owed k ▸ le k, left⟩

/-- At most one answer is owed, and only to a number that was given out. -/
theorem owed_le (run : IsRun h s) (k : Nat) :
    s.scene.owed k ≤ if k < s.nextId then 1 else 0 := by
  induction run with
  | new made w =>
    rw [eq_fresh_of_new made]
    exact Nat.zero_le _
  | @step h s m run proper ih =>
    obtain ⟨id, x, le, left⟩ := run.account proper
    have owed : (Moment.mk s m).after.scene.owed k = x.owed k := left.owed_eq k
    have next : (Moment.mk s m).after.nextId = x.nextId := left.nextId_eq
    have more : s.nextId ≤ (Moment.mk s m).after.nextId := ((Moment.mk s m).change proper).ids
    have sum := (Nat.le_add_left (x.owed k) _).trans (le k)
    rw [owed, next]
    rw [next] at more
    split at ih <;> split at sum <;> split <;> omega

/-- Once a number was answered, it is owed nothing any more. -/
theorem settled_of_answer (run : IsRun h s) {n : Moment} (mem : n ∈ h) {k : Nat}
    {r : SwitchResult} (answer : (k, r) ∈ n.answers) (stays : ¬n.move.Leaves n.before k) :
    s.scene.owed k = 0 ∧ k < s.nextId := by
  induction run with
  | new => cases mem
  | @step h s m run proper ih =>
    obtain ⟨id, x, le, left⟩ := run.account proper
    have owed : (Moment.mk s m).after.scene.owed k = x.owed k := left.owed_eq k
    have next : (Moment.mk s m).after.nextId = x.nextId := left.nextId_eq
    have more : s.nextId ≤ (Moment.mk s m).after.nextId := ((Moment.mk s m).change proper).ids
    have bound := run.owed_le k
    have sum := le k
    rw [owed, next]
    rw [next] at more
    rcases List.mem_append.1 mem with old | now
    · -- Nothing is added to what was settled before.
      obtain ⟨none, given⟩ := ih old
      have owed_le := (Nat.le_add_left (x.owed k) _).trans sum
      rw [none, if_neg (fun both => Nat.ne_of_lt given both.1.symm)] at owed_le
      exact ⟨Nat.eq_zero_of_le_zero owed_le, Nat.lt_of_lt_of_le given more⟩
    · -- One of at most one is said.
      obtain rfl := List.mem_singleton.1 now
      rw [← Moment.answers_outcome] at answer
      have said := (left.answers_subset answer).resolve_right stays
      have count : 0 < x.answers.countP (·.1 = k) := List.countP_pos_iff.2 ⟨_, said, by simp⟩
      rw [Scene.tally] at sum
      split at bound <;> split at sum <;> omega

/-- A number that is owed nothing gets no answer but to a caller who leaves. -/
theorem leaves_of_answer (run : IsRun h s) {m : Move} (proper : m.Proper) {k : Nat}
    (none : s.scene.owed k = 0) (given : k < s.nextId) {r : SwitchResult}
    (answer : (k, r) ∈ (Moment.mk s m).answers) : m.Leaves s k := by
  obtain ⟨id, x, le, left⟩ := run.account proper
  rw [← Moment.answers_outcome] at answer
  refine (left.answers_subset answer).resolve_left fun said => ?_
  have count : 0 < x.answers.countP (·.1 = k) := List.countP_pos_iff.2 ⟨_, said, by simp⟩
  have sum := le k
  rw [none, if_neg (fun both => Nat.ne_of_lt given both.1.symm), Scene.tally] at sum
  omega

end IsRun

end HeadUnit.Service
