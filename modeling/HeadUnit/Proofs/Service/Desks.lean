import HeadUnit.Proofs.Service.Change
import HeadUnit.Proofs.Switching.Numbering

/-!
# The desks of a service

The desk of each run of the service makes a run of its own, so all that is known
about runs of desks holds of it (`IsRun.serves`). Its tickets are numbers that the
service has given out, each move of the service installs one transaction at most,
and the vehicle has started only the switches that it has started at the service.
-/

namespace HeadUnit.Service

open Switching (Desk)
open Switching.History (requested transactions Initiated)

/-- The desk accepts until its worker stops. -/
def IsStaffed (worker : Switching.Worker) (closed : Bool) : Prop :=
  closed = false ∨ worker = .stopped

/-- After the history `h`, the desk `d` is in service: no ticket has reached `ids`, at
    most `count` transactions were installed, and the vehicle has started no switches but
    the `switches`. -/
structure InService (h : Switching.History) (d : Desk) (ids count : Nat)
    (switches : List (Token × UserId)) : Prop where
  run : Switching.IsRun h d
  staffed : IsStaffed d.worker d.closed
  tickets : ∀ k ∈ requested h, k < ids
  few : (transactions h).length ≤ count
  initiated : ∀ token target, Initiated h token target → (token, target) ∈ switches

/-- The desk is in service after some history. -/
def Serves (ids count : Nat) (switches : List (Token × UserId)) (d : Desk) : Prop :=
  ∃ h, InService h d ids count switches

/-! ## The worker -/

theorem isStaffed_post {s : Switching.Standing} (staffed : IsStaffed s.worker s.closed)
    (v : Switching.View) (cs : List Switching.Command) :
    IsStaffed (s.post v cs).worker (s.post v cs).closed := by
  unfold Switching.Standing.post
  split
  · exact staffed
  · exact staffed

/-- A desk that is not shut down stays staffed. -/
theorem isStaffed_of_change {d : Desk} {q : Switching.Move} {s : Switching.Standing}
    (change : Switching.Change d q s) (stays : ∀ v, q ≠ .stop v ∧ q ≠ .close v)
    (staffed : IsStaffed d.worker d.closed) : IsStaffed s.worker s.closed := by
  -- Unless it has stopped, the worker may do anything.
  have active {w : Switching.Worker} (busy : d.worker ≠ .stopped) : IsStaffed w d.closed :=
    .inl (staffed.resolve_right busy)
  cases change with
  | direct | initiated | events => exact isStaffed_post staffed ..
  | tripEnded o rest => exact isStaffed_post (s := { d.standing with trips := rest }) staffed ..
  | started new => exact active (by rw [new]; nofun)
  | approved a rest takes | directTaken rest takes | initiatedTaken rest takes =>
    exact active (by rw [takes.idle]; nofun)
  | commitSuperseded a doing | commitFailed a doing | commitDone a doing | directFailed doing
  | directDone doing | initiatedFailed doing | initiatedDone doing | marked doing =>
    exact active (by rw [doing]; nofun)
  | closed tx w down =>
    rcases down with e | e
    · exact absurd e (stays _).1
    · exact absurd e (stays _).2
  | _ => exact staffed

/-- A desk that stops is staffed, too. -/
theorem isStaffed_stop {d : Desk} {v : Switching.View} (staffed : IsStaffed d.worker d.closed) :
    IsStaffed ((d.stop? v).getD d).worker ((d.stop? v).getD d).closed := by
  unfold Desk.stop?
  split
  · split
    · exact .inr rfl
    · exact staffed
  · exact staffed

/-! ## Moves -/

namespace InService

variable {h : Switching.History} {d : Desk} {ids count : Nat} {switches : List (Token × UserId)}

/-- A possible move keeps the desk in service, with what the move brings along. -/
theorem move (service : InService h d ids count switches) {q : Switching.Move}
    (able : Switching.Allowed h d q) (open' : ∀ v, q ≠ .close v) {ids' count' : Nat}
    (more : ids ≤ ids') (ticket : ∀ k, q.ticket? = some k → k < ids')
    (room : count + (Switching.Moment.mk d q).installed?.toList.length ≤ count')
    (own : ∀ v p token target, q = .initiate v p token target → (token, target) ∈ switches) :
    InService (h ++ [⟨d, q⟩]) (Switching.Moment.mk d q).after ids' count' switches where
  run := service.run.step able
  staffed := by
    -- Only a stop closes the desk, and it stops the worker as well.
    by_cases stops : ∃ v, q = .stop v
    · obtain ⟨v, rfl⟩ := stops
      exact isStaffed_stop service.staffed
    · refine isStaffed_of_change (service.run.change able) (fun v => ⟨?_, open' v⟩) service.staffed
      exact fun e => stops ⟨v, e⟩
  tickets k mem := by
    rw [Switching.History.requested_snoc, List.mem_append] at mem
    rcases mem with old | new
    · exact Nat.lt_of_lt_of_le (service.tickets k old) more
    · exact ticket k (Option.mem_toList.1 new)
  few := by
    rw [Switching.History.transactions_snoc, List.length_append]
    exact Nat.le_trans (Nat.add_le_add_right service.few _) room
  initiated token target := by
    rintro ⟨m, mem, v, p, e⟩
    rcases List.mem_append.1 mem with old | new
    · exact service.initiated token target ⟨m, old, v, p, e⟩
    · obtain rfl := List.mem_singleton.1 new
      exact own v p token target e

end InService

/-- Only requests and commits give out numbers. -/
theorem seq_of_own {d : Desk} {q : Switching.Move} {s : Switching.Standing}
    (change : Switching.Change d q s) (own : IsOwn q ∨ IsSetting q) : s.seq = d.seq := by
  cases change with
  | installed | initiatedDone => exact (own.elim (fun h => h) fun h => h : False).elim
  | direct | tripEnded | initiated | events => exact Switching.Standing.post_seq ..
  | _ => rfl

/-- What nobody asked for brings nothing along. -/
theorem InService.plain {h : Switching.History} {d : Desk} {ids count : Nat}
    {switches : List (Token × UserId)} (service : InService h d ids count switches)
    {q : Switching.Move} (able : Switching.Allowed h d q) (own : IsOwn q ∨ IsSetting q) :
    InService (h ++ [⟨d, q⟩]) (Switching.Moment.mk d q).after ids count switches := by
  have none : (Switching.Moment.mk d q).installed? = none :=
    Switching.Moment.installed?_of_seq_eq (seq_of_own (service.run.change able) own)
  refine service.move able ?_ (Nat.le_refl _) ?_ (by rw [none]; rfl) ?_
  · rintro v rfl
    exact own.elim id id
  · intro k e
    cases q with
    | request => exact (own.elim id id).elim
    | _ => cases e
  · rintro v p token target rfl
    exact (own.elim id id).elim

/-- A move of a desk in service that is not possible changes nothing. -/
theorem allowed_or_same {h : Switching.History} {d : Desk} (staffed : IsStaffed d.worker d.closed)
    {q : Switching.Move} (own : IsOwn q ∨ IsSetting q) :
    Switching.Allowed h d q ∨ d.move q = d := by
  cases q with
  | start =>
    cases w : d.worker with
    | unstarted => exact .inl w
    | _ => exact .inr (by simp only [Desk.move, Desk.start, w])
  | endContext | setTimeout | setPanel => exact .inl trivial
  | launch k =>
    by_cases waits : k ∈ d.launching.map (·.trip.ticket)
    · exact .inl waits
    · have none : d.launching.find? (·.trip.ticket == k) = none := by
        refine List.find?_eq_none.2 fun l mem same => waits ?_
        exact List.mem_map.2 ⟨l, mem, by simpa using same⟩
      exact .inr (by simp only [Desk.move, Desk.launch, none])
  | mark =>
    by_cases doing : d.worker = .marking
    · exact .inl doing
    · exact .inr (d.mark_of_unable doing)
  | tripEnded v k response fault =>
    by_cases outstanding : k ∈ d.trips.map (·.ticket)
    · exact .inl outstanding
    · have none : d.trips.find? (·.ticket == k) = none := by
        refine List.find?_eq_none.2 fun o mem same => outstanding ?_
        exact List.mem_map.2 ⟨o, mem, by simpa using same⟩
      exact .inr (by simp only [Desk.move, Desk.tripEnded, none])
  | events v p es => exact .inl trivial
  | work v =>
    by_cases able : d.worker = .idle ∧ d.queue ≠ []
    · exact .inl able
    · exact .inr (by rw [Desk.move, Desk.work_of_unable d v able]; rfl)
  | stop v =>
    cases next : d.stop? v with
    | none => exact .inr (by rw [Desk.move, next]; rfl)
    | some d' =>
      unfold Desk.stop? at next
      split at next
      · next idle =>
        split at next
        · next ended =>
          exact .inl ⟨idle, ended, staffed.resolve_right (by simp [idle])⟩
        · cases next
      · cases next
  | _ => exact (own.elim id id).elim

/-! ## Desks that nobody has asked -/

/-- Nobody has asked for a switch: nothing is tracked, and the worker has only news to take. -/
structure IsUnasked (s : Switching.Standing) : Prop where
  tx : s.tx = none
  seq : s.seq = 0
  trips : s.trips = 0
  launching : s.launching = 0
  marks : s.worker ≠ .marking
  commits : ∀ c, s.worker ≠ .committing c
  news : ∀ c ∈ s.pending, c.IsNews

namespace IsUnasked

/-- A desk as it is made. -/
theorem fresh (timeout : Duration) (headless : Bool) :
    IsUnasked (Desk.fresh timeout headless).start.standing :=
  ⟨rfl, rfl, rfl, rfl, nofun, nofun, fun c mem => absurd mem (Multiset.notMem_zero c)⟩

/-- News are handed to the worker. -/
theorem post {s : Switching.Standing} (unasked : IsUnasked s) (v : Switching.View)
    {cs : List Switching.Command} (news : ∀ c ∈ cs, c.IsNews) : IsUnasked (s.post v cs) := by
  unfold Switching.Standing.post
  split
  · exact ⟨unasked.tx, unasked.seq, unasked.trips, unasked.launching, unasked.marks,
      unasked.commits, unasked.news⟩
  · refine ⟨unasked.tx, unasked.seq, unasked.trips, unasked.launching, unasked.marks,
      unasked.commits, fun c mem => ?_⟩
    rcases Multiset.mem_add.1 mem with old | new
    · exact unasked.news c old
    · exact news c new

/-- What was said does not matter. -/
theorem take {d : Desk} (unasked : IsUnasked d.standing) : IsUnasked d.take.2.standing :=
  ⟨unasked.tx, unasked.seq, unasked.trips, unasked.launching, unasked.marks, unasked.commits,
    unasked.news⟩

/-- A desk that nobody has asked does not begin a switch by itself. -/
theorem of_change {d : Desk} {q : Switching.Move} {s : Switching.Standing}
    (change : Switching.Change d q s) (own : IsOwn q ∨ IsSetting q)
    (unasked : IsUnasked d.standing) : IsUnasked s := by
  obtain ⟨tx, seq, trips, launching, marks, commits, news⟩ := unasked
  -- Whatever the worker takes is among the news.
  have taken {c : Switching.Command} {rest : Multiset Switching.Command}
      (takes : Switching.Takes d c rest) : c.IsNews ∧ ∀ c ∈ rest, c.IsNews := by
    have pending : d.standing.pending = c ::ₘ rest := takes.pending
    rw [pending] at news
    exact ⟨news c (Multiset.mem_cons_self c rest),
      fun c' mem => news c' (Multiset.mem_cons_of_mem mem)⟩
  cases change with
  | rejected | direct | installed | initiated => exact (own.elim (fun h => h) fun h => h : False).elim
  | launched o rest _ some => exact absurd (launching.symm.trans some) Multiset.zero_ne_cons
  | tripEnded o rest _ some => exact absurd (trips.symm.trans some) Multiset.zero_ne_cons
  | events =>
    exact post ⟨tx, seq, trips, launching, marks, commits, news⟩ _ fun c mem =>
      Switching.Command.isNews_of_mem_events mem
  | started => exact ⟨tx, seq, trips, launching, nofun, nofun, news⟩
  | superseded a rest takes | denied a rest takes | approved a rest takes => exact (taken takes).1.elim
  | directTaken rest takes | initiatedTaken rest takes => exact (taken takes).1.elim
  | unlocked t rest takes tracked => exact nomatch tx.symm.trans tracked
  | noted c rest takes => exact ⟨tx, seq, trips, launching, marks, commits, (taken takes).2⟩
  | commitSuperseded a doing | commitFailed a doing | commitDone a doing | directFailed doing
  | directDone doing | initiatedFailed doing | initiatedDone doing => exact absurd doing (commits _)
  | marked doing => exact absurd doing marks
  | closed tx' w down less before after done =>
    refine ⟨less.elim (fun e => e.trans tx) fun e => e, seq, trips, launching, done, ?_,
      fun c mem => absurd mem (Multiset.notMem_zero c)⟩
    rintro c rfl
    cases after
  | adjusted => exact ⟨tx, seq, trips, launching, marks, commits, news⟩

end IsUnasked

namespace Serves

variable {d : Desk} {ids ids' count count' : Nat} {switches switches' : List (Token × UserId)}

theorem mono (serves : Serves ids count switches d) (more : ids ≤ ids') (room : count ≤ count')
    (sub : switches ⊆ switches') : Serves ids' count' switches' d := by
  obtain ⟨h, service⟩ := serves
  exact ⟨h, service.run, service.staffed,
    fun k mem => Nat.lt_of_lt_of_le (service.tickets k mem) more,
    Nat.le_trans service.few room, fun token target one => sub (service.initiated token target one)⟩

/-- Between moves nothing is left that the desk asked for. -/
theorem out_eq_nil (serves : Serves ids count switches d) : d.out = [] := by
  obtain ⟨h, service⟩ := serves
  exact service.run.out_eq_nil

theorem after_of_same (serves : Serves ids count switches d) {q : Switching.Move}
    (same : d.move q = d) : (Switching.Moment.mk d q).after = d := by
  have silent := serves.out_eq_nil
  simp only [Switching.Moment.after, same, Desk.take, ← silent]

/-- What the desk does by itself. -/
theorem own (serves : Serves ids count switches d) {q : Switching.Move} (own : IsOwn q) :
    Serves ids count switches (Switching.Moment.mk d q).after := by
  obtain ⟨h, service⟩ := id serves
  rcases allowed_or_same (h := h) service.staffed (.inl own) with able | same
  · exact ⟨_, service.plain able (.inl own)⟩
  · rwa [serves.after_of_same same]

/-- A desk in service that nobody has asked for a switch does not begin one by itself. -/
theorem unasked (serves : Serves ids count switches d) {q : Switching.Move}
    (own : IsOwn q ∨ IsSetting q) (unasked : IsUnasked d.standing) :
    IsUnasked (d.move q).standing := by
  obtain ⟨h, service⟩ := serves
  rcases allowed_or_same (h := h) service.staffed own with able | same
  · exact .of_change (service.run.change able) own unasked
  · rwa [same]

/-- Settings of the desk, which ask for nothing. -/
theorem setting (serves : Serves ids count switches d) {q : Switching.Move}
    (setting : IsSetting q) : Serves ids count switches (d.move q) := by
  obtain ⟨h, service⟩ := id serves
  have silent : (d.move q).out = [] := by
    rw [← serves.out_eq_nil]
    cases q with
    | endContext | setPanel => rfl
    | start =>
      simp only [Desk.move, Desk.start]
      split <;> rfl
    | setTimeout t =>
      simp only [Desk.move, Desk.setTimeout]
      split <;> rfl
    | _ => exact setting.elim
  have kept : (Switching.Moment.mk d q).after = d.move q := by
    simp only [Switching.Moment.after, Desk.take, ← silent]
  rcases allowed_or_same (h := h) service.staffed (.inr setting) with able | same
  · exact kept ▸ ⟨_, service.plain able (.inr setting)⟩
  · rwa [same]

/-- Somebody asks for a switch, under a number of its own. -/
theorem request (serves : Serves ids count switches d) {v : Switching.View} {p : Switching.Poster}
    {target : UserId} {timeout : Duration} (more : ids < ids') :
    Serves ids' (count + 1) switches
      (Switching.Moment.mk d (.request v p ids target timeout)).after := by
  obtain ⟨h, service⟩ := serves
  have able : ids ∉ requested h := fun mem => Nat.lt_irrefl _ (service.tickets ids mem)
  refine ⟨_, service.move (q := .request v p ids target timeout) able nofun
    (Nat.le_of_lt more) ?_ ?_ nofun⟩
  · intro k e
    obtain rfl := Option.some.inj e
    exact more
  · exact Nat.add_le_add_left (Option.length_toList_le ..) count

/-- The vehicle starts a switch. -/
theorem initiate (serves : Serves ids count switches d) {v : Switching.View}
    {p : Switching.Poster} {token : Token} {target : UserId} (mem : (token, target) ∈ switches) :
    Serves ids (count + 1) switches (Switching.Moment.mk d (.initiate v p token target)).after := by
  obtain ⟨h, service⟩ := serves
  refine ⟨_, service.move (q := .initiate v p token target) trivial nofun (Nat.le_refl _) nofun
    ?_ ?_⟩
  · exact Nat.add_le_add_left (Option.length_toList_le ..) count
  · rintro v p token target ⟨⟩
    exact mem

/-- Whatever a move of the service asks of the desk. -/
theorem asked {s : System} (serves : Serves s.nextId count switches d) {m : Move}
    {q : Switching.Move} (asks : Asks s m q) (more : s.nextId < ids')
    (sub : switches ⊆ switches') (own : ∀ x, m.initiated? = some x → x ∈ switches') :
    Serves ids' (count + 1) switches' (Switching.Moment.mk d q).after := by
  cases q with
  | request v p k target timeout =>
    obtain rfl : k = s.nextId := asks
    exact (serves.request more).mono (Nat.le_refl _) (Nat.le_refl _) sub
  | initiate v p token target =>
    exact (serves.mono (Nat.le_of_lt more) (Nat.le_refl _) sub).initiate (own _ asks)
  | _ => exact asks.elim

/-- The operating system has switched, or failed to. -/
theorem committed (serves : Serves ids count switches d) {v : Switching.View}
    {fault : Option Fault} :
    Serves ids (count + 1) switches (Switching.Moment.mk d (.committed v fault)).after := by
  obtain ⟨h, service⟩ := id serves
  by_cases busy : d.worker.commit?.isSome
  · refine ⟨_, service.move (q := .committed v fault) busy nofun (Nat.le_refl _) nofun ?_ nofun⟩
    exact Nat.add_le_add_left (Option.length_toList_le ..) count
  · rw [serves.after_of_same (q := .committed v fault) (Desk.committed_of_unable d v fault busy)]
    exact serves.mono (Nat.le_refl _) (Nat.le_succ _) (List.Subset.refl _)

/-- A desk as a run of the service begins with it. -/
theorem fresh (timeout : Duration) (headless : Bool) :
    Serves ids count switches (Desk.fresh timeout headless).start := by
  have serves : Serves ids count switches (Desk.fresh timeout headless) :=
    ⟨[], .fresh timeout headless, .inl rfl, fun _ mem => absurd mem List.not_mem_nil,
      Nat.zero_le _, fun _ _ ⟨_, mem, _⟩ => absurd mem List.not_mem_nil⟩
  exact serves.setting (q := .start) trivial

end Serves

/-! ## Steps and runs of the service -/

/-- Whatever a run of the service does by itself, its desk stays in service. -/
theorem Run.Step.serves {x y : Run × Hand} (step : Run.Step x y) {ids count : Nat}
    {switches : List (Token × UserId)} (serves : Serves ids count switches x.1.desk) :
    Serves ids count switches y.1.desk := by
  cases step with
  | bus | worked | taken | passed | found | reported => exact serves
  | called | desk r es q own => exact serves.own (by trivial)
  | setting r es q setting => exact serves.setting setting

theorem Run.Steps.serves {x y : Run × Hand} (steps : Run.Steps x y) {ids count : Nat}
    {switches : List (Token × UserId)} (serves : Serves ids count switches x.1.desk) :
    Serves ids count switches y.1.desk := by
  induction steps with
  | refl => exact serves
  | tail _ step ih => exact step.serves ih

/-- Nor does it begin a switch by itself. -/
theorem Run.Step.unasked {x y : Run × Hand} (step : Run.Step x y) {ids count : Nat}
    {switches : List (Token × UserId)} (serves : Serves ids count switches x.1.desk)
    (unasked : IsUnasked x.1.desk.standing) : IsUnasked y.1.desk.standing := by
  cases step with
  | bus | worked | taken | passed | found | reported => exact unasked
  | called r es v e => exact (serves.unasked (q := .events v .bus [e]) (.inl trivial) unasked).take
  | desk r es q own => exact (serves.unasked (.inl own) unasked).take
  | setting r es q setting => exact serves.unasked (.inr setting) unasked

theorem Run.Steps.unasked {x y : Run × Hand} (steps : Run.Steps x y) {ids count : Nat}
    {switches : List (Token × UserId)} (serves : Serves ids count switches x.1.desk)
    (unasked : IsUnasked x.1.desk.standing) : IsUnasked y.1.desk.standing := by
  induction steps with
  | refl => exact unasked
  | tail before step ih => exact step.unasked (Run.Steps.serves before serves) ih

theorem History.initiated_snoc (h : History) (m : Moment) :
    History.initiated (h ++ [m]) = History.initiated h ++ m.move.initiated?.toList := by
  cases e : m.move.initiated? <;> simp [History.initiated, e]

/-- What a system is like that has just been made. -/
theorem eq_fresh_of_new {c : Config} {s : System} (made : new c true true = .ok s) :
    s = System.fresh c.withDefaults := by
  unfold new at made
  dsimp only at made
  split at made
  · cases made
  · cases made
    rfl

/-- The events of the sessions go to the service, in every state of a run. -/
theorem IsRun.sink {h : History} {s : System} (run : IsRun h s) : s.sink = .service := by
  induction run with
  | new made w =>
    rw [eq_fresh_of_new made]
    rfl
  | @step h s m run proper ih => exact ((Moment.mk s m).change proper).sink.trans ih

/-- What holds of a new bus, and stays so by the steps of its run, holds of the bus of every run. -/
theorem IsRun.bus_of_steps {P : Bus Listener Nat → Prop} {h : History} {s : System}
    (run : IsRun h s) (fresh : P ({} : Bus Listener Nat).start)
    (kept : ∀ {x y : Run × Hand}, Run.Step x y → P x.1.bus → P y.1.bus) {i : Nat} {r : Run}
    (here : s.runs[i]? = some r) : P r.bus := by
  have steps {x y : Run × Hand} (steps : Run.Steps x y) (holds : P x.1.bus) : P y.1.bus := by
    induction steps with
    | refl => exact holds
    | tail _ step ih => exact kept step ih
  induction run generalizing i r with
  | new made w =>
    rw [eq_fresh_of_new made] at here
    cases here
  | @step h s m run proper ih =>
    cases ((Moment.mk s m).change proper).turn here with
    | stepped before on => exact steps on (ih before)
    | @asked r₀ q before asks numbered published on =>
      have before' : P r₀.bus := ih before
      exact steps on before'
    | @committed r₀ r₁ c s₁ v fault move before doing switched there first on =>
      have before' : P r₁.bus := steps first (ih before)
      exact steps on before'
    | built bus =>
      rw [bus]
      exact fresh
    | published before on => exact steps on (ih before)

/-- The desk of every run of a service is in service. -/
theorem IsRun.serves {h : History} {s : System} (run : IsRun h s) {j : Nat} {r : Run}
    (here : s.runs[j]? = some r) : Serves s.nextId h.length h.initiated r.desk := by
  induction run generalizing j r with
  | new made w =>
    rw [eq_fresh_of_new made] at here
    cases here
  | @step h s m run proper ih =>
    have change := (Moment.mk s m).change proper
    have sub : h.initiated ⊆ History.initiated (h ++ [⟨s, m⟩]) := by
      rw [History.initiated_snoc]
      exact List.subset_append_left ..
    have count : (h ++ [Moment.mk s m]).length = h.length + 1 := by simp
    rw [count]
    cases change.turn here with
    | stepped before steps kept =>
      exact (steps.serves (ih before)).mono change.ids (Nat.le_succ _) sub
    | @asked r₀ q before asks numbered published steps =>
      refine steps.serves ((ih before).asked asks numbered sub fun x own => ?_)
      rw [History.initiated_snoc, show (Moment.mk s m).move.initiated? = some x from own]
      exact List.mem_append_right _ List.mem_cons_self
    | committed move before doing switched there first steps kept =>
      exact (steps.serves (first.serves (ih before)).committed).mono change.ids (Nat.le_refl _) sub
    | built bus desk =>
      rw [desk]
      exact .fresh ..
    | published before steps =>
      exact (steps.serves (ih before)).mono change.ids (Nat.le_succ _) sub

end HeadUnit.Service
