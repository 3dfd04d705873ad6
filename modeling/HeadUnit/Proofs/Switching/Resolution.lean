import HeadUnit.Proofs.Switching.Change

/-!
# Every request is resolved once

A request waits for its result behind a *carrier*: its outstanding trip, a
command that is queued or whose poster waits for room, or the commit that the
worker is in. The account of a ticket (`Standing.tally`) counts the results said
and the carriers left. No move but the request itself changes it
(`Change.tally_eq`), so over a run the results and the carriers of a ticket are
as many as the requests for it (`IsRun.tally_eq`): one.
-/

namespace HeadUnit.Switching

/-! ## Carriers -/

/-- The ticket that a command carries. -/
def Command.ticket? : Command → Option Ticket
  | answer a => some a.ticket
  | direct _ k => some k
  | initiated .. | unlocked _ | switched .. => none

@[simp]
theorem Command.ticket?_answer (a : Answer) : (answer a).ticket? = some a.ticket := rfl

@[simp]
theorem Command.ticket?_direct (target : UserId) (k : Ticket) :
    (direct target k).ticket? = some k := rfl

@[simp]
theorem Command.ticket?_initiated (token : Token) (target : UserId) :
    (initiated token target).ticket? = none := rfl

@[simp]
theorem Command.ticket?_unlocked (user : UserId) : (unlocked user).ticket? = none := rfl

/-- News carry no ticket. -/
theorem Command.IsNews.ticket?_eq {c : Command} (news : c.IsNews) : c.ticket? = none := by
  cases c <;> first | rfl | cases news

/-- The ticket that a commit carries. -/
def Commit.ticket? : Commit → Option Ticket
  | answer a => some a.ticket
  | direct _ k => some k
  | initiated .. => none

@[simp]
theorem Commit.ticket?_answer (a : Answer) : (answer a).ticket? = some a.ticket := rfl

@[simp]
theorem Commit.ticket?_direct (target : UserId) (k : Ticket) :
    (direct target k).ticket? = some k := rfl

@[simp]
theorem Commit.ticket?_initiated (token : Token) (target prior : UserId) :
    (initiated token target prior).ticket? = none := rfl

/-- What can still resolve a request. -/
inductive Carrier
  /-- A trip that has not ended. -/
  | trip (o : Outstanding)
  /-- A command whose poster waits for room. -/
  | posting (c : Command)
  | queued (c : Command)
  /-- The commit that the worker is in. -/
  | committing (c : Commit)

/-- The request that a carrier is for. -/
def Carrier.ticket? : Carrier → Option Ticket
  | trip o => some o.ticket
  | posting c | queued c => c.ticket?
  | committing c => c.ticket?

/-- All that can still resolve a request. -/
def Desk.carriers (d : Desk) : List Carrier :=
  d.trips.map .trip ++ (d.waiting.flatMap (·.commands)).map .posting ++ d.queue.map .queued ++
    d.worker.commit?.toList.map .committing

/-- What can still resolve the request with the ticket `k`. -/
def Desk.carriersOf (d : Desk) (k : Ticket) : List Carrier :=
  d.carriers.filter (·.ticket? = some k)

/-- The results that the request with the ticket `k` got. -/
def History.resultsOf (h : History) (k : Ticket) : List (Ticket × SwitchResult) :=
  (results h).filter (·.1 = k)

/-! ## The account of a ticket -/

namespace Standing

/-- How many carriers the ticket `k` has. -/
def carried (s : Standing) (k : Ticket) : Nat :=
  s.trips.countP (·.ticket = k) + s.pending.countP (·.ticket? = some k) +
    s.worker.commit?.toList.countP (·.ticket? = some k)

/-- How many results were said for the ticket `k`, and how many carriers it has. -/
def tally (s : Standing) (k : Ticket) : Nat :=
  (s.said.filterMap (·.result?)).countP (·.1 = k) + s.carried k

end Standing

/-- The account counts the carriers of the desk. -/
theorem Desk.length_carriersOf (d : Desk) (k : Ticket) :
    (d.carriersOf k).length = d.standing.carried k := by
  have trips : (d.trips.map Carrier.trip).countP (·.ticket? = some k) =
      d.trips.countP (·.ticket = k) := by
    rw [List.countP_map]
    exact List.countP_congr fun o _ => by simp [Carrier.ticket?]
  have posting (cs : List Command) : (cs.map Carrier.posting).countP (·.ticket? = some k) =
      cs.countP (·.ticket? = some k) := List.countP_map
  have queued (cs : List Command) : (cs.map Carrier.queued).countP (·.ticket? = some k) =
      cs.countP (·.ticket? = some k) := List.countP_map
  have committing (cs : List Commit) : (cs.map Carrier.committing).countP (·.ticket? = some k) =
      cs.countP (·.ticket? = some k) := List.countP_map
  rw [carriersOf, ← List.countP_eq_length_filter, carriers, List.countP_append, List.countP_append,
    List.countP_append, trips, posting, queued, committing, Standing.carried, standing_pending,
    Multiset.coe_countP, pending, List.countP_append]
  exact congrArg (· + _) (Nat.add_assoc ..)

/-- What is counted at most once has no duplicates. -/
theorem nodup_map_of_countP {α β : Type} [DecidableEq β] {f : α → β} {l : List α}
    (once : ∀ b, l.countP (f · = b) ≤ 1) : (l.map f).Nodup := by
  refine List.nodup_iff_count_le_one.2 fun b => ?_
  rw [List.count, List.countP_map]
  exact (List.countP_congr fun a _ => by simp).trans_le (once b)

/-- If no ticket has two carriers, no two trips share a ticket. -/
theorem Desk.nodup_trips {d : Desk} (once : ∀ k, d.standing.carried k ≤ 1) :
    (d.trips.map (·.ticket)).Nodup := by
  refine nodup_map_of_countP fun k => le_trans ?_ (once k)
  rw [Standing.carried, Nat.add_assoc]
  exact Nat.le_add_right ..

/-- A command that is dismissed has its request resolved. -/
theorem countP_dismissals (v : View) (cs : List Command) (k : Ticket) :
    ((Command.dismissals v cs).filterMap (·.result?)).countP (·.1 = k) =
      cs.countP (·.ticket? = some k) := by
  induction cs with
  | nil => rfl
  | cons c cs ih =>
    rw [Command.dismissals_cons, List.filterMap_append, List.countP_append, ih, List.countP_cons,
      Nat.add_comm]
    cases c <;> simp [Command.dismissal, Command.ticket?, Effect.result?]

theorem Standing.tally_say (s : Standing) (es : List Effect) (k : Ticket) :
    (s.say es).tally k = s.tally k + (es.filterMap (·.result?)).countP (·.1 = k) := by
  simp only [tally, say, List.filterMap_append, List.countP_append, carried]
  omega

theorem Standing.tally_post (s : Standing) (v : View) (cs : List Command) (k : Ticket) :
    (s.post v cs).tally k = s.tally k + cs.countP (·.ticket? = some k) := by
  unfold post
  split
  · rw [tally_say, countP_dismissals]
  · simp only [tally, carried, Multiset.countP_add, Multiset.coe_countP]
    omega

theorem countP_events (es : List Event) (k : Ticket) :
    (es.filterMap Desk.commandOf?).countP (·.ticket? = some k) = 0 := by
  refine List.countP_eq_zero.2 fun c hc => ?_
  simp [(Command.isNews_of_mem_events hc).ticket?_eq]

/-- Only a request opens an account, and nothing closes one. -/
theorem Change.tally_eq {d : Desk} {m : Move} {s : Standing} (change : Change d m s) (k : Ticket) :
    s.tally k = d.standing.tally k + m.ticket?.toList.count k := by
  cases change with
  | rejected =>
    rw [Standing.tally_say]
    simp [Effect.result?, Move.ticket?, List.count_singleton]
  | direct =>
    rw [Standing.tally_post]
    simp [Move.ticket?, List.count_singleton]
  | installed =>
    simp [Standing.tally, Standing.carried, Move.ticket?, List.count_singleton,
      Multiset.countP_cons]
    omega
  | launched =>
    rw [Standing.tally_say]
    simp [Standing.tally, Standing.carried, Effect.result?, Move.ticket?]
  | tripEnded o rest own trips =>
    rw [Standing.tally_post]
    simp [Standing.tally, Standing.carried, Move.ticket?, trips, own, Multiset.countP_cons]
    omega
  | initiated =>
    rw [Standing.tally_post]
    simp [Move.ticket?]
  | events =>
    rw [Standing.tally_post, countP_events]
    simp [Move.ticket?]
  | started new => simp [Standing.tally, Standing.carried, Move.ticket?, Worker.commit?, new]
  | superseded a rest takes | denied a rest takes =>
    -- The result is said for the command that is taken.
    rw [Standing.tally_say]
    simp [Standing.tally, Standing.carried, Effect.result?, Move.ticket?, Multiset.countP_cons,
      takes.pending]
    omega
  | approved a rest takes | directTaken rest takes =>
    -- The command that is taken is the commit that begins.
    rw [Standing.tally_say]
    simp [Standing.tally, Standing.carried, Effect.result?, Move.ticket?, Worker.commit?,
      Multiset.countP_cons, takes.pending, takes.idle]
    omega
  | initiatedTaken rest takes =>
    rw [Standing.tally_say]
    simp [Standing.tally, Standing.carried, Effect.result?, Move.ticket?, Worker.commit?,
      takes.pending, takes.idle]
  | unlocked t rest takes =>
    rw [Standing.tally_say]
    simp [Standing.tally, Standing.carried, Effect.result?, Move.ticket?, takes.pending]
  | noted c rest takes news =>
    simp [Standing.tally, Standing.carried, Move.ticket?, takes.pending, news.ticket?_eq]
  | commitSuperseded a doing | commitFailed a doing | commitDone a doing | directFailed doing
  | directDone doing =>
    -- The result is said for the commit that ends.
    rw [Standing.tally_say]
    simp [Standing.tally, Standing.carried, Effect.result?, Move.ticket?, Worker.commit?, doing]
    omega
  | initiatedFailed doing =>
    rw [Standing.tally_say]
    simp [Standing.tally, Standing.carried, Effect.result?, Move.ticket?, Worker.commit?, doing]
  | initiatedDone doing | marked doing =>
    simp [Standing.tally, Standing.carried, Move.ticket?, Worker.commit?, doing]
  | closed tx w down less before after =>
    rw [Standing.tally_say, countP_dismissals]
    have none : m.ticket? = none := by rcases down with rfl | rfl <;> rfl
    simp [Standing.tally, Standing.carried, none, before, after]
    omega
  | adjusted other =>
    have none : m.ticket? = none := by cases m <;> first | rfl | cases other
    simp [none]

/-! ## Runs -/

namespace IsRun

variable {h : History} {d : Desk}

/-- Between moves nothing is left that was said. -/
theorem said_eq_nil (run : IsRun h d) : d.standing.said = [] := by
  rw [Desk.standing, run.out_eq_nil]
  rfl

/-- Over a run, the results and the carriers of a ticket are as many as the
    requests for it. -/
theorem tally_eq (run : IsRun h d) (k : Ticket) :
    (History.results h).countP (·.1 = k) + d.standing.carried k =
      (History.requested h).count k := by
  induction run generalizing k with
  | fresh => rfl
  | @step h d m run able ih =>
    have once (k : Ticket) : d.standing.carried k ≤ 1 := by
      have := List.nodup_iff_count_le_one.1 run.nodup_requested k
      have := ih k
      omega
    have change := (change_of_allowed d able (Desk.nodup_trips once)).tally_eq k
    rw [Standing.tally, Standing.tally, run.said_eq_nil] at change
    rw [History.results_snoc, History.requested_snoc, List.countP_append, List.count_append, ← ih k,
      Moment.results_eq, Moment.standing_after]
    calc _ = (History.results h).countP (·.1 = k) + _ := Nat.add_assoc ..
      _ = _ := congrArg _ change
      _ = _ := by simp [Nat.add_assoc]

/-- No ticket has two results or carriers. -/
theorem tally_le_one (run : IsRun h d) (k : Ticket) :
    (History.results h).countP (·.1 = k) + d.standing.carried k ≤ 1 :=
  run.tally_eq k ▸ List.nodup_iff_count_le_one.1 run.nodup_requested k

/-- No request has two results. -/
theorem result_unique (run : IsRun h d) {k : Ticket} {r r' : SwitchResult}
    (one : (k, r) ∈ History.results h) (other : (k, r') ∈ History.results h) : r = r' := by
  have distinct : ((History.results h).map (·.1)).Nodup :=
    nodup_map_of_countP fun k => (Nat.le_add_right ..).trans (run.tally_le_one k)
  exact congrArg Prod.snd (List.inj_on_of_nodup_map distinct one other rfl)

/-- Every move of a run is one of the changes. -/
theorem change (run : IsRun h d) {m : Move} (able : Allowed h d m) :
    Change d m (Moment.mk d m).outcome :=
  change_of_allowed d able (Desk.nodup_trips fun k =>
    (Nat.le_add_left ..).trans (run.tally_le_one k))

end IsRun

/-! ## Shut desks -/

/-- A desk that has been shut down has nothing to do, and the worker stops only
    with it. -/
structure Standing.Shut (s : Standing) : Prop where
  empty : s.closed = true → s.pending = 0
  free : s.closed = true → s.worker.commit? = none
  stopped : s.worker = .stopped → s.closed = true

theorem Standing.Shut.post {s : Standing} (shut : s.Shut) (v : View) (cs : List Command) :
    (s.post v cs).Shut := by
  unfold Standing.post
  split
  · exact ⟨shut.empty, shut.free, shut.stopped⟩
  · next isOpen => exact ⟨fun c => absurd c isOpen, shut.free, shut.stopped⟩

theorem Change.shut {d : Desk} {m : Move} {s : Standing} (change : Change d m s)
    (shut : d.standing.Shut) : s.Shut := by
  have working {c rest} (takes : Takes d c rest) : d.closed ≠ true := by
    intro closed
    have empty := shut.empty closed
    rw [Desk.standing_pending, takes.pending] at empty
    exact Multiset.cons_ne_zero empty
  have committing {c} (doing : d.worker = .committing c) : d.closed ≠ true := by
    intro closed
    have free := shut.free closed
    rw [Desk.standing_worker, doing] at free
    cases free
  cases change with
  | rejected | installed | launched | adjusted => exact ⟨shut.empty, shut.free, shut.stopped⟩
  | direct | initiated | events => exact shut.post _ _
  | tripEnded o rest =>
    exact Standing.Shut.post (s := { d.standing with trips := rest })
      ⟨shut.empty, shut.free, shut.stopped⟩ _ _
  | started | marked => exact ⟨shut.empty, fun _ => rfl, nofun⟩
  | superseded a rest takes | denied a rest takes | noted a rest takes | unlocked a rest takes =>
    exact ⟨fun c => absurd c (working takes), shut.free, shut.stopped⟩
  | approved a rest takes | directTaken rest takes | initiatedTaken rest takes =>
    exact ⟨fun c => absurd c (working takes), fun c => absurd c (working takes), nofun⟩
  | commitSuperseded a doing | commitFailed a doing | commitDone a doing | directFailed doing
  | directDone doing | initiatedFailed doing | initiatedDone doing =>
    exact ⟨fun c => absurd c (committing doing), fun _ => rfl, nofun⟩
  | closed tx w down less before after => exact ⟨fun _ => rfl, fun _ => after, fun _ => rfl⟩

theorem IsRun.shut {h : History} {d : Desk} (run : IsRun h d) : d.standing.Shut := by
  induction run with
  | fresh => exact ⟨nofun, nofun, nofun⟩
  | step run able ih =>
    obtain ⟨empty, free, stopped⟩ := (run.change able).shut ih
    exact ⟨empty, free, stopped⟩

/-- Once the worker has stopped, only outstanding trips carry requests. -/
theorem IsRun.carried_of_stopped {h : History} {d : Desk} (run : IsRun h d)
    (stopped : d.worker = .stopped) (none : d.trips = []) (k : Ticket) :
    d.standing.carried k = 0 := by
  have empty := run.shut.empty (run.shut.stopped stopped)
  have trips : d.standing.trips = 0 := congrArg Multiset.ofList none
  rw [Standing.carried, empty, trips, Desk.standing_worker, stopped]
  rfl

/-! ## Resolution -/

/-- Every request has one result or one carrier, in every state of every run. So
    no request is answered twice, and once the worker has stopped and no trip is
    outstanding, every request has its result. -/
theorem result_or_carrier {h : History} {d : Desk} (run : IsRun h d) :
    (∀ k ∈ History.requested h,
      (History.resultsOf h k).length = 1 ∧ d.carriersOf k = [] ∨
        History.resultsOf h k = [] ∧ (d.carriersOf k).length = 1) ∧
    (∀ k, (History.resultsOf h k).length ≤ 1) ∧
    (d.worker = .stopped → d.trips = [] →
      ∀ k ∈ History.requested h, (History.resultsOf h k).length = 1) := by
  have results (k : Ticket) :
      (History.resultsOf h k).length = (History.results h).countP (·.1 = k) :=
    List.countP_eq_length_filter.symm
  have account {k : Ticket} (asked : k ∈ History.requested h) :
      (History.resultsOf h k).length + (d.carriersOf k).length = 1 := by
    rw [results, d.length_carriersOf, run.tally_eq, List.count_eq_one_of_mem run.nodup_requested asked]
  refine ⟨fun k asked => ?_, fun k => ?_, fun stopped none k asked => ?_⟩
  · rcases Nat.add_eq_one_iff.1 (account asked) with ⟨no, one⟩ | ⟨one, no⟩
    · exact .inr ⟨List.length_eq_zero_iff.1 no, one⟩
    · exact .inl ⟨one, List.length_eq_zero_iff.1 no⟩
  · rw [results]
    exact (Nat.le_add_right ..).trans (run.tally_le_one k)
  · have := account asked
    rwa [d.length_carriersOf, run.carried_of_stopped stopped none] at this

/-- In the sample run, once it is stopped, the superseded request has its result. -/
theorem result_of_superseded :
    Sample.stopped.2.worker = .stopped ∧ (History.resultsOf Sample.stopped.1 1).length = 1 :=
  ⟨by decide, (result_or_carrier Sample.isRun_stopped).2.2 (by decide) (by decide) 1 (by decide)⟩

end HeadUnit.Switching
