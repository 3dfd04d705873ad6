import HeadUnit.Proofs.Service.Replies
import HeadUnit.Proofs.Switching.AnswerOrder

/-!
# A desk that is busy with one request

A desk *rests* (`Standing.Rests`) if it has no trip, no commit and nothing but news to look at.
It stays at rest whatever happens, unless somebody asks for a switch, and then gives no result.

After a request it may be *busy* with that (`Standing.Bears`): the trip has not ended, or the
worker has not yet taken the answer. Then the worker may *commit* (`Standing.Commits`). From there
the desk goes back to rest, with one result for the request: the switch counts as done if and only
if the operating system has done it, as no other transaction is tracked in the meantime.

* `Change.rests`, `Change.bears`, `Change.commits`: what a change makes of such a standing;
* `Change.committed`: the result that a commit leads to;
* `Moment.rests`, `Moment.bears`, `Moment.commits`, `Moment.committed`: the same for moves;
* `Moment.requested`: what a request makes of a desk at rest.
-/

namespace HeadUnit.Switching

/-- A move by which nobody asks for a switch. -/
def Move.IsUnasked : Move → Prop
  | request .. | initiate .. => False
  | _ => True

/-! ## Standings -/

/-- The transaction is the tracked one, whose switch is not done yet. -/
def Awaits (tracked : Option Transaction) (tx : Transaction) : Prop :=
  ∃ t, tracked = some t ∧ t.seq = tx.seq ∧ t.token.isSet = false

/-- The command goes on with the request `k` for the user `target`. -/
def Command.Serves (tracked : Option Transaction) (k : Ticket) (target : UserId) : Command → Prop
  | answer a => a.ticket = k ∧ a.tx.target = target ∧ Awaits tracked a.tx
  | direct user ticket => ticket = k ∧ user = target
  | initiated .. | unlocked _ | switched .. => False

/-- The commit is one for the request `k` for the user `target`. -/
def Commit.Serves (tracked : Option Transaction) (k : Ticket) (target : UserId) : Commit → Prop
  | answer a => a.ticket = k ∧ a.tx.target = target ∧ Awaits tracked a.tx
  | direct user ticket => ticket = k ∧ user = target
  | initiated .. => False

/-- Of a commit, the operating system learns for whom it is. -/
theorem Commit.Serves.target_eq {tracked : Option Transaction} {k : Ticket} {target : UserId}
    {c : Commit} (serves : c.Serves tracked k target) : c.target = target := by
  cases c with
  | answer a => exact serves.2.1
  | direct => exact serves.2
  | initiated => exact serves.elim

namespace Standing

variable {s : Standing} {k : Ticket} {target : UserId}

/-- There is nothing to do but to look at news. -/
structure Rests (s : Standing) : Prop where
  trips : s.trips = 0
  news : ∀ c ∈ s.pending, c.IsNews
  free : s.worker.commit? = none

/-- There is a request `k` for the user `target` to go on with, and nothing else but news. -/
inductive Bears (s : Standing) (k : Ticket) (target : UserId) : Prop
  | asking {o : Outstanding} (trips : s.trips = {o}) (own : o.ticket = k)
      (aim : o.tx.target = target) (awaits : s.closed = false → Awaits s.tx o.tx)
      (news : ∀ c ∈ s.pending, c.IsNews) (free : s.worker.commit? = none)
  | handed {c : Command} {rest : Multiset Command} (trips : s.trips = 0)
      (pending : s.pending = c ::ₘ rest) (serves : c.Serves s.tx k target)
      (news : ∀ c ∈ rest, c.IsNews) (free : s.worker.commit? = none)

/-- The operating system switches on behalf of the request, and there is nothing else but news. -/
structure Commits (s : Standing) (k : Ticket) (target : UserId) (c : Commit) : Prop where
  worker : s.worker = .committing c
  serves : c.Serves s.tx k target
  trips : s.trips = 0
  news : ∀ c ∈ s.pending, c.IsNews

theorem Bears.free (bears : s.Bears k target) : s.worker.commit? = none := by
  cases bears <;> assumption

/-- What is said does not count. -/
theorem Rests.of_said (rests : s.Rests) (es : List Effect) : ({ s with said := es }).Rests :=
  ⟨rests.trips, rests.news, rests.free⟩

theorem Bears.of_said (bears : s.Bears k target) (es : List Effect) :
    ({ s with said := es }).Bears k target := by
  cases bears with
  | asking trips own aim awaits news free => exact .asking trips own aim awaits news free
  | handed trips pending serves news free => exact .handed trips pending serves news free

theorem Commits.of_said {c : Commit} (commits : s.Commits k target c) (es : List Effect) :
    ({ s with said := es }).Commits k target c :=
  ⟨commits.worker, commits.serves, commits.trips, commits.news⟩

/-! ### News come and go -/

section News

variable {v : View} {cs : List Command}

/-- News get no result. -/
theorem results_dismissals_of_news (news : ∀ c ∈ cs, c.IsNews) :
    (Command.dismissals v cs).filterMap (·.result?) = [] := by
  induction cs with
  | nil => rfl
  | cons c cs ih =>
    rw [Command.dismissals_cons, List.filterMap_append,
      ih fun c mem => news c (List.mem_cons_of_mem _ mem), List.append_nil]
    cases c with
    | unlocked | switched => rfl
    | answer | direct | initiated => exact (news _ List.mem_cons_self).elim

theorem results_post_of_news (news : ∀ c ∈ cs, c.IsNews) : (s.post v cs).results = s.results := by
  unfold post
  split
  · rw [results_say, results_dismissals_of_news news, List.append_nil]
  · rfl

theorem mem_add_of_news {ps : Multiset Command} (old : ∀ c ∈ ps, c.IsNews)
    (news : ∀ c ∈ cs, c.IsNews) : ∀ c ∈ ps + cs, c.IsNews := fun c mem =>
  (Multiset.mem_add.1 mem).elim (old c) fun mem => news c (Multiset.mem_coe.1 mem)

theorem Rests.post (rests : s.Rests) (news : ∀ c ∈ cs, c.IsNews) : (s.post v cs).Rests := by
  unfold Standing.post
  split
  · exact rests.of_said _
  · exact ⟨rests.trips, mem_add_of_news rests.news news, rests.free⟩

theorem Bears.post (bears : s.Bears k target) (news : ∀ c ∈ cs, c.IsNews) :
    (s.post v cs).Bears k target := by
  unfold Standing.post
  split
  · exact bears.of_said _
  · cases bears with
    | asking trips own aim awaits old free =>
      exact .asking trips own aim awaits (mem_add_of_news old news) free
    | handed trips pending serves old free =>
      refine .handed trips ?_ serves (mem_add_of_news old news) free
      exact (congrArg (· + (cs : Multiset Command)) pending).trans (Multiset.cons_add ..)

theorem Commits.post {c : Commit} (commits : s.Commits k target c) (news : ∀ c ∈ cs, c.IsNews) :
    (s.post v cs).Commits k target c := by
  unfold Standing.post
  split
  · exact commits.of_said _
  · exact ⟨commits.worker, commits.serves, commits.trips, mem_add_of_news commits.news news⟩

end News

/-- The tracked transaction is given up once its target has unlocked; the switch that the desk is
    busy with has not come so far. -/
theorem Bears.untracked {t : Transaction} (bears : s.Bears k target) (tracked : s.tx = some t)
    (set : t.token.isSet = true) : ({ s with tx := none }).Bears k target := by
  have other {tx : Transaction} : ¬Awaits s.tx tx := by
    rintro ⟨t', same, -, unset⟩
    cases tracked.symm.trans same
    exact Bool.false_ne_true (unset.symm.trans set)
  cases bears with
  | asking trips own aim awaits news free =>
    exact .asking trips own aim (fun opened => (other (awaits opened)).elim) news free
  | @handed c rest trips pending serves news free =>
    refine .handed (c := c) trips pending ?_ news free
    cases c with
    | answer a => exact (other serves.2.2).elim
    | direct => exact serves
    | initiated | unlocked | switched => exact serves.elim

end Standing

/-- Of what a busy desk has, one command gets a result: a failure. -/
theorem Command.results_dismissals_of_serves (v : View) {tracked : Option Transaction} {k : Ticket}
    {target : UserId} {cs : List Command} {c : Command} {rest : Multiset Command}
    (pending : (cs : Multiset Command) = c ::ₘ rest) (serves : c.Serves tracked k target)
    (news : ∀ c ∈ rest, c.IsNews) :
    ∃ r, (dismissals v cs).filterMap (·.result?) = [(k, r)] ∧ r.status.isSuccess = false := by
  have mem : c ∈ cs := Multiset.mem_coe.1 (pending ▸ Multiset.mem_cons_self c rest)
  obtain ⟨first, last, rfl⟩ := List.append_of_mem mem
  have others : (first ++ last : List Command) = rest := by
    refine (Multiset.cons_inj_right c).1 (Eq.trans ?_ pending)
    exact Multiset.coe_eq_coe.2 List.perm_middle.symm
  have silent {cs : List Command} (sub : cs ⊆ first ++ last) :
      (dismissals v cs).filterMap (·.result?) = [] :=
    Standing.results_dismissals_of_news fun c mem => news c (others ▸ sub mem)
  rw [dismissals_append, dismissals_cons, List.filterMap_append, List.filterMap_append,
    silent (List.subset_append_left ..), silent (List.subset_append_right ..)]
  cases c with
  | answer a =>
    obtain ⟨rfl, -⟩ := serves
    exact ⟨_, rfl, rfl⟩
  | direct =>
    obtain ⟨rfl, -⟩ := serves
    exact ⟨_, rfl, rfl⟩
  | initiated | unlocked | switched => exact serves.elim

/-! ## Changes -/

section Changes

variable {d : Desk} {k : Ticket} {target : UserId}

/-- Who has no commit does not wait for one. -/
theorem Desk.not_committing (free : d.standing.worker.commit? = none) {c : Commit} :
    d.worker ≠ .committing c := by
  intro doing
  rw [Desk.standing_worker, doing] at free
  cases free

/-- Of news only news are taken. -/
theorem Takes.news {c : Command} {rest : Multiset Command} (takes : Takes d c rest)
    (news : ∀ c ∈ d.standing.pending, c.IsNews) : c.IsNews ∧ ∀ c ∈ rest, c.IsNews := by
  rw [Desk.standing_pending, takes.pending] at news
  exact ⟨news c (Multiset.mem_cons_self c rest),
    fun c' mem => news c' (Multiset.mem_cons_of_mem mem)⟩

/-- A busy desk takes news, or the command that goes on with the request. -/
theorem Standing.Bears.taken {c : Command} {rest : Multiset Command}
    (bears : d.standing.Bears k target) (takes : Takes d c rest) :
    c.IsNews ∧ ({ d.standing with pending := rest }).Bears k target ∨
      d.standing.trips = 0 ∧ c.Serves d.tx k target ∧ (∀ c ∈ rest, c.IsNews) := by
  cases bears with
  | asking trips own aim awaits news free =>
    have left := takes.news news
    exact .inl ⟨left.1, .asking trips own aim awaits left.2 free⟩
  | @handed c' rest' trips pending serves news free =>
    rw [Desk.standing_pending, takes.pending] at pending
    rcases Multiset.cons_eq_cons.1 pending with ⟨rfl, rfl⟩ | ⟨_, others, rfl, rfl⟩
    · exact .inr ⟨trips, serves, news⟩
    · refine .inl ⟨news c (Multiset.mem_cons_self ..), .handed trips rfl serves ?_ free⟩
      exact fun c mem => news c (Multiset.mem_cons_of_mem mem)

/-- A desk at rest stays at rest if nobody asks for a switch, and gives no result. -/
theorem Change.rests {q : Move} {s : Standing} (change : Change d q s) (unasked : q.IsUnasked)
    (rests : d.standing.Rests) : s.Rests ∧ s.results = d.standing.results := by
  have idle {c : Commit} : d.worker ≠ .committing c := Desk.not_committing rests.free
  cases change with
  | rejected | direct | installed | initiated => exact unasked.elim
  | tripEnded o rest own trips =>
    exact absurd (rests.trips.symm.trans trips) (Multiset.zero_ne_cons)
  | launched =>
    exact ⟨⟨rests.trips, rests.news, rests.free⟩, (Standing.results_say ..).trans (List.append_nil _)⟩
  | @events v p es =>
    have news : ∀ c ∈ es.filterMap Desk.commandOf?, c.IsNews :=
      fun _ => Command.isNews_of_mem_events
    exact ⟨rests.post news, Standing.results_post_of_news news⟩
  | started | marked => exact ⟨⟨rests.trips, rests.news, rfl⟩, rfl⟩
  | superseded a rest takes | denied a rest takes | approved a rest takes =>
    exact (takes.news rests.news).1.elim
  | directTaken rest takes | initiatedTaken rest takes => exact (takes.news rests.news).1.elim
  | unlocked t rest takes =>
    refine ⟨⟨rests.trips, (takes.news rests.news).2, rests.free⟩, ?_⟩
    exact (Standing.results_say ..).trans (List.append_nil _)
  | noted c rest takes => exact ⟨⟨rests.trips, (takes.news rests.news).2, rests.free⟩, rfl⟩
  | commitSuperseded a doing | commitFailed a doing | commitDone a doing => exact (idle doing).elim
  | directFailed doing | directDone doing | initiatedFailed doing | initiatedDone doing =>
    exact (idle doing).elim
  | closed tx w down less before after =>
    refine ⟨⟨rests.trips, fun c mem => absurd mem (Multiset.notMem_zero c), after⟩, ?_⟩
    rw [Standing.results_say, Standing.results_dismissals_of_news rests.news]
    exact List.append_nil _
  | adjusted => exact ⟨rests, rfl⟩

/-- A busy desk goes on with the request, or it gives up and says so. -/
theorem Change.bears {q : Move} {s : Standing} (change : Change d q s) (unasked : q.IsUnasked)
    (bears : d.standing.Bears k target) :
    (s.Bears k target ∨ ∃ c, s.Commits k target c) ∧ s.results = d.standing.results ∨
      s.Rests ∧ ∃ r, s.results = d.standing.results ++ [(k, r)] ∧ r.status.isSuccess = false := by
  have free := bears.free
  have idle {c : Commit} : d.worker ≠ .committing c := Desk.not_committing free
  cases change with
  | rejected | direct | installed | initiated => exact unasked.elim
  | @tripEnded v k' response fault o rest mine trips =>
    cases bears with
    | asking one own aim awaits news =>
      -- No other trip has begun, so this is the one of the request.
      obtain ⟨same, rfl⟩ := (Multiset.singleton_eq_cons_iff _).1 (one.symm.trans trips)
      rw [same] at own aim awaits
      unfold Standing.post
      split
      · refine .inr ⟨⟨rfl, news, free⟩, ⟨.coordinatorInternalFailure, stoppedMessage⟩, ?_, rfl⟩
        rw [Standing.results_say, ← own, mine]
        rfl
      · next opened =>
        have serves : (Command.answer ⟨o.tx, response, fault, k'⟩).Serves d.tx k target :=
          ⟨mine.symm.trans own, aim, awaits (Bool.eq_false_iff.2 opened)⟩
        refine .inl ⟨.inl (.handed rfl ?_ serves news free), rfl⟩
        exact Multiset.add_comm ..
    | handed none => exact absurd (none.symm.trans trips) (Multiset.zero_ne_cons)
  | launched =>
    refine .inl ⟨.inl ?_, (Standing.results_say ..).trans (List.append_nil _)⟩
    cases bears with
    | asking trips own aim awaits news => exact .asking trips own aim awaits news free
    | handed trips pending serves news => exact .handed trips pending serves news free
  | @events v p es =>
    have news : ∀ c ∈ es.filterMap Desk.commandOf?, c.IsNews :=
      fun _ => Command.isNews_of_mem_events
    exact .inl ⟨.inl (bears.post news), Standing.results_post_of_news news⟩
  | started | marked =>
    refine .inl ⟨.inl ?_, rfl⟩
    cases bears with
    | asking trips own aim awaits news => exact .asking trips own aim awaits news rfl
    | handed trips pending serves news => exact .handed trips pending serves news rfl
  | superseded a rest takes late =>
    rcases bears.taken takes with ⟨news, -⟩ | ⟨-, ⟨-, -, awaits⟩, -⟩
    · exact news.elim
    · -- Nobody has asked for another switch, so the answer is not late.
      obtain ⟨t, tracked, same, -⟩ := awaits
      exact absurd (Desk.isCurrent_iff.2 ⟨t, tracked, same⟩) (Bool.eq_false_iff.1 late)
  | denied a rest takes current no down =>
    rcases bears.taken takes with ⟨news, -⟩ | ⟨trips, ⟨rfl, -, -⟩, news⟩
    · exact news.elim
    · refine .inr ⟨⟨trips, news, free⟩, _, Standing.results_say .., ?_⟩
      rcases down with rfl | rfl <;> rfl
  | approved a rest takes current yes =>
    rcases bears.taken takes with ⟨news, -⟩ | ⟨trips, ⟨own, aim, awaits⟩, news⟩
    · exact news.elim
    · obtain ⟨t, tracked, same, unset⟩ := awaits
      refine .inl ⟨.inr ⟨.answer a, rfl, ⟨own, aim, ?_⟩, trips, news⟩, ?_⟩
      · exact ⟨{ t with stage := .awaitingOSCommit }, congrArg (Option.map _) tracked, same, unset⟩
      · exact (Standing.results_say ..).trans (List.append_nil _)
  | directTaken rest takes =>
    rcases bears.taken takes with ⟨news, -⟩ | ⟨trips, serves, news⟩
    · exact news.elim
    · refine .inl ⟨.inr ⟨_, rfl, serves, trips, news⟩, ?_⟩
      exact (Standing.results_say ..).trans (List.append_nil _)
  | initiatedTaken rest takes =>
    rcases bears.taken takes with ⟨news, -⟩ | ⟨-, serves, -⟩
    · exact news.elim
    · exact serves.elim
  | unlocked t rest takes tracked set =>
    rcases bears.taken takes with ⟨-, left⟩ | ⟨-, serves, -⟩
    · refine .inl ⟨.inl (Standing.Bears.of_said (left.untracked tracked set) _), ?_⟩
      exact (Standing.results_say ..).trans (List.append_nil _)
    · exact serves.elim
  | noted c rest takes news =>
    rcases bears.taken takes with ⟨-, left⟩ | ⟨-, serves, -⟩
    · exact .inl ⟨.inl left, rfl⟩
    · cases c with
      | unlocked | switched => exact serves.elim
      | answer | direct | initiated => exact news.elim
  | commitSuperseded a doing | commitFailed a doing | commitDone a doing => exact (idle doing).elim
  | directFailed doing | directDone doing | initiatedFailed doing | initiatedDone doing =>
    exact (idle doing).elim
  | @closed _ v tx w down less before after =>
    cases bears with
    | asking trips own aim awaits news =>
      -- The trip goes on, and will find a closed desk.
      refine .inl ⟨.inl (.asking trips own aim nofun (fun c mem => ?_) after), ?_⟩
      · exact absurd mem (Multiset.notMem_zero c)
      · rw [Standing.results_say, Standing.results_dismissals_of_news news]
        exact List.append_nil _
    | handed trips pending serves news =>
      obtain ⟨r, result, failed⟩ := Command.results_dismissals_of_serves v pending serves news
      refine .inr ⟨⟨trips, fun c mem => absurd mem (Multiset.notMem_zero c), after⟩, r, ?_, failed⟩
      rw [Standing.results_say, result]
      rfl
  | adjusted => exact .inl ⟨.inl bears, rfl⟩

/-- A desk that commits goes on with that until the commit has ended. -/
theorem Change.commits {q : Move} {s : Standing} {c : Commit} (change : Change d q s)
    (unasked : q.IsUnasked) (other : ∀ v f, q ≠ .committed v f)
    (commits : d.standing.Commits k target c) :
    s.Commits k target c ∧ s.results = d.standing.results := by
  have busy : d.worker = .committing c := commits.worker
  have idle : d.worker ≠ .idle := by simp [busy]
  cases change with
  | rejected | direct | installed | initiated => exact unasked.elim
  | tripEnded o rest own trips =>
    exact absurd (commits.trips.symm.trans trips) (Multiset.zero_ne_cons)
  | launched =>
    refine ⟨⟨busy, commits.serves, commits.trips, commits.news⟩, ?_⟩
    exact (Standing.results_say ..).trans (List.append_nil _)
  | @events v p es =>
    have news : ∀ c ∈ es.filterMap Desk.commandOf?, c.IsNews :=
      fun _ => Command.isNews_of_mem_events
    exact ⟨commits.post news, Standing.results_post_of_news news⟩
  | started doing | marked doing => cases busy.symm.trans doing
  | superseded a rest takes | denied a rest takes | approved a rest takes =>
    exact (idle takes.idle).elim
  | directTaken rest takes | initiatedTaken rest takes => exact (idle takes.idle).elim
  | unlocked t rest takes | noted c rest takes => exact (idle takes.idle).elim
  | commitSuperseded | commitFailed | commitDone => exact (other _ _ rfl).elim
  | directFailed | directDone | initiatedFailed | initiatedDone => exact (other _ _ rfl).elim
  | closed tx w down less before =>
    rw [busy] at before
    cases before
  | adjusted => exact ⟨commits, rfl⟩

/-- Once the commit has ended the desk rests, and says whether the switch is done. -/
theorem Change.committed {v : View} {fault : Option Fault} {s : Standing} {c : Commit}
    (change : Change d (.committed v fault) s) (commits : d.standing.Commits k target c) :
    s.Rests ∧ ∃ r, s.results = d.standing.results ++ [(k, r)] ∧
      r.status.isSuccess = fault.isNone := by
  have rests (tx : Option Transaction) (es : List Effect) :
      (({ d.standing with tx := tx, worker := .idle } : Standing).say es).Rests :=
    ⟨commits.trips, commits.news, rfl⟩
  have busy : d.worker = .committing c := commits.worker
  have serves := commits.serves
  cases change with
  | commitSuperseded a doing late =>
    cases busy.symm.trans doing
    obtain ⟨-, -, t, tracked, same, -⟩ := serves
    exact absurd (Desk.isCurrent_iff.2 ⟨t, tracked, same⟩) (Bool.eq_false_iff.1 late)
  | commitFailed a doing =>
    cases busy.symm.trans doing
    obtain ⟨rfl, -⟩ := serves
    exact ⟨rests none _, _, Standing.results_say .., rfl⟩
  | commitDone a doing =>
    cases busy.symm.trans doing
    obtain ⟨rfl, -⟩ := serves
    exact ⟨rests _ _, _, Standing.results_say .., rfl⟩
  | directFailed doing =>
    cases busy.symm.trans doing
    obtain ⟨rfl, -⟩ := serves
    exact ⟨rests d.tx _, _, Standing.results_say .., rfl⟩
  | directDone doing =>
    cases busy.symm.trans doing
    obtain ⟨rfl, -⟩ := serves
    exact ⟨rests d.tx _, _, Standing.results_say .., rfl⟩
  | initiatedFailed doing | initiatedDone doing =>
    cases busy.symm.trans doing
    exact serves.elim
  | closed tx w down => rcases down with down | down <;> cases down
  | adjusted other => cases other

/-! ## Requests -/

/-- How a desk at rest receives a request. -/
inductive Standing.Receives (s : Standing) (v : View) (k : Ticket) (target : UserId) : Prop
  | turned {r : SwitchResult} (rests : s.Rests) (result : s.results = [(k, r)])
      (success : r.status.isSuccess = true →
        target = v.current ∧ (v.find? target).isSome = true)
  | accepted (bears : s.Bears k target) (none : s.results = [])
      (known : (v.find? target).isSome = true)

namespace Standing.Receives

variable {v : View}

theorem none_of_silent (silent : d.out = []) : d.standing.results = [] := by
  rw [Desk.standing_results, Desk.results, silent]
  rfl

/-- The request is turned down at once. -/
theorem of_reply (silent : d.out = []) (rests : d.standing.Rests) {status : SwitchStatus}
    {message : String} (success : status.isSuccess = true →
      target = v.current ∧ (v.find? target).isSome = true) :
    (d.standing.say [.reply k ⟨status, message⟩]).Receives v k target := by
  refine .turned (r := ⟨status, message⟩) (rests.of_said _) ?_ success
  rw [results_say, none_of_silent silent]
  rfl

/-- The request is handed to the worker, if the desk is open. -/
theorem of_direct (silent : d.out = []) (rests : d.standing.Rests)
    (known : (v.find? target).isSome = true) :
    (d.standing.post v [.direct target k]).Receives v k target := by
  unfold Standing.post
  split
  · exact of_reply silent rests nofun
  · refine .accepted (.handed (c := .direct target k) rests.trips ?_ ⟨rfl, rfl⟩ rests.news
      rests.free) (none_of_silent silent) known
    exact Multiset.add_comm ..

/-- A trip begins for the request. -/
theorem of_installed (silent : d.out = []) (rests : d.standing.Rests)
    (known : (v.find? target).isSome = true) (tx : Transaction)
    (new : tx = ⟨target, Token.unset, v.current, .awaitingCoordinator, d.seq + 1⟩) :
    ({ d.standing with
      tx := some tx
      seq := d.seq + 1
      trips := ⟨tx, k⟩ ::ₘ d.standing.trips
      launching := ⟨tx, k⟩ ::ₘ d.standing.launching } : Standing).Receives v k target := by
  have aim : tx.target = target := congrArg Transaction.target new
  have unset : tx.token.isSet = false := congrArg (·.token.isSet) new
  refine .accepted (.asking (o := ⟨tx, k⟩) ?_ rfl aim (fun _ => ⟨tx, rfl, rfl, unset⟩) rests.news
    rests.free) (none_of_silent silent) known
  exact congrArg (_ ::ₘ ·) rests.trips

theorem of_request (silent : d.out = []) (rests : d.standing.Rests) (p : Poster)
    (timeout : Duration) :
    (d.request v p k target timeout).standing.Receives v k target := by
  unfold Desk.request
  split
  · rw [Desk.standing_admitted, Desk.standing_resolve]
    exact of_reply silent rests nofun
  next user found =>
  have known : (v.find? target).isSome = true := by rw [found]; rfl
  split
  · rw [Desk.standing_admitted, Desk.standing_resolve]
    exact of_reply silent rests nofun
  split
  · next foreground =>
    rw [Desk.standing_admitted, Desk.standing_resolve]
    exact of_reply silent rests fun _ => ⟨foreground, known⟩
  split
  · rw [Desk.standing_post]
    exact of_direct silent rests known
  split
  · rw [Desk.standing_admitted, Desk.standing_resolve, Desk.standing_note]
    exact of_reply silent rests nofun
  · -- What is tracked so far is superseded, and noted only.
    cases d.tx with
    | none =>
      rw [Desk.standing_install]
      exact of_installed silent rests known _ rfl
    | some old =>
      rw [Desk.standing_install, Desk.standing_note]
      exact of_installed silent rests known _ rfl

end Standing.Receives

end Changes

/-! ## Moments -/

namespace Moment

variable {m : Moment} {k : Ticket} {target : UserId}

/-- Nobody asks for a switch, and the desk is not shut down from outside. -/
structure Unasked (m : Moment) : Prop where
  unasked : m.move.IsUnasked
  unclosed : ∀ v, m.move ≠ .close v
  silent : m.before.out = []

/-- One of the changes is made, or none at all; what was said before does not matter. -/
theorem Unasked.change (unasked : m.Unasked)
    (distinct : (m.before.trips.map (·.ticket)).Nodup) :
    Change m.before m.move m.outcome ∨ m.outcome = m.before.standing :=
  (m.before.change_or_same unasked.unclosed fun _ => distinct).imp_right fun same =>
    congrArg Desk.standing same.1

theorem Unasked.results (unasked : m.Unasked) : m.before.standing.results = [] := by
  rw [Desk.standing_results, Desk.results, unasked.silent]
  rfl

theorem results_outcome (m : Moment) : m.outcome.results = m.effects.filterMap (·.result?) :=
  m.results_eq.symm

/-- Who has no trip has no two with one ticket. -/
theorem nodup_of_trips {d : Desk} (trips : d.standing.trips = 0) :
    (d.trips.map (·.ticket)).Nodup := by
  have none : d.trips = [] := Multiset.coe_eq_zero _ |>.1 trips
  rw [none]
  exact List.nodup_nil

/-- A desk at rest stays at rest. -/
theorem rests (unasked : m.Unasked) (rests : m.before.standing.Rests) :
    m.after.standing.Rests ∧ m.effects.filterMap (·.result?) = [] := by
  rw [standing_after, ← results_outcome]
  rcases unasked.change (nodup_of_trips rests.trips) with change | same
  · obtain ⟨left, none⟩ := change.rests unasked.unasked rests
    exact ⟨left.of_said _, none.trans unasked.results⟩
  · rw [same]
    exact ⟨rests.of_said _, unasked.results⟩

/-- A busy desk goes on, commits, or gives up. -/
theorem bears (unasked : m.Unasked) (bears : m.before.standing.Bears k target) :
    (m.after.standing.Bears k target ∨ ∃ c, m.after.standing.Commits k target c) ∧
        m.effects.filterMap (·.result?) = [] ∨
      m.after.standing.Rests ∧ ∃ r, m.effects.filterMap (·.result?) = [(k, r)] ∧
        r.status.isSuccess = false := by
  have distinct : (m.before.trips.map (·.ticket)).Nodup := by
    cases bears with
    | asking trips =>
      have one : m.before.trips = [_] := Multiset.coe_eq_singleton.1 trips
      rw [one]
      exact List.nodup_singleton _
    | handed trips => exact nodup_of_trips trips
  rw [standing_after, ← results_outcome]
  rcases unasked.change distinct with change | same
  · rcases change.bears unasked.unasked bears with ⟨goes, none⟩ | ⟨left, r, result, failed⟩
    · refine .inl ⟨goes.imp (·.of_said _) fun ⟨c, commits⟩ => ⟨c, commits.of_said _⟩, ?_⟩
      exact none.trans unasked.results
    · rw [unasked.results] at result
      exact .inr ⟨left.of_said _, r, result, failed⟩
  · rw [same]
    exact .inl ⟨.inl (bears.of_said _), unasked.results⟩

/-- A desk that commits goes on with that. -/
theorem commits {c : Commit} (unasked : m.Unasked) (other : ∀ v f, m.move ≠ .committed v f)
    (commits : m.before.standing.Commits k target c) :
    m.after.standing.Commits k target c ∧ m.effects.filterMap (·.result?) = [] := by
  rw [standing_after, ← results_outcome]
  rcases unasked.change (nodup_of_trips commits.trips) with change | same
  · obtain ⟨left, none⟩ := change.commits unasked.unasked other commits
    exact ⟨left.of_said _, none.trans unasked.results⟩
  · rw [same]
    exact ⟨commits.of_said _, unasked.results⟩

/-- A commit ends with the one result of the request. -/
theorem committed {d : Desk} {v : View} {fault : Option Fault} {c : Commit} (silent : d.out = [])
    (commits : d.standing.Commits k target c) :
    (Moment.mk d (.committed v fault)).after.standing.Rests ∧
      ∃ r, (Moment.mk d (.committed v fault)).effects.filterMap (·.result?) = [(k, r)] ∧
        r.status.isSuccess = fault.isNone := by
  have unasked : (Moment.mk d (.committed v fault)).Unasked := ⟨trivial, nofun, silent⟩
  have busy : d.worker.commit?.isSome := by
    rw [show d.worker = .committing c from commits.worker]
    rfl
  obtain ⟨left, r, result, success⟩ := (change_committed d v busy).committed commits
  have before : d.standing.results = [] := unasked.results
  rw [standing_after, ← results_outcome]
  rw [before] at result
  exact ⟨left.of_said _, r, result, success⟩

/-- A desk at rest is asked for a switch. It turns the request down at once, which counts as done
    if the target is in the foreground; or it is busy with the request, whose target is known. -/
theorem requested {d : Desk} (silent : d.out = []) (rests : d.standing.Rests) (v : View)
    (p : Poster) (k : Ticket) (target : UserId) (timeout : Duration) :
    let m : Moment := ⟨d, .request v p k target timeout⟩
    (m.after.standing.Rests ∧ ∃ r, m.effects.filterMap (·.result?) = [(k, r)] ∧
        (r.status.isSuccess = true → target = v.current ∧ (v.find? target).isSome = true)) ∨
      m.after.standing.Bears k target ∧ m.effects.filterMap (·.result?) = [] ∧
        (v.find? target).isSome = true := by
  intro m
  rw [standing_after, ← results_outcome]
  have received : m.outcome.Receives v k target :=
    .of_request silent rests p timeout
  cases received with
  | turned rests result success => exact .inl ⟨rests.of_said _, _, result, success⟩
  | accepted bears none known => exact .inr ⟨bears.of_said _, none, known⟩

end Moment

end HeadUnit.Switching
