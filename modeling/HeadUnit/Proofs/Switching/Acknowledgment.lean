import HeadUnit.Proofs.Switching.Numbering

/-!
# Tokens are acknowledged once

A token that the vehicle has minted is *held* by a command, by the commit that
the worker is in or by the tracked transaction, until it is acknowledged or
dropped. No move makes a token more (`Change.spent_le`), so over a run a token is
acknowledged or held at most as often as it was minted (`IsRun.spent_le`).

What an acknowledgment tells goes back to what the token was minted for
(`Source`): a request, with the target and the prior user of the transaction it
installed, or a switch of the vehicle, with the user in the foreground when it
was applied or failed.
-/

namespace HeadUnit.Switching

open History

/-! ## Held tokens -/

/-- The token that comes with a command. -/
def Command.token? : Command → Option Token
  | answer a => if a.response.token.isSet then some a.response.token else none
  | initiated token _ => some token
  | direct .. | unlocked _ | switched .. => none

@[simp]
theorem Command.token?_answer (a : Answer) :
    (answer a).token? = if a.response.token.isSet then some a.response.token else none := rfl

@[simp]
theorem Command.token?_direct (target : UserId) (k : Ticket) : (direct target k).token? = none := rfl

@[simp]
theorem Command.token?_initiated (token : Token) (target : UserId) :
    (initiated token target).token? = some token := rfl

@[simp]
theorem Command.token?_unlocked (user : UserId) : (unlocked user).token? = none := rfl

theorem Command.IsNews.token?_eq {c : Command} (news : c.IsNews) : c.token? = none := by
  cases c <;> first | rfl | cases news

/-- The token that a transaction waits to have acknowledged. -/
def heldBy (t : Transaction) : Option Token := if t.token.isSet then some t.token else none

namespace Standing

/-- How often the token is held. -/
def held (s : Standing) (token : Token) : Nat :=
  s.pending.countP (·.token? = some token) + s.worker.commit?.toList.countP (·.token? = some token) +
    s.tx.toList.countP (heldBy · = some token)

/-- How often the token was acknowledged, and how often it is held. -/
def spent (s : Standing) (token : Token) : Nat :=
  (s.said.filterMap (·.acknowledged?)).countP (·.1 = token) + s.held token

theorem spent_say (s : Standing) (es : List Effect) (token : Token) :
    (s.say es).spent token =
      s.spent token + (es.filterMap (·.acknowledged?)).countP (·.1 = token) := by
  simp only [spent, say, List.filterMap_append, List.countP_append, held]
  omega

end Standing

/-- A token is acknowledged at most once when its command is dismissed. -/
theorem countP_acknowledged_dismissals (v : View) (cs : List Command) (token : Token) :
    ((Command.dismissals v cs).filterMap (·.acknowledged?)).countP (·.1 = token) ≤
      cs.countP (·.token? = some token) := by
  induction cs with
  | nil => exact Nat.le_refl 0
  | cons c cs ih =>
    rw [Command.dismissals_cons, List.filterMap_append, List.countP_append, List.countP_cons,
      Nat.add_comm]
    refine Nat.add_le_add ih ?_
    cases c <;> simp [Command.dismissal, Command.token?, Effect.acknowledged?]

theorem Standing.spent_post (s : Standing) (v : View) (cs : List Command) (token : Token) :
    (s.post v cs).spent token ≤ s.spent token + cs.countP (·.token? = some token) := by
  unfold post
  split
  · rw [spent_say]
    exact Nat.add_le_add_left (countP_acknowledged_dismissals v cs token) _
  · simp only [spent, held, Multiset.countP_add, Multiset.coe_countP]
    omega

theorem countP_token_events (es : List Event) (token : Token) :
    (es.filterMap Desk.commandOf?).countP (·.token? = some token) = 0 := by
  refine List.countP_eq_zero.2 fun c hc => ?_
  simp [(Command.isNews_of_mem_events hc).token?_eq]

theorem countP_heldBy_le (t : Transaction) (token : Token) :
    [t].countP (heldBy · = some token) ≤ if t.token = token then 1 else 0 := by
  rw [List.countP_singleton]
  by_cases e : t.token = token
  · rw [if_pos e]
    split <;> omega
  · have none : heldBy t ≠ some token := by
      unfold heldBy
      split <;> simp [e]
    rw [if_neg (by simpa using none)]
    exact Nat.zero_le _

/-- No move makes a token more. -/
theorem Change.spent_le {d : Desk} {m : Move} {s : Standing} (change : Change d m s)
    (token : Token) : s.spent token ≤ d.standing.spent token + m.minted?.toList.count token := by
  cases change with
  | rejected =>
    rw [Standing.spent_say]
    exact Nat.le_add_right ..
  | installed tx new =>
    have unset : heldBy tx = none := by rw [new]; rfl
    simp [Standing.spent, Standing.held, unset]
    omega
  | launched =>
    rw [Standing.spent_say]
    exact Nat.le_add_right ..
  | direct =>
    refine (Standing.spent_post ..).trans ?_
    simp
  | @tripEnded v k response fault o rest own trips =>
    refine (Standing.spent_post ..).trans (Nat.add_le_add_left ?_ _)
    by_cases set : response.token.isSet <;> simp [Move.minted?, set, List.count_singleton]
  | initiated =>
    refine (Standing.spent_post ..).trans ?_
    simp [Move.minted?, List.count_singleton]
  | events =>
    refine (Standing.spent_post ..).trans ?_
    simp [countP_token_events]
  | started new => simp [Standing.spent, Standing.held, Worker.commit?, new]
  | superseded a rest takes | denied a rest takes =>
    -- The token of the answer is dropped.
    rw [Standing.spent_say]
    simp [Standing.spent, Standing.held, Effect.acknowledged?, takes.pending, Multiset.countP_cons]
    omega
  | approved a rest takes current yes =>
    -- The token goes from the command to the commit.
    have same : (d.tx.map fun t => { t with stage := .awaitingOSCommit }).toList.countP
        (heldBy · = some token) = d.tx.toList.countP (heldBy · = some token) := by
      cases d.tx <;> rfl
    rw [Standing.spent_say]
    simp [Standing.spent, Standing.held, Effect.acknowledged?, Worker.commit?, takes.pending,
      takes.idle, yes.token, Multiset.countP_cons, same]
  | directTaken rest takes =>
    rw [Standing.spent_say]
    simp [Standing.spent, Standing.held, Effect.acknowledged?, Worker.commit?, takes.pending,
      takes.idle]
  | initiatedTaken rest takes =>
    rw [Standing.spent_say]
    simp [Standing.spent, Standing.held, Effect.acknowledged?, Worker.commit?, takes.pending,
      takes.idle, Multiset.countP_cons]
  | unlocked t rest takes tracked set =>
    -- The token of the transaction is acknowledged.
    rw [Standing.spent_say]
    simp [Standing.spent, Standing.held, Effect.acknowledged?, takes.pending, tracked, heldBy, set]
    omega
  | noted c rest takes news =>
    simp [Standing.spent, Standing.held, takes.pending, Multiset.countP_cons]
    omega
  | commitSuperseded a doing =>
    rw [Standing.spent_say]
    simp [Standing.spent, Standing.held, Effect.acknowledged?, Worker.commit?, doing]
    omega
  | commitFailed a doing | initiatedFailed doing =>
    -- The token of the commit is acknowledged.
    rw [Standing.spent_say]
    simp [Standing.spent, Standing.held, Effect.acknowledged?, Worker.commit?, doing]
    omega
  | directFailed doing | directDone doing =>
    rw [Standing.spent_say]
    simp [Standing.spent, Standing.held, Effect.acknowledged?, Worker.commit?, doing]
  | commitDone a doing =>
    -- The token goes from the commit to the transaction.
    have less : (d.tx.map fun t =>
        { t with token := a.response.token, stage := .awaitingUnlockAck }).toList.countP
        (heldBy · = some token) ≤ if a.response.token = token then 1 else 0 := by
      cases d.tx with
      | none => exact Nat.zero_le _
      | some t => exact countP_heldBy_le _ token
    rw [Standing.spent_say]
    simp [Standing.spent, Standing.held, Effect.acknowledged?, Worker.commit?, doing]
    omega
  | @initiatedDone _ token' target prior doing =>
    have less := countP_heldBy_le ⟨target, token', prior, .awaitingUnlockAck, d.seq + 1⟩ token
    simp [Standing.spent, Standing.held, Worker.commit?, doing] at less ⊢
    omega
  | marked doing => simp [Standing.spent, Standing.held, Worker.commit?, doing]
  | @closed _ v tx w down less before after =>
    have tx_le : tx.toList.countP (heldBy · = some token) ≤
        d.tx.toList.countP (heldBy · = some token) := by
      rcases less with rfl | rfl
      · exact Nat.le_refl _
      · exact Nat.zero_le _
    have := countP_acknowledged_dismissals v d.pending token
    rw [Standing.spent_say]
    simp [Standing.spent, Standing.held, before, after]
    omega
  | adjusted other => exact Nat.le_add_right ..

/-- Over a run, a token is acknowledged or held at most as often as it was minted. -/
theorem IsRun.spent_le {h : History} {d : Desk} (run : IsRun h d) (token : Token) :
    (acknowledged h).countP (·.1 = token) + d.standing.held token ≤ (minted h).count token := by
  induction run with
  | fresh => exact Nat.le_refl 0
  | @step h d m run able ih =>
    have change := (run.change able).spent_le token
    rw [Standing.spent, Standing.spent, run.said_eq_nil] at change
    rw [acknowledged_snoc, minted_snoc, Moment.acknowledged_eq, List.countP_append,
      List.count_append]
    have same : (Moment.mk d m).after.standing.held token = (Moment.mk d m).outcome.held token := rfl
    simp only [List.filterMap_nil, List.countP_nil, same] at change ⊢
    omega

/-- If no two tokens are the same, none is acknowledged twice. -/
theorem IsRun.nodup_acknowledged {h : History} {d : Desk} (run : IsRun h d)
    (distinct : (minted h).Nodup) : ((acknowledged h).map (·.1)).Nodup := by
  refine nodup_map_of_countP fun token => ?_
  have once := List.nodup_iff_count_le_one.1 distinct token
  have spent := run.spent_le token
  omega

/-! ## Sources -/

/-- The request with the ticket `k` was committed: it was successful, or the
    operating system failed. -/
def History.Performed (h : History) (k : Ticket) : Prop :=
  ∃ r, (k, r) ∈ results h ∧ (r.status = .successful ∨ r.status = .osFailure)

/-- What the token was minted for: a request, with the prior user and the target of
    its transaction (until the counter runs out), or a switch of the vehicle. -/
inductive Source (h : History) (token : Token) (prior target : UserId) : Prop
  | request (k : Ticket) (t : Transaction) (r : Vehicle.SwitchResponse)
      (installed : Installed h k t) (ended : Ended h k r none) (own : r.token = token)
      (set : token.isSet = true) (performed : Performed h k)
      (same : (transactions h).length < 2 ^ 64 → t.prior = prior ∧ t.target = target)
  | initiated (call : Initiated h token target) (disposed : Disposed h token target prior)

theorem Source.snoc {h : History} {token : Token} {prior target : UserId}
    (source : Source h token prior target) (m : Moment) : Source (h ++ [m]) token prior target := by
  have sub := subset_snoc h m
  cases source with
  | request k t r installed ended own set performed same =>
    obtain ⟨result, mem, status⟩ := performed
    refine .request k t r (exists_mono sub installed) (exists_mono sub ended) own set
      ⟨result, ?_, status⟩ fun few => same ?_
    · rw [results_snoc]
      exact List.mem_append_left _ mem
    · exact (length_transactions_le_snoc h m).trans_lt few
  | initiated call disposed => exact .initiated (exists_mono sub call) (exists_mono sub disposed)

/-- The token of the tracked transaction has a source. -/
def IsSourced (h : History) (tx : Option Transaction) : Prop :=
  ∀ t, tx = some t → t.token.isSet = true → Source h t.token t.prior t.target

section Step

variable {h : History} {d : Desk} {m : Move} {s : Standing}

theorem mem_results_snoc (out : (Moment.mk d m).outcome = s) {k : Ticket} {r : SwitchResult}
    (mem : .reply k r ∈ s.said) : (k, r) ∈ results (h ++ [⟨d, m⟩]) := by
  rw [results_snoc, Moment.results_eq, out]
  exact List.mem_append_right _ (List.mem_filterMap.2 ⟨_, mem, rfl⟩)

/-- A commit that ends performs its request: its token has a source. -/
theorem IsRun.source_of_committing (run : IsRun h d) {a : Answer}
    (doing : d.worker = .committing (.answer a)) {prior target : UserId}
    (performed : Performed (h ++ [⟨d, m⟩]) a.ticket)
    (same : (transactions h).length < 2 ^ 64 → a.tx.prior = prior ∧ a.tx.target = target) :
    Source (h ++ [⟨d, m⟩]) a.response.token prior target := by
  have sub := subset_snoc h ⟨d, m⟩
  obtain ⟨⟨installed, ended⟩, yes⟩ := run.origin_of_committing doing
  rw [yes.fault] at ended
  refine .request a.ticket a.tx a.response (exists_mono sub installed) (exists_mono sub ended) rfl
    yes.token performed fun few => same ((length_transactions_le_snoc h _).trans_lt few)

/-- A switch of the vehicle that the worker commits was taken by it. -/
theorem IsRun.source_of_initiated (run : IsRun h d) {token : Token} {prior target : UserId}
    (doing : d.worker = .committing (.initiated token target prior)) :
    Source h token prior target := by
  obtain ⟨call, disposed⟩ := run.origin_of_committing doing
  exact .initiated call disposed

/-- A move that tracks a token gives it a source. -/
theorem Change.isSourced (change : Change d m s) (out : (Moment.mk d m).outcome = s)
    (run : IsRun h d) (old : IsSourced h d.tx) : IsSourced (h ++ [⟨d, m⟩]) s.tx := by
  have kept : IsSourced (h ++ [⟨d, m⟩]) d.tx := fun t tracked set => (old t tracked set).snoc _
  cases change with
  | rejected | launched | started | superseded | directTaken | initiatedTaken | noted
  | commitSuperseded | directFailed | directDone | initiatedFailed | marked | adjusted => exact kept
  | direct | tripEnded | initiated | events =>
    rw [Standing.post_tx]
    exact kept
  | denied | unlocked | commitFailed => exact nofun
  | installed tx new =>
    rintro t ⟨⟩ set
    rw [new] at set
    cases set
  | approved =>
    intro t ht set
    obtain ⟨t₀, tracked, rfl⟩ := Option.map_eq_some_iff.1 ht
    exact kept t₀ tracked set
  | commitDone a doing current =>
    intro t ht _
    obtain ⟨t₀, tracked, rfl⟩ := Option.map_eq_some_iff.1 ht
    refine run.source_of_committing doing ⟨⟨.successful, ""⟩, mem_results_snoc out ?_, .inl rfl⟩
      fun few => ?_
    · exact List.mem_append_right _ List.mem_cons_self
    · -- The answer passed as current, so what is tracked is its transaction.
      obtain ⟨t', tracked', same⟩ :=
        run.sameSwitch_of_isCurrent few (run.origin_of_committing doing).1.1 current
      obtain rfl : t' = t₀ := Option.some.inj (tracked'.symm.trans tracked)
      exact ⟨same.prior.symm, same.target.symm⟩
  | initiatedDone doing =>
    rintro t ⟨⟩ _
    exact (run.source_of_initiated doing).snoc _
  | closed tx w down less =>
    rcases less with rfl | rfl
    · exact kept
    · exact nofun

/-- Only switches of the vehicle are acknowledged when they are dismissed. -/
theorem initiated_of_dismissal {v : View} {cs : List Command} {token : Token}
    {prior target : UserId} {users : Directory}
    (mem : .notify (.postSwitch token prior target users) ∈ Command.dismissals v cs) :
    .initiated token target ∈ cs ∧ v.current = prior := by
  obtain ⟨c, hc, mem⟩ := List.mem_flatMap.1 mem
  cases c with
  | answer | direct => cases List.mem_singleton.1 mem
  | initiated =>
    cases List.mem_singleton.1 mem
    exact ⟨hc, rfl⟩
  | unlocked | switched => cases mem

/-- A move that acknowledges a token has a source for it. -/
theorem Change.source_of_notice (change : Change d m s) (out : (Moment.mk d m).outcome = s)
    (run : IsRun h d) (old : IsSourced h d.tx) {token : Token} {prior target : UserId}
    {users : Directory} (mem : .notify (.postSwitch token prior target users) ∈ s.said) :
    Source (h ++ [⟨d, m⟩]) token prior target := by
  have silent := run.said_eq_nil
  have now := mem_snoc h ⟨d, m⟩
  cases change with
  | direct | tripEnded =>
    obtain ⟨_, dismissed⟩ := Standing.dismissed_of_post mem silent
    cases List.mem_singleton.1 (initiated_of_dismissal dismissed).1
  | events =>
    obtain ⟨_, dismissed⟩ := Standing.dismissed_of_post mem silent
    exact (Command.isNews_of_mem_events (initiated_of_dismissal dismissed).1).elim
  | initiated =>
    obtain ⟨shut, dismissed⟩ := Standing.dismissed_of_post mem silent
    obtain ⟨own, current⟩ := initiated_of_dismissal dismissed
    cases List.mem_singleton.1 own
    exact .initiated ⟨_, now, _, _, rfl⟩ ⟨_, now, _, .refused _ rfl shut, current⟩
  | unlocked t rest takes tracked set =>
    rw [Standing.said_say, silent] at mem
    cases List.mem_singleton.1 mem
    exact (old t tracked set).snoc _
  | commitFailed a doing current =>
    have result := mem_results_snoc (h := h) out
      (List.mem_append_right _ (List.mem_cons_of_mem _ List.mem_cons_self))
    rw [Standing.said_say, silent] at mem
    rcases List.mem_cons.1 mem with e | mem
    · cases e
      exact run.source_of_committing doing ⟨_, result, .inr rfl⟩ fun _ => ⟨rfl, rfl⟩
    · cases List.mem_singleton.1 mem
  | initiatedFailed doing =>
    rw [Standing.said_say, silent] at mem
    cases List.mem_singleton.1 mem
    exact (run.source_of_initiated doing).snoc _
  | closed tx w down =>
    rw [Standing.said_say, silent] at mem
    obtain ⟨pending, current⟩ := initiated_of_dismissal mem
    have origin := run.provenance.pending _ pending
    exact .initiated (exists_mono (subset_snoc ..) origin)
      ⟨_, now, _, .failed down pending, current⟩
  | rejected | launched | superseded | denied | approved | directTaken | initiatedTaken
  | commitSuperseded | commitDone | directFailed | directDone =>
    rw [Standing.said_say, silent] at mem
    cases List.mem_singleton.1 mem
  | installed | started | noted | initiatedDone | marked | adjusted =>
    simp only [silent, List.not_mem_nil] at mem

end Step

namespace IsRun

variable {h : History} {d : Desk}

/-- Tracked and acknowledged tokens have sources, in every state of a run. -/
theorem sources (run : IsRun h d) :
    IsSourced h d.tx ∧ ∀ x ∈ acknowledged h, Source h x.1 x.2.1 x.2.2 := by
  induction run with
  | fresh => exact ⟨nofun, nofun⟩
  | @step h d m run able ih =>
    refine ⟨(run.change able).isSourced rfl run ih.1, fun x mem => ?_⟩
    rw [acknowledged_snoc] at mem
    rcases List.mem_append.1 mem with old | new
    · exact (ih.2 x old).snoc _
    · obtain ⟨users, mem⟩ := Moment.notice_mem_said new
      exact (run.change able).source_of_notice rfl run ih.1 mem

/-- If no two tokens are the same, a token tells the trip it came with. -/
theorem ticket_of_token (distinct : (minted h).Nodup) {k k' : Ticket}
    {r r' : Vehicle.SwitchResponse} {f f' : Option Fault} (one : Ended h k r f)
    (other : Ended h k' r' f') (same : r'.token = r.token) (set : r.token.isSet = true) :
    k = k' := by
  obtain ⟨m, hm, _, em⟩ := one
  obtain ⟨n, hn, _, en⟩ := other
  obtain rfl : m = n := eq_of_mem_filterMap distinct hm hn
    (show m.move.minted? = some r.token by rw [em]; exact if_pos set)
    (by rw [en, ← same]; exact if_pos (same ▸ set))
  cases em.symm.trans en
  rfl

/-- If no two tokens are the same, none comes with a trip and a switch of the
    vehicle. -/
theorem not_initiated_of_ended (distinct : (minted h).Nodup) {k : Ticket}
    {r : Vehicle.SwitchResponse} {f : Option Fault} {target : UserId} (one : Ended h k r f)
    (set : r.token.isSet = true) : ¬Initiated h r.token target := by
  rintro ⟨n, hn, _, _, en⟩
  obtain ⟨m, hm, _, em⟩ := one
  obtain rfl : m = n := eq_of_mem_filterMap distinct hm hn
    (show m.move.minted? = some r.token by rw [em]; exact if_pos set) (by rw [en]; rfl)
  cases em.symm.trans en

/-- If no two tokens are the same, only the tokens of requests that were committed
    are acknowledged. -/
theorem performed_of_acknowledged (run : IsRun h d) (distinct : (minted h).Nodup) {k : Ticket}
    {r : Vehicle.SwitchResponse} {f : Option Fault} (ended : Ended h k r f)
    (set : r.token.isSet = true) (sent : r.token ∈ (acknowledged h).map (·.1)) :
    Performed h k := by
  obtain ⟨x, mem, e⟩ := List.mem_map.1 sent
  cases run.sources.2 x mem with
  | request k' t r' installed ended' own _ performed =>
    exact ticket_of_token distinct ended ended' (own.trans e) set ▸ performed
  | initiated call => exact absurd (e ▸ call) (not_initiated_of_ended distinct ended set)

end IsRun

/-! ## Failures of the operating system -/

section Step

variable {d : Desk} {m : Move} {s : Standing}

theorem direct_of_dismissal {v : View} {cs : List Command} {k : Ticket} {message : String}
    (mem : .reply k ⟨.osFailure, message⟩ ∈ Command.dismissals v cs) :
    ∃ target, .direct target k ∈ cs := by
  obtain ⟨c, hc, mem⟩ := List.mem_flatMap.1 mem
  cases c with
  | answer | initiated => cases List.mem_singleton.1 mem
  | direct target =>
    cases List.mem_singleton.1 mem
    exact ⟨target, hc⟩
  | unlocked | switched => cases mem

/-- A request for which the operating system failed was not negotiated, or its
    token is acknowledged. -/
theorem Change.osFailure (change : Change d m s) (silent : d.standing.said = []) {k : Ticket}
    {message : String} (mem : .reply k ⟨.osFailure, message⟩ ∈ s.said) :
    (∃ v p target timeout, m = .request v p k target timeout ∧ v.negotiates = false ∧
      s.seq = d.seq) ∨
    (∃ target, .direct target k ∈ d.pending) ∨
    (∃ target, d.worker = .committing (.direct target k)) ∨
    ∃ a users, a.ticket = k ∧ d.worker = .committing (.answer a) ∧
      .notify (.postSwitch a.response.token a.tx.prior a.tx.target users) ∈ s.said := by
  cases change with
  | direct free =>
    obtain ⟨target, new⟩ := direct_of_dismissal (Standing.dismissed_of_post mem silent).2
    cases List.mem_singleton.1 new
    exact .inl ⟨_, _, _, _, rfl, free, Standing.post_seq ..⟩
  | tripEnded | initiated =>
    obtain ⟨target, new⟩ := direct_of_dismissal (Standing.dismissed_of_post mem silent).2
    cases List.mem_singleton.1 new
  | events =>
    obtain ⟨target, new⟩ := direct_of_dismissal (Standing.dismissed_of_post mem silent).2
    exact (Command.isNews_of_mem_events new).elim
  | directFailed doing =>
    rw [Standing.said_say, silent] at mem
    cases List.mem_singleton.1 mem
    exact .inr (.inr (.inl ⟨_, doing⟩))
  | @commitFailed v _ a doing =>
    rw [Standing.said_say, silent] at mem
    rcases List.mem_cons.1 mem with e | mem
    · cases e
    · cases List.mem_singleton.1 mem
      refine .inr (.inr (.inr ⟨a, v.directory, rfl, doing, ?_⟩))
      exact List.mem_append_right _ List.mem_cons_self
  | closed =>
    rw [Standing.said_say, silent] at mem
    exact .inr (.inl (direct_of_dismissal mem))
  | denied a rest takes current no down =>
    rw [Standing.said_say, silent] at mem
    cases List.mem_singleton.1 mem
    rcases down with down | down <;> cases down
  | rejected down =>
    rw [Standing.said_say, silent] at mem
    cases List.mem_singleton.1 mem
    rcases down with down | down | down <;> cases down
  | launched | superseded | approved | directTaken | initiatedTaken | unlocked
  | commitSuperseded | commitDone | directDone | initiatedFailed =>
    rw [Standing.said_say, silent] at mem
    cases List.mem_singleton.1 mem
  | installed | started | noted | initiatedDone | marked | adjusted =>
    simp only [silent, List.not_mem_nil] at mem

end Step

/-- If the operating system failed for a request that asked the vehicle, the
    request was approved and its token acknowledged. -/
theorem IsRun.acknowledged_of_osFailure {h : History} {d : Desk} (run : IsRun h d) {k : Ticket}
    {message : String} (asked : k ∈ (negotiated h).map (·.ticket))
    (result : (k, ⟨.osFailure, message⟩) ∈ results h) :
    ∃ r, Ended h k r none ∧ r.decision = .approved ∧ r.token.isSet = true ∧
      r.token ∈ (acknowledged h).map (·.1) := by
  have direct := run.not_unasked_of_negotiated asked
  -- The moment of the result is that of a commit, or of a switch that was not negotiated.
  obtain ⟨m, hm, mem⟩ := mem_results.1 result
  obtain ⟨h₁, sub, before, change⟩ := run.change_at hm
  rcases change.osFailure before.said_eq_nil (Moment.reply_mem_said mem) with
    ⟨v, p, target, timeout, move, free, same⟩ | ⟨target, pending⟩ | ⟨target, doing⟩ |
    ⟨a, users, rfl, doing, notice⟩
  · exact absurd ⟨m, hm, v, p, target, timeout, move, free, Moment.installed?_of_seq_eq same⟩ direct
  · exact absurd (exists_mono sub (before.provenance.pending _ pending)) direct
  · exact absurd (exists_mono sub (before.origin_of_committing doing)) direct
  · obtain ⟨⟨_, ended⟩, yes⟩ := before.origin_of_committing doing
    rw [yes.fault] at ended
    refine ⟨a.response, exists_mono sub ended, yes.decision, yes.token, ?_⟩
    have sent : (a.response.token, a.tx.prior, a.tx.target) ∈ acknowledged h := by
      refine mem_acknowledged.2 ⟨m, hm, ?_⟩
      rw [m.acknowledged_eq]
      exact List.mem_filterMap.2 ⟨_, notice, rfl⟩
    exact List.mem_map_of_mem sent

/-! ## Acknowledgment -/

/-- If no two tokens that the vehicle mints are the same, no token is acknowledged
    twice. An acknowledgment tells the target and the prior user of the transaction
    that the request of its token installed (until the counter of transactions runs
    out, as then an answer may pass for another one), or the target of the switch of
    the vehicle and the user in the foreground when it was applied or failed. The
    token of a request that was abandoned or that the vehicle failed is never
    acknowledged; that of a request that asked the vehicle and for which the
    operating system failed is, once. -/
theorem acknowledged_once {h : History} {d : Desk} (run : IsRun h d)
    (distinct : (minted h).Nodup) :
    ((acknowledged h).map (·.1)).Nodup ∧
    ((transactions h).length < 2 ^ 64 →
      ∀ token prior target, (token, prior, target) ∈ acknowledged h →
        (∃ k t r, Installed h k t ∧ Ended h k r none ∧ r.token = token ∧ t.prior = prior ∧
          t.target = target) ∨
        Initiated h token target ∧ Disposed h token target prior) ∧
    (∀ k r f result, Ended h k r f → r.token.isSet = true → (k, result) ∈ results h →
      result.status = .abandonedForNewerRequest ∨ result.status = .coordinatorFailure ∨
        result.status = .coordinatorInternalFailure →
      r.token ∉ (acknowledged h).map (·.1)) ∧
    (∀ k message, k ∈ (negotiated h).map (·.ticket) → (k, ⟨.osFailure, message⟩) ∈ results h →
      ∃ r, (∀ r' f, Ended h k r' f ↔ r' = r ∧ f = none) ∧ r.decision = .approved ∧
        r.token.isSet = true ∧ ((acknowledged h).map (·.1)).count r.token = 1) := by
  have once := run.nodup_acknowledged distinct
  refine ⟨once, fun few token prior target mem => ?_, fun k r f result ended set mem down sent => ?_,
    fun k message asked result => ?_⟩
  · cases run.sources.2 _ mem with
    | request k t r installed ended own _ _ same =>
      exact .inl ⟨k, t, r, installed, ended, own, same few⟩
    | initiated call disposed => exact .inr ⟨call, disposed⟩
  · obtain ⟨result', mem', status⟩ := run.performed_of_acknowledged distinct ended set sent
    rw [run.result_unique mem mem'] at down
    rcases status with e | e <;> simp [e] at down
  · obtain ⟨r, ended, yes, set, sent⟩ := run.acknowledged_of_osFailure asked result
    refine ⟨r, fun r' f => ⟨fun ended' => run.ended_unique ended' ended, ?_⟩, yes, set,
      List.count_eq_one_of_mem once sent⟩
    rintro ⟨rfl, rfl⟩
    exact ended

/-- In the sample run, the token of Bob's first request, for which the operating
    system failed, is acknowledged once. -/
theorem acknowledged_of_sample :
    ∃ r, (∀ r' f, Ended Sample.state.1 2 r' f ↔ r' = r ∧ f = none) ∧ r.decision = .approved ∧
      r.token.isSet = true ∧ ((acknowledged Sample.state.1).map (·.1)).count r.token = 1 :=
  (acknowledged_once Sample.isRun (by decide)).2.2.2 2 "no display" (by decide) (by decide)

end HeadUnit.Switching
