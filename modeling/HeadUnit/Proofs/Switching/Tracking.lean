import HeadUnit.Proofs.Switching.Numbering

/-!
# The tracked transaction

The stage of the tracked transaction tells where its answer is (`Staged`):

* while it waits for the vehicle, the answer is *awaited*: its trip is
  outstanding, or the answer is queued or with a poster that waits;
* while it waits for the operating system, the worker commits the answer;
* while it waits for its target to unlock, there is no answer left, and only
  then it has a token.

Two facts about numbers carry this through a run: no two answers in hand have
the same one (`IsRun.nodup_seqs_answers`), and none has the next one
(`IsRun.seq_ne_next`).
-/

namespace HeadUnit.Switching

open History

/-! ## Awaited answers -/

/-- The trip that a command answers. -/
def Command.answers? : Command → Option Outstanding
  | answer a => some ⟨a.tx, a.ticket⟩
  | direct .. | initiated .. | unlocked _ | switched .. => none

/-- The trip whose answer is committed. -/
def Worker.answers? : Worker → Option Outstanding
  | committing (.answer a) => some ⟨a.tx, a.ticket⟩
  | _ => none

theorem Worker.exists_of_answers? {w : Worker} {o : Outstanding} (e : w.answers? = some o) :
    ∃ a, w = .committing (.answer a) ∧ o = ⟨a.tx, a.ticket⟩ := by
  rcases w with _ | _ | (a | _ | _) | _ <;> cases e
  exact ⟨a, rfl, rfl⟩

/-- The trip that a carrier is, or whose answer it has. -/
def Carrier.answers? : Carrier → Option Outstanding
  | trip o => some o
  | posting c | queued c => c.answers?
  | committing c => (Worker.committing c).answers?

/-- The trips that are outstanding, or whose answers are queued or with a poster
    that waits. -/
def Desk.awaited (d : Desk) : List Outstanding := d.trips ++ d.pending.filterMap (·.answers?)

/-- The trips that are outstanding or whose answers are pending. -/
def Standing.awaited (s : Standing) : Multiset Outstanding :=
  s.trips + s.pending.filterMap (·.answers?)

/-- Answers are awaited until the worker commits them. -/
theorem Desk.filterMap_carriers (d : Desk) :
    d.carriers.filterMap (·.answers?) = d.awaited ++ d.worker.answers?.toList := by
  have trips : (d.trips.map Carrier.trip).filterMap (·.answers?) = d.trips := by
    rw [List.filterMap_map]
    exact List.filterMap_some
  have commit : (d.worker.commit?.toList.map Carrier.committing).filterMap (·.answers?) =
      d.worker.answers?.toList := by
    rcases d.worker with _ | _ | (_ | _ | _) | _ <;> rfl
  rw [carriers, List.filterMap_append, List.filterMap_append, List.filterMap_append, trips, commit,
    awaited, pending, List.filterMap_append, List.filterMap_map, List.filterMap_map]
  exact congrArg (· ++ _) (List.append_assoc ..)

/-! ## Stages -/

/-- Where the answer of the tracked transaction `t` is, given whether the desk is
    closed, the awaited answers and the worker. -/
inductive Staged (closed : Bool) (awaited : Multiset Outstanding) (w : Worker) (t : Transaction) :
    Prop
  | asking (stage : t.stage = .awaitingCoordinator) (unset : t.token.isSet = false)
      (carrier : closed = false → ∃ o ∈ awaited, o.tx.seq = t.seq)
  | committing (stage : t.stage = .awaitingOSCommit) (unset : t.token.isSet = false) (a : Answer)
      (doing : w = .committing (.answer a)) (seq : a.tx.seq = t.seq)
  | acknowledging (stage : t.stage = .awaitingUnlockAck) (set : t.token.isSet = true)
      (gone : ∀ o ∈ awaited, o.tx.seq ≠ t.seq)
      (done : ∀ o, w.answers? = some o → o.tx.seq ≠ t.seq)

/-- The stage of the tracked transaction tells where its answer is. -/
def Standing.IsStaged (s : Standing) : Prop :=
  ∀ t, s.tx = some t → Staged s.closed s.awaited s.worker t

namespace Staged

variable {closed closed' : Bool} {awaited awaited' : Multiset Outstanding} {w w' : Worker}
  {t : Transaction}

theorem of_eq (staged : Staged closed awaited w t) (same : awaited' = awaited) :
    Staged closed awaited' w t := same ▸ staged

/-- Answers of other transactions may go. -/
theorem drop (staged : Staged closed awaited w t) (sub : awaited' ⊆ awaited)
    (stay : closed' = false → closed = false ∧ ∀ o ∈ awaited, o.tx.seq = t.seq → o ∈ awaited') :
    Staged closed' awaited' w t := by
  cases staged with
  | asking stage unset carrier =>
    refine .asking stage unset fun isOpen => ?_
    obtain ⟨was, kept⟩ := stay isOpen
    obtain ⟨o, mem, seq⟩ := carrier was
    exact ⟨o, kept o mem seq, seq⟩
  | committing stage unset a doing seq => exact .committing stage unset a doing seq
  | acknowledging stage set gone done =>
    exact .acknowledging stage set (fun o mem => gone o (sub mem)) done

/-- A worker that does not commit the answer of `t` may turn to something else. -/
theorem turn (staged : Staged closed awaited w t)
    (other : ∀ o, w.answers? = some o → o.tx.seq ≠ t.seq) (none : w'.answers? = none) :
    Staged closed awaited w' t := by
  cases staged with
  | asking stage unset carrier => exact .asking stage unset carrier
  | committing stage unset a doing seq => exact absurd seq (other ⟨a.tx, a.ticket⟩ (by rw [doing]; rfl))
  | acknowledging stage set gone done =>
    exact .acknowledging stage set gone fun o ho => nomatch none.symm.trans ho

end Staged

/-! ## A move keeps the stage -/

section Step

variable {d : Desk} {m : Move} {s : Standing}

/-- Commands that are no answers may be posted. -/
theorem Standing.IsStaged.post {s : Standing} (staged : s.IsStaged) {v : View} {cs : List Command}
    (none : ∀ c ∈ cs, c.answers? = none) : (s.post v cs).IsStaged := by
  unfold Standing.post
  split
  · exact staged
  · have nothing : cs.filterMap (·.answers?) = [] := List.filterMap_eq_nil_iff.2 none
    have same : ({ s with pending := s.pending + cs } : Standing).awaited = s.awaited := by
      simp only [awaited, Multiset.filterMap_add, Multiset.filterMap_coe, nothing,
        Multiset.coe_nil, add_zero]
    exact fun t tracked => (staged t tracked).of_eq same

/-- The answer of a trip that ends may be posted. -/
theorem Standing.IsStaged.answered {s : Standing} (staged : s.IsStaged) {v : View} {a : Answer}
    {o : Outstanding} {rest : Multiset Outstanding} (trips : s.trips = o ::ₘ rest)
    (own : Command.answers? (.answer a) = some o) :
    (({ s with trips := rest } : Standing).post v [.answer a]).IsStaged := by
  unfold Standing.post
  split
  · next shut =>
    refine fun t tracked => (staged t tracked).drop ?_ fun isOpen => ?_
    · exact Multiset.subset_of_le (Multiset.add_le_add_right (trips ▸ Multiset.le_cons_self ..))
    · exact nomatch shut.symm.trans isOpen
  · have same : rest + (s.pending + ([.answer a] : List Command)).filterMap (·.answers?) =
        s.awaited := by
      rw [Standing.awaited, trips, Multiset.filterMap_add, Multiset.filterMap_coe,
        List.filterMap_cons_some own, List.filterMap_nil, Multiset.coe_singleton,
        ← Multiset.singleton_add o]
      abel
    exact fun t tracked => (staged t tracked).of_eq same

theorem Command.IsNews.answers?_eq {c : Command} (news : c.IsNews) : c.answers? = none := by
  cases c <;> first | rfl | cases news

theorem Takes.awaited_eq {c : Command} {rest : Multiset Command} (takes : Takes d c rest)
    (none : c.answers? = none) :
    ({ d.standing with pending := rest } : Standing).awaited = d.standing.awaited := by
  rw [Standing.awaited, Standing.awaited, Desk.standing_pending, takes.pending,
    Multiset.filterMap_cons_none _ _ none]

theorem Takes.awaited_answer {a : Answer} {rest : Multiset Command}
    (takes : Takes d (.answer a) rest) :
    d.standing.awaited =
      ⟨a.tx, a.ticket⟩ ::ₘ ({ d.standing with pending := rest } : Standing).awaited := by
  rw [Standing.awaited, Desk.standing_pending, takes.pending,
    Multiset.filterMap_cons_some (·.answers?) (.answer a) rest (b := ⟨a.tx, a.ticket⟩) rfl,
    Multiset.add_cons]
  rfl

/-- A move keeps the stage of the tracked transaction true, if numbers tell
    answers apart and commits come with tokens. -/
theorem Change.isStaged (change : Change d m s) (staged : d.standing.IsStaged)
    (apart : ∀ o, d.worker.answers? = some o → ∀ o' ∈ d.standing.awaited, o'.tx.seq ≠ o.tx.seq)
    (fresh : ∀ o ∈ d.standing.awaited, o.tx.seq ≠ d.seq + 1)
    (tokens : ∀ c token, d.worker.commit? = some c → c.token? = some token → token.isSet = true) :
    s.IsStaged := by
  -- A worker that does not commit an answer may turn to something else.
  have turn {w : Worker} {t} (tracked : d.tx = some t) (before : d.worker.answers? = none)
      (after : w.answers? = none) : Staged d.closed d.standing.awaited w t :=
    (staged t tracked).turn (fun o ho => nomatch before.symm.trans ho) after
  have differ {t t' : Transaction} (tracked : d.tx = some t) (late : d.isCurrent t' = false) :
      t'.seq ≠ t.seq := fun e => by
    rw [Desk.isCurrent_iff.2 ⟨t, tracked, e.symm⟩] at late
    cases late
  have single {c : Command} (none : c.answers? = none) : ∀ c' ∈ [c], c'.answers? = .none :=
    fun c' hc => List.mem_singleton.1 hc ▸ none
  cases change with
  | rejected | launched | adjusted => exact staged
  | direct | initiated => exact staged.post (single rfl)
  | events => exact staged.post fun c hc => (Command.isNews_of_mem_events hc).answers?_eq
  | @installed _ _ k _ _ tx new =>
    rintro t ⟨⟩
    subst new
    refine .asking rfl rfl fun _ => ⟨⟨_, k⟩, ?_, rfl⟩
    exact Multiset.mem_add.2 (.inl (show _ ∈ _ ::ₘ d.standing.trips from Multiset.mem_cons_self ..))
  | tripEnded o rest own trips => exact staged.answered trips (own ▸ rfl)
  | started waits | marked waits =>
    exact fun t tracked => turn tracked (by rw [waits]; rfl) rfl
  | superseded a rest takes late =>
    intro t tracked
    refine (staged t tracked).drop ?_ fun isOpen => ⟨isOpen, fun o mem seq => ?_⟩
    · rw [takes.awaited_answer]
      exact Multiset.subset_cons ..
    · rw [takes.awaited_answer] at mem
      rcases Multiset.mem_cons.1 mem with rfl | mem
      · exact absurd seq (differ tracked late)
      · exact mem
  | denied | unlocked | commitFailed => exact nofun
  | approved a rest takes current yes =>
    intro t ht
    obtain ⟨t₀, tracked, rfl⟩ := Option.map_eq_some_iff.1 ht
    have seq := Desk.seq_eq_of_isCurrent current tracked
    have mem : ⟨a.tx, a.ticket⟩ ∈ d.standing.awaited :=
      takes.awaited_answer ▸ Multiset.mem_cons_self ..
    -- An answer that is still pending has not brought its token.
    have unset : t₀.token.isSet = false := by
      cases staged t₀ tracked with
      | asking stage unset => exact unset
      | committing stage unset => exact unset
      | acknowledging stage set gone => exact absurd seq.symm (gone _ mem)
    exact .committing rfl unset a rfl seq.symm
  | directTaken rest takes | initiatedTaken rest takes =>
    exact fun t tracked =>
      (turn tracked (by rw [takes.idle]; rfl) rfl).of_eq (takes.awaited_eq rfl)
  | noted c rest takes news =>
    exact fun t tracked => (staged t tracked).of_eq (takes.awaited_eq news.answers?_eq)
  | commitSuperseded a doing late =>
    refine fun t tracked => (staged t tracked).turn (fun o ho => ?_) rfl
    rw [Desk.standing_worker, doing] at ho
    cases ho
    exact differ tracked late
  | commitDone a doing current =>
    intro t ht
    obtain ⟨t₀, tracked, rfl⟩ := Option.map_eq_some_iff.1 ht
    have seq := Desk.seq_eq_of_isCurrent current tracked
    have set : a.response.token.isSet = true := tokens _ _ (by rw [doing]; rfl) rfl
    -- No other answer has the number of the one that is committed.
    refine .acknowledging rfl set (fun o mem => ?_) nofun
    exact seq ▸ apart ⟨a.tx, a.ticket⟩ (by rw [doing]; rfl) o mem
  | directFailed doing | directDone doing | initiatedFailed doing =>
    exact fun t tracked => turn tracked (by rw [doing]; rfl) rfl
  | initiatedDone doing =>
    rintro t ⟨⟩
    exact .acknowledging rfl (tokens _ _ (by rw [doing]; rfl) rfl) fresh nofun
  | closed tx w down less before after =>
    intro t ht
    have tracked : d.tx = some t := by
      rcases less with rfl | rfl
      · exact ht
      · cases ht
    have idle {w : Worker} (none : w.commit? = none) : w.answers? = .none := by
      cases w <;> first | rfl | cases none
    refine ((staged t tracked).turn (fun o ho => ?_) (idle after)).drop ?_ nofun
    · exact nomatch (idle before).symm.trans ho
    · exact fun o mem => Multiset.mem_add.2 (.inl (by simpa [Standing.awaited, Standing.say] using mem))

end Step

/-! ## Runs -/

/-- An answer has the ticket of its trip. -/
theorem Carrier.ticket?_of_answers? {c : Carrier} {o : Outstanding} (e : c.answers? = some o) :
    c.ticket? = some o.ticket := by
  have command {c : Command} (e : c.answers? = some o) : c.ticket? = some o.ticket := by
    cases c <;> cases e
    rfl
  cases c with
  | trip o' =>
    cases e
    rfl
  | posting c | queued c => exact command e
  | committing c =>
    cases c <;> cases e
    rfl

namespace IsRun

variable {h : History} {d : Desk}

/-- Every answer in hand goes back to the request that installed its transaction. -/
theorem installed_of_answers? (run : IsRun h d) {o : Outstanding}
    (mem : o ∈ d.carriers.filterMap (·.answers?)) : Installed h o.ticket o.tx := by
  rw [Desk.filterMap_carriers, List.mem_append, Desk.awaited, List.mem_append] at mem
  rcases mem with (trip | mem) | commit
  · exact run.provenance.trips o trip
  · obtain ⟨c, pending, e⟩ := List.mem_filterMap.1 mem
    have origin := run.provenance.pending c pending
    cases c <;> cases e
    exact origin.1
  · obtain ⟨a, doing, rfl⟩ := Worker.exists_of_answers? (Option.mem_toList.1 commit)
    exact (run.origin_of_committing doing).1.1

theorem installed_of_awaited (run : IsRun h d) {o : Outstanding} (mem : o ∈ d.awaited) :
    Installed h o.ticket o.tx :=
  run.installed_of_answers? (d.filterMap_carriers ▸ List.mem_append_left _ mem)

/-- No two answers in hand are for the same request. -/
theorem nodup_answers (run : IsRun h d) : (d.carriers.filterMap (·.answers?)).Nodup := by
  refine List.Nodup.of_map (·.ticket) (nodup_map_of_countP fun k => ?_)
  have carried : (d.carriersOf k).length ≤ 1 := by
    rw [d.length_carriersOf]
    exact (Nat.le_add_left ..).trans (run.tally_le_one k)
  rw [Desk.carriersOf, ← List.countP_eq_length_filter] at carried
  rw [List.countP_filterMap]
  refine (List.countP_mono_left fun c _ hc => ?_).trans carried
  cases e : c.answers? with
  | none => simp [e] at hc
  | some o => simpa [e, Carrier.ticket?_of_answers? e] using hc

/-- No two answers in hand have the same number. -/
theorem nodup_seqs_answers (run : IsRun h d) (few : (transactions h).length < 2 ^ 64) :
    ((d.carriers.filterMap (·.answers?)).map (·.tx.seq)).Nodup := by
  refine List.Nodup.map_on (fun o ho o' ho' same => ?_) run.nodup_answers
  have one := run.installed_of_answers? ho
  have other := run.installed_of_answers? ho'
  have tx : o.tx = o'.tx := run.eq_of_seq_eq few one.mem_transactions other.mem_transactions same
  -- The same transaction was installed in the same moment, by the same request.
  obtain ⟨m, hm, _, _, _, em, _, it⟩ := one
  obtain ⟨n, hn, _, _, _, en, _, it'⟩ := other
  obtain rfl : m = n := eq_of_mem_filterMap (List.Nodup.of_map _ (run.nodup_seqs few)) hm hn it
    (tx ▸ it')
  have ticket : o.ticket = o'.ticket :=
    Option.some.inj (congrArg Move.ticket? (em.symm.trans en))
  cases o
  cases o'
  cases tx
  cases ticket
  rfl

/-- The stage of the tracked transaction tells where its answer is, in every state
    of a run. -/
theorem isStaged (run : IsRun h d) (few : (transactions h).length < 2 ^ 64)
    (set : ∀ token ∈ minted h, token.isSet = true) : d.standing.IsStaged := by
  induction run with
  | fresh => exact nofun
  | @step h d m run able ih =>
    replace few := (length_transactions_le_snoc h _).trans_lt few
    replace set : ∀ token ∈ minted h, token.isSet = true := fun token mem =>
      set token (minted_snoc h _ ▸ List.mem_append_left _ mem)
    have distinct := run.nodup_seqs_answers few
    rw [Desk.filterMap_carriers, List.map_append] at distinct
    refine (run.change able).isStaged (ih few set) (fun o ho o' ho' => ?_) (fun o ho => ?_) ?_
    · have commit := List.mem_map_of_mem (f := (·.tx.seq)) (Option.mem_toList.2 ho)
      exact (List.nodup_append.1 distinct).2.2 _ (List.mem_map_of_mem ho') _ commit
    · exact run.seq_ne_next few (run.installed_of_awaited ho).mem_transactions
    · intro c token doing e
      have origin := run.provenance.commit c doing
      cases c with
      | answer a =>
        cases e
        exact origin.2.token
      | direct => cases e
      | initiated token target prior =>
        cases e
        exact set token origin.1.mem_minted

end IsRun

/-! ## Resolvability -/

/-- While the desk runs and its counter has not run out, the tracked transaction
    has the last number; it has a token exactly while its target has to unlock;
    before the commit exactly one answer is awaited for it, and during the commit
    the worker is in it. So until it is committed, something is left that can
    resolve it. Awaited answers have numbers of their own. -/
theorem tracked_resolvable {h : History} {d : Desk} (run : IsRun h d) (running : d.closed = false)
    (few : (History.transactions h).length < 2 ^ 64)
    (set : ∀ token ∈ History.minted h, token.isSet = true) :
    (∀ t, d.tx = some t →
      t.seq = d.seq ∧
      (t.stage = .awaitingUnlockAck ↔ t.token.isSet = true) ∧
      (t.stage = .awaitingCoordinator → (d.awaited.map (·.tx.seq)).count t.seq = 1) ∧
      (t.stage = .awaitingOSCommit →
        ∃ a, d.worker = .committing (.answer a) ∧ a.tx.seq = t.seq) ∧
      (t.stage ≠ .awaitingUnlockAck →
        ∃ c ∈ d.carriers, ∃ o, c.answers? = some o ∧ o.tx.seq = t.seq)) ∧
    (d.awaited.map (·.tx.seq)).Nodup ∧
    ∀ o ∈ d.awaited, o.tx.seq ≤ d.seq := by
  have answers := run.nodup_seqs_answers few
  rw [Desk.filterMap_carriers, List.map_append] at answers
  have distinct := (List.nodup_append.1 answers).1
  refine ⟨fun t tracked => ⟨run.tx_seq tracked, ?_⟩, distinct,
    fun o ho => run.seq_le few (run.installed_of_awaited ho).mem_transactions⟩
  -- An answer in hand is with one of the carriers.
  have carrier {o : Outstanding} (mem : o ∈ d.awaited ++ d.worker.answers?.toList)
      (seq : o.tx.seq = t.seq) : ∃ c ∈ d.carriers, ∃ o, c.answers? = some o ∧ o.tx.seq = t.seq := by
    rw [← Desk.filterMap_carriers] at mem
    obtain ⟨c, hc, e⟩ := List.mem_filterMap.1 mem
    exact ⟨c, hc, o, e, seq⟩
  cases run.isStaged few set t tracked with
  | asking stage unset exists_carrier =>
    obtain ⟨o, mem, seq⟩ := exists_carrier running
    refine ⟨by simp [stage, unset], fun _ => ?_, by simp [stage], fun _ => ?_⟩
    · exact List.count_eq_one_of_mem distinct (seq ▸ List.mem_map_of_mem mem)
    · exact carrier (List.mem_append_left _ mem) seq
  | committing stage unset a doing seq =>
    refine ⟨by simp [stage, unset], by simp [stage], fun _ => ⟨a, doing, seq⟩, fun _ => ?_⟩
    refine carrier (o := ⟨a.tx, a.ticket⟩) (List.mem_append_right _ ?_) seq
    rw [Desk.standing_worker] at doing
    rw [doing]
    exact List.mem_cons_self
  | acknowledging stage set =>
    exact ⟨by simp [stage, set], by simp [stage], by simp [stage], by simp [stage]⟩

/-- In the sample run, one answer is awaited for the last request. -/
theorem awaited_of_sample :
    Sample.state.2.tx = some ⟨Sample.bob.id, Token.unset, UserId.system, .awaitingCoordinator, 4⟩ ∧
      (Sample.state.2.awaited.map (·.tx.seq)).count 4 = 1 :=
  ⟨by decide, ((tracked_resolvable Sample.isRun (by decide) (by decide) (by decide)).1
    ⟨Sample.bob.id, Token.unset, UserId.system, .awaitingCoordinator, 4⟩ (by decide)).2.2.1 rfl⟩

end HeadUnit.Switching
