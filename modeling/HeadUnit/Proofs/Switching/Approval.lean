import HeadUnit.Proofs.Switching.Numbering

/-!
# No commit without approval

The operating system is called when the worker takes a command, and only for a
switch of the vehicle, a switch without a vehicle to ask, or an answer that
approves and whose transaction is tracked (`Change.osSwitch_cases`). Under a
vehicle that always negotiates there are no switches of the second kind.

As answers go back to how their trips ended, a request whose trip ended in any
other way is never committed; and as the tracked transaction has the last
number, neither is one after which another was installed
(`IsRun.nothing_installed`).
-/

namespace HeadUnit.Switching

open History

/-! ## Calls of the operating system -/

theorem osSwitch_notMem_dismissals (target : UserId) (v : View) (cs : List Command) :
    .osSwitch target ∉ Command.dismissals v cs := by
  intro mem
  obtain ⟨c, _, mem⟩ := List.mem_flatMap.1 mem
  cases c <;> simp [Command.dismissal] at mem

/-- A command for which the operating system is called: it needs no approval, or
    it is the approval of what is tracked. -/
inductive Cleared (d : Desk) (target : UserId) : Command → Prop
  | direct (k : Ticket) : Cleared d target (.direct target k)
  | initiated (token : Token) : Cleared d target (.initiated token target)
  | answer (a : Answer) (own : a.tx.target = target) (yes : a.Approves)
      (current : d.isCurrent a.tx = true) : Cleared d target (.answer a)

/-- The operating system is called only when the worker takes a command that is
    cleared. -/
theorem Change.osSwitch_cases {d : Desk} {m : Move} {s : Standing} (change : Change d m s)
    (silent : d.standing.said = []) {target : UserId} (called : .osSwitch target ∈ s.said) :
    ∃ v c, m = .work v ∧ d.queue.head? = some c ∧ c ∈ d.pending ∧ Cleared d target c := by
  -- A command that is taken is the one that the operating system is called for.
  have taken {v c rest t} (takes : Takes d c rest) (cleared : Cleared d t c) (work : m = .work v)
      (called : .osSwitch target ∈ d.standing.said ++ [Effect.osSwitch t]) :
      ∃ v c, m = .work v ∧ d.queue.head? = some c ∧ c ∈ d.pending ∧ Cleared d target c := by
    rw [silent, List.nil_append, List.mem_singleton] at called
    cases called
    refine ⟨v, c, work, takes.head, ?_, cleared⟩
    rw [← Multiset.mem_coe, takes.pending]
    exact Multiset.mem_cons_self ..
  cases change with
  | direct | tripEnded | initiated | events =>
    exact absurd (Standing.dismissed_of_post called silent).2 (osSwitch_notMem_dismissals target _ _)
  | closed =>
    rw [Standing.said_say, silent, List.nil_append] at called
    exact absurd called (osSwitch_notMem_dismissals target _ _)
  | approved a rest takes current yes => exact taken takes (.answer a rfl yes current) rfl called
  | directTaken rest takes => exact taken takes (.direct _) rfl called
  | initiatedTaken rest takes => exact taken takes (.initiated _) rfl called
  | _ => simp [silent] at called

/-- The operating system is called for the request with the ticket `k`. -/
def Moment.CommitsFor (m : Moment) (k : Ticket) : Prop :=
  ∃ target c, .osSwitch target ∈ m.effects ∧ m.before.queue.head? = some c ∧ c.ticket? = some k

namespace IsRun

variable {h : History} {d : Desk}

theorem osSwitch_cases (run : IsRun h d) {m : Moment} (mem : m ∈ h) {target : UserId}
    (called : .osSwitch target ∈ m.effects) :
    ∃ v c, m.move = .work v ∧ m.before.queue.head? = some c ∧ c.Origin h ∧
      Cleared m.before target c := by
  obtain ⟨h₁, sub, before, change⟩ := run.change_at mem
  have said : .osSwitch target ∈ m.outcome.said := List.mem_filter.2 ⟨called, rfl⟩
  obtain ⟨v, c, work, head, pending, cleared⟩ := change.osSwitch_cases before.said_eq_nil said
  exact ⟨v, c, work, head, (before.provenance.pending c pending).mono sub, cleared⟩

/-- If the vehicle always negotiates, every request asks it. -/
theorem not_unasked_of_negotiates
    (negotiates : ∀ m ∈ h, ∀ v ∈ m.move.view?, v.negotiates = true) (k : Ticket) :
    ¬Unasked h k := by
  rintro ⟨m, mem, v, _, _, _, move, free, _⟩
  have := negotiates m mem v (by rw [move]; rfl)
  rw [free] at this
  cases this

/-- If the vehicle always negotiates, a request is committed only with its
    approval, while its transaction is tracked. -/
theorem approved_of_commitsFor (run : IsRun h d)
    (negotiates : ∀ m ∈ h, ∀ v ∈ m.move.view?, v.negotiates = true) {m : Moment}
    (mem : m ∈ h) {k : Ticket} (commits : m.CommitsFor k) :
    ∃ a, a.ticket = k ∧ Answered h a ∧ a.Approves ∧ m.before.isCurrent a.tx = true := by
  obtain ⟨target, c, called, head, own⟩ := commits
  obtain ⟨v, c', work, head', origin, cleared⟩ := run.osSwitch_cases mem called
  obtain rfl : c' = c := Option.some.inj (head'.symm.trans head)
  cases cleared with
  | direct k' => exact absurd origin (not_unasked_of_negotiates negotiates k')
  | initiated token => cases own
  | answer a target yes current => exact ⟨a, Option.some.inj own, origin, yes, current⟩

/-- Between the request and its commit nothing was installed, unless the counter
    has gone all the way round. -/
theorem nothing_installed (run : IsRun h d) {h₁ h₂ h₃ : History} {m₁ m₂ : Moment}
    (split : h = h₁ ++ m₁ :: (h₂ ++ m₂ :: h₃)) {k : Ticket} {t : Transaction}
    (installs : m₁.Installs k t) (few : (transactions h₂).length < 2 ^ 64)
    (current : m₂.before.isCurrent t = true) : transactions h₂ = [] := by
  obtain ⟨before₁, able₁⟩ := run.at_moment split
  have after₁ : IsRun (h₁ ++ [m₁]) m₁.after := before₁.step able₁
  have regroup : h = ((h₁ ++ [m₁]) ++ h₂) ++ m₂ :: h₃ := by
    rw [split, List.append_assoc, List.append_assoc, List.singleton_append]
  have before₂ : IsRun ((h₁ ++ [m₁]) ++ h₂) m₂.before := (run.at_moment regroup).1
  obtain ⟨_, _, _, _, _, installed⟩ := installs
  have own := after₁.tx_seq (Moment.after_tx_of_installed? installed)
  obtain ⟨t', tracked, same⟩ := Desk.isCurrent_iff.1 current
  have last := before₂.tx_seq tracked
  rw [same, own, after₁.seq_eq, before₂.seq_eq, transactions_append (h₁ ++ [m₁]),
    List.length_append] at last
  -- Both numbers count the transactions so far, up to multiples of `2 ^ 64`.
  have last := congrArg UInt64.toNat last
  rw [UInt64.toNat_ofNat', UInt64.toNat_ofNat'] at last
  refine List.length_eq_zero_iff.1 ?_
  omega

end IsRun

/-! ## Requests that are turned down -/

/-- The results of requests that are turned down at once. -/
def isRefusal : SwitchStatus → Bool
  | .invalidRequest | .alreadyInForeground | .alreadyBeingSwitchedTo => true
  | _ => false

/-- What is dismissed is not turned down. -/
theorem isRefusal_of_dismissal {v : View} {cs : List Command} {k : Ticket} {r : SwitchResult}
    (mem : .reply k r ∈ Command.dismissals v cs) : isRefusal r.status = false := by
  obtain ⟨c, _, mem⟩ := List.mem_flatMap.1 mem
  cases c with
  | answer | direct =>
    cases List.mem_singleton.1 mem
    rfl
  | initiated => cases List.mem_singleton.1 mem
  | unlocked | switched => cases mem

/-- A request is turned down when it is made, and then installs nothing. -/
theorem Change.refusal {d : Desk} {m : Move} {s : Standing} (change : Change d m s)
    (silent : d.standing.said = []) {k : Ticket} {r : SwitchResult} (mem : .reply k r ∈ s.said)
    (refusal : isRefusal r.status = true) : m.ticket? = some k ∧ s.seq = d.seq := by
  have dismissed {v cs} (mem : .reply k r ∈ Command.dismissals v cs) : False := by
    rw [isRefusal_of_dismissal mem] at refusal
    cases refusal
  cases change with
  | rejected =>
    rw [Standing.said_say, silent] at mem
    cases List.mem_singleton.1 mem
    exact ⟨rfl, rfl⟩
  | direct | tripEnded | initiated | events =>
    exact (dismissed (Standing.dismissed_of_post mem silent).2).elim
  | superseded | commitSuperseded | commitDone | directFailed | directDone =>
    rw [Standing.said_say, silent] at mem
    cases List.mem_singleton.1 mem
    cases refusal
  | denied a rest takes current no down =>
    rw [Standing.said_say, silent] at mem
    cases List.mem_singleton.1 mem
    rcases down with rfl | rfl <;> cases refusal
  | commitFailed =>
    rw [Standing.said_say, silent] at mem
    rcases List.mem_cons.1 mem with e | mem
    · cases e
    · cases List.mem_singleton.1 mem
      cases refusal
  | closed =>
    rw [Standing.said_say, silent] at mem
    exact (dismissed mem).elim
  | launched | approved | directTaken | initiatedTaken | unlocked | initiatedFailed =>
    rw [Standing.said_say, silent] at mem
    cases List.mem_singleton.1 mem
  | installed | started | noted | initiatedDone | marked | adjusted =>
    simp only [silent, List.not_mem_nil] at mem

/-- The vehicle is not asked about a request that is turned down. -/
theorem IsRun.not_negotiated_of_refusal {h : History} {d : Desk} (run : IsRun h d) {k : Ticket}
    {r : SwitchResult} (result : (k, r) ∈ results h) (refusal : isRefusal r.status = true) :
    k ∉ (negotiated h).map (·.ticket) := by
  intro asked
  obtain ⟨m, hm, mem⟩ := mem_results.1 result
  obtain ⟨_, _, before, change⟩ := run.change_at hm
  obtain ⟨own, same⟩ := change.refusal before.said_eq_nil (Moment.reply_mem_said mem) refusal
  -- The request would have installed a transaction in the moment it was turned down.
  obtain ⟨n, hn, t, own', installed⟩ := run.exists_of_negotiated asked
  obtain rfl := run.moment_unique hm hn own own'
  exact nomatch (Moment.installed?_of_seq_eq same).symm.trans installed

/-! ## Approval -/

/-- With a vehicle that always negotiates, the operating system is called only
    when the worker takes a switch of the vehicle, or an answer without a fault
    that approves with a token, while its transaction is the tracked one. So a
    request is never committed if its trip ended in any other way, or if another
    transaction was installed before its answer was taken (and the counter has not
    gone all the way round). The vehicle is asked once about each transaction that a
    request installs, or will be when its trip is launched, and never about a request
    that is turned down at once. -/
theorem osSwitch_approved {h : History} {d : Desk} (run : IsRun h d)
    (negotiates : ∀ m ∈ h, ∀ v ∈ m.move.view?, v.negotiates = true) :
    (∀ m ∈ h, ∀ target, .osSwitch target ∈ m.effects →
      ∃ v c, m.move = .work v ∧ m.before.queue.head? = some c ∧
        ((∃ token, c = .initiated token target ∧ Initiated h token target) ∨
          ∃ a t, c = .answer a ∧ a.tx.target = target ∧ Answered h a ∧ a.fault = none ∧
            a.response.decision = .approved ∧ a.response.token.isSet = true ∧
            m.before.tx = some t ∧ t.seq = a.tx.seq)) ∧
    (∀ k r f, Ended h k r f →
      f ≠ none ∨ r.decision ≠ .approved ∨ r.token.isSet = false → ∀ m ∈ h, ¬m.CommitsFor k) ∧
    (∀ h₁ m₁ h₂ m₂ h₃ k t, h = h₁ ++ m₁ :: (h₂ ++ m₂ :: h₃) → m₁.Installs k t →
      transactions h₂ ≠ [] → (transactions h₂).length < 2 ^ 64 → ¬m₂.CommitsFor k) ∧
    ((negotiated h).map (·.ticket)).Nodup ∧
    (begun h).Perm (negotiated h ++ d.launching.map (·.trip)) ∧
    (∀ k r, (k, r) ∈ results h → isRefusal r.status = true → k ∉ (negotiated h).map (·.ticket)) := by
  refine ⟨fun m mem target called => ?_, fun k r f ended down m mem commits => ?_, ?_,
    run.nodup_negotiated, run.begun_perm,
    fun k r result => run.not_negotiated_of_refusal result⟩
  · obtain ⟨v, c, work, head, origin, cleared⟩ := run.osSwitch_cases mem called
    refine ⟨v, c, work, head, ?_⟩
    cases cleared with
    | direct k => exact absurd origin (IsRun.not_unasked_of_negotiates negotiates k)
    | initiated token => exact .inl ⟨token, rfl, origin⟩
    | answer a own yes current =>
      obtain ⟨t, tracked, seq⟩ := Desk.isCurrent_iff.1 current
      exact .inr ⟨a, t, rfl, own, origin, yes.fault, yes.decision, yes.token, tracked, seq⟩
  · obtain ⟨a, rfl, answered, yes, _⟩ := run.approved_of_commitsFor negotiates mem commits
    obtain ⟨rfl, rfl⟩ := run.ended_unique ended answered.2
    rcases down with fault | decision | token
    · exact fault yes.fault
    · exact decision yes.decision
    · exact nomatch token.symm.trans yes.token
  · intro h₁ m₁ h₂ m₂ h₃ k t split installs newer few commits
    have mem₁ : m₁ ∈ h := split ▸ by simp
    have mem₂ : m₂ ∈ h := split ▸ by simp
    obtain ⟨a, rfl, answered, _, current⟩ := run.approved_of_commitsFor negotiates mem₂ commits
    rw [run.installed_unique answered.1 ⟨m₁, mem₁, installs⟩] at current
    exact newer (run.nothing_installed split installs few current)

/-- In the sample run, Ann's request is superseded by Bob's before its answer is
    taken, and is not committed. -/
theorem superseded_not_committed :
    (Sample.state.1.get ⟨7, by decide⟩).move = .work Sample.view ∧
      ¬(Sample.state.1.get ⟨7, by decide⟩).CommitsFor 1 :=
  ⟨rfl, (osSwitch_approved Sample.isRun (by decide)).2.2.1 (Sample.state.1.take 1)
    (Sample.state.1.get ⟨1, by decide⟩) ((Sample.state.1.drop 2).take 5)
    (Sample.state.1.get ⟨7, by decide⟩) (Sample.state.1.drop 8) 1
    ⟨Sample.ann.id, Token.unset, UserId.system, .awaitingCoordinator, 1⟩ rfl
    ⟨Sample.view, .caller 1, 0, rfl, rfl, rfl⟩ (by decide) (by decide)⟩

end HeadUnit.Switching
