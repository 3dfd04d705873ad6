import HeadUnit.Proofs.Switching.Line
import HeadUnit.Proofs.Switching.Tracking

/-!
# Switches that are done

Once the operating system has switched for a desk, the desk *holds* the transaction
(`Standing.Holds`): it is tracked, and no answer to it is in hand any more. If the switch was
superseded meanwhile, a transaction with another number is tracked
(`IsRun.holds_or_superseded`).

What is held is held until a transaction with another number is tracked, the worker takes the news
that the target has unlocked, or the desk is shut down (`Change.sequel`). As a switch that nobody
negotiated is reported only while nothing is tracked (`tx_of_legacy`), it takes one of these for
the desk to report one after a switch that it has negotiated.
-/

namespace HeadUnit.Switching

open History

/-- The vehicle has approved the switch, or started it. -/
def Commit.IsNegotiated : Commit → Prop
  | answer _ | initiated .. => True
  | direct .. => False

/-- The number of the transaction that a commit is for; a switch that the vehicle started gets the
    next one. -/
def Commit.number (d : Desk) : Commit → UInt64
  | answer a => a.tx.seq
  | direct .. | initiated .. => d.seq + 1

/-- The transaction is tracked, and no answer to it is in hand. -/
structure Standing.Holds (s : Standing) (t : Transaction) : Prop where
  tracked : s.tx = some t
  gone : ∀ o ∈ s.awaited, o.tx.seq ≠ t.seq
  done : ∀ o, s.worker.answers? = some o → o.tx.seq ≠ t.seq

namespace Standing.Holds

variable {s s' : Standing} {t : Transaction}

/-- Nothing is awaited that was not, and no answer is committed. -/
theorem of_awaited (holds : s.Holds t) (tracked : s'.tx = some t)
    (awaited : ∀ o ∈ s'.awaited, o ∈ s.awaited)
    (worker : s'.worker = s.worker ∨ s'.worker.answers? = none) : s'.Holds t where
  tracked := tracked
  gone o mem := holds.gone o (awaited o mem)
  done o own := by
    rcases worker with same | none
    · exact holds.done o (same ▸ own)
    · exact nomatch none.symm.trans own

/-- Commands are posted; an answer among them was awaited before. -/
theorem post (holds : s.Holds t) {trips : Multiset Outstanding} (fewer : ∀ o ∈ trips, o ∈ s.trips)
    (v : View) {cs : List Command} (known : ∀ c ∈ cs, ∀ o, c.answers? = some o → o ∈ s.awaited) :
    (({ s with trips := trips } : Standing).post v cs).Holds t := by
  have rest (o : Outstanding) (mem : o ∈ trips + s.pending.filterMap (·.answers?)) :
      o ∈ s.awaited :=
    Multiset.mem_add.2 ((Multiset.mem_add.1 mem).imp_left (fewer o))
  unfold Standing.post
  split
  · exact holds.of_awaited holds.tracked rest (.inl rfl)
  · refine holds.of_awaited holds.tracked (fun o mem => ?_) (.inl rfl)
    rw [awaited, Multiset.filterMap_add, ← Multiset.add_assoc] at mem
    rcases Multiset.mem_add.1 mem with old | new
    · exact rest o old
    · obtain ⟨c, mem, own⟩ := (Multiset.mem_filterMap ..).1 new
      exact known c mem o own

end Standing.Holds

/-! ## Moves -/

/-- What becomes of a transaction that is held. -/
inductive Sequel (d : Desk) (q : Move) (t : Transaction) (s : Standing) : Prop
  | held (holds : s.Holds t)
  | superseded (t' : Transaction) (tracked : s.tx = some t') (other : t'.seq ≠ t.seq)
  | unlocked (next : d.takes q = [.unlocked t.target])
  | shut (closed : s.closed = true)

variable {d : Desk} {q : Move} {s : Standing} {t : Transaction}

theorem takes_of_head {v : View} {c : Command} (idle : d.worker = .idle)
    (head : d.queue.head? = some c) : d.takes (.work v) = [c] := by
  simp only [Desk.takes, Desk.next?, idle, head, if_true, Option.toList_some]

/-- Who gets room does not change what is tracked. -/
theorem Desk.admitWaiting_tx (d : Desk) : d.admitWaiting.tx = d.tx := by
  unfold admitWaiting
  split
  · rfl
  · split <;> rfl

/-- The worker takes the news that a user has unlocked, and stops tracking: that user was waited
    for. -/
theorem target_of_unlocked {v : View} {user : UserId} (takes : d.takes (.work v) = [.unlocked user])
    (tracked : d.tx = some t) (dropped : (d.move (.work v)).tx = none) : t.target = user := by
  rcases d.work_cases v with ⟨c, rest, taken, _, moved⟩ | ⟨nothing, _⟩
  · cases taken.symm.trans takes
    have same : ({ d with queue := rest }.admitWaiting).tx = some t :=
      (Desk.admitWaiting_tx _).trans tracked
    rw [moved, Desk.apply, Desk.applyUnlocked, same] at dropped
    dsimp only at dropped
    split at dropped
    · next both => exact both.1
    · cases same.symm.trans dropped
  · cases nothing.symm.trans takes

/-- A transaction that is held stays so, unless it is superseded, the worker takes the news that
    its target has unlocked, or the desk is shut down. -/
theorem Change.sequel (change : Change d q s) (out : (d.move q).standing = s)
    (holds : d.standing.Holds t) (number : t.seq = d.seq) : Sequel d q t s := by
  have tracked : d.tx = some t := holds.tracked
  -- No new number is the one of what is held.
  have next : d.seq + 1 ≠ t.seq := by simp [number]
  have stays (o : Outstanding) (mem : o ∈ d.standing.awaited) : o ∈ d.standing.awaited := mem
  have fewer (o : Outstanding) (mem : o ∈ d.standing.trips) : o ∈ d.standing.trips := mem
  have none {c : Command} (quiet : c.answers? = none) :
      ∀ c' ∈ [c], ∀ o, c'.answers? = some o → o ∈ d.standing.awaited := by
    rintro c' mem o own
    rw [List.mem_singleton.1 mem] at own
    exact nomatch quiet.symm.trans own
  -- An answer that is in hand comes too late.
  have late {a : Answer} (mem : ⟨a.tx, a.ticket⟩ ∈ d.standing.awaited) : ¬d.isCurrent a.tx = true :=
    fun current => holds.gone _ mem (Desk.seq_eq_of_isCurrent current tracked).symm
  have committed {a : Answer} (doing : d.worker = .committing (.answer a)) :
      ¬d.isCurrent a.tx = true := fun current =>
    holds.done ⟨a.tx, a.ticket⟩ (by rw [Desk.standing_worker, doing]; rfl)
      (Desk.seq_eq_of_isCurrent current tracked).symm
  cases change with
  | rejected | launched | adjusted => exact .held (holds.of_awaited tracked stays (.inl rfl))
  | direct | initiated => exact .held (holds.post fewer _ (none rfl))
  | events =>
    refine .held (holds.post fewer _ fun c mem o own => ?_)
    exact nomatch (Command.isNews_of_mem_events mem).answers?_eq.symm.trans own
  | installed tx new => exact .superseded tx rfl (new ▸ next)
  | @tripEnded v k response fault o rest own trips =>
    refine .held (holds.post (fun o' mem => trips ▸ Multiset.mem_cons_of_mem mem) _ ?_)
    intro c mem o' other
    rw [List.mem_singleton.1 mem] at other
    obtain rfl : o = o' := by
      cases o
      cases own
      exact Option.some.inj other
    exact Multiset.mem_add.2 (.inl (trips ▸ Multiset.mem_cons_self ..))
  | started | marked => exact .held (holds.of_awaited tracked stays (.inr rfl))
  | superseded a rest takes =>
    refine .held (holds.of_awaited tracked (fun o mem => ?_) (.inl rfl))
    exact takes.awaited_answer ▸ Multiset.mem_cons_of_mem mem
  | denied a rest takes current | approved a rest takes current =>
    exact absurd current (late (takes.awaited_answer ▸ Multiset.mem_cons_self ..))
  | directTaken rest takes | initiatedTaken rest takes =>
    exact .held (holds.of_awaited tracked (fun o mem => takes.awaited_eq rfl ▸ mem) (.inr rfl))
  | @unlocked v user t' rest takes =>
    have dropped : (d.move (.work v)).tx = .none := congrArg Standing.tx out
    have taken : d.takes (.work v) = [.unlocked user] := takes_of_head takes.idle takes.head
    obtain rfl := target_of_unlocked taken tracked dropped
    exact .unlocked taken
  | noted c rest takes news =>
    exact .held (holds.of_awaited tracked (fun o mem => takes.awaited_eq news.answers?_eq ▸ mem)
      (.inl rfl))
  | commitFailed a doing current | commitDone a doing current =>
    exact absurd current (committed doing)
  | commitSuperseded | directFailed | directDone | initiatedFailed =>
    exact .held (holds.of_awaited tracked stays (.inr rfl))
  | initiatedDone => exact .superseded _ rfl next
  | closed => exact .shut rfl

/-- What is tracked and had the last number before has it still. -/
theorem Change.seq_eq_of_tracked (change : Change d q s) (tracked : s.tx = some t)
    (number : t.seq = d.seq) : t.seq = s.seq := by
  rcases change.keeps_or_renews with ⟨same, _⟩ | ⟨_, t', renewed, next⟩
  · exact number.trans same.symm
  · cases tracked.symm.trans renewed
    exact absurd (number.symm.trans next) (by simp)

/-! ## Commits -/

/-- While the worker commits an answer, something is tracked. -/
theorem IsRun.tracks_of_committing {h : History} {d : Desk} (run : IsRun h d) {a : Answer}
    (doing : d.worker = .committing (.answer a)) : d.tx ≠ none := by
  induction run with
  | fresh => cases doing
  | @step h d q run able ih =>
    have change := run.change able
    replace doing : (Moment.mk d q).outcome.worker = .committing (.answer a) := doing
    show (Moment.mk d q).outcome.tx ≠ none
    generalize (Moment.mk d q).outcome = s at change doing
    cases change with
    | rejected | launched | adjusted => exact ih doing
    | direct | initiated | events =>
      rw [Standing.post_tx]
      exact ih (by rwa [Standing.post_worker] at doing)
    | tripEnded =>
      rw [Standing.post_tx]
      exact ih (by rwa [Standing.post_worker] at doing)
    | installed => exact Option.some_ne_none _
    | started | directTaken | initiatedTaken | marked => cases doing
    | superseded a rest takes | noted c rest takes => exact nomatch takes.idle.symm.trans doing
    | denied a rest takes | unlocked t rest takes => exact nomatch takes.idle.symm.trans doing
    | approved a rest takes current =>
      obtain ⟨t, tracked, _⟩ := Desk.isCurrent_iff.1 current
      simp [Standing.say, tracked]
    | commitSuperseded | commitFailed | commitDone | directFailed | directDone | initiatedFailed
    | initiatedDone => cases doing
    | closed tx w down less before after =>
      rw [show w = .committing (.answer a) from doing] at after
      cases after

/-- The operating system has switched for a switch that was negotiated: its transaction is held, or
    was superseded meanwhile. -/
theorem IsRun.holds_or_superseded {h : History} {d : Desk} (run : IsRun h d)
    (few : (transactions h).length < 2 ^ 64) {c : Commit} (doing : d.worker = .committing c)
    (negotiated : c.IsNegotiated) (v : View) :
    (∃ t, (d.move (.committed v none)).standing.Holds t ∧ t.target = c.target ∧
        t.seq = c.number d) ∨
      ∃ t, (d.move (.committed v none)).tx = some t ∧ t.seq ≠ c.number d := by
  have able : Allowed h d (.committed v none) := by
    rw [Allowed, doing]
    rfl
  have origin := run.origin_of_committing doing
  have distinct := run.nodup_seqs_answers few
  rw [Desk.filterMap_carriers, List.map_append] at distinct
  have change := run.change able
  show (∃ t, (Moment.mk d (.committed v none)).outcome.Holds t ∧ _) ∨
    ∃ t, (Moment.mk d (.committed v none)).outcome.tx = some t ∧ _
  generalize (Moment.mk d (.committed v none)).outcome = s at change
  cases change with
  | commitSuperseded a doing' late =>
    cases doing.symm.trans doing'
    obtain ⟨t, tracked⟩ := Option.ne_none_iff_exists'.1 (run.tracks_of_committing doing)
    refine .inr ⟨t, tracked, fun same => ?_⟩
    exact nomatch late.symm.trans (Desk.isCurrent_iff.2 ⟨t, tracked, same⟩)
  | commitDone a doing' current =>
    cases doing.symm.trans doing'
    -- No other answer has the number of the one that was committed.
    obtain ⟨t, tracked, same⟩ := run.sameSwitch_of_isCurrent few origin.1.1 current
    have own := List.mem_map_of_mem (f := (·.tx.seq)) (Option.mem_toList.2
      (show d.worker.answers? = some ⟨a.tx, a.ticket⟩ by rw [doing]; rfl))
    refine .inl ⟨{ t with token := a.response.token, stage := .awaitingUnlockAck },
      ⟨?_, ?_, fun _ own => by cases own⟩, same.target, same.seq⟩
    · simp [Standing.say, tracked]
    · intro o mem
      have apart := (List.nodup_append.1 distinct).2.2 _ (List.mem_map_of_mem mem) _ own
      exact fun e => apart (e.trans same.seq)
  | initiatedDone doing' =>
    cases doing.symm.trans doing'
    refine .inl ⟨_, ⟨rfl, fun o mem => ?_, fun _ own => by cases own⟩, rfl, rfl⟩
    exact run.seq_ne_next few (run.installed_of_awaited mem).mem_transactions
  | directDone doing' =>
    cases doing.symm.trans doing'
    exact negotiated.elim
  | closed tx w down => rcases down with e | e <;> cases e
  | adjusted other => cases other

/-! ## Reports -/

/-- The switch that the vehicle is told of and that nobody negotiated, with the user who was in the
    foreground before. -/
def Effect.legacy? : Effect → Option (UserId × UserId)
  | notify (.legacySwitch source user _) => some (source, user.id)
  | _ => none

/-- The switches that the vehicle is told of and that nobody negotiated. -/
def Desk.legacies (d : Desk) : List (UserId × UserId) := d.out.filterMap (·.legacy?)

theorem Desk.legacies_emit (d : Desk) (es : List Effect) :
    (d.emit es).legacies = d.legacies ++ es.filterMap (·.legacy?) := List.filterMap_append

/-- Only the news of a switch make the desk report one, and only while nothing is tracked. -/
theorem Desk.legacies_apply (d : Desk) (v : View) (c : Command) {source target : UserId}
    (told : (source, target) ∈ (d.apply v c).legacies) :
    (source, target) ∈ d.legacies ∨ d.tx = none ∧ c = .switched source target := by
  cases c with
  | answer a =>
    have same : (d.applyAnswer a).legacies = d.legacies := by
      unfold applyAnswer
      dsimp only
      split
      · simp [resolve, note, legacies, emit, Effect.legacy?]
      · split
        · simp [resolve, note, clear, legacies, emit, Effect.legacy?]
        · split
          · simp [resolve, note, clear, legacies, emit, Effect.legacy?]
          · simp [beginCommit, advance, legacies, emit, Effect.legacy?]
          · simp [resolve, note, clear, legacies, emit, Effect.legacy?]
    exact .inl (same ▸ told)
  | direct target ticket | initiated token target =>
    exact .inl (by simpa [apply, beginCommit, note, legacies, emit, Effect.legacy?] using told)
  | unlocked user =>
    have same : (d.applyUnlocked v user).legacies = d.legacies := by
      unfold applyUnlocked
      split
      · rfl
      · split
        · simp [acknowledge, clear, note, legacies, emit, Effect.legacy?]
        · rfl
    exact .inl (same ▸ told)
  | switched source' target' =>
    simp only [apply, applySwitched] at told
    split at told
    · exact .inl told
    · next free =>
      split at told
      · exact .inl (by simpa [note, legacies, emit, Effect.legacy?] using told)
      · next u found =>
        have own : u.id = target' := by simpa using List.find?_some found
        rw [legacies_emit] at told
        rcases List.mem_append.1 told with old | new
        · exact .inl old
        · refine .inr ⟨?_, ?_⟩
          · simp_all
          · simp only [List.filterMap_cons, Effect.legacy?, List.filterMap_nil, List.mem_singleton,
              Prod.mk.injEq] at new
            rw [new.1, new.2, own]

/-- A switch that nobody negotiated is reported while nothing is tracked, when the news of it are
    taken. -/
theorem tx_of_legacy {d : Desk} (silent : d.out = []) {v : View} {source target : UserId}
    (told : (source, target) ∈ (Moment.mk d (.work v)).effects.filterMap (·.legacy?)) :
    d.tx = none ∧ d.takes (.work v) = [.switched source target] := by
  have none : d.legacies = [] := by
    rw [Desk.legacies, silent]
    rfl
  replace told : (source, target) ∈ (d.move (.work v)).legacies := told
  rcases d.work_cases v with ⟨c, rest, taken, _, moved⟩ | ⟨_, same⟩
  · have quiet : ({ d with queue := rest }.admitWaiting).legacies = [] := by
      unfold Desk.admitWaiting
      split
      · exact none
      · split
        · simp [Desk.legacies, Desk.emit, silent, Effect.legacy?]
        · simp [Desk.legacies, Desk.emit, silent, Effect.legacy?]
        · exact none
    rw [moved] at told
    rcases Desk.legacies_apply _ v c told with old | ⟨untracked, rfl⟩
    · rw [quiet] at old
      exact absurd old List.not_mem_nil
    · rw [Desk.admitWaiting_tx] at untracked
      exact ⟨untracked, taken⟩
  · rw [same, none] at told
    exact absurd told List.not_mem_nil

end HeadUnit.Switching
