import Mathlib.Data.List.Induction
import HeadUnit.Proofs.Bus.Delivery

/-!
# Remote entries do not come back

A uid has at most one remote entry, but over a run it may have many, one after the
other, and their ends come from three sides: orders, notices of death and
failures at their turns. Stamps keep them apart, as no two registrations get the same
one (`Remote.Known.eq_of_stamp_eq`).

An entry is doomed (`Occurrence.Dooms`) once an order that ends it was accepted, or one of the
other ends has come. As the mailbox is emptied before every send, a doomed entry is
gone by then, and a later entry has another stamp.

* `Lawful.not_sent_of_dooms`: nothing is sent to an entry that is doomed;
* `IsRun.remoteCount_eq`: between deliveries the published number of remote listeners is
  the number of entries;
* `remote_deliveries`: who is registered, what notices of death do and who is sent
  what.
-/

namespace HeadUnit.Bus

variable {L H : Type}

/-! ## Entries of the past -/

/-- An entry was registered at some time. -/
def Remote.Known (r : Remote H) (t : Trace L H) : Prop :=
  Since (Occurrence.Enters r) (fun _ => False) t

theorem Trace.registrations_append (t t' : Trace L H) :
    (t ++ t').registrations = t.registrations + t'.registrations :=
  List.countP_append

theorem Remote.Known.append {r : Remote H} {t : Trace L H} (known : r.Known t) (t' : Trace L H) :
    r.Known (t ++ t') :=
  Since.append known fun _ _ => id

theorem Remote.Entered.known {r : Remote H} {t : Trace L H} (entered : r.Entered t) :
    r.Known t := by
  obtain ⟨before, o, after, split, now, -⟩ := entered
  exact ⟨before, o, after, split, now, fun _ _ => id⟩

/-- The stamp of an entry that was registered is not given out again. -/
theorem Remote.Known.stamp_lt {r : Remote H} {t : Trace L H} (known : r.Known t) :
    r.stamp < t.registrations := by
  obtain ⟨before, o, after, rfl, ⟨rfl, stamp⟩, -⟩ := known
  rw [stamp, Trace.registrations_append]
  exact Nat.lt_add_of_pos_right (List.countP_pos_iff.2 ⟨_, List.mem_cons_self, rfl⟩)

/-- A stamp tells which entry has it. -/
theorem Remote.Known.eq_of_stamp_eq {q r : Remote H} {t : Trace L H} (known : q.Known t)
    (known' : r.Known t) (same : q.stamp = r.stamp) : q = r := by
  induction t using List.reverseRecOn with
  | nil => exact absurd known not_since_nil
  | append_singleton t o ih =>
    rcases since_snoc.1 known with now | ⟨known, -⟩ <;>
      rcases since_snoc.1 known' with now' | ⟨known', -⟩
    · obtain ⟨uid, stamp, handle⟩ := q
      obtain ⟨uid', stamp', handle'⟩ := r
      cases now.1.symm.trans now'.1
      cases same
      rfl
    · exact absurd (now.2.symm.trans same) (Nat.ne_of_gt (Remote.Known.stamp_lt known'))
    · exact absurd (now'.2.symm.trans same.symm) (Nat.ne_of_gt (Remote.Known.stamp_lt known))
    · exact ih known known'

/-! ## Doomed entries -/

/-- An order that ends an entry is accepted, or the entry ends otherwise. -/
def Occurrence.Dooms (r : Remote H) : Occurrence L H → Prop
  | posted (.addRemote uid _) | posted (.removeRemote uid) => uid = r.uid
  | o => o.Ends r

/-- Nothing is sent to an entry that has ended. -/
theorem Lawful.not_sent_of_ends {t₁ t₂ : Trace L H} {o : Occurrence L H} {r : Remote H}
    (lawful : Lawful (t₁ ++ o :: t₂)) (ends : o.Ends r) (known : r.Known t₁) (e : Event) :
    .sent r e ∉ t₂ := by
  intro mem
  obtain ⟨u, v, rfl⟩ := List.append_of_mem mem
  have entered : r.Entered (t₁ ++ o :: u) := (lawful (t₁ ++ o :: u) (.sent r e) v (by simp)).2
  -- It would have been registered again, with a stamp that was still free.
  have other : ¬o.Enters r t₁ := fun now => absurd now.2 (Nat.ne_of_lt known.stamp_lt)
  obtain ⟨before, x, after, -, again⟩ := Since.again entered ends other
  exact absurd again.2 (Nat.ne_of_lt (known.append _).stamp_lt)

/-- An order that was accepted is applied before anything is sent. -/
theorem Lawful.applied_of_sent {t₁ u v : Trace L H} {c : Command L H} {r : Remote H} {e : Event}
    (lawful : Lawful (t₁ ++ .posted c :: (u ++ .sent r e :: v))) : .applied c ∈ u := by
  obtain ⟨rest, earlier⟩ := lawful t₁ (.posted c) _ rfl
  have all := (lawful (t₁ ++ .posted c :: u) (.sent r e) v (by simp)).1
  have posted : (t₁ ++ .posted c :: u).posted = t₁.posted ++ c :: u.posted := by
    simp [Trace.posted, Occurrence.posted?]
  have applied : (t₁ ++ .posted c :: u).applied = t₁.applied ++ u.applied := by
    simp [Trace.applied, Occurrence.applied?]
  rw [posted, applied, orders_append, ← earlier, List.append_assoc] at all
  have mem : c ∈ orders u.applied := by
    rw [← List.append_cancel_left all]
    simp
  obtain ⟨o, there, own⟩ := List.mem_filterMap.1 (List.mem_filter.1 mem).1
  cases o <;> cases own
  exact there

/-- Nothing is sent to an entry that is doomed. -/
theorem Lawful.not_sent_of_dooms {t₁ t₂ : Trace L H} {o : Occurrence L H} {r : Remote H}
    (lawful : Lawful (t₁ ++ o :: t₂)) (dooms : o.Dooms r) (known : r.Known t₁) (e : Event) :
    .sent r e ∉ t₂ := by
  cases o with
  | posted c =>
    intro mem
    obtain ⟨u, v, rfl⟩ := List.append_of_mem mem
    obtain ⟨u₁, u₂, rfl⟩ := List.append_of_mem lawful.applied_of_sent
    -- The order has been applied, and that was the end of the entry.
    have ends : (.applied c : Occurrence L H).Ends r := by
      cases c <;> first | exact dooms | cases dooms
    have lawful : Lawful ((t₁ ++ .posted c :: u₁) ++ .applied c :: (u₂ ++ .sent r e :: v)) := by
      simpa using lawful
    exact lawful.not_sent_of_ends ends (known.append _) e (by simp)
  | _ => exact lawful.not_sent_of_ends dooms known e

variable [DecidableEq L] [DecidableEq H]

/-- An event is only sent to a handle that is not dead. -/
theorem Change.alive {b : Bus L H} {s : Standing L H} {os : Trace L H} (change : Change b s os)
    {r : Remote H} {e : Event} (sent : .sent r e ∈ os) : r.handle ∉ b.dead := by
  cases change with
  | sent doing there alive =>
    rcases List.mem_append.1 sent with applied | now
    · simp at applied
    · cases List.mem_singleton.1 now
      exact alive
  | _ => simp at sent

/-! ## Published numbers -/

/-- Between deliveries the number of entries is published. -/
def Standing.Counted (s : Standing L H) : Prop :=
  s.worker.event? = none → s.remoteCount = s.remotes.length

theorem Change.counted {b : Bus L H} {s : Standing L H} {os : Trace L H} (change : Change b s os)
    (counted : b.standing.Counted) : s.Counted := by
  have published := (emptied_applied b).counted
  cases change with
  | nothing | accepted | posted => exact counted
  | roused rest =>
    refine fun _ => counted ?_
    change b.worker.event? = none
    rcases rest with new | idle
    · rw [new]
      rfl
    · rw [idle]
      rfl
  | returned | taken | refused | started | called | passed | turned | sent | foundDead | absent =>
    exact nofun
  | looked => exact fun _ => published
  | finished | completed => exact fun _ => rfl

theorem IsRun.remoteCount_eq {h : History L H} {b : Bus L H} (run : IsRun h b)
    (rest : b.worker.event? = none) : b.remoteCount = b.remotes.length := by
  have counted : b.standing.Counted := by
    clear rest
    induction run with
    | fresh => exact fun _ => rfl
    | @step h b m run ih => exact (Moment.mk b m).change.counted ih
  exact counted rest

/-! ## The life of an entry -/

/-- What remote entries get, in every run. A uid has at most one entry: that of its last
    registration, unless something ended this entry since. The notice of death of an entry that
    is gone removes nothing. Within a round, the event is sent to entries in
    increasing order of their uids, each of them registered then and with a handle that is
    not dead. Nothing is sent to an entry once it is doomed. And when the worker is idle, the
    published number of remote listeners is the number of entries. -/
theorem remote_deliveries {h : History L H} {b : Bus L H} (run : IsRun h b) :
    b.remotes.Pairwise (·.uid < ·.uid) ∧
    (∀ r, r ∈ b.remotes ↔ r.Entered (History.trace h)) ∧
    (∀ r : Remote H, r.Known (History.trace h) → r ∉ b.remotes →
      (b.applyOne (.remoteDied r.uid r.stamp)).remotes = b.remotes) ∧
    (∃ rounds : List (Round L H),
      (History.trace h).started = rounds.map (·.event) ∧
      History.deliveries h = rounds.flatMap (·.deliveries) ∧
      ∀ k ∈ rounds, k.entries.Pairwise (·.uid < ·.uid)) ∧
    History.deliveries h = (History.trace h).deliveries ∧
    (∀ (t₁ t₂ : Trace L H) (r : Remote H) (e : Event),
      History.trace h = t₁ ++ .sent r e :: t₂ → r.Entered t₁) ∧
    (∀ m ∈ h, ∀ r e, .sent r e ∈ m.occurrences → r.handle ∉ m.before.dead) ∧
    (∀ (t₁ t₂ : Trace L H) (o : Occurrence L H) (r : Remote H),
      History.trace h = t₁ ++ o :: t₂ → o.Dooms r → r.Known t₁ → ∀ e, .sent r e ∉ t₂) ∧
    (b.worker = .idle → b.remoteCount = b.remotes.length) := by
  obtain ⟨rounds, is⟩ := run.rounds
  have books := run.books
  have sorted : b.remotes.Pairwise (·.uid < ·.uid) := books.remotes.sorted
  refine ⟨sorted, books.remotes.mem_iff, fun r known gone => ?_,
    ⟨rounds, is.started, ?_, fun k mem => (is.stage.orderly k mem).entries⟩, run.deliveries_eq,
    fun t₁ t₂ r e split => (books.lawful t₁ (.sent r e) t₂ split).2,
    fun m _ r e sent => m.change.alive sent,
    fun t₁ t₂ o r split dooms known e => ?_, fun idle => ?_⟩
  · rw [remotes_remoteDied sorted, List.filter_eq_self]
    intro q mem
    have other : q.stamp ≠ r.stamp := by
      intro same
      have known' := ((books.remotes.mem_iff q).1 mem).known
      exact gone (known'.eq_of_stamp_eq known same ▸ mem)
    simp [other]
  · rw [run.deliveries_eq, is.deliveries]
  · exact (split ▸ books.lawful).not_sent_of_dooms dooms known e
  · exact run.remoteCount_eq (by rw [idle]; rfl)

/-- In the sample run, the first entry of the uid was replaced: the notice of its death removes
    nothing, and nothing was sent to it. -/
theorem replaced_of_sample : ∃ t₁ t₂ : Trace Nat Nat,
    History.trace Sample.state.1 = t₁ ++ .posted (.addRemote 7 71) :: t₂ ∧
    (Sample.state.2.applyOne (.remoteDied 7 0)).remotes = Sample.state.2.remotes ∧
    ∀ e, .sent ⟨7, 0, 70⟩ e ∉ t₂ := by
  let t := History.trace Sample.state.1
  have split : t = t.take 10 ++ .posted (.addRemote 7 71) :: t.drop 11 := by decide
  have known : Remote.Known ⟨7, 0, 70⟩ (t.take 10) :=
    ⟨t.take 6, .applied (.addRemote 7 70), (t.take 10).drop 7, by decide, ⟨rfl, by decide⟩,
      fun _ _ => id⟩
  have known' : Remote.Known ⟨7, 0, 70⟩ t := split ▸ known.append _
  have law := remote_deliveries Sample.isRun
  exact ⟨_, _, split, law.2.2.1 ⟨7, 0, 70⟩ known' (by decide),
    law.2.2.2.2.2.2.2.1 _ _ _ ⟨7, 0, 70⟩ split rfl known⟩

end HeadUnit.Bus
