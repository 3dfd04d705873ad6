import Mathlib.Data.List.Nodup
import HeadUnit.Proofs.Provision.Run

/-!
# Creations are all or nothing

The next id of the roster grows with every user that is created, and is ahead of all ids that were
ever in use. So a new user has an id of its own (`Issued`), and a creation that is undone, however
late and whatever else is under way, takes out the record that it has made and no other
(`Change.touches`).

What has become of a creation can then be said at any later time (`Fates`): one that failed has
left nothing, and one that succeeded has left its record, unless the user was removed since. The
main statement is `created_or_nothing`.
-/

namespace HeadUnit.Provision

variable {h : History} {o : Office} {d : Deed}

/-! ## Ids -/

/-- The next id never goes back. -/
theorem Change.nextId_le (change : Change o d) (room : o.roster.nextId ≠ Int64.maxValue) :
    o.roster.nextId ≤ d.office.roster.nextId := by
  cases change with
  | nothing | refused | approved => exact Int64.le_refl _
  | undone _ removes | removed removes => exact Int64.le_of_eq removes.nextId.symm
  | made adds | awaits adds =>
    rw [adds.nextId]
    exact Int64.le_of_lt (Roster.lt_next room)

/-- Nor does the number of the next creation. -/
theorem Change.nextCall_le (change : Change o d) : o.nextCall ≤ d.office.nextCall := by
  cases change with
  | nothing | approved | undone | removed => exact Nat.le_refl _
  | refused | made | awaits => exact Nat.le_succ _

theorem Change.removeFault (change : Change o d) (works : o.roster.removeFault = none) :
    d.office.roster.removeFault = none := by
  cases change with
  | nothing | refused | approved => exact works
  | undone _ removes | removed removes => exact removes.removeFault.trans works
  | made adds | awaits adds => exact adds.removeFault.trans works

theorem Change.ordered (change : Change o d) (ordered : Roster.Ordered o.roster.users) :
    Roster.Ordered d.office.roster.users := by
  cases change with
  | nothing | refused | approved => exact ordered
  | undone _ removes | removed removes => exact removes.ordered ordered
  | made adds | awaits adds => exact adds.ordered ordered

theorem Change.ahead (change : Change o d) (ahead : o.roster.Ahead)
    (room : o.roster.nextId ≠ Int64.maxValue) : d.office.roster.Ahead := by
  cases change with
  | nothing | refused | approved => exact ahead
  | undone _ removes | removed removes => exact removes.ahead ahead
  | made adds | awaits adds => exact adds.ahead ahead room

/-- A record is handed out under the next id, to the creation with the next number. -/
theorem Change.of_made (change : Change o d) {u : User} (made : d.made = some u) :
    d.call = some o.nextCall ∧ d.office.nextCall = o.nextCall + 1 ∧
      Roster.Adds o.roster u d.office.roster := by
  cases change with
  | nothing | refused | approved | undone | removed => cases made
  | made adds | awaits adds =>
    cases made
    exact ⟨rfl, rfl, adds⟩

/-- A creation that begins has the next number, and the others are under way. -/
theorem Change.of_call (change : Change o d) {call : Nat} (own : d.call = some call) :
    call = o.nextCall ∧ o.nextCall < d.office.nextCall ∨ ∃ p ∈ o.pending, p.call = call := by
  cases change with
  | nothing | removed => cases own
  | refused | made | awaits =>
    cases own
    exact .inl ⟨rfl, Nat.lt_succ_self _⟩
  | approved underWay | undone underWay =>
    cases own
    exact .inr ⟨_, underWay, rfl⟩

theorem Deed.issue?_eq_some {e : Nat × User} :
    d.issue? = some e ↔ d.call = some e.1 ∧ d.made = some e.2 := by
  obtain ⟨call, u⟩ := e
  cases c : d.call <;> cases m : d.made <;> simp [issue?, c, m]

/-- What is known of the ids and of the numbers of the creations that were given out. -/
structure Issued (h : History) (o : Office) : Prop where
  works : o.roster.removeFault = none
  ordered : Roster.Ordered o.roster.users
  ahead : o.roster.Ahead
  /-- Whoever was ever there has an id behind the next one. -/
  past : ∀ x ∈ h, ∀ id u, x.before.roster.find? id = some u → id < o.roster.nextId
  behind : ∀ e ∈ h.made, e.2.id < o.roster.nextId
  calls : ∀ x ∈ h, ∀ call, x.deed.call = some call → call < o.nextCall
  pending : ∀ p ∈ o.pending, p.call < o.nextCall
  ids : (h.made.map (·.2.id)).Nodup
  numbers : (h.made.map (·.1)).Nodup
  fresh : ∀ (h₁ : History) (m : Moment) (h₂ : History) (u : User), h = h₁ ++ m :: h₂ →
    m.deed.made = some u → ∀ x ∈ h₁ ++ [m], x.before.roster.find? u.id = none

/-- A creation that has made a user has begun. -/
theorem Issued.lt_of_mem (issued : Issued h o) {e : Nat × User} (mem : e ∈ h.made) :
    e.1 < o.nextCall := by
  obtain ⟨x, there, own⟩ := List.mem_filterMap.1 mem
  exact issued.calls x there e.1 (Deed.issue?_eq_some.1 own).1

/-- Creations under way come from before, or are the one that begins. -/
theorem Change.pending_lt (change : Change o d) (issued : Issued h o) :
    ∀ p ∈ d.office.pending, p.call < d.office.nextCall := by
  have before : ∀ p ∈ o.pending, p.call < d.office.nextCall := fun p mem =>
    Nat.lt_of_lt_of_le (issued.pending p mem) change.nextCall_le
  cases change with
  | nothing | refused | made | removed => exact before
  | approved | undone => exact fun p mem => before p (List.mem_filter.1 mem).1
  | awaits =>
    intro p mem
    rcases List.mem_append.1 mem with old | new
    · exact before p old
    · obtain rfl := List.mem_singleton.1 new
      exact Nat.lt_succ_self _

/-- What tells the records apart does so later, if no new record has it in common with an old. -/
theorem History.nodup_snoc {α : Type} {f : Nat × User → α} (nodup : (h.made.map f).Nodup)
    {m : Moment} (fresh : ∀ e, m.deed.issue? = some e → ∀ e' ∈ h.made, f e' ≠ f e) :
    ((made (h ++ [m])).map f).Nodup := by
  rw [made_snoc, List.map_append]
  cases new : m.deed.issue? with
  | none => simpa using nodup
  | some e =>
    refine List.nodup_append.2 ⟨nodup, List.nodup_singleton _, ?_⟩
    intro x old y last
    obtain ⟨e', mem, rfl⟩ := List.mem_map.1 old
    obtain rfl : y = f e := by simpa using last
    exact fresh e new e' mem

theorem Issued.step (issued : Issued h o) (room : o.roster.nextId ≠ Int64.maxValue) (m : Move) :
    Issued (h ++ [⟨o, m⟩]) (o.deed m).office := by
  have change : Change o (o.deed m) := change_deed issued.works m
  have le := change.nextId_le room
  refine ⟨change.removeFault issued.works, change.ordered issued.ordered,
    change.ahead issued.ahead room, ?_, ?_, ?_, change.pending_lt issued, ?_, ?_, ?_⟩
  · intro x mem id u found
    rcases List.mem_append.1 mem with old | new
    · exact Int64.lt_of_lt_of_le (issued.past x old id u found) le
    · obtain rfl := List.mem_singleton.1 new
      exact Int64.lt_of_lt_of_le (issued.ahead id u found) le
  · intro e mem
    rcases History.mem_made_snoc.1 mem with old | new
    · exact Int64.lt_of_lt_of_le (issued.behind e old) le
    · obtain ⟨_, _, adds⟩ := change.of_made (Deed.issue?_eq_some.1 new).2
      rw [adds.id, adds.nextId]
      exact Roster.lt_next room
  · intro x mem call own
    rcases List.mem_append.1 mem with old | new
    · exact Nat.lt_of_lt_of_le (issued.calls x old call own) change.nextCall_le
    · obtain rfl := List.mem_singleton.1 new
      rcases change.of_call own with ⟨rfl, begun⟩ | ⟨p, underWay, rfl⟩
      · exact begun
      · exact Nat.lt_of_lt_of_le (issued.pending p underWay) change.nextCall_le
  · refine History.nodup_snoc issued.ids fun e new e' mem => ?_
    obtain ⟨_, _, adds⟩ := change.of_made (Deed.issue?_eq_some.1 new).2
    rw [adds.id]
    exact Int64.ne_of_lt (issued.behind e' mem)
  · refine History.nodup_snoc issued.numbers fun e new e' mem => ?_
    obtain ⟨own, made⟩ := Deed.issue?_eq_some.1 new
    have number := Option.some.inj (own.symm.trans (change.of_made made).1)
    exact number ▸ Nat.ne_of_lt (issued.lt_of_mem mem)
  · intro h₁ x h₂ u split made
    rcases h₂.eq_nil_or_concat with rfl | ⟨h₂, y, rfl⟩
    · -- The record is handed out now, and its id is ahead of all that there ever were.
      obtain ⟨rfl, rfl⟩ := List.append_singleton_inj.1 split
      obtain ⟨_, _, adds⟩ := change.of_made made
      intro x mem
      rcases List.mem_append.1 mem with old | new
      · cases found : x.before.roster.find? u.id with
        | none => rfl
        | some v => exact (Int64.lt_irrefl (adds.id ▸ issued.past x old _ v found)).elim
      · obtain rfl := List.mem_singleton.1 new
        exact adds.absent issued.ahead
    · rw [List.concat_eq_append, ← List.cons_append, ← List.append_assoc] at split
      exact issued.fresh h₁ x h₂ u (List.append_singleton_inj.1 split).1 made

theorem IsRun.issued (run : IsRun h o)
    (room : ∀ x ∈ h, x.before.roster.nextId ≠ Int64.maxValue) : Issued h o := by
  induction run with
  | opened stocked =>
    refine ⟨stocked.removeFault, stocked.ordered, stocked.ahead, ?_, ?_, ?_, ?_, .nil, .nil, ?_⟩
    · exact fun _ mem => absurd mem List.not_mem_nil
    · exact fun _ mem => absurd mem List.not_mem_nil
    · exact fun _ mem => absurd mem List.not_mem_nil
    · exact fun _ mem => absurd mem List.not_mem_nil
    · intro h₁ m h₂ u split
      simp at split
  | @step h o m run ih =>
    have before := ih fun x mem => room x (List.mem_append_left _ mem)
    exact before.step (room _ (List.mem_append_right _ (List.mem_singleton.2 rfl))) m

/-! ## Records -/

/-- What a move does to the record of a user. -/
inductive Touches (o : Office) (d : Deed) (id : UserId) : Prop
  | same (same : d.office.roster.find? id = o.roster.find? id)
  | made {u : User} (made : d.made = some u) (own : u.id = id)
  | removed (nobody : d.call = none) (removed : d.removed = some id)
      (gone : d.office.roster.find? id = none)
  /-- A creation is undone that has made the user. -/
  | undone {p : Pending} (underWay : p ∈ o.pending) (call : d.call = some p.call)
      (own : p.user.id = id) (gone : d.office.roster.find? id = none)

theorem Change.touches (change : Change o d) (id : UserId) : Touches o d id := by
  cases change with
  | nothing | refused | approved => exact .same rfl
  | @made u _ adds | @awaits u _ adds =>
    by_cases own : u.id = id
    · exact .made rfl own
    · exact .same (adds.other own)
  | @undone p underWay _ removes =>
    by_cases own : p.user.id = id
    · exact .undone underWay rfl own (own ▸ removes.self)
    · exact .same (removes.other (Ne.symm own))
  | @removed id' _ removes =>
    by_cases own : id' = id
    · exact .removed rfl (congrArg some own) (own ▸ removes.self)
    · exact .same (removes.other (Ne.symm own))

/-- A record that was handed out is still there, unless the user was removed since. -/
def Stands (h : History) (o : Office) (u : User) : Prop :=
  o.roster.find? u.id = some u ∨
    o.roster.find? u.id = none ∧ ∃ x ∈ h, x.deed.removed = some u.id

/-- A move that does not touch the record leaves it standing. -/
theorem Stands.untouched {u : User} (stands : Stands h o u) {x : Moment} {o' : Office}
    (same : o'.roster.find? u.id = o.roster.find? u.id) : Stands (h ++ [x]) o' u := by
  rw [Stands, same]
  exact stands.imp_right fun ⟨gone, y, old, removed⟩ =>
    ⟨gone, y, List.mem_append_left _ old, removed⟩

section Step

variable {m : Move} {e : Nat × User}

/-- The user of one creation is not the user of another. -/
theorem Issued.eq_of_id_eq (issued : Issued h o) {e' : Nat × User} (mem : e ∈ h.made)
    (mem' : e' ∈ h.made) (same : e.2.id = e'.2.id) : e = e' :=
  List.inj_on_of_nodup_map issued.ids mem mem' same

/-- Nor does a creation make two users. -/
theorem Issued.eq_of_call_eq (issued : Issued h o) {e' : Nat × User} (mem : e ∈ h.made)
    (mem' : e' ∈ h.made) (same : e.1 = e'.1) : e = e' :=
  List.inj_on_of_nodup_map issued.numbers mem mem' same

/-- A new user takes nobody's record. -/
theorem Issued.ne_of_made (issued : Issued h o) (mem : e ∈ h.made) {u : User}
    (made : (o.deed m).made = some u) : u.id ≠ e.2.id := by
  obtain ⟨_, _, adds⟩ := (change_deed issued.works m).of_made made
  rw [adds.id]
  exact (Int64.ne_of_lt (issued.behind e mem)).symm

/-- Whoever is not there does not come back. -/
theorem Issued.none_step (issued : Issued h o) (mem : e ∈ h.made)
    (gone : o.roster.find? e.2.id = none) : (o.deed m).office.roster.find? e.2.id = none := by
  cases (change_deed issued.works m).touches e.2.id with
  | same same => exact same.trans gone
  | made made own => exact absurd own (issued.ne_of_made mem made)
  | removed _ _ gone => exact gone
  | undone _ _ _ gone => exact gone

end Step

/-! ## Fates -/

section Outcomes

variable {call : Nat} {result : CreateResult}

/-- A creation that is under way was so before and has not moved, or has just made its user. -/
theorem Change.of_pending (change : Change o d) (issued : Issued h o) {p : Pending}
    (underWay : p ∈ d.office.pending) :
    p ∈ o.pending ∧ d.call ≠ some p.call ∨
    p.call = o.nextCall ∧ d.issue? = some (p.call, p.user) ∧ d.result = none ∧
      Roster.Adds o.roster p.user d.office.roster := by
  have begun (old : p ∈ o.pending) : some o.nextCall ≠ some p.call := fun same =>
    Nat.ne_of_gt (issued.pending p old) (Option.some.inj same)
  cases change with
  | nothing | removed => exact .inl ⟨underWay, nofun⟩
  | refused | made => exact .inl ⟨underWay, begun underWay⟩
  | awaits adds =>
    rcases List.mem_append.1 underWay with old | new
    · exact .inl ⟨old, begun old⟩
    · obtain rfl := List.mem_singleton.1 new
      exact .inr ⟨rfl, rfl, rfl, adds⟩
  | approved | undone =>
    obtain ⟨old, other⟩ := List.mem_filter.1 underWay
    exact .inl ⟨old, fun same => by simp [Option.some.inj same] at other⟩

/-- A creation that fails has made no user, or its user is gone. -/
theorem Change.of_failed (change : Change o d) (own : d.call = some call)
    (returned : d.result = some result) (failed : result.status ≠ .successful) :
    result.user = none ∧ d.made = none ∧
      (call = o.nextCall ∨
        ∃ p ∈ o.pending, p.call = call ∧ d.office.roster.find? p.user.id = none) := by
  cases change with
  | nothing | removed => cases own
  | awaits => cases returned
  | made | approved =>
    cases returned
    exact absurd rfl failed
  | refused _ nobody =>
    cases own
    cases returned
    exact ⟨nobody, rfl, .inl rfl⟩
  | undone underWay removes _ nobody =>
    cases own
    cases returned
    exact ⟨nobody, rfl, .inr ⟨_, underWay, rfl, removes.self⟩⟩

/-- A creation that succeeds has just made its user, or leaves the roster as it is. -/
theorem Change.of_succeeded (change : Change o d) (own : d.call = some call)
    (returned : d.result = some result) (success : result.status = .successful) :
    ∃ u, result.user = some u ∧
      (d.issue? = some (call, u) ∧ d.office.roster.find? u.id = some u ∨
        (∃ p ∈ o.pending, p.call = call ∧ p.user = u) ∧ d.office.roster = o.roster) := by
  cases change with
  | nothing | removed => cases own
  | awaits => cases returned
  | refused failed | undone _ _ failed =>
    cases returned
    exact absurd success failed
  | made adds =>
    cases own
    cases returned
    exact ⟨_, rfl, .inl ⟨rfl, adds.self⟩⟩
  | approved underWay =>
    cases own
    cases returned
    exact ⟨_, rfl, .inr ⟨⟨_, underWay, rfl, rfl⟩, rfl⟩⟩

end Outcomes

/-- What has become of the creations so far. -/
structure Fates (h : History) (o : Office) : Prop where
  /-- One that is under way has made its user, and has not returned. -/
  pending : ∀ p ∈ o.pending, (p.call, p.user) ∈ h.made ∧ Stands h o p.user ∧
    ∀ x ∈ h, x.deed.call = some p.call → x.deed.result = none
  failed : ∀ x ∈ h, ∀ call result, x.deed.call = some call → x.deed.result = some result →
    result.status ≠ .successful →
    result.user = none ∧ ∀ u, (call, u) ∈ h.made → o.roster.find? u.id = none
  succeeded : ∀ x ∈ h, ∀ call result, x.deed.call = some call → x.deed.result = some result →
    result.status = .successful → ∃ u, result.user = some u ∧ (call, u) ∈ h.made ∧ Stands h o u
  /-- No move of a creation touches a record that it has not made. -/
  spared : ∀ x ∈ h, ∀ call, x.deed.call = some call → ∀ id,
    (∀ u, (call, u) ∈ h.made → u.id ≠ id) → x.after.roster.find? id = x.before.roster.find? id

namespace Fates

theorem opened {r : Roster} : Fates [] { roster := r } := by
  refine ⟨?_, ?_, ?_, ?_⟩ <;> exact fun _ mem => absurd mem List.not_mem_nil

section Step

variable {m : Move} (fates : Fates h o) (issued : Issued h o)

include fates issued

/-- A creation that has returned makes no move. -/
theorem silent {x : Moment} (mem : x ∈ h) {call : Nat} {result : CreateResult}
    (own : x.deed.call = some call) (returned : x.deed.result = some result) :
    (o.deed m).call ≠ some call := by
  intro again
  rcases (change_deed issued.works m).of_call again with ⟨rfl, _⟩ | ⟨p, underWay, rfl⟩
  · exact Nat.lt_irrefl _ (issued.calls x mem _ own)
  · rw [(fates.pending p underWay).2.2 x mem own] at returned
    cases returned

/-- The record of one creation stands while the others go on. -/
theorem stands_step {e : Nat × User} (mem : e ∈ h.made) (apart : (o.deed m).call ≠ some e.1)
    (stands : Stands h o e.2) : Stands (h ++ [⟨o, m⟩]) (o.deed m).office e.2 := by
  cases (change_deed issued.works m).touches e.2.id with
  | same same => exact stands.untouched same
  | made made own => exact absurd own (issued.ne_of_made mem made)
  | removed _ removed gone => exact .inr ⟨gone, ⟨o, m⟩, by simp, removed⟩
  | undone underWay call own =>
    have same := issued.eq_of_id_eq (fates.pending _ underWay).1 mem own
    exact absurd (same ▸ call) apart

theorem pending_step : ∀ p ∈ (o.deed m).office.pending,
    (p.call, p.user) ∈ History.made (h ++ [⟨o, m⟩]) ∧
      Stands (h ++ [⟨o, m⟩]) (o.deed m).office p.user ∧
      ∀ x ∈ h ++ [⟨o, m⟩], x.deed.call = some p.call → x.deed.result = none := by
  intro p underWay
  have change : Change o (o.deed m) := change_deed issued.works m
  rcases change.of_pending issued underWay with ⟨old, apart⟩ | ⟨new, entry, waits, adds⟩
  · obtain ⟨made, stands, waits⟩ := fates.pending p old
    refine ⟨History.mem_made_snoc.2 (.inl made), fates.stands_step issued made apart stands, ?_⟩
    intro x mem own
    rcases List.mem_append.1 mem with before | now
    · exact waits x before own
    · obtain rfl := List.mem_singleton.1 now
      exact absurd own apart
  · refine ⟨History.mem_made_snoc.2 (.inr entry), .inl adds.self, ?_⟩
    intro x mem own
    rcases List.mem_append.1 mem with before | now
    · exact absurd new (Nat.ne_of_lt (issued.calls x before _ own))
    · obtain rfl := List.mem_singleton.1 now
      exact waits

theorem failed_step : ∀ x ∈ h ++ [⟨o, m⟩], ∀ call result, x.deed.call = some call →
    x.deed.result = some result → result.status ≠ .successful →
    result.user = none ∧ ∀ u, (call, u) ∈ History.made (h ++ [⟨o, m⟩]) →
      (o.deed m).office.roster.find? u.id = none := by
  intro x mem call result own returned failed
  rcases List.mem_append.1 mem with before | now
  · obtain ⟨nobody, gone⟩ := fates.failed x before call result own returned failed
    refine ⟨nobody, fun u made => ?_⟩
    rcases History.mem_made_snoc.1 made with old | new
    · exact issued.none_step old (gone u old)
    · exact absurd (Deed.issue?_eq_some.1 new).1 (fates.silent issued before own returned)
  · obtain rfl := List.mem_singleton.1 now
    have change : Change o (o.deed m) := change_deed issued.works m
    obtain ⟨nobody, unmade, maker⟩ := change.of_failed own returned failed
    refine ⟨nobody, fun u made => ?_⟩
    rcases History.mem_made_snoc.1 made with old | new
    · rcases maker with rfl | ⟨p, underWay, rfl, gone⟩
      · exact absurd (issued.lt_of_mem old) (Nat.lt_irrefl _)
      · have same := issued.eq_of_call_eq (fates.pending p underWay).1 old rfl
        obtain rfl : p.user = u := congrArg Prod.snd same
        exact gone
    · exact absurd (unmade.symm.trans (Deed.issue?_eq_some.1 new).2) nofun

theorem succeeded_step : ∀ x ∈ h ++ [⟨o, m⟩], ∀ call result, x.deed.call = some call →
    x.deed.result = some result → result.status = .successful →
    ∃ u, result.user = some u ∧ (call, u) ∈ History.made (h ++ [⟨o, m⟩]) ∧
      Stands (h ++ [⟨o, m⟩]) (o.deed m).office u := by
  intro x mem call result own returned success
  rcases List.mem_append.1 mem with before | now
  · obtain ⟨u, user, made, stands⟩ := fates.succeeded x before call result own returned success
    have apart := fates.silent (m := m) issued before own returned
    exact ⟨u, user, History.mem_made_snoc.2 (.inl made),
      fates.stands_step issued made apart stands⟩
  · obtain rfl := List.mem_singleton.1 now
    have change : Change o (o.deed m) := change_deed issued.works m
    obtain ⟨u, user, ⟨entry, there⟩ | ⟨⟨p, underWay, rfl, rfl⟩, same⟩⟩ :=
      change.of_succeeded own returned success
    · exact ⟨u, user, History.mem_made_snoc.2 (.inr entry), .inl there⟩
    · obtain ⟨made, stands, _⟩ := fates.pending p underWay
      exact ⟨p.user, user, History.mem_made_snoc.2 (.inl made),
        stands.untouched (congrArg (Roster.find? · p.user.id) same)⟩

theorem spared_step : ∀ x ∈ h ++ [⟨o, m⟩], ∀ call, x.deed.call = some call → ∀ id,
    (∀ u, (call, u) ∈ History.made (h ++ [⟨o, m⟩]) → u.id ≠ id) →
    x.after.roster.find? id = x.before.roster.find? id := by
  intro x mem call own id others
  rcases List.mem_append.1 mem with before | now
  · exact fates.spared x before call own id fun u made =>
      others u (History.mem_made_snoc.2 (.inl made))
  · obtain rfl := List.mem_singleton.1 now
    have change : Change o (o.deed m) := change_deed issued.works m
    cases change.touches id with
    | same same => exact same
    | @made u made maker =>
      have entry : (o.deed m).issue? = some (call, u) := Deed.issue?_eq_some.2 ⟨own, made⟩
      exact absurd maker (others u (History.mem_made_snoc.2 (.inr entry)))
    | removed nobody => exact absurd (own.symm.trans nobody) nofun
    | undone underWay maker owner =>
      obtain rfl := Option.some.inj (maker.symm.trans own)
      have made := (fates.pending _ underWay).1
      exact absurd owner (others _ (History.mem_made_snoc.2 (.inl made)))

theorem step : Fates (h ++ [⟨o, m⟩]) (o.deed m).office :=
  ⟨fates.pending_step issued, fates.failed_step issued, fates.succeeded_step issued,
    fates.spared_step issued⟩

end Step

end Fates

theorem IsRun.fates (run : IsRun h o)
    (room : ∀ x ∈ h, x.before.roster.nextId ≠ Int64.maxValue) : Fates h o := by
  induction run with
  | opened => exact Fates.opened
  | @step h o m run ih =>
    have before : ∀ x ∈ h, x.before.roster.nextId ≠ Int64.maxValue := fun x mem =>
      room x (List.mem_append_left _ mem)
    exact (ih before).step (run.issued before)

/-- A record that is handed out is in the store. -/
theorem IsRun.stored (run : IsRun h o)
    (room : ∀ x ∈ h, x.before.roster.nextId ≠ Int64.maxValue) :
    ∀ x ∈ h, ∀ u, x.deed.made = some u → x.after.roster.find? u.id = some u := by
  induction run with
  | opened => nofun
  | @step h o m run ih =>
    have before : ∀ x ∈ h, x.before.roster.nextId ≠ Int64.maxValue := fun x mem =>
      room x (List.mem_append_left _ mem)
    intro x mem u made
    rcases List.mem_append.1 mem with old | new
    · exact ih before x old u made
    · obtain rfl := List.mem_singleton.1 new
      obtain ⟨_, _, adds⟩ := (change_deed (run.issued before).works m).of_made made
      exact adds.self

/-- Creation is all or nothing. In a run whose next id does not come to the end of the integers,
    whatever calls overlap and however their questions end:

    * no two records of the store are of one user, and every record that is handed out is in the
      store and has an id of its own, which nobody in the store has ever had;
    * a creation that has failed has no user, and what it had made is gone for good;
    * a creation that has succeeded has returned the record that it made, which is in the store
      unless the user was removed since;
    * a creation has never changed a record that it has not made. -/
theorem created_or_nothing (run : IsRun h o)
    (room : ∀ x ∈ h, x.before.roster.nextId ≠ Int64.maxValue) :
    (o.roster.users.map (·.id)).Nodup ∧ (h.made.map (·.2.id)).Nodup ∧
    (∀ (h₁ : History) (m : Moment) (h₂ : History) (u : User), h = h₁ ++ m :: h₂ →
      m.deed.made = some u →
      m.after.roster.find? u.id = some u ∧ ∀ x ∈ h₁ ++ [m], x.before.roster.find? u.id = none) ∧
    ∀ x ∈ h, ∀ call, x.deed.call = some call →
      (∀ result, x.deed.result = some result →
        (result.status ≠ .successful →
          result.user = none ∧ ∀ u, (call, u) ∈ h.made → o.roster.find? u.id = none) ∧
        (result.status = .successful →
          ∃ u, result.user = some u ∧ (call, u) ∈ h.made ∧ Stands h o u)) ∧
      ∀ id, (∀ u, (call, u) ∈ h.made → u.id ≠ id) →
        x.after.roster.find? id = x.before.roster.find? id := by
  have issued := run.issued room
  have fates := run.fates room
  refine ⟨issued.ordered.distinct, issued.ids,
    fun h₁ m h₂ u split made => ⟨?_, issued.fresh h₁ m h₂ u split made⟩,
    fun x mem call own => ⟨fun result returned => ⟨?_, ?_⟩, fates.spared x mem call own⟩⟩
  · exact run.stored room m (split ▸ List.mem_append_right _ (List.mem_cons_self ..)) u made
  · exact fates.failed x mem call result own returned
  · exact fates.succeeded x mem call result own returned

namespace Sample

def ben : User := ⟨11, "Ben", Kind.full, Flags.admin, UserId.null, true⟩

/-- Two users are to be ratified. Meanwhile a driver is created, and the second of them removed.
    Then the first question times out, and the second is approved. -/
def moves : List Move :=
  [.createUser 0 true "Ada" Kind.full Flags.none,
   .createUser 0 true "Ben" Kind.full Flags.admin,
   .createDriver 0 false "Cleo" false,
   .removeUser 0 false 11,
   .answered 0 .blank (some .deadline),
   .answered 1 ⟨true, ""⟩ none]

def history : History := (played [] { roster := .fresh } moves).1

def office : Office := (played [] { roster := .fresh } moves).2

end Sample

/-- Of three users, the one that was not ratified and the one that was removed are gone. -/
theorem created_of_sample : IsRun Sample.history Sample.office ∧
    (∀ x ∈ Sample.history, x.before.roster.nextId ≠ Int64.maxValue) ∧
    Sample.history.made.map (·.2.id) = [10, 11, 12] ∧
    (∀ u, (0, u) ∈ Sample.history.made → Sample.office.roster.find? u.id = none) ∧
    ((1, Sample.ben) ∈ Sample.history.made ∧ Stands Sample.history Sample.office Sample.ben) ∧
    Sample.office.roster.users.map (·.id) = [0, 12] := by
  have run : IsRun Sample.history Sample.office := (IsRun.opened .fresh).play Sample.moves
  have room : ∀ x ∈ Sample.history, x.before.roster.nextId ≠ Int64.maxValue := by decide +kernel
  have late : Sample.history[4].deed.result =
      some ⟨.coordinatorInternalFailure, none, "context deadline exceeded"⟩ := by decide +kernel
  have approved : Sample.history[5].deed.result = some ⟨.successful, some Sample.ben, ""⟩ := by
    decide +kernel
  obtain ⟨_, _, _, fates⟩ := created_or_nothing run room
  obtain ⟨first, _⟩ := fates Sample.history[4] (List.getElem_mem _) 0 (by decide +kernel)
  obtain ⟨second, _⟩ := fates Sample.history[5] (List.getElem_mem _) 1 (by decide +kernel)
  obtain ⟨u, user, made, stands⟩ := (second _ approved).2 rfl
  cases user
  exact ⟨run, room, by decide +kernel, ((first _ late).1 nofun).2, ⟨made, stands⟩,
    by decide +kernel⟩

end HeadUnit.Provision
