import HeadUnit.Proofs.Service.Listed

/-!
# Users who are removed

When a user is removed, the registry forgets it and persists that it did, if it had an entry. So
nothing lists the user any more (`IsLasting.lists_of_removes`), and as long as nobody makes such a
user known again, no move lets it back in (`IsLasting.lists`): nobody is looked up who is not known,
and a start restores what is persisted.

But others may know of the user when it is removed (`Moment.Overlooks`). The user is persisted while
the registry has no entry of it, as before the first start; a start has read the persisted state and
not restored it yet; or the registry has looked the user up and not recorded it yet. The main
statement, `removed_or_overlooked`, says that a user who was removed comes back for no other reason.
For the first and the last one it does (`restarted_after_removal`, `recorded_after_removal`).
-/

namespace HeadUnit.Service

open HeadUnit.Service.System

/-! ## Removals -/

/-- A call that removes the user returns that it has done so. -/
structure Moment.Removes (m : Moment) (id : UserId) : Prop where
  move : ∃ ctx, m.move = .act (.perform ctx (.removeUser id))
  success : ∃ status : RemoveStatus, status.isSuccess = true ∧
    (m.before.move m.move).out.getLast? = some (.returned m.before.nextId (.removed status))

/-- Something knows of the user that the removal does not reach. -/
inductive Moment.Overlooks (m : Moment) (id : UserId) : Prop
  /-- The user is persisted or cached, but the registry does not list it. -/
  | unlisted {st : Snapshot} (persisted : m.before.repository.load = .ok st ∨
        m.before.store.loaded = true ∧ m.before.store.cache = st)
      (listed : id ∈ st.background.map (·.user)) (absent : id ∉ m.before.backgroundUsers)
  /-- A start has read a state that lists the user, and not restored it yet. -/
  | restoring {st : Snapshot} (holds : m.before.Holds st)
      (listed : id ∈ st.background.map (·.user))
  /-- The registry has looked the user up, and not recorded it yet. -/
  | recording {r : Run} {u : User} (mem : r ∈ m.before.runs) (found : r.found = some u)
      (own : u.id = id)

/-- A removal that succeeds makes the registry forget the user. -/
theorem Moment.Removes.books {m : Moment} {id : UserId} (removes : m.Removes id) :
    ∃ roster, m.after.books =
      Books.change { m.before.books with roster := roster } (m.before.registry.forget id).1 := by
  obtain ⟨s, q⟩ := m
  obtain ⟨⟨ctx, rfl⟩, status, success, returned⟩ := removes
  have books := books_removeUser s.freshId.2 s.nextId id
  -- The status is what the removal of the user came to.
  have own : status =
      (Provision.remove s.roster s.sessions.current s.capabilities.remove id).value.status := by
    have last : (s.move (.act (.perform ctx (.removeUser id)))).out.getLast? = _ :=
      List.getLast?_concat
    cases last.symm.trans returned
    rfl
  subst own
  refine ⟨_, books.trans (if_pos success)⟩

/-- Once the registry is persisted, it does not matter who was listed elsewhere. -/
theorem Books.Lists.of_persist {b : Books} {P : List UserId → Prop} {who : UserId → Prop}
    (persists : b.persists = true) (works : b.repository.Works) (registry : P b.registry.users)
    (found : ∀ (i : Nat) (u : User), b.found[i]? = some (some u) → who u.id) :
    b.persist.Lists P who := by
  -- There is a state to change, and to save it succeeds.
  obtain ⟨st, ready⟩ : ∃ st,
      (if b.store.loaded then .ok b.store.cache else b.repository.load) = .ok st := by
    split
    · exact ⟨_, rfl⟩
    · exact works.loads
  obtain ⟨r', saved⟩ := works.saves (Books.recorded b.registry st) b.now
  unfold Books.persist Books.update Store.update
  rw [if_pos persists, ready]
  dsimp only
  rw [saved]
  refine ⟨registry, fun _ => registry, fun st' loaded => ?_, found, persists⟩
  obtain ⟨t, rfl⟩ := Repository.loaded_of_saved saved loaded
  exact registry

/-- After a removal nothing lists the user, unless it was overlooked. -/
theorem IsLasting.lists_of_removes {h : History} {s : System} {m : Move} {id : UserId}
    (lasting : IsLasting h s) (proper : m.Proper) (removes : (Moment.mk s m).Removes id)
    (seen : ¬(Moment.mk s m).Overlooks id) :
    (Moment.mk s m).after.Lists (fun us => us.Nodup ∧ id ∉ us) (· ≠ id) := by
  obtain ⟨before, held⟩ := lasting.distinct
  obtain ⟨roster, books⟩ := removes.books
  have distinct := (s.registry.shrinks_forget id).users.nodup before.registry
  have found : ∀ (i : Nat) (u : User), s.books.found[i]? = some (some u) → u.id ≠ id := by
    intro i u here own
    obtain ⟨r, mem, found⟩ := List.mem_map.1 (List.mem_of_getElem? here)
    exact seen (.recording mem found own)
  have lists : (Moment.mk s m).after.books.Lists (fun us => us.Nodup ∧ id ∉ us) (· ≠ id) := by
    rw [books]
    dsimp only
    by_cases listed : id ∈ s.registry.users
    · -- The registry persists that it has forgotten the user.
      have absent : id ∉ (s.registry.forget id).1.registry.users := by
        simp only [Registry.forget, List.contains_iff_mem.2 listed, if_true]
        exact Registry.not_mem_users_eraseUser before.registry
      have persists : (s.registry.forget id).1.persist = true := by
        simp [Registry.forget, listed]
      rw [Books.change, if_pos persists]
      exact .of_persist before.persists lasting.works ⟨distinct, absent⟩ found
    · -- Nothing changes, and nothing else lists the user.
      have same : (s.registry.forget id).1 = { registry := s.registry } := by
        simp [Registry.forget, listed]
      rw [same]
      exact ⟨⟨before.registry, listed⟩,
        fun on => ⟨before.cache on, fun mem => seen (.unlisted (.inr ⟨on, rfl⟩) mem listed)⟩,
        fun st loaded => ⟨before.repository st loaded,
          fun mem => seen (.unlisted (.inl loaded) mem listed)⟩, found, before.persists⟩
  refine ⟨lists, fun st holds => ?_⟩
  -- A start may hold a state, too.
  rcases lasting.isRun.holds_back proper holds with still | read | ⟨rfl, -⟩
  · exact ⟨held st still, fun mem => seen (.restoring still mem)⟩
  · exact lists.repository st read
  · exact ⟨List.nodup_nil, List.not_mem_nil⟩

/-- Nor does anything list it later, as long as nobody makes it known. -/
theorem IsLasting.lists {h₁ h₂ : History} {m : Moment} {s : System} {id : UserId}
    (lasting : IsLasting (h₁ ++ m :: h₂) s) (removes : m.Removes id) (seen : ¬m.Overlooks id)
    (away : ∀ x ∈ h₂, ¬x.before.roster.Knows id) :
    s.Lists (fun us => us.Nodup ∧ id ∉ us) (· ≠ id) := by
  -- By induction on the moves that follow the removal, the last one taken off.
  induction h₂ using List.reverseRecOn generalizing s with
  | nil =>
    obtain ⟨before, proper, _, rfl⟩ := lasting.last
    exact before.lists_of_removes proper removes seen
  | append_singleton h₂ x ih =>
    rw [← List.cons_append, ← List.append_assoc] at lasting
    obtain ⟨before, proper, own, rfl⟩ := lasting.last
    have unknown : ¬x.before.roster.Knows id :=
      away x (List.mem_append_right _ List.mem_cons_self)
    exact (ih before fun y mem => away y (List.mem_append_left _ mem)).move (.lacks id)
      before.isRun proper (fun y known same => unknown (same ▸ known)) own

/-- Whoever the registry does not list is not started with it. -/
theorem spares_startRegistered {s : System} {id : UserId} (absent : id ∉ s.backgroundUsers)
    (call : Nat) : id ∉ (s.startRegistered call).2 ∧
      (s.startRegistered call).1.sessions.isRunning id = s.sessions.isRunning id := by
  have spares := Registry.spares_startAll s.registry s.sessions s.millis
  unfold startRegistered
  generalize s.registry.startAll s.sessions s.millis = started at spares
  obtain ⟨registry, st⟩ := started
  refine ⟨fun mem => ?_, ?_⟩
  · exact (spares.running id mem).elim List.not_mem_nil absent
  · -- The events of the start do not touch the sessions.
    have noted : (({ s with registry := registry, sessions := st.sessions } : System).notes
        st.notes).books = { s.books with registry := registry, sessions := st.sessions } :=
      books_notes ..
    have unmoved := (Books.Steps.unmoved (steps_emitEvents (({ s with
      registry := registry, sessions := st.sessions } : System).notes st.notes) (.caller call)
      st.events)).2
    rw [noted] at unmoved
    exact (congrArg (·.isRunning id) unmoved).trans (spares.sessions.others id absent)

/-- Once a user has been removed, the registry does not list it and nobody starts it with the
    users of the registry, until it is made known again: or else it was overlooked when it was
    removed. -/
theorem removed_or_overlooked {h₁ h₂ : History} {m : Moment} {s : System} {id : UserId}
    (lasting : IsLasting (h₁ ++ m :: h₂) s) (removes : m.Removes id)
    (away : ∀ x ∈ h₂, ¬x.before.roster.Knows id) :
    (id ∉ s.backgroundUsers ∧ ∀ call, id ∉ (s.startRegistered call).2 ∧
        (s.startRegistered call).1.sessions.isRunning id = s.sessions.isRunning id) ∨
      m.Overlooks id := by
  by_cases overlooked : m.Overlooks id
  · exact .inr overlooked
  · have absent : id ∉ s.registry.users := (lasting.lists removes overlooked away).books.registry.2
    exact .inl ⟨absent, spares_startRegistered absent⟩

namespace Removed

def ann : User := ⟨10, "Ann", "full.secondary", Flags.none, UserId.null, true⟩

/-- Ann is one of the users, and persisted. -/
def world : Surroundings :=
  { roster := Roster.fresh.put ann
    repository := { medium := .memory ⟨[⟨10, 1⟩], UserId.null, 1, UserId.null, Stamp.unset⟩ 0 } }

def removal : Action := .perform {} (.removeUser 10)

/-- Ann is removed once the service has started. -/
def late : Moment := ⟨(acted world (startUp 1)).2, .act removal⟩

/-- Ann is removed before the service starts. -/
def early : Moment := ⟨(acted world []).2, .act removal⟩

/-- The registry has looked up Ann, who has unlocked. -/
def unlocked : List Action :=
  startUp 1 ++ .perform {} (.event (.about .unlocked 10 0)) :: List.replicate 3 (.busStep 0)

/-- Ann is removed before the registry records her. -/
def between : Moment := ⟨(acted world unlocked).2, .act removal⟩

theorem removes_late : late.Removes 10 := by
  refine ⟨⟨{}, rfl⟩, _, ?_, List.getLast?_concat⟩
  decide +kernel

theorem removes_early : early.Removes 10 := by
  refine ⟨⟨{}, rfl⟩, _, ?_, List.getLast?_concat⟩
  decide +kernel

theorem isLasting_late : IsLasting
    ((acted world (startUp 1)).1 ++ late :: (played [] late.after ((cycle 3).map .act)).1)
    (played [] late.after ((cycle 3).map .act)).2 := by
  have lasting : IsLasting (acted world (startUp 1 ++ removal :: cycle 3)).1
      (acted world (startUp 1 ++ removal :: cycle 3)).2 :=
    isLasting_acted rfl (by decide) rfl (by decide) (by decide +kernel)
  exact lasting

theorem isLasting_early : IsLasting ([] ++ early :: (played [] early.after ((startUp 2).map .act)).1)
    (played [] early.after ((startUp 2).map .act)).2 := by
  have lasting : IsLasting (acted world (removal :: startUp 2)).1
      (acted world (removal :: startUp 2)).2 :=
    isLasting_acted rfl (by decide) rfl (by decide) (by decide +kernel)
  exact lasting

end Removed

open Removed in
/-- Ann does not come back when the service is turned off and on again. -/
theorem removed_of_sample :
    IsLasting ((acted world (startUp 1)).1 ++ late :: (played [] late.after ((cycle 3).map .act)).1)
      (played [] late.after ((cycle 3).map .act)).2 ∧ late.Removes 10 ∧
    (10 : UserId) ∉ (played [] late.after ((cycle 3).map .act)).2.backgroundUsers := by
  have away : ∀ x ∈ (played [] late.after ((cycle 3).map .act)).1,
      ¬x.before.roster.Knows 10 := by decide +kernel
  have listed : (10 : UserId) ∈ late.before.backgroundUsers := by decide +kernel
  refine ⟨isLasting_late, removes_late, ?_⟩
  rcases removed_or_overlooked isLasting_late removes_late away with gone | overlooked
  · exact gone.1
  · cases overlooked with
    | unlisted _ _ absent => exact absurd listed absent
    | @restoring st holds =>
      -- The start has returned.
      obtain ⟨c, mem, _⟩ := holds
      have none : late.before.calls = [] := List.length_eq_zero_iff.1 (by decide +kernel)
      exact absurd (none ▸ mem) List.not_mem_nil
    | @recording r u mem found =>
      have nobody : ∀ r ∈ late.before.runs, r.found = none := by decide +kernel
      exact nomatch found.symm.trans (nobody r mem)

open Removed in
/-- So it is not true that users who were removed never come back: Ann, who was removed before
    the service started, is listed and started again. -/
theorem restarted_after_removal : ¬∀ (h₁ h₂ : History) (m : Moment) (s : System) (id : UserId),
    IsLasting (h₁ ++ m :: h₂) s → m.Removes id → (∀ x ∈ h₂, ¬x.before.roster.Knows id) →
    id ∉ s.backgroundUsers ∧ ∀ call, id ∉ (s.startRegistered call).2 := by
  intro gone
  have away : ∀ x ∈ (played [] early.after ((startUp 2).map .act)).1,
      ¬x.before.roster.Knows 10 := by decide +kernel
  have started : (10 : UserId) ∈
      ((played [] early.after ((startUp 2).map .act)).2.startRegistered 0).2 := by decide +kernel
  exact (gone _ _ _ _ 10 isLasting_early removes_early away).2 0 started

open Removed in
/-- Ann unlocks and is removed at the same time. The registry forgets her, and then records her, as
    it has looked her up before. -/
theorem recorded_after_removal : between.Removes 10 ∧ between.Overlooks 10 ∧
    (10 : UserId) ∉ between.after.backgroundUsers ∧
    (10 : UserId) ∈ (between.after.step (.record 0)).backgroundUsers := by
  have looked : ∃ r ∈ between.before.runs, r.found = some ann := by decide +kernel
  obtain ⟨r, mem, found⟩ := looked
  refine ⟨⟨⟨{}, rfl⟩, _, ?_, List.getLast?_concat⟩, .recording mem found rfl, ?_, ?_⟩
  · decide +kernel
  · decide +kernel
  · decide +kernel

end HeadUnit.Service
