import HeadUnit.Proofs.Service.Calm
import HeadUnit.Proofs.Service.Persistence
import HeadUnit.Proofs.Service.Unlocking

/-!
# Power cycles

Whoever may not run any more under the bound leaves the registry when the service starts, but
is still persisted until the next change. This does no harm as long as the registry is *level*
with what is persisted (`Level`): it is what a start would make of it. The changes keep it so
(`IsLasting.level`) but for two. When the bound is raised, there is room again for users who
have left, but only the next start lets them in (`Moment.Widens`). And a start reads what is
persisted before it takes it over, so that what changes in between is lost (`Moment.Overtakes`).

The main statement, `survives_or_widened`, says that there is no other reason for which the
users in the registry change while the service is turned off and on again. For the first reason
they do (`restored_after_widening`).
-/

namespace HeadUnit

namespace Registry

/-- More entries are allowed only under a higher bound. -/
theorem lt_of_limit_lt {r : Registry} {n : Int64} (accepted : 2 ≤ n)
    (more : r.limit < ({ r with maxRunning := n } : Registry).limit) : r.maxRunning < n := by
  have two : 2 ≤ n.toInt := Int64.le_iff_toInt_le.1 accepted
  have sane : n ≠ Int64.minValue := by
    rintro rfl
    exact absurd two (by decide)
  rw [Int64.lt_iff_toInt_lt]
  by_cases least : r.maxRunning = Int64.minValue
  · have low : r.maxRunning.toInt = -2 ^ 63 := by
      rw [least]
      rfl
    omega
  · have old := r.limit_eq least
    have new := ({ r with maxRunning := n } : Registry).limit_eq sane
    dsimp only at new
    omega

end Registry

namespace Service

/-! ## Registries that are level with what is persisted -/

/-- The registry is what is left of the persisted one after some entries have left: as many as
    the bound does not allow, or more. -/
structure Level (more : Prop) (p : Pair) : Prop where
  left : p.registry.Alike (Registry.shed^[p.persisted.entries.length - p.registry.entries.length]
    p.persisted)
  fits : p.registry.entries.length ≤ p.registry.limit
  full : p.registry.entries.length = min p.persisted.entries.length p.registry.limit ∨ more

namespace Level

variable {more : Prop} {p p' : Pair}

theorem mono {more' : Prop} (level : Level more p) (also : more → more') : Level more' p :=
  ⟨level.left, level.fits, level.full.imp_right also⟩

/-- What was persisted just now is level. -/
theorem of_persisted {r : Registry} (fits : r.entries.length ≤ r.limit) : Level more ⟨r, r⟩ := by
  refine ⟨?_, fits, .inl ?_⟩
  · dsimp only
    rw [Nat.sub_self]
    exact .refl r
  · exact (Nat.min_eq_left fits).symm

/-- An eviction leaves as many entries as fit. -/
theorem of_evicted {r p : Registry} (distinct : r.users.Nodup) (alike : p.Alike r) :
    Level more ⟨r.evict.registry, p⟩ := by
  have length := Registry.length_evict distinct
  have limit := (Registry.shrinks_evict distinct).limit
  refine ⟨?_, ?_, .inl ?_⟩
  · dsimp only
    have many : p.entries.length - r.evict.registry.entries.length =
        r.entries.length - r.limit := by
      rw [length, alike.entries]
      omega
    rw [many, Registry.evict_eq_shed distinct]
    exact (alike.iterate _).symm
  · dsimp only
    rw [length, limit]
    exact Nat.min_le_right ..
  · dsimp only
    rw [length, limit, alike.entries]

/-- No entry comes back by itself. -/
theorem length_le (level : Level more p) (distinct : p.persisted.users.Nodup) :
    p.registry.entries.length ≤ p.persisted.entries.length := by
  rw [level.left.entries, Registry.length_iterate distinct]
  exact Nat.sub_le ..

theorem step (level : Level more p) (step : Pair.Step p p') : Level more p' := by
  cases step with
  | @same r alike bound =>
    have limit : r.limit = p.registry.limit := Registry.limit_congr bound
    obtain ⟨left, fits, full⟩ := level
    rw [alike.entries] at left fits full
    rw [← limit] at fits full
    exact ⟨alike.symm.trans left, fits, full⟩
  | persisted bound fits => exact .of_persisted (fits level.fits)

theorem steps (level : Level more p) (steps : Pair.Steps p p') : Level more p' := by
  induction steps with
  | refl => exact level
  | tail _ step ih => exact ih.step step

/-- The bound changes. Entries that have left do not come back if it is higher. -/
theorem bounded {r p : Registry} (level : Level more ⟨r, p⟩) (distinct : r.users.Nodup)
    (distinct' : p.users.Nodup) {n : Int64} (accepted : 2 ≤ n) :
    Level (more ∨ r.maxRunning < n ∧ r.entries.length < p.entries.length)
      ⟨(r.setMax n).registry, if (r.setMax n).persist then (r.setMax n).registry else p⟩ := by
  rcases Registry.works_setMax distinct n with ⟨_, same⟩ | bounded
  · rw [same]
    exact level.mono .inl
  · have length : (r.setMax n).registry.entries.length =
        min r.entries.length ({ r with maxRunning := n } : Registry).limit := by
      rw [bounded.evicted]
      exact Registry.length_evict (r := { r with maxRunning := n }) distinct
    have limit := (bounded.shrinks distinct).limit
    have fits : (r.setMax n).registry.entries.length ≤ (r.setMax n).registry.limit := by
      rw [length, limit]
      exact Nat.min_le_right ..
    cases persist : (r.setMax n).persist with
    | true => exact .of_persisted fits
    | false =>
      -- Nobody has left, so the new bound allows for all of them.
      have stay : (r.setMax n).registry.entries.length = r.entries.length := by
        have silent := bounded.persisted.symm.trans persist
        simpa using silent
      have room : r.entries.length ≤ ({ r with maxRunning := n } : Registry).limit := by
        rw [← stay, length]
        exact Nat.min_le_right ..
      have alike : r.Alike (r.setMax n).registry := by
        rw [bounded.evicted, Registry.evict_eq_shed (r := { r with maxRunning := n }) distinct,
          Nat.sub_eq_zero_of_le room]
        exact ⟨rfl, rfl, rfl⟩
      have fewer : r.entries.length ≤ p.entries.length := level.length_le distinct'
      refine ⟨?_, fits, ?_⟩
      · dsimp only
        rw [if_neg Bool.false_ne_true, stay]
        exact alike.symm.trans level.left
      · dsimp only
        rw [if_neg Bool.false_ne_true, stay, limit]
        rcases level.full with full | more
        · dsimp only at full
          by_cases all : r.entries.length = p.entries.length
          · refine .inl ?_
            omega
          · -- Some have left before, so the old bound is used up: only a higher one has room.
            by_cases wider : r.limit < ({ r with maxRunning := n } : Registry).limit
            · refine .inr (.inr ⟨Registry.lt_of_limit_lt accepted wider, ?_⟩)
              omega
            · refine .inl ?_
              omega
        · exact .inr (.inl more)

/-- Restoring what is persisted gives the registry that is level with it. -/
theorem restored {r p : Registry} (level : Level more ⟨r, p⟩) (distinct : p.users.Nodup) :
    (∀ st, p.Saves st → ∀ fresh : Registry, fresh.maxRunning = r.maxRunning →
      (fresh.restore st).registry.Alike r) ∨ more ∧ r.entries.length < p.entries.length := by
  have fewer : r.entries.length ≤ p.entries.length := level.length_le distinct
  obtain ⟨left, fits, full⟩ := level
  dsimp only at left fits full
  -- A start lets as many leave as the bound demands: are these the ones that have left?
  by_cases same : p.entries.length - r.entries.length = p.entries.length - r.limit
  · refine .inl fun st saves fresh bound => ?_
    have alike := saves.alike fresh
    have limit : (fresh.takeOver st).limit = r.limit := Registry.limit_congr bound
    rw [(fresh.restore_eq st).1, Registry.evict_eq_shed (alike.users ▸ distinct), limit,
      ← alike.entries, ← same]
    exact (alike.symm.iterate _).trans left.symm
  · refine .inr ⟨full.resolve_left ?_, ?_⟩
    · omega
    · omega

end Level

/-! ## Runs -/

/-- The bound is raised while the registry has fewer entries than are persisted: some have left
    without anybody having persisted it. -/
structure Moment.Widens (m : Moment) : Prop where
  raises : ∃ c n, m.move = .act (.goOn c.id) ∧ c ∈ m.before.calls ∧ c.work = .bounding n ∧
    m.before.registry.maxRunning < n
  fewer : ∃ st, m.before.repository.load = .ok st ∧
    m.before.registry.entries.length < st.background.length

/-- Some start has restored a state. -/
def System.Restored (s : System) : Prop := s.runs ≠ [] ∨ s.Has .building

/-- The registry takes over what is persisted. -/
theorem Level.of_restored {more : Prop} {r p : Registry} (distinct : p.users.Nodup) {st : Snapshot}
    (saves : p.Saves st) : Level more ⟨(r.restore st).registry, p⟩ := by
  have alike := saves.alike r
  rw [(r.restore_eq st).1]
  exact .of_evicted (alike.users ▸ distinct) alike

/-- The registry `p` is what is persisted, and once a start has restored a state, the registry of the
    service is level with it. -/
structure System.Levels (s : System) (more : Prop) (p : Registry) : Prop where
  keeps : s.Keeps p
  level : s.Restored → Level more ⟨s.registry, p⟩

/-- A start restores the state that it holds. -/
theorem System.books_restoring {s : System} {id : Nat} {st : Snapshot}
    (found : s.call? id = some ⟨id, none, .restoring st⟩) :
    (Moment.mk s (.act (.goOn id))).after.books =
      { s.books with registry := (s.registry.restore st).registry } := by
  have moved : s.move (.act (.goOn id)) = s.restoreState id st := by
    simp [System.move, System.step, System.goOn?, found]
  exact (congrArg System.books moved).trans
    ((books_restoreState s id st).trans (books_change_restore s.books st))

/-- A move keeps the registry level with what is persisted, unless it raises the bound. -/
theorem System.Levels.move {h : History} {s : System} {m : Move} {p : Registry}
    (levels : s.Levels (∃ x ∈ h, x.Widens) p) (lasting : IsLasting h s) (proper : m.Proper)
    (own : ∀ r, m ≠ .repository r) : ∃ p', Kept (Moment.mk s m).after.books p' ∧
      ((Moment.mk s m).after.Restored →
        Level (∃ x ∈ h ++ [⟨s, m⟩], x.Widens) ⟨(Moment.mk s m).after.registry, p'⟩) := by
  have run := lasting.isRun
  obtain ⟨keeps, level⟩ := levels
  have more : (∃ m ∈ h, m.Widens) → ∃ x ∈ h ++ [⟨s, m⟩], x.Widens := by
    rintro ⟨x, mem, widens⟩
    exact ⟨x, List.mem_append_left _ mem, widens⟩
  -- A start that restores makes the registry level, whatever it was before.
  by_cases restoring : ∃ id st, m = .act (.goOn id) ∧
      s.call? id = some ⟨id, none, .restoring st⟩
  · obtain ⟨id, st, rfl, found⟩ := restoring
    have saves := keeps.held st ⟨_, List.mem_of_find?_eq_some found, rfl⟩
    have books := s.books_restoring found
    have registry : (Moment.mk s (.act (.goOn id))).after.registry =
        (s.registry.restore st).registry := congrArg Books.registry books
    refine ⟨p, books ▸ keeps.kept.restore saves, fun _ => ?_⟩
    rw [registry]
    exact .of_restored keeps.kept.persisted saves
  · obtain ⟨p', kept', upkeep⟩ := keeps.kept.deal keeps.held own (Moment.mk s m).deal
    -- Only a start makes a desk, so a state was restored before.
    have before (same : (Moment.mk s m).after.books.desks.length = s.books.desks.length)
        (restored : (Moment.mk s m).after.Restored) : s.Restored := by
      rcases restored with some | building
      · refine .inl fun none => some ?_
        simpa [System.books, none] using same
      · exact .inr ((run.building_back proper building).resolve_right restoring)
    refine ⟨p', kept', fun restored => ?_⟩
    cases upkeep with
    | steps steps desks => exact (Level.mono (level (before desks restored)) more).steps steps
    | @bounded c n move mem work registry persisted desks =>
      have bounded := (level (before desks restored)).bounded keeps.kept.registry
        keeps.kept.persisted (run.enough mem work)
      rw [← persisted, ← show (Moment.mk s m).after.registry = _ from registry] at bounded
      refine bounded.mono fun either => either.elim more ?_
      rintro ⟨higher, fewer⟩
      obtain ⟨st, found⟩ := lasting.works.loads
      have saves : p.Saves st := keeps.kept.repository st found
      exact ⟨⟨s, m⟩, List.mem_append_right _ List.mem_cons_self, ⟨c, n, move, mem, work, higher⟩,
        st, found, saves.background ▸ fewer⟩
    | @restored st holds registry persisted =>
      rw [persisted, show (Moment.mk s m).after.registry = _ from registry]
      exact .of_restored keeps.kept.persisted (keeps.held st holds)
    | built building registry persisted =>
      rw [persisted, show (Moment.mk s m).after.registry = _ from registry]
      exact (level (.inr building)).mono more

/-- The registry is level with what is persisted, unless a start was overtaken. -/
theorem IsLasting.level {h : History} {s : System} (lasting : IsLasting h s) :
    (∃ p, s.Levels (∃ m ∈ h, m.Widens) p) ∨ ∃ m ∈ h, m.Overtakes := by
  induction lasting with
  | @new c s w st made found distinct saves =>
    obtain ⟨p, kept⟩ := IsLasting.kept_new made found distinct saves
    rw [eq_fresh_of_new made] at kept ⊢
    refine .inl ⟨p, ⟨kept, fun st ⟨c, mem, _⟩ => absurd mem List.not_mem_nil⟩, ?_⟩
    rintro (some | ⟨c, mem, -⟩)
    · exact absurd rfl some
    · exact absurd mem List.not_mem_nil
  | @step h s m lasting proper own works' ih =>
    rcases ih with ⟨p, levels⟩ | ⟨x, mem, overtakes⟩
    · obtain ⟨p', kept', level'⟩ := levels.move lasting proper own
      rcases levels.keeps.step lasting.isRun proper lasting.works works' kept' with
        keeps' | overtakes
      · exact .inl ⟨p', keeps', level'⟩
      · exact .inr ⟨_, List.mem_append_right _ List.mem_cons_self, overtakes⟩
    · exact .inr ⟨x, List.mem_append_left _ mem, overtakes⟩

/-! ## Off and on again -/

/-- A system that expects nothing has the entries of the registry `r`, under its bound. What is
    persisted, and what a start holds, is the state of `p`. -/
structure System.Carries (s : System) (r p : Registry) : Prop where
  calm : s.Calm
  unbound : s.scene.bounding = []
  registry : s.registry.Alike r
  bound : s.registry.maxRunning = r.maxRunning
  keeps : s.repository.Keeps p
  loads : ∃ st, s.repository.load = .ok st
  held : ∀ st, s.Holds st → p.Saves st

section Cycle

variable {r p : Registry}

/-- Such a registry is carried on by what turns the service on and off, if it is what a start makes
    of the state. -/
theorem System.Carries.power {s : System} {h : History} (carries : s.Carries r p) (run : IsRun h s)
    (distinct : p.users.Nodup) (level : ∀ st, p.Saves st → ∀ fresh : Registry,
      fresh.maxRunning = r.maxRunning → (fresh.restore st).registry.Alike r)
    {m : Move} (proper : m.Proper) (power : m.IsPower) : (Moment.mk s m).after.Carries r p := by
  obtain ⟨calm, resumes⟩ := carries.calm.power carries.unbound power
  have repository : (Moment.mk s m).after.repository = s.repository := by
    cases resumes with
    | same _ repository | restored _ _ repository => exact repository
  have registry : (Moment.mk s m).after.registry.Alike r ∧
      (Moment.mk s m).after.registry.maxRunning = r.maxRunning := by
    cases resumes with
    | same registry =>
      rw [show (Moment.mk s m).after.registry = _ from registry]
      exact ⟨carries.registry, carries.bound⟩
    | @restored st holds registry =>
      have saves := carries.held st holds
      have distinct' : (s.registry.takeOver st).users.Nodup := (saves.alike _).users ▸ distinct
      rw [show (Moment.mk s m).after.registry = _ from registry]
      refine ⟨level st saves s.registry carries.bound, ?_⟩
      rw [(s.registry.restore_eq st).1]
      exact (Registry.shrinks_evict distinct').maxRunning.trans carries.bound
  have unbound : (Moment.mk s m).after.scene.bounding = [] := by
    cases (run.happening proper).rebounds run.sink run.orderly with
    | same same => exact same.trans carries.unbound
    | asked move =>
      rw [move] at power
      cases power
    | taken move found work after =>
      rw [carries.unbound] at after
      exact after
  obtain ⟨st, found⟩ := carries.loads
  refine ⟨calm.of_runs rfl, unbound, registry.1, registry.2, repository ▸ carries.keeps,
    ⟨st, repository ▸ found⟩, fun st' holds => ?_⟩
  rcases run.holds_back proper holds with before | read | ⟨-, f, lost⟩
  · exact carries.held st' before
  · exact carries.keeps st' (repository ▸ read)
  · rw [repository] at lost
    exact nomatch lost.symm.trans found

/-- So it is by a power cycle, in whatever order its moves are made. -/
theorem System.Carries.played {s : System} {h : History} (carries : s.Carries r p)
    (run : IsRun h s) (distinct : p.users.Nodup) (level : ∀ st, p.Saves st → ∀ fresh : Registry,
      fresh.maxRunning = r.maxRunning → (fresh.restore st).registry.Alike r)
    {ms : List Move} (power : ∀ m ∈ ms, m.IsPower) : (played h s ms).2.Carries r p := by
  induction ms generalizing s h with
  | nil => exact carries
  | cons m ms ih =>
    have now := power m List.mem_cons_self
    have proper := Move.proper_of_isPower now
    exact ih (carries.power run distinct level proper now) (run.step proper)
      fun x mem => power x (List.mem_cons_of_mem m mem)

end Cycle

/-- Once the service has started, restoring what is persisted gives the registry as it is, so
    that the service can be turned off and on again: or else the bound was raised after entries
    had left that are still persisted, or what was persisted changed after a start had read it and
    before it had restored it. -/
theorem survives_or_widened {h : History} {s : System} (lasting : IsLasting h s)
    (started : s.runs ≠ []) : ∃ st, s.repository.load = .ok st ∧
      (Registry.Alike (({ maxRunning := s.registry.maxRunning } : Registry).restore st).registry
            s.registry ∧
          (s.Settled → ∀ ms : List Move, (∀ m ∈ ms, m.IsPower) →
            (played h s ms).2.backgroundUsers = s.backgroundUsers) ∨
        (∃ m ∈ h, m.Widens) ∧ s.registry.entries.length < st.background.length ∨
        ∃ m ∈ h, m.Overtakes) := by
  have works := lasting.works
  obtain ⟨st, found⟩ := works.loads
  refine ⟨st, found, ?_⟩
  -- What is persisted is level with the registry, so restoring it gives the registry back.
  rcases lasting.level with ⟨p, ⟨kept, held⟩, level⟩ | overtaken
  · have saves : p.Saves st := kept.repository st found
    rw [saves.background]
    rcases (level (.inl started)).restored kept.persisted with restored | widened
    · refine .inl ⟨restored st saves _ rfl, fun settled ms power => ?_⟩
      have run := lasting.isRun
      have carries : s.Carries s.registry p :=
        ⟨run.calm settled, settled.unbound, .refl _, rfl, kept.repository, works.loads, held⟩
      exact (carries.played run kept.persisted restored power).registry.users
    · exact .inr (.inl widened)
  · exact .inr (.inr overtaken)

namespace Crowded

/-- Three users are persisted, of whom only two are allowed to run now. -/
def saved : Snapshot := ⟨[⟨10, 1⟩, ⟨11, 2⟩, ⟨12, 3⟩], UserId.null, 3, UserId.null, Stamp.unset⟩

def world : Surroundings := { repository := { medium := .memory saved 0 } }

theorem isPower (call : Nat) : ∀ m ∈ (cycle call).map Move.act, m.IsPower := by
  simp [cycle, startUp, Move.IsPower]

/-- The service has started, and entries have left. -/
def started : List Action := startUp 1 ++ [.busStep 0, .busStep 0]

/-- Then the bound is raised again. -/
def widened : List Action := started ++ [.perform {} (.setMaxRunning 4), .goOn 2]

theorem isLasting_started : IsLasting (acted world started).1 (acted world started).2 :=
  isLasting_acted rfl (by decide) rfl (by decide) (by decide +kernel)

theorem isLasting_widened : IsLasting (acted world widened).1 (acted world widened).2 :=
  isLasting_acted rfl (by decide) rfl (by decide) (by decide +kernel)

theorem settled_started : (acted world started).2.Settled := by decide +kernel

/-- Nothing is left to do. -/
theorem settled_widened : (acted world widened).2.Settled ∧
    ∀ r ∈ (acted world widened).2.runs, r.Settled := by decide +kernel

end Crowded

open Crowded in
/-- Two of three users are left, who survive a power cycle. -/
theorem survives_of_sample : IsLasting (acted world started).1 (acted world started).2 ∧
    (acted world started).2.runs ≠ [] ∧ (acted world started).2.backgroundUsers = [11, 12] ∧
    (played (acted world started).1 (acted world started).2
      ((cycle 2).map .act)).2.backgroundUsers = [11, 12] := by
  have some : (acted world started).2.runs ≠ [] := by
    rw [← List.length_pos_iff]
    decide +kernel
  have left : (acted world started).2.backgroundUsers = [11, 12] := by decide +kernel
  refine ⟨isLasting_started, some, left, ?_⟩
  obtain ⟨st, _, ⟨_, unchanged⟩ | ⟨⟨m, mem, widens⟩, _⟩ | ⟨m, mem, overtakes⟩⟩ :=
    survives_or_widened isLasting_started some
  · exact (unchanged settled_started _ (isPower 2)).trans left
  · -- Nobody has changed the bound.
    have unbound : ∀ m ∈ (acted world started).1, m.before.scene.bounding = [] := by
      decide +kernel
    obtain ⟨c, n, _, binds, work, _⟩ := widens.raises
    have binding : c ∈ m.before.scene.bounding := List.mem_filter.2 ⟨binds, by rw [work]; rfl⟩
    exact absurd (unbound m mem ▸ binding) List.not_mem_nil
  · -- Nothing was persisted.
    have same : ∀ m ∈ (acted world started).1,
        m.before.repository.load.toOption = m.after.repository.load.toOption := by decide +kernel
    obtain ⟨a, b, found, found', differ⟩ := overtakes.changes
    have equal := same m mem
    rw [found, found'] at equal
    obtain rfl : a = b := Option.some.inj equal
    exact absurd ⟨rfl, rfl, rfl⟩ differ

open Crowded in
/-- So it is not true that the registry survives every power cycle of a service that runs and has
    nothing left to do: after the bound was raised, an entry that had left comes back. -/
theorem restored_after_widening : ¬∀ (h : History) (s : System), IsLasting h s →
    s.manager.phase = .running → s.Settled → (∀ r ∈ s.runs, r.Settled) →
    ∀ ms : List Move, (∀ m ∈ ms, m.IsPower) →
      (played h s ms).2.backgroundUsers = s.backgroundUsers := by
  intro survives
  have running : (acted world widened).2.manager.phase = .running := by decide +kernel
  have unchanged := survives _ _ isLasting_widened running settled_widened.1 settled_widened.2 _
    (isPower 3)
  have before : (acted world widened).2.backgroundUsers = [11, 12] := by decide +kernel
  have after : (played (acted world widened).1 (acted world widened).2
      ((cycle 3).map .act)).2.backgroundUsers = [10, 11, 12] := by decide +kernel
  rw [before, after] at unchanged
  exact absurd unchanged (by decide)

end Service

end HeadUnit
