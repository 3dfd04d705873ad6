import HeadUnit.Proofs.Registry.Invariant
import HeadUnit.Proofs.Service.Deals
import HeadUnit.Proofs.Service.Pending
import HeadUnit.Proofs.State.RoundTrip

/-!
# What is persisted of the registry

The registry lives twice: in memory, and in the state that the repository keeps. A *pair* of
registries (`Pair`) is what the service has and what it would find. As long as the repository
works, the two change together only in few ways (`Upkeep`):

* a change is persisted, after which they are the same, or it does not touch the entries;
* the bound changes, which is persisted only if entries leave;
* a start takes over the state that it has read, within the bound.

`Kept` is what ties the pair to the books of the system: cache and repository both hold the
persisted part. Every move keeps it (`Kept.deal`) as long as a start takes over what is persisted
(`System.Keeps`). That is so unless what is persisted has changed in between, after the start has
read it (`System.Keeps.step`).
-/

namespace HeadUnit

/-! ## Repositories that work -/

namespace Repository

/-- A state can be saved, as long as whoever saves it is there. -/
def CanSave (r : Repository) : Prop := ∀ st now, ∃ r', r.save none st now = .ok r'

/-- Loads and saves succeed. -/
structure Works (r : Repository) : Prop where
  loads : ∃ st, r.load = .ok st
  saves : r.CanSave

/-- Memory, with no faults put in place. -/
def isSound : Repository → Bool
  | ⟨.memory _ _, none, none⟩ => true
  | _ => false

theorem works_of_isSound {r : Repository} (sound : r.isSound = true) : r.Works := by
  obtain ⟨medium, loadFault, saveFault⟩ := r
  cases medium with
  | file d => cases sound
  | memory st n =>
    cases loadFault with
    | some f => cases sound
    | none =>
      cases saveFault with
      | some f => cases sound
      | none => exact ⟨⟨st, rfl⟩, fun st now => ⟨_, rfl⟩⟩

/-- What was saved to once can be saved to again. -/
theorem canSave_of_saved {r r' : Repository} {gone : Option Fault} {s : Snapshot} {now : Int}
    (saved : r.save gone s now = .ok r') : r'.CanSave := by
  intro st now'
  obtain ⟨medium, loadFault, saveFault⟩ := r
  cases saveFault with
  | some f => cases saved
  | none =>
    cases medium with
    | memory old n =>
      cases saved
      exact ⟨_, rfl⟩
    | file d =>
      cases gone with
      | some f => cases saved
      | none => cases d <;> cases saved <;> exact ⟨_, rfl⟩

/-- What can be loaded is the state of the registry `p`. -/
def Keeps (r : Repository) (p : Registry) : Prop := ∀ st, r.load = .ok st → p.Saves st

theorem Keeps.of_saved {r r' : Repository} {p : Registry} {gone : Option Fault} {s : Snapshot}
    {now : Int} (saves : p.Saves s) (saved : r.save gone s now = .ok r') : r'.Keeps p := by
  intro st loaded
  obtain ⟨t, rfl⟩ := loaded_of_saved saved loaded
  exact ⟨saves.background, saves.counter, saves.promoted⟩

end Repository

namespace Registry

/-- The registry with the entries of a state, which may be too many. -/
def takeOver (r : Registry) (st : Snapshot) : Registry :=
  { r with entries := st.background, counter := st.counter, promoted := st.promoted }

/-- To restore a state is to take it over and to evict, whether that breaks or not. -/
theorem restore_eq (r : Registry) (st : Snapshot) :
    (r.restore st).registry = (r.takeOver st).evict.registry ∧
      (r.restore st).broken = (r.takeOver st).evict.broken := by
  unfold restore
  dsimp only
  split
  · next broken => exact ⟨rfl, broken.symm⟩
  · next intact => exact ⟨rfl, (Bool.eq_false_iff.2 intact).symm⟩

/-- Whoever takes over the state of `p` has its entries. -/
theorem Saves.alike {p : Registry} {st : Snapshot} (saves : p.Saves st) (r : Registry) :
    Alike p (r.takeOver st) :=
  ⟨saves.background.symm, saves.counter.symm, saves.promoted.symm⟩

end Registry

namespace Service

/-! ## Registry and persisted registry -/

/-- The registry, and the registry that is persisted. -/
structure Pair where
  registry : Registry
  persisted : Registry

/-- A change of the pair that no change of the bound and no start is. -/
inductive Pair.Step : Pair → Pair → Prop
  /-- The entries stay as they are. -/
  | same {p : Pair} {r : Registry} (alike : p.registry.Alike r)
      (bound : r.maxRunning = p.registry.maxRunning) : Step p ⟨r, p.persisted⟩
  /-- A change is persisted. -/
  | persisted {p : Pair} {r : Registry} (bound : r.maxRunning = p.registry.maxRunning)
      (fits : p.registry.entries.length ≤ p.registry.limit → r.entries.length ≤ r.limit) :
      Step p ⟨r, r⟩

abbrev Pair.Steps : Pair → Pair → Prop := Relation.ReflTransGen Pair.Step

/-! ## What ties them to the books -/

/-- The registry `p` is what is persisted. -/
structure Kept (b : Books) (p : Registry) : Prop where
  repository : b.repository.Keeps p
  cache : b.store.loaded = true → p.Saves b.store.cache
  persists : b.persists = true
  saves : b.repository.CanSave
  registry : b.registry.users.Nodup
  persisted : p.users.Nodup
  /-- There is a state to change. -/
  readable : ∃ st, (if b.store.loaded then .ok b.store.cache else b.repository.load) = .ok st

namespace Kept

variable {b : Books} {p : Registry}

/-- The state that an update would change. -/
theorem ready (kept : Kept b p) : ∃ st,
    (if b.store.loaded then .ok b.store.cache else b.repository.load) = .ok st ∧ p.Saves st := by
  obtain ⟨st, found⟩ := kept.readable
  refine ⟨st, found, ?_⟩
  split at found
  · next on =>
    cases found
    exact kept.cache on
  · exact kept.repository st found

/-- Whatever the state that is read first, an update that does not touch the registry keeps
    what is persisted. -/
theorem update (kept : Kept b p) (gone : Option Fault) {change : Snapshot → Snapshot}
    (same : ∀ st, p.Saves st → p.Saves (change st)) : Kept (b.update gone change) p := by
  obtain ⟨st, found, saves⟩ := kept.ready
  have saved := same st saves
  unfold Books.update Store.update
  rw [found]
  dsimp only
  split
  · next r' done =>
    exact { kept with
      repository := .of_saved saved done, cache := fun _ => saved
      saves := Repository.canSave_of_saved done, readable := ⟨_, rfl⟩ }
  · exact { kept with cache := fun _ => saved, readable := ⟨_, rfl⟩ }

/-- The registry is persisted as it is. -/
theorem persist (kept : Kept b p) : Kept b.persist b.registry := by
  obtain ⟨st, found, -⟩ := kept.ready
  have saved : b.registry.Saves (Books.recorded b.registry st) := ⟨rfl, rfl, rfl⟩
  obtain ⟨r', done⟩ := kept.saves (Books.recorded b.registry st) b.now
  unfold Books.persist Books.update Store.update
  rw [if_pos kept.persists, found]
  dsimp only
  rw [done]
  exact { kept with
    repository := .of_saved saved done, cache := fun _ => saved
    saves := Repository.canSave_of_saved done, persisted := kept.registry, readable := ⟨_, rfl⟩ }

/-- The registry changes, and the change is persisted or not. -/
theorem change (kept : Kept b p) {c : Registry.Change} (distinct : c.registry.users.Nodup) :
    Kept (b.change c) (if c.persist then c.registry else p) := by
  have changed : Kept { b with registry := c.registry } p := { kept with registry := distinct }
  unfold Books.change
  cases c.persist with
  | false => exact changed
  | true => exact changed.persist

/-- What is persisted is taken over. -/
theorem restore (kept : Kept b p) {st : Snapshot} (saves : p.Saves st) :
    Kept { b with registry := (b.registry.restore st).registry } p := by
  have distinct : (b.registry.takeOver st).users.Nodup :=
    (saves.alike b.registry).users ▸ kept.persisted
  refine { kept with registry := ?_ }
  dsimp only
  rw [(b.registry.restore_eq st).1]
  exact (Registry.shrinks_evict distinct).users.nodup distinct

/-- A user is removed, and the registry forgets it. -/
theorem forget (kept : Kept b p) (id : UserId) (roster : Roster) :
    Kept (Books.change { b with roster := roster } (b.registry.forget id).1)
      (if (b.registry.forget id).1.persist then (b.registry.forget id).1.registry else p) := by
  have edited : Kept { b with roster := roster } p := { kept with }
  exact edited.change ((b.registry.shrinks_forget id).users.nodup kept.registry)

end Kept

/-! ## Entries that no call makes -/

/-- A change of the registry is a step of the pair. -/
theorem step_of_works {r p : Registry} {who : UserId → Prop} {c : Registry.Change}
    (works : r.Works who c) (distinct : r.users.Nodup) :
    Pair.Step ⟨r, p⟩ ⟨c.registry, if c.persist then c.registry else p⟩ := by
  cases works.outcome with
  | same alike bound silent =>
    rw [silent]
    exact .same alike bound
  | @entered id r' own other enters evicted persisted =>
    have shrinks := Registry.shrinks_evict (enters.distinct distinct)
    have length := Registry.length_evict (enters.distinct distinct)
    rw [if_pos persisted]
    -- After an eviction the entries fit, whether they did before or not.
    rw [← evicted] at shrinks length
    refine .persisted (shrinks.maxRunning.trans enters.maxRunning) fun _ => ?_
    rw [length, shrinks.limit]
    exact Nat.min_le_right ..
  | left shrinks persisted =>
    rw [if_pos persisted]
    refine .persisted shrinks.maxRunning fun fits => ?_
    rw [shrinks.limit]
    exact Nat.le_trans shrinks.entries.length_le fits

section Steps

variable {b b' : Books} {p : Registry}

theorem Kept.step (kept : Kept b p) (step : Books.Step b b') :
    ∃ p', Kept b' p' ∧ Pair.Step ⟨b.registry, p⟩ ⟨b'.registry, p'⟩ := by
  cases step with
  | recorded i u found =>
    have works := Registry.works_add kept.registry u b.sessions.current
    have changed := kept.change (works.outcome.distinct kept.registry)
    have step : Pair.Step ⟨b.registry, p⟩ _ := step_of_works works kept.registry
    refine ⟨_, { changed with }, ?_⟩
    rw [show ((b.change _).settle i).registry = _ from Books.registry_change ..]
    exact step
  | found | desk | setting => exact ⟨p, { kept with }, .same (.refl _) rfl⟩

theorem Kept.steps (kept : Kept b p) (steps : Books.Steps b b') :
    ∃ p', Kept b' p' ∧ Pair.Steps ⟨b.registry, p⟩ ⟨b'.registry, p'⟩ := by
  induction steps with
  | refl => exact ⟨p, kept, .refl⟩
  | tail _ step ih =>
    obtain ⟨p₁, kept₁, steps₁⟩ := ih
    obtain ⟨p₂, kept₂, step₂⟩ := kept₁.step step
    exact ⟨p₂, kept₂, steps₁.tail step₂⟩

end Steps

/-! ## Moves -/

/-- What a move of the system `s`, which has persisted `p`, does about the registry. -/
inductive Upkeep (s : System) (m : Move) (p : Registry) (b : Books) (p' : Registry) : Prop
  | steps (steps : Pair.Steps ⟨s.registry, p⟩ ⟨b.registry, p'⟩)
      (desks : b.desks.length = s.books.desks.length)
  /-- The bound changes. -/
  | bounded {c : Call} {n : Int64} (move : m = .act (.goOn c.id)) (mem : c ∈ s.calls)
      (work : c.work = .bounding n) (registry : b.registry = (s.registry.setMax n).registry)
      (persisted : p' =
        if (s.registry.setMax n).persist then (s.registry.setMax n).registry else p)
      (desks : b.desks.length = s.books.desks.length)
  /-- A start takes over the state that it has read. -/
  | restored {st : Snapshot} (holds : s.Holds st)
      (registry : b.registry = (s.registry.restore st).registry) (persisted : p' = p)
  /-- A start makes a run. -/
  | built (building : s.Has .building) (registry : b.registry = s.registry) (persisted : p' = p)

/-- Every move keeps what is persisted, as long as no start holds a state from before it was. -/
theorem Kept.deal {s : System} {m : Move} {b : Books} {p : Registry} (kept : Kept s.books p)
    (held : ∀ st, s.Holds st → p.Saves st) (own : ∀ r, m ≠ .repository r) (deal : Deal s m b) :
    ∃ p', Kept b p' ∧ Upkeep s m p b p' := by
  -- Moves that do not touch the registry.
  have aside {b : Books} (kept' : Kept b p) (registry : b.registry = s.registry)
      (desks : b.desks.length = s.books.desks.length) : ∃ p', Kept b p' ∧ Upkeep s m p b p' :=
    ⟨p, kept', .steps (registry ▸ .refl) desks⟩
  cases deal with
  | behind steps =>
    obtain ⟨p', kept', steps'⟩ := kept.steps steps
    exact ⟨p', kept', .steps steps' (Books.Steps.length steps)⟩
  | asked | worked => exact aside { kept with } rfl (List.length_modify ..)
  | @committed i d c sessions b fault here doing foreground steps =>
    have switched : Kept { s.books with sessions := sessions } p := { kept with }
    have length := Books.Steps.length steps
    obtain ⟨p', kept', steps'⟩ := switched.steps steps
    exact ⟨p', { kept' with }, .steps steps' ((List.length_modify ..).trans length)⟩
  | @served registry sessions b alike bound foreground steps =>
    have served : Kept { s.books with registry := registry, sessions := sessions } p :=
      { kept with registry := alike.users ▸ kept.registry }
    have length := Books.Steps.length steps
    obtain ⟨p', kept', steps'⟩ := served.steps steps
    exact ⟨p', kept', .steps (.head (.same alike bound) steps') length⟩
  | elapsed | enrolled | withdrawn | edited => exact aside { kept with } rfl rfl
  | @removed ctx id roster move other gone =>
    -- Nobody enters.
    have works : s.registry.Works (fun _ => False) (s.registry.forget id).1 :=
      Registry.works_forget ..
    refine ⟨_, kept.forget id roster, .steps ?_ (by rw [Books.desks_change])⟩
    rw [Books.registry_change]
    exact .single (step_of_works works kept.registry)
  | @bounded c n move mem work =>
    have distinct : (s.registry.setMax n).registry.users.Nodup := by
      rcases Registry.works_setMax kept.registry n with ⟨_, same⟩ | bounded
      · rw [show s.registry.setMax n = _ from same]
        exact kept.registry
      · exact (bounded.shrinks kept.registry).users.nodup kept.registry
    exact ⟨_, kept.change distinct,
      .bounded move mem work (Books.registry_change ..) rfl (by rw [Books.desks_change])⟩
  | recorded gone id =>
    exact aside (kept.update gone fun st saves =>
      ⟨saves.background, saves.counter, saves.promoted⟩) rfl rfl
  | @cached c st mem work =>
    have saves := held st ⟨c, mem, by rw [work]; rfl⟩
    exact aside { kept with cache := fun _ => saves, readable := ⟨_, rfl⟩ } rfl rfl
  | @restored c st mem work =>
    have holds : s.Holds st := ⟨c, mem, by rw [work]; rfl⟩
    exact ⟨p, kept.restore (held st holds), .restored holds rfl rfl⟩
  | built mem work => exact ⟨p, { kept with }, .built ⟨_, mem, work⟩ rfl rfl⟩
  | @replaced r move => exact absurd move (own r)

/-! ## Runs over a repository that works -/

/-- A run over a repository that works and that nobody else touches. It begins with a state in
    which no user has two entries: with nothing, or with whatever such a run has left
    (`IsLasting.distinct`). -/
inductive IsLasting : History → System → Prop
  | new {c : Config} {s : System} {w : Surroundings} {st : Snapshot}
      (made : Service.new c true true = .ok s) (found : w.repository.load = .ok st)
      (distinct : (st.background.map (·.user)).Nodup) (saves : w.repository.CanSave) :
      IsLasting [] (s.within w)
  | step {h : History} {s : System} {m : Move} : IsLasting h s → m.Proper →
      (∀ r, m ≠ .repository r) → (Moment.mk s m).after.repository.Works →
      IsLasting (h ++ [⟨s, m⟩]) (Moment.mk s m).after

/-- Such a run is a run. -/
theorem IsLasting.isRun {h : History} {s : System} (lasting : IsLasting h s) : IsRun h s := by
  induction lasting with
  | new made => exact .new made _
  | step _ proper _ _ ih => exact ih.step proper

/-- What came before the last moment. -/
theorem IsLasting.last {h : History} {x : Moment} {s : System} (lasting : IsLasting (h ++ [x]) s) :
    IsLasting h x.before ∧ x.move.Proper ∧ (∀ r, x.move ≠ .repository r) ∧ s = x.after := by
  generalize same : h ++ [x] = h' at lasting
  cases lasting with
  | new => exact absurd same (List.append_ne_nil_of_right_ne_nil h (List.cons_ne_nil x []))
  | step before proper own works =>
    obtain ⟨rfl, one⟩ := List.append_inj' same rfl
    obtain rfl := List.head_eq_of_cons_eq one
    exact ⟨before, proper, own, rfl⟩

theorem IsLasting.works {h : History} {s : System} (lasting : IsLasting h s) :
    s.repository.Works := by
  cases lasting with
  | new made found distinct saves => exact ⟨⟨_, found⟩, saves⟩
  | step _ _ _ works => exact works

/-- A new service has what the repository keeps, and has not restored it. -/
theorem IsLasting.kept_new {c : Config} {s : System} {w : Surroundings} {st : Snapshot}
    (made : Service.new c true true = .ok s) (found : w.repository.load = .ok st)
    (distinct : (st.background.map (·.user)).Nodup) (saves : w.repository.CanSave) :
    ∃ p, Kept (s.within w).books p := by
  rw [eq_fresh_of_new made]
  refine ⟨({ maxRunning := c.maxRunning } : Registry).takeOver st, fun st' found' => ?_, nofun,
    rfl, saves, List.nodup_nil, distinct, st, found⟩
  cases found.symm.trans found'
  exact ⟨rfl, rfl, rfl⟩

/-! ### Starts that are overtaken -/

/-- What is persisted of the registry changes after a start has read it, and before the start has
    taken it over. -/
structure Moment.Overtakes (m : Moment) : Prop where
  holds : ∃ st, m.before.Holds st
  changes : ∃ a b, m.before.repository.load = .ok a ∧ m.after.repository.load = .ok b ∧
    ¬(a.background = b.background ∧ a.counter = b.counter ∧ a.promoted = b.promoted)

/-- The registry `p` is what is persisted, and what a start would take over. -/
structure System.Keeps (s : System) (p : Registry) : Prop where
  kept : Kept s.books p
  held : ∀ st, s.Holds st → p.Saves st

/-- A start that holds a state holds what is persisted, or is overtaken. -/
theorem System.Keeps.step {h : History} {s : System} {m : Move} {p p' : Registry}
    (keeps : s.Keeps p) (run : IsRun h s) (proper : m.Proper) (works : s.repository.Works)
    (works' : (Moment.mk s m).after.repository.Works)
    (kept' : Kept (Moment.mk s m).after.books p') :
    (Moment.mk s m).after.Keeps p' ∨ (Moment.mk s m).Overtakes := by
  by_cases overtakes : (Moment.mk s m).Overtakes
  · exact .inr overtakes
  · refine .inl ⟨kept', fun st holds => ?_⟩
    obtain ⟨b, found'⟩ := works'.loads
    rcases run.holds_back proper holds with before | read | ⟨-, f, lost⟩
    · -- The start has held the state before, so that nothing has changed since.
      obtain ⟨a, found⟩ := works.loads
      have old : p.Saves a := keeps.kept.repository a found
      have new : p'.Saves b := kept'.repository b found'
      have same : a.background = b.background ∧ a.counter = b.counter ∧ a.promoted = b.promoted :=
        not_not.1 fun differ => overtakes ⟨⟨st, before⟩, a, b, found, found', differ⟩
      have saves := keeps.held st before
      exact ⟨saves.background.trans (old.background.symm.trans (same.1.trans new.background)),
        saves.counter.trans (old.counter.symm.trans (same.2.1.trans new.counter)),
        saves.promoted.trans (old.promoted.symm.trans (same.2.2.trans new.promoted))⟩
    · exact kept'.repository st read
    · exact nomatch lost.symm.trans found'

/-- Actions make such a run longer, if they leave memory in place. -/
theorem IsLasting.play {h : History} {s : System} (lasting : IsLasting h s) {as : List Action}
    (offered : ∀ a ∈ as, (Move.act a).offered? = none)
    (sound : ∀ x ∈ (played h s (as.map .act)).1, x.after.repository.isSound = true) :
    IsLasting (played h s (as.map .act)).1 (played h s (as.map .act)).2 := by
  induction as generalizing h s with
  | nil => exact lasting
  | cons a as ih =>
    have proper := Move.proper_of_offered (offered a List.mem_cons_self)
    have now : (⟨s, .act a⟩ : Moment) ∈ (played (h ++ [⟨s, .act a⟩]) (Moment.mk s (.act a)).after
        (as.map .act)).1 := mem_played (List.mem_append_right _ List.mem_cons_self)
    have works := sound ⟨s, .act a⟩ now
    exact ih (lasting.step proper nofun (Repository.works_of_isSound works))
      (fun b mem => offered b (List.mem_cons_of_mem a mem)) sound

/-- The service is turned off after its first start, by the call `call`, and on again. -/
def cycle (call : Nat) : List Action :=
  [.stop, .notice 0, .busStep 0, .busStep 0, .busStep 0, .deskStop 0, .reap 0, .reap 0,
    .settleWait true, .goOn call] ++ startUp (call + 1)

theorem isLasting_acted {w : Surroundings} {st : Snapshot} (found : w.repository.load = .ok st)
    (distinct : (st.background.map (·.user)).Nodup) (new : w.repository.isSound = true)
    {as : List Action} (offered : ∀ a ∈ as, (Move.act a).offered? = none)
    (sound : ∀ x ∈ (acted w as).1, x.after.repository.isSound = true) :
    IsLasting (acted w as).1 (acted w as).2 := by
  exact (IsLasting.new new_default found distinct (Repository.works_of_isSound new).saves).play
    offered sound

end Service

end HeadUnit
