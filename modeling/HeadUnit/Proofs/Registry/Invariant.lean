import Mathlib.Algebra.Group.Nat.Defs
import HeadUnit.Proofs.Registry.Eviction

/-!
# What holds of a registry at all times

However a registry is used, its entries are those of different users, none of them the
system user, with different ranks that were all given out (`Registry.Sound`), and there are
no more of them than the bound allows. A registry is used (`Reached`) by its operations in
any order, with any surroundings, and by taking over states that a registry has saved.

* `Sound.shrinks`: whoever leaves, the rest stays sound;
* `Enters.sound`: a new rank is higher than all others, unless the counter wraps around;
* `works_change`: what an operation can do to a registry;
* `sound_within_bound`: what holds after any number of them, none of which breaks.
-/

namespace HeadUnit.Registry

/-! ## Operations -/

/-- An operation of the registry, with what it finds in its surroundings. -/
inductive Operation
  | add (u : User) (foreground : UserId)
  | onEvent (find : UserId → Except Fault User) (foreground : UserId) (e : Event)
  | remove (id foreground : UserId)
  | forget (id : UserId)
  | setMax (n : Int64)
  | startAll (s : Sessions) (millis : Int64)
  | stop (s : Sessions) (id : UserId) (millis : Int64)

namespace Operation

/-- What an operation does. -/
def change (r : Registry) : Operation → Change
  | add u foreground => r.add u foreground
  | onEvent find foreground e => r.onEvent find foreground e
  | remove id foreground => (r.remove id foreground).1
  | forget id => (r.forget id).1
  | setMax n => r.setMax n
  | startAll s millis => { registry := (r.startAll s millis).1 }
  | stop s id millis => { registry := (r.stop s id millis).1 }

/-- How many ranks an operation gives out. -/
def ranks (op : Operation) (r : Registry) : Nat :=
  ((op.change r).registry.counter - r.counter).toNat

end Operation

/-- The state that a registry saves: its entries, its counter and its promoted user. -/
structure Saves (r : Registry) (s : Snapshot) : Prop where
  background : s.background = r.entries
  counter : s.counter = r.counter
  promoted : s.promoted = r.promoted

/-- The registry `r` has come about by operations and by taking over saved states, the
    empty state being the one of a new registry. On the way to it, no more than `n` ranks
    were given out, those for the states that it took over included. -/
inductive Reached : Nat → Registry → Prop
  | new (maxRunning : Int64) : Reached 0 { maxRunning := maxRunning }
  | operated {n : Nat} {r : Registry} (reached : Reached n r) (op : Operation) :
      Reached (n + op.ranks r) (op.change r).registry
  | restored {n m : Nat} {r saver : Registry} {s : Snapshot} (reached : Reached n r)
      (earlier : Reached m saver) (saved : Saves saver s) :
      Reached (max n m) (r.restore s).registry

/-! ## Sound registries -/

/-- Different users, not the system user, with different ranks that were given out; the
    promoted user has an entry. -/
structure Sound (r : Registry) : Prop where
  distinct : r.users.Nodup
  system : UserId.system ∉ r.users
  ranks : (r.entries.map (·.rank)).Nodup
  counted : ∀ e ∈ r.entries, e.rank ≤ r.counter
  promoted : r.promoted = UserId.null ∨ r.promoted ∈ r.users

namespace Sound

variable {r s : Registry}

theorem new (maxRunning : Int64) : Sound { maxRunning := maxRunning } :=
  ⟨.nil, List.not_mem_nil, .nil, fun _ mem => absurd mem List.not_mem_nil, .inl rfl⟩

theorem alike (sound : Sound r) (alike : Alike r s) : Sound s := by
  obtain ⟨distinct, system, ranks, counted, promoted⟩ := sound
  rw [alike.users] at distinct system promoted
  rw [alike.entries] at ranks counted
  rw [alike.counter] at counted
  rw [alike.promoted] at promoted
  exact ⟨distinct, system, ranks, counted, promoted⟩

theorem shrinks (sound : Sound r) (shrinks : Shrinks r s) : Sound s where
  distinct := shrinks.users.nodup sound.distinct
  system mem := sound.system (shrinks.users.mem mem)
  ranks := (shrinks.entries.map _).nodup sound.ranks
  counted e mem := shrinks.counter ▸ sound.counted e (shrinks.entries.mem mem)
  promoted := by
    by_cases null : s.promoted = UserId.null
    · exact .inl null
    · have same : s.promoted = r.promoted := shrinks.promoted.resolve_right null
      refine .inr (shrinks.listed null ?_)
      rw [same]
      exact sound.promoted.resolve_left (same ▸ null)

end Sound

/-! ## Leaving -/

theorem eraseUser_sublist (id : UserId) (es : List Ranked) : (eraseUser id es).Sublist es := by
  induction es with
  | nil => exact .slnil
  | cons e es ih =>
    unfold eraseUser
    split
    · exact List.sublist_cons_self e es
    · exact ih.cons_cons e

/-- Only the entry of the user leaves. -/
theorem mem_users_eraseUser {id user : UserId} {es : List Ranked} (other : user ≠ id)
    (mem : user ∈ es.map (·.user)) : user ∈ (eraseUser id es).map (·.user) := by
  induction es with
  | nil => exact mem
  | cons e es ih =>
    rw [List.map_cons, List.mem_cons] at mem
    unfold eraseUser
    split
    · next own => exact mem.resolve_left fun same => other (same.trans own)
    · rcases mem with first | later
      · exact first ▸ List.mem_cons_self
      · exact List.mem_cons_of_mem _ (ih later)

/-- A user without a second entry has none afterwards. -/
theorem not_mem_users_eraseUser {id : UserId} {es : List Ranked}
    (distinct : (es.map (·.user)).Nodup) : id ∉ (eraseUser id es).map (·.user) := by
  induction es with
  | nil => exact List.not_mem_nil
  | cons e es ih =>
    rw [List.map_cons, List.nodup_cons] at distinct
    unfold eraseUser
    split
    · next own => exact own ▸ distinct.1
    · next other =>
      intro mem
      rcases List.mem_cons.1 mem with first | later
      · exact other first.symm
      · exact ih distinct.2 later

/-- A user leaves that is not wanted any more. -/
theorem shrinks_forget (r : Registry) (id : UserId) : Shrinks r (r.forget id).1.registry := by
  unfold forget
  split
  · refine ⟨eraseUser_sublist .., rfl, rfl, ?_, fun stays mem => ?_⟩
    · dsimp only
      split
      · exact .inr rfl
      · exact .inl rfl
    · dsimp only at stays mem ⊢
      split at stays
      · exact absurd rfl stays
      · next other =>
        rw [if_neg other] at mem ⊢
        exact mem_users_eraseUser other mem
  · exact .refl r

/-! ## Entering -/

/-- The user `id` gets an entry with the next rank, and loses an older one. -/
structure Enters (r : Registry) (id : UserId) (r' : Registry) : Prop where
  entries : ∃ rest, rest.Sublist r.entries ∧ id ∉ rest.map (·.user) ∧
    r'.entries.Perm (⟨id, r.counter + 1⟩ :: rest)
  counter : r'.counter = r.counter + 1
  maxRunning : r'.maxRunning = r.maxRunning
  /-- Whoever was promoted and had an entry still has it. -/
  promoted : r'.promoted = id ∨ r'.promoted = r.promoted ∧ (r.promoted ∈ r.users →
    r.promoted ∈ r'.users)

namespace Enters

variable {r r' : Registry} {id : UserId}

theorem mem_users (enters : Enters r id r') {user : UserId} (mem : user ∈ r'.users) :
    user = id ∨ user ∈ r.users := by
  obtain ⟨rest, stays, _, entered⟩ := enters.entries
  exact (List.mem_cons.1 ((entered.map _).mem_iff.1 mem)).imp_right (stays.map _).mem

theorem id_mem_users (enters : Enters r id r') : id ∈ r'.users := by
  obtain ⟨rest, _, _, entered⟩ := enters.entries
  exact (entered.map _).mem_iff.2 List.mem_cons_self

theorem distinct (enters : Enters r id r') (distinct : r.users.Nodup) : r'.users.Nodup := by
  obtain ⟨rest, stays, absent, entered⟩ := enters.entries
  exact (entered.map _).nodup_iff.2 (List.nodup_cons.2 ⟨absent, (stays.map _).nodup distinct⟩)

/-- An entry takes one rank, whoever leaves for it. -/
theorem rank (enters : Enters r id r') (distinct : r'.users.Nodup) :
    (r'.evict.registry.counter - r.counter).toNat = 1 := by
  rw [(shrinks_evict distinct).counter, enters.counter, UInt64.add_comm, UInt64.add_sub_cancel]
  rfl

/-- The new rank is higher than all others, unless the counter wraps around. -/
theorem sound (enters : Enters r id r') (sound : Sound r) (other : id ≠ UserId.system)
    (room : r.counter.toNat + 1 < 2 ^ 64) : Sound r' := by
  obtain ⟨rest, stays, absent, entered⟩ := enters.entries
  have next : (r.counter + 1).toNat = r.counter.toNat + 1 := by
    rw [UInt64.toNat_add, UInt64.toNat_one, Nat.mod_eq_of_lt room]
  have below : ∀ e ∈ rest, e.rank.toNat ≤ r.counter.toNat := fun e mem =>
    UInt64.le_iff_toNat_le.1 (sound.counted e (stays.mem mem))
  have ranked : (r'.entries.map (·.rank)).Perm ((r.counter + 1) :: rest.map (·.rank)) :=
    entered.map _
  refine ⟨enters.distinct sound.distinct, fun mem => ?_, ranked.nodup_iff.2
    (List.nodup_cons.2 ⟨fun mem => ?_, (stays.map _).nodup sound.ranks⟩), fun e mem => ?_, ?_⟩
  · rcases enters.mem_users mem with own | old
    · exact other own.symm
    · exact sound.system old
  · obtain ⟨e, old, same⟩ := List.mem_map.1 mem
    have := below e old
    rw [same, next] at this
    omega
  · rw [enters.counter, UInt64.le_iff_toNat_le, next]
    rcases List.mem_cons.1 (entered.mem_iff.1 mem) with rfl | old
    · exact Nat.le_of_eq next
    · exact Nat.le_succ_of_le (below e old)
  · rcases enters.promoted with own | ⟨same, kept⟩
    · exact .inr (own ▸ enters.id_mem_users)
    · exact same ▸ sound.promoted.imp_right kept

end Enters

/-! ## One operation -/

/-- What a change makes of the registry `r`, and whether it is persisted; only users who are
    such as `who` says enter. -/
inductive Outcome (r : Registry) (who : UserId → Prop) (c : Change) : Prop
  /-- At most it is others who were started. -/
  | same (alike : Alike r c.registry) (bound : c.registry.maxRunning = r.maxRunning)
      (silent : c.persist = false)
  /-- A user enters, and whoever is too much leaves. -/
  | entered {id : UserId} {r' : Registry} (own : who id) (other : id ≠ UserId.system)
      (enters : Enters r id r') (evicted : c.registry = r'.evict.registry)
      (persisted : c.persist = true)
  /-- A user leaves. -/
  | left (shrinks : Shrinks r c.registry) (persisted : c.persist = true)

/-- The outcome of a change, which breaks nothing. -/
structure Works (r : Registry) (who : UserId → Prop) (c : Change) : Prop where
  outcome : Outcome r who c
  intact : c.broken = false

/-- The bound becomes `n`, and whoever is too much leaves; this is persisted if anybody does. -/
structure Bounded (r : Registry) (n : Int64) (c : Change) : Prop where
  evicted : c.registry = { r with maxRunning := n }.evict.registry
  persisted : c.persist = (c.registry.entries.length != r.entries.length)
  intact : c.broken = false

section Operations

variable {r : Registry} {who : UserId → Prop}

theorem Works.same {c : Change} (alike : Alike r c.registry)
    (bound : c.registry.maxRunning = r.maxRunning) (silent : c.persist = false)
    (intact : c.broken = false) : Works r who c := ⟨.same alike bound silent, intact⟩

/-- An entry is made, which may be one too many. -/
theorem Enters.works {r' : Registry} {id : UserId} (enters : Enters r id r')
    (distinct : r.users.Nodup) (own : who id) (other : id ≠ UserId.system) :
    Works r who r'.evictAndPersist := by
  have intact := evict_not_broken (enters.distinct distinct)
  refine ⟨.entered own other enters rfl ?_, intact⟩
  simp [evictAndPersist, intact]

theorem works_add (distinct : r.users.Nodup) (u : User) (foreground : UserId) :
    Works r (· = u.id) (r.add u foreground) := by
  unfold Registry.add
  split
  · exact .same (.refl r) rfl rfl rfl
  · next candidate =>
    have other : u.id ≠ UserId.system := by
      rintro same
      simp [same] at candidate
    split
    · -- The foreground user is promoted, whatever entry it had.
      refine Enters.works ⟨⟨eraseUser u.id r.entries, eraseUser_sublist .., ?_, .refl _⟩, rfl,
        rfl, .inl rfl⟩ distinct rfl other
      exact not_mem_users_eraseUser distinct
    · split
      · exact .same (.refl r) rfl rfl rfl
      · next absent =>
        refine Enters.works ⟨⟨r.entries, .refl _, ?_, List.perm_append_singleton ..⟩, rfl, rfl,
          .inr ⟨rfl, fun mem => ?_⟩⟩ distinct rfl other
        · simpa [users] using absent
        · simp only [users, List.map_append]
          exact List.mem_append_left _ mem

/-- Whoever may enter may do so for another reason as well. -/
theorem Works.mono {c : Change} {who' : UserId → Prop} (works : Works r who c)
    (more : ∀ id, who id → who' id) : Works r who' c := by
  refine ⟨?_, works.intact⟩
  cases works.outcome with
  | same alike bound silent => exact .same alike bound silent
  | entered own other enters evicted persisted =>
    exact .entered (more _ own) other enters evicted persisted
  | left shrinks persisted => exact .left shrinks persisted

/-- The user that an event asks to record is the one that the roster knows. -/
theorem found_of_lookUp {find : UserId → Except Fault User} {e : Event} {u : User}
    (found : lookUp find e = some (.ok u)) : e.kind = .unlocked ∧ find e.user = .ok u := by
  unfold lookUp at found
  split at found
  · next unlocked =>
    cases known : find e.user with
    | error f => rw [known] at found; cases found
    | ok v => rw [known] at found; cases found; exact ⟨unlocked, rfl⟩
  · cases found

theorem works_onEvent (distinct : r.users.Nodup) (find : UserId → Except Fault User)
    (foreground : UserId) (e : Event) :
    Works r (fun id => ∃ u, find e.user = .ok u ∧ id = u.id) (r.onEvent find foreground e) := by
  unfold Registry.onEvent
  split
  · exact .same (.refl r) rfl rfl rfl
  · exact .same (.refl r) rfl rfl rfl
  · next u found =>
    exact (works_add distinct u foreground).mono fun id own => ⟨u, (found_of_lookUp found).2, own⟩

theorem works_forget (r : Registry) (id : UserId) : Works r who (r.forget id).1 := by
  have shrinks := shrinks_forget r id
  unfold Registry.forget at shrinks ⊢
  split at shrinks
  · next listed =>
    rw [if_pos listed]
    exact ⟨.left shrinks rfl, rfl⟩
  · next absent =>
    rw [if_neg absent]
    exact .same (.refl r) rfl rfl rfl

theorem works_setMax (distinct : r.users.Nodup) (n : Int64) :
    n = r.maxRunning ∧ r.setMax n = { registry := r } ∨ Bounded r n (r.setMax n) := by
  unfold Registry.setMax
  split
  · next same => exact .inl ⟨same, rfl⟩
  · have intact : ({ r with maxRunning := n } : Registry).evict.broken = false :=
      evict_not_broken distinct
    refine .inr ⟨rfl, ?_, intact⟩
    simp [intact]

theorem works_stop (s : Sessions) (id : UserId) (millis : Int64) :
    Works r who { registry := (r.stop s id millis).1 } := by
  unfold Registry.stop
  split
  · exact .same (.refl r) rfl rfl rfl
  · split
    · exact .same (.refl r) rfl rfl rfl
    · split
      · exact .same (.refl r) rfl rfl rfl
      · exact .same ⟨rfl, rfl, rfl⟩ rfl rfl rfl

/-- No operation breaks a registry in which no user has two entries. -/
theorem works_change (distinct : r.users.Nodup) (op : Operation) :
    Works r (fun _ => True) (op.change r) ∨ ∃ n, Bounded r n (op.change r) := by
  cases op with
  | add u foreground => exact .inl ((works_add distinct u foreground).mono fun _ _ => trivial)
  | onEvent find foreground e =>
    exact .inl ((works_onEvent distinct find foreground e).mono fun _ _ => trivial)
  | remove id foreground =>
    unfold Operation.change Registry.remove
    dsimp only
    split
    · exact .inl (.same (.refl r) rfl rfl rfl)
    · exact .inl (works_forget r id)
  | forget id => exact .inl (works_forget r id)
  | setMax n =>
    refine (works_setMax distinct n).imp (fun ⟨_, same⟩ => ?_) fun bounded => ⟨n, bounded⟩
    rw [Operation.change, same]
    exact .same (.refl r) rfl rfl rfl
  | startAll s millis => exact .inl (.same ⟨rfl, rfl, rfl⟩ rfl rfl rfl)
  | stop s id millis => exact .inl (works_stop s id millis)

/-- In no outcome does a user get two entries. -/
theorem Outcome.distinct {c : Change} (outcome : Outcome r who c) (distinct : r.users.Nodup) :
    c.registry.users.Nodup := by
  cases outcome with
  | same alike => exact alike.users ▸ distinct
  | entered own other enters evicted =>
    rw [evicted]
    exact (shrinks_evict (enters.distinct distinct)).users.nodup (enters.distinct distinct)
  | left shrinks => exact shrinks.users.nodup distinct

theorem Bounded.shrinks {n : Int64} {c : Change} (bounded : Bounded r n c)
    (distinct : r.users.Nodup) : Shrinks { r with maxRunning := n } c.registry := by
  rw [bounded.evicted]
  exact shrinks_evict distinct

end Operations

/-! ## Any number of operations -/

/-- A sound registry within its bound, with a counter that has counted to `n` at most. -/
structure Fine (n : Nat) (r : Registry) : Prop where
  sound : Sound r
  bound : r.entries.length ≤ r.limit
  counter : r.counter.toNat ≤ n

/-- An eviction ends a change well. -/
theorem Sound.evicted {r : Registry} (sound : Sound r) {n : Nat} (few : r.counter.toNat ≤ n) :
    Fine n r.evict.registry := by
  have shrinks := shrinks_evict sound.distinct
  refine ⟨sound.shrinks shrinks, ?_, shrinks.counter ▸ few⟩
  rw [shrinks.limit, length_evict sound.distinct]
  exact Nat.min_le_right ..

namespace Fine

variable {n : Nat} {r : Registry}

/-- One outcome: at most one rank is given out. -/
theorem outcome (fine : Fine n r) {who : UserId → Prop} {c : Change} (outcome : Outcome r who c)
    (room : n + (c.registry.counter - r.counter).toNat < 2 ^ 64) :
    Fine (n + (c.registry.counter - r.counter).toNat) c.registry := by
  cases outcome with
  | same alike bound =>
    rw [← alike.counter, UInt64.sub_self]
    refine ⟨fine.sound.alike alike, ?_, alike.counter ▸ fine.counter⟩
    rw [← alike.entries, limit_congr bound]
    exact fine.bound
  | entered own other enters evicted =>
    have distinct := enters.distinct fine.sound.distinct
    have one : (c.registry.counter - r.counter).toNat = 1 := evicted ▸ enters.rank distinct
    have few := fine.counter
    rw [one] at room ⊢
    rw [evicted]
    refine (enters.sound fine.sound other (by omega)).evicted ?_
    rw [enters.counter, UInt64.toNat_add, UInt64.toNat_one]
    omega
  | left shrinks =>
    rw [shrinks.counter, UInt64.sub_self]
    refine ⟨fine.sound.shrinks shrinks, ?_, shrinks.counter ▸ fine.counter⟩
    rw [shrinks.limit]
    exact Nat.le_trans shrinks.entries.length_le fine.bound

/-- The bound changes: no rank is given out. -/
theorem bounded (fine : Fine n r) {m : Int64} {c : Change} (bounded : Bounded r m c) :
    Fine (n + (c.registry.counter - r.counter).toNat) c.registry := by
  have sound : Sound { r with maxRunning := m } := fine.sound.alike ⟨rfl, rfl, rfl⟩
  have same : c.registry.counter = r.counter := (bounded.shrinks fine.sound.distinct).counter
  rw [same, UInt64.sub_self, bounded.evicted]
  exact sound.evicted fine.counter

/-- A state that was saved is taken over. -/
theorem restored {saver : Registry} {s : Snapshot} (fine : Fine n saver) (saved : Saves saver s)
    (r : Registry) : Fine n (r.restore s).registry ∧ (r.restore s).broken = false := by
  have sound : Sound { r with
      entries := s.background
      counter := s.counter
      promoted := s.promoted } :=
    fine.sound.alike ⟨saved.background.symm, saved.counter.symm, saved.promoted.symm⟩
  have evicted := sound.evicted (n := n) (saved.counter ▸ fine.counter)
  have intact := evict_not_broken sound.distinct
  unfold Registry.restore
  simp only [intact]
  exact ⟨evicted, rfl⟩

end Fine

/-- What was reached with ranks to spare is fine. -/
theorem Reached.fine {n : Nat} {r : Registry} (reached : Reached n r) (few : n < 2 ^ 64) :
    Fine n r := by
  induction reached with
  | new maxRunning => exact ⟨.new maxRunning, Nat.zero_le _, Nat.zero_le _⟩
  | operated reached op ih =>
    have fine := ih (Nat.lt_of_le_of_lt (Nat.le_add_right ..) few)
    rcases works_change fine.sound.distinct op with works | ⟨m, bounded⟩
    · exact fine.outcome works.outcome few
    · exact fine.bounded bounded
  | @restored n m r saver s reached earlier saved _ ih =>
    have fine := ih (Nat.lt_of_le_of_lt (Nat.le_max_right n m) few)
    have restored := (fine.restored saved r).1
    exact ⟨restored.sound, restored.bound, Nat.le_trans restored.counter (Nat.le_max_right n m)⟩

/-- How many entries are allowed, where the bound does not wrap around. -/
theorem limit_eq (r : Registry) (sane : r.maxRunning ≠ Int64.minValue) :
    (r.limit : Int) = max (r.maxRunning.toInt - 1) 0 := by
  have low := r.maxRunning.le_toInt
  have high := r.maxRunning.toInt_lt
  have least : r.maxRunning.toInt ≠ -2 ^ 63 := fun e => sane (Int64.toInt_inj.1 e)
  have less : (r.maxRunning - 1).toInt = r.maxRunning.toInt - 1 := by
    rw [Int64.toInt_sub]
    exact Int.bmod_eq_of_le (by simp; omega) (by simp; omega)
  unfold limit
  split
  · next negative =>
    rw [Int64.lt_iff_toInt_lt, less, Int64.toInt_zero] at negative
    omega
  · next positive =>
    rw [Int64.lt_iff_toInt_lt, less, Int64.toInt_zero] at positive
    rw [less]
    omega

/-- However a registry is used, it is sound and within its bound as long as the counter
    does not wrap around, and neither an operation nor a saved state ever breaks it. -/
theorem sound_within_bound {n : Nat} {r : Registry} (reached : Reached n r) (few : n < 2 ^ 64) :
    Sound r ∧
      (r.maxRunning ≠ Int64.minValue →
        (r.entries.length : Int) ≤ max (r.maxRunning.toInt - 1) 0) ∧
      (∀ op : Operation, (op.change r).broken = false) ∧
      ∀ (m : Nat) (saver : Registry) (s : Snapshot), Reached m saver → m < 2 ^ 64 →
        Saves saver s → (r.restore s).broken = false := by
  have fine := reached.fine few
  refine ⟨fine.sound, fun sane => ?_, fun op => ?_, fun m saver s earlier few' saved => ?_⟩
  · rw [← limit_eq r sane]
    exact Int.ofNat_le.2 fine.bound
  · exact (works_change fine.sound.distinct op).elim (·.intact) fun ⟨_, bounded⟩ => bounded.intact
  · exact ((earlier.fine few').restored saved r).2

namespace Sample

def user (id : UserId) : User := ⟨id, "", Kind.full, Flags.none, UserId.null, true⟩

/-- Three users unlock one after the other, the first of them in the foreground, but only
    two fit in. -/
def operations : List Operation := [.add (user 10) 10, .add (user 11) 10, .add (user 12) 10]

def crowded : Registry :=
  operations.foldl (fun r op => (op.change r).registry) { maxRunning := 3 }

/-- What the registry has saved. -/
def saved : Snapshot := ⟨[⟨10, 1⟩, ⟨12, 3⟩], 10, 3, UserId.null, Stamp.unset⟩

/-- The next time only one user fits in. -/
def resumed : Registry := (({ maxRunning := 2 } : Registry).restore saved).registry

theorem saves : Saves crowded saved := by
  have all : saved.background = crowded.entries ∧ saved.counter = crowded.counter ∧
      saved.promoted = crowded.promoted := by decide +kernel
  exact ⟨all.1, all.2.1, all.2.2⟩

theorem reached : Reached 3 resumed := by
  have before := (((Reached.new 3).operated (.add (user 10) 10)).operated
    (.add (user 11) 10)).operated (.add (user 12) 10)
  obtain ⟨n, rfl, reached⟩ : ∃ n, n = 3 ∧ Reached n resumed :=
    ⟨_, by decide +kernel, .restored (.new 2) before saves⟩
  exact reached

end Sample

/-- The promoted user alone is left. -/
theorem sound_of_sample : Reached 3 Sample.resumed ∧ (3 : Nat) < 2 ^ 64 ∧
    Sample.resumed.users = [10] ∧ Sound Sample.resumed ∧
    (Sample.resumed.entries.length : Int) ≤ max (Sample.resumed.maxRunning.toInt - 1) 0 := by
  have few : (3 : Nat) < 2 ^ 64 := by decide
  have users : Sample.resumed.users = [10] := by decide +kernel
  have sane : Sample.resumed.maxRunning ≠ Int64.minValue := by decide +kernel
  obtain ⟨sound, bound, _⟩ := sound_within_bound Sample.reached few
  exact ⟨Sample.reached, few, users, sound, bound sane⟩

end HeadUnit.Registry
