import HeadUnit.Proofs.Registry.Invariant
import HeadUnit.Proofs.Registry.Selection

/-!
# Who enters stays

A user that enters the registry may be one too many, and then one entry leaves. It has the lowest
rank of those that may leave, and the newcomer has the highest of all. So it is somebody else who
leaves, unless there is nobody else but the promoted user, who is spared.

This needs that the ranks were given out by the counter, which is part of what holds of a registry
at all times (`Sound`).

* `evict_one`: the entry that leaves, if there is one too many;
* `Enters.stays_or_alone`: the newcomer leaves only beside the promoted user;
* `added_stays`: what becomes of the registry when a user is added.
-/

namespace HeadUnit.Registry

/-! ## One entry too many -/

/-- The entries of the users other than `id`. -/
def others (r : Registry) (id : UserId) : List Ranked := r.entries.filter (·.user ≠ id)

/-- An entry leaves that is not of the promoted user, and no other such entry has a lower rank. -/
structure Yields (r : Registry) (e : Ranked) (r' : Registry) : Prop where
  split : ∃ l l', r.entries = l ++ e :: l' ∧ r'.entries = l ++ l'
  spared : e.user ≠ r.promoted
  lowest : ∀ x ∈ r'.entries, x.user ≠ r.promoted → e.rank ≤ x.rank
  promoted : r'.promoted = r.promoted

/-- The entry that leaves, if there is one too many. -/
theorem evict_one {r : Registry} (distinct : r.users.Nodup) (room : 0 < r.limit)
    (excess : r.entries.length = r.limit + 1) : ∃ e, Yields r e r.evict.registry := by
  have filled : r.entries ≠ [] := List.ne_nil_of_length_pos (by omega)
  obtain ⟨i, victim⟩ := exists_victim r.promoted distinct filled
  have once : r.evict.registry = r.drop i := by
    rw [evict_eq_shed distinct, excess, Nat.add_sub_cancel_left, Function.iterate_one, shed, victim]
  obtain ⟨l, v, l', places, rfl, other, least⟩ := exists_least (sorted_zipIdx r.entries 0)
    (by rw [List.length_zipIdx]; omega) (by rwa [List.zipIdx_map_fst])
  have entries : r.entries = l.map (·.1) ++ v.1 :: l'.map (·.1) := by
    rw [← List.zipIdx_map_fst 0 r.entries, places, List.map_append, List.map_cons]
  have here : r.entries[l.length]? = some v.1 := by simp [entries]
  have left : (r.drop l.length).entries = l.map (·.1) ++ l'.map (·.1) := by
    simp only [drop, here]
    simp [entries, List.eraseIdx_append_of_length_le]
  rw [once]
  refine ⟨v.1, ⟨_, _, entries, left⟩, other, fun x mem another => ?_, ?_⟩
  · rw [left, ← List.map_append] at mem
    obtain ⟨y, there, rfl⟩ := List.mem_map.1 mem
    rcases least y there another with higher | ⟨equal, _⟩
    · exact UInt64.le_of_lt higher
    · exact UInt64.le_of_eq equal
  · simp [drop, here, other]

namespace Yields

variable {r r' : Registry} {e : Ranked}

theorem length (yields : Yields r e r') : r.entries.length = r'.entries.length + 1 := by
  obtain ⟨l, l', before, after⟩ := yields.split
  rw [before, after]
  simp only [List.length_append, List.length_cons]
  omega

theorem mem (yields : Yields r e r') {x : Ranked} :
    x ∈ r.entries ↔ x = e ∨ x ∈ r'.entries := by
  obtain ⟨l, l', before, after⟩ := yields.split
  rw [before, after]
  simp only [List.mem_append, List.mem_cons]
  tauto

/-- Nobody but the user of the entry that left is not listed any more. -/
theorem mem_users (yields : Yields r e r') (distinct : r.users.Nodup) {id : UserId} :
    id ∈ r'.users ↔ id ∈ r.users ∧ id ≠ e.user := by
  obtain ⟨l, l', before, after⟩ := yields.split
  rw [users, before, List.map_append, List.map_cons, List.nodup_middle] at distinct
  have absent : e.user ∉ r'.users := by
    rw [users, after, List.map_append]
    exact (List.nodup_cons.1 distinct).1
  rw [users, users, before, after] at *
  simp only [List.map_append, List.map_cons, List.mem_append, List.mem_cons] at *
  constructor
  · intro mem
    exact ⟨by tauto, fun same => absent (same ▸ mem)⟩
  · rintro ⟨mem, another⟩
    tauto

theorem others_sublist (yields : Yields r e r') (id : UserId) :
    (r'.others id).Sublist (r.others id) := by
  obtain ⟨l, l', before, after⟩ := yields.split
  rw [others, others, before, after]
  exact ((List.sublist_cons_self e l').append_left l).filter _

theorem length_others (yields : Yields r e r') (id : UserId) :
    (r.others id).length ≤ (r'.others id).length + 1 := by
  obtain ⟨l, l', before, after⟩ := yields.split
  rw [others, others, before, after, List.filter_append, List.filter_append, List.filter_cons]
  split
  · simp only [List.length_append, List.length_cons]
    omega
  · omega

end Yields

/-! ## The newcomer -/

/-- After a user has entered, at most one entry leaves; or nobody may stay. -/
inductive Settles (r : Registry) : Prop
  | fits (few : r.entries.length ≤ r.limit) (same : r.evict.registry = r)
  | yields (e : Ranked) (room : 0 < r.limit) (excess : r.entries.length = r.limit + 1)
      (leaves : Yields r e r.evict.registry)
  | empty (nobody : r.limit = 0) (none : r.evict.registry.entries = [])

theorem settles {r : Registry} (distinct : r.users.Nodup)
    (few : r.entries.length ≤ r.limit + 1) : Settles r := by
  by_cases fits : r.entries.length ≤ r.limit
  · exact .fits fits (evict_of_fits fits)
  · have excess : r.entries.length = r.limit + 1 := by omega
    by_cases room : 0 < r.limit
    · obtain ⟨e, leaves⟩ := evict_one distinct room excess
      exact .yields e room excess leaves
    · have nobody : r.limit = 0 := Nat.eq_zero_of_not_pos room
      refine .empty nobody (List.eq_nil_of_length_eq_zero ?_)
      rw [length_evict distinct, nobody, Nat.min_zero]

/-- A list of one user has no other. -/
theorem eq_of_mem_users {r : Registry} (one : r.entries.length = 1) {a b : UserId}
    (first : a ∈ r.users) (second : b ∈ r.users) : a = b := by
  obtain ⟨e, only⟩ := List.length_eq_one_iff.1 one
  simp only [users, only, List.map_cons, List.map_nil, List.mem_singleton] at first second
  rw [first, second]

namespace Enters

variable {r r' s : Registry} {id : UserId}

/-- The newcomer leaves only if nobody else is left but the promoted user. -/
theorem promoted_of_leaves (enters : Enters r id r') (sound : Sound r)
    (room : r.counter.toNat + 1 < 2 ^ 64) {e : Ranked} (leaves : Yields r' e s)
    (own : e.user = id) : ∀ x ∈ s.entries, x.user = r'.promoted := by
  have distinct := enters.distinct sound.distinct
  obtain ⟨rest, stays, absent, entered⟩ := enters.entries
  have ranked : e = ⟨id, r.counter + 1⟩ := by
    rcases List.mem_cons.1 (entered.mem_iff.1 (leaves.mem.2 (.inl rfl))) with same | old
    · exact same
    · exact absurd (own ▸ List.mem_map_of_mem old) absent
  intro x mem
  by_contra another
  have least := leaves.lowest x mem another
  have apart : x.user ≠ id := own ▸ ((leaves.mem_users distinct).1 (List.mem_map_of_mem mem)).2
  have old : x ∈ rest := by
    rcases List.mem_cons.1 (entered.mem_iff.1 (leaves.mem.2 (.inr mem))) with same | old
    · exact absurd (congrArg Ranked.user same) apart
    · exact old
  -- The newcomer has the highest rank.
  have counted := sound.counted x (stays.mem old)
  rw [UInt64.le_iff_toNat_le] at counted least
  rw [ranked, UInt64.toNat_add, UInt64.toNat_one, Nat.mod_eq_of_lt room] at least
  omega

/-- The newcomer stays if anybody may, except when there is one place and it is the promoted
    user's. -/
theorem mem_users_evict_iff (enters : Enters r id r') (sound : Sound r)
    (room : r.counter.toNat + 1 < 2 ^ 64) (few : r'.entries.length ≤ r'.limit + 1) :
    id ∈ r'.evict.registry.users ↔
      0 < r'.limit ∧ ¬(r'.limit = 1 ∧ id ≠ r'.promoted ∧ r'.promoted ∈ r'.users) := by
  have distinct := enters.distinct sound.distinct
  have there := enters.id_mem_users
  cases settles distinct few with
  | fits few same =>
    have filled : 0 < r'.entries.length := List.length_pos_of_mem
      (List.mem_map.1 there).choose_spec.1
    rw [same]
    refine iff_of_true there ⟨by omega, fun ⟨one, other, promoted⟩ => other ?_⟩
    exact eq_of_mem_users (by omega) there promoted
  | yields e room' excess leaves =>
    have length := leaves.length
    rw [leaves.mem_users distinct]
    by_cases own : id = e.user
    · -- The promoted user is all that is left.
      have alone := enters.promoted_of_leaves sound room leaves own.symm
      have users : r'.evict.registry.users.Nodup := (shrinks_evict distinct).users.nodup distinct
      obtain ⟨x, mem⟩ := List.exists_mem_of_length_pos
        (show 0 < r'.evict.registry.entries.length by omega)
      have promoted := (leaves.mem_users distinct).1 (List.mem_map_of_mem mem)
      rw [alone x mem, ← own] at promoted
      have one : r'.evict.registry.entries.length ≤ 1 := by
        have same : r'.evict.registry.users =
            List.replicate r'.evict.registry.entries.length r'.promoted := by
          rw [Registry.users, ← List.map_const']
          exact List.map_congr_left alone
        rw [same] at users
        exact List.nodup_replicate.1 users
      exact iff_of_false (fun stays => stays.2 own)
        fun stays => stays.2 ⟨by omega, promoted.2.symm, promoted.1⟩
    · refine iff_of_true ⟨there, own⟩ ⟨room', fun ⟨one, other, promoted⟩ => other ?_⟩
      exact eq_of_mem_users (r := r'.evict.registry) (by omega)
        ((leaves.mem_users distinct).2 ⟨there, own⟩)
        ((leaves.mem_users distinct).2 ⟨promoted, leaves.spared.symm⟩)
  | empty nobody none =>
    refine iff_of_false (fun mem => ?_) fun stays => ?_
    · rw [Registry.users, none] at mem
      cases mem
    · omega

end Enters

/-! ## The others -/

/-- Of the entries of users other than `id`, at most one is lost, which is not of the user who is
    promoted afterwards; the rest keep their ranks and their order. -/
structure Keeps (r : Registry) (id : UserId) (s : Registry) : Prop where
  order : (s.others id).Sublist (r.others id)
  length : (r.others id).length ≤ (s.others id).length + 1
  promoted : ∀ e ∈ r.others id, e.user = s.promoted → e ∈ s.others id

theorem Keeps.refl (r : Registry) (id : UserId) : Keeps r id r :=
  ⟨.refl _, Nat.le_succ _, fun _ mem _ => mem⟩

theorem others_eraseUser (id : UserId) (es : List Ranked) :
    (eraseUser id es).filter (·.user ≠ id) = es.filter (·.user ≠ id) := by
  induction es with
  | nil => rfl
  | cons e es ih =>
    unfold eraseUser
    split
    · next own => rw [List.filter_cons_of_neg (by simpa using own)]
    · next other => rw [List.filter_cons_of_pos (by simpa using other), ih,
        List.filter_cons_of_pos (by simpa using other)]

/-- An eviction of at most one entry keeps the others. -/
theorem keeps_evict {r r' : Registry} {id : UserId} (distinct : r'.users.Nodup)
    (few : r'.entries.length ≤ r'.limit + 1) (same : r'.others id = r.others id)
    (bound : r.entries.length ≤ r'.limit) : Keeps r id r'.evict.registry := by
  cases settles distinct few with
  | fits few fits =>
    rw [fits]
    exact ⟨same ▸ .refl _, same ▸ Nat.le_succ _, fun e mem _ => same ▸ mem⟩
  | yields e room excess leaves =>
    refine ⟨same ▸ leaves.others_sublist id, same ▸ leaves.length_others id, ?_⟩
    intro x mem promoted
    obtain ⟨there, other⟩ := List.mem_filter.1 (same ▸ mem)
    refine List.mem_filter.2 ⟨(leaves.mem.1 there).resolve_left ?_, other⟩
    rintro rfl
    exact leaves.spared (promoted.trans leaves.promoted)
  | empty nobody none =>
    -- Where nobody may stay, nobody was there.
    have nobody : r.others id = [] := by
      rw [others, List.eq_nil_of_length_eq_zero (by omega : r.entries.length = 0), List.filter_nil]
    refine ⟨?_, ?_, fun e mem => absurd (nobody ▸ mem) List.not_mem_nil⟩
    · rw [others, none]
      exact List.nil_sublist _
    · rw [nobody]
      exact Nat.zero_le _

/-! ## Adding a user -/

section Add

variable {r : Registry} {u : User} {foreground : UserId}

/-- The registry in which a user has moved to the front and is promoted. -/
def promote (r : Registry) (id : UserId) : Registry :=
  { r with
    entries := ⟨id, r.counter + 1⟩ :: eraseUser id r.entries
    counter := r.counter + 1
    promoted := id }

/-- The registry in which a user has been put last. -/
def append (r : Registry) (id : UserId) : Registry :=
  { r with
    entries := r.entries ++ [⟨id, r.counter + 1⟩]
    counter := r.counter + 1 }

theorem enters_promote (distinct : r.users.Nodup) (id : UserId) : Enters r id (r.promote id) :=
  ⟨⟨eraseUser id r.entries, eraseUser_sublist .., not_mem_users_eraseUser distinct, .refl _⟩,
    rfl, rfl, .inl rfl⟩

theorem enters_append {id : UserId} (absent : id ∉ r.users) : Enters r id (r.append id) := by
  refine ⟨⟨r.entries, .refl _, absent, List.perm_append_singleton ..⟩, rfl, rfl, .inr ⟨rfl, ?_⟩⟩
  intro mem
  simp only [users, append, List.map_append]
  exact List.mem_append_left _ mem

theorem others_promote (r : Registry) (id : UserId) : (r.promote id).others id = r.others id := by
  rw [others, promote, List.filter_cons_of_neg (by simp), others_eraseUser, others]

theorem others_append (r : Registry) (id : UserId) : (r.append id).others id = r.others id := by
  simp [others, append]

/-- What adding a candidate comes to. -/
theorem add_eq (other : u.id ≠ UserId.system) (lasting : u.isEphemeral = false) :
    r.add u foreground =
      if u.id = foreground then (r.promote u.id).evictAndPersist
      else if u.id ∈ r.users then { registry := r }
      else (r.append u.id).evictAndPersist := by
  simp [add, other, lasting, promote, append]

/-- Whoever is promoted stays in front. -/
theorem first_of_promote (distinct : r.users.Nodup) (room : 0 < r.limit) (id : UserId)
    (few : (r.promote id).entries.length ≤ r.limit + 1) :
    (r.promote id).evict.registry.users.head? = some id ∧
      (r.promote id).evict.registry.promoted = id := by
  cases settles ((enters_promote distinct id).distinct distinct) few with
  | fits few same =>
    rw [same]
    exact ⟨rfl, rfl⟩
  | yields e room excess leaves =>
    obtain ⟨l, l', before, after⟩ := leaves.split
    refine ⟨?_, leaves.promoted⟩
    cases l with
    | nil =>
      obtain ⟨first, -⟩ := List.cons.inj before
      exact absurd (congrArg Ranked.user first.symm) leaves.spared
    | cons x l =>
      obtain ⟨first, -⟩ := List.cons.inj before
      rw [users, after, ← first]
      rfl
  | empty nobody =>
    have same : (r.promote id).limit = r.limit := rfl
    omega

/-- Nobody has more than one entry more. -/
theorem Enters.length_le {r' : Registry} {id : UserId} (enters : Enters r id r') :
    r'.entries.length ≤ r.entries.length + 1 := by
  obtain ⟨rest, stays, _, entered⟩ := enters.entries
  rw [entered.length_eq, List.length_cons]
  exact Nat.succ_le_succ stays.length_le

/-- How many entries are allowed: one place is kept for the system user. -/
theorem limit_eq_max (r : Registry) : (r.limit : Int) = (max (r.maxRunning - 1) 0).toInt := by
  have greater : max (r.maxRunning - 1) 0 =
      if r.maxRunning - 1 ≤ 0 then 0 else r.maxRunning - 1 := rfl
  rw [greater]
  unfold limit
  split
  · next negative => rw [if_pos (Int64.le_of_lt negative)]; rfl
  · next positive =>
    rw [Int64.lt_iff_toInt_lt, Int64.toInt_zero, Int.not_lt] at positive
    rw [Int.toNat_of_nonneg positive]
    split
    · next zero =>
      rw [Int64.le_iff_toInt_le, Int64.toInt_zero] at zero
      rw [Int64.toInt_zero]
      omega
    · rfl

/-- What becomes of a registry when a user is added that is neither the system user nor ephemeral.
    It is listed afterwards, unless nobody may be, or it is a newcomer to the background and the
    promoted user has the only place. The foreground user comes first and is promoted. Of the
    others at most one is lost, and never the promoted user. And a user who is listed already and
    not in the foreground changes nothing. -/
theorem added_stays {n : Nat} (reached : Reached n r) (u : User) (foreground : UserId)
    (other : u.id ≠ UserId.system) (lasting : u.isEphemeral = false)
    (few : n + (Operation.add u foreground).ranks r < 2 ^ 64) :
    (r.limit : Int) = (max (r.maxRunning - 1) 0).toInt ∧
    (r.add u foreground).broken = false ∧
    (u.id ∈ (r.add u foreground).registry.users ↔ 0 < r.limit ∧
      ¬(r.limit = 1 ∧ u.id ∉ r.users ∧ u.id ≠ foreground ∧ r.promoted ∈ r.users)) ∧
    (u.id = foreground → 0 < r.limit →
      (r.add u foreground).registry.users.head? = some u.id ∧
      (r.add u foreground).registry.promoted = u.id) ∧
    Keeps r u.id (r.add u foreground).registry ∧
    (u.id ∈ r.users → u.id ≠ foreground → r.add u foreground = { registry := r }) := by
  have fine : Fine n r := reached.fine (by omega)
  have distinct := fine.sound.distinct
  have bound := fine.bound
  have counted := fine.counter
  refine ⟨limit_eq_max r, ?_⟩
  simp only [Operation.ranks, Operation.change] at few
  rw [add_eq other lasting] at few ⊢
  split
  · next own =>
    have enters := enters_promote distinct u.id
    have size := enters.length_le
    rw [if_pos own, evictAndPersist, enters.rank (enters.distinct distinct)] at few
    have listed := enters.mem_users_evict_iff fine.sound (by omega)
      (show _ ≤ r.limit + 1 by omega)
    refine ⟨evict_not_broken (enters.distinct distinct), ?_, fun _ room =>
      first_of_promote distinct room u.id (by omega), ?_, fun _ away => absurd own away⟩
    · refine listed.trans ⟨fun stays => ⟨stays.1, fun alone => alone.2.2.1 own⟩, fun stays =>
        ⟨stays.1, fun alone => alone.2.1 rfl⟩⟩
    · exact keeps_evict (enters.distinct distinct) (show _ ≤ r.limit + 1 by omega)
        (others_promote r u.id) bound
  · next away =>
    rw [if_neg away] at few
    split
    · next there =>
      refine ⟨rfl, ?_, fun own => absurd own away, .refl r u.id, fun _ _ => rfl⟩
      have filled : 0 < r.entries.length :=
        List.length_pos_of_mem (List.mem_map.1 there).choose_spec.1
      exact iff_of_true there ⟨by omega, fun alone => alone.2.1 there⟩
    · next absent =>
      have enters := enters_append absent
      have size := enters.length_le
      rw [if_neg absent, evictAndPersist, enters.rank (enters.distinct distinct)] at few
      have listed := enters.mem_users_evict_iff fine.sound (by omega)
        (show _ ≤ r.limit + 1 by omega)
      refine ⟨evict_not_broken (enters.distinct distinct), ?_, fun own => absurd own away, ?_,
        fun there => absurd there absent⟩
      · -- The promoted user, if listed beside the newcomer, was listed before.
        have before : u.id ≠ (r.append u.id).promoted ∧
            (r.append u.id).promoted ∈ (r.append u.id).users ↔ r.promoted ∈ r.users := by
          have users : (r.append u.id).users = r.users ++ [u.id] := by simp [users, append]
          rw [users, List.mem_append, List.mem_singleton]
          constructor
          · rintro ⟨apart, old | new⟩
            · exact old
            · exact absurd new.symm apart
          · intro old
            refine ⟨?_, .inl old⟩
            intro same
            exact absent (same ▸ old)
        rw [before] at listed
        exact listed.trans ⟨fun stays => ⟨stays.1, fun alone => stays.2 ⟨alone.1, alone.2.2.2⟩⟩,
          fun stays => ⟨stays.1, fun alone => stays.2 ⟨alone.1, absent, away, alone.2⟩⟩⟩
      · exact keeps_evict (enters.distinct distinct) (show _ ≤ r.limit + 1 by omega)
          (others_append r u.id) bound

end Add

/-- The promoted user has the only place: a newcomer is not listed if it is in the background, and
    takes the place if it is in the foreground. -/
theorem added_of_sample : Reached 3 Sample.resumed ∧ (Sample.user 11).id ≠ UserId.system ∧
    (Sample.user 11).isEphemeral = false ∧
    3 + (Operation.add (Sample.user 11) 0).ranks Sample.resumed < 2 ^ 64 ∧
    3 + (Operation.add (Sample.user 11) 11).ranks Sample.resumed < 2 ^ 64 ∧
    11 ∉ (Sample.resumed.add (Sample.user 11) 0).registry.users ∧
    (Sample.resumed.add (Sample.user 11) 11).registry.users.head? = some 11 := by
  have other : (Sample.user 11).id ≠ UserId.system := by decide
  have lasting : (Sample.user 11).isEphemeral = false := by decide
  have few : 3 + (Operation.add (Sample.user 11) 0).ranks Sample.resumed < 2 ^ 64 := by
    decide +kernel
  have few' : 3 + (Operation.add (Sample.user 11) 11).ranks Sample.resumed < 2 ^ 64 := by
    decide +kernel
  have one : Sample.resumed.limit = 1 := by decide +kernel
  have promoted : Sample.resumed.promoted ∈ Sample.resumed.users := by decide +kernel
  have absent : (Sample.user 11).id ∉ Sample.resumed.users := by decide +kernel
  obtain ⟨_, _, listed, _⟩ := added_stays Sample.reached (Sample.user 11) 0 other lasting few
  obtain ⟨_, _, _, first, _⟩ := added_stays Sample.reached (Sample.user 11) 11 other lasting few'
  refine ⟨Sample.reached, other, lasting, few, few', fun mem => ?_, (first rfl (by omega)).1⟩
  exact (listed.1 mem).2 ⟨one, absent, by decide, promoted⟩

end HeadUnit.Registry
