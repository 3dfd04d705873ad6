import HeadUnit.Roster

/-!
# The records of the roster

The roster is a list of records that is used as a table: a record is put in at the place of its
id, and looked up by it. The lemmas on `insert` and `filter` say what a lookup finds afterwards,
and that the records stay in increasing order of their ids (`Ordered`), so that no two records are
of one user.

The id of a new user is the next one, which is ahead of all others (`Ahead`) as long as it has not
come to the end of the integers.

* `find?_insert`, `find?_filter`: what is found once a record is put in or taken out;
* `Stocked`: the rosters that users have been put into;
* `Adds`, `Removes`: what a creation and a removal make of a roster.
-/

namespace HeadUnit.Roster

/-! ## Lookups -/

theorem id_of_find? {r : Roster} {id : UserId} {u : User} (found : r.find? id = some u) :
    u.id = id := by
  simpa using List.find?_some found

/-- A record that is put in is found, and all others are as before. -/
theorem find?_insert (u : User) (us : List User) (id : UserId) :
    (insert u us).find? (·.id == id) = if u.id = id then some u else us.find? (·.id == id) := by
  induction us with
  | nil =>
    by_cases own : u.id = id
    · simp [insert, own]
    · simp [insert, own]
  | cons v vs ih =>
    unfold insert
    split
    · by_cases own : u.id = id
      · simp [own]
      · simp [List.find?_cons, own]
    · split
      · next same =>
        by_cases own : u.id = id
        · simp [own]
        · simp [own, ← same]
      · next other =>
        rw [List.find?_cons, List.find?_cons, ih]
        by_cases first : v.id = id
        · have apart : u.id ≠ id := fun own => other (own.trans first.symm)
          simp [first, apart]
        · rw [beq_eq_false_iff_ne.2 first]

/-- Once the records of a user are taken out, none is found, and all others are as before. -/
theorem find?_filter (us : List User) (gone id : UserId) :
    (us.filter (·.id != gone)).find? (·.id == id) =
      if id = gone then none else us.find? (·.id == id) := by
  rw [List.find?_filter]
  split
  · next own =>
    rw [List.find?_eq_none]
    intro u _
    simp [own]
  · next other =>
    congr
    funext u
    by_cases own : u.id = id
    · simp [own, other]
    · simp [own]

/-! ## Order -/

/-- The records are in increasing order of their ids. -/
def Ordered (us : List User) : Prop := us.Pairwise (·.id < ·.id)

theorem Ordered.distinct {us : List User} (ordered : Ordered us) : (us.map (·.id)).Nodup :=
  List.pairwise_map.2 (ordered.imp fun less => Int64.ne_of_lt less)

theorem mem_insert {u v : User} {us : List User} (mem : v ∈ insert u us) : v = u ∨ v ∈ us := by
  induction us with
  | nil => exact .inl (List.mem_singleton.1 mem)
  | cons w us ih =>
    unfold insert at mem
    split at mem
    · exact List.mem_cons.1 mem
    · split at mem
      · exact (List.mem_cons.1 mem).imp_right (List.mem_cons_of_mem w)
      · rcases List.mem_cons.1 mem with first | later
        · exact .inr (List.mem_cons.2 (.inl first))
        · exact (ih later).imp_right (List.mem_cons_of_mem w)

theorem Ordered.insert {us : List User} (ordered : Ordered us) (u : User) :
    Ordered (insert u us) := by
  induction us with
  | nil => exact List.pairwise_singleton ..
  | cons v us ih =>
    obtain ⟨first, rest⟩ := List.pairwise_cons.1 ordered
    unfold Roster.insert
    split
    · next less =>
      refine List.pairwise_cons.2 ⟨fun w mem => ?_, ordered⟩
      rcases List.mem_cons.1 mem with rfl | later
      · exact less
      · exact Int64.lt_trans less (first w later)
    · split
      · next same => exact List.pairwise_cons.2 ⟨fun w mem => same ▸ first w mem, rest⟩
      · next more other =>
        have above : v.id < u.id := Int64.lt_of_le_of_ne (Int64.not_lt.1 more) (Ne.symm other)
        refine List.pairwise_cons.2 ⟨fun w mem => ?_, ih rest⟩
        rcases mem_insert mem with rfl | later
        · exact above
        · exact first w later

/-! ## New users -/

/-- The next id, unless it is the end of the integers. -/
theorem lt_next {id : UserId} (room : id ≠ Int64.maxValue) : id < id + 1 := by
  have low := id.le_toInt
  have high := id.toInt_lt
  have last : id.toInt ≠ 2 ^ 63 - 1 := fun e => room (Int64.toInt_inj.1 e)
  have next : (id + 1).toInt = id.toInt + 1 := by
    rw [Int64.toInt_add]
    exact Int.bmod_eq_of_le (by simp; omega) (by simp; omega)
  rw [Int64.lt_iff_toInt_lt, next]
  omega

/-- The next id is ahead of all others. -/
def Ahead (r : Roster) : Prop := ∀ id u, r.find? id = some u → id < r.nextId

/-- A new user has been stored under the next id. -/
structure Adds (r : Roster) (u : User) (r' : Roster) : Prop where
  id : u.id = r.nextId
  find? : ∀ id, r'.find? id = if u.id = id then some u else r.find? id
  ordered : Ordered r.users → Ordered r'.users
  nextId : r'.nextId = r.nextId + 1
  removeFault : r'.removeFault = r.removeFault

/-- A user is gone, if it was there. -/
structure Removes (r : Roster) (id : UserId) (r' : Roster) : Prop where
  find? : ∀ x, r'.find? x = if x = id then none else r.find? x
  ordered : Ordered r.users → Ordered r'.users
  nextId : r'.nextId = r.nextId
  removeFault : r'.removeFault = r.removeFault

section Operations

variable {r r' : Roster} {u : User} {id : UserId}

theorem adds_addNew {name kind : String} {flags : Flags} {group : UserId}
    (added : r.addNew name kind flags group = .ok (u, r')) : Adds r u r' := by
  unfold addNew at added
  split at added
  · cases added
  · cases added
    exact ⟨rfl, find?_insert _ _, fun ordered => ordered.insert _, rfl, rfl⟩

theorem adds_createProfile {name kind : String} {flags : Flags} {parent : UserId}
    (added : r.createProfile name kind flags parent = .ok (u, r')) : Adds r u r' := by
  unfold createProfile at added
  split at added
  · cases added
  · exact adds_addNew added

/-- A removal that succeeds takes out the record of the user. -/
theorem eq_of_remove (gone : r.remove id = .ok r') :
    r.removeFault = none ∧ r' = { r with users := r.users.filter (·.id != id) } := by
  unfold remove at gone
  split at gone
  · cases gone
  · next works =>
    split at gone
    · cases gone
    · cases gone
      exact ⟨works, rfl⟩

theorem removes_remove (gone : r.remove id = .ok r') : Removes r id r' := by
  obtain ⟨_, rfl⟩ := eq_of_remove gone
  exact ⟨find?_filter _ id, fun ordered => ordered.filter _, rfl, rfl⟩

/-- Where removals do not fail, somebody who cannot be removed is not there. -/
theorem find?_of_remove_error {f : Fault} (works : r.removeFault = none)
    (failed : r.remove id = .error f) : r.find? id = none := by
  unfold remove at failed
  rw [works] at failed
  dsimp only at failed
  split at failed
  · next none => exact none
  · cases failed

namespace Adds

theorem self (adds : Adds r u r') : r'.find? u.id = some u := by rw [adds.find?, if_pos rfl]

theorem other (adds : Adds r u r') (other : u.id ≠ id) : r'.find? id = r.find? id := by
  rw [adds.find?, if_neg other]

/-- Nobody has the id of a new user. -/
theorem absent (adds : Adds r u r') (ahead : Ahead r) : r.find? u.id = none := by
  cases found : r.find? u.id with
  | none => rfl
  | some v => exact (Int64.lt_irrefl (adds.id ▸ ahead _ v found)).elim

theorem ahead (adds : Adds r u r') (ahead : Ahead r) (room : r.nextId ≠ Int64.maxValue) :
    Ahead r' := by
  intro id v found
  rw [adds.find?] at found
  rw [adds.nextId]
  split at found
  · next own => rw [← own, adds.id]; exact lt_next room
  · exact Int64.lt_trans (ahead id v found) (lt_next room)

end Adds

namespace Removes

theorem self (removes : Removes r id r') : r'.find? id = none := by
  rw [removes.find?, if_pos rfl]

theorem other (removes : Removes r id r') {x : UserId} (other : x ≠ id) :
    r'.find? x = r.find? x := by rw [removes.find?, if_neg other]

theorem ahead (removes : Removes r id r') (ahead : Ahead r) : Ahead r' := by
  intro x v found
  rw [removes.find?] at found
  split at found
  · cases found
  · exact removes.nextId ▸ ahead x v found

end Removes

end Operations

/-! ## Stock -/

/-- The roster holds the system user and the users that were put into it, none of them with the
    last id there is. -/
inductive Stocked : Roster → Prop
  | fresh : Stocked Roster.fresh
  | put {r : Roster} (stocked : Stocked r) (u : User) (room : u.id ≠ Int64.maxValue) :
      Stocked (r.put u)

namespace Stocked

variable {r : Roster}

theorem removeFault (stocked : Stocked r) : r.removeFault = none := by
  induction stocked with
  | fresh => rfl
  | put _ _ _ ih => exact ih

theorem ordered (stocked : Stocked r) : Ordered r.users := by
  induction stocked with
  | fresh => exact List.pairwise_singleton ..
  | put _ u _ ih => exact ih.insert _

theorem ahead (stocked : Stocked r) : Ahead r := by
  induction stocked with
  | fresh =>
    intro id u found
    obtain rfl := id_of_find? found
    obtain rfl := List.mem_singleton.1 (List.mem_of_find?_eq_some found)
    decide
  | @put r _ u room ih =>
    intro id v found
    have same : (if u.isManagedProfile then u else { u with group := UserId.null }).id = u.id := by
      split <;> rfl
    have found := (find?_insert _ r.users id).symm.trans found
    rw [same] at found
    have next : (r.put u).nextId = if r.nextId ≤ u.id then u.id + 1 else r.nextId := by
      rw [← same]
      rfl
    rw [next]
    split at found
    · next own =>
      subst own
      split
      · exact lt_next room
      · next more => exact Int64.not_le.1 more
    · have old : id < r.nextId := ih id v found
      split
      · next less => exact Int64.lt_trans (Int64.lt_of_lt_of_le old less) (lt_next room)
      · exact old

end Stocked

end HeadUnit.Roster
