import Mathlib.Data.List.Nodup
import HeadUnit.Proofs.Roster.Records
import HeadUnit.Provision

/-!
# Removals

A removal either takes the record of one user out of the roster, which succeeds, or leaves the
roster as it is and says nothing to the vehicle. `Parts` lists the two cases, and `parts_remove`
says that there are no others.

Whether the last admin has gone is counted before the record is taken out. By `counts_last_admin`
the count tells what is left afterwards, since no two records are of one user.
-/

namespace HeadUnit.Provision

/-- If an admin is the only one that is counted, then nobody else is an admin, and conversely. -/
theorem counts_last_admin {us : List User} (distinct : (us.map (·.id)).Nodup) {u : User}
    (mem : u ∈ us) :
    (u.isAdmin && (us.filter User.isAdmin).length == 1) = true ↔
      u.isAdmin = true ∧ ∀ v ∈ us.filter (·.id != u.id), v.isAdmin = false := by
  rw [Bool.and_eq_true, beq_iff_eq]
  refine and_congr_right fun admin => ⟨fun one v other => ?_, fun others => ?_⟩
  · obtain ⟨there, apart⟩ := List.mem_filter.1 other
    obtain ⟨w, only⟩ := List.length_eq_one_iff.1 one
    have counted {x : User} (there : x ∈ us) (admin : x.isAdmin = true) : x = w :=
      List.mem_singleton.1 (only ▸ List.mem_filter.2 ⟨there, admin⟩)
    refine Bool.eq_false_iff.2 fun admin' => ?_
    rw [counted there admin', counted mem admin] at apart
    simp at apart
  · -- All that are counted are the admin itself, which is there once.
    have same : ∀ v ∈ us.filter User.isAdmin, v = u := by
      intro v counted
      obtain ⟨there, admin'⟩ := List.mem_filter.1 counted
      by_contra apart
      have ids : v.id ≠ u.id := fun own => apart (List.inj_on_of_nodup_map distinct there mem own)
      have none := others v (List.mem_filter.2 ⟨there, bne_iff_ne.2 ids⟩)
      exact Bool.noConfusion (none.symm.trans admin')
    have once : (us.filter User.isAdmin).Nodup := (List.Nodup.of_map _ distinct).filter _
    have some : 0 < (us.filter User.isAdmin).length :=
      List.length_pos_of_mem (List.mem_filter.2 ⟨mem, admin⟩)
    rw [List.eq_replicate_of_mem same, List.nodup_replicate] at once
    omega

/-- What a removal can come to. -/
inductive Parts (r : Roster) (current : UserId) (tells : Bool) (id : UserId) : Step Removal → Prop
  /-- The user is in the foreground, or not known, or cannot be removed. -/
  | refused {status : RemoveStatus} (failed : status.isSuccess = false)
      (reason : id = current ∨ r.find? id = none ∨ r.removeFault ≠ none) (notes : List Note) :
      Parts r current tells id ⟨r, notes, ⟨status, none⟩⟩
  /-- The record is taken out, and the vehicle is told if it wants to know. -/
  | removed {r' : Roster} {u : User} (other : id ≠ current) (found : r.find? id = some u)
      (gone : r.remove id = .ok r') {status : RemoveStatus} (success : status.isSuccess = true)
      (last : status = .successfulLastAdminRemoved ↔
        (u.isAdmin && (r.users.filter User.isAdmin).length == 1) = true)
      (notes : List Note) :
      Parts r current tells id ⟨r', notes,
        ⟨status, if tells then some (.remove u (Directory.of current r'.users)) else none⟩⟩

theorem parts_remove (r : Roster) (current : UserId) (tells : Bool) (id : UserId) :
    Parts r current tells id (remove r current tells id) := by
  unfold remove
  split
  · next own => exact .refused rfl (.inl own) _
  · next other =>
    split
    · next unknown => exact .refused rfl (.inr (.inl unknown)) _
    · next u found =>
      dsimp only
      split
      · next f failed =>
        have broken : r.removeFault ≠ none := fun works =>
          Option.some_ne_none u (found.symm.trans (Roster.find?_of_remove_error works failed))
        exact .refused rfl (.inr (.inr broken)) _
      · next r' gone =>
        split
        · next last => exact .removed other found gone rfl (iff_of_true rfl last) _
        · next more =>
          have plain : RemoveStatus.successful ≠ .successfulLastAdminRemoved := nofun
          exact .removed other found gone rfl (iff_of_false plain more) _

end HeadUnit.Provision
