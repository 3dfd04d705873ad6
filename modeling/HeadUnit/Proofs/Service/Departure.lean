import HeadUnit.Proofs.Provision.Removal
import HeadUnit.Proofs.Registry.Entry
import HeadUnit.Proofs.Service.Deals

/-!
# The removal of a user

Four parts of the system have to do with the removal of a user: the roster, which holds its
record, the registry, which may list it, the state that is persisted of the registry, and the
vehicle, which wants to know. They change together or not at all (`contract_removeUser`).

What the vehicle gets to know is read off what is *heard* outside, i.e., off all effects but
reports and states for the repository.
-/

namespace HeadUnit

/-! ## The registry -/

namespace Registry

/-- The registry as if it had never heard of the user. -/
def without (r : Registry) (id : UserId) : Registry :=
  { r with
    entries := r.entries.filter (·.user ≠ id)
    restarted := r.restarted.filter (· != id)
    promoted := if r.promoted = id then UserId.null else r.promoted }

variable {r : Registry}

theorem eraseUser_eq_filter {es : List Ranked} (distinct : (es.map (·.user)).Nodup) (id : UserId) :
    eraseUser id es = es.filter (·.user ≠ id) := by
  rw [← others_eraseUser]
  have others : ∀ e ∈ eraseUser id es, e.user ≠ id := fun e mem own =>
    not_mem_users_eraseUser distinct (List.mem_map.2 ⟨e, mem, own⟩)
  exact (List.filter_eq_self.2 (by simpa using others)).symm

/-- Whoever is not listed has left no trace, if only entries are promoted and restarted. -/
theorem without_of_not_mem (promoted : r.promoted = UserId.null ∨ r.promoted ∈ r.users)
    (restarted : ∀ user ∈ r.restarted, user ∈ r.users) {id : UserId} (absent : id ∉ r.users) :
    r.without id = r := by
  have entries : r.entries.filter (·.user ≠ id) = r.entries :=
    List.filter_eq_self.2 fun e mem => by
      simpa using fun own => absent (List.mem_map.2 ⟨e, mem, own⟩)
  have others : r.restarted.filter (· != id) = r.restarted :=
    List.filter_eq_self.2 fun user mem => bne_iff_ne.2 fun own =>
      absent (own ▸ restarted user mem)
  have first : (if r.promoted = id then UserId.null else r.promoted) = r.promoted := by
    split
    · next own =>
      rcases promoted with nobody | listed
      · exact nobody.symm
      · exact absurd (own ▸ listed) absent
    · rfl
  rw [without, entries, others, first]

/-- The registry forgets the user, and persists that if it had an entry. -/
theorem forget_eq (distinct : r.users.Nodup)
    (promoted : r.promoted = UserId.null ∨ r.promoted ∈ r.users)
    (restarted : ∀ user ∈ r.restarted, user ∈ r.users) (id : UserId) :
    (r.forget id).1.registry = r.without id ∧ ((r.forget id).1.persist = true ↔ id ∈ r.users) := by
  unfold forget
  split
  · next listed =>
    refine ⟨?_, iff_of_true rfl (List.contains_iff_mem.1 listed)⟩
    rw [without, ← eraseUser_eq_filter distinct]
  · next absent =>
    rw [List.contains_iff_mem] at absent
    exact ⟨(without_of_not_mem promoted restarted absent).symm, iff_of_false nofun absent⟩

end Registry

namespace Service

/-! ## What is heard outside -/

/-- Reports, and states that are handed to the repository, are not heard outside. -/
def Effect.isInternal : Effect → Bool
  | .note _ | .offered _ => true
  | _ => false

namespace System

/-- What is heard outside, in order. -/
def heard (s : System) : List Effect := s.out.filter (!·.isInternal)

variable (s : System)

theorem heard_emit (e : Effect) : (s.emit e).heard = s.heard ++ [e].filter (!·.isInternal) :=
  List.filter_append ..

@[simp]
theorem heard_note (n : Note) : (s.note n).heard = s.heard := by
  simp [heard, note, Effect.isInternal]

/-- Neither notes nor what is stored are heard. -/
theorem sparing_heard : Sparing (fun _ => True) (·.isInternal = true)
    fun s t => t.heard = s.heard where
  refl _ := rfl
  trans one other := other.trans one
  noted s n _ := heard_note s n
  said s e internal := by simp [heard_emit, internal]
  stored _ _ _ := rfl
  offered _ := rfl

@[simp]
theorem heard_notes (ns : List Note) : (s.notes ns).heard = s.heard :=
  sparing_heard.notes s fun _ _ => trivial

@[simp]
theorem heard_finish (id : Nat) (r : Result) :
    (s.finish id r).heard = s.heard ++ [.returned id r] := heard_emit ..

theorem heard_applyChange (c : Registry.Change) : (s.applyChange c).heard = s.heard :=
  sparing_heard.applyChange s (fun _ _ => trivial) fun _ => trivial

/-! ## The contract -/

/-- A removal has come to nothing: the books are as before, and there are but reports before it
    returns. -/
structure Declines (s : System) (call : Nat) (status : RemoveStatus) (s' : System) : Prop where
  books : s'.books = s.books
  out : ∃ ns : List Note, s'.out = s.out ++ ns.map .note ++ [.returned call (.removed status)]

/-- A removal has taken out the user `u`, everywhere. -/
structure Drops (s : System) (u : User) (s' : System) : Prop where
  roster : s'.roster = { s.roster with users := s.roster.users.filter (·.id != u.id) }
  registry : s'.registry = s.registry.without u.id
  /-- If the registry had an entry of the user, its new state is persisted, and else nothing. -/
  persisted : (s'.store, s'.repository) =
    if u.id ∈ s.registry.users ∧ s.persists = true then
      let saved := s.store.update s.repository none s.now (Books.recorded s'.registry)
      (saved.store, saved.repository)
    else (s.store, s.repository)
  sessions : s'.sessions = s.sessions

variable {s}

/-- What the vehicle gets to know of a removal is the notice. -/
theorem heard_removeUser (call : Nat) (id : UserId) :
    let removal := (Provision.remove s.roster s.sessions.current s.capabilities.remove id).value
    (s.removeUser call id).heard =
      s.heard ++ removal.notice.toList.map .notify ++ [.returned call (.removed removal.status)] := by
  unfold removeUser
  generalize Provision.remove s.roster s.sessions.current s.capabilities.remove id = st
  obtain ⟨roster, notes, status, notice⟩ := st
  have applied : (if status.isSuccess = true then
      ({ s with roster := roster } : System).applyChange (s.registry.forget id).1
      else { s with roster := roster }).heard = s.heard := by
    split
    · exact heard_applyChange ..
    · rfl
  dsimp only
  rw [heard_finish, heard_notes]
  cases notice with
  | none => rw [applied, Option.toList_none, List.map_nil, List.append_nil]
  | some n =>
    rw [heard_emit, applied]
    rfl

/-- A removal that is refused comes to nothing. -/
theorem declines_removeUser {call : Nat} {id : UserId} {notes : List Note} {status : RemoveStatus}
    (refused : Provision.remove s.roster s.sessions.current s.capabilities.remove id =
      ⟨s.roster, notes, ⟨status, none⟩⟩) (failed : status.isSuccess = false) :
    s.Declines call status (s.removeUser call id) := by
  have only : s.removeUser call id = (s.notes notes).finish call (.removed status) := by
    unfold removeUser
    rw [refused]
    simp [failed]
  rw [only]
  refine ⟨by rw [books_finish, books_notes], notes, ?_⟩
  rw [notes_eq]
  rfl

section Contract

variable (distinct : s.registry.users.Nodup)
  (promoted : s.registry.promoted = UserId.null ∨ s.registry.promoted ∈ s.registry.users)
  (restarted : ∀ user ∈ s.registry.restarted, user ∈ s.registry.users)

include distinct promoted restarted

/-- A removal that succeeds takes out the user. -/
theorem drops_removeUser {call : Nat} {u : User} {r' : Roster} {notes : List Note}
    {status : RemoveStatus} {notice : Option Vehicle.Notice}
    (removed : Provision.remove s.roster s.sessions.current s.capabilities.remove u.id =
      ⟨r', notes, ⟨status, notice⟩⟩)
    (roster : r' = { s.roster with users := s.roster.users.filter (·.id != u.id) })
    (success : status.isSuccess = true) : s.Drops u (s.removeUser call u.id) := by
  obtain ⟨forgotten, persists⟩ := Registry.forget_eq distinct promoted restarted u.id
  have books : (s.removeUser call u.id).books =
      Books.change { s.books with roster := r' } (s.registry.forget u.id).1 := by
    rw [books_removeUser, removed]
    exact if_pos success
  have registry : (s.removeUser call u.id).registry = s.registry.without u.id := by
    have same := congrArg Books.registry books
    rw [Books.registry_change, forgotten] at same
    exact same
  obtain ⟨store, repository, others⟩ :=
    Books.change_eq { s.books with roster := r' } (s.registry.forget u.id).1
  refine ⟨?_, registry, ?_, ?_⟩
  · rw [← roster]
    exact congrArg Books.roster (books.trans others)
  · have persisted : ((s.removeUser call u.id).store, (s.removeUser call u.id).repository) = _ :=
      congrArg (fun b : Books => (b.store, b.repository)) books
    rw [persisted, registry, ← forgotten]
    unfold Books.change Books.persist
    by_cases listed : u.id ∈ s.registry.users
    · rw [if_pos (persists.2 listed)]
      cases on : s.persists with
      | true =>
        rw [if_pos (show s.books.persists = true from on), if_pos ⟨listed, rfl⟩]
        rfl
      | false =>
        rw [if_neg (show ¬s.books.persists = true from Bool.eq_false_iff.1 on),
          if_neg (fun both => nomatch both.2)]
        rfl
    · rw [if_neg (mt persists.1 listed), if_neg (fun both => listed both.1)]
      rfl
  · exact congrArg Books.sessions (books.trans others)

/-- The contract of a removal. It succeeds if and only if the user is known, not in the foreground,
    and can be removed.

    * If it fails, then nobody is told, and all is as before.
    * If it succeeds, then roster and registry lose exactly this user. The vehicle is told once if
      it wants to know, with the users that are left. The status says that the last admin has gone
      if and only if the user was an admin and nobody who is left is. -/
theorem contract_removeUser (known : (s.roster.users.map (·.id)).Nodup) (call : Nat) (id : UserId) :
    ∃ (status : RemoveStatus) (notices : List Vehicle.Notice),
      (s.removeUser call id).heard =
        s.heard ++ notices.map .notify ++ [.returned call (.removed status)] ∧
      (status.isSuccess = true ↔
        id ≠ s.sessions.current ∧ s.roster.Knows id ∧ s.roster.removeFault = none) ∧
      (status.isSuccess = false → notices = [] ∧ s.Declines call status (s.removeUser call id)) ∧
      (status.isSuccess = true → ∃ u, s.roster.find? id = some u ∧
        s.Drops u (s.removeUser call id) ∧
        notices = (if s.capabilities.remove then
          [.remove u (s.removeUser call id).directory] else []) ∧
        (∀ v ∈ (s.removeUser call id).directory.existing, v.id ≠ id) ∧
        (status = .successfulLastAdminRemoved ↔
          u.isAdmin = true ∧ ∀ v ∈ (s.removeUser call id).roster.users, v.isAdmin = false)) := by
  have heard := s.heard_removeUser call id
  have parts := Provision.parts_remove s.roster s.sessions.current s.capabilities.remove id
  generalize removed :
    Provision.remove s.roster s.sessions.current s.capabilities.remove id = st at heard parts
  refine ⟨st.value.status, st.value.notice.toList, heard, ?_⟩
  cases parts with
  | @refused status failed reason notes =>
    refine ⟨⟨fun success => absurd (failed.symm.trans success) Bool.false_ne_true, ?_⟩, fun _ => ?_,
      fun success => absurd (failed.symm.trans success) Bool.false_ne_true⟩
    · rintro ⟨other, found, works⟩
      rcases reason with own | unknown | broken
      · exact absurd own other
      · rw [Roster.Knows, unknown] at found
        cases found
      · exact absurd works broken
    · exact ⟨rfl, declines_removeUser removed failed⟩
  | @removed r' u other found gone status success last notes =>
    obtain ⟨works, roster⟩ := Roster.eq_of_remove gone
    obtain rfl : u.id = id := Roster.id_of_find? found
    have drops : s.Drops u (s.removeUser call u.id) :=
      drops_removeUser distinct promoted restarted removed roster success
    have left : (s.removeUser call u.id).roster.users = s.roster.users.filter (·.id != u.id) :=
      congrArg Roster.users drops.roster
    refine ⟨⟨fun _ => ⟨other, Option.isSome_of_eq_some found, works⟩, fun _ => success⟩,
      fun failed => absurd (failed.symm.trans success) Bool.false_ne_true,
      fun _ => ⟨u, found, drops, ?_, ?_, ?_⟩⟩
    · have directory : (s.removeUser call u.id).directory =
          Directory.of s.sessions.current r'.users := by
        rw [System.directory, drops.sessions, left, roster]
      rw [directory]
      cases s.capabilities.remove <;> rfl
    · intro v listed
      rw [System.directory, Directory.of, left] at listed
      exact bne_iff_ne.1 (List.mem_filter.1 listed).2
    · rw [left, last]
      exact Provision.counts_last_admin known (List.mem_of_find?_eq_some found)

end Contract

end System

namespace Departure

/-- The last admin. -/
def ann : User := ⟨10, "Ann", Kind.full, Flags.admin, UserId.null, true⟩

/-- Ann, who was promoted last, is in the background. -/
def system : System :=
  { System.fresh Config.default with
    roster := ⟨[ann, ⟨11, "Ben", Kind.full, Flags.none, UserId.null, true⟩], 12, none, none⟩
    sessions := Sessions.fresh 11
    registry := ⟨[⟨10, 2⟩, ⟨11, 1⟩], 2, 10, 5, [10, 11]⟩ }

end Departure

open Departure in
/-- Ann is removed; the registry keeps Ben, and the vehicle is told. -/
theorem removeUser_of_sample : system.registry.users.Nodup ∧
    (system.registry.promoted = UserId.null ∨ system.registry.promoted ∈ system.registry.users) ∧
    (∀ user ∈ system.registry.restarted, user ∈ system.registry.users) ∧
    (system.roster.users.map (·.id)).Nodup ∧
    (system.removeUser 1 10).registry = ⟨[⟨11, 1⟩], 2, UserId.null, 5, [11]⟩ ∧
    (system.removeUser 1 10).heard =
      [.notify (.remove ann (system.removeUser 1 10).directory),
        .returned 1 (.removed .successfulLastAdminRemoved)] := by
  have distinct : system.registry.users.Nodup := by decide
  have promoted : system.registry.promoted = UserId.null ∨
    system.registry.promoted ∈ system.registry.users := by decide
  have restarted : ∀ user ∈ system.registry.restarted, user ∈ system.registry.users :=
    fun _ member => member
  have known : (system.roster.users.map (·.id)).Nodup := by decide
  obtain ⟨status, notices, heard, possible, _, removed⟩ :=
    System.contract_removeUser distinct promoted restarted known 1 10
  obtain ⟨u, found, drops, told, _, last⟩ := removed (possible.2 (by decide))
  obtain rfl : ann = u := Option.some.inj found
  have verdict : status = .successfulLastAdminRemoved := by
    refine last.2 ⟨by decide, ?_⟩
    rw [drops.roster]
    decide
  refine ⟨distinct, promoted, restarted, known, drops.registry.trans (by decide), ?_⟩
  rw [heard, told, verdict]
  rfl

end Service

end HeadUnit
