import HeadUnit.Proofs.Service.Persistence

/-!
# Who is listed

The users of the registry are listed in several places: in the registry, in the cached state, in
the persisted state, and in a state that a start holds. `Books.Lists` says one thing of all of
them. If it stands up to whatever the registry does (`Registry.Stable`), it stands up to every move
of the service (`System.Lists.move`).

That no user is listed twice is such a thing (`IsLasting.distinct`).
-/

namespace HeadUnit

/-- What is true of the users in a registry stays true, if only users enter who are such as `who`
    says. -/
structure Registry.Stable (P : List UserId → Prop) (who : UserId → Prop) : Prop where
  distinct {us : List UserId} : P us → us.Nodup
  left {us vs : List UserId} : vs.Sublist us → P us → P vs
  entered {r r' : Registry} {id : UserId} : who id → r.Enters id r' → P r.users → P r'.users

namespace Registry.Stable

variable {P : List UserId → Prop} {who : UserId → Prop} {r : Registry}

theorem works (stable : Stable P who) {c : Registry.Change} (works : r.Works who c)
    (holds : P r.users) : P c.registry.users := by
  cases works.outcome with
  | same alike => exact alike.users ▸ holds
  | entered own other enters evicted =>
    -- Somebody enters, and then others may have to leave.
    have entered := stable.entered own enters holds
    rw [evicted]
    exact stable.left (Registry.shrinks_evict (stable.distinct entered)).users entered
  | left shrinks => exact stable.left shrinks.users holds

theorem setMax (stable : Stable P who) (holds : P r.users) (n : Int64) :
    P (r.setMax n).registry.users := by
  have distinct := stable.distinct holds
  rcases Registry.works_setMax distinct n with ⟨_, same⟩ | bounded
  · exact same ▸ holds
  · exact stable.left (bounded.shrinks distinct).users holds

/-- What a start restores is part of the state. -/
theorem restore (stable : Stable P who) {st : Snapshot} (holds : P (st.background.map (·.user))) :
    P (r.restore st).registry.users := by
  have taken : P (r.takeOver st).users := holds
  rw [(r.restore_eq st).1]
  exact stable.left (Registry.shrinks_evict (stable.distinct taken)).users taken

/-- That no user is listed twice. -/
theorem nodup : Stable List.Nodup fun _ => True :=
  ⟨id, fun sub distinct => sub.nodup distinct, fun _ enters distinct => enters.distinct distinct⟩

/-- That a user is not listed, as long as others enter only. -/
theorem lacks (id : UserId) : Stable (fun us => us.Nodup ∧ id ∉ us) (· ≠ id) where
  distinct holds := holds.1
  left sub holds := ⟨sub.nodup holds.1, fun mem => holds.2 (sub.mem mem)⟩
  entered other enters holds := ⟨enters.distinct holds.1, fun mem =>
    (enters.mem_users mem).elim (fun same => other same.symm) holds.2⟩

end Registry.Stable

namespace Service

open HeadUnit.Service.System

/-! ## Books -/

/-- Whatever lists users is such as `P` says, and whoever was looked up such as `who` says. -/
structure Books.Lists (b : Books) (P : List UserId → Prop) (who : UserId → Prop) : Prop where
  registry : P b.registry.users
  cache : b.store.loaded = true → P (b.store.cache.background.map (·.user))
  repository : ∀ st, b.repository.load = .ok st → P (st.background.map (·.user))
  found : ∀ (i : Nat) (u : User), b.found[i]? = some (some u) → who u.id
  persists : b.persists = true

namespace Books.Lists

variable {P : List UserId → Prop} {who : UserId → Prop} {b b' : Books}

/-- An update changes the state that is cached, or else the one that can be loaded. -/
theorem update (lists : b.Lists P who) (gone : Option Fault) {change : Snapshot → Snapshot}
    (new : ∀ st, P (st.background.map (·.user)) → P ((change st).background.map (·.user))) :
    (b.update gone change).Lists P who := by
  have ready : ∀ st, (if b.store.loaded then .ok b.store.cache else b.repository.load) = .ok st →
      P (st.background.map (·.user)) := by
    intro st found
    split at found
    · next on =>
      cases found
      exact lists.cache on
    · exact lists.repository st found
  unfold Books.update Store.update
  dsimp only
  split
  · exact lists
  · next st found =>
    have changed := new st (ready st found)
    split
    · next r' done =>
      -- What can be loaded now is what was saved, but for the time of it.
      refine { lists with cache := fun _ => changed, repository := fun st' loaded => ?_ }
      obtain ⟨t, rfl⟩ := Repository.loaded_of_saved done loaded
      exact changed
    · exact { lists with cache := fun _ => changed }

theorem change (lists : b.Lists P who) {c : Registry.Change} (new : P c.registry.users) :
    (b.change c).Lists P who := by
  have changed : Lists { b with registry := c.registry } P who := { lists with registry := new }
  unfold Books.change
  cases c.persist with
  | false => exact changed
  | true =>
    show (Books.persist { b with registry := c.registry }).Lists P who
    unfold Books.persist
    split
    · exact changed.update none fun _ _ => new
    · exact changed

/-- Somebody is looked up, or forgotten. -/
theorem look (lists : b.Lists P who) (i : Nat) {looked : Option User}
    (own : ∀ u, looked = some u → who u.id) :
    Lists { b with found := b.found.modify i fun _ => looked } P who := by
  refine { lists with found := fun j u here => ?_ }
  obtain ⟨old, there, same⟩ := origin_modify here
  split at same
  · exact own u same.symm
  · exact lists.found j u (same ▸ there)

theorem step (lists : b.Lists P who) (stable : Registry.Stable P who)
    (known : ∀ id, b.roster.Knows id → who id) (step : Books.Step b b') : b'.Lists P who := by
  cases step with
  | found i e u started unlocked found =>
    refine lists.look i fun v same => ?_
    cases same
    exact known u.id (Roster.id_of_user found ▸ Roster.knows_of_user found)
  | recorded i u found =>
    have works := (Registry.works_add (stable.distinct lists.registry) u b.sessions.current).mono
      (fun id same => (same ▸ lists.found i u found : who id))
    exact (lists.change (stable.works works lists.registry)).look i nofun
  | desk | setting => exact { lists with }

theorem steps (lists : b.Lists P who) (stable : Registry.Stable P who)
    (known : ∀ id, b.roster.Knows id → who id) (steps : Books.Steps b b') : b'.Lists P who := by
  induction steps with
  | refl => exact lists
  | tail before step ih => exact ih.step stable ((Books.Steps.unmoved before).1 ▸ known) step

end Books.Lists

/-! ## Runs -/

/-- Whatever lists users is such as `P` says, states that a start holds included. -/
structure System.Lists (s : System) (P : List UserId → Prop) (who : UserId → Prop) : Prop where
  books : s.books.Lists P who
  held : ∀ st, s.Holds st → P (st.background.map (·.user))

section Moves

variable {P : List UserId → Prop} {who : UserId → Prop} {s : System} {m : Move} {b : Books}

theorem System.Lists.deal (lists : s.Lists P who) (stable : Registry.Stable P who)
    (known : ∀ id, s.roster.Knows id → who id) (own : ∀ r, m ≠ .repository r) (deal : Deal s m b) :
    b.Lists P who := by
  obtain ⟨books, held⟩ := lists
  cases deal with
  | behind steps => exact books.steps stable known steps
  | elapsed | asked | worked | enrolled | withdrawn | edited => exact { books with }
  | @committed i d c sessions b fault here doing foreground steps =>
    have switched : Books.Lists { s.books with sessions := sessions } P who := { books with }
    exact { switched.steps stable known steps with }
  | @served registry sessions b alike bound foreground steps =>
    have served : Books.Lists { s.books with registry := registry, sessions := sessions } P who :=
      { books with registry := alike.users ▸ books.registry }
    exact served.steps stable known steps
  | @removed ctx id roster move other gone =>
    have edited : Books.Lists { s.books with roster := roster } P who := { books with }
    exact edited.change (stable.left (s.registry.shrinks_forget id).users books.registry)
  | bounded => exact books.change (stable.setMax books.registry _)
  | recorded gone id => exact books.update gone fun _ holds => holds
  | @cached c st mem work =>
    exact { books with cache := fun _ => held st ⟨c, mem, by rw [work]; rfl⟩ }
  | @restored c st mem work =>
    have restored := stable.restore (r := s.registry) (held st ⟨c, mem, by rw [work]; rfl⟩)
    exact { books with registry := restored }
  | built =>
    refine { books with found := fun i u here => ?_ }
    rcases List.mem_append.1 (List.mem_of_getElem? here) with old | new
    · obtain ⟨j, there⟩ := List.mem_iff_getElem?.1 old
      exact books.found j u there
    · cases List.mem_singleton.1 new
  | @replaced r move => exact absurd move (own r)

/-- It stays so in every move, if nobody else is known. -/
theorem System.Lists.move {h : History} (lists : s.Lists P who) (stable : Registry.Stable P who)
    (run : IsRun h s) (proper : m.Proper) (known : ∀ id, s.roster.Knows id → who id)
    (own : ∀ r, m ≠ .repository r) : (Moment.mk s m).after.Lists P who := by
  have books := lists.deal stable known own (Moment.mk s m).deal
  refine ⟨books, fun st holds => ?_⟩
  -- A state that a start holds now was held before, or read just now, or is an empty one.
  rcases run.holds_back proper holds with before | read | ⟨rfl, -⟩
  · exact lists.held st before
  · exact books.repository st read
  · exact stable.left (List.nil_sublist _) books.registry

end Moves

/-- In a run over a repository that works, no user is listed twice. -/
theorem IsLasting.distinct {h : History} {s : System} (lasting : IsLasting h s) :
    s.Lists List.Nodup fun _ => True := by
  induction lasting with
  | new made found distinct saves =>
    rw [eq_fresh_of_new made]
    refine ⟨⟨List.nodup_nil, nofun, fun st found' => ?_, nofun, rfl⟩, fun st ⟨c, mem, _⟩ => ?_⟩
    · cases found.symm.trans found'
      exact distinct
    · exact absurd mem List.not_mem_nil
  | step lasting proper own works ih =>
    exact ih.move .nodup lasting.isRun proper (fun _ _ => trivial) own

end Service

end HeadUnit
