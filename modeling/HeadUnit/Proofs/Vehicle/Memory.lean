import HeadUnit.Proofs.Vehicle.Slots

/-!
# What the simulated vehicle remembers

The vehicle keeps a value for each association type of each user. A write that is answered
changes the values of its user, the last one of a type being what counts
(`association_write`), and a notice of a removal wipes those of the removed user
(`association_notify`). Nothing else touches them.

`Asked` lists what can come of a question at once: it is refused, it is answered, or it is in
progress. `ask_cases` says that the list is complete.
-/

namespace HeadUnit.Vehicle.Simulator

variable {s t u : Simulator} {id : Nat} {request : Request}

/-! ## Writes and removals -/

/-- The value that is stored for a type of a user, 0 if there is none. -/
def stored (as : List ((UserId × Int64) × Int64)) (user : UserId) (type : Int64) : Int64 :=
  ((as.find? (·.1 == (user, type))).map (·.2)).getD 0

theorem association_eq (s : Simulator) (user : UserId) (type : Int64) :
    s.association user type = stored s.associations user type := rfl

/-- What is stored is not touched where other keys are taken out. -/
theorem stored_filter (keep : UserId × Int64 → Bool) {as : List ((UserId × Int64) × Int64)}
    {user : UserId} {type : Int64} (kept : keep (user, type) = true) :
    stored (as.filter fun a => keep a.1) user type = stored as user type := by
  rw [stored, List.find?_filter, stored]
  congr 3
  funext a
  by_cases here : a.1 = (user, type)
  · simp [here, kept]
  · simp [here]

theorem stored_associate (as : List ((UserId × Int64) × Int64)) (writer user : UserId)
    (p : Int64 × Int64) (type : Int64) : stored (associate writer as p) user type =
      if writer = user ∧ p.1 = type then p.2 else stored as user type := by
  by_cases same : writer = user ∧ p.1 = type
  · rw [if_pos same, stored, associate, List.find?_cons_of_pos]
    · rfl
    · simp [same.1, same.2]
  · have other : (writer, p.1) ≠ (user, type) := by simpa using same
    rw [if_neg same, stored, associate, List.find?_cons_of_neg (by simpa using same)]
    exact stored_filter (· != (writer, p.1)) (bne_iff_ne.2 other.symm)

/-- Of the values written for a type, the last one counts. -/
theorem stored_foldl (ps : List (Int64 × Int64)) (as : List ((UserId × Int64) × Int64))
    (writer user : UserId) (type : Int64) : stored (ps.foldl (associate writer) as) user type =
      if writer = user then (ps.reverse.lookup type).getD (stored as user type)
      else stored as user type := by
  induction ps generalizing as with
  | nil => simp
  | cons p ps ih =>
    obtain ⟨written, value⟩ := p
    rw [List.foldl_cons, ih, stored_associate, List.reverse_cons, List.lookup_append]
    by_cases own : writer = user
    · cases later : ps.reverse.lookup type with
      | some v => simp [own]
      | none =>
        by_cases same : written = type
        · simp [own, same]
        · simp [own, same, List.lookup_cons, beq_eq_false_iff_ne.2 (Ne.symm same)]
    · simp [own]

/-- What a write that is answered makes of the associations. -/
theorem association_write (s : Simulator) (token : Token) (writer : User)
    (types values : List Int64) (user : UserId) (type : Int64) :
    (s.answer token (.setAssociations writer types values)).2.association user type =
      if writer.id = user then ((types.zip values).reverse.lookup type).getD (s.association user type)
      else s.association user type :=
  stored_foldl ..

/-- What a notice makes of the associations. -/
theorem association_notify (s : Simulator) (n : Notice) (user : UserId) (type : Int64) :
    (s.notify n).1.association user type =
      match n with
      | .remove removed _ => if removed.id = user then 0 else s.association user type
      | _ => s.association user type := by
  cases n with
  | postSwitch => rfl
  | legacySwitch => rfl
  | remove removed users =>
    rw [notify, association_eq]
    dsimp only
    by_cases same : removed.id = user
    · have wiped : (s.associations.filter (·.1.1 != removed.id)).find? (·.1 == (user, type)) =
          none := by
        simp +contextual [List.find?_eq_none, same]
      rw [if_pos same, stored, wiped]
      rfl
    · rw [if_neg same]
      exact stored_filter (·.1 != removed.id) (bne_iff_ne.2 (Ne.symm same))

theorem calls_notify (s : Simulator) (n : Notice) : (s.notify n).1.calls = s.calls := by
  cases n <;> rfl

/-! ## Questions -/

/-- What comes of a question at once. -/
inductive Asked (s : Simulator) (id : Nat) (request : Request) : Taken → Simulator → Prop
  | refused {f : Fault} {t : Simulator} (calls : t.calls = s.calls)
      (associations : t.associations = s.associations) :
      Asked s id request (.answered request.blank (some f)) t
  | served {u t : Simulator} {token : Token} (before : u.associations = s.associations)
      (calls : t.calls = s.calls)
      (after : t.associations = (u.answer token request).2.associations) :
      Asked s id request (.answered (u.answer token request).1 none) t
  | waits {t : Simulator} {c : Pending} (own : c.id = id) (asked : c.request = request)
      (lasting : isPrompt request = false) (calls : t.calls = s.calls ++ [c])
      (associations : t.associations = s.associations) : Asked s id request .inProgress t

theorem associations_leave (s : Simulator) (id : Nat) :
    (s.leave id).associations = s.associations := by
  rw [leave]
  split
  case h_1 => rfl
  case h_2 => rw [release_eq]

/-- A call that has begun is found, as no other one has its number. -/
theorem Enters.find? (new : ∀ c ∈ s.calls, c.id ≠ id) (enters : Enters s id request t) :
    ∃ c : Pending, t.calls.find? (·.id == id) = some c ∧ c.id = id ∧ c.request = request ∧
      t.calls = s.calls ++ [c] := by
  obtain ⟨token, due, calls⟩ := enters.calls
  have absent : s.calls.find? (·.id == id) = none :=
    List.find?_eq_none.2 fun c mem => by simpa using new c mem
  refine ⟨⟨id, request, token, due⟩, ?_, rfl, rfl, calls⟩
  rw [calls, List.find?_append, absent]
  simp

/-- When a call that has just begun returns, the others are in progress as before. -/
theorem Enters.calls_leave (new : ∀ c ∈ s.calls, c.id ≠ id) (enters : Enters s id request t) :
    (t.leave id).calls = s.calls := by
  obtain ⟨c, -, own, -, calls⟩ := enters.find? new
  rw [Simulator.calls_leave, calls, List.filter_append, List.filter_eq_self.2 (by simpa using new)]
  simp [own]

theorem served_of_serve {r : Response} (served : t.serve id = some (r, u)) {c : Pending}
    (found : t.calls.find? (·.id == id) = some c) : t.answer c.token c.request = (r, u) := by
  rw [serve, found] at served
  exact Option.some.inj served

/-- A question that nobody else has the number of is refused, is answered, or waits. -/
theorem ask_cases (s : Simulator) (id : Nat) (request : Request) (gone : Option Fault) (now : Int)
    (new : ∀ c ∈ s.calls, c.id ≠ id) :
    Asked s id request (s.ask id request gone now).1 (s.ask id request gone now).2.1 := by
  rw [ask]
  cases began : s.enter id request now with
  | error refusal => exact .refused rfl rfl
  | ok t =>
    have enters := enters_of_ok began
    obtain ⟨c, found, own, asked, calls⟩ := enters.find? new
    dsimp only
    split
    case h_1 =>
      exact .refused (enters.calls_leave new) ((associations_leave t id).trans enters.associations)
    case h_2 =>
      split
      case h_1 r v answered =>
        split at answered
        case isFalse => cases answered
        case isTrue =>
          obtain ⟨⟨r, u⟩, served, left⟩ := Option.map_eq_some_iff.1 answered
          cases left
          have said := served_of_serve served found
          have spoken : r = (t.answer c.token request).1 := by rw [← asked, said]
          rw [spoken]
          refine .served enters.associations ?_ ?_
          · rw [Simulator.calls_leave, (alike_serve served).1, ← Simulator.calls_leave]
            exact enters.calls_leave new
          · rw [associations_leave, ← asked, said]
      case h_2 unanswered =>
        refine .waits own asked ?_ calls enters.associations
        by_contra prompt
        rw [if_pos (by simp [prompt]), finish, serve, found] at unanswered
        cases unanswered

/-- A read is answered at once, with what is stored, or refused. -/
theorem Asked.read {user : User} {types : List Int64} {taken : Taken}
    (asked : Asked s id (.getAssociations user types) taken t) :
    t.calls = s.calls ∧ t.associations = s.associations ∧ ∃ r f, taken = .answered r f ∧
      (f = none → r = .association ⟨some (types.map (s.association user.id)), ""⟩) := by
  cases asked with
  | refused calls associations => exact ⟨calls, associations, _, _, rfl, nofun⟩
  | @served u _ _ before calls after =>
    have same : u.association user.id = s.association user.id := by
      funext type
      rw [association_eq, before, association_eq]
    exact ⟨calls, after.trans before, _, _, rfl, fun _ => by rw [answer, same]⟩
  | waits _ _ lasting => cases lasting

/-- A write is answered at once, and done, or refused, or it waits. -/
theorem Asked.write {writer : User} {types values : List Int64} {taken : Taken}
    (asked : Asked s id (.setAssociations writer types values) taken t) :
    (∃ r f, taken = .answered r (some f) ∧ t.calls = s.calls ∧ t.associations = s.associations) ∨
    (∃ r, taken = .answered r none ∧ t.calls = s.calls ∧
      ∀ user type, t.association user type = if writer.id = user then
        ((types.zip values).reverse.lookup type).getD (s.association user type)
        else s.association user type) ∨
    (taken = .inProgress ∧ t.associations = s.associations ∧ ∃ c : Pending, c.id = id ∧
      c.request = .setAssociations writer types values ∧ t.calls = s.calls ++ [c]) := by
  cases asked with
  | refused calls associations => exact .inl ⟨_, _, rfl, calls, associations⟩
  | @served u _ token before calls after =>
    refine .inr (.inl ⟨_, rfl, calls, fun user type => ?_⟩)
    have same : u.association user type = s.association user type := by
      rw [association_eq, before, association_eq]
    rw [association_eq, after, ← association_eq, association_write, same]
  | waits own asked _ calls associations =>
    exact .inr (.inr ⟨rfl, associations, _, own, asked, calls⟩)

/-- A call that gets its answer is one in progress. -/
theorem finish_cases {r : Response} (finished : s.finish id = some (r, t)) :
    ∃ c ∈ s.calls, c.id = id ∧ t.calls = s.calls.filter (·.id != id) ∧
      t.associations = (s.answer c.token c.request).2.associations := by
  obtain ⟨⟨r, u⟩, served, left⟩ := Option.map_eq_some_iff.1 finished
  obtain ⟨c, found, answered⟩ := Option.map_eq_some_iff.1 served
  cases left
  refine ⟨c, List.mem_of_find?_eq_some found, by simpa using List.find?_some found, ?_, ?_⟩
  · rw [Simulator.calls_leave, (alike_serve served).1]
  · rw [associations_leave, answered]

end HeadUnit.Vehicle.Simulator
