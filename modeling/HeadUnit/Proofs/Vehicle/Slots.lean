import Mathlib.Data.List.Nodup
import HeadUnit.Vehicle.Simulator

/-!
# One call of a kind at a time

A call of the simulated vehicle is in progress from the moment it begins (`enter`) until it
returns (`leave`). It gets its answer in between (`serve`), or returns without one, because its
caller has canceled it or has a deadline behind it; the calls of all callers do so in any order.
A run (`IsRun`) is such an interleaving, from a vehicle without calls.

The calls in progress and the slots keep to each other (`Seated`): a slot is held by a call in
progress that needs it, and every such call holds one.

  * `Seated.move`, `IsRun.seated`: one move keeps the slots in order, hence a run does.
  * `enter_eq_pending_iff`: a call is refused just when another one of its kind is in progress.
  * `mem_slots_leave`: a call that returns frees its own slot and no other.
  * `IsRun.ask`, `IsRun.finish`: what callers and time do to the vehicle are runs of such moves.
  * `one_call_per_kind`: all of it, after any run.
-/

namespace HeadUnit.Vehicle

/-- The slot that a call in progress needs. -/
def Pending.kind? (c : Pending) : Option RequestKind := Simulator.slotOf? c.request

namespace Simulator

/-- The calls of a kind that are in progress. -/
def inProgress (s : Simulator) (kind : RequestKind) : List Pending :=
  s.calls.filter (·.kind? == some kind)

/-- One thing that can happen to the vehicle. -/
inductive Move
  /-- A call begins, or is refused. -/
  | enter (id : Nat) (request : Request) (now : Int)
  /-- A call gets its answer. -/
  | serve (id : Nat)
  /-- A call returns, with an answer or without. -/
  | leave (id : Nat)
  | notify (notice : Notice)
  | initiate (target : UserId)
  | veto (target : UserId) (message : String)
  | reject (message : String)
  | inform (info : InitialInfo)

/-- What a move makes of the vehicle; one that is not possible changes nothing. -/
def move (s : Simulator) : Move → Simulator
  | .enter id request now => (s.enter id request now).toOption.getD s
  | .serve id => ((s.serve id).map (·.2)).getD s
  | .leave id => s.leave id
  | .notify notice => (s.notify notice).1
  | .initiate target => ((s.initiate target).toOption.map (·.2.1)).getD s
  | .veto target message => s.veto target message
  | .reject message => { s with rejection := message }
  | .inform info => { s with initial := info }

/-- A call that begins has a number that no call in progress has. -/
def Move.Allowed (s : Simulator) : Move → Prop
  | .enter id .. => ∀ c ∈ s.calls, c.id ≠ id
  | _ => True

instance (s : Simulator) : (m : Move) → Decidable (m.Allowed s)
  | .enter id .. => inferInstanceAs (Decidable (∀ c ∈ s.calls, c.id ≠ id))
  | .serve _ | .leave _ | .notify _ | .initiate _ | .veto .. | .reject _ | .inform _ =>
    isTrue trivial

/-- `s` comes about when a vehicle without calls makes the moves in order. -/
inductive IsRun : List Move → Simulator → Prop
  | idle {s : Simulator} : s.calls = [] → s.slots = [] → IsRun [] s
  | snoc {ms : List Move} {s : Simulator} {m : Move} : IsRun ms s → m.Allowed s →
      IsRun (ms ++ [m]) (s.move m)

/-- The slots are held by the calls in progress that need them. -/
structure Seated (s : Simulator) : Prop where
  distinct : (s.calls.map (·.id)).Nodup
  held : ∀ kind id, (kind, id) ∈ s.slots ↔ ∃ c ∈ s.calls, c.id = id ∧ c.kind? = some kind
  single : (s.slots.map (·.1)).Nodup

variable {s t : Simulator} {id : Nat} {request : Request} {now : Int} {kind : RequestKind}

/-! ## Slots and their holders -/

theorem holder?_eq_none_iff : s.holder? kind = none ↔ ∀ id, (kind, id) ∉ s.slots := by
  rw [holder?, Option.map_eq_none_iff, List.find?_eq_none]
  constructor
  · intro free id mem
    simpa using free _ mem
  · rintro free ⟨k, id⟩ mem same
    rw [beq_iff_eq] at same
    exact free id (same ▸ mem)

theorem mem_slots_of_holder? (holds : s.holder? kind = some id) : (kind, id) ∈ s.slots := by
  obtain ⟨⟨k, i⟩, found, rfl⟩ := Option.map_eq_some_iff.1 holds
  have same : k = kind := by simpa using List.find?_some found
  exact same ▸ List.mem_of_find?_eq_some found

theorem Seated.holder?_eq_some_iff (seated : s.Seated) :
    s.holder? kind = some id ↔ (kind, id) ∈ s.slots := by
  refine ⟨mem_slots_of_holder?, fun mem => ?_⟩
  cases holds : s.holder? kind with
  | none => exact absurd mem (holder?_eq_none_iff.1 holds id)
  | some other =>
    have same := List.inj_on_of_nodup_map seated.single (mem_slots_of_holder? holds) mem rfl
    exact congrArg some (Prod.mk.inj same).2

theorem mem_inProgress {c : Pending} :
    c ∈ s.inProgress kind ↔ c ∈ s.calls ∧ c.kind? = some kind := by
  simp [inProgress]

theorem Seated.held_iff (seated : s.Seated) :
    (kind, id) ∈ s.slots ↔ ∃ c ∈ s.inProgress kind, c.id = id := by
  rw [seated.held]
  constructor
  · rintro ⟨c, mem, own, needs⟩
    exact ⟨c, mem_inProgress.2 ⟨mem, needs⟩, own⟩
  · rintro ⟨c, mem, own⟩
    exact ⟨c, (mem_inProgress.1 mem).1, own, (mem_inProgress.1 mem).2⟩

/-- The slot of a kind is free just when no call of the kind is in progress. -/
theorem Seated.free_iff (seated : s.Seated) : s.holder? kind = none ↔ s.inProgress kind = [] := by
  rw [holder?_eq_none_iff, List.eq_nil_iff_forall_not_mem]
  constructor
  · intro free c mem
    exact free c.id (seated.held_iff.2 ⟨c, mem, rfl⟩)
  · intro none id mem
    obtain ⟨c, mem, -⟩ := seated.held_iff.1 mem
    exact none c mem

/-- The slot of a kind is held by the call of the kind that is in progress. -/
theorem Seated.holder?_eq (seated : s.Seated) (kind : RequestKind) :
    s.holder? kind = (s.inProgress kind).head?.map (·.id) := by
  cases calls : s.inProgress kind with
  | nil => exact seated.free_iff.2 calls
  | cons c _ =>
    refine seated.holder?_eq_some_iff.2 (seated.held_iff.2 ⟨c, ?_, rfl⟩)
    rw [calls]
    exact List.mem_cons_self

/-- Two calls of one kind that are in progress are the same. -/
theorem Seated.eq_of_inProgress (seated : s.Seated) {c d : Pending} (first : c ∈ s.inProgress kind)
    (second : d ∈ s.inProgress kind) : c = d := by
  have holds := seated.held_iff.2 ⟨c, first, rfl⟩
  have holds' := seated.held_iff.2 ⟨d, second, rfl⟩
  have same := List.inj_on_of_nodup_map seated.single holds holds' rfl
  exact List.inj_on_of_nodup_map seated.distinct (mem_inProgress.1 first).1
    (mem_inProgress.1 second).1 (Prod.mk.inj same).2

theorem Seated.length_inProgress_le (seated : s.Seated) (kind : RequestKind) :
    (s.inProgress kind).length ≤ 1 := by
  have distinct : (s.inProgress kind).Nodup :=
    (List.Nodup.of_map _ seated.distinct).sublist List.filter_sublist
  match calls : s.inProgress kind with
  | [] => exact Nat.zero_le _
  | [_] => exact Nat.le_refl _
  | c :: d :: _ =>
    have same : c = d :=
      seated.eq_of_inProgress (by rw [calls]; simp) (by rw [calls]; simp)
    rw [calls, same] at distinct
    simp at distinct

/-! ## A call begins -/

/-- `t` has the calls, slots, capabilities and associations of `s`. -/
structure Alike (s t : Simulator) : Prop where
  calls : t.calls = s.calls
  slots : t.slots = s.slots
  capabilities : t.capabilities = s.capabilities
  associations : t.associations = s.associations

theorem alike_mint (s : Simulator) (request : Request) : Alike s (s.mint request).2 := by
  cases request <;> exact ⟨rfl, rfl, rfl, rfl⟩

theorem occupy_eq (s : Simulator) (id : Nat) (request : Request) : s.occupy id request =
    { s with slots := (slotOf? request).toList.map (·, id) ++ s.slots } := by
  rw [occupy]
  split <;> simp_all

/-- What a call that begins does to the vehicle. -/
structure Enters (s : Simulator) (id : Nat) (request : Request) (t : Simulator) : Prop where
  calls : ∃ token due, t.calls = s.calls ++ [⟨id, request, token, due⟩]
  slots : t.slots = (slotOf? request).toList.map (·, id) ++ s.slots
  free : ∀ kind, slotOf? request = some kind → s.holder? kind = none
  supported : s.supports request = true
  wellFormed : isMalformed request = false
  capabilities : t.capabilities = s.capabilities
  associations : t.associations = s.associations

theorem enters_of_ok (ok : s.enter id request now = .ok t) : Enters s id request t := by
  have alike := alike_mint s request
  rw [enter] at ok
  split at ok
  · cases ok
  case isFalse supported =>
    split at ok
    · cases ok
    case isFalse wellFormed =>
      split at ok
      · cases ok
      case h_2 free =>
        have made := (Except.ok.inj ok).symm
        rw [occupy_eq] at made
        refine ⟨⟨_, _, by rw [made]; exact congrArg (· ++ _) alike.calls⟩,
          by rw [made]; exact congrArg (_ ++ ·) alike.slots, ?_, by simpa using supported,
          by simpa using wellFormed, by rw [made]; exact alike.capabilities,
          by rw [made]; exact alike.associations⟩
        intro kind needs
        rw [needs] at free
        simpa using free

theorem enter_of_taken (supported : s.supports request = true)
    (wellFormed : isMalformed request = false) (needs : slotOf? request = some kind)
    (taken : s.holder? kind ≠ none) :
    ∃ notes, s.enter id request now = .error (.requestPending (some kind), notes) := by
  have blocked : (slotOf? request).filter (fun kind => (s.holder? kind).isSome) = some kind := by
    rw [needs]
    exact Option.filter_some_pos (Option.isSome_iff_ne_none.2 taken)
  rw [enter, supported, wellFormed, blocked]
  exact ⟨_, rfl⟩

theorem enter_of_free (id : Nat) (now : Int) (supported : s.supports request = true)
    (wellFormed : isMalformed request = false)
    (free : ∀ kind, slotOf? request = some kind → s.holder? kind = none) :
    ∃ t, s.enter id request now = .ok t := by
  have open' : (slotOf? request).filter (fun kind => (s.holder? kind).isSome) = none := by
    rw [Option.filter_eq_none_iff]
    intro kind needs
    rw [free kind needs]
    exact Bool.false_ne_true
  rw [enter, supported, wellFormed, open']
  exact ⟨_, rfl⟩

theorem Enters.inProgress (enters : Enters s id request t) (kind : RequestKind) :
    ∃ c : Pending, c.id = id ∧ c.request = request ∧
      t.inProgress kind = s.inProgress kind ++ [c].filter (·.kind? == some kind) := by
  obtain ⟨token, due, calls⟩ := enters.calls
  refine ⟨⟨id, request, token, due⟩, rfl, rfl, ?_⟩
  rw [Simulator.inProgress, calls, List.filter_append]
  rfl

/-- A call that the vehicle understands is refused just when another one of its kind is in
    progress. -/
theorem Seated.enter_eq_pending_iff (seated : s.Seated) (supported : s.supports request = true)
    (wellFormed : isMalformed request = false) (needs : slotOf? request = some kind) :
    (∃ notes, s.enter id request now = .error (.requestPending (some kind), notes)) ↔
      s.inProgress kind ≠ [] := by
  rw [ne_eq, ← seated.free_iff]
  refine ⟨?_, enter_of_taken supported wellFormed needs⟩
  rintro ⟨notes, refused⟩ free
  obtain ⟨t, ok⟩ := enter_of_free id now supported wellFormed
    fun k other => (Option.some.inj (needs.symm.trans other)) ▸ free
  rw [refused] at ok
  cases ok

theorem Seated.enters (seated : s.Seated) (new : ∀ c ∈ s.calls, c.id ≠ id)
    (enters : Enters s id request t) : t.Seated := by
  obtain ⟨token, due, calls⟩ := enters.calls
  refine ⟨?_, fun kind other => ?_, ?_⟩
  · rw [calls, List.map_append, List.nodup_append]
    refine ⟨seated.distinct, List.nodup_singleton _, ?_⟩
    simpa using new
  · have own : (kind, other) ∈ (slotOf? request).toList.map (·, id) ↔
        id = other ∧ slotOf? request = some kind := by
      simp [and_comm]
    rw [enters.slots, calls, List.mem_append, own, seated.held]
    simp [Pending.kind?, or_and_right, exists_or, or_comm]
  · rw [enters.slots, List.map_append, List.nodup_append]
    refine ⟨?_, seated.single, ?_⟩
    · cases slotOf? request <;> simp
    · rintro k mine _ taken rfl
      simp only [List.map_map, List.mem_map, Option.mem_toList] at mine
      obtain ⟨_, needs, rfl⟩ := mine
      obtain ⟨⟨_, holder⟩, held, rfl⟩ := List.mem_map.1 taken
      exact holder?_eq_none_iff.1 (enters.free _ needs) holder held

/-! ## A call returns -/

theorem calls_leave (s : Simulator) (id : Nat) :
    (s.leave id).calls = s.calls.filter (·.id != id) := by
  rw [leave]
  split
  case h_1 absent =>
    refine (List.filter_eq_self.2 fun c mem => ?_).symm
    simpa using List.find?_eq_none.1 absent c mem
  case h_2 =>
    rw [release]
    split <;> rfl

theorem release_eq (s : Simulator) (id : Nat) (request : Request) : s.release id request =
    { s with slots := s.slots.filter fun held => !(slotOf? request).any fun k => held == (k, id) } := by
  rw [release]
  split
  case h_1 kind needs =>
    rw [needs]
    rfl
  case h_2 needs =>
    rw [needs]
    simp

/-- A call that returns frees its own slot, and no other. -/
theorem Seated.mem_slots_leave (seated : s.Seated) (id : Nat) (kind : RequestKind) (other : Nat) :
    (kind, other) ∈ (s.leave id).slots ↔ (kind, other) ∈ s.slots ∧ other ≠ id := by
  rw [leave]
  split
  case h_1 absent =>
    refine (and_iff_left_of_imp fun held same => ?_).symm
    obtain ⟨c, mem, own, -⟩ := (seated.held kind other).1 held
    exact List.find?_eq_none.1 absent c mem (by simp [own, same])
  case h_2 c found =>
    have own : c.id = id := by simpa using List.find?_some found
    have mem := List.mem_of_find?_eq_some found
    rw [release_eq]
    simp only [List.mem_filter]
    refine and_congr_right fun held => ?_
    obtain ⟨d, mem', rfl, needs⟩ := (seated.held kind other).1 held
    by_cases same : d.id = id
    · have one : d = c := List.inj_on_of_nodup_map seated.distinct mem' mem (same.trans own.symm)
      have slot : slotOf? c.request = some kind := one ▸ needs
      simp [slot, same]
    · cases slotOf? c.request <;> simp [same]

theorem Seated.leave (seated : s.Seated) (id : Nat) : (s.leave id).Seated := by
  refine ⟨?_, fun kind other => ?_, ?_⟩
  · rw [calls_leave]
    exact seated.distinct.sublist (List.filter_sublist.map _)
  · rw [seated.mem_slots_leave, seated.held, calls_leave]
    simp only [List.mem_filter, bne_iff_ne]
    constructor
    · rintro ⟨⟨c, mem, rfl, needs⟩, stays⟩
      exact ⟨c, ⟨mem, stays⟩, rfl, needs⟩
    · rintro ⟨c, ⟨mem, stays⟩, rfl, needs⟩
      exact ⟨⟨c, mem, rfl, needs⟩, stays⟩
  · refine seated.single.sublist (List.Sublist.map _ ?_)
    rw [Simulator.leave]
    split
    case h_1 => exact List.Sublist.refl _
    case h_2 =>
      rw [release_eq]
      exact List.filter_sublist

theorem inProgress_leave (s : Simulator) (id : Nat) (kind : RequestKind) :
    (s.leave id).inProgress kind = (s.inProgress kind).filter (·.id != id) := by
  rw [inProgress, calls_leave, inProgress, List.filter_filter, List.filter_filter]
  simp only [Bool.and_comm]

/-- The slot of a kind is free after a call that held it, and as it was after any other. -/
theorem Seated.holder?_leave (seated : s.Seated) (id : Nat) (kind : RequestKind) :
    (s.leave id).holder? kind = (s.holder? kind).filter (· != id) := by
  refine Option.ext fun other => ?_
  rw [(seated.leave id).holder?_eq_some_iff, seated.mem_slots_leave, Option.filter_eq_some_iff,
    seated.holder?_eq_some_iff, bne_iff_ne]

/-! ## Moves and runs -/

theorem Seated.of_alike (seated : s.Seated) (calls : t.calls = s.calls)
    (slots : t.slots = s.slots) : t.Seated :=
  ⟨calls ▸ seated.distinct, by rw [calls, slots]; exact seated.held, slots ▸ seated.single⟩

theorem alike_serve {r : Response} (served : s.serve id = some (r, t)) :
    t.calls = s.calls ∧ t.slots = s.slots ∧ t.capabilities = s.capabilities := by
  obtain ⟨c, -, answered⟩ := Option.map_eq_some_iff.1 served
  rw [← show (s.answer c.token c.request).2 = t from congrArg Prod.snd answered]
  cases c.request
  case switch =>
    rw [answer]
    split <;> exact ⟨rfl, rfl, rfl⟩
  all_goals exact ⟨rfl, rfl, rfl⟩

/-- What happens to a vehicle leaves its slots in order. -/
theorem Seated.move (seated : s.Seated) (m : Move) (allowed : m.Allowed s) : (s.move m).Seated := by
  cases m with
  | enter id request now =>
    cases entered : s.enter id request now with
    | error refusal =>
      rw [Simulator.move, entered]
      exact seated
    | ok t =>
      rw [Simulator.move, entered]
      exact seated.enters allowed (enters_of_ok entered)
  | serve id =>
    cases served : s.serve id with
    | none =>
      rw [Simulator.move, served]
      exact seated
    | some answered =>
      have alike := alike_serve served
      rw [Simulator.move, served]
      exact seated.of_alike alike.1 alike.2.1
  | leave id => exact seated.leave id
  | notify notice => cases notice <;> exact seated.of_alike rfl rfl
  | initiate target =>
    rw [Simulator.move, Simulator.initiate]
    split <;> exact seated.of_alike rfl rfl
  | veto target message => exact seated.of_alike rfl rfl
  | reject message => exact seated.of_alike rfl rfl
  | inform info => exact seated.of_alike rfl rfl

theorem IsRun.seated {ms : List Move} (run : IsRun ms s) : s.Seated := by
  induction run with
  | idle calls slots => exact ⟨by simp [calls], by simp [calls, slots], by simp [slots]⟩
  | snoc _ allowed seated => exact seated.move _ allowed

/-- `t` is what is left when a call ends: it gets its answer or a rejection and returns, or it
    returns without one, as its caller has canceled it or has its deadline behind it. -/
inductive Ends (s : Simulator) (id : Nat) : Simulator → Prop
  | answered {r : Response} {t : Simulator} : s.finish id = some (r, t) → Ends s id t
  | abandoned : Ends s id (s.abandon id)

/-- A call that ends is not in progress any more, and has freed its own slot. -/
theorem Seated.ends (seated : s.Seated) (ends : Ends s id t) (kind : RequestKind) :
    t.inProgress kind = (s.inProgress kind).filter (·.id != id) ∧
      t.holder? kind = (s.holder? kind).filter (· != id) := by
  cases ends with
  | abandoned => exact ⟨inProgress_leave s id kind, seated.holder?_leave id kind⟩
  | answered finished =>
    obtain ⟨⟨r, u⟩, served, left⟩ := Option.map_eq_some_iff.1 finished
    obtain ⟨calls, slots, -⟩ := alike_serve served
    cases left
    have same : u.inProgress kind = s.inProgress kind := by rw [inProgress, calls, inProgress]
    have held : u.holder? kind = s.holder? kind := by rw [holder?, slots, holder?]
    rw [inProgress_leave, (seated.of_alike calls slots).holder?_leave, same, held]
    exact ⟨rfl, rfl⟩

/-! ## Calls that come from outside -/

/-- The latency of a call is over. -/
theorem IsRun.finish {ms : List Move} (run : IsRun ms s) {r : Response}
    (finished : s.finish id = some (r, t)) : IsRun (ms ++ [.serve id] ++ [.leave id]) t := by
  obtain ⟨⟨_, u⟩, served, left⟩ := Option.map_eq_some_iff.1 finished
  cases left
  have after : s.move (.serve id) = u := by rw [move, served]; rfl
  exact (after ▸ run.snoc (m := .serve id) trivial).snoc (m := .leave id) trivial

/-- Taking a call is a run of moves too: it begins, and it may get its answer and return at
    once. -/
theorem IsRun.ask {ms : List Move} (run : IsRun ms s) (new : ∀ c ∈ s.calls, c.id ≠ id)
    (request : Request) (gone : Option Fault) (now : Int) :
    ∃ ms', IsRun (ms ++ ms') (s.ask id request gone now).2.1 := by
  rw [Simulator.ask]
  cases entered : s.enter id request now with
  | error => exact ⟨[], by rwa [List.append_nil]⟩
  | ok t =>
    have after : s.move (.enter id request now) = t := by rw [move, entered]; rfl
    have began : IsRun (ms ++ [.enter id request now]) t :=
      after ▸ run.snoc (m := .enter id request now) new
    dsimp only
    split
    · refine ⟨[.enter id request now, .leave id], ?_⟩
      rw [List.append_cons]
      exact began.snoc (m := .leave id) trivial
    · split
      · next r u given =>
        have finished : t.finish id = some (r, u) := by
          split at given
          · exact given
          · cases given
        refine ⟨[.enter id request now, .serve id, .leave id], ?_⟩
        rw [List.append_cons, List.append_cons]
        exact began.finish finished
      · exact ⟨[.enter id request now], began⟩

/-! ## One call of a kind -/

/-- After any interleaving of calls, at most one call of a kind is in progress, and just this one
    holds the slot of the kind; so nothing is pending when no call is in progress. A call that the
    vehicle understands is refused as pending just when another one of its kind is in progress, and
    otherwise begins, whatever the other kinds do. However a call ends, it frees its own slot and
    leaves the calls and slots of all others alone. -/
theorem one_call_per_kind {ms : List Move} (run : IsRun ms s) :
    (∀ kind, (s.inProgress kind).length ≤ 1 ∧
      s.holder? kind = (s.inProgress kind).head?.map (·.id)) ∧
    (s.calls = [] → s.slots = []) ∧
    (∀ id request now kind, slotOf? request = some kind → s.supports request = true →
      isMalformed request = false →
      ((∃ notes, s.enter id request now = .error (.requestPending (some kind), notes)) ↔
        s.inProgress kind ≠ []) ∧
      (s.inProgress kind = [] → ∃ t, s.enter id request now = .ok t ∧
        (∃ c, t.inProgress kind = [c] ∧ c.id = id ∧ c.request = request) ∧
        ∀ other ≠ kind, t.inProgress other = s.inProgress other)) ∧
    ∀ id t, Ends s id t → ∀ kind,
      t.inProgress kind = (s.inProgress kind).filter (·.id != id) ∧
        t.holder? kind = (s.holder? kind).filter (· != id) := by
  have seated := run.seated
  refine ⟨fun kind => ⟨seated.length_inProgress_le kind, seated.holder?_eq kind⟩, fun none => ?_,
    fun id request now kind needs supported wellFormed =>
      ⟨seated.enter_eq_pending_iff supported wellFormed needs, fun idle => ?_⟩,
    fun id t ends kind => seated.ends ends kind⟩
  · refine List.eq_nil_iff_forall_not_mem.2 fun ⟨kind, id⟩ held => ?_
    obtain ⟨c, mem, -⟩ := (seated.held kind id).1 held
    rw [none] at mem
    cases mem
  · have free := seated.free_iff.2 idle
    obtain ⟨t, ok⟩ := enter_of_free id now supported wellFormed
      fun k other => (Option.some.inj (needs.symm.trans other)) ▸ free
    have enters := enters_of_ok ok
    refine ⟨t, ok, ?_, fun other ne => ?_⟩
    · obtain ⟨c, own, asked, calls⟩ := enters.inProgress kind
      refine ⟨c, ?_, own, asked⟩
      rw [calls, idle]
      simp [Pending.kind?, asked, needs]
    · obtain ⟨c, own, asked, calls⟩ := enters.inProgress other
      rw [calls]
      simp [Pending.kind?, asked, needs, ne.symm]

namespace Sample

/-- A user of the sample. -/
def ann : User := ⟨10, "Ann", Kind.full, ⟨0⟩, UserId.null, true⟩

def newcomer : Request := .create ann "Ann" ⟨ann, [ann]⟩

def settings : Request := .setAssociations ann [1] [5]

/-- A creation begins, and associations are written next to it. A second creation is refused. The
    first one returns without an answer, and a third one begins. -/
def moves : List Move :=
  [.enter 1 newcomer 0, .enter 2 settings 0, .enter 3 newcomer 5, .leave 1, .enter 4 newcomer 6]

/-- What the moves make of a vehicle that takes ten units of time for an answer. -/
def vehicle : Simulator := moves.foldl move { latency := 10 }

theorem isRun : IsRun moves vehicle :=
  have start : IsRun [] { latency := 10 } := .idle rfl rfl
  have began := (start.snoc (m := .enter 1 newcomer 0) (by decide)).snoc
    (m := .enter 2 settings 0) (by decide)
  have refused := began.snoc (m := .enter 3 newcomer 5) (by decide)
  (refused.snoc (m := .leave 1) trivial).snoc (m := .enter 4 newcomer 6) (by decide)

end Sample

/-- The third creation of the sample is in progress next to the write, and another creation would
    be refused. -/
theorem third_call_of_sample : IsRun Sample.moves Sample.vehicle ∧
    Sample.vehicle.holder? .create = some 4 ∧ Sample.vehicle.holder? .setAssociation = some 2 ∧
    ∃ notes, Sample.vehicle.enter 5 Sample.newcomer 7 =
      .error (.requestPending (some .create), notes) := by
  obtain ⟨single, -, refuses, -⟩ := one_call_per_kind Sample.isRun
  refine ⟨Sample.isRun, (single .create).2, (single .setAssociation).2, ?_⟩
  exact (refuses 5 Sample.newcomer 7 .create rfl rfl rfl).1.2 (List.cons_ne_nil _ _)

end Simulator

end HeadUnit.Vehicle
