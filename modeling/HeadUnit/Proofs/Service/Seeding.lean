import HeadUnit.Proofs.Roster.Records
import HeadUnit.Proofs.Service.Alone
import HeadUnit.Proofs.Service.Order
import HeadUnit.Service.Boot

/-!
# Seeding converges

Drivers are created one after the other (`Seeds`), as `Seeding.next?` and `Seeding.resume` say,
each creation carried out alone: the vehicle may answer what it likes and whenever it likes, while
workers and sessions go on.

A new user comes last in the roster (`insert_last`), as the next id is ahead of all others, and it
is a driver. So the list of drivers that is kept by hand and the one that is read off the roster
grow by the same id, or by none if the creation fails and the user is taken out again
(`Roster.Enrolls`).

* `Seeds.list_eq`: the list is that of the roster, after a failure too where removals work;
* `seeding_converges`: the main result.
-/

namespace HeadUnit

/-! ## Rosters -/

namespace Roster

/-- The rosters that the operations of the store lead to. -/
inductive Reached : Roster → Prop
  | fresh : Reached Roster.fresh
  | put {r : Roster} (reached : Reached r) (u : User) (room : u.id ≠ Int64.maxValue) :
      Reached (r.put u)
  | added {r r' : Roster} {name kind : String} {flags : Flags} {group : UserId} {u : User}
      (reached : Reached r) (room : r.nextId ≠ Int64.maxValue)
      (added : r.addNew name kind flags group = .ok (u, r')) : Reached r'
  | removed {r r' : Roster} {id : UserId} (reached : Reached r) (gone : r.remove id = .ok r') :
      Reached r'
  | faults {r : Roster} (reached : Reached r) (create remove : Option Fault) :
      Reached { r with createFault := create, removeFault := remove }

/-- The records are in order, and the next id is ahead of them. -/
structure Sound (r : Roster) : Prop where
  ordered : Ordered r.users
  ahead : ∀ u ∈ r.users, u.id < r.nextId
  later : UserId.system < r.nextId

/-- A record is put in, and the next id does not fall behind. -/
theorem Sound.insert {r : Roster} (sound : r.Sound) {u : User} {next : UserId}
    (more : r.nextId ≤ next) (beyond : u.id < next) :
    Sound { r with users := insert u r.users, nextId := next } where
  ordered := sound.ordered.insert u
  ahead v mem := by
    rcases mem_insert mem with rfl | old
    · exact beyond
    · exact Int64.lt_of_lt_of_le (sound.ahead v old) more
  later := Int64.lt_of_lt_of_le sound.later more

theorem Reached.sound {r : Roster} (reached : Reached r) : r.Sound := by
  induction reached with
  | fresh =>
    refine ⟨List.pairwise_singleton .., fun u mem => ?_, by decide⟩
    obtain rfl := List.mem_singleton.1 mem
    decide
  | @put r _ u room sound =>
    have put (v : User) (room : v.id ≠ Int64.maxValue) :
        Sound { r with
          users := insert v r.users
          nextId := if r.nextId ≤ v.id then v.id + 1 else r.nextId } := by
      split
      · next behind =>
        exact sound.insert (Int64.le_trans behind (Int64.le_of_lt (lt_next room))) (lt_next room)
      · next ahead => exact sound.insert (Int64.le_refl _) (Int64.not_le.1 ahead)
    unfold Roster.put
    dsimp only
    split
    · exact put u room
    · exact put _ room
  | added _ room added sound =>
    unfold addNew at added
    split at added
    · cases added
    · cases added
      exact sound.insert (Int64.le_of_lt (lt_next room)) (lt_next room)
  | removed _ gone sound =>
    obtain ⟨-, rfl⟩ := eq_of_remove gone
    exact ⟨sound.ordered.filter _, fun u mem => sound.ahead u (List.mem_of_mem_filter mem),
      sound.later⟩
  | faults _ _ _ sound => exact ⟨sound.ordered, sound.ahead, sound.later⟩

/-- A record whose id is ahead of all others comes last. -/
theorem insert_last {u : User} {us : List User} (ahead : ∀ v ∈ us, v.id < u.id) :
    insert u us = us ++ [u] := by
  induction us with
  | nil => rfl
  | cons v us ih =>
    have first := ahead v List.mem_cons_self
    rw [insert, if_neg (Int64.lt_asymm first), if_neg (Ne.symm (Int64.ne_of_lt first)),
      ih fun w mem => ahead w (List.mem_cons_of_mem v mem), List.cons_append]

/-- The last record is taken out again. -/
theorem filter_last {u : User} {us : List User} (ahead : ∀ v ∈ us, v.id < u.id) :
    (us ++ [u]).filter (·.id != u.id) = us := by
  rw [List.filter_append, List.filter_eq_self.2 fun v mem => bne_iff_ne.2
    (Int64.ne_of_lt (ahead v mem))]
  simp

/-- Whoever came last can be removed again. -/
theorem remove_last {r : Roster} {u : User} (ahead : ∀ v ∈ r.users, v.id < u.id)
    (works : r.removeFault = none) (next : UserId) :
    remove { r with users := r.users ++ [u], nextId := next } u.id =
      .ok { r with nextId := next } := by
  unfold remove
  rw [works]
  dsimp only
  split
  · next none => simp [find?] at none
  · rw [filter_last ahead]

end Roster

/-! ## Drivers -/

/-- A persistent full user other than the system user. -/
def User.isDriver (u : User) : Bool :=
  u.enabled && !u.isManagedProfile && !u.isEphemeral && !u.isGuest && u.id != UserId.system

/-- The drivers of a roster. -/
def Roster.drivers (r : Roster) : List UserId := (r.users.filter (·.isDriver)).map (·.id)

/-- How the creation of a driver ends: the driver comes last in the roster, or it is not there,
    if removals work. -/
inductive Roster.Enrolls (r : Roster) : CreateResult → Roster → Prop
  | created {u : User} {message : String} (driver : u.isDriver = true) (next : u.id = r.nextId) :
      Enrolls r ⟨.successful, some u, message⟩
        { r with users := r.users ++ [u], nextId := r.nextId + 1 }
  | failed {result : CreateResult} {r' : Roster} (failed : result.status ≠ .successful)
      (back : r.removeFault = none → r'.users = r.users) : Enrolls r result r'

namespace Provision

/-- The vehicle has ratified a driver or not. -/
theorem enrolls_ratified {r : Roster} (sound : r.Sound) {u : User} (driver : u.isDriver = true)
    (next : u.id = r.nextId) (response : Vehicle.CreateResponse) (fault : Option Fault) :
    let st := ratified { r with users := r.users ++ [u], nextId := r.nextId + 1 } u response fault
    r.Enrolls st.value st.roster := by
  have back (reason : String) (works : r.removeFault = none) :
      (compensate { r with users := r.users ++ [u], nextId := r.nextId + 1 } u reason).1.users =
        r.users := by
    rw [compensate, Roster.remove_last (next ▸ sound.ahead) works]
  unfold ratified
  split
  · exact .failed nofun (back _)
  · split
    · exact .created driver next
    · exact .failed nofun (back _)

theorem Ends.of_asDone {st : Step CreateResult} {result : CreateResult} {roster : Roster}
    (ends : Ends st.asDone result roster) : result = st.value ∧ roster = st.roster := by
  cases ends with
  | done value =>
    cases value
    exact ⟨rfl, rfl⟩
  | ratified value => cases value

theorem enrolls_create {r roster : Roster} (sound : r.Sound) {current : UserId}
    {ratifies : Bool} {name kind : String} {flags : Flags} {result : CreateResult}
    (driver : User.isDriver ⟨r.nextId, name, kind, flags, UserId.null, true⟩ = true)
    (ends : Ends (create r current ratifies name kind flags) result roster) :
    r.Enrolls result roster := by
  unfold create at ends
  split at ends
  · obtain ⟨rfl, rfl⟩ := ends.of_asDone
    exact .failed nofun fun _ => rfl
  · split at ends
    · obtain ⟨rfl, rfl⟩ := ends.of_asDone
      exact .failed nofun fun _ => rfl
    · next u r' added =>
      unfold Roster.create Roster.addNew at added
      split at added
      · cases added
      · cases added
        have last :=
          Roster.insert_last (u := ⟨r.nextId, name, kind, flags, UserId.null, true⟩) sound.ahead
        rw [last] at ends
        dsimp only at ends
        split at ends
        · cases ends with
          | done value => cases value
          | ratified value response fault =>
            cases value
            exact enrolls_ratified sound driver rfl response fault
        · obtain ⟨rfl, rfl⟩ := ends.of_asDone
          exact .created driver rfl

theorem enrolls_createDriver {r roster : Roster} (sound : r.Sound) {current : UserId}
    {ratifies : Bool} {name : String} {admin : Bool} {result : CreateResult}
    (ends : Ends (createDriver r current ratifies name admin) result roster) :
    r.Enrolls result roster := by
  have other : r.nextId ≠ UserId.system := (Int64.ne_of_lt sound.later).symm
  unfold createDriver at ends
  split at ends
  · obtain ⟨rfl, rfl⟩ := ends.of_asDone
    exact .failed nofun fun _ => rfl
  · refine enrolls_create sound ?_ ends
    have plain : (if admin then Flags.admin else Flags.none).has Flags.managedProfile = false ∧
        (if admin then Flags.admin else Flags.none).has Flags.ephemeral = false ∧
        (if admin then Flags.admin else Flags.none).has Flags.guest = false := by
      cases admin <;> decide
    simp [User.isDriver, User.isManagedProfile, User.isEphemeral, User.isGuest, plain, other]

end Provision

namespace Service

open HeadUnit.Service.System

/-- Whether there is a display does not matter, as the system user is no driver anyway. -/
theorem System.drivers_eq (s : System) : s.drivers = s.roster.drivers := by
  unfold System.drivers Roster.drivers Provision.persistentUsers Provision.listed
  rw [List.filter_filter, List.filter_filter]
  congr 2
  funext u
  unfold User.isDriver
  cases own : u.id == UserId.system with
  | true => simp [bne, own]
  | false => simp [bne, own]; grind

/-! ## Seeding -/

/-- Drivers are created until there are enough or a creation fails: what happens in the meantime,
    the system then, the list of drivers that is returned, and the fault. -/
inductive Seeds (ctx : Context) :
    Seeding → System → History → System → List UserId → Option Fault → Prop
  | enough {sd : Seeding} {s : System} (none : sd.next? = none) :
      Seeds ctx sd s [] s sd.drivers .none
  | created {sd sd' : Seeding} {op : Operation} {s u t : System} {r : CreateResult}
      {notes : List Note} {h h' : History} {l : List UserId} {f : Option Fault}
      (next : sd.next? = some op) (carries : CarriesOut ctx op s (.create r) h u)
      (resumes : sd.resume r = .ok (sd', notes)) (rest : Seeds ctx sd' u h' t l f) :
      Seeds ctx sd s (h ++ h') t l f
  | failed {sd : Seeding} {op : Operation} {s t : System} {r : CreateResult} {h : History}
      {f : Fault} (next : sd.next? = some op) (carries : CarriesOut ctx op s (.create r) h t)
      (fails : sd.resume r = .error f) : Seeds ctx sd s h t sd.drivers (some f)

section Runs

variable {ctx : Context} {s t : System} {r : Result} {h : History}

/-- A driver is created, or not, while nobody else calls. -/
theorem CarriesOut.enrolls {name : String} {admin : Bool} {result : CreateResult}
    (carries : CarriesOut ctx (.createDriver name admin) s (.create result) h t)
    (alone : s.calls = []) (silent : s.out = []) (sound : s.roster.Sound) :
    s.roster.Enrolls result t.roster ∧ t.calls = [] ∧ t.out = [] := by
  obtain ⟨⟨result', same, ends⟩, calls, out⟩ := carries.created rfl alone silent
  cases same
  exact ⟨Provision.enrolls_createDriver sound ends, calls, out⟩

/-- The operation begins on the system that carries it out. -/
theorem CarriesOut.mem {op : Operation} (carries : CarriesOut ctx op s r h t) :
    ⟨s, .act (.perform ctx op)⟩ ∈ h := by
  obtain ⟨ms, -, led⟩ := carries.moves
  rw [played] at led
  have mem : ⟨s, .act (.perform ctx op)⟩ ∈ (played [⟨s, .act (.perform ctx op)⟩]
      (Moment.mk s (.act (.perform ctx op))).after ms).1 := mem_played (List.mem_singleton.2 rfl)
  rw [List.nil_append] at led
  rwa [led] at mem

/-- Nothing is created if there are enough drivers. -/
theorem Seeds.iff_of_enough {sd : Seeding} (enough : sd.next? = none) {l : List UserId}
    {f : Option Fault} :
    Seeds ctx sd s h t l f ↔ h = [] ∧ t = s ∧ l = sd.drivers ∧ f = none := by
  constructor
  · intro seeds
    cases seeds with
    | enough => exact ⟨rfl, rfl, rfl, rfl⟩
    | created next | failed next => rw [enough] at next; cases next
  · rintro ⟨rfl, rfl, rfl, rfl⟩
    exact .enough enough

theorem Seeding.next?_eq_none {sd : Seeding} :
    sd.next? = none ↔ sd.wanted.toInt ≤ (sd.drivers.length : Int) := by
  unfold Seeding.next?
  split
  · next more => simpa using more
  · next enough => simpa using enough

/-- What seeding makes of the roster. -/
structure Seeded (sd : Seeding) (before after : Roster) (l : List UserId) (f : Option Fault) :
    Prop where
  /-- Those that were there before are there, in front of the new ones. -/
  kept : before.users <+: after.users
  ordered : Roster.Ordered after.users
  list : l = after.drivers
  length : f = none → (l.length : Int) = max sd.wanted.toInt sd.drivers.length

/-- The list kept by hand is the one of the roster. -/
theorem Seeds.seeded {sd : Seeding} {l : List UserId} {f : Option Fault}
    (seeds : Seeds ctx sd s h t l f) (alone : s.calls = []) (silent : s.out = [])
    (sound : s.roster.Sound) (room : ∀ x ∈ h, x.before.roster.nextId ≠ Int64.maxValue)
    (list : sd.drivers = s.roster.drivers) (works : f ≠ none → s.roster.removeFault = none) :
    Seeded sd s.roster t.roster l f := by
  induction seeds with
  | enough none =>
    have enough := Seeding.next?_eq_none.1 none
    exact ⟨List.prefix_rfl, sound.ordered, list, fun _ => by omega⟩
  | @created sd sd' op s u t r notes h h' l f next carries resumes rest ih =>
    have room' : s.roster.nextId ≠ Int64.maxValue :=
      room _ (List.mem_append_left _ carries.mem)
    unfold Seeding.next? at next
    split at next
    · next more =>
      cases next
      obtain ⟨enrolls, calls, out⟩ := carries.enrolls alone silent sound
      generalize after : u.roster = r' at enrolls ih
      cases enrolls with
      | @created v message driver first =>
        cases resumes
        have beyond : v.id < s.roster.nextId + 1 := by
          rw [first]
          exact Roster.lt_next room'
        have sound' := sound.insert (Int64.le_of_lt (Roster.lt_next room')) beyond
        rw [Roster.insert_last (first ▸ sound.ahead)] at sound'
        have drivers : sd.drivers ++ [v.id] = Roster.drivers { s.roster with
            users := s.roster.users ++ [v], nextId := s.roster.nextId + 1 } := by
          simp [Roster.drivers, list, driver]
        have seeded := ih calls out sound' (fun x mem => room x (List.mem_append_right _ mem))
          drivers works
        refine ⟨(List.prefix_append ..).trans seeded.kept, seeded.ordered, seeded.list,
          fun ok => ?_⟩
        have length := seeded.length ok
        simp only [List.length_append, List.length_singleton] at length
        omega
      | failed failed =>
        unfold Seeding.resume at resumes
        split at resumes
        · next status _ => exact absurd status failed
        · cases resumes
    · cases next
  | @failed sd op s t r h f next carries fails =>
    unfold Seeding.next? at next
    split at next
    · cases next
      obtain ⟨enrolls, -, -⟩ := carries.enrolls alone silent sound
      generalize after : t.roster = r' at enrolls
      cases enrolls with
      | created => cases fails
      | failed failed back =>
        have same : r'.users = s.roster.users := back (works nofun)
        refine ⟨same ▸ List.prefix_rfl, same ▸ sound.ordered, ?_, nofun⟩
        rw [list, Roster.drivers, Roster.drivers, same]
    · cases next

end Runs

/-! ## Main result -/

/-- Seeding converges. If nobody else calls the service while drivers are created, the list that
    is returned is the one of the drivers then, in increasing order. There are as many as wanted,
    or as many as before if these were more; those that were there before are there as they were,
    in front of the new ones. To seed again for no more than that creates nothing, and returns the
    same list. If a creation fails, the list is that of the drivers as well, provided that
    removals work. -/
theorem seeding_converges {h₀ h : History} {s t : System} {ctx : Context} {n : Int64}
    {l : List UserId} {f : Option Fault} (run : IsRun h₀ s) (reached : s.roster.Reached)
    (alone : s.calls = []) (seeds : Seeds ctx ⟨n, s.drivers⟩ s h t l f)
    (room : ∀ x ∈ h, x.before.roster.nextId ≠ Int64.maxValue) :
    (f = none → l = t.drivers ∧ l.Pairwise (· < ·) ∧
      (l.length : Int) = max n.toInt s.drivers.length ∧ s.roster.users <+: t.roster.users ∧
      ∀ (again : Context) (m : Int64), m.toInt ≤ l.length → ∀ h' u l' f',
        Seeds again ⟨m, t.drivers⟩ t h' u l' f' ↔ h' = [] ∧ u = t ∧ l' = l ∧ f' = none) ∧
      (f ≠ none → s.roster.removeFault = none → l = t.drivers) := by
  have seeded (works : f ≠ none → s.roster.removeFault = none) :=
    seeds.seeded alone run.out_eq_nil reached.sound room s.drivers_eq works
  rw [t.drivers_eq]
  refine ⟨fun ok => ?_, fun failed works => (seeded fun _ => works).list⟩
  have seeded := seeded fun failed => absurd ok failed
  have list := seeded.list
  refine ⟨list, ?_, seeded.length ok, seeded.kept, fun again m few h' u l' f' => ?_⟩
  · rw [list, Roster.drivers, List.pairwise_map]
    exact seeded.ordered.filter _
  · rw [Seeds.iff_of_enough (Seeding.next?_eq_none.2 (list ▸ few)), list]

namespace Sample

/-- A service that was not started yet, with no user but the system user. -/
def service : System := (System.fresh Config.default).within {}

/-- The vehicle ratifies the first driver. -/
def ratified : List Move := [.act (.answered 2 (.create ⟨true, ""⟩) none)]

/-- The first driver is created. -/
def seeded : History × System :=
  played [] service (.act (.perform {} (.createDriver "Driver 1" true)) :: ratified)

end Sample

/-- Seeding the sample makes one driver, and doing it again none. -/
theorem seeding_of_sample : Seeds {} ⟨1, Sample.service.drivers⟩ Sample.service Sample.seeded.1
    Sample.seeded.2 [10] none ∧ [10] = Sample.seeded.2.drivers ∧
      Seeds {} ⟨1, Sample.seeded.2.drivers⟩ Sample.seeded.2 [] Sample.seeded.2 [10] none := by
  have made : IsRun [] Sample.service := .new new_default {}
  have returned : History.returned Sample.seeded.1 = [(1, .create ⟨.successful,
      some ⟨10, "Driver 1", Kind.full, Flags.admin, UserId.null, true⟩, ""⟩)] := by rfl
  have carries : CarriesOut {} (.createDriver "Driver 1" true) Sample.service _ Sample.seeded.1
      Sample.seeded.2 :=
    ⟨⟨Sample.ratified, by simp [Sample.ratified, Move.IsBehind], rfl⟩,
      returned ▸ List.mem_singleton.2 rfl⟩
  have enough : Seeds {} ⟨1, [10]⟩ Sample.seeded.2 [] Sample.seeded.2 [10] none := .enough rfl
  have next : Seeding.next? ⟨1, Sample.service.drivers⟩ =
      some (.createDriver "Driver 1" true) := by rfl
  have seeds := Seeds.created next carries rfl enough
  rw [List.append_nil] at seeds
  obtain ⟨list, -, -, -, again⟩ := (seeding_converges made .fresh rfl seeds
    (by decide +kernel)).1 rfl
  exact ⟨seeds, list, (again {} 1 (by decide) _ _ _ _).2 ⟨rfl, rfl, rfl, rfl⟩⟩

end Service

end HeadUnit
