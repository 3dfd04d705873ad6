import HeadUnit.Proofs.Provision.Removal

/-!
# Runs of the provisioning

Users are created and removed by calls that may overlap: a creation that the vehicle has to ratify
is cut in two at the question, and anything can happen before the answer. A *move* is one thing
that can happen to the office in which this is done, which keeps the roster and the creations that
are under way. What a move does is `Office.deed`, which only calls the operations of the
provisioning, and says which creation the move belongs to and what has come of it.

A run (`IsRun`) begins with a roster that users were put into, and makes moves in any order. One
that is not possible changes nothing. The vehicle is not trusted: a question ends with any answer
or with any fault, a timeout or a cancellation among them, and never if it likes. Creations can be
made to fail at any time, but not removals.

`Change` lists what a move can come to, one constructor per outcome; `change_deed` says that the
list is complete.
-/

namespace HeadUnit.Provision

open Roster (Adds Removes)

/-- A creation that waits for the vehicle, and the user it has made. -/
structure Pending where
  call : Nat
  user : User
  deriving DecidableEq, Repr

/-- The roster, and the creations under way. -/
structure Office where
  roster : Roster
  pending : List Pending := []
  /-- The number of the next creation. -/
  nextCall : Nat := 0
  deriving Repr

/-- One thing that can happen to the office. A call finds some foreground user, and a vehicle that
    wants a say, or to be told, or not. -/
inductive Move
  | createUser (current : UserId) (ratifies : Bool) (name kind : String) (flags : Flags)
  | createDriver (current : UserId) (ratifies : Bool) (name : String) (admin : Bool)
  | createProfile (name : String) (driver : UserId)
  /-- The question of a creation ends. -/
  | answered (call : Nat) (response : Vehicle.CreateResponse) (fault : Option Fault)
  | removeUser (current : UserId) (tells : Bool) (id : UserId)
  /-- Creations are made to fail, or not any more. -/
  | failCreations (fault : Option Fault)

/-- What a move comes to. -/
structure Deed where
  office : Office
  /-- The creation that the move belongs to. -/
  call : Option Nat := none
  /-- The record that the roster has handed out. -/
  made : Option User := none
  /-- What the creation has returned. -/
  result : Option CreateResult := none
  /-- The user that a removal has removed. -/
  removed : Option UserId := none

/-- The record that was handed out, with its creation. -/
def Deed.issue? (d : Deed) : Option (Nat × User) :=
  d.call.bind fun call => d.made.map (call, ·)

namespace Office

/-- A creation begins, and goes as far as it can. -/
def enter (o : Office) (st : Step Creation) : Deed :=
  match st.value with
  | .done result =>
    { office := { o with roster := st.roster, nextCall := o.nextCall + 1 }
      call := some o.nextCall
      made := result.user
      result := some result }
  | .ratify user _ =>
    { office :=
        { roster := st.roster
          pending := o.pending ++ [⟨o.nextCall, user⟩]
          nextCall := o.nextCall + 1 }
      call := some o.nextCall
      made := some user }

/-- A creation goes on with the end of its question. -/
def resume (o : Office) (call : Nat) (response : Vehicle.CreateResponse) (fault : Option Fault) :
    Deed :=
  match o.pending.find? (·.call == call) with
  | none => { office := o }
  | some p =>
    let st := ratified o.roster p.user response fault
    { office := { o with roster := st.roster, pending := o.pending.filter (·.call != call) }
      call := some call
      result := some st.value }

/-- What a move does. -/
def deed (o : Office) : Move → Deed
  | .createUser current ratifies name kind flags =>
    o.enter (create o.roster current ratifies name kind flags)
  | .createDriver current ratifies name admin =>
    o.enter (createDriver o.roster current ratifies name admin)
  | .createProfile name driver => o.enter (createProfile o.roster name driver).asDone
  | .answered call response fault => o.resume call response fault
  | .removeUser current tells id =>
    let st := remove o.roster current tells id
    { office := { o with roster := st.roster }
      removed := if st.value.status.isSuccess then some id else none }
  | .failCreations fault => { office := { o with roster := { o.roster with createFault := fault } } }

end Office

/-! ## What a move comes to -/

/-- A creation has done nothing, made a user, or made one that is to be ratified. -/
inductive Begins (r : Roster) (st : Step Creation) : Prop
  | refused {result : CreateResult} (roster : st.roster = r) (value : st.value = .done result)
      (failed : result.status ≠ .successful) (nobody : result.user = none)
  | made (u : User) (adds : Adds r u st.roster) (message : String)
      (value : st.value = .done ⟨.successful, some u, message⟩)
  | awaits (u : User) (adds : Adds r u st.roster) (request : Vehicle.Request)
      (value : st.value = .ratify u request)

section Begins

variable {r : Roster}

theorem begins_create (current : UserId) (ratifies : Bool) (name kind : String) (flags : Flags) :
    Begins r (create r current ratifies name kind flags) := by
  unfold create
  split
  · exact .refused rfl rfl nofun rfl
  · split
    · exact .refused rfl rfl nofun rfl
    · next u r' added =>
      have adds := Roster.adds_addNew added
      dsimp only
      split
      · exact .awaits u adds _ rfl
      · exact .made u adds _ rfl

theorem begins_createDriver (current : UserId) (ratifies : Bool) (name : String) (admin : Bool) :
    Begins r (createDriver r current ratifies name admin) := by
  unfold createDriver
  split
  · exact .refused rfl rfl nofun rfl
  · exact begins_create ..

theorem begins_createProfile (name : String) (driver : UserId) :
    Begins r (createProfile r name driver).asDone := by
  unfold createProfile
  split
  · exact .refused rfl rfl nofun rfl
  · split
    · exact .refused rfl rfl nofun rfl
    · split
      · exact .refused rfl rfl nofun rfl
      · next u r' added => exact .made u (Roster.adds_createProfile added) _ rfl

end Begins

/-- A user that was not ratified is gone, whether or not somebody had removed it before. -/
theorem removes_compensate {r : Roster} (works : r.removeFault = none) (u : User)
    (reason : String) : Removes r u.id (compensate r u reason).1 := by
  unfold compensate
  dsimp only
  split
  · next r' gone => exact Roster.removes_remove gone
  · next f failed =>
    have absent := Roster.find?_of_remove_error works failed
    refine ⟨fun x => ?_, fun ordered => ordered, rfl, rfl⟩
    split
    · next own => rw [own, absent]
    · rfl

/-- What a move can come to. -/
inductive Change (o : Office) : Deed → Prop
  /-- Nothing that counts. -/
  | nothing (fault : Option Fault) :
      Change o { office := { o with roster := { o.roster with createFault := fault } } }
  /-- A creation has failed at once. -/
  | refused {result : CreateResult} (failed : result.status ≠ .successful)
      (nobody : result.user = none) :
      Change o {
        office := { o with nextCall := o.nextCall + 1 }
        call := some o.nextCall
        result := some result }
  /-- A creation has succeeded at once. -/
  | made {u : User} {r : Roster} (adds : Adds o.roster u r) (message : String) :
      Change o {
        office := { o with roster := r, nextCall := o.nextCall + 1 }
        call := some o.nextCall
        made := some u
        result := some ⟨.successful, some u, message⟩ }
  /-- A creation is under way. -/
  | awaits {u : User} {r : Roster} (adds : Adds o.roster u r) :
      Change o {
        office := ⟨r, o.pending ++ [⟨o.nextCall, u⟩], o.nextCall + 1⟩
        call := some o.nextCall
        made := some u }
  /-- A creation has succeeded. -/
  | approved {p : Pending} (underWay : p ∈ o.pending) (message : String) :
      Change o {
        office := { o with pending := o.pending.filter (·.call != p.call) }
        call := some p.call
        result := some ⟨.successful, some p.user, message⟩ }
  /-- A creation has failed, and its user is removed. -/
  | undone {p : Pending} (underWay : p ∈ o.pending) {r : Roster}
      (removes : Removes o.roster p.user.id r) {result : CreateResult}
      (failed : result.status ≠ .successful) (nobody : result.user = none) :
      Change o {
        office := { o with roster := r, pending := o.pending.filter (·.call != p.call) }
        call := some p.call
        result := some result }
  | removed {id : UserId} {r : Roster} (removes : Removes o.roster id r) :
      Change o { office := { o with roster := r }, removed := some id }

theorem change_enter {o : Office} {st : Step Creation} (begins : Begins o.roster st) :
    Change o (o.enter st) := by
  unfold Office.enter
  cases begins with
  | refused roster value failed nobody =>
    rw [value, roster]
    dsimp only
    rw [nobody]
    exact .refused failed nobody
  | made u adds message value =>
    rw [value]
    exact .made adds message
  | awaits u adds request value =>
    rw [value]
    exact .awaits adds

theorem change_resume {o : Office} (works : o.roster.removeFault = none) (call : Nat)
    (response : Vehicle.CreateResponse) (fault : Option Fault) :
    Change o (o.resume call response fault) := by
  unfold Office.resume
  split
  · exact .nothing o.roster.createFault
  · next p found =>
    have underWay : p ∈ o.pending := List.mem_of_find?_eq_some found
    obtain rfl : p.call = call := by simpa using List.find?_some found
    unfold ratified
    split
    · exact .undone underWay (removes_compensate works p.user _) nofun rfl
    · split
      · exact .approved underWay _
      · exact .undone underWay (removes_compensate works p.user _) nofun rfl

/-- Where removals do not fail, every move is one of the changes. -/
theorem change_deed {o : Office} (works : o.roster.removeFault = none) (m : Move) :
    Change o (o.deed m) := by
  cases m with
  | createUser current ratifies name kind flags => exact change_enter (begins_create ..)
  | createDriver current ratifies name admin => exact change_enter (begins_createDriver ..)
  | createProfile name driver => exact change_enter (begins_createProfile ..)
  | answered call response fault => exact change_resume works call response fault
  | removeUser current tells id =>
    have parts := parts_remove o.roster current tells id
    dsimp only [Office.deed]
    generalize remove o.roster current tells id = st at parts ⊢
    cases parts with
    | refused failed =>
      dsimp only
      rw [failed]
      exact .nothing o.roster.createFault
    | removed _ _ gone success =>
      dsimp only
      rw [if_pos success]
      exact .removed (Roster.removes_remove gone)
  | failCreations fault => exact .nothing fault

/-! ## Runs -/

/-- A move, and the office it was made in. -/
structure Moment where
  before : Office
  move : Move

namespace Moment

def deed (m : Moment) : Deed := m.before.deed m.move

/-- The office afterwards. -/
def after (m : Moment) : Office := m.deed.office

end Moment

/-- What happened so far, the oldest first. -/
abbrev History := List Moment

/-- The records that were handed out, each with its creation. -/
def History.made (h : History) : List (Nat × User) := h.filterMap (·.deed.issue?)

theorem History.made_snoc (h : History) (m : Moment) :
    made (h ++ [m]) = made h ++ m.deed.issue?.toList := by
  cases e : m.deed.issue? <;> simp [made, e]

theorem History.mem_made_snoc {h : History} {m : Moment} {e : Nat × User} :
    e ∈ made (h ++ [m]) ↔ e ∈ made h ∨ m.deed.issue? = some e := by
  rw [made_snoc, List.mem_append, Option.mem_toList]

/-- The history `h` is one of a run, which has led to the office `o`. -/
inductive IsRun : History → Office → Prop
  | opened {r : Roster} (stocked : r.Stocked) : IsRun [] { roster := r }
  | step {h : History} {o : Office} (m : Move) : IsRun h o → IsRun (h ++ [⟨o, m⟩]) (o.deed m).office

/-- The history and the office after the moves. -/
def played (h : History) (o : Office) : List Move → History × Office
  | [] => (h, o)
  | m :: ms => played (h ++ [⟨o, m⟩]) (o.deed m).office ms

/-- Moves make a run longer. -/
theorem IsRun.play {h : History} {o : Office} (run : IsRun h o) (ms : List Move) :
    IsRun (played h o ms).1 (played h o ms).2 := by
  induction ms generalizing h o with
  | nil => exact run
  | cons m ms ih => exact ih (run.step m)

end HeadUnit.Provision
