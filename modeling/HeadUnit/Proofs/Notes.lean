import HeadUnit.Association
import HeadUnit.Provision
import HeadUnit.Registry
import HeadUnit.Proofs.Bus.Run

/-!
# Who reports what

Only desks report whether a switch is tracked: the notes of all other parts are *plain*. There
is one lemma `plain_` per operation that reports something.
-/

namespace HeadUnit

/-- Whether a note leaves the gauge of tracked switches alone. -/
def Note.isPlain : Note → Bool
  | .inFlight _ => false
  | _ => true

/-- All notes are plain. -/
def Note.ArePlain (ns : List Note) : Prop := ∀ n ∈ ns, n.isPlain = true

namespace Note.ArePlain

theorem of_all {ns : List Note} (all : ns.all (·.isPlain) = true) : ArePlain ns :=
  List.all_eq_true.1 all

theorem cons {n : Note} {ns : List Note} (first : n.isPlain = true) (rest : ArePlain ns) :
    ArePlain (n :: ns) := List.forall_mem_cons.2 ⟨first, rest⟩

theorem append {ns ms : List Note} (one : ArePlain ns) (other : ArePlain ms) :
    ArePlain (ns ++ ms) := fun n mem => (List.mem_append.1 mem).elim (one n) (other n)

end Note.ArePlain

namespace Registry

theorem plain_evicted (e : Evicted) : Note.ArePlain e.notes := by
  refine .append (fun n mem => ?_) ?_
  · obtain ⟨id, _, rfl⟩ := List.mem_map.1 mem
    rfl
  · split
    · exact .of_all rfl
    · exact .of_all rfl

theorem plain_restore (r : Registry) (st : Snapshot) : Note.ArePlain (r.restore st).notes := by
  unfold restore
  dsimp only
  split
  · exact plain_evicted _
  · exact (plain_evicted _).append (.of_all rfl)

theorem plain_add (r : Registry) (u : User) (foreground : UserId) :
    Note.ArePlain (r.add u foreground).notes := by
  unfold add
  split
  · exact .of_all rfl
  split
  · exact plain_evicted _
  split
  · exact .of_all rfl
  · exact plain_evicted _

theorem plain_forget (r : Registry) (id : UserId) : Note.ArePlain (r.forget id).1.notes := by
  unfold forget
  split
  · exact .of_all rfl
  · exact .of_all rfl

theorem plain_setMax (r : Registry) (n : Int64) : Note.ArePlain (r.setMax n).notes := by
  unfold setMax
  split
  · exact .of_all rfl
  · exact .cons rfl (plain_evicted _)

theorem isPlain_lookUp {find : UserId → Except Fault User} {e : Event} {n : Note}
    (missed : lookUp find e = some (.error n)) : n.isPlain = true := by
  unfold lookUp at missed
  split at missed
  · cases known : find e.user with
    | error f => rw [known] at missed; cases missed; rfl
    | ok u => rw [known] at missed; cases missed
  · cases missed

theorem plain_startOne {millis : Int64} {st : Started} (plain : Note.ArePlain st.notes)
    (id : UserId) : Note.ArePlain (startOne millis st id).notes := by
  unfold startOne
  split
  · exact plain.append (.of_all rfl)
  · dsimp only
    split
    · exact plain.append (.of_all rfl)
    split
    · exact plain.append (.of_all rfl)
    · split
      · exact plain.append (.of_all rfl)
      · exact plain.append (.of_all rfl)

theorem plain_startAll (r : Registry) (s : Sessions) (millis : Int64) :
    Note.ArePlain (r.startAll s millis).2.notes := by
  have each (ids : List UserId) (st : Started) (plain : Note.ArePlain st.notes) :
      Note.ArePlain (ids.foldl (startOne millis) st).notes := by
    induction ids generalizing st with
    | nil => exact plain
    | cons id ids ih => exact ih _ (plain_startOne plain id)
  exact each _ { sessions := s } (.of_all rfl)

theorem plain_stop (r : Registry) (s : Sessions) (id : UserId) (millis : Int64) :
    Note.ArePlain (r.stop s id millis).2.2.2.1 := by
  unfold stop
  split
  · exact .of_all rfl
  split
  · exact .of_all rfl
  split
  · exact .of_all rfl
  · exact .of_all rfl

end Registry

namespace Provision

theorem plain_create (r : Roster) (current : UserId) (ratifies : Bool) (name kind : String)
    (flags : Flags) : Note.ArePlain (create r current ratifies name kind flags).notes := by
  unfold create
  split
  · exact .of_all rfl
  split
  · exact .of_all rfl
  · dsimp only
    split
    · exact .of_all rfl
    · exact .of_all rfl

theorem plain_createDriver (r : Roster) (current : UserId) (ratifies : Bool) (name : String)
    (admin : Bool) : Note.ArePlain (createDriver r current ratifies name admin).notes := by
  unfold createDriver
  split
  · exact .of_all rfl
  · exact plain_create _ _ _ _ _ _

theorem plain_createProfile (r : Roster) (name : String) (driver : UserId) :
    Note.ArePlain (createProfile r name driver).notes := by
  unfold createProfile
  split
  · exact .of_all rfl
  split
  · exact .of_all rfl
  split
  · exact .of_all rfl
  · exact .of_all rfl

theorem plain_compensate (r : Roster) (user : User) (reason : String) :
    Note.ArePlain (compensate r user reason).2 := by
  unfold compensate
  dsimp only
  split
  · exact .of_all rfl
  · exact .of_all rfl

theorem plain_ratified (r : Roster) (user : User) (response : Vehicle.CreateResponse)
    (fault : Option Fault) : Note.ArePlain (ratified r user response fault).notes := by
  unfold ratified
  split
  · exact (plain_compensate _ _ _).append (.of_all rfl)
  split
  · exact .of_all rfl
  · exact (plain_compensate _ _ _).append (.of_all rfl)

theorem plain_remove (r : Roster) (current : UserId) (tells : Bool) (id : UserId) :
    Note.ArePlain (remove r current tells id).notes := by
  unfold remove
  split
  · exact .of_all rfl
  split
  · exact .of_all rfl
  · dsimp only
    split
    · exact .of_all rfl
    split
    · exact .of_all rfl
    · exact .of_all rfl

end Provision

theorem Association.plain_answered (isWrite : Bool) (caller : UserId)
    (response : Vehicle.AssociationResponse) (fault : Option Fault) :
    Note.ArePlain (answered isWrite caller response fault).2 := by
  unfold answered
  split
  · exact .of_all rfl
  · exact .of_all rfl

namespace Bus

variable {L H : Type}

/-- All notes among what a bus asks for are plain. -/
def Effect.ArePlain (es : List (Effect L H)) : Prop := ∀ n, .note n ∈ es → n.isPlain = true

theorem Effect.ArePlain.append {es fs : List (Effect L H)} (one : ArePlain es)
    (other : ArePlain fs) : ArePlain (es ++ fs) :=
  fun n mem => (List.mem_append.1 mem).elim (one n) (other n)

/-- A bus has reported plain notes only. -/
def IsPlain (b : Bus L H) : Prop := Effect.ArePlain b.out

theorem isPlain_take (b : Bus L H) : b.take.2.IsPlain := fun _ mem => absurd mem List.not_mem_nil

namespace IsPlain

variable {b : Bus L H}

theorem emit (plain : b.IsPlain) {es : List (Effect L H)} (new : Effect.ArePlain es) :
    (b.emit es).IsPlain := plain.append new

theorem note (plain : b.IsPlain) {n : Note} (new : n.isPlain = true) : (b.note n).IsPlain := by
  refine plain.emit fun m mem => ?_
  cases List.mem_singleton.1 mem
  exact new

/-- Something is asked for that is no note. -/
theorem ask (plain : b.IsPlain) {e : Effect L H} (other : ∀ n, e ≠ .note n) :
    (b.emit [e]).IsPlain :=
  plain.emit fun n mem => absurd (List.mem_singleton.1 mem).symm (other n)

theorem postDeaths (plain : b.IsPlain) (rs : List (Remote H)) : (b.postDeaths rs).IsPlain := by
  unfold Bus.postDeaths
  split
  · exact plain
  · exact plain

theorem finish (plain : b.IsPlain) : b.finish.IsPlain := by
  have released (ids : List Nat) : Effect.ArePlain (ids.map (Effect.release (L := L) (H := H))) := by
    intro n mem
    obtain ⟨_, _, e⟩ := List.mem_map.1 mem
    cases e
  refine (plain.append (released _)).append fun n mem => ?_
  cases List.mem_singleton.1 mem
  rfl

theorem returned (plain : b.IsPlain) (crash : Option Crash) : (b.returned crash).IsPlain := by
  unfold Bus.returned
  split
  · dsimp only
    split
    · exact plain
    · refine emit plain fun n mem => ?_
      simp only [List.mem_cons, List.not_mem_nil, or_false, Effect.note.injEq] at mem
      rcases mem with rfl | rfl <;> rfl
  · exact plain

theorem sent (plain : b.IsPlain) (fault : Option Fault) : (b.sent fault).IsPlain := by
  unfold Bus.sent
  split
  · dsimp only
    split
    · exact plain
    · refine emit plain fun n mem => ?_
      simp only [List.mem_cons, List.not_mem_nil, or_false, Effect.note.injEq] at mem
      rcases mem with rfl | rfl <;> rfl
  · exact plain

/-- What is posted, or refused, leaves the notes alone. -/
theorem posted (plain : b.IsPlain) (c : Command L H) :
    ((b.post c).toOption.getD b).IsPlain := by
  unfold Bus.post
  split
  · exact plain
  · exact plain

variable [DecidableEq L] [DecidableEq H]

theorem applyOne (plain : b.IsPlain) (c : Command L H) : (b.applyOne c).IsPlain := by
  cases c with
  | addLocal l =>
    dsimp only [Bus.applyOne]
    split
    · exact plain
    · exact plain
  | removeLocal l | removeRemote uid => exact plain
  | addRemote uid h =>
    simp only [Bus.applyOne]
    split
    · have replaced := plain.note (n := Note.debug "replacing remote lifecycle listener"
        [Log.int "uid" uid]) rfl
      split
      · refine postDeaths ?_ _
        exact replaced
      · exact replaced
    · split
      · refine postDeaths ?_ _
        exact plain
      · exact plain
  | remoteDied uid stamp =>
    dsimp only [Bus.applyOne]
    split
    · exact note plain rfl
    · exact plain

theorem foldl_applyOne (plain : b.IsPlain) (cs : List (Command L H)) :
    (cs.foldl Bus.applyOne b).IsPlain := by
  induction cs generalizing b with
  | nil => exact plain
  | cons c cs ih => exact ih (plain.applyOne c)

theorem applyControl (plain : b.IsPlain) : b.applyControl.IsPlain :=
  note (foldl_applyOne (b := { b with control := [] }) plain b.control) rfl

theorem takeItem (plain : b.IsPlain) : b.takeItem.IsPlain := by
  have emptied := plain.applyControl
  unfold Bus.takeItem
  dsimp only
  split
  · exact ask emptied nofun
  · exact note emptied rfl
  · split
    · exact emptied.finish
    · exact emptied

theorem nextLocal (plain : b.IsPlain) (e : Event) (todo : List L) :
    (b.nextLocal e todo).IsPlain := by
  have emptied := plain.applyControl
  unfold Bus.nextLocal
  split
  · exact plain
  · dsimp only
    split
    · exact ask emptied nofun
    · exact emptied

theorem nextRemote (plain : b.IsPlain) (e : Event) (todo : List Int64) :
    (b.nextRemote e todo).IsPlain := by
  have emptied := plain.applyControl
  unfold Bus.nextRemote
  split
  · exact note plain rfl
  · dsimp only
    split
    · exact emptied
    split
    · exact note emptied rfl
    · exact ask emptied nofun

theorem work (plain : b.IsPlain) : (b.step?.getD b).IsPlain := by
  unfold Bus.step?
  split
  · exact plain
  · split
    · exact plain
    split
    · exact plain
    · exact plain
  · exact plain.takeItem
  · exact plain.nextLocal _ _
  · exact plain
  · exact plain.nextRemote _ _
  · exact plain
  · exact plain

/-- Whatever happens to a bus, its notes are plain. -/
theorem move (plain : b.IsPlain) (m : Move L H) : (b.move m).IsPlain := by
  cases m with
  | dispatch e =>
    dsimp only [Bus.move, Bus.dispatch]
    split
    · exact plain.note rfl
    · exact plain
  | register o | unregister o =>
    cases o with
    | missing | notComparable => exact plain
    | listener l => exact plain.posted _
  | registerRemote uid handle =>
    cases handle with
    | none => exact plain
    | some h => exact plain.posted _
  | unregisterRemote uid => exact plain.posted _
  | flush barrier =>
    dsimp only [Bus.move, Bus.flush]
    split
    · exact plain
    · exact plain
  | die handle => exact postDeaths (b := { b with dead := handle :: b.dead }) plain _
  | work => exact plain.work
  | returned crash => exact plain.returned crash
  | sent fault => exact plain.sent fault
  | start =>
    dsimp only [Bus.move, Bus.start]
    split
    · exact plain
    · exact plain
  | wake closing =>
    dsimp only [Bus.move]
    split
    · exact plain
    · exact plain
  | report uid stamp => exact plain.posted _
  | withhold uid stamp | endContext => exact plain

end IsPlain

end Bus

end HeadUnit
