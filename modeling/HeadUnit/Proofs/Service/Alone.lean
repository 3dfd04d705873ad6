import HeadUnit.Proofs.Service.Front

/-!
# Operations that are carried out alone

An operation is carried out (`CarriesOut`) by the move that performs it and moves behind the calls,
until its call has returned. If no other call is left there is none but this one, and what is
behind the calls says little about it: a call that waits for no desk either goes on waiting, with
the users as they are, or gets what it waits for and is done (`Front.Waits`).

What a creation may end with is said by `Provision.Ends`.
-/

namespace HeadUnit

/-- How a creation may end that was checked and made locally, and which users there are then. -/
inductive Provision.Ends (st : Step Creation) : CreateResult → Roster → Prop
  | done {r : CreateResult} (value : st.value = .done r) : Ends st r st.roster
  | ratified {user : User} {request : Vehicle.Request} (value : st.value = .ratify user request)
      (response : Vehicle.CreateResponse) (fault : Option Fault) :
      Ends st (ratified st.roster user response fault).value
        (ratified st.roster user response fault).roster

namespace Service

open Switching (Desk)
open HeadUnit.Service.System

/-! ## Earlier results -/

namespace Front

variable {x y : Front}

/-- There were results before. -/
def after (l : List (Nat × Result)) (x : Front) : Front := { x with returned := l ++ x.returned }

theorem after_finish (l : List (Nat × Result)) (x : Front) (id : Nat) (r : Result) :
    (x.finish id r).after l = (x.after l).finish id r := by
  simp [after, finish, List.append_assoc]

theorem after_hear (l : List (Nat × Result)) (x : Front) (e : Switching.Effect) :
    (x.hear e).after l = (x.after l).hear e := by
  have calls (id : Nat) : (x.after l).call? id = x.call? id := rfl
  cases e with
  | reply ticket result =>
    simp only [hear, calls]
    split
    · exact after_finish ..
    · rfl
  | admitted p =>
    cases p with
    | caller id =>
      simp only [hear, calls]
      split
      · exact after_finish ..
      · rfl
    | bus | trip | worker => rfl
  | _ => rfl

theorem after_foldl_hear (l : List (Nat × Result)) (x : Front) (es : List Switching.Effect) :
    (es.foldl hear x).after l = es.foldl hear (x.after l) := by
  induction es generalizing x with
  | nil => rfl
  | cons e es ih => rw [List.foldl_cons, ih, after_hear, List.foldl_cons]

theorem after_moveDesk (l : List (Nat × Result)) (x : Front) (i : Nat) (q : Switching.Move) :
    (x.moveDesk i q).after l = (x.after l).moveDesk i q := by
  unfold moveDesk
  rw [show (x.after l).books = x.books from rfl]
  split
  · rfl
  · exact after_foldl_hear ..

theorem Step.after (step : x.Step y) (l : List (Nat × Result)) : (x.after l).Step (y.after l) := by
  cases step with
  | found i e u unlocked known => exact .found i e u unlocked known
  | recorded i u found => exact .recorded i u found
  | desk i q own sees => exact after_moveDesk l x i q ▸ .desk i q own sees
  | setting i q setting => exact .setting i q setting
  | elapsed t => exact .elapsed t
  | returned found gets => exact after_finish l x _ _ ▸ .returned found gets
  | created found creating response fault =>
    exact after_finish l _ _ _ ▸ Step.created (x := x.after l) found creating response fault

theorem Steps.after (steps : x.Steps y) (l : List (Nat × Result)) : (x.after l).Steps (y.after l) :=
  Relation.ReflTransGen.lift (Front.after l) (fun _ _ step => Step.after step l) _ _ steps

theorem Passes.after (passes : x.Passes y) (l : List (Nat × Result)) :
    (x.after l).Passes (y.after l) := by
  cases passes with
  | aside steps => exact .aside (steps.after l)
  | @switched i d c sessions y here doing foreground steps =>
    exact after_moveDesk l y i _ ▸ .switched here doing foreground (steps.after l)
  | failed f here doing => exact after_moveDesk l x _ _ ▸ .failed f here doing

end Front

/-! ## Carrying out an operation -/

/-- What calls have returned by a move. -/
def Moment.returned (m : Moment) : List (Nat × Result) := (m.before.move m.move).front.returned

/-- What calls have returned, the oldest first. -/
def History.returned (h : History) : List (Nat × Result) := h.flatMap (·.returned)

/-- What was returned is taken away after a move, and told before what comes later. -/
theorem Moment.after_front (m : Moment) (l : List (Nat × Result)) :
    m.after.front.after (l ++ m.returned) = (m.before.move m.move).front.after l := by
  simp only [Front.after, front, Moment.after, System.take, Moment.returned, List.filterMap_nil,
    List.append_nil]
  rfl

/-- The system `s` carries out an operation, with the result `r`. Nobody else calls it in the
    history `h`, which leads to the system `t`. -/
structure CarriesOut (ctx : Context) (op : Operation) (s : System) (r : Result) (h : History)
    (t : System) : Prop where
  moves : ∃ ms : List Move, (∀ m ∈ ms, m.IsBehind) ∧
    played [] s (.act (.perform ctx op) :: ms) = (h, t)
  returns : (s.nextId, r) ∈ History.returned h

/-- What goes on behind the calls. -/
abbrev Front.Proceeds : Front → Front → Prop := Relation.ReflTransGen Front.Passes

/-- The front after moves behind the calls, with all that calls have returned. -/
theorem passes_played {s : System} (silent : s.out = []) {ms : List Move}
    (behind : ∀ m ∈ ms, m.IsBehind) (l : List (Nat × Result)) :
    (played [] s ms).2.out = [] ∧ (s.front.after l).Proceeds
      ⟨(played [] s ms).2.books, (played [] s ms).2.calls,
        l ++ History.returned (played [] s ms).1⟩ := by
  induction ms generalizing s l with
  | nil =>
    have same : s.front.after l = ⟨s.books, s.calls, l ++ History.returned []⟩ := by
      simp [Front.after, front, silent, History.returned]
    rw [same]
    exact ⟨silent, .refl⟩
  | cons m ms ih =>
    obtain ⟨silent', passes⟩ := ih (s := (Moment.mk s m).after) rfl
      (fun n mem => behind n (List.mem_cons_of_mem _ mem)) (l ++ Moment.returned ⟨s, m⟩)
    have first := (passes_move s (behind m List.mem_cons_self)).after l
    rw [played, played_eq]
    refine ⟨silent', ?_⟩
    have returned : History.returned ([] ++ [⟨s, m⟩] ++ (played [] (Moment.mk s m).after ms).1) =
        Moment.returned ⟨s, m⟩ ++ History.returned (played [] (Moment.mk s m).after ms).1 := by
      simp [History.returned]
    rw [returned, ← List.append_assoc]
    rw [Moment.after_front] at passes
    exact .head first passes

/-- What becomes of the front after the operation was performed. -/
theorem CarriesOut.passes {ctx : Context} {op : Operation} {s t : System} {r : Result} {h : History}
    (carries : CarriesOut ctx op s r h t) : t.out = [] ∧
    (s.freshId.2.perform s.nextId ctx op).front.Proceeds
      ⟨t.books, t.calls, History.returned h⟩ := by
  obtain ⟨ms, behind, led⟩ := carries.moves
  let first : Moment := ⟨s, .act (.perform ctx op)⟩
  obtain ⟨silent, passes⟩ := passes_played (s := first.after) rfl behind first.returned
  rw [played, played_eq] at led
  cases led
  have returned : History.returned ([] ++ [first] ++ (played [] first.after ms).1) =
      first.returned ++ History.returned (played [] first.after ms).1 := by
    simp [History.returned]
  refine ⟨silent, ?_⟩
  have begun := first.after_front []
  rw [List.nil_append] at begun
  rw [begun] at passes
  rw [returned]
  exact passes

/-! ## Calls that wait for no desk -/

/-- The call waits for something that a desk does. -/
def Work.HeedsDesk : Work → Prop
  | .posting | .switching => True
  | _ => False

namespace Front

variable {x y : Front}

/-- No call waits for a desk. -/
def IsDeaf (x : Front) : Prop := ∀ c ∈ x.calls, ¬c.work.HeedsDesk

theorem isDeaf_of_alone (alone : x.calls = []) : x.IsDeaf := by
  intro c mem
  rw [alone] at mem
  cases mem

theorem Hears.eq_of_deaf {e : Switching.Effect} (hears : x.Hears e y) (deaf : x.IsDeaf) :
    y = x := by
  cases hears with
  | switched _ found | posted found =>
    exact absurd trivial (deaf _ (List.mem_of_find?_eq_some found))
  | passed => rfl

theorem foldl_hear_of_deaf (deaf : x.IsDeaf) (es : List Switching.Effect) :
    es.foldl hear x = x := by
  induction es with
  | nil => rfl
  | cons e es ih => rw [List.foldl_cons, (x.hears e).eq_of_deaf deaf, ih]

theorem moveDesk_of_deaf (deaf : x.IsDeaf) (i : Nat) (q : Switching.Move) :
    x.moveDesk i q = x.withBooks (x.books.moveDesk i q) := by
  unfold moveDesk
  split
  · next missing =>
    rw [Books.moveDesk, List.modify_eq_self (List.getElem?_eq_none_iff.1 missing)]
    rfl
  · exact foldl_hear_of_deaf (x := x.withBooks (x.books.moveDesk i q)) deaf _

/-- What steps and switches keep is kept by all that goes on behind the calls. -/
theorem Passes.keep {I : Front → Prop} (step : ∀ {x y : Front}, I x → x.Step y → I y)
    (switch : ∀ {x : Front} (sessions : Sessions), I x →
      I (x.withBooks { x.books with sessions := sessions }))
    (commit : ∀ {x : Front} (i : Nat) (v : Switching.View) (fault : Option Fault), I x →
      I (x.moveDesk i (.committed v fault)))
    (passes : x.Passes y) (here : I x) : I y := by
  have all {x y : Front} (steps : x.Steps y) (here : I x) : I y := by
    induction steps with
    | refl => exact here
    | tail _ next ih => exact step ih next
  cases passes with
  | aside steps => exact all steps here
  | switched _ _ _ steps => exact commit _ _ _ (all steps (switch _ here))
  | failed => exact commit _ _ _ here

/-- How far the call `id` has come that waits for no desk: nothing has changed for it, or it has
    returned. Its result and the users there are then satisfy `Q`. -/
inductive Waits (id : Nat) (Q : Result → Roster → Prop) (x : Front) : Prop
  | pending {c : Call} (calls : x.calls = [c]) (own : c.id = id) (returned : x.returned = [])
      (deaf : ¬c.work.HeedsDesk) (gets : ∀ r, c.work.Gets r → Q r x.books.roster)
      (creates : ∀ user response fault, c.work = .creating user →
        Q (.create (Provision.ratified x.books.roster user response fault).value)
          (Provision.ratified x.books.roster user response fault).roster)
  | ended {r : Result} (calls : x.calls = []) (returned : x.returned = [(id, r)])
      (holds : Q r x.books.roster)

namespace Waits

variable {id : Nat} {Q : Result → Roster → Prop}

theorem isDeaf (waits : x.Waits id Q) : x.IsDeaf := by
  cases waits with
  | pending calls own returned deaf =>
    intro c mem
    obtain rfl := List.mem_singleton.1 (calls ▸ mem)
    exact deaf
  | ended calls => exact isDeaf_of_alone calls

/-- The books change, but not the users. -/
theorem withBooks (waits : x.Waits id Q) {b : Books} (same : b.roster = x.books.roster) :
    (x.withBooks b).Waits id Q := by
  cases waits with
  | pending calls own returned deaf gets creates =>
    rw [← same] at gets creates
    exact .pending (x := x.withBooks b) calls own returned deaf gets creates
  | ended calls returned holds =>
    rw [← same] at holds
    exact .ended (x := x.withBooks b) calls returned holds

theorem moveDesk (waits : x.Waits id Q) (i : Nat) (q : Switching.Move) :
    (x.moveDesk i q).Waits id Q := by
  rw [moveDesk_of_deaf waits.isDeaf]
  exact waits.withBooks rfl

/-- Only the call itself may return. -/
theorem eq_of_found {c d : Call} (calls : x.calls = [c]) (found : x.call? d.id = some d) : d = c :=
  List.mem_singleton.1 (calls ▸ List.mem_of_find?_eq_some found)

theorem step (waits : x.Waits id Q) (step : x.Step y) : y.Waits id Q := by
  cases step with
  | recorded i u =>
    obtain ⟨_, _, changed⟩ := x.books.change_eq
      (x.books.registry.add u x.books.sessions.current)
    exact waits.withBooks (by rw [Books.settle, changed])
  | desk i q => exact waits.moveDesk i q
  | found | setting | elapsed => exact waits.withBooks rfl
  | @returned d r found got =>
    cases waits with
    | @pending c calls own returned deaf gets creates =>
      obtain rfl := eq_of_found calls found
      refine .ended ?_ ?_ (gets r got)
      · simp [finish, calls]
      · simp [finish, returned, own]
    | ended calls =>
      rw [call?, calls] at found
      cases found
  | @created d user found creating response fault =>
    cases waits with
    | @pending c calls own returned deaf gets creates =>
      obtain rfl := eq_of_found calls found
      refine .ended ?_ ?_ (creates user response fault creating)
      · simp [finish, Front.withBooks, calls]
      · simp [finish, Front.withBooks, returned, own]
    | ended calls =>
      rw [call?, calls] at found
      cases found

theorem passes (waits : x.Waits id Q) (passes : x.Passes y) : y.Waits id Q :=
  passes.keep (fun here next => here.step next) (fun _ here => here.withBooks rfl)
    (fun i v fault here => here.moveDesk i (.committed v fault)) waits

theorem proceeds (waits : x.Waits id Q) (proceeds : x.Proceeds y) : y.Waits id Q := by
  induction proceeds with
  | refl => exact waits
  | tail _ next ih => exact ih.passes next

end Waits

end Front

/-- A call that waits for no desk returns what it waits for, and no call is left. -/
theorem CarriesOut.ended {ctx : Context} {op : Operation} {s t : System} {r : Result} {h : History}
    {Q : Result → Roster → Prop} (carries : CarriesOut ctx op s r h t)
    (begun : (s.freshId.2.perform s.nextId ctx op).front.Waits s.nextId Q) :
    Q r t.roster ∧ t.calls = [] ∧ t.out = [] := by
  obtain ⟨silent, passes⟩ := carries.passes
  have waits := begun.proceeds passes
  generalize front : (⟨t.books, t.calls, History.returned h⟩ : Front) = y at waits
  have told : (s.nextId, r) ∈ y.returned := front ▸ carries.returns
  cases waits with
  | pending calls own returned =>
    rw [returned] at told
    cases told
  | ended calls returned holds =>
    rw [returned] at told
    cases List.mem_singleton.1 told
    subst front
    exact ⟨holds, calls, silent⟩

/-! ## Creations -/

section Creations

variable {ctx : Context} {op : Operation} {s t : System} {r : Result} {h : History}

theorem front_await (s : System) (id : Nat) (deadline : Option Int) (w : Work) :
    (s.await id deadline w).front =
      { s.front with calls := s.front.calls ++ [⟨id, deadline, w⟩] } :=
  rfl

/-- A creation goes on once it was checked and made locally. -/
theorem waits_created (quiet : s.calls = []) (silent : s.out = []) (timeout : Duration)
    (st : Provision.Step Provision.Creation) :
    (s.freshId.2.created s.nextId ctx timeout st).front.Waits s.nextId fun r roster =>
      ∃ r', r = .create r' ∧ Provision.Ends st r' roster := by
  have noted : ({ s.freshId.2 with roster := st.roster }.notes st.notes).front =
      s.front.withBooks { s.books with roster := st.roster } :=
    Silent.front_eq ((silent_notes { s.freshId.2 with roster := st.roster } _).since rfl rfl)
      (books_notes ..)
  have told : s.front.returned = [] := by simp [front, silent]
  have left : s.front.calls = [] := quiet
  unfold created
  dsimp only
  cases value : st.value with
  | done r =>
    dsimp only
    rw [front_finish, noted]
    refine .ended ?_ ?_ ⟨r, rfl, .done value⟩
    · simp [Front.finish, Front.withBooks, left]
    · simp [Front.finish, Front.withBooks, told]
  | ratify user request =>
    dsimp only
    rw [(silent_askVehicle ..).same_front rfl, front_await, noted]
    refine .pending (c := ⟨s.nextId, none, .creating user⟩) ?_ rfl told id
      (fun r gets => False.elim gets) ?_
    · simp [Front.withBooks, left]
    · rintro user' response fault same
      cases same
      exact ⟨_, rfl, .ratified value response fault⟩

/-- A creation that is carried out alone ends as creations end. -/
theorem CarriesOut.created {timeout : Duration} {st : Provision.Step Provision.Creation}
    (carries : CarriesOut ctx op s r h t) (performs : s.freshId.2.perform s.nextId ctx op =
      s.freshId.2.created s.nextId ctx timeout st)
    (quiet : s.calls = []) (silent : s.out = []) :
    (∃ r', r = .create r' ∧ Provision.Ends st r' t.roster) ∧ t.calls = [] ∧ t.out = [] :=
  carries.ended (performs ▸ waits_created quiet silent timeout st)

end Creations

end Service

end HeadUnit
