import Mathlib.Data.List.Induction
import HeadUnit.Proofs.Bus.Line
import HeadUnit.Proofs.Service.Listening
import HeadUnit.Proofs.Switching.Line

/-!
# The line of a run

The news on their way to the desk of a run stand in one *line* (`Run.line`): those that the worker
of the desk has yet to take, then the calls of the desk that are in hand, then the events that the
bus has yet to call the desk with.

While its desk is open and attached to the bus, nobody gets out of line: the worker takes the first,
and what reaches the bus is put at the end (`Run.Queues`), by every step, by every move
(`IsRun.advances`) and from any moment on (`IsRun.queues_since`). So the news of an event are taken
when as many have been taken as were in line before it.
-/

namespace HeadUnit.Service

open Switching (Desk Command)
open HeadUnit.Service.System

/-- The news that events bring. -/
def newsOf (es : List Event) : List Command := es.filterMap Desk.commandOf?

theorem newsOf_append (es fs : List Event) : newsOf (es ++ fs) = newsOf es ++ newsOf fs :=
  List.filterMap_append

/-- The news that the calls in hand bring to the desk. -/
def handed (es : Hand) : List Command := newsOf (es.filterMap (·.called? .desk))

namespace Run

/-- The news on their way to the desk, in the order in which its worker will take them. -/
def line (r : Run) (es : Hand) : List Command :=
  r.desk.news ++ handed es ++ newsOf (r.bus.standing.line .desk)

/-- Nobody gets out of line: no listener is registered twice, and posters wait at the desk only
    while its queue is full. -/
structure InLine (r : Run) : Prop where
  distinct : r.bus.locals.Nodup
  tidy : r.desk.closed = false → r.desk.IsTidy

/-- From `x` to `y` the desk takes the news `taken` off the line, and `new` are put at its end, if it
    is attached to the bus. -/
structure Queues (x y : Run × Hand) (taken new : List Command) : Prop where
  inLine : y.1.InLine
  tends : Tends x.1.bus y.1.bus
  bus : x.1.bus.closed = true → y.1.bus.closed = true ∧ new = []
  desk : y.1.desk.closed = false → x.1.desk.closed = false
  line : x.1.bus.standing.Attached .desk → y.1.desk.closed = false →
    taken ++ y.1.line y.2 = x.1.line x.2 ++ new

namespace Queues

variable {x y z : Run × Hand} {taken taken' new new' : List Command} {r r' : Run} {es es' : Hand}

/-- Bus and desk stay as they are. -/
theorem of_same (inLine : r.InLine) (bus : r'.bus = r.bus) (desk : r'.desk = r.desk)
    (hand : handed es' = handed es) : Queues (r, es) (r', es') [] [] where
  inLine := ⟨bus ▸ inLine.distinct, desk ▸ inLine.tidy⟩
  tends := by
    rw [bus]
    exact .refl r.bus
  bus shut := ⟨bus ▸ shut, rfl⟩
  desk isOpen := desk ▸ isOpen
  line _ _ := by
    rw [List.nil_append, List.append_nil, Run.line, Run.line, bus, desk, hand]

theorem refl (inLine : r.InLine) (es : Hand) : Queues (r, es) (r, es) [] [] :=
  of_same inLine rfl rfl rfl

theorem trans (one : Queues x y taken new) (other : Queues y z taken' new') :
    Queues x z (taken ++ taken') (new ++ new') where
  inLine := other.inLine
  tends := one.tends.trans other.tends
  bus shut := by
    obtain ⟨meanwhile, rfl⟩ := one.bus shut
    obtain ⟨after, rfl⟩ := other.bus meanwhile
    exact ⟨after, rfl⟩
  desk isOpen := one.desk (other.desk isOpen)
  line attached isOpen := by
    rw [List.append_assoc, other.line (one.tends.attached rfl attached) isOpen, ← List.append_assoc,
      one.line attached (other.desk isOpen), List.append_assoc]

/-- The bus makes a move: an event that is accepted is put at the end. -/
theorem moveBus (inLine : r.InLine) {m : Bus.Move Listener Nat}
    (outer : ∀ l : Listener, l.isOwn = true → m ≠ .unregister (.listener l)) (es : Hand) :
    Queues (r, es) ({ r with bus := r.bus.move m }, es) [] (newsOf (r.bus.admits m)) where
  inLine := ⟨(Bus.change_move r.bus m).nodup inLine.distinct, inLine.tidy⟩
  tends := .move r.bus outer
  bus shut := by
    refine ⟨Bus.closed_move shut m, ?_⟩
    replace shut : r.bus.closed = true := shut
    cases m with
    | dispatch e =>
      rw [Bus.admits, if_pos shut]
      rfl
    | _ => rfl
  desk isOpen := isOpen
  line attached _ := by
    simp only [Run.line, Bus.line_move attached inLine.distinct, newsOf_append, List.nil_append,
      List.append_assoc]

/-- What the bus has asked for is taken in hand. -/
theorem takeBus (inLine : r.InLine) :
    Queues (r, []) ({ r with bus := r.bus.take.2 }, r.bus.take.1) [] [] where
  inLine := ⟨inLine.distinct, inLine.tidy⟩
  tends := .take r.bus
  bus shut := ⟨shut, rfl⟩
  desk isOpen := isOpen
  line _ _ := by
    have front := congrArg newsOf (Bus.line_take r.bus .desk)
    rw [newsOf_append] at front
    simp only [Run.line, List.nil_append, List.append_nil, List.append_assoc]
    rw [← front]
    rfl

/-- The worker of the bus makes a move, and what it asks for is taken in hand. -/
theorem workBus (inLine : r.InLine) : Queues (r, [])
    ({ r with bus := (Bus.Moment.mk r.bus .work).after }, (Bus.Moment.mk r.bus .work).effects)
    [] [] :=
  let worked := moveBus inLine (m := .work) (fun _ _ => nofun) []
  worked.trans (takeBus worked.inLine)

/-- The desk makes a move: what it is told is handed on, and the worker takes the first. -/
theorem moveDesk (inLine : r.InLine) {q : Switching.Move} (unclosed : ∀ v, q ≠ .close v)
    (few : q.tells.length ≤ 1) (told : handed es = q.tells ++ handed es') {d : Desk}
    (same : (r.desk.move q).SameLine d) :
    Queues (r, es) ({ r with desk := d }, es') ((r.desk.takes q).filter (·.IsNews)) [] where
  inLine := by
    refine ⟨inLine.distinct, fun isOpen => same.isTidy ?_⟩
    exact (Desk.news_move inLine.tidy unclosed few (same.closed.symm.trans isOpen)).1
  tends := .refl r.bus
  bus shut := ⟨shut, rfl⟩
  desk isOpen := by
    replace isOpen := same.closed.symm.trans isOpen
    rcases r.desk.closed_move q with same | ⟨shut, _⟩
    · exact same.symm.trans isOpen
    · exact nomatch shut.symm.trans isOpen
  line _ isOpen := by
    have news := (Desk.news_move inLine.tidy unclosed few (same.closed.symm.trans isOpen)).2
    simp only [Run.line, same.news_eq, told, List.append_nil, List.append_assoc]
    rw [← List.append_assoc r.desk.news, ← news, List.append_assoc]

end Queues

end Run

/-! ## Scenes -/

/-- What is in hand but no call of the desk brings no news. -/
theorem handed_cons {e : Bus.Effect Listener Nat} (quiet : e.called? .desk = none) (i j : Nat)
    (es : Hand) : handed (inHand j es i) = handed (inHand j (e :: es) i) := by
  unfold inHand
  split
  · simp only [handed, List.filterMap_cons, quiet]
  · rfl

namespace Scene

/-- The run `i` goes on from `p`, with its bus neither opened nor closed. -/
def Goes (y : Scene) (i : Nat) (p : Run × Hand) (es : Hand) (taken new : List Command) : Prop :=
  ∃ r, y.runs[i]? = some r ∧ r.bus.closed = p.1.bus.closed ∧ Run.Queues p (r, es) taken new

variable {x : Scene} {i j : Nat} {r : Run}

theorem getElem?_onRun (here : x.runs[i]? = some r) (j : Nat) (f : Run → Run) :
    (x.onRun j f).runs[i]? = some (if j = i then f r else r) := by
  rw [onRun, List.getElem?_modify, here]
  rfl

theorem Goes.of_runs {y : Scene} (here : y.runs[i]? = some r) (inLine : r.InLine) (es : Hand) :
    y.Goes i (r, es) es [] [] := ⟨r, here, rfl, .refl inLine es⟩

/-- A bus learns that its call has returned. -/
theorem goes_returned (here : x.runs[i]? = some r) (inLine : r.InLine) (es : Hand) (j : Nat)
    (crash : Option Bus.Crash) : (x.onBus j (·.returned crash)).Goes i (r, es) es [] [] := by
  refine ⟨_, getElem?_onRun here j fun r => { r with bus := r.bus.returned crash }, ?_⟩
  split
  · refine ⟨?_, .moveBus inLine (m := .returned crash) (fun _ _ => nofun) es⟩
    dsimp only [Bus.returned]
    split
    · cases crash <;> rfl
    · rfl
  · exact ⟨rfl, .refl inLine es⟩

/-- One thing that a desk asked for is handed on. -/
theorem Hears.goes {e : Switching.Effect} {y : Scene} (hears : x.Hears j e y)
    (here : x.runs[i]? = some r) (inLine : r.InLine) (es : Hand) : y.Goes i (r, es) es [] [] := by
  cases hears with
  | noted n => cases n <;> exact .of_runs here inLine es
  | turned => exact goes_returned here inLine es j none
  | _ => exact .of_runs here inLine es

theorem goes_foldl_hear (here : x.runs[i]? = some r) (inLine : r.InLine) (es : Hand) (j : Nat)
    (effects : List Switching.Effect) : (effects.foldl (hear j) x).Goes i (r, es) es [] [] := by
  induction effects generalizing x r with
  | nil => exact .of_runs here inLine es
  | cons e effects ih =>
    obtain ⟨r₁, here₁, closed₁, one⟩ := (x.hears j e).goes here inLine es
    obtain ⟨r₂, here₂, closed₂, other⟩ := ih here₁ one.inLine
    exact ⟨r₂, here₂, closed₂.trans closed₁, one.trans other⟩

/-- The desk of another run makes a move. -/
theorem goes_moveDesk_of_ne (here : x.runs[i]? = some r) (inLine : r.InLine) (es : Hand)
    (other : j ≠ i) (q : Switching.Move) : (x.moveDesk j q).Goes i (r, es) es [] [] := by
  unfold moveDesk
  split
  · exact .of_runs here inLine es
  · refine goes_foldl_hear ?_ inLine es j _
    rw [getElem?_onRun here, if_neg other]

/-- The desk of the run makes a move: what it is told is handed on, and the worker takes the first
    of the line. -/
theorem goes_moveDesk (here : x.runs[i]? = some r) (inLine : r.InLine) {q : Switching.Move}
    (unclosed : ∀ v, q ≠ .close v) (few : q.tells.length ≤ 1) {es es' : Hand}
    (told : handed es = q.tells ++ handed es') :
    (x.moveDesk i q).Goes i (r, es) es' ((r.desk.takes q).filter (·.IsNews)) [] := by
  have moved := Run.Queues.moveDesk inLine unclosed few told
    (d := (Switching.Moment.mk r.desk q).after) ⟨rfl, rfl, rfl⟩
  have there :
      (x.onRun i fun r' => { r' with desk := (Switching.Moment.mk r.desk q).after }).runs[i]? =
        some { r with desk := (Switching.Moment.mk r.desk q).after } := by
    rw [getElem?_onRun here, if_pos rfl]
  obtain ⟨r', here', closed, heard⟩ := goes_foldl_hear there moved.inLine es' i
    (Switching.Moment.mk r.desk q).effects
  refine ⟨r', ?_, closed, ?_⟩
  · rw [moveDesk, here]
    exact here'
  · rw [← List.append_nil ((r.desk.takes q).filter _)]
    exact moved.trans heard

/-- A desk makes a move by which the worker takes nothing, and nothing is told. -/
theorem goes_moveDesk_quiet (here : x.runs[i]? = some r) (inLine : r.InLine) (es : Hand) (j : Nat)
    {q : Switching.Move} (unclosed : ∀ v, q ≠ .close v) (untold : q.tells = [])
    (untaken : ∀ d : Desk, d.takes q = []) : (x.moveDesk j q).Goes i (r, es) es [] [] := by
  by_cases own : j = i
  · subst own
    have told : handed es = q.tells ++ handed es := by rw [untold, List.nil_append]
    have moved := goes_moveDesk here inLine unclosed (by simp [untold]) told
    rwa [untaken] at moved
  · exact goes_moveDesk_of_ne here inLine es own q

/-- A desk is called with an event, whose news are in hand. -/
theorem goes_called (here : x.runs[i]? = some r) (inLine : r.InLine) (j : Nat) (v : Switching.View)
    (event : Event) (es : Hand) : (x.moveDesk j (.events v .bus [event])).Goes i
      (r, inHand j (.call .desk event :: es) i) (inHand j es i) [] [] := by
  by_cases own : j = i
  · subst own
    refine goes_moveDesk here inLine (q := .events v .bus [event]) nofun
      (List.length_filterMap_le ..) ?_
    simp only [inHand, if_true]
    exact newsOf_append [event] (es.filterMap (·.called? .desk))
  · simp only [inHand, if_neg (Ne.symm own)]
    exact goes_moveDesk_of_ne here inLine [] own _

end Scene

/-! ## Events -/

namespace System

variable {s : System} {i : Nat} {r : Run}

/-- One thing that a bus asked for is handed on. -/
theorem goes_fromBus (here : s.runs[i]? = some r) (inLine : r.InLine) (j : Nat)
    (e : Bus.Effect Listener Nat) (es : Hand) :
    (fromBus j s e).scene.Goes i (r, inHand j (e :: es) i) (inHand j es i) [] [] := by
  have pass {x : Scene} (quiet : e.called? .desk = none) (there : x.runs[i]? = some r) :
      x.Goes i (r, inHand j (e :: es) i) (inHand j es i) [] [] :=
    ⟨r, there, rfl, .of_same inLine rfl rfl (handed_cons quiet i j es)⟩
  cases e with
  | note n =>
    refine pass rfl ?_
    rw [fromBus, scene_note]
    cases n <;> exact here
  | send uid h x => exact pass rfl here
  | release barrier =>
    refine pass rfl ?_
    dsimp only [fromBus]
    split <;> exact here
  | call l x =>
    cases l with
    | outside id => exact pass rfl here
    | registry =>
      have passed : Run.Queues (r, inHand j (.call .registry x :: es) i) (r, inHand j es i) [] [] :=
        .of_same inLine rfl rfl (handed_cons rfl i j es)
      -- Unless there is a user to record, the bus learns at once that its call has returned.
      have returned {y : Scene} (there : y.runs[i]? = some r) :
          (y.onBus j (·.returned none)).Goes i (r, inHand j (.call .registry x :: es) i)
            (inHand j es i) [] [] := by
        obtain ⟨r', here', closed, rest⟩ := Scene.goes_returned there inLine (inHand j es i) j none
        exact ⟨r', here', closed, passed.trans rest⟩
      dsimp only [fromBus]
      split
      · exact returned (y := s.scene) here
      · next n _ =>
        refine returned (y := (s.note n).scene) ?_
        rw [scene_note]
        cases n <;> exact here
      · next u _ =>
        have there := Scene.getElem?_onRun (x := s.scene) here j fun r => { r with found := some u }
        refine ⟨_, there, ?_⟩
        split
        · exact ⟨rfl, .of_same inLine rfl rfl (handed_cons rfl i j es)⟩
        · exact ⟨rfl, passed⟩
    | desk =>
      have moved : (fromBus j s (.call .desk x)).scene =
          s.scene.moveDesk j (.events s.view .bus [x]) := scene_onDesk s j (.events s.view .bus [x])
      rw [moved]
      exact Scene.goes_called here inLine j s.view x es

theorem goes_foldl_fromBus (here : s.runs[i]? = some r) (inLine : r.InLine) (j : Nat) (es : Hand) :
    (es.foldl (fromBus j) s).scene.Goes i (r, inHand j es i) [] [] [] := by
  induction es generalizing s r with
  | nil =>
    rw [inHand_nil]
    exact .of_runs here inLine []
  | cons e es ih =>
    obtain ⟨r₁, here₁, closed₁, one⟩ := goes_fromBus here inLine j e es
    obtain ⟨r₂, here₂, closed₂, other⟩ := ih here₁ one.inLine
    exact ⟨r₂, here₂, closed₂.trans closed₁, one.trans other⟩

/-- All that a bus asked for is handed on. -/
theorem goes_flushBus (here : s.runs[i]? = some r) (inLine : r.InLine) (j : Nat) :
    (s.flushBus j).scene.Goes i (r, []) [] [] [] := by
  unfold flushBus
  split
  · exact .of_runs here inLine []
  · next r' there =>
    by_cases own : j = i
    · subst own
      obtain rfl := Option.some.inj (here.symm.trans there)
      have taken := Run.Queues.takeBus inLine
      have now : (s.onBus j fun _ => r.bus.take.2).runs[j]? =
          some { r with bus := r.bus.take.2 } := by
        simp [onBus, onRun, here]
      obtain ⟨r₁, here₁, closed, rest⟩ := goes_foldl_fromBus now taken.inLine j r.bus.take.1
      rw [inHand, if_pos rfl] at rest
      exact ⟨r₁, here₁, closed, taken.trans rest⟩
    · have now : (s.onBus j fun _ => r'.bus.take.2).runs[i]? = some r := by
        simp [onBus, onRun, here, own]
      have rest := goes_foldl_fromBus now inLine j r'.bus.take.1
      rwa [inHand, if_neg (Ne.symm own)] at rest

/-- An event that reaches the run is put at the end of its line, while its bus is open. -/
theorem goes_onEvent (here : s.runs[i]? = some r) (inLine : r.InLine)
    (isOpen : r.bus.closed = false) (published : s.published = some i) (e : Event) :
    (s.onEvent e).scene.Goes i (r, []) [] [] (newsOf [e]) := by
  have posted := Run.Queues.moveBus inLine (m := .dispatch e) (fun _ _ => nofun) []
  have now : (s.onBus i (·.dispatch e)).runs[i]? = some { r with bus := r.bus.dispatch e } := by
    simp [onBus, onRun, here]
  obtain ⟨r₁, here₁, closed, rest⟩ := goes_flushBus now posted.inLine i
  have still : (r.bus.dispatch e).closed = r.bus.closed := by simp [Bus.dispatch, isOpen]
  have accepted : r.bus.admits (.dispatch e) = [e] := by simp [Bus.admits, isOpen]
  rw [accepted] at posted
  simp only [onEvent, published]
  refine ⟨r₁, here₁, closed.trans still, ?_⟩
  rw [← List.append_nil (newsOf [e])]
  exact posted.trans rest

/-- So are events that reach the run one after the other. -/
theorem goes_foldl_onEvent (here : s.runs[i]? = some r) (inLine : r.InLine)
    (isOpen : r.bus.closed = false) (numbered : s.scene.Numbered) (published : s.published = some i)
    (es : List Event) : (es.foldl onEvent s).scene.Goes i (r, []) [] [] (newsOf es) := by
  induction es generalizing s r with
  | nil => exact .of_runs here inLine []
  | cons e es ih =>
    have keeps := Scene.Steps.keeps (leads_onEvent s e) numbered
    obtain ⟨r₁, here₁, closed₁, one⟩ := goes_onEvent here inLine isOpen published e
    obtain ⟨r₂, here₂, closed₂, other⟩ := ih here₁ one.inLine (closed₁.trans isOpen) keeps.numbered
      (keeps.published.trans published)
    refine ⟨r₂, here₂, closed₂.trans closed₁, ?_⟩
    rw [show newsOf (e :: es) = newsOf [e] ++ newsOf es from newsOf_append [e] es]
    exact one.trans other

end System

/-! ## Steps and moves -/

namespace Scene

variable {i : Nat} {r : Run}

/-- The run `i` goes on from `p`, and some news may be put at the end of its line. -/
def Advances (y : Scene) (i : Nat) (p : Run × Hand) (es : Hand) (taken : List Command) : Prop :=
  ∃ r new, y.runs[i]? = some r ∧ Run.Queues p (r, es) taken new

theorem Goes.advances {y : Scene} {p : Run × Hand} {es : Hand} {taken new : List Command}
    (goes : y.Goes i p es taken new) : y.Advances i p es taken := by
  obtain ⟨r, here, _, queues⟩ := goes
  exact ⟨r, new, here, queues⟩

theorem Step.advances {p p' : Scene × (Nat → Hand)} (step : Step p p')
    (here : p.1.runs[i]? = some r) (inLine : r.InLine) :
    p'.1.Advances i (r, p.2 i) (p'.2 i) [] := by
  have same {y : Scene} (there : y.runs[i]? = some r) {es es' : Hand}
      (hand : handed es' = handed es) : y.Advances i (r, es) es' [] :=
    ⟨r, [], there, .of_same inLine rfl rfl hand⟩
  -- Something happens to one run, which may be this one.
  have one {x : Scene} (here : x.runs[i]? = some r) (j : Nat) (f : Run → Run) {es es' : Hand}
      (own : j = i → ∃ new, Run.Queues (r, es) (f r, es') [] new) (other : j ≠ i → es' = es) :
      (x.onRun j f).Advances i (r, es) es' [] := by
    have there := getElem?_onRun here j f
    by_cases is : j = i
    · rw [if_pos is] at there
      obtain ⟨new, queues⟩ := own is
      exact ⟨f r, new, there, queues⟩
    · rw [if_neg is] at there
      exact ⟨r, [], there, other is ▸ .refl inLine es⟩
  cases step with
  | asked | answered | told | ended => exact same here rfl
  | bus x hand j m outer =>
    refine one here j _ (fun _ => ⟨_, .moveBus inLine (m := m) (fun l own same => ?_) (hand i)⟩)
      fun _ => rfl
    subst same
    obtain ⟨id, rfl⟩ := outer
    cases own
  | died x hand h =>
    refine ⟨{ r with bus := r.bus.handleDied h }, [], ?_,
      .moveBus inLine (m := .die h) (fun _ _ => nofun) (hand i)⟩
    simp [here]
  | worked x j r' there =>
    refine one here j (fun r => { r with bus := (Bus.Moment.mk r'.bus .work).after })
      (fun own => ?_) fun other => if_neg (Ne.symm other)
    subst own
    obtain rfl := Option.some.inj (here.symm.trans there)
    simp only [inHand, if_true]
    exact ⟨_, .workBus inLine⟩
  | taken x j r' there =>
    refine one here j (fun r => { r with bus := r'.bus.take.2 }) (fun own => ?_)
      fun other => if_neg (Ne.symm other)
    subst own
    obtain rfl := Option.some.inj (here.symm.trans there)
    simp only [inHand, if_true]
    exact ⟨_, .takeBus inLine⟩
  | noted x j n es =>
    refine same ?_ (handed_cons rfl i j es)
    cases n <;> exact here
  | passed x j e es quiet other =>
    refine same here (handed_cons ?_ i j es)
    cases e with
    | call l event =>
      cases l with
      | desk => exact absurd rfl (other event)
      | _ => rfl
    | _ => rfl
  | called x j v event es => exact (goes_called here inLine j v event es).advances
  | found x hand j u =>
    exact one here j (fun r => { r with found := u }) (fun _ => ⟨_, .of_same inLine rfl rfl rfl⟩)
      fun _ => rfl
  | setting x hand j q setting =>
    refine one here j _ (fun _ => ?_) fun _ => rfl
    have quiet : q.tells = [] ∧ r.desk.takes q = [] ∧ ∀ v, q ≠ .close v := by
      cases q with
      | start | endContext | setTimeout | setPanel => exact ⟨rfl, rfl, nofun⟩
      | _ => exact setting.elim
    have told : handed (hand i) = q.tells ++ handed (hand i) := by rw [quiet.1, List.nil_append]
    have moved := Run.Queues.moveDesk (d := r.desk.move q) inLine quiet.2.2 (by simp [quiet.1]) told
      (.refl _)
    rw [quiet.2.1] at moved
    exact ⟨_, moved⟩

theorem Steps.advances {p p' : Scene × (Nat → Hand)} (steps : Steps p p')
    (here : p.1.runs[i]? = some r) (inLine : r.InLine) :
    p'.1.Advances i (r, p.2 i) (p'.2 i) [] := by
  induction steps with
  | refl => exact ⟨r, [], here, .refl inLine _⟩
  | tail _ step ih =>
    obtain ⟨r₁, new, here₁, one⟩ := ih
    obtain ⟨r₂, new', here₂, other⟩ := step.advances here₁ one.inLine
    exact ⟨r₂, new ++ new', here₂, one.trans other⟩

end Scene

/-- Starts and stops leave bus and desk of a run alone. -/
theorem Steering.getElem?_runs {x y : Scene} {m : Move} (steering : Steering x m y)
    (numbered : x.Numbered) {i : Nat} {r : Run} (here : x.runs[i]? = some r) :
    ∃ r', y.runs[i]? = some r' ∧ r'.bus = r.bus ∧ r'.desk = r.desk := by
  cases steering with
  | idle | advanced | broken | accepted | rejected | failed | aborted | halted | expired | shut
  | finished | orphaned => exact ⟨r, here, rfl, rfl⟩
  | queued begins | refused begins | begun begins | stopped begins =>
    obtain ⟨_, _, _, n, cs, rfl⟩ := begins.enters numbered
    exact ⟨r, here, rfl, rfl⟩
  | built =>
    refine ⟨r, ?_, rfl, rfl⟩
    exact (List.getElem?_append_left (List.getElem?_eq_some_iff.1 here).1).trans here
  | published | prepared =>
    rw [Scene.runs_prepare]
    exact ⟨r, here, rfl, rfl⟩
  | @busReaped j =>
    refine ⟨_, Scene.getElem?_onRun here j fun r => { r with busReported := true }, ?_⟩
    split <;> exact ⟨rfl, rfl⟩
  | @deskReaped j =>
    refine ⟨_, Scene.getElem?_onRun here j fun r => { r with deskReported := true }, ?_⟩
    split <;> exact ⟨rfl, rfl⟩

/-- Unless the worker of a desk takes a command, nobody leaves the line. -/
theorem Happening.advances {s : System} {m : Move} {y : Scene} (happening : Happening s m y)
    (wired : s.sink = .service) (numbered : s.scene.Numbered) (other : ∀ j, m ≠ .act (.deskWork j))
    {i : Nat} {r : Run} (here : s.runs[i]? = some r) (inLine : r.InLine) :
    y.Advances i (r, []) [] [] := by
  cases happening with
  | behind steps => exact Scene.Steps.advances steps here inLine
  | performed opens steps closes =>
    obtain ⟨_, _, _, rfl⟩ := opens.aside
    obtain ⟨_, _, _, rfl⟩ := closes.aside
    exact Scene.Steps.advances steps here inLine
  | @asked j q x z published asks sees opens left =>
    obtain ⟨_, _, _, rfl⟩ := opens.aside
    obtain ⟨_, _, _, rfl⟩ := left.aside
    obtain ⟨unclosed, untold, untaken⟩ :
        (∀ v, q ≠ .close v) ∧ q.tells = [] ∧ ∀ d : Desk, d.takes q = [] := by
      cases q with
      | request | initiate => exact ⟨nofun, rfl, fun _ => rfl⟩
      | _ => exact asks.elim
    exact (Scene.goes_moveDesk_quiet (x := { s.scene with calls := _, nextId := _, said := _ })
      here inLine [] j unclosed untold untaken).advances
  | left left =>
    obtain ⟨_, _, _, rfl⟩ := left.aside
    exact (Scene.Goes.of_runs here inLine []).advances
  | worked move => exact absurd move (other _)
  | @stopped j move =>
    exact (Scene.goes_moveDesk_quiet (x := s.scene) (q := .stop s.view) here inLine [] j nofun rfl
      fun _ => rfl).advances
  | @launched j k move =>
    exact (Scene.goes_moveDesk_quiet (x := s.scene) (q := .launch k) here inLine [] j nofun rfl
      fun _ => rfl).advances
  | @marked j move =>
    exact (Scene.goes_moveDesk_quiet (x := s.scene) (q := .mark) here inLine [] j nofun rfl
      fun _ => rfl).advances
  | bounded => exact (Scene.Goes.of_runs here inLine []).advances
  | @tripEnded id j v k response fault ends found =>
    exact (Scene.goes_moveDesk_quiet (x := { s.scene with asks := s.scene.asks.filter (·.1 != id) })
      (q := .tripEnded v k response fault) here inLine [] j nofun rfl fun _ => rfl).advances
  | @committed j r' c t fault move there doing switched =>
    have leads := leads_onSessions s wired .worker (s.sessions.switchTo c.target s.millis)
    rw [switched] at leads
    obtain ⟨r₁, new, here₁, one⟩ := Scene.Steps.advances leads here inLine
    obtain ⟨r₂, new', here₂, rest⟩ := (Scene.goes_moveDesk_quiet (x := t.scene)
      (q := .committed t.view fault) here₁ one.inLine [] j nofun rfl fun _ => rfl).advances
    exact ⟨r₂, new ++ new', here₂, one.trans rest⟩
  | steered steering =>
    obtain ⟨r', here', bus, desk⟩ := steering.getElem?_runs numbered here
    exact ⟨r', [], here', .of_same inLine bus desk rfl⟩
  | @wired id j left x y move tasks steps steering =>
    have keeps := Scene.Steps.keeps steps numbered
    obtain ⟨r₁, new, here₁, one⟩ := Scene.Steps.advances steps here inLine
    obtain ⟨r₂, here₂, bus, desk⟩ := steering.getElem?_runs keeps.numbered here₁
    have rest : Run.Queues (r₁, []) (r₂, []) [] [] := .of_same one.inLine bus desk rfl
    exact ⟨r₂, new ++ [], here₂, one.trans rest⟩

/-! ## Runs -/

/-- The news that the worker of the desk of run `i` takes by the move. -/
def Moment.took (m : Moment) (i : Nat) : List Command :=
  match m.move, m.before.runs[i]? with
  | .act (.deskWork j), some r => if j = i then r.desk.next?.toList.filter (·.IsNews) else []
  | _, _ => []

theorem Moment.took_of_ne {m : Moment} (other : ∀ j, m.move ≠ .act (.deskWork j)) (i : Nat) :
    m.took i = [] := by
  unfold took
  split
  · next j _ move _ => exact absurd move (other j)
  · rfl

/-- What the worker of a desk makes of the scene by taking a command. -/
theorem System.scene_deskWork {s : System} {j : Nat}
    (silent : ∀ r, s.runs[j]? = some r → r.desk.out = []) :
    (s.move (.act (.deskWork j))).scene = s.scene.moveDesk j (.work s.view) := by
  dsimp only [System.move, step]
  cases next : s.deskWork? j with
  | some t =>
    rw [Option.getD_some, eq_of_deskMove (q := .work s.view) (fun _ => rfl) next, scene_onDesk]
  | none =>
    show s.scene = s.scene.moveDesk j (.work s.view)
    cases here : s.runs[j]? with
    | none => rw [Scene.moveDesk, show s.scene.runs[j]? = none from here]
    | some r =>
      -- The worker has nothing to do, and the desk stays as it is.
      have idle : r.desk.work? s.view = none := by
        simpa [deskWork?, here, ← Option.eq_none_iff_forall_ne_some] using next
      have moved : r.desk.move (.work s.view) = r.desk := by rw [Desk.move, idle, Option.getD_none]
      have after : (Switching.Moment.mk r.desk (.work s.view)).after = r.desk := by
        rw [Switching.Moment.after, moved, Desk.take, ← silent r here]
      have effects : (Switching.Moment.mk r.desk (.work s.view)).effects = [] := by
        rw [Switching.Moment.effects, moved, Desk.take, silent r here]
      have same : s.runs.modify j (fun r' => { r' with desk := r.desk }) = s.runs := by
        refine List.ext_getElem? fun k => ?_
        rw [List.getElem?_modify]
        by_cases own : j = k
        · subst own
          simp [here]
        · simp [own]
      rw [Scene.moveDesk, show s.scene.runs[j]? = some r from here]
      simp only [effects, after, List.foldl_nil, Scene.onRun]
      rw [show s.scene.runs = s.runs from rfl, same]
      rfl

/-- A run as it is made is in line. -/
theorem Run.InLine.fresh {r : Run} {timeout : Duration} {headless : Bool}
    (bus : r.bus = ({} : Bus Listener Nat).start)
    (desk : r.desk = (Desk.fresh timeout headless).start) : r.InLine := by
  have none : r.desk.waiting = [] := by
    rw [desk]
    rfl
  exact ⟨by simp [bus, Bus.start], fun _ => ⟨fun waits => absurd none waits, by simp [none]⟩⟩

namespace IsRun

variable {h : History} {s : System} {i : Nat} {r : Run}

/-- What a move makes of the line of a run. -/
theorem advances (run : IsRun h s) {m : Move} (proper : m.Proper) (here : s.runs[i]? = some r)
    (inLine : r.InLine) :
    (Moment.mk s m).outcome.Advances i (r, []) [] ((Moment.mk s m).took i) := by
  by_cases works : ∃ j, m = .act (.deskWork j)
  · obtain ⟨j, rfl⟩ := works
    have moved : (Moment.mk s (.act (.deskWork j))).outcome = s.scene.moveDesk j (.work s.view) :=
      scene_deskWork fun r there => (run.serves there).out_eq_nil
    rw [moved]
    have took : (Moment.mk s (.act (.deskWork j))).took i =
        if j = i then (r.desk.takes (.work s.view)).filter (·.IsNews) else [] := by
      simp only [Moment.took, here]
      rfl
    rw [took]
    split
    · next own =>
      subst own
      exact (Scene.goes_moveDesk here inLine (q := .work s.view) nofun (Nat.zero_le _) rfl).advances
    · next other => exact (Scene.goes_moveDesk_of_ne here inLine [] other _).advances
  · have other (j : Nat) : m ≠ .act (.deskWork j) := fun is => works ⟨j, is⟩
    rw [Moment.took_of_ne other]
    exact (run.happening proper).advances run.sink run.orderly.numbered other here inLine

/-- In every state of a run of the service, all of its runs are in line. -/
theorem inLine (run : IsRun h s) (here : s.runs[i]? = some r) : r.InLine := by
  induction run generalizing i r with
  | new made w =>
    rw [eq_fresh_of_new made] at here
    cases here
  | @step h s m run proper ih =>
    cases before : s.runs[i]? with
    | some r₀ =>
      obtain ⟨r₁, _, here₁, queues⟩ := run.advances proper before (ih before)
      obtain rfl : r₁ = r := Option.some.inj (here₁.symm.trans here)
      exact queues.inLine
    | none =>
      cases ((Moment.mk s m).change proper).turn here with
      | stepped was | asked was | published was => exact nomatch before.symm.trans was
      | committed _ was => exact nomatch before.symm.trans was
      | built bus desk => exact .fresh bus desk

/-- The last move of a run. -/
theorem last {m : Moment} (run : IsRun (h ++ [m]) s) :
    IsRun h m.before ∧ m.move.Proper ∧ s = m.after := by
  obtain ⟨before, proper⟩ := run.at_moment (show h ++ [m] = h ++ m :: [] from rfl)
  refine ⟨before, proper, ?_⟩
  generalize split : h ++ [m] = h' at run
  cases run with
  | new => simp at split
  | step run proper' =>
    obtain ⟨_, rfl⟩ := List.append_singleton_inj.1 split
    rfl

/-- What the moves since the moment `m` have made of the line of a run. -/
theorem queues_since {m : Moment} {h₂ : History} (run : IsRun (h ++ m :: h₂) s)
    (here : m.after.runs[i]? = some r) (inLine : r.InLine) : ∃ r' new, s.runs[i]? = some r' ∧
      Run.Queues (r, []) (r', []) (h₂.flatMap (·.took i)) new := by
  induction h₂ using List.reverseRecOn generalizing s with
  | nil =>
    obtain ⟨_, _, rfl⟩ := run.last
    exact ⟨r, [], here, .refl inLine []⟩
  | append_singleton h₂ n ih =>
    rw [← List.cons_append, ← List.append_assoc] at run
    obtain ⟨before, proper, rfl⟩ := run.last
    obtain ⟨r₁, new, here₁, one⟩ := ih before
    obtain ⟨r₂, new', here₂, other⟩ := before.advances proper here₁ one.inLine
    refine ⟨r₂, new ++ new', here₂, ?_⟩
    rw [List.flatMap_append, List.flatMap_singleton]
    exact one.trans other

end IsRun

end HeadUnit.Service
