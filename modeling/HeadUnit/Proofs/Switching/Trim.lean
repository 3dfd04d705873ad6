import HeadUnit.Proofs.Switching.Run

/-!
# Settings of a desk

What is set about a desk is its timeout and its panel, its *trim* (`Desk.trim`). A desk never
changes its trim by itself, nor does it end its own context: there is one equation `held_` per
operation, and together they say that a move leaves the trim alone unless it is a setting
(`trim_move`), and the context unless it ends it (`contextDone_move`).
-/

namespace HeadUnit.Switching

/-- What is set about a desk: its timeout and its panel. -/
structure Trim where
  timeout : Duration
  panel : Option Panel
  deriving DecidableEq

/-- The move is not one of those that set something. -/
def Move.IsUnset : Move → Prop
  | .setTimeout _ | .setPanel _ => False
  | _ => True

namespace Desk

def trim (d : Desk) : Trim := ⟨d.timeout, d.panel⟩

/-- What a desk leaves to others: its trim, and whether its context has ended. -/
def held (d : Desk) : Trim × Bool := (d.trim, d.contextDone)

variable (d : Desk) (v : View)

/-! ## Operations that set nothing -/

@[simp]
theorem held_signalPanel (target : UserId) : (d.signalPanel target).held = d.held := by
  unfold signalPanel
  split
  · rfl
  · dsimp only
    split <;> rfl

/-- What is done for each element of a list touches no setting if it does not for each. -/
theorem held_foldl {α : Type} {f : Desk → α → Desk} (each : ∀ d a, (f d a).held = d.held)
    (as : List α) : (as.foldl f d).held = d.held := by
  induction as generalizing d with
  | nil => rfl
  | cons a as ih => rw [List.foldl_cons, ih, each]

theorem held_refuse (c : Command) : (refuse v d c).held = d.held := by
  cases c <;> rfl

theorem held_fail (c : Command) : (fail v d c).held = d.held := by
  cases c with
  | answer a =>
    dsimp only [fail]
    split <;> rfl
  | _ => rfl

@[simp]
theorem held_post (p : Poster) (cs : List Command) : (d.post v p cs).held = d.held := by
  unfold post
  split
  · exact held_foldl d (fun d c => held_refuse d v c) cs
  · dsimp only
    split <;> rfl

@[simp]
theorem held_admitWaiting : d.admitWaiting.held = d.held := by
  unfold admitWaiting
  split
  · rfl
  · split <;> rfl

@[simp]
theorem held_close : (d.close v).held = d.held := by
  unfold close
  dsimp only
  rw [held_foldl _ fun d c => held_fail d v c, held_foldl _ fun d w => ?_]
  · rfl
  · exact held_foldl d (fun d c => held_refuse d v c) w.commands

@[simp]
theorem held_request (p : Poster) (k : Ticket) (target : UserId) (timeout : Duration) :
    (d.request v p k target timeout).held = d.held := by
  unfold request
  split
  · rfl
  split
  · rfl
  split
  · rfl
  split
  · exact held_post ..
  split
  · rfl
  · dsimp only
    split <;> rfl

@[simp]
theorem held_apply (c : Command) : (d.apply v c).held = d.held := by
  cases c with
  | answer a =>
    dsimp only [apply]
    unfold applyAnswer
    dsimp only
    split
    · rfl
    split
    · rfl
    split <;> rfl
  | direct target k | initiated token target => rfl
  | unlocked user =>
    dsimp only [apply]
    unfold applyUnlocked
    split
    · rfl
    split <;> rfl
  | switched source target =>
    dsimp only [apply]
    unfold applySwitched
    split
    · rfl
    split <;> rfl

@[simp]
theorem held_committed (fault : Option Fault) : (d.committed v fault).held = d.held := by
  unfold committed
  split
  · next c _ =>
    cases c with
    | answer a =>
      dsimp only
      unfold answerCommitted
      dsimp only
      split
      · rfl
      split
      · rfl
      · exact held_signalPanel ..
    | direct target k =>
      dsimp only
      unfold directCommitted
      split
      · rfl
      · exact held_signalPanel ..
    | initiated token target prior =>
      dsimp only
      unfold initiatedCommitted
      split
      · rfl
      · dsimp only
        split
        · split <;> rfl
        · rfl
  · rfl

/-- A move that neither sets something nor ends the context leaves both alone. -/
theorem held_move {m : Move} (other : m.IsUnset) (live : m ≠ .endContext) :
    (d.move m).held = d.held := by
  cases m with
  | request v p k target timeout => exact held_request ..
  | launch k =>
    dsimp only [move]
    unfold launch
    split <;> rfl
  | tripEnded v k response fault =>
    dsimp only [move]
    unfold tripEnded
    split
    · rfl
    · exact held_post ..
  | initiate v p token target => exact held_post ..
  | events v p es => exact held_post ..
  | start =>
    dsimp only [move]
    unfold start
    split <;> rfl
  | work v =>
    dsimp only [move]
    unfold work?
    split
    · rw [Option.getD_some, held_apply, held_admitWaiting]
      rfl
    · rfl
  | committed v fault => exact held_committed ..
  | mark =>
    dsimp only [move]
    unfold mark
    split <;> rfl
  | endContext => exact absurd rfl live
  | stop v =>
    dsimp only [move]
    unfold stop?
    split
    · split
      · exact held_close ..
      · rfl
    · rfl
  | close v => exact held_close ..
  | setTimeout t | setPanel p => exact other.elim

/-- Only settings are set otherwise. -/
theorem trim_move {m : Move} (other : m.IsUnset) : (d.move m).trim = d.trim := by
  by_cases ends : m = .endContext
  · rw [ends]
    rfl
  · exact congrArg Prod.fst (held_move d other ends)

/-- The context of a desk ends from outside. -/
theorem contextDone_move {m : Move} (live : m ≠ .endContext) :
    (d.move m).contextDone = d.contextDone := by
  have kept (other : m.IsUnset) : (d.move m).contextDone = d.contextDone :=
    congrArg Prod.snd (held_move d other live)
  cases m with
  | setTimeout t =>
    dsimp only [move, setTimeout]
    split <;> rfl
  | setPanel p => rfl
  | _ => exact kept trivial

end Desk

end HeadUnit.Switching
