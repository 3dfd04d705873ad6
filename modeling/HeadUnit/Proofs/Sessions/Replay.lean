import Mathlib.Data.Finset.Basic
import HeadUnit.Proofs.Registry.Restart
import HeadUnit.Proofs.Service.Run

/-!
# The events of the sessions tell all of it

Whoever hears the events of the sessions from the start can keep a *picture* of them: who is in
the foreground, who is running, who is unlocked (`Sessions.Picture`). A user is drawn in as
running when it starts and as unlocked when it has unlocked, a switch changes the foreground, and
whoever has stopped is wiped out.

As long as every unlocked user and the foreground user are running (`Sessions.IsSound`), the
picture that a call leaves is the one that its events draw (`IsSound.told`), and the sessions stay
sound. So the picture is right after any calls, with any faults put in place in between
(`replayed_by_events`).
-/

namespace HeadUnit

namespace Sessions

/-! ## Pictures -/

/-- What can be told about sessions. -/
structure Picture where
  current : UserId
  running : Finset UserId
  unlocked : Finset UserId
  deriving DecidableEq

/-- The picture of the sessions. -/
def picture (s : Sessions) : Picture := ⟨s.current, s.running.toFinset, s.unlocked.toFinset⟩

namespace Picture

/-- What an event adds to the picture. -/
def tell (p : Picture) (e : Event) : Picture :=
  match e.kind with
  | .starting => { p with running := insert e.user p.running }
  | .switching => { p with current := e.user }
  | .unlocked => { p with unlocked := insert e.user p.unlocked }
  | .stopped => { p with running := p.running.erase e.user, unlocked := p.unlocked.erase e.user }
  | .unlocking | .postUnlocked | .stopping | .other _ => p

/-- What the events make of the picture, one after the other. -/
def replay (p : Picture) (es : List Event) : Picture := es.foldl tell p

/-- Every switch in the events leads away from the foreground user of the picture. -/
def Traces (p : Picture) : List Event → Prop
  | [] => True
  | e :: es => (e.kind = .switching → e.source = p.current) ∧ (p.tell e).Traces es

theorem replay_append (p : Picture) (es fs : List Event) :
    p.replay (es ++ fs) = (p.replay es).replay fs := List.foldl_append

theorem traces_append {p : Picture} {es fs : List Event} :
    p.Traces (es ++ fs) ↔ p.Traces es ∧ (p.replay es).Traces fs := by
  induction es generalizing p with
  | nil => simp [Traces, replay]
  | cons e es ih => simp only [List.cons_append, Traces, ih, replay, List.foldl_cons, and_assoc]

/-- Events that are no switches trace whatever the picture is. -/
theorem traces_of_other {p : Picture} {es : List Event} (other : ∀ e ∈ es, e.kind ≠ .switching) :
    p.Traces es := by
  induction es generalizing p with
  | nil => trivial
  | cons e es ih =>
    exact ⟨fun is => absurd is (other e List.mem_cons_self),
      ih fun f mem => other f (List.mem_cons_of_mem e mem)⟩

/-- What is in the picture already needs no events to draw it. -/
theorem replay_unless {p p' : Picture} {c : Prop} [Decidable c] {es : List Event}
    (drawn : c → p' = p) (draws : p.replay es = p') : p.replay (if c then [] else es) = p' := by
  split
  · next there => exact (drawn there).symm
  · exact draws

theorem traces_unless {p : Picture} {c : Prop} [Decidable c] {es : List Event}
    (other : ∀ e ∈ es, e.kind ≠ .switching) : p.Traces (if c then [] else es) := by
  refine traces_of_other fun e mem => ?_
  split at mem
  · cases mem
  · exact other e mem

/-- A switch somewhere among the events leads away from the foreground user of the picture then. -/
theorem Traces.source_eq {p : Picture} {before after : List Event} {e : Event}
    (traces : p.Traces (before ++ e :: after)) (switch : e.kind = .switching) :
    e.source = (p.replay before).current := (traces_append.1 traces).2.1 switch

end Picture

theorem insert_eq_of_contains {id : UserId} {ids : List UserId} (there : ids.contains id = true) :
    insert id ids.toFinset = ids.toFinset :=
  Finset.insert_eq_of_mem (List.mem_toFinset.2 (List.contains_iff_mem.1 there))

theorem toFinset_mark (id : UserId) (ids : List UserId) :
    (mark id ids).toFinset = insert id ids.toFinset := by
  unfold mark
  split
  · next there => exact (insert_eq_of_contains there).symm
  · ext other
    rw [List.mem_toFinset, List.mem_append, List.mem_singleton, Finset.mem_insert,
      List.mem_toFinset, or_comm]

theorem toFinset_unmark (id : UserId) (ids : List UserId) :
    (unmark id ids).toFinset = ids.toFinset.erase id := by
  ext other
  simp [unmark, and_comm]

theorem mem_unmark {id other : UserId} {ids : List UserId} :
    other ∈ unmark id ids ↔ other ≠ id ∧ other ∈ ids := by
  rw [← List.mem_toFinset, toFinset_unmark, Finset.mem_erase, List.mem_toFinset]

/-! ## Calls -/

/-- Every unlocked user and the foreground user are running. -/
structure IsSound (s : Sessions) : Prop where
  unlocked : ∀ id ∈ s.unlocked, id ∈ s.running
  current : s.current ∈ s.running

/-- Whoever is running is drawn so, and whoever is not gets started. -/
theorem replay_started (s : Sessions) (id : UserId) (millis : Int64) :
    s.picture.replay (if s.isRunning id then [] else [Event.about .starting id millis]) =
      ⟨s.current, (mark id s.running).toFinset, s.unlocked.toFinset⟩ := by
  rw [toFinset_mark]
  exact Picture.replay_unless (fun running => by rw [insert_eq_of_contains running, picture]) rfl

/-- A call that has succeeded: the events draw what the sessions have become. -/
structure Told (s s' : Sessions) (es : List Event) : Prop where
  picture : s.picture.replay es = s'.picture
  traces : s.picture.Traces es
  sound : s'.IsSound

namespace IsSound

variable {s s' : Sessions} {id : UserId} {millis : Int64} {es : List Event}

theorem fresh (user : UserId) : (Sessions.fresh user).IsSound :=
  ⟨fun _ mem => mem, mem_mark.2 (.inl rfl)⟩

theorem told_switchTo (sound : s.IsSound) (ok : s.switchTo id millis = .ok (s', es)) :
    Told s s' es := by
  unfold switchTo at ok
  split at ok
  · cases ok
  · cases ok
    have started := replay_started s id millis
    -- Where no event tells of it, the user was running or unlocked in the picture already.
    refine ⟨?_, ?_, ?_⟩
    · rw [Picture.replay_append, Picture.replay_append, started]
      simp only [picture, toFinset_mark id s.unlocked]
      exact Picture.replay_unless (fun unlocked => by rw [insert_eq_of_contains unlocked]; rfl) rfl
    · rw [Picture.traces_append, Picture.traces_append, started]
      exact ⟨⟨Picture.traces_unless (by simp [Event.about]), fun _ => rfl, trivial⟩,
        Picture.traces_unless (by simp [Event.about])⟩
    · refine ⟨fun other mem => ?_, mem_mark.2 (.inl rfl)⟩
      exact mem_mark.2 ((mem_mark.1 mem).imp_right (sound.unlocked other))

theorem told_startInBackground (sound : s.IsSound)
    (ok : s.startInBackground id millis = .ok (s', es)) : Told s s' es := by
  unfold startInBackground at ok
  split at ok
  · cases ok
  · cases ok
    refine ⟨?_, Picture.traces_unless (by simp [Event.about]), ?_⟩
    · exact replay_started s id millis
    · exact ⟨fun other mem => mem_mark.2 (.inr (sound.unlocked other mem)),
        mem_mark.2 (.inr sound.current)⟩

theorem told_unlock (sound : s.IsSound) (ok : s.unlock id millis = .ok (s', es)) :
    Told s s' es := by
  unfold unlock at ok
  split at ok
  · cases ok
  split at ok
  · next running =>
    cases ok
    refine ⟨?_, Picture.traces_unless (by simp [Event.about]), ⟨fun other mem => ?_, sound.current⟩⟩
    · simp only [picture, toFinset_mark]
      exact Picture.replay_unless (fun unlocked => by rw [insert_eq_of_contains unlocked]) rfl
    · rcases mem_mark.1 mem with rfl | old
      · exact List.contains_iff_mem.1 running
      · exact sound.unlocked other old
  · cases ok

/-- A user that does not run is not unlocked either, so that nothing is wiped out. -/
theorem told_stop (sound : s.IsSound) (ok : s.stop id millis = .ok (s', es)) : Told s s' es := by
  unfold stop at ok
  split at ok
  · cases ok
  split at ok
  · cases ok
  · next background =>
    cases ok
    refine ⟨?_, Picture.traces_of_other ?_, ⟨fun other mem => ?_, ?_⟩⟩
    · simp only [picture, toFinset_unmark]
      split
      · rfl
      · next idle =>
        -- No event tells of it, and there is nothing to erase.
        have absent : id ∉ s.running := fun mem => idle (List.contains_iff_mem.2 mem)
        rw [Finset.erase_eq_of_notMem (mt List.mem_toFinset.1 absent),
          Finset.erase_eq_of_notMem (mt List.mem_toFinset.1 (mt (sound.unlocked id) absent))]
        rfl
    · split <;> simp [Event.about]
    · obtain ⟨ne, old⟩ := mem_unmark.1 mem
      exact mem_unmark.2 ⟨ne, sound.unlocked other old⟩
    · exact mem_unmark.2 ⟨Ne.symm background, sound.current⟩

/-- Whatever call succeeds, its events tell all of it. -/
theorem told (sound : s.IsSound) {c : Service.Intervention}
    (ok : c.result s millis = .ok (s', es)) : Told s s' es := by
  cases c with
  | switch user => exact sound.told_switchTo ok
  | start user => exact sound.told_startInBackground ok
  | unlock user => exact sound.told_unlock ok
  | stop user => exact sound.told_stop ok

end IsSound

end Sessions

namespace Service

open HeadUnit.Service.System

/-! ## Runs -/

/-- The event that has left the system. -/
def Effect.emitted? : Effect → Option Event
  | .emitted e => some e
  | _ => none

/-- The events that have left the system, the oldest first. -/
def System.emitted (s : System) : List Event := s.out.filterMap (·.emitted?)

/-- The session manager is called, faults are put in place, or time passes. -/
def Move.IsForSessions : Move → Prop
  | .intervene _ | .faults .. | .act (.elapse _) => True
  | _ => False

/-- The events of the system have drawn its sessions, beginning with the picture `p`. -/
structure Draws (p : Sessions.Picture) (s : System) : Prop where
  recorded : s.sink = .outside
  picture : s.sessions.picture = p.replay s.emitted
  traces : p.Traces s.emitted
  sound : s.sessions.IsSound

/-- Events that leave the system are recorded, and nothing else changes. -/
theorem foldl_emitted (s : System) (es : List Event) :
    es.foldl (fun s e => s.emit (.emitted e)) s = { s with out := s.out ++ es.map .emitted } := by
  induction es generalizing s with
  | nil => simp
  | cons e es ih =>
    rw [List.foldl_cons, ih]
    simp [emit]

/-- A call of the session manager that fails leaves no trace. -/
theorem move_of_error {s : System} {c : Intervention} {f : Fault}
    (failed : c.result s.sessions s.millis = .error f) :
    s.move (.intervene c) = s.freshId.2 := by
  have same : c.result s.freshId.2.sessions s.freshId.2.millis = .error f := failed
  simp only [System.move, same, onSessions]

/-- A call that succeeds is recorded with its events. -/
theorem move_of_ok {s : System} {c : Intervention} {sessions : Sessions} {es : List Event}
    (recorded : s.sink = .outside) (ok : c.result s.sessions s.millis = .ok (sessions, es)) :
    s.move (.intervene c) =
      { s.freshId.2 with sessions := sessions, out := s.out ++ es.map .emitted } := by
  have same : c.result s.freshId.2.sessions s.freshId.2.millis = .ok (sessions, es) := ok
  have outside : s.freshId.2.sink = .outside := recorded
  simp only [System.move, same, onSessions, emitEvents, outside, foldl_emitted]
  rfl

namespace Draws

variable {p : Sessions.Picture} {s : System}

theorem move (draws : Draws p s) {m : Move} (own : m.IsForSessions) : Draws p (s.move m) := by
  cases m with
  | intervene c =>
    cases result : c.result s.sessions s.millis with
    | error f =>
      rw [move_of_error result]
      exact ⟨draws.recorded, draws.picture, draws.traces, draws.sound⟩
    | ok r =>
      obtain ⟨sessions, es⟩ := r
      -- What the call tells is replayed upon what was drawn before.
      have call := draws.sound.told result
      have drawn := draws.picture
      rw [move_of_ok draws.recorded result]
      have emitted : ({ s.freshId.2 with
          sessions := sessions, out := s.out ++ es.map .emitted } : System).emitted =
          s.emitted ++ es := by
        simp [System.emitted, List.filterMap_map, Effect.emitted?]
      refine ⟨draws.recorded, ?_, ?_, call.sound⟩
      · rw [emitted, Sessions.Picture.replay_append, ← drawn, call.picture]
      · rw [emitted, Sessions.Picture.traces_append, ← drawn]
        exact ⟨draws.traces, call.traces⟩
  | faults =>
    exact ⟨draws.recorded, draws.picture, draws.traces, draws.sound.unlocked, draws.sound.current⟩
  | act a =>
    cases a with
    | elapse t => exact ⟨draws.recorded, draws.picture, draws.traces, draws.sound⟩
    | _ => exact own.elim
  | roster | repository => exact own.elim

theorem moves (draws : Draws p s) {ms : List Move} (own : ∀ m ∈ ms, m.IsForSessions) :
    Draws p (ms.foldl System.move s) := by
  induction ms generalizing s with
  | nil => exact draws
  | cons m ms ih =>
    exact ih (draws.move (own m List.mem_cons_self)) fun n mem => own n (List.mem_cons_of_mem m mem)

end Draws

/-- The sessions begin with `user` in the foreground, and their events are recorded from the start.
    After any calls, with any faults put in place in between: the events draw the picture of the
    sessions, every switch among them leads away from whoever is in the foreground in the picture
    then, a call that fails leaves no trace, and every unlocked user and the foreground user are
    running. -/
theorem replayed_by_events {s : System} {user : UserId} (recorded : s.sink = .outside)
    (silent : s.out = []) (made : s.sessions = Sessions.fresh user) {ms : List Move}
    (own : ∀ m ∈ ms, m.IsForSessions) :
    let t := ms.foldl System.move s
    let start := (Sessions.fresh user).picture
    t.sessions.picture = start.replay t.emitted ∧
    (∀ before e after, t.emitted = before ++ e :: after → e.kind = .switching →
      e.source = (start.replay before).current) ∧
    (∀ (c : Intervention) (f : Fault), c.result t.sessions t.millis = .error f →
      (t.move (.intervene c)).sessions = t.sessions ∧
      (t.move (.intervene c)).emitted = t.emitted) ∧
    (∀ id ∈ t.sessions.unlocked, id ∈ t.sessions.running) ∧
    t.sessions.current ∈ t.sessions.running := by
  have none : s.emitted = [] := by rw [System.emitted, silent, List.filterMap_nil]
  have begun : Draws (Sessions.fresh user).picture s :=
    ⟨recorded, by rw [none, made]; rfl, by rw [none]; trivial, made ▸ .fresh user⟩
  have draws := begun.moves own
  refine ⟨draws.picture, fun before e after split switch => ?_, fun c f failed => ?_,
    draws.sound.unlocked, draws.sound.current⟩
  · have traces := draws.traces
    rw [split] at traces
    exact traces.source_eq switch
  · rw [move_of_error failed]
    exact ⟨rfl, rfl⟩

namespace Recorded

/-- A service whose sessions are recorded. -/
def system : System := { System.fresh Config.default with sink := .outside }

/-- A switch to a new user, the way back, and stops, one of which is made to fail. -/
def moves : List Move :=
  [.intervene (.switch 10), .intervene (.stop 10), .intervene (.start 11), .intervene (.unlock 11),
    .faults none [] [] [(11, .told "busy")] [], .intervene (.stop 11), .faults none [] [] [] [],
    .intervene (.switch 0), .intervene (.stop 10), .intervene (.stop 11)]

end Recorded

open Recorded in
/-- The stop of whoever is in the foreground fails, and so does one that is made to. -/
theorem replayed_of_sample :
    ((moves.foldl System.move system).emitted.map fun e => (e.kind, e.source, e.user)) =
      [(.starting, UserId.null, 10), (.switching, 0, 10), (.unlocking, UserId.null, 10),
        (.unlocked, UserId.null, 10), (.postUnlocked, UserId.null, 10),
        (.starting, UserId.null, 11), (.unlocking, UserId.null, 11), (.unlocked, UserId.null, 11),
        (.switching, 10, 0), (.stopping, UserId.null, 10), (.stopped, UserId.null, 10),
        (.stopping, UserId.null, 11), (.stopped, UserId.null, 11)] ∧
    (moves.foldl System.move system).sessions.picture =
      (Sessions.fresh 0).picture.replay (moves.foldl System.move system).emitted := by
  have own : ∀ m ∈ moves, m.IsForSessions := by simp [moves, Move.IsForSessions]
  exact ⟨by decide +kernel, (replayed_by_events rfl rfl rfl own).1⟩

end Service

end HeadUnit
