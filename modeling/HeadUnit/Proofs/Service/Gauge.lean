import HeadUnit.Proofs.Service.Vacancy
import HeadUnit.Proofs.Switching.Gauge

/-!
# The gauge of tracked switches

All desks report to one gauge, and nobody else does: the gauge shows what the desk tracks that
reported last (`Shows`). This is kept by every step (`Scene.IsMetered`), up to reports that are
still to come or came late, and so holds in every state of a run (`IsRun.isMetered`). While no stop
gives up, only the desk of the last run drops anything, as all others have stopped.

A desk that installs a switch reports it in a move of its own, and the switch may be gone by then
(`History.IsLate`); and a desk that stops while it tracks a switch does not report that the switch
is gone. So

* `gauge_or_withdrawn`: the gauge is right, or a desk is to report yet, or nothing was tracked when
  the last report of a switch came, or the gauge shows what a desk tracks that was withdrawn;
* `gauge_wrong_after_overlap`: nothing is tracked when the report comes, if a request supersedes
  another one and is refused before that one is reported;
* `gauge_wrong_after_stop`: a desk is withdrawn that tracks a switch, if the service is stopped
  while it negotiates.
-/

namespace HeadUnit.Service

open Switching (Desk Dial)
open HeadUnit.Service.System

/-- A dial that was never moved. -/
def blankDial : Dial := ⟨false, 0, []⟩

/-- A dial that was never moved reads as if it were not there. -/
theorem tracks_append_blankDial (dials : List Dial) (i : Nat) :
    ((dials ++ [blankDial])[i]?).any (·.tracks) = (dials[i]?).any (·.tracks) := by
  rw [List.getElem?_append]
  split
  · rfl
  · next past =>
    rw [List.getElem?_eq_none (Nat.le_of_not_lt past)]
    cases i - dials.length with
    | zero => rfl
    | succ n => rfl

/-- The gauge shows what the desk `who` tracks; if `alone` no desk after it has ever tracked
    anything. -/
structure Shows (alone : Prop) (dials : List Dial) (gauge : Nat) (who : Option Nat) : Prop where
  there : ∀ {i : Nat}, who = some i → i < dials.length
  shown : gauge = if (who.bind (dials[·]?)).any (·.tracks) then 1 else 0
  blank : who = none ∨ alone → ∀ {j : Nat} {x : Dial}, dials[j]? = some x →
    (∀ i, who = some i → i < j) → x = blankDial

/-- All but the last desk have stopped. -/
def Retired (desks : List Desk) : Prop :=
  ∀ (i : Nat) (d : Desk), desks[i]? = some d → i + 1 < desks.length → d.worker = .stopped

/-- A desk that has stopped stays so. -/
theorem Retired.set {desks : List Desk} (retired : Retired desks) {i : Nat} {d d' : Desk}
    (here : desks[i]? = some d) (stays : d.worker = .stopped → d'.worker = .stopped) :
    Retired (desks.set i d') := by
  intro j e there lt
  rw [List.length_set] at lt
  rw [List.getElem?_set] at there
  split at there
  · next own =>
    subst own
    rw [if_pos (List.getElem?_eq_some_iff.1 here).1] at there
    cases there
    exact stays (retired i d here lt)
  · exact retired j e there lt

/-- The desks report to the gauge; if `alone`, only the last one still works. What the gauge shows
    is true, or there is more to report, or a switch was reported too `late`. -/
structure Metered (alone late : Prop) (desks : List Desk) (gauge : Nat) : Prop where
  silent : ∀ d ∈ desks, d.dial.reports = []
  retired : alone → Retired desks
  shown : (∃ who, Shows alone (desks.map (·.dial)) gauge who) ∨ (∃ d ∈ desks, d.IsBehind) ∨
    late ∧ gauge = 1

/-- What a gauge shows after the reports. -/
def gaugeAfter (gauge : Nat) (reports : List Bool) : Nat :=
  match reports.getLast? with
  | none => gauge
  | some tracked => if tracked then 1 else 0

theorem gaugeAfter_append (gauge : Nat) (as bs : List Bool) :
    gaugeAfter gauge (as ++ bs) = gaugeAfter (gaugeAfter gauge as) bs := by
  simp only [gaugeAfter, List.getLast?_append]
  cases bs.getLast? with
  | none => rfl
  | some b => rfl

namespace Metered

variable {alone alone' late : Prop} {desks : List Desk} {gauge : Nat}

theorem mono (metered : Metered alone late desks gauge) (weaker : alone' → alone) :
    Metered alone' late desks gauge where
  silent := metered.silent
  retired now := metered.retired (weaker now)
  shown := by
    refine metered.shown.imp_left ?_
    rintro ⟨who, shows⟩
    exact ⟨who, shows.there, shows.shown, fun now => shows.blank (now.imp_right weaker)⟩

/-- A desk that is behind still is when another one has changed. -/
theorem behind_set {i : Nat} {d d' : Desk} (here : desks[i]? = some d)
    (behind : d.IsBehind → d'.IsBehind) (some : ∃ e ∈ desks, e.IsBehind) :
    ∃ e ∈ desks.set i d', e.IsBehind := by
  obtain ⟨e, mem, is⟩ := some
  obtain ⟨j, there⟩ := List.getElem?_of_mem mem
  have lt : i < desks.length := (List.getElem?_eq_some_iff.1 here).1
  by_cases own : i = j
  · subst own
    obtain rfl := Option.some.inj (here.symm.trans there)
    exact ⟨d', List.mem_of_getElem? (List.getElem?_set_self lt), behind is⟩
  · exact ⟨e, List.mem_of_getElem? ((List.getElem?_set_ne own).trans there), is⟩

/-- A desk changes without a report. -/
theorem set_of_dial (metered : Metered alone late desks gauge) {i : Nat} {d d' : Desk}
    (here : desks[i]? = some d) (same : d'.dial = d.dial) (behind : d.IsBehind → d'.IsBehind)
    (stays : d.worker = .stopped → d'.worker = .stopped) :
    Metered alone late (desks.set i d') gauge := by
  have dials : (desks.set i d').map (·.dial) = desks.map (·.dial) := by
    obtain ⟨lt, rfl⟩ := List.getElem?_eq_some_iff.1 here
    rw [List.map_set, same, ← List.map_set, List.set_getElem_self]
  refine ⟨fun e mem => ?_, fun now => (metered.retired now).set here stays, ?_⟩
  · rcases List.mem_or_eq_of_mem_set mem with old | rfl
    · exact metered.silent e old
    · exact same ▸ metered.silent d (List.mem_of_getElem? here)
  · rw [dials]
    exact metered.shown.imp_right (.imp_left (behind_set here behind))

/-- A desk makes a move without a report. -/
theorem quiet (metered : Metered alone late desks gauge) {i : Nat} {d : Desk}
    (here : desks[i]? = some d) {q : Switching.Move} (same : (d.move q).dial = d.dial)
    (behind : d.IsBehind → (d.move q).IsBehind) :
    Metered alone late (desks.set i (Switching.Moment.mk d q).after)
      (gaugeAfter gauge ((Switching.Moment.mk d q).effects.filterMap (·.tracking?))) := by
  have silent : d.dial.reports = [] := metered.silent d (List.mem_of_getElem? here)
  rw [show (Switching.Moment.mk d q).effects.filterMap (·.tracking?) = (d.move q).dial.reports
    from rfl, same, silent]
  refine metered.set_of_dial here ?_ behind fun stopped => Desk.worker_move_of_stopped stopped q
  rw [show (Switching.Moment.mk d q).after.dial = { (d.move q).dial with reports := [] } from rfl,
    same, ← silent]

/-- A desk makes a move, and the gauge takes what it reports. -/
theorem move (metered : Metered alone late desks gauge) {i : Nat} {d : Desk}
    (here : desks[i]? = some d) {q : Switching.Move} (other : ¬q.Reports)
    (unclosed : ∀ v, q ≠ .close v) (asked : q.ticket? = none ∨ i + 1 = desks.length) :
    Metered alone late (desks.set i (Switching.Moment.mk d q).after)
      (gaugeAfter gauge ((Switching.Moment.mk d q).effects.filterMap (·.tracking?))) := by
  have silent : d.dial.reports = [] := metered.silent d (List.mem_of_getElem? here)
  have lt : i < desks.length := (List.getElem?_eq_some_iff.1 here).1
  have retired (now : alone) : Retired (desks.set i (Switching.Moment.mk d q).after) :=
    (metered.retired now).set here fun stopped => Desk.worker_move_of_stopped stopped q
  have silent' : ∀ e ∈ desks.set i (Switching.Moment.mk d q).after, e.dial.reports = [] := by
    intro e mem
    rcases List.mem_or_eq_of_mem_set mem with old | rfl
    · exact metered.silent e old
    · rfl
  rcases d.tells_move other with (same | ⟨bs, last⟩) | installs
  · exact metered.quiet here same (Desk.isBehind_move · other)
  · -- The desk has reported what it tracks now.
    rw [silent, List.nil_append] at last
    refine ⟨silent', retired, .inl ⟨some i, ?_, ?_, fun now j x there beyond => ?_⟩⟩
    · rintro _ ⟨⟩
      simpa using lt
    · have after : (Switching.Moment.mk d q).after.dial = { (d.move q).dial with reports := [] } :=
        rfl
      rw [show (Switching.Moment.mk d q).effects.filterMap (·.tracking?) = (d.move q).dial.reports
        from rfl]
      simp [gaugeAfter, last, lt, after]
    · -- If there were a later desk, this one would have stopped and reported nothing.
      have alone : alone := now.resolve_left nofun
      have later : j < desks.length := by
        simpa using (List.getElem?_eq_some_iff.1 there).1
      have more : i + 1 < desks.length := Nat.lt_of_le_of_lt (beyond i rfl) later
      have same := Desk.dial_move_of_stopped (metered.retired alone i d here more)
        (asked.resolve_right (Nat.ne_of_lt more)) unclosed other
      rw [same, silent] at last
      simp at last
  · -- The desk is behind until it reports.
    exact ⟨silent', retired, .inr (.inl ⟨_, List.mem_of_getElem? (List.getElem?_set_self lt),
      installs.behind⟩)⟩

/-- A desk reports what it has installed before; maybe it tracks nothing any more. -/
theorem report (metered : Metered alone late desks gauge) {i : Nat} {d : Desk}
    (here : desks[i]? = some d) {q : Switching.Move}
    (reported : (d.move q).dial = { d.dial with reports := d.dial.reports ++ [true] }) :
    Metered alone True (desks.set i (Switching.Moment.mk d q).after)
      (gaugeAfter gauge ((Switching.Moment.mk d q).effects.filterMap (·.tracking?))) where
  silent e mem := by
    rcases List.mem_or_eq_of_mem_set mem with old | rfl
    · exact metered.silent e old
    · rfl
  retired now := (metered.retired now).set here fun stopped => Desk.worker_move_of_stopped stopped q
  shown := by
    refine .inr (.inr ⟨trivial, ?_⟩)
    rw [show (Switching.Moment.mk d q).effects.filterMap (·.tracking?) = (d.move q).dial.reports
      from rfl, reported]
    simp [gaugeAfter]

/-- A desk that was never asked for anything is put behind the others. -/
theorem append (metered : Metered alone late desks gauge) {d : Desk} (new : d.dial = blankDial)
    (retired : alone → Retired (desks ++ [d])) : Metered alone late (desks ++ [d]) gauge where
  silent e mem := by
    rcases List.mem_append.1 mem with old | last
    · exact metered.silent e old
    · rw [List.mem_singleton.1 last, new]
      rfl
  retired := retired
  shown := by
    refine metered.shown.imp ?_ (.imp_left ?_)
    · rintro ⟨who, shows⟩
      refine ⟨who, fun own => ?_, ?_, fun now j x there beyond => ?_⟩
      · rw [List.map_append, List.length_append]
        exact Nat.lt_add_right _ (shows.there own)
      · rw [shows.shown, List.map_append, List.map_singleton, new]
        cases who with
        | none => rfl
        | some i =>
          simp only [Option.bind_some, tracks_append_blankDial]
      · rw [List.map_append, List.map_singleton, new, List.getElem?_append] at there
        split at there
        · exact shows.blank now there beyond
        · exact List.mem_singleton.1 (List.mem_of_getElem? there)
    · rintro ⟨e, mem, behind⟩
      exact ⟨e, List.mem_append_left _ mem, behind⟩

/-- The last desk tracks a switch, and the gauge shows it. -/
theorem of_last (metered : Metered alone late desks gauge) {i : Nat} {d : Desk}
    (here : desks[i]? = some d) (last : i + 1 = desks.length) (tracks : d.tx.isSome)
    (shown : gauge = 1) {late' : Prop} : Metered alone late' desks gauge := by
  have dial : (desks.map (·.dial))[i]? = some d.dial := by simp [here]
  refine ⟨metered.silent, metered.retired, .inl ⟨some i, ?_, ?_, fun _ j x there beyond => ?_⟩⟩
  · rintro _ ⟨⟩
    rw [List.length_map]
    omega
  · rw [Option.bind_some, dial]
    simp [Desk.dial, tracks, shown]
  · have lt : j < desks.length := by simpa using (List.getElem?_eq_some_iff.1 there).1
    exact absurd (beyond i rfl) (by omega)

end Metered

/-! ## Steps -/

namespace Scene

/-- The desks report to the gauge, and the notes of the buses are plain. -/
structure IsMetered (alone late : Prop) (x : Scene) : Prop where
  metered : Metered alone late x.desks x.gauge
  plain : ∀ r ∈ x.runs, r.bus.IsPlain

/-- What is in hand has plain notes only. -/
def ArePlain (hand : Nat → Hand) : Prop := ∀ i, Bus.Effect.ArePlain (hand i)

theorem arePlain_emptyHand : ArePlain emptyHand := nofun

theorem arePlain_inHand {i : Nat} {es : Hand} (plain : Bus.Effect.ArePlain es) :
    ArePlain (inHand i es) := by
  intro j n mem
  unfold inHand at mem
  split at mem
  · exact plain n mem
  · cases mem

theorem ArePlain.rest {i : Nat} {e : Bus.Effect Listener Nat} {es : Hand}
    (plain : ArePlain (inHand i (e :: es))) : ArePlain (inHand i es) := by
  refine arePlain_inHand fun n mem => plain i n ?_
  rw [inHand_self]
  exact List.mem_cons_of_mem e mem

/-- All buses stay plain if one run changes. -/
theorem plain_onRun {x : Scene} (before : ∀ r ∈ x.runs, r.bus.IsPlain) (i : Nat) {f : Run → Run}
    (plain : ∀ r, r.bus.IsPlain → (f r).bus.IsPlain) : ∀ r ∈ (x.onRun i f).runs, r.bus.IsPlain :=
  mem_modify before fun r mem => plain r (before r mem)

namespace IsMetered

variable {alone late : Prop} {x y : Scene}

/-- Neither the desks nor the gauge change. -/
theorem of_desks (metered : x.IsMetered alone late) (desks : y.desks = x.desks)
    (gauge : y.gauge = x.gauge) (plain : ∀ r ∈ y.runs, r.bus.IsPlain) :
    y.IsMetered alone late := by
  refine ⟨?_, plain⟩
  rw [desks, gauge]
  exact metered.metered

/-- Neither the runs nor the gauge change. -/
theorem of_same (metered : x.IsMetered alone late) (runs : y.runs = x.runs)
    (gauge : y.gauge = x.gauge) : y.IsMetered alone late :=
  metered.of_desks (congrArg (List.map Run.desk) runs) gauge (runs ▸ metered.plain)

/-- There was no run yet. -/
theorem of_no_runs (runs : x.runs = []) (gauge : x.gauge = 0) : x.IsMetered alone late := by
  have desks : x.desks = [] := congrArg (List.map Run.desk) runs
  refine ⟨?_, fun r mem => ?_⟩
  · rw [desks, gauge]
    refine ⟨fun d mem => absurd mem List.not_mem_nil, fun _ i d there => ?_,
      .inl ⟨none, nofun, rfl, fun _ j y there => ?_⟩⟩
    · rw [List.getElem?_nil] at there
      cases there
    · rw [List.map_nil, List.getElem?_nil] at there
      cases there
  · rw [runs] at mem
    cases mem

/-- A run changes but for its desk. -/
theorem onRun (metered : x.IsMetered alone late) (i : Nat) {f : Run → Run}
    (desk : ∀ r, (f r).desk = r.desk) (plain : ∀ r, r.bus.IsPlain → (f r).bus.IsPlain) :
    (x.onRun i f).IsMetered alone late :=
  metered.of_desks (desks_onRun i desk) rfl (plain_onRun metered.plain i plain)

theorem onBus (metered : x.IsMetered alone late) (i : Nat) {f : Bus Listener Nat → Bus Listener Nat}
    (plain : ∀ b, b.IsPlain → (f b).IsPlain) : (x.onBus i f).IsMetered alone late :=
  metered.onRun i (fun _ => rfl) fun r => plain r.bus

/-- A setting of a desk changes. -/
theorem setting (metered : x.IsMetered alone late) (i : Nat) {q : Switching.Move}
    (setting : IsSetting q) :
    (x.onRun i fun r => { r with desk := r.desk.move q }).IsMetered alone late := by
  have same (d : Desk) : (d.move q).dial = d.dial := by
    cases q with
    | start => exact d.dial_start
    | endContext | setPanel => rfl
    | setTimeout t => exact d.dial_setTimeout t
    | _ => exact setting.elim
  have other : ¬q.Reports := by
    cases q <;> first | exact id | exact setting.elim
  refine ⟨?_, plain_onRun metered.plain i fun _ plain => plain⟩
  have desks : (x.onRun i fun r => { r with desk := r.desk.move q }).desks =
      x.desks.modify i (·.move q) := map_modify (fun _ => by rfl) x.runs i
  rw [desks, List.modify_eq_set_getElem?]
  cases here : x.desks[i]? with
  | none => exact metered.metered
  | some d =>
    exact metered.metered.set_of_dial here (same d) (Desk.isBehind_move · other)
      (Desk.worker_move_of_stopped · q)

end IsMetered

/-- What desks asked for was handed on; these are the reports among it. -/
structure Heard (x : Scene) (reports : List Bool) (y : Scene) : Prop where
  plain : (∀ r ∈ x.runs, r.bus.IsPlain) → ∀ r ∈ y.runs, r.bus.IsPlain
  gauge : y.gauge = gaugeAfter x.gauge reports

variable {x : Scene}

/-- Neither the runs nor the gauge change. -/
theorem Heard.of_same {y : Scene} (runs : y.runs = x.runs) (gauge : y.gauge = x.gauge) :
    Heard x [] y := by
  refine ⟨?_, gauge⟩
  rw [runs]
  exact id

theorem Hears.heard {i : Nat} {e : Switching.Effect} {y : Scene} (hears : x.Hears i e y) :
    Heard x e.tracking?.toList y := by
  cases hears with
  | noted n =>
    cases n with
    | inFlight tracked => exact ⟨id, rfl⟩
    | _ => exact .of_same rfl rfl
  | turned =>
    refine ⟨fun before => ?_, rfl⟩
    exact plain_onRun before i fun r plain => plain.returned none
  | _ => exact .of_same rfl rfl

theorem heard_foldl_hear (i : Nat) (es : List Switching.Effect) :
    Heard x (es.filterMap (·.tracking?)) (es.foldl (hear i) x) := by
  induction es generalizing x with
  | nil => exact .of_same rfl rfl
  | cons e es ih =>
    have first := (x.hears i e).heard
    have rest := ih (x := x.hear i e)
    refine ⟨rest.plain ∘ first.plain, ?_⟩
    rw [List.foldl_cons, rest.gauge, first.gauge, ← gaugeAfter_append]
    cases h : e.tracking? <;> simp [h]

/-- A desk makes a move, and all that it asks for is handed on. -/
theorem IsMetered.of_moved {alone late late' : Prop} (metered : x.IsMetered alone late) {i : Nat}
    {r : Run} (here : x.runs[i]? = some r) {q : Switching.Move}
    (moved : Metered alone late' (x.desks.set i (Switching.Moment.mk r.desk q).after)
      (gaugeAfter x.gauge ((Switching.Moment.mk r.desk q).effects.filterMap (·.tracking?)))) :
    (x.moveDesk i q).IsMetered alone late' := by
  have heard := heard_foldl_hear (x := x.onRun i fun s =>
    { s with desk := (Switching.Moment.mk r.desk q).after }) i (Switching.Moment.mk r.desk q).effects
  have made : x.moveDesk i q = (Switching.Moment.mk r.desk q).effects.foldl (hear i)
      (x.onRun i fun s => { s with desk := (Switching.Moment.mk r.desk q).after }) := by
    rw [Scene.moveDesk, here]
  refine ⟨?_, ?_⟩
  · rw [desks_moveDesk here, made, heard.gauge]
    exact moved
  · rw [made]
    exact heard.plain (plain_onRun metered.plain i fun _ plain => plain)

theorem IsMetered.moveDesk {alone late : Prop} (metered : x.IsMetered alone late) (i : Nat)
    {q : Switching.Move} (other : ¬q.Reports) (unclosed : ∀ v, q ≠ .close v)
    (asked : q.ticket? = none ∨ i + 1 = x.runs.length) : (x.moveDesk i q).IsMetered alone late := by
  cases here : x.runs[i]? with
  | none =>
    rw [Scene.moveDesk, here]
    exact metered
  | some r =>
    have length : x.desks.length = x.runs.length := List.length_map ..
    exact metered.of_moved here
      (metered.metered.move (desks_getElem? here) other unclosed (length ▸ asked))

/-- A desk reports what it has installed before, if there is anything. -/
theorem IsMetered.report {alone late : Prop} (metered : x.IsMetered alone late) (i : Nat)
    {q : Switching.Move} {P : Desk → Prop}
    (reports : ∀ d : Desk, d.move q = d ∨ P d ∧
      (d.move q).dial = { d.dial with reports := d.dial.reports ++ [true] }) :
    (x.moveDesk i q).IsMetered alone late ∨
      (∃ r, x.runs[i]? = some r ∧ P r.desk) ∧ (x.moveDesk i q).IsMetered alone True := by
  cases here : x.runs[i]? with
  | none =>
    rw [Scene.moveDesk, here]
    exact .inl metered
  | some r =>
    have there := desks_getElem? here
    rcases reports r.desk with same | ⟨waits, reported⟩
    · exact .inl (metered.of_moved here
        (metered.metered.quiet there (congrArg Desk.dial same) fun behind => by rwa [same]))
    · exact .inr ⟨⟨r, rfl, waits⟩, metered.of_moved here (metered.metered.report there reported)⟩

/-! ### Behind the calls -/

theorem Step.isMetered {alone late : Prop} {p p' : Scene × (Nat → Hand)} (step : Step p p')
    (metered : p.1.IsMetered alone late) (plain : ArePlain p.2) :
    p'.1.IsMetered alone late ∧ ArePlain p'.2 := by
  cases step with
  | asked | answered | told | ended => exact ⟨metered.of_same rfl rfl, plain⟩
  | bus x hand i m outer => exact ⟨metered.onBus i fun _ plain => plain.move m, plain⟩
  | died x hand h =>
    refine ⟨metered.of_desks (List.map_map ..) rfl fun r mem => ?_, plain⟩
    obtain ⟨r, old, rfl⟩ := List.mem_map.1 mem
    exact (metered.plain r old).move (.die h)
  | worked x i r here =>
    have made := (metered.plain r (List.mem_of_getElem? here)).move .work
    exact ⟨metered.onBus i fun _ _ => Bus.isPlain_take _, arePlain_inHand made⟩
  | taken x i r here =>
    exact ⟨metered.onBus i fun _ _ => Bus.isPlain_take _,
      arePlain_inHand (metered.plain r (List.mem_of_getElem? here))⟩
  | noted x i n es =>
    have first : n.isPlain = true := plain i n (by simp [inHand_self])
    refine ⟨?_, plain.rest⟩
    rw [note_of_isPlain first]
    exact metered
  | passed => exact ⟨metered, plain.rest⟩
  | called x i v event es => exact ⟨metered.moveDesk i id nofun (.inl rfl), plain.rest⟩
  | found x hand i u => exact ⟨metered.onRun i (fun _ => rfl) fun _ plain => plain, plain⟩
  | setting x hand i q setting => exact ⟨metered.setting i setting, plain⟩

theorem Steps.isMetered {alone late : Prop} {x y : Scene}
    (steps : Steps (x, emptyHand) (y, emptyHand)) (metered : x.IsMetered alone late) :
    y.IsMetered alone late := by
  have each {p : Scene × (Nat → Hand)} (steps : Steps (x, emptyHand) p) :
      p.1.IsMetered alone late ∧ ArePlain p.2 := by
    induction steps with
    | refl => exact ⟨metered, arePlain_emptyHand⟩
    | tail _ step ih => exact step.isMetered ih.1 ih.2
  exact (each steps).1

end Scene

/-! ## Moves -/

/-- A run as it is made has a dial that was never moved, and a plain bus. -/
theorem Run.IsNew.dial {r : Run} {group : Option Nat} (new : r.IsNew group) :
    r.desk.dial = blankDial := by
  obtain ⟨timeout, headless, desk⟩ := new.desk
  rw [desk, Desk.dial_start]
  rfl

theorem Run.IsNew.isPlain {r : Run} {group : Option Nat} (new : r.IsNew group) : r.bus.IsPlain := by
  rw [new.bus]
  exact fun _ mem => absurd mem List.not_mem_nil

/-- A new run is put behind the others. -/
theorem Scene.IsMetered.append {alone late : Prop} {x y : Scene} {r : Run} {group : Option Nat}
    (metered : x.IsMetered alone late) (new : r.IsNew group) (runs : y.runs = x.runs ++ [r])
    (gauge : y.gauge = x.gauge) (retired : alone → Retired y.desks) : y.IsMetered alone late := by
  have desks : y.desks = x.desks ++ [r.desk] :=
    (congrArg (List.map Run.desk) runs).trans List.map_append
  refine ⟨?_, fun r' mem => ?_⟩
  · rw [desks] at retired ⊢
    rw [gauge]
    exact metered.metered.append new.dial retired
  · rw [runs] at mem
    rcases List.mem_append.1 mem with old | last
    · exact metered.plain r' old
    · exact List.mem_singleton.1 last ▸ new.isPlain

theorem Scene.gauge_prepare (x : Scene) (id k : Nat) : (x.prepare id k).gauge = x.gauge := by
  unfold prepare
  split <;> rfl

/-- Starts and stops report nothing. -/
theorem Steering.isMetered {alone late : Prop} {x y : Scene} {m : Move} (steering : Steering x m y)
    (numbered : x.Numbered) (metered : x.IsMetered alone late) (retired : alone → Retired y.desks) :
    y.IsMetered alone late := by
  cases steering with
  | idle => exact metered
  | queued begins | refused begins | begun begins | stopped begins =>
    obtain ⟨_, _, _, n, cs, rfl⟩ := begins.enters numbered
    exact metered.of_same rfl rfl
  | built move tasks new => exact metered.append new rfl rfl retired
  | published | prepared => exact metered.of_same (Scene.runs_prepare ..) (Scene.gauge_prepare ..)
  | advanced | broken | accepted | rejected | failed | aborted | halted | expired | shut | finished
  | orphaned => exact metered.of_same rfl rfl
  | @busReaped i r here finished first =>
    exact (metered.onRun i (f := fun r => { r with busReported := true }) (fun _ => rfl)
      fun _ plain => plain).of_same rfl rfl
  | @deskReaped i r here finished first =>
    exact (metered.onRun i (f := fun r => { r with deskReported := true }) (fun _ => rfl)
      fun _ plain => plain).of_same rfl rfl

theorem Scene.IsMetered.aside {alone late : Prop} {x y : Scene} (metered : x.IsMetered alone late)
    (aside : x.Aside y) : y.IsMetered alone late := by
  obtain ⟨_, _, _, rfl⟩ := aside
  exact metered.of_same rfl rfl

/-- By the move, a desk reports a switch that it has installed before. -/
def Moment.reports (m : Moment) : Bool :=
  match m.move with
  | .act (.launch i k) => (m.before.runs[i]?).any (·.desk.launching.any (·.trip.ticket == k))
  | .act (.deskMark i) => (m.before.runs[i]?).any (·.desk.worker == .marking)
  | _ => false

/-- Whatever happens, the gauge shows what was reported last, or has just been told of a switch that
    was installed before. -/
theorem Happening.isMetered {alone late : Prop} {s : System} {m : Move} {y : Scene}
    (happening : Happening s m y) (wired : s.sink = .service) (orderly : s.scene.Orderly)
    (metered : s.scene.IsMetered alone late) (retired : alone → Retired y.desks) :
    y.IsMetered alone late ∨ (Moment.mk s m).reports = true ∧ y.IsMetered alone True := by
  cases happening with
  | behind steps => exact .inl (Scene.Steps.isMetered steps metered)
  | performed opens steps closes =>
    exact .inl ((Scene.Steps.isMetered steps (metered.aside opens.aside)).aside closes.aside)
  | @asked i q x z published asks sees opens left =>
    -- Calls go to the published desk, which is the last one.
    have last : i + 1 = x.runs.length := by
      rw [orderly.last_of_published published]
      cases opens <;> rfl
    have other : ¬q.Reports := by
      cases q <;> first | exact id | exact asks.elim
    have unclosed (v : Switching.View) : q ≠ .close v := by
      rintro rfl
      exact asks.elim
    exact .inl (((metered.aside opens.aside).moveDesk i other unclosed (.inr last)).aside left.aside)
  | left left => exact .inl (metered.aside left.aside)
  | worked | stopped => exact .inl (metered.moveDesk _ id nofun (.inl rfl))
  | @launched i k move =>
    refine (metered.report i (q := .launch k) fun d => d.dial_launch k).imp_right (.imp_left ?_)
    rintro ⟨r, here, waits⟩
    simp [Moment.reports, move, show s.runs[i]? = some r from here, waits]
  | @marked i move =>
    refine (metered.report i (q := .mark) fun d => d.dial_mark).imp_right (.imp_left ?_)
    rintro ⟨r, here, marking⟩
    simp [Moment.reports, move, show s.runs[i]? = some r from here, marking]
  | bounded => exact .inl (metered.of_same rfl rfl)
  | @tripEnded id i v k response fault ends found =>
    have ended : Scene.IsMetered alone late
        { s.scene with asks := s.scene.asks.filter (·.1 != id) } := metered.of_same rfl rfl
    exact .inl (ended.moveDesk i not_false nofun (.inl rfl))
  | @committed i r c t fault move here doing switched =>
    have leads := leads_onSessions s wired .worker (s.sessions.switchTo c.target s.millis)
    rw [switched] at leads
    exact .inl ((Scene.Steps.isMetered leads metered).moveDesk i id nofun (.inl rfl))
  | steered steering => exact .inl (steering.isMetered orderly.numbered metered retired)
  | wired move tasks steps steering =>
    exact .inl (steering.isMetered (Scene.Steps.keeps steps orderly.numbered).numbered
      (Scene.Steps.isMetered steps metered) retired)

/-! ## Runs -/

/-- A switch was reported while none was in flight, none has been since, and the gauge shows one
    all the while. -/
def History.IsLate (h : History) : Prop :=
  ∃ h₁ m h₂, h = h₁ ++ m :: h₂ ∧ m.reports = true ∧
    ∀ n ∈ m :: h₂, n.after.inFlight = none ∧ n.after.metrics.inFlight = 1

/-- It stays so as long as nothing is in flight and the gauge shows a switch. -/
theorem History.IsLate.step {h : History} (late : h.IsLate) {m : Moment}
    (none : m.after.inFlight = none) (one : m.after.metrics.inFlight = 1) :
    History.IsLate (h ++ [m]) := by
  obtain ⟨h₁, n, h₂, rfl, reports, since⟩ := late
  refine ⟨h₁, n, h₂ ++ [m], by simp, reports, fun n' mem => ?_⟩
  rw [← List.cons_append] at mem
  rcases List.mem_append.1 mem with old | last
  · exact since n' old
  · rw [List.mem_singleton.1 last]
    exact ⟨none, one⟩

variable {h : History} {s : System}

/-- What is in flight is what the published desk tracks. -/
theorem inFlight_of_published {i : Nat} {r : Run} (published : s.published = some i)
    (here : s.runs[i]? = some r) : s.inFlight = r.desk.tx := by
  simp [System.inFlight, System.run?, published, here]

namespace IsRun

/-- If the gauge shows a switch and one is in flight, no report was late. -/
theorem isMetered_of_late (run : IsRun h s) {alone late : Prop}
    (metered : s.scene.IsMetered alone late)
    (untracked : late → s.inFlight = none → s.metrics.inFlight = 1 → h.IsLate) :
    s.scene.IsMetered alone h.IsLate := by
  obtain ⟨⟨silent, retired, shown⟩, plain⟩ := metered
  rcases shown with true | behind | ⟨now, one⟩
  · exact ⟨⟨silent, retired, .inl true⟩, plain⟩
  · exact ⟨⟨silent, retired, .inr (.inl behind)⟩, plain⟩
  · cases tracked : s.inFlight with
    | none => exact ⟨⟨silent, retired, .inr (.inr ⟨untracked now tracked one, one⟩)⟩, plain⟩
    | some t =>
      -- What is in flight is tracked by the last desk, so a gauge of 1 is right, late or not.
      obtain ⟨r, there, tx⟩ := Option.bind_eq_some_iff.1 tracked
      obtain ⟨i, published, here⟩ := Option.bind_eq_some_iff.1 there
      have last : i + 1 = s.scene.desks.length := by
        rw [Scene.desks, List.length_map]
        exact run.orderly.last_of_published published
      have metered : Metered alone late s.scene.desks s.scene.gauge :=
        ⟨silent, retired, .inr (.inr ⟨now, one⟩)⟩
      exact ⟨metered.of_last (Scene.desks_getElem? here) last (by rw [tx]; rfl) one, plain⟩

/-- In every state of a run the gauge shows what was reported last, unless there is more to report,
    or the last report was late; while no stop gives up, only the desk of the last run drops
    anything. -/
theorem isMetered (run : IsRun h s) :
    s.scene.IsMetered (∀ m ∈ h, m.timesOut = false) h.IsLate := by
  induction run with
  | new made w =>
    rw [eq_fresh_of_new made]
    exact .of_no_runs rfl rfl
  | @step h s m run proper ih =>
    have before : s.scene.IsMetered (∀ n ∈ h ++ [⟨s, m⟩], n.timesOut = false) h.IsLate :=
      ⟨ih.metered.mono fun patient n mem => patient n (List.mem_append_left _ mem), ih.plain⟩
    have after := run.step proper
    -- The desks of earlier runs have stopped.
    have retired (patient : ∀ n ∈ h ++ [⟨s, m⟩], n.timesOut = false) :
        Retired (Moment.mk s m).outcome.desks := by
      intro i d there lt
      obtain ⟨r, here, rfl⟩ := Scene.exists_run there
      rw [Scene.desks, List.length_map] at lt
      exact (after.vacant patient).earlier here lt
    rcases (run.happening proper).isMetered run.sink run.orderly before retired
      with metered | ⟨reports, metered⟩
    · exact after.isMetered_of_late (metered.of_same rfl rfl) fun late none one => late.step none one
    · refine after.isMetered_of_late (metered.of_same rfl rfl) fun _ none one =>
        ⟨h, ⟨s, m⟩, [], rfl, reports, fun n mem => ?_⟩
      rw [List.mem_singleton.1 mem]
      exact ⟨none, one⟩

end IsRun

/-- Nothing is in flight if the published desk, if there is one, tracks nothing. -/
theorem inFlight_eq_none (idle : ∀ {i : Nat} {r : Run}, s.published = some i →
    s.runs[i]? = some r → r.desk.tx = none) : s.inFlight = none := by
  refine Option.bind_eq_none_iff.2 fun r there => ?_
  obtain ⟨i, published, here⟩ := Option.bind_eq_some_iff.1 there
  exact idle published here

namespace Shows

variable {alone late : Prop} {gauge : Nat} {who : Option Nat} {j : Nat} {r : Run}

theorem dial_eq (here : s.runs[j]? = some r) :
    (s.scene.desks.map (·.dial))[j]? = some r.desk.dial := by
  simp [Scene.desks, System.scene, here]

/-- No desk after the one that reported last has ever tracked anything. -/
theorem untouched (shows : Shows alone (s.scene.desks.map (·.dial)) gauge who)
    (now : who = none ∨ alone) (here : s.runs[j]? = some r) (beyond : ∀ i, who = some i → i < j) :
    r.desk.tx = none ∧ r.desk.seq = 0 := by
  have blank := shows.blank now (dial_eq here) beyond
  have idle : r.desk.tx.isSome = false := congrArg Dial.tracks blank
  exact ⟨by simpa using idle, congrArg Dial.seq blank⟩

end Shows

/-- The gauge shows whether a switch is in flight, unless a desk has one to report yet, or the last
    report came when none was in flight any more, or the desk that reported last belongs to a run
    that is not published any more. As long as no stop has given up, that desk was withdrawn with a
    switch that it still tracks, and no later run has tracked any since. -/
theorem gauge_or_withdrawn (run : IsRun h s) :
    s.metrics.inFlight = (if s.inFlight.isSome then 1 else 0) ∨
      (∃ r ∈ s.runs, r.desk.IsBehind) ∨ h.IsLate ∨
      ∃ i r, s.runs[i]? = some r ∧ s.published ≠ some i ∧
        s.metrics.inFlight = (if r.desk.tx.isSome then 1 else 0) ∧
        ((∀ m ∈ h, m.timesOut = false) → r.desk.tx.isSome ∧ s.inFlight = none ∧
          ∀ j r', i < j → s.runs[j]? = some r' → r'.desk.seq = 0) := by
  obtain ⟨who, shows⟩ | behind | ⟨late, _⟩ := run.isMetered.metered.shown
  rotate_left
  · obtain ⟨d, mem, behind⟩ := behind
    obtain ⟨r, there, rfl⟩ := List.mem_map.1 mem
    exact .inr (.inl ⟨r, there, behind⟩)
  · exact .inr (.inr (.inl late))
  have gauge := shows.shown
  cases who with
  | none =>
    -- Nobody has reported anything.
    refine .inl (gauge.trans ?_)
    rw [inFlight_eq_none fun _ here => (shows.untouched (.inl rfl) here nofun).1]
    rfl
  | some i =>
    obtain ⟨r, here⟩ : ∃ r, s.runs[i]? = some r := by
      have lt := shows.there rfl
      rw [List.length_map, Scene.desks, List.length_map] at lt
      exact ⟨_, List.getElem?_eq_getElem lt⟩
    rw [Option.bind_some, Shows.dial_eq here] at gauge
    by_cases published : s.published = some i
    · rw [inFlight_of_published published here]
      exact .inl gauge
    · -- The published run, if there is one, is a later one.
      have later (patient : ∀ m ∈ h, m.timesOut = false) {j : Nat} {r' : Run} (lt : i < j)
          (there : s.runs[j]? = some r') : r'.desk.tx = none ∧ r'.desk.seq = 0 :=
        shows.untouched (.inr patient) there fun _ own => Option.some.inj own ▸ lt
      have grounded (patient : ∀ m ∈ h, m.timesOut = false) : s.inFlight = none := by
        refine inFlight_eq_none fun {j r'} now there => (later patient ?_ there).1
        have last : j + 1 = s.runs.length := run.orderly.last_of_published now
        have lt := (List.getElem?_eq_some_iff.1 here).1
        have ne : i ≠ j := fun same => published (same ▸ now)
        omega
      by_cases idle : (∀ m ∈ h, m.timesOut = false) ∧ r.desk.tx = none
      · refine .inl (gauge.trans ?_)
        rw [grounded idle.1]
        simp [Desk.dial, idle.2]
      · refine .inr (.inr (.inr ⟨i, r, here, published, gauge,
          fun patient => ⟨?_, grounded patient, ?_⟩⟩))
        · exact Option.isSome_iff_ne_none.2 fun none => idle ⟨patient, none⟩
        · exact fun j r' lt there => (later patient lt there).2

/-- Nobody waits for anything, and no worker has anything to do. -/
def System.AtRest (s : System) : Prop :=
  s.calls.isEmpty ∧ s.asks.isEmpty ∧
    ∀ r ∈ s.runs, r.bus.step?.isNone ∧ r.desk.pending.isEmpty ∧ r.desk.trips.isEmpty ∧
      ¬r.desk.IsBehind

instance (s : System) : Decidable s.AtRest := inferInstanceAs (Decidable (_ ∧ _ ∧ _))

namespace Leftover

/-- Ann is one of the users. -/
def world : Surroundings :=
  { roster := Roster.fresh.put ⟨10, "Ann", "full.secondary", Flags.none, UserId.null, true⟩ }

/-- The service is stopped while a switch to Ann is negotiated, whose trip is canceled, and
    started again. -/
def actions : List Action :=
  List.flatten [startUp 1, [.busStep 0, .perform {} (.switchUser 10 0), .launch 0 2, .stop,
      .notice 0], List.replicate 3 (.busStep 0),
    [.deskStop 0, .reap 0, .reap 0, .settleWait true, .goOn 4, .canceled 3],
    startUp 5, [.busStep 1]]

theorem isRun : IsRun (acted world actions).1 (acted world actions).2 :=
  isRun_acted world (by decide)

theorem patient : ∀ m ∈ (acted world actions).1, m.timesOut = false := by decide +kernel

theorem atRest : (acted world actions).2.AtRest := by decide +kernel

/-- The switch was in flight when it was reported. -/
theorem punctual : ∀ m ∈ (acted world actions).1, m.reports = true → m.after.inFlight.isSome := by
  decide +kernel

/-- The gauge shows a switch, but none is in flight. -/
theorem reading : (acted world actions).2.metrics.inFlight = 1 ∧
    (acted world actions).2.inFlight.isSome = false := by decide +kernel

end Leftover

open Leftover in
/-- After a stop during a negotiation and another start, the gauge shows what the desk of the
    first run still tracks. -/
theorem gauge_of_leftover : IsRun (acted world actions).1 (acted world actions).2 ∧
    ∃ i r, (acted world actions).2.runs[i]? = some r ∧ (acted world actions).2.published ≠ some i ∧
      r.desk.tx.isSome ∧ (acted world actions).2.inFlight = none ∧
      ∀ j r', i < j → (acted world actions).2.runs[j]? = some r' → r'.desk.seq = 0 := by
  refine ⟨isRun, ?_⟩
  -- The gauge is wrong, no desk is behind, and no report was late.
  rcases gauge_or_withdrawn isRun with right | ⟨r, mem, behind⟩ | ⟨_, m, _, split, reports, since⟩ |
    ⟨i, r, here, other, _, stale⟩
  · rw [reading.1, reading.2] at right
    cases right
  · exact absurd behind (atRest.2.2 r mem).2.2.2
  · have some := punctual m (by simp [split]) reports
    rw [(since m List.mem_cons_self).1] at some
    cases some
  · exact ⟨i, r, here, other, stale patient⟩

open Leftover in
/-- So the gauge is not always right, not even while nothing goes on. -/
theorem gauge_wrong_after_stop : ¬∀ (h : History) (s : System), IsRun h s → s.AtRest →
    s.metrics.inFlight = if s.inFlight.isSome then 1 else 0 := by
  intro truthful
  have right := truthful _ _ isRun atRest
  rw [reading.1, reading.2] at right
  cases right

namespace Overlap

/-- Ann and Bob are users. -/
def world : Surroundings :=
  { roster := (Roster.fresh.put ⟨10, "Ann", "full.secondary", Flags.none, UserId.null, true⟩).put
      ⟨11, "Bob", "full.secondary", Flags.none, UserId.null, true⟩ }

/-- A switch to Ann is asked for and superseded by one to Bob, which the vehicle refuses before that
    to Ann is reported. -/
def actions : List Action :=
  startUp 1 ++ [.busStep 0, .perform {} (.switchUser 10 0), .perform {} (.switchUser 11 0),
    .launch 0 3, .answered 4 (.switch ⟨⟨""⟩, .vetoed, "no"⟩) none, .deskWork 0, .launch 0 2,
    .answered 5 (.switch ⟨⟨"A"⟩, .approved, ""⟩) none, .deskWork 0]

end Overlap

open Overlap in
/-- Nor is it always right as long as the service is not stopped. -/
theorem gauge_wrong_after_overlap : ¬∀ (h : History) (s : System), IsRun h s →
    (∀ m ∈ h, m.before.manager.phase ≠ .stopping) → s.AtRest →
    s.metrics.inFlight = if s.inFlight.isSome then 1 else 0 := by
  intro truthful
  have running : ∀ m ∈ (acted world actions).1, m.before.manager.phase ≠ .stopping := by
    decide +kernel
  have atRest : (acted world actions).2.AtRest := by decide +kernel
  have reading : (acted world actions).2.metrics.inFlight = 1 ∧
    (acted world actions).2.inFlight.isSome = false := by decide +kernel
  have right := truthful _ _ (isRun_acted world (by decide)) running atRest
  rw [reading.1, reading.2] at right
  cases right

end HeadUnit.Service
