import HeadUnit.Proofs.Service.Line
import HeadUnit.Proofs.Service.Replies
import HeadUnit.Proofs.Service.Vacancy
import HeadUnit.Proofs.Switching.Holding

/-!
# Reports of switches that nobody negotiated

When the news of a switch reach the desk and it tracks nothing, it tells the vehicle of a switch
that nobody negotiated. Which switch it was does not matter, so one that was negotiated may be
reported, too: if the desk has lost track of it before the news of it are taken.

Once the operating system has performed a switch that was negotiated, the desk holds its transaction
(`IsRun.holds_performed`) until it is superseded or the news are taken that the target has unlocked
(`IsRun.fate_since`). The news of the switch itself are taken when as many have been taken as were
in line before (`Moment.Reaches`). So a report of it means that it was superseded in between, or
that news of its target were in line already (`lost_track_of_legacy`); a switch that is superseded
by one that the vehicle refuses is an example (`told_of_negotiated`).
-/

namespace HeadUnit.Service

open Switching (Desk Command Commit)
open HeadUnit.Service.System

/-! ## What is held -/

/-- What the desk `d` holds is held after, and no number is given out. -/
structure Bides (d d' : Desk) : Prop where
  seq : d'.seq = d.seq
  holds : ∀ {t : Transaction}, d.standing.Holds t → d'.standing.Holds t

namespace Bides

theorem refl (d : Desk) : Bides d d := ⟨rfl, id⟩

theorem trans {d d' d'' : Desk} (one : Bides d d') (other : Bides d' d'') : Bides d d'' :=
  ⟨other.seq.trans one.seq, other.holds ∘ one.holds⟩

/-- The desk is called with events. -/
theorem events (d : Desk) (v : Switching.View) (p : Switching.Poster) (es : List Event) :
    Bides d (Switching.Moment.mk d (.events v p es)).after := by
  have posted : (d.move (.events v p es)).standing =
      d.standing.post v (es.filterMap Desk.commandOf?) := d.standing_post v p _
  refine ⟨?_, fun holds => ?_⟩
  · exact (congrArg Switching.Standing.seq posted).trans (Switching.Standing.post_seq ..)
  · -- What is posted are news, and no answers.
    have news : ∀ c ∈ es.filterMap Desk.commandOf?, ∀ o, c.answers? = some o →
        o ∈ d.standing.awaited := fun c mem o own =>
      nomatch (Command.isNews_of_mem_events mem).answers?_eq.symm.trans own
    have after := holds.post (fun _ mem => mem) v news
    rw [Switching.Moment.standing_after, Switching.Moment.outcome, posted]
    exact ⟨after.tracked, after.gone, after.done⟩

theorem setting (d : Desk) {q : Switching.Move} (setting : IsSetting q) : Bides d (d.move q) := by
  have same {d' : Desk} (kept : d'.standing = d.standing) : Bides d d' :=
    ⟨congrArg Switching.Standing.seq kept, fun holds => kept ▸ holds⟩
  cases q with
  | start =>
    simp only [Desk.move, Desk.start]
    split
    · exact ⟨rfl, fun holds => holds.of_awaited holds.tracked (fun _ mem => mem) (.inr rfl)⟩
    · exact .refl d
  | endContext | setPanel => exact same rfl
  | setTimeout t =>
    simp only [Desk.move, Desk.setTimeout]
    split
    · exact .refl d
    · exact same rfl
  | _ => exact setting.elim

end Bides

namespace Scene

variable {x y : Scene} {i j : Nat} {d : Desk} {t : Transaction}

/-- The desk of run `i` makes the move, if any does. -/
theorem desks_moveDesk_getElem? (here : x.desks[i]? = some d) (j : Nat) (q : Switching.Move) :
    (x.moveDesk j q).desks[i]? = some (if j = i then (Switching.Moment.mk d q).after else d) := by
  obtain ⟨r, there, rfl⟩ := exists_run here
  by_cases own : j = i
  · subst own
    have lt : j < x.desks.length := (List.getElem?_eq_some_iff.1 here).1
    rw [desks_moveDesk there, if_pos rfl, List.getElem?_set_self lt]
  · rw [if_neg own]
    cases other : x.runs[j]? with
    | none => rw [moveDesk, other, here]
    | some r' => rw [desks_moveDesk other, List.getElem?_set_ne own, here]

theorem Step.bides {p p' : Scene × (Nat → Hand)} (step : Step p p')
    (here : p.1.desks[i]? = some d) : ∃ d', p'.1.desks[i]? = some d' ∧ Bides d d' := by
  -- Nothing happens to the desks.
  have same {y : Scene} (kept : y.desks = p.1.desks) : ∃ d', y.desks[i]? = some d' ∧ Bides d d' :=
    ⟨d, kept ▸ here, .refl d⟩
  cases step with
  | asked | answered | told | passed | ended => exact same rfl
  | bus x hand j m outer => exact same (desks_onRun j fun _ => rfl)
  | worked x j r there => exact same (desks_onRun j fun _ => rfl)
  | taken x j r there => exact same (desks_onRun j fun _ => rfl)
  | died x hand h => exact same (List.map_map ..)
  | noted x j n es => cases n <;> exact same rfl
  | found x hand j u => exact same (desks_onRun j fun _ => rfl)
  | called x j v event es =>
    refine ⟨_, desks_moveDesk_getElem? here j (.events v .bus [event]), ?_⟩
    split
    · exact .events ..
    · exact .refl d
  | setting x hand j q setting =>
    have desks : (x.onRun j fun r => { r with desk := r.desk.move q }).desks =
        x.desks.modify j (·.move q) := map_modify (fun _ => by rfl) x.runs j
    refine ⟨if j = i then d.move q else d, ?_, ?_⟩
    · rw [desks, List.getElem?_modify, show x.desks[i]? = some d from here]
      rfl
    · split
      · exact .setting d setting
      · exact .refl d

theorem Steps.bides {p p' : Scene × (Nat → Hand)} (steps : Steps p p')
    (here : p.1.desks[i]? = some d) : ∃ d', p'.1.desks[i]? = some d' ∧ Bides d d' := by
  induction steps with
  | refl => exact ⟨d, here, .refl d⟩
  | tail _ step ih =>
    obtain ⟨d₁, here₁, one⟩ := ih
    obtain ⟨d₂, here₂, other⟩ := step.bides here₁
    exact ⟨d₂, here₂, one.trans other⟩

/-! ## What becomes of it -/

/-- The desk of run `i` holds `t`. -/
def Holds (x : Scene) (i : Nat) (t : Transaction) : Prop :=
  ∃ d, x.desks[i]? = some d ∧ d.standing.Holds t ∧ t.seq = d.seq

/-- What becomes of the transaction `t` that the desk of run `i` has held, while the news `taken`
    are taken. -/
inductive Fate (y : Scene) (i : Nat) (t : Transaction) (taken : List Command) : Prop
  | held (holds : y.Holds i t)
  | superseded (d : Desk) (t' : Transaction) (here : y.desks[i]? = some d)
      (tracked : d.tx = some t') (other : t'.seq ≠ t.seq)
  | unlocked (mem : .unlocked t.target ∈ taken)
  | shut (d : Desk) (here : y.desks[i]? = some d) (closed : d.closed = true)

/-- Only what the desks do matters. -/
theorem Holds.of_desks (holds : x.Holds i t) (same : y.desks = x.desks) : y.Holds i t := by
  rwa [Holds, same]

theorem Fate.of_desks {taken : List Command} (fate : x.Fate i t taken) (same : y.desks = x.desks) :
    y.Fate i t taken := by
  cases fate with
  | held holds => exact .held (holds.of_desks same)
  | superseded d t' here tracked other => exact .superseded d t' (same ▸ here) tracked other
  | unlocked mem => exact .unlocked mem
  | shut d here closed => exact .shut d (same ▸ here) closed

/-- Steps take nothing away. -/
theorem Holds.steps {p p' : Scene × (Nat → Hand)} (holds : p.1.Holds i t) (steps : Steps p p') :
    p'.1.Holds i t := by
  obtain ⟨d, here, holds, number⟩ := holds
  obtain ⟨d', there, bides⟩ := steps.bides here
  exact ⟨d', there, bides.holds holds, number.trans bides.seq.symm⟩

/-- Whatever starts and stops do, a desk holds what it has held. -/
theorem Holds.steered {m : Move} (holds : x.Holds i t) (steering : Steering x m y)
    (numbered : x.Numbered) : y.Holds i t := by
  obtain ⟨d, here, holds, number⟩ := holds
  obtain ⟨r, there, rfl⟩ := exists_run here
  obtain ⟨r', there', _, desk⟩ := steering.getElem?_runs numbered there
  exact ⟨r'.desk, desks_getElem? there', desk ▸ holds, desk ▸ number⟩

/-- A desk makes a move that does not shut it down. -/
theorem Holds.moveDesk (holds : x.Holds i t) {q : Switching.Move} (unclosed : ∀ v, q ≠ .close v)
    (distinct : q.ended? ≠ none → ∀ d, x.desks[i]? = some d → (d.trips.map (·.ticket)).Nodup)
    {taken : List Command}
    (takes : ∀ d, x.desks[i]? = some d → j = i → ∀ c ∈ d.takes q, c.IsNews → c ∈ taken) :
    (x.moveDesk j q).Fate i t taken := by
  obtain ⟨d, here, holds, number⟩ := holds
  have there := desks_moveDesk_getElem? here j q
  by_cases own : j = i
  · rw [if_pos own] at there
    rcases d.change_or_same unclosed fun ends => distinct ends d here with change | ⟨same, _⟩
    · cases change.sequel rfl holds number with
      | held holds =>
        exact .held ⟨_, there, ⟨holds.tracked, holds.gone, holds.done⟩,
          change.seq_eq_of_tracked holds.tracked number⟩
      | superseded t' tracked other => exact .superseded _ t' there tracked other
      | unlocked next =>
        exact .unlocked (takes d here own _ (next ▸ List.mem_singleton_self _) trivial)
      | shut closed => exact .shut _ there closed
    · -- A move that is not possible changes nothing.
      refine .held ⟨_, there, ?_, ?_⟩
      · rw [Switching.Moment.standing_after, Switching.Moment.outcome, same]
        exact ⟨holds.tracked, holds.gone, holds.done⟩
      · rw [Switching.Moment.after, same]
        exact number
  · rw [if_neg own] at there
    exact .held ⟨d, there, holds, number⟩

/-- A desk makes a move by which the worker takes nothing. -/
theorem Holds.moveDesk_quiet (holds : x.Holds i t) (j : Nat) {q : Switching.Move}
    (unclosed : ∀ v, q ≠ .close v) (untaken : ∀ d : Desk, d.takes q = [])
    (distinct : q.ended? ≠ none → ∀ d, x.desks[i]? = some d → (d.trips.map (·.ticket)).Nodup) :
    (x.moveDesk j q).Fate i t [] :=
  holds.moveDesk unclosed distinct fun d _ _ _ mem _ => untaken d ▸ mem

end Scene

variable {i : Nat} {t : Transaction}

/-- What becomes of what is held, unless the worker of a desk takes a command. -/
theorem Happening.fate {s : System} {m : Move} {y : Scene} (happening : Happening s m y)
    (wired : s.sink = .service) (numbered : s.scene.Numbered) (other : ∀ j, m ≠ .act (.deskWork j))
    (distinct : ∀ d, s.scene.desks[i]? = some d → (d.trips.map (·.ticket)).Nodup)
    (holds : s.scene.Holds i t) : y.Fate i t [] := by
  cases happening with
  | behind steps => exact .held (holds.steps steps)
  | @performed x z y opens steps closes =>
    have opened : x.desks = s.scene.desks := by
      obtain ⟨_, _, _, rfl⟩ := opens.aside
      rfl
    have closed : y.desks = z.desks := by
      obtain ⟨_, _, _, rfl⟩ := closes.aside
      rfl
    have meanwhile : x.Holds i t := holds.of_desks opened
    exact .held ((meanwhile.steps steps).of_desks closed)
  | @asked j q x y published asks sees opens left =>
    have opened : x.desks = s.scene.desks := by
      obtain ⟨_, _, _, rfl⟩ := opens.aside
      rfl
    have closed : y.desks = (x.moveDesk j q).desks := by
      obtain ⟨_, _, _, rfl⟩ := left.aside
      rfl
    obtain ⟨unclosed, unended, _⟩ := asks_spec asks
    have untaken (d : Desk) : d.takes q = [] := by
      cases q with
      | request | initiate => rfl
      | _ => exact asks.elim
    refine .of_desks ?_ closed
    exact (holds.of_desks opened).moveDesk_quiet j unclosed untaken fun ends => absurd unended ends
  | left left =>
    obtain ⟨_, _, _, rfl⟩ := left.aside
    exact .held holds
  | worked move => exact absurd move (other _)
  | @stopped j move | @launched j _ move | @marked j move =>
    exact holds.moveDesk_quiet j nofun (fun _ => rfl) fun ends => absurd rfl ends
  | bounded => exact .held holds
  | @tripEnded id j v k response fault ends found =>
    have before : Scene.Holds { s.scene with asks := s.scene.asks.filter (·.1 != id) } i t := holds
    exact before.moveDesk_quiet j nofun (fun _ => rfl) fun _ => distinct
  | @committed j r' c u fault move there doing switched =>
    have leads := leads_onSessions s wired .worker (s.sessions.switchTo c.target s.millis)
    rw [switched] at leads
    -- The events of the switch are told first, then a desk learns that it is done.
    exact (holds.steps leads).moveDesk_quiet j nofun (fun _ => rfl) fun ends => absurd rfl ends
  | steered steering => exact .held (holds.steered steering numbered)
  | wired move tasks steps steering =>
    exact .held ((holds.steps steps).steered steering (Scene.Steps.keeps steps numbered).numbered)

/-! ## Runs -/

/-- By the moment the desk of run `i` comes to track a transaction with another number, or does so
    already. -/
def Moment.Supersedes (m : Moment) (i : Nat) (number : UInt64) : Prop :=
  ∃ r t, m.after.runs[i]? = some r ∧ r.desk.tx = some t ∧ t.seq ≠ number

namespace IsRun

variable {h : History} {s : System} {r : Run}

/-- What a move makes of what is held. -/
theorem fate (run : IsRun h s) {m : Move} (proper : m.Proper) (holds : s.scene.Holds i t) :
    (Moment.mk s m).outcome.Fate i t ((Moment.mk s m).took i) := by
  by_cases works : ∃ j, m = .act (.deskWork j)
  · obtain ⟨j, rfl⟩ := works
    have moved : (Moment.mk s (.act (.deskWork j))).outcome = s.scene.moveDesk j (.work s.view) :=
      scene_deskWork fun r there => (run.serves there).out_eq_nil
    rw [moved]
    refine holds.moveDesk (q := .work s.view) nofun (fun ends => absurd rfl ends)
      fun d here own c mem news => ?_
    obtain ⟨r, there, rfl⟩ := Scene.exists_run here
    have there : s.runs[i]? = some r := there
    simp only [Moment.took, there, if_pos own]
    exact List.mem_filter.2 ⟨mem, decide_eq_true news⟩
  · have other (j : Nat) : m ≠ .act (.deskWork j) := fun is => works ⟨j, is⟩
    rw [Moment.took_of_ne other]
    refine (run.happening proper).fate run.sink run.orderly.numbered other (fun d here => ?_) holds
    obtain ⟨r, there, rfl⟩ := Scene.exists_run here
    exact run.nodup_trips there

/-- A run is one up to every moment. -/
theorem after_moment {m : Moment} {h₂ : History} (run : IsRun (h ++ m :: h₂) s) :
    IsRun (h ++ [m]) m.after := by
  obtain ⟨before, proper⟩ := run.at_moment rfl
  exact before.step proper

/-- What was held after the moment `m` is held still, as long as the desk is open, unless it was
    superseded or the news were taken that its target has unlocked. -/
theorem fate_since {m : Moment} {h₂ : History} (run : IsRun (h ++ m :: h₂) s)
    (holds : m.after.scene.Holds i t) (here : s.runs[i]? = some r)
    (isOpen : r.desk.closed = false) : s.scene.Holds i t ∨ (∃ n ∈ h₂, n.Supersedes i t.seq) ∨
      .unlocked t.target ∈ h₂.flatMap (·.took i) := by
  obtain ⟨_, first, _⟩ := Scene.exists_run holds.choose_spec.1
  induction h₂ using List.reverseRecOn generalizing s r with
  | nil =>
    obtain ⟨_, _, rfl⟩ := run.last
    exact .inl holds
  | append_singleton h₂ n ih =>
    rw [← List.cons_append, ← List.append_assoc] at run
    obtain ⟨before, proper, rfl⟩ := run.last
    -- The desk was open before.
    obtain ⟨r₀, _, there, _⟩ := before.queues_since first (before.after_moment.inLine first)
    obtain ⟨r₁, _, here₁, queues⟩ := before.advances proper there (before.inLine there)
    obtain rfl : r₁ = r := Option.some.inj (here₁.symm.trans here)
    rw [List.flatMap_append, List.flatMap_singleton]
    rcases ih before there (queues.desk isOpen) with now | ⟨n', mem, other⟩ | taken
    · cases before.fate proper now with
      | held after => exact .inl (after.of_desks rfl)
      | superseded d t' there' tracked other =>
        obtain ⟨r', here', rfl⟩ := Scene.exists_run there'
        exact .inr (.inl ⟨n, List.mem_append_right _ (List.mem_singleton_self n), r', t', here',
          tracked, other⟩)
      | unlocked mem => exact .inr (.inr (List.mem_append_right _ mem))
      | shut d there' closed =>
        obtain ⟨r', here', rfl⟩ := Scene.exists_run there'
        obtain rfl : r' = r₁ := Option.some.inj (here'.symm.trans here)
        exact nomatch closed.symm.trans isOpen
    · exact .inr (.inl ⟨n', List.mem_append_left _ mem, other⟩)
    · exact .inr (.inr (List.mem_append_left _ taken))

end IsRun

/-! ## Commits -/

/-- At the moment `m` the operating system performs the switch `c` for the desk of run `i`, which
    is `r`. -/
structure Moment.Performs (m : Moment) (i : Nat) (r : Run) (c : Commit) : Prop where
  move : m.move = .act (.commit i)
  here : m.before.runs[i]? = some r
  doing : r.desk.worker = .committing c
  able : m.before.sessions.switchFault = none

/-- A switch is performed. -/
theorem switchTo_of_able {s : Sessions} (able : s.switchFault = none) (user : UserId)
    (millis : Int64) : ∃ s' started opened, s.switchTo user millis =
      .ok (s', started ++ [⟨.switching, s.current, user, millis⟩] ++ opened) ∧
      newsOf started = [] := by
  rw [Sessions.switchTo, able]
  refine ⟨_, _, _, rfl, ?_⟩
  split <;> rfl

theorem emitEvents_of_service {s : System} (wired : s.sink = .service) (p : Switching.Poster)
    (es : List Event) : s.emitEvents p es = es.foldl onEvent s := by
  rw [emitEvents, wired]

namespace Moment.Performs

variable {m : Moment} {r : Run} {c : Commit}

/-- The events of a switch reach the service, and the first news are those of the switch itself;
    then the desk learns that it is done. -/
theorem outcome_eq (performs : m.Performs i r c) (wired : m.before.sink = .service) :
    ∃ s' es rest, newsOf es = .switched m.before.sessions.current c.target :: newsOf rest ∧
      m.before.onSessions .worker (m.before.sessions.switchTo c.target m.before.millis) =
        (es.foldl onEvent { m.before with sessions := s' }, none) ∧
      m.outcome = (es.foldl onEvent { m.before with sessions := s' }).scene.moveDesk i
        (.committed (es.foldl onEvent { m.before with sessions := s' }).view none) := by
  obtain ⟨s', started, opened, switched, nothing⟩ :=
    switchTo_of_able performs.able c.target m.before.millis
  let e : Event := ⟨.switching, m.before.sessions.current, c.target, m.before.millis⟩
  let es := started ++ [e] ++ opened
  have handed : m.before.onSessions .worker
      (m.before.sessions.switchTo c.target m.before.millis) =
        (es.foldl onEvent { m.before with sessions := s' }, none) := by
    rw [switched, onSessions]
    have wired' : ({ m.before with sessions := s' } : System).sink = .service := wired
    exact congrArg (·, none) (emitEvents_of_service wired' ..)
  refine ⟨s', es, opened, ?_, handed, ?_⟩
  · rw [newsOf_append, newsOf_append, nothing]
    rfl
  · have moved : m.outcome = (m.before.commit i).scene := by
      rw [Moment.outcome, performs.move]
      rfl
    rw [moved, commit, performs.here]
    simp only [performs.doing, handed]
    exact scene_onDesk _ i (.committed _ none)

end Moment.Performs

namespace IsRun

variable {h : History} {m : Moment} {i j : Nat} {r r' : Run} {c : Commit}

/-- The news of a switch that is performed are put at the end of the line of the published run,
    while its bus is open. -/
theorem queues_performed (run : IsRun h m.before) (proper : m.move.Proper)
    (performs : m.Performs i r c) (published : m.before.published = some j)
    (there : m.before.runs[j]? = some r') :
    ∃ r'' new, m.after.runs[j]? = some r'' ∧ Run.Queues (r', []) (r'', []) [] new ∧
      (new = [] ∧ r''.bus.closed = true ∨
        ∃ rest, new = .switched m.before.sessions.current c.target :: rest) := by
  obtain ⟨s', es, rest, news, handed, outcome⟩ := performs.outcome_eq run.sink
  have inLine := run.inLine there
  -- The desk of run `i` takes nothing when it learns that the switch is done.
  have rests {x : Scene} {r₁ : Run} (here₁ : x.runs[j]? = some r₁) (inLine : r₁.InLine)
      (v : Switching.View) : (x.moveDesk i (.committed v none)).Goes j (r₁, []) [] [] [] :=
    Scene.goes_moveDesk_quiet here₁ inLine [] i nofun rfl fun _ => rfl
  cases shut : r'.bus.closed with
  | false =>
    obtain ⟨r₁, here₁, _, one⟩ := goes_foldl_onEvent (s := { m.before with sessions := s' }) there
      inLine shut run.orderly.numbered published es
    obtain ⟨r₂, here₂, _, other⟩ := rests here₁ one.inLine _
    refine ⟨r₂, _, ?_, one.trans other, .inr ⟨newsOf rest, by rw [news, List.append_nil]⟩⟩
    exact (congrArg (·.runs[j]?) outcome).trans here₂
  | true =>
    obtain ⟨r₁, new, here₁, queues⟩ := run.advances proper there inLine
    rw [Moment.took_of_ne fun k is => by cases performs.move.symm.trans is] at queues
    obtain ⟨still, rfl⟩ := queues.bus shut
    exact ⟨r₁, [], here₁, queues, .inl ⟨rfl, still⟩⟩

/-- The operating system has switched for a switch that was negotiated: its transaction is held, or
    was superseded meanwhile. -/
theorem holds_performed (run : IsRun h m.before) (few : h.length < 2 ^ 64)
    (performs : m.Performs i r c) (negotiated : c.IsNegotiated) :
    (∃ t, m.after.scene.Holds i t ∧ t.target = c.target ∧ t.seq = c.number r.desk) ∨
      m.Supersedes i (c.number r.desk) := by
  obtain ⟨s', es, _, _, handed, outcome⟩ := performs.outcome_eq run.sink
  generalize es.foldl onEvent { m.before with sessions := s' } = u at handed outcome
  -- Until the desk learns of it, it is only told of events.
  have follows := follows_onSessions m.before .worker
    (m.before.sessions.switchTo c.target m.before.millis)
  have leads := leads_onSessions m.before run.sink .worker
    (m.before.sessions.switchTo c.target m.before.millis)
  rw [handed] at follows leads
  obtain ⟨r₁, here₁, steps⟩ : ∃ r₁, u.scene.runs[i]? = some r₁ ∧ Run.Steps (r, []) (r₁, []) :=
    follows.runs i r performs.here
  have doing := Run.Steps.committing steps (run.serves performs.here) performs.doing
  obtain ⟨h', service⟩ := Run.Steps.serves steps (run.serves performs.here)
  have same : r₁.desk.seq = r.desk.seq := by
    obtain ⟨d₁, there₁, bides⟩ := Scene.Steps.bides leads (Scene.desks_getElem? performs.here)
    obtain rfl : r₁.desk = d₁ := Option.some.inj ((Scene.desks_getElem? here₁).symm.trans there₁)
    exact bides.seq
  have number : c.number r₁.desk = c.number r.desk := by
    cases c with
    | answer a => rfl
    | direct | initiated => exact congrArg (· + 1) same
  have after : m.after.scene.desks[i]? =
      some (Switching.Moment.mk r₁.desk (.committed u.view none)).after := by
    have moved :=
      Scene.desks_moveDesk_getElem? (Scene.desks_getElem? here₁) i (.committed u.view none)
    rw [if_pos rfl] at moved
    exact (congrArg (·.desks[i]?) outcome).trans moved
  have able : Switching.Allowed h' r₁.desk (.committed u.view none) := by
    rw [Switching.Allowed, doing]
    rfl
  rcases service.run.holds_or_superseded (Nat.lt_of_le_of_lt service.few few) doing negotiated
      u.view with
    ⟨t, holds, target, own⟩ | ⟨t, tracked, other⟩
  · refine .inl ⟨t, ⟨_, after, ⟨holds.tracked, holds.gone, holds.done⟩, ?_⟩, target,
      own.trans number⟩
    exact (service.run.step able).tx_seq holds.tracked
  · obtain ⟨r₂, here₂, is⟩ := Scene.exists_run after
    exact .inr ⟨r₂, t, here₂, is ▸ tracked, number ▸ other⟩

end IsRun

/-! ## Notices -/

/-- The switch that the vehicle is told of and that nobody negotiated, with the user who was in the
    foreground before. -/
def Effect.legacy? : Effect → Option (UserId × UserId)
  | .notify (.legacySwitch source user _) => some (source, user.id)
  | _ => none

namespace Scene

/-- The switches that the vehicle was told of and that nobody negotiated. -/
def legacies (x : Scene) : List (UserId × UserId) := x.said.filterMap (·.legacy?)

theorem legacies_say (x : Scene) (e : Effect) :
    (x.say e).legacies = x.legacies ++ e.legacy?.toList := by
  rw [legacies, say, List.filterMap_append, ← legacies]
  congr 1
  cases e with
  | notify n => cases n <;> rfl
  | _ => rfl

theorem Hears.legacies {x y : Scene} {i : Nat} {e : Switching.Effect} (hears : x.Hears i e y) :
    y.legacies = x.legacies ++ e.legacy?.toList := by
  cases hears with
  | noted n => cases n <;> exact (List.append_nil _).symm
  | notified n => cases n <;> exact legacies_say ..
  | switched | replied | committed | signalled | posted => exact legacies_say ..
  | asked | turned | passed => exact (List.append_nil _).symm

theorem legacies_moveDesk {x : Scene} {i : Nat} {r : Run} (here : x.runs[i]? = some r)
    (q : Switching.Move) : (x.moveDesk i q).legacies =
      x.legacies ++ (Switching.Moment.mk r.desk q).effects.filterMap (·.legacy?) := by
  rw [moveDesk, here]
  exact filterMap_foldl_hear (fun x e => (x.hears i e).legacies) _ _

end Scene

/-- The switches that the vehicle is told of by a move and that nobody negotiated. -/
def Moment.legacies (m : Moment) : List (UserId × UserId) := m.effects.filterMap (·.legacy?)

theorem Moment.legacies_outcome (m : Moment) : m.outcome.legacies = m.legacies := by
  rw [Scene.legacies, m.said_outcome, List.filterMap_filter, legacies]
  congr 1
  funext e
  cases e <;> rfl

/-- When the worker of a desk reports a switch that nobody negotiated, nothing is tracked, and the
    news of the switch are the first in line. -/
theorem IsRun.first_of_legacy {h : History} {m : Moment} {j : Nat} {r : Run}
    {source target : UserId} (run : IsRun h m.before) (work : m.move = .act (.deskWork j))
    (here : m.before.runs[j]? = some r) (told : (source, target) ∈ m.legacies) :
    r.desk.tx = none ∧ r.desk.closed = false ∧
      ∃ rest, r.line [] = .switched source target :: rest := by
  obtain ⟨h', service⟩ := run.serves here
  have said : (source, target) ∈
      (Switching.Moment.mk r.desk (.work m.before.view)).effects.filterMap (·.legacy?) := by
    have moved : m.outcome = m.before.scene.moveDesk j (.work m.before.view) := by
      rw [Moment.outcome, work]
      exact scene_deskWork fun r there => (run.serves there).out_eq_nil
    have quiet : m.before.scene.legacies = [] := by
      rw [Scene.legacies, System.scene, run.out_eq_nil]
      rfl
    rwa [← m.legacies_outcome, moved, Scene.legacies_moveDesk (x := m.before.scene) here, quiet]
      at told
  obtain ⟨untracked, takes⟩ := Switching.tx_of_legacy service.run.out_eq_nil said
  -- A worker that has stopped takes nothing, so the desk is open.
  refine ⟨untracked, service.staffed.resolve_right fun stopped => ?_, ?_⟩
  · simp [Desk.takes, Desk.next?, stopped] at takes
  · rcases r.desk.work_cases m.before.view with ⟨c, rest, taken, queue, _⟩ | ⟨none, _⟩
    · obtain rfl : c = .switched source target := List.singleton_inj.1 (taken.symm.trans takes)
      exact ⟨_, by rw [Run.line, Desk.news, Desk.line, queue]; rfl⟩
    · cases none.symm.trans takes

namespace System

/-- The news on their way to the desk of run `j`. -/
def line (s : System) (j : Nat) : List Command := (s.runs[j]?.map (·.line [])).getD []

end System

/-- The news of the switch performed at the moment `n` are taken at the moment `m` by the worker of
    the published run `j`: since then, as many were taken as were in line before. -/
structure Moment.Reaches (n : Moment) (j : Nat) (since : History) (m : Moment) : Prop where
  published : n.before.published = some j
  work : m.move = .act (.deskWork j)
  turn : (since.flatMap (·.took j)).length = (n.before.line j).length

/-- If the worker reports a switch when it takes the news of one that was performed, it is that
    switch, and all that was taken since was in line before. The desk is open and tracks nothing. -/
theorem IsRun.reported {h₁ h₂ : History} {n m : Moment} {i j : Nat} {r : Run} {c : Commit}
    {source target : UserId} (run : IsRun (h₁ ++ n :: h₂) m.before) (performs : n.Performs i r c)
    (reaches : n.Reaches j h₂ m) (told : (source, target) ∈ m.legacies) :
    (source, target) = (n.before.sessions.current, c.target) ∧
      h₂.flatMap (·.took j) = n.before.line j ∧
      ∃ r', m.before.runs[j]? = some r' ∧ r'.desk.tx = none ∧ r'.desk.closed = false := by
  obtain ⟨before, proper⟩ := run.at_moment rfl
  have last : j + 1 = n.before.runs.length := before.orderly.last_of_published reaches.published
  obtain ⟨r₀, first⟩ : ∃ r₀, n.before.runs[j]? = some r₀ := ⟨_, List.getElem?_eq_getElem (by omega)⟩
  have own : n.before.line j = r₀.line [] := by
    rw [System.line, first]
    rfl
  obtain ⟨r₁, new, here₁, queues₁, accepted⟩ :=
    before.queues_performed proper performs reaches.published first
  obtain ⟨r₂, new', here₂, queues₂⟩ := run.queues_since here₁ queues₁.inLine
  obtain ⟨untracked, isOpen, rest, line⟩ := run.first_of_legacy reaches.work here₂ told
  have attached : r₀.bus.standing.Attached .desk :=
    before.attached_of_published reaches.published first rfl
  have all := (queues₁.trans queues₂).line attached isOpen
  rw [List.nil_append, show r₂.line [] = _ from line, ← own] at all
  rcases accepted with ⟨rfl, shut⟩ | ⟨more, rfl⟩
  · -- Nothing reaches a bus that is closed, so there is nothing to take.
    obtain ⟨_, rfl⟩ := queues₂.bus shut
    have length := congrArg List.length all
    rw [List.length_append, List.length_append, reaches.turn, List.length_cons] at length
    simp at length
  · obtain ⟨taken, next⟩ := List.append_inj all reaches.turn
    simp only [List.cons_append, List.cons.injEq, Command.switched.injEq] at next
    exact ⟨Prod.ext next.1.1 next.1.2, taken, r₂, here₂, untracked, isOpen⟩

/-- A run whose desk is in a commit is the published one, unless a stop has given up. -/
theorem IsRun.published_or_timedOut {h : History} {s : System} {i j : Nat} {r : Run} {c : Commit}
    (run : IsRun h s) (here : s.runs[i]? = some r) (doing : r.desk.worker = .committing c)
    (published : s.published = some j) : i = j ∨ ∃ n ∈ h, n.timesOut = true := by
  by_contra neither
  rw [not_or] at neither
  have patient (n : Moment) (mem : n ∈ h) : n.timesOut = false :=
    Bool.eq_false_iff.2 fun late => neither.2 ⟨n, mem, late⟩
  -- The published run is the last one, and the workers of earlier ones have stopped.
  have last : j + 1 = s.runs.length := run.orderly.last_of_published published
  have lt : i < s.runs.length := (List.getElem?_eq_some_iff.1 here).1
  have stopped := (run.vacant patient).earlier here (show i + 1 < s.runs.length by omega)
  cases doing.symm.trans stopped

/-- A switch that was negotiated and is reported as one that was not: between the switch and the
    report the desk has lost track of it, as it was superseded, or as the news that its target has
    unlocked, which were on their way already when it was performed, ended the transaction; unless
    it was performed for a run that had been given up. -/
theorem lost_track_of_legacy {h₁ h₂ h₃ : History} {s : System} {n m : Moment} {i j : Nat} {r : Run}
    {c : Commit} {source target : UserId} (run : IsRun (h₁ ++ n :: (h₂ ++ m :: h₃)) s)
    (few : (h₁ ++ n :: (h₂ ++ m :: h₃)).length < 2 ^ 64) (performs : n.Performs i r c)
    (negotiated : c.IsNegotiated) (reaches : n.Reaches j h₂ m)
    (told : (source, target) ∈ m.legacies) :
    (source, target) = (n.before.sessions.current, c.target) ∧
      ((∃ n' ∈ n :: h₂, n'.Supersedes i (c.number r.desk)) ∨
        .unlocked c.target ∈ n.before.line i ∨
        i ≠ j ∧ ∃ n' ∈ h₁, n'.timesOut = true) := by
  obtain ⟨before, _⟩ := run.at_moment rfl
  have split : h₁ ++ n :: (h₂ ++ m :: h₃) = (h₁ ++ n :: h₂) ++ m :: h₃ := by simp
  obtain ⟨meanwhile, _⟩ := run.at_moment split
  obtain ⟨own, taken, r', here', untracked, isOpen⟩ := meanwhile.reported performs reaches told
  refine ⟨own, ?_⟩
  by_cases same : i = j
  · subst same
    have few' : h₁.length < 2 ^ 64 := by
      rw [List.length_append] at few
      omega
    -- The desk holds the transaction after the switch, and tracks nothing when it reports.
    rcases before.holds_performed few' performs negotiated with ⟨t, holds, target, number⟩ | at_once
    · rcases meanwhile.fate_since holds here' isOpen with still | ⟨n', mem, other⟩ | unlocked
      · obtain ⟨d, here, holds, _⟩ := still
        obtain rfl : r'.desk = d :=
          Option.some.inj ((Scene.desks_getElem? (x := m.before.scene) here').symm.trans here)
        cases untracked.symm.trans holds.tracked
      · exact .inl ⟨n', List.mem_cons_of_mem n mem, number ▸ other⟩
      · exact .inr (.inl (taken ▸ target ▸ unlocked))
    · exact .inl ⟨n, List.mem_cons_self, at_once⟩
  · have late := before.published_or_timedOut performs.here performs.doing reaches.published
    exact .inr (.inr ⟨same, late.resolve_left same⟩)

namespace Overtaken

/-- Ann and Bob are users. -/
def world : Surroundings :=
  { roster := (Roster.fresh.put ⟨10, "Ann", "full.secondary", Flags.none, UserId.null, true⟩).put
      ⟨11, "Bob", "full.secondary", Flags.none, UserId.null, true⟩ }

/-- A switch to Ann is asked for, and the vehicle approves. -/
def approved : List Action :=
  startUp 1 ++ [.busStep 0, .perform {} (.switchUser 10 0), .launch 0 2,
    .answered 3 (.switch ⟨⟨"A"⟩, .approved, ""⟩) none, .deskWork 0]

/-- The approval. -/
def answer : Switching.Answer :=
  ⟨⟨10, ⟨""⟩, UserId.system, .awaitingCoordinator, 1⟩, ⟨⟨"A"⟩, .approved, ""⟩, none, 2⟩

/-- The switch to Ann is performed. -/
def switch : Moment := ⟨(acted world approved).2, .act (.commit 0)⟩

/-- A switch to Bob is asked for, and the vehicle refuses; only then the events of the switch to
    Ann are delivered. -/
def vetoed : List Action :=
  List.append [.perform {} (.switchUser 11 0), .launch 0 4,
      .answered 5 (.switch ⟨⟨""⟩, .vetoed, "no"⟩) none, .deskWork 0]
    (List.replicate 12 (.busStep 0))

/-- What happens after the switch to Ann. -/
def rest : History × System := played [] switch.after (vetoed.map .act)

/-- The desk takes the news of the switch to Ann. -/
def report : Moment := ⟨rest.2, .act (.deskWork 0)⟩

theorem isRun :
    IsRun ((acted world approved).1 ++ switch :: (rest.1 ++ report :: [])) report.after := by
  have first : IsRun ((acted world approved).1 ++ [switch]) switch.after :=
    (isRun_acted world (by decide)).step (Move.proper_of_offered rfl)
  have none : ∀ a ∈ vetoed, (Move.act a).offered? = none := by decide
  have second := first.play (Move.proper_of_acts none)
  rw [played_eq] at second
  have third : IsRun (((acted world approved).1 ++ [switch]) ++ rest.1 ++ [report]) report.after :=
    second.step (Move.proper_of_offered rfl)
  simpa using third

theorem few : ((acted world approved).1 ++ switch :: (rest.1 ++ report :: [])).length < 2 ^ 64 := by
  decide +kernel

theorem performs : ∃ r, switch.Performs 0 r (.answer answer) := by
  have some : switch.before.runs[0]?.any (·.desk.worker = .committing (.answer answer)) := by
    decide +kernel
  obtain ⟨r, here, doing⟩ := Option.any_eq_true _ _ |>.1 some
  exact ⟨r, rfl, here, of_decide_eq_true doing, by decide +kernel⟩

theorem reaches : switch.Reaches 0 rest.1 report :=
  ⟨by decide +kernel, rfl, by decide +kernel⟩

/-- Nothing was on its way when the switch was performed. -/
theorem nothing : switch.before.line 0 = [] := by decide +kernel

/-- The vehicle is told of the switch to Ann as if it did not know of it. -/
theorem told : (UserId.system, 10) ∈ report.legacies := by decide +kernel

end Overtaken

open Overtaken in
/-- The switch to Ann, which the vehicle has approved, is reported to it as one that nobody
    negotiated: it was superseded by that to Bob before its news were taken. -/
theorem legacy_of_overtaken : (UserId.system, 10) ∈ report.legacies ∧
    ∃ n ∈ switch :: rest.1, n.Supersedes 0 answer.tx.seq := by
  obtain ⟨r, performs⟩ := performs
  obtain ⟨_, superseded | unlocked | ⟨other, _⟩⟩ :=
    lost_track_of_legacy isRun few performs trivial reaches told
  · exact ⟨told, superseded⟩
  · rw [nothing] at unlocked
    exact absurd unlocked List.not_mem_nil
  · exact absurd rfl other

open Overtaken in
/-- So it is not true that no switch that was negotiated is reported as one that was not. -/
theorem told_of_negotiated : ¬∀ (h₁ h₂ h₃ : History) (s : System) (n m : Moment) (i j : Nat)
    (r : Run) (c : Commit), IsRun (h₁ ++ n :: (h₂ ++ m :: h₃)) s → s.capabilities.switch = true →
    n.Performs i r c → c.IsNegotiated → n.Reaches j h₂ m → m.legacies = [] := by
  intro never
  obtain ⟨r, performs⟩ := performs
  have able : report.after.capabilities.switch = true := by decide +kernel
  have none := never _ _ _ _ _ _ 0 0 r _ isRun able performs trivial reaches
  exact List.ne_nil_of_mem told none

end HeadUnit.Service
