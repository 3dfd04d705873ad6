import Mathlib.Algebra.Order.BigOperators.Group.List
import Mathlib.Algebra.Order.Group.Nat
import Mathlib.Data.List.Pairwise
import HeadUnit.Proofs.Service.Replies

/-!
# Trips of earlier runs

A stop does not wait for the trips to the vehicle: one may end after its run is over, while a later
run negotiates a switch of its own, even one that looks the same.

Every question that a desk has put to the vehicle is asked for one of its outstanding trips that
was launched, and no two for the same (`Scene.Paired`, `IsRun.paired`). A desk that has stopped
drops whatever answer comes in, so all that happens then is that the trip is forgotten and its
caller told (`stale_trip_isolated`).
-/

namespace HeadUnit.Switching

/-! ## Trips of a desk -/

namespace Standing

/-- The trips that the vehicle was asked about. -/
def asking (s : Standing) : List Outstanding := s.said.filterMap (·.negotiated?)

/-- What asks nothing of the vehicle. -/
theorem asking_say (s : Standing) {es : List Effect} (none : es.filterMap (·.negotiated?) = []) :
    (s.say es).asking = s.asking := by
  rw [asking, said_say, List.filterMap_append, none, List.append_nil, asking]

theorem filterMap_dismissals (v : View) (cs : List Command) :
    (Command.dismissals v cs).filterMap (·.negotiated?) = [] := by
  refine List.filterMap_eq_nil_iff.2 fun e mem => ?_
  obtain ⟨c, _, said⟩ := List.mem_flatMap.1 mem
  cases c with
  | unlocked | switched => cases said
  | _ =>
    cases List.mem_singleton.1 said
    rfl

theorem asking_post (s : Standing) (v : View) (cs : List Command) :
    (s.post v cs).asking = s.asking := by
  unfold post
  split
  · exact asking_say s (filterMap_dismissals v cs)
  · rfl

end Standing

/-- The trip that is launched. -/
def Move.launched? : Move → Option Ticket
  | launch k => some k
  | _ => none

/-- What a move makes of the outstanding trips: nothing, or one begins, or is launched, and the
    vehicle is asked about it, or one ends. -/
inductive Standing.Trips (q : Move) (s t : Standing) : Prop
  | kept (trips : t.trips = s.trips) (launching : t.launching = s.launching)
      (asking : t.asking = s.asking)
  | begun (o : Outstanding) (own : q.ticket? = some o.ticket) (trips : t.trips = o ::ₘ s.trips)
      (launching : t.launching = o ::ₘ s.launching) (asking : t.asking = s.asking)
  | launched (o : Outstanding) (own : q.launched? = some o.ticket) (trips : t.trips = s.trips)
      (launching : s.launching = o ::ₘ t.launching) (asking : t.asking = s.asking ++ [o])
  | ended (o : Outstanding) (own : q.ended? = some o.ticket) (trips : s.trips = o ::ₘ t.trips)
      (launching : t.launching = s.launching) (asking : t.asking = s.asking)

theorem Change.trips {d : Desk} {q : Move} {s : Standing} (change : Change d q s) :
    d.standing.Trips q s := by
  cases change with
  | direct | initiated | events =>
    exact .kept (Standing.post_trips ..) (Standing.post_launching ..) (Standing.asking_post ..)
  | installed tx new => exact .begun ⟨tx, _⟩ rfl rfl rfl rfl
  | launched o rest own launching =>
    exact .launched o (own ▸ rfl) rfl launching List.filterMap_append
  | tripEnded o rest own trips =>
    refine .ended o (own ▸ rfl) ?_ (Standing.post_launching ..) (Standing.asking_post ..)
    rw [Standing.post_trips, trips]
  | closed tx w down less before after =>
    exact .kept rfl rfl (Standing.asking_say _ (Standing.filterMap_dismissals ..))
  | started | noted | initiatedDone | marked | adjusted => exact .kept rfl rfl rfl
  | _ => exact .kept rfl rfl (Standing.asking_say _ rfl)

namespace Standing.Trips

variable {q : Move} {s t : Standing}

/-- The vehicle is asked about nothing but the trip that is launched. -/
theorem asking (trips : s.Trips q t) : t.asking = s.asking ∨ ∃ o, q.launched? = some o.ticket ∧
    t.trips = s.trips ∧ s.launching = o ::ₘ t.launching ∧ t.asking = s.asking ++ [o] := by
  cases trips with
  | kept _ _ asking | begun _ _ _ _ asking | ended _ _ _ _ asking => exact .inl asking
  | launched o own trips launching asking => exact .inr ⟨o, own, trips, launching, asking⟩

/-- Trips that are to be launched stay outstanding, if none of them ends. -/
theorem launching_le (trips : s.Trips q t) (less : s.launching ≤ s.trips)
    (ends : ∀ k, q.ended? = some k → ∀ o ∈ s.launching, o.ticket ≠ k) : t.launching ≤ t.trips := by
  cases trips with
  | kept trips launching => exact launching.le.trans (less.trans trips.ge)
  | begun o own trips launching =>
    exact launching.le.trans ((Multiset.cons_le_cons o less).trans trips.ge)
  | launched o own trips launching =>
    refine le_trans ?_ (less.trans trips.ge)
    rw [launching]
    exact Multiset.le_cons_self ..
  | ended o own trips launching =>
    rw [trips] at less
    exact launching.le.trans ((Multiset.le_cons_of_notMem fun mem => ends _ own o mem rfl).1 less)

end Standing.Trips

end HeadUnit.Switching

namespace HeadUnit.Service

open Switching (Desk)
open HeadUnit.Service.System

/-! ## Questions and trips -/

/-- A trip with the ticket `k` is outstanding. -/
def IsOut (d : Desk) (k : Nat) : Prop := ∃ o ∈ d.standing.trips, o.ticket = k

/-- So it is, and it was launched. -/
def IsAsked (d : Desk) (k : Nat) : Prop := IsOut d k ∧ ∀ o ∈ d.standing.launching, o.ticket ≠ k

/-- A trip that is outstanding still, and not launched anew. -/
theorem IsAsked.of_same {d d' : Desk} {k : Nat} (asked : IsAsked d k)
    (trips : d'.standing.trips = d.standing.trips)
    (launching : d'.standing.launching = d.standing.launching) : IsAsked d' k := by
  rw [IsAsked, IsOut, trips, launching]
  exact asked

/-- A trip stays so until it ends, as the ticket of a trip that begins is a new one. -/
theorem IsAsked.stays {d : Desk} {q : Switching.Move} {k : Nat} (asked : IsAsked d k)
    (trips : d.standing.Trips q (d.move q).standing) (begins : ∀ k, q.ticket? = some k → ¬IsOut d k)
    (still : q.ended? ≠ some k) : IsAsked (Switching.Moment.mk d q).after k := by
  have before := asked
  obtain ⟨⟨o', mem, own'⟩, launched⟩ := asked
  cases trips with
  | kept trips launching => exact before.of_same trips launching
  | begun o own trips launching =>
    refine ⟨⟨o', trips ▸ Multiset.mem_cons_of_mem mem, own'⟩, fun l mem' same => ?_⟩
    have mem' : l ∈ o ::ₘ d.standing.launching := launching ▸ mem'
    rcases Multiset.mem_cons.1 mem' with rfl | old
    · exact begins k (same ▸ own) ⟨o', mem, own'⟩
    · exact launched l old same
  | launched o own trips launching =>
    refine ⟨⟨o', trips ▸ mem, own'⟩, fun l mem' => launched l ?_⟩
    exact launching ▸ Multiset.mem_cons_of_mem mem'
  | ended o own trips launching =>
    rw [trips] at mem
    refine ⟨⟨o', (Multiset.mem_cons.1 mem).resolve_left fun same => still ?_, own'⟩, ?_⟩
    · rw [own, ← same, own']
    · exact fun l mem' => launched l (launching ▸ mem')

/-- The trip that is launched becomes so, as no other one that is to be launched has its ticket. -/
theorem isAsked_launched {d : Desk} {q : Switching.Move} {o : Switching.Outstanding}
    (trips : (d.move q).standing.trips = d.standing.trips)
    (launching : d.standing.launching = o ::ₘ (d.move q).standing.launching)
    (less : d.standing.launching ≤ d.standing.trips) (distinct : (d.trips.map (·.ticket)).Nodup) :
    IsAsked (Switching.Moment.mk d q).after o.ticket := by
  have first : o ∈ d.standing.launching := launching ▸ Multiset.mem_cons_self ..
  refine ⟨⟨o, trips ▸ Multiset.mem_of_le less first, rfl⟩, fun l mem same => ?_⟩
  have tickets : (d.standing.launching.map (·.ticket)).Nodup :=
    Multiset.nodup_of_le (Multiset.map_le_map less) (Multiset.coe_nodup.2 distinct)
  rw [launching, Multiset.map_cons, Multiset.nodup_cons] at tickets
  exact tickets.1 (same ▸ Multiset.mem_map_of_mem _ mem)

/-- Two questions that are not asked for the same trip. -/
def Apart (a b : Nat × Owner) : Prop := ∀ i k, a.2 = .desk i k → b.2 ≠ .desk i k

instance : Std.Symm Apart := ⟨fun _ _ apart i k own other => apart i k other own⟩

namespace Scene

/-- Every question of a desk is asked for an outstanding trip that was launched, and no two for
    the same. -/
structure Paired (x : Scene) : Prop where
  silent : ∀ d ∈ x.desks, d.standing.asking = []
  launching : ∀ d ∈ x.desks, d.standing.launching ≤ d.standing.trips
  outstanding : ∀ a ∈ x.asks, ∀ i k, a.2 = .desk i k → ∃ d, x.desks[i]? = some d ∧ IsAsked d k
  apart : x.asks.Pairwise Apart

/-- One thing that a desk asked for is handed on: the vehicle is asked if a trip is launched. -/
theorem Hears.asks {x y : Scene} {i : Nat} {e : Switching.Effect} (hears : x.Hears i e y) :
    ∃ new, y.asks = x.asks ++ new ∧
      new.map (·.2) = e.negotiated?.toList.map fun o => Owner.desk i o.ticket := by
  cases hears with
  | noted n => cases n <;> exact ⟨[], (List.append_nil _).symm, rfl⟩
  | asked o request timeout => exact ⟨[(x.nextId, .desk i o.ticket)], rfl, rfl⟩
  | _ => exact ⟨[], (List.append_nil _).symm, rfl⟩

/-- What a desk asked for is handed on: the vehicle is asked about the trips that are launched. -/
theorem asks_foldl_hear (x : Scene) (i : Nat) (es : List Switching.Effect) :
    ∃ new, (es.foldl (hear i) x).asks = x.asks ++ new ∧
      new.map (·.2) = (es.filterMap (·.negotiated?)).map fun o => Owner.desk i o.ticket := by
  induction es generalizing x with
  | nil => exact ⟨[], (List.append_nil _).symm, rfl⟩
  | cons e es ih =>
    obtain ⟨first, asks, owners⟩ := (x.hears i e).asks
    obtain ⟨rest, asks', owners'⟩ := ih (x.hear i e)
    refine ⟨first ++ rest, by rw [List.foldl_cons, asks', asks, List.append_assoc], ?_⟩
    rw [List.map_append, owners, owners', ← List.map_append]
    cases h : e.negotiated? <;> simp [h]

namespace Paired

variable {x y : Scene}

/-- Questions and desks stay as they are. -/
theorem of_same (paired : x.Paired) (asks : y.asks = x.asks) (desks : y.desks = x.desks) :
    y.Paired where
  silent := desks ▸ paired.silent
  launching := desks ▸ paired.launching
  outstanding := by
    rw [asks, desks]
    exact paired.outstanding
  apart := asks ▸ paired.apart

theorem aside (paired : x.Paired) (aside : x.Aside y) : y.Paired := by
  obtain ⟨_, _, _, rfl⟩ := aside
  exact paired.of_same rfl rfl

/-- A call asks the vehicle. -/
theorem ask_call (paired : x.Paired) (id : Nat) : (x.ask (.call id)).Paired where
  silent := paired.silent
  launching := paired.launching
  outstanding a mem i k own := by
    rcases List.mem_append.1 mem with old | new
    · exact paired.outstanding a old i k own
    · cases List.mem_singleton.1 new
      cases own
  apart := by
    refine List.pairwise_append.2 ⟨paired.apart, List.pairwise_singleton .., fun a _ b mem => ?_⟩
    cases List.mem_singleton.1 mem
    exact fun i k _ => nofun

/-- Some questions are not asked any more. -/
theorem filter_asks (paired : x.Paired) (p : Nat × Owner → Bool) :
    ({ x with asks := x.asks.filter p } : Scene).Paired where
  silent := paired.silent
  launching := paired.launching
  outstanding a mem := paired.outstanding a (List.mem_filter.1 mem).1
  apart := paired.apart.filter p

/-- One desk changes: what is asked for its trips afterwards is outstanding. -/
theorem set (paired : x.Paired) {i : Nat} {d d' : Desk} (here : x.desks[i]? = some d)
    (desks : y.desks = x.desks.set i d') (silent : d'.standing.asking = [])
    (launching : d'.standing.launching ≤ d'.standing.trips)
    (outstanding : ∀ a ∈ y.asks, ∀ j k, a.2 = .desk j k →
      j ≠ i ∧ a ∈ x.asks ∨ j = i ∧ IsAsked d' k)
    (apart : y.asks.Pairwise Apart) : y.Paired where
  silent e mem := by
    rw [desks] at mem
    rcases List.mem_or_eq_of_mem_set mem with old | rfl
    · exact paired.silent e old
    · exact silent
  launching e mem := by
    rw [desks] at mem
    rcases List.mem_or_eq_of_mem_set mem with old | rfl
    · exact paired.launching e old
    · exact launching
  outstanding a mem j k own := by
    rw [desks]
    rcases outstanding a mem j k own with ⟨other, old⟩ | ⟨rfl, out⟩
    · obtain ⟨e, there, out⟩ := paired.outstanding a old j k own
      exact ⟨e, by rwa [List.getElem?_set_ne other.symm], out⟩
    · refine ⟨d', ?_, out⟩
      rw [List.getElem?_set_self (List.getElem?_eq_some_iff.1 here).1]
  apart := apart

/-- A desk makes a move: a trip that begins is a new one, and one that ends was launched, and
    nothing is asked for it any more. -/
theorem moveDesk (paired : x.Paired) (i : Nat) {q : Switching.Move} (unclosed : ∀ v, q ≠ .close v)
    (distinct : q.ended? ≠ none ∨ q.launched? ≠ none → ∀ r, x.runs[i]? = some r →
      (r.desk.trips.map (·.ticket)).Nodup)
    (begins : ∀ k d, q.ticket? = some k → x.desks[i]? = some d → ¬IsOut d k)
    (ends : ∀ k, q.ended? = some k → (∀ d, x.desks[i]? = some d → IsAsked d k) ∧
      ∀ a ∈ x.asks, a.2 ≠ .desk i k) : (x.moveDesk i q).Paired := by
  cases here : x.runs[i]? with
  | none =>
    rw [Scene.moveDesk, here]
    exact paired
  | some r =>
    have there := desks_getElem? here
    have silent := paired.silent r.desk (List.mem_of_getElem? there)
    have change : r.desk.standing.Trips q (r.desk.move q).standing := by
      rcases r.desk.change_or_same unclosed fun past => distinct (.inl past) r here
        with change | ⟨same, _⟩
      · exact change.trips
      · rw [same]
        exact .kept rfl rfl rfl
    have less := paired.launching r.desk (List.mem_of_getElem? there)
    have less' := change.launching_le less fun k past => ((ends k past).1 r.desk there).2
    obtain ⟨new, asks, owners⟩ := asks_foldl_hear (x.onRun i fun s =>
      { s with desk := (Switching.Moment.mk r.desk q).after }) i (Switching.Moment.mk r.desk q).effects
    have moved : (x.moveDesk i q).asks = x.asks ++ new := by
      rw [Scene.moveDesk, here]
      exact asks
    rw [(Switching.Moment.mk r.desk q).negotiated_eq] at owners
    -- What was asked before, for a trip of this desk or of another.
    have old (a : Nat × Owner) (mem : a ∈ x.asks) (j k : Nat) (own : a.2 = .desk j k) :
        j ≠ i ∧ a ∈ x.asks ∨ j = i ∧ IsAsked (Switching.Moment.mk r.desk q).after k := by
      by_cases same : j = i
      · subst same
        obtain ⟨d, here', asked⟩ := paired.outstanding a mem j k own
        obtain rfl := Option.some.inj (there.symm.trans here')
        exact .inr ⟨rfl, asked.stays change (fun k own => begins k r.desk own there) fun past =>
          (ends k past).2 a mem own⟩
      · exact .inl ⟨same, mem⟩
    rcases change.asking with asking | ⟨o, own, trips, launching, asking⟩
    · -- The vehicle is asked about nothing.
      have none : new.map (·.2) = [] := by
        rw [owners, show (Switching.Moment.mk r.desk q).outcome.said.filterMap (·.negotiated?) = []
          from asking.trans silent]
        rfl
      have same : (x.moveDesk i q).asks = x.asks := by
        rw [moved, List.map_eq_nil_iff.1 none, List.append_nil]
      exact paired.set there (desks_moveDesk here q) rfl less' (by rwa [same]) (same ▸ paired.apart)
    · have first : o ∈ r.desk.standing.launching := launching ▸ Multiset.mem_cons_self ..
      have distinct := distinct (.inr fun none => by cases none.symm.trans own) r here
      have one : new.map (·.2) = [.desk i o.ticket] := by
        rw [owners, show (Switching.Moment.mk r.desk q).outcome.said.filterMap (·.negotiated?) = [o]
          from asking.trans (by rw [silent, List.nil_append])]
        rfl
      obtain ⟨b, rfl⟩ : ∃ b, new = [b] :=
        List.length_eq_one_iff.1 (by simpa using congrArg List.length one)
      have asked : b.2 = .desk i o.ticket := List.head_eq_of_cons_eq one
      refine paired.set there (desks_moveDesk here q) rfl less' (fun a mem j k own' => ?_) ?_
      · rw [moved] at mem
        rcases List.mem_append.1 mem with before | now
        · exact old a before j k own'
        · obtain rfl := List.mem_singleton.1 now
          cases own'.symm.trans asked
          exact .inr ⟨rfl, isAsked_launched trips launching less distinct⟩
      · rw [moved]
        refine List.pairwise_append.2 ⟨paired.apart, List.pairwise_singleton .., ?_⟩
        -- Nothing was asked for the trip before it was launched.
        intro a before b' mem j k own' other
        obtain rfl := List.mem_singleton.1 mem
        cases other.symm.trans asked
        obtain ⟨d, here', _, launched⟩ := paired.outstanding a before i o.ticket own'
        obtain rfl := Option.some.inj (there.symm.trans here')
        exact launched o first rfl

/-- A desk makes a move that neither begins nor launches nor ends a trip. -/
theorem moveDesk_quiet (paired : x.Paired) (i : Nat) {q : Switching.Move}
    (unclosed : ∀ v, q ≠ .close v) (unended : q.ended? = none) (unasked : q.ticket? = none)
    (unlaunched : q.launched? = none) : (x.moveDesk i q).Paired :=
  paired.moveDesk i unclosed (fun some => absurd unlaunched (some.resolve_left (absurd unended)))
    (fun _ _ own => nomatch unasked.symm.trans own) fun _ own => nomatch unended.symm.trans own

theorem setting (paired : x.Paired) (i : Nat) {q : Switching.Move} (setting : IsSetting q) :
    (x.onRun i fun r => { r with desk := r.desk.move q }).Paired := by
  obtain ⟨unclosed, unended, unasked⟩ := setting_spec setting
  have unlaunched : q.launched? = none := by
    cases q <;> first | rfl | exact setting.elim
  have desks : (x.onRun i fun r => { r with desk := r.desk.move q }).desks =
      x.desks.modify i (·.move q) := map_modify (fun _ => by rfl) x.runs i
  rw [List.modify_eq_set_getElem?] at desks
  cases here : x.desks[i]? with
  | none =>
    rw [here] at desks
    exact paired.of_same rfl desks
  | some d =>
    rw [here] at desks
    obtain ⟨trips, launching, asking⟩ : (d.move q).standing.trips = d.standing.trips ∧
        (d.move q).standing.launching = d.standing.launching ∧
        (d.move q).standing.asking = d.standing.asking := by
      rcases d.change_or_same unclosed fun past => absurd unended past with change | ⟨same, _⟩
      · cases change.trips with
        | kept trips launching asking => exact ⟨trips, launching, asking⟩
        | begun o own => exact nomatch unasked.symm.trans own
        | launched o own => exact nomatch unlaunched.symm.trans own
        | ended o own => exact nomatch unended.symm.trans own
      · rw [same]
        exact ⟨rfl, rfl, rfl⟩
    have silent := paired.silent d (List.mem_of_getElem? here)
    have less := paired.launching d (List.mem_of_getElem? here)
    refine paired.set here desks (asking.trans silent) (launching.le.trans (less.trans trips.ge))
      (fun a mem j k own => ?_) paired.apart
    by_cases same : j = i
    · subst same
      obtain ⟨d', here', asked⟩ := paired.outstanding a mem j k own
      obtain rfl := Option.some.inj (here.symm.trans here')
      exact .inr ⟨rfl, asked.of_same trips launching⟩
    · exact .inl ⟨same, mem⟩

/-- A desk that has nothing outstanding is put behind the others. -/
theorem append (paired : x.Paired) {d : Desk} (asks : y.asks = x.asks)
    (desks : y.desks = x.desks ++ [d]) (silent : d.standing.asking = [])
    (none : d.standing.launching = 0) : y.Paired where
  silent e mem := by
    rw [desks] at mem
    rcases List.mem_append.1 mem with old | new
    · exact paired.silent e old
    · exact List.mem_singleton.1 new ▸ silent
  launching e mem := by
    rw [desks] at mem
    rcases List.mem_append.1 mem with old | new
    · exact paired.launching e old
    · rw [List.mem_singleton.1 new, none]
      exact Multiset.zero_le _
  outstanding a mem i k own := by
    obtain ⟨e, there, out⟩ := paired.outstanding a (asks ▸ mem) i k own
    refine ⟨e, ?_, out⟩
    rw [desks, List.getElem?_append_left (List.getElem?_eq_some_iff.1 there).1, there]
  apart := asks ▸ paired.apart

end Paired

/-! ### Steps -/

theorem Step.paired {p p' : Scene × (Nat → Hand)} (step : Step p p') (paired : p.1.Paired) :
    p'.1.Paired := by
  cases step with
  | asked x hand id => exact paired.ask_call id
  | answered x hand id c found => exact paired.filter_asks _
  | told | ended => exact paired.of_same rfl rfl
  | bus x hand i m outer => exact paired.of_same rfl (desks_onRun i fun _ => rfl)
  | worked x i r here => exact paired.of_same rfl (desks_onRun i fun _ => rfl)
  | taken x i r here => exact paired.of_same rfl (desks_onRun i fun _ => rfl)
  | died x hand h => exact paired.of_same rfl (List.map_map ..)
  | noted x i n es => cases n <;> exact paired.of_same rfl rfl
  | found x hand i u => exact paired.of_same rfl (desks_onRun i fun _ => rfl)
  | passed => exact paired
  | called x i v event es => exact paired.moveDesk_quiet i nofun rfl rfl rfl
  | setting x hand i q setting => exact paired.setting i setting

theorem Steps.paired {p p' : Scene × (Nat → Hand)} (steps : Steps p p') (paired : p.1.Paired) :
    p'.1.Paired := by
  induction steps with
  | refl => exact paired
  | tail _ step ih => exact step.paired ih

end Scene

/-! ### Moves -/

theorem Scene.asks_prepare (x : Scene) (id k : Nat) : (x.prepare id k).asks = x.asks := by
  unfold prepare
  split <;> rfl

/-- A run as it is made has asked for nothing. -/
theorem Run.IsNew.asking_eq {r : Run} {group : Option Nat} (new : r.IsNew group) :
    r.desk.standing.asking = [] ∧ r.desk.standing.launching = 0 := by
  obtain ⟨timeout, headless, desk⟩ := new.desk
  have unasked : IsUnasked r.desk.standing := desk ▸ .fresh timeout headless
  have serves : Serves 0 0 [] r.desk := desk ▸ .fresh timeout headless
  obtain ⟨_, service⟩ := serves
  refine ⟨?_, unasked.launching⟩
  rw [Switching.Standing.asking, service.run.said_eq_nil]
  rfl

theorem Steering.paired {x y : Scene} {m : Move} (steering : Steering x m y)
    (numbered : x.Numbered) (paired : x.Paired) : y.Paired := by
  cases steering with
  | idle => exact paired
  | queued begins | refused begins | begun begins | stopped begins =>
    obtain ⟨_, _, _, n, cs, rfl⟩ := begins.enters numbered
    exact paired.of_same rfl rfl
  | built move tasks new =>
    obtain ⟨silent, none⟩ := new.asking_eq
    exact paired.append rfl List.map_append silent none
  | published | prepared =>
    exact paired.of_same (Scene.asks_prepare ..)
      (congrArg (List.map Run.desk) (Scene.runs_prepare ..))
  | advanced | broken | accepted | rejected | failed | aborted | halted | expired | shut | finished
  | orphaned => exact paired.of_same rfl rfl
  | busReaped | deskReaped => exact paired.of_same rfl (Scene.desks_onRun _ fun _ => rfl)

theorem Happening.paired {s : System} {m : Move} {y : Scene} (happening : Happening s m y)
    (wired : s.sink = .service) (numbered : s.scene.Numbered)
    (distinct : ∀ {i : Nat} {r : Run}, s.runs[i]? = some r → (r.desk.trips.map (·.ticket)).Nodup)
    (new : ∀ d ∈ s.scene.desks, ¬IsOut d s.nextId) (paired : s.scene.Paired) : y.Paired := by
  cases happening with
  | behind steps => exact Scene.Steps.paired steps paired
  | performed opens steps closes =>
    exact (Scene.Steps.paired steps (paired.aside opens.aside)).aside closes.aside
  | @asked i q x z published asks sees opens left =>
    obtain ⟨unclosed, unended, own⟩ := asks_spec asks
    have unlaunched : q.launched? = none := by
      cases q <;> first | rfl | exact asks.elim
    refine ((paired.aside opens.aside).moveDesk i unclosed
      (fun some => absurd unlaunched (some.resolve_left (absurd unended)))
      (fun k d asked here => ?_) fun k past => nomatch unended.symm.trans past).aside left.aside
    obtain ⟨_, _, _, rfl⟩ := opens.aside
    rw [own k asked]
    exact new d (List.mem_of_getElem? here)
  | left left => exact paired.aside left.aside
  | worked move | stopped move | marked move => exact paired.moveDesk_quiet _ nofun rfl rfl rfl
  | launched move =>
    exact paired.moveDesk _ nofun (fun _ r here => distinct here) (fun _ _ none => nomatch none)
      fun _ none => nomatch none
  | bounded => exact paired.of_same rfl rfl
  | @tripEnded id i v k response fault ends found =>
    refine (paired.filter_asks (·.1 != id)).moveDesk i nofun (fun _ r here => distinct here)
      (fun _ _ none => nomatch none) fun k' past => ?_
    obtain rfl := Option.some.inj past
    have asked := List.mem_of_find?_eq_some found
    refine ⟨fun d there => ?_, fun a mem own => ?_⟩
    · obtain ⟨d', there', launched⟩ := paired.outstanding _ asked i k rfl
      obtain rfl := Option.some.inj (there.symm.trans there')
      exact launched
    -- No other question was asked for the trip.
    obtain ⟨there, other⟩ := List.mem_filter.1 mem
    have ne : (id, Owner.desk i k) ≠ a := by
      rintro rfl
      simp at other
    exact paired.apart.forall asked there ne i k rfl own
  | @committed i r c t fault move here doing switched =>
    have leads := leads_onSessions s wired .worker (s.sessions.switchTo c.target s.millis)
    rw [switched] at leads
    exact (Scene.Steps.paired leads paired).moveDesk_quiet i nofun rfl rfl rfl
  | steered steering => exact steering.paired numbered paired
  | wired move tasks steps steering =>
    exact steering.paired (Scene.Steps.keeps steps numbered).numbered
      (Scene.Steps.paired steps paired)

/-! ## Runs -/

/-- An outstanding trip owes an answer. -/
theorem Scene.one_le_owed {x : Scene} {i k : Nat} {d : Desk} (here : x.desks[i]? = some d)
    (out : IsOut d k) : 1 ≤ x.owed k := by
  obtain ⟨o, mem, own⟩ := out
  have one : 1 ≤ d.standing.tally k := by
    have counted : 0 < d.standing.trips.countP (·.ticket = k) := Multiset.countP_pos.2 ⟨o, mem, own⟩
    rw [Switching.Standing.tally, Switching.Standing.carried]
    omega
  refine one.trans (List.le_sum_of_mem ?_)
  exact List.mem_map.2 ⟨d, List.mem_of_getElem? here, rfl⟩

/-- In every state of a run, the questions of the desks are asked for their outstanding trips. -/
theorem IsRun.paired {h : History} {s : System} (run : IsRun h s) : s.scene.Paired := by
  induction run with
  | new made w =>
    rw [eq_fresh_of_new made]
    exact ⟨fun _ mem => absurd mem List.not_mem_nil, fun _ mem => absurd mem List.not_mem_nil,
      fun _ mem => absurd mem List.not_mem_nil, .nil⟩
  | @step h s m run proper ih =>
    refine ((run.happening proper).paired run.sink run.orderly.numbered run.nodup_trips
      (fun d mem out => ?_) ih).of_same rfl rfl
    -- The number is not given out yet.
    obtain ⟨i, here⟩ := List.getElem?_of_mem mem
    have bound := run.owed_le s.nextId
    rw [if_neg (Nat.lt_irrefl _)] at bound
    have owed := Scene.one_le_owed here out
    omega

end HeadUnit.Service

/-! ## A trip ends after its desk has stopped -/

namespace HeadUnit.Switching

/-- What a request gets whose desk has stopped. -/
def droppedResult : SwitchResult := ⟨.coordinatorInternalFailure, stoppedMessage⟩

/-- A desk that is shut down drops the answer, tells the caller and forgets the trip. -/
theorem Desk.take_tripEnded {d : Desk} (closed : d.closed = true) (silent : d.out = []) {k : Ticket}
    (out : ∃ o ∈ d.trips, o.ticket = k) (v : View) (response : Vehicle.SwitchResponse)
    (fault : Option Fault) : ∃ n n' : Note, n.isPlain = true ∧ n'.isPlain = true ∧
      (d.tripEnded v k response fault).take =
        ([.note n, .note n', .reply k droppedResult, .admitted .trip],
          { d with trips := d.trips.filter (·.ticket != k) }) := by
  obtain ⟨o, found⟩ : ∃ o, d.trips.find? (·.ticket == k) = some o := by
    obtain ⟨o, mem, own⟩ := out
    exact Option.isSome_iff_exists.1 (List.find?_isSome.2 ⟨o, mem, beq_iff_eq.2 own⟩)
  refine ⟨.count (.switchResult .coordinatorInternalFailure), Note.debug "switch resolved"
    [Log.int "target" o.tx.target, Log.str "status" SwitchStatus.coordinatorInternalFailure.text,
      Log.str "message" stoppedMessage], rfl, rfl, ?_⟩
  simp [tripEnded, found, post, closed, refuse, resolve, emit, take, silent, droppedResult]

end HeadUnit.Switching

namespace HeadUnit.Service

open Switching (Desk)
open HeadUnit.Service.System

namespace System

/-- From `s` to `t` something is noted and asked for that nobody hears. -/
def Mumbles (s t : System) : Prop :=
  ∃ metrics quiet, t = { s with metrics := metrics, out := s.out ++ quiet } ∧
    metrics.inFlight = s.metrics.inFlight ∧ ∀ e ∈ quiet, e.isLoud = false

namespace Mumbles

variable {s t u : System}

theorem refl (s : System) : Mumbles s s :=
  ⟨s.metrics, [], by simp, rfl, fun _ mem => absurd mem List.not_mem_nil⟩

theorem trans (one : Mumbles s t) (other : Mumbles t u) : Mumbles s u := by
  obtain ⟨metrics, quiet, rfl, gauge, silent⟩ := one
  obtain ⟨metrics', quiet', rfl, gauge', silent'⟩ := other
  refine ⟨metrics', quiet ++ quiet', by simp, gauge'.trans gauge, fun e mem => ?_⟩
  exact (List.mem_append.1 mem).elim (silent e) (silent' e)

theorem emit (s : System) {e : Effect} (quiet : e.isLoud = false) : Mumbles s (s.emit e) :=
  ⟨s.metrics, [e], rfl, rfl, fun _ mem => List.mem_singleton.1 mem ▸ quiet⟩

theorem note (s : System) {n : Note} (plain : n.isPlain = true) : Mumbles s (s.note n) := by
  refine ⟨s.metrics.record n, [.note n], rfl, ?_, fun _ mem => List.mem_singleton.1 mem ▸ rfl⟩
  cases n with
  | inFlight b => cases plain
  | _ => rfl

theorem lenient : Lenient (·.isPlain = true) (·.isLoud = false) Mumbles where
  refl := refl
  trans := trans
  noted s _ := note s
  said s _ := emit s

end Mumbles

/-- The trip `k` of the run `r` is forgotten. -/
def forget (s : System) (i : Nat) (r : Run) (k : Nat) : System :=
  let desk : Desk := { r.desk with trips := r.desk.trips.filter (·.ticket != k) }
  { s with runs := s.runs.set i { r with desk := desk } }

theorem Mumbles.forget {s t : System} (mumbles : Mumbles s t) (i : Nat) (r : Run) (k : Nat) :
    Mumbles (s.forget i r k) (t.forget i r k) := by
  obtain ⟨metrics, quiet, rfl, gauge, silent⟩ := mumbles
  exact ⟨metrics, quiet, rfl, gauge, silent⟩

/-- A trip ends after its desk has stopped: it is forgotten, and its caller is told. -/
theorem onDesk_tripEnded {s : System} {i k : Nat} {r : Run} (here : s.runs[i]? = some r)
    (closed : r.desk.closed = true) (silent : r.desk.out = []) (out : ∃ o ∈ r.desk.trips, o.ticket = k)
    (v : Switching.View) (response : Vehicle.SwitchResponse) (fault : Option Fault) :
    ∃ t calls e, Mumbles (s.forget i r k) t ∧
      s.onDesk i (·.tripEnded v k response fault) = { t with calls := calls }.emit e ∧
      (calls = s.calls ∨ calls = s.calls.filter (·.id != k)) ∧
      e.answer? = some (k, Switching.droppedResult) := by
  obtain ⟨n, n', plain, plain', taken⟩ := Desk.take_tripEnded closed silent out v response fault
  have forgotten : (s.onRun i fun r' => { r' with
      desk := { r.desk with trips := r.desk.trips.filter (·.ticket != k) } }) = s.forget i r k := by
    simp only [onRun, System.forget, List.modify_eq_set_getElem?, here]
    rfl
  have mumbles := (Mumbles.note (s.forget i r k) plain).trans (Mumbles.note _ plain')
  refine ⟨((s.forget i r k).note n).note n', ?_⟩
  have handed : s.onDesk i (·.tripEnded v k response fault) =
      fromDesk i (((s.forget i r k).note n).note n') (.reply k Switching.droppedResult) := by
    simp only [onDesk, here, taken, forgotten, List.foldl_cons, List.foldl_nil]
    rfl
  rw [handed]
  dsimp only [fromDesk]
  split
  · exact ⟨s.calls.filter (·.id != k), _, mumbles, rfl, .inr rfl, rfl⟩
  · exact ⟨s.calls, _, mumbles, rfl, .inl rfl, rfl⟩

/-- However the wait for the answer ends, the trip is forgotten, and its caller is told. -/
theorem askEnded_of_stopped {s : System} {id i k : Nat} {a : Ask} {r : Run}
    (found : s.asks.find? (·.id == id) = some a) (own : a.owner = .desk i k)
    (here : s.runs[i]? = some r) (closed : r.desk.closed = true) (silent : r.desk.out = [])
    (out : ∃ o ∈ r.desk.trips, o.ticket = k) (ending : Trip.Ending Vehicle.Response) :
    ∃ t calls e, Mumbles ({ s with asks := s.asks.filter (·.id != id) }.forget i r k) t ∧
      s.askEnded id ending = { t with calls := calls }.emit e ∧
      (calls = s.calls ∨ calls = s.calls.filter (·.id != k)) ∧
      e.answer? = some (k, Switching.droppedResult) := by
  -- What is noted and abandoned before the desk hears of it.
  have told {t : System} (mumbles : Mumbles { s with asks := s.asks.filter (·.id != id) } t)
      (v : Switching.View) (response : Vehicle.SwitchResponse) (fault : Option Fault) :
      ∃ u calls e, Mumbles ({ s with asks := s.asks.filter (·.id != id) }.forget i r k) u ∧
        t.onDesk i (·.tripEnded v k response fault) = { u with calls := calls }.emit e ∧
        (calls = s.calls ∨ calls = s.calls.filter (·.id != k)) ∧
        e.answer? = some (k, Switching.droppedResult) := by
    have before := mumbles.forget i r k
    obtain ⟨metrics, quiet, rfl, _⟩ := mumbles
    obtain ⟨u, calls, e, after, done, left, answer⟩ := onDesk_tripEnded (s := { s with
      asks := s.asks.filter (·.id != id), metrics := metrics, out := s.out ++ quiet })
      here closed silent out v response fault
    exact ⟨u, calls, e, before.trans after, done, left, answer⟩
  obtain rfl : a.id = id := by simpa using List.find?_some found
  rw [askEnded_eq found, own]
  exact told (Mumbles.lenient.dropAsk s a ending (fun _ _ _ => rfl) rfl) ..

/-- What a move does by which the wait for an answer ends. -/
theorem move_of_ends {s : System} {m : Move} {id : Nat} (ends : m.ends? = some id) :
    ∃ ending, s.move m = s.askEnded id ending := by
  unfold Move.ends? at ends
  split at ends
  · obtain rfl := Option.some.inj ends
    exact ⟨.answered _ _, rfl⟩
  · obtain rfl := Option.some.inj ends
    exact ⟨.expired, rfl⟩
  · obtain rfl := Option.some.inj ends
    exact ⟨.canceled, rfl⟩
  · cases ends

end System

/-- Nobody leaves when an answer comes in. -/
theorem Move.not_leaves_of_ends {s : System} {m : Move} {id k : Nat} (ends : m.ends? = some id) :
    ¬m.Leaves s k := by
  rintro (⟨f, rfl⟩ | ⟨ctx, op, f, rfl, _⟩) <;> cases ends

namespace IsRun

variable {h : History} {s : System}

/-- The trip that the vehicle was asked about is outstanding. -/
theorem out_of_found (run : IsRun h s) {id i k : Nat} {a : Ask}
    (found : s.asks.find? (·.id == id) = some a) (own : a.owner = .desk i k) :
    ∃ r, s.runs[i]? = some r ∧ IsOut r.desk k := by
  have mem : (a.id, a.owner) ∈ s.scene.asks :=
    List.mem_map.2 ⟨a, List.mem_of_find?_eq_some found, rfl⟩
  obtain ⟨d, there, out⟩ := run.paired.outstanding _ mem i k own
  obtain ⟨r, here, rfl⟩ := Scene.exists_run there
  exact ⟨r, here, out.1⟩

/-- A number for which an answer is owed was not answered yet but to a caller who left. -/
theorem leaves_of_owed (run : IsRun h s) {k : Nat} (owed : 1 ≤ s.scene.owed k) {n : Moment}
    (mem : n ∈ h) {r : SwitchResult} (answer : (k, r) ∈ n.answers) : n.move.Leaves n.before k := by
  by_contra stays
  have settled := (run.settled_of_answer mem answer stays).1
  omega

end IsRun

/-- A trip of a run that is over ends, however and whenever it does: the trip is forgotten, its
    caller is told that the desk has stopped, and nothing else changes but what is measured, nor is
    anything else said. That is the only answer to the request, whose caller may have left before. -/
theorem stale_trip_isolated {h h₁ h₂ : History} {s : System} {m : Moment} {id i k : Nat} {a : Ask}
    (run : IsRun h s) (patient : ∀ n ∈ h, n.timesOut = false) (split : h = h₁ ++ m :: h₂)
    (ends : m.move.ends? = some id) (found : m.before.asks.find? (·.id == id) = some a)
    (own : a.owner = .desk i k) (past : m.before.IsOver i) :
    (∃ r calls metrics, m.before.runs[i]? = some r ∧
      m.after = { m.before.forget i r k with
        asks := m.before.asks.filter (·.id != id), calls := calls, metrics := metrics } ∧
      (calls = m.before.calls ∨ calls = m.before.calls.filter (·.id != k)) ∧
      metrics.inFlight = m.before.metrics.inFlight) ∧
    (∃ e, m.effects.filter (·.isLoud) = [e] ∧ e.answer? = some (k, Switching.droppedResult)) ∧
    ∀ n ∈ h₁ ++ h₂, ∀ result, (k, result) ∈ n.answers → n.move.Leaves n.before k := by
  obtain ⟨before, proper⟩ := run.at_moment split
  obtain ⟨r, here, o, trip, ticket⟩ := before.out_of_found found own
  have stopped := before.stopped_of_over (fun n mem => patient n (split ▸ List.mem_append_left _ mem))
    here past
  obtain ⟨_, service⟩ := before.serves here
  obtain ⟨ending, moved⟩ := System.move_of_ends (s := m.before) ends
  obtain ⟨t, calls, e, mumbles, done, left, answer⟩ := System.askEnded_of_stopped found own here
    (service.run.shut.stopped stopped) service.run.out_eq_nil
    ⟨o, Multiset.mem_coe.1 trip, ticket⟩ ending
  obtain ⟨metrics, quiet, rfl, gauge, silent⟩ := mumbles
  rw [done] at moved
  have nothing : m.before.out = [] := before.out_eq_nil
  have said : m.effects = quiet ++ [e] := by
    rw [Moment.effects, moved]
    exact congrArg (· ++ quiet ++ [e]) nothing
  have told : (k, Switching.droppedResult) ∈ m.answers :=
    List.mem_filterMap.2 ⟨e, said ▸ List.mem_append_right _ (List.mem_singleton_self e), answer⟩
  refine ⟨⟨r, calls, metrics, here, ?_, left, gauge⟩, ⟨e, ?_, answer⟩, fun n mem result given => ?_⟩
  · rw [Moment.after, moved]
    simp only [System.take, System.emit, System.forget, nothing]
  · have loud : e.isLoud = true := by
      unfold Effect.answer? at answer
      split at answer
      · rfl
      · rfl
      · cases answer
    rw [said, List.filter_append, List.filter_eq_nil_iff.2 (by simpa using silent),
      List.filter_singleton, loud]
    rfl
  · rcases List.mem_append.1 mem with earlier | later
    · have owed := Scene.one_le_owed (Scene.desks_getElem? (x := m.before.scene) here) ⟨o, trip, ticket⟩
      exact before.leaves_of_owed owed earlier given
    · -- By then the number is settled.
      obtain ⟨h₃, h₄, rfl⟩ := List.append_of_mem later
      have regroup : h = (h₁ ++ m :: h₃) ++ n :: h₄ := by
        rw [split, List.append_assoc, List.cons_append]
      obtain ⟨meanwhile, able⟩ := run.at_moment regroup
      obtain ⟨none, numbered⟩ := meanwhile.settled_of_answer
        (List.mem_append_right _ List.mem_cons_self) told (Move.not_leaves_of_ends ends)
      exact meanwhile.leaves_of_answer able none numbered given

namespace Twin

/-- Ann is one of the users. -/
def world : Surroundings :=
  { roster := Roster.fresh.put ⟨10, "Ann", "full.secondary", Flags.none, UserId.null, true⟩ }

/-- The service is stopped while a switch to Ann is negotiated, and started again; then a switch
    to Ann is negotiated again. -/
def actions : List Action :=
  List.flatten [startUp 1, [.busStep 0, .perform {} (.switchUser 10 0), .launch 0 2],
    [.stop, .notice 0], List.replicate 3 (.busStep 0),
    [.deskStop 0, .reap 0, .reap 0, .settleWait true, .goOn 4],
    startUp 5, [.busStep 1, .perform {} (.switchUser 10 0), .launch 1 6]]

/-- The vehicle approves the first of the two. -/
def approval : Move := .act (.answered 3 (.switch ⟨⟨"A"⟩, .approved, ""⟩) none)

/-- The run up to the second negotiation, and the answer to the first. -/
def history : History := (acted world actions).1 ++ [⟨(acted world actions).2, approval⟩]

theorem split : history = (acted world actions).1 ++ ⟨(acted world actions).2, approval⟩ :: [] := rfl

theorem isRun : IsRun history (Moment.mk (acted world actions).2 approval).after :=
  (isRun_acted world (by decide)).step (Move.proper_of_offered rfl)

theorem patient : ∀ m ∈ history, m.timesOut = false := by decide +kernel

/-- Both runs track a switch to the same user under the same number. -/
theorem alike : ((acted world actions).2.runs.map fun r => r.desk.tx.map fun t => (t.target, t.seq)) =
    [some (10, 1), some (10, 1)] := by decide +kernel

theorem past : (acted world actions).2.IsOver 0 := by decide +kernel

/-- The first is asked for the first run. -/
theorem asked : ((acted world actions).2.asks.find? (·.id == 3)).map (·.owner) = some (.desk 0 2) := by
  decide +kernel

end Twin

open Twin in
/-- The answer to the first negotiation leaves the second alone, which looks the same. -/
theorem twin_isolated : IsRun history (Moment.mk (acted world actions).2 approval).after ∧
    ((acted world actions).2.runs.map fun r => r.desk.tx.map fun t => (t.target, t.seq)) =
      [some (10, 1), some (10, 1)] ∧
    (∃ r calls metrics, (acted world actions).2.runs[0]? = some r ∧
      (Moment.mk (acted world actions).2 approval).after =
        { (acted world actions).2.forget 0 r 2 with
          asks := (acted world actions).2.asks.filter (·.id != 3)
          calls := calls
          metrics := metrics }) ∧
    ∃ e, (Moment.mk (acted world actions).2 approval).effects.filter (·.isLoud) = [e] ∧
      e.answer? = some (2, Switching.droppedResult) := by
  obtain ⟨a, found, own⟩ := Option.map_eq_some_iff.1 asked
  obtain ⟨⟨r, calls, metrics, here, after, _⟩, said, _⟩ :=
    stale_trip_isolated isRun patient split rfl found own past
  exact ⟨isRun, alike, ⟨r, calls, metrics, here, after⟩, said⟩

end HeadUnit.Service
