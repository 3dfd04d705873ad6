import HeadUnit.Proofs.Bus.Registry

/-!
# Events are delivered one after the other

The deliveries of a bus fall into *rounds* (`Round`), one for each event that the
worker has taken: first the calls of listeners, then the sends to remote entries.
While a round is under way, `Stage` relates what it has done to what the worker
still has to do: no listener is left that was called, and the uids that are left
are larger than those it has been sent to. `IsRounds` puts the rounds of a trace
together, and every change keeps it (`Change.rounds`).

A round turns to every listener that was registered when it started (`Turns`). By
the law of the trace, the listener is called then unless an order to remove it was
accepted in the meantime.

* `IsRounds.received_sublist`: a listener receives a subsequence of the accepted
  events;
* `listener_deliveries`: the rounds, in the order in which their events were
  accepted; who is called in them, and who is not.
-/

namespace HeadUnit.Bus

variable {L H : Type}

/-! ## Rounds -/

/-- The delivery of an event: who was called, and to which entries it was sent. -/
structure Round (L H : Type) where
  event : Event
  listeners : List L := []
  entries : List (Remote H) := []

namespace Round

/-- The deliveries of a round: the calls, then the sends. -/
def deliveries (k : Round L H) : List (Effect L H) :=
  k.listeners.map (.call · k.event) ++ k.entries.map fun r => .send r.uid r.handle k.event

/-- Nobody gets the event twice, and the entries stand in the order of their uids. -/
structure Orderly (k : Round L H) : Prop where
  listeners : k.listeners.Nodup
  entries : k.entries.Pairwise (·.uid < ·.uid)

end Round

namespace Worker

/-- The event that is being delivered. -/
def event? : Worker L → Option Event
  | locals e _ | calling _ e _ | remotes e _ | sending _ _ e _ => some e
  | unstarted | idle | draining | finished => none

/-- The listeners whose turn is still to come, with the event. -/
def pending : Worker L → List (L × Event)
  | locals e todo | calling _ e todo => todo.map (·, e)
  | _ => []

end Worker

/-- The rounds so far go with what the worker is doing. -/
inductive Stage : Worker L → List (Round L H) → Prop
  | rest {w : Worker L} {ks : List (Round L H)} (none : w.event? = none)
      (past : ∀ k ∈ ks, k.Orderly) : Stage w ks
  | locals {e : Event} {todo ls : List L} {ks : List (Round L H)} (past : ∀ k ∈ ks, k.Orderly)
      (distinct : (ls ++ todo).Nodup) : Stage (.locals e todo) (ks ++ [⟨e, ls, []⟩])
  | calling {l : L} {e : Event} {todo ls : List L} {ks : List (Round L H)}
      (past : ∀ k ∈ ks, k.Orderly) (distinct : (ls ++ todo).Nodup) :
      Stage (.calling l e todo) (ks ++ [⟨e, ls, []⟩])
  | remotes {e : Event} {todo : List Int64} {ls : List L} {rs : List (Remote H)}
      {ks : List (Round L H)} (past : ∀ k ∈ ks, k.Orderly) (distinct : ls.Nodup)
      (sorted : (rs.map (·.uid) ++ todo).Pairwise (· < ·)) :
      Stage (.remotes e todo) (ks ++ [⟨e, ls, rs⟩])
  | sending {uid : Int64} {stamp : Nat} {e : Event} {todo : List Int64} {ls : List L}
      {rs : List (Remote H)} {ks : List (Round L H)} (past : ∀ k ∈ ks, k.Orderly)
      (distinct : ls.Nodup) (sorted : (rs.map (·.uid) ++ todo).Pairwise (· < ·)) :
      Stage (.sending uid stamp e todo) (ks ++ [⟨e, ls, rs⟩])

theorem forall_orderly_snoc {ks : List (Round L H)} (past : ∀ k ∈ ks, k.Orderly) {k : Round L H}
    (last : k.Orderly) : ∀ x ∈ ks ++ [k], x.Orderly := by
  intro x mem
  rcases List.mem_append.1 mem with mem | mem
  · exact past x mem
  · rwa [List.mem_singleton.1 mem]

/-- At every stage all rounds are orderly. -/
theorem Stage.orderly {w : Worker L} {ks : List (Round L H)} (stage : Stage w ks) :
    ∀ k ∈ ks, k.Orderly := by
  cases stage with
  | rest _ past => exact past
  | locals past distinct | calling past distinct =>
    exact forall_orderly_snoc past ⟨(List.nodup_append.1 distinct).1, List.Pairwise.nil⟩
  | remotes past distinct sorted | sending past distinct sorted =>
    refine forall_orderly_snoc past ⟨distinct, ?_⟩
    exact List.pairwise_map.1 (List.pairwise_append.1 sorted).1

/-- The rounds of a trace that has led to the standing `s`. -/
structure IsRounds (t : Trace L H) (s : Standing L H) (ks : List (Round L H)) : Prop where
  accepted : t.accepted = t.started ++ s.events
  started : t.started = ks.map (·.event)
  deliveries : t.deliveries = ks.flatMap (·.deliveries)
  stage : Stage s.worker ks

namespace IsRounds

variable {t os : Trace L H} {s s' : Standing L H} {ks ks' : List (Round L H)}

/-- What occurs makes the rounds longer, as long as events go from the queue into
    rounds. -/
theorem next (rounds : IsRounds t s ks) (queue : s.events ++ os.accepted = os.started ++ s'.events)
    (taken : ks'.map (·.event) = ks.map (·.event) ++ os.started)
    (made : ks'.flatMap (·.deliveries) = ks.flatMap (·.deliveries) ++ os.deliveries)
    (stage : Stage s'.worker ks') : IsRounds (t ++ os) s' ks' where
  accepted := by
    rw [Trace.accepted_append, Trace.started_append, rounds.accepted, List.append_assoc, queue,
      List.append_assoc]
  started := by rw [Trace.started_append, rounds.started, taken]
  deliveries := by rw [Trace.deliveries_append, rounds.deliveries, made]
  stage := stage

/-- What occurs may have nothing to do with rounds. -/
theorem quiet (rounds : IsRounds t s ks) (accepted : os.accepted = []) (started : os.started = [])
    (deliveries : os.deliveries = []) (events : s'.events = s.events)
    (stage : Stage s'.worker ks) : IsRounds (t ++ os) s' ks := by
  refine rounds.next ?_ ?_ ?_ stage
  · rw [accepted, started, events, List.append_nil, List.nil_append]
  · rw [started, List.append_nil]
  · rw [deliveries, List.append_nil]

end IsRounds

variable [DecidableEq L] [DecidableEq H]

/-- Every change keeps the rounds, makes the last one longer, or begins one. -/
theorem Change.rounds {b : Bus L H} {s : Standing L H} {t os : Trace L H} (change : Change b s os)
    (books : Books t b.standing) {ks : List (Round L H)} (rounds : IsRounds t b.standing ks) :
    ∃ ks', IsRounds (t ++ os) s ks' := by
  have events := (emptied_applied b).events
  have stage : Stage b.worker ks := rounds.stage
  cases change with
  | nothing | posted => exact ⟨ks, rounds.quiet rfl rfl rfl rfl stage⟩
  | accepted e =>
    refine ⟨ks, rounds.next rfl ?_ ?_ stage⟩
    · exact (List.append_nil _).symm
    · exact (List.append_nil _).symm
  | roused rest => exact ⟨ks, rounds.quiet rfl rfl rfl rfl (.rest rfl stage.orderly)⟩
  | returned doing =>
    rw [doing] at stage
    cases stage with
    | rest none => cases none
    | calling past distinct => exact ⟨_, rounds.quiet rfl rfl rfl rfl (.locals past distinct)⟩
  | taken doing | refused doing =>
    rw [doing] at stage
    cases stage with
    | rest none => cases none
    | sending past distinct sorted =>
      exact ⟨_, rounds.quiet rfl rfl rfl rfl (.remotes past distinct sorted)⟩
  | looked w doing next =>
    refine ⟨ks, rounds.quiet (by simp) (by simp) (by simp) events (.rest ?_ stage.orderly)⟩
    rcases next with rfl | rfl <;> rfl
  | @started e es doing first =>
    have distinct : ([] ++ b.applied.locals).Nodup := (books.lists_posted (doing ▸ nofun)).nodup
    refine ⟨ks ++ [⟨e, [], []⟩], rounds.next ?_ ?_ ?_ (.locals stage.orderly distinct)⟩
    · simp [first, Occurrence.accepted?, Occurrence.started?]
    · simp [Occurrence.started?]
    · simp [Occurrence.delivery?, Round.deliveries]
  | finished doing none =>
    refine ⟨ks, rounds.quiet ?_ ?_ ?_ events (.rest rfl stage.orderly)⟩
    · simp [Occurrence.accepted?]
    · simp [Occurrence.started?]
    · simp [Occurrence.delivery?]
  | @called l e todo doing there =>
    rw [doing] at stage
    cases stage with
    | rest none => cases none
    | @locals _ _ ls ks past distinct =>
      have distinct : ((ls ++ [l]) ++ todo).Nodup := by simpa using distinct
      refine ⟨ks ++ [⟨e, ls ++ [l], []⟩], rounds.next ?_ ?_ ?_ (.calling past distinct)⟩
      · simp [events, Occurrence.accepted?, Occurrence.started?]
      · simp [Occurrence.started?]
      · simp [Occurrence.delivery?, Round.deliveries]
  | @passed l e todo doing gone =>
    rw [doing] at stage
    cases stage with
    | rest none => cases none
    | @locals _ _ ls ks past distinct =>
      refine ⟨_, rounds.quiet ?_ ?_ ?_ events (.locals past ?_)⟩
      · simp [Occurrence.accepted?]
      · simp [Occurrence.started?]
      · simp [Occurrence.delivery?]
      · exact distinct.sublist (List.Sublist.append_left (List.sublist_cons_self l todo) ls)
  | turned doing =>
    rw [doing] at stage
    cases stage with
    | rest none => cases none
    | locals past distinct =>
      rw [List.append_nil] at distinct
      have sorted :
          (([] : List (Remote H)).map (·.uid) ++ b.remotes.map (·.uid)).Pairwise (· < ·) :=
        List.pairwise_map.2 books.remotes.sorted
      exact ⟨_, rounds.quiet rfl rfl rfl rfl (.remotes past distinct sorted)⟩
  | @sent r e todo doing there alive =>
    rw [doing] at stage
    cases stage with
    | rest none => cases none
    | @remotes _ _ ls rs ks past distinct sorted =>
      have sorted : ((rs ++ [r]).map (·.uid) ++ todo).Pairwise (· < ·) := by simpa using sorted
      refine ⟨ks ++ [⟨e, ls, rs ++ [r]⟩], rounds.next ?_ ?_ ?_ (.sending past distinct sorted)⟩
      · simp [events, Occurrence.accepted?, Occurrence.started?]
      · simp [Occurrence.started?]
      · simp [Occurrence.delivery?, Round.deliveries]
  | @foundDead r e todo doing there =>
    rw [doing] at stage
    cases stage with
    | rest none => cases none
    | @remotes _ _ ls rs ks past distinct sorted =>
      refine ⟨_, rounds.quiet ?_ ?_ ?_ events (.remotes past distinct ?_)⟩
      · simp [Occurrence.accepted?]
      · simp [Occurrence.started?]
      · simp [Occurrence.delivery?]
      · exact sorted.sublist (List.Sublist.append_left (List.sublist_cons_self ..) _)
  | absent doing =>
    rw [doing] at stage
    cases stage with
    | rest none => cases none
    | @remotes _ _ ls rs ks past distinct sorted =>
      refine ⟨_, rounds.quiet (by simp) (by simp) (by simp) events (.remotes past distinct ?_)⟩
      exact sorted.sublist (List.Sublist.append_left (List.sublist_cons_self ..) _)
  | completed doing => exact ⟨ks, rounds.quiet rfl rfl rfl rfl (.rest rfl stage.orderly)⟩

/-- Every run has its rounds. -/
theorem IsRun.rounds {h : History L H} {b : Bus L H} (run : IsRun h b) :
    ∃ ks, IsRounds (History.trace h) b.standing ks := by
  induction run with
  | fresh => exact ⟨[], rfl, rfl, rfl, .rest rfl nofun⟩
  | @step h b m run ih =>
    obtain ⟨ks, rounds⟩ := ih
    obtain ⟨ks', next⟩ := (Moment.mk b m).change.rounds run.books rounds
    rw [History.trace_snoc]
    exact ⟨ks', next.accepted, next.started, next.deliveries, next.stage⟩

/-! ## What a listener receives -/

omit [DecidableEq H] in
/-- The event that an effect brings to the listener `l`. -/
def Effect.receivedBy? (l : L) : Effect L H → Option Event
  | call k e => if k = l then some e else none
  | _ => none

omit [DecidableEq H] in
/-- Among calls of different listeners with an event, a listener receives it at most once. -/
theorem received_calls_sublist {ls : List L} (distinct : ls.Nodup) (e : Event) (l : L) :
    ((ls.map fun x => (.call x e : Effect L H)).filterMap (·.receivedBy? l)).Sublist [e] := by
  rw [List.filterMap_map]
  change (ls.filterMap fun x => if x = l then some e else none).Sublist [e]
  induction ls with
  | nil => exact List.nil_sublist _
  | cons x ls ih =>
    obtain ⟨new, distinct⟩ := List.nodup_cons.1 distinct
    by_cases own : x = l
    · have rest : (ls.filterMap fun x => if x = l then some e else none) = [] := by
        rw [List.filterMap_eq_nil_iff]
        intro y mem
        rw [if_neg]
        rintro rfl
        exact new (own ▸ mem)
      simp [own, rest]
    · simpa [own] using ih distinct

omit [DecidableEq H] in
/-- A listener receives the event of a round at most once. -/
theorem Round.Orderly.received_sublist {k : Round L H} (orderly : k.Orderly) (l : L) :
    (k.deliveries.filterMap (·.receivedBy? l)).Sublist [k.event] := by
  have sends : (k.entries.map fun r => (.send r.uid r.handle k.event : Effect L H)).filterMap
      (·.receivedBy? l) = [] := by
    simp [List.filterMap_map, Effect.receivedBy?]
  rw [Round.deliveries, List.filterMap_append, sends, List.append_nil]
  exact received_calls_sublist orderly.listeners k.event l

omit [DecidableEq H] in
/-- A listener receives a subsequence of the accepted events. -/
theorem IsRounds.received_sublist {t : Trace L H} {s : Standing L H} {ks : List (Round L H)}
    (rounds : IsRounds t s ks) (l : L) :
    (t.deliveries.filterMap (·.receivedBy? l)).Sublist t.accepted := by
  have each (ks : List (Round L H)) (past : ∀ k ∈ ks, k.Orderly) :
      ((ks.flatMap (·.deliveries)).filterMap (·.receivedBy? l)).Sublist (ks.map (·.event)) := by
    induction ks with
    | nil => exact List.Sublist.slnil
    | cons k ks ih =>
      rw [List.flatMap_cons, List.filterMap_append, List.map_cons, ← List.singleton_append]
      have first := (past k List.mem_cons_self).received_sublist l
      exact first.append (ih fun x mem => past x (List.mem_cons_of_mem k mem))
  rw [rounds.deliveries, rounds.accepted, rounds.started]
  exact (each ks rounds.stage.orderly).trans (List.sublist_append_left ..)

/-! ## Every listener has its turn -/

omit [DecidableEq L] [DecidableEq H] in
theorem Trace.mem_started {t : Trace L H} {e : Event} {ls : List L} (mem : .started e ls ∈ t) :
    e ∈ t.started := List.mem_filterMap.2 ⟨_, mem, rfl⟩

/-- A round turns to every listener that was registered when it started: those whose
    turn is still to come are the worker's, and before the next round none is left. -/
def Turns (t : Trace L H) (w : Worker L) : Prop :=
  ∀ (t₁ : Trace L H) (e : Event) (ls : List L) (t₂ : Trace L H), t = t₁ ++ .started e ls :: t₂ →
    t₂.started = [] ∧ ls.map (·, e) = t₂.turns ++ w.pending ∨
    ∃ (u : Trace L H) (e' : Event) (ls' : List L) (v : Trace L H),
      t₂ = u ++ .started e' ls' :: v ∧ u.started = [] ∧ ls.map (·, e) = u.turns

omit [DecidableEq L] [DecidableEq H] in
/-- Within a round, turns go from the worker into the trace. -/
theorem Turns.append {t os : Trace L H} {w w' : Worker L} (turns : Turns t w)
    (started : os.started = []) (pending : w.pending = os.turns ++ w'.pending) :
    Turns (t ++ os) w' := by
  intro t₁ e ls t₂ split
  have none : .started e ls ∉ os := fun mem => List.not_mem_nil (started ▸ Trace.mem_started mem)
  -- The round started before.
  obtain ⟨rest, rfl, rfl⟩ : ∃ rest, t = t₁ ++ .started e ls :: rest ∧ t₂ = rest ++ os := by
    rcases List.append_eq_append_iff.1 split with ⟨mid, rfl, later⟩ | ⟨mid, rfl, now⟩
    · exact absurd (by simp [later]) none
    · cases mid with
      | nil => exact absurd (now ▸ List.mem_cons_self : _ ∈ [] ++ os) none
      | cons o mid =>
        obtain ⟨rfl, rfl⟩ := List.cons.inj now
        exact ⟨mid, rfl, rfl⟩
  rcases turns t₁ e ls rest rfl with ⟨none, all⟩ | ⟨u, e', ls', v, rfl, none, all⟩
  · refine .inl ⟨?_, ?_⟩
    · rw [Trace.started_append, none, started, List.nil_append]
    · rw [Trace.turns_append, List.append_assoc, ← pending, all]
  · exact .inr ⟨u, e', ls', v ++ os, by simp, none, all⟩

omit [DecidableEq L] [DecidableEq H] in
/-- When a round starts, no turn is left of the one before. -/
theorem Turns.start {t : Trace L H} {w w' : Worker L} (turns : Turns t w) {e : Event} {ls : List L}
    (none : w.pending = []) (pending : w'.pending = ls.map (·, e)) :
    Turns (t ++ [.started e ls]) w' := by
  intro t₁ e₁ ls₁ t₂ split
  rcases t₂.eq_nil_or_concat with rfl | ⟨t₂, o, rfl⟩
  · obtain ⟨rfl, same⟩ := List.append_singleton_inj.1 split
    cases same
    exact .inl ⟨rfl, by simp [pending, Trace.turns]⟩
  · rw [List.concat_eq_append, ← List.cons_append, ← List.append_assoc] at split
    obtain ⟨rfl, rfl⟩ := List.append_singleton_inj.1 split
    rw [List.concat_eq_append]
    rcases turns t₁ e₁ ls₁ t₂ rfl with ⟨first, all⟩ | ⟨u, e', ls', v, rfl, first, all⟩
    · exact .inr ⟨t₂, e, ls, [], rfl, first, by rw [all, none, List.append_nil]⟩
    · exact .inr ⟨u, e', ls', v ++ [.started e ls], by simp, first, all⟩

theorem Change.turns {b : Bus L H} {s : Standing L H} {t os : Trace L H} (change : Change b s os)
    (turns : Turns t b.worker) : Turns (t ++ os) s.worker := by
  have worker := (emptied_applied b).worker
  cases change with
  | nothing | accepted | posted => exact turns.append rfl rfl
  | roused rest =>
    refine turns.append rfl ?_
    rcases rest with new | idle
    · rw [new]
      rfl
    · rw [idle]
      rfl
  | returned doing | taken doing | refused doing | turned doing | completed doing =>
    refine turns.append rfl ?_
    rw [doing]
    rfl
  | looked w doing next =>
    refine turns.append (by simp) ?_
    rcases next with rfl | rfl <;> simp [doing, Worker.pending]
  | @started e es doing first =>
    have before : Turns (t ++ b.control.map .applied) b.worker := turns.append (by simp) (by simp)
    rw [← List.append_assoc]
    exact before.start (by rw [doing]; rfl) rfl
  | finished doing none | called doing there | passed doing gone | sent doing there alive
  | foundDead doing there | absent doing =>
    refine turns.append ?_ ?_
    · simp [Occurrence.started?]
    · simp [doing, Occurrence.turn?, Worker.pending]

theorem IsRun.turns {h : History L H} {b : Bus L H} (run : IsRun h b) :
    Turns (History.trace h) b.worker := by
  induction run with
  | fresh =>
    intro t₁ e ls t₂ split
    simp [History.trace] at split
  | @step h b m run ih =>
    rw [History.trace_snoc]
    exact (Moment.mk b m).change.turns ih

/-! ## The order of deliveries -/

omit [DecidableEq L] [DecidableEq H] in
theorem Trace.mem_posted {t : Trace L H} {c : Command L H} : c ∈ t.posted ↔ .posted c ∈ t := by
  rw [posted, List.mem_filterMap]
  constructor
  · rintro ⟨o, mem, e⟩
    cases o <;> cases e
    exact mem
  · exact fun mem => ⟨_, mem, rfl⟩

omit [DecidableEq L] [DecidableEq H] in
/-- A listener whose turn comes in a round is called, unless its removal was accepted
    since the round started. -/
theorem Lawful.called_or_removed {t₁ u v : Trace L H} {e : Event} {ls : List L} {l : L}
    {o : Occurrence L H} (lawful : Lawful (t₁ ++ .started e ls :: (u ++ o :: v))) (there : l ∈ ls)
    (turn : o.turn? = some (l, e)) :
    o = .called l e ∨ o = .passed l e ∧ .posted (.removeLocal l) ∈ u := by
  cases o with
  | called => cases turn; exact .inl rfl
  | passed k e' =>
    obtain ⟨rfl, rfl⟩ := Prod.mk.inj (Option.some.inj turn)
    refine .inr ⟨rfl, ?_⟩
    have registered := (lawful t₁ (.started e' ls) _ rfl).mem_iff k |>.1 there
    have gone := lawful (t₁ ++ .started e' ls :: u) (.passed k e') v (by simp)
    have orders : (t₁ ++ .started e' ls :: u).posted = t₁.posted ++ u.posted := by
      simp [Trace.posted, Occurrence.posted?]
    by_cases removed : .posted (.removeLocal k) ∈ u
    · exact removed
    · refine absurd (orders ▸ registered.append ?_) gone
      rintro _ mem rfl
      exact removed (Trace.mem_posted.1 mem)
  | _ => cases turn

omit [DecidableEq L] [DecidableEq H] in
/-- A listener whose turn is in a round is called in it, unless its removal was accepted
    before. -/
theorem Lawful.exists_turn {t₁ t₂ u v : Trace L H} {e : Event} {ls : List L} {l : L}
    (lawful : Lawful (t₁ ++ .started e ls :: t₂)) (there : l ∈ ls) (part : t₂ = u ++ v)
    (none : u.started = []) (turn : (l, e) ∈ u.turns) :
    ∃ (u v : Trace L H) (o : Occurrence L H), t₂ = u ++ o :: v ∧ u.started = [] ∧
      (o = .called l e ∨ o = .passed l e ∧ .posted (.removeLocal l) ∈ u) := by
  obtain ⟨o, mem, own⟩ := List.mem_filterMap.1 turn
  obtain ⟨u₁, u₂, rfl⟩ := List.append_of_mem mem
  rw [List.append_assoc, List.cons_append] at part
  rw [part] at lawful
  rw [Trace.started_append] at none
  exact ⟨u₁, u₂ ++ v, o, part, (List.append_eq_nil_iff.1 none).1,
    lawful.called_or_removed there own⟩

omit [DecidableEq L] [DecidableEq H] in
/-- A listener that is called after its removal was accepted has been registered again. -/
theorem Lawful.registered_again {t₁ t₂ t₃ : Trace L H} {l : L} {e : Event}
    (lawful : Lawful (t₁ ++ .posted (.removeLocal l) :: t₂ ++ .called l e :: t₃)) :
    .posted (.addLocal l) ∈ t₂ := by
  have registered := lawful (t₁ ++ .posted (.removeLocal l) :: t₂) (.called l e) t₃ rfl
  have orders : (t₁ ++ .posted (.removeLocal l) :: t₂).posted =
      t₁.posted ++ .removeLocal l :: t₂.posted := by
    simp [Trace.posted, Occurrence.posted?]
  have since : Registered l (t₁.posted ++ .removeLocal l :: t₂.posted) := orders ▸ registered
  obtain ⟨before, _, after, later, rfl⟩ := since.again rfl (by simp)
  exact Trace.mem_posted.1 (by simp [later])

/-- What in-process listeners get, in every run. The deliveries fall into rounds, one for
    each event that was taken, in the order in which the events were accepted; in each
    of them listeners come before handles, and no listener is called twice. A listener
    receives a subsequence of the accepted events. One that is registered when a
    round starts is called in it, unless its removal was accepted before its turn or
    its turn is still to come. And one whose removal was accepted is not called until it is
    registered again. -/
theorem listener_deliveries {h : History L H} {b : Bus L H} (run : IsRun h b) :
    (∃ rounds : List (Round L H),
      (History.trace h).accepted = rounds.map (·.event) ++ b.standing.events ∧
      (History.trace h).started = rounds.map (·.event) ∧
      History.deliveries h = rounds.flatMap (·.deliveries) ∧
      ∀ k ∈ rounds, k.listeners.Nodup) ∧
    History.deliveries h = (History.trace h).deliveries ∧
    (∀ l, ((History.deliveries h).filterMap (·.receivedBy? l)).Sublist
      (History.trace h).accepted) ∧
    (∀ (t₁ t₂ : Trace L H) (e : Event) (ls : List L),
      History.trace h = t₁ ++ .started e ls :: t₂ → ∀ l ∈ ls,
        t₂.started = [] ∧ (l, e) ∈ b.worker.pending ∨
        ∃ (u v : Trace L H) (o : Occurrence L H), t₂ = u ++ o :: v ∧ u.started = [] ∧
          (o = .called l e ∨ o = .passed l e ∧ .posted (.removeLocal l) ∈ u)) ∧
    (∀ (t₁ t₂ t₃ : Trace L H) (l : L) (e : Event),
      History.trace h = t₁ ++ .posted (.removeLocal l) :: t₂ ++ .called l e :: t₃ →
        .posted (.addLocal l) ∈ t₂) := by
  obtain ⟨rounds, is⟩ := run.rounds
  have lawful := run.books.lawful
  refine ⟨⟨rounds, ?_, is.started, ?_, fun k mem => (is.stage.orderly k mem).listeners⟩,
    run.deliveries_eq, fun l => ?_, fun t₁ t₂ e ls split l there => ?_,
    fun t₁ t₂ t₃ l e split => ?_⟩
  · rw [is.accepted, is.started]
  · rw [run.deliveries_eq, is.deliveries]
  · rw [run.deliveries_eq]
    exact is.received_sublist l
  · rw [split] at lawful
    have mem : (l, e) ∈ ls.map (·, e) := List.mem_map_of_mem there
    rcases run.turns t₁ e ls t₂ split with ⟨none, all⟩ | ⟨u, e', ls', v, part, none, all⟩
    · rcases List.mem_append.1 (all ▸ mem) with turn | left
      · exact .inr (lawful.exists_turn there (List.append_nil t₂).symm none turn)
      · exact .inl ⟨none, left⟩
    · exact .inr (lawful.exists_turn there part none (all ▸ mem))
  · rw [split] at lawful
    exact lawful.registered_again

/-- In the sample run, the second listener is registered again between its removal and
    its first call. -/
theorem registered_again_of_sample : ∃ t₁ t₂ t₃ : Trace Nat Nat,
    History.trace Sample.state.1 =
      t₁ ++ .posted (.removeLocal 2) :: t₂ ++ .called 2 Sample.bye :: t₃ ∧
    .posted (.addLocal 2) ∈ t₂ := by
  let t := History.trace Sample.state.1
  have split : t = t.take 9 ++ .posted (.removeLocal 2) :: (t.drop 10).take 11 ++
      .called 2 Sample.bye :: t.drop 22 := by decide
  exact ⟨_, _, _, split, (listener_deliveries Sample.isRun).2.2.2.2 _ _ _ _ _ split⟩

end HeadUnit.Bus
