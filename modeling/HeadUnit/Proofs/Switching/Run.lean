import HeadUnit.Switching.Desk

/-!
# Runs of the switch desk

A *move* is one thing that can happen to a desk: somebody asks for a switch, a
trip is launched or ends, the vehicle starts a switch, events arrive, the worker
starts, takes a command, comes back from the operating system, reports what it
has installed or stops. What a move does is `Desk.move`, which only calls the
operations of the desk.

A *moment* is a move together with the desk it was made on, a *history* the
list of moments so far. A run (`IsRun`) begins with a fresh desk and makes moves
in any order, each of them possible where it is made (`Allowed`):

* a request has a ticket of its own, as its reply goes to a place of its own;
* only an outstanding trip ends, maybe before it is launched, and only a commit
  in progress comes back;
* a desk is shut down at most once, by its worker or before the worker starts.

Users, foreground user and capabilities may change between any two moves: every
move carries the view it is made with.

* `IsRun.at_moment`: a run up to one of its moments is a run;
* `History.eq_of_mem_filterMap`: a mark that no two moments share tells which
  moment has it;
* `IsRun.nodup_requested`: no two requests have the same ticket.
-/

namespace HeadUnit.Switching

/-- One thing that can happen to a desk. -/
inductive Move
  /-- Somebody asks for a switch. -/
  | request (v : View) (p : Poster) (ticket : Ticket) (target : UserId) (timeout : Duration)
  /-- A request that was installed is reported and put to the vehicle. -/
  | launch (ticket : Ticket)
  /-- A trip ends: with an answer, a fault, a timeout or a cancellation. -/
  | tripEnded (v : View) (ticket : Ticket) (response : Vehicle.SwitchResponse)
      (fault : Option Fault)
  /-- The vehicle starts a switch. -/
  | initiate (v : View) (p : Poster) (token : Token) (target : UserId)
  /-- Lifecycle events arrive. -/
  | events (v : View) (p : Poster) (es : List Event)
  /-- The worker starts. -/
  | start
  /-- The worker takes a command. -/
  | work (v : View)
  /-- The operating system has switched, or failed to. -/
  | committed (v : View) (fault : Option Fault)
  /-- The worker reports a switch of the vehicle. -/
  | mark
  /-- The context of the worker ends. -/
  | endContext
  /-- The worker finds its context ended. -/
  | stop (v : View)
  /-- The desk is shut down without a worker. -/
  | close (v : View)
  | setTimeout (t : Duration)
  | setPanel (p : Option Panel)

namespace Move

/-- What the desk sees of its surroundings, if the move looks at them. -/
def view? : Move → Option View
  | request v .. | tripEnded v .. | initiate v .. | events v .. => some v
  | work v | committed v _ | stop v | close v => some v
  | launch _ | start | mark | endContext | setTimeout _ | setPanel _ => none

/-- The ticket of a request. -/
def ticket? : Move → Option Ticket
  | request _ _ k _ _ => some k
  | _ => none

/-- The ticket of a trip that ends. -/
def ended? : Move → Option Ticket
  | tripEnded _ k _ _ => some k
  | _ => none

/-- The token that the vehicle mints: with an answer that has one, or for a
    switch it starts. -/
def minted? : Move → Option Token
  | tripEnded _ _ r _ => if r.token.isSet then some r.token else none
  | initiate _ _ token _ => some token
  | _ => none

end Move

/-- What a move does; one that is not possible changes nothing. -/
def Desk.move (d : Desk) : Move → Desk
  | .request v p ticket target timeout => d.request v p ticket target timeout
  | .launch ticket => d.launch ticket
  | .tripEnded v ticket response fault => d.tripEnded v ticket response fault
  | .initiate v p token target => d.initiate v p token target
  | .events v p es => d.onEvents v p es
  | .start => d.start
  | .work v => (d.work? v).getD d
  | .committed v fault => d.committed v fault
  | .mark => d.mark
  | .endContext => d.endContext
  | .stop v => (d.stop? v).getD d
  | .close v => d.close v
  | .setTimeout t => d.setTimeout t
  | .setPanel p => d.setPanel p

/-- A move, and the desk it was made on. -/
structure Moment where
  before : Desk
  move : Move

namespace Moment

/-- What the desk asked for. -/
def effects (m : Moment) : List Effect := (m.before.move m.move).take.1

/-- The desk afterwards. -/
def after (m : Moment) : Desk := (m.before.move m.move).take.2

/-- The transaction that was installed, if a new sequence number was given out. -/
def installed? (m : Moment) : Option Transaction :=
  if m.after.seq = m.before.seq then none else m.after.tx

end Moment

/-! ## What a desk asks for -/

namespace Effect

/-- The result of a request. -/
def result? : Effect → Option (Ticket × SwitchResult)
  | reply k r => some (k, r)
  | _ => none

/-- The acknowledgment of a token: the token, the prior user and the target. -/
def acknowledged? : Effect → Option (Token × UserId × UserId)
  | notify (.postSwitch token prior target _) => some (token, prior, target)
  | _ => none

/-- The trip that asks the vehicle. -/
def negotiated? : Effect → Option Outstanding
  | negotiate o _ _ => some o
  | _ => none

end Effect

/-! ## Histories -/

/-- What happened so far, the oldest first. -/
abbrev History := List Moment

namespace History

/-- What the desk has asked for. -/
def effects (h : History) : List Effect := h.flatMap (·.effects)

/-- The tickets of the requests. -/
def requested (h : History) : List Ticket := h.filterMap (·.move.ticket?)

/-- The tickets of the trips that have ended. -/
def ended (h : History) : List Ticket := h.filterMap (·.move.ended?)

/-- The tokens that the vehicle has minted. -/
def minted (h : History) : List Token := h.filterMap (·.move.minted?)

/-- The transactions that were installed. -/
def transactions (h : History) : List Transaction := h.filterMap (·.installed?)

/-- The results that requests got. -/
def results (h : History) : List (Ticket × SwitchResult) := (effects h).filterMap (·.result?)

/-- The acknowledgments that were sent. -/
def acknowledged (h : History) : List (Token × UserId × UserId) :=
  (effects h).filterMap (·.acknowledged?)

/-- The trips that asked the vehicle. -/
def negotiated (h : History) : List Outstanding := (effects h).filterMap (·.negotiated?)

variable (h : History) (m : Moment)

@[simp]
theorem effects_snoc : effects (h ++ [m]) = effects h ++ m.effects := by simp [effects]

@[simp]
theorem requested_snoc : requested (h ++ [m]) = requested h ++ m.move.ticket?.toList := by
  cases e : m.move.ticket? <;> simp [requested, e]

@[simp]
theorem ended_snoc : ended (h ++ [m]) = ended h ++ m.move.ended?.toList := by
  cases e : m.move.ended? <;> simp [ended, e]

@[simp]
theorem minted_snoc : minted (h ++ [m]) = minted h ++ m.move.minted?.toList := by
  cases e : m.move.minted? <;> simp [minted, e]

@[simp]
theorem transactions_snoc : transactions (h ++ [m]) = transactions h ++ m.installed?.toList := by
  cases e : m.installed? <;> simp [transactions, e]

theorem mem_snoc : m ∈ h ++ [m] := List.mem_append_right h List.mem_cons_self

theorem subset_snoc : h ⊆ h ++ [m] := List.subset_append_left h [m]

theorem transactions_append (h' : History) :
    transactions (h ++ h') = transactions h ++ transactions h' := List.filterMap_append ..

theorem length_transactions_le_snoc :
    (transactions h).length ≤ (transactions (h ++ [m])).length := by
  rw [transactions_append, List.length_append]
  exact Nat.le_add_right ..

@[simp]
theorem results_snoc : results (h ++ [m]) = results h ++ m.effects.filterMap (·.result?) := by
  simp [results]

@[simp]
theorem acknowledged_snoc :
    acknowledged (h ++ [m]) = acknowledged h ++ m.effects.filterMap (·.acknowledged?) := by
  simp [acknowledged]

@[simp]
theorem negotiated_snoc :
    negotiated (h ++ [m]) = negotiated h ++ m.effects.filterMap (·.negotiated?) := by
  simp [negotiated]

variable {h}

theorem mem_results {x : Ticket × SwitchResult} :
    x ∈ results h ↔ ∃ m ∈ h, x ∈ m.effects.filterMap (·.result?) := by
  simp only [results, effects, List.filterMap_flatMap, List.mem_flatMap]

theorem mem_acknowledged {x : Token × UserId × UserId} :
    x ∈ acknowledged h ↔ ∃ m ∈ h, x ∈ m.effects.filterMap (·.acknowledged?) := by
  simp only [acknowledged, effects, List.filterMap_flatMap, List.mem_flatMap]

/-- If no two moments share a mark, the mark tells which moment has it. -/
theorem eq_of_mem_filterMap {α : Type} {f : Moment → Option α} {m n : Moment} {a : α}
    (distinct : (h.filterMap f).Nodup) (hm : m ∈ h) (hn : n ∈ h) (em : f m = some a)
    (en : f n = some a) : m = n := by
  induction h with
  | nil => exact absurd hm List.not_mem_nil
  | cons l h ih =>
    -- The mark of the first moment stands in no later one.
    have first : f l = some a → a ∉ h.filterMap f := by
      intro e
      rw [List.filterMap_cons_some e, List.nodup_cons] at distinct
      exact distinct.1
    have rest : (h.filterMap f).Nodup := by
      cases e : f l with
      | none => rwa [List.filterMap_cons_none e] at distinct
      | some b =>
        rw [List.filterMap_cons_some e, List.nodup_cons] at distinct
        exact distinct.2
    rcases List.mem_cons.1 hm with rfl | hm' <;> rcases List.mem_cons.1 hn with rfl | hn'
    · rfl
    · exact absurd (List.mem_filterMap.2 ⟨n, hn', en⟩) (first em)
    · exact absurd (List.mem_filterMap.2 ⟨m, hm', em⟩) (first en)
    · exact ih rest hm' hn'

end History

/-! ## Runs -/

/-- The commit that a worker waits for. -/
def Worker.commit? : Worker → Option Commit
  | committing c => some c
  | _ => none

/-- Whether a move is possible on the desk `d` after the history `h`. -/
def Allowed (h : History) (d : Desk) : Move → Prop
  | .request _ _ k _ _ => k ∉ History.requested h
  | .launch k => k ∈ d.launching.map (·.trip.ticket)
  | .tripEnded _ k _ _ => k ∈ d.trips.map (·.ticket)
  | .start => d.worker = .unstarted
  | .work _ => d.worker = .idle ∧ d.queue ≠ []
  | .committed .. => d.worker.commit?.isSome
  | .mark => d.worker = .marking
  | .stop _ => d.worker = .idle ∧ d.contextDone ∧ d.closed = false
  | .close _ => d.worker = .unstarted ∧ d.closed = false
  | .initiate .. | .events .. | .endContext | .setTimeout _ | .setPanel _ => True

instance (h : History) (d : Desk) : (m : Move) → Decidable (Allowed h d m)
  | .request _ _ k _ _ => inferInstanceAs (Decidable (k ∉ History.requested h))
  | .launch k => inferInstanceAs (Decidable (k ∈ d.launching.map (·.trip.ticket)))
  | .tripEnded _ k _ _ => inferInstanceAs (Decidable (k ∈ d.trips.map (·.ticket)))
  | .start => inferInstanceAs (Decidable (d.worker = .unstarted))
  | .work _ => inferInstanceAs (Decidable (d.worker = .idle ∧ d.queue ≠ []))
  | .committed .. => inferInstanceAs (Decidable (d.worker.commit?.isSome = true))
  | .mark => inferInstanceAs (Decidable (d.worker = .marking))
  | .stop _ => inferInstanceAs (Decidable (d.worker = .idle ∧ d.contextDone ∧ d.closed = false))
  | .close _ => inferInstanceAs (Decidable (d.worker = .unstarted ∧ d.closed = false))
  | .initiate .. | .events .. | .endContext | .setTimeout _ | .setPanel _ => isTrue trivial

/-- The history `h` is one of a run, which has led to the desk `d`. -/
inductive IsRun : History → Desk → Prop
  | fresh (timeout : Duration) (headless : Bool) : IsRun [] (Desk.fresh timeout headless)
  | step {h : History} {d : Desk} {m : Move} : IsRun h d → Allowed h d m →
      IsRun (h ++ [⟨d, m⟩]) (Moment.mk d m).after

namespace IsRun

variable {h : History} {d : Desk}

/-- Between moves nothing is left that the desk asked for. -/
theorem out_eq_nil (run : IsRun h d) : d.out = [] := by
  cases run <;> rfl

/-- A run up to one of its moments is a run, and the move was possible there. -/
theorem at_moment (run : IsRun h d) {h₁ h₂ : History} {m : Moment} (e : h = h₁ ++ m :: h₂) :
    IsRun h₁ m.before ∧ Allowed h₁ m.before m.move := by
  induction run generalizing h₂ with
  | fresh => simp at e
  | step run able ih =>
    rcases h₂.eq_nil_or_concat with rfl | ⟨h₂, n, rfl⟩
    · obtain ⟨rfl, rfl⟩ := List.append_singleton_inj.1 e
      exact ⟨run, able⟩
    · rw [List.concat_eq_append, ← List.cons_append, ← List.append_assoc] at e
      exact ih (List.append_singleton_inj.1 e).1

/-- No two requests have the same ticket. -/
theorem nodup_requested (run : IsRun h d) : (History.requested h).Nodup := by
  induction run with
  | fresh => exact List.nodup_nil
  | @step h d m _ able ih =>
    rw [History.requested_snoc]
    cases m with
    | request v p k target timeout =>
      refine List.nodup_append.2 ⟨ih, List.pairwise_singleton _ _, ?_⟩
      rintro a ha b hb rfl
      rw [List.mem_singleton.1 hb] at ha
      exact able ha
    | _ => simpa [Move.ticket?] using ih

end IsRun

/-! ## Playing moves -/

/-- Whether the moves are possible one after the other. -/
def Playable (h : History) (d : Desk) : List Move → Prop
  | [] => True
  | m :: ms => Allowed h d m ∧ Playable (h ++ [⟨d, m⟩]) (Moment.mk d m).after ms

instance decidablePlayable : (h : History) → (d : Desk) → (ms : List Move) →
    Decidable (Playable h d ms)
  | _, _, [] => isTrue trivial
  | h, d, m :: ms =>
    have : Decidable (Playable (h ++ [⟨d, m⟩]) (Moment.mk d m).after ms) :=
      decidablePlayable (h ++ [⟨d, m⟩]) (Moment.mk d m).after ms
    inferInstanceAs (Decidable (Allowed h d m ∧ _))

/-- The history and the desk after the moves. -/
def played (h : History) (d : Desk) : List Move → History × Desk
  | [] => (h, d)
  | m :: ms => played (h ++ [⟨d, m⟩]) (Moment.mk d m).after ms

/-- Possible moves make a run longer. -/
theorem IsRun.play {h : History} {d : Desk} (run : IsRun h d) {ms : List Move}
    (able : Playable h d ms) : IsRun (played h d ms).1 (played h d ms).2 := by
  induction ms generalizing h d with
  | nil => exact run
  | cons m ms ih => exact ih (run.step able.1) able.2

/-! ## A sample run

Ann's request is superseded by Bob's, which is approved but fails; meanwhile the
vehicle starts a switch to Ann, which succeeds; then Bob is asked for again. The
requests are launched in the order in which the vehicle gets to hear of them. -/

namespace Sample

def ann : User := ⟨10, "Ann", "full.secondary", Flags.none, UserId.null, true⟩

def bob : User := ⟨11, "Bob", "full.secondary", Flags.none, UserId.null, true⟩

def view : View := ⟨[ann, bob], UserId.system, true⟩

def approval (token : String) : Vehicle.SwitchResponse := ⟨⟨token⟩, .approved, ""⟩

def moves : List Move :=
  [.start,
    .request view (.caller 1) 1 ann.id 0,
    .request view (.caller 2) 2 bob.id 0,
    .launch 2,
    .launch 1,
    .tripEnded view 1 (approval "A1") none,
    .tripEnded view 2 (approval "B1") none,
    .work view,
    .work view,
    .initiate view (.caller 3) ⟨"A2"⟩ ann.id,
    .committed view (some (.told "no display")),
    .work view,
    .committed view none,
    .mark,
    .request view (.caller 4) 3 bob.id 0,
    .launch 3]

/-- The history and the desk after the moves. -/
def state : History × Desk := played [] (Desk.fresh 0 false) moves

theorem isRun : IsRun state.1 state.2 := (IsRun.fresh 0 false).play (by decide)

/-- The last trip times out, and the worker stops. -/
def stopped : History × Desk :=
  played state.1 state.2 [.tripEnded view 3 .blank (some .tripTimeout), .endContext, .stop view]

theorem isRun_stopped : IsRun stopped.1 stopped.2 := isRun.play (by decide)

end Sample

end HeadUnit.Switching
