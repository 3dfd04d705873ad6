import HeadUnit.Proofs.Switching.Resolution

/-!
# Where things come from

Whatever a desk has in hand goes back to a moment of its history:

* a trip to the request that installed its transaction (`History.Installed`);
* an answer to that request and to the end of the trip (`History.Ended`);
* a switch without a vehicle to a request nobody negotiates (`History.Unasked`);
* a switch of the vehicle to the call that started it (`History.Initiated`) and,
  once the worker has taken it, to the moment it was taken (`History.Disposed`).

`Provenance` says so for all of a standing, and `IsRun.provenance` for every
state of a run. As no two requests share a ticket, a ticket tells its request
and with it the transaction (`IsRun.installed_unique`). The vehicle is asked once
about each transaction that a request installs, or will be when its trip is
launched (`IsRun.begun_perm`), and a trip ends at most once (`IsRun.nodup_ended`).
-/

namespace HeadUnit.Switching

/-! ## Marks in a history -/

/-- A new number is not the last one. -/
theorem add_one_ne_self (n : UInt64) : n + 1 ≠ n := by
  intro e
  have := congrArg UInt64.toNat e
  rw [UInt64.toNat_add, UInt64.toNat_one] at this
  have := n.toNat_lt
  omega

theorem Moment.installed?_of_seq_eq {m : Moment} (same : m.outcome.seq = m.before.seq) :
    m.installed? = none := if_pos same

theorem Moment.installed?_of_seq_next {m : Moment} (next : m.outcome.seq = m.before.seq + 1) :
    m.installed? = m.outcome.tx := if_neg fun same => add_one_ne_self _ (next.symm.trans same)

theorem Moment.after_tx_of_installed? {m : Moment} {t : Transaction}
    (installed : m.installed? = some t) : m.after.tx = some t := by
  unfold Moment.installed? at installed
  split at installed
  · cases installed
  · exact installed

/-- The request with the ticket `k` installs the transaction `t`; its prior user
    is the one in the foreground there. -/
def Moment.Installs (m : Moment) (k : Ticket) (t : Transaction) : Prop :=
  ∃ v p timeout, m.move = .request v p k t.target timeout ∧ t.prior = v.current ∧
    m.installed? = some t

/-- The switch of the vehicle is applied or fails, with the view `v`. -/
inductive Moment.Disposes (m : Moment) (token : Token) (target : UserId) (v : View) : Prop
  /-- The worker takes it. -/
  | applied (work : m.move = .work v)
      (head : m.before.queue.head? = some (.initiated token target))
  /-- The desk is shut down. -/
  | failed (down : m.move = .stop v ∨ m.move = .close v)
      (mem : .initiated token target ∈ m.before.pending)
  /-- The desk has been shut down. -/
  | refused (p : Poster) (call : m.move = .initiate v p token target)
      (closed : m.before.closed = true)

namespace History

variable (h : History)

/-- The request with the ticket `k` installed the transaction `t`. -/
def Installed (k : Ticket) (t : Transaction) : Prop := ∃ m ∈ h, m.Installs k t

/-- The trip of the ticket `k` ended. -/
def Ended (k : Ticket) (response : Vehicle.SwitchResponse) (fault : Option Fault) : Prop :=
  ∃ m ∈ h, ∃ v, m.move = .tripEnded v k response fault

/-- The request with the ticket `k` found no vehicle to ask. -/
def Unasked (k : Ticket) : Prop :=
  ∃ m ∈ h, ∃ v p target timeout, m.move = .request v p k target timeout ∧ v.negotiates = false ∧
    m.installed? = none

/-- The vehicle started a switch. -/
def Initiated (token : Token) (target : UserId) : Prop :=
  ∃ m ∈ h, ∃ v p, m.move = .initiate v p token target

/-- A switch of the vehicle was applied or failed while `prior` was in the
    foreground. -/
def Disposed (token : Token) (target prior : UserId) : Prop :=
  ∃ m ∈ h, ∃ v, m.Disposes token target v ∧ v.current = prior

/-- The answer `a` is how the trip of its transaction ended. -/
def Answered (a : Answer) : Prop :=
  Installed h a.ticket a.tx ∧ Ended h a.ticket a.response a.fault

variable {h} {h' : History}

/-- A longer history has the same marks. -/
theorem exists_mono {P : Moment → Prop} (sub : h ⊆ h') : (∃ m ∈ h, P m) → ∃ m ∈ h', P m :=
  fun ⟨m, mem, p⟩ => ⟨m, sub mem, p⟩

theorem Initiated.mem_minted {token : Token} {target : UserId} (one : Initiated h token target) :
    token ∈ minted h := by
  obtain ⟨m, mem, _, _, e⟩ := one
  exact List.mem_filterMap.2 ⟨m, mem, by rw [e]; rfl⟩

theorem Answered.mono {a : Answer} (sub : h ⊆ h') (answered : Answered h a) : Answered h' a :=
  ⟨exists_mono sub answered.1, exists_mono sub answered.2⟩

end History

/-! ## Origins -/

open History

/-- Where a command comes from. -/
def Command.Origin (h : History) : Command → Prop
  | answer a => Answered h a
  | direct _ k => Unasked h k
  | initiated token target => Initiated h token target
  | unlocked _ | switched .. => True

/-- Where a commit comes from. -/
def Commit.Origin (h : History) : Commit → Prop
  | answer a => Answered h a ∧ a.Approves
  | direct _ k => Unasked h k
  | initiated token target prior => Initiated h token target ∧ Disposed h token target prior

theorem Command.Origin.mono {h h' : History} (sub : h ⊆ h') {c : Command} (o : c.Origin h) :
    c.Origin h' := by
  cases c with
  | answer a => exact Answered.mono sub o
  | direct target k => exact exists_mono sub o
  | initiated token target => exact exists_mono sub o
  | unlocked | switched => trivial

theorem Commit.Origin.mono {h h' : History} (sub : h ⊆ h') {c : Commit} (o : c.Origin h) :
    c.Origin h' := by
  cases c with
  | answer a => exact ⟨Answered.mono sub o.1, o.2⟩
  | direct target k => exact exists_mono sub o
  | initiated token target prior => exact ⟨exists_mono sub o.1, exists_mono sub o.2⟩

theorem Command.IsNews.origin {h : History} {c : Command} (news : c.IsNews) : c.Origin h := by
  cases c <;> trivial

/-- The token that comes with a commit. -/
def Commit.token? : Commit → Option Token
  | answer a => some a.response.token
  | direct .. => none
  | initiated token .. => some token

@[simp]
theorem Commit.token?_answer (a : Answer) : (answer a).token? = some a.response.token := rfl

@[simp]
theorem Commit.token?_direct (target : UserId) (k : Ticket) : (direct target k).token? = none := rfl

@[simp]
theorem Commit.token?_initiated (token : Token) (target prior : UserId) :
    (initiated token target prior).token? = some token := rfl

/-- All that a desk has in hand has an origin. -/
structure Provenance (h : History) (s : Standing) : Prop where
  trips : ∀ o ∈ s.trips, Installed h o.ticket o.tx
  pending : ∀ c ∈ s.pending, c.Origin h
  commit : ∀ c, s.worker.commit? = some c → c.Origin h

namespace Provenance

variable {h h' : History} {s : Standing}

theorem mono (sub : h ⊆ h') (prov : Provenance h s) : Provenance h' s where
  trips o ho := exists_mono sub (prov.trips o ho)
  pending c hc := (prov.pending c hc).mono sub
  commit c hc := (prov.commit c hc).mono sub

/-- Commands with an origin may be posted. -/
theorem post (prov : Provenance h s) {v : View} {cs : List Command}
    (origin : ∀ c ∈ cs, c.Origin h) : Provenance h (s.post v cs) := by
  unfold Standing.post
  split
  · exact ⟨prov.trips, prov.pending, prov.commit⟩
  · refine ⟨prov.trips, fun c hc => ?_, prov.commit⟩
    rcases Multiset.mem_add.1 hc with old | new
    · exact prov.pending c old
    · exact origin c new

end Provenance

section Step

variable {h : History} {d : Desk} {m : Move} {s : Standing}

/-- A move gives an origin to all it puts on the desk. -/
theorem Change.provenance (change : Change d m s) (out : (Moment.mk d m).outcome = s)
    (old : Provenance h d.standing) : Provenance (h ++ [⟨d, m⟩]) s := by
  have now := mem_snoc h ⟨d, m⟩
  have prov := old.mono (subset_snoc h ⟨d, m⟩)
  -- What is taken from the queue was pending, and so is what is left of it.
  have taken {c rest} (takes : Takes d c rest) :
      c.Origin (h ++ [⟨d, m⟩]) ∧ ∀ c ∈ rest, c.Origin (h ++ [⟨d, m⟩]) := by
    have all := prov.pending
    rw [Desk.standing_pending, takes.pending] at all
    exact ⟨all c (Multiset.mem_cons_self ..), fun c hc => all c (Multiset.mem_cons_of_mem hc)⟩
  have idle {c : Commit} (none : Worker.commit? .idle = some c) : c.Origin (h ++ [⟨d, m⟩]) :=
    nomatch none
  cases change with
  | rejected | adjusted => exact ⟨prov.trips, prov.pending, prov.commit⟩
  | direct free =>
    refine prov.post fun c hc => ?_
    rw [List.mem_singleton.1 hc]
    exact ⟨_, now, _, _, _, _, rfl, free,
      Moment.installed?_of_seq_eq (out ▸ Standing.post_seq ..)⟩
  | installed tx new =>
    refine ⟨fun o ho => ?_, prov.pending, prov.commit⟩
    rcases Multiset.mem_cons.1 (show o ∈ _ ::ₘ d.standing.trips from ho) with rfl | ho
    · subst new
      refine ⟨_, now, _, _, _, rfl, rfl, ?_⟩
      rw [Moment.installed?_of_seq_next (out ▸ rfl), out]
    · exact prov.trips o ho
  | launched => exact ⟨prov.trips, prov.pending, prov.commit⟩
  | tripEnded o rest own trips =>
    have all := prov.trips
    rw [trips] at all
    refine Provenance.post (s := { d.standing with trips := rest })
      ⟨fun o ho => all o (Multiset.mem_cons_of_mem ho), prov.pending, prov.commit⟩ fun c hc => ?_
    rw [List.mem_singleton.1 hc]
    exact ⟨own ▸ all o (Multiset.mem_cons_self ..), _, now, _, rfl⟩
  | initiated =>
    refine prov.post fun c hc => ?_
    rw [List.mem_singleton.1 hc]
    exact ⟨_, now, _, _, rfl⟩
  | events => exact prov.post fun c hc => (Command.isNews_of_mem_events hc).origin
  | started | marked => exact ⟨prov.trips, prov.pending, fun _ => idle⟩
  | superseded a rest takes | denied a rest takes | unlocked t rest takes | noted c rest takes =>
    exact ⟨prov.trips, (taken takes).2, prov.commit⟩
  | approved a rest takes current yes =>
    refine ⟨prov.trips, (taken takes).2, fun c hc => ?_⟩
    cases hc
    exact ⟨(taken takes).1, yes⟩
  | directTaken rest takes =>
    refine ⟨prov.trips, (taken takes).2, fun c hc => ?_⟩
    cases hc
    exact (taken takes).1
  | initiatedTaken rest takes =>
    refine ⟨prov.trips, (taken takes).2, fun c hc => ?_⟩
    cases hc
    exact ⟨(taken takes).1, _, now, _, .applied rfl takes.head, rfl⟩
  | commitSuperseded | commitFailed | commitDone | directFailed | directDone | initiatedFailed
  | initiatedDone => exact ⟨prov.trips, prov.pending, fun _ => idle⟩
  | closed tx w down less before after =>
    refine ⟨prov.trips, fun c hc => absurd hc (Multiset.notMem_zero c), fun c hc => ?_⟩
    exact absurd (after.symm.trans hc) (by simp)

end Step

/-! ## Runs -/

namespace IsRun

variable {h : History} {d : Desk}

/-- All that a desk has in hand has an origin, in every state of a run. -/
theorem provenance (run : IsRun h d) : Provenance h d.standing := by
  induction run with
  | fresh => exact ⟨fun o ho => absurd ho (Multiset.notMem_zero o),
      fun c hc => absurd hc (Multiset.notMem_zero c), nofun⟩
  | step run able ih =>
    obtain ⟨trips, pending, commit⟩ := (run.change able).provenance rfl ih
    exact ⟨trips, pending, commit⟩

theorem origin_of_committing (run : IsRun h d) {c : Commit} (doing : d.worker = .committing c) :
    c.Origin h :=
  run.provenance.commit c (by rw [Desk.standing_worker, doing]; rfl)

/-- Every moment of a run is one of the changes, made after a run. -/
theorem change_at (run : IsRun h d) {m : Moment} (mem : m ∈ h) :
    ∃ h₁, h₁ ⊆ h ∧ IsRun h₁ m.before ∧ Change m.before m.move m.outcome := by
  obtain ⟨h₁, h₂, e⟩ := List.append_of_mem mem
  obtain ⟨before, able⟩ := run.at_moment e
  exact ⟨h₁, e ▸ List.subset_append_left .., before, before.change able⟩

/-- The moment of a request is known by its ticket. -/
theorem moment_unique (run : IsRun h d) {m n : Moment} (hm : m ∈ h) (hn : n ∈ h) {k : Ticket}
    (em : m.move.ticket? = some k) (en : n.move.ticket? = some k) : m = n :=
  eq_of_mem_filterMap run.nodup_requested hm hn em en

/-- A request installs one transaction only. -/
theorem installed_unique (run : IsRun h d) {k : Ticket} {t t' : Transaction}
    (one : Installed h k t) (other : Installed h k t') : t = t' := by
  obtain ⟨m, hm, _, _, _, em, _, it⟩ := one
  obtain ⟨n, hn, _, _, _, en, _, it'⟩ := other
  obtain rfl := run.moment_unique (k := k) hm hn (by rw [em]; rfl) (by rw [en]; rfl)
  exact Option.some.inj (it.symm.trans it')

end IsRun

/-! ## Trips -/

/-- The trip that begins: a request installs a transaction. -/
def Moment.asked? (m : Moment) : Option Outstanding :=
  m.move.ticket?.bind fun k => m.installed?.map fun t => ⟨t, k⟩

theorem Moment.ticket?_of_asked? {m : Moment} {o : Outstanding} (asked : m.asked? = some o) :
    m.move.ticket? = some o.ticket ∧ m.installed? = some o.tx := by
  obtain ⟨k, ek, asked⟩ := Option.bind_eq_some_iff.1 asked
  obtain ⟨t, et, rfl⟩ := Option.map_eq_some_iff.1 asked
  exact ⟨ek, et⟩

theorem Moment.asked?_of_seq_next {m : Moment} {k : Ticket} {t : Transaction}
    (own : m.move.ticket? = some k) (next : m.outcome.seq = m.before.seq + 1)
    (tracked : m.outcome.tx = some t) : m.asked? = some ⟨t, k⟩ := by
  rw [asked?, own, installed?_of_seq_next next, tracked]
  rfl

namespace History

/-- The trips that have begun. -/
def begun (h : History) : List Outstanding := h.filterMap (·.asked?)

@[simp]
theorem begun_snoc (h : History) (m : Moment) : begun (h ++ [m]) = begun h ++ m.asked?.toList := by
  cases e : m.asked? <;> simp [begun, e]

theorem mem_begun {h : History} {o : Outstanding} : o ∈ begun h ↔ ∃ m ∈ h, m.asked? = some o :=
  List.mem_filterMap

end History

namespace Standing

/-- The trips that were asked for. -/
def asked (s : Standing) : List Outstanding := s.said.filterMap (·.negotiated?)

theorem asked_say (s : Standing) (es : List Effect) :
    (s.say es).asked = s.asked ++ es.filterMap (·.negotiated?) := List.filterMap_append ..

theorem asked_dismissals (v : View) (cs : List Command) :
    (Command.dismissals v cs).filterMap (·.negotiated?) = [] := by
  induction cs with
  | nil => rfl
  | cons c cs ih =>
    rw [Command.dismissals_cons, List.filterMap_append, ih]
    cases c <;> rfl

theorem asked_post (s : Standing) (v : View) (cs : List Command) :
    (s.post v cs).asked = s.asked := by
  unfold post
  split
  · rw [asked_say, asked_dismissals, List.append_nil]
  · rfl

end Standing

section Step

variable {d : Desk} {m : Move} {s : Standing}

/-- Nothing begins where no number is given out. -/
theorem Moment.asked?_of_seq_eq (same : (Moment.mk d m).outcome.seq = d.seq) :
    (Moment.mk d m).asked? = none := by
  rw [Moment.asked?, Moment.installed?_of_seq_eq same]
  cases m.ticket? <;> rfl

/-- Nothing begins by a move that is no request. -/
theorem Moment.asked?_of_ticket? (none : m.ticket? = .none) : (Moment.mk d m).asked? = .none := by
  rw [Moment.asked?, show (Moment.mk d m).move.ticket? = .none from none]
  rfl

/-- A trip that begins is to be launched, until the vehicle is asked. -/
theorem Change.asked_eq (change : Change d m s) (out : (Moment.mk d m).outcome = s)
    (silent : d.standing.said = []) :
    (s.asked : Multiset Outstanding) + s.launching =
      d.standing.launching + (Moment.mk d m).asked?.toList := by
  have before : d.standing.asked = [] := by
    rw [Standing.asked, silent]
    rfl
  -- Any other move asks nothing, begins nothing and leaves what is to be launched.
  have other (none : s.asked = []) (on : (Moment.mk d m).asked? = .none)
      (same : s.launching = d.standing.launching) :
      (s.asked : Multiset Outstanding) + s.launching =
        d.standing.launching + (Moment.mk d m).asked?.toList := by
    rw [none, on, same]
    exact Multiset.add_comm ..
  have silence {es : List Effect} (none : es.filterMap (·.negotiated?) = []) {s : Standing}
      (said : s.said = []) : (s.say es).asked = [] := by
    rw [Standing.asked_say, none, List.append_nil, Standing.asked, said]
    rfl
  cases change with
  | installed tx new =>
    rw [Moment.asked?_of_seq_next rfl (congrArg Standing.seq out) (congrArg Standing.tx out)]
    simp [Standing.asked, silent, Multiset.add_comm d.standing.launching]
  | launched o rest own launching =>
    rw [Moment.asked?_of_ticket? rfl, launching]
    simp [Standing.say, Standing.asked, silent, Effect.negotiated?]
  | rejected => exact other (silence rfl silent) (Moment.asked?_of_seq_eq (out ▸ rfl)) rfl
  | direct =>
    exact other ((Standing.asked_post ..).trans before)
      (Moment.asked?_of_seq_eq (out ▸ Standing.post_seq ..)) (Standing.post_launching ..)
  | tripEnded | initiated | events =>
    exact other ((Standing.asked_post ..).trans before) (Moment.asked?_of_ticket? rfl)
      (Standing.post_launching ..)
  | started | noted | initiatedDone | marked => exact other before (Moment.asked?_of_ticket? rfl) rfl
  | superseded | denied | approved | directTaken | initiatedTaken | unlocked | commitSuperseded
  | commitFailed | commitDone | directFailed | directDone | initiatedFailed =>
    exact other (silence rfl silent) (Moment.asked?_of_ticket? rfl) rfl
  | closed tx w down =>
    exact other (silence (Standing.asked_dismissals ..) silent)
      (Moment.asked?_of_ticket? (by rcases down with rfl | rfl <;> rfl)) rfl
  | adjusted => exact other before (Moment.asked?_of_seq_eq (out ▸ rfl)) rfl

/-- Trips are outstanding when they begin, and are gone when they end. -/
theorem Change.trips_eq (change : Change d m s) (out : (Moment.mk d m).outcome = s) (k : Ticket) :
    m.ended?.toList.count k + s.trips.countP (·.ticket = k) =
      d.standing.trips.countP (·.ticket = k) +
        (Moment.mk d m).asked?.toList.countP (·.ticket = k) := by
  -- Any other move leaves the trips as they are.
  have other (none : (Moment.mk d m).asked? = .none) (on : m.ended? = .none)
      (same : s.trips = d.standing.trips) :
      m.ended?.toList.count k + s.trips.countP (·.ticket = k) =
        d.standing.trips.countP (·.ticket = k) +
          (Moment.mk d m).asked?.toList.countP (·.ticket = k) := by
    rw [none, on, same, Nat.add_comm]
    rfl
  cases change with
  | installed tx new =>
    rw [Moment.asked?_of_seq_next rfl (congrArg Standing.seq out) (congrArg Standing.tx out)]
    simp [Move.ended?, List.countP_singleton, Multiset.countP_cons]
  | tripEnded o rest own trips =>
    rw [Moment.asked?_of_ticket? rfl, Standing.post_trips, trips]
    simp [Move.ended?, own, List.count_singleton, Multiset.countP_cons, Nat.add_comm]
  | direct =>
    exact other (Moment.asked?_of_seq_eq (out ▸ Standing.post_seq ..)) rfl (Standing.post_trips ..)
  | initiated | events =>
    exact other (Moment.asked?_of_ticket? rfl) rfl (Standing.post_trips ..)
  | rejected => exact other (Moment.asked?_of_seq_eq (out ▸ rfl)) rfl rfl
  | launched | started | noted | initiatedDone | marked | superseded | denied | approved
  | directTaken | initiatedTaken | unlocked | commitSuperseded | commitFailed | commitDone
  | directFailed | directDone | initiatedFailed =>
    exact other (Moment.asked?_of_ticket? rfl) rfl rfl
  | closed tx w down =>
    exact other (Moment.asked?_of_ticket? (by rcases down with rfl | rfl <;> rfl))
      (by rcases down with rfl | rfl <;> rfl) rfl
  | adjusted quiet =>
    exact other (Moment.asked?_of_seq_eq (out ▸ rfl)) (by cases m <;> first | rfl | cases quiet) rfl

end Step

namespace IsRun

variable {h : History} {d : Desk}

/-- The vehicle is asked once about each transaction that a request installs, or
    will be when its trip is launched. -/
theorem begun_perm (run : IsRun h d) :
    (begun h).Perm (negotiated h ++ d.launching.map (·.trip)) := by
  rw [← Multiset.coe_eq_coe, ← Multiset.coe_add]
  induction run with
  | fresh => rfl
  | @step h d m run able ih =>
    have change := (run.change able).asked_eq rfl run.said_eq_nil
    rw [Standing.asked, ← Moment.negotiated_eq] at change
    rw [begun_snoc, negotiated_snoc, ← Multiset.coe_add, ← Multiset.coe_add, ih, Multiset.add_assoc,
      Multiset.add_assoc]
    exact congrArg (_ + ·) change.symm

/-- Only requests begin a trip, each of them one. -/
theorem begun_le_requested (run : IsRun h d) (k : Ticket) :
    (begun h).countP (·.ticket = k) ≤ (requested h).count k := by
  induction run with
  | fresh => exact Nat.le_refl 0
  | @step h d m run able ih =>
    rw [begun_snoc, requested_snoc, List.countP_append, List.count_append]
    refine Nat.add_le_add ih ?_
    cases e : (Moment.mk d m).asked? with
    | none => exact Nat.zero_le _
    | some o =>
      rw [show m.ticket? = some o.ticket from (Moment.ticket?_of_asked? e).1]
      simp [List.countP_singleton, List.count_singleton]

/-- No request asks the vehicle twice. -/
theorem nodup_negotiated (run : IsRun h d) : ((negotiated h).map (·.ticket)).Nodup := by
  refine nodup_map_of_countP fun k => ?_
  calc (negotiated h).countP (·.ticket = k)
      ≤ (negotiated h ++ d.launching.map (·.trip)).countP (·.ticket = k) := by
        rw [List.countP_append]
        exact Nat.le_add_right ..
    _ = (begun h).countP (·.ticket = k) := (run.begun_perm.countP_eq _).symm
    _ ≤ (requested h).count k := run.begun_le_requested k
    _ ≤ 1 := List.nodup_iff_count_le_one.1 run.nodup_requested k

/-- A request that asks the vehicle installs its transaction. -/
theorem exists_of_negotiated (run : IsRun h d) {k : Ticket}
    (asked : k ∈ (negotiated h).map (·.ticket)) :
    ∃ m ∈ h, ∃ t, m.move.ticket? = some k ∧ m.installed? = some t := by
  obtain ⟨o, mem, rfl⟩ := List.mem_map.1 asked
  obtain ⟨m, hm, begins⟩ := mem_begun.1 (run.begun_perm.mem_iff.2 (List.mem_append_left _ mem))
  exact ⟨m, hm, o.tx, Moment.ticket?_of_asked? begins⟩

theorem not_unasked_of_negotiated (run : IsRun h d) {k : Ticket}
    (asked : k ∈ (negotiated h).map (·.ticket)) : ¬Unasked h k := by
  rintro ⟨n, hn, _, _, _, _, en, _, none⟩
  obtain ⟨m, hm, t, own, installed⟩ := run.exists_of_negotiated asked
  obtain rfl := run.moment_unique hm hn own (by rw [en]; rfl)
  exact nomatch none.symm.trans installed

/-- Every trip that began has ended or is outstanding. -/
theorem trips_eq (run : IsRun h d) (k : Ticket) :
    (ended h).count k + d.standing.trips.countP (·.ticket = k) =
      (begun h).countP (·.ticket = k) := by
  induction run with
  | fresh => rfl
  | @step h d m run able ih =>
    have change := (run.change able).trips_eq rfl k
    rw [ended_snoc, begun_snoc, List.count_append, List.countP_append, ← ih, Moment.standing_after]
    dsimp only
    omega

/-- No trip ends twice. -/
theorem nodup_ended (run : IsRun h d) : (ended h).Nodup := by
  refine List.nodup_iff_count_le_one.2 fun k => ?_
  have once := List.nodup_iff_count_le_one.1 run.nodup_requested k
  have began := run.begun_le_requested k
  have := run.trips_eq k
  omega

/-- A trip ends in one way only. -/
theorem ended_unique (run : IsRun h d) {k : Ticket} {r r' : Vehicle.SwitchResponse}
    {f f' : Option Fault} (one : Ended h k r f) (other : Ended h k r' f') : r = r' ∧ f = f' := by
  obtain ⟨m, hm, _, em⟩ := one
  obtain ⟨n, hn, _, en⟩ := other
  obtain rfl : m = n := eq_of_mem_filterMap (a := k) run.nodup_ended hm hn (by rw [em]; rfl)
    (by rw [en]; rfl)
  cases em.symm.trans en
  exact ⟨rfl, rfl⟩

end IsRun

end HeadUnit.Switching
