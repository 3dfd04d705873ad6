import Mathlib.Data.List.Induction
import HeadUnit.Sessions
import HeadUnit.Proofs.Switching.Numbering

/-!
# The order of answers

Requests that were made one after the other may be answered in any order. As
every request that installs a transaction takes the next number, only the answer
to the last one finds its transaction tracked, before and after all the others
have been applied:

* an answer that comes too late only gives its request the result that it was
  abandoned (`Office.apply_late`);
* what the answer in time does depends on nothing that was said before
  (`Office.apply_prepend`), and it leaves all others too late
  (`Office.settles_apply`).

So all orders of the answers agree on everything but the order in which requests
learn that they were abandoned (`Office.applyAll_split`). An `Office` is a desk
with the sessions it commits to; the events of the sessions are held back.
-/

namespace HeadUnit.Switching

/-! ## Requests -/

/-- What is done about a request: it is made, and launched if it has installed a transaction. -/
inductive Query
  | request (view : View) (poster : Poster) (ticket : Ticket) (target : UserId) (timeout : Duration)
  | launch (ticket : Ticket)

namespace Query

def move : Query → Move
  | request v p k target timeout => .request v p k target timeout
  | launch k => .launch k

/-- The ticket of a request that is made. -/
def ticket? (q : Query) : Option Ticket := q.move.ticket?

end Query

namespace Desk

/-- Requests are made and launched, one after the other. -/
def queries (d : Desk) (qs : List Query) : Desk := qs.foldl (fun d q => d.move q.move) d

/-- The trips that begin with the queries, in the order in which their
    transactions are installed. -/
def begun (d : Desk) : List Query → List Outstanding
  | [] => []
  | q :: qs => (Moment.mk d q.move).asked?.toList ++ (d.move q.move).begun qs

theorem queries_snoc (d : Desk) (qs : List Query) (q : Query) :
    d.queries (qs ++ [q]) = (d.queries qs).move q.move := List.foldl_append

theorem begun_snoc (d : Desk) (qs : List Query) (q : Query) :
    d.begun (qs ++ [q]) = d.begun qs ++ (Moment.mk (d.queries qs) q.move).asked?.toList := by
  induction qs generalizing d with
  | nil => exact List.append_nil _
  | cons r qs ih =>
    rw [List.cons_append, begun, begun, ih, List.append_assoc]
    rfl

/-- The results that requests got. -/
def results (d : Desk) : List (Ticket × SwitchResult) := d.out.filterMap (·.result?)

/-- The results of the request with the ticket `k`. -/
def resultsOf (d : Desk) (k : Ticket) : List (Ticket × SwitchResult) :=
  d.results.filter (·.1 = k)

/-- What the vehicle was told. -/
def notices (d : Desk) : List Vehicle.Notice := d.out.filterMap fun
  | .notify n => some n
  | _ => none

/-- The switches that were shown in progress. -/
def signals (d : Desk) : List UserId := d.out.filterMap fun
  | .signal target => some target
  | _ => none

end Desk

namespace Standing

/-- The results that requests got. -/
def results (s : Standing) : List (Ticket × SwitchResult) := s.said.filterMap (·.result?)

theorem results_say (s : Standing) (es : List Effect) :
    (s.say es).results = s.results ++ es.filterMap (·.result?) := List.filterMap_append

end Standing

theorem Desk.standing_results (d : Desk) : d.standing.results = d.results :=
  filterMap_loud result?_of_quiet _

/-- What a query can do to the tracked transaction, the trips that have begun and
    the results. -/
inductive Asks (d : Desk) (q : Query) (s' : Standing) : Prop
  /-- No trip begins; there is at most a result for the request. -/
  | refused (worker : s'.worker = d.worker) (tx : s'.tx = d.tx) (seq : s'.seq = d.seq)
      (none : (Moment.mk d q.move).asked? = none) (rs : List (Ticket × SwitchResult))
      (results : s'.results = d.results ++ rs) (own : (rs.map (·.1)).Sublist q.ticket?.toList)
  /-- A trip begins, with the next number. -/
  | began (k : Ticket) (own : q.ticket? = some k) (worker : s'.worker = d.worker) (tx : Transaction)
      (tracked : s'.tx = some tx) (seq : s'.seq = d.seq + 1) (number : tx.seq = d.seq + 1)
      (begins : (Moment.mk d q.move).asked? = some ⟨tx, k⟩) (results : s'.results = d.results)

theorem asks_request (d : Desk) (v : View) (p : Poster) (k : Ticket) (target : UserId)
    (timeout : Duration) : Asks d (.request v p k target timeout)
      (d.request v p k target timeout).standing := by
  have change := change_request d v p k target timeout
  have before := d.standing_results
  generalize out : (d.request v p k target timeout).standing = s at change ⊢
  replace out : (Moment.mk d (.request v p k target timeout)).outcome = s := out
  cases change with
  | @rejected _ _ _ _ _ status message =>
    refine .refused rfl rfl rfl (Moment.asked?_of_seq_eq (congrArg Standing.seq out))
      [(k, ⟨status, message⟩)] ?_ (List.Sublist.refl [k])
    rw [Standing.results_say, before]
    rfl
  | direct =>
    have same : (Moment.mk d (.request v p k target timeout)).asked? = none :=
      Moment.asked?_of_seq_eq ((congrArg Standing.seq out).trans (Standing.post_seq ..))
    unfold Standing.post
    split
    · refine .refused rfl rfl rfl same [(k, ⟨.osFailure, stoppedMessage⟩)] ?_
        (List.Sublist.refl [k])
      rw [Standing.results_say, before]
      rfl
    · exact .refused rfl rfl rfl same [] (before.trans (List.append_nil _).symm) (List.nil_sublist _)
  | installed tx new =>
    exact .began k rfl rfl tx rfl rfl (new ▸ rfl)
      (Moment.asked?_of_seq_next rfl (congrArg Standing.seq out) (congrArg Standing.tx out)) before
  | closed tx w down => rcases down with down | down <;> cases down
  | adjusted other => cases other

theorem asks_launch (d : Desk) (k : Ticket) : Asks d (.launch k) (d.launch k).standing := by
  have none : (Moment.mk d (.launch k)).asked? = none := Moment.asked?_of_ticket? rfl
  have before := d.standing_results
  unfold Desk.launch
  split
  · exact .refused rfl rfl rfl none [] (before.trans (List.append_nil _).symm) (List.nil_sublist _)
  · rw [Desk.standing_emit]
    refine .refused rfl rfl rfl none [] ?_ (List.nil_sublist _)
    rw [Standing.results_say]
    exact congrArg (· ++ []) before

theorem asks_query (d : Desk) (q : Query) : Asks d q (d.move q.move).standing := by
  cases q with
  | request v p k target timeout => exact asks_request d v p k target timeout
  | launch k => exact asks_launch d k

/-- Where queries on a silent desk `d` lead: trips that begin have the next
    numbers, the last one is tracked, and each request gets a result or has a trip
    begin, but not both. -/
structure Queried (d : Desk) (qs : List Query) (d' : Desk) : Prop where
  worker : d'.worker = d.worker
  seq : d'.seq = d.seq + UInt64.ofNat (d.begun qs).length
  numbers : (d.begun qs).map (·.tx.seq) =
    (List.range (d.begun qs).length).map fun i => d.seq + UInt64.ofNat (i + 1)
  tracked : ∀ o, (d.begun qs).getLast? = some o → d'.tx = some o.tx
  once : ∀ k, d'.results.countP (·.1 = k) + (d.begun qs).countP (·.ticket = k) ≤
    (qs.filterMap (·.ticket?)).count k

theorem queried_queries {d : Desk} (silent : d.out = []) (qs : List Query) :
    Queried d qs (d.queries qs) := by
  induction qs using List.reverseRecOn with
  | nil =>
    have results : d.results = [] := by rw [Desk.results, silent, List.filterMap_nil]
    refine ⟨rfl, ?_, ?_, ?_, ?_⟩ <;> simp [Desk.queries, Desk.begun, results]
  | append_singleton qs q ih =>
    have asks := asks_query (d.queries qs) q
    have begun := d.begun_snoc qs q
    have tickets (k : Ticket) : ((qs ++ [q]).filterMap (·.ticket?)).count k =
        (qs.filterMap (·.ticket?)).count k + q.ticket?.toList.count k := by
      rw [List.filterMap_append, List.count_append]
      cases e : q.ticket? <;> simp [e]
    rw [← Desk.queries_snoc] at asks
    generalize d.queries (qs ++ [q]) = d'' at asks
    generalize d.queries qs = d' at ih asks begun
    cases asks with
    | refused worker tx seq none rs results own =>
      rw [Desk.standing_results] at results
      rw [none, Option.toList_none, List.append_nil] at begun
      refine ⟨worker.trans ih.worker, ?_, ?_, ?_, fun k => ?_⟩
      · rw [show d''.seq = d'.seq from seq, begun, ih.seq]
      · rw [begun, ih.numbers]
      · rw [begun, show d''.tx = d'.tx from tx]
        exact ih.tracked
      · have new := own.count_le k
        rw [List.count, List.countP_map] at new
        have old := ih.once k
        rw [results, begun, List.countP_append, tickets]
        exact (Nat.add_right_comm ..).trans_le (Nat.add_le_add old new)
    | began k own worker tx tracked seq number begins results =>
      rw [Desk.standing_results] at results
      rw [begins, Option.toList_some] at begun
      have next : d'.seq + 1 = d.seq + UInt64.ofNat ((d.begun qs).length + 1) := by
        rw [ih.seq, UInt64.ofNat_add, UInt64.add_assoc]
        rfl
      refine ⟨worker.trans ih.worker, ?_, ?_, fun o last => ?_, fun k => ?_⟩
      · rw [begun, List.length_append]
        exact seq.trans next
      · rw [begun, List.length_append, List.length_singleton, List.map_append, ih.numbers,
          List.range_succ, List.map_append, List.map_singleton, List.map_singleton, ← next, number]
      · rw [begun, List.getLast?_concat, Option.some.injEq] at last
        rw [show d''.tx = some tx from tracked, ← last]
      · have old := ih.once k
        rw [results, begun, List.countP_append, tickets, own, ← Nat.add_assoc]
        refine Nat.add_le_add old (le_of_eq ?_)
        simp [List.countP_singleton, List.count_singleton]

/-- No two trips have the same number, unless the counter goes all the way round. -/
theorem Queried.nodup_seqs {d d' : Desk} {qs : List Query} (queried : Queried d qs d')
    (few : (d.begun qs).length ≤ 2 ^ 64) : ((d.begun qs).map (·.tx.seq)).Nodup := by
  rw [queried.numbers]
  refine List.Nodup.map_on (fun i hi j hj same => ?_) List.nodup_range
  rw [List.mem_range] at hi hj
  have same := congrArg UInt64.toNat (UInt64.add_right_inj d.seq |>.1 same)
  rw [UInt64.toNat_ofNat', UInt64.toNat_ofNat'] at same
  omega

/-! ### What was said before does not matter -/

namespace Desk

/-- The desk as if it had said `es` before all else. -/
def prepend (es : List Effect) (d : Desk) : Desk := { d with out := es ++ d.out }

variable (es : List Effect) (d : Desk)

theorem emit_prepend (fs : List Effect) : (d.prepend es).emit fs = (d.emit fs).prepend es := by
  simp [emit, prepend]

theorem signalPanel_prepend (target : UserId) :
    (d.prepend es).signalPanel target = (d.signalPanel target).prepend es := by
  unfold signalPanel
  rw [show (d.prepend es).panel = d.panel from rfl]
  split
  · rfl
  · dsimp only
    split <;> simp only [note, emit_prepend]

theorem applyAnswer_prepend (a : Answer) :
    (d.prepend es).applyAnswer a = (d.applyAnswer a).prepend es := by
  have clear : (d.prepend es).clear = d.clear.prepend es := emit_prepend es { d with tx := none } _
  have commit (c : Commit) (f : Transaction → Transaction) :
      ((d.prepend es).advance f).beginCommit c = ((d.advance f).beginCommit c).prepend es :=
    emit_prepend es { d.advance f with worker := .committing c } _
  unfold applyAnswer
  rw [show (d.prepend es).isCurrent a.tx = d.isCurrent a.tx from rfl]
  dsimp only
  split
  · simp only [note, resolve, emit_prepend]
  · split
    · simp only [clear, note, resolve, emit_prepend]
    · split
      · simp only [clear, note, resolve, emit_prepend]
      · exact commit _ _
      · simp only [clear, note, resolve, emit_prepend]

theorem answerCommitted_prepend (v : View) (a : Answer) (fault : Option Fault) :
    (d.prepend es).answerCommitted v a fault = (d.answerCommitted v a fault).prepend es := by
  have clear : (d.prepend es).clear = d.clear.prepend es := emit_prepend es { d with tx := none } _
  have advance (f : Transaction → Transaction) :
      (d.prepend es).advance f = (d.advance f).prepend es := rfl
  unfold answerCommitted
  rw [show (d.prepend es).isCurrent a.tx = d.isCurrent a.tx from rfl]
  dsimp only
  split
  · simp only [note, resolve, emit_prepend]
  · split
    · simp only [clear, note, acknowledge, resolve, emit_prepend]
    · simp only [advance, signalPanel_prepend, resolve, emit_prepend]

theorem committed_prepend {d : Desk} {a : Answer} (doing : d.worker = .committing (.answer a))
    (v : View) (fault : Option Fault) :
    (d.prepend es).committed v fault = (d.committed v fault).prepend es := by
  unfold committed
  rw [show (d.prepend es).worker = d.worker from rfl, doing]
  exact answerCommitted_prepend es { d with worker := .idle } v a fault

end Desk

/-! ### What an answer leads to -/

/-- The answer `a` is done with: its request has got one result, and at most the
    transaction that was tracked is still tracked. -/
structure Settles (d : Desk) (a : Answer) (d' : Desk) : Prop where
  worker : d'.worker = .idle
  tx : ∀ t, d'.tx = some t → ∃ t₀, d.tx = some t₀ ∧ t.seq = t₀.seq
  result : ∃ r, d'.results = d.results ++ [(a.ticket, r)]

namespace Desk

variable {d : Desk} (free : d.worker = .idle) (a : Answer)

theorem results_emit (d : Desk) (es : List Effect) :
    (d.emit es).results = d.results ++ es.filterMap (·.result?) := List.filterMap_append

theorem results_note (d : Desk) (n : Note) : (d.note n).results = d.results :=
  (results_emit ..).trans (List.append_nil _)

theorem results_resolve (d : Desk) (k : Ticket) (target : UserId) (status : SwitchStatus)
    (message : String) :
    (d.resolve k target status message).results = d.results ++ [(k, ⟨status, message⟩)] :=
  results_emit ..

theorem results_signalPanel (d : Desk) (target : UserId) :
    (d.signalPanel target).results = d.results := by
  unfold signalPanel
  split
  · rfl
  · dsimp only
    split
    · exact (results_emit ..).trans (List.append_nil _)
    · rw [results_note]
      exact (results_emit ..).trans (List.append_nil _)

theorem signalPanel_tx (d : Desk) (target : UserId) : (d.signalPanel target).tx = d.tx :=
  congrArg Standing.tx (d.standing_signalPanel target)

theorem signalPanel_worker (d : Desk) (target : UserId) :
    (d.signalPanel target).worker = d.worker :=
  congrArg Standing.worker (d.standing_signalPanel target)

include free

/-- An answer is done with at once, or its commit begins. -/
theorem applyAnswer_cases :
    Settles d a (d.applyAnswer a) ∨
      d.applyAnswer a =
        (d.advance fun t => { t with stage := .awaitingOSCommit }).beginCommit (.answer a) := by
  have cleared (n : Note) (target : UserId) (status : SwitchStatus) (message : String) :
      Settles d a ((d.clear.note n).resolve a.ticket target status message) :=
    ⟨free, nofun, _, by rw [results_resolve, results_note, clear, results_note]; rfl⟩
  unfold applyAnswer
  dsimp only
  split
  · exact .inl ⟨free, fun t ht => ⟨t, ht, rfl⟩, _, by rw [results_resolve, results_note]⟩
  · split
    · exact .inl (cleared ..)
    · split
      · exact .inl (cleared ..)
      · exact .inr rfl
      · exact .inl (cleared ..)

omit free in
/-- After its commit an answer is done with. -/
theorem settles_committed {a : Answer} (doing : d.worker = .committing (.answer a)) (v : View)
    (fault : Option Fault) : Settles d a (d.committed v fault) := by
  unfold committed
  rw [doing]
  dsimp only
  unfold answerCommitted
  dsimp only
  split
  · exact ⟨rfl, fun t ht => ⟨t, ht, rfl⟩, _, by rw [results_resolve, results_note]; rfl⟩
  · split
    · next f =>
      refine ⟨rfl, nofun, ⟨.osFailure, f.message⟩, ?_⟩
      rw [results_resolve, acknowledge, results_emit, results_note, clear, results_note]
      exact congrArg (· ++ _) (List.append_nil _)
    · refine ⟨signalPanel_worker .., fun t ht => ?_, ⟨.successful, ""⟩, ?_⟩
      · have advanced := (signalPanel_tx ..).symm.trans ht
        obtain ⟨t₀, tracked, rfl⟩ := Option.map_eq_some_iff.1 advanced
        exact ⟨t₀, tracked, rfl⟩
      · rw [results_resolve, results_signalPanel]
        rfl

end Desk

/-! ## Applying answers -/

/-- A desk with the sessions it commits to. Events of the sessions are held back. -/
structure Office where
  desk : Desk
  sessions : Sessions
  users : List User
  negotiates : Bool
  millis : Int64
  held : List Event := []

namespace Office

/-- What the desk sees. -/
def view (o : Office) : View := ⟨o.users, o.sessions.current, o.negotiates⟩

/-- Requests are made and launched, one after the other. -/
def queries (o : Office) (qs : List Query) : Office := { o with desk := o.desk.queries qs }

/-- The sessions bring a user to the foreground, or fail to. -/
def switched (o : Office) (target : UserId) : Office × Option Fault :=
  match o.sessions.switchTo target o.millis with
  | .error f => (o, some f)
  | .ok (sessions, es) => ({ o with sessions := sessions, held := o.held ++ es }, none)

/-- The sessions perform the switch that the worker waits for, if there is one. -/
def commit (o : Office) : Office :=
  match o.desk.worker with
  | .committing c =>
    let (o, fault) := o.switched c.target
    { o with desk := o.desk.committed o.view fault }
  | _ => o

/-- The worker applies an answer, with the commit that it may lead to. -/
def apply (o : Office) (a : Answer) : Office :=
  { o with desk := o.desk.apply o.view (.answer a) }.commit

/-- The worker applies answers, one after the other. -/
def applyAll (o : Office) (as : List Answer) : Office := as.foldl apply o

/-- The office as if its desk had said `es` before all else. -/
def prepend (es : List Effect) (o : Office) : Office := { o with desk := o.desk.prepend es }

/-- The office, once its desk has said `es`. -/
def say (o : Office) (es : List Effect) : Office := { o with desk := o.desk.emit es }

/-- The sessions do not look at the desk. -/
theorem switched_desk (o : Office) (d : Desk) (target : UserId) :
    { o with desk := d }.switched target =
      ({ (o.switched target).1 with desk := d }, (o.switched target).2) := by
  unfold switched
  dsimp only
  split <;> rfl

/-- Without a commit to wait for, nothing happens. -/
theorem commit_of_idle {o : Office} (free : o.desk.worker = .idle) : o.commit = o := by
  unfold commit
  rw [free]

theorem commit_of_committing (o : Office) {d : Desk} {c : Commit}
    (doing : d.worker = .committing c) :
    { o with desk := d }.commit =
      { (o.switched c.target).1 with
        desk := d.committed (o.switched c.target).1.view (o.switched c.target).2 } := by
  unfold commit
  simp only [doing, switched_desk o d]
  rfl

end Office

/-! ### An answer in time -/

namespace Office

variable {o : Office} (free : o.desk.worker = .idle) (a : Answer)

include free

/-- After an answer was applied, it is done with. -/
theorem settles_apply : Settles o.desk a (o.apply a).desk := by
  unfold apply
  rw [Desk.apply]
  rcases o.desk.applyAnswer_cases free a with settled | commits
  · rwa [commit_of_idle (by exact settled.worker)]
  · rw [commits, commit_of_committing o (by rfl)]
    -- What the commit starts from differs from the desk in the stage of the transaction.
    obtain ⟨worker, tx, r, results⟩ := Desk.settles_committed (a := a)
      (d := (o.desk.advance fun t => { t with stage := .awaitingOSCommit }).beginCommit (.answer a))
      rfl (o.switched a.tx.target).1.view (o.switched a.tx.target).2
    refine ⟨worker, fun t ht => ?_, r, results.trans (congrArg (· ++ _) ?_)⟩
    · obtain ⟨t₁, ht₁, seq⟩ := tx t ht
      obtain ⟨t₀, tracked, rfl⟩ := Option.map_eq_some_iff.1 ht₁
      exact ⟨t₀, tracked, seq⟩
    · exact (Desk.results_emit ..).trans (List.append_nil _)

/-- What applying an answer does depends on nothing that was said before. -/
theorem apply_prepend (es : List Effect) : (o.prepend es).apply a = (o.apply a).prepend es := by
  have applied : (o.prepend es).apply a =
      { o with desk := (o.desk.applyAnswer a).prepend es }.commit :=
    congrArg (fun d => { o with desk := d }.commit) (Desk.applyAnswer_prepend ..)
  have unapplied : o.apply a = { o with desk := o.desk.applyAnswer a }.commit := rfl
  rw [applied, unapplied]
  rcases o.desk.applyAnswer_cases free a with settled | commits
  · have idle : { o with desk := o.desk.applyAnswer a }.commit = _ := commit_of_idle settled.worker
    rw [idle]
    exact commit_of_idle settled.worker
  · have doing : (o.desk.applyAnswer a).worker = .committing (.answer a) := by
      rw [commits]
      rfl
    rw [commit_of_committing o doing, commit_of_committing o (d := Desk.prepend ..) doing,
      Desk.committed_prepend es doing]
    rfl

end Office

/-! ### Answers that come too late -/

namespace Answer

/-- What is said about an answer that comes too late. -/
def abandonment (a : Answer) : List Effect :=
  [.note (Note.info "switch superseded by newer request"
      [Log.int "target" a.tx.target, Log.str "token" a.response.token.text]),
    .note (.count (.switchResult .abandonedForNewerRequest)),
    .note (Note.debug "switch resolved"
      [Log.int "target" a.tx.target, Log.str "status" SwitchStatus.abandonedForNewerRequest.text,
        Log.str "message" ""]),
    .reply a.ticket ⟨.abandonedForNewerRequest, ""⟩]

/-- The result of a request whose answer comes too late. -/
def abandoned (a : Answer) : Ticket × SwitchResult :=
  (a.ticket, ⟨.abandonedForNewerRequest, ""⟩)

end Answer

/-- What is heard of answers that come too late is heard of each of them. -/
theorem filterMap_abandonments {α : Type} {f : Effect → Option α} {g : Answer → List α}
    (each : ∀ a, (Answer.abandonment a).filterMap f = g a) (as : List Answer) :
    (as.flatMap (·.abandonment)).filterMap f = as.flatMap g := by
  rw [List.filterMap_flatMap]
  exact List.flatMap_congr fun a _ => each a

namespace Office

variable {o : Office} (free : o.desk.worker = .idle)

include free

theorem apply_late {a : Answer} (late : o.desk.isCurrent a.tx = false) :
    o.apply a = o.say a.abandonment := by
  have said : o.desk.apply o.view (.answer a) = o.desk.emit a.abandonment := by
    simp [Desk.apply, Desk.applyAnswer, late, Desk.note, Desk.resolve, Desk.emit,
      Answer.abandonment]
  rw [apply, said]
  exact commit_of_idle free

theorem applyAll_late {as : List Answer} (late : ∀ a ∈ as, o.desk.isCurrent a.tx = false) :
    o.applyAll as = o.say (as.flatMap (·.abandonment)) := by
  induction as generalizing o with
  | nil => simp [applyAll, say, Desk.emit]
  | cons a as ih =>
    have rest := ih (o := o.say a.abandonment) free fun b hb => late b (List.mem_cons_of_mem _ hb)
    rw [applyAll, List.foldl_cons, apply_late free (late a List.mem_cons_self), ← applyAll, rest]
    simp [say, Desk.emit]

end Office

/-! ## Any order -/

/-- The office with nothing said. -/
def Office.hush (o : Office) : Office := { o with desk := { o.desk with out := [] } }

/-- The answer to a trip. -/
def Outstanding.answer (o : Outstanding)
    (reply : Outstanding → Vehicle.SwitchResponse × Option Fault) : Answer :=
  ⟨o.tx, (reply o).1, (reply o).2, o.ticket⟩

/-- If `a` answers the tracked transaction and the others do not, they only
    surround what `a` does, wherever it stands among them. -/
theorem Office.applyAll_split {o : Office} (free : o.desk.worker = .idle)
    {before after : List Answer} {a : Answer} (tracked : o.desk.tx = some a.tx)
    (apart : ∀ b ∈ before ++ after, b.tx.seq ≠ a.tx.seq) :
    o.applyAll (before ++ a :: after) =
      ((o.hush.apply a).prepend (o.desk.out ++ before.flatMap (·.abandonment))).say
        (after.flatMap (·.abandonment)) := by
  have late {d : Desk} (same : ∀ t, d.tx = some t → t.seq = a.tx.seq) {b : Answer}
      (hb : b ∈ before ++ after) : d.isCurrent b.tx = false := by
    rw [Bool.eq_false_iff]
    intro current
    obtain ⟨t, ht, seq⟩ := Desk.isCurrent_iff.1 current
    exact apart b hb (seq.symm.trans (same t ht))
  have first : o.applyAll before = _ := applyAll_late free fun b hb =>
    late (fun t ht => congrArg Transaction.seq (Option.some.inj (ht.symm.trans tracked)))
      (List.mem_append_left _ hb)
  have said : o.say (before.flatMap (·.abandonment)) =
      o.hush.prepend (o.desk.out ++ before.flatMap (·.abandonment)) := by
    simp [say, hush, prepend, Desk.emit, Desk.prepend]
  have settled := settles_apply (o := o.hush) free a
  have parts : o.applyAll (before ++ a :: after) =
      ((o.applyAll before).apply a).applyAll after := List.foldl_append
  rw [parts, first, said, apply_prepend (o := o.hush) free]
  refine applyAll_late (o := prepend _ (o.hush.apply a)) settled.worker fun b hb =>
    late (fun t ht => ?_) (List.mem_append_right _ hb)
  obtain ⟨t₀, ht₀, seq⟩ := settled.tx t ht
  rw [seq, Option.some.inj (ht₀.symm.trans tracked)]

/-- Lists of at most one element have one order only. -/
theorem eq_of_perm_of_length_le_one {α : Type} {l l' : List α} (perm : l.Perm l')
    (one : l.length ≤ 1) : l = l' := by
  match l, one with
  | [], _ => exact perm.nil_eq
  | [x], _ => exact perm.singleton_eq

/-- The office `o'` is `o` after the answers `late`, which came too late, and one in
    time, which on its own leads from a silent `o` to `base`. Only the order of the
    results is left open. -/
structure Office.Agrees (o base : Office) (late : List Answer) (o' : Office) : Prop where
  tx : o'.desk.tx = base.desk.tx
  sessions : o'.sessions = base.sessions
  notices : o'.desk.notices = o.desk.notices ++ base.desk.notices
  signals : o'.desk.signals = o.desk.signals ++ base.desk.signals
  results : o'.desk.results.Perm (o.desk.results ++ (late.map (·.abandoned) ++ base.desk.results))

theorem Office.agrees_applyAll {o : Office} (free : o.desk.worker = .idle) {late as : List Answer}
    {a : Answer} (tracked : o.desk.tx = some a.tx) (apart : ∀ b ∈ late, b.tx.seq ≠ a.tx.seq)
    (perm : as.Perm (late ++ [a])) : o.Agrees (o.hush.apply a) late (o.applyAll as) := by
  obtain ⟨before, after, rfl⟩ :=
    List.append_of_mem (perm.mem_iff.2 (List.mem_append_right _ (List.mem_singleton.2 rfl)))
  have others : (before ++ after).Perm late := by
    have ends := perm.trans (List.perm_append_singleton a late)
    exact (List.perm_middle.symm.trans ends).cons_inv
  have unheard {α : Type} (f : Effect → Option α)
      (each : ∀ a, (Answer.abandonment a).filterMap f = []) (as : List Answer) :
      (as.flatMap (·.abandonment)).filterMap f = [] := by
    rw [filterMap_abandonments each]
    exact List.flatMap_eq_nil_iff.2 fun _ _ => rfl
  have results (as : List Answer) :
      (as.flatMap (·.abandonment)).filterMap (·.result?) = as.map (·.abandoned) := by
    rw [filterMap_abandonments (g := fun a => [a.abandoned]) fun _ => rfl]
    exact (List.map_eq_flatMap ..).symm
  rw [applyAll_split free tracked fun b hb => apart b (others.mem_iff.1 hb)]
  refine ⟨rfl, rfl, ?_, ?_, ?_⟩
  · simp only [Desk.notices, say, prepend, Desk.emit, Desk.prepend, List.filterMap_append]
    rw [unheard _ fun _ => rfl, unheard _ fun _ => rfl, List.append_nil, List.append_nil]
  · simp only [Desk.signals, say, prepend, Desk.emit, Desk.prepend, List.filterMap_append]
    rw [unheard _ fun _ => rfl, unheard _ fun _ => rfl, List.append_nil, List.append_nil]
  · simp only [Desk.results, say, prepend, Desk.emit, Desk.prepend, List.filterMap_append]
    rw [results, results, List.append_assoc, List.append_assoc]
    refine List.Perm.append_left _ ?_
    refine (List.Perm.append_left _ List.perm_append_comm).trans ?_
    rw [← List.append_assoc, ← List.map_append]
    exact (others.map _).append_right _

/-- Every answer adds one result to those that its request has. -/
theorem Office.Agrees.length_resultsOf {o base o' : Office} {late : List Answer} {a : Answer}
    {r : SwitchResult} (agrees : o.Agrees base late o')
    (result : base.desk.results = [(a.ticket, r)]) (k : Ticket) :
    (o'.desk.resultsOf k).length =
      o.desk.results.countP (·.1 = k) + (late ++ [a]).countP (·.ticket = k) := by
  rw [Desk.resultsOf, ← List.countP_eq_length_filter, agrees.results.countP_eq, result,
    List.countP_append, List.countP_append, List.countP_map, List.countP_append,
    List.countP_singleton, List.countP_singleton]
  rfl

/-- Requests are made one after the other, and launched in whatever order, before
    any of them is answered, and then the answers are applied, in whatever order and
    with nothing in between.
    The order does not matter: every request gets the same result, and the same
    transaction is tracked, the same user is in the foreground, the vehicle is told
    the same and the same switches are shown. Every request whose trip began gets
    one result, and all of them but the last are abandoned for a newer request
    (unless the counter goes all the way round). -/
theorem applied_in_any_order {o : Office} (free : o.desk.worker = .idle)
    (silent : o.desk.out = []) {qs : List Query} (own : (qs.filterMap (·.ticket?)).Nodup)
    (few : (o.desk.begun qs).length ≤ 2 ^ 64)
    (reply : Outstanding → Vehicle.SwitchResponse × Option Fault) {as bs : List Answer}
    (one : as.Perm ((o.desk.begun qs).map (·.answer reply)))
    (other : bs.Perm ((o.desk.begun qs).map (·.answer reply))) :
    (∀ k, ((o.queries qs).applyAll as).desk.resultsOf k =
      ((o.queries qs).applyAll bs).desk.resultsOf k) ∧
    ((o.queries qs).applyAll as).desk.tx = ((o.queries qs).applyAll bs).desk.tx ∧
    ((o.queries qs).applyAll as).sessions = ((o.queries qs).applyAll bs).sessions ∧
    ((o.queries qs).applyAll as).desk.notices = ((o.queries qs).applyAll bs).desk.notices ∧
    ((o.queries qs).applyAll as).desk.signals = ((o.queries qs).applyAll bs).desk.signals ∧
    (∀ t ∈ o.desk.begun qs,
      (((o.queries qs).applyAll as).desk.resultsOf t.ticket).length = 1) ∧
    ∀ t ∈ (o.desk.begun qs).dropLast,
      ((o.queries qs).applyAll as).desk.resultsOf t.ticket =
        [(t.ticket, ⟨.abandonedForNewerRequest, ""⟩)] := by
  have queried := queried_queries silent qs
  have distinct := queried.nodup_seqs few
  have once (k : Ticket) := (queried.once k).trans (List.nodup_iff_count_le_one.1 own k)
  have tracked := queried.tracked
  replace free : (o.desk.queries qs).worker = .idle := queried.worker.trans free
  rw [show o.desk.queries qs = (o.queries qs).desk from rfl] at *
  clear queried silent few own
  generalize o.desk.begun qs = begun at *
  generalize o.queries qs = o at *
  rcases begun.eq_nil_or_concat with none | ⟨init, last, e⟩
  · rw [none, List.map_nil, List.perm_nil] at one other
    rw [one, other, none]
    exact ⟨fun _ => rfl, rfl, rfl, rfl, rfl, nofun, nofun⟩
  rw [List.concat_eq_append] at e
  rw [e] at one other distinct tracked once ⊢
  have apart : ∀ b ∈ init.map (·.answer reply), b.tx.seq ≠ (last.answer reply).tx.seq := by
    intro b hb
    obtain ⟨t, ht, rfl⟩ := List.mem_map.1 hb
    rw [List.map_append, List.nodup_append] at distinct
    exact distinct.2.2 _ (List.mem_map_of_mem ht) _ (List.mem_singleton.2 rfl)
  have agrees {cs : List Answer} (perm : cs.Perm ((init ++ [last]).map (·.answer reply))) :
      o.Agrees (o.hush.apply (last.answer reply)) (init.map (·.answer reply)) (o.applyAll cs) :=
    Office.agrees_applyAll free (tracked last (List.getLast?_concat ..)) apart
      (by rwa [List.map_append] at perm)
  obtain ⟨r, result⟩ := (Office.settles_apply (o := o.hush) free (last.answer reply)).result
  have total (k : Ticket) : ((o.applyAll as).desk.resultsOf k).length =
      o.desk.results.countP (·.1 = k) + (init ++ [last]).countP (·.ticket = k) := by
    rw [(agrees one).length_resultsOf result, List.countP_append, List.countP_map,
      List.countP_append, List.countP_singleton, List.countP_singleton]
    rfl
  have atMost (k : Ticket) : ((o.applyAll as).desk.resultsOf k).length ≤ 1 := total k ▸ once k
  have exactly : ∀ t ∈ init ++ [last], ((o.applyAll as).desk.resultsOf t.ticket).length = 1 := by
    intro t ht
    refine le_antisymm (atMost _) ?_
    rw [total]
    exact Nat.le_add_left_of_le (List.countP_pos_iff.2 ⟨t, ht, by simp⟩)
  refine ⟨fun k => ?_, (agrees one).tx.trans (agrees other).tx.symm,
    (agrees one).sessions.trans (agrees other).sessions.symm,
    (agrees one).notices.trans (agrees other).notices.symm,
    (agrees one).signals.trans (agrees other).signals.symm, exactly, fun t ht => ?_⟩
  · have same := (agrees one).results.trans (agrees other).results.symm
    exact eq_of_perm_of_length_le_one (same.filter _) (atMost k)
  · rw [List.dropLast_concat] at ht
    obtain ⟨x, hx⟩ := List.length_eq_one_iff.1 (exactly t (List.mem_append_left _ ht))
    have mem : (t.answer reply).abandoned ∈ (o.applyAll as).desk.resultsOf t.ticket := by
      refine List.mem_filter.2 ⟨(agrees one).results.mem_iff.2 ?_, decide_eq_true rfl⟩
      refine List.mem_append_right _ (List.mem_append_left _ ?_)
      exact List.mem_map_of_mem (List.mem_map_of_mem ht)
    rw [hx, List.mem_singleton] at mem
    rw [hx, ← mem]
    rfl

namespace Sample

/-- A desk at work, with the system user in the foreground. -/
def office : Office :=
  ⟨(Desk.fresh 0 false).start, Sessions.fresh UserId.system, [ann, bob], true, 0, []⟩

/-- Ann is asked for, then Bob, then Ann again; Bob's request is launched before Ann's. -/
def queries : List Query :=
  [.request view (.caller 1) 1 ann.id 0, .request view (.caller 2) 2 bob.id 0, .launch 2, .launch 1,
    .request view (.caller 3) 3 ann.id 0, .launch 3]

/-- The vehicle approves. -/
def approves (o : Outstanding) : Vehicle.SwitchResponse × Option Fault :=
  (approval ("T" ++ o.ticket.repr), none)

/-- The answers, in the order of the requests. -/
def answers : List Answer := (office.desk.begun queries).map (·.answer approves)

end Sample

/-- In the sample, Ann's first request is abandoned even if it is answered last, and
    the same transaction is tracked as if it is answered first. -/
theorem applied_in_reverse :
    ((Sample.office.queries Sample.queries).applyAll Sample.answers.reverse).desk.resultsOf 1 =
      [(1, ⟨.abandonedForNewerRequest, ""⟩)] ∧
    ((Sample.office.queries Sample.queries).applyAll Sample.answers.reverse).desk.tx =
      ((Sample.office.queries Sample.queries).applyAll Sample.answers).desk.tx := by
  have own : (Sample.queries.filterMap (·.ticket?)).Nodup := by decide
  have any := applied_in_any_order (o := Sample.office) rfl rfl own (by decide) Sample.approves
    (List.reverse_perm _) (List.Perm.refl _)
  refine ⟨any.2.2.2.2.2.2 ⟨⟨Sample.ann.id, Token.unset, UserId.system, .awaitingCoordinator, 1⟩, 1⟩ ?_,
    any.2.1⟩
  decide

end HeadUnit.Switching
