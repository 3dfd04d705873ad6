import HeadUnit.Proofs.Service.Dialogue

/-!
# Associations are what was last written

The reports of a dialogue say what is `recorded` for a type of a user: the last value of the last
successful write that names the type, unless the user was removed since.

The vehicle has in progress only questions of writes whose calls wait (`Questions`), so that a
write is reported as successful just when it is stored, and what the vehicle has in memory is what
is recorded (`Dialogue.Sound`). That follows one exchange at a time (`Dialogue.Sound.play`), and
the result is `associations_last_written`.
-/

namespace HeadUnit.Service

open Vehicle (Simulator Notice)
open HeadUnit.Service.System

/-! ## What is recorded -/

/-- The value of a type of a user by the reports, the newest of which comes first: the last one
    that a successful write has for the type, if the user was not removed later; else 0. -/
def recorded (user : UserId) (type : Int64) : List Report → Int64
  | [] => 0
  | .read .. :: older => recorded user type older
  | .wrote caller types values result :: older =>
    if caller = user ∧ result.status = .successful then
      ((types.zip values).reverse.lookup type).getD (recorded user type older)
    else recorded user type older
  | .removed gone :: older => if gone = user then 0 else recorded user type older

/-- The report is one of those that decide the value of a type of a user. -/
def Report.Touches (user : UserId) (type : Int64) : Report → Prop
  | .read .. => False
  | .wrote caller types _ result => caller = user ∧ result.status = .successful ∧ type ∈ types
  | .removed gone => gone = user

/-- Every successful read returns what is recorded before it. -/
def Faithful : List Report → Prop
  | [] => True
  | .read caller types result :: older =>
    (result.status = .successful →
      result.values = some (types.map fun type => recorded caller type older)) ∧ Faithful older
  | .wrote .. :: older | .removed _ :: older => Faithful older

/-- A type that is not written has no value among those written. -/
theorem lookup_unwritten {types : List Int64} {type : Int64} (absent : type ∉ types)
    (values : List Int64) : (types.zip values).reverse.lookup type = none := by
  rw [List.lookup_eq_none_iff]
  intro p mem
  have written := (List.of_mem_zip (List.mem_reverse.1 mem)).1
  exact bne_iff_ne.2 fun same : type = p.1 => absent (same ▸ written)

/-- Only the reports that touch a type of a user decide its value. -/
theorem recorded_untouched {user : UserId} {type : Int64} {x : Report}
    (other : ¬ x.Touches user type) (newer older : List Report) :
    recorded user type (newer ++ x :: older) = recorded user type (newer ++ older) := by
  induction newer with
  | cons y newer ih =>
    cases y <;> rw [List.cons_append, List.cons_append, recorded, recorded, ih]
  | nil =>
    rw [List.nil_append, List.nil_append]
    cases x with
    | read => rfl
    | removed gone => exact if_neg other
    | wrote caller types values r =>
      rw [recorded]
      by_cases own : caller = user ∧ r.status = .successful
      · rw [if_pos own, lookup_unwritten fun mem => other ⟨own.1, own.2, mem⟩]
        rfl
      · rw [if_neg own]

theorem Faithful.values {newer older : List Report} {caller : UserId} {types : List Int64}
    {r : AssociationResult} (faithful : Faithful (newer ++ .read caller types r :: older))
    (successful : r.status = .successful) :
    r.values = some (types.map fun type => recorded caller type older) := by
  induction newer with
  | nil => exact faithful.1 successful
  | cons x newer ih =>
    cases x with
    | read => exact ih faithful.2
    | wrote => exact ih faithful
    | removed => exact ih faithful

/-! ## Questions under way -/

/-- The question `a` is that of the write that was asked for as the call `number`. -/
structure Writes (s : System) (asked : List (Nat × Operation)) (a : Ask) (number : Nat)
    (caller : UserId) (types values : List Int64) : Prop where
  waits : Waits s a number
  asked : ∃ timeout, asked.lookup number = some (.setAssociations caller types values timeout)
  request : ∃ user : User, user.id = caller ∧ a.request = .setAssociations user types values

/-- The calls in progress at the vehicle are questions of the service, all of them for writes. -/
structure Questions (s : System) (asked : List (Nat × Operation)) (v : Simulator) : Prop where
  silent : s.out = []
  asks_lt : ∀ a ∈ s.asks, a.id < s.nextId
  calls_lt : ∀ c ∈ s.calls, c.id < s.nextId
  distinct : (s.asks.map (·.id)).Nodup
  owners : (s.asks.map (·.owner)).Nodup
  writes : ∀ a ∈ s.asks, ∃ number caller types values, Writes s asked a number caller types values
  calls : ∀ c ∈ v.calls, ∃ a ∈ s.asks, a.id = c.id ∧ a.request = c.request

section Questions

variable {s t : System} {v w : Simulator} {asked asked' : List (Nat × Operation)} {a : Ask}

/-- Another call is found when one has returned. -/
theorem find?_other {cs : List Call} {number other : Nat} (apart : other ≠ number) :
    (cs.filter (·.id != number)).find? (·.id == other) = cs.find? (·.id == other) := by
  rw [List.find?_filter]
  congr 1
  funext c
  by_cases here : c.id = other
  · simp [here, apart]
  · simp [here]

/-- A call with a new number is found. -/
theorem find?_newest {cs : List Call} {number : Nat} (older : ∀ c ∈ cs, c.id < number)
    (deadline : Option Int) (w : Work) :
    (cs ++ [(⟨number, deadline, w⟩ : Call)]).find? (·.id == number) =
      some ⟨number, deadline, w⟩ := by
  have absent : cs.find? (·.id == number) = none :=
    List.find?_eq_none.2 fun c mem => by simpa using Nat.ne_of_lt (older c mem)
  rw [List.find?_append, absent]
  simp

/-- What was asked for before is not hidden by what is asked for next. -/
theorem lookup_older {n number : Nat} (older : n < number) (op : Operation)
    (asked : List (Nat × Operation)) : ((number, op) :: asked).lookup n = asked.lookup n := by
  rw [List.lookup_cons, beq_eq_false_iff_ne.2 (Nat.ne_of_lt older)]

theorem Waits.lt {number : Nat} (waits : Waits s a number) (lt : ∀ c ∈ s.calls, c.id < s.nextId) :
    number < s.nextId := by
  obtain ⟨_, _, _, call⟩ := waits.call
  exact lt _ (List.mem_of_find?_eq_some call)

/-- Questions and calls stay as they are. -/
theorem Questions.same (questions : Questions s asked v) {n : Nat}
    (rests : t.Rests s.asks s.calls n) (nextId : s.nextId ≤ n)
    (kept : ∀ n < s.nextId, asked'.lookup n = asked.lookup n) (taken : w.calls = v.calls) :
    Questions t asked' w where
  silent := rests.silent
  asks_lt := fun a mem => by
    rw [rests.nextId]
    exact Nat.lt_of_lt_of_le (questions.asks_lt a (rests.asks ▸ mem)) nextId
  calls_lt := fun c mem => by
    rw [rests.nextId]
    exact Nat.lt_of_lt_of_le (questions.calls_lt c (rests.calls ▸ mem)) nextId
  distinct := rests.asks ▸ questions.distinct
  owners := rests.asks ▸ questions.owners
  writes := fun a mem => by
    obtain ⟨number, caller, types, values, writes⟩ := questions.writes a (rests.asks ▸ mem)
    have known := kept number (writes.waits.lt questions.calls_lt)
    refine ⟨number, caller, types, values, ⟨writes.waits.owner, ?_⟩, ?_, writes.request⟩
    · rw [call?, rests.calls]
      exact writes.waits.call
    · rw [known]
      exact writes.asked
  calls := by
    rw [taken, rests.asks]
    exact questions.calls

/-- A question ends, and its call returns. -/
theorem Questions.ended (questions : Questions s asked v) {number : Nat} (mem : a ∈ s.asks)
    (owner : a.owner = .call number)
    (rests : t.Rests (s.asks.filter (·.id != a.id)) (s.calls.filter (·.id != number)) s.nextId)
    (taken : w.calls = v.calls.filter (·.id != a.id)) :
    Questions t asked w where
  silent := rests.silent
  asks_lt := fun b mem => by
    rw [rests.asks] at mem
    exact rests.nextId ▸ questions.asks_lt b (List.mem_filter.1 mem).1
  calls_lt := fun c mem => by
    rw [rests.calls] at mem
    exact rests.nextId ▸ questions.calls_lt c (List.mem_filter.1 mem).1
  distinct := by
    rw [rests.asks]
    exact questions.distinct.sublist (List.filter_sublist.map _)
  owners := by
    rw [rests.asks]
    exact questions.owners.sublist (List.filter_sublist.map _)
  writes := fun b mem' => by
    rw [rests.asks, List.mem_filter, bne_iff_ne] at mem'
    obtain ⟨other, caller, types, values, writes⟩ := questions.writes b mem'.1
    -- Another question belongs to another call, which goes on waiting.
    have apart : other ≠ number := by
      rintro rfl
      have same := List.inj_on_of_nodup_map questions.owners mem'.1 mem
        (writes.waits.owner.trans owner.symm)
      exact mem'.2 (congrArg Ask.id same)
    obtain ⟨deadline, isWrite, caller', call⟩ := writes.waits.call
    refine ⟨other, caller, types, values, ⟨writes.waits.owner, deadline, isWrite, caller', ?_⟩,
      writes.asked, writes.request⟩
    rw [call?, rests.calls, find?_other apart]
    exact call
  calls := fun c mem' => by
    rw [taken, List.mem_filter, bne_iff_ne] at mem'
    obtain ⟨b, here, own, same⟩ := questions.calls c mem'.1
    refine ⟨b, ?_, own, same⟩
    rw [rests.asks, List.mem_filter, bne_iff_ne, own]
    exact ⟨here, mem'.2⟩

/-- A question is found by its number. -/
theorem Questions.found (questions : Questions s asked v) (mem : a ∈ s.asks) :
    s.asks.find? (·.id == a.id) = some a := by
  cases found : s.asks.find? (·.id == a.id) with
  | none => exact absurd (beq_self_eq_true a.id) (List.find?_eq_none.1 found a mem)
  | some b =>
    have same : b.id = a.id := by simpa using List.find?_some found
    exact congrArg some (List.inj_on_of_nodup_map questions.distinct
      (List.mem_of_find?_eq_some found) mem same)

/-- A write begins, under the next number, and waits for the vehicle. -/
theorem Questions.begun (questions : Questions s asked v) {caller : UserId}
    {types values : List Int64} {timeout : Duration} {user : User} {c : Vehicle.Pending}
    (own : a.id = s.nextId + 1) (owner : a.owner = .call s.nextId) (writer : user.id = caller)
    (request : a.request = .setAssociations user types values)
    (rests : t.Rests (s.asks ++ [a]) (s.calls ++ [⟨s.nextId, none, .associating true caller⟩])
      (s.nextId + 2)) (taken : w.calls = v.calls ++ [c]) (number : c.id = a.id)
    (same : c.request = a.request) :
    Questions t ((s.nextId, .setAssociations caller types values timeout) :: asked) w where
  silent := rests.silent
  asks_lt := by
    rw [rests.asks, rests.nextId]
    intro b mem
    rcases List.mem_append.1 mem with old | new
    · exact Nat.lt_succ_of_lt (Nat.lt_succ_of_lt (questions.asks_lt b old))
    · rw [List.mem_singleton.1 new, own]
      exact Nat.lt_succ_self _
  calls_lt := by
    rw [rests.calls, rests.nextId]
    intro b mem
    rcases List.mem_append.1 mem with old | new
    · exact Nat.lt_succ_of_lt (Nat.lt_succ_of_lt (questions.calls_lt b old))
    · rw [List.mem_singleton.1 new]
      exact Nat.lt_succ_of_lt (Nat.lt_succ_self _)
  distinct := by
    rw [rests.asks, List.map_append, List.nodup_append]
    refine ⟨questions.distinct, List.nodup_singleton _, ?_⟩
    rintro _ old _ new rfl
    obtain ⟨b, mem, same⟩ := List.mem_map.1 old
    have before := questions.asks_lt b mem
    rw [List.map_singleton, List.mem_singleton] at new
    omega
  owners := by
    rw [rests.asks, List.map_append, List.nodup_append]
    refine ⟨questions.owners, List.nodup_singleton _, ?_⟩
    rintro _ old _ new rfl
    obtain ⟨b, mem, same⟩ := List.mem_map.1 old
    obtain ⟨number, _, _, _, writes⟩ := questions.writes b mem
    have before := writes.waits.lt questions.calls_lt
    rw [List.map_singleton, List.mem_singleton, owner] at new
    rw [writes.waits.owner, new] at same
    cases same
    exact Nat.lt_irrefl _ before
  writes := by
    rw [rests.asks]
    intro b mem
    rcases List.mem_append.1 mem with old | new
    · obtain ⟨number, caller', types', values', writes⟩ := questions.writes b old
      have before := writes.waits.lt questions.calls_lt
      obtain ⟨deadline, isWrite, caller'', call⟩ := writes.waits.call
      refine ⟨number, caller', types', values', ⟨writes.waits.owner, deadline, isWrite, caller'', ?_⟩,
        ?_, writes.request⟩
      · rw [call?, rests.calls, List.find?_append, ← call?, call]
        rfl
      · rw [lookup_older before]
        exact writes.asked
    · rw [List.mem_singleton.1 new]
      refine ⟨s.nextId, caller, types, values, ⟨owner, none, true, caller, ?_⟩,
        ⟨timeout, List.lookup_cons_self⟩, user, writer, request⟩
      rw [call?, rests.calls, find?_newest questions.calls_lt]
  calls := by
    rw [taken, rests.asks]
    intro b mem
    rcases List.mem_append.1 mem with old | new
    · obtain ⟨a', here, rest⟩ := questions.calls b old
      exact ⟨a', List.mem_append_left _ here, rest⟩
    · rw [List.mem_singleton.1 new]
      exact ⟨a, List.mem_append_right _ (List.mem_singleton_self a), number.symm, same.symm⟩

end Questions

/-! ## What the moves come to -/

section Moves

variable {d : Dialogue} {m : Move} {a : Ask} {number : Nat}

theorem reports_singleton (asked : List (Nat × Operation)) (e : Effect) :
    ([e].filterMap (·.report? asked)).reverse = (e.report? asked).toList := by
  rw [List.filterMap_cons, List.filterMap_nil]
  cases e.report? asked <;> rfl

/-- A question ends, and the call returns what comes of it. -/
theorem act_ended {id : Nat} {e : Trip.Ending Vehicle.Response} (silent : d.system.out = [])
    (ends : d.system.move m = d.system.askEnded id e)
    (found : d.system.asks.find? (·.id == id) = some a) (waits : Waits d.system a number) :
    ∃ (r : AssociationResult) (t : System), Results e r ∧
      t.Rests (d.system.asks.filter (·.id != id)) (d.system.calls.filter (·.id != number))
        d.system.nextId ∧ d.act m =
        { system := t
          vehicle := (abandoned id e).foldl (fun v _ => v.abandon id) d.vehicle
          asked := d.askedAfter m
          log := ((Effect.returned number (.association r)).report? (d.askedAfter m)).toList
            ++ d.log } := by
  obtain ⟨r, results, shows⟩ := shows_askEnded found waits e
  refine ⟨r, (d.system.move m).take.2, results, ?_, ?_⟩
  · rw [ends]
    exact shows.rests
  · have said : (d.system.move m).heard =
        abandoned id e ++ [.returned number (.association r)] := by
      rw [ends, shows.heard, System.heard, silent]
      rfl
    have one := reports_singleton (d.askedAfter m) (.returned number (.association r))
    cases e with
    | answered => rw [d.act_eq m said rfl, ← one]; rfl
    | expired => rw [d.act_eq m said rfl, ← one]; rfl
    | canceled => rw [d.act_eq m said rfl, ← one]; rfl

/-- A question that is answered at once. -/
theorem act_answered {isWrite : Bool} {caller : UserId} {gone : Option Fault}
    {r : Vehicle.Response} {f : Option Fault} {v : Simulator} {ns : List Note}
    {asked : List (Nat × Operation)} (questions : Questions d.system asked d.vehicle)
    (own : a.id = d.system.nextId + 1) (owner : a.owner = .call d.system.nextId)
    (shows : (d.system.move m).Shows (d.system.asks ++ [a])
      (d.system.calls ++ [⟨d.system.nextId, none, .associating isWrite caller⟩])
      (d.system.nextId + 2) (d.system.heard ++ [.ask a.id a.request gone]))
    (answered : d.vehicle.ask a.id a.request gone (d.system.move m).now = (.answered r f, v, ns)) :
    ∃ (result : AssociationResult) (t : System), Results (.answered r f) result ∧
      t.Rests d.system.asks d.system.calls (d.system.nextId + 2) ∧ d.act m =
        { system := t
          vehicle := v
          asked := d.askedAfter m
          log := ((Effect.returned d.system.nextId (.association result)).report?
            (d.askedAfter m)).toList ++ d.log } := by
  have before : (d.system.move m).take.2.Shows (d.system.asks ++ [a])
      (d.system.calls ++ [⟨d.system.nextId, none, .associating isWrite caller⟩])
      (d.system.nextId + 2) [] := ⟨shows.asks, shows.calls, shows.nextId, rfl⟩
  have newest : ∀ b ∈ d.system.asks, b.id ≠ a.id := fun b mem => by
    have old := questions.asks_lt b mem
    omega
  have found : (d.system.move m).take.2.asks.find? (·.id == a.id) = some a := by
    have absent : d.system.asks.find? (·.id == a.id) = none :=
      List.find?_eq_none.2 fun b mem => by simpa using newest b mem
    rw [before.asks, List.find?_append, absent]
    simp
  have waits : Waits (d.system.move m).take.2 a d.system.nextId := by
    refine ⟨owner, none, isWrite, caller, ?_⟩
    rw [call?, before.calls, find?_newest questions.calls_lt]
  obtain ⟨result, results, after⟩ := shows_askEnded found waits (.answered r f)
  rw [before.asks, before.calls, before.nextId, before.heard] at after
  refine ⟨result, ((d.system.move m).take.2.askEnded a.id (.answered r f)).take.2, results,
    ⟨rfl, ?_, ?_, after.nextId⟩, ?_⟩
  · refine after.asks.trans ?_
    rw [List.filter_append, List.filter_eq_self.2 (by simpa using newest)]
    simp
  · refine after.calls.trans ?_
    have others : ∀ c ∈ d.system.calls, c.id ≠ d.system.nextId :=
      fun c mem => Nat.ne_of_lt (questions.calls_lt c mem)
    rw [List.filter_append, List.filter_eq_self.2 (by simpa using others)]
    simp
  · have said : (d.system.move m).heard = [.ask a.id a.request gone] := by
      rw [shows.heard, System.heard, questions.silent]
      rfl
    have led : [Effect.ask a.id a.request gone].foldl handOn
        ((d.system.move m).take.2, d.vehicle) =
        ((d.system.move m).take.2.askEnded a.id (.answered r f), v) := by
      have asked : d.vehicle.ask a.id a.request gone (d.system.move m).take.2.now =
        (.answered r f, v, ns) := answered
      rw [List.foldl_cons, List.foldl_nil, handOn]
      dsimp only
      rw [asked]
      rfl
    rw [d.act_eq m said led, after.heard,
      ← reports_singleton (d.askedAfter m) (.returned d.system.nextId (.association result))]
    rfl

/-- A question that waits for the vehicle. -/
theorem act_waiting {asks : List Ask} {calls : List Call} {nextId : Nat} {gone : Option Fault}
    {v : Simulator} {ns : List Note} (silent : d.system.out = [])
    (shows : (d.system.move m).Shows asks calls nextId
      (d.system.heard ++ [.ask a.id a.request gone]))
    (waits : d.vehicle.ask a.id a.request gone (d.system.move m).now = (.inProgress, v, ns)) :
    ∃ t : System, t.Rests asks calls nextId ∧ d.act m =
      { system := t
        vehicle := v
        asked := d.askedAfter m
        log := d.log } := by
  refine ⟨(d.system.move m).take.2, shows.rests, ?_⟩
  have said : (d.system.move m).heard = [.ask a.id a.request gone] := by
    rw [shows.heard, System.heard, silent]
    rfl
  have led : [Effect.ask a.id a.request gone].foldl handOn
      ((d.system.move m).take.2, d.vehicle) = ((d.system.move m).take.2, v) := by
    have asked : d.vehicle.ask a.id a.request gone (d.system.move m).take.2.now =
      (.inProgress, v, ns) := waits
    rw [List.foldl_cons, List.foldl_nil, handOn]
    dsimp only
    rw [asked]
  rw [d.act_eq m said led]
  rfl

/-- A call that is refused. -/
theorem act_refused {asks : List Ask} {calls : List Call} {nextId : Nat} {r : AssociationResult}
    (silent : d.system.out = []) (shows : (d.system.move m).Shows asks calls nextId
      (d.system.heard ++ [.returned number (.association r)])) :
    ∃ t : System, t.Rests asks calls nextId ∧ d.act m =
      { system := t
        vehicle := d.vehicle
        asked := d.askedAfter m
        log := ((Effect.returned number (.association r)).report? (d.askedAfter m)).toList
          ++ d.log } := by
  refine ⟨(d.system.move m).take.2, shows.rests, ?_⟩
  have said : (d.system.move m).heard = [.returned number (.association r)] := by
    rw [shows.heard, System.heard, silent]
    rfl
  rw [d.act_eq m said rfl, ← reports_singleton]
  rfl

/-- What the vehicle remembers is what is recorded, and was returned. -/
structure Remembers (v : Simulator) (log : List Report) : Prop where
  values : ∀ user type, v.association user type = recorded user type log
  reads : Faithful log

theorem Remembers.told {v : Simulator} {log : List Report} (remembers : Remembers v log)
    (asked : List (Nat × Operation)) (n : Notice) :
    Remembers (v.notify n).1 (((Effect.notify n).report? asked).toList ++ log) := by
  cases n with
  | postSwitch | legacySwitch => exact ⟨remembers.values, remembers.reads⟩
  | remove user users =>
    refine ⟨fun other type => ?_, remembers.reads⟩
    rw [Simulator.association_notify]
    dsimp only
    rw [remembers.values]
    rfl

/-- What is aside from the calls reaches the vehicle as a notice, if at all. -/
theorem foldl_aside (asked : List (Nat × Operation)) {es : List Effect}
    (aside : ∀ e ∈ es, e.isAside = true) (s : System) {v : Simulator} {log : List Report}
    (remembers : Remembers v log) : ∃ w, es.foldl handOn (s, v) = (s, w) ∧ w.calls = v.calls ∧
      Remembers w ((es.filterMap (·.report? asked)).reverse ++ log) := by
  induction es generalizing v log with
  | nil => exact ⟨v, rfl, rfl, remembers⟩
  | cons e es ih =>
    have rest := fun b mem => aside b (List.mem_cons_of_mem e mem)
    have first := aside e List.mem_cons_self
    have step : ∃ w, handOn (s, v) e = (s, w) ∧ w.calls = v.calls ∧
        Remembers w ((e.report? asked).toList ++ log) := by
      cases e with
      | notify n =>
        exact ⟨_, rfl, Simulator.calls_notify v n, remembers.told asked n⟩
      | ask | abandon => cases first
      | returned id r =>
        cases r with
        | association => cases first
        | _ => exact ⟨v, rfl, rfl, remembers⟩
      | _ => exact ⟨v, rfl, rfl, remembers⟩
    obtain ⟨u, handed, calls, now⟩ := step
    obtain ⟨w, after, calls', then'⟩ := ih rest now
    refine ⟨w, by rw [List.foldl_cons, handed, after], calls'.trans calls, ?_⟩
    have log' : ((e :: es).filterMap (·.report? asked)).reverse ++ log =
        (es.filterMap (·.report? asked)).reverse ++ ((e.report? asked).toList ++ log) := by
      rw [List.filterMap_cons]
      cases e.report? asked <;> simp
    rw [log']
    exact then'

end Moves

/-! ## All exchanges -/

/-- What holds of a dialogue throughout. -/
structure Dialogue.Sound (d : Dialogue) : Prop where
  questions : Questions d.system d.asked d.vehicle
  remembers : Remembers d.vehicle d.log

section Sound

variable {d : Dialogue} {m : Move}

theorem askedAfter_older (d : Dialogue) (m : Move) :
    ∀ n < d.system.nextId, (d.askedAfter m).lookup n = d.asked.lookup n := by
  intro n older
  dsimp only [Dialogue.askedAfter]
  split
  · exact lookup_older older _ _
  · rfl

theorem Dialogue.Sound.aside (sound : d.Sound) (aside : m.IsAside d.system) : (d.act m).Sound := by
  obtain ⟨w, led, calls, remembers⟩ := foldl_aside (d.askedAfter m) aside.heard
    (d.system.move m).take.2 sound.remembers
  rw [d.act_eq m rfl led]
  refine ⟨sound.questions.same ⟨rfl, aside.asks, aside.calls, rfl⟩ aside.nextId
    (askedAfter_older d m) calls, ?_⟩
  have silent : (d.system.move m).take.2.heard = [] := rfl
  rw [silent, List.append_nil]
  exact remembers

theorem aside_removeUser (questions : Questions d.system d.asked d.vehicle) (ctx : Context)
    (user : UserId) : (Move.act (.perform ctx (.removeUser user))).IsAside d.system := by
  obtain ⟨notice, status, shows⟩ := System.Shows.removeUser (s := d.system.freshId.2)
    ⟨rfl, rfl, rfl, rfl⟩ d.system.nextId user
  have others : ∀ c ∈ d.system.calls, c.id ≠ d.system.nextId :=
    fun c mem => Nat.ne_of_lt (questions.calls_lt c mem)
  refine ⟨shows.asks,
    shows.calls.trans (List.filter_eq_self.2 fun c mem => bne_iff_ne.2 (others c mem)),
    Nat.le_of_lt (Nat.lt_of_succ_le (Nat.le_of_eq shows.nextId.symm)), ?_⟩
  intro e mem
  have said : e ∈ d.system.heard ++ notice.toList.map .notify ++
      [.returned d.system.nextId (.removed status)] := shows.heard ▸ mem
  rw [System.heard, questions.silent] at said
  rcases List.mem_append.1 said with told | returned
  · obtain ⟨n, -, rfl⟩ := List.mem_map.1 told
    rfl
  · rw [List.mem_singleton.1 returned]
    rfl

/-- The passing of time alone ends no wait. -/
theorem aside_elapse {s : System} (silent : s.out = []) (t : Int) :
    (Move.act (.elapse t)).IsAside s := by
  refine ⟨rfl, rfl, Nat.le_refl _, fun e mem => ?_⟩
  have said : e ∈ s.heard := mem
  rw [System.heard, silent] at said
  cases said

/-- A call that returns at once leaves the questions alone. -/
theorem Questions.passing (questions : Questions d.system d.asked d.vehicle) {t : System}
    {v : Simulator} (rests : t.Rests d.system.asks
      (d.system.calls.filter (·.id != d.system.nextId)) (d.system.nextId + 1))
    (op : Operation) (taken : v.calls = d.vehicle.calls) :
    Questions t ((d.system.nextId, op) :: d.asked) v := by
  refine questions.same ⟨rests.silent, rests.asks, rests.calls.trans ?_, rests.nextId⟩
    (Nat.le_succ _) (fun n older => lookup_older older op d.asked) taken
  exact List.filter_eq_self.2 fun c mem => bne_iff_ne.2 (Nat.ne_of_lt (questions.calls_lt c mem))

/-- The number of the next question is not that of a call at the vehicle. -/
theorem Questions.new (questions : Questions d.system d.asked d.vehicle) :
    ∀ c ∈ d.vehicle.calls, c.id ≠ d.system.nextId + 1 := by
  intro c mem own
  obtain ⟨a, here, same, -⟩ := questions.calls c mem
  have before := questions.asks_lt a here
  omega

theorem report?_read (number : Nat) (caller : UserId) (types : List Int64) (r : AssociationResult)
    (asked : List (Nat × Operation)) : (Effect.returned number (.association r)).report?
      ((number, .getAssociations caller types) :: asked) = some (.read caller types r) := by
  rw [Effect.report?, List.lookup_cons_self]

theorem report?_wrote {number : Nat} {caller : UserId} {types values : List Int64}
    {timeout : Duration} {asked : List (Nat × Operation)}
    (write : asked.lookup number = some (.setAssociations caller types values timeout))
    (r : AssociationResult) :
    (Effect.returned number (.association r)).report? asked = some (.wrote caller types values r) := by
  rw [Effect.report?, write]

theorem Remembers.congr {v w : Simulator} {log : List Report} (remembers : Remembers v log)
    (same : w.associations = v.associations) : Remembers w log := by
  refine ⟨fun user type => ?_, remembers.reads⟩
  rw [Simulator.association_eq, same]
  exact remembers.values user type

/-- A write that fails is recorded without effect. -/
theorem Remembers.failed {v : Simulator} {log : List Report} (remembers : Remembers v log)
    {caller : UserId} {types values : List Int64} {r : AssociationResult}
    (failed : r.status ≠ .successful) : Remembers v (.wrote caller types values r :: log) := by
  refine ⟨fun user type => ?_, remembers.reads⟩
  rw [recorded, if_neg fun both => failed both.2]
  exact remembers.values user type

/-- A write that succeeds is recorded as it is stored. -/
theorem Remembers.stored {v w : Simulator} {log : List Report} (remembers : Remembers v log)
    {caller : UserId} {types values : List Int64} {r : AssociationResult}
    (successful : r.status = .successful) (stored : ∀ user type, w.association user type =
      if caller = user then ((types.zip values).reverse.lookup type).getD (v.association user type)
      else v.association user type) : Remembers w (.wrote caller types values r :: log) := by
  refine ⟨fun user type => ?_, remembers.reads⟩
  rw [stored, recorded, remembers.values]
  by_cases own : caller = user
  · rw [if_pos own, if_pos ⟨own, successful⟩]
  · rw [if_neg own, if_neg fun both => own both.1]

/-- A read is answered at once, and reported. -/
theorem Dialogue.Sound.read (sound : d.Sound) (ctx : Context) (caller : UserId)
    (types : List Int64) :
    let after := d.act (.act (.perform ctx (.getAssociations caller types)))
    after.Sound ∧ ∃ r, after.log = .read caller types r :: d.log := by
  have questions := sound.questions
  have moved : d.system.move (.act (.perform ctx (.getAssociations caller types))) =
      d.system.freshId.2.associate d.system.nextId false caller none {}
        (Association.read d.system.roster d.system.capabilities.association caller types) := rfl
  rcases read_cases d.system.roster d.system.capabilities.association caller types with
    ⟨r, failed, refused⟩ | ⟨user, own, asks⟩
  · rw [refused] at moved
    have shows := moved ▸ shows_refused false caller none {} r
    obtain ⟨t, rests, acted⟩ := act_refused questions.silent shows
    rw [Dialogue.askedAfter, report?_read] at acted
    rw [acted]
    exact ⟨⟨questions.passing rests _ rfl, sound.remembers.values, fun fine => absurd fine failed,
      sound.remembers.reads⟩, r, rfl⟩
  · rw [asks] at moved
    obtain ⟨a, number, request, owner, shows⟩ :=
      shows_asked (s := d.system) false caller none {} (.getAssociations user types)
    rw [← moved, ← number, ← request] at shows
    have reached := Simulator.ask_cases d.vehicle a.id a.request none
      (d.system.move (.act (.perform ctx (.getAssociations caller types)))).now
      (number ▸ questions.new)
    rw [request] at reached
    obtain ⟨calls, associations, r, f, taken, values⟩ := reached.read
    rw [← request] at taken calls associations
    obtain ⟨result, t, results, rests, acted⟩ :=
      act_answered questions number owner shows (Prod.ext taken rfl)
    rw [Dialogue.askedAfter, report?_read] at acted
    rw [acted]
    refine ⟨⟨questions.same rests (by omega) (fun n older => lookup_older older _ _) calls, ?_, ?_,
      sound.remembers.reads⟩, result, rfl⟩
    · intro other type
      rw [Simulator.association_eq, associations]
      exact sound.remembers.values other type
    · intro fine
      obtain ⟨response, same⟩ := results.successful fine
      obtain ⟨rfl, rfl⟩ := Trip.Ending.answered.inj same
      rw [(results.answered _ rfl).2, values rfl]
      refine congrArg some (List.map_congr_left fun type _ => ?_)
      rw [sound.remembers.values, own]
      rfl

/-- A write is refused, fails, succeeds, or waits for the vehicle. -/
theorem Dialogue.Sound.write (sound : d.Sound) (ctx : Context) (caller : UserId)
    (types values : List Int64) (timeout : Duration) :
    (d.act (.act (.perform ctx (.setAssociations caller types values timeout)))).Sound := by
  have questions := sound.questions
  let op := Operation.setAssociations caller types values timeout
  have lookup : ((d.system.nextId, op) :: d.asked).lookup d.system.nextId = some op :=
    List.lookup_cons_self
  have moved : d.system.move (.act (.perform ctx op)) =
      d.system.freshId.2.associate d.system.nextId true caller
        (some (if timeout ≤ 0 then d.system.associationTimeout else timeout)) ctx
        (Association.write d.system.roster d.system.capabilities.association caller types values) := rfl
  rcases write_cases d.system.roster d.system.capabilities.association caller types values with
    ⟨r, failed, refused⟩ | ⟨user, own, asks⟩
  · rw [refused] at moved
    have shows := moved ▸ shows_refused true caller _ ctx r
    obtain ⟨t, rests, acted⟩ := act_refused questions.silent shows
    rw [Dialogue.askedAfter, report?_wrote lookup] at acted
    rw [acted]
    exact ⟨questions.passing rests _ rfl, sound.remembers.failed failed⟩
  · rw [asks] at moved
    obtain ⟨a, number, request, owner, shows⟩ :=
      shows_asked (s := d.system) true caller _ ctx (.setAssociations user types values)
    rw [← moved, ← number, ← request] at shows
    have reached := Simulator.ask_cases d.vehicle a.id a.request ctx.gone
      (d.system.move (.act (.perform ctx op))).now (number ▸ questions.new)
    rw [request] at reached
    rcases reached.write with ⟨r, f, taken, calls, associations⟩ | ⟨r, taken, calls, stored⟩ |
      ⟨taken, associations, c, same, put, calls⟩
    · rw [← request] at taken calls associations
      obtain ⟨result, t, results, rests, acted⟩ :=
        act_answered questions number owner shows (Prod.ext taken rfl)
      rw [Dialogue.askedAfter, report?_wrote lookup] at acted
      rw [acted]
      refine ⟨questions.same rests (by omega) (fun n older => lookup_older older op _) calls,
        (sound.remembers.congr associations).failed fun fine => ?_⟩
      obtain ⟨response, same⟩ := results.successful fine
      cases same
    · rw [← request] at taken calls stored
      obtain ⟨result, t, results, rests, acted⟩ :=
        act_answered questions number owner shows (Prod.ext taken rfl)
      rw [Dialogue.askedAfter, report?_wrote lookup] at acted
      rw [acted]
      exact ⟨questions.same rests (by omega) (fun n older => lookup_older older op _) calls,
        sound.remembers.stored (results.answered r rfl).1 (own ▸ stored)⟩
    · rw [← request] at taken calls associations
      obtain ⟨t, rests, acted⟩ := act_waiting questions.silent shows (Prod.ext taken rfl)
      rw [acted]
      exact ⟨questions.begun number owner own request rests calls same (put.trans request.symm),
        sound.remembers.congr associations⟩

/-- A question ends without an answer. -/
theorem Dialogue.Sound.abandoned (sound : d.Sound) {id : Nat} {e : Trip.Ending Vehicle.Response}
    (given : Service.abandoned id e = [.abandon id])
    (ends : d.system.move m = d.system.askEnded id e) (asked : d.askedAfter m = d.asked) :
    (d.act m).Sound := by
  have questions := sound.questions
  cases found : d.system.asks.find? (·.id == id) with
  | none =>
    have same : d.system.move m = d.system := by rw [ends, askEnded, found]
    refine sound.aside ⟨?_, ?_, ?_, ?_⟩
    · rw [same]
    · rw [same]
    · exact Nat.le_of_eq (congrArg System.nextId same.symm)
    · rw [same, System.heard, questions.silent]
      exact fun e none => absurd none List.not_mem_nil
  | some a =>
    have own : a.id = id := by simpa using List.find?_some found
    have mem := List.mem_of_find?_eq_some found
    obtain ⟨number, caller, types, values, writes⟩ := questions.writes a mem
    obtain ⟨timeout, lookup⟩ := writes.asked
    obtain ⟨r, t, results, rests, acted⟩ := act_ended questions.silent ends found writes.waits
    rw [asked, report?_wrote lookup, given] at acted
    rw [acted]
    refine ⟨questions.ended mem writes.waits.owner (own ▸ rests) ?_,
      Remembers.failed (sound.remembers.congr (Simulator.associations_leave _ id)) fun fine => ?_⟩
    · rw [own]
      exact Simulator.calls_leave d.vehicle id
    · obtain ⟨response, rfl⟩ := results.successful fine
      cases given

/-- The vehicle answers a write. -/
theorem Dialogue.Sound.finish (sound : d.Sound) (id : Nat) : (d.play (.finish id)).Sound := by
  have questions := sound.questions
  rw [Dialogue.play]
  cases finished : d.vehicle.finish id with
  | none => exact sound
  | some answered =>
    obtain ⟨response, v⟩ := answered
    obtain ⟨c, here, own, calls, associations⟩ := Simulator.finish_cases finished
    obtain ⟨a, mem, same, put⟩ := questions.calls c here
    obtain ⟨number, caller, types, values, writes⟩ := questions.writes a mem
    obtain ⟨timeout, lookup⟩ := writes.asked
    obtain ⟨user, writer, request⟩ := writes.request
    have stored (other : UserId) (type : Int64) : v.association other type = if caller = other then
        ((types.zip values).reverse.lookup type).getD (d.vehicle.association other type)
        else d.vehicle.association other type := by
      rw [← writer, ← Simulator.association_write _ c.token, ← request, put,
        Simulator.association_eq, associations]
      rfl
    have ends : d.system.move (.act (.answered id response none)) =
        d.system.askEnded id (.answered response none) := rfl
    have found : d.system.asks.find? (·.id == id) = some a :=
      own ▸ same ▸ questions.found mem
    obtain ⟨r, t, results, rests, acted⟩ :=
      act_ended (d := { d with vehicle := v }) questions.silent ends found writes.waits
    have asked : Dialogue.askedAfter { d with vehicle := v } (.act (.answered id response none)) =
        d.asked := rfl
    rw [asked, report?_wrote lookup] at acted
    dsimp only
    rw [acted]
    refine ⟨questions.ended mem writes.waits.owner ?_ ?_,
      sound.remembers.stored (results.answered response rfl).1 stored⟩
    · rw [same, own]
      exact rests
    · rw [same, own]
      exact calls

/-- Whatever is exchanged, what the vehicle remembers is what is recorded. -/
theorem Dialogue.Sound.play (sound : d.Sound) {x : Exchange} (allowed : x.Allowed d.system) :
    (d.play x).Sound := by
  rw [Exchange.Allowed.eq_def] at allowed
  split at allowed
  case h_1 id => exact sound.finish id
  case h_2 n =>
    exact ⟨sound.questions.same ⟨sound.questions.silent, rfl, rfl, rfl⟩ (Nat.le_refl _)
      (fun _ _ => rfl) (Simulator.calls_notify d.vehicle n), sound.remembers.told d.asked n⟩
  case h_3 ctx caller types => exact (sound.read ctx caller types).1
  case h_4 ctx caller types values timeout => exact sound.write ctx caller types values timeout
  case h_5 ctx user => exact sound.aside (aside_removeUser sound.questions ctx user)
  case h_6 id => exact sound.abandoned (e := .expired) rfl rfl rfl
  case h_7 id => exact sound.abandoned (e := .canceled) rfl rfl rfl
  case h_8 m _ _ _ _ _ => exact sound.aside allowed

theorem IsDialogue.sound (run : IsDialogue d) : d.Sound := by
  induction run with
  | @begins s v asks calls silent idle blank =>
    refine ⟨⟨silent, ?_, calls, ?_, ?_, ?_, ?_⟩, fun user type => ?_, trivial⟩
    · rw [asks]
      nofun
    · rw [asks]
      exact List.nodup_nil
    · rw [asks]
      exact List.nodup_nil
    · rw [asks]
      nofun
    · rw [idle]
      nofun
    · rw [Simulator.association_eq, blank]
      rfl
  | step _ allowed sound => exact sound.play allowed

/-- Associations are what was last written: a read that succeeds returns for each of its types what
    is recorded for the reader. Writes that do not succeed and writes of other users change nothing
    of it, and a read is reported as soon as it is asked for. -/
theorem associations_last_written {d : Dialogue} (run : IsDialogue d) :
    (∀ (newer older : List Report) (caller : UserId) (types : List Int64) (r : AssociationResult),
      d.log = newer ++ .read caller types r :: older → r.status = .successful →
      r.values = some (types.map fun type => recorded caller type older)) ∧
    (∀ (newer between older : List Report) (caller writer : UserId)
      (types written values : List Int64) (r w : AssociationResult),
      d.log = newer ++ .read caller types r ::
        (between ++ .wrote writer written values w :: older) →
      r.status = .successful → w.status ≠ .successful ∨ writer ≠ caller →
      r.values = some (types.map fun type => recorded caller type (between ++ older))) ∧
    (∀ ctx caller types, ∃ r,
      (d.play (.move (.act (.perform ctx (.getAssociations caller types))))).log =
        .read caller types r :: d.log) := by
  have faithful := run.sound.remembers.reads
  refine ⟨?_, ?_, fun ctx caller types => (run.sound.read ctx caller types).2⟩
  · intro newer older caller types r log successful
    exact Faithful.values (log ▸ faithful) successful
  · intro newer between older caller writer types written values r w log successful other
    rw [Faithful.values (log ▸ faithful) successful]
    have untouched (type : Int64) :
        ¬ (Report.wrote writer written values w).Touches caller type := fun touches =>
      other.elim (fun failed => failed touches.2.1) fun another => another touches.1
    exact congrArg some (List.map_congr_left fun type _ => recorded_untouched (untouched type) _ _)

namespace Dialogue.Sample

/-- A user of the sample. -/
def ann : User := ⟨10, "Ann", Kind.full, ⟨0⟩, UserId.null, true⟩

/-- A service that knows the user. -/
def system : System :=
  { System.fresh Config.default with roster := { users := [User.system, ann], nextId := 11 } }

def read (types : List Int64) : Exchange :=
  .move (.act (.perform {} (.getAssociations ann.id types)))

def write (types values : List Int64) : Exchange :=
  .move (.act (.perform {} (.setAssociations ann.id types values 0)))

/-- A write names a type twice, and is read while it waits for the vehicle and when it is done. The
    next one is canceled. At last the vehicle is told that the user is gone. -/
def exchanges : List Exchange :=
  [write [1, 2, 1] [5, 6, 7], read [1], .move (.act (.elapse 10)), .finish 2, read [1, 2, 3],
    write [1] [9], .move (.act (.canceled 8)), read [1],
    .told (.remove ann ⟨ann, []⟩), read [1]]

/-- What they make of the service and of a vehicle that takes ten units of time for an answer. -/
def dialogue : Dialogue :=
  exchanges.foldl play { system, vehicle := { latency := 10 } }

theorem isDialogue : IsDialogue dialogue :=
  have begins : IsDialogue { system, vehicle := { latency := 10 } } := .begins rfl nofun rfl rfl rfl
  have waiting := (begins.step (x := write [1, 2, 1] [5, 6, 7]) trivial).step
    (x := read [1]) trivial
  have due := waiting.step (x := .move (.act (.elapse 10)))
    (aside_elapse waiting.sound.questions.silent 10)
  have written := (due.step (x := .finish 2) trivial).step (x := read [1, 2, 3]) trivial
  have canceled := (written.step (x := write [1] [9]) trivial).step
    (x := .move (.act (.canceled 8))) trivial
  ((canceled.step (x := read [1]) trivial).step (x := .told (.remove ann ⟨ann, []⟩)) trivial).step
    (x := read [1]) trivial

/-- What is reported of the sample after the read of three types. -/
def newer : List Report :=
  [.read ann.id [1] ⟨.successful, some [0], ""⟩, .removed ann.id,
    .read ann.id [1] ⟨.successful, some [7], ""⟩,
    .wrote ann.id [1] [9] ⟨.failure, none, "context canceled"⟩]

/-- What is reported of the sample before that read. -/
def older : List Report :=
  [.wrote ann.id [1, 2, 1] [5, 6, 7] ⟨.successful, some [5, 6, 7], ""⟩,
    .read ann.id [1] ⟨.successful, some [0], ""⟩]

theorem log_eq : dialogue.log =
    newer ++ .read ann.id [1, 2, 3] ⟨.successful, some [7, 6, 0], ""⟩ :: older := by
  decide

end Dialogue.Sample

/-- The read of three types in the sample returns what the write before it has recorded. -/
theorem reads_of_sample : IsDialogue Dialogue.Sample.dialogue ∧
    some [7, 6, 0] = some ([1, 2, 3].map fun type =>
      recorded Dialogue.Sample.ann.id type Dialogue.Sample.older) :=
  ⟨Dialogue.Sample.isDialogue, (associations_last_written Dialogue.Sample.isDialogue).1 _ _ _ _ _
    Dialogue.Sample.log_eq rfl⟩

end Sound

end HeadUnit.Service
