import HeadUnit.Proofs.Service.Departure
import HeadUnit.Proofs.Vehicle.Memory

/-!
# Service and vehicle in dialogue

A `Dialogue` is a service together with a simulated vehicle: what the service asks for reaches the
vehicle, and answers that come at once go back to the service. Its exchanges are association calls,
the answers of the vehicle, the ends of waits that are given up, removals, and whatever is aside
from all of that (`Exchange.Allowed`). Writes may overlap, and any of them may wait for the vehicle
for as long as it likes. What comes of the calls is reported (`Effect.report?`), the newest first.

A call that is checked either returns or puts a question (`shows_refused`, `shows_asked`), and the
end of a question takes its call with it (`shows_askEnded`). What a move of the service comes to in
a dialogue depends on what is heard of it only (`Dialogue.act_eq`).
-/

namespace HeadUnit.Service

open Vehicle (Simulator Notice)
open HeadUnit.Service.System

/-! ## Reports -/

/-- What has come of an association call, or what the vehicle was told. -/
inductive Report
  | read (caller : UserId) (types : List Int64) (result : AssociationResult)
  | wrote (caller : UserId) (types values : List Int64) (result : AssociationResult)
  /-- The vehicle was told that a user was removed. -/
  | removed (user : UserId)
  deriving DecidableEq, Repr

/-- The report on one thing that the service has said, with the operations by the number of their
    calls. -/
def Effect.report? (asked : List (Nat × Operation)) : Effect → Option Report
  | .returned id (.association r) =>
    match asked.lookup id with
    | some (.getAssociations caller types) => some (.read caller types r)
    | some (.setAssociations caller types values _) => some (.wrote caller types values r)
    | _ => none
  | .notify (.remove user _) => some (.removed user.id)
  | _ => none

/-! ## Service and vehicle -/

/-- One thing that the service asks for reaches the vehicle. An answer that comes at once goes
    back to the service. -/
def handOn (x : System × Simulator) : Effect → System × Simulator
  | .ask id request gone =>
    match x.2.ask id request gone x.1.now with
    | (.answered r f, v, _) => (x.1.step (.answered id r f), v)
    | (.inProgress, v, _) => (x.1, v)
  | .abandon id => (x.1, x.2.abandon id)
  | .notify n => (x.1, (x.2.notify n).1)
  | _ => x

/-- The service with the simulated vehicle, what it was asked, and what has come of it. -/
structure Dialogue where
  system : System
  vehicle : Simulator
  /-- The operations that were asked for, by the number of their calls. -/
  asked : List (Nat × Operation) := []
  /-- The reports so far, the newest first. -/
  log : List Report := []

/-- One thing that can happen to the service or to the vehicle. -/
inductive Exchange
  | move (m : Move)
  /-- The vehicle has waited for long enough, and answers. -/
  | finish (id : Nat)
  /-- Somebody else tells the vehicle something. -/
  | told (n : Notice)

namespace Dialogue

/-- The operations that were asked for after a move. -/
def askedAfter (d : Dialogue) : Move → List (Nat × Operation)
  | .act (.perform _ op) => (d.system.nextId, op) :: d.asked
  | _ => d.asked

/-- The service makes a move, what it asks for reaches the vehicle, and what it says is
    reported. -/
def act (d : Dialogue) (m : Move) : Dialogue :=
  let (es, s) := (d.system.move m).take
  let (s, v) := es.foldl handOn (s, d.vehicle)
  let (answers, s) := s.take
  { system := s
    vehicle := v
    asked := d.askedAfter m
    log := ((es ++ answers).filterMap (·.report? (d.askedAfter m))).reverse ++ d.log }

/-- What an exchange makes of the dialogue. -/
def play (d : Dialogue) : Exchange → Dialogue
  | .move m => d.act m
  | .finish id =>
    match d.vehicle.finish id with
    | none => d
    | some (r, v) => { d with vehicle := v }.act (.act (.answered id r none))
  | .told n =>
    { d with
      vehicle := (d.vehicle.notify n).1
      log := ((Effect.notify n).report? d.asked).toList ++ d.log }

end Dialogue

/-- Neither a question to the vehicle nor the end of one, and no result of an association call. -/
def Effect.isAside : Effect → Bool
  | .ask .. | .abandon _ | .returned _ (.association _) => false
  | _ => true

/-- The move asks the vehicle nothing, and neither begins nor ends a call that waits. -/
structure Move.IsAside (s : System) (m : Move) : Prop where
  asks : (s.move m).asks = s.asks
  calls : (s.move m).calls = s.calls
  nextId : s.nextId ≤ (s.move m).nextId
  heard : ∀ e ∈ (s.move m).heard, e.isAside = true

/-- The exchanges in question: association calls, the ends of their questions, removals, and whatever
    is aside from them. -/
def Exchange.Allowed (s : System) : Exchange → Prop
  | .finish _ | .told _ => True
  | .move (.act (.perform _ (.getAssociations ..))) => True
  | .move (.act (.perform _ (.setAssociations ..))) => True
  | .move (.act (.perform _ (.removeUser _))) => True
  | .move (.act (.expired _)) | .move (.act (.canceled _)) => True
  | .move m => m.IsAside s

/-- `d` comes about by such exchanges, from a service without questions and a vehicle that remembers
    nothing. -/
inductive IsDialogue : Dialogue → Prop
  | begins {s : System} {v : Simulator} : s.asks = [] → (∀ c ∈ s.calls, c.id < s.nextId) →
      s.out = [] → v.calls = [] → v.associations = [] → IsDialogue { system := s, vehicle := v }
  | step {d : Dialogue} {x : Exchange} : IsDialogue d → x.Allowed d.system → IsDialogue (d.play x)

/-! ## What is handed on -/

theorem handOn_of_isInternal {e : Effect} (x : System × Simulator) (internal : e.isInternal = true) :
    handOn x e = x := by
  cases e <;> first | rfl | cases internal

theorem foldl_handOn (es : List Effect) (x : System × Simulator) :
    es.foldl handOn x = (es.filter (!·.isInternal)).foldl handOn x := by
  rw [List.foldl_filter]
  refine congrArg (List.foldl · x es) (funext fun y => funext fun e => ?_)
  by_cases internal : e.isInternal = true
  · rw [handOn_of_isInternal y internal, if_neg (by simp [internal])]
  · rw [if_pos (by simp [internal])]

theorem filterMap_report? (asked : List (Nat × Operation)) (es : List Effect) :
    es.filterMap (·.report? asked) = (es.filter (!·.isInternal)).filterMap (·.report? asked) := by
  rw [List.filterMap_filter]
  refine congrArg (List.filterMap · es) (funext fun e => ?_)
  cases e <;> rfl

/-- What a move of the service comes to depends on what is heard of it. -/
theorem Dialogue.act_eq (d : Dialogue) (m : Move) {hs : List Effect}
    (heard : (d.system.move m).heard = hs) {x : System × Simulator}
    (led : hs.foldl handOn ((d.system.move m).take.2, d.vehicle) = x) : d.act m =
      { system := x.1.take.2
        vehicle := x.2
        asked := d.askedAfter m
        log := ((hs ++ x.1.heard).filterMap (·.report? (d.askedAfter m))).reverse ++ d.log } := by
  have handed : (d.system.move m).out.foldl handOn ((d.system.move m).take.2, d.vehicle) = x := by
    rw [foldl_handOn, ← led, ← heard]
    rfl
  have said : ((d.system.move m).out ++ x.1.out).filterMap (·.report? (d.askedAfter m)) =
      (hs ++ x.1.heard).filterMap (·.report? (d.askedAfter m)) := by
    rw [filterMap_report?, List.filter_append, ← heard]
    rfl
  simp only [Dialogue.act, System.take] at handed ⊢
  rw [handed]
  rw [said]

/-! ## Association calls of the service -/

/-- The questions, the calls, the next number and what is heard of the system `t`. -/
structure System.Shows (t : System) (asks : List Ask) (calls : List Call) (nextId : Nat)
    (heard : List Effect) : Prop where
  asks : t.asks = asks
  calls : t.calls = calls
  nextId : t.nextId = nextId
  heard : t.heard = heard

/-- The system has nothing to say, and these questions, calls and next number. -/
structure System.Rests (t : System) (asks : List Ask) (calls : List Call) (nextId : Nat) : Prop where
  silent : t.out = []
  asks : t.asks = asks
  calls : t.calls = calls
  nextId : t.nextId = nextId

section Shows

variable {s : System} {asks : List Ask} {calls : List Call} {nextId : Nat} {heard : List Effect}

theorem System.Shows.rests (shows : s.Shows asks calls nextId heard) :
    s.take.2.Rests asks calls nextId := ⟨rfl, shows.asks, shows.calls, shows.nextId⟩

theorem System.Shows.note (shows : s.Shows asks calls nextId heard) (n : Note) :
    (s.note n).Shows asks calls nextId heard :=
  ⟨shows.asks, shows.calls, shows.nextId, (heard_note s n).trans shows.heard⟩

/-- Neither notes nor what is stored show. -/
theorem sparing_shows : Sparing (fun _ => True) (·.isInternal = true)
    fun s t => s.Shows asks calls nextId heard → t.Shows asks calls nextId heard where
  refl _ := id
  trans one other := other ∘ one
  noted _ n _ shows := shows.note n
  said _ e internal shows :=
    ⟨shows.asks, shows.calls, shows.nextId, (sparing_heard.said _ e internal).trans shows.heard⟩
  stored _ _ _ shows := ⟨shows.asks, shows.calls, shows.nextId, shows.heard⟩
  offered _ := rfl

theorem System.Shows.notes (shows : s.Shows asks calls nextId heard) (ns : List Note) :
    (s.notes ns).Shows asks calls nextId heard := sparing_shows.notes s (fun _ _ => trivial) shows

/-- Something is said that is heard outside. -/
theorem System.Shows.emit (shows : s.Shows asks calls nextId heard) {e : Effect}
    (loud : e.isInternal = false) : (s.emit e).Shows asks calls nextId (heard ++ [e]) where
  asks := shows.asks
  calls := shows.calls
  nextId := shows.nextId
  heard := by
    rw [heard_emit, shows.heard, List.filter_cons_of_pos (by simp [loud])]
    rfl

/-- A call returns. -/
theorem System.Shows.finish (shows : s.Shows asks calls nextId heard) (id : Nat) (r : Result) :
    (s.finish id r).Shows asks (calls.filter (·.id != id)) nextId (heard ++ [.returned id r]) where
  asks := shows.asks
  calls := congrArg (List.filter fun c : Call => c.id != id) shows.calls
  nextId := shows.nextId
  heard := by rw [heard_finish, shows.heard]

/-- The result of an association call is told, and the call returns. -/
theorem System.Shows.associated (shows : s.Shows asks calls nextId heard) (id : Nat)
    (isWrite : Bool) (r : AssociationResult) : (s.associated id isWrite r).Shows asks
      (calls.filter (·.id != id)) nextId (heard ++ [.returned id (.association r)]) :=
  (shows.note _).finish id _

theorem System.Shows.applyChange (shows : s.Shows asks calls nextId heard) (c : Registry.Change) :
    (s.applyChange c).Shows asks calls nextId heard :=
  sparing_shows.applyChange s (fun _ _ => trivial) (fun _ => trivial)
    ⟨shows.asks, shows.calls, shows.nextId, shows.heard⟩

/-- A removal tells the vehicle, if anything, and returns. -/
theorem System.Shows.removeUser (shows : s.Shows asks calls nextId heard) (id : Nat) (user : UserId) :
    ∃ (notice : Option Notice) (status : RemoveStatus), (s.removeUser id user).Shows asks
      (calls.filter (·.id != id)) nextId
      (heard ++ notice.toList.map .notify ++ [.returned id (.removed status)]) := by
  rw [System.removeUser]
  generalize Provision.remove s.roster s.sessions.current s.capabilities.remove user = removal
  have dropped : ({ s with roster := removal.roster } : System).Shows asks calls nextId heard :=
    ⟨shows.asks, shows.calls, shows.nextId, shows.heard⟩
  have forgotten : (if removal.value.status.isSuccess then
      ({ s with roster := removal.roster } : System).applyChange (s.registry.forget user).1
      else { s with roster := removal.roster }).Shows asks calls nextId heard := by
    split
    · exact dropped.applyChange _
    · exact dropped
  refine ⟨removal.value.notice, removal.value.status, ?_⟩
  refine System.Shows.finish (System.Shows.notes ?_ removal.notes) id _
  cases removal.value.notice with
  | none => simpa only [Option.toList_none, List.map_nil, List.append_nil] using forgotten
  | some n => exact forgotten.emit rfl

end Shows

section Calls

variable {s : System}

/-- A call that is checked and refused returns. -/
theorem shows_refused (isWrite : Bool) (caller : UserId) (timeout : Option Duration)
    (ctx : Context) (r : AssociationResult) :
    (s.freshId.2.associate s.nextId isWrite caller timeout ctx (.refused r)).Shows s.asks
      (s.calls.filter (·.id != s.nextId)) (s.nextId + 1)
      (s.heard ++ [.returned s.nextId (.association r)]) :=
  System.Shows.associated (s := s.freshId.2) ⟨rfl, rfl, rfl, rfl⟩ s.nextId isWrite r

/-- A call that is checked puts its question to the vehicle. -/
theorem shows_asked (isWrite : Bool) (caller : UserId) (timeout : Option Duration)
    (ctx : Context) (request : Vehicle.Request) :
    ∃ a : Ask, a.id = s.nextId + 1 ∧ a.request = request ∧ a.owner = .call s.nextId ∧
      (s.freshId.2.associate s.nextId isWrite caller timeout ctx (.ask request)).Shows
        (s.asks ++ [a]) (s.calls ++ [⟨s.nextId, none, .associating isWrite caller⟩])
        (s.nextId + 2) (s.heard ++ [.ask (s.nextId + 1) request ctx.gone]) := by
  exact ⟨_, rfl, rfl, rfl, rfl, rfl, rfl, heard_emit ..⟩

/-- What an association call returns whose question ends so. -/
structure Results (e : Trip.Ending Vehicle.Response) (r : AssociationResult) : Prop where
  answered : ∀ response, e = .answered response none →
    r.status = .successful ∧ r.values = response.asAssociation.values
  successful : r.status = .successful → ∃ response, e = .answered response none

/-- A verdict is without fault just if it is on an answer without fault. -/
theorem results_verdict (a : Ask) (e : Trip.Ending Vehicle.Response) (isWrite : Bool)
    (caller : UserId) : Results e (Association.answered isWrite caller
      (a.verdict e).value.asAssociation (a.verdict e).fault).1 := by
  have fails {e : Trip.Ending Vehicle.Response} (f : Fault) (response : Vehicle.Response)
      (other : ∀ response, e ≠ .answered response none) :
      Results e (Association.answered isWrite caller response.asAssociation (some f)).1 :=
    ⟨fun response same => absurd same (other response), fun fine => nomatch fine⟩
  unfold Ask.verdict
  rcases e with ⟨response, _ | f⟩ | _ | _
  · cases tripKind? a.request <;>
      exact ⟨by rintro _ ⟨⟩; exact ⟨rfl, rfl⟩, fun _ => ⟨response, rfl⟩⟩
  · cases tripKind? a.request with
    | none => exact fails f response nofun
    | some kind =>
      by_cases missed : f.isDeadline = true
      · simp only [Trip.Ending.verdict, missed, if_true]
        exact fails .tripTimeout a.request.blank nofun
      · simp only [Trip.Ending.verdict, missed]
        exact fails f response nofun
  · cases tripKind? a.request <;> exact fails .tripTimeout a.request.blank nofun
  · cases tripKind? a.request <;> exact fails .canceled a.request.blank nofun

/-- The call `number` waits for the question `a` of its association call. -/
structure Waits (s : System) (a : Ask) (number : Nat) : Prop where
  owner : a.owner = .call number
  call : ∃ deadline isWrite caller,
    s.call? number = some ⟨number, deadline, .associating isWrite caller⟩

/-- The call gets an answer, and returns. -/
theorem shows_answerCall {number : Nat} {asks : List Ask} {calls : List Call} {nextId : Nat}
    {heard : List Effect} (shows : s.Shows asks calls nextId heard) (v : Trip.Verdict Vehicle.Response)
    {deadline : Option Int} {isWrite : Bool} {caller : UserId}
    (call : calls.find? (·.id == number) = some ⟨number, deadline, .associating isWrite caller⟩) :
    (s.answerCall number v).Shows asks (calls.filter (·.id != number)) nextId
      (heard ++ [.returned number (.association
        (Association.answered isWrite caller v.value.asAssociation v.fault).1)]) := by
  rw [answerCall, call?, shows.calls, call]
  dsimp only
  exact (shows.notes _).associated number isWrite _

/-- What the service says when a question ends without an answer. -/
def abandoned (id : Nat) : Trip.Ending Vehicle.Response → List Effect
  | .answered .. => []
  | .expired | .canceled => [.abandon id]

/-- A question is dropped. -/
theorem shows_dropAsk (a : Ask) (e : Trip.Ending Vehicle.Response) :
    (s.dropAsk a e).Shows (s.asks.filter (·.id != a.id)) s.calls s.nextId
      (s.heard ++ abandoned a.id e) := by
  have recorded {t : System} {heard : List Effect} (o : TripOutcome)
      (shows : t.Shows (s.asks.filter (·.id != a.id)) s.calls s.nextId heard) :
      (t.recorded a o).Shows (s.asks.filter (·.id != a.id)) s.calls s.nextId heard :=
    sparing_shows.recorded t a o (fun _ _ _ => trivial) shows
  have dropped : ({ s with asks := s.asks.filter (·.id != a.id) } : System).Shows
      (s.asks.filter (·.id != a.id)) s.calls s.nextId s.heard := ⟨rfl, rfl, rfl, rfl⟩
  cases e with
  | answered =>
    rw [abandoned, List.append_nil]
    exact recorded _ dropped
  | expired | canceled => exact recorded _ (dropped.emit rfl)

/-- A question that ends takes its call with it. -/
theorem shows_askEnded {id number : Nat} {a : Ask} (found : s.asks.find? (·.id == id) = some a)
    (waits : Waits s a number) (e : Trip.Ending Vehicle.Response) :
    ∃ r, Results e r ∧ (s.askEnded id e).Shows (s.asks.filter (·.id != id))
      (s.calls.filter (·.id != number)) s.nextId
      (s.heard ++ abandoned id e ++ [.returned number (.association r)]) := by
  obtain ⟨deadline, isWrite, caller, call⟩ := waits.call
  obtain rfl : a.id = id := by simpa using List.find?_some found
  rw [askEnded_eq found, waits.owner]
  exact ⟨_, results_verdict a e isWrite caller, shows_answerCall (shows_dropAsk a e) _ call⟩

end Calls

/-! ## Checks -/

theorem refusal_of_refuse {status : AssociationStatus} {message : String}
    (other : status ≠ .successful) : ∃ refusal, refusal.status ≠ .successful ∧
      Association.refuse status message = .refused refusal :=
  ⟨⟨status, none, message⟩, other, rfl⟩

theorem read_cases (r : Roster) (supported : Bool) (caller : UserId) (types : List Int64) :
    (∃ refusal, refusal.status ≠ .successful ∧
      Association.read r supported caller types = .refused refusal) ∨
    ∃ user : User, user.id = caller ∧
      Association.read r supported caller types = .ask (.getAssociations user types) := by
  rw [Association.read]
  split
  · exact .inl (refusal_of_refuse nofun)
  split
  · exact .inl (refusal_of_refuse nofun)
  split
  · exact .inl (refusal_of_refuse nofun)
  case _ user found => exact .inr ⟨user, Roster.id_of_user found, rfl⟩

theorem write_cases (r : Roster) (supported : Bool) (caller : UserId) (types values : List Int64) :
    (∃ refusal, refusal.status ≠ .successful ∧
      Association.write r supported caller types values = .refused refusal) ∨
    ∃ user : User, user.id = caller ∧
      Association.write r supported caller types values =
        .ask (.setAssociations user types values) := by
  rw [Association.write]
  split
  · exact .inl (refusal_of_refuse nofun)
  split
  · exact .inl (refusal_of_refuse nofun)
  split
  · exact .inl (refusal_of_refuse nofun)
  split
  · exact .inl (refusal_of_refuse nofun)
  split
  · exact .inl (refusal_of_refuse nofun)
  case _ user found => exact .inr ⟨user, Roster.id_of_user found, rfl⟩

end HeadUnit.Service
