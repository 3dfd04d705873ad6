import HeadUnit.Service.Step

/-!
# Runs of the service

A *move* is one thing that can happen to a system: an action, or something done
by other hands. Others may call the session manager themselves, change the users
or the repository, and put faults in place. What a move does is `System.move`,
which only calls the operations of the system.

A *moment* is a move together with the system it was made on, a *history* the
list of moments so far. A run (`IsRun`) begins with a system that has just been
made, in any surroundings, and makes moves in any order, whether or not they are
due: an action that is not possible changes nothing. Whoever is outside offers
listeners of its own only (`Move.Proper`), as nobody gets hold of those of the
service.

The events of the sessions go to the service throughout.
-/

namespace HeadUnit.Service

/-- A call of the session manager by other hands. -/
inductive Intervention
  | switch (user : UserId)
  | start (user : UserId)
  | unlock (user : UserId)
  | stop (user : UserId)
  deriving DecidableEq, Repr

/-- What the session manager does about it. -/
def Intervention.result (s : Sessions) (millis : Int64) :
    Intervention → Except Fault (Sessions × List Event)
  | switch user => s.switchTo user millis
  | start user => s.startInBackground user millis
  | unlock user => s.unlock user millis
  | stop user => s.stop user millis

/-- One thing that can happen to a system. -/
inductive Move
  | act (a : Action)
  /-- Somebody else calls the session manager. -/
  | intervene (c : Intervention)
  /-- Somebody else changes the users. -/
  | roster (r : Roster)
  /-- Somebody else changes the repository, or makes it fail. -/
  | repository (r : Repository)
  /-- Faults of the session manager are put in place or cleared. -/
  | faults (switch : Option Fault) (start unlock stop : List (UserId × Fault))
      (denied : List UserId)

namespace Move

/-- The listener that is offered, to be added or to be removed. -/
def offered? : Move → Option Listener
  | act (.perform _ (.addListener (.listener l))) => some l
  | act (.perform _ (.removeListener (.listener l))) => some l
  | _ => none

/-- Whoever is outside has no listener but its own. -/
def Proper (m : Move) : Prop := ∀ l, m.offered? = some l → ∃ id, l = .outside id

theorem proper_of_offered {m : Move} (none : m.offered? = none) : m.Proper := fun _ offered =>
  nomatch none.symm.trans offered

/-- The switch that the vehicle starts, with its token. -/
def initiated? : Move → Option (Token × UserId)
  | act (.perform _ (.initiatedSwitch token target)) => some (token, target)
  | _ => none

end Move

/-- What a move does. -/
def System.move (s : System) : Move → System
  | .act a => s.step a
  | .intervene c =>
    let (id, s) := s.freshId
    (s.onSessions (.caller id) (c.result s.sessions s.millis)).1
  | .roster r => { s with roster := r }
  | .repository r => { s with repository := r }
  | .faults switch start unlock stop denied =>
    { s with sessions := { s.sessions with
      switchFault := switch
      startFaults := start
      unlockFaults := unlock
      stopFaults := stop
      denied := denied } }

/-- A move, and the system it was made on. -/
structure Moment where
  before : System
  move : Move

namespace Moment

/-- The system afterwards. -/
def after (m : Moment) : System := (m.before.move m.move).take.2

end Moment

/-- What happened so far, the oldest first. -/
abbrev History := List Moment

/-- The switches that the vehicle has started, with their tokens. -/
def History.initiated (h : History) : List (Token × UserId) := h.filterMap (·.move.initiated?)

/-- What a service is made with. -/
structure Surroundings where
  now : Int := 0
  plugins : List Plugin := []
  capabilities : Vehicle.Capabilities := Vehicle.Capabilities.all
  hasVehicle : Bool := true
  roster : Roster := Roster.fresh
  sessions : Sessions := Sessions.fresh UserId.system
  repository : Repository := {}
  panel : Option Switching.Panel := none

/-- The system in these surroundings. -/
def System.within (s : System) (w : Surroundings) : System :=
  { s with
    now := w.now
    plugins := w.plugins
    capabilities := w.capabilities
    hasVehicle := w.hasVehicle
    roster := w.roster
    sessions := w.sessions
    repository := w.repository
    panel := w.panel }

/-- The history `h` is one of a run, which has led to the system `s`. -/
inductive IsRun : History → System → Prop
  | new {c : Config} {s : System} (made : new c true true = .ok s) (w : Surroundings) :
      IsRun [] (s.within w)
  | step {h : History} {s : System} {m : Move} : IsRun h s → m.Proper →
      IsRun (h ++ [⟨s, m⟩]) (Moment.mk s m).after

/-! ## Playing moves -/

/-- The history and the system after the moves. -/
def played (h : History) (s : System) : List Move → History × System
  | [] => (h, s)
  | m :: ms => played (h ++ [⟨s, m⟩]) (Moment.mk s m).after ms

/-- Proper moves make a run longer. -/
theorem IsRun.play {h : History} {s : System} (run : IsRun h s) {ms : List Move}
    (proper : ∀ m ∈ ms, m.Proper) : IsRun (played h s ms).1 (played h s ms).2 := by
  induction ms generalizing h s with
  | nil => exact run
  | cons m ms ih =>
    exact ih (run.step (proper m List.mem_cons_self))
      fun n mem => proper n (List.mem_cons_of_mem m mem)

/-- What is played is put at the end of the history. -/
theorem played_eq (h : History) (s : System) (ms : List Move) :
    played h s ms = (h ++ (played [] s ms).1, (played [] s ms).2) := by
  induction ms generalizing h s with
  | nil => simp [played]
  | cons m ms ih =>
    rw [played, played, ih, ih ([] ++ _)]
    simp

/-- What is in the history stays in it. -/
theorem mem_played {h : History} {s : System} {ms : List Move} {x : Moment} (mem : x ∈ h) :
    x ∈ (played h s ms).1 := by
  rw [played_eq]
  exact List.mem_append_left _ mem

/-- The first move is made first. -/
theorem played_cons (s : System) (m : Move) (ms : List Move) :
    (played [] s (m :: ms)).1 = ⟨s, m⟩ :: (played [] (Moment.mk s m).after ms).1 :=
  congrArg Prod.fst (played_eq [⟨s, m⟩] (Moment.mk s m).after ms)

/-- Only what is played is made. -/
theorem move_mem_of_played {s : System} {ms : List Move} {x : Moment}
    (mem : x ∈ (played [] s ms).1) : x.move ∈ ms := by
  induction ms generalizing s with
  | nil => exact absurd mem List.not_mem_nil
  | cons m ms ih =>
    rw [played_cons] at mem
    rcases List.mem_cons.1 mem with rfl | later
    · exact List.mem_cons_self
    · exact List.mem_cons_of_mem m (ih later)

/-- Actions that offer no listener are proper. -/
theorem Move.proper_of_acts {as : List Action} (none : ∀ a ∈ as, (Move.act a).offered? = none) :
    ∀ m ∈ as.map Move.act, m.Proper := by
  intro m mem
  obtain ⟨a, mem', rfl⟩ := List.mem_map.1 mem
  exact Move.proper_of_offered (none a mem')

theorem new_default : new Config.default true true = .ok (System.fresh Config.default) := by rfl

/-- What becomes of a new service in these surroundings by the actions. -/
def acted (w : Surroundings) (as : List Action) : History × System :=
  played [] ((System.fresh Config.default).within w) (as.map .act)

/-- The service starts, as the call `call`, up to its plugins. -/
def startUp (call : Nat) : List Action := .start false :: List.replicate 7 (.goOn call)

end HeadUnit.Service
