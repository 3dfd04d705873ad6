import HeadUnit.Proofs.Service.Outline
import HeadUnit.Proofs.Switching.Trim

/-!
# What can be tuned about a service

The timeout of trips, the bound of running users and the panel can be changed at any time. Each
is kept in several places: by the service, by those that create users and write associations,
by the registry, and by the desk of every run. `System.tuned` shows all of these places, with
which of the desks is published.

Nearly everything that a system does leaves them alone: whatever goes on around the calls
(`aloof_tuned`), whatever is stored (`sparing_tuned`), and what the equations `tuned_` say, one
per operation.
-/

namespace HeadUnit.Registry

/-- Whoever leaves, the bound stays. -/
theorem maxRunning_evictRounds (rounds : Nat) (r : Registry) (dropped : List UserId) :
    (evictRounds rounds r dropped).registry.maxRunning = r.maxRunning := by
  induction rounds generalizing r dropped with
  | zero => rfl
  | succ rounds ih =>
    unfold evictRounds
    split
    · rfl
    · split
      · rfl
      · next i _ =>
        rw [ih]
        unfold drop
        split <;> rfl

@[simp]
theorem maxRunning_evict (r : Registry) : r.evict.registry.maxRunning = r.maxRunning :=
  maxRunning_evictRounds ..

theorem maxRunning_setMax (r : Registry) (n : Int64) : (r.setMax n).registry.maxRunning = n := by
  unfold setMax
  split
  · next same => exact same.symm
  · exact maxRunning_evict ..

theorem maxRunning_restore (r : Registry) (st : Snapshot) :
    (r.restore st).registry.maxRunning = r.maxRunning := by
  unfold restore
  dsimp only
  split <;> exact maxRunning_evict ..

theorem maxRunning_forget (r : Registry) (id : UserId) :
    (r.forget id).1.registry.maxRunning = r.maxRunning := by
  unfold forget
  split <;> rfl

theorem maxRunning_add (r : Registry) (u : User) (foreground : UserId) :
    (r.add u foreground).registry.maxRunning = r.maxRunning := by
  unfold add
  split
  · rfl
  split
  · exact maxRunning_evict ..
  split
  · rfl
  · exact maxRunning_evict ..

theorem maxRunning_stop (r : Registry) (sessions : Sessions) (id : UserId) (millis : Int64) :
    (r.stop sessions id millis).1.maxRunning = r.maxRunning := by
  unfold stop
  split
  · rfl
  split
  · rfl
  split <;> rfl

end HeadUnit.Registry

namespace HeadUnit.Service

open Switching (Desk Trim Panel)

/-- A change of a run sets something about its desk. -/
theorem map_trim_modify {rs : List Run} {i : Nat} {f : Run → Run} {g : Trim → Trim}
    (set : ∀ r, rs[i]? = some r → (f r).desk.trim = g r.desk.trim) :
    (rs.modify i f).map (·.desk.trim) = (rs.map (·.desk.trim)).modify i g := by
  refine List.ext_getElem? fun j => ?_
  simp only [List.getElem?_map, List.getElem?_modify]
  cases here : rs[j]? with
  | none => rfl
  | some r =>
    by_cases own : i = j
    · subst own
      simp [set r here]
    · simp [own]

/-- What can be tuned about a service, in all places where it is kept. -/
structure Tuned where
  timeout : Duration
  /-- The timeout that new users are ratified within. -/
  provision : Duration
  /-- The timeout that associations are written within. -/
  association : Duration
  maxRunning : Int64
  /-- The bound that the registry goes by. -/
  bound : Int64
  panel : Option Panel
  /-- What is set about the desks of all runs, the oldest first. -/
  desks : List Trim
  published : Option Nat
  deriving DecidableEq

def System.tuned (s : System) : Tuned where
  timeout := s.timeout
  provision := s.provisionTimeout
  association := s.associationTimeout
  maxRunning := s.maxRunning
  bound := s.registry.maxRunning
  panel := s.panel
  desks := s.runs.map (·.desk.trim)
  published := s.published

namespace System

variable (s : System)

/-! ## Operations that tune nothing -/

@[simp]
theorem tuned_emit (e : Effect) : (s.emit e).tuned = s.tuned := rfl

@[simp]
theorem tuned_note (n : Note) : (s.note n).tuned = s.tuned := rfl

/-- What goes on around the calls tunes nothing. -/
theorem aloof_tuned : Aloof fun s t => t.tuned = s.tuned where
  refl _ := rfl
  trans one other := other.trans one
  noted s n _ := tuned_note s n
  said s e _ := tuned_emit s e
  called _ _ := rfl
  asked _ _ _ _ _ := rfl
  steered _ _ _ := rfl

/-- Nor does what is stored. -/
theorem sparing_tuned : Sparing (fun _ => True) (fun _ => True) fun s t => t.tuned = s.tuned where
  refl _ := rfl
  trans one other := other.trans one
  noted s n _ := tuned_note s n
  said s e _ := tuned_emit s e
  stored _ _ _ := rfl
  offered _ := trivial

@[simp]
theorem tuned_notes (ns : List Note) : (s.notes ns).tuned = s.tuned := aloof_tuned.notes s ns

@[simp]
theorem tuned_finish (id : Nat) (r : Result) : (s.finish id r).tuned = s.tuned := rfl

@[simp]
theorem tuned_flushManager : s.flushManager.tuned = s.tuned := aloof_tuned.flushManager s

/-- The registry changes: its bound may. -/
theorem tuned_applyChange (c : Registry.Change) :
    (s.applyChange c).tuned = { s.tuned with bound := c.registry.maxRunning } :=
  sparing_tuned.applyChange s (fun _ _ => trivial) fun _ => trivial

theorem tuned_applyChange_of_eq {c : Registry.Change}
    (bound : c.registry.maxRunning = s.registry.maxRunning) :
    (s.applyChange c).tuned = s.tuned := by
  rw [tuned_applyChange, bound]
  rfl

/-- Something about a run changes that is no setting. -/
theorem tuned_onRun {i : Nat} {f : Run → Run}
    (same : ∀ r, s.runs[i]? = some r → (f r).desk.trim = r.desk.trim) :
    (s.onRun i f).tuned = s.tuned := by
  have desks : (s.runs.modify i f).map (·.desk.trim) = s.runs.map (·.desk.trim) := by
    rw [map_trim_modify (g := id) same, List.modify_id]
  simp only [tuned, onRun, desks]

@[simp]
theorem tuned_onBus (i : Nat) (f : Bus Listener Nat → Bus Listener Nat) :
    (s.onBus i f).tuned = s.tuned := tuned_onRun s fun _ _ => by rfl

/-- A desk does something that sets nothing. -/
theorem tuned_onDesk (i : Nat) {f : Desk → Desk}
    (same : ∀ r, s.runs[i]? = some r → (f r.desk).trim = r.desk.trim) :
    (s.onDesk i f).tuned = s.tuned := by
  unfold onDesk
  split
  · rfl
  · next r here =>
    refine (aloof_tuned.foldl _ fun t e _ =>
      aloof_tuned.fromDesk t i e fun t => t.tuned_onBus i _).trans ?_
    refine tuned_onRun s fun r' here' => ?_
    obtain rfl := Option.some.inj (here.symm.trans here')
    exact same r here

theorem tuned_moveDesk (i : Nat) {q : Switching.Move} (other : q.IsUnset) :
    (s.onDesk i (·.move q)).tuned = s.tuned :=
  tuned_onDesk s i fun r _ => r.desk.trim_move other

@[simp]
theorem tuned_fromBus (i : Nat) (e : Bus.Effect Listener Nat) :
    (fromBus i s e).tuned = s.tuned := by
  cases e with
  | note n | send uid h x => rfl
  | release barrier =>
    dsimp only [fromBus]
    split <;> rfl
  | call l x =>
    cases l with
    | outside id => rfl
    | desk => exact tuned_moveDesk s i (q := .events s.view .bus [x]) trivial
    | registry =>
      dsimp only [fromBus]
      split
      · exact tuned_onBus ..
      · rw [tuned_onBus, tuned_note]
      · exact tuned_onRun s fun _ _ => by rfl

@[simp]
theorem tuned_flushBus (i : Nat) : (s.flushBus i).tuned = s.tuned := by
  rcases s.flushBus_cases i with same | ⟨r, -, same⟩
  · rw [same]
  · rw [same]
    exact (aloof_tuned.foldl _ fun t e _ => tuned_fromBus t i e).trans (tuned_onBus ..)

@[simp]
theorem tuned_tryBus (i : Nat) (f : Bus Listener Nat → Except Fault (Bus Listener Nat)) :
    (s.tryBus i f).1.tuned = s.tuned := by
  unfold tryBus
  split
  · rfl
  · split
    · rfl
    · exact (tuned_flushBus ..).trans (tuned_onBus ..)

@[simp]
theorem tuned_onEvent (e : Event) : (s.onEvent e).tuned = s.tuned := by
  unfold onEvent
  split
  · rfl
  · rw [tuned_flushBus, tuned_onBus]

@[simp]
theorem tuned_emitEvents (p : Switching.Poster) (es : List Event) :
    (s.emitEvents p es).tuned = s.tuned :=
  aloof_tuned.emitEvents s p es (fun t e _ => tuned_onEvent t e)
    (fun i => tuned_moveDesk s i (q := .events s.view p es) trivial) fun _ => trivial

@[simp]
theorem tuned_onSessions (p : Switching.Poster) (r : Except Fault (Sessions × List Event)) :
    (s.onSessions p r).1.tuned = s.tuned := by
  unfold onSessions
  split
  · rfl
  · exact tuned_emitEvents ..

theorem tuned_commit (i : Nat) : (s.commit i).tuned = s.tuned := by
  unfold commit
  split
  · rfl
  · split
    · dsimp only
      exact (tuned_moveDesk _ i (q := .committed _ _) trivial).trans (tuned_onSessions ..)
    · rfl

/-! ### Answers -/

theorem tuned_answerCall (id : Nat) (v : Trip.Verdict Vehicle.Response) :
    (s.answerCall id v).tuned = s.tuned := by
  unfold answerCall
  split
  · exact tuned_notes ..
  · exact tuned_notes ..
  · split <;> rfl
  · rfl

theorem tuned_askEnded (id : Nat) (e : Trip.Ending Vehicle.Response) :
    (s.askEnded id e).tuned = s.tuned := by
  have told (t : System) (v : Trip.Verdict Vehicle.Response) (o : Owner) :
      (t.told v o).tuned = t.tuned := by
    cases o with
    | desk i ticket => exact tuned_moveDesk t i (q := .tripEnded t.view ticket _ _) trivial
    | call c => exact tuned_answerCall ..
  rcases s.askEnded_cases id e with same | ⟨a, -, same⟩
  · rw [same]
  · rw [same, told]
    exact aloof_tuned.dropAsk s a e (fun _ _ _ => trivial) trivial

/-! ### Operations -/

theorem tuned_requestSwitch (id : Nat) (target : UserId) (timeout : Duration) :
    (s.requestSwitch id target timeout).tuned = s.tuned := by
  unfold requestSwitch
  split
  · rfl
  · exact tuned_moveDesk _ _ (q := .request s.view (.caller id) id target timeout) trivial

theorem tuned_switchUser (id : Nat) (ctx : Context) (target : UserId) (timeout : Duration) :
    (s.switchUser id ctx target timeout).tuned = s.tuned := by
  unfold switchUser
  split
  · rfl
  · next i _ =>
    have asked : ((s.await id ctx.deadline .switching).onDesk i
        (·.request s.view (.caller id) id target timeout)).tuned = s.tuned :=
      tuned_moveDesk _ i (q := .request s.view (.caller id) id target timeout) trivial
    dsimp only
    split
    · exact (aloof_tuned.leaveSwitch ..).trans asked
    · exact asked

theorem tuned_switchDriver (id : Nat) (ctx : Context) (target : UserId) (timeout : Duration) :
    (s.switchDriver id ctx target timeout).tuned = s.tuned := by
  unfold switchDriver
  split
  · rfl
  · split
    · rfl
    · exact tuned_switchUser ..

theorem tuned_initiatedSwitch (id : Nat) (token : Token) (target : UserId) :
    (s.initiatedSwitch id token target).tuned = s.tuned := by
  unfold initiatedSwitch
  split
  · rfl
  · exact tuned_moveDesk _ _ (q := .initiate s.view (.caller id) token target) trivial

theorem tuned_removeUser (id : Nat) (user : UserId) : (s.removeUser id user).tuned = s.tuned := by
  have forgotten (roster : Roster) : (({ s with roster := roster } : System).applyChange
      (s.registry.forget user).1).tuned = s.tuned :=
    tuned_applyChange_of_eq { s with roster := roster } (Registry.maxRunning_forget ..)
  unfold removeUser
  generalize Provision.remove s.roster s.sessions.current s.capabilities.remove user = st
  obtain ⟨roster, notes, status, notice⟩ := st
  dsimp only
  cases notice with
  | none =>
    rw [tuned_finish, tuned_notes]
    dsimp only
    split
    · exact forgotten roster
    · rfl
  | some n =>
    rw [tuned_finish, tuned_notes, tuned_emit]
    split
    · exact forgotten roster
    · rfl

theorem tuned_startBackground (id : Nat) : (s.startBackground id).tuned = s.tuned := by
  have bound : (s.registry.startAll s.sessions s.millis).1.maxRunning = s.registry.maxRunning := rfl
  unfold startBackground startRegistered
  generalize s.registry.startAll s.sessions s.millis = started at bound
  obtain ⟨registry, st⟩ := started
  dsimp only
  rw [tuned_finish, tuned_note, tuned_emitEvents, tuned_notes]
  exact congrArg (fun n => { s.tuned with bound := n }) bound

theorem tuned_stopBackground (id : Nat) (user : UserId) :
    (s.stopBackground id user).tuned = s.tuned := by
  have bound := Registry.maxRunning_stop s.registry s.sessions user s.millis
  unfold stopBackground
  generalize s.registry.stop s.sessions user s.millis = stopped at bound
  obtain ⟨registry, sessions, events, notes, ok⟩ := stopped
  dsimp only at bound ⊢
  rw [tuned_finish, tuned_emitEvents, tuned_notes]
  exact congrArg (fun n => { s.tuned with bound := n }) bound

theorem tuned_setInitial (id : Nat) (ctx : Context) (user : UserId) :
    (s.setInitial id ctx user).tuned = s.tuned := by
  unfold setInitial
  dsimp only
  split
  · rfl
  · exact sparing_tuned.updateStore ..

theorem tuned_onPublishedBus (id : Nat)
    (f : Bus Listener Nat → Except Fault (Bus Listener Nat)) :
    (s.onPublishedBus id f).tuned = s.tuned := by
  unfold onPublishedBus
  split
  · rfl
  · exact tuned_tryBus ..

theorem tuned_flushEvents (id : Nat) (ctx : Context) :
    (s.flushEvents id ctx).tuned = s.tuned := by
  have flushed (i : Nat) := tuned_tryBus (s.await id ctx.deadline .flushing) i (·.flush id)
  rcases s.flushEvents_cases id ctx with same | ⟨i, -, same | ⟨f, same⟩⟩
  · rw [same, tuned_finish]
  · rw [same]
    exact flushed i
  · rw [same]
    exact flushed i

/-! ### Workers -/

theorem tuned_reap (i : Nat) : ((s.reap? i).getD s).tuned = s.tuned := by
  rcases s.reap_cases i with same | ⟨r, -, ⟨-, -, same⟩ | ⟨-, -, same⟩⟩
  · rw [same]
  · rw [same]
    exact (aloof_tuned.workerReturned ..).trans (tuned_onRun s fun _ _ => by rfl)
  · rw [same]
    exact (aloof_tuned.workerReturned ..).trans (tuned_onRun s fun _ _ => by rfl)

theorem tuned_notice (i : Nat) : ((s.notice? i).getD s).tuned = s.tuned := by
  rcases s.notice_cases i with same | ⟨r, -, -, same⟩
  · rw [same]
  · rw [same]
    exact tuned_onRun s fun _ _ => by rfl

theorem tuned_record (i : Nat) : ((s.record? i).getD s).tuned = s.tuned := by
  rcases s.record_cases i with same | ⟨r, u, -, -, same⟩
  · rw [same]
  · rw [same, tuned_flushBus, tuned_onBus, tuned_onRun _ fun _ _ => by rfl,
      tuned_applyChange_of_eq _ (Registry.maxRunning_add ..)]

theorem tuned_busStep (i : Nat) : ((s.busStep? i).getD s).tuned = s.tuned := by
  rcases s.busStep_cases i with same | ⟨r, -, same⟩
  · rw [same]
  · rw [same, tuned_flushBus, tuned_onBus]

/-- A worker of a desk goes on, if it can. -/
theorem tuned_deskMove (i : Nat) {q : Switching.Move} (other : q.IsUnset)
    {f : Desk → Option Desk} (made : ∀ d, (f d).getD d = d.move q) :
    ((do
      let r ← s.runs[i]?
      let d ← f r.desk
      return s.onDesk i fun _ => d : Option System).getD s).tuned = s.tuned := by
  rcases s.deskMove_cases i made with same | same
  · rw [same]
  · rw [same, tuned_moveDesk s i other]

end System

end HeadUnit.Service
