import HeadUnit.Proofs.Service.Follow

/-!
# What a move changes

`Change` lists what a move of the system can do, one constructor per outcome: the
system follows; the published desk is asked for a switch; a commit comes back; a
run is made, or published. `change_move` says that the list is complete. `Turn`
is what this means for a single run. Proofs about runs of the service go by cases on
`Turn` and on the steps of a run, and look into no operation.
-/

namespace HeadUnit.Service

open Switching (View)

/-! ## The list of changes -/

/-- What a move asks of the published desk: a request under a new number, or the
    switch that the vehicle starts. -/
def Asks (s : System) (m : Move) : Switching.Move → Prop
  | .request _ _ k _ _ => k = s.nextId
  | .initiate _ _ token target => m.initiated? = some (token, target)
  | _ => False

open HeadUnit.Service.System in
/-- What a move can do to a system. -/
inductive Change (s : System) (m : Move) (s' : System) : Prop
  | follows (on : Follows s emptyHand s' emptyHand)
  /-- The published desk is asked for a switch. -/
  | asked {i : Nat} {r : Run} {q : Switching.Move} {s₁ : System} (published : s.published = some i)
      (here : s.runs[i]? = some r) (asks : Asks s m q) (quiet : Quiet s s₁)
      (numbered : s.nextId < s₁.nextId)
      (on : Follows (s₁.putDesk i (Switching.Moment.mk r.desk q).after) emptyHand s' emptyHand)
  /-- The operating system has switched for a desk, or failed to. -/
  | committed {i : Nat} {r r₁ : Run} {c : Switching.Commit} {s₁ : System} {v : View}
      {fault : Option Fault} (move : m = .act (.commit i)) (here : s.runs[i]? = some r)
      (doing : r.desk.worker = .committing c)
      (switched : s.onSessions .worker (s.sessions.switchTo c.target s.millis) = (s₁, fault))
      (there : s₁.runs[i]? = some r₁)
      (on : Follows (s₁.putDesk i (Switching.Moment.mk r₁.desk (.committed v fault)).after)
        emptyHand s' emptyHand)
  /-- A start makes a run. -/
  | built {c : Call} (here : s.call? c.id = some c) (work : c.work = .building)
      (on : Quiet (s.buildRun c.id) s')
  /-- A start publishes the run that it has made. -/
  | published {c : Call} {i : Nat} (here : s.call? c.id = some c) (work : c.work = .wiring i [])
      (on : Quiet (s.publish i) s')

namespace Change

open HeadUnit.Service.System

variable {s s' s'' : System} {m : Move}

/-- A quiet operation does not matter afterwards. -/
theorem quiet (change : Change s m s') (more : Quiet s' s'') : Change s m s'' := by
  cases change with
  | follows on => exact .follows (on.trans (.of_quiet more))
  | asked published here asks quiet numbered on =>
    exact .asked published here asks quiet numbered (on.trans (.of_quiet more))
  | committed move here doing switched there on =>
    exact .committed move here doing switched there (on.trans (.of_quiet more))
  | built here work on => exact .built here work (on.trans more)
  | published here work on => exact .published here work (on.trans more)

theorem of_control (quiet : Quiet s s') (c : Control) : Change s m (s'.control c) := by
  cases c with
  | start id parentDone => exact .follows (.of_quiet (quiet.trans (quiet_startNow ..)))
  | stop id => exact .follows ((follows_stopNow s' id).since quiet)

theorem of_request (quiet : Quiet s s') (c : Control) : Change s m (s'.request c) := by
  unfold request
  split
  · exact .follows (.of_quiet (quiet.trans ⟨rfl, rfl, rfl, Nat.le_refl _⟩))
  · exact of_control quiet c

/-- The published desk is asked for a switch on behalf of a call. -/
theorem of_onDesk {i : Nat} {q : Switching.Move} (published : s.published = some i)
    (asks : Asks s m q) (quiet : Quiet s s') (numbered : s.nextId < s'.nextId) :
    Change s m (s'.onDesk i (·.move q)) := by
  cases here : s.runs[i]? with
  | none =>
    have same : s'.onDesk i (·.move q) = s' := by simp only [onDesk, quiet.runs, here]
    rw [same]
    exact .follows (.of_quiet quiet)
  | some r =>
    refine .asked published here asks quiet numbered (follows_putDesk emptyHand ?_ q)
    rw [quiet.runs, here]

end Change

open HeadUnit.Service.System

/-! ## The list is complete -/

/-- A call gets a number of its own. -/
theorem System.nextId_freshId (s : System) : s.nextId < s.freshId.2.nextId := Nat.lt_succ_self _

theorem change_requestSwitch {s : System} {m : Move} {target : UserId} {timeout : Duration} :
    Change s m (s.freshId.2.requestSwitch s.nextId target timeout) := by
  unfold requestSwitch
  split
  · exact .follows (.of_quiet ((quiet_freshId s).trans ((quiet_emit ..).trans (quiet_finish ..))))
  · next i published =>
    exact Change.of_onDesk
      (q := .request s.freshId.2.view (.caller s.nextId) s.nextId target timeout)
      published rfl ((quiet_freshId s).trans (quiet_await ..)) s.nextId_freshId

theorem change_switchUser {s : System} {m : Move} {ctx : Context} {target : UserId}
    {timeout : Duration} : Change s m (s.freshId.2.switchUser s.nextId ctx target timeout) := by
  unfold switchUser
  split
  · exact .follows (.of_quiet ((quiet_freshId s).trans (quiet_finish ..)))
  · next i published =>
    dsimp only
    have asked : Change s m ((s.freshId.2.await s.nextId ctx.deadline .switching).onDesk i
        (·.request s.freshId.2.view (.caller s.nextId) s.nextId target timeout)) :=
      Change.of_onDesk (q := .request s.freshId.2.view (.caller s.nextId) s.nextId target timeout)
        published rfl ((quiet_freshId s).trans (quiet_await ..)) s.nextId_freshId
    split
    · exact asked.quiet (aloof_quiet.leaveSwitch ..)
    · exact asked

theorem change_switchDriver {s : System} {m : Move} {ctx : Context} {target : UserId}
    {timeout : Duration} : Change s m (s.freshId.2.switchDriver s.nextId ctx target timeout) := by
  unfold switchDriver
  split
  · exact .follows (.of_quiet ((quiet_freshId s).trans (quiet_finish ..)))
  · split
    · exact .follows (.of_quiet
        ((quiet_freshId s).trans ((quiet_note ..).trans (quiet_finish ..))))
    · exact change_switchUser

theorem change_initiatedSwitch {s : System} {ctx : Context} {token : Token} {target : UserId} :
    Change s (.act (.perform ctx (.initiatedSwitch token target)))
      (s.freshId.2.initiatedSwitch s.nextId token target) := by
  unfold initiatedSwitch
  split
  · exact .follows (.of_quiet ((quiet_freshId s).trans
      ((quiet_note ..).trans ((quiet_emit ..).trans (quiet_finish ..)))))
  · next i published =>
    exact Change.of_onDesk (q := .initiate s.freshId.2.view (.caller s.nextId) token target)
      published rfl ((quiet_freshId s).trans (quiet_await ..)) s.nextId_freshId

/-- An operation is performed on behalf of a new call. -/
theorem change_perform (s : System) (ctx : Context) (op : Operation)
    (proper : (Move.act (.perform ctx op)).Proper) :
    Change s (.act (.perform ctx op)) (s.freshId.2.perform s.nextId ctx op) := by
  have fresh := quiet_freshId s
  have quiet {s' : System} (q : Quiet s.freshId.2 s') : Change s (.act (.perform ctx op)) s' :=
    .follows (.of_quiet (fresh.trans q))
  have follows {s' : System} (on : Follows s.freshId.2 emptyHand s' emptyHand) :
      Change s (.act (.perform ctx op)) s' := .follows (on.since fresh)
  cases op with
  | requestSwitch target timeout => exact change_requestSwitch
  | switchUser target timeout => exact change_switchUser
  | switchDriver target timeout => exact change_switchDriver
  | initiatedSwitch token target => exact change_initiatedSwitch
  | setPanel p => exact follows ((follows_setPanel ..).trans (.of_quiet (quiet_finish ..)))
  | setTimeout d => exact follows ((follows_setTimeout ..).trans (.of_quiet (quiet_finish ..)))
  | setMaxRunning n => exact quiet (quiet_setMaxRunning ..)
  | createUser name kind flags timeout => exact quiet (quiet_created ..)
  | createDriver name admin => exact quiet (quiet_created ..)
  | createProfile name driver =>
    exact quiet (((quiet_notes ..).trans (quiet_finish ..)).since ⟨rfl, rfl, rfl, Nat.le_refl _⟩)
  | removeUser user => exact quiet (quiet_removeUser ..)
  | startBackground => exact follows (follows_startBackground ..)
  | stopBackground user => exact follows (follows_stopBackground ..)
  | setInitial user => exact quiet (quiet_setInitial ..)
  | initialInfo type timeout => exact quiet (aloof_quiet.initialInfo ..)
  | getAssociations caller types => exact quiet (aloof_quiet.associate ..)
  | setAssociations caller types values timeout => exact quiet (aloof_quiet.associate ..)
  | event e => exact follows ((follows_onEvent ..).trans (.of_quiet (quiet_finish ..)))
  | addListener o =>
    exact follows (follows_onPublishedBus _ _ (.register o) trivial fun _ => rfl)
  | removeListener o =>
    refine follows (follows_onPublishedBus _ _ (.unregister o) ?_ fun _ => rfl)
    cases o with
    | listener l => exact proper l rfl
    | missing | notComparable => trivial
  | addRemote uid handle =>
    exact follows (follows_onPublishedBus _ _ (.registerRemote uid handle) trivial fun _ => rfl)
  | removeRemote uid =>
    exact follows (follows_onPublishedBus _ _ (.unregisterRemote uid) trivial fun _ => rfl)
  | flush => exact follows (follows_flushEvents ..)

/-- The operating system switches for a desk that waits for it. -/
theorem change_commit (s : System) (i : Nat) : Change s (.act (.commit i)) (s.commit i) := by
  unfold commit
  split
  · exact .follows (.refl s emptyHand)
  · next r here =>
    split
    · next c doing =>
      have follows := follows_onSessions s .worker (s.sessions.switchTo c.target s.millis)
      obtain ⟨r₁, there, _⟩ := follows.runs i r here
      exact .committed rfl here doing rfl there (follows_putDesk emptyHand there (.committed _ _))
    · exact .follows (.refl s emptyHand)

/-- The next start or stop begins, if there is one that waits. -/
theorem change_nextControl {s : System} {m : Move} : Change s m (s.nextControl?.getD s) := by
  unfold nextControl?
  split
  · next c cs _ _ =>
    have others : Quiet s { s with controls := cs } := ⟨rfl, rfl, rfl, Nat.le_refl _⟩
    exact .of_control others c
  · exact .follows (.refl s emptyHand)

/-- A call goes on with what it is about to do. -/
theorem change_goOn (s : System) (id : Nat) {m : Move} : Change s m ((s.goOn? id).getD s) := by
  have own {c : Call} (here : s.call? id = some c) : c.id = id := by
    simpa using List.find?_some here
  have on := s.goesOn id
  generalize (s.goOn? id).getD s = s' at on
  cases on with
  | nothing => exact .follows (.refl s emptyHand)
  | bounded => exact .follows (.of_quiet (quiet_bound ..))
  | read => exact .follows (.of_quiet (aloof_quiet.readState ..))
  | cached => exact .follows (.of_quiet (quiet_cacheState ..))
  | restored => exact .follows (.of_quiet (quiet_restoreState ..))
  | built here work =>
    obtain rfl := own here
    exact .built here work (.refl _)
  | @wired c i left here work =>
    obtain rfl := own here
    cases left with
    | nil => exact .published here work (aloof_quiet.nextPlugin ..)
    | cons l left => exact .follows (follows_wire ..)
  | shut => exact .follows (.of_quiet (aloof_quiet.shutNext ..))

/-- An action is one of the changes. -/
theorem change_step (s : System) (a : Action) (proper : (Move.act a).Proper) :
    Change s (.act a) (s.step a) := by
  cases a with
  | elapse t => exact .follows (.of_quiet ⟨rfl, rfl, rfl, Nat.le_refl _⟩)
  | perform ctx op => exact change_perform s ctx op proper
  | start parentDone => exact .of_request (quiet_freshId s) _
  | stop => exact .of_request (quiet_freshId s) _
  | parentEnded i =>
    dsimp only [step]
    split
    · exact .follows (.of_quiet ⟨rfl, rfl, rfl, Nat.le_refl _⟩)
    · exact .follows (.refl s emptyHand)
  | contextEnded call f => exact .follows (.of_quiet (aloof_quiet.contextEnded ..))
  | answered ask r f => exact .follows (follows_askEnded s ask (.answered r f))
  | expired ask => exact .follows (follows_askEnded s ask .expired)
  | canceled ask => exact .follows (follows_askEnded s ask .canceled)
  | commit i => exact change_commit s i
  | listenerReturned i crash => exact .follows (follows_listenerReturned ..)
  | handleTook i fault => exact .follows (follows_moveBus s i (.sent fault) trivial)
  | handleDied h => exact .follows (follows_handleDied s h)
  | pluginReady call fault => exact .follows (follows_pluginReady ..)
  | notice i => exact .follows (follows_notice s i)
  | busStep i => exact .follows (follows_busStep s i)
  | deskWork i => exact .follows (follows_deskMove s i (.work s.view) trivial fun _ => rfl)
  | deskStop i => exact .follows (follows_deskMove s i (.stop s.view) trivial fun _ => rfl)
  | launch i ticket => exact .follows (follows_onDesk s emptyHand i (.launch ticket) trivial)
  | deskMark i => exact .follows (follows_onDesk s emptyHand i .mark trivial)
  | record i => exact .follows (follows_record s i)
  | goOn id => exact change_goOn s id
  | reap i => exact .follows (follows_reap s i)
  | settleWait late => exact .follows (.of_quiet (aloof_quiet.settleWait s late))
  | nextControl => exact change_nextControl

/-- Every proper move is one of the changes. -/
theorem change_move (s : System) (m : Move) (proper : m.Proper) : Change s m (s.move m) := by
  cases m with
  | act a => exact change_step s a proper
  | intervene c => exact .follows ((follows_onSessions ..).since (quiet_freshId s))
  | roster r => exact .follows (.of_quiet ⟨rfl, rfl, rfl, Nat.le_refl _⟩)
  | repository r => exact .follows (.of_quiet ⟨rfl, rfl, rfl, Nat.le_refl _⟩)
  | faults => exact .follows (.of_quiet ⟨rfl, rfl, rfl, Nat.le_refl _⟩)

/-- So is every moment of a run. -/
theorem Moment.change (m : Moment) (proper : m.move.Proper) : Change m.before m.move m.after :=
  (change_move m.before m.move proper).quiet ⟨rfl, rfl, rfl, Nat.le_refl _⟩

/-! ## What becomes of a run -/

/-- What a move of the system that leads to `s'` means for the run `j`, which is
    `r'` then. -/
inductive Turn (s : System) (m : Move) (s' : System) (j : Nat) (r' : Run) : Prop
  | stepped {r : Run} (here : s.runs[j]? = some r) (steps : Run.Steps (r, []) (r', []))
      (kept : s'.published = some j → s.published = some j)
  /-- Its desk is asked for a switch. -/
  | asked {r : Run} {q : Switching.Move} (here : s.runs[j]? = some r) (asks : Asks s m q)
      (numbered : s.nextId < s'.nextId) (published : s.published = some j)
      (steps : Run.Steps ({ r with desk := (Switching.Moment.mk r.desk q).after }, []) (r', []))
  /-- The operating system has switched for its desk, or failed to. -/
  | committed {r r₁ : Run} {c : Switching.Commit} {s₁ : System} {v : View} {fault : Option Fault}
      (move : m = .act (.commit j)) (here : s.runs[j]? = some r)
      (doing : r.desk.worker = .committing c)
      (switched : s.onSessions .worker (s.sessions.switchTo c.target s.millis) = (s₁, fault))
      (there : s₁.runs[j]? = some r₁) (before : Run.Steps (r, []) (r₁, []))
      (steps : Run.Steps
        ({ r₁ with desk := (Switching.Moment.mk r₁.desk (.committed v fault)).after }, []) (r', []))
      (kept : s'.published = some j → s₁.published = some j)
  /-- It is made. -/
  | built {timeout : Duration} {headless : Bool} (bus : r'.bus = ({} : Bus Listener Nat).start)
      (desk : r'.desk = (Switching.Desk.fresh timeout headless).start) (found : r'.found = none)
      (kept : s'.published = some j → s.published = some j)
  /-- It is published by the call that has made it. -/
  | published {r : Run} {c : Call} (here : s.runs[j]? = some r) (steps : Run.Steps (r, []) (r', []))
      (call : s.call? c.id = some c) (work : c.work = .wiring j [])

namespace Change

variable {s s' : System} {m : Move}

theorem ids (change : Change s m s') : s.nextId ≤ s'.nextId := by
  cases change with
  | follows on => exact on.ids
  | asked _ _ _ quiet _ on => exact Nat.le_trans quiet.ids on.ids
  | @committed i r r₁ c s₁ v fault _ _ _ switched _ on =>
    have before := (follows_onSessions s .worker (s.sessions.switchTo c.target s.millis)).ids
    rw [switched] at before
    exact Nat.le_trans before on.ids
  | built _ _ on => exact on.ids
  | published _ _ on => exact on.ids

/-- The events of the sessions go where they went before. -/
theorem sink (change : Change s m s') : s'.sink = s.sink := by
  cases change with
  | follows on => exact on.sink
  | asked _ _ _ quiet _ on => exact on.sink.trans quiet.sink
  | @committed i r r₁ c s₁ v fault _ _ _ switched _ on =>
    have before := (follows_onSessions s .worker (s.sessions.switchTo c.target s.millis)).sink
    rw [switched] at before
    exact on.sink.trans before
  | built _ _ on => exact on.sink
  | published _ _ on => exact on.sink

/-- What a change means for each run. -/
theorem turn (change : Change s m s') {j : Nat} {r' : Run} (there : s'.runs[j]? = some r') :
    Turn s m s' j r' := by
  cases change with
  | follows on =>
    obtain ⟨r, here, steps⟩ := on.origin there
    exact .stepped here steps on.kept
  | @asked i r q s₁ published here asks quiet numbered on =>
    obtain ⟨r₂, there₂, steps⟩ := on.origin there
    obtain ⟨r₁, there₁, rfl⟩ := runs_putDesk there₂
    rw [quiet.runs] at there₁
    have kept (p : s'.published = some j) : s.published = some j :=
      quiet.published.symm.trans (on.kept p)
    by_cases same : i = j
    · subst same
      obtain rfl : r = r₁ := Option.some.inj (here.symm.trans there₁)
      rw [if_pos rfl] at steps
      exact .asked here asks (Nat.lt_of_lt_of_le numbered on.ids) published steps
    · rw [if_neg same] at steps
      exact .stepped there₁ steps kept
  | @committed i r r₁ c s₁ v fault move here doing switched there' on =>
    have before : Follows s emptyHand s₁ emptyHand := by
      have := follows_onSessions s .worker (s.sessions.switchTo c.target s.millis)
      rwa [switched] at this
    obtain ⟨r₃, there₃, steps⟩ := on.origin there
    obtain ⟨r₂, there₂, rfl⟩ := runs_putDesk there₃
    obtain ⟨r₀, here₀, steps₀⟩ := before.origin there₂
    by_cases same : i = j
    · subst same
      obtain rfl : r = r₀ := Option.some.inj (here.symm.trans here₀)
      obtain rfl : r₁ = r₂ := Option.some.inj (there'.symm.trans there₂)
      rw [if_pos rfl] at steps
      exact .committed move here doing switched there₂ steps₀ steps on.kept
    · rw [if_neg same] at steps
      exact .stepped here₀ (steps₀.trans steps) fun p => before.kept (on.kept p)
  | @built c _ _ on =>
    have kept (p : s'.published = some j) : s.published = some j := on.published.symm.trans p
    rw [on.runs, buildRun, await', List.getElem?_append] at there
    split at there
    · exact .stepped there .refl kept
    · obtain rfl := List.mem_singleton.1 (List.mem_of_getElem? there)
      exact .built rfl rfl rfl kept
  | @published c i call work on =>
    rw [on.runs] at there
    obtain ⟨r, here, steps⟩ := origin_publish s i there
    by_cases own : i = j
    · subst own
      exact .published here steps call work
    · -- The run `i` is published, and no other.
      refine .stepped here steps fun published => ?_
      exact absurd (Option.some.inj (on.published.symm.trans published)) own

end Change

end HeadUnit.Service
