import HeadUnit.Switching.Command

/-!
# The switch desk

The desk tracks at most one user switch. A request installs a transaction,
asks the vehicle, and is answered by the worker, which alone lets the operating
system switch:

* a request for the tracked target is refused, one for another target
  supersedes the tracked transaction;
* an answer counts only if its transaction is still the tracked one, which its
  sequence number tells;
* after an approved commit the transaction stays tracked until its target
  unlocks, and then the vehicle is told;
* a switch the vehicle started replaces whatever is tracked;
* a switch that nobody negotiated is reported to the vehicle as it happens.

A transaction that is dropped is reported in the same move, but one that is
installed is reported in a move of its own: `launch` for a request, `mark` for a
switch the vehicle started. Other moves may come in between.

The worker takes commands from a queue of bounded length; posters wait for
room. When it stops, waiting posters are refused and queued commands fail, so
that every request gets its result.

What the desk asks for is appended to `out`, in order.
-/

namespace HeadUnit.Switching

/-- The message of requests that a stopped desk drops. -/
def stoppedMessage : String := "switch service stopped"

/-- How many commands the queue holds. -/
def queueSize : Nat := 64

/-- The timeout of a trip when none is given. -/
def defaultTimeout : Duration := 5000000000

/-- The switch desk. -/
structure Desk where
  headless : Bool := false
  timeout : Duration := defaultTimeout
  panel : Option Panel := none
  /-- The tracked transaction. -/
  tx : Option Transaction := none
  /-- The last sequence number given out. -/
  seq : UInt64 := 0
  queue : List Command := []
  waiting : List Waiting := []
  /-- Nothing is accepted any more. -/
  closed : Bool := false
  /-- The context of the worker has ended. -/
  contextDone : Bool := false
  /-- The context of the trips has ended. -/
  tripsDone : Bool := false
  worker : Worker := .unstarted
  trips : List Outstanding := []
  /-- The requests that were installed and not launched yet. -/
  launching : List Launch := []
  out : List Effect := []
  deriving Repr

namespace Desk

/-- A desk with the default timeout unless a positive one is given. -/
def fresh (timeout : Duration) (headless : Bool) : Desk where
  headless := headless
  timeout := if timeout ≤ 0 then defaultTimeout else timeout

def emit (d : Desk) (es : List Effect) : Desk := { d with out := d.out ++ es }

def note (d : Desk) (n : Note) : Desk := d.emit [.note n]

/-- Takes what was asked so far. -/
def take (d : Desk) : List Effect × Desk := (d.out, { d with out := [] })

/-- Changes the default timeout; a non-positive one is ignored. -/
def setTimeout (d : Desk) (t : Duration) : Desk := if t ≤ 0 then d else { d with timeout := t }

def setPanel (d : Desk) (p : Option Panel) : Desk := { d with panel := p }

/-! ### Results and notices -/

/-- Gives a request its result. -/
def resolve (d : Desk) (ticket : Ticket) (target : UserId) (status : SwitchStatus)
    (message : String) : Desk :=
  d.emit [.note (.count (.switchResult status)),
    .note (Note.debug "switch resolved"
      [Log.int "target" target, Log.str "status" status.text, Log.str "message" message]),
    .reply ticket ⟨status, message⟩]

/-- Stops tracking. -/
def clear (d : Desk) : Desk := { d with tx := none }.note (.inFlight false)

/-- Changes the tracked transaction. -/
def advance (d : Desk) (f : Transaction → Transaction) : Desk := { d with tx := d.tx.map f }

/-- Whether a transaction is still the tracked one. -/
def isCurrent (d : Desk) (tx : Transaction) : Bool := d.tx.any (·.seq == tx.seq)

/-- Tells the vehicle how a negotiated switch ended. -/
def acknowledge (d : Desk) (v : View) (token : Token) (prior target : UserId) : Desk :=
  d.emit [.note (Note.info "acknowledging switch to coordinator"
      [Log.str "token" token.text, Log.int "prior" prior, Log.int "target" target]),
    .notify (.postSwitch token prior target v.directory)]

/-- Shows a switch in progress, if there is a screen. -/
def signalPanel (d : Desk) (target : UserId) : Desk :=
  match d.panel with
  | none => d
  | some p =>
    let d := d.emit [.signal target]
    match p.fault with
    | none => d
    | some f =>
      d.note (Note.warn "switch UI notification failed"
        [Log.int "target" target, Log.err (some f)])

/-- Reports a switch the vehicle started and that was not performed. -/
def dropInitiated (d : Desk) (v : View) (token : Token) (target : UserId) : Desk :=
  (d.note (Note.warn "coordinator switch dropped, switch service stopped"
    [Log.int "target" target, Log.str "token" token.text])).acknowledge v token v.current target

/-! ### Posting -/

/-- What becomes of a command that is not accepted. -/
def refuse (v : View) (d : Desk) : Command → Desk
  | .answer a => d.resolve a.ticket a.tx.target .coordinatorInternalFailure stoppedMessage
  | .direct target ticket => d.resolve ticket target .osFailure stoppedMessage
  | .initiated token target => d.dropInitiated v token target
  | .unlocked _ => d
  | .switched .. => d

/-- Hands commands to the worker, one after the other; the poster waits with
    those for which there is no room. -/
def post (d : Desk) (v : View) (p : Poster) (cs : List Command) : Desk :=
  if d.closed then (cs.foldl (refuse v) d).emit [.admitted p]
  else
    let room := queueSize - d.queue.length
    let d := { d with queue := d.queue ++ cs.take room }
    if cs.length ≤ room then d.emit [.admitted p]
    else { d with waiting := d.waiting ++ [⟨p, cs.drop room⟩] }

/-- The first waiting poster puts a command into the room that came free; if it
    has more it waits again, behind the others. -/
def admitWaiting (d : Desk) : Desk :=
  match d.waiting with
  | [] => d
  | w :: ws =>
    match w.commands with
    | [] => { d with waiting := ws }.emit [.admitted w.poster]
    | [c] => { d with queue := d.queue ++ [c], waiting := ws }.emit [.admitted w.poster]
    | c :: cs => { d with queue := d.queue ++ [c], waiting := ws ++ [⟨w.poster, cs⟩] }

/-! ### Requests -/

/-- Tracks a new transaction, whose trip is to be launched. -/
def install (d : Desk) (l : Launch) : Desk :=
  { d with
    tx := some l.trip.tx
    seq := l.trip.tx.seq
    trips := d.trips ++ [l.trip]
    launching := d.launching ++ [l] }

/-- Asks to bring a user to the foreground. -/
def request (d : Desk) (v : View) (p : Poster) (ticket : Ticket) (target : UserId)
    (timeout : Duration) : Desk :=
  match v.find? target with
  | none =>
    (d.resolve ticket target .invalidRequest ("user " ++ target.text ++ " not found")).emit
      [.admitted p]
  | some user =>
    if d.headless && target == UserId.system then
      (d.resolve ticket target .invalidRequest
        "cannot switch to system user in headless mode").emit [.admitted p]
    else if target = v.current then
      (d.resolve ticket target .alreadyInForeground "").emit [.admitted p]
    else if !v.negotiates then d.post v p [.direct target ticket]
    else if d.tx.any (·.target == target) then
      ((d.note (Note.debug "switch already in flight" [Log.int "target" target])).resolve ticket
        target .alreadyBeingSwitchedTo "").emit [.admitted p]
    else
      let d := match d.tx with
        | some old =>
          d.note (Note.info "superseding in-flight switch"
            [Log.int "old_target" old.target, Log.int "new_target" target])
        | none => d
      let tx : Transaction := ⟨target, Token.unset, v.current, .awaitingCoordinator, d.seq + 1⟩
      let timeout := if timeout ≤ 0 then d.timeout else timeout
      d.install ⟨⟨tx, ticket⟩, p, .switch user v.directory, timeout⟩

/-- A request that was installed is reported and put to the vehicle. -/
def launch (d : Desk) (ticket : Ticket) : Desk :=
  match d.launching.find? (·.trip.ticket == ticket) with
  | none => d
  | some l =>
    { d with launching := d.launching.eraseP (·.trip.ticket == ticket) }.emit
      [.note (.inFlight true),
        .note (Note.info "requesting user switch"
          [Log.int "target" l.trip.tx.target, Log.int "prior" l.trip.tx.prior,
            Log.span "timeout" l.timeout]),
        .negotiate l.trip l.request l.timeout,
        .admitted l.poster]

/-- A trip ended: its answer is handed to the worker. -/
def tripEnded (d : Desk) (v : View) (ticket : Ticket) (response : Vehicle.SwitchResponse)
    (fault : Option Fault) : Desk :=
  match d.trips.find? (·.ticket == ticket) with
  | none => d
  | some o =>
    { d with trips := d.trips.filter (·.ticket != ticket) }.post v .trip
      [.answer ⟨o.tx, response, fault, ticket⟩]

/-- The vehicle starts a switch itself. -/
def initiate (d : Desk) (v : View) (p : Poster) (token : Token) (target : UserId) : Desk :=
  d.post v p [.initiated token target]

/-- The command that an event stands for. -/
def commandOf? (e : Event) : Option Command :=
  match e.kind with
  | .unlocked => some (.unlocked e.user)
  | .switching => some (.switched e.source e.user)
  | _ => none

/-- Lifecycle events arrive. -/
def onEvents (d : Desk) (v : View) (p : Poster) (es : List Event) : Desk :=
  d.post v p (es.filterMap commandOf?)

/-! ### The worker -/

/-- Starts the worker. -/
def start (d : Desk) : Desk :=
  match d.worker with
  | .unstarted => { d with worker := .idle }
  | _ => d

/-- The context of the worker ends. -/
def endContext (d : Desk) : Desk := { d with contextDone := true }

/-- Lets the operating system switch. -/
def beginCommit (d : Desk) (c : Commit) : Desk :=
  { d with worker := .committing c }.emit [.osSwitch c.target]

/-- Why an answer is no usable verdict: the fault of the trip, or an approval
    without a token. -/
def Answer.problem? (a : Answer) : Option Fault :=
  match a.fault with
  | some f => some f
  | none =>
    if a.response.decision = .approved ∧ !a.response.token.isSet then some .noToken else none

/-- The message of a failed trip: the vehicle's own words come first. -/
def failureMessage (message : String) (f : Fault) : String :=
  if message != "" then message else f.message

/-- Applies the answer to a request. -/
def applyAnswer (d : Desk) (a : Answer) : Desk :=
  let target := a.tx.target
  if !d.isCurrent a.tx then
    (d.note (Note.info "switch superseded by newer request"
      [Log.int "target" target, Log.str "token" a.response.token.text])).resolve a.ticket target
        .abandonedForNewerRequest ""
  else match Answer.problem? a with
    | some f =>
      (d.clear.note (Note.warn "coordinator switch failed"
        [Log.int "target" target, Log.err (some f)])).resolve a.ticket target
          .coordinatorInternalFailure (failureMessage a.response.message f)
    | none =>
      match a.response.decision with
      | .vetoed =>
        (d.clear.note (Note.info "coordinator vetoed switch"
          [Log.int "target" target, Log.str "message" a.response.message])).resolve a.ticket
            target .coordinatorFailure a.response.message
      | .approved =>
        (d.advance fun t => { t with stage := .awaitingOSCommit }).beginCommit (.answer a)
      | .other code =>
        (d.clear.note (Note.critical "unknown coordinator switch decision"
          [Log.int "target" target, Log.int "decision" code])).resolve a.ticket target
            .coordinatorInternalFailure "unknown coordinator decision"

/-- A user unlocked: if the tracked switch waits for it, the vehicle is told. -/
def applyUnlocked (d : Desk) (v : View) (user : UserId) : Desk :=
  match d.tx with
  | none => d
  | some tx =>
    if tx.target = user ∧ tx.token.isSet then
      d.clear.acknowledge v tx.token tx.prior tx.target
    else d

/-- A user came to the foreground: if nothing is tracked, nobody negotiated it. -/
def applySwitched (d : Desk) (v : View) (source target : UserId) : Desk :=
  if d.tx.isSome || !v.negotiates then d
  else match v.find? target with
    | none =>
      d.note (Note.warn "legacy switch to unknown user"
        [Log.int "to" target, Log.err (some (.noSuchUser target))])
    | some u =>
      d.emit [.note (Note.info "notifying coordinator of legacy switch"
          [Log.int "from" source, Log.int "to" target]),
        .notify (.legacySwitch source u v.directory)]

/-- Applies a command. -/
def apply (d : Desk) (v : View) : Command → Desk
  | .answer a => d.applyAnswer a
  | .direct target ticket => d.beginCommit (.direct target ticket)
  | .initiated token target =>
    (d.note (Note.info "coordinator requested user switch"
      [Log.int "target" target, Log.str "token" token.text])).beginCommit
        (.initiated token target v.current)
  | .unlocked user => d.applyUnlocked v user
  | .switched source target => d.applySwitched v source target

/-- The worker takes the next command. -/
def work? (d : Desk) (v : View) : Option Desk :=
  match d.worker, d.queue with
  | .idle, c :: rest => some ({ d with queue := rest }.admitWaiting.apply v c)
  | _, _ => none

/-- The commit of an answer ended. -/
def answerCommitted (d : Desk) (v : View) (a : Answer) (fault : Option Fault) : Desk :=
  let target := a.tx.target
  if !d.isCurrent a.tx then
    (d.note (Note.info "switch superseded while committing"
      [Log.int "target" target, Log.str "token" a.response.token.text, Log.err fault])).resolve
        a.ticket target .abandonedForNewerRequest ""
  else match fault with
    | some f =>
      ((d.clear.note (Note.error "OS user switch failed"
        [Log.int "target" target, Log.err (some f)])).acknowledge v a.response.token a.tx.prior
          target).resolve a.ticket target .osFailure f.message
    | none =>
      let d := d.advance fun t =>
        { t with token := a.response.token, stage := .awaitingUnlockAck }
      (d.signalPanel target).resolve a.ticket target .successful ""

/-- The commit of a switch without a vehicle ended. -/
def directCommitted (d : Desk) (target : UserId) (ticket : Ticket) (fault : Option Fault) : Desk :=
  match fault with
  | some f =>
    (d.note (Note.error "OS user switch failed"
      [Log.int "target" target, Log.err (some f)])).resolve ticket target .osFailure f.message
  | none => (d.signalPanel target).resolve ticket target .successful ""

/-- The commit of a switch the vehicle started ended. -/
def initiatedCommitted (d : Desk) (v : View) (token : Token) (target prior : UserId)
    (fault : Option Fault) : Desk :=
  match fault with
  | some f =>
    (d.note (Note.error "OS user switch requested by coordinator failed"
      [Log.int "target" target, Log.err (some f)])).acknowledge v token prior target
  | none =>
    let d := match d.tx with
      | some old =>
        if old.target = target then d
        else d.note (Note.info "coordinator switch supersedes in-flight switch"
          [Log.int "old_target" old.target, Log.int "new_target" target])
      | none => d
    { d with
      seq := d.seq + 1
      tx := some ⟨target, token, prior, .awaitingUnlockAck, d.seq + 1⟩
      worker := .marking }

/-- The transaction of a switch the vehicle started is reported. -/
def mark (d : Desk) : Desk :=
  match d.worker with
  | .marking => { d with worker := .idle }.note (.inFlight true)
  | _ => d

/-- The operating system has switched, or failed to. -/
def committed (d : Desk) (v : View) (fault : Option Fault) : Desk :=
  match d.worker with
  | .committing c =>
    let d := { d with worker := .idle }
    match c with
    | .answer a => d.answerCommitted v a fault
    | .direct target ticket => d.directCommitted target ticket fault
    | .initiated token target prior => d.initiatedCommitted v token target prior fault
  | _ => d

/-! ### Stopping -/

/-- What becomes of a queued command when the desk stops. -/
def fail (v : View) (d : Desk) : Command → Desk
  | .answer a =>
    (if d.isCurrent a.tx then d.clear else d).resolve a.ticket a.tx.target
      .coordinatorInternalFailure stoppedMessage
  | .direct target ticket => d.resolve ticket target .osFailure stoppedMessage
  | .initiated token target => d.dropInitiated v token target
  | .unlocked _ => d
  | .switched .. => d

/-- Refuses a waiting poster. -/
def refuseWaiting (v : View) (d : Desk) (w : Waiting) : Desk :=
  (w.commands.foldl (refuse v) d).emit [.admitted w.poster]

/-- Stops accepting, refuses whoever waits and fails what is queued, in order. -/
def close (d : Desk) (v : View) : Desk :=
  let waiting := d.waiting
  let queue := d.queue
  queue.foldl (fail v)
    (waiting.foldl (refuseWaiting v) { d with closed := true, waiting := [], queue := [] })

/-- The worker finds its context ended and stops; the trips of the desk are
    canceled. -/
def stop? (d : Desk) (v : View) : Option Desk :=
  match d.worker with
  | .idle =>
    if d.contextDone then
      some { d.close v with worker := .stopped, tripsDone := true }
    else none
  | _ => none

end Desk

end HeadUnit.Switching
