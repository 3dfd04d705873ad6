import HeadUnit.Metrics
import HeadUnit.Sessions
import HeadUnit.State.Snapshot

/-!
# The restart registry

The bounded list of background users that are started again after a power
cycle. Every insertion or promotion takes the next rank. One slot of
`maxRunning` is kept for the system user; when there are more entries than
slots, the entry of lowest rank leaves, and the user promoted last leaves only
when nobody else is left.

An operation gives a `Change`: the registry after it, what it reports, and
whether the result is to be persisted. A change is *broken* when entries have
to leave but all of them are the promoted user; then nothing after the
evictions made so far has happened.
-/

namespace HeadUnit

/-- The restart registry. -/
structure Registry where
  /-- The entries, most recent first. -/
  entries : List Ranked := []
  /-- The last rank given out. -/
  counter : UInt64 := 0
  /-- The user promoted last, while it has an entry. -/
  promoted : UserId := UserId.null
  maxRunning : Int64
  /-- The users started by the last restart and not stopped since. -/
  restarted : List UserId := []
  deriving DecidableEq, Repr

namespace Registry

/-- What an operation did. -/
structure Change where
  registry : Registry
  notes : List Note := []
  persist : Bool := false
  broken : Bool := false

/-- The users of the entries. -/
def users (r : Registry) : List UserId := r.entries.map (·.user)

/-- How many entries are allowed. -/
def limit (r : Registry) : Nat :=
  if r.maxRunning - 1 < 0 then 0 else (r.maxRunning - 1).toInt.toNat

/-- The entries that are started and not stopped since. -/
def restartedHere (r : Registry) : List UserId :=
  r.users.filter r.restarted.contains

/-! ### Eviction -/

/-- Of two indexed entries the one to leave: the lower rank, else the earlier. -/
def lower (a b : Ranked × Nat) : Ranked × Nat := if b.1.rank < a.1.rank then b else a

/-- The index of the entry to leave next. The promoted user is spared as long
    as there is more than one entry. -/
def victim? (promoted : UserId) (es : List Ranked) : Option Nat :=
  let candidates := es.zipIdx.filter fun e => !(e.1.user == promoted && es.length > 1)
  match candidates with
  | [] => none
  | c :: cs => some (cs.foldl lower c).2

/-- The registry without its entry at an index. -/
def drop (r : Registry) (i : Nat) : Registry :=
  match r.entries[i]? with
  | none => r
  | some e =>
    { r with
      entries := r.entries.eraseIdx i
      restarted := r.restarted.filter (· != e.user)
      promoted := if e.user = r.promoted then UserId.null else r.promoted }

/-- What an eviction did. -/
structure Evicted where
  registry : Registry
  dropped : List UserId
  broken : Bool

/-- Lets entries leave one by one until the bound holds. Every round drops an
    entry, so as many rounds as there are entries suffice. -/
def evictRounds : Nat → Registry → List UserId → Evicted
  | 0, r, dropped => ⟨r, dropped, false⟩
  | rounds + 1, r, dropped =>
    if r.entries.length ≤ r.limit then ⟨r, dropped, false⟩
    else match victim? r.promoted r.entries with
      | none => ⟨r, dropped, true⟩
      | some i => evictRounds rounds (r.drop i) (dropped ++ ((r.entries[i]?).map (·.user)).toList)

def evict (r : Registry) : Evicted := evictRounds r.entries.length r []

/-- The report of an eviction. -/
def Evicted.notes (e : Evicted) : List Note :=
  e.dropped.map (fun id =>
      Note.info "dropping least recently used user from restart registry" [Log.int "user" id])
    ++ (if e.broken then [] else [.backgroundUsers e.registry.entries.length])

/-! ### Operations -/

/-- Takes over a persisted state, within the current bound. -/
def restore (r : Registry) (s : Snapshot) : Change :=
  let e := evict { r with
    entries := s.background
    counter := s.counter
    promoted := s.promoted }
  if e.broken then { registry := e.registry, notes := e.notes, broken := true }
  else
    { registry := e.registry
      notes := e.notes ++ [.backgroundUsers e.registry.entries.length,
        Note.info "background restart registry restored"
          [Log.users "users" (some e.registry.users)]] }

/-- Evicts, then persists. -/
def evictAndPersist (r : Registry) : Change :=
  let e := r.evict
  { registry := e.registry
    notes := e.notes
    persist := !e.broken
    broken := e.broken }

/-- The registry without the first entry of a user. -/
def eraseUser (id : UserId) : List Ranked → List Ranked
  | [] => []
  | e :: es => if e.user = id then es else e :: eraseUser id es

/-- Records a user as a candidate. The foreground user moves to the front and
    is promoted; another user is put last if it is absent. The system user and
    ephemeral users are no candidates. -/
def add (r : Registry) (u : User) (foreground : UserId) : Change :=
  if u.id == UserId.system || u.isEphemeral then { registry := r }
  else if u.id = foreground then
    evictAndPersist { r with
      entries := ⟨u.id, r.counter + 1⟩ :: eraseUser u.id r.entries
      counter := r.counter + 1
      promoted := u.id }
  else if r.users.contains u.id then { registry := r }
  else
    evictAndPersist { r with
      entries := r.entries ++ [⟨u.id, r.counter + 1⟩]
      counter := r.counter + 1 }

/-- Drops a user that no longer exists; tells whether it had an entry. -/
def forget (r : Registry) (id : UserId) : Change × Bool :=
  if r.users.contains id then
    let r' := { r with
      entries := eraseUser id r.entries
      restarted := r.restarted.filter (· != id)
      promoted := if r.promoted = id then UserId.null else r.promoted }
    ({ registry := r', notes := [.backgroundUsers r'.entries.length], persist := true }, true)
  else ({ registry := r }, false)

/-- Drops a user, unless it is the system user or in the foreground. -/
def remove (r : Registry) (id foreground : UserId) : Change × Bool :=
  if id = UserId.system ∨ id = foreground then ({ registry := r }, false)
  else r.forget id

/-- Changes the bound and evicts at once. -/
def setMax (r : Registry) (n : Int64) : Change :=
  if n = r.maxRunning then { registry := r }
  else
    let note := Note.info "max running users changed" [Log.int "old" r.maxRunning, Log.int "new" n]
    let e := evict { r with maxRunning := n }
    let changed := e.registry.entries.length != r.entries.length
    { registry := e.registry
      notes := note :: e.notes
      persist := !e.broken && changed
      broken := e.broken }

/-- The user that an event asks to record, if it is about one that unlocked; a
    note if that user is not known. -/
def lookUp (find : UserId → Except Fault User) (e : Event) : Option (Except Note User) :=
  if e.kind = .unlocked then
    some ((find e.user).mapError fun f =>
      Note.debug "unlocked user not in identity store" [Log.int "user" e.user, Log.err (some f)])
  else none

/-- A user unlocked: it becomes a candidate if it is known. -/
def onEvent (r : Registry) (find : UserId → Except Fault User) (foreground : UserId)
    (e : Event) : Change :=
  match lookUp find e with
  | none => { registry := r }
  | some (.error n) => { registry := r, notes := [n] }
  | some (.ok u) => r.add u foreground

/-! ### Restarting -/

/-- What starting background users did to the sessions. -/
structure Started where
  sessions : Sessions
  events : List Event := []
  /-- Users that ended up running, in order. -/
  running : List UserId := []
  notes : List Note := []

/-- Starts one user and unlocks it. A user that cannot be unlocked still counts
    if it runs, so that it can be stopped later. -/
def startOne (millis : Int64) (st : Started) (id : UserId) : Started :=
  match st.sessions.startInBackground id millis with
  | .error f =>
    { st with notes := st.notes ++ [.count (.backgroundStart .startFailed),
        Note.warn "failed to start background user" [Log.int "user" id, Log.err (some f)]] }
  | .ok (s, events) =>
    let st := { st with sessions := s, events := st.events ++ events }
    if s.isUnlocked id then
      { st with
        running := st.running ++ [id]
        notes := st.notes ++ [.count (.backgroundStart .alreadyUnlocked)] }
    else match s.unlock id millis with
      | .ok (s, events) =>
        { st with
          sessions := s
          events := st.events ++ events
          running := st.running ++ [id]
          notes := st.notes ++ [.count (.backgroundStart .unlocked)] }
      | .error f =>
        let note := Note.warn "background user started but cannot be unlocked"
          [Log.int "user" id, Log.err (some f)]
        if s.reportsRunning id then
          { st with
            running := st.running ++ [id]
            notes := st.notes ++ [note, .count (.backgroundStart .locked)] }
        else
          { st with notes := st.notes ++ [note, .count (.backgroundStart .unlockFailed)] }

/-- Starts every registered user but the one in the foreground. -/
def startAll (r : Registry) (s : Sessions) (millis : Int64) : Registry × Started :=
  let st := (r.users.filter (· != s.current)).foldl (startOne millis) { sessions := s }
  ({ r with restarted := st.running }, st)

/-- Stops a background user; the system user and the foreground user are
    refused. -/
def stop (r : Registry) (s : Sessions) (id : UserId) (millis : Int64) :
    Registry × Sessions × List Event × List Note × Bool :=
  if id = UserId.system then (r, s, [], [], false)
  else if id = s.current then
    (r, s, [], [Note.info "refusing to stop foreground user" [Log.int "user" id]], false)
  else match s.stop id millis with
    | .error f =>
      (r, s, [], [Note.info "failed to stop background user"
        [Log.int "user" id, Log.err (some f)]], false)
    | .ok (s', events) =>
      ({ r with restarted := r.restarted.filter (· != id) }, s', events, [], true)

end Registry

end HeadUnit
