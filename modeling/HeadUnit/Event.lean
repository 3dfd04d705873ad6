import HeadUnit.User

/-!
# Lifecycle events

What the session manager tells about a user: it starts, comes to the
foreground, unlocks, stops. An event carries the user it is about, for a
change of the foreground also the user before, and a time in milliseconds.
-/

namespace HeadUnit

/-- The kind of an event. Codes without a meaning are kept. -/
inductive EventKind
  | starting
  | switching
  | unlocking
  | unlocked
  | postUnlocked
  | stopping
  | stopped
  | other (code : Int64)
  deriving DecidableEq, Repr

namespace EventKind

/-- The kind with this code. -/
def ofCode (n : Int64) : EventKind :=
  match n.toInt with
  | 1 => starting
  | 2 => switching
  | 3 => unlocking
  | 4 => unlocked
  | 5 => postUnlocked
  | 6 => stopping
  | 7 => stopped
  | _ => other n

/-- The kinds with a name. -/
def named : List (String × EventKind) :=
  [("Starting", starting), ("Switching", switching), ("Unlocking", unlocking),
   ("Unlocked", unlocked), ("PostUnlocked", postUnlocked), ("Stopping", stopping),
   ("Stopped", stopped)]

/-- The kind with this name; any other name is code 0. -/
def ofName (name : String) : EventKind :=
  ((named.find? (·.1 == name)).map (·.2)).getD (other 0)

def text : EventKind → String
  | starting => "Starting"
  | switching => "Switching"
  | unlocking => "Unlocking"
  | unlocked => "Unlocked"
  | postUnlocked => "PostUnlocked"
  | stopping => "Stopping"
  | stopped => "Stopped"
  | other n => "EventType(" ++ toString n.toInt ++ ")"

end EventKind

/-- A user lifecycle event. -/
structure Event where
  kind : EventKind
  /-- The foreground user before a change, else `UserId.null`. -/
  source : UserId
  /-- The user the event is about. -/
  user : UserId
  millis : Int64
  deriving DecidableEq, Repr

namespace Event

/-- An event about a single user. -/
def about (kind : EventKind) (user : UserId) (millis : Int64) : Event :=
  ⟨kind, UserId.null, user, millis⟩

def text (e : Event) : String :=
  "LifecycleEvent\x7btype=" ++ e.kind.text ++ ", from=" ++ e.source.text
    ++ ", to=" ++ e.user.text ++ "\x7d"

end Event

end HeadUnit
