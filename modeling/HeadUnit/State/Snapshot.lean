import HeadUnit.Json
import HeadUnit.Time.Stamp
import HeadUnit.User

/-!
# The persisted state

What outlives a power cycle: the users to restart with their ranks, the one
promoted last, the last rank given out, and the user to bring up at boot. The
state file is a JSON document.

* `Snapshot.toJson` writes all fields; an empty list of users is written
  `null`.
* `Snapshot.ofJson?` reads them. Keys match up to case, unknown keys are
  ignored, `null` leaves a field as it is, and of a key that comes twice the
  last value counts. Missing fields keep the values of `Snapshot.empty`.
-/

namespace HeadUnit

/-- A user to restart, with its rank. -/
structure Ranked where
  user : UserId
  rank : UInt64
  deriving DecidableEq, Repr

/-- The persisted state. -/
structure Snapshot where
  /-- The users to restart, most recent first. -/
  background : List Ranked
  promoted : UserId
  /-- The last rank given out. -/
  counter : UInt64
  /-- The user to bring up at boot. -/
  initial : UserId
  savedAt : Stamp
  deriving DecidableEq, Repr

namespace Snapshot

/-- Nothing recorded. -/
def empty : Snapshot := ⟨[], UserId.null, 0, UserId.null, Stamp.unset⟩

/-- Whether nothing was ever recorded. -/
def isEmpty (s : Snapshot) : Bool := s.savedAt.isUnset && s.background.isEmpty

/-! ### Writing -/

def numberOf (n : Int) : Json := .number (toString n).toList

def Ranked.toJson (r : Ranked) : Json :=
  .record [("user_id".toList, numberOf r.user.toInt), ("rank".toList, numberOf r.rank.toNat)]

def toJson (s : Snapshot) : Json :=
  .record
    [("background_users".toList,
        if s.background.isEmpty then .null else .list (s.background.map Ranked.toJson)),
      ("promoted".toList, numberOf s.promoted.toInt),
      ("rank_counter".toList, numberOf s.counter.toNat),
      ("initial_user".toList, numberOf s.initial.toInt),
      ("saved_at".toList, .string s.savedAt.text.toList)]

/-- The text of the state file. -/
def render (s : Snapshot) : String := String.ofList s.toJson.pretty

/-! ### Reading -/

/-- Folds the case of the characters that fold into an ASCII letter. -/
def foldChar (c : Char) : Char :=
  if c.toNat = 0x17f then 's'
  else if c.toNat = 0x212a then 'k'
  else c.toLower

/-- Whether a key, as written, is the name of a field, up to case. -/
def isKey (name : String) (raw : List Char) : Bool :=
  (Json.unescape raw).map foldChar == name.toList

/-- Reads a natural number off its digits. -/
def natOf? (ds : List Char) : Option Nat :=
  if ds.isEmpty || !ds.all Char.isDigit then none
  else some (ds.foldl (fun n c => n * 10 + (c.toNat - 48)) 0)

/-- Reads a signed 64-bit number; no fraction, no exponent. -/
def int64? : List Char → Option Int64
  | '-' :: ds => do
    let n ← natOf? ds
    if n ≤ Nat.pow 2 63 then some (Int64.ofInt (-(n : Int))) else none
  | ds => do
    let n ← natOf? ds
    if n < Nat.pow 2 63 then some (Int64.ofInt n) else none

/-- Reads an unsigned 64-bit number. -/
def uint64? (ds : List Char) : Option UInt64 := do
  let n ← natOf? ds
  if n < Nat.pow 2 64 then some (UInt64.ofNat n) else none

/-- A signed number over its old value. -/
def intOver? (old : Int64) : Json → Option Int64
  | .null => some old
  | .number ds => int64? ds
  | _ => none

/-- An unsigned number over its old value. -/
def uintOver? (old : UInt64) : Json → Option UInt64
  | .null => some old
  | .number ds => uint64? ds
  | _ => none

/-- A time stamp over its old value. Escapes in the text are not resolved. -/
def stampOver? (old : Stamp) : Json → Option Stamp
  | .null => some old
  | .string raw => Stamp.parse? raw
  | _ => none

/-- One member of a ranked user. -/
def rankedMember? (r : Ranked) (m : List Char × Json) : Option Ranked :=
  if isKey "user_id" m.1 then (intOver? r.user m.2).map fun n => { r with user := n }
  else if isKey "rank" m.1 then (uintOver? r.rank m.2).map fun n => { r with rank := n }
  else some r

/-- A ranked user over its old value. -/
def rankedOver? (old : Ranked) : Json → Option Ranked
  | .null => some old
  | .record ms => ms.foldlM rankedMember? old
  | _ => none

/-- The items of a list over the old ones at their places. -/
def rankedListOver? : List Ranked → List Json → Option (List Ranked)
  | _, [] => some []
  | old, v :: vs => do
    let r ← rankedOver? (old.head?.getD ⟨0, 0⟩) v
    let rs ← rankedListOver? (old.drop 1) vs
    return r :: rs

/-- One member of the state. -/
def member? (s : Snapshot) (m : List Char × Json) : Option Snapshot :=
  if isKey "background_users" m.1 then
    match m.2 with
    | .null => some { s with background := [] }
    | .list vs => (rankedListOver? s.background vs).map fun rs => { s with background := rs }
    | _ => none
  else if isKey "promoted" m.1 then
    (intOver? s.promoted m.2).map fun n => { s with promoted := n }
  else if isKey "rank_counter" m.1 then
    (uintOver? s.counter m.2).map fun n => { s with counter := n }
  else if isKey "initial_user" m.1 then
    (intOver? s.initial m.2).map fun n => { s with initial := n }
  else if isKey "saved_at" m.1 then
    (stampOver? s.savedAt m.2).map fun t => { s with savedAt := t }
  else some s

/-- Reads the state off a document. -/
def ofJson? : Json → Option Snapshot
  | .null => some empty
  | .record ms => ms.foldlM member? empty
  | _ => none

/-- Reads the text of the state file. -/
def parse? (text : String) : Option Snapshot := (Json.parse? text.toList).bind ofJson?

end Snapshot

end HeadUnit
