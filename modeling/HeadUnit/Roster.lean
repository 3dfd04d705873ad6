import HeadUnit.Fault

/-!
# The roster of users

The identity store: all user records, in increasing order of their ids, and
the id the next new user will get. Creations and removals can be made to fail.
-/

namespace HeadUnit

/-- The identity store. -/
structure Roster where
  /-- The records, in increasing order of their ids. -/
  users : List User
  nextId : UserId
  createFault : Option Fault := none
  removeFault : Option Fault := none
  deriving Repr

namespace Roster

/-- The store that holds the system user only. -/
def fresh : Roster where
  users := [User.system]
  nextId := 10

/-- Puts a record at its place, replacing one with the same id. -/
def insert (u : User) : List User → List User
  | [] => [u]
  | v :: vs =>
    if u.id < v.id then u :: v :: vs
    else if u.id = v.id then u :: vs
    else v :: insert u vs

/-- Puts a record into the store. Only managed profiles keep their group. -/
def put (r : Roster) (u : User) : Roster :=
  let u := if u.isManagedProfile then u else { u with group := UserId.null }
  { r with
    users := insert u r.users
    nextId := if r.nextId ≤ u.id then u.id + 1 else r.nextId }

/-- The record of a user. -/
def find? (r : Roster) (id : UserId) : Option User := r.users.find? (·.id == id)

/-- The record of a user, or why there is none. -/
def user (r : Roster) (id : UserId) : Except Fault User :=
  match r.find? id with
  | some u => .ok u
  | none => .error (.noSuchUser id)

/-- Stores a new user under the next id. -/
def addNew (r : Roster) (name kind : String) (flags : Flags) (group : UserId) :
    Except Fault (User × Roster) :=
  match r.createFault with
  | some f => .error f
  | none =>
    let u : User := ⟨r.nextId, name, kind, flags, group, true⟩
    .ok (u, { r with users := insert u r.users, nextId := r.nextId + 1 })

/-- Creates a full user. -/
def create (r : Roster) (name kind : String) (flags : Flags) : Except Fault (User × Roster) :=
  r.addNew name kind flags UserId.null

/-- Creates a profile of an existing user. -/
def createProfile (r : Roster) (name kind : String) (flags : Flags) (parent : UserId) :
    Except Fault (User × Roster) :=
  match r.find? parent with
  | none => .error (.noSuchParent parent)
  | some _ => r.addNew name kind flags parent

/-- Deletes a user. -/
def remove (r : Roster) (id : UserId) : Except Fault Roster :=
  match r.removeFault with
  | some f => .error f
  | none =>
    match r.find? id with
    | none => .error (.noSuchUser id)
    | some _ => .ok { r with users := r.users.filter (·.id != id) }

end Roster

end HeadUnit
