import HeadUnit.Text.Quoted

/-!
# Users

A user is known by its id. Its record carries a name, a kind such as
`full.secondary`, a set of flags, the driver a profile belongs to, and whether
it is enabled. The `Directory` is the list of known users, with the one in the
foreground, as it is shown to the vehicle.
-/

namespace HeadUnit

/-- The id of a user. -/
abbrev UserId := Int64

namespace UserId

/-- Marks the absence of a user. -/
def null : UserId := -10000

/-- The user that always runs. -/
def system : UserId := 0

/-- The decimal text of an id. -/
def text (id : UserId) : String := toString id.toInt

end UserId

/-- A set of user flags, one per bit. -/
structure Flags where
  bits : UInt32
  deriving DecidableEq, Repr

namespace Flags

def none : Flags := ⟨0⟩
def admin : Flags := ⟨1⟩
def guest : Flags := ⟨2⟩
def ephemeral : Flags := ⟨4⟩
def managedProfile : Flags := ⟨8⟩
def system : Flags := ⟨16⟩

/-- All flags of either set. -/
def union (a b : Flags) : Flags := ⟨a.bits ||| b.bits⟩

/-- Whether all flags of `f` are set. -/
def has (s f : Flags) : Bool := s.bits &&& f.bits == f.bits

/-- The flags with a name, in the order they are listed. -/
def named : List (Flags × String) :=
  [(admin, "ADMIN"), (guest, "GUEST"), (ephemeral, "EPHEMERAL"),
   (managedProfile, "MANAGED_PROFILE"), (system, "SYSTEM")]

/-- The names of the flags, joined by bars; bits without a name are not shown. -/
def text (s : Flags) : String :=
  if s = none then "NONE"
  else "|".intercalate ((named.filter fun p => s.has p.1).map (·.2))

end Flags

/-- Kinds of users known to the identity store. -/
def Kind.full : String := "full.secondary"
def Kind.guest : String := "full.guest"
def Kind.system : String := "full.system"
def Kind.managedProfile : String := "profile.managed"

/-- The kind of a new user with these flags. -/
def Kind.ofFlags (f : Flags) : String :=
  if f.has Flags.guest then Kind.guest else Kind.full

/-- The record of a user. -/
structure User where
  id : UserId
  name : String
  kind : String
  flags : Flags
  /-- The driver a profile belongs to, else `UserId.null`. -/
  group : UserId
  enabled : Bool
  deriving DecidableEq, Repr

namespace User

def isAdmin (u : User) : Bool := u.flags.has Flags.admin
def isGuest (u : User) : Bool := u.flags.has Flags.guest
def isEphemeral (u : User) : Bool := u.flags.has Flags.ephemeral
def isManagedProfile (u : User) : Bool := u.flags.has Flags.managedProfile

/-- Whether the user outlives the session. -/
def isPersistent (u : User) : Bool := !u.isEphemeral

/-- The record with nothing set. -/
def blank : User := ⟨0, "", "", Flags.none, 0, false⟩

/-- The user that always runs. -/
def system : User :=
  ⟨UserId.system, "Driver", Kind.system, Flags.system.union Flags.admin, UserId.null, true⟩

def text (u : User) : String :=
  "UserRecord\x7bid=" ++ u.id.text ++ ", name=" ++ Text.quoted u.name ++ ", type=" ++ u.kind
    ++ ", flags=" ++ u.flags.text ++ "\x7d"

end User

/-- The known users, and the one in the foreground. -/
structure Directory where
  current : User
  existing : List User
  deriving DecidableEq, Repr

namespace Directory

/-- A foreground user that is not known only carries its id. -/
def of (current : UserId) (users : List User) : Directory where
  current := (users.find? (·.id == current)).getD
    { User.blank with id := current, group := UserId.null }
  existing := users

/-- Nobody is known. -/
def blank : Directory := ⟨User.blank, []⟩

/-- How many known users are admins. -/
def adminCount (d : Directory) : Nat := (d.existing.filter User.isAdmin).length

end Directory

end HeadUnit
