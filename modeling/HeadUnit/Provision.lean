import HeadUnit.Metrics
import HeadUnit.Roster
import HeadUnit.Vehicle.Message

/-!
# Creating and removing users

A creation is local first; then the vehicle is asked to ratify it, and if it
rejects the user or does not answer, the user is removed again. A removal is
local first as well, and the vehicle is told afterwards.

A creation is cut in two at the question to the vehicle: `create` ends in a
`Creation`, which is done or waits to be ratified, and `ratified` goes on with
the answer.
-/

namespace HeadUnit.Provision

/-- Where a creation stands. -/
inductive Creation
  | done (result : CreateResult)
  /-- The vehicle has to ratify the new user. -/
  | ratify (user : User) (request : Vehicle.Request)

/-- What an operation did. -/
structure Step (α : Type) where
  roster : Roster
  notes : List Note
  value : α

/-- Ends a creation, counting its status. -/
def ended (r : Roster) (notes : List Note) (result : CreateResult) : Step CreateResult :=
  ⟨r, notes ++ [.count (.creation result.status)], result⟩

/-- A creation that needs no vehicle. -/
def Step.asDone (s : Step CreateResult) : Step Creation := ⟨s.roster, s.notes, .done s.value⟩

/-- Creates a user locally; `ratifies` tells whether the vehicle wants a say. -/
def create (r : Roster) (current : UserId) (ratifies : Bool) (name kind : String)
    (flags : Flags) : Step Creation :=
  if kind = "" then
    (ended r [] ⟨.invalidRequest, none, "user type is required"⟩).asDone
  else match r.create name kind flags with
    | .error f =>
      (ended r [Note.warn "local user creation failed"
          [Log.str "type" kind, Log.str "flags" flags.text, Log.err (some f)]]
        ⟨.localFailure, none, f.message⟩).asDone
    | .ok (user, r) =>
      let notes := [Note.debug "created user" [Log.str "user" user.text]]
      if ratifies then
        ⟨r, notes, .ratify user (.create user name (Directory.of current r.users))⟩
      else (ended r notes ⟨.successful, some user, ""⟩).asDone

/-- Removes a user that was not ratified. -/
def compensate (r : Roster) (user : User) (reason : String) : Roster × List Note :=
  let note := Note.info "removing user after failed ratification"
    [Log.int "user" user.id, Log.str "reason" reason]
  match r.remove user.id with
  | .ok r => (r, [note])
  | .error f =>
    (r, [note, Note.error "failed to remove unratified user"
      [Log.int "user" user.id, Log.err (some f)]])

/-- Goes on with the verdict of the vehicle. -/
def ratified (r : Roster) (user : User) (response : Vehicle.CreateResponse)
    (fault : Option Fault) : Step CreateResult :=
  match fault with
  | some f =>
    let (r, notes) := compensate r user ("coordinator call failed: " ++ f.message)
    ended r notes ⟨.coordinatorInternalFailure, none, f.message⟩
  | none =>
    if response.approved then ended r [] ⟨.successful, some user, response.message⟩
    else
      let (r, notes) := compensate r user "coordinator rejected user"
      ended r notes ⟨.coordinatorFailure, none, response.message⟩

/-- Whether the foreground user may create admins. -/
def mayCreateAdmin (r : Roster) (current : UserId) : Bool :=
  current == UserId.system || (r.find? current).any User.isAdmin

/-- Creates a driver, a full user; only admins and the system user create
    admins. -/
def createDriver (r : Roster) (current : UserId) (ratifies : Bool) (name : String)
    (admin : Bool) : Step Creation :=
  if admin && !mayCreateAdmin r current then
    (ended r [Note.error "only admin users and the system user can create other admins"
        [Log.int "current" current]]
      ⟨.invalidRequest, none, "current user cannot create admins"⟩).asDone
  else
    let flags := if admin then Flags.admin else Flags.none
    create r current ratifies name (Kind.ofFlags flags) flags

/-- Creates a managed profile of a driver, without the vehicle. -/
def createProfile (r : Roster) (name : String) (driver : UserId) : Step CreateResult :=
  match r.find? driver with
  | none =>
    ended r [Note.warn "profile owner does not exist" [Log.int "driver" driver]]
      ⟨.invalidRequest, none, "driver does not exist"⟩
  | some d =>
    if d.isGuest then
      ended r [Note.warn "a guest driver cannot own a profile" [Log.int "driver" driver]]
        ⟨.invalidRequest, none, "guest driver cannot own a profile"⟩
    else match r.createProfile name Kind.managedProfile Flags.managedProfile driver with
      | .error f =>
        ended r [Note.warn "cannot create profile"
            [Log.int "driver" driver, Log.err (some f)]]
          ⟨.localFailure, none, f.message⟩
      | .ok (user, r) => ended r [] ⟨.successful, some user, ""⟩

/-- The outcome of a removal: its status, and the notice for the vehicle. -/
structure Removal where
  status : RemoveStatus
  notice : Option Vehicle.Notice

/-- Ends a removal, counting its status. -/
def removalEnded (r : Roster) (notes : List Note) (id : UserId) (status : RemoveStatus)
    (notice : Option Vehicle.Notice) : Step Removal :=
  ⟨r, notes ++ [.count (.removal status),
    Note.info "remove user" [Log.int "user" id, Log.str "status" status.text]],
    ⟨status, notice⟩⟩

/-- Removes a user that is not in the foreground; `tells` tells whether the
    vehicle wants to know. -/
def remove (r : Roster) (current : UserId) (tells : Bool) (id : UserId) : Step Removal :=
  if id = current then removalEnded r [] id .targetIsCurrentUser none
  else match r.find? id with
    | none => removalEnded r [] id .userDoesNotExist none
    | some user =>
      let lastAdmin := user.isAdmin && (Directory.of current r.users).adminCount == 1
      match r.remove id with
      | .error f =>
        removalEnded r [Note.warn "local user removal failed"
          [Log.int "user" id, Log.err (some f)]] id .localFailure none
      | .ok r =>
        let notice := if tells then some (.remove user (Directory.of current r.users)) else none
        if lastAdmin then
          removalEnded r [Note.warn "last admin user removed" [Log.int "user" id]] id
            .successfulLastAdminRemoved notice
        else removalEnded r [] id .successful notice

/-- The users that may be listed: without a display the system user is not. -/
def listed (r : Roster) (headless : Bool) : List User :=
  r.users.filter fun u => !(headless && u.id == UserId.system)

/-- Enabled full users that outlive the session. -/
def persistentUsers (r : Roster) (headless : Bool) : List User :=
  (listed r headless).filter fun u => u.enabled && !u.isManagedProfile && !u.isEphemeral

/-- The enabled profiles of a driver. -/
def profilesOf (r : Roster) (headless : Bool) (driver : UserId) : List User :=
  (listed r headless).filter fun u => u.enabled && u.isManagedProfile && u.group == driver

end HeadUnit.Provision
