import HeadUnit.Service.Startup

/-!
# Booting

What the head unit does after the service has started, one operation of the
service after the other:

* *seeding* creates drivers until there are as many as wanted;
* *booting* brings up the boot user: the one the vehicle wants, else the one
  recorded last time, else the first driver.

Both are sequences of operations whose next one depends on the result of the
one before. They are values here: what to ask next, and how to go on.
-/

namespace HeadUnit.Service

/-- The drivers: persistent full users other than the system user. -/
def System.drivers (s : System) : List UserId :=
  ((Provision.persistentUsers s.roster s.config.headless).filter fun u =>
    !(u.id == UserId.system || u.isManagedProfile || u.isGuest)).map (·.id)

/-- Drivers are being created. -/
structure Seeding where
  wanted : Int64
  drivers : List UserId
  deriving DecidableEq, Repr

namespace Seeding

/-- The creation that comes next; none if there are enough drivers. The first
    driver is an admin. -/
def next? (sd : Seeding) : Option Operation :=
  if (sd.drivers.length : Int) < sd.wanted.toInt then
    some (.createDriver ("Driver " ++ toString (sd.drivers.length + 1)) sd.drivers.isEmpty)
  else none

/-- Goes on after a creation. -/
def resume (sd : Seeding) (r : CreateResult) : Except Fault (Seeding × List Note) :=
  match r.status, r.user with
  | .successful, some u =>
    .ok ({ sd with drivers := sd.drivers ++ [u.id] },
      [Note.info "driver created" [Log.int "user" u.id, Log.str "name" u.name]])
  | _, _ => .error (.driverNotCreated (sd.drivers.length + 1) r.status r.message)

end Seeding

/-- How far the boot user has come. -/
inductive Booting
  /-- The vehicle is asked. -/
  | consulting
  /-- The user the vehicle wants is created. -/
  | creating (info : InitialInfo)
  /-- The user is brought to the foreground. -/
  | switching (target : UserId)
  /-- The user is recorded as the one to come up next time. -/
  | recording (target : UserId)
  /-- The user in the foreground, or `UserId.null`. -/
  | done (user : UserId)
  deriving DecidableEq, Repr

namespace Booting

/-- The kind of request made at boot. -/
def requestType : Int64 := 1

/-- The operation that comes next. -/
def next? : Booting → Option Operation
  | consulting => some (.initialInfo requestType 0)
  | creating info => some (.createUser info.name Kind.full info.flags 0)
  | switching target => some (.switchUser target 0)
  | recording target => some (.setInitial target)
  | done _ => none

/-- The user to bring up when the vehicle wants `wanted`. -/
def choose (s : System) (drivers : List UserId) (wanted : UserId) : Booting :=
  let target := if wanted = UserId.null then s.initialUser else wanted
  let target := if target = UserId.null then drivers.head?.getD UserId.null else target
  if target = UserId.null then done UserId.null else switching target

/-- Goes on after an operation. -/
def resume (s : System) (drivers : List UserId) (b : Booting) (r : Result) :
    Booting × List Note :=
  match b, r with
  | consulting, .initial (.error f) =>
    (choose s drivers UserId.null,
      [Note.warn "no initial user decision from coordinator" [Log.err (some f)]])
  | consulting, .initial (.ok info) =>
    match info.action with
    | .switch => (choose s drivers info.user, [])
    | .create => (creating info, [])
    | _ => (choose s drivers UserId.null, [])
  | creating _, .create r =>
    match r.status, r.user with
    | .successful, some u => (choose s drivers u.id, [])
    | _, _ =>
      (choose s drivers UserId.null,
        [Note.warn "initial user creation failed"
          [Log.str "status" r.status.text, Log.str "error" r.message]])
  | switching target, .switch r =>
    if r.status.isSuccess then (recording target, [])
    else
      (done UserId.null,
        [Note.warn "initial user switch failed"
          [Log.int "user" target, Log.str "status" r.status.text, Log.str "error" r.message]])
  | recording target, .status fault =>
    (done target,
      match fault with
      | some f => [Note.warn "failed to record initial user" [Log.err (some f)]]
      | none => [])
  | b, _ => (b, [])

end Booting

end HeadUnit.Service
