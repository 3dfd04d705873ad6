import HeadUnit.State.Repository

/-!
# The state store

A cache of the persisted state that several owners of its fields share. An
update changes the cache and saves it; if the save fails the cache keeps the
change, so that the next save carries it.
-/

namespace HeadUnit

/-- The cached state. -/
structure Store where
  cache : Snapshot := Snapshot.empty
  loaded : Bool := false
  deriving Repr

namespace Store

/-- A state that was read is cached. -/
def keeping (st : Snapshot) : Store := { cache := st, loaded := true }

/-- Reads the state and caches it; a failed load changes nothing. -/
def load (s : Store) (r : Repository) : Store × Except Fault Snapshot :=
  match r.load with
  | .ok st => (keeping st, .ok st)
  | .error f => (s, .error f)

/-- What an update did. -/
structure Updated where
  store : Store
  repository : Repository
  /-- The state handed to the repository; none if it could not be loaded. -/
  offered : Option Snapshot
  fault : Option Fault

/-- Changes the cache and saves it. A state not loaded yet is loaded first; if
    that fails nothing changes. `gone` tells that the caller left. -/
def update (s : Store) (r : Repository) (gone : Option Fault) (now : Int)
    (change : Snapshot → Snapshot) : Updated :=
  let ready := if s.loaded then .ok s.cache else r.load
  match ready with
  | .error f => ⟨s, r, none, some f⟩
  | .ok st =>
    let st := change st
    match r.save gone st now with
    | .ok r' => ⟨⟨st, true⟩, r', some st, none⟩
    | .error f => ⟨⟨st, true⟩, r, some st, some f⟩

end Store

end HeadUnit
