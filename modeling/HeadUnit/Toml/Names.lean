import HeadUnit.Toml.Value

/-!
# Names of a document

A document may define every name once. A table may be opened by one header
only, and the tables that the pairs of another table have made are closed to
headers and pairs alike. `Names` keeps what was defined so far; a statement
that defines something again is refused.
-/

namespace HeadUnit.Toml

/-- What a name stands for. -/
inductive NameKind
  | value
  | table
  | arrayTable
  deriving DecidableEq, Repr

/-- A defined name. -/
structure Name where
  key : Key
  kind : NameKind
  /-- The name is closed: it was opened by a header, or its table is left. -/
  closed : Bool
  deriving DecidableEq, Repr

/-- The names defined so far, and the table that pairs go to. -/
structure Names where
  all : List Name := []
  current : Key := []
  deriving Repr

namespace Names

def find? (n : Names) (k : Key) : Option Name := n.all.find? (·.key == k)

def add (n : Names) (k : Key) (kind : NameKind) (closed : Bool) : Names :=
  { n with all := n.all ++ [⟨k, kind, closed⟩] }

/-- Whether a key lies below another one. -/
def isBelow (parent k : Key) : Bool := parent.isPrefixOf k && parent != k

/-- The table that pairs go to is left: everything below it is closed. -/
def leave (n : Names) : Names :=
  { n with all := n.all.map fun m => if isBelow n.current m.key then { m with closed := true } else m }

/-- The names on the way to a pair, which have to be open tables, and at its end
    a new name. -/
def definePair (n : Names) (base : Key) : Key → Option Names
  | [] => none
  | [k] =>
    match n.find? (base ++ [k]) with
    | some _ => none
    | none => some (n.add (base ++ [k]) .value false)
  | k :: ks =>
    let path := base ++ [k]
    match n.find? path with
    | none => (n.add path .table false).definePair path ks
    | some m => if m.kind = .table && !m.closed then n.definePair path ks else none

/-- The names on the way to a header, which may be anything but a value. -/
def approach (n : Names) (base : Key) : Key → Option (Names × Key)
  | [] => none
  | [k] => some (n, base ++ [k])
  | k :: ks =>
    let path := base ++ [k]
    match n.find? path with
    | none => (n.add path .table false).approach path ks
    | some m => if m.kind = .value then none else n.approach path ks

/-- The header of a table. -/
def openTable (n : Names) (k : Key) : Option Names := do
  let (n, path) ← n.leave.approach [] k
  match n.find? path with
  | none => some { n.add path .table true with current := path }
  | some m =>
    if m.kind = .table && !m.closed then
      some { n with
        all := n.all.map fun m => if m.key = path then { m with closed := true } else m
        current := path }
    else none

/-- The header of an entry of an array of tables: what an earlier entry defined
    is forgotten. -/
def openEntry (n : Names) (k : Key) : Option Names := do
  let (n, path) ← n.leave.approach [] k
  match n.find? path with
  | none => some { n.add path .arrayTable true with current := path }
  | some m =>
    if m.kind = .arrayTable then
      some { n with all := n.all.filter (fun m => !isBelow path m.key), current := path }
    else none

end Names

mutual

/-- Whether no inline table within a value defines a name twice. -/
def Value.isConsistent : Value → Bool
  | .array items => Value.allConsistent items
  | .table members => Value.membersConsistent {} members
  | _ => true

/-- Whether all items of an array are consistent. -/
def Value.allConsistent : List Value → Bool
  | [] => true
  | v :: vs => v.isConsistent && Value.allConsistent vs

/-- Whether the pairs of an inline table define no name twice. -/
def Value.membersConsistent (n : Names) : List (Key × Value) → Bool
  | [] => true
  | (k, v) :: rest =>
    match n.definePair [] k with
    | none => false
    | some n => v.isConsistent && Value.membersConsistent n rest

end

/-- The pair of a key and a value in the current table. -/
def Names.pair (n : Names) (k : Key) (v : Value) : Option Names :=
  if v.isConsistent then n.definePair n.current k else none

end HeadUnit.Toml
