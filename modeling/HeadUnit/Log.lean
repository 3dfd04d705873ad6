import HeadUnit.Fault
import HeadUnit.Time.Duration

/-!
# Log entries

An entry has a level, a message and fields in the order they were given. The
value of a field is one of a few kinds; `Data` is for values of any shape. An
entry may also name the component that wrote it.

`Entry.text` is the plain one-line form, fields separated by bars.
-/

namespace HeadUnit.Log

/-- Severity. -/
inductive Level
  | debug
  | info
  | warn
  | error
  | critical
  deriving DecidableEq, Repr

def Level.text : Level → String
  | debug => "debug"
  | info => "info"
  | warn => "warn"
  | error => "error"
  | critical => "critical"

/-- A value of any shape; numbers keep their decimal text, and the keys of a
    record are in increasing order. -/
inductive Data
  | null
  | bool (b : Bool)
  | number (text : String)
  | string (s : String)
  | list (items : List Data)
  | record (fields : List (String × Data))
  deriving Repr, Inhabited

mutual

/-- The plain text of a value: lists in brackets, records as a map of
    `key:value` pairs. -/
def Data.text : Data → String
  | .null => "<nil>"
  | .bool b => if b then "true" else "false"
  | .number t => t
  | .string s => s
  | .list items => "[" ++ " ".intercalate (Data.texts items) ++ "]"
  | .record fields => "map[" ++ " ".intercalate (Data.fieldTexts fields) ++ "]"

/-- The plain texts of the items of a list. -/
def Data.texts : List Data → List String
  | [] => []
  | d :: ds => d.text :: Data.texts ds

/-- The plain texts of the fields of a record. -/
def Data.fieldTexts : List (String × Data) → List String
  | [] => []
  | (k, d) :: fs => (k ++ ":" ++ d.text) :: Data.fieldTexts fs

end

/-- The value of a field. -/
inductive Value
  | text (s : String)
  | int (n : Int64)
  | bool (b : Bool)
  | span (d : Duration)
  | fault (f : Option Fault)
  /-- A list of user ids; an absent one differs from an empty one. -/
  | users (ids : Option (List UserId))
  | data (d : Data)
  deriving Repr

/-- The plain text of a value; durations count nanoseconds. -/
def Value.plain : Value → String
  | .text s => s
  | .int n => toString n.toInt
  | .bool b => if b then "true" else "false"
  | .span d => toString d.toInt
  | .fault none => "<nil>"
  | .fault (some f) => f.message
  | .users ids => "[" ++ " ".intercalate ((ids.getD []).map UserId.text) ++ "]"
  | .data d => d.text

/-- A key with its value. -/
structure Field where
  key : String
  value : Value
  deriving Repr

/-- A log entry. -/
structure Entry where
  level : Level
  message : String
  fields : List Field
  /-- The component that wrote it, if it names itself. -/
  component : Option String := none
  deriving Repr

/-- The plain one-line form. -/
def Entry.text (e : Entry) : String :=
  "|".intercalate
    (e.level.text :: e.message :: e.fields.map fun f => f.key ++ "=" ++ f.value.plain)

/-- The value of the first field with this key. -/
def Entry.field? (e : Entry) (key : String) : Option Value :=
  (e.fields.find? (·.key == key)).map (·.value)

/-- How many entries have this level. -/
def count (es : List Entry) (level : Level) : Nat :=
  (es.filter (·.level == level)).length

/-- The first entry with this level and message. -/
def find? (es : List Entry) (level : Level) (message : String) : Option Entry :=
  es.find? fun e => e.level == level && e.message == message

/-! ### Fields -/

def str (key value : String) : Field := ⟨key, .text value⟩
def int (key : String) (n : Int64) : Field := ⟨key, .int n⟩
def span (key : String) (d : Duration) : Field := ⟨key, .span d⟩
def users (key : String) (ids : Option (List UserId)) : Field := ⟨key, .users ids⟩

/-- A fault, always under the key `error`. -/
def err (f : Option Fault) : Field := ⟨"error", .fault f⟩

end HeadUnit.Log
