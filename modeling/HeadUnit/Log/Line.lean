import HeadUnit.Decimal.Shortest
import HeadUnit.Log.Threshold

/-!
# Log lines

The two written forms of a log entry:

* `Line.json` is one JSON object: the level, the component, the fields in their
  order, the message.
* `Line.console` is meant for reading: the time, a short name of the level, the
  message, then the fields by name, faults first. Of two fields with one name
  the last is shown, and a field named like a part of the line takes its place.

Durations are written in milliseconds.
-/

namespace HeadUnit.Log

namespace Line

/-- A character inside a JSON string; `verbatim` tells which ones need no
    escape. -/
def escapeChar (verbatim : Char → Bool) (c : Char) : String :=
  if c = '"' then "\\\""
  else if c = '\\' then "\\\\"
  else if verbatim c then String.singleton c
  else if c = '\n' then "\\n"
  else if c = '\r' then "\\r"
  else if c = '\t' then "\\t"
  else if c.toNat = 8 then "\\b"
  else if c.toNat = 12 then "\\f"
  else "\\u" ++ String.ofList (Text.hexDigits 4 c.toNat)

/-- A JSON string. -/
def quote (verbatim : Char → Bool) (s : String) : String :=
  "\"" ++ String.join (s.toList.map (escapeChar verbatim)) ++ "\""

/-- Texts of an entry: control characters are escaped, the delete character too. -/
def textJson (s : String) : String := quote (fun c => 0x20 ≤ c.toNat && c.toNat != 0x7f) s

/-- Texts inside a value of any shape: control characters and the line and
    paragraph separators are escaped. -/
def dataText (s : String) : String :=
  quote (fun c => 0x20 ≤ c.toNat && c.toNat != 0x2028 && c.toNat != 0x2029) s

mutual

/-- A value of any shape as JSON. -/
def dataJson : Data → String
  | .null => "null"
  | .bool b => if b then "true" else "false"
  | .number t => t
  | .string s => dataText s
  | .list items => "[" ++ ",".intercalate (dataItems items) ++ "]"
  | .record fields => "\x7b" ++ ",".intercalate (dataMembers fields) ++ "\x7d"

/-- The items of a list as JSON. -/
def dataItems : List Data → List String
  | [] => []
  | d :: ds => dataJson d :: dataItems ds

/-- The members of a record as JSON. -/
def dataMembers : List (String × Data) → List String
  | [] => []
  | (k, d) :: fs => (dataText k ++ ":" ++ dataJson d) :: dataMembers fs

end

/-- What is written for a field: a text, or JSON that is no text. -/
inductive Piece
  | text (s : String)
  | json (s : String)
  deriving DecidableEq, Repr

def Piece.toJson : Piece → String
  | .text s => textJson s
  | .json s => s

/-- What is written for a value. -/
def pieceOf : Value → Piece
  | .text s => .text s
  | .int n => .json (toString n.toInt)
  | .bool b => .json (if b then "true" else "false")
  | .span d => .json (Decimal.quotientText d.toInt 1000000)
  | .fault none => .json "null"
  | .fault (some f) => .text f.message
  | .users none => .json "null"
  | .users (some ids) => .json ("[" ++ ",".intercalate (ids.map UserId.text) ++ "]")
  | .data (.string s) => .text s
  | .data d => .json (dataJson d)

/-- The name of a level in a line. -/
def levelName : Level → String
  | .debug => "debug"
  | .info => "info"
  | .warn => "warn"
  | .error => "error"
  | .critical => "fatal"

/-- The members of an entry, in order; an empty message is left out. -/
def members (e : Entry) : List (String × Piece) :=
  [("level", .text (levelName e.level))]
    ++ e.component.toList.map (fun c => ("component", .text c))
    ++ e.fields.map (fun f => (f.key, pieceOf f.value))
    ++ if e.message = "" then [] else [("message", .text e.message)]

/-- An entry as one JSON object. -/
def json (e : Entry) : String :=
  "\x7b" ++ ",".intercalate ((members e).map fun (k, p) => textJson k ++ ":" ++ p.toJson)
    ++ "\x7d"

/-! ### For reading -/

/-- Wraps a text into a colour, if colours are on; colour 0 is none. -/
def paint (coloured : Bool) (colour : Nat) (s : String) : String :=
  if coloured && colour != 0 then "\x1b[" ++ toString colour ++ "m" ++ s ++ "\x1b[0m" else s

/-- The colours of a line. -/
def bold : Nat := 1
def red : Nat := 31
def green : Nat := 32
def yellow : Nat := 33
def blue : Nat := 34
def cyan : Nat := 36
def grey : Nat := 90

/-- The short names of thresholds, with their colours. -/
def shortNames : List (Int × String × Nat) :=
  [(-1, "TRC", blue), (0, "DBG", 0), (1, "INF", green), (2, "WRN", yellow), (3, "ERR", red),
   (4, "FTL", red), (5, "PNC", red)]

/-- The first three characters of a level without a short name. -/
def cutLevel (s : String) : String :=
  if s = "" then "???" else String.ofList ((s.toList.take 3).map Char.toUpper)

/-- The short name of the level of a line. -/
def levelPart (coloured : Bool) : Option Piece → String
  | none => "???"
  | some (.json s) => cutLevel s
  | some (.text s) =>
    let code := match Threshold.parse s with
      | .ok t => t.code
      | .error _ => Threshold.unspecified.code
    match shortNames.find? (·.1 == code) with
    | some (_, name, colour) => paint coloured colour name
    | none => cutLevel s

/-- The message of a line; it is bold from level `info` on. -/
def messagePart (coloured : Bool) (level : Option Piece) : Option Piece → String
  | none => ""
  | some p =>
    let s := match p with
      | .text s => s
      | .json s => s
    let loud := match level with
      | some (.text l) => ["info", "warn", "error", "fatal", "panic"].contains l
      | _ => false
    if loud && s != "" then paint coloured bold s else s

/-- Whether a text is put into quotes for reading. -/
def needsQuotes (s : String) : Bool :=
  s.toList.any fun c => c.toNat ≤ 0x20 || 0x7e < c.toNat || c = '\\' || c = '"'

/-- A field of a line. -/
def fieldPart (coloured : Bool) (key : String) (p : Piece) : String :=
  let s := match p with
    | .text s => if needsQuotes s then Text.quoted s else s
    | .json s => s
  let s := if key = "error" then paint coloured red (paint coloured bold s) else s
  paint coloured cyan (key ++ "=") ++ s

/-- The fields of a line: by name, each name once, faults first. -/
def shownFields (ms : List (String × Piece)) : List (String × Piece) :=
  let parts := ["level", "time", "message", "caller"]
  let keys := ((ms.map (·.1)).filter fun k => !parts.contains k).eraseDups.mergeSort
    fun a b => decide (a ≤ b)
  let keys := (keys.filter (· == "error")) ++ keys.filter (· != "error")
  keys.filterMap fun k => (ms.reverse.find? (·.1 == k))

/-- An entry for reading; an empty `time` is left out. -/
def console (coloured : Bool) (time : String) (e : Entry) : String :=
  let ms := members e
  let last (k : String) : Option Piece := (ms.reverse.find? (·.1 == k)).map (·.2)
  let level := last "level"
  let parts := [if time = "" then "" else paint coloured grey time, levelPart coloured level,
    messagePart coloured level (last "message")]
  " ".intercalate (parts.filter (· != "")
    ++ (shownFields ms).map fun (k, p) => fieldPart coloured k p)

end Line

end HeadUnit.Log
