import HeadUnit.Log
import HeadUnit.Text.Integer

/-!
# Log thresholds

A threshold is the least severity that is written. It is given by a name, in
any case, or by a number.
-/

namespace HeadUnit.Log

/-- The least severity that is written. -/
structure Threshold where
  code : Int
  deriving DecidableEq, Repr

/-- The severity of a level. -/
def Level.severity : Level → Int
  | .debug => 0
  | .info => 1
  | .warn => 2
  | .error => 3
  | .critical => 4

namespace Threshold

/-- The thresholds with a name; the empty name stands for none in particular. -/
def named : List (String × Int) :=
  [("trace", -1), ("debug", 0), ("info", 1), ("warn", 2), ("error", 3), ("fatal", 4), ("panic", 5),
   ("", 6), ("disabled", 7)]

/-- A letter without its case. -/
def foldCase (c : Char) : Char :=
  if c = Char.ofNat 0x17f then 's'
  else if c = Char.ofNat 0x212a then 'k'
  else c.toLower

/-- Why a text is no threshold. -/
inductive Problem
  | unknown (text : String)
  | outOfBounds (n : Int64)
  deriving DecidableEq, Repr

def Problem.message : Problem → String
  | unknown t => "Unknown Level String: '" ++ t ++ "', defaulting to NoLevel"
  | outOfBounds n => "Out-Of-Bounds Level: '" ++ toString n.toInt ++ "', defaulting to NoLevel"

/-- Reads a threshold. -/
def parse (text : String) : Except Problem Threshold :=
  match named.find? fun p => p.1.toList == text.toList.map foldCase with
  | some (_, n) => .ok ⟨n⟩
  | none =>
    match Integer.decimal text with
    | .error _ => .error (.unknown text)
    | .ok n => if n > 127 || n < -128 then .error (.outOfBounds n) else .ok ⟨n.toInt⟩

/-- The threshold for nothing in particular. -/
def unspecified : Threshold := ⟨6⟩

def info : Threshold := ⟨1⟩

/-- The name of a threshold, or its number. -/
def text (t : Threshold) : String :=
  ((named.find? (·.2 == t.code)).map (·.1)).getD (toString t.code)

/-- Whether entries of a level are written. -/
def admits (t : Threshold) (l : Level) : Bool := t.code ≤ l.severity

end Threshold

end HeadUnit.Log
