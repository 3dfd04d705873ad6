import HeadUnit.Text.Quoted

/-!
# JSON documents

A document is a tree of values. Numbers and strings keep the characters they
were written with, so that reading a document loses nothing but blanks.

* `Json.parse?` reads a whole document.
* `Json.pretty` writes one value per line, indented by two blanks.
* `Json.unescape` gives the text a string stands for.
-/

namespace HeadUnit

/-- A JSON value. -/
inductive Json
  | null
  | bool (b : Bool)
  /-- A number with the characters of its literal. -/
  | number (literal : List Char)
  /-- A string with the characters between its quotes. -/
  | string (raw : List Char)
  | list (items : List Json)
  /-- The members in the order they are written, keys as between their quotes. -/
  | record (members : List (List Char × Json))
  deriving Repr, Inhabited

namespace Json

def isBlank (c : Char) : Bool := c = ' ' || c = '\t' || c = '\n' || c = '\r'

def skipBlanks (cs : List Char) : List Char := cs.dropWhile isBlank

def isHexDigit (c : Char) : Bool :=
  c.isDigit || ('a' ≤ c && c ≤ 'f') || ('A' ≤ c && c ≤ 'F')

/-- The value of a hexadecimal digit. -/
def hexValue (c : Char) : Nat :=
  if c.isDigit then c.toNat - 48
  else if 'a' ≤ c then c.toNat - 87
  else c.toNat - 55

/-- Reads a string up to its closing quote: the characters before it and the
    rest after it. -/
def stringBody? : List Char → Option (List Char × List Char)
  | [] => none
  | '"' :: cs => some ([], cs)
  | '\\' :: 'u' :: a :: b :: c :: d :: cs =>
    if isHexDigit a && isHexDigit b && isHexDigit c && isHexDigit d then
      (stringBody? cs).map fun (raw, rest) => ('\\' :: 'u' :: a :: b :: c :: d :: raw, rest)
    else none
  | '\\' :: e :: cs =>
    if ['"', '\\', '/', 'b', 'f', 'n', 'r', 't'].contains e then
      (stringBody? cs).map fun (raw, rest) => ('\\' :: e :: raw, rest)
    else none
  | c :: cs =>
    if c.toNat < 0x20 || c = '\\' then none
    else (stringBody? cs).map fun (raw, rest) => (c :: raw, rest)

/-- The four hexadecimal digits of an escape. -/
def unitOf (a b c d : Char) : Nat :=
  hexValue a * 4096 + hexValue b * 256 + hexValue c * 16 + hexValue d

/-- The character a letter stands for after a backslash. -/
def unescapeLetter (e : Char) : Char :=
  match e with
  | 'b' => Char.ofNat 0x08
  | 'f' => Char.ofNat 0x0c
  | 'n' => '\n'
  | 'r' => '\r'
  | 't' => '\t'
  | e => e

/-- The text between the quotes of a string. Two escapes that form a surrogate
    pair are one character; half a pair is a replacement character. -/
def unescape : List Char → List Char
  | [] => []
  | '\\' :: 'u' :: a :: b :: c :: d :: '\\' :: 'u' :: a' :: b' :: c' :: d' :: cs =>
    let hi := unitOf a b c d
    let lo := unitOf a' b' c' d'
    if 0xd800 ≤ hi && hi < 0xdc00 && 0xdc00 ≤ lo && lo < 0xe000 then
      Char.ofNat (0x10000 + (hi - 0xd800) * 0x400 + (lo - 0xdc00)) :: unescape cs
    else
      (if 0xd800 ≤ hi && hi < 0xe000 then Char.ofNat 0xfffd else Char.ofNat hi)
        :: unescape ('\\' :: 'u' :: a' :: b' :: c' :: d' :: cs)
  | '\\' :: 'u' :: a :: b :: c :: d :: cs =>
    let n := unitOf a b c d
    (if 0xd800 ≤ n && n < 0xe000 then Char.ofNat 0xfffd else Char.ofNat n) :: unescape cs
  | '\\' :: e :: cs => unescapeLetter e :: unescape cs
  | c :: cs => c :: unescape cs

/-- Reads a nonempty run of digits. -/
def digits? (cs : List Char) : Option (List Char × List Char) :=
  let ds := cs.takeWhile Char.isDigit
  if ds.isEmpty then none else some (ds, cs.dropWhile Char.isDigit)

/-- Reads the digits before the point: a zero stands alone. -/
def whole? : List Char → Option (List Char × List Char)
  | '0' :: cs => some (['0'], cs)
  | cs => digits? cs

/-- Reads a number. -/
def number? (cs : List Char) : Option (List Char × List Char) := do
  let (sign, cs) := match cs with
    | '-' :: cs => (['-'], cs)
    | cs => ([], cs)
  let (whole, cs) ← whole? cs
  let (frac, cs) ← match cs with
    | '.' :: cs => (digits? cs).map fun (ds, rest) => ('.' :: ds, rest)
    | cs => some ([], cs)
  let (exp, cs) ← match cs with
    | e :: cs =>
      if e = 'e' || e = 'E' then
        match cs with
        | s :: cs' =>
          if s = '+' || s = '-' then
            (digits? cs').map fun (ds, rest) => (e :: s :: ds, rest)
          else (digits? (s :: cs')).map fun (ds, rest) => (e :: ds, rest)
        | [] => none
      else some ([], e :: cs)
    | [] => some ([], [])
  return (sign ++ whole ++ frac ++ exp, cs)

mutual

/-- Reads a value off the front; every nested value uses up fuel. -/
def value? : Nat → List Char → Option (Json × List Char)
  | 0, _ => none
  | fuel + 1, cs =>
    match skipBlanks cs with
    | 'n' :: 'u' :: 'l' :: 'l' :: rest => some (.null, rest)
    | 't' :: 'r' :: 'u' :: 'e' :: rest => some (.bool true, rest)
    | 'f' :: 'a' :: 'l' :: 's' :: 'e' :: rest => some (.bool false, rest)
    | '"' :: rest => (stringBody? rest).map fun (raw, rest) => (.string raw, rest)
    | '[' :: rest =>
      match skipBlanks rest with
      | ']' :: rest => some (.list [], rest)
      | rest => (items? fuel rest).map fun (vs, rest) => (.list vs, rest)
    | '{' :: rest =>
      match skipBlanks rest with
      | '}' :: rest => some (.record [], rest)
      | rest => (members? fuel rest).map fun (ms, rest) => (.record ms, rest)
    | cs => (number? cs).map fun (ds, rest) => (.number ds, rest)

/-- Reads the items of a list up to its closing bracket. -/
def items? : Nat → List Char → Option (List Json × List Char)
  | 0, _ => none
  | fuel + 1, cs =>
    match value? fuel cs with
    | none => none
    | some (v, rest) =>
      match skipBlanks rest with
      | ',' :: rest => (items? fuel rest).map fun (vs, rest) => (v :: vs, rest)
      | ']' :: rest => some ([v], rest)
      | _ => none

/-- Reads the members of a record up to its closing brace. -/
def members? : Nat → List Char → Option (List (List Char × Json) × List Char)
  | 0, _ => none
  | fuel + 1, cs =>
    match skipBlanks cs with
    | '"' :: cs =>
      match stringBody? cs with
      | none => none
      | some (key, rest) =>
        match skipBlanks rest with
        | ':' :: rest =>
          match value? fuel rest with
          | none => none
          | some (v, rest) =>
            match skipBlanks rest with
            | ',' :: rest => (members? fuel rest).map fun (ms, rest) => ((key, v) :: ms, rest)
            | '}' :: rest => some ([(key, v)], rest)
            | _ => none
        | _ => none
    | _ => none

end

/-- Reads a whole document. -/
def parse? (cs : List Char) : Option Json :=
  match value? (2 * cs.length + 2) cs with
  | some (v, rest) => if (skipBlanks rest).isEmpty then some v else none
  | none => none

/-- A new line with the indentation of a depth. -/
def newline (depth : Nat) : List Char := '\n' :: List.replicate (2 * depth) ' '

/-- The comma before what follows, if anything does. -/
def comma {α : Type} (rest : List α) : List Char := if rest.isEmpty then [] else [',']

mutual

/-- Writes a value that stands at a depth. -/
def write (depth : Nat) : Json → List Char
  | .null => ['n', 'u', 'l', 'l']
  | .bool true => ['t', 'r', 'u', 'e']
  | .bool false => ['f', 'a', 'l', 's', 'e']
  | .number ds => ds
  | .string raw => '"' :: raw ++ ['"']
  | .list [] => ['[', ']']
  | .list (v :: vs) => '[' :: writeItems (depth + 1) (v :: vs) ++ newline depth ++ [']']
  | .record [] => ['{', '}']
  | .record (m :: ms) => '{' :: writeMembers (depth + 1) (m :: ms) ++ newline depth ++ ['}']

/-- Writes the items of a list, each on a line of its own. -/
def writeItems (depth : Nat) : List Json → List Char
  | [] => []
  | v :: vs => newline depth ++ write depth v ++ comma vs ++ writeItems depth vs

/-- Writes the members of a record, each on a line of its own. -/
def writeMembers (depth : Nat) : List (List Char × Json) → List Char
  | [] => []
  | (k, v) :: ms =>
    newline depth ++ '"' :: k ++ ['"', ':', ' '] ++ write depth v ++ comma ms
      ++ writeMembers depth ms

end

/-- Writes a document. -/
def pretty (v : Json) : List Char := v.write 0

end Json

end HeadUnit
