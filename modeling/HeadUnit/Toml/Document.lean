import HeadUnit.Toml.Literal

/-!
# TOML documents

`Document.parse?` reads a document into its statements, one to a line. Nested
values use up fuel; as much as there are characters suffices.
-/

namespace HeadUnit.Toml

def isBlank (c : Char) : Bool := c = ' ' || c = '\t'

def skipBlanks (cs : List Char) : List Char := cs.dropWhile isBlank

/-! ### Keys -/

/-- Whether a character may stand in a name without quotes. -/
def isBare (c : Char) : Bool := c.isAlphanum || c = '-' || c = '_'

/-- One name of a key. -/
def name? (cs : List Char) : Option (String × List Char) :=
  match cs with
  | '"' :: rest => (basic? (rest.length + 1) rest).map fun (t, r) => (String.ofList t, r)
  | '\'' :: rest => (literal? rest).map fun (t, r) => (String.ofList t, r)
  | _ =>
    let bare := cs.takeWhile isBare
    if bare.isEmpty then none else some (String.ofList bare, cs.dropWhile isBare)

/-- A key: names divided by dots. -/
def key? : Nat → List Char → Option (Key × List Char)
  | 0, _ => none
  | fuel + 1, cs => do
    let (name, rest) ← name? cs
    match skipBlanks rest with
    | '.' :: rest =>
      let (names, rest) ← key? fuel (skipBlanks rest)
      return (name :: names, rest)
    | rest => return ([name], rest)

/-! ### Comments -/

/-- Skips a comment up to the end of its line. -/
def comment? : List Char → Option (List Char)
  | [] => some []
  | '\n' :: cs => some ('\n' :: cs)
  | '\r' :: '\n' :: cs => some ('\r' :: '\n' :: cs)
  | c :: cs => if c = '\r' || !isAllowed c then none else comment? cs

/-- Skips blanks, comments and ends of lines. -/
def skipLines? : Nat → List Char → Option (List Char)
  | 0, _ => none
  | fuel + 1, cs =>
    match skipBlanks cs with
    | '#' :: rest => (comment? rest).bind (skipLines? fuel)
    | '\n' :: rest => skipLines? fuel rest
    | '\r' :: rest =>
      match rest with
      | '\n' :: rest => skipLines? fuel rest
      | _ => none
    | rest => some rest

/-! ### Values -/

mutual

/-- A value. -/
def value? : Nat → List Char → Option (Value × List Char)
  | 0, _ => none
  | _, [] => none
  | fuel + 1, c :: cs =>
    if c = '"' || c = '\'' then (string? (c :: cs)).map fun (s, rest) => (.string s, rest)
    else if c = 't' then (after? ['t', 'r', 'u', 'e'] (c :: cs)).map fun rest => (.bool true, rest)
    else if c = 'f' then
      (after? ['f', 'a', 'l', 's', 'e'] (c :: cs)).map fun rest => (.bool false, rest)
    else if c = '[' then (items? fuel true cs).map fun (vs, rest) => (.array vs, rest)
    else if c = '\x7b' then (members? fuel true cs).map fun (ms, rest) => (.table ms, rest)
    else scalar? (c :: cs)

/-- The items of an array up to its closing bracket; a comma may come last. -/
def items? : Nat → Bool → List Char → Option (List Value × List Char)
  | 0, _, _ => none
  | fuel + 1, first, cs => do
    let cs ← skipLines? (cs.length + 1) cs
    match cs with
    | ']' :: rest => return ([], rest)
    | ',' :: rest =>
      if first then failure
      let rest ← skipLines? (rest.length + 1) rest
      item? fuel rest
    | cs => if first then item? fuel cs else failure

/-- The next item of an array and those after it, or its closing bracket. -/
def item? : Nat → List Char → Option (List Value × List Char)
  | 0, _ => none
  | fuel + 1, cs =>
    match cs with
    | ']' :: rest => some ([], rest)
    | cs => do
      let (v, rest) ← value? fuel cs
      let (vs, rest) ← items? fuel false rest
      return (v :: vs, rest)

/-- The pairs of an inline table up to its closing brace. -/
def members? : Nat → Bool → List Char → Option (List (Key × Value) × List Char)
  | 0, _, _ => none
  | fuel + 1, first, cs =>
    match skipBlanks cs with
    | '\x7d' :: rest => some ([], rest)
    | rest => do
      let rest ← if first then some rest else (after? [','] rest).map skipBlanks
      let (m, rest) ← pair? fuel rest
      let (ms, rest) ← members? fuel false rest
      return (m :: ms, rest)

/-- A key with its value. -/
def pair? : Nat → List Char → Option ((Key × Value) × List Char)
  | 0, _ => none
  | fuel + 1, cs => do
    let (k, rest) ← key? (cs.length + 1) cs
    let rest ← after? ['='] (skipBlanks rest)
    let (v, rest) ← value? fuel (skipBlanks rest)
    return ((k, v), rest)

end

/-! ### Statements -/

/-- A header between brackets. -/
def header? (opening closing : List Char) (cs : List Char) : Option (Key × List Char) := do
  let rest ← after? opening cs
  let (k, rest) ← key? (cs.length + 1) (skipBlanks rest)
  let rest ← after? closing (skipBlanks rest)
  return (k, rest)

/-- A statement. -/
def statement? (cs : List Char) : Option (Statement × List Char) :=
  match cs with
  | '[' :: '[' :: _ => (header? ['[', '['] [']', ']'] cs).map fun (k, r) => (.arrayTable k, r)
  | '[' :: _ => (header? ['['] [']'] cs).map fun (k, r) => (.table k, r)
  | _ => (pair? (4 * cs.length + 4) cs).map fun ((k, v), r) => (.pair k v, r)

/-- A line: a statement or nothing, and a comment or nothing. -/
def line? (cs : List Char) : Option (List Statement × List Char) :=
  match skipBlanks cs with
  | [] => some ([], [])
  | '#' :: rest => (comment? rest).map fun rest => ([], rest)
  | '\n' :: rest => some ([], '\n' :: rest)
  | '\r' :: rest => some ([], '\r' :: rest)
  | cs => do
    let (s, rest) ← statement? cs
    match skipBlanks rest with
    | '#' :: rest => (comment? rest).map fun rest => ([s], rest)
    | rest => some ([s], rest)

/-- The lines of a document, divided by ends of lines. -/
def lines? : Nat → List Char → Option (List Statement)
  | 0, _ => none
  | fuel + 1, cs => do
    let (s, rest) ← line? cs
    match rest with
    | [] => return s
    | rest =>
      let rest ← newline? rest
      if rest.isEmpty then return s
      let more ← lines? fuel rest
      return s ++ more

/-- Reads a document. -/
def parse? (text : String) : Option (List Statement) :=
  let cs := text.toList
  if cs.isEmpty then some [] else lines? (cs.length + 1) cs

end HeadUnit.Toml
