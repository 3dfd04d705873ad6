import HeadUnit.Json
import HeadUnit.Toml.Value

/-!
# TOML literals

Strings, booleans, numbers and moments. Every reader takes the characters from
the front and gives what it read with the rest.
-/

namespace HeadUnit.Toml

/-- Whether a character may stand in a document: no control character but the
    tab and the ends of lines. -/
def isAllowed (c : Char) : Bool :=
  (0x20 ≤ c.toNat && c.toNat != 0x7f) || c = '\t' || c = '\n' || c = '\r'

/-- The rest after a word, if it comes next. -/
def after? (word : List Char) (cs : List Char) : Option (List Char) :=
  if word.isPrefixOf cs then some (cs.drop word.length) else none

/-! ### Strings -/

/-- The value of hexadecimal digits. -/
def hexNumber? (ds : List Char) : Option Nat :=
  if ds.all Json.isHexDigit then some (ds.foldl (fun n d => n * 16 + Json.hexValue d) 0) else none

/-- The character with a code point written in hexadecimal digits. -/
def codePoint? (width : Nat) (cs : List Char) : Option (Char × List Char) := do
  let ds := cs.take width
  if ds.length < width then failure
  let n ← hexNumber? ds
  if n > 0x10ffff || (0xd800 ≤ n && n < 0xe000) then failure
  return (Char.ofNat n, cs.drop width)

/-- The character that an escape stands for, after the backslash. -/
def escape? : List Char → Option (Char × List Char)
  | [] => none
  | c :: cs =>
    match c with
    | '"' => some ('"', cs)
    | '\\' => some ('\\', cs)
    | 'b' => some (Char.ofNat 8, cs)
    | 'f' => some (Char.ofNat 12, cs)
    | 'n' => some ('\n', cs)
    | 'r' => some ('\r', cs)
    | 't' => some ('\t', cs)
    | 'e' => some (Char.ofNat 0x1b, cs)
    | 'u' => codePoint? 4 cs
    | 'U' => codePoint? 8 cs
    | _ => none

/-- A string on one line, after its opening quote. Every character uses up
    fuel. -/
def basic? : Nat → List Char → Option (List Char × List Char)
  | 0, _ => none
  | _, [] => none
  | fuel + 1, c :: cs =>
    if c = '"' then some ([], cs)
    else if c = '\\' then do
      let (e, cs) ← escape? cs
      let (text, rest) ← basic? fuel cs
      return (e :: text, rest)
    else if c = '\n' || c = '\r' || !isAllowed c then none
    else (basic? fuel cs).map fun (text, rest) => (c :: text, rest)

/-- A string without escapes on one line, after its opening apostrophe. -/
def literal? : List Char → Option (List Char × List Char)
  | [] => none
  | c :: cs =>
    if c = '\'' then some ([], cs)
    else if c = '\n' || c = '\r' || !isAllowed c then none
    else (literal? cs).map fun (text, rest) => (c :: text, rest)

/-- The rest after the end of a line, if one comes next. -/
def newline? : List Char → Option (List Char)
  | '\n' :: cs => some cs
  | '\r' :: '\n' :: cs => some cs
  | _ => none

/-- What a line ends with when it is broken by a backslash: the rest after all
    blanks and ends of lines. -/
def broken? (cs : List Char) : Option (List Char) :=
  (newline? (cs.dropWhile fun c => c = ' ' || c = '\t')).map fun rest =>
    rest.dropWhile fun c => c = ' ' || c = '\t' || c = '\n' || c = '\r'

/-- The closing quotes of a string over several lines: three, and up to two more
    before them that belong to the string. -/
def closing? (quote : Char) (cs : List Char) : Option (List Char × List Char) :=
  let run := (cs.takeWhile (· = quote)).length
  if run < 3 || 5 < run then none
  else some (List.replicate (run - 3) quote, cs.drop run)

/-- A string over several lines, after its opening quotes. -/
def multiline? (quote : Char) (escapes : Bool) : Nat → List Char → Option (List Char × List Char)
  | 0, _ => none
  | _, [] => none
  | fuel + 1, c :: cs =>
    let keep (text : List Char) (rest : List Char) : Option (List Char × List Char) :=
      (multiline? quote escapes fuel rest).map fun (t, r) => (text ++ t, r)
    if c = quote then
      if (after? [quote, quote] cs).isSome then closing? quote (c :: cs) else keep [c] cs
    else if escapes && c = '\\' then
      match broken? cs with
      | some rest => keep [] rest
      | none =>
        match escape? cs with
        | some (e, rest) => keep [e] rest
        | none => none
    else if c = '\r' then
      match cs with
      | '\n' :: rest => keep ['\r', '\n'] rest
      | _ => none
    else if isAllowed c then keep [c] cs
    else none

/-- Drops the end of a line right after the opening quotes. -/
def dropNewline (cs : List Char) : List Char := (newline? cs).getD cs

/-- A string of any kind. -/
def string? (cs : List Char) : Option (String × List Char) :=
  let text (r : Option (List Char × List Char)) : Option (String × List Char) :=
    r.map fun (t, rest) => (String.ofList t, rest)
  match after? ['"', '"', '"'] cs, after? ['\'', '\'', '\''] cs with
  | some rest, _ => text (multiline? '"' true (rest.length + 1) (dropNewline rest))
  | _, some rest => text (multiline? '\'' false (rest.length + 1) (dropNewline rest))
  | none, none =>
    match cs with
    | '"' :: rest => text (basic? (rest.length + 1) rest)
    | '\'' :: rest => text (literal? rest)
    | _ => none

/-! ### Numbers and moments -/

def infinity : List Char := ['i', 'n', 'f']

def notANumber : List Char := ['n', 'a', 'n']

/-- The digits of a base, with underscores. -/
def isDigitOf (base : Nat) (c : Char) : Bool := c = '_' || (Integer.digit? c).any (· < base)

/-- Whether a character may stand in a decimal number. -/
def isNumeric (c : Char) : Bool :=
  c.isDigit || c = '+' || c = '-' || c = '_' || c = '.' || c = 'e' || c = 'E'

/-- A decimal number; a sign may come before infinity and what is no number. -/
def decimal? (cs : List Char) : Option (Value × List Char) :=
  let ds := cs.takeWhile isNumeric
  let rest := cs.dropWhile isNumeric
  let named (word : List Char) : Option (Value × List Char) :=
    (after? word rest).map fun r => (.float (ds ++ word), r)
  match rest with
  | 'i' :: _ => named infinity
  | 'n' :: _ => named notANumber
  | _ =>
    if ds.isEmpty then none
    else if ds.any fun c => c = '.' || c = 'e' || c = 'E' then some (.float ds, rest)
    else some (.integer ds, rest)

/-- A number. A zero that is not followed by a point or an exponent is a number
    of its own, or starts a base mark. -/
def number? (cs : List Char) : Option (Value × List Char) :=
  match cs with
  | '0' :: b :: c :: rest =>
    let based (base : Nat) : Option (Value × List Char) :=
      some (.integer ('0' :: b :: (c :: rest).takeWhile (isDigitOf base)),
        (c :: rest).dropWhile (isDigitOf base))
    if b = '.' || b = 'e' || b = 'E' then decimal? cs
    else if b = 'x' then based 16
    else if b = 'o' then based 8
    else if b = 'b' then based 2
    else some (.integer ['0'], b :: c :: rest)
  | cs => decimal? cs

/-- Whether a character may stand in a date or time. -/
def isOfMoment (c : Char) : Bool :=
  c.isDigit || ['-', 'T', 't', ':', '.', '+', 'Z', 'z'].contains c

/-- A date, a time, or both. A blank before a digit joins them once, with two
    characters of the time. -/
def moment (cs : List Char) : Value × List Char :=
  let ds := cs.takeWhile isOfMoment
  match cs.dropWhile isOfMoment with
  | ' ' :: d :: rest =>
    if d.isDigit then
      let time := rest.take 1 ++ (rest.drop 1).takeWhile isOfMoment
      (.moment (ds ++ ' ' :: d :: time), (rest.drop 1).dropWhile isOfMoment)
    else (.moment ds, ' ' :: d :: rest)
  | rest => (.moment ds, rest)

/-- Whether a date or a time comes next: two digits and a colon, or four digits
    and a dash. -/
def startsMoment (cs : List Char) : Bool :=
  let ds := (cs.take 5).takeWhile Char.isDigit
  match ds.length, cs.drop ds.length with
  | 2, ':' :: _ => true
  | 4, '-' :: _ => true
  | _, _ => false

/-- A number or a moment. -/
def scalar? (cs : List Char) : Option (Value × List Char) :=
  match cs with
  | 'i' :: _ => (after? infinity cs).map fun r => (.float infinity, r)
  | 'n' :: _ => (after? notANumber cs).map fun r => (.float notANumber, r)
  | _ => if startsMoment cs then some (moment cs) else number? cs

end HeadUnit.Toml
