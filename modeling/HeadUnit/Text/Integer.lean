import HeadUnit.Text.Quoted

/-!
# Integers as text

* `Integer.decimal` reads a decimal number with an optional sign.
* `Integer.literal` reads a number that may also be written in another base,
  after `0x`, `0o`, `0b` or a plain `0`, with underscores between its digits.

Digits are taken from the left. A character that is no digit is a wrong
spelling; a number that leaves 64 bits is out of range as soon as it does, so
that what follows is not looked at.
-/

namespace HeadUnit.Integer

/-- Why a text is no integer. -/
inductive Problem
  | spelling
  | range
  deriving DecidableEq, Repr

/-- The wording of a problem; `reader` is who reads. -/
def Problem.message (p : Problem) (reader text : String) : String :=
  reader ++ ": parsing " ++ Text.quoted text ++ ": " ++ match p with
    | .spelling => "invalid syntax"
    | .range => "value out of range"

/-- The value of a digit in any base up to 36. -/
def digit? (c : Char) : Option Nat :=
  if c.isDigit then some (c.toNat - 48)
  else if 'a' ≤ c && c ≤ 'z' then some (c.toNat - 87)
  else if 'A' ≤ c && c ≤ 'Z' then some (c.toNat - 55)
  else none

/-- Appends digits to a number of 64 bits; underscores are skipped if they are
    allowed. -/
def digits (base : Nat) (underscores : Bool) : Nat → List Char → Except Problem Nat
  | n, [] => .ok n
  | n, c :: cs =>
    if underscores && c = '_' then digits base underscores n cs
    else match digit? c with
      | none => .error .spelling
      | some d =>
        if base ≤ d then .error .spelling
        else if Nat.pow 2 64 ≤ n * base + d then .error .range
        else digits base underscores (n * base + d) cs

/-- Splits off a sign. -/
def splitSign : List Char → Bool × List Char
  | '-' :: cs => (true, cs)
  | '+' :: cs => (false, cs)
  | cs => (false, cs)

/-- The integer with this sign and absolute value, if it has 64 bits. -/
def signed (negative : Bool) (n : Nat) : Except Problem Int64 :=
  if negative then
    if n ≤ Nat.pow 2 63 then .ok (Int64.ofInt (-(n : Int))) else .error .range
  else if n < Nat.pow 2 63 then .ok (Int64.ofInt n)
  else .error .range

/-- Reads a decimal number. -/
def decimal (text : String) : Except Problem Int64 := do
  let (negative, cs) := splitSign text.toList
  if cs.isEmpty then throw .spelling
  signed negative (← digits 10 false 0 cs)

/-- The base that a number is written in, and its digits. -/
def baseOf : List Char → Nat × List Char
  | '0' :: b :: c :: cs =>
    if b = 'x' || b = 'X' then (16, c :: cs)
    else if b = 'o' || b = 'O' then (8, c :: cs)
    else if b = 'b' || b = 'B' then (2, c :: cs)
    else (8, b :: c :: cs)
  | '0' :: cs => (8, cs)
  | cs => (10, cs)

/-- Whether every underscore stands between two digits; `after` tells whether a
    digit came just before. -/
def separated (base : Nat) : Bool → List Char → Bool
  | _, [] => true
  | after, ['_'] => after && false
  | after, '_' :: cs => after && separated base false cs
  | _, c :: cs => separated base ((digit? c).any (· < max base 10)) cs

/-- Reads a number in the base it is written in. After a base mark an underscore
    may come first. -/
def literal (text : String) : Except Problem Int64 := do
  let (negative, cs) := splitSign text.toList
  if cs.isEmpty then throw .spelling
  let (base, ds) := baseOf cs
  let n ← digits base true 0 ds
  if ds.contains '_' && !separated base (base != 10) ds then throw .spelling
  signed negative n

end HeadUnit.Integer
