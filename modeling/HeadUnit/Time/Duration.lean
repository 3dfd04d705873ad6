import HeadUnit.Text.Quoted

/-!
# Durations

A duration is a signed 64-bit count of nanoseconds; sums and products wrap.
Its text is a sequence of decimal numbers with units, such as `1h15m30.5s`.

* `Duration.parse` reads a text. The bound of the count is checked at every
  step, so a text never wraps; only the least duration may have the magnitude
  `2^63`.
* A fraction is cut to the nanosecond: its value in the unit is computed in
  double precision from its first digits, as many as fit in 63 bits, then rounded towards zero.
-/

namespace HeadUnit

/-- A signed 64-bit count of nanoseconds. -/
abbrev Duration := Int64

namespace Duration

/-- One microsecond. -/
def microsecond : Duration := 1000
/-- One millisecond. -/
def millisecond : Duration := 1000000
/-- One second. -/
def second : Duration := 1000000000

/-- `n` milliseconds, wrapping. -/
def ofMillis (n : Int64) : Duration := n * millisecond

/-- Whole milliseconds, cut towards zero. -/
def toMillis (d : Duration) : Int64 := d / millisecond

/-- Why a text is no duration. -/
inductive Problem
  | invalid (text : String)
  | missingUnit (text : String)
  | unknownUnit (unit text : String)
  deriving DecidableEq, Repr

/-- The wording of a problem. -/
def Problem.message : Problem → String
  | .invalid t => "time: invalid duration " ++ Text.quotedBytes t
  | .missingUnit t => "time: missing unit in duration " ++ Text.quotedBytes t
  | .unknownUnit u t =>
    "time: unknown unit " ++ Text.quotedBytes u ++ " in duration " ++ Text.quotedBytes t

/-- The nanoseconds of a unit. The micro sign and the Greek letter mu are both
    accepted. -/
def unitOf? : String → Option Nat
  | "ns" => some 1
  | "us" => some 1000
  | "\u00b5s" => some 1000
  | "\u03bcs" => some 1000
  | "ms" => some 1000000
  | "s" => some 1000000000
  | "m" => some 60000000000
  | "h" => some 3600000000000
  | _ => none

/-- The value of a list of decimal digits. -/
def digitsValue (ds : List Char) : Nat :=
  ds.foldl (fun n c => n * 10 + (c.toNat - 48)) 0

/-- The part of the unit `unit` that the fraction digits `ds` stand for. Digits
    beyond the 63-bit range are ignored. -/
def fractionOf (ds : List Char) (unit : Nat) : Nat :=
  let (f, scale, _) := ds.foldl (fun (acc : Nat × Nat × Bool) c =>
    let (f, scale, full) := acc
    if full || f > (Nat.pow 2 63 - 1) / 10 then (f, scale, true)
    else
      let y := f * 10 + (c.toNat - 48)
      if y > Nat.pow 2 63 then (f, scale, true) else (y, scale * 10, false)) (0, 1, false)
  if f = 0 then 0
  else (Float.ofNat f * (Float.ofNat unit / Float.ofNat scale)).toUInt64.toNat

/-- Reads one number with its unit off the front of `cs`; `text` is the whole
    text, for the wording. Gives the nanoseconds and the rest. -/
def term (text : String) (cs : List Char) : Except Problem (Nat × List Char) :=
  let isUnit (c : Char) : Bool := c ≠ '.' && !c.isDigit
  let whole := cs.takeWhile Char.isDigit
  let rest := cs.dropWhile Char.isDigit
  let (frac, rest') := match rest with
    | '.' :: r => (r.takeWhile Char.isDigit, r.dropWhile Char.isDigit)
    | _ => ([], rest)
  let v := digitsValue whole
  if whole.isEmpty && frac.isEmpty then .error (.invalid text)
  else if v > Nat.pow 2 63 then .error (.invalid text)
  else
    let unit := String.ofList (rest'.takeWhile isUnit)
    if unit.isEmpty then .error (.missingUnit text)
    else match unitOf? unit with
      | none => .error (.unknownUnit unit text)
      | some scale =>
        if v > Nat.pow 2 63 / scale then .error (.invalid text)
        else
          let n := v * scale + fractionOf frac scale
          if n > Nat.pow 2 63 then .error (.invalid text)
          else .ok (n, rest'.dropWhile isUnit)

/-- Sums the terms of `cs`; every term takes at least one character. -/
def terms (text : String) : Nat → List Char → Nat → Except Problem Nat
  | _, [], sum => .ok sum
  | 0, _ :: _, _ => .error (.invalid text)
  | fuel + 1, c :: cs, sum =>
    if c = '.' || c.isDigit then
      match term text (c :: cs) with
      | .error p => .error p
      | .ok (n, rest) =>
        if sum + n > Nat.pow 2 63 then .error (.invalid text)
        else terms text fuel rest (sum + n)
    else .error (.invalid text)

/-- Reads a duration. -/
def parse (text : String) : Except Problem Duration :=
  let (neg, cs) := match text.toList with
    | '-' :: cs => (true, cs)
    | '+' :: cs => (false, cs)
    | cs => (false, cs)
  if cs = ['0'] then .ok 0
  else if cs.isEmpty then .error (.invalid text)
  else match terms text cs.length cs 0 with
    | .error p => .error p
    | .ok n =>
      if neg then .ok (Int64.ofInt (-(n : Int)))
      else if n > Nat.pow 2 63 - 1 then .error (.invalid text)
      else .ok (Int64.ofInt n)

end Duration

end HeadUnit
