/-!
# Time stamps

A stamp is a civil date and time of day with the offset of its zone. It is
written as `2006-01-02T15:04:05.999999999Z07:00`: trailing zeros of the
fraction are dropped, and a zero offset is written `Z`.

* `Stamp.parse?` reads that form. It also takes an hour of one digit, a comma
  before the fraction, and offsets of up to 24 hours and 60 minutes; digits of
  the fraction beyond the ninth are ignored.
* `Stamp.ofUnixNanos` is the stamp of an instant, without offset.
-/

namespace HeadUnit

/-- A civil date and time with the offset of its zone in seconds. -/
structure Stamp where
  year : Int
  month : Nat
  day : Nat
  hour : Nat
  minute : Nat
  second : Nat
  nanos : Nat
  offset : Int
  deriving DecidableEq, Repr

namespace Stamp

/-- The stamp that marks an unset time. -/
def unset : Stamp := ⟨1, 1, 1, 0, 0, 0, 0, 0⟩

/-- Days from 1970-01-01 to a civil date; years begin in March here, so that a
    leap day is the last of its year. -/
def daysOfCivil (year : Int) (month day : Nat) : Int :=
  let y := if month ≤ 2 then year - 1 else year
  let era := y.fdiv 400
  let yoe := y - era * 400
  let mp : Int := (month + 9) % 12
  let doy := (153 * mp + 2) / 5 + day - 1
  let doe := yoe * 365 + yoe / 4 - yoe / 100 + doy
  era * 146097 + doe - 719468

/-- The civil date that lies `days` after 1970-01-01. -/
def civilOfDays (days : Int) : Int × Nat × Nat :=
  let z := days + 719468
  let era := z.fdiv 146097
  let doe := z - era * 146097
  let yoe := (doe - doe / 1460 + doe / 36524 - doe / 146096) / 365
  let doy := doe - (365 * yoe + yoe / 4 - yoe / 100)
  let mp := (5 * doy + 2) / 153
  let day := doy - (153 * mp + 2) / 5 + 1
  let month := if mp < 10 then mp + 3 else mp - 9
  (yoe + era * 400 + (if month ≤ 2 then 1 else 0), month.toNat, day.toNat)

/-- Seconds since 1970-01-01T00:00:00Z. -/
def unixSeconds (s : Stamp) : Int :=
  daysOfCivil s.year s.month s.day * 86400 + s.hour * 3600 + s.minute * 60 + s.second - s.offset

/-- Whether the stamp is the instant of the unset one. -/
def isUnset (s : Stamp) : Bool :=
  s.unixSeconds == unset.unixSeconds && s.nanos == 0

/-- The stamp of an instant given in nanoseconds since 1970. -/
def ofUnixNanos (t : Int) : Stamp :=
  let secs := t.fdiv 1000000000
  let days := secs.fdiv 86400
  let rest := (secs - days * 86400).toNat
  let (year, month, day) := civilOfDays days
  ⟨year, month, day, rest / 3600, rest / 60 % 60, rest % 60, (t - secs * 1000000000).toNat, 0⟩

/-- `n` in at least `width` decimal digits. -/
def padded (width n : Nat) : String :=
  let ds := toString n
  String.ofList (List.replicate (width - ds.length) '0') ++ ds

/-- The fraction of a second, without trailing zeros. -/
def fraction (nanos : Nat) : String :=
  let ds := ((padded 9 nanos).toList.reverse.dropWhile (· = '0')).reverse
  if ds.isEmpty then "" else "." ++ String.ofList ds

/-- The offset of the zone. -/
def zone (offset : Int) : String :=
  if offset = 0 then "Z"
  else
    let minutes := offset.tdiv 60
    (if minutes < 0 then "-" else "+")
      ++ padded 2 (minutes.natAbs / 60) ++ ":" ++ padded 2 (minutes.natAbs % 60)

/-- The text of a stamp. -/
def text (s : Stamp) : String :=
  (if s.year < 0 then "-" else "") ++ padded 4 s.year.natAbs
    ++ "-" ++ padded 2 s.month ++ "-" ++ padded 2 s.day
    ++ "T" ++ padded 2 s.hour ++ ":" ++ padded 2 s.minute ++ ":" ++ padded 2 s.second
    ++ fraction s.nanos ++ zone s.offset

/-- The days of a month. -/
def daysIn (year month : Nat) : Nat :=
  if month = 2 then
    if year % 4 = 0 ∧ (year % 100 ≠ 0 ∨ year % 400 = 0) then 29 else 28
  else if month = 4 ∨ month = 6 ∨ month = 9 ∨ month = 11 then 30
  else 31

/-- The value of a decimal digit. -/
def digit? (c : Char) : Option Nat :=
  if c.isDigit then some (c.toNat - 48) else none

/-- Takes two digits off the front. -/
def two? : List Char → Option (Nat × List Char)
  | a :: b :: cs => do return (10 * (← digit? a) + (← digit? b), cs)
  | _ => none

/-- Takes one or two digits off the front. -/
def oneOrTwo? : List Char → Option (Nat × List Char)
  | a :: b :: cs =>
    match digit? a, digit? b with
    | some x, some y => some (10 * x + y, cs)
    | some x, none => some (x, b :: cs)
    | none, _ => none
  | [a] => (digit? a).map (·, [])
  | [] => none

/-- Takes four digits off the front. -/
def four? (cs : List Char) : Option (Nat × List Char) := do
  let (a, cs) ← two? cs
  let (b, cs) ← two? cs
  return (100 * a + b, cs)

/-- Takes the character `c` off the front. -/
def literal? (c : Char) : List Char → Option (List Char)
  | d :: cs => if c = d then some cs else none
  | [] => none

/-- Takes a fraction of a second off the front, if there is one. -/
def nanos? (cs : List Char) : Nat × List Char :=
  match cs with
  | p :: d :: _ =>
    if (p = '.' ∨ p = ',') ∧ d.isDigit then
      let ds := (cs.drop 1).takeWhile Char.isDigit
      let kept := ds.take 9
      (kept.foldl (fun n c => n * 10 + (c.toNat - 48)) 0 * Nat.pow 10 (9 - kept.length),
        (cs.drop 1).dropWhile Char.isDigit)
    else (0, cs)
  | _ => (0, cs)

/-- Reads the offset that ends a stamp. -/
def zone? : List Char → Option Int
  | ['Z'] => some 0
  | sign :: cs => do
    let (h, cs) ← two? cs
    let cs ← literal? ':' cs
    let (m, cs) ← two? cs
    let size : Int := (h * 60 + m) * 60
    if cs.isEmpty ∧ h ≤ 24 ∧ m ≤ 60 then
      if sign = '+' then some size
      else if sign = '-' then some (-size)
      else none
    else none
  | [] => none

/-- Reads a stamp. -/
def parse? (s : List Char) : Option Stamp := do
  let (year, cs) ← four? s
  let cs ← literal? '-' cs
  let (month, cs) ← two? cs
  let cs ← literal? '-' cs
  let (day, cs) ← two? cs
  let cs ← literal? 'T' cs
  let (hour, cs) ← oneOrTwo? cs
  let cs ← literal? ':' cs
  let (minute, cs) ← two? cs
  let cs ← literal? ':' cs
  let (second, cs) ← two? cs
  let (nanos, cs) := nanos? cs
  let offset ← zone? cs
  if 1 ≤ month ∧ month ≤ 12 ∧ 1 ≤ day ∧ day ≤ daysIn year month
      ∧ hour < 24 ∧ minute < 60 ∧ second < 60 then
    some ⟨year, month, day, hour, minute, second, nanos, offset⟩
  else none

end Stamp

end HeadUnit
