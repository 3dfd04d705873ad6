/-!
# Versions

A version is three numbers. Reading stops at the first mismatch; what was not
read is zero.
-/

namespace HeadUnit

/-- Major, minor and patch number. -/
structure Version where
  major : Int
  minor : Int
  patch : Int
  deriving DecidableEq, Repr

namespace Version

/-- The blanks that may stand before a number: white space other than a new
    line. -/
def isBlank (c : Char) : Bool :=
  let n := c.toNat
  n = 0x09 || n = 0x0b || n = 0x0c || n = 0x0d || n = 0x20 || n = 0x85 || n = 0xa0
    || n = 0x1680 || (0x2000 ≤ n && n ≤ 0x200a) || n = 0x2028 || n = 0x2029 || n = 0x202f
    || n = 0x205f || n = 0x3000

/-- Reads a decimal number with an optional sign, after blanks. A number beyond
    64 bits is no number. -/
def number? (cs : List Char) : Option (Int × List Char) :=
  let cs := cs.dropWhile isBlank
  let (neg, cs) := match cs with
    | '-' :: cs => (true, cs)
    | '+' :: cs => (false, cs)
    | cs => (false, cs)
  let ds := cs.takeWhile Char.isDigit
  if ds.isEmpty then none
  else
    let n : Nat := ds.foldl (fun n c => n * 10 + (c.toNat - 48)) 0
    if neg && n ≤ Nat.pow 2 63 then some (-(n : Int), cs.drop ds.length)
    else if !neg && n < Nat.pow 2 63 then some (n, cs.drop ds.length)
    else none

/-- Takes a point off the front. -/
def point? : List Char → Option (List Char)
  | '.' :: cs => some cs
  | _ => none

/-- Reads a version. -/
def parse (text : String) : Version :=
  match number? text.toList with
  | none => ⟨0, 0, 0⟩
  | some (major, cs) =>
    match (point? cs).bind number? with
    | none => ⟨major, 0, 0⟩
    | some (minor, cs) =>
      match (point? cs).bind number? with
      | none => ⟨major, minor, 0⟩
      | some (patch, _) => ⟨major, minor, patch⟩

/-- Whether version `v` is at least `least`. -/
def isAtLeast (v least : Version) : Bool :=
  if v.major ≠ least.major then v.major > least.major
  else if v.minor ≠ least.minor then v.minor > least.minor
  else v.patch ≥ least.patch

end Version

/-- Whether the version `text` satisfies the least version `least`. -/
def versionCompatible (text least : String) : Bool :=
  (Version.parse text).isAtLeast (Version.parse least)

end HeadUnit
