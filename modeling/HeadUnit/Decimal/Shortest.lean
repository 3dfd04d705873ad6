/-!
# Shortest decimals

A quotient is rounded to a binary number of 53 bits, and written with the
fewest digits that still round to it.

* `Binary.round` is the nearest binary number, a tie going to the even one.
* `shortest` looks at decimals of 1, 2, … 17 digits. Of each length the two
  neighbours of the number are tried; the first length with a hit wins, and of
  two hits the nearer one.
-/

namespace HeadUnit.Decimal

/-- The number `mantissa * 2 ^ exponent`, with a mantissa of 53 bits. -/
structure Binary where
  mantissa : Nat
  exponent : Int
  deriving DecidableEq, Repr

/-- A nonnegative fraction. -/
structure Ratio where
  num : Nat
  den : Nat
  deriving Repr

namespace Ratio

/-- The fraction times a power of a base. -/
def scale (r : Ratio) (base : Nat) (e : Int) : Ratio :=
  if 0 ≤ e then ⟨r.num * Nat.pow base e.toNat, r.den⟩ else ⟨r.num, r.den * Nat.pow base (-e).toNat⟩

/-- The whole part. -/
def floor (r : Ratio) : Nat := r.num / r.den

/-- The nearest whole number, a tie going to the even one. -/
def roundEven (r : Ratio) : Nat :=
  let q := r.floor
  let twice := 2 * (r.num % r.den)
  if twice < r.den then q
  else if r.den < twice then q + 1
  else if q % 2 = 0 then q else q + 1

def lt (a b : Ratio) : Bool := a.num * b.den < b.num * a.den

def le (a b : Ratio) : Bool := a.num * b.den ≤ b.num * a.den

end Ratio

/-- The nearest binary number to a positive fraction. -/
def Binary.round (r : Ratio) : Binary :=
  let guess : Int := (Nat.log2 r.num : Int) - (Nat.log2 r.den : Int) - 52
  let e := if (r.scale 2 (-guess)).floor < Nat.pow 2 52 then guess - 1 else guess
  let m := (r.scale 2 (-e)).roundEven
  if m = Nat.pow 2 53 then ⟨Nat.pow 2 52, e + 1⟩ else ⟨m, e⟩

/-- The value of a binary number. -/
def Binary.value (b : Binary) : Ratio := Ratio.scale ⟨b.mantissa, 1⟩ 2 b.exponent

/-- Whether a fraction rounds to a binary number: it lies between the midpoints
    to the neighbours, which themselves round to it if it is even. -/
def Binary.holds (b : Binary) (r : Ratio) : Bool :=
  let low : Ratio :=
    if b.mantissa = Nat.pow 2 52 then Ratio.scale ⟨4 * b.mantissa - 1, 4⟩ 2 b.exponent
    else Ratio.scale ⟨2 * b.mantissa - 1, 2⟩ 2 b.exponent
  let high := Ratio.scale ⟨2 * b.mantissa + 1, 2⟩ 2 b.exponent
  if b.mantissa % 2 = 0 then low.le r && r.le high else low.lt r && r.lt high

/-- How many digits stand before the point of a fraction that is at least one;
    minus the zeros after the point for a smaller one. -/
def magnitude (r : Ratio) : Int :=
  if r.den ≤ r.num then ((toString r.floor).length : Int)
  else
    let zeros := (List.range 400).find? (fun k => r.den ≤ r.num * Nat.pow 10 (k + 1))
    0 - (zeros.getD 0 : Int)

/-- The decimal `digits * 10 ^ exponent`. -/
structure Scientific where
  digits : Nat
  exponent : Int
  deriving DecidableEq, Repr

/-- The decimal of `n` digits, the last with the exponent `e`; one digit more
    comes from a carry and is one followed by zeros. -/
def Scientific.of (n digits : Nat) (e : Int) : Scientific :=
  if digits = Nat.pow 10 n then ⟨1, e + n⟩ else ⟨digits, e⟩

/-- The neighbour of a number with `n` digits that rounds to it, if there is one. -/
def neighbour? (b : Binary) (v : Ratio) (mag : Int) (n : Nat) : Option Scientific :=
  let e := mag - n
  let below := (v.scale 10 (-e)).floor
  let point (d : Nat) : Ratio := Ratio.scale ⟨d, 1⟩ 10 e
  match b.holds (point below), b.holds (point (below + 1)) with
  | true, true =>
    let r := v.scale 10 (-e)
    some (Scientific.of n (if 2 * (r.num % r.den) ≤ r.den then below else below + 1) e)
  | true, false => some (Scientific.of n below e)
  | false, true => some (Scientific.of n (below + 1) e)
  | false, false => none

/-- The shortest decimal that rounds to a binary number. -/
def shortest (b : Binary) : Scientific :=
  let v := b.value
  let mag := magnitude v
  ((List.range 17).findSome? fun n => neighbour? b v mag (n + 1)).getD ⟨0, 0⟩

/-- A decimal written out, with a point only if digits come after it. -/
def Scientific.text (d : Scientific) : String :=
  let ds := toString d.digits
  if 0 ≤ d.exponent then ds ++ "".pushn '0' d.exponent.toNat
  else
    let places := (-d.exponent).toNat
    let ds := ("".pushn '0' (places + 1 - ds.length) ++ ds).toList
    String.ofList (ds.take (ds.length - places)) ++ "."
      ++ String.ofList (ds.drop (ds.length - places))

/-- The quotient of a whole number by a positive one, in binary floating point,
    as its shortest decimal. The number itself is rounded first. -/
def quotientText (n : Int) (den : Nat) : String :=
  if n = 0 then "0"
  else
    let whole := (Binary.round ⟨n.natAbs, 1⟩).value
    let t := (shortest (Binary.round ⟨whole.num, whole.den * den⟩)).text
    if n < 0 then "-" ++ t else t

end HeadUnit.Decimal
