import ModelStubs.Text

/-!
# Decimal numbers in double precision

A decimal number `digits · 10 ^ exponent` is rounded to the nearest double (`Double.ofDecimal?`) and a double is written
in decimal with the fewest digits that still read back as it (`Double.positional`). All arithmetic is on natural
numbers.
-/

namespace ModelStubs

/-- A finite, non-negative double, `mantissa · 2 ^ exponent`. The mantissa is below `2 ^ 53`, the exponent at least
`-1074`, and the mantissa is at least `2 ^ 52` unless the exponent is least. -/
structure Double where
  mantissa : Nat
  exponent : Int
  deriving DecidableEq, Repr

/-- A positive quotient of natural numbers. -/
structure Quotient where
  num : Nat
  den : Nat

namespace Quotient

/-- The quotient times a power of a base. -/
def scale (x : Quotient) (base : Nat) (power : Int) : Quotient :=
  match power with
  | .ofNat n => ⟨x.num * base.pow n, x.den⟩
  | .negSucc n => ⟨x.num, x.den * base.pow (n + 1)⟩

/-- Whether one quotient is at most another. -/
def le (x y : Quotient) : Bool := x.num * y.den ≤ y.num * x.den

/-- Whether one quotient is below another. -/
def lt (x y : Quotient) : Bool := x.num * y.den < y.num * x.den

/-- The whole part. -/
def floor (x : Quotient) : Nat := x.num / x.den

/-- The nearest whole number; a half goes to the even one. -/
def round (x : Quotient) : Nat :=
  let low := x.num / x.den
  let rest := 2 * (x.num % x.den)
  if rest < x.den then low else if x.den < rest then low + 1 else if low % 2 = 0 then low else low + 1

/-- The greatest power of two at most a positive quotient, as its exponent. -/
def log2 (x : Quotient) : Int :=
  let guess : Int := (Nat.log2 x.num : Int) - (Nat.log2 x.den : Int)
  if le (scale ⟨1, 1⟩ 2 guess) x then guess else guess - 1

end Quotient

namespace Double

/-- The least exponent of a double. -/
def leastExponent : Int := -1074

/-- The greatest exponent of a finite double. -/
def greatestExponent : Int := 971

/-- The double nearest to a quotient, of two the one with the even mantissa; none if the quotient is beyond the greatest
finite double. -/
def ofQuotient? (x : Quotient) : Option Double :=
  if x.num = 0 then some ⟨0, leastExponent⟩
  else
    let exponent := max (x.log2 - 52) leastExponent
    let mantissa := (x.scale 2 (-exponent)).round
    let result : Double := if mantissa = Nat.pow 2 53 then ⟨Nat.pow 2 52, exponent + 1⟩ else ⟨mantissa, exponent⟩
    if greatestExponent < result.exponent then none else some result

/-- The double nearest to `digits · 10 ^ exponent`; none if that is beyond the greatest finite double. Numbers that are
beyond any double, or nearer to zero than to any other, are told by their order of magnitude first. -/
def ofDecimal? (digits : Nat) (exponent : Int) : Option Double :=
  let order : Int := (Text.ofNat digits).length + exponent
  if digits = 0 ∨ order < -400 then some ⟨0, leastExponent⟩
  else if 400 < order then none
  else ofQuotient? (Quotient.scale ⟨digits, 1⟩ 10 exponent)

/-- The exact value. -/
def value (x : Double) : Quotient := Quotient.scale ⟨x.mantissa, 1⟩ 2 x.exponent

/-- Whether a quotient is rounded to a double: it lies between the midpoints to the neighbours, an end included if the
mantissa is even. Below a power of two the lower neighbour is half as far away. -/
def absorbs (x : Double) (y : Quotient) : Bool :=
  let upper := Quotient.scale ⟨2 * x.mantissa + 1, 1⟩ 2 (x.exponent - 1)
  let lower :=
    if x.mantissa = Nat.pow 2 52 ∧ leastExponent < x.exponent then
      Quotient.scale ⟨4 * x.mantissa - 1, 1⟩ 2 (x.exponent - 2)
    else Quotient.scale ⟨2 * x.mantissa - 1, 1⟩ 2 (x.exponent - 1)
  if x.mantissa % 2 = 0 then lower.le y && y.le upper else lower.lt y && y.lt upper

/-- The multiple of `10 ^ power` that the double absorbs, as the multiplier: of its two neighbours on that grid, the
nearer, and of two that are equally near the greater. -/
def onGrid? (x : Double) (power : Int) : Option Nat :=
  let scaled := x.value.scale 10 (-power)
  let low := scaled.floor
  let near := if 2 * (scaled.num % scaled.den) < scaled.den then low else low + 1
  let far := if near = low then low + 1 else low
  let hit (n : Nat) : Bool := n ≠ 0 && x.absorbs (Quotient.scale ⟨n, 1⟩ 10 power)
  if hit near then some near else if hit far then some far else none

/-- The first grid in a descent of `count` powers on which the double is absorbed. -/
def onGrids (x : Double) (power : Int) : Nat → Nat × Int
  | 0 => (0, 0)
  | count + 1 =>
    match x.onGrid? power with
    | some n => (n, power)
    | none => onGrids x (power - 1) count

/-- The fewest digits that read back as a double other than zero, with the power of ten that they count. No double is
above `10 ^ 309`, and seventeen digits below its first one suffice for each. -/
def shortest (x : Double) : Nat × Int :=
  let order : Int := (Text.ofNat x.value.floor).length
  if 1 ≤ x.value.floor then onGrids x order 19 else onGrids x 0 345

/-- Decimal digits times a power of ten, without an exponent and with at least one digit on either side of the point. -/
def positionalText (digits : Nat) : Int → Text
  | .ofNat n => Text.ofNat digits ++ List.replicate n '0' ++ ".0".toList
  | .negSucc n =>
    let places := n + 1
    let ds := Text.ofNat digits
    let padded := List.replicate (places + 1 - ds.length) '0' ++ ds
    padded.take (padded.length - places) ++ '.' :: padded.drop (padded.length - places)

/-- A double in positional decimal notation. -/
def positional (x : Double) : Text :=
  if x.mantissa = 0 then "0.0".toList else positionalText x.shortest.1 x.shortest.2

end Double

end ModelStubs
