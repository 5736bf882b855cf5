import TableCodegen.Decimal.Basic

/-!
# The shortest decimal form of a float

Many decimal numbers have the same nearest float: they fill the neighbourhood of its value, which
reaches half way to the floats on both sides. The form of a float has the fewest digits that any
number of its neighbourhood has, and among those with that many digits it is the one nearest to the
value.

For one digit, two digits and so on the multiples of a power of ten on both sides of the value are
tested. If any multiple lies in the neighbourhood, one of these two does.
-/

namespace TableCodegen

/-- The numbers that a float is nearest to, from `low` to `high` with the float's own `value`
between them, all three over one denominator. -/
structure Neighbourhood where
  low : Nat
  value : Nat
  high : Nat
  denominator : Nat
  /-- Whether the ends belong to it. -/
  closed : Bool
  deriving Repr

namespace Neighbourhood

/-- The neighbourhood of a significand times a power of two. Below a power of two the floats are
twice as dense. -/
def ofSignificand (significand : Nat) (exponent : Int) : Neighbourhood :=
  let dense : Bool := significand == 4503599627370496 && exponent != -1074
  let low := 4 * significand - (if dense then 1 else 2)
  let scale := Nat.shiftLeft 1 (exponent - 2).toNat
  { low := low * scale
    value := 4 * significand * scale
    high := (4 * significand + 2) * scale
    denominator := Nat.shiftLeft 1 (2 - exponent).toNat
    closed := significand % 2 == 0 }

/-- Whether a multiple of a power of ten lies in a neighbourhood. -/
def admits (hood : Neighbourhood) (n : Nat) (exponent : Int) : Bool :=
  let number := n * Nat.pow 10 exponent.toNat * hood.denominator
  let scale := Nat.pow 10 (-exponent).toNat
  if hood.closed then hood.low * scale ≤ number && number ≤ hood.high * scale
  else hood.low * scale < number && number < hood.high * scale

/-- The multiple of a power of ten below the value of a neighbourhood, or the one above it:
whichever lies in the neighbourhood, and of both the nearer. -/
def pick (hood : Neighbourhood) (exponent : Int) : Option (Nat × Int) :=
  let value := hood.value * Nat.pow 10 (-exponent).toNat
  let unit := Nat.pow 10 exponent.toNat * hood.denominator
  let below := value / unit
  if 2 * (value % unit) < unit then
    if hood.admits below exponent then some (below, exponent)
    else if hood.admits (below + 1) exponent then some (below + 1, exponent)
    else none
  else if hood.admits (below + 1) exponent then some (below + 1, exponent)
  else if hood.admits below exponent then some (below, exponent)
  else none

/-- The power of ten of the first digit of the value. -/
def leading (hood : Neighbourhood) : Int :=
  if hood.denominator ≤ hood.value then Decimal.places (hood.value / hood.denominator) - 1
  else -(Decimal.places (hood.denominator / hood.value))

/-- The first form found, from one digit to seventeen. -/
def shortest? (hood : Neighbourhood) : Option (Nat × Int) :=
  (List.range 17).findSome? fun further : Nat => hood.pick (hood.leading - further)

end Neighbourhood

namespace Decimal

/-- A number without zeros at the end of its digits, `bound` of them at most. -/
def dropZeros : (bound : Nat) → Decimal → Decimal
  | 0, d => d
  | bound + 1, d =>
    if d.digits % 10 = 0 then dropZeros bound ⟨d.negative, d.digits / 10, d.exponent + 1⟩ else d

/-- The shortest decimal form of a float that is a number and not infinite. -/
def ofFloat (x : Float) : Decimal :=
  let bits := x.toBits.toNat
  let negative : Bool := 9223372036854775808 ≤ bits
  let fraction := bits % 4503599627370496
  let exponent := bits / 4503599627370496 % 2048
  let hood :=
    if exponent = 0 then Neighbourhood.ofSignificand fraction (-1074)
    else Neighbourhood.ofSignificand (4503599627370496 + fraction) (exponent - 1075)
  if exponent = 0 ∧ fraction = 0 then ⟨negative, 0, 0⟩
  else
    match hood.shortest? with
    | some (digits, power) => dropZeros 17 ⟨negative, digits, power⟩
    | none => ⟨negative, 0, 0⟩

/-- A decimal number without an exponent: all digits before the point, then those behind it. -/
def positional (d : Decimal) : Text :=
  let digits := Text.decimal d.digits
  let shown :=
    if 0 ≤ d.exponent then digits ++ List.replicate d.exponent.toNat '0'
    else
      let behind := (-d.exponent).toNat
      let padded := List.replicate (behind + 1 - digits.length) '0' ++ digits
      padded.take (padded.length - behind) ++ '.' :: padded.drop (padded.length - behind)
  if d.negative then '-' :: shown else shown

/-- A float in its shortest form, without an exponent. -/
def showFloat (x : Float) : Text :=
  if x.isNaN then "NaN".toList
  else if x.isInf then (if x < 0 then "-inf".toList else "inf".toList)
  else (ofFloat x).positional

end Decimal
end TableCodegen
