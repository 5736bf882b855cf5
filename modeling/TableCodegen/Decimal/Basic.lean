import TableCodegen.Text

/-!
# Decimal numbers and the floats nearest to them

A decimal number is a sign, whole digits and a power of ten. The nearest binary float of 64 bits has
a significand of 53 bits at most and a binary exponent of at least −1074; of two floats equally near
the one with the even significand is meant. Beyond the largest float is infinity.

The fields of a positive float, written one behind the other, count up with its value: a significand
that is rounded up to 54 bits is the first of the next exponent, and infinity follows the largest.
So the fields are a sum, and no case is made for the carry.
-/

namespace TableCodegen

/-- A number in decimal: `digits` times ten to the power of `exponent`, with a sign. -/
structure Decimal where
  negative : Bool
  digits : Nat
  exponent : Int
  deriving DecidableEq, Repr

namespace Decimal

/-- A quotient rounded to the nearest natural number, a half to the even one. -/
def roundQuotient (n d : Nat) : Nat :=
  if d < 2 * (n % d) || (2 * (n % d) == d && n / d % 2 == 1) then n / d + 1 else n / d

/-- The fields of infinity: all bits of the exponent. -/
def infinityFields : Nat := 9218868437227405312

/-- The fields of the float nearest to a positive quotient. -/
def nearestFields (n d : Nat) : Nat :=
  let estimate : Int := n.log2 - d.log2
  let reaches : Bool :=
    if 0 ≤ estimate then Nat.shiftLeft d estimate.toNat ≤ n
    else d ≤ Nat.shiftLeft n (-estimate).toNat
  let exponent : Int := max (estimate - (if reaches then 52 else 53)) (-1074)
  let significand :=
    if 0 ≤ exponent then roundQuotient n (Nat.shiftLeft d exponent.toNat)
    else roundQuotient (Nat.shiftLeft n (-exponent).toNat) d
  min (Nat.shiftLeft (exponent + 1074).toNat 52 + significand) infinityFields

/-- The number of decimal places of a natural number that is not zero. -/
def places (n : Nat) : Nat := (Text.decimal n).length

/-- The fields of the float nearest to a decimal number without its sign. -/
def fields (d : Decimal) : Nat :=
  let magnitude : Int := places d.digits + d.exponent
  if d.digits = 0 ∨ magnitude < -400 then 0
  else if 400 < magnitude then infinityFields
  else if 0 ≤ d.exponent then nearestFields (d.digits * Nat.pow 10 d.exponent.toNat) 1
  else nearestFields d.digits (Nat.pow 10 (-d.exponent).toNat)

/-- The nearest float. -/
def toFloat (d : Decimal) : Float :=
  Float.ofBits (UInt64.ofNat (if d.negative then d.fields + 9223372036854775808 else d.fields))

/-- Positive and negative infinity. -/
def infinity (negative : Bool) : Float := toFloat ⟨negative, 1, 401⟩

/-- The float that is no number. -/
def notANumber : Float := Float.ofBits 9221120237041090560

/-- A text without a sign at its start, and whether the sign is a minus. -/
def splitSign : Text → Bool × Text
  | '-' :: cs => (true, cs)
  | '+' :: cs => (false, cs)
  | cs => (false, cs)

/-- The exponent that a text is, behind its letter. -/
def exponentOf? (t : Text) : Option Int :=
  match splitSign t with
  | (negative, digits) =>
    if digits ≠ [] ∧ digits.all Text.isDigit then
      some (if negative then -(Text.digitsValue digits) else Text.digitsValue digits)
    else none

/-- The decimal number that a text without a sign is: digits with a point among or around them, and
then an exponent behind the letter `e`. The point and the exponent may be missing. -/
def ofUnsigned? (negative : Bool) (t : Text) : Option Decimal :=
  let whole := t.takeWhile Text.isDigit
  let behind := t.drop whole.length
  let fraction := match behind with
    | '.' :: cs => cs.takeWhile Text.isDigit
    | _ => []
  let rest := match behind with
    | '.' :: cs => cs.drop fraction.length
    | cs => cs
  let digits := Text.digitsValue (whole ++ fraction)
  if whole.isEmpty && fraction.isEmpty then none
  else
    match rest with
    | [] => some ⟨negative, digits, -fraction.length⟩
    | c :: cs =>
      if c = 'e' ∨ c = 'E' then
        (exponentOf? cs).map fun exponent => ⟨negative, digits, exponent - fraction.length⟩
      else none

/-- The float that a text stands for: a decimal number, or one of the words `inf`, `infinity` and
`nan` in letters of either case, each with at most one sign. -/
def floatOfText? (t : Text) : Option Float :=
  match splitSign t with
  | (negative, unsigned) =>
    let word := unsigned.map Char.toLower
    if word = "inf".toList ∨ word = "infinity".toList then some (infinity negative)
    else if word = "nan".toList then some notANumber
    else (ofUnsigned? negative unsigned).map toFloat

end Decimal
end TableCodegen
