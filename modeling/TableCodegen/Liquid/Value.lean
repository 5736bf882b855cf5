import TableCodegen.Decimal.Shortest
import TableCodegen.Record
import TableCodegen.Text.Blank

/-!
# Values in templates

| value | shown as | false in a condition |
| --- | --- | --- |
| `nil` | nothing | yes |
| `bool` | `true` or `false` | `false` only |
| `int` | decimal | no |
| `float` | shortest decimal form | no |
| `text` | itself | no |
| `array` | its items, joined with nothing | no |
| `object` | names and contents, joined with nothing | no |
| `empty`, `blank` | nothing | yes |

The values `empty` and `blank` are states: each is equal to all values that are in it. Empty are nil
and the text, array and object without content; blank are besides a text of white space and `false`.
A boolean is equal to every value that counts as it in a condition, states excepted. Other values of
different kinds are never equal, but a whole number is equal to the float of its size.

Numbers, texts, booleans, arrays and objects have an order within their kind, that of arrays and
objects is lexicographic.
-/

namespace TableCodegen
namespace Liquid

/-- A value that a template handles. -/
inductive Value where
  | nil
  | bool (b : Bool)
  | int (n : Int)
  | float (x : Float)
  | text (t : Text)
  | array (items : List Value)
  | object (members : List (Text × Value))
  | empty
  | blank
  deriving Repr, Inhabited

namespace Value

mutual

/-- A value as a template shows it. -/
def display : Value → Text
  | .nil => []
  | .bool true => "true".toList
  | .bool false => "false".toList
  | .int n => Text.decimalInt n
  | .float x => Decimal.showFloat x
  | .text t => t
  | .array items => displayItems items
  | .object members => displayMembers members
  | .empty => []
  | .blank => []

/-- The items of an array, one after the other. -/
def displayItems : List Value → Text
  | [] => []
  | item :: items => display item ++ displayItems items

/-- The members of an object, one after the other. -/
def displayMembers : List (Text × Value) → Text
  | [] => []
  | (name, content) :: members => name ++ display content ++ displayMembers members

end

/-- Whether a value counts as true. -/
def isTruthy : Value → Bool
  | .nil | .empty | .blank => false
  | .bool b => b
  | _ => true

/-- Whether a value is empty. -/
def isEmpty : Value → Bool
  | .nil | .empty | .blank => true
  | .text t => t.isEmpty
  | .array items => items.isEmpty
  | .object members => members.isEmpty
  | .bool _ | .int _ | .float _ => false

/-- Whether a value is blank. -/
def isBlank : Value → Bool
  | .text t => Text.allBlank t
  | .bool b => !b
  | value => value.isEmpty

/-- Whether a default takes the place of a value. -/
def isDefault : Value → Bool
  | .bool b => !b
  | value => value.isEmpty

/-- The text of a boolean, number or text. -/
def scalar? : Value → Option Text
  | .bool b => some (display (.bool b))
  | .int n => some (display (.int n))
  | .float x => some (display (.float x))
  | .text t => some t
  | _ => none

/-- The number that a text is the decimal form of, with at most one sign; it has 64 bits. -/
def intOfText? (t : Text) : Option Int :=
  match Decimal.splitSign t with
  | (negative, digits) =>
    let n : Int := if negative then -(Text.digitsValue digits) else Text.digitsValue digits
    if digits ≠ [] ∧ digits.all Text.isDigit ∧ Text.fits64 n then some n else none

/-- The whole number that a number or a text stands for. -/
def int? : Value → Option Int
  | .int n => some n
  | .text t => intOfText? t
  | _ => none

/-- The float nearest to a whole number of 64 bits. -/
def floatOfInt (n : Int) : Float := (Int64.ofInt n).toFloat

/-- The float that a number or a text stands for. -/
def float? : Value → Option Float
  | .int n => some (floatOfInt n)
  | .float x => some x
  | .text t => Decimal.floatOfText? t
  | _ => none

/-- What an operation makes of two numbers: a whole number, reduced to 64 bits, if both are whole,
and a float otherwise. -/
def combine? (whole : Int → Int → Int) (real : Float → Float → Float) (left right : Value) :
    Option Value :=
  match left.int?, right.int? with
  | some m, some n => some (.int ((whole m n).bmod 18446744073709551616))
  | _, _ =>
    match left.float?, right.float? with
    | some x, some y => some (.float (real x y))
    | _, _ => none

/-- Whether two values that are neither states nor both arrays or objects are equal. -/
def sameScalar : Value → Value → Bool
  | .nil, .nil => true
  | .bool a, other => a == other.isTruthy
  | other, .bool b => other.isTruthy == b
  | .int m, .int n => m == n
  | .int m, .float y => floatOfInt m == y
  | .float x, .int n => x == floatOfInt n
  | .float x, .float y => x == y
  | .text s, .text t => s == t
  | _, _ => false

mutual

/-- Whether two values are equal. -/
def same : Value → Value → Bool
  | .empty, other => other.isEmpty
  | .blank, other => other.isBlank
  | other, .empty => other.isEmpty
  | other, .blank => other.isBlank
  | .array xs, .array ys => sameItems xs ys
  | .object ms, .object ns => ms.length == ns.length && membersWithin ms ns
  | left, right => sameScalar left right

/-- Whether two lists have equal items in equal places. -/
def sameItems : List Value → List Value → Bool
  | [], [] => true
  | x :: xs, y :: ys => same x y && sameItems xs ys
  | _, _ => false

/-- Whether all members of one object are members of another. -/
def membersWithin : List (Text × Value) → List (Text × Value) → Bool
  | [], _ => true
  | (name, content) :: ms, ns =>
    (match ns.lookup name with
      | some other => same content other
      | none => false) && membersWithin ms ns

end

/-- The order of two floats, unless one is no number. -/
def orderFloats? (x y : Float) : Option Ordering :=
  if x < y then some .lt else if x == y then some .eq else if y < x then some .gt else none

/-- The order of two texts. -/
def orderTexts (s t : Text) : Ordering :=
  if s = t then .eq else if Text.precedes s t then .lt else .gt

mutual

/-- The order of two values of one kind. -/
def order? : Value → Value → Option Ordering
  | .bool a, .bool b => some (compare a.toNat b.toNat)
  | .int m, .int n => some (compare m n)
  | .int m, .float y => orderFloats? (floatOfInt m) y
  | .float x, .int n => orderFloats? x (floatOfInt n)
  | .float x, .float y => orderFloats? x y
  | .text s, .text t => some (orderTexts s t)
  | .array xs, .array ys => orderItems? xs ys
  | .object ms, .object ns => orderMembers? ms ns
  | _, _ => none

/-- The lexicographic order of two lists of values. -/
def orderItems? : List Value → List Value → Option Ordering
  | [], [] => some .eq
  | [], _ :: _ => some .lt
  | _ :: _, [] => some .gt
  | x :: xs, y :: ys =>
    match order? x y with
    | some .eq => orderItems? xs ys
    | decided => decided

/-- The lexicographic order of the members of two objects, names before contents. -/
def orderMembers? : List (Text × Value) → List (Text × Value) → Option Ordering
  | [], [] => some .eq
  | [], _ :: _ => some .lt
  | _ :: _, [] => some .gt
  | (m, x) :: ms, (n, y) :: ns =>
    match orderTexts m n with
    | .eq =>
      match order? x y with
      | some .eq => orderMembers? ms ns
      | decided => decided
    | decided => some decided

end

/-- The item at an index; a negative index counts from the end. -/
def itemAt? (items : List Value) (index : Int) : Option Value :=
  if 0 ≤ index then items[index.toNat]?
  else if -index ≤ items.length then items[(items.length + index).toNat]?
  else none

/-- What a value holds under a name or index: items and `first`, `last` and `size` of an array,
members and `size` of an object, the bytes of anything shown as a text under `size`. -/
def member? (value : Value) (key : Value) : Option Value :=
  match key.scalar? with
  | none => none
  | some name =>
    match value with
    | .array items =>
      match key.int? with
      | some index => itemAt? items index
      | none =>
        if name = "first".toList then items.head?
        else if name = "last".toList then items.getLast?
        else if name = "size".toList then some (.int items.length)
        else none
    | .object members =>
      match members.lookup name with
      | some content => some content
      | none => if name = "size".toList then some (.int members.length) else none
    | other =>
      match other.scalar? with
      | some shown => if name = "size".toList then some (.int (Text.byteSize shown)) else none
      | none => none

/-- The content of a record's field. -/
def ofContent : Content → Value
  | .text t => .text t
  | .number n => .int n
  | .flag b => .bool b

/-- The value of a number with so many of its digits behind the point. Whole numbers have 64 bits
with their sign; those that have 64 bits only without one are no values, and all others are
floats. -/
def ofNumber? (digits : Int) (places : Nat) : Option Value :=
  if places = 0 ∧ Text.fits64 digits then some (.int digits)
  else if places = 0 ∧ 0 ≤ digits ∧ digits < 18446744073709551616 then none
  else some (.float (Decimal.toFloat ⟨digits < 0, digits.natAbs, -places⟩))

/-- A record as an object. -/
def ofRecord (record : Record) : Value :=
  .object (record.map fun field => (field.1, ofContent field.2))

end Value
end Liquid
end TableCodegen
