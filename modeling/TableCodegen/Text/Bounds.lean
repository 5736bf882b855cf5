/-!
# Sets of code points as alternating bounds

A set of numbers is written as the increasing list of the places where membership changes: the
first bound is the least member, the second the next number that is no member, and so on.
-/

namespace TableCodegen
namespace Text

/-- Whether a number lies in the set with the given bounds. -/
def withinBounds : List Nat → Nat → Bool
  | [], _ => false
  | bound :: bounds, n => bound ≤ n && !withinBounds bounds n

end Text
end TableCodegen
