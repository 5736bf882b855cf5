import TableCodegen.Text

/-!
# White space

The characters with the property `White_Space`: twenty-five code points, of which six are ASCII.
-/

namespace TableCodegen
namespace Text

/-- Whether a character is white space. -/
def isBlank (c : Char) : Bool :=
  let n := c.toNat
  (0x9 ≤ n && n ≤ 0xD) || n == 0x20 || n == 0x85 || n == 0xA0 || n == 0x1680 ||
    (0x2000 ≤ n && n ≤ 0x200A) || n == 0x2028 || n == 0x2029 || n == 0x202F || n == 0x205F ||
    n == 0x3000

/-- A text without the white space at its ends. -/
def trimBlank (t : Text) : Text := trim isBlank t

/-- Whether a text holds nothing but white space. -/
def allBlank (t : Text) : Bool := t.all isBlank

end Text
end TableCodegen
