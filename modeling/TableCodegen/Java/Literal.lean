import TableCodegen.Text

/-!
# Java literals

A string literal stands between double quotes, with a backslash before a quote or a backslash and
every other character as it is. An array initializer holds such literals between commas.
-/

namespace TableCodegen
namespace Java

/-- The characters of a string literal between its quotes. -/
def escape : Text → Text
  | [] => []
  | c :: cs => if c = '"' ∨ c = '\\' then '\\' :: c :: escape cs else c :: escape cs

/-- A string literal. -/
def quote (s : Text) : Text := '"' :: escape s ++ ['"']

/-- An array initializer for strings, in the order of the items. -/
def arrayOf (items : List Text) : Text :=
  "new String[]\x7b".toList ++ Text.joinWith [','] (items.map quote) ++ ['\x7d']

end Java
end TableCodegen
