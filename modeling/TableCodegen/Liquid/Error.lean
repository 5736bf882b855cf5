import TableCodegen.Text

/-!
# What can be wrong with a template

Faults of the text of a template come first, then those that show when it is rendered.

Three faults are **fatal**: they end the program that reads the template, and a comment does not
hide them.
-/

namespace TableCodegen
namespace Liquid

/-- Why a template does not parse or does not render. -/
inductive Error where
  /-- Text that looks like an output or a tag and is neither. -/
  | malformed (source : Text)
  | unknownTag (name : Text)
  | unknownFilter (name : Text)
  /-- A tag lacks a parameter. -/
  | missingParameter
  /-- A tag has a parameter that it does not take. -/
  | unexpectedParameter
  /-- A filter has too few or too many arguments. -/
  | badFilter (name : Text)
  | unclosedBlock
  /-- A whole number has more than 64 bits. -/
  | hugeNumber (n : Int)
  /-- Elements were asked for behind the end of the text. -/
  | pastEnd
  /-- The line of malformed text cannot be told. -/
  | untoldLine
  | unknownVariable
  | unexpectedKind
  deriving DecidableEq, Repr

namespace Error

/-- Whether a fault ends the program. -/
def isFatal : Error → Bool
  | .hugeNumber _ | .pastEnd | .untoldLine => true
  | _ => false

/-- The fault in words. -/
def message : Error → Text
  | .malformed source => "invalid template text: ".toList ++ source
  | .unknownTag name => "unknown tag: ".toList ++ name
  | .unknownFilter name => "unknown filter: ".toList ++ name
  | .missingParameter => "missing tag parameter".toList
  | .unexpectedParameter => "unexpected tag parameter".toList
  | .badFilter name => "invalid arguments of the filter ".toList ++ name
  | .unclosedBlock => "unclosed block".toList
  | .hugeNumber n => "number out of range: ".toList ++ Text.decimalInt n
  | .pastEnd => "template read past its end".toList
  | .untoldLine => "malformed line cannot be shown".toList
  | .unknownVariable => "unknown variable".toList
  | .unexpectedKind => "value of an unexpected kind".toList

end Error
end Liquid
end TableCodegen
