import TableCodegen.Decimal.Basic
import TableCodegen.Proofs.JavaReading
import TableCodegen.Record

/-!
# How JSON is read

A JSON text is one value with white space around it, around its brackets and around its commas and
colons.

| form | value |
| --- | --- |
| `null`, `true`, `false` | the word |
| `-0.5e3` | a number: no zero in front of other digits, digits on both sides of the point |
| text between quotes | its characters; a backslash begins an escape, and no control stands bare |
| values between square brackets | an array |
| `"name": value` between braces | an object; its members are kept in their order |

An escape is one of `" \ / b f n r t`, or `u` and four hexadecimal digits, which are a UTF-16 code
unit: a surrogate has to be the first of a pair of such escapes.

Numbers are kept in decimal, so that none is rounded. What is in a bracket is read deeper by one
level, and the number of levels bounds the reader.
-/

namespace TableCodegen

open Text

/-- A JSON value. -/
inductive Json where
  | null
  | boolean (b : Bool)
  | number (n : Decimal)
  | string (t : Text)
  | array (items : List Json)
  | object (members : List (Text × Json))
  deriving Repr

namespace Json

/-- A text without the white space at its start. -/
def skipSpace (t : Text) : Text :=
  t.dropWhile fun c => c == ' ' || c == '\t' || c == '\n' || c == '\r'

/-! ### Strings -/

/-- The escapes that are one character behind the backslash. -/
def shortEscapes : List (Char × Char) := [
  ('"', '"'), ('\\', '\\'), ('/', '/'), ('b', '\x08'), ('f', '\x0c'), ('n', '\n'), ('r', '\r'),
  ('t', '\t')]

/-- The code unit that four hexadecimal digits are. -/
def readUnit : Text → Option (Nat × Text)
  | a :: b :: c :: d :: rest =>
    ([a, b, c, d].mapM Java.hexDigit?).map fun digits =>
      (digits.foldl (fun value digit => 16 * value + digit) 0, rest)
  | _ => none

/-- The character of an escape with hexadecimal digits, from behind its `u`. -/
def readUnicode (t : Text) : Option (Char × Text) := do
  let (unit, rest) ← readUnit t
  if unit < 0xD800 ∨ 0xDFFF < unit then return (Char.ofNat unit, rest)
  else if unit < 0xDC00 then do
    let (low, rest) ← (after? ['\\', 'u'] rest).bind readUnit
    if 0xDC00 ≤ low ∧ low ≤ 0xDFFF then
      return (Char.ofNat (0x10000 + (unit - 0xD800) * 0x400 + (low - 0xDC00)), rest)
    else none
  else none

/-- The character of an escape, from behind its backslash. -/
def readEscape : Text → Option (Char × Text)
  | [] => none
  | c :: cs =>
    match shortEscapes.lookup c with
    | some value => some (value, cs)
    | none => if c = 'u' then readUnicode cs else none

/-- Four digits are read, so what is left is shorter. -/
theorem length_lt_of_readUnit {t rest : Text} {unit : Nat} (h : readUnit t = some (unit, rest)) :
    rest.length < t.length := by
  unfold readUnit at h
  split at h
  · obtain ⟨digits, -, heq⟩ := Option.map_eq_some_iff.1 h
    obtain ⟨-, rfl⟩ := Prod.mk.inj heq
    simp only [List.length_cons]
    omega
  · cases h

/-- One escape is read, or the two of a pair, so what is left is shorter. The reader of a string
ends by this. -/
theorem length_lt_of_readUnicode {t rest : Text} {c : Char} (h : readUnicode t = some (c, rest)) :
    rest.length < t.length := by
  obtain ⟨⟨unit, behind⟩, hunit, h⟩ := Option.bind_eq_some_iff.1 h
  have hfirst := length_lt_of_readUnit hunit
  dsimp only at h
  split at h
  · obtain ⟨-, rfl⟩ := Prod.mk.inj (Option.some.inj h)
    exact hfirst
  · split at h
    · obtain ⟨⟨low, rest'⟩, hlow, h⟩ := Option.bind_eq_some_iff.1 h
      obtain ⟨marked, hmark, hlow⟩ := Option.bind_eq_some_iff.1 hlow
      have hsecond := length_lt_of_readUnit hlow
      rw [eq_append_of_after? hmark, List.length_append] at hfirst
      dsimp only at h
      split at h
      · obtain ⟨-, rfl⟩ := Prod.mk.inj (Option.some.inj h)
        omega
      · cases h
    · cases h

/-- An escape takes at least one character. -/
theorem length_lt_of_readEscape {t rest : Text} {c : Char} (h : readEscape t = some (c, rest)) :
    rest.length < t.length := by
  cases t with
  | nil => cases h
  | cons d ds =>
    rw [readEscape] at h
    split at h
    · obtain ⟨-, rfl⟩ := Prod.mk.inj (Option.some.inj h)
      exact Nat.lt_succ_self _
    · split at h
      · exact Nat.lt_succ_of_lt (length_lt_of_readUnicode h)
      · cases h

/-- The characters of a string from behind its opening quote, and what is left behind its closing
one. -/
def readString : Text → Option (Text × Text)
  | [] => none
  | c :: cs =>
    if c = '"' then some ([], cs)
    else if c.toNat < 0x20 then none
    else if c = '\\' then
      match _h : readEscape cs with
      | none => none
      | some (value, rest) => (readString rest).map fun read => (value :: read.1, read.2)
    else (readString cs).map fun read => (c :: read.1, read.2)
termination_by t => t.length
decreasing_by
  · have := length_lt_of_readEscape _h
    simp only [List.length_cons]
    omega
  · exact Nat.lt_succ_self _

/-! ### Words and numbers -/

/-- The words and their values. -/
def words : List (Text × Json) := [
  ("null".toList, .null), ("true".toList, .boolean true), ("false".toList, .boolean false)]

/-- A word, and the rest. -/
def readWord (t : Text) : Option (Json × Text) :=
  words.findSome? fun word => (after? word.1 t).map fun rest => (word.2, rest)

/-- Digits, at least one, and the rest. -/
def readDigits (t : Text) : Option (Text × Text) :=
  match t.takeWhile isDigit with
  | [] => none
  | digits => some (digits, t.drop digits.length)

/-- The digits behind a point, if there is one. -/
def readFraction : Text → Option (Text × Text)
  | '.' :: cs => readDigits cs
  | t => some ([], t)

/-- The power of ten behind its letter, if there is one. -/
def readExponent (t : Text) : Option (Int × Text) :=
  match t with
  | c :: cs =>
    if c = 'e' ∨ c = 'E' then
      match Decimal.splitSign cs with
      | (negative, unsigned) =>
        (readDigits unsigned).map fun read =>
          (if negative then -(digitsValue read.1) else digitsValue read.1, read.2)
    else some (0, t)
  | [] => some (0, [])

/-- A number without its sign. -/
def readUnsigned (negative : Bool) (t : Text) : Option (Decimal × Text) := do
  let (whole, rest) ← readDigits t
  if whole.head? = some '0' ∧ whole ≠ ['0'] then none
  else do
    let (fraction, rest) ← readFraction rest
    let (exponent, rest) ← readExponent rest
    return (⟨negative, digitsValue (whole ++ fraction), exponent - fraction.length⟩, rest)

/-- A number, and the rest. -/
def readNumber (t : Text) : Option (Decimal × Text) :=
  match t with
  | '-' :: cs => readUnsigned true cs
  | cs => readUnsigned false cs

/-! ### Brackets -/

/-- Items with commas between them up to a closing bracket, and what is left behind it. -/
def readItems {α : Type} (readItem : Text → Option (α × Text)) (closing : Char) :
    (bound : Nat) → Text → Option (List α × Text)
  | 0, _ => none
  | bound + 1, t =>
    match readItem t with
    | none => none
    | some (item, rest) =>
      match skipSpace rest with
      | [] => none
      | c :: cs =>
        if c = closing then some ([item], cs)
        else if c = ',' then
          (readItems readItem closing bound cs).map fun read => (item :: read.1, read.2)
        else none

/-- What is in a bracket, from behind its opening on, and what is left behind its closing. -/
def readBracket {α : Type} (readItem : Text → Option (α × Text)) (closing : Char) (t : Text) :
    Option (List α × Text) :=
  match skipSpace t with
  | [] => none
  | c :: cs => if c = closing then some ([], cs) else readItems readItem closing t.length t

/-- A member of an object, and the rest. -/
def readMember (readValue : Text → Option (Json × Text)) (t : Text) :
    Option ((Text × Json) × Text) :=
  match skipSpace t with
  | '"' :: cs => do
    let (name, rest) ← readString cs
    let rest ← after? [':'] (skipSpace rest)
    let (value, rest) ← readValue rest
    return ((name, value), rest)
  | _ => none

/-- A value of at most so many levels, and the rest. -/
def readValue : (levels : Nat) → Text → Option (Json × Text)
  | 0, _ => none
  | levels + 1, t =>
    match skipSpace t with
    | '"' :: cs => (readString cs).map fun read => (.string read.1, read.2)
    | '[' :: cs =>
      (readBracket (readValue levels) ']' cs).map fun read => (.array read.1, read.2)
    | '\x7b' :: cs =>
      (readBracket (readMember (readValue levels)) '\x7d' cs).map fun read =>
        (.object read.1, read.2)
    | scalar =>
      (readWord scalar).or ((readNumber scalar).map fun read => (.number read.1, read.2))

/-- The value that a text is. Every level takes a character at least. -/
def parse? (t : Text) : Option Json :=
  match readValue (t.length + 1) t with
  | some (value, rest) => if skipSpace rest = [] then some value else none
  | none => none

/-- Nested brackets, an escape of each kind and a pair of surrogates. -/
example : parse? " [\x7b\"a\\n\" : [-0.5e3, true]\x7d,\"\\ud83d\\ude00\\u0041\\/\" , []] ".toList =
    some (.array [.object [("a\n".toList, .array [.number ⟨true, 5, 2⟩, .boolean true])],
      .string "😀A/".toList, .array []]) := by cbv

end Json
end TableCodegen
