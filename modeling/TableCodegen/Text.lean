/-!
# Text

A text is a list of characters. Lengths and places are counted in **bytes** of its UTF-8 form:
a place is a character boundary when some prefix of the text has that many bytes.

| function | answer |
| --- | --- |
| `byteSize` | bytes of the UTF-8 form |
| `splitAtByte?` | the two parts at a place, if it is a boundary |
| `slice?` | the part between two places, if both are boundaries |
| `splitOnText` | the parts between the occurrences of a pattern, found from the left |
| `replaceAll` | those parts joined by a replacement |

`decimal` and `decimalInt` write numbers; `utf8` and `ofUtf8?` go to bytes and back.
-/

namespace TableCodegen

/-- A text, character by character. -/
abbrev Text := List Char

/-- The content of a file, byte by byte. -/
abbrev Bytes := List UInt8

namespace Text

/-- The number of bytes of the UTF-8 form. -/
def byteSize : Text → Nat
  | [] => 0
  | c :: cs => c.utf8Size + byteSize cs

@[simp] theorem byteSize_nil : byteSize [] = 0 := rfl

@[simp] theorem byteSize_cons (c : Char) (cs : Text) :
    byteSize (c :: cs) = c.utf8Size + byteSize cs := rfl

/-- Sizes add up, whether or not the parts meet at a character that takes several bytes. -/
@[simp] theorem byteSize_append (s t : Text) : byteSize (s ++ t) = byteSize s + byteSize t := by
  induction s with
  | nil => simp
  | cons c cs ih => simp [ih, Nat.add_assoc]

/-- The parts of a text before and after its first `n` bytes; `none` when place `n` is inside a
character or beyond the end. -/
def splitAtByte? : Nat → Text → Option (Text × Text)
  | 0, cs => some ([], cs)
  | _ + 1, [] => none
  | n + 1, c :: cs =>
    if c.utf8Size ≤ n + 1 then
      (splitAtByte? (n + 1 - c.utf8Size) cs).map fun parts => (c :: parts.1, parts.2)
    else none

/-- Cutting behind a prefix gives back the prefix and the rest. -/
theorem splitAtByte?_append (s t : Text) : splitAtByte? (byteSize s) (s ++ t) = some (s, t) := by
  induction s with
  | nil => simp [splitAtByte?]
  | cons c cs ih =>
    have hpos : 0 < c.utf8Size := c.utf8Size_pos
    obtain ⟨m, hm⟩ : ∃ m, byteSize (c :: cs) = m + 1 :=
      ⟨c.utf8Size + byteSize cs - 1, by simp only [byteSize_cons]; omega⟩
    have hrest : m + 1 - c.utf8Size = byteSize cs := by
      rw [← hm]; simp
    rw [List.cons_append, hm, splitAtByte?, if_pos (by rw [← hm]; simp), hrest, ih]
    rfl

/-- The part of a text from place `start` up to place `stop`; `none` when one of them is not a
boundary or they are out of order. -/
def slice? (start stop : Nat) (t : Text) : Option Text :=
  if start ≤ stop then
    (splitAtByte? start t).bind fun parts => (splitAtByte? (stop - start) parts.2).map (·.1)
  else none

/-- The number of line feeds in a text. -/
def lineFeeds (t : Text) : Nat := t.count '\n'

/-- A character put in front of the first of several parts. -/
def consHead (c : Char) : List Text → List Text
  | [] => [[c]]
  | part :: parts => (c :: part) :: parts

/-- The parts of a text between the occurrences of `p :: ps`, passing over `skip` characters
first. -/
def splitFrom (p : Char) (ps : Text) : Nat → Text → List Text
  | _, [] => [[]]
  | skip + 1, _ :: cs => splitFrom p ps skip cs
  | 0, c :: cs =>
    if (p :: ps).isPrefixOf (c :: cs) then [] :: splitFrom p ps ps.length cs
    else consHead c (splitFrom p ps 0 cs)

/-- The parts of a text between the occurrences of a pattern, found from the left and not
overlapping. The empty pattern occurs at every boundary, so it leaves the single characters
between two empty parts. -/
def splitOnText (pattern t : Text) : List Text :=
  match pattern with
  | [] => [] :: t.map (fun c => [c]) ++ [[]]
  | p :: ps => splitFrom p ps 0 t

/-- The parts one after the other, with a separator between neighbours. -/
def joinWith (separator : Text) (parts : List Text) : Text := separator.intercalate parts

/-- Every occurrence of a pattern replaced. -/
def replaceAll (pattern replacement t : Text) : Text :=
  joinWith replacement (splitOnText pattern t)

/-- What follows an opening part, if the text starts with it. -/
def after? : Text → Text → Option Text
  | [], t => some t
  | _ :: _, [] => none
  | p :: ps, c :: cs => if p = c then after? ps cs else none

/-- What follows a part is what stands behind it. -/
theorem after?_append (part rest : Text) : after? part (part ++ rest) = some rest := by
  induction part with
  | nil => rfl
  | cons c cs ih => rw [List.cons_append, after?, if_pos rfl, ih]

/-- What follows an opening part is what is left of the text. -/
theorem eq_append_of_after? {p t rest : Text} (h : after? p t = some rest) : t = p ++ rest := by
  induction p generalizing t with
  | nil =>
    cases t <;> exact Option.some.inj h
  | cons c cs ih =>
    cases t with
    | nil => cases h
    | cons d ds =>
      rw [after?] at h
      split at h
      · rename_i heq
        rw [ih h, heq, List.cons_append]
      · cases h

/-- A text with another character in front opens with no part. -/
theorem after?_of_ne {c d : Char} (h : c ≠ d) (p t : Text) : after? (c :: p) (d :: t) = none := by
  rw [after?, if_neg h]

/-- Whether a pattern occurs anywhere in a text. -/
def occursIn (pattern : Text) : Text → Bool
  | [] => pattern.isEmpty
  | c :: cs => pattern.isPrefixOf (c :: cs) || occursIn pattern cs

/-- A text without the characters of a class at its end. -/
def trimEnd (p : Char → Bool) (t : Text) : Text := (t.reverse.dropWhile p).reverse

/-- A text without the characters of a class at both ends. -/
def trim (p : Char → Bool) (t : Text) : Text := trimEnd p (t.dropWhile p)

/-- A natural number in decimal. -/
def decimal (n : Nat) : Text := Nat.toDigits 10 n

/-- An integer in decimal, with a sign when negative. -/
def decimalInt : Int → Text
  | .ofNat n => decimal n
  | .negSucc n => '-' :: decimal (n + 1)

/-- Whether a character is one of `0` to `9`. -/
def isDigit (c : Char) : Bool := '0' ≤ c && c ≤ '9'

/-- The value of decimal digits, read from the left. -/
def digitsValue (t : Text) : Nat := t.foldl (fun n c => n * 10 + (c.toNat - '0'.toNat)) 0

/-- Whether an integer has a signed form in 64 bits. -/
def fits64 (n : Int) : Bool := -9223372036854775808 ≤ n && n ≤ 9223372036854775807

/-- The UTF-8 form of a text. -/
def utf8 (t : Text) : Bytes := t.flatMap String.utf8EncodeChar

/-- The text with a given UTF-8 form. -/
def ofUtf8? (bytes : Bytes) : Option Text := (String.fromUTF8? ⟨bytes.toArray⟩).map String.toList

/-- Text order: by code point at the first difference, a text before its extensions. -/
def precedes : Text → Text → Bool
  | [], [] => false
  | [], _ :: _ => true
  | _ :: _, [] => false
  | c :: cs, d :: ds => c < d || (c == d && precedes cs ds)

end Text
end TableCodegen
