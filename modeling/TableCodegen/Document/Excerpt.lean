import TableCodegen.Document.Lines

/-!
# Excerpts

A document is a text with the path it is known by. An excerpt shows a span of it in three lines:

    at path 2:4-9
    2 | the line that holds the span
        ^^^^^^

Line and columns count from 1, columns in characters. The last column is given when there is more
than one, carriage returns at the end of the line are not shown, and an empty span is marked by one
caret. The span must lie in one line and start and end at character boundaries.
-/

namespace TableCodegen

/-- A text and the path it is known by. -/
structure Document where
  path : Text
  text : Text
  deriving DecidableEq, Repr

/-- Why a span has no excerpt. -/
inductive SpanFault where
  /-- The span ends before it starts. -/
  | reversed
  /-- The span starts beyond the text, which has so many lines. -/
  | beyond (lines : Nat)
  /-- The span ends behind the end of the line it starts in. -/
  | acrossLines
  /-- The span starts or ends inside a character. -/
  | insideCharacter
  deriving DecidableEq, Repr

/-- The fault in words, where there are any. -/
def SpanFault.message? : SpanFault → Option Text
  | .reversed => some "invalid byte offset".toList
  | .beyond lines => some ("invalid byte offset: ".toList ++ Text.decimal lines)
  | .acrossLines => some "can not render across lines".toList
  | .insideCharacter => none

namespace Document

/-- The excerpt for `width` characters from a column on, given what the line shows. -/
def showExcerpt (path : Text) (line column width : Nat) (content : Text) : Text :=
  "at ".toList ++ path ++ [' '] ++ Text.decimal line ++ [':'] ++ Text.decimal column
    ++ (if width > 1 then '-' :: Text.decimal (column + width - 1) else []) ++ ['\n']
    ++ Text.decimal line ++ " | ".toList ++ content ++ ['\n']
    ++ List.replicate ((Text.decimal line).length + 3 + column - 1) ' '
    ++ List.replicate width '^' ++ ['\n']

/-- The excerpt for a span. -/
def excerpt (doc : Document) (span : Span) : Except SpanFault Text := do
  if span.stop < span.start then throw .reversed
  match findLine (lineTable doc.text) span.start with
  | .error lines => throw (.beyond lines)
  | .ok index =>
    match (lineTable doc.text)[index]? with
    | none => throw (.beyond index)
    | some line =>
      if line.stop < span.stop then throw .acrossLines
      match Text.slice? line.start span.start doc.text, Text.slice? span.start span.stop doc.text,
        Text.slice? line.start line.stop doc.text with
      | some before, some marked, some content =>
        return showExcerpt doc.path (index + 1) (before.length + 1) (max marked.length 1)
          (Text.trimEnd (· == '\r') content)
      | _, _, _ => throw .insideCharacter

end Document
end TableCodegen
