import TableCodegen.IoError

/-!
# Echo sinks

A sink takes bytes up to its capacity. What does not fit any more is an error, and the part that
does fit has been received.
-/

namespace TableCodegen

/-- A receiver of bytes, with a capacity or without. -/
structure Sink where
  capacity : Option Nat
  received : Bytes
  deriving DecidableEq, Repr

namespace Sink

/-- A sink that takes everything. -/
def unlimited : Sink := ⟨none, []⟩

/-- A sink that takes so many bytes. -/
def limited (capacity : Nat) : Sink := ⟨some capacity, []⟩

/-- The error of a sink that takes no more. -/
def full : IoError := .other "sink full".toList

/-- A sink after some bytes. -/
def receive (sink : Sink) (bytes : Bytes) : Sink :=
  match sink.capacity with
  | none => { sink with received := sink.received ++ bytes }
  | some capacity => { sink with received := (sink.received ++ bytes).take capacity }

/-- Whether some bytes fit into a sink. -/
def fits (sink : Sink) (bytes : Bytes) : Bool :=
  match sink.capacity with
  | none => true
  | some capacity => sink.received.length + bytes.length ≤ capacity || bytes.isEmpty

/-- Writes a text to a sink, if there is one: the sink after it, and whether the text did fit. -/
def writeTo (sink? : Option Sink) (t : Text) : Option Sink × Bool :=
  match sink? with
  | none => (none, true)
  | some sink => (some (sink.receive (Text.utf8 t)), sink.fits (Text.utf8 t))

/-- The text that a sink has received. The capacity may cut it off inside its last character; what
there is of that character is shown as U+FFFD. -/
def receivedText (sink : Sink) : Text :=
  match Text.ofUtf8? sink.received with
  | some t => t
  | none =>
    let whole? := [1, 2, 3].findSome? fun cut =>
      Text.ofUtf8? (sink.received.take (sink.received.length - cut))
    whole?.getD [] ++ ['\uFFFD']

end Sink
end TableCodegen
