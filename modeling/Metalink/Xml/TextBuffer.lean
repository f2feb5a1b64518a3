import Metalink.Event

/-!
# Collected text

Text is collected over comments, references and line ends, and delivered as one
event before the next tag.  The collection holds 8192 bytes: a piece that does not
fit makes what was collected before it an event of its own, and a piece that is
longer than that is an event by itself.

Whatever the pieces, the delivered texts joined are the pieces joined.
-/

namespace Metalink.Xml

/-- The number of bytes that can be collected. -/
def bufferSize : Nat := 8192

/-- The number of bytes that a long run is handed on in, where it has to be encoded
anew. -/
def runSize : Nat := 1024

/-- The number of bytes of some characters. -/
def bytesOf (cs : List Char) : Nat :=
  cs.foldl (fun n c => n + c.utf8Size) 0

/-- The events delivered so far and the characters collected since, each with the last one first,
and the number of bytes collected. -/
structure Output where
  events : List Event
  pending : List Char
  used : Nat
deriving Repr

namespace Output

/-- Nothing has been delivered. -/
def empty : Output := ⟨[], [], 0⟩

/-- Deliver the collected text, if there is any. -/
def flush (out : Output) : Output :=
  if out.used = 0 then out
  else ⟨.text (String.ofList out.pending.reverse) :: out.events, [], 0⟩

/-- Take a piece of text. -/
def addPiece (out : Output) (piece : List Char) : Output :=
  let bytes := bytesOf piece
  let out := if bufferSize < out.used + bytes then out.flush else out
  if bufferSize < bytes then ⟨.text (String.ofList piece) :: out.events, [], 0⟩
  else ⟨out.events, piece.reverse ++ out.pending, out.used + bytes⟩

/-- Take a long run in pieces of limited size; `piece` is the current one in reverse
order. -/
def addRunFrom (out : Output) (piece : List Char) (bytes : Nat) : List Char → Output
  | [] => out.addPiece piece.reverse
  | c :: rest =>
    if runSize < bytes + c.utf8Size then
      (out.addPiece piece.reverse).addRunFrom [c] c.utf8Size rest
    else out.addRunFrom (c :: piece) (bytes + c.utf8Size) rest

/-- Take a run of text, whole or in pieces. -/
def addRun (out : Output) (whole : Bool) (run : List Char) : Output :=
  if whole then out.addPiece run else out.addRunFrom [] 0 run

/-- Deliver a tag after the text before it. -/
def addTag (out : Output) (tag : Event) : Output :=
  let out := out.flush
  { out with events := tag :: out.events }

/-- The events in order. -/
def delivered (out : Output) : List Event := out.events.reverse

end Output

end Metalink.Xml
