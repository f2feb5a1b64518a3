import Metalink.Digest.Iterated
import Metalink.Error

/-!
# Reading in pieces

A file is read in pieces of a chosen size until a read gives nothing or fails.
The pieces joined are the content for every positive size and for the size minus one;
the size zero reads nothing.

Every read takes up memory for as many bytes as it asks for, however few there are.  For
the size minus one that is as many as there are.

Current gaps:

- That memory runs out anywhere else is not modelled.
-/

namespace Metalink

/-- What a whole loop of reads gave: the pieces in order, and the failure that
stopped it, if it did not come to the end of the file. -/
structure Reading where
  pieces : List Bytes
  fault : Option SystemFault
deriving DecidableEq, Repr

/-! ## Memory -/

/-- The least number that is too great to be the size of anything. -/
def sizeBound : Int := 9223372036854775808

/-- The length of the longest piece of bytes that there can be. -/
def longestPiece : Nat := 9223372036854775774

/-- Memory with room for pieces of so many bytes. -/
structure Memory where
  room : Nat
  room_le : room ≤ longestPiece

/-- The memory of a machine of ordinary size. -/
def Memory.standard : Memory := ⟨34359738368, by decide⟩

/-! ## Reading -/

/-- Cut bytes into pieces of a positive size; only the last may be shorter.  There are no
pieces of size zero. -/
def cutPieces (size : Nat) (bytes : Bytes) : List Bytes :=
  if size = 0 ∨ bytes = [] then []
  else bytes.take size :: cutPieces size (bytes.drop size)
termination_by bytes.length
decreasing_by
  cases bytes with
  | nil => simp_all
  | cons b rest => simp only [List.length_drop, List.length_cons]; omega

namespace Stream

/-- How many bytes a read of some size must have room for: minus one reads all there is. -/
def roomFor (stream : Stream) (size : Int) : Nat :=
  if size = -1 then stream.content.length else size.toNat

/-- What keeps a stream from being read in pieces of a size, which the first read finds
out. -/
def obstacle? (stream : Stream) (memory : Memory) (size : Int) : Option Escape :=
  if size < -sizeBound ∨ sizeBound ≤ size then some .sizeOutOfRange
  else if size < -1 then some .badReadLength
  else if longestPiece < size then some .pieceTooLong
  else if memory.room < stream.roomFor size then some .outOfMemory
  else none

/-- The pieces of a size that a stream is read in, which end at the latest where a portion
ends.  Minus one reads all there is at once, zero reads nothing. -/
def pieces (stream : Stream) (size : Int) : List Bytes :=
  if size = -1 then if stream.content = [] then [] else [stream.content]
  else stream.portions.flatMap (cutPieces size.toNat)

/-- Read a stream in pieces of a size. -/
def read (stream : Stream) (memory : Memory) (size : Int) : Except Escape Reading :=
  match stream.obstacle? memory size with
  | some escape => .error escape
  | none => .ok ⟨stream.pieces size, stream.fault⟩

end Stream

end Metalink
