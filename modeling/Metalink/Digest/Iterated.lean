import Metalink.Storage

/-!
# Iterated hash functions

A message is padded to whole blocks and the blocks are compressed one after the other
into a running state.  Bytes may come in pieces of any size.

Main statement:

- `absorb_append`: absorbing two pieces in turn is absorbing them joined, so that it does not
  show how a message is cut.
-/

namespace Metalink.Digest

/-- What distinguishes one iterated hash function from another: the number of bytes in a block,
the state before the first one, what a block makes of a state, what completes a message of a
given length, and the digest that a state stands for. -/
structure Iterated (σ : Type) where
  blockSize : Nat
  start : σ
  compress : σ → Bytes → σ
  padding : Nat → Bytes
  output : σ → Bytes

/-- A message that has been read in part: the state after all whole blocks, the bytes of the
block that is not yet whole, the last one first, and the number of bytes read. -/
structure Progress (σ : Type) where
  state : σ
  pending : Bytes
  total : Nat

namespace Iterated

variable {σ : Type} (h : Iterated σ)

/-- Nothing has been read. -/
def init : Progress σ := ⟨h.start, [], 0⟩

/-- Read one byte, and compress the block that it completes. -/
def push (p : Progress σ) (b : UInt8) : Progress σ :=
  let pending := b :: p.pending
  if pending.length = h.blockSize then ⟨h.compress p.state pending.reverse, [], p.total + 1⟩
  else ⟨p.state, pending, p.total + 1⟩

/-- Read a piece of the message. -/
def absorb (p : Progress σ) (piece : Bytes) : Progress σ :=
  piece.foldl h.push p

/-- The digest of what has been read. -/
def result (p : Progress σ) : Bytes :=
  h.output (h.absorb p (h.padding p.total)).state

/-- Two pieces in turn are the joined piece. -/
theorem absorb_append (p : Progress σ) (a b : Bytes) :
    h.absorb p (a ++ b) = h.absorb (h.absorb p a) b := by
  simp [absorb, List.foldl_append]

end Iterated

/-! ## Bytes of numbers -/

/-- The lowest bytes of a number, lowest first. -/
def lowBytes : (count : Nat) → Nat → Bytes
  | 0, _ => []
  | count + 1, n => UInt8.ofNat n :: lowBytes count (n / 256)

/-- The lowest bytes of a number, highest first. -/
def highBytes (count n : Nat) : Bytes :=
  (lowBytes count n).reverse

/-- A one bit, zero bits up to the place of the length, and the length in bits:
completes a message to whole blocks. -/
def padTo (blockSize lengthSize : Nat) (encodeLength : Nat → Bytes) (length : Nat) : Bytes :=
  let used := (length + 1 + lengthSize) % blockSize
  0x80 :: (List.replicate ((blockSize - used) % blockSize) 0 ++ encodeLength (8 * length))

end Metalink.Digest
