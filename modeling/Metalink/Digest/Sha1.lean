import Metalink.Digest.Iterated

/-!
# SHA-1

The digest of 20 bytes over words of 32 bits, highest byte first.
-/

namespace Metalink.Digest.Sha1

/-- The five words of the running state. -/
structure State where
  a : UInt32
  b : UInt32
  c : UInt32
  d : UInt32
  e : UInt32

/-- Rotate a word to the left. -/
def rotateLeft (x k : UInt32) : UInt32 :=
  (x <<< k) ||| (x >>> (32 - k))

/-- The words of a block. -/
def words : Bytes → List UInt32
  | b0 :: b1 :: b2 :: b3 :: rest =>
    (b0.toUInt32 <<< 24 ||| b1.toUInt32 <<< 16 ||| b2.toUInt32 <<< 8 ||| b3.toUInt32) :: words rest
  | _ => []

/-- Extend a schedule, kept with its last word first, by more words. -/
def extend : Nat → List UInt32 → List UInt32
  | 0, schedule => schedule
  | n + 1, schedule =>
    let next := rotateLeft (schedule.getD 2 0 ^^^ schedule.getD 7 0 ^^^ schedule.getD 13 0 ^^^
      schedule.getD 15 0) 1
    extend n (next :: schedule)

/-- The mixing function and the constant of a step. -/
def mix (s : State) (step : Nat) : UInt32 × UInt32 :=
  match step / 20 with
  | 0 => ((s.b &&& s.c) ||| (~~~s.b &&& s.d), 0x5a827999)
  | 1 => (s.b ^^^ s.c ^^^ s.d, 0x6ed9eba1)
  | 2 => ((s.b &&& s.c) ||| (s.b &&& s.d) ||| (s.c &&& s.d), 0x8f1bbcdc)
  | _ => (s.b ^^^ s.c ^^^ s.d, 0xca62c1d6)

/-- One step. -/
def step (s : State) (wordAt : UInt32 × Nat) : State :=
  match mix s wordAt.2 with
  | (f, k) => ⟨rotateLeft s.a 5 + f + s.e + k + wordAt.1, s.a, rotateLeft s.b 30, s.c, s.d⟩

/-- Take a block into the state. -/
def compress (s : State) (block : Bytes) : State :=
  let t := ((extend 64 (words block).reverse).reverse).zipIdx.foldl step s
  ⟨s.a + t.a, s.b + t.b, s.c + t.c, s.d + t.d, s.e + t.e⟩

/-- The hash function. -/
def function : Iterated State where
  blockSize := 64
  start := ⟨0x67452301, 0xefcdab89, 0x98badcfe, 0x10325476, 0xc3d2e1f0⟩
  compress := compress
  padding := padTo 64 8 (highBytes 8)
  output s := [s.a, s.b, s.c, s.d, s.e].flatMap fun w => highBytes 4 w.toNat

end Metalink.Digest.Sha1
