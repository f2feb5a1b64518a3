import Metalink.Digest.Iterated

/-!
# SHA-2

One construction over words of 32 or of 64 bits.  The constants are the leading bits
of the fractional parts of roots of primes, so that the short words take theirs from
the long ones.
-/

namespace Metalink.Digest.Sha2

/-! ## Constants -/

/-- The fractional parts of the cube roots of the first 80 primes. -/
def cubeRoots : List UInt64 :=
  [0x428a2f98d728ae22, 0x7137449123ef65cd, 0xb5c0fbcfec4d3b2f, 0xe9b5dba58189dbbc,
    0x3956c25bf348b538, 0x59f111f1b605d019, 0x923f82a4af194f9b, 0xab1c5ed5da6d8118,
    0xd807aa98a3030242, 0x12835b0145706fbe, 0x243185be4ee4b28c, 0x550c7dc3d5ffb4e2,
    0x72be5d74f27b896f, 0x80deb1fe3b1696b1, 0x9bdc06a725c71235, 0xc19bf174cf692694,
    0xe49b69c19ef14ad2, 0xefbe4786384f25e3, 0x0fc19dc68b8cd5b5, 0x240ca1cc77ac9c65,
    0x2de92c6f592b0275, 0x4a7484aa6ea6e483, 0x5cb0a9dcbd41fbd4, 0x76f988da831153b5,
    0x983e5152ee66dfab, 0xa831c66d2db43210, 0xb00327c898fb213f, 0xbf597fc7beef0ee4,
    0xc6e00bf33da88fc2, 0xd5a79147930aa725, 0x06ca6351e003826f, 0x142929670a0e6e70,
    0x27b70a8546d22ffc, 0x2e1b21385c26c926, 0x4d2c6dfc5ac42aed, 0x53380d139d95b3df,
    0x650a73548baf63de, 0x766a0abb3c77b2a8, 0x81c2c92e47edaee6, 0x92722c851482353b,
    0xa2bfe8a14cf10364, 0xa81a664bbc423001, 0xc24b8b70d0f89791, 0xc76c51a30654be30,
    0xd192e819d6ef5218, 0xd69906245565a910, 0xf40e35855771202a, 0x106aa07032bbd1b8,
    0x19a4c116b8d2d0c8, 0x1e376c085141ab53, 0x2748774cdf8eeb99, 0x34b0bcb5e19b48a8,
    0x391c0cb3c5c95a63, 0x4ed8aa4ae3418acb, 0x5b9cca4f7763e373, 0x682e6ff3d6b2b8a3,
    0x748f82ee5defb2fc, 0x78a5636f43172f60, 0x84c87814a1f0ab72, 0x8cc702081a6439ec,
    0x90befffa23631e28, 0xa4506cebde82bde9, 0xbef9a3f7b2c67915, 0xc67178f2e372532b,
    0xca273eceea26619c, 0xd186b8c721c0c207, 0xeada7dd6cde0eb1e, 0xf57d4f7fee6ed178,
    0x06f067aa72176fba, 0x0a637dc5a2c898a6, 0x113f9804bef90dae, 0x1b710b35131c471b,
    0x28db77f523047d84, 0x32caab7b40c72493, 0x3c9ebe0a15c9bebc, 0x431d67c49c100d4c,
    0x4cc5d4becb3e42b6, 0x597f299cfc657e2a, 0x5fcb6fab3ad6faec, 0x6c44198c4a475817]

/-- The eight words of the running state. -/
structure State (w : Type) where
  a : w
  b : w
  c : w
  d : w
  e : w
  f : w
  g : w
  h : w

/-- Change each word of a state. -/
def State.map {v w : Type} (change : v → w) (s : State v) : State w :=
  ⟨change s.a, change s.b, change s.c, change s.d, change s.e, change s.f, change s.g, change s.h⟩

/-- The words of a state. -/
def State.toList {w : Type} (s : State w) : List w :=
  [s.a, s.b, s.c, s.d, s.e, s.f, s.g, s.h]

/-- The fractional parts of the square roots of the first eight primes. -/
def squareRoots : State UInt64 :=
  ⟨0x6a09e667f3bcc908, 0xbb67ae8584caa73b, 0x3c6ef372fe94f82b, 0xa54ff53a5f1d36f1,
    0x510e527fade682d1, 0x9b05688c2b3e6c1f, 0x1f83d9abfb41bd6b, 0x5be0cd19137e2179⟩

/-- The fractional parts of the square roots of the ninth to the sixteenth prime. -/
def laterSquareRoots : State UInt64 :=
  ⟨0xcbbb9d5dc1059ed8, 0x629a292a367cd507, 0x9159015a3070dd17, 0x152fecd8f70e5939,
    0x67332667ffc00b31, 0x8eb44a8768581511, 0xdb0c2e0d64f98fa7, 0x47b5481dbefa4fa4⟩

/-- The upper half of a long word. -/
def upperHalf (x : UInt64) : UInt32 := (x >>> 32).toUInt32

/-- The lower half of a long word. -/
def lowerHalf (x : UInt64) : UInt32 := x.toUInt32

/-! ## Words -/

/-- The words of a variant: the number of bytes in a word, the operations, words from bytes and
back, highest first, the mixing functions of the schedule and of a step, which are made of
rotations and shifts, and the constant of each step. -/
structure Words (w : Type) where
  size : Nat
  add : w → w → w
  xor : w → w → w
  and : w → w → w
  not : w → w
  ofBytes : Bytes → w
  toBytes : w → Bytes
  small0 : w → w
  small1 : w → w
  big0 : w → w
  big1 : w → w
  constants : List w

/-- The number that bytes denote, highest first. -/
def number (bytes : Bytes) : Nat :=
  bytes.foldl (fun n b => 256 * n + b.toNat) 0

/-- Rotate a short word to the right. -/
def rotate32 (x k : UInt32) : UInt32 :=
  (x >>> k) ||| (x <<< (32 - k))

/-- Rotate a long word to the right. -/
def rotate64 (x k : UInt64) : UInt64 :=
  (x >>> k) ||| (x <<< (64 - k))

/-- Words of 32 bits. -/
def short : Words UInt32 where
  size := 4
  add := (· + ·)
  xor := (· ^^^ ·)
  and := (· &&& ·)
  not := (~~~·)
  ofBytes b := UInt32.ofNat (number b)
  toBytes x := highBytes 4 x.toNat
  small0 x := rotate32 x 7 ^^^ rotate32 x 18 ^^^ (x >>> 3)
  small1 x := rotate32 x 17 ^^^ rotate32 x 19 ^^^ (x >>> 10)
  big0 x := rotate32 x 2 ^^^ rotate32 x 13 ^^^ rotate32 x 22
  big1 x := rotate32 x 6 ^^^ rotate32 x 11 ^^^ rotate32 x 25
  constants := (cubeRoots.take 64).map upperHalf

/-- Words of 64 bits. -/
def long : Words UInt64 where
  size := 8
  add := (· + ·)
  xor := (· ^^^ ·)
  and := (· &&& ·)
  not := (~~~·)
  ofBytes b := UInt64.ofNat (number b)
  toBytes x := highBytes 8 x.toNat
  small0 x := rotate64 x 1 ^^^ rotate64 x 8 ^^^ (x >>> 7)
  small1 x := rotate64 x 19 ^^^ rotate64 x 61 ^^^ (x >>> 6)
  big0 x := rotate64 x 28 ^^^ rotate64 x 34 ^^^ rotate64 x 39
  big1 x := rotate64 x 14 ^^^ rotate64 x 18 ^^^ rotate64 x 41
  constants := cubeRoots

/-! ## Compression -/

variable {w : Type}

/-- Cut bytes into a number of words. -/
def words (v : Words w) : Nat → Bytes → List w
  | 0, _ => []
  | n + 1, bytes => v.ofBytes (bytes.take v.size) :: words v n (bytes.drop v.size)

/-- Extend a schedule, kept with its last word first, by more words. -/
def extend (v : Words w) : Nat → List w → List w
  | 0, schedule => schedule
  | n + 1, schedule =>
    match schedule[1]?, schedule[6]?, schedule[14]?, schedule[15]? with
    | some x2, some x7, some x15, some x16 =>
      extend v n
        (v.add (v.add (v.small1 x2) x7) (v.add (v.small0 x15) x16) :: schedule)
    | _, _, _, _ => schedule

/-- One step, with the sum of its constant and its word of the schedule. -/
def step (v : Words w) (s : State w) (term : w) : State w :=
  let choice := v.xor (v.and s.e s.f) (v.and (v.not s.e) s.g)
  let t1 := v.add (v.add s.h (v.big1 s.e)) (v.add choice term)
  let majority := v.xor (v.xor (v.and s.a s.b) (v.and s.a s.c)) (v.and s.b s.c)
  let t2 := v.add (v.big0 s.a) majority
  ⟨v.add t1 t2, s.a, s.b, s.c, v.add s.d t1, s.e, s.f, s.g⟩

/-- Take a block into the state. -/
def compress (v : Words w) (s : State w) (block : Bytes) : State w :=
  let schedule := (extend v (v.constants.length - 16) (words v 16 block).reverse).reverse
  let t := (List.zipWith v.add v.constants schedule).foldl (step v) s
  ⟨v.add s.a t.a, v.add s.b t.b, v.add s.c t.c, v.add s.d t.d,
    v.add s.e t.e, v.add s.f t.f, v.add s.g t.g, v.add s.h t.h⟩

/-! ## Variants -/

/-- A variant of SHA-2: its words, its first state and the bytes kept of the last. -/
def function (v : Words w) (start : State w) (kept : Nat) : Iterated (State w) where
  blockSize := 16 * v.size
  start := start
  compress := compress v
  padding := padTo (16 * v.size) (2 * v.size) (highBytes (2 * v.size))
  output s := (s.toList.flatMap v.toBytes).take kept

/-- SHA-256. -/
def sha256 : Iterated (State UInt32) :=
  function short (squareRoots.map upperHalf) 32

/-- SHA-224. -/
def sha224 : Iterated (State UInt32) :=
  function short (laterSquareRoots.map lowerHalf) 28

/-- SHA-512. -/
def sha512 : Iterated (State UInt64) :=
  function long squareRoots 64

/-- SHA-384. -/
def sha384 : Iterated (State UInt64) :=
  function long laterSquareRoots 48

end Metalink.Digest.Sha2
