import Metalink.Digest.Md5
import Metalink.Digest.Sha1
import Metalink.Digest.Sha2

/-!
# The hash functions of the digest engine

A hash function takes a message in pieces.  The engine has some functions of its own, and
a library that knows others by name.  Most functions have digests of one length; those of
an extendable one are as long as is asked for, and the engine does not ask for a length.

Main statement: a digest depends only on the message, not on its pieces.

Current gaps:

- The functions of the library are a parameter.  The standard library names the two
  extendable functions that every installation has; functions with digests of one length
  that are not among those of the engine are not written out.
-/

namespace Metalink.Digest

/-! ## Hash functions -/

/-- A hash function that takes a message in pieces: its state before the message, what a
piece makes of a state, and the digest that a state stands for.  Two pieces in turn are the
joined piece, and an empty one changes nothing. -/
structure HashFunction where
  State : Type
  start : State
  update : State → Bytes → State
  result : State → Bytes
  update_nil : ∀ state, update state [] = state
  update_append : ∀ state a b, update state (a ++ b) = update (update state a) b

/-- An iterated hash function takes a message in pieces. -/
def Iterated.toHashFunction {σ : Type} (h : Iterated σ) : HashFunction where
  State := Progress σ
  start := h.init
  update := h.absorb
  result := h.result
  update_nil _ := rfl
  update_append := h.absorb_append

namespace HashFunction

/-- The digest of a message that comes in pieces. -/
def digestPieces (f : HashFunction) (pieces : List Bytes) : Bytes :=
  f.result (pieces.foldl f.update f.start)

/-- The digest of a whole message. -/
def digest (f : HashFunction) (message : Bytes) : Bytes :=
  f.result (f.update f.start message)

/-- Many pieces in turn are the joined piece. -/
theorem foldl_update (f : HashFunction) (state : f.State) (pieces : List Bytes) :
    pieces.foldl f.update state = f.update state pieces.flatten := by
  induction pieces generalizing state with
  | nil => exact (f.update_nil state).symm
  | cons piece rest ih => rw [List.foldl_cons, ih, List.flatten_cons, f.update_append]

/-- A digest depends only on the message, not on its pieces. -/
theorem digestPieces_eq (f : HashFunction) (pieces : List Bytes) :
    f.digestPieces pieces = f.digest pieces.flatten := by
  rw [digestPieces, digest, foldl_update]

/-! ## The functions of the engine -/

/-- MD5. -/
def md5 : HashFunction := Md5.function.toHashFunction

/-- SHA-1. -/
def sha1 : HashFunction := Sha1.function.toHashFunction

/-- SHA-224. -/
def sha224 : HashFunction := Sha2.sha224.toHashFunction

/-- SHA-256. -/
def sha256 : HashFunction := Sha2.sha256.toHashFunction

/-- SHA-384. -/
def sha384 : HashFunction := Sha2.sha384.toHashFunction

/-- SHA-512. -/
def sha512 : HashFunction := Sha2.sha512.toHashFunction

/-- The names of the functions in lower case. -/
def names : List (String × HashFunction) :=
  [("md5", md5), ("sha1", sha1), ("sha-1", sha1), ("sha224", sha224), ("sha-224", sha224),
    ("sha256", sha256), ("sha-256", sha256), ("sha384", sha384), ("sha-384", sha384),
    ("sha512", sha512), ("sha-512", sha512)]

/-- The function with a given name; the case of ASCII letters does not matter. -/
def ofName? (name : String) : Option HashFunction :=
  names.lookup (String.ofList (name.toList.map Char.toLower))

end HashFunction

/-! ## Libraries -/

/-- A function that is known by name: one whose digests have one length, or one whose
digests are as long as is asked for. -/
inductive LibraryFunction where
  | fixed (f : HashFunction)
  | extendable

namespace LibraryFunction

/-- The digest of a message that comes in pieces, if the function has digests of one
length. -/
def digestPieces? : LibraryFunction → List Bytes → Option Bytes
  | fixed f, pieces => some (f.digestPieces pieces)
  | extendable, _ => none

/-- The digest of a whole message, if the function has digests of one length. -/
def digest? : LibraryFunction → Bytes → Option Bytes
  | fixed f, message => some (f.digest message)
  | extendable, _ => none

/-- Whether there is a digest, and which, does not depend on the pieces. -/
theorem digestPieces?_eq (f : LibraryFunction) (pieces : List Bytes) :
    f.digestPieces? pieces = f.digest? pieces.flatten := by
  cases f with
  | fixed f => rw [digestPieces?, digest?, f.digestPieces_eq]
  | extendable => rfl

end LibraryFunction

/-- The functions that a library has besides those of the engine. -/
structure Library where
  others : String → Option LibraryFunction

namespace Library

/-- The function that is known under a name. -/
def find? (library : Library) (name : String) : Option LibraryFunction :=
  match HashFunction.ofName? name with
  | some f => some (.fixed f)
  | none => library.others name

/-- A library with the extendable functions that every installation has. -/
def standard : Library where
  others name := if name = "shake_128" ∨ name = "shake_256" then some .extendable else none

end Library

end Metalink.Digest
