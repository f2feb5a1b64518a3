/-!
# Checksum algorithms

The algorithms that a download can be verified with, in order of strength, and the
type names under which documents announce them.  The names written for an
algorithm lead back to it, and the empty name is refused.
-/

namespace Metalink

/-- The supported checksum algorithms. -/
inductive Algorithm where
  | md5
  | sha1
  | sha256
  | sha512
deriving DecidableEq, Repr

namespace Algorithm

/-- All algorithms, weakest first. -/
def all : List Algorithm := [md5, sha1, sha256, sha512]

/-- The strength of an algorithm: greater ranks are preferred. -/
def rank : Algorithm → Nat
  | md5 => 0
  | sha1 => 1
  | sha256 => 2
  | sha512 => 3

/-- The algorithm of a rank. -/
def ofRank? (n : Int) : Option Algorithm :=
  all.find? fun a => (a.rank : Int) == n

/-- The name in the registry of algorithms. -/
def label : Algorithm → String
  | md5 => "MD5"
  | sha1 => "SHA1"
  | sha256 => "SHA256"
  | sha512 => "SHA512"

/-- The name that a digest engine knows. -/
def canonicalName : Algorithm → String
  | md5 => "md5"
  | sha1 => "sha1"
  | sha256 => "sha256"
  | sha512 => "sha512"

/-- The length of a digest in bytes. -/
def digestLength : Algorithm → Nat
  | md5 => 16
  | sha1 => 20
  | sha256 => 32
  | sha512 => 64

/-- The length of a digest in hexadecimal digits. -/
def hexLength (a : Algorithm) : Nat :=
  2 * a.digestLength

/-- Every spelling under which an algorithm is announced. -/
def aliases : List (String × Algorithm) :=
  [("md5", md5), ("sha1", sha1), ("sha-1", sha1), ("sha256", sha256), ("sha-256", sha256),
    ("sha512", sha512), ("sha-512", sha512)]

/-- The algorithm announced by a type name; letter case matters. -/
def ofName? (name : String) : Option Algorithm :=
  aliases.lookup name

end Algorithm

/-- What a type name stands for: it is empty, which is an error, no supported algorithm has this
name, or one has. -/
inductive HashType where
  | unnamed
  | unsupported
  | supported (algorithm : Algorithm)
deriving DecidableEq, Repr

/-- Resolve the type name of a hash. -/
def HashType.ofName (name : String) : HashType :=
  if name = "" then .unnamed
  else
    match Algorithm.ofName? name with
    | some a => .supported a
    | none => .unsupported

/-- The supported algorithm, if the name stands for one. -/
def HashType.algorithm? : HashType → Option Algorithm
  | supported a => some a
  | _ => none

end Metalink
