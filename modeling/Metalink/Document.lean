import Metalink.Checksum

/-!
# What a metalink says about a file

A metalink names one file, its size, digests of it and mirrors to fetch it from.
In order of preference the mirrors never increase, and equal preferences keep the order
that they have in the document.
-/

namespace Metalink

/-- A digest published for the file: its type as announced, such as `sha-256`, and the digest as
written. -/
structure Hash where
  type : String
  value : String
deriving DecidableEq, Repr

/-- The supported algorithm that a hash was made with. -/
def Hash.algorithm? (hash : Hash) : Option Algorithm :=
  (HashType.ofName hash.type).algorithm?

/-- A place to fetch the file from: its address, the protocol for the transfer, the kind of
address, the code of the country, and how much the mirror is preferred; greater numbers come
first. -/
structure Mirror where
  url : String
  protocol : Option String
  type : Option String
  location : Option String
  preference : Int
deriving DecidableEq, Repr

namespace Mirror

/-- The least preference. -/
def minPreference : Int := 0

/-- The greatest preference. -/
def maxPreference : Int := 100

/-- Addresses of this many bytes or fewer are noise. -/
def minUrlBytes : Nat := 4

end Mirror

/-- A metalink for one file: its name, if a file element was read, its size in bytes, if one was
read, and the digests and mirrors in document order. -/
structure Document where
  filename : Option String
  size : Option Int
  hashes : List Hash
  mirrors : List Mirror
deriving DecidableEq, Repr

namespace Document

/-- A document of which nothing has been read. -/
def empty : Document := ⟨none, none, [], []⟩

/-- Put a mirror before the first one that is less preferred. -/
def insertByPreference (m : Mirror) : List Mirror → List Mirror
  | [] => [m]
  | x :: rest =>
    if x.preference ≤ m.preference then m :: x :: rest else x :: insertByPreference m rest

/-- The mirrors, most preferred first; equals stay in document order. -/
def byPreference (doc : Document) : List Mirror :=
  doc.mirrors.foldr insertByPreference []

/-- The hashes made with one algorithm, in document order. -/
def hashesOf (doc : Document) (a : Algorithm) : List Hash :=
  doc.hashes.filter fun h => h.algorithm? = some a

end Document

end Metalink
