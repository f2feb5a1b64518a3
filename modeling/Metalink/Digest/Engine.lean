import Metalink.Digest.Function
import Metalink.Digest.Reading
import Metalink.Log
import Metalink.Text.Blank
import Metalink.Text.Lower

/-!
# The digest engine

Digests files by the name of an algorithm.  Under FIPS compliance MD5 is forbidden;
nothing else changes.

For pieces of a positive size that memory has room for, a digest is of the whole file or
there is none, and it does not depend on the size.
-/

namespace Metalink.Digest

open Metalink.Text

/-! ## FIPS compliance -/

/-- Where FIPS compliance shows: the mode of the cryptographic library, if it tells, and the
content of the kernel's flag file, if it exists. -/
structure FipsSource where
  library : Option Bool
  kernelFlag : Option String
deriving DecidableEq, Repr

/-- FIPS compliance is on if the library says so, or else if the kernel's flag is
a one, white space around it apart. -/
def FipsSource.enabled (source : FipsSource) : Bool :=
  source.library == some true ||
    match source.kernelFlag with
    | some flag => trim flag == "1"
    | none => false

/-- Nothing asks for compliance. -/
def FipsSource.off : FipsSource := ⟨some false, none⟩

/-! ## Digesting a file -/

/-- A digester gives the digest of a file under a named algorithm, and records of
what it did. -/
abbrev Digester := Path → String → Except Failure Bytes × Log

/-- What the engine runs on: the memory that pieces are read into, and the library of hash
functions. -/
structure Host where
  memory : Memory
  library : Library

/-- A host of ordinary size. -/
def Host.standard : Host := ⟨.standard, .standard⟩

/-- How the engine reads files, in pieces of some size, and what it may use. -/
structure Engine where
  chunkSize : Int
  fips : Bool
  storage : Storage
  host : Host

/-- The size of pieces unless another one is chosen. -/
def defaultChunkSize : Int := 8192

/-- The report of a file that could not be opened or read. -/
def unreadable (path : Path) : Log :=
  .error ("Metalink: validating (" ++ path.text ++ ") FAILED")

namespace Engine

/-- The function for a name, unless it is forbidden or unknown. -/
def function (engine : Engine) (algorithm : String) : Except Error LibraryFunction × Log :=
  if lower algorithm = "md5" ∧ engine.fips then
    (.error (.forbiddenDigest algorithm),
      .error "Digest init failed: md5 is disabled in FIPS mode")
  else
    match engine.host.library.find? algorithm with
    | some f => (.ok f, [])
    | none =>
      (.error (.unsupportedDigest algorithm), .error ("Unknown message digest " ++ algorithm))

/-- Digest an opened file.  A function without a length of its own is found out only when
the file has been read. -/
def digestStream (engine : Engine) (stream : Stream) (path : Path) (algorithm : String) :
    Except Failure Bytes × Log :=
  match engine.function algorithm with
  | (.error e, log) => (.error (.error e), log)
  | (.ok f, log) =>
    match stream.read engine.host.memory engine.chunkSize with
    | .error escape => (.error (.escape escape), log)
    | .ok ⟨_, some fault⟩ =>
      (.error (.error (.fileAccess (.readForDigest fault.text) path.text fault.errno)),
        log ++ unreadable path)
    | .ok ⟨pieces, none⟩ =>
      match f.digestPieces? pieces with
      | none => (.error (.escape .noDigestLength), log)
      | some digest =>
        (.ok digest,
          log ++ .debug ("Computed " ++ algorithm ++ " for " ++ path.name ++ ": " ++
            Hex.encode digest))

/-- Digest a file.  It is opened before the algorithm is looked at. -/
def digest (engine : Engine) : Digester := fun path algorithm =>
  match engine.storage.openFile path with
  | .error .nullInPath => (.error (.escape .nullInPath), [])
  | .error (.system fault) =>
    (.error (.error (.fileAccess (.openForDigest fault.text) path.text fault.errno)),
      unreadable path)
  | .ok stream => engine.digestStream stream path algorithm

end Engine

end Metalink.Digest
