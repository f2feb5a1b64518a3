import Metalink.Digest.Engine
import Metalink.Document

/-!
# Verifying a file

A file is verified against the strongest supported algorithm that a document has
hashes for.  Any well-formed hash of that algorithm may match; malformed ones are
passed over, and weaker algorithms never count.  The file is digested at most once.

A run is determined by the hashes of the best algorithm, in order, and by the digest,
and its steps tell what was compared.

Current gaps:

- How long a verification took is left out.
-/

namespace Metalink

open Metalink.Digest

/-! ## Results -/

/-- A hash that a file was found to match: its algorithm, its type as announced, the digest as
published, the digest of the file, and how many hashes were compared, this one included. -/
structure Verification where
  algorithm : Algorithm
  hashType : String
  expected : String
  calculated : String
  tried : Int
deriving DecidableEq, Repr

/-- The published and the calculated digest are the same text up to letter case. -/
def Verification.isValid (v : Verification) : Bool :=
  Text.lower v.expected == Text.lower v.calculated

/-! ## The best algorithm -/

/-- The stronger of an algorithm found before and another one. -/
def stronger (best : Option Algorithm) (a : Algorithm) : Algorithm :=
  match best with
  | some b => if b.rank < a.rank then a else b
  | none => a

/-- The strongest algorithm among the hashes and one found before.  A hash with an
empty type is an error wherever it stands. -/
def strongestFrom : Option Algorithm → List Hash → Except Error (Option Algorithm)
  | best, [] => .ok best
  | best, h :: rest =>
    match HashType.ofName h.type with
    | .unnamed => .error .emptyHashType
    | .unsupported => strongestFrom best rest
    | .supported a => strongestFrom (some (stronger best a)) rest

/-- The strongest supported algorithm that there are hashes for. -/
def selectBest (hashes : List Hash) : Except Error Algorithm :=
  match strongestFrom none hashes with
  | .error e => .error e
  | .ok none => .error .noUsableHash
  | .ok (some a) => .ok a

/-! ## Runs -/

/-- What happens in the course of a verification: the verifier writes a record of its own, or the
digester is called, and writes records. -/
inductive VerifyStep where
  | wrote (record : LogRecord)
  | called (path : Path) (algorithm : String) (log : Log)
deriving DecidableEq, Repr

/-- The records of a step, whoever wrote them. -/
def VerifyStep.log : VerifyStep → Log
  | wrote record => [record]
  | called _ _ log => log

/-- The call of the digester that a step is. -/
def VerifyStep.call? : VerifyStep → Option (Path × String)
  | wrote _ => none
  | called path algorithm _ => some (path, algorithm)

/-- A verification from beginning to end: the hash that matched, or why none did, and what
happened, in order. -/
structure VerifyRun where
  outcome : Except Failure Verification
  steps : List VerifyStep

namespace VerifyRun

/-- All records of a run. -/
def log (run : VerifyRun) : Log :=
  run.steps.flatMap VerifyStep.log

/-- All calls of the digester. -/
def calls (run : VerifyRun) : List (Path × String) :=
  run.steps.filterMap VerifyStep.call?

/-- A run that is over before anything happens. -/
def failed (error : Error) : VerifyRun := ⟨.error (.error error), []⟩

/-- A run with a step in front. -/
def after (step : VerifyStep) (run : VerifyRun) : VerifyRun :=
  ⟨run.outcome, step :: run.steps⟩

/-- A run with a record of the verifier in front. -/
def afterRecord (level : LogLevel) (message : String) (run : VerifyRun) : VerifyRun :=
  run.after (.wrote ⟨level, message⟩)

end VerifyRun

/-! ## Candidates -/

/-- What stays the same while candidates are compared: what digests the file, the file, and the
best algorithm. -/
structure VerifyJob where
  digester : Digester
  path : Path
  algorithm : Algorithm

namespace VerifyJob

/-- No candidate matched. -/
def mismatch (job : VerifyJob) (tried skipped : Nat) : VerifyRun :=
  .afterRecord .error
    ("Error: Validating metalink (" ++ job.path.text ++ ") FAILED (digest mismatch)")
    (.failed (.checksumMismatch job.path.text job.algorithm.canonicalName tried skipped))

/-- A candidate matched. -/
def matched (job : VerifyJob) (hash : Hash) (digest : Bytes) (tried : Nat) : VerifyRun :=
  .afterRecord .debug
    ("Metalink hash verified for " ++ job.path.name ++ " (" ++ hash.type ++ ")")
    ⟨.ok ⟨job.algorithm, hash.type, hash.value, Hex.encode digest, tried⟩, []⟩

/-- The warning for a candidate that differs from the digest of the file. -/
def mismatchMessage (hash : Hash) (digest : Bytes) : String :=
  hash.type ++ " mismatch: expected " ++ Text.lower hash.value ++ ", got " ++ Hex.encode digest

/-- The note for a candidate that is no digest of the algorithm. -/
def skipMessage (hash : Hash) : String :=
  "Skipping malformed " ++ hash.type ++ " digest: " ++ Text.quoted hash.value

/-- Compare a decoded hash with the digest of the file, and go on if they differ. -/
def compareOne (job : VerifyJob) (expected : Bytes) (hash : Hash) (digest : Bytes)
    (tried : Nat) (goOn : Nat → VerifyRun) : VerifyRun :=
  if expected = digest then job.matched hash digest (tried + 1)
  else .afterRecord .warning (mismatchMessage hash digest) (goOn (tried + 1))

/-- Compare the remaining hashes.  `known` is the digest of the file once it has been
calculated; `tried` and `skipped` count the candidates seen so far. -/
def compareAll (job : VerifyJob) : (known : Option Bytes) → (tried skipped : Nat) →
    List Hash → VerifyRun
  | _, tried, skipped, [] => job.mismatch tried skipped
  | known, tried, skipped, hash :: rest =>
    if HashType.ofName hash.type ≠ .supported job.algorithm then
      job.compareAll known tried skipped rest
    else if Hex.isDigest hash.value job.algorithm.digestLength = false then
      .afterRecord .debug (skipMessage hash) (job.compareAll known tried (skipped + 1) rest)
    else
      match Hex.decode hash.value with
      | .error fault => .failed (.hex fault)
      | .ok expected =>
        match known with
        | some digest => job.compareOne expected hash digest tried fun tried =>
            job.compareAll known tried skipped rest
        | none =>
          match job.digester job.path job.algorithm.canonicalName with
          | (.error failure, log) =>
            ⟨.error failure, [.called job.path job.algorithm.canonicalName log]⟩
          | (.ok digest, log) =>
            .after (.called job.path job.algorithm.canonicalName log)
              (job.compareOne expected hash digest tried fun tried =>
                job.compareAll (some digest) tried skipped rest)

end VerifyJob

/-- Verify a file against the hashes of a document. -/
def verify (digester : Digester) (path : Path) (hashes : List Hash) : VerifyRun :=
  match selectBest hashes with
  | .error e => .failed e
  | .ok algorithm =>
    .afterRecord .debug
      ("Selected " ++ algorithm.canonicalName ++ " for verifying " ++ path.name)
      (VerifyJob.compareAll ⟨digester, path, algorithm⟩ none 0 0 hashes)

end Metalink
