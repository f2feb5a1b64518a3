import Metalink.Reader.Machine
import Metalink.Xml.Source

/-!
# Reading a metalink

A metalink is read from its source in one go.  That the source is not well-formed is
reported before anything that is wrong with its elements.

A source that is not well-formed is never accepted, and otherwise the first element at
fault decides.
-/

namespace Metalink

/-- Reading a document from beginning to end: the document or why it was not accepted, how far
it was read, and what was noted. -/
structure ParseRun where
  outcome : Except Failure Document
  reader : Reader
  log : Log

namespace Reader

/-- A reader for documents that describe a given file, whose name is not empty. -/
def ofName? (expected : String) : Except Error Reader :=
  if expected = "" then .error .emptyExpectedName else .ok (.start expected)

/-- What has been read, unless an element is at fault. -/
def result (reader : Reader) : Except Failure Document :=
  match reader.fault with
  | some fault => .error (.error (.content fault))
  | none => .ok reader.document

/-- The report of a source that is not well-formed. -/
def malformedRecord (problem : Xml.Problem) (position : Xml.Position) : Log :=
  .error ("Malformed metalink document: " ++ problem.message ++ ": line " ++
    toString position.line ++ ", column " ++ toString position.column)

/-- Read a source whose events and verdict are given. -/
def parseTokenized (reader : Reader) (tokenized : Xml.Tokenized) : ParseRun :=
  let reaction := reader.run tokenized.events
  match reaction.escape with
  | some escape => ⟨.error (.escape escape), reaction.reader, reaction.log⟩
  | none =>
    match tokenized.verdict with
    | .malformed problem position =>
      ⟨.error (.error (.malformed problem.message (some position.line)
          (some position.column))),
        reaction.reader, reaction.log ++ malformedRecord problem position⟩
    | .escaped escape => ⟨.error (.escape escape), reaction.reader, reaction.log⟩
    | .wellFormed => ⟨reaction.reader.result, reaction.reader, reaction.log⟩

/-- Read a source. -/
def parse (reader : Reader) (source : Xml.Source) : ParseRun :=
  reader.parseTokenized source.tokenize

end Reader

/-- Read a metalink that must describe a given file. -/
def parse (source : Xml.Source) (expected : String) : Except Failure Document × Log :=
  match Reader.ofName? expected with
  | .error e => (.error (.error e), [])
  | .ok reader =>
    let run := reader.parse source
    (run.outcome, run.log)

/-- Read the metalink in a file.  The file is read before anything else. -/
def parseFile (storage : Storage) (path : Path) (expected : String) :
    Except Failure Document × Log :=
  match storage.readFile path with
  | .error .nullInPath => (.error (.escape .nullInPath), [])
  | .error (.system fault) =>
    (.error (.error (.fileAccess (.readDocument fault.text) path.text fault.errno)), [])
  | .ok content => parse (.bytes content) expected

end Metalink
