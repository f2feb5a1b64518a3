import Metalink.Document
import Metalink.Error
import Metalink.Log
import Metalink.Reader.Attributes
import Metalink.Schema.Records
import Metalink.Text.Numeral

/-!
# What an element contributes

Four elements carry content: `file`, `size`, `hash` and `url`.  Each run of text in
one of them is taken together with the element's attributes and either adds to the
document or is at fault.  An element at fault leaves the document as it was.
-/

namespace Metalink

open Metalink.Text

/-! ## Elements with content -/

/-- The elements that carry content. -/
inductive Role where
  | file
  | size
  | hash
  | url
deriving DecidableEq, Repr

/-- The role of an element by its name. -/
def Role.ofName? (name : String) : Option Role :=
  if name = "file" then some .file
  else if name = "size" then some .size
  else if name = "hash" then some .hash
  else if name = "url" then some .url
  else none

/-! ## Taking content -/

/-- Why content could not be taken: the element is at fault, or taking it fails in a way that
is not reported. -/
inductive Trouble where
  | fault (fault : ContentFault)
  | escape (escape : Escape)
deriving DecidableEq, Repr

/-- The document with the content taken, or why it could not be; and what there is
to note. -/
abbrev Taken := Except Trouble Document × Log

/-- Content is at fault. -/
def Taken.atFault (fault : ContentFault) : Taken :=
  (.error (.fault fault), [])

/-- A file element must name the expected file; its text does not matter. -/
def takeFile (expected : String) (attributes : List String) (doc : Document) : Taken :=
  match findAttribute "name" attributes with
  | none => .atFault .missingFileName
  | some name =>
    if name ≠ expected then .atFault (.unexpectedFile expected name)
    else (.ok { doc with filename := some name }, [])

/-- The size is an integer. -/
def takeNumeral (numeral : String) (doc : Document) : Taken :=
  if numeral = "" then .atFault .missingSize
  else
    match readInteger numeral with
    | .notNumeral => .atFault (.badSize numeral)
    | .tooLong digits => (.error (.escape (.tooManyDigits digits)), [])
    | .value size => (.ok { doc with size := some size }, [])

/-- The text of a size element is a numeral, which consists of characters. -/
def takeSize (text : CodeText) (doc : Document) : Taken :=
  let text := text.trim
  match text.string? with
  | none => .atFault (.badSize text)
  | some numeral => takeNumeral numeral doc

/-- What there is to note about a hash of some type. -/
def noteHashType (type : String) : Log :=
  if HashType.ofName type = .unsupported then
    .debug ("Keeping hash of unsupported type " ++ quoted type)
  else []

/-- A hash element has a type, and a text that is not blank.  The record that is built of them
refuses a text that cannot be encoded. -/
def takeHash (attributes : List String) (text : CodeText) (doc : Document) : Taken :=
  match findAttribute "type" attributes with
  | none => .atFault .missingHashType
  | some type =>
    let value := text.trim
    if value = ("" : String) then .atFault .missingHashValue
    else
      match Schema.buildHash type value with
      | .ok hash => (.ok { doc with hashes := doc.hashes ++ [hash] }, noteHashType type)
      | .error violations => (.error (.escape (.refused violations)), noteHashType type)

/-- The preference of a mirror is an integer in range, and the least one unless it
is given. -/
def readPreference (attributes : List String) : Except Trouble Int :=
  match findAttribute "preference" attributes with
  | none => .ok Mirror.minPreference
  | some raw =>
    match readInteger (trim raw) with
    | .notNumeral => .error (.fault (.badPreference raw))
    | .tooLong digits => .error (.escape (.tooManyDigits digits))
    | .value n =>
      if Mirror.minPreference ≤ n ∧ n ≤ Mirror.maxPreference then .ok n
      else .error (.fault (.preferenceOutOfRange n))

/-- An address gives a mirror, unless it is too short to be one. -/
def takeAddress (attributes : List String) (url : String) (doc : Document) : Taken :=
  if url.utf8ByteSize ≤ Mirror.minUrlBytes then
    (.ok doc, if url = "" then [] else .debug ("Ignoring too short mirror url " ++ quoted url))
  else
    match readPreference attributes with
    | .error trouble => (.error trouble, [])
    | .ok preference =>
      (.ok { doc with
        mirrors := doc.mirrors ++
          [⟨url, findAttribute "protocol" attributes, findAttribute "type" attributes,
            findAttribute "location" attributes, preference⟩] }, [])

/-- The text of a url element is an address, which is encoded before it is looked at. -/
def takeUrl (attributes : List String) (text : CodeText) (doc : Document) : Taken :=
  match text.trim.encode with
  | .error fault => (.error (.escape (.unencodable fault)), [])
  | .ok url => takeAddress attributes url doc

/-- Take a run of text in an element with content. -/
def Role.take (role : Role) (expected : String) (attributes : List String)
    (text : CodeText) (doc : Document) : Taken :=
  match role with
  | file => takeFile expected attributes doc
  | size => takeSize text doc
  | hash => takeHash attributes text doc
  | url => takeUrl attributes text doc

end Metalink
