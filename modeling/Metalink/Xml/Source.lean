import Metalink.Error
import Metalink.Xml.Content
import Metalink.Xml.Declaration
import Metalink.Xml.Epilog
import Metalink.Xml.NamedEncoding
import Metalink.Xml.Prolog

/-!
# Documents as they come

A document comes as text or as bytes in an encoding that it declares itself.  Reading
it gives the events up to where it ends or is at fault.

The events and the verdict depend on nothing but the document.
-/

namespace Metalink.Xml

/-! ## Sources -/

/-- A document before it is read: text, of which it does not matter what it declares about its
encoding, or bytes. -/
inductive Source where
  | text (text : CodeText)
  | bytes (bytes : Bytes)

/-- The bytes of a document; text is encoded in UTF-8, if it can be. -/
def Source.toBytes : Source → Except Unencodable Bytes
  | text t => t.encode.map fun s => s.toUTF8.toList
  | bytes b => .ok b

/-- Whether the declared encoding of a document counts. -/
def Source.declares : Source → Bool
  | text _ => false
  | bytes _ => true

/-- How reading a document came out: it is well-formed, or it is malformed for a reason that lies
at some place, or an encoding cannot be had, the declared one or that of a text. -/
inductive Verdict where
  | wellFormed
  | malformed (problem : Problem) (position : Position)
  | escaped (escape : Escape)
deriving DecidableEq, Repr

/-- The events of a document before the end or the fault, and how reading it came out. -/
structure Tokenized where
  events : List Event
  verdict : Verdict
deriving DecidableEq, Repr

/-- A document that is malformed at some place. -/
def Verdict.ofFault (document : List Glyph) (fault : Fault) : Verdict :=
  .malformed fault.problem (fault.position document)

/-- A document at fault before its first event. -/
def Tokenized.faultAt (document : List Glyph) (fault : Fault) : Tokenized :=
  ⟨[], .ofFault document fault⟩

/-! ## The declared encoding -/

/-- Which encoding a declaration leads to: one to go on with, a problem with the declared one, or
one that cannot be had. -/
inductive Declared where
  | encoding (encoding : Encoding)
  | problem (problem : Problem)
  | escaped (escape : Escape)

/-- The encodings that need no code page, by their names in lower case. -/
def builtInEncodings : List (List Char × Option Encoding) :=
  [("iso-8859-1".toList, some .latin1), ("us-ascii".toList, some .ascii),
    ("utf-8".toList, some .utf8), ("utf-16be".toList, some .utf16be),
    ("utf-16le".toList, some .utf16le), ("utf-16".toList, none)]

/-- Whether two encodings are the same of those with units of two bytes. -/
def sameOrder : Encoding → Encoding → Bool
  | .utf16be, .utf16be => true
  | .utf16le, .utf16le => true
  | _, _ => false

/-- The encoding to go on with when another one is declared in a document. -/
def Declared.ofName (current : Encoding) (name : List Char) : Declared :=
  match builtInEncodings.lookup (name.map Char.toLower) with
  | some none => if current.unitSize = 2 then .encoding current else .problem .wrongEncoding
  | some (some declared) =>
    if declared.unitSize = current.unitSize ∧
        (declared.unitSize = 1 ∨ sameOrder declared current) then .encoding declared
    else .problem .wrongEncoding
  | none =>
    match NamedEncoding.find name with
    | .page page => .encoding (.page page)
    | .unusable => .problem .unusableEncoding
    | .multiByte => .escaped .multiByteEncoding
    | .notText => .escaped (.notTextEncoding (String.ofList name))
    | .strict => .escaped (.strictEncoding (String.ofList name))
    | .undefined => .escaped (.undefinedEncoding (String.ofList name))
    | .asciiBytes => .escaped .asciiBytesEncoding
    | .unknown => .escaped (.unknownEncoding (String.ofList name))

/-! ## Reading a document -/

/-- The characters of the beginning of a document, for counting lines and columns: in
a single-byte encoding every byte of it counts. -/
def leadGlyphs (encoding : Encoding) (lead : Bytes) : List Glyph :=
  match encoding with
  | .utf8 | .utf16be | .utf16le => (encoding.decode 0 lead).glyphs
  | _ => (decodeSingle (fun b => some (Char.ofNat b.toNat)) 0 [] lead).glyphs

/-- How reading came out after the document element was closed. -/
def readEnd (lex : Lexicon) (document : List Glyph) (tally : Tally) (rest : List Glyph) :
    Verdict :=
  match readEpilog lex tally 0 rest with
  | .error late => .malformed late.fault.problem (late.position document)
  | .ok () => .wellFormed

/-- Read a document from the place after its XML declaration. -/
def readBody (encoding : Encoding) (standalone : Bool) (lead body : Bytes) : Tokenized :=
  let start := lead.length
  let decoded := encoding.decode start body
  let lex : Lexicon := ⟨decoded.tail, encoding, decoded.stop, true⟩
  let document := leadGlyphs encoding lead ++ decoded.glyphs
  match readProlog lex .before (.empty standalone) ⟨start, 0, 0⟩ decoded.glyphs with
  | .error fault => .faultAt document fault
  | .ok ⟨dtd, tally, content⟩ =>
    match readContent lex dtd tally content with
    | (progress, .fault fault) => ⟨progress.output.delivered, .ofFault document fault⟩
    | (progress, .finished) => ⟨progress.output.delivered, .wellFormed⟩
    | (progress, .closed rest) =>
      ⟨progress.output.delivered, readEnd lex document progress.tally rest⟩

/-- The XML declaration at the front of a document: what is between its target and
its end, and the place after it. -/
def splitDeclaration (lex : Lexicon) (cs : List Glyph) :
    Except Fault (Option (List Glyph × Nat)) :=
  match cs with
  | ⟨'<', place⟩ :: ⟨'?', _⟩ :: rest =>
    match scanInstruction lex rest with
    | .error o => .error (o.fault place)
    | .ok (.declaration, after) =>
      let stop := lex.placeOf after
      let inner := (rest.drop 3).takeWhile fun g => g.place + 2 * lex.encoding.unitSize < stop
      .ok (some (inner, stop))
    | .ok _ => .ok none
  | _ => .ok none

/-- Read bytes in a recognised encoding, with a byte order mark of some length.  What they declare
about their encoding may count or not. -/
def readRecognised (declares : Bool) (bytes : Bytes) (encoding : Encoding) (mark : Nat) :
    Tokenized :=
  let decoded := encoding.decode mark (bytes.drop mark)
  let document := leadGlyphs encoding (bytes.take mark) ++ decoded.glyphs
  let lex : Lexicon := ⟨decoded.tail, encoding, decoded.stop, true⟩
  match splitDeclaration lex decoded.glyphs with
  | .error fault => .faultAt document fault
  | .ok none => readBody encoding false (bytes.take mark) (bytes.drop mark)
  | .ok (some (inner, stop)) =>
    match Declaration.ofGlyphs (lex.upTo (stop - 2 * encoding.unitSize)) inner with
    | .error place => .faultAt document ⟨.badDeclaration, place⟩
    | .ok declaration =>
      let body (encoding : Encoding) : Tokenized :=
        readBody encoding declaration.standalone (bytes.take stop) (bytes.drop stop)
      match declaration.encoding with
      | none => body encoding
      | some (name, place) =>
        if !declares then body encoding
        else
          match Declared.ofName encoding name with
          | .encoding encoding => body encoding
          | .problem problem => .faultAt document ⟨problem, place⟩
          | .escaped escape => ⟨[], .escaped escape⟩

/-- Read the bytes of a document. -/
def readBytes (declares : Bool) (bytes : Bytes) : Tokenized :=
  match Signature.ofBytes bytes with
  | .empty => ⟨[], .malformed .noElement ⟨1, 0⟩⟩
  | .tooShort => ⟨[], .malformed .unclosedToken ⟨1, 0⟩⟩
  | .found encoding mark => readRecognised declares bytes encoding mark

/-- Read a document. -/
def Source.tokenize (source : Source) : Tokenized :=
  match source.toBytes with
  | .error fault => ⟨[], .escaped (.unencodable fault)⟩
  | .ok content => readBytes source.declares content

end Metalink.Xml
