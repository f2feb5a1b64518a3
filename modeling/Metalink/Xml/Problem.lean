import Metalink.Xml.Glyph

/-!
# What makes a document malformed

The reasons for which a document is rejected before its content is looked at, and
where in the document the reason lies.
-/

namespace Metalink.Xml

/-- Why a document is malformed. -/
inductive Problem where
  | grammar
  | noElement
  | invalidToken
  | unclosedToken
  | cutCharacter
  | mismatchedTag
  | duplicateAttribute
  | junkAfterElement
  | parameterReference
  | undefinedEntity
  | recursiveEntity
  | asynchronousEntity
  | badCharacterNumber
  | binaryEntity
  | externalInAttribute
  | misplacedDeclaration
  | unusableEncoding
  | wrongEncoding
  | unclosedCdata
  | badDeclaration
  | badPublicId
  | excessiveExpansion
deriving DecidableEq, Repr

/-- The wording of a problem. -/
def Problem.message : Problem → String
  | grammar => "syntax error"
  | noElement => "no element found"
  | invalidToken => "not well-formed (invalid token)"
  | unclosedToken => "unclosed token"
  | cutCharacter => "partial character"
  | mismatchedTag => "mismatched tag"
  | duplicateAttribute => "duplicate attribute"
  | junkAfterElement => "junk after document element"
  | parameterReference => "illegal parameter entity reference"
  | undefinedEntity => "undefined entity"
  | recursiveEntity => "recursive entity reference"
  | asynchronousEntity => "asynchronous entity"
  | badCharacterNumber => "reference to invalid character number"
  | binaryEntity => "reference to binary entity"
  | externalInAttribute => "reference to external entity in attribute"
  | misplacedDeclaration => "XML or text declaration not at start of entity"
  | unusableEncoding => "unknown encoding"
  | wrongEncoding => "encoding specified in XML declaration is incorrect"
  | unclosedCdata => "unclosed CDATA section"
  | badDeclaration => "XML declaration not well-formed"
  | badPublicId => "illegal character(s) in public id"
  | excessiveExpansion =>
    "limit on input amplification factor (from DTD and entities) breached"

/-- A problem and the place where it lies, in bytes from the start of the document. -/
structure Fault where
  problem : Problem
  place : Nat
deriving DecidableEq, Repr

/-- A place in a document: lines count from one and columns from zero. -/
structure Position where
  line : Nat
  column : Nat
deriving DecidableEq, Repr

/-- The place reached after some characters.  A line ends with a line feed, with a
carriage return, or with both in this order. -/
def Position.after (p : Position) : List Char → Position
  | [] => p
  | '\r' :: '\n' :: rest => Position.after ⟨p.line + 1, 0⟩ rest
  | '\r' :: rest => Position.after ⟨p.line + 1, 0⟩ rest
  | '\n' :: rest => Position.after ⟨p.line + 1, 0⟩ rest
  | _ :: rest => Position.after ⟨p.line, p.column + 1⟩ rest

/-- The place of a fault in a document. -/
def Fault.position (fault : Fault) (document : List Glyph) : Position :=
  Position.after ⟨1, 0⟩ (Glyph.chars (document.takeWhile fun g => g.place < fault.place))

end Metalink.Xml
