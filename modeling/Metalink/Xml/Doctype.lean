import Metalink.Xml.Expansion
import Metalink.Xml.Token

/-!
# Declared entities and attributes

What the document type declares for the content that follows: general entities,
which references stand for, and attributes with their types and defaults.

The first declaration of a name counts, and an entity never contributes to its own
text.
-/

namespace Metalink.Xml

/-! ## Declarations -/

/-- A general entity: with its text inside, in another file, or in another file that is no
markup. -/
inductive Entity where
  | inside (text : List Glyph)
  | outside
  | unparsed
deriving DecidableEq, Repr

/-- A declared attribute of an element: whether its values are plain text, in which all spaces
count, and its value where it is not written. -/
structure AttributeRule where
  element : List Char
  name : List Char
  isText : Bool
  default : Option (List Char)
deriving DecidableEq, Repr

/-- The declarations of a document: general entities by name, and attributes in the order of
their declarations.  Further declarations may stand elsewhere, which are not read; the document
may claim that it does not need them; and declarations may count no more. -/
structure Doctype where
  entities : List (List Char × Entity)
  rules : List AttributeRule
  hasMore : Bool
  standalone : Bool
  counting : Bool
deriving DecidableEq, Repr

namespace Doctype

/-- A document that declares nothing. -/
def empty (standalone : Bool) : Doctype := ⟨[], [], false, standalone, true⟩

/-- Further declarations stand elsewhere. -/
def withMore (dtd : Doctype) : Doctype := { dtd with hasMore := true }

/-- A parameter entity was referred to and not read: what follows counts only in a
document that stands alone. -/
def withUnread (dtd : Doctype) : Doctype :=
  { dtd with hasMore := true, counting := dtd.standalone }

/-- Whether every entity that is referred to must have been declared. -/
def mustDeclare (dtd : Doctype) : Bool :=
  !dtd.hasMore || dtd.standalone

/-- Declare an entity, unless its name is taken. -/
def declare (dtd : Doctype) (name : List Char) (entity : Entity) : Doctype :=
  if !dtd.counting || (predefined? name).isSome || (dtd.entities.lookup name).isSome then dtd
  else { dtd with entities := (name, entity) :: dtd.entities }

/-- The declaration of an attribute of an element. -/
def rule? (dtd : Doctype) (element name : List Char) : Option AttributeRule :=
  dtd.rules.find? fun r => r.element = element ∧ r.name = name

/-- Declare an attribute, unless the element has one of that name. -/
def declareAttribute (dtd : Doctype) (rule : AttributeRule) : Doctype :=
  if !dtd.counting || (dtd.rule? rule.element rule.name).isSome then dtd
  else { dtd with rules := dtd.rules ++ [rule] }

/-- Whether the values of an attribute are plain text. -/
def isText (dtd : Doctype) (element name : List Char) : Bool :=
  match dtd.rule? element name with
  | some rule => rule.isText
  | none => true

/-- The attributes of an element that have a default. -/
def defaults (dtd : Doctype) (element : List Char) : List (List Char × List Char) :=
  dtd.rules.filterMap fun r =>
    if r.element = element then r.default.map fun value => (r.name, value) else none

/-! ## References to entities -/

/-- What a reference to an entity stands for: one character, the text of the entity, an entity
that cannot be looked up and is left out, an entity in another file, or a problem. -/
inductive Meaning where
  | char (c : Char)
  | text (text : List Glyph)
  | unknown
  | outside
  | problem (problem : Problem)
deriving DecidableEq, Repr

/-- Look up an entity while the texts of some others are being read. -/
def meaning (dtd : Doctype) (opened : List (List Char)) (name : List Char) : Meaning :=
  match predefined? name with
  | some c => .char c
  | none =>
    match dtd.entities.lookup name with
    | none => if dtd.mustDeclare then .problem .undefinedEntity else .unknown
    | some entity =>
      if opened.contains name then .problem .recursiveEntity
      else
        match entity with
        | .inside text => .text text
        | .outside => .outside
        | .unparsed => .problem .binaryEntity

/-- Entities can be nested no deeper than there are entities. -/
def depth (dtd : Doctype) : Nat := dtd.entities.length + 1

/-! ## Values of attributes -/

/-- A problem in a value, with the place of the reference that it lies at, if it does not
lie deeper. -/
structure ValueProblem where
  problem : Problem
  place : Option Nat
deriving Repr

/-- A value in the making: the characters so far, the last one first, and what has been read so
far. -/
structure Composition where
  value : List Char
  tally : Tally
deriving Repr

namespace Composition

/-- Add characters. -/
def addRun (made : Composition) (run : List Char) : Composition :=
  { made with value := run.reverse ++ made.value }

/-- Add a space.  Where not all spaces count, there is none in front and only one at a
time. -/
def addSpace (made : Composition) (isText : Bool) : Composition :=
  if !isText && (made.value.head?.getD ' ') == ' ' then made else made.addRun [' ']

/-- The value in order.  Where not all spaces count, there is none at the end. -/
def finished (made : Composition) (isText : Bool) : List Char :=
  (if !isText && made.value.head? == some ' ' then made.value.tail else made.value).reverse

end Composition

/-- Add what a reference stands for to a value.  `inside` adds the text of an entity. -/
def addReference (dtd : Doctype) (isText : Bool) (opened : List (List Char))
    (inside : List Char → List Glyph → Composition → Except Problem Composition)
    (made : Composition) (ref : Reference) (place : Nat) : Except ValueProblem Composition :=
  match ref with
  | .number none => .error ⟨.badCharacterNumber, some place⟩
  | .number (some c) => .ok (if c = ' ' then made.addSpace isText else made.addRun [c])
  | .entity name =>
    match dtd.meaning opened name with
    | .char c => .ok { made.addRun [c] with tally := made.tally.expand 1 }
    | .unknown => .ok made
    | .outside => .error ⟨.externalInAttribute, some place⟩
    | .problem .binaryEntity => .error ⟨.binaryEntity, some place⟩
    | .problem problem => .error ⟨problem, none⟩
    | .text text =>
      match inside name text made with
      | .ok made => .ok made
      | .error problem => .error ⟨problem, none⟩

/-- Add a piece to a value. -/
def addPiece (dtd : Doctype) (isText : Bool) (opened : List (List Char))
    (inside : List Char → List Glyph → Composition → Except Problem Composition)
    (made : Composition) : Piece → Except ValueProblem Composition
  | .run run _ => .ok (made.addRun run)
  | .space _ _ => .ok (made.addSpace isText)
  | .reference ref place _ => dtd.addReference isText opened inside made ref place

/-- Add pieces to a value in turn, each of which is charged first. -/
def addPieces (dtd : Doctype) (isText : Bool) (opened : List (List Char)) (charge : Charge)
    (inside : List Char → List Glyph → Composition → Except Problem Composition)
    (made : Composition) : List Piece → Except ValueProblem Composition
  | [] => .ok made
  | piece :: rest =>
    match charge.add piece.size made.tally with
    | .error problem => .error ⟨problem, none⟩
    | .ok tally =>
      match dtd.addPiece isText opened inside { made with tally := tally } piece with
      | .error problem => .error problem
      | .ok made => dtd.addPieces isText opened charge inside made rest

/-- Add the text of an entity to a value, through no more than so many levels of
further entities. -/
def addEntity (dtd : Doctype) (isText : Bool) : (depth : Nat) → (opened : List (List Char)) →
    (name : List Char) → (text : List Glyph) → Composition → Except Problem Composition
  | 0, _, _, _, _ => .error .recursiveEntity
  | depth + 1, opened, name, text, made =>
    match scanPieces (.inner text) none [] text with
    | (pieces, ending) =>
      match dtd.addPieces isText (name :: opened) .entity
        (dtd.addEntity isText depth (name :: opened)) made pieces with
      | .error p => .error p.problem
      | .ok made =>
        match ending with
        | .ok _ => .ok made
        | .error _ => .error .invalidToken

/-- The value that pieces make up, which are charged one by one. -/
def composed (dtd : Doctype) (isText : Bool) (opened : List (List Char)) (charge : Charge)
    (tally : Tally) (pieces : List Piece) : Except ValueProblem (List Char × Tally) :=
  match dtd.addPieces isText opened charge (dtd.addEntity isText dtd.depth opened)
    ⟨[], tally⟩ pieces with
  | .error p => .error p
  | .ok made => .ok (made.finished isText, made.tally)

/-! ## Attributes of a start tag -/

/-- The attributes of an element with their values, in the order of the tag, and what has been
read so far. -/
structure Attributes where
  values : List (List Char × List Char)
  tally : Tally
deriving Repr

/-- The value of an attribute written in a start tag.  A value that reads as it is
written is not read once more. -/
def valueOf (dtd : Doctype) (opened : List (List Char)) (charge : Charge) (tally : Tally)
    (element : List Char) (raw : RawAttribute) : Except ValueProblem (List Char × Tally) :=
  dtd.composed (dtd.isText element raw.name) opened
    (if isNormal raw.value then .free else charge) tally raw.value

/-- The attributes written in a start tag, with their values, after those read before in
reverse order.  A name may be written only once, which is looked at before its value is. -/
def writtenAttributes (dtd : Doctype) (opened : List (List Char)) (charge : Charge)
    (element : List Char) (tag : Nat) (before : Attributes) :
    List RawAttribute → Except Fault Attributes
  | [] => .ok { before with values := before.values.reverse }
  | raw :: rest =>
    if before.values.any fun p => p.1 == raw.name then
      .error ⟨.duplicateAttribute, raw.place⟩
    else
      match dtd.valueOf opened charge before.tally element raw with
      | .error p => .error ⟨p.problem, p.place.getD tag⟩
      | .ok (value, tally) =>
        dtd.writtenAttributes opened charge element tag
          ⟨(raw.name, value) :: before.values, tally⟩ rest

/-- All attributes of a start tag at some place: the written ones in order, and then the
defaults of those that are not written. -/
def attributesOf (dtd : Doctype) (opened : List (List Char)) (charge : Charge)
    (tally : Tally) (element : List Char) (tag : Nat) (raws : List RawAttribute) :
    Except Fault Attributes :=
  match dtd.writtenAttributes opened charge element tag ⟨[], tally⟩ raws with
  | .error fault => .error fault
  | .ok ⟨written, tally⟩ =>
    let absent := (dtd.defaults element).filter fun d => !written.any fun p => p.1 == d.1
    .ok ⟨written ++ absent, tally⟩

/-! ## Texts of entities -/

/-- The text that an entity is declared with, after what was read before in reverse
order: references to characters are replaced and line ends made uniform, and
references to entities are kept.  No parameter entity may be referred to. -/
def entityText (lex : Lexicon) (before : List Char) (cs : List Glyph) :
    Except Fault (List Char) :=
  match cs with
  | [] => .ok before.reverse
  | g :: rest =>
    if g.char = '&' then
      match _h : scanReference lex rest with
      | .error (.invalid there) => .error ⟨.invalidToken, there⟩
      | .error _ => .error ⟨.invalidToken, g.place⟩
      | .ok (.number none, _) => .error ⟨.badCharacterNumber, g.place⟩
      | .ok (.number (some d), after) => entityText lex (d :: before) after
      | .ok (.entity name, after) =>
        entityText lex (';' :: (name.reverse ++ '&' :: before)) after
    else if g.char = '%' then
      match scanNameSemicolon lex rest with
      | .error (.invalid there) => .error ⟨.invalidToken, there⟩
      | .error _ => .error ⟨.invalidToken, g.place⟩
      | .ok _ => .error ⟨.parameterReference, g.place⟩
    else if g.char = '\r' then entityText lex ('\n' :: before) (afterReturn rest)
    else entityText lex (g.char :: before) rest
termination_by cs.length
decreasing_by
  · have := scanReference_lt _h
    simp only [List.length_cons]
    omega
  · have := scanReference_lt _h
    simp only [List.length_cons]
    omega
  · have := afterReturn_le rest
    simp only [List.length_cons]
    omega
  · simp only [List.length_cons]
    omega

end Doctype

end Metalink.Xml
