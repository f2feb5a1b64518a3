import Metalink.Xml.Doctype
import Metalink.Xml.TextBuffer

/-!
# Content

The content of a document, and that of the texts of entities, is read token by token
into events.  References to entities are replaced by reading their texts in place, and
every token is counted where it comes from.

The events before a fault do not depend on what follows it, and the text of an entity
leaves no element open.
-/

namespace Metalink.Xml

/-! ## State -/

/-- How far content has been read: what has been delivered, and what has been read. -/
structure Progress where
  output : Output
  tally : Tally
deriving Repr

namespace Progress

/-- Take a run of text, whole or in pieces. -/
def addRun (progress : Progress) (whole : Bool) (run : List Char) : Progress :=
  { progress with output := progress.output.addRun whole run }

/-- Take one character. -/
def addChar (progress : Progress) (c : Char) : Progress :=
  { progress with output := progress.output.addPiece [c] }

/-- Deliver a tag after the text before it. -/
def addTag (progress : Progress) (tag : Event) : Progress :=
  { progress with output := progress.output.addTag tag }

end Progress

/-- Why reading content stopped: there is a fault, the document element was closed, with what
follows it, or the text of an entity was read to its end. -/
inductive Ending where
  | fault (fault : Fault)
  | closed (rest : List Glyph)
  | finished
deriving Repr

/-- The ending at a token at some place that met an obstacle, in content or in a CDATA
section. -/
def Obstacle.ending (obstacle : Obstacle) (inCdata : Bool) (place : Nat) : Ending :=
  if inCdata ∧ obstacle = .unfinished then .fault ⟨.unclosedCdata, place⟩
  else .fault (obstacle.fault place)

/-- What reading content depends on: how the input is scanned, the declarations, and the entities
whose texts are being read, innermost first; none for the document itself. -/
structure Scope where
  lex : Lexicon
  dtd : Doctype
  opened : List (List Char)

namespace Scope

/-- Whether runs of text are handed on whole. -/
def whole (scope : Scope) : Bool :=
  scope.lex.encoding.keepsText

/-- Count a token between two places. -/
def count (scope : Scope) (tally : Tally) (start stop : Nat) : Except Problem Tally :=
  if scope.lex.isDocument then (tally.reach stop).check
  else (tally.expand (stop - start)).check

/-- To which account values in a start tag go; the tag of an empty element has been
counted with them. -/
def charge (scope : Scope) (isEmpty : Bool) : Charge :=
  if isEmpty then .free else if scope.lex.isDocument then .document else .entity

/-- The ending where nothing is left to read, with some elements open; `place` is where
a document then is at fault. -/
def atEnd (scope : Scope) (elements : List (List Char)) (place : Nat) : Ending :=
  if scope.opened.isEmpty then .fault ⟨.noElement, place⟩
  else if elements.isEmpty then .finished
  else .fault ⟨.asynchronousEntity, place⟩

/-- The ending at the end of the characters, in content or in a CDATA section. -/
def exhausted (scope : Scope) (elements : List (List Char)) (inCdata : Bool) : Ending :=
  if scope.lex.tail = .done ∧ !inCdata then scope.atEnd elements scope.lex.stop
  else scope.lex.within.ending inCdata scope.lex.stop

end Scope

/-! ## Steps -/

/-- What a token leads to: going on, with some elements open, in content or in a CDATA section,
or stopping. -/
inductive ContentStep where
  | go (progress : Progress) (elements : List (List Char)) (inCdata : Bool)
  | stop (progress : Progress) (ending : Ending)

/-- Names and values as one flat list of texts. -/
def flatAttributes (attributes : List (List Char × List Char)) : List String :=
  attributes.flatMap fun p => [String.ofList p.1, String.ofList p.2]

/-- How the text of an entity is read, given its name. -/
abbrev EntityReader := List Char → List Glyph → Progress → Progress × Ending

namespace Scope

/-- Close the innermost element, which ends the document if none is left in it. -/
def close (scope : Scope) (progress : Progress) (name : List Char)
    (elements : List (List Char)) (rest : List Glyph) : ContentStep :=
  let progress := progress.addTag (.closed (String.ofList name))
  if scope.opened.isEmpty && elements.isEmpty then .stop progress (.closed rest)
  else .go progress elements false

/-- A start tag.  The tag of an empty element closes it too. -/
def startStep (scope : Scope) (progress : Progress) (elements : List (List Char))
    (name : List Char) (raws : List RawAttribute) (isEmpty : Bool) (place : Nat)
    (rest : List Glyph) : ContentStep :=
  match scope.dtd.attributesOf scope.opened (scope.charge isEmpty) progress.tally name place
    raws with
  | .error fault => .stop progress (.fault fault)
  | .ok ⟨attributes, tally⟩ =>
    let opened := Event.opened (String.ofList name) (flatAttributes attributes)
    let progress := { progress.addTag opened with tally := tally }
    if isEmpty then scope.close progress name elements rest
    else .go progress (name :: elements) false

/-- An end tag, which must match the innermost element opened in the same text. -/
def endStep (scope : Scope) (progress : Progress) (elements : List (List Char))
    (name : List Char) (namePlace place : Nat) (rest : List Glyph) : ContentStep :=
  match elements with
  | [] => .stop progress (.fault ⟨.asynchronousEntity, place⟩)
  | innermost :: others =>
    if innermost = name then scope.close progress name others rest
    else .stop progress (.fault ⟨.mismatchedTag, namePlace⟩)

/-- A reference.  `inside` reads the text of an entity. -/
def referenceStep (scope : Scope) (inside : EntityReader) (progress : Progress)
    (elements : List (List Char)) (ref : Reference) (place : Nat) : ContentStep :=
  match ref with
  | .number none => .stop progress (.fault ⟨.badCharacterNumber, place⟩)
  | .number (some c) => .go (progress.addChar c) elements false
  | .entity name =>
    match scope.dtd.meaning scope.opened name with
    | .char c =>
      .go { progress.addChar c with tally := progress.tally.expand 1 } elements false
    | .unknown => .go progress elements false
    | .outside => .go progress elements false
    | .problem problem => .stop progress (.fault ⟨problem, place⟩)
    | .text text =>
      match inside name text progress with
      | (progress, .fault fault) => .stop progress (.fault ⟨fault.problem, place⟩)
      | (progress, _) => .go progress elements false

/-- What a token at some place leads to, given the rest of the input after it. -/
def step (scope : Scope) (inside : EntityReader) (progress : Progress)
    (elements : List (List Char)) (inCdata : Bool) (token : Token) (place : Nat)
    (rest : List Glyph) : ContentStep :=
  match token with
  | .text run => .go (progress.addRun scope.whole run) elements inCdata
  | .trailing run =>
    .stop (progress.addRun scope.whole run) (scope.atEnd elements scope.lex.stop)
  | .lineEnd => .go (progress.addChar '\n') elements inCdata
  | .trailingLineEnd => .stop (progress.addChar '\n') (scope.atEnd elements place)
  | .reference ref => scope.referenceStep inside progress elements ref place
  | .startTag name raws isEmpty =>
    scope.startStep progress elements name raws isEmpty place rest
  | .endTag name namePlace => scope.endStep progress elements name namePlace place rest
  | .cdata => .go progress elements true
  | .cdataEnd => .go progress elements false
  | .ignored => .go progress elements inCdata
  | .declaration => .stop progress (.fault ⟨.misplacedDeclaration, place⟩)

/-! ## Reading -/

/-- Read content, with some elements open, or from within a CDATA section. -/
def read (scope : Scope) (inside : EntityReader) (progress : Progress)
    (elements : List (List Char)) (inCdata : Bool) (cs : List Glyph) : Progress × Ending :=
  match cs with
  | [] => (progress, scope.exhausted elements inCdata)
  | g :: rest =>
    match _h : scanNext scope.lex inCdata g rest with
    | .error o => (progress, o.ending inCdata g.place)
    | .ok (token, after) =>
      match scope.count progress.tally g.place (scope.lex.placeOf after) with
      | .error problem => (progress, .fault ⟨problem, g.place⟩)
      | .ok tally =>
        let progress := { progress with tally := tally }
        match scope.step inside progress elements inCdata token g.place after with
        | .stop progress ending => (progress, ending)
        | .go progress elements inCdata =>
          scope.read inside progress elements inCdata after
termination_by cs.length
decreasing_by
  have := scanNext_le _h
  simp only [List.length_cons]
  omega

end Scope

/-- Read the text of an entity, through no more than so many levels of further
entities. -/
def readEntity (dtd : Doctype) : (depth : Nat) → (opened : List (List Char)) → EntityReader
  | 0, _, _, _, progress => (progress, .fault ⟨.recursiveEntity, 0⟩)
  | depth + 1, opened, name, text, progress =>
    Scope.read ⟨.inner text, dtd, name :: opened⟩ (readEntity dtd depth (name :: opened))
      progress [] false text

/-- Read the content of a document from its element on. -/
def readContent (lex : Lexicon) (dtd : Doctype) (tally : Tally) (cs : List Glyph) :
    Progress × Ending :=
  Scope.read ⟨lex, dtd, []⟩ (readEntity dtd dtd.depth []) ⟨.empty, tally⟩ [] false cs

end Metalink.Xml
