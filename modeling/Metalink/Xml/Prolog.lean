import Metalink.Xml.Doctype
import Metalink.Xml.PrologToken

/-!
# The grammar of the prolog

Before its element a document may have one document type, which may hold
declarations.  The grammar is a machine: a place in it says which token may come
next.  White space may stand between any two tokens.

The first token without a place is where the document is at fault.
-/

namespace Metalink.Xml

/-! ## Places -/

/-- A place in the declaration of an entity, by what comes next: the name or a percent sign, the
name of a parameter entity, a value or a keyword for an external entity, its identifiers, the end
or the keyword for a general entity that is no markup, and the notation of such an entity.
General entities have a name. -/
inductive EntityPlace where
  | start
  | parameterName
  | definition (name : Option (List Char))
  | publicId (name : Option (List Char))
  | systemId (name : Option (List Char))
  | external (name : Option (List Char))
  | unparsedNotation (name : List Char)
deriving Repr

/-- A place in the declaration of a notation, by what comes next.  After a public identifier the
system identifier may be missing. -/
inductive NotationPlace where
  | name
  | keyword
  | publicId
  | systemId
  | afterPublicId
deriving Repr

/-- The attribute that is being declared. -/
structure AttributeHead where
  element : List Char
  name : List Char
  isText : Bool
deriving Repr

/-- A place in the declaration of attributes, by what comes next: the name of the element, the
name of an attribute or the end, its type, the values of an enumeration of name tokens, an
enumeration of notations from its parenthesis on, what applies where the attribute is not
written, and a value that is fixed. -/
inductive AttributePlace where
  | element
  | name (element : List Char)
  | type (element name : List Char)
  | value (head : AttributeHead)
  | afterValue (head : AttributeHead)
  | notations (head : AttributeHead)
  | notationName (head : AttributeHead)
  | afterNotation (head : AttributeHead)
  | default (head : AttributeHead)
  | fixed (head : AttributeHead)
deriving Repr

/-- How the items of a group are joined, once that is known. -/
inductive Joint where
  | undecided
  | sequence
  | choice
deriving DecidableEq, Repr

/-- A place in the declaration of an element, by what comes next: the name, a keyword or the
first parenthesis, the first item of the outermost group, what follows the keyword for text, and
the items of a group, with the joints of the groups around it, innermost first. -/
inductive ElementPlace where
  | name
  | content
  | first
  | mixed
  | mixedName
  | afterMixedName
  | item (joint : Joint) (around : List Joint)
  | afterItem (joint : Joint) (around : List Joint)
deriving Repr

/-- A place in a document type.  After the identifiers come the declarations or the end. -/
inductive DoctypePlace where
  | name
  | afterName
  | publicId
  | systemId
  | afterId
  | inside
  | afterInside
deriving Repr

/-- A place in the prolog: before the document type, in it or after it, among its declarations,
before the end of one, or where the document element comes. -/
inductive Place where
  | before
  | doctype (place : DoctypePlace)
  | entity (place : EntityPlace)
  | notationDecl (place : NotationPlace)
  | attributes (place : AttributePlace)
  | element (place : ElementPlace)
  | closing
  | after
  | content
deriving Repr

/-! ## Steps -/

/-- What became of a token: the machine goes on to a place, or does so after a value was made up,
which took some reading; the token may not stand here; or there is a problem where the token
starts, or a fault at some place within it. -/
inductive PrologStep where
  | go (place : Place) (dtd : Doctype)
  | composed (place : Place) (dtd : Doctype) (tally : Tally)
  | refused
  | problem (problem : Problem)
  | fault (fault : Fault)

/-- A character that a public identifier may hold. -/
def isPublicIdChar (c : Char) : Bool :=
  isLetter c || isDecimal c || c == ' ' || c == '\n' || c == '\r' ||
    "-'()+,./:=?;!*#@$_%".toList.contains c

/-- Check a public identifier and go on. -/
def publicIdStep (literal : Literal) (place : Place) (dtd : Doctype) : PrologStep :=
  match literal.value.find? fun g => !isPublicIdChar g.char with
  | none => .go place dtd
  | some g => .fault ⟨.badPublicId, g.place⟩

/-- Go on to a place in a document type. -/
def goDoctype (place : DoctypePlace) (dtd : Doctype) : PrologStep := .go (.doctype place) dtd

/-- The tokens of a document type. -/
def doctypeStep (dtd : Doctype) : DoctypePlace → PrologToken → PrologStep
  | .name, .name _ => goDoctype .afterName dtd
  | .afterName, .openBracket => goDoctype .inside dtd
  | .afterName, .closing => .go .after dtd
  | .afterName, .name keyword =>
    if keyword = "SYSTEM".toList then goDoctype .systemId dtd
    else if keyword = "PUBLIC".toList then goDoctype .publicId dtd
    else .refused
  | .publicId, .literal literal =>
    publicIdStep literal (.doctype .systemId) dtd.withMore
  | .systemId, .literal _ => goDoctype .afterId dtd.withMore
  | .afterId, .openBracket => goDoctype .inside dtd
  | .afterId, .closing => .go .after dtd
  | .inside, .opening keyword =>
    if keyword = "ENTITY".toList then .go (.entity .start) dtd
    else if keyword = "ATTLIST".toList then .go (.attributes .element) dtd
    else if keyword = "ELEMENT".toList then .go (.element .name) dtd
    else if keyword = "NOTATION".toList then .go (.notationDecl .name) dtd
    else .refused
  | .inside, .ignored => goDoctype .inside dtd
  | .inside, .parameter => goDoctype .inside dtd.withUnread
  | .inside, .closeBracket => goDoctype .afterInside dtd
  | .afterInside, .closing => .go .after dtd
  | _, _ => .refused

/-- The step of a value that was read without a fault: a part of a code unit behind it
is found now. -/
def valueStep (literal : Literal) (step : PrologStep) : PrologStep :=
  if literal.isTorn then .fault ⟨.invalidToken, literal.closing⟩ else step

/-- Declare a general entity by its value, and check the value of any entity. -/
def entityValueStep (lex : Lexicon) (dtd : Doctype) (name : Option (List Char))
    (literal : Literal) : PrologStep :=
  if !dtd.counting then .go .closing dtd
  else
    match Doctype.entityText (literal.lexicon lex) [] literal.value with
    | .error fault => .fault fault
    | .ok text =>
      match name with
      | some name =>
        valueStep literal (.go .closing (dtd.declare name (.inside (Glyph.row text))))
      | none => valueStep literal (.go .closing dtd)

/-- Declare an external entity, if it has a name that references can use. -/
def declareExternal (dtd : Doctype) (name : Option (List Char)) (entity : Entity) : Doctype :=
  match name with
  | some name => dtd.declare name entity
  | none => dtd

/-- The tokens of the declaration of an entity. -/
def entityStep (lex : Lexicon) (dtd : Doctype) : EntityPlace → PrologToken → PrologStep
  | .start, .percent => .go (.entity .parameterName) dtd
  | .start, .name name => .go (.entity (.definition (some name))) dtd
  | .parameterName, .name _ => .go (.entity (.definition none)) dtd
  | .definition name, .name keyword =>
    if keyword = "SYSTEM".toList then .go (.entity (.systemId name)) dtd
    else if keyword = "PUBLIC".toList then .go (.entity (.publicId name)) dtd
    else .refused
  | .definition name, .literal literal => entityValueStep lex dtd name literal
  | .publicId name, .literal literal => publicIdStep literal (.entity (.systemId name)) dtd
  | .systemId name, .literal _ => .go (.entity (.external name)) dtd
  | .external name, .closing => .go (.doctype .inside) (declareExternal dtd name .outside)
  | .external (some name), .name keyword =>
    if keyword = "NDATA".toList then .go (.entity (.unparsedNotation name)) dtd else .refused
  | .unparsedNotation name, .name _ => .go .closing (dtd.declare name .unparsed)
  | _, _ => .refused

/-- The tokens of the declaration of a notation. -/
def notationStep (dtd : Doctype) : NotationPlace → PrologToken → PrologStep
  | .name, .name _ => .go (.notationDecl .keyword) dtd
  | .keyword, .name keyword =>
    if keyword = "SYSTEM".toList then .go (.notationDecl .systemId) dtd
    else if keyword = "PUBLIC".toList then .go (.notationDecl .publicId) dtd
    else .refused
  | .publicId, .literal literal => publicIdStep literal (.notationDecl .afterPublicId) dtd
  | .systemId, .literal _ => .go .closing dtd
  | .afterPublicId, .literal _ => .go .closing dtd
  | .afterPublicId, .closing => .go (.doctype .inside) dtd
  | _, _ => .refused

/-- Types of attributes whose values are name tokens. -/
def tokenTypes : List (List Char) :=
  ["ID", "IDREF", "IDREFS", "ENTITY", "ENTITIES", "NMTOKEN", "NMTOKENS"].map String.toList

/-- The declarations with one more attribute. -/
def withAttribute (dtd : Doctype) (head : AttributeHead) (default : Option (List Char)) :
    Doctype :=
  dtd.declareAttribute ⟨head.element, head.name, head.isText, default⟩

/-- Declare an attribute with a default, which has been counted with its markup. -/
def defaultStep (lex : Lexicon) (dtd : Doctype) (tally : Tally) (head : AttributeHead)
    (literal : Literal) : PrologStep :=
  let next := Place.attributes (.name head.element)
  if !dtd.counting then .go next dtd
  else
    match scanPieces (literal.lexicon lex) none [] literal.value with
    | (pieces, ending) =>
      match dtd.composed head.isText [] .free tally pieces with
      | .error ⟨problem, some place⟩ => .fault ⟨problem, place⟩
      | .error ⟨problem, none⟩ => .problem problem
      | .ok (value, tally) =>
        match ending with
        | .error (.invalid place) => .fault ⟨.invalidToken, place⟩
        | .error _ => .problem .invalidToken
        | .ok _ => valueStep literal (.composed next (withAttribute dtd head (some value)) tally)

/-- The tokens of the declaration of attributes. -/
def attributesStep (lex : Lexicon) (dtd : Doctype) (tally : Tally) :
    AttributePlace → PrologToken → PrologStep
  | .element, .name element => .go (.attributes (.name element)) dtd
  | .name _, .closing => .go (.doctype .inside) dtd
  | .name element, .name name => .go (.attributes (.type element name)) dtd
  | .type element name, .name keyword =>
    if keyword = "CDATA".toList then .go (.attributes (.default ⟨element, name, true⟩)) dtd
    else if tokenTypes.contains keyword then
      .go (.attributes (.default ⟨element, name, false⟩)) dtd
    else if keyword = "NOTATION".toList then
      .go (.attributes (.notations ⟨element, name, false⟩)) dtd
    else .refused
  | .type element name, .openParen => .go (.attributes (.value ⟨element, name, false⟩)) dtd
  | .value head, .name _ => .go (.attributes (.afterValue head)) dtd
  | .value head, .nameToken => .go (.attributes (.afterValue head)) dtd
  | .afterValue head, .closeParen => .go (.attributes (.default head)) dtd
  | .afterValue head, .bar => .go (.attributes (.value head)) dtd
  | .notations head, .openParen => .go (.attributes (.notationName head)) dtd
  | .notationName head, .name _ => .go (.attributes (.afterNotation head)) dtd
  | .afterNotation head, .closeParen => .go (.attributes (.default head)) dtd
  | .afterNotation head, .bar => .go (.attributes (.notationName head)) dtd
  | .default head, .poundName keyword =>
    if keyword = "IMPLIED".toList ∨ keyword = "REQUIRED".toList then
      .go (.attributes (.name head.element)) (withAttribute dtd head none)
    else if keyword = "FIXED".toList then .go (.attributes (.fixed head)) dtd
    else .refused
  | .default head, .literal literal => defaultStep lex dtd tally head literal
  | .fixed head, .literal literal => defaultStep lex dtd tally head literal
  | _, _ => .refused

/-- Leave a group for the one around it. -/
def leaveGroup (dtd : Doctype) : List Joint → PrologStep
  | [] => .go .closing dtd
  | joint :: around => .go (.element (.afterItem joint around)) dtd

/-- The tokens of the declaration of an element. -/
def elementStep (dtd : Doctype) : ElementPlace → PrologToken → PrologStep
  | .name, .name _ => .go (.element .content) dtd
  | .content, .name keyword =>
    if keyword = "EMPTY".toList ∨ keyword = "ANY".toList then .go .closing dtd else .refused
  | .content, .openParen => .go (.element .first) dtd
  | .first, .poundName keyword =>
    if keyword = "PCDATA".toList then .go (.element .mixed) dtd else .refused
  | .first, .openParen => .go (.element (.item .undecided [.undecided])) dtd
  | .first, .name _ => .go (.element (.afterItem .undecided [])) dtd
  | .first, .markedName _ => .go (.element (.afterItem .undecided [])) dtd
  | .mixed, .closeParen => .go .closing dtd
  | .mixed, .closeParenStar => .go .closing dtd
  | .mixed, .bar => .go (.element .mixedName) dtd
  | .mixedName, .name _ => .go (.element .afterMixedName) dtd
  | .afterMixedName, .closeParenStar => .go .closing dtd
  | .afterMixedName, .bar => .go (.element .mixedName) dtd
  | .item joint around, .openParen => .go (.element (.item .undecided (joint :: around))) dtd
  | .item joint around, .name _ => .go (.element (.afterItem joint around)) dtd
  | .item joint around, .markedName _ => .go (.element (.afterItem joint around)) dtd
  | .afterItem _ around, .closeParen => leaveGroup dtd around
  | .afterItem _ around, .closeParenStar => leaveGroup dtd around
  | .afterItem _ around, .closeParenMarked => leaveGroup dtd around
  | .afterItem joint around, .comma =>
    if joint = .choice then .refused else .go (.element (.item .sequence around)) dtd
  | .afterItem joint around, .bar =>
    if joint = .sequence then .refused else .go (.element (.item .choice around)) dtd
  | _, _ => .refused

/-- What becomes of a token at a place. -/
def prologStep (lex : Lexicon) (dtd : Doctype) (tally : Tally) :
    Place → PrologToken → PrologStep
  | place, .space => .go place dtd
  | .before, .ignored => .go .before dtd
  | .before, .opening keyword =>
    if keyword = "DOCTYPE".toList then goDoctype .name dtd else .refused
  | .before, .element => .go .content dtd
  | .after, .ignored => .go .after dtd
  | .after, .element => .go .content dtd
  | .doctype place, token => doctypeStep dtd place token
  | .entity place, token => entityStep lex dtd place token
  | .notationDecl place, token => notationStep dtd place token
  | .attributes place, token => attributesStep lex dtd tally place token
  | .element place, token => elementStep dtd place token
  | .closing, .closing => .go (.doctype .inside) dtd
  | _, _ => .refused

/-- The problem of a token that may not stand where it does. -/
def refusal : PrologToken → Problem
  | .parameter => .parameterReference
  | .xmlDeclaration => .misplacedDeclaration
  | _ => .grammar

/-! ## Reading -/

/-- Count a token up to some place.  The start of the document element is counted with
the element. -/
def countToken (tally : Tally) (token : PrologToken) (stop : Nat) : Except Problem Tally :=
  match token with
  | .element => .ok tally
  | _ => (tally.reach stop).check

/-- What has been found before the document element: the declarations, what has been read, and
the document from its element on. -/
structure Prolog where
  dtd : Doctype
  tally : Tally
  content : List Glyph
deriving Repr

/-- The fault of a document that ends in the prolog. -/
def missingElement (lex : Lexicon) : Fault :=
  match lex.tail with
  | .done => ⟨.noElement, lex.stop⟩
  | _ => lex.within.fault lex.stop

/-- Read the prolog up to the document element. -/
def readProlog (lex : Lexicon) (place : Place) (dtd : Doctype) (tally : Tally)
    (cs : List Glyph) : Except Fault Prolog :=
  match cs with
  | [] => .error (missingElement lex)
  | g :: rest =>
    match _h : scanProlog lex g rest with
    | .error o => .error (o.fault g.place)
    | .ok (token, after) =>
      match countToken tally token (lex.placeOf after) with
      | .error problem => .error ⟨problem, g.place⟩
      | .ok tally =>
        match prologStep lex dtd tally place token with
        | .refused => .error ⟨refusal token, g.place⟩
        | .problem problem => .error ⟨problem, g.place⟩
        | .fault fault => .error fault
        | .go .content dtd => .ok ⟨dtd, tally, g :: rest⟩
        | .go place dtd =>
          if after.isEmpty && lex.tail.ended && token.mayGoOn then
            .error ⟨.noElement, lex.stop⟩
          else readProlog lex place dtd tally after
        | .composed place dtd tally =>
          if after.isEmpty then .error ⟨.noElement, lex.stop⟩
          else readProlog lex place dtd tally after
termination_by cs.length
decreasing_by
  all_goals
    have := scanProlog_le _h
    simp only [List.length_cons]
    omega

end Metalink.Xml
