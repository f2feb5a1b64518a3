import Metalink.Reader.Machine

/-!
# Documents as trees

A document is an element that holds text and elements, and its events are those of a
walk through it.  Reading can follow the tree as well: each run of text that stands in
an element directly is taken as content of that element, and an element without any is
taken with empty text once everything in it has been read.

Reading the events of a tree and reading along the tree come to the same document and
the same fault.

Current gaps:

- The runs of text in a tree are texts of characters, as they are in every source.
-/

namespace Metalink

/-! ## Trees -/

/-- Something that stands in an element: a run of text, or an element with its attributes as a
flat list and what stands in it. -/
inductive Node where
  | text (text : String)
  | element (name : String) (attributes : List String) (children : List Node)

namespace Node

/-- Whether a node is text. -/
def isText : Node → Bool
  | text _ => true
  | element _ _ _ => false

mutual

/-- The events of a walk through a node. -/
def events : Node → List Event
  | text s => [.text s]
  | element name attributes children =>
    .opened name attributes :: (eventsOf children ++ [.closed name])

/-- The events of a walk through several nodes. -/
def eventsOf : List Node → List Event
  | [] => []
  | node :: rest => node.events ++ eventsOf rest

end

end Node

/-! ## Reading along a tree -/

/-- How far a tree has been read: the document so far, and what stopped the reading. -/
structure TreeReading where
  document : Document
  trouble : Option Trouble
deriving DecidableEq, Repr

/-- An element as far as its text is concerned: its name and its attributes. -/
structure Owner where
  name : String
  attributes : List String
deriving DecidableEq, Repr

namespace TreeReading

/-- Nothing has been read. -/
def start : TreeReading := ⟨.empty, none⟩

/-- Take a run of text as content of the element that it stands in. -/
def take (expected : String) (owner : Owner) (text : CodeText) (reading : TreeReading) :
    TreeReading :=
  if reading.trouble.isSome then reading
  else
    match Role.ofName? owner.name with
    | none => reading
    | some role =>
      match role.take expected owner.attributes text reading.document with
      | (.ok document, _) => ⟨document, none⟩
      | (.error trouble, _) => { reading with trouble := some trouble }

end TreeReading

namespace Node

mutual

/-- Read a node that stands in an element. -/
def read (expected : String) (owner : Owner) (reading : TreeReading) : Node → TreeReading
  | text s => reading.take expected owner s
  | element name attributes children =>
    let inner := readAll expected ⟨name, attributes⟩ reading children
    if children.any isText then inner else inner.take expected ⟨name, attributes⟩ ("" : String)

/-- Read in turn what stands in an element. -/
def readAll (expected : String) (owner : Owner) (reading : TreeReading) :
    List Node → TreeReading
  | [] => reading
  | node :: rest => readAll expected owner (node.read expected owner reading) rest

end

end Node

end Metalink
