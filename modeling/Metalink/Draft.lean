import Metalink.Document

/-!
# Writing a metalink

A draft says what a metalink is to say about a file, and is written in a fixed layout:
one line for every size, hash and mirror, with the elements around them indented.

What is written reads back as the document that was drafted, as long as nothing in the
draft has a meaning in markup.
-/

namespace Metalink

/-! ## Drafts -/

/-- Something that is said about a mirror. -/
inductive MirrorNote where
  | protocol (text : String)
  | type (text : String)
  | location (text : String)
  | preference (value : Int)
deriving DecidableEq, Repr

namespace MirrorNote

/-- The name of the attribute that says it. -/
def name : MirrorNote → String
  | protocol _ => "protocol"
  | type _ => "type"
  | location _ => "location"
  | preference _ => "preference"

/-- The value of the attribute. -/
def value : MirrorNote → String
  | protocol text | type text | location text => text
  | preference value => toString value

/-- The protocol, if it is what is said. -/
def protocol? : MirrorNote → Option String
  | protocol text => some text
  | _ => none

/-- The kind of address, if it is what is said. -/
def type? : MirrorNote → Option String
  | type text => some text
  | _ => none

/-- The code of the country, if it is what is said. -/
def location? : MirrorNote → Option String
  | location text => some text
  | _ => none

/-- The preference, if it is what is said. -/
def preference? : MirrorNote → Option Int
  | preference value => some value
  | _ => none

end MirrorNote

/-- A mirror with what is said about it, in the order in which it is said. -/
structure MirrorDraft where
  url : String
  notes : List MirrorNote
deriving DecidableEq, Repr

/-- The mirror that is drafted. -/
def MirrorDraft.mirror (draft : MirrorDraft) : Mirror where
  url := draft.url
  protocol := draft.notes.findSome? MirrorNote.protocol?
  type := draft.notes.findSome? MirrorNote.type?
  location := draft.notes.findSome? MirrorNote.location?
  preference := (draft.notes.findSome? MirrorNote.preference?).getD Mirror.minPreference

/-- What a metalink is to say: the name of the file, its size in bytes, if it is to be given, its
hashes, and the mirrors to fetch it from. -/
structure Draft where
  filename : String
  size : Option Int
  hashes : List Hash
  mirrors : List MirrorDraft
deriving DecidableEq, Repr

namespace Draft

/-- The document that is drafted. -/
def document (draft : Draft) : Document :=
  ⟨some draft.filename, draft.size, draft.hashes, draft.mirrors.map MirrorDraft.mirror⟩

/-! ## Layout -/

/-- An attribute with the space in front of it. -/
def attributeText (name value : String) : String :=
  " " ++ name ++ "=\"" ++ value ++ "\""

/-- The line for a hash. -/
def hashLine (h : Hash) : String :=
  "        <hash" ++ attributeText "type" h.type ++ ">" ++ h.value ++ "</hash>"

/-- The line for a mirror. -/
def mirrorLine (m : MirrorDraft) : String :=
  "        <url" ++ String.join (m.notes.map fun n => attributeText n.name n.value) ++ ">" ++
    m.url ++ "</url>"

/-- The line for a size. -/
def sizeLine (n : Int) : String :=
  "      <size>" ++ toString n ++ "</size>"

/-- The lines in front of what is said about the file. -/
def opening (filename : String) : List String :=
  ["<?xml version=\"1.0\" encoding=\"utf-8\"?>",
    "<metalink version=\"3.0\" xmlns=\"http://www.metalinker.org/\">",
    "  <files>",
    "    <file" ++ attributeText "name" filename ++ ">"]

/-- All lines of a metalink. -/
def lines (draft : Draft) : List String :=
  opening draft.filename ++ draft.size.toList.map sizeLine ++
    ["      <verification>"] ++ draft.hashes.map hashLine ++ ["      </verification>"] ++
    ["      <resources>"] ++ draft.mirrors.map mirrorLine ++ ["      </resources>"] ++
    ["    </file>", "  </files>", "</metalink>"]

/-- A metalink as it is written, without an end to its last line. -/
def text (draft : Draft) : String :=
  String.intercalate "\n" draft.lines

end Draft

end Metalink
