import Metalink.Text.CodeText

/-!
# Events of a document

A document is read as a sequence of events, in the order in which they stand in it.

Current gaps:

- The names of elements and their attributes are texts of characters.
-/

namespace Metalink

/-- The events of a document: an element is opened, with its attributes as a flat list, text
arrives, and the innermost element is closed. -/
inductive Event where
  | opened (name : String) (attributes : List String)
  | text (text : CodeText)
  | closed (name : String)
deriving DecidableEq, Repr

/-- A text of characters arrives. -/
abbrev Event.ofString (s : String) : Event := .text s

theorem Event.ofString_inj {s t : String} : Event.ofString s = Event.ofString t ↔ s = t := by
  rw [Event.text.injEq, CodeText.ofString_inj]

end Metalink
