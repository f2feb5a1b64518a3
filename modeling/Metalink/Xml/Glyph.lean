/-!
# Placed characters

A character of a document, together with the place where it stands.  Places are
counted in bytes, so that a piece of markup is as long as the places of its two ends
are apart.

Placing characters changes none of them.
-/

namespace Metalink.Xml

/-- A character and the number of bytes before it. -/
structure Glyph where
  char : Char
  place : Nat
deriving DecidableEq, Repr

namespace Glyph

/-- The characters without their places. -/
def chars (glyphs : List Glyph) : List Char :=
  glyphs.map Glyph.char

/-- Place characters one after another in UTF-8, after those placed before in reverse
order. -/
def rowFrom (place : Nat) (before : List Glyph) : List Char → List Glyph
  | [] => before.reverse
  | c :: rest => rowFrom (place + c.utf8Size) (⟨c, place⟩ :: before) rest

/-- Place the characters of a text in UTF-8. -/
def row (text : List Char) : List Glyph :=
  rowFrom 0 [] text

/-- The number of bytes of a text placed in UTF-8. -/
def extent (glyphs : List Glyph) : Nat :=
  match glyphs.getLast? with
  | some g => g.place + g.char.utf8Size
  | none => 0

/-- Whether the first characters are the given ones. -/
def startWith (glyphs : List Glyph) (text : List Char) : Bool :=
  chars (glyphs.take text.length) == text

/-! ## Laws -/

/-- Placing after others keeps all characters in order. -/
theorem chars_rowFrom (place : Nat) (before : List Glyph) (text : List Char) :
    chars (rowFrom place before text) = chars before.reverse ++ text := by
  induction text generalizing place before with
  | nil => simp [rowFrom]
  | cons c rest ih =>
    rw [rowFrom, ih]
    simp [chars]

end Glyph

end Metalink.Xml
