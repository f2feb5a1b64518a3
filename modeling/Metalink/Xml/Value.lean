import Metalink.Xml.Scan

/-!
# Attribute values

An attribute value is a sequence of runs of characters, white space and references.
Every white space character, and every end of a line, counts as one space.

Main statements: what a scanner leaves is never longer than what it was given.
-/

namespace Metalink.Xml

/-- A piece of an attribute value, with the number of bytes that are counted for it: characters
as they stand, a white space character or the end of a line, which may be a space proper, or a
reference, with the place of its ampersand. -/
inductive Piece where
  | run (chars : List Char) (size : Nat)
  | space (isPlain : Bool) (size : Nat)
  | reference (ref : Reference) (place size : Nat)
deriving Repr

/-- The number of bytes that are counted for a piece. -/
def Piece.size : Piece → Nat
  | run _ size => size
  | space _ size => size
  | reference _ _ size => size

/-- Whether pieces are runs with a single space proper between any two; `afterRun` tells
whether a run stands before them. -/
def alternate (afterRun : Bool) : List Piece → Bool
  | [] => afterRun
  | .run _ _ :: rest => !afterRun && alternate true rest
  | .space isPlain _ :: rest => afterRun && isPlain && alternate false rest
  | .reference _ _ _ :: _ => false

/-- Whether a value reads as it is written, whatever the type of its attribute. -/
def isNormal (pieces : List Piece) : Bool :=
  pieces.isEmpty || alternate false pieces

/-- What follows a carriage return, with which a line feed makes one line end. -/
def afterReturn : List Glyph → List Glyph
  | ⟨'\n', _⟩ :: rest => rest
  | cs => cs

/-- What is left after a line end is no longer. -/
theorem afterReturn_le (cs : List Glyph) : (afterReturn cs).length ≤ cs.length := by
  unfold afterReturn
  split <;> simp

/-- Whether a character stands for itself in a value that a quote ends. -/
def isValueChar (quote : Option Char) (c : Char) : Bool :=
  some c != quote && c != '<' && c != '&' && !isSpace c

/-- Whether nothing of a value is left. -/
def valueEnds (quote : Option Char) : List Glyph → Bool
  | [] => true
  | g :: _ => some g.char == quote

/-- What follows a run of characters in a value. -/
def afterRun (quote : Option Char) (cs : List Glyph) : List Glyph :=
  cs.dropWhile fun g => isValueChar quote g.char

/-- What is left after a run is no longer. -/
theorem afterRun_le (quote : Option Char) (cs : List Glyph) :
    (afterRun quote cs).length ≤ cs.length :=
  length_dropWhile_le _ cs

/-- The characters of a run in a value, and their number of bytes. -/
def runPiece (lex : Lexicon) (quote : Option Char) (g : Glyph) (rest : List Glyph) : Piece :=
  .run (g.char :: Glyph.chars (rest.takeWhile fun g => isValueChar quote g.char))
    (lex.placeOf (afterRun quote rest) - g.place)

/-- The pieces of a value up to the closing quote, after those read before in reverse
order, and the rest or the obstacle that ended them.  Without a quote the value ends
with the input; a reference that this cuts off is invalid at its ampersand.  No bytes
are counted for a carriage return at the very end, nor for a run before an opening
angle bracket. -/
def scanPieces (lex : Lexicon) (quote : Option Char) (before : List Piece) (cs : List Glyph) :
    List Piece × Except Obstacle (List Glyph) :=
  match cs with
  | [] => (before.reverse, if quote.isSome then .error lex.within else .ok [])
  | g :: rest =>
    if some g.char = quote then (before.reverse, .ok rest)
    else if g.char = '<' then (before.reverse, .error (.invalid g.place))
    else if g.char = '&' then
      match _h : scanReference lex rest with
      | .error (.invalid there) => (before.reverse, .error (.invalid there))
      | .error o =>
        (before.reverse, .error (if quote.isSome then o else .invalid g.place))
      | .ok (ref, after) =>
        scanPieces lex quote (.reference ref g.place (lex.placeOf after - g.place) :: before) after
    else if g.char = '\r' ∧ lex.isDocument then
      let after := afterReturn rest
      let size := if valueEnds quote rest then 0 else lex.placeOf after - g.place
      scanPieces lex quote (.space false size :: before) after
    else if isSpace g.char then
      scanPieces lex quote
        (.space (g.char == ' ') (lex.placeAfter g - g.place) :: before) rest
    else
      match afterRun quote rest with
      | ⟨'<', place⟩ :: _ => (before.reverse, .error (.invalid place))
      | _ => scanPieces lex quote (runPiece lex quote g rest :: before) (afterRun quote rest)
termination_by cs.length
decreasing_by
  · have := scanReference_lt _h
    simp only [List.length_cons]
    omega
  · have := afterReturn_le rest
    simp only [List.length_cons]
    omega
  · simp only [List.length_cons]; omega
  · have := afterRun_le quote rest
    simp only [List.length_cons]
    omega

/-- What is left after the pieces of a value is no longer. -/
theorem scanPieces_le {lex : Lexicon} {quote : Option Char} {before : List Piece}
    {cs rest : List Glyph} {pieces : List Piece}
    (h : scanPieces lex quote before cs = (pieces, .ok rest)) : rest.length ≤ cs.length := by
  fun_induction scanPieces lex quote before cs <;> try simp_all
  case case1 =>
    split at h <;> simp_all
  case case6 =>
    have := scanReference_lt ‹scanReference lex _ = _›
    omega
  case case7 => grind [afterReturn_le]
  all_goals grind [afterRun_le]

end Metalink.Xml
