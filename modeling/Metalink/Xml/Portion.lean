import Metalink.Xml.Scan

/-!
# Portions

A document arrives in portions of one length.  A run of text ends with the portion that
it begins in, so that text can be handed on before the next portion is there.  The end
of the input bounds the last portion.

Main statement: a portion ends behind every place in it.

Current gaps:

- Every portion is read on as soon as it is there.  Later versions of the tokenizer put off
  reading on in a long token that is not finished, and so pass over some ends of portions
  after the first one.
-/

namespace Metalink.Xml

/-- The number of bytes in a portion. -/
def portionSize : Nat := 1048576

/-- Where the portion ends that a place lies in.  The text of an entity is there as a
whole. -/
def Lexicon.portionEnd (lex : Lexicon) (place : Nat) : Nat :=
  if lex.isDocument then min lex.limit ((place / portionSize + 1) * portionSize) else lex.limit

/-- Whether the bytes up to a bound are enough to tell that a character is text: it ends
there, and for a closing bracket the mark that text may not hold can be ruled out. -/
def Lexicon.fits (lex : Lexicon) (bound : Nat) (g : Glyph) (rest : List Glyph) : Bool :=
  if g.char == ']' then
    match rest with
    | ⟨']', _⟩ :: _ => g.place + 3 * lex.encoding.unitSize ≤ bound
    | _ => g.place + 2 * lex.encoding.unitSize ≤ bound
  else lex.placeAfter g ≤ bound

/-- Where a run of text ends at the latest that begins with a character: with its
portion, or with the next one where the character does not fit into its own. -/
def Lexicon.runEnd (lex : Lexicon) (g : Glyph) (rest : List Glyph) : Nat :=
  let bound := lex.portionEnd g.place
  if lex.fits bound g rest then bound else min lex.limit (bound + portionSize)

/-! ## Laws -/

/-- A portion ends behind every place of the input that lies in it. -/
theorem Lexicon.lt_portionEnd {lex : Lexicon} {place : Nat} (h : place < lex.limit) :
    place < lex.portionEnd place := by
  unfold portionEnd portionSize
  split <;> omega

end Metalink.Xml
