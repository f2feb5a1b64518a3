import Metalink.Xml.Expansion
import Metalink.Xml.Portion
import Metalink.Xml.PrologToken

/-!
# The end of a document

After the document element only white space, comments and processing instructions may
stand.
-/

namespace Metalink.Xml

/-- The number of line ends in white space that are counted twice, added to those found
before: line ends of two characters between which a portion of the document ends. -/
def splitLineEnds (found : Nat) : List Glyph → Nat
  | ⟨'\r', _⟩ :: ⟨'\n', place⟩ :: rest =>
    splitLineEnds (if place % portionSize = 0 then found + 1 else found) rest
  | _ :: rest => splitLineEnds found rest
  | [] => found

/-- Whether white space that ends the input ends with a carriage return. -/
def endsWithReturn (white : List Glyph) : Bool :=
  white.getLast?.map Glyph.char == some '\r'

/-- A fault after the document element, and the number of lines by which its place is late: the
line ends before it that are counted twice. -/
structure LateFault where
  fault : Fault
  delay : Nat
deriving Repr

/-- The place of a fault in a document. -/
def LateFault.position (late : LateFault) (document : List Glyph) : Position :=
  let position := late.fault.position document
  { position with line := position.line + late.delay }

/-- Read what follows the document element.  A carriage return at the very end also ends
the document where a part of a code unit follows it. -/
def readEpilog (lex : Lexicon) (tally : Tally) (delay : Nat) (cs : List Glyph) :
    Except LateFault Unit :=
  match cs with
  | [] =>
    match lex.tail with
    | .done => .ok ()
    | _ => .error ⟨lex.within.fault lex.stop, delay⟩
  | g :: rest =>
    match _h : scanProlog lex g rest with
    | .error o => .error ⟨o.fault g.place, delay⟩
    | .ok (token, after) =>
      match (tally.reach (lex.placeOf after)).check with
      | .error problem => .error ⟨⟨problem, g.place⟩, delay⟩
      | .ok tally =>
        match token with
        | .space =>
          let white := (g :: rest).takeWhile fun g => isSpace g.char
          if after.isEmpty && lex.tail == .oddByte && endsWithReturn white then .ok ()
          else readEpilog lex tally (splitLineEnds delay white) after
        | .ignored => readEpilog lex tally delay after
        | _ => .error ⟨⟨.junkAfterElement, g.place⟩, delay⟩
termination_by cs.length
decreasing_by
  all_goals
    have := scanProlog_le _h
    simp only [List.length_cons]
    omega

end Metalink.Xml
