import Metalink.Xml.Encoding
import Metalink.Xml.Problem

/-!
# Scanning markup

The parts that all markup is made of: names, references, comments and processing
instructions.  A scanner returns what it read and the rest of the input, or the
obstacle that it met.

Main statements: what a scanner leaves is never longer than what it was given.
-/

namespace Metalink.Xml

/-! ## Obstacles -/

/-- Why a part of markup could not be read: the input ends within it, or within one of its
characters, or what stands at some place cannot stand there. -/
inductive Obstacle where
  | unfinished
  | cut
  | invalid (place : Nat)
deriving DecidableEq, Repr

/-- The fault of a token at some place that met an obstacle. -/
def Obstacle.fault (obstacle : Obstacle) (place : Nat) : Fault :=
  match obstacle with
  | unfinished => ⟨.unclosedToken, place⟩
  | cut => ⟨.cutCharacter, place⟩
  | invalid there => ⟨.invalidToken, there⟩

/-- What scanning depends on besides the characters: how the input ends, its encoding, the place
behind the last character, and whether the input is the document itself, in which a line may end
with a carriage return, and which arrives in portions. -/
structure Lexicon where
  tail : Tail
  encoding : Encoding
  stop : Nat
  isDocument : Bool

namespace Lexicon

/-- The text of an entity is all there. -/
def inner (text : List Glyph) : Lexicon := ⟨.done, .utf8, Glyph.extent text, false⟩

/-- A part of the input that is all there, up to some place. -/
def upTo (lex : Lexicon) (place : Nat) : Lexicon := { lex with tail := .done, stop := place }

/-- The obstacle at the end of the characters, where any character might stand. -/
def within (lex : Lexicon) : Obstacle :=
  match lex.tail with
  | .done | .oddByte => .unfinished
  | .invalid _ _ => .invalid lex.stop
  | .cut _ => .cut

/-- The obstacle at the end of the characters, where one of a few must stand. -/
def between (lex : Lexicon) : Obstacle :=
  match lex.tail with
  | .done | .oddByte => .unfinished
  | .invalid _ _ | .cut _ => .invalid lex.stop

/-- The place where some rest of the input begins. -/
def placeOf (lex : Lexicon) : List Glyph → Nat
  | [] => lex.stop
  | g :: _ => g.place

/-- The place behind a character. -/
def placeAfter (lex : Lexicon) (g : Glyph) : Nat :=
  g.place + lex.encoding.sizeOf g.char

/-- The place behind the last code unit. -/
def limit (lex : Lexicon) : Nat :=
  lex.stop + lex.tail.units * lex.encoding.unitSize

/-- Whether a name may start with a character. -/
def nameStart (lex : Lexicon) (c : Char) : Bool :=
  isNameStart c || (lex.encoding.latinNames && (c == 'ª' || c == 'µ' || c == 'º'))

/-- Whether a name may hold a character. -/
def nameChar (lex : Lexicon) (c : Char) : Bool :=
  isNameChar c || (lex.encoding.latinNames && (c == 'ª' || c == 'µ' || c == 'º'))

end Lexicon

/-- The result of a scanner. -/
abbrev Scanned (α : Type) := Except Obstacle (α × List Glyph)

/-! ## Names -/

/-- Remove white space in front. -/
def skipSpace (cs : List Glyph) : List Glyph :=
  cs.dropWhile fun g => isSpace g.char

/-- The characters of a name in front. -/
def nameRun (lex : Lexicon) (cs : List Glyph) : List Char :=
  Glyph.chars (cs.takeWhile fun g => lex.nameChar g.char)

/-- What follows the characters of a name. -/
def afterName (lex : Lexicon) (cs : List Glyph) : List Glyph :=
  cs.dropWhile fun g => lex.nameChar g.char

/-- A name.  The character after it must be there to be looked at. -/
def scanName (lex : Lexicon) : List Glyph → Scanned (List Char)
  | [] => .error lex.within
  | g :: rest =>
    if lex.nameStart g.char then
      match afterName lex rest with
      | [] => .error lex.within
      | after => .ok (g.char :: nameRun lex rest, after)
    else .error (.invalid g.place)

/-- One given character. -/
def scanChar (lex : Lexicon) (expected : Char) : List Glyph → Scanned Unit
  | [] => .error lex.between
  | g :: rest => if g.char = expected then .ok ((), rest) else .error (.invalid g.place)

/-- A name and the semicolon that ends it. -/
def scanNameSemicolon (lex : Lexicon) (cs : List Glyph) : Scanned (List Char) :=
  match scanName lex cs with
  | .error o => .error o
  | .ok (name, after) =>
    match scanChar lex ';' after with
    | .error o => .error o
    | .ok (_, rest) => .ok (name, rest)

/-! ## References -/

/-- A reference in text or in a value: a character by its number, which is missing if no document
may hold it, or an entity by its name. -/
inductive Reference where
  | number (char : Option Char)
  | entity (name : List Char)
deriving DecidableEq, Repr

/-- The character of a number, if a document may hold it. -/
def characterOf (n : Nat) : Option Char :=
  if n.isValidChar ∧ isMarkupChar (Char.ofNat n) then some (Char.ofNat n) else none

/-- Whether a character is a hexadecimal digit. -/
def isHexadecimal (c : Char) : Bool :=
  isDecimal c || ('a' ≤ c && c ≤ 'f') || ('A' ≤ c && c ≤ 'F')

/-- The value of a hexadecimal digit. -/
def hexadecimalValue (c : Char) : Nat :=
  if isDecimal c then c.toNat - 48 else if 'a' ≤ c then c.toNat - 87 else c.toNat - 55

/-- The number that digits denote, or any number out of range once it is. -/
def numberOf (base : Nat) (digits : List Char) : Nat :=
  digits.foldl (fun n c => if n < 0x110000 then base * n + hexadecimalValue c else n) 0

/-- Digits of a base, at least one, and the semicolon that ends them. -/
def scanDigits (lex : Lexicon) (base : Nat) (isDigit : Char → Bool) :
    List Glyph → Scanned Reference
  | [] => .error lex.between
  | g :: rest =>
    if isDigit g.char then
      match scanChar lex ';' (rest.dropWhile fun g => isDigit g.char) with
      | .error o => .error o
      | .ok (_, after) =>
        let digits := g.char :: Glyph.chars (rest.takeWhile fun g => isDigit g.char)
        .ok (.number (characterOf (numberOf base digits)), after)
    else .error (.invalid g.place)

/-- A reference, after its ampersand. -/
def scanReference (lex : Lexicon) : List Glyph → Scanned Reference
  | ⟨'#', _⟩ :: ⟨'x', _⟩ :: rest => scanDigits lex 16 isHexadecimal rest
  | ⟨'#', _⟩ :: rest => scanDigits lex 10 isDecimal rest
  | cs =>
    match scanNameSemicolon lex cs with
    | .error o => .error o
    | .ok (name, rest) => .ok (.entity name, rest)

/-- The characters that five names stand for in every document. -/
def predefined? (name : List Char) : Option Char :=
  [("amp".toList, '&'), ("lt".toList, '<'), ("gt".toList, '>'), ("quot".toList, '"'),
    ("apos".toList, '\'')].lookup name

/-! ## Comments and processing instructions -/

/-- The body of a comment, and its end. -/
def scanCommentBody (lex : Lexicon) : List Glyph → Scanned Unit
  | [] => .error lex.within
  | ⟨'-', _⟩ :: ⟨'-', _⟩ :: rest => scanChar lex '>' rest
  | _ :: rest => scanCommentBody lex rest

/-- A comment, after its first hyphen. -/
def scanComment (lex : Lexicon) (cs : List Glyph) : Scanned Unit :=
  match scanChar lex '-' cs with
  | .error o => .error o
  | .ok (_, rest) => scanCommentBody lex rest

/-- The body of a processing instruction, and its end. -/
def scanInstructionBody (lex : Lexicon) : List Glyph → Scanned Unit
  | [] => .error lex.within
  | ⟨'?', _⟩ :: ⟨'>', _⟩ :: rest => .ok ((), rest)
  | _ :: rest => scanInstructionBody lex rest

/-- What a processing instruction may be by its target: an XML declaration, a proper instruction,
or one with the reserved name in other letter case. -/
inductive Target where
  | declaration
  | instruction
  | reserved
deriving DecidableEq, Repr

/-- Tell targets apart. -/
def Target.ofName (name : List Char) : Target :=
  if name = "xml".toList then .declaration
  else if name.map Char.toLower = "xml".toList then .reserved
  else .instruction

/-- A processing instruction, after its question mark. -/
def scanInstruction (lex : Lexicon) (cs : List Glyph) : Scanned Target :=
  match scanName lex cs with
  | .error o => .error o
  | .ok (name, after) =>
    match after, Target.ofName name with
    | [], _ => .error lex.within
    | g :: rest, target =>
      if !isSpace g.char && g.char != '?' || target = .reserved then .error (.invalid g.place)
      else if g.char == '?' then
        match scanChar lex '>' rest with
        | .error o => .error o
        | .ok (_, rest) => .ok (target, rest)
      else
        match scanInstructionBody lex rest with
        | .error o => .error o
        | .ok (_, rest) => .ok (target, rest)

/-! ## Lengths -/

/-- Dropping characters makes no text longer. -/
theorem length_dropWhile_le (p : Glyph → Bool) (cs : List Glyph) :
    (cs.dropWhile p).length ≤ cs.length :=
  (List.dropWhile_suffix p).length_le

/-- Skipping white space makes no text longer. -/
theorem skipSpace_le (cs : List Glyph) : (skipSpace cs).length ≤ cs.length :=
  length_dropWhile_le _ _

/-- What is left after a name is shorter. -/
theorem scanName_lt {lex : Lexicon} {cs rest : List Glyph} {name : List Char}
    (h : scanName lex cs = .ok (name, rest)) : rest.length < cs.length := by
  cases cs with
  | nil => simp [scanName] at h
  | cons c cs =>
    have : (afterName lex cs).length ≤ cs.length := length_dropWhile_le _ cs
    simp only [scanName] at h
    split at h
    · split at h
      · simp at h
      · simp only [Except.ok.injEq, Prod.mk.injEq] at h
        rw [← h.2, List.length_cons]
        omega
    · simp at h

/-- What is left after a given character is shorter. -/
theorem scanChar_lt {lex : Lexicon} {c : Char} {cs rest : List Glyph} {u : Unit}
    (h : scanChar lex c cs = .ok (u, rest)) : rest.length < cs.length := by
  cases cs with
  | nil => simp [scanChar] at h
  | cons d cs =>
    simp only [scanChar] at h
    split at h
    · simp at h
      simp [h]
    · simp at h

/-- What is left after a name and its semicolon is shorter. -/
theorem scanNameSemicolon_lt {lex : Lexicon} {cs rest : List Glyph} {name : List Char}
    (h : scanNameSemicolon lex cs = .ok (name, rest)) : rest.length < cs.length := by
  simp only [scanNameSemicolon] at h
  split at h
  · simp at h
  · next hn =>
    split at h
    · simp at h
    · next hc =>
      simp only [Except.ok.injEq, Prod.mk.injEq] at h
      have h1 := scanName_lt hn
      have h2 := scanChar_lt hc
      rw [← h.2]
      omega

/-- What is left after a number and its semicolon is shorter. -/
theorem scanDigits_lt {lex : Lexicon} {base : Nat} {p : Char → Bool} {cs rest : List Glyph}
    {r : Reference} (h : scanDigits lex base p cs = .ok (r, rest)) :
    rest.length < cs.length := by
  cases cs with
  | nil => simp [scanDigits] at h
  | cons c cs =>
    have := length_dropWhile_le (fun g => p g.char) cs
    simp only [scanDigits] at h
    split at h
    · split at h
      · simp at h
      · next hc =>
        simp only [Except.ok.injEq, Prod.mk.injEq] at h
        have h2 := scanChar_lt hc
        rw [← h.2, List.length_cons]
        omega
    · simp at h

/-- What is left after a reference is shorter. -/
theorem scanReference_lt {lex : Lexicon} {cs rest : List Glyph} {r : Reference}
    (h : scanReference lex cs = .ok (r, rest)) : rest.length < cs.length := by
  unfold scanReference at h
  split at h
  · have := scanDigits_lt h
    simp only [List.length_cons]
    omega
  · have := scanDigits_lt h
    simp only [List.length_cons]
    omega
  · split at h
    · simp at h
    · next hn =>
      simp only [Except.ok.injEq, Prod.mk.injEq] at h
      rw [← h.2]
      exact scanNameSemicolon_lt hn

/-- What is left after the body of a comment is shorter. -/
theorem scanCommentBody_lt {lex : Lexicon} {cs rest : List Glyph} {u : Unit}
    (h : scanCommentBody lex cs = .ok (u, rest)) : rest.length < cs.length := by
  fun_induction scanCommentBody lex cs with
  | case1 => simp at h
  | case2 cs =>
    have := scanChar_lt h
    simp only [List.length_cons]
    omega
  | case3 c cs _ ih =>
    have := ih h
    simp only [List.length_cons]
    omega

/-- What is left after a comment is shorter. -/
theorem scanComment_lt {lex : Lexicon} {cs rest : List Glyph} {u : Unit}
    (h : scanComment lex cs = .ok (u, rest)) : rest.length < cs.length := by
  simp only [scanComment] at h
  split at h
  · simp at h
  · next hc =>
    have h1 := scanChar_lt hc
    have h2 := scanCommentBody_lt h
    omega

/-- What is left after the body of an instruction is shorter. -/
theorem scanInstructionBody_lt {lex : Lexicon} {cs rest : List Glyph} {u : Unit}
    (h : scanInstructionBody lex cs = .ok (u, rest)) : rest.length < cs.length := by
  fun_induction scanInstructionBody lex cs with
  | case1 => simp at h
  | case2 cs =>
    simp at h
    simp only [h, List.length_cons]
    omega
  | case3 c cs _ ih =>
    have := ih h
    simp only [List.length_cons]
    omega

/-- What is left after an instruction is shorter. -/
theorem scanInstruction_lt {lex : Lexicon} {cs rest : List Glyph} {t : Target}
    (h : scanInstruction lex cs = .ok (t, rest)) : rest.length < cs.length := by
  simp only [scanInstruction] at h
  split at h
  · simp at h
  · next hn =>
    have h1 := scanName_lt hn
    split at h
    · simp at h
    · simp only [List.length_cons] at h1
      split at h
      · simp at h
      · split at h
        · split at h
          · simp at h
          · next hc =>
            simp only [Except.ok.injEq, Prod.mk.injEq] at h
            have h2 := scanChar_lt hc
            rw [← h.2]
            omega
        · split at h
          · simp at h
          · next hc =>
            simp only [Except.ok.injEq, Prod.mk.injEq] at h
            have h2 := scanInstructionBody_lt hc
            rw [← h.2]
            omega

end Metalink.Xml
