import Mathlib.Tactic.Common
import Metalink.Xml.Source

/-!
# Encodings that cannot be had

A document escapes for the sake of its encoding alone.  Bytes may declare an encoding: the name
is looked up among all that are known, and not all of these can be gone on with.  Text declares
none that counts, but has to be encoded, which it cannot be with a surrogate in it.  Nothing
after that matters, and nothing of the document is delivered.

Main results:

- `Source.tokenize_escaped_iff`: reading a document escapes exactly if it declares an
  encoding that cannot be had, or is a text that cannot be encoded.
- `Source.events_of_escaped`: it then comes to no event.
-/

namespace Metalink.Xml

/-! ## The declaration of a document -/

/-- The XML declaration at the front of bytes in a recognised encoding, with a byte order mark of
some length. -/
def declarationIn (bytes : Bytes) (encoding : Encoding) (mark : Nat) : Option Declaration :=
  let decoded := encoding.decode mark (bytes.drop mark)
  let lex : Lexicon := ⟨decoded.tail, encoding, decoded.stop, true⟩
  match splitDeclaration lex decoded.glyphs with
  | .ok (some (inner, stop)) =>
    (Declaration.ofGlyphs (lex.upTo (stop - 2 * encoding.unitSize)) inner).toOption
  | _ => none

/-- The encoding in which bytes are recognised, and the name of the one that they declare. -/
def declared? (bytes : Bytes) : Option (Encoding × List Char) :=
  match Signature.ofBytes bytes with
  | .found encoding mark =>
    (declarationIn bytes encoding mark).bind fun declaration =>
      declaration.encoding.map fun (name, _) => (encoding, name)
  | _ => none

/-- A document consists of bytes that declare an encoding that cannot be had. -/
def Source.LacksEncoding (source : Source) (escape : Escape) : Prop :=
  ∃ content, source = .bytes content ∧ ∃ current name,
    declared? content = some (current, name) ∧ Declared.ofName current name = .escaped escape

/-- A document is a text that cannot be encoded. -/
def Source.IsUnencodable (source : Source) (fault : Unencodable) : Prop :=
  ∃ text, source = .text text ∧ text.encode = .error fault

/-! ## What escapes -/

/-- A fault is nothing that escapes. -/
theorem Verdict.ofFault_ne_escaped {document : List Glyph} {fault : Fault} {escape : Escape} :
    Verdict.ofFault document fault ≠ .escaped escape :=
  nofun

/-- After the declaration nothing escapes. -/
theorem readBody_verdict_ne_escaped {encoding : Encoding} {standalone : Bool}
    {lead body : Bytes} {escape : Escape} :
    (readBody encoding standalone lead body).verdict ≠ .escaped escape := by
  unfold readBody
  simp only
  split
  · exact Verdict.ofFault_ne_escaped
  · split
    · exact Verdict.ofFault_ne_escaped
    · nofun
    · unfold readEnd
      split <;> nofun

/-- Reading a document in a recognised encoding escapes exactly if the declared encoding
cannot be had. -/
theorem readRecognised_escaped_iff {declares : Bool} {bytes : Bytes} {encoding : Encoding}
    {mark : Nat} {escape : Escape} :
    (readRecognised declares bytes encoding mark).verdict = .escaped escape ↔
      declares = true ∧ ∃ declaration name place,
        declarationIn bytes encoding mark = some declaration ∧
          declaration.encoding = some (name, place) ∧
            Declared.ofName encoding name = .escaped escape := by
  unfold readRecognised declarationIn
  simp only
  -- Up to the lookup of the declared name, a document is either at fault or read on.
  split
  · next heq => simp [heq, Tokenized.faultAt, Verdict.ofFault_ne_escaped]
  · next heq => simp [heq, readBody_verdict_ne_escaped]
  · next inner stop heq =>
    simp only [heq]
    split
    · next hdeclaration =>
      simp [hdeclaration, Tokenized.faultAt, Verdict.ofFault_ne_escaped, Except.toOption]
    · next declaration hdeclaration =>
      simp only [hdeclaration, Except.toOption, Option.some.injEq, exists_and_left,
        exists_eq_left']
      cases declaration.encoding with
      | none => simp [readBody_verdict_ne_escaped]
      | some named =>
        rcases named with ⟨name, place⟩
        cases declares with
        | false => simp [readBody_verdict_ne_escaped]
        | true =>
          cases hname : Declared.ofName encoding name <;>
            simp [hname, readBody_verdict_ne_escaped, Tokenized.faultAt,
              Verdict.ofFault_ne_escaped]

/-- A document that escapes in a recognised encoding has delivered nothing. -/
theorem readRecognised_events_of_escaped {declares : Bool} {bytes : Bytes} {encoding : Encoding}
    {mark : Nat} {escape : Escape} :
    (readRecognised declares bytes encoding mark).verdict = .escaped escape →
      (readRecognised declares bytes encoding mark).events = [] := by
  unfold readRecognised
  simp only
  split
  · exact fun _ => rfl
  · exact fun h => absurd h readBody_verdict_ne_escaped
  · split
    · exact fun _ => rfl
    · split
      · exact fun h => absurd h readBody_verdict_ne_escaped
      · split
        · exact fun h => absurd h readBody_verdict_ne_escaped
        · split
          · exact fun h => absurd h readBody_verdict_ne_escaped
          · exact fun _ => rfl
          · exact fun _ => rfl

/-- Reading bytes escapes exactly if they declare an encoding that cannot be had, and this
counts. -/
theorem readBytes_escaped_iff {declares : Bool} {bytes : Bytes} {escape : Escape} :
    (readBytes declares bytes).verdict = .escaped escape ↔
      declares = true ∧ ∃ current name,
        declared? bytes = some (current, name) ∧
          Declared.ofName current name = .escaped escape := by
  simp only [readBytes, declared?]
  cases Signature.ofBytes bytes with
  | empty => simp
  | tooShort => simp
  | found encoding mark =>
    simp only [readRecognised_escaped_iff]
    refine and_congr_right fun _ => ?_
    constructor
    · rintro ⟨declaration, name, place, hdeclaration, hname, hlacks⟩
      exact ⟨encoding, name, by simp [hdeclaration, hname], hlacks⟩
    · rintro ⟨current, name, hdeclared, hlacks⟩
      simp only [Option.bind_eq_some_iff, Option.map_eq_some_iff, Prod.mk.injEq] at hdeclared
      obtain ⟨declaration, hdeclaration, ⟨_, place⟩, hname, rfl, rfl⟩ := hdeclared
      exact ⟨declaration, _, place, hdeclaration, hname, hlacks⟩

/-- Nor have any bytes that escape. -/
theorem readBytes_events_of_escaped {declares : Bool} {bytes : Bytes} {escape : Escape} :
    (readBytes declares bytes).verdict = .escaped escape →
      (readBytes declares bytes).events = [] := by
  unfold readBytes
  split
  · exact fun _ => rfl
  · exact fun _ => rfl
  · exact readRecognised_events_of_escaped

/-- Reading a document escapes exactly if it declares an encoding that cannot be had, or is a text
that cannot be encoded. -/
theorem Source.tokenize_escaped_iff {source : Source} {escape : Escape} :
    source.tokenize.verdict = .escaped escape ↔
      source.LacksEncoding escape ∨
        ∃ fault, source.IsUnencodable fault ∧ escape = .unencodable fault := by
  cases source with
  | bytes content =>
    simp [tokenize, toBytes, declares, readBytes_escaped_iff, LacksEncoding, IsUnencodable]
  | text text =>
    cases hencode : text.encode with
    | error fault =>
      simp [tokenize, toBytes, hencode, LacksEncoding, IsUnencodable, Except.map, eq_comm]
    | ok s =>
      simp [tokenize, toBytes, declares, hencode, readBytes_escaped_iff, LacksEncoding,
        IsUnencodable, Except.map]

/-- A document that escapes comes to no event. -/
theorem Source.events_of_escaped {source : Source} {escape : Escape} :
    source.tokenize.verdict = .escaped escape → source.tokenize.events = [] := by
  unfold tokenize
  split
  · exact fun _ => rfl
  · exact readBytes_events_of_escaped

end Metalink.Xml
