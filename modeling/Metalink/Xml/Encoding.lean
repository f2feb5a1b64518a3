import Metalink.Storage
import Metalink.Xml.Character
import Metalink.Xml.CodePage
import Metalink.Xml.Glyph

/-!
# Encodings

A document is decoded up to the first place that cannot be decoded.  What stands
there decides how markup that reaches it fails.
-/

namespace Metalink.Xml

/-! ## How an input ends -/

/-- How the decoded characters of an input end: it has been decoded whole, a part of a code unit
is left, or so many code units are left that encode no character, or only the beginning of one.
Those that encode none may begin like a character of several units. -/
inductive Tail where
  | done
  | oddByte
  | invalid (units : Nat) (leads : Bool)
  | cut (units : Nat)
deriving DecidableEq, Repr

/-- Whether nothing follows that could be looked at. -/
def Tail.ended : Tail → Bool
  | done | oddByte => true
  | invalid _ _ | cut _ => false

/-- The number of code units that were not decoded. -/
def Tail.units : Tail → Nat
  | done | oddByte => 0
  | invalid units _ | cut units => units

/-- Whether what follows begins like a character of several units. -/
def Tail.leads : Tail → Bool
  | done | oddByte => false
  | invalid _ leads => leads
  | cut _ => true

/-- A decoded input: the characters up to the first place that cannot be decoded, what stands
there, and the number of bytes before it. -/
structure Decoded where
  glyphs : List Glyph
  tail : Tail
  stop : Nat
deriving Repr

/-! ## Encodings -/

/-- The encodings of documents. -/
inductive Encoding where
  | utf8
  | utf16be
  | utf16le
  | latin1
  | ascii
  | page (page : CodePage)

namespace Encoding

/-- The number of bytes in a code unit. -/
def unitSize : Encoding → Nat
  | utf16be | utf16le => 2
  | _ => 1

/-- The number of bytes of a character. -/
def sizeOf : Encoding → Char → Nat
  | utf8, c => c.utf8Size
  | utf16be, c | utf16le, c => if c.toNat < 0x10000 then 2 else 4
  | _, _ => 1

/-- Whether text is handed on without being encoded anew. -/
def keepsText : Encoding → Bool
  | utf8 | ascii => true
  | _ => false

/-- Whether names may start with the three letters of Latin-1 that are no letters
of the name table. -/
def latinNames : Encoding → Bool
  | utf16be | utf16le | latin1 => true
  | _ => false

/-- Whether one byte tells what kind of character it is. -/
def isNarrow : Encoding → Char → Bool
  | utf8, c | ascii, c => c.toNat < 0x80
  | utf16be, c | utf16le, c => c.toNat < 0x100
  | latin1, _ | page _, _ => true

end Encoding

/-! ## UTF-8 -/

/-- Whether a byte continues a character. -/
def isContinuation (b : UInt8) : Bool :=
  0x80 ≤ b && b < 0xC0

/-- The character of two bytes. -/
def pair? (b0 b1 : UInt8) : Option Char :=
  if 0xC2 ≤ b0 && isContinuation b1 then
    some (Char.ofNat ((b0.toNat - 0xC0) * 64 + (b1.toNat - 0x80)))
  else none

/-- The character of three bytes: no longer than needed, and no surrogate. -/
def triple? (b0 b1 b2 : UInt8) : Option Char :=
  if isContinuation b1 && isContinuation b2 && (b0 != 0xE0 || 0xA0 ≤ b1) &&
      (b0 != 0xED || b1 < 0xA0) then
    let c := Char.ofNat ((b0.toNat - 0xE0) * 4096 + (b1.toNat - 0x80) * 64 + (b2.toNat - 0x80))
    if isMarkupChar c then some c else none
  else none

/-- The character of four bytes: no longer than needed, and within range. -/
def quadruple? (b0 b1 b2 b3 : UInt8) : Option Char :=
  if isContinuation b1 && isContinuation b2 && isContinuation b3 && (b0 != 0xF0 || 0x90 ≤ b1) &&
      (b0 != 0xF4 || b1 < 0x90) then
    some (Char.ofNat ((b0.toNat - 0xF0) * 262144 + (b1.toNat - 0x80) * 4096 +
      (b2.toNat - 0x80) * 64 + (b3.toNat - 0x80)))
  else none

/-- Decode UTF-8 from a place on, after the characters decoded before in reverse
order. -/
def decodeUtf8 (place : Nat) (before : List Glyph) : Bytes → Decoded
  | [] => ⟨before.reverse, .done, place⟩
  | b0 :: rest0 =>
    let stop (tail : Nat → Tail) : Decoded := ⟨before.reverse, tail (rest0.length + 1), place⟩
    if b0 < 0x80 then
      let c := Char.ofNat b0.toNat
      if isMarkupChar c then decodeUtf8 (place + 1) (⟨c, place⟩ :: before) rest0
      else stop (.invalid · false)
    else if b0 < 0xC0 then stop (.invalid · false)
    else if b0 < 0xE0 then
      match rest0 with
      | b1 :: rest1 =>
        match pair? b0 b1 with
        | some c => decodeUtf8 (place + 2) (⟨c, place⟩ :: before) rest1
        | none => stop (.invalid · true)
      | _ => stop .cut
    else if b0 < 0xF0 then
      match rest0 with
      | b1 :: b2 :: rest2 =>
        match triple? b0 b1 b2 with
        | some c => decodeUtf8 (place + 3) (⟨c, place⟩ :: before) rest2
        | none => stop (.invalid · true)
      | _ => stop .cut
    else if b0 < 0xF5 then
      match rest0 with
      | b1 :: b2 :: b3 :: rest3 =>
        match quadruple? b0 b1 b2 b3 with
        | some c => decodeUtf8 (place + 4) (⟨c, place⟩ :: before) rest3
        | none => stop (.invalid · true)
      | _ => stop .cut
    else stop (.invalid · false)

/-! ## UTF-16 -/

/-- Decode UTF-16 from a place on, given how two bytes make a code unit.  The first
half of a pair takes the low bits of whatever unit follows it. -/
def decodeUtf16 (unit : UInt8 → UInt8 → Nat) (place : Nat) (before : List Glyph) :
    Bytes → Decoded
  | [] => ⟨before.reverse, .done, place⟩
  | [_] => ⟨before.reverse, .oddByte, place⟩
  | b0 :: b1 :: rest =>
    let u := unit b0 b1
    let stop (tail : Nat → Tail) : Decoded :=
      ⟨before.reverse, tail (rest.length / 2 + 1), place⟩
    if 0xD800 ≤ u && u < 0xDC00 then
      match rest with
      | b2 :: b3 :: rest =>
        let c := Char.ofNat (0x10000 + (u % 1024) * 1024 + unit b2 b3 % 1024)
        decodeUtf16 unit (place + 4) (⟨c, place⟩ :: before) rest
      | _ => stop .cut
    else if 0xDC00 ≤ u && u < 0xE000 then stop (.invalid · false)
    else
      let c := Char.ofNat u
      if isMarkupChar c then decodeUtf16 unit (place + 2) (⟨c, place⟩ :: before) rest
      else stop (.invalid · false)

/-! ## Single bytes -/

/-- Decode a single-byte encoding from a place on, given the character of each byte. -/
def decodeSingle (charOf : UInt8 → Option Char) (place : Nat) (before : List Glyph) :
    Bytes → Decoded
  | [] => ⟨before.reverse, .done, place⟩
  | b :: rest =>
    match charOf b with
    | some c => decodeSingle charOf (place + 1) (⟨c, place⟩ :: before) rest
    | none => ⟨before.reverse, .invalid (rest.length + 1) false, place⟩

/-- The character of a byte in Latin-1. -/
def latin1Char (b : UInt8) : Option Char :=
  let c := Char.ofNat b.toNat
  if isMarkupChar c then some c else none

/-- The character of a byte in ASCII. -/
def asciiChar (b : UInt8) : Option Char :=
  if b < 0x80 then latin1Char b else none

/-- The character of a byte in a page, of which the upper half and the characters that
it lacks are given. -/
def pageChar (upper : Array Char) (missing : List Char) (b : UInt8) : Option Char :=
  if b < 0x80 then (asciiChar b).filter fun c => !missing.contains c
  else (upper[b.toNat - 128]?).filter fun c => c != '\uFFFD'

/-! ## Decoding -/

/-- Decode bytes, which stand at some place, up to the first that cannot be decoded. -/
def Encoding.decode (encoding : Encoding) (place : Nat) (bytes : Bytes) : Decoded :=
  match encoding with
  | utf8 => decodeUtf8 place [] bytes
  | utf16be => decodeUtf16 (fun b0 b1 => b0.toNat * 256 + b1.toNat) place [] bytes
  | utf16le => decodeUtf16 (fun b0 b1 => b1.toNat * 256 + b0.toNat) place [] bytes
  | latin1 => decodeSingle latin1Char place [] bytes
  | ascii => decodeSingle asciiChar place [] bytes
  | page p => decodeSingle (pageChar p.upper.toArray p.missing) place [] bytes

/-! ## Recognising an encoding -/

/-- What the first bytes of a document tell: nothing, as there are none, too little, or the
encoding, with the number of bytes of a byte order mark. -/
inductive Signature where
  | empty
  | tooShort
  | found (encoding : Encoding) (mark : Nat)

/-- Recognise the encoding of a document by a byte order mark, or by the zero byte
of a first character in UTF-16; anything else is taken for UTF-8. -/
def Signature.ofBytes : Bytes → Signature
  | [] => .empty
  | [b] =>
    if b == 0xFE || b == 0xFF || b == 0xEF || b == 0x00 || b == 0x3C then .tooShort
    else .found .utf8 0
  | b0 :: b1 :: rest =>
    if b0 == 0xFE && b1 == 0xFF then .found .utf16be 2
    else if b0 == 0xFF && b1 == 0xFE then .found .utf16le 2
    else if b0 == 0xEF && b1 == 0xBB then
      match rest with
      | [] => .tooShort
      | b2 :: _ => if b2 == 0xBF then .found .utf8 3 else .found .utf8 0
    else if b0 == 0x00 then .found .utf16be 0
    else if b1 == 0x00 then .found .utf16le 0
    else .found .utf8 0

end Metalink.Xml
