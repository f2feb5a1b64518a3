import Metalink.Text.Quoted

/-!
# Hexadecimal digests

Bytes are written as two lower-case digits each.  Reading is strict: either letter
case is accepted, but no white space, no odd length and no empty text.
-/

namespace Metalink.Hex

open Metalink.Text

/-! ## Digits -/

/-- Whether a character is a hexadecimal digit of either case. -/
def isDigit (c : Char) : Bool :=
  ('0' ≤ c && c ≤ '9') || ('A' ≤ c && c ≤ 'F') || ('a' ≤ c && c ≤ 'f')

/-- The value of a hexadecimal digit. -/
def digitValue? (c : Char) : Option Nat :=
  if '0' ≤ c && c ≤ '9' then some (c.toNat - 48)
  else if 'A' ≤ c && c ≤ 'F' then some (c.toNat - 55)
  else if 'a' ≤ c && c ≤ 'f' then some (c.toNat - 87)
  else none

/-! ## Writing -/

/-- The two digits of a byte. -/
def encodeByte (b : UInt8) : List Char :=
  [hexDigit (b.toNat / 16), hexDigit (b.toNat % 16)]

/-- The digits of a list of bytes. -/
def encodeChars (bytes : List UInt8) : List Char :=
  bytes.flatMap encodeByte

/-- Bytes as lower-case hexadecimal text. -/
def encode (bytes : List UInt8) : String :=
  String.ofList (encodeChars bytes)

/-! ## Reading -/

/-- Why a text is no hexadecimal digest: it is empty, the number of characters is odd, or some
character is no hexadecimal digit. -/
inductive Fault where
  | empty
  | oddLength (length : Nat)
  | foreign (text : String)
deriving DecidableEq, Repr

/-- The wording of a fault. -/
def Fault.message : Fault → String
  | .empty => "Hex digest cannot be empty"
  | .oddLength length => "Hex digest has odd length " ++ toString length
  | .foreign text => "Hex digest contains non-hex characters: " ++ quoted text

/-- Read digits in pairs. -/
def decodeChars : List Char → Option (List UInt8)
  | [] => some []
  | [_] => none
  | high :: low :: rest =>
    match digitValue? high, digitValue? low with
    | some h, some l => (decodeChars rest).map (UInt8.ofNat (16 * h + l) :: ·)
    | _, _ => none

/-- Read a whole text as bytes.  An empty text and an odd length are reported
before any foreign character. -/
def decode (text : String) : Except Fault (List UInt8) :=
  let cs := text.toList
  if cs.isEmpty then .error .empty
  else if cs.length % 2 = 1 then .error (.oddLength cs.length)
  else
    match decodeChars cs with
    | some bytes => .ok bytes
    | none => .error (.foreign text)

/-- Whether a text is the digest of exactly `length` bytes: two digits for each
byte and nothing else.  No text is a digest of zero bytes or fewer. -/
def isDigest (text : String) (length : Int) : Bool :=
  let cs := text.toList
  !cs.isEmpty && 0 < length && cs.all isDigit && (cs.length : Int) == length * 2

end Metalink.Hex
