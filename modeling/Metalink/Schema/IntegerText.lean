import Metalink.Text.Blank
import Metalink.Text.Numeral

/-!
# Integers in loosely written text

An integer may be written with white space around it, a sign, leading zeros, single
underscores between digits, and a fraction of nothing but zeros.  What is left without
them is a plain numeral: a zero, or digits of which the first is none.

That there are too many digits is told of plain numerals only, but whatever follows the
digits.
-/

namespace Metalink.Schema

open Metalink.Text

/-- White space that may stand around a number. -/
def isBlankSeparator (c : Char) : Bool :=
  let n := c.toNat
  (9 ≤ n && n ≤ 13) || n == 32 || n == 0x85 || n == 0xA0 || n == 0x1680 ||
    (0x2000 ≤ n && n ≤ 0x200A) || n == 0x2028 || n == 0x2029 || n == 0x202F ||
    n == 0x205F || n == 0x3000

/-- Remove the white space around a number. -/
def trimNumber (cs : List Char) : List Char :=
  trimBoth isBlankSeparator cs

/-- What reading an integer in loosely written text can come to: an integer, too many digits, or
none. -/
inductive LooseInteger where
  | value (n : Int)
  | tooLong
  | malformed
deriving DecidableEq, Repr

/-- Digits of which the first is no zero, or a zero alone. -/
def isPlainDigits : List Char → Bool
  | [] => false
  | ['0'] => true
  | '0' :: _ => false
  | cs => cs.all Char.isDigit

/-- A plain numeral, with a minus sign or none.  Too many digits are noticed before what
follows them is looked at. -/
def readPlain (cs : List Char) : LooseInteger :=
  let (negative, text) := match cs with
    | '-' :: rest => (true, rest)
    | cs => (false, cs)
  let digits := text.takeWhile Char.isDigit
  if !isPlainDigits digits then .malformed
  else if maxDigits < digits.length then .tooLong
  else if digits.length < text.length then .malformed
  else .value (Numeral.value ⟨negative, digits⟩)

/-- Remove zeros in front, given the character before: up to the first other digit or a
minus sign, or to the character before a full stop, or to the last character. -/
def dropZeros (last : Char) : List Char → Option (List Char)
  | [] => some [last]
  | c :: rest =>
    if c == '0' || c == '_' then dropZeros c rest
    else if ('1' ≤ c && c ≤ '9') || c == '-' then some (c :: rest)
    else if c == '.' then some (last :: c :: rest)
    else none

/-- Remove zeros in front of text that begins with a digit. -/
def dropLead : List Char → Option (List Char)
  | '0' :: rest => dropZeros '0' rest
  | c :: rest => if '1' ≤ c && c ≤ '9' then some (c :: rest) else none
  | [] => none

/-- Whether there is a minus sign in front, and the text without a sign.  A plus sign
stays in front of a minus sign. -/
def takeSign : List Char → Bool × List Char
  | '-' :: rest => (true, rest)
  | '+' :: '-' :: rest => (false, '+' :: '-' :: rest)
  | '+' :: rest => (false, rest)
  | cs => (false, cs)

/-- Remove a fraction of nothing but zeros, of which there is at least one. -/
def dropFraction (cs : List Char) : List Char :=
  match cs.dropWhile (· != '.') with
  | _ :: '0' :: zeros => if zeros.all (· == '0') then cs.takeWhile (· != '.') else cs
  | _ => cs

/-- Whether two underscores stand side by side. -/
def hasDoubleUnderscore : List Char → Bool
  | '_' :: '_' :: _ => true
  | _ :: rest => hasDoubleUnderscore rest
  | [] => false

/-- Remove underscores that stand singly within. -/
def dropUnderscores (cs : List Char) : List Char :=
  if cs.head? == some '_' || cs.getLast? == some '_' || hasDoubleUnderscore cs then cs
  else cs.filter (· != '_')

/-- The plain numeral in loosely written text. -/
def plainText (cs : List Char) : Option (List Char) :=
  let (negative, rest) := takeSign (trimNumber cs)
  match dropLead rest with
  | none => none
  | some rest =>
    let digits := dropUnderscores (dropFraction rest)
    some (if negative then '-' :: digits else digits)

/-- Read an integer in loosely written text. -/
def readLooseInteger (s : String) : LooseInteger :=
  match readPlain s.toList with
  | .malformed =>
    match (plainText s.toList).map readPlain with
    | some (.value n) => .value n
    | _ => .malformed
  | result => result

end Metalink.Schema
