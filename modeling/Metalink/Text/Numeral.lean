/-!
# Decimal numerals

A numeral is an optional sign and at least one ASCII digit.  Numerals of more than
4300 digits are recognised but not evaluated.  The number of digits is what is
written: leading zeros count and the sign does not.
-/

namespace Metalink.Text

/-- The value of a decimal digit. -/
def digitValue (c : Char) : Nat :=
  c.toNat - 48

/-- The number written by a list of digits after those already read. -/
def digitsValue (start : Nat) (digits : List Char) : Nat :=
  digits.foldl (fun n c => 10 * n + digitValue c) start

/-- The digits of a number as written, and whether a minus sign is before them. -/
structure Numeral where
  negative : Bool
  digits : List Char
deriving DecidableEq, Repr

/-- The longest numeral that is evaluated. -/
def maxDigits : Nat := 4300

/-- Split the sign from the rest of a text. -/
def splitSign : List Char → Bool × List Char
  | '-' :: rest => (true, rest)
  | '+' :: rest => (false, rest)
  | cs => (false, cs)

/-- Read a whole text as a numeral. -/
def Numeral.ofChars? (cs : List Char) : Option Numeral :=
  match splitSign cs with
  | (negative, digits) =>
    if digits ≠ [] ∧ digits.all Char.isDigit then some ⟨negative, digits⟩ else none

/-- The integer that a numeral denotes in base ten. -/
def Numeral.value (numeral : Numeral) : Int :=
  let n := digitsValue 0 numeral.digits
  if numeral.negative then -(n : Int) else n

/-- Whether a numeral is too long to be evaluated. -/
def Numeral.TooLong (numeral : Numeral) : Prop :=
  maxDigits < numeral.digits.length

instance (numeral : Numeral) : Decidable numeral.TooLong :=
  inferInstanceAs (Decidable (_ < _))

/-- What reading an integer can come to: the text is no numeral, it has too many digits, or it
denotes an integer. -/
inductive IntegerText where
  | notNumeral
  | tooLong (digits : Nat)
  | value (n : Int)
deriving DecidableEq, Repr

/-- Read a whole text as an integer. -/
def readInteger (s : String) : IntegerText :=
  match Numeral.ofChars? s.toList with
  | none => .notNumeral
  | some numeral =>
    if numeral.TooLong then .tooLong numeral.digits.length else .value numeral.value

end Metalink.Text
