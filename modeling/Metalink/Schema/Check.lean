import Metalink.Rounding
import Metalink.Schema.IntegerText
import Metalink.Schema.Value
import Metalink.Schema.Violation
import Metalink.Text.CodeText

/-!
# Checking data

A record is checked field by field, in the order of its declaration, and every field
at fault is reported with its place and the rule that it breaks.

Joining checks joins their reports in order.
-/

namespace Metalink.Schema

/-! ## Outcomes -/

/-- The outcome of a check. -/
abbrev Checked (α : Type) := Except (List Violation) α

namespace Checked

/-- A rule is broken at the place under check. -/
def broken {α : Type} (rule : Rule) : Checked α := .error [⟨[], rule⟩]

/-- The check of a part that lies at a name. -/
def under {α : Type} (name : String) : Checked α → Checked α
  | .ok a => .ok a
  | .error vs => .error (vs.map fun v => { v with place := name :: v.place })

/-- Two checks together: all violations of the first, then all of the second. -/
def both {α β γ : Type} (f : α → β → γ) : Checked α → Checked β → Checked γ
  | .ok a, .ok b => .ok (f a b)
  | .ok _, .error vs => .error vs
  | .error us, .ok _ => .error us
  | .error us, .error vs => .error (us ++ vs)

/-- A function that is waiting for the result of one more check. -/
def taking {α β : Type} (next : Checked α) (function : Checked (α → β)) : Checked β :=
  both (fun f a => f a) function next

end Checked

/-! ## Fields -/

/-- A field that must be there. -/
def required {α : Type} (fields : Fields) (name : String) (check : Value → Checked α) :
    Checked α :=
  match fields.lookup name with
  | some v => (check v).under name
  | none => Checked.under name (.broken .missing)

/-- A field that has a value without being there. -/
def defaulted {α : Type} (fields : Fields) (name : String) (default : α)
    (check : Value → Checked α) : Checked α :=
  match fields.lookup name with
  | some v => (check v).under name
  | none => .ok default

/-! ## Kinds of data -/

/-- A text. -/
def checkText : Value → Checked String
  | .text s => .ok s
  | _ => .broken .stringType

/-- A text of characters that is not empty. -/
def checkNonEmptyText (text : CodeText) : Checked String :=
  match text.string? with
  | some s => if s = "" then .broken .stringTooShort else .ok s
  | none => .broken .stringUnicode

/-- Data that is a text of characters and not empty. -/
def checkNonEmpty (v : Value) : Checked String :=
  match checkText v with
  | .ok s => checkNonEmptyText s
  | .error vs => .error vs

/-- Data that may be null. -/
def checkOptional {α : Type} (check : Value → Checked α) : Value → Checked (Option α)
  | .null => .ok none
  | v => (check v).map some

/-- The bound below which a number with a fractional part is taken for an integer. -/
def decimalBound : Nat := 9223372036854775808

/-- The integer that a number with a fractional part is, which is kept to the precision of
such numbers. -/
def integerOfDecimal (mantissa : Int) (places : Nat) : Checked Int :=
  if Rounding.vanishes mantissa.natAbs places then .ok 0
  else
    let unit := Nat.pow 10 places
    let whole := Rounding.keepDigits Rounding.precision (mantissa.natAbs / unit)
    if Rounding.overflows (mantissa.natAbs / unit) then .broken .finiteNumber
    else if mantissa.natAbs % unit ≠ 0 then .broken .intFromFloat
    else if decimalBound ≤ whole then .broken .intParsingSize
    else .ok (if mantissa < 0 then -(whole : Int) else whole)

/-- An integer: a number without a fraction, a truth value, or loosely written text. -/
def checkInteger : Value → Checked Int
  | .int n => .ok n
  | .bool b => .ok (if b then 1 else 0)
  | .decimal mantissa places => integerOfDecimal mantissa places
  | .text s =>
    match readLooseInteger s with
    | .value n => .ok n
    | .tooLong => .broken .intParsingSize
    | .malformed => .broken .intParsing
  | _ => .broken .intType

/-- An integer above another one. -/
def checkAbove (bound : Int) (v : Value) : Checked { n : Int // bound < n } :=
  match checkInteger v with
  | .ok n => if h : bound < n then .ok ⟨n, h⟩ else .broken .greaterThan
  | .error vs => .error vs

/-- An integer not below another one. -/
def checkAtLeast (bound : Int) (v : Value) : Checked Int :=
  match checkInteger v with
  | .ok n => if bound ≤ n then .ok n else .broken .greaterThanEqual
  | .error vs => .error vs

/-- An integer between two others; the upper bound is looked at first. -/
def checkBetween (low high : Int) (v : Value) : Checked Int :=
  match checkInteger v with
  | .ok n =>
    if high < n then .broken .lessThanEqual
    else if n < low then .broken .greaterThanEqual
    else .ok n
  | .error vs => .error vs

/-- One of several values with names of their own. -/
def checkName {α : Type} (ofName? : String → Option α) : Value → Checked α
  | .text s =>
    match ofName? s with
    | some a => .ok a
    | none => .broken .enum
  | _ => .broken .enum

/-- One of several values with numbers of their own. -/
def checkNumbered {α : Type} (ofNumber? : Int → Option α) (v : Value) : Checked α :=
  match checkInteger v with
  | .ok n =>
    match ofNumber? n with
    | some a => .ok a
    | none => .broken .enum
  | .error _ => .broken .enum

/-- The items of a list from a number on, each checked at its number. -/
def checkItems {α : Type} (check : Value → Checked α) : Nat → List Value → Checked (List α)
  | _, [] => .ok []
  | i, v :: rest =>
    Checked.both List.cons ((check v).under (toString i)) (checkItems check (i + 1) rest)

/-- A list. -/
def checkList {α : Type} (check : Value → Checked α) : Value → Checked (List α)
  | .list vs => checkItems check 0 vs
  | _ => .broken .listType

/-- A record. -/
def checkRecord {α : Type} (check : Fields → Checked α) : Value → Checked α
  | .record fields => check fields
  | _ => .broken .modelType

/-! ## Amounts of time -/

/-- The parts of a number with a fraction: the digits in front of the point, those after
it, and what is left. -/
def splitFraction (cs : List Char) : List Char × List Char × List Char :=
  let whole := cs.takeWhile Char.isDigit
  match cs.dropWhile Char.isDigit with
  | '.' :: rest => (whole, rest.takeWhile Char.isDigit, rest.dropWhile Char.isDigit)
  | rest => (whole, [], rest)

/-- The number in an exponent, or zero where there is none. -/
def exponent? : List Char → Option Int
  | [] => some 0
  | e :: rest =>
    let (negative, digits) := Text.splitSign rest
    if (e == 'e' || e == 'E') && digits ≠ [] && digits.all Char.isDigit then
      some (Text.Numeral.value ⟨negative, digits⟩)
    else none

/-- Whether digits that follow a minus sign, divided by a power of ten, make a number below
zero: they do unless it is taken for zero. -/
def isBelowZero (digits : List Char) (places : Int) : Bool :=
  !Rounding.vanishes (Text.digitsValue 0 digits) places.toNat

/-- A number that may have a sign, a fraction and an exponent: whether it fails to be at
least zero, or nothing if it is no number. -/
def readAmount (cs : List Char) : Option Bool :=
  let (negative, cs) := Text.splitSign cs
  let (whole, fraction, rest) := splitFraction cs
  if whole = [] ∧ fraction = [] then
    match String.ofList (cs.map Char.toLower) with
    | "inf" | "infinity" => some negative
    | "nan" => some true
    | _ => none
  else
    (exponent? rest).map fun exponent =>
      negative && isBelowZero (whole ++ fraction) (fraction.length - exponent)

/-- An amount in text, which may have white space around it or underscores within. -/
def readLooseAmount (s : String) : Option Bool :=
  (readAmount (trimNumber s.toList)).orElse fun _ => readAmount (dropUnderscores s.toList)

/-- An amount of time that is not below zero. -/
def checkAmount : Value → Checked Unit
  | .int n =>
    if Rounding.overflows n.natAbs then .broken .floatType
    else if 0 ≤ n then .ok () else .broken .greaterThanEqual
  | .bool _ => .ok ()
  | .decimal mantissa places =>
    if 0 ≤ mantissa ∨ Rounding.vanishes mantissa.natAbs places then .ok ()
    else .broken .greaterThanEqual
  | .text s =>
    match readLooseAmount s with
    | some negative => if negative then .broken .greaterThanEqual else .ok ()
    | none => .broken .floatParsing
  | _ => .broken .floatType

end Metalink.Schema
