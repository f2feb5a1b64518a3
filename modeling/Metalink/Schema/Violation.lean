/-!
# Violations

What is wrong with data that a record cannot be built from: the rules that it breaks, each
with the place where it does.

Current gaps:

- The wording is the name of the rule; the sentence that explains it is left out.
-/

namespace Metalink.Schema

/-- The rules that data can break. -/
inductive Rule where
  | missing
  | stringType
  | stringUnicode
  | stringTooShort
  | intType
  | intParsing
  | intParsingSize
  | intFromFloat
  | finiteNumber
  | greaterThan
  | greaterThanEqual
  | lessThanEqual
  | floatType
  | floatParsing
  | listType
  | modelType
  | enum
  | frozenInstance
deriving DecidableEq, Repr

/-- The name of a rule. -/
def Rule.label : Rule → String
  | missing => "missing"
  | stringType => "string_type"
  | stringUnicode => "string_unicode"
  | stringTooShort => "string_too_short"
  | intType => "int_type"
  | intParsing => "int_parsing"
  | intParsingSize => "int_parsing_size"
  | intFromFloat => "int_from_float"
  | finiteNumber => "finite_number"
  | greaterThan => "greater_than"
  | greaterThanEqual => "greater_than_equal"
  | lessThanEqual => "less_than_equal"
  | floatType => "float_type"
  | floatParsing => "float_parsing"
  | listType => "list_type"
  | modelType => "model_type"
  | enum => "enum"
  | frozenInstance => "frozen_instance"

/-- A rule that is broken at a place, given by the names and numbers that lead there. -/
structure Violation where
  place : List String
  rule : Rule
deriving DecidableEq, Repr

/-- The place of a violation as text. -/
def Violation.placeText (v : Violation) : String :=
  String.intercalate "." v.place

/-- A violation as a message lists it: its place and the name of the rule. -/
def Violation.line (v : Violation) : String :=
  v.placeText ++ ": " ++ v.rule.label

end Metalink.Schema
