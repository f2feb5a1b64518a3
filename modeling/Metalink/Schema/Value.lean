/-!
# Data without a type

Settings and records come as data that may hold anything: from options, from the
environment, or from a caller.

Current gaps:

- Texts in data are texts of characters.
-/

namespace Metalink.Schema

/-- Data of any shape.  A decimal is a number with a fractional part, which may be zero: a number
divided by a power of ten. -/
inductive Value where
  | null
  | bool (b : Bool)
  | int (n : Int)
  | decimal (mantissa : Int) (places : Nat)
  | text (s : String)
  | list (items : List Value)
  | record (fields : List (String × Value))
deriving Inhabited

/-- A record by the names of its fields. -/
abbrev Fields := List (String × Value)

end Metalink.Schema
