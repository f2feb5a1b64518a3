/-!
# Sets of characters given by intervals

A property of characters that a standard lists by number is kept as the list of its
intervals.
-/

namespace Metalink.Text

/-- A set of code points, as closed intervals. -/
abbrev CodeSet := List (Nat × Nat)

/-- Whether a character lies in one of the intervals. -/
def CodeSet.has (set : CodeSet) (c : Char) : Bool :=
  set.any fun interval => interval.1 ≤ c.toNat && c.toNat ≤ interval.2

end Metalink.Text
