/-!
# Numbers with few binary digits

A number is rounded to a count of binary digits by taking the nearest number that has
zeros behind them, and of two that are equally near the one with an even last digit.
-/

namespace Metalink.Rounding

/-- The unit of the last digit that is kept of a number. -/
def unitOf (digits n : Nat) : Nat :=
  Nat.pow 2 (Nat.log2 n + 1 - digits)

/-- Keep some binary digits of a number. -/
def keepDigits (digits n : Nat) : Nat :=
  let unit := unitOf digits n
  let kept := n / unit
  let lost := n % unit
  if unit < 2 * lost ∨ (unit = 2 * lost ∧ kept % 2 = 1) then (kept + 1) * unit else kept * unit

/-- The number of binary digits that a number with a fraction has. -/
def precision : Nat := 53

/-- Whether a number is beyond all numbers with a fraction. -/
def overflows (n : Nat) : Bool :=
  Nat.pow 2 1024 - Nat.pow 2 970 ≤ n

/-- Whether a number, divided by a power of ten, is taken for zero among the numbers with a
fraction: it is no more than half of the least of them.  Where eight in place of ten
makes it small enough already, nothing needs to be multiplied out. -/
def vanishes (n places : Nat) : Bool :=
  Nat.log2 n + 1 + 1075 ≤ 3 * places || n * Nat.pow 2 1075 ≤ Nat.pow 10 places

end Metalink.Rounding
