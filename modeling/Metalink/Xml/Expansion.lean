import Metalink.Rounding
import Metalink.Xml.Problem

/-!
# How far entities expand a document

What was read of a document itself is counted apart from what was read of the texts of
its entities.  A document whose entities make it far longer than it is, is refused.

A document that refers to no entity is never refused for its length.
-/

namespace Metalink.Xml

/-! ## Accounts -/

/-- What has been read, in bytes: the part of the document that has been reached, what of it was
read once more, as values of attributes, and what was read of the texts of entities. -/
structure Tally where
  reached : Nat
  again : Nat
  expanded : Nat
deriving DecidableEq, Repr

namespace Tally

/-- What was read of the document itself. -/
def direct (tally : Tally) : Nat := tally.reached + tally.again

/-- All that was read. -/
def total (tally : Tally) : Nat := tally.direct + tally.expanded

/-- The length below which any expansion is tolerated. -/
def freeLength : Nat := 8388608

/-- A length as far as twenty-four binary digits tell. -/
def rounded (length : Nat) : Nat := Rounding.keepDigits 24 length

/-- Whether an expansion is tolerated: to at most a hundred times the document, and half
of what the last of twenty-four binary digits of a hundred counts. -/
def isTolerable (tally : Tally) : Bool :=
  tally.total < freeLength ||
    rounded tally.total * 262144 ≤ rounded tally.direct * 26214401

/-- Nothing wrong, unless the expansion is too great. -/
def check (tally : Tally) : Except Problem Tally :=
  if tally.isTolerable then .ok tally else .error .excessiveExpansion

/-- The document has been read up to a place. -/
def reach (tally : Tally) (place : Nat) : Tally := { tally with reached := place }

/-- Some bytes of the document were read once more. -/
def reread (tally : Tally) (size : Nat) : Tally := { tally with again := tally.again + size }

/-- Some bytes of the text of an entity were read. -/
def expand (tally : Tally) (size : Nat) : Tally :=
  { tally with expanded := tally.expanded + size }

/-- Without entities a document of any length is tolerated. -/
theorem isTolerable_of_expanded_eq_zero {tally : Tally} (h : tally.expanded = 0) :
    tally.isTolerable = true := by
  have : rounded tally.direct * 262144 ≤ rounded tally.direct * 26214401 :=
    Nat.mul_le_mul_left _ (by decide)
  simp [isTolerable, total, h, this]

end Tally

/-! ## Charges -/

/-- To which account reading a value goes: it has been counted with its markup, it is a part of
the document that is read once more, or it belongs to the text of an entity. -/
inductive Charge where
  | free
  | document
  | entity
deriving DecidableEq, Repr

/-- Charge some bytes. -/
def Charge.add (charge : Charge) (size : Nat) (tally : Tally) : Except Problem Tally :=
  match charge with
  | free => .ok tally
  | document => (tally.reread size).check
  | entity => (tally.expand size).check

end Metalink.Xml
