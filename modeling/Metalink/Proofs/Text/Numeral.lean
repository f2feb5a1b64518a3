import Mathlib.Tactic.Common
import Metalink.Text.Blank
import Metalink.Text.Numeral

/-!
# Reading integers

A text denotes an integer if it is an optional sign and at least one ASCII digit, with no
more digits than are evaluated.  Reading finds this integer, and finds nothing in any other
text.

Main results:

- `ofChars?_eq_some_iff`: the numerals that are recognised are those that are written.
- `readInteger_eq_value_iff`, `readInteger_eq_tooLong_iff` and
  `readInteger_eq_notNumeral_iff`: what reading a text comes to, in each of its three cases.
- `integer?_isSome_iff`: an integer is read from a text exactly if it denotes one.
- `denotes_toString`: the text of an integer denotes it.
-/

namespace Metalink.Text

/-! ## Numerals as written -/

/-- Characters that write a numeral: an optional sign and the digits, of which there is at least
one.  A minus sign must be written and a plus sign may be. -/
structure Numeral.IsSpelledBy (numeral : Numeral) (cs : List Char) : Prop where
  nonempty : numeral.digits ≠ []
  decimal : ∀ c ∈ numeral.digits, c.isDigit = true
  sign : if numeral.negative then cs = '-' :: numeral.digits
    else cs = numeral.digits ∨ cs = '+' :: numeral.digits

/-- Nothing is split off from a text that starts with a digit. -/
theorem splitSign_of_isDigit {c : Char} (h : c.isDigit = true) (rest : List Char) :
    splitSign (c :: rest) = (false, c :: rest) := by
  have hminus : c ≠ '-' := by
    rintro rfl
    exact absurd h (by decide)
  have hplus : c ≠ '+' := by
    rintro rfl
    exact absurd h (by decide)
  rw [splitSign.eq_def]
  split
  · simp_all
  · simp_all
  · rfl

/-- A text is its sign and what follows it. -/
theorem eq_of_splitSign {cs digits : List Char} {negative : Bool}
    (h : splitSign cs = (negative, digits)) :
    if negative then cs = '-' :: digits else cs = digits ∨ cs = '+' :: digits := by
  rw [splitSign.eq_def] at h
  split at h <;> cases h <;> simp

/-- A numeral is recognised exactly where it is written. -/
theorem Numeral.ofChars?_eq_some_iff {cs : List Char} {numeral : Numeral} :
    Numeral.ofChars? cs = some numeral ↔ numeral.IsSpelledBy cs := by
  unfold Numeral.ofChars?
  constructor
  · intro h
    rcases hsplit : splitSign cs with ⟨negative, digits⟩
    rw [hsplit] at h
    dsimp only at h
    split at h
    · next hdigits =>
      cases h
      exact ⟨hdigits.1, List.all_eq_true.1 hdigits.2, eq_of_splitSign hsplit⟩
    · cases h
  · rintro ⟨nonempty, decimal, sign⟩
    have hsplit : splitSign cs = (numeral.negative, numeral.digits) := by
      rcases numeral with ⟨negative, digits⟩
      cases negative with
      | true =>
        obtain rfl : cs = '-' :: digits := sign
        rfl
      | false =>
        rcases (sign : cs = digits ∨ cs = '+' :: digits) with rfl | rfl
        · -- Without a sign the first digit must not be taken for one.
          obtain ⟨c, rest, rfl⟩ := List.exists_cons_of_ne_nil nonempty
          exact splitSign_of_isDigit (decimal c List.mem_cons_self) rest
        · rfl
    rw [hsplit]
    exact if_pos ⟨nonempty, List.all_eq_true.2 decimal⟩

/-! ## Integers -/

/-- A text denotes an integer: it writes a numeral that is not too long. -/
def Denotes (text : String) (n : Int) : Prop :=
  ∃ numeral : Numeral,
    numeral.IsSpelledBy text.toList ∧ numeral.digits.length ≤ maxDigits ∧ numeral.value = n

/-- A text denotes some integer. -/
def IsInteger (text : String) : Prop :=
  ∃ n, Denotes text n

/-- An integer is read exactly from a text that denotes it. -/
theorem readInteger_eq_value_iff {text : String} {n : Int} :
    readInteger text = .value n ↔ Denotes text n := by
  simp only [readInteger, Denotes, ← Numeral.ofChars?_eq_some_iff]
  cases Numeral.ofChars? text.toList with
  | none => simp
  | some numeral =>
    by_cases h : numeral.TooLong
    · have hlength : ¬ numeral.digits.length ≤ maxDigits := Nat.not_le.2 h
      simp [h, hlength]
    · have hlength : numeral.digits.length ≤ maxDigits := Nat.not_lt.1 h
      simp [h, hlength]

/-- A numeral is too long exactly if one with more digits than are evaluated is
written. -/
theorem readInteger_eq_tooLong_iff {text : String} {digits : Nat} :
    readInteger text = .tooLong digits ↔
      maxDigits < digits ∧ ∃ numeral : Numeral,
        numeral.IsSpelledBy text.toList ∧ numeral.digits.length = digits := by
  simp only [readInteger, ← Numeral.ofChars?_eq_some_iff]
  cases Numeral.ofChars? text.toList with
  | none => simp
  | some numeral =>
    by_cases h : numeral.TooLong
    · have hlength : maxDigits < numeral.digits.length := h
      simp only [h, if_true, IntegerText.tooLong.injEq, Option.some.injEq, exists_eq_left']
      exact ⟨fun heq => ⟨heq ▸ hlength, heq⟩, And.right⟩
    · have hlength : ¬ maxDigits < numeral.digits.length := h
      simp only [h, if_false, reduceCtorEq, Option.some.injEq, exists_eq_left', false_iff]
      rintro ⟨hlong, rfl⟩
      exact hlength hlong

/-- A text is no numeral exactly if none is written. -/
theorem readInteger_eq_notNumeral_iff {text : String} :
    readInteger text = .notNumeral ↔ ∀ numeral : Numeral, ¬ numeral.IsSpelledBy text.toList := by
  simp only [readInteger, ← Numeral.ofChars?_eq_some_iff]
  cases Numeral.ofChars? text.toList with
  | none => simp
  | some numeral =>
    simp only [Option.some.injEq, forall_eq', iff_false]
    split <;> simp

/-- The integer that is read from a text, if one is. -/
def integer? (text : String) : Option Int :=
  match readInteger text with
  | .value n => some n
  | _ => none

/-- The integer of a text is the one that it denotes. -/
theorem integer?_eq_some_iff {text : String} {n : Int} :
    integer? text = some n ↔ Denotes text n := by
  rw [← readInteger_eq_value_iff, integer?]
  split <;> simp_all

theorem integer?_isSome_iff {text : String} :
    (integer? text).isSome = true ↔ IsInteger text := by
  simp only [Option.isSome_iff_exists, integer?_eq_some_iff, IsInteger]

/-! ## Integers as written -/

/-- The numeral of an integer. -/
def Numeral.ofInt (n : Int) : Numeral :=
  ⟨decide (n < 0), Nat.toDigits 10 n.natAbs⟩

/-- The numeral of an integer has it as its value. -/
theorem Numeral.value_ofInt (n : Int) : (Numeral.ofInt n).value = n := by
  have hdigits : digitsValue 0 (Nat.toDigits 10 n.natAbs) = n.natAbs :=
    Nat.ofDigitChars_ten_toDigits
  simp only [Numeral.value, Numeral.ofInt, hdigits, decide_eq_true_eq]
  split <;> omega

theorem toList_toString (n : Int) :
    (toString n).toList =
      if n < 0 then '-' :: Nat.toDigits 10 n.natAbs else Nat.toDigits 10 n.natAbs := by
  change n.repr.toList = _
  rw [Int.repr_eq_if]
  by_cases hnegative : n < 0
  · have habs : (-n).toNat = n.natAbs := by omega
    simp [hnegative, Int.not_le.2 hnegative, habs, Nat.toList_repr]
  · have habs : n.toNat = n.natAbs := by omega
    simp [hnegative, Int.not_lt.1 hnegative, habs, Nat.toList_repr]

/-- The text of an integer spells its numeral. -/
theorem Numeral.isSpelledBy_toString (n : Int) :
    (Numeral.ofInt n).IsSpelledBy (toString n).toList where
  nonempty := Nat.toDigits_ne_nil
  decimal _ hc := Nat.isDigit_of_mem_toDigits (by decide) (by decide) hc
  sign := by
    rw [toList_toString]
    by_cases hnegative : n < 0 <;> simp [Numeral.ofInt, hnegative]

/-- The text of an integer denotes it, if it does not have too many digits. -/
theorem denotes_toString {n : Int} (h : (toString n.natAbs).length ≤ maxDigits) :
    Denotes (toString n) n := by
  have hdigits : (toString n.natAbs).length = (Nat.toDigits 10 n.natAbs).length :=
    congrArg List.length Nat.toList_repr
  exact ⟨.ofInt n, Numeral.isSpelledBy_toString n, hdigits ▸ h, Numeral.value_ofInt n⟩

theorem isDigit_or_eq_minus {n : Int} {c : Char} (h : c ∈ (toString n).toList) :
    c.isDigit = true ∨ c = '-' := by
  have hdigit : ∀ {c}, c ∈ Nat.toDigits 10 n.natAbs → c.isDigit = true :=
    Nat.isDigit_of_mem_toDigits (by decide) (by decide)
  rw [toList_toString] at h
  split at h
  · rcases List.mem_cons.1 h with rfl | h
    · exact .inr rfl
    · exact .inl (hdigit h)
  · exact .inl (hdigit h)

theorem isBlank_eq_false_of_isDigit {c : Char} (h : c.isDigit = true) : isBlank c = false := by
  have hrange : 48 ≤ c.toNat ∧ c.toNat ≤ 57 := Char.isDigit_iff_toNat.1 h
  simp [isBlank]
  omega

/-- The text of an integer has no white space. -/
theorem isTrimmed_toString (n : Int) : IsTrimmed (toString n) := by
  have hnone : ∀ c ∈ (toString n).toList, isBlank c = false := by
    intro c hc
    rcases isDigit_or_eq_minus hc with hdigit | rfl
    · exact isBlank_eq_false_of_isDigit hdigit
    · decide
  exact ⟨fun c hc => hnone c (List.mem_of_head? hc), fun c hc => hnone c (List.mem_of_getLast? hc)⟩

end Metalink.Text
