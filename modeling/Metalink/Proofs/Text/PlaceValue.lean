import Mathlib.Data.Nat.Digits.Defs
import Mathlib.Tactic.Common
import Metalink.Proofs.Text.Numeral

/-!
# Numerals in base ten

A numeral stands for the sum of its digits, each times its power of ten, with the sign that is
written.  Texts that do not have more digits than are evaluated are read as exactly what is written
in them, whatever its magnitude, and the decimal text of an integer stands for this integer with any
number of zeros before its digits and any white space around it.

Main results:

- `value_eq_inBaseTen`: reading digits one by one comes to their sum by place.
- `denotes_iff_writes`: a text with no more digits than are evaluated denotes what is written in it.
- `writes_trim_padded`, `digitCount_padded`: padded decimal texts.
-/

namespace Metalink.Text

/-! ## Place values -/

/-- Digits read one by one are digits in base ten, of which the last one counts least. -/
theorem digitsValue_eq_ofDigits (digits : List Char) :
    digitsValue 0 digits = Nat.ofDigits 10 (digits.reverse.map digitValue) := by
  rw [Nat.ofDigits_eq_foldr, List.foldr_map, List.foldr_reverse, digitsValue]
  simp only [Nat.cast_id, Nat.add_comm]

/-- The integer that is written by a numeral in base ten. -/
def Numeral.inBaseTen (numeral : Numeral) : Int :=
  (if numeral.negative then -1 else 1) *
    (Nat.ofDigits 10 (numeral.digits.reverse.map digitValue) : Nat)

/-- The value of a numeral is read in base ten. -/
theorem Numeral.value_eq_inBaseTen (numeral : Numeral) : numeral.value = numeral.inBaseTen := by
  simp only [value, inBaseTen, digitsValue_eq_ofDigits]
  split <;> simp

/-- An integer is written in a text: the text is an optional sign and digits in base ten, however
many there are. -/
def Writes (text : String) (n : Int) : Prop :=
  ∃ numeral : Numeral, numeral.IsSpelledBy text.toList ∧ numeral.inBaseTen = n

/-- At most one integer is written in a text. -/
theorem Writes.unique {text : String} {m n : Int} (hm : Writes text m) (hn : Writes text n) :
    m = n := by
  obtain ⟨first, hfirst, rfl⟩ := hm
  obtain ⟨second, hsecond, rfl⟩ := hn
  rw [← Numeral.ofChars?_eq_some_iff] at hfirst hsecond
  rw [Option.some.inj (hfirst.symm.trans hsecond)]

theorem Writes.eq_iff {text : String} {m n : Int} (hm : Writes text m) :
    m = n ↔ Writes text n :=
  ⟨fun heq => heq ▸ hm, hm.unique⟩

/-- The number of ASCII digits in a text. -/
def digitCount (text : String) : Nat :=
  text.toList.countP Char.isDigit

namespace Numeral.IsSpelledBy

variable {numeral : Numeral} {cs : List Char} (h : numeral.IsSpelledBy cs)

include h

/-- The digits of a numeral are its end. -/
theorem digits_suffix : numeral.digits <:+ cs := by
  have hsign := h.sign
  split at hsign
  · exact hsign ▸ List.suffix_cons _ _
  · rcases hsign with hsign | hsign
    · exact hsign ▸ List.suffix_rfl
    · exact hsign ▸ List.suffix_cons _ _

theorem ne_nil : cs ≠ [] := by
  rintro rfl
  exact h.nonempty (List.suffix_nil.1 h.digits_suffix)

/-- A numeral has no more digits than the text that spells it. -/
theorem length_le_countP : numeral.digits.length ≤ cs.countP Char.isDigit :=
  calc numeral.digits.length = numeral.digits.countP Char.isDigit :=
        (List.countP_eq_length.2 h.decimal).symm
    _ ≤ cs.countP Char.isDigit := h.digits_suffix.sublist.countP_le

/-- There is no white space in a numeral. -/
theorem isBlank_eq_false {c : Char} (hc : c ∈ cs) : isBlank c = false := by
  have hdigits : c ∈ numeral.digits → isBlank c = false :=
    fun hmem => isBlank_eq_false_of_isDigit (h.decimal c hmem)
  have hsign := h.sign
  split at hsign
  · rw [hsign] at hc
    rcases List.mem_cons.1 hc with rfl | hmem
    · decide
    · exact hdigits hmem
  · rcases hsign with hsign | hsign <;> rw [hsign] at hc
    · exact hdigits hc
    · rcases List.mem_cons.1 hc with rfl | hmem
      · decide
      · exact hdigits hmem

end Numeral.IsSpelledBy

/-! ## Texts with white space around them -/

/-- Trimming only leaves characters out. -/
theorem trimBoth_sublist (p : Char → Bool) (cs : List Char) : (trimBoth p cs).Sublist cs := by
  have hback := (List.dropWhile_sublist (l := (cs.dropWhile p).reverse) p).reverse
  rw [List.reverse_reverse] at hback
  exact hback.trans (List.dropWhile_sublist p)

/-- What is trimmed at both ends is gone, if what is between starts and ends otherwise. -/
theorem trimBoth_append {p : Char → Bool} {before cs after : List Char}
    (hbefore : ∀ c ∈ before, p c = true) (hafter : ∀ c ∈ after, p c = true) (hne : cs ≠ [])
    (first : ∀ c, cs.head? = some c → p c = false)
    (last : ∀ c, cs.getLast? = some c → p c = false) :
    trimBoth p (before ++ cs ++ after) = cs := by
  have hfront : (before ++ cs ++ after).dropWhile p = cs ++ after := by
    rw [List.append_assoc, List.dropWhile_append_of_pos hbefore]
    refine dropWhile_eq_self fun c hc => first c ?_
    rwa [List.head?_append, Option.or_of_isSome (List.isSome_head?.2 hne)] at hc
  have hback : (cs ++ after).reverse.dropWhile p = cs.reverse := by
    rw [List.reverse_append, List.dropWhile_append_of_pos (by simpa using hafter)]
    exact dropWhile_eq_self fun c hc => last c (List.head?_reverse ▸ hc)
  rw [trimBoth, hfront, hback, List.reverse_reverse]

/-- Trimming a text adds no digits to it. -/
theorem digitCount_trim_le (text : String) : digitCount (trim text) ≤ digitCount text := by
  rw [digitCount, digitCount, trim, String.toList_ofList]
  exact (trimBoth_sublist isBlank text.toList).countP_le

/-! ## Reading what is written -/

/-- No integer is read exactly if none is written. -/
theorem readInteger_eq_notNumeral_iff_not_writes {text : String} :
    readInteger text = .notNumeral ↔ ∀ n, ¬ Writes text n := by
  rw [readInteger_eq_notNumeral_iff]
  constructor
  · rintro hnone n ⟨numeral, hspelled, -⟩
    exact hnone numeral hspelled
  · exact fun hnone numeral hspelled => hnone _ ⟨numeral, hspelled, rfl⟩

section Evaluated

variable {text : String} (h : digitCount text ≤ maxDigits) {n : Int}

include h

/-- A text with no more digits than are evaluated denotes the integer that is written in it. -/
theorem denotes_iff_writes : Denotes text n ↔ Writes text n := by
  constructor
  · rintro ⟨numeral, hspelled, -, hvalue⟩
    exact ⟨numeral, hspelled, numeral.value_eq_inBaseTen.symm.trans hvalue⟩
  · rintro ⟨numeral, hspelled, hvalue⟩
    exact ⟨numeral, hspelled, hspelled.length_le_countP.trans h,
      numeral.value_eq_inBaseTen.trans hvalue⟩

/-- Reading gives exactly the integer that is written. -/
theorem readInteger_eq_value_iff_writes : readInteger text = .value n ↔ Writes text n :=
  readInteger_eq_value_iff.trans (denotes_iff_writes h)

end Evaluated

/-! ## Padded decimal texts -/

/-- The decimal text of an integer, with zeros before its digits and other text around it. -/
def padded (before : String) (zeros : Nat) (n : Int) (after : String) : String :=
  before ++ ((if n < 0 then "-" else "") ++ String.ofList (.replicate zeros '0') ++
    toString n.natAbs) ++ after

/-- An integer as a numeral, with zeros before its digits. -/
def Numeral.ofPadded (zeros : Nat) (n : Int) : Numeral :=
  ⟨decide (n < 0), .replicate zeros '0' ++ Nat.toDigits 10 n.natAbs⟩

/-- Zeros before the digits do not change the value. -/
theorem Numeral.value_ofPadded (zeros : Nat) (n : Int) : (ofPadded zeros n).inBaseTen = n := by
  have hdigits : digitsValue 0 (Nat.toDigits 10 n.natAbs) = n.natAbs :=
    Nat.ofDigitChars_ten_toDigits
  have hzero : digitValue '0' = 0 := rfl
  rw [digitsValue_eq_ofDigits] at hdigits
  simp only [inBaseTen, ofPadded, List.reverse_append, List.reverse_replicate, List.map_append,
    List.map_replicate, hzero, Nat.ofDigits_append_replicate_zero, hdigits, decide_eq_true_eq]
  split <;> omega

/-- A text with zeros spells the numeral with them. -/
theorem Numeral.isSpelledBy_ofPadded (zeros : Nat) (n : Int) :
    (ofPadded zeros n).IsSpelledBy (padded "" zeros n "").toList where
  nonempty := List.append_ne_nil_of_right_ne_nil _ Nat.toDigits_ne_nil
  decimal c hc := by
    rcases List.mem_append.1 hc with hc | hc
    · rw [List.eq_of_mem_replicate hc]
      rfl
    · exact Nat.isDigit_of_mem_toDigits (by decide) (by decide) hc
  sign := by
    by_cases hnegative : n < 0 <;> simp [ofPadded, padded, hnegative]

section Padded

variable {before after : String} (hbefore : AllBlank before) (hafter : AllBlank after)
  (zeros : Nat) (n : Int)

include hbefore hafter

/-- Trimming leaves the numeral without the white space around it. -/
theorem trim_padded : trim (padded before zeros n after) = padded "" zeros n "" := by
  have hspelled := Numeral.isSpelledBy_ofPadded zeros n
  have hsplit : (padded before zeros n after).toList =
      before.toList ++ (padded "" zeros n "").toList ++ after.toList := by
    simp [padded]
  rw [trim, hsplit, trimBoth_append hbefore hafter hspelled.ne_nil
    (fun c hc => hspelled.isBlank_eq_false (List.mem_of_head? hc))
    (fun c hc => hspelled.isBlank_eq_false (List.mem_of_getLast? hc)), String.ofList_toList]

/-- A padded decimal text stands for its integer. -/
theorem writes_trim_padded : Writes (trim (padded before zeros n after)) n := by
  rw [trim_padded hbefore hafter]
  exact ⟨.ofPadded zeros n, Numeral.isSpelledBy_ofPadded zeros n, Numeral.value_ofPadded zeros n⟩

/-- The digits of a padded decimal text are those of the integer and the zeros before them. -/
theorem digitCount_padded :
    digitCount (padded before zeros n after) = zeros + (toString n.natAbs).length := by
  have hblank : ∀ {text : String}, AllBlank text → text.toList.countP Char.isDigit = 0 := by
    intro text htext
    refine List.countP_eq_zero.2 fun c hc hdigit => ?_
    have hnot := isBlank_eq_false_of_isDigit hdigit
    rw [htext c hc] at hnot
    cases hnot
  have hsign : (if n < 0 then "-" else "").toList.countP Char.isDigit = 0 := by
    split <;> decide
  have hzeros : (List.replicate zeros '0').countP Char.isDigit = zeros := by
    rw [List.countP_replicate]
    rfl
  have hdigits : (toString n.natAbs).toList.countP Char.isDigit = (toString n.natAbs).length := by
    refine List.countP_eq_length.2 fun c hc => ?_
    rw [show (toString n.natAbs).toList = Nat.toDigits 10 n.natAbs from Nat.toList_repr] at hc
    exact Nat.isDigit_of_mem_toDigits (by decide) (by decide) hc
  simp only [digitCount, padded, String.toList_append, List.countP_append, String.toList_ofList,
    hblank hbefore, hblank hafter, hsign, hzeros, hdigits, Nat.zero_add, Nat.add_zero]

end Padded

end Metalink.Text
