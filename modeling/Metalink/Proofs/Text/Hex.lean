import Mathlib.Tactic.Common
import Metalink.Text.Hex
import Metalink.Text.Lower

/-!
# Well-formed hexadecimal digests

The check that a text is the digest of some number of bytes and the strict reading of
texts are two definitions.  This module ties them together: what passes the check can
be read, and gives as many bytes as were asked for.

Main results:

- `isDigit_iff_digitValue`: the characters that pass the check are those with a value.
- `decodeChars_isSome_iff`: digits can be read in pairs exactly if their number is even
  and nothing else stands among them.
- `exists_decode_of_isDigest`: a well-formed digest decodes to the right number of bytes.
- `SameLetters.isDigest_eq`, `SameLetters.decode_eq_ok_iff`: the case of letters does not
  matter to either.
- `decodeChars_encodeChars`: bytes that are written are read back.
- `lower_eq_encode`: what was read is written as the text in lower case.
-/

namespace Metalink.Hex

open Metalink.Text

/-! ## Digits -/

/-- The digits are the characters with a value. -/
theorem isDigit_iff_digitValue (c : Char) : isDigit c = (digitValue? c).isSome := by
  unfold isDigit digitValue?
  split_ifs with hdecimal hupper hlower <;> simp_all

/-! ## Pairs of digits -/

/-- Digits can be read in pairs exactly if there is an even number of them and nothing
else. -/
theorem decodeChars_isSome_iff (cs : List Char) :
    (decodeChars cs).isSome ↔ cs.length % 2 = 0 ∧ cs.all isDigit := by
  fun_induction decodeChars cs with
  | case1 => simp
  | case2 c => simp
  | case3 high low rest h l hlow hhigh ih =>
    have hlength : (rest.length + 1 + 1) % 2 = rest.length % 2 := by omega
    simpa [isDigit_iff_digitValue, hhigh, hlow, hlength] using ih
  | case4 high low rest hvalues =>
    have hforeign : ¬ (isDigit high ∧ isDigit low) := by
      rw [isDigit_iff_digitValue, isDigit_iff_digitValue, Option.isSome_iff_exists,
        Option.isSome_iff_exists]
      rintro ⟨⟨h, hh⟩, l, hl⟩
      exact hvalues h l hh hl
    simp only [Option.isSome_none, Bool.false_eq_true, List.all_cons, Bool.and_eq_true,
      false_iff, not_and]
    intro _ hhigh hlow
    exact absurd ⟨hhigh, hlow⟩ hforeign

/-- Every byte is written with two characters. -/
theorem length_of_decodeChars {cs : List Char} {bytes : List UInt8}
    (h : decodeChars cs = some bytes) : cs.length = 2 * bytes.length := by
  fun_induction decodeChars cs generalizing bytes with
  | case1 => simp_all
  | case2 c => simp at h
  | case3 high low rest _ _ _ _ ih =>
    obtain ⟨tail, htail, rfl⟩ := Option.map_eq_some_iff.1 h
    have hrest := ih htail
    simp only [List.length_cons]
    omega
  | case4 => simp at h

/-! ## Texts -/

/-- A text can be read exactly if it holds an even number of digits, at least one, and
nothing else; what is read is what its pairs of digits give. -/
theorem decode_eq_ok_iff (text : String) (bytes : List UInt8) :
    decode text = .ok bytes ↔ text.toList ≠ [] ∧ decodeChars text.toList = some bytes := by
  simp only [decode, List.isEmpty_iff]
  cases hchars : decodeChars text.toList with
  | none => split_ifs <;> simp
  | some read =>
    have heven : text.toList.length % 2 = 0 :=
      ((decodeChars_isSome_iff _).1 (by rw [hchars]; rfl)).1
    by_cases hempty : text.toList = []
    · simp [hempty]
    · simp [hempty, heven]

/-- A well-formed digest of some number of bytes decodes to that many bytes. -/
theorem exists_decode_of_isDigest {text : String} {length : Int}
    (h : isDigest text length = true) :
    ∃ bytes, decode text = .ok bytes ∧ (bytes.length : Int) = length := by
  simp only [isDigest, Bool.and_eq_true, Bool.not_eq_true', decide_eq_true_eq, beq_iff_eq] at h
  obtain ⟨⟨⟨hnonempty, -⟩, hdigits⟩, hlength⟩ := h
  have heven : text.toList.length % 2 = 0 := by omega
  obtain ⟨bytes, hbytes⟩ :=
    Option.isSome_iff_exists.1 ((decodeChars_isSome_iff _).2 ⟨heven, hdigits⟩)
  refine ⟨bytes, (decode_eq_ok_iff _ _).2 ⟨by simpa using hnonempty, hbytes⟩, ?_⟩
  have htwice := length_of_decodeChars hbytes
  omega

/-! ## Letter case -/

/-- The value of a digit does not depend on its case. -/
theorem digitValue?_toLower (c : Char) : digitValue? c.toLower = digitValue? c := by
  by_cases hascii : c.toNat < 128
  · have hall : ∀ n < 128, digitValue? (Char.ofNat n).toLower = digitValue? (Char.ofNat n) := by
      decide
    have h := hall c.toNat hascii
    rwa [Char.ofNat_toNat] at h
  · have hlower : c.toLower = c := by
      unfold Char.toLower
      rw [dif_neg]
      rintro ⟨-, hle⟩
      have hsmall : c.toNat ≤ 90 := hle
      omega
    rw [hlower]

/-- Nor do the bytes of a text. -/
theorem decodeChars_map_toLower (cs : List Char) :
    decodeChars (cs.map Char.toLower) = decodeChars cs := by
  fun_induction decodeChars cs with
  | case1 => rfl
  | case2 c => rfl
  | case3 high low rest h l hlow hhigh ih =>
    simp only [List.map_cons, decodeChars, digitValue?_toLower, hhigh, hlow, ih]
  | case4 high low rest hvalues => simp only [List.map_cons, decodeChars, digitValue?_toLower]

/-- Two texts are the same up to the case of ASCII letters. -/
def SameLetters (s t : String) : Prop :=
  s.toList.map Char.toLower = t.toList.map Char.toLower

instance (s t : String) : Decidable (SameLetters s t) :=
  inferInstanceAs (Decidable (_ = _))

namespace SameLetters

variable {s t : String}

theorem length_eq (h : SameLetters s t) : s.toList.length = t.toList.length := by
  simpa using congrArg List.length h

theorem isEmpty_eq (h : SameLetters s t) : s.toList.isEmpty = t.toList.isEmpty := by
  rw [Bool.eq_iff_iff, List.isEmpty_iff_length_eq_zero, List.isEmpty_iff_length_eq_zero,
    h.length_eq]

/-- Texts of the same letters are digests of the same lengths. -/
theorem isDigest_eq (h : SameLetters s t) (length : Int) :
    isDigest s length = isDigest t length := by
  have hdigit : ∀ c : Char, isDigit c.toLower = isDigit c := by
    intro c
    rw [isDigit_iff_digitValue, isDigit_iff_digitValue, digitValue?_toLower]
  have hlower : ∀ cs : List Char, (cs.map Char.toLower).all isDigit = cs.all isDigit := by
    intro cs
    simp only [List.all_map, Function.comp_def, hdigit]
  have hdigits : s.toList.all isDigit = t.toList.all isDigit := by
    rw [← hlower s.toList, h, hlower]
  simp only [isDigest, h.isEmpty_eq, h.length_eq, hdigits]

/-- They are decoded to the same bytes. -/
theorem decode_eq_ok_iff (h : SameLetters s t) {bytes : List UInt8} :
    decode s = .ok bytes ↔ decode t = .ok bytes := by
  have hchars : decodeChars s.toList = decodeChars t.toList := by
    rw [← decodeChars_map_toLower s.toList, h, decodeChars_map_toLower]
  have hempty : s.toList = [] ↔ t.toList = [] := by
    rw [← List.isEmpty_iff, ← List.isEmpty_iff, h.isEmpty_eq]
  rw [Hex.decode_eq_ok_iff, Hex.decode_eq_ok_iff, hchars, Ne, Ne, hempty]

end SameLetters

/-! ## Writing -/

/-- The digits that bytes are written with. -/
def IsLowerDigit (c : Char) : Prop :=
  ('0' ≤ c ∧ c ≤ '9') ∨ ('a' ≤ c ∧ c ≤ 'f')

instance (c : Char) : Decidable (IsLowerDigit c) :=
  inferInstanceAs (Decidable (_ ∨ _))

theorem isLowerDigit_hexDigit {n : Nat} (h : n < 16) : IsLowerDigit (hexDigit n) := by
  have hall : ∀ n < 16, IsLowerDigit (hexDigit n) := by decide
  exact hall n h

/-- A written digit is read back. -/
theorem digitValue?_hexDigit {n : Nat} (h : n < 16) : digitValue? (hexDigit n) = some n := by
  have hall : ∀ n < 16, digitValue? (hexDigit n) = some n := by decide
  exact hall n h

/-- The value of a digit is written as the digit in lower case. -/
theorem hexDigit_of_digitValue? {c : Char} {n : Nat} (h : digitValue? c = some n) :
    n < 16 ∧ c.toNat < 128 ∧ hexDigit n = lowerChar c := by
  have hascii : c.toNat < 128 := by
    unfold digitValue? at h
    split_ifs at h with hdecimal hupper hlower
    · have hle : c.toNat ≤ 57 := of_decide_eq_true (Bool.and_eq_true_iff.1 hdecimal).2
      omega
    · have hle : c.toNat ≤ 70 := of_decide_eq_true (Bool.and_eq_true_iff.1 hupper).2
      omega
    · have hle : c.toNat ≤ 102 := of_decide_eq_true (Bool.and_eq_true_iff.1 hlower).2
      omega
  have hall : ∀ k < 128, ∀ n ∈ digitValue? (Char.ofNat k),
      n < 16 ∧ hexDigit n = lowerChar (Char.ofNat k) := by
    decide
  have hdigit := hall c.toNat hascii n (by rwa [Char.ofNat_toNat])
  rw [Char.ofNat_toNat] at hdigit
  exact ⟨hdigit.1, hascii, hdigit.2⟩

theorem encodeChars_cons (byte : UInt8) (rest : List UInt8) :
    encodeChars (byte :: rest) =
      hexDigit (byte.toNat / 16) :: hexDigit (byte.toNat % 16) :: encodeChars rest :=
  rfl

/-- Bytes that are written are read back. -/
theorem decodeChars_encodeChars (bytes : List UInt8) :
    decodeChars (encodeChars bytes) = some bytes := by
  induction bytes with
  | nil => rfl
  | cons byte rest ih =>
    have hbyte := byte.toNat_lt
    have hhigh : digitValue? (hexDigit (byte.toNat / 16)) = some (byte.toNat / 16) :=
      digitValue?_hexDigit (by omega)
    have hlow : digitValue? (hexDigit (byte.toNat % 16)) = some (byte.toNat % 16) :=
      digitValue?_hexDigit (by omega)
    have hvalue : UInt8.ofNat (16 * (byte.toNat / 16) + byte.toNat % 16) = byte := by
      rw [Nat.div_add_mod, UInt8.ofNat_toNat]
    rw [encodeChars_cons, decodeChars, hhigh, hlow]
    simp only [ih, Option.map_some, hvalue]

/-- Bytes that were read are written as the digits that they were read from, in lower case. -/
theorem encodeChars_of_decodeChars {cs : List Char} {bytes : List UInt8}
    (h : decodeChars cs = some bytes) :
    encodeChars bytes = cs.map lowerChar ∧ ∀ c ∈ cs, c.toNat < 128 := by
  fun_induction decodeChars cs generalizing bytes with
  | case1 =>
    obtain rfl := Option.some.inj h
    exact ⟨rfl, fun c hc => by cases hc⟩
  | case2 c => cases h
  | case3 high low rest hi lo hlow hhigh ih =>
    obtain ⟨tail, htail, rfl⟩ := Option.map_eq_some_iff.1 h
    obtain ⟨hrest, hascii⟩ := ih htail
    obtain ⟨hhi, hhighAscii, hhighDigit⟩ := hexDigit_of_digitValue? hhigh
    obtain ⟨hlo, hlowAscii, hlowDigit⟩ := hexDigit_of_digitValue? hlow
    have hbyte : (UInt8.ofNat (16 * hi + lo)).toNat = 16 * hi + lo := by
      rw [UInt8.toNat_ofNat']
      omega
    have hdiv : (16 * hi + lo) / 16 = hi := by omega
    have hmod : (16 * hi + lo) % 16 = lo := by omega
    refine ⟨?_, ?_⟩
    · rw [encodeChars_cons, hbyte, hdiv, hmod, hhighDigit, hlowDigit, hrest]
      rfl
    · intro c hc
      rcases List.mem_cons.1 hc with rfl | hc
      · exact hhighAscii
      · rcases List.mem_cons.1 hc with rfl | hc
        · exact hlowAscii
        · exact hascii c hc
  | case4 => cases h

/-- In ASCII every character is put into lower case by itself. -/
theorem lowerFrom_of_ascii {cs : List Char} (h : ∀ c ∈ cs, c.toNat < 128) (before : List Char) :
    lowerFrom before cs = cs.map lowerChar := by
  induction cs generalizing before with
  | nil => rfl
  | cons c cs ih =>
    have hc : c.toNat < 128 := h c List.mem_cons_self
    have hsigma : ¬ (c == '\u03A3') = true := by
      intro heq
      rw [beq_iff_eq.1 heq] at hc
      exact absurd hc (by decide)
    have hdotted : ¬ (c == '\u0130') = true := by
      intro heq
      rw [beq_iff_eq.1 heq] at hc
      exact absurd hc (by decide)
    have hrest := ih (fun other hother => h other (List.mem_cons_of_mem _ hother)) (c :: before)
    rw [lowerFrom, if_neg hsigma, if_neg hdotted, hrest, List.map_cons]

/-- The lower-case form of a text that can be read is what the bytes that were read are written
as. -/
theorem lower_eq_encode {text : String} {bytes : List UInt8}
    (h : decodeChars text.toList = some bytes) : lower text = encode bytes := by
  obtain ⟨hencode, hascii⟩ := encodeChars_of_decodeChars h
  rw [lower, lowerFrom_of_ascii hascii, encode, hencode]

/-- Encoded bytes are in lower case. -/
@[simp]
theorem lower_encode (bytes : List UInt8) : lower (encode bytes) = encode bytes :=
  lower_eq_encode (by rw [encode, String.toList_ofList, decodeChars_encodeChars])

theorem isLowerDigit_of_mem_encode {bytes : List UInt8} {c : Char}
    (h : c ∈ (encode bytes).toList) : IsLowerDigit c := by
  rw [encode, String.toList_ofList, encodeChars] at h
  obtain ⟨byte, -, hc⟩ := List.mem_flatMap.1 h
  have hbyte := byte.toNat_lt
  rcases List.mem_cons.1 hc with rfl | hc
  · exact isLowerDigit_hexDigit (by omega)
  · obtain rfl := List.mem_singleton.1 hc
    exact isLowerDigit_hexDigit (by omega)

theorem length_encode (bytes : List UInt8) : (encode bytes).length = 2 * bytes.length := by
  rw [encode, String.length_ofList]
  exact length_of_decodeChars (decodeChars_encodeChars bytes)

end Metalink.Hex
