import Metalink.Error
import Metalink.Proofs.Text.Hex

/-!
# Hexadecimal text and bytes

Writing bytes and reading them back are inverse to each other up to the case of letters, and the
reader is strict: a text that nothing is written as, in either case, is refused.  Which of the
three refusals it meets is said here by the text alone, whatever the order of the tests.

Main results:

- `isDigit_iff_mem_digits`: the characters that are read are the digits of either case.
- `map_toLower_of_decodeChars`: what was read is written as the text with small letters.
- `decode_encode`: non-empty bytes are read back as they were written.
- `exists_decode_iff`, `refusedWith_of_length_odd`, `refusedWith_of_foreign`: which texts are read,
  and how the others are refused.
- `hex_codec_is_strict`: reading and writing are inverse up to letter case, and all else is
  refused.
-/

namespace Metalink.Hex

open Metalink.Text

/-! ## Digits -/

/-- The hexadecimal digits of either case. -/
def digits : List Char :=
  ['0', '1', '2', '3', '4', '5', '6', '7', '8', '9', 'A', 'B', 'C', 'D', 'E', 'F', 'a', 'b', 'c',
    'd', 'e', 'f']

theorem toNat_lt_of_isDigit {c : Char} (h : isDigit c = true) : c.toNat < 128 := by
  rw [isDigit_iff_digitValue] at h
  obtain ⟨n, hn⟩ := Option.isSome_iff_exists.1 h
  exact (hexDigit_of_digitValue? hn).2.1

/-- The characters that are read are the digits of either case. -/
theorem isDigit_iff_mem_digits (c : Char) : isDigit c = true ↔ c ∈ digits := by
  constructor
  · intro h
    have hall : ∀ n < 128, isDigit (Char.ofNat n) = true → Char.ofNat n ∈ digits := by decide
    have hmem := hall c.toNat (toNat_lt_of_isDigit h)
    rw [Char.ofNat_toNat] at hmem
    exact hmem h
  · have hall : digits.all isDigit = true := by decide
    exact List.all_eq_true.1 hall c

theorem all_isDigit_iff (text : String) :
    text.toList.all isDigit = true ↔ ∀ c ∈ text.toList, c ∈ digits := by
  simp only [List.all_eq_true, isDigit_iff_mem_digits]

/-! ## Letter case -/

/-- In ASCII both ways of putting a character into lower case agree. -/
theorem lowerChar_of_ascii {c : Char} (h : c.toNat < 128) : lowerChar c = c.toLower := by
  have hall : ∀ n < 128, lowerChar (Char.ofNat n) = (Char.ofNat n).toLower := by decide
  have hc := hall c.toNat h
  rwa [Char.ofNat_toNat] at hc

/-- What was read is written as the text with small letters. -/
theorem map_toLower_of_decodeChars {cs : List Char} {bytes : List UInt8}
    (h : decodeChars cs = some bytes) : cs.map Char.toLower = encodeChars bytes := by
  obtain ⟨hencode, hascii⟩ := encodeChars_of_decodeChars h
  rw [hencode]
  exact List.map_congr_left fun c hc => (lowerChar_of_ascii (hascii c hc)).symm

/-- Two texts give the same bytes exactly if they differ in nothing but the case of letters. -/
theorem bytes_eq_iff_sameLetters {s t : String} {a b : List UInt8} (hs : decode s = .ok a)
    (ht : decode t = .ok b) : a = b ↔ SameLetters s t := by
  constructor
  · rintro rfl
    rw [SameLetters, map_toLower_of_decodeChars ((decode_eq_ok_iff _ _).1 hs).2,
      map_toLower_of_decodeChars ((decode_eq_ok_iff _ _).1 ht).2]
  · intro hsame
    rw [hsame.decode_eq_ok_iff, ht] at hs
    exact (Except.ok.inj hs).symm

/-! ## Writing and reading -/

theorem encodeChars_eq_nil_iff (bytes : List UInt8) : encodeChars bytes = [] ↔ bytes = [] := by
  cases bytes <;> simp [encodeChars, encodeByte]

/-- Bytes are read back as they were written, unless there are none. -/
theorem decode_encode {bytes : List UInt8} (h : bytes ≠ []) :
    decode (encode bytes) = .ok bytes := by
  rw [decode_eq_ok_iff, encode, String.toList_ofList]
  exact ⟨fun hnil => h ((encodeChars_eq_nil_iff _).1 hnil), decodeChars_encodeChars bytes⟩

/-- Encoding undoes decoding, but for the letter case. -/
theorem encode_of_decode {text : String} {bytes : List UInt8} (h : decode text = .ok bytes) :
    encode bytes = lower text :=
  (lower_eq_encode ((decode_eq_ok_iff _ _).1 h).2).symm

/-! ## Refusals -/

/-- Reading a text fails with the error of its own kind, in these words. -/
def RefusedWith (text message : String) : Prop :=
  ∃ fault, decode text = .error fault ∧ (Error.hex fault).kind = .hexDecode ∧
    (Error.hex fault).message = message

variable {text : String}

/-- A text is read exactly if it has an even number of characters, at least one, and they all
are digits. -/
theorem exists_decode_iff (text : String) :
    (∃ bytes, decode text = .ok bytes) ↔
      text ≠ "" ∧ text.length % 2 = 0 ∧ ∀ c ∈ text.toList, c ∈ digits := by
  rw [← all_isDigit_iff, ← String.length_toList, ← decodeChars_isSome_iff,
    Option.isSome_iff_exists, Ne, ← String.toList_eq_nil_iff]
  simp only [decode_eq_ok_iff, exists_and_left]

/-- The empty text is refused as empty. -/
theorem refusedWith_of_eq_empty (h : text = "") :
    RefusedWith text "Hex digest cannot be empty" := by
  subst h
  exact ⟨.empty, rfl, rfl, rfl⟩

/-- An odd number of characters is refused as such, whatever they are. -/
theorem refusedWith_of_length_odd (h : text.length % 2 = 1) :
    RefusedWith text ("Hex digest has odd length " ++ toString text.length) := by
  refine ⟨.oddLength text.length, ?_, rfl, rfl⟩
  rw [← String.length_toList] at h ⊢
  have hnonempty : ¬ text.toList.isEmpty = true := by
    intro hempty
    rw [List.isEmpty_iff.1 hempty] at h
    cases h
  simp only [decode]
  rw [if_neg hnonempty, if_pos h]

/-- A character that is no digit is refused where the number of characters is even. -/
theorem refusedWith_of_foreign (hlength : text.length % 2 = 0)
    (hforeign : ∃ c ∈ text.toList, c ∉ digits) :
    RefusedWith text ("Hex digest contains non-hex characters: " ++ quoted text) := by
  refine ⟨.foreign text, ?_, rfl, rfl⟩
  obtain ⟨c, hc, hdigit⟩ := hforeign
  rw [← String.length_toList] at hlength
  have hnonempty : ¬ text.toList.isEmpty = true := by
    intro hempty
    rw [List.isEmpty_iff.1 hempty] at hc
    cases hc
  have hnone : decodeChars text.toList = none := by
    rw [← Option.not_isSome_iff_eq_none, decodeChars_isSome_iff, all_isDigit_iff]
    rintro ⟨-, hall⟩
    exact hdigit (hall c hc)
  simp only [decode]
  rw [if_neg hnonempty, if_neg (by omega), hnone]

/-- Writing and reading are inverse to each other up to the case of letters, and reading is
strict.  Non-empty bytes are read back; a text that is read is written in lower case; two texts
are read as the same bytes exactly if they differ in letter case alone.  Every text that is not
read is refused, as empty, as of odd length whatever its characters are, or as holding a
character that is no digit. -/
theorem hex_codec_is_strict :
    (∀ bytes, bytes ≠ [] → decode (encode bytes) = .ok bytes) ∧
      (∀ text bytes, decode text = .ok bytes → encode bytes = lower text) ∧
      (∀ s t a b, decode s = .ok a → decode t = .ok b → (a = b ↔ SameLetters s t)) ∧
      (∀ text, (∃ bytes, decode text = .ok bytes) ↔
        text ≠ "" ∧ text.length % 2 = 0 ∧ ∀ c ∈ text.toList, c ∈ digits) ∧
      (∀ text, text = "" → RefusedWith text "Hex digest cannot be empty") ∧
      (∀ text, text.length % 2 = 1 →
        RefusedWith text ("Hex digest has odd length " ++ toString text.length)) ∧
      ∀ text, text.length % 2 = 0 → (∃ c ∈ text.toList, c ∉ digits) →
        RefusedWith text ("Hex digest contains non-hex characters: " ++ quoted text) := by
  refine ⟨fun _ => decode_encode, fun _ _ => encode_of_decode,
    fun _ _ _ _ => bytes_eq_iff_sameLetters, exists_decode_iff, fun _ => refusedWith_of_eq_empty,
    fun _ => refusedWith_of_length_odd, fun _ => refusedWith_of_foreign⟩

end Metalink.Hex
