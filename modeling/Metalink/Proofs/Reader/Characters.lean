import Mathlib.Tactic.Common
import Metalink.Proofs.Schema.Records
import Metalink.Reader.Element

/-!
# Texts that are taken

An element is handed a text of code points.  What becomes of it is written down once for texts
of characters and once for all others, so that nothing else need look at code points: a size or
an address is read from characters, and a text with a surrogate is a bad size, a value that no
hash is built of, and an address that cannot be encoded.

Main results:

- `takeSize_ofString`, `takeHash_ofString` and `takeUrl_ofString`: what becomes of a text of
  characters.
- `takeSize_of_string?_eq_none`, `takeHash_of_string?_eq_none` and
  `takeUrl_of_string?_eq_none`: what becomes of every other text.
-/

namespace Metalink

open Metalink.Text

/-! ## Texts of characters -/

/-- A text of characters is a size without the white space around it. -/
theorem takeSize_ofString (text : String) (doc : Document) :
    takeSize text doc = takeNumeral (trim text) doc := by
  simp only [takeSize, CodeText.trim_ofString, CodeText.string?_ofString]

/-- A text of characters is refused by no hash that it is the value of, if it is not blank. -/
theorem takeHash_ofString (attributes : List String) (text : String) (doc : Document) :
    takeHash attributes text doc =
      match findAttribute "type" attributes with
      | none => .atFault .missingHashType
      | some type =>
        if trim text = "" then .atFault .missingHashValue
        else (.ok { doc with hashes := doc.hashes ++ [⟨type, trim text⟩] }, noteHashType type) := by
  unfold takeHash
  cases findAttribute "type" attributes with
  | none => rfl
  | some type =>
    simp only [CodeText.trim_ofString, CodeText.ofString_inj]
    by_cases hempty : trim text = ""
    · rw [if_pos hempty, if_pos hempty]
    · have hbuild : Schema.buildHash type (trim text) = .ok ⟨type, trim text⟩ :=
        Schema.buildHash_eq_ok_iff.2 ⟨_, rfl, hempty, rfl⟩
      rw [if_neg hempty, if_neg hempty, hbuild]

/-- A text of characters is an address without the white space around it. -/
theorem takeUrl_ofString (attributes : List String) (text : String) (doc : Document) :
    takeUrl attributes text doc = takeAddress attributes (trim text) doc := by
  simp only [takeUrl, CodeText.trim_ofString, CodeText.encode_ofString]

/-! ## Other texts -/

variable {text : CodeText}

/-- White space at the ends is no surrogate. -/
theorem string?_trim_eq_none (h : text.string? = none) : text.trim.string? = none := by
  rw [CodeText.string?_trim, h, Option.map_none]

/-- A text with a surrogate is no integer. -/
theorem takeSize_of_string?_eq_none (h : text.string? = none) (doc : Document) :
    takeSize text doc = .atFault (.badSize text.trim) := by
  simp only [takeSize, string?_trim_eq_none h]

/-- No hash is built of a text with a surrogate, and that is not reported. -/
theorem takeHash_of_string?_eq_none (h : text.string? = none) (attributes : List String)
    (doc : Document) :
    takeHash attributes text doc =
      match findAttribute "type" attributes with
      | none => .atFault .missingHashType
      | some type =>
        (.error (.escape (.refused [⟨["value"], .stringUnicode⟩])), noteHashType type) := by
  have htrim := string?_trim_eq_none h
  have hne : text.trim ≠ ("" : String) := by
    intro hempty
    rw [hempty, CodeText.string?_ofString] at htrim
    cases htrim
  unfold takeHash
  cases findAttribute "type" attributes with
  | none => rfl
  | some type => simp only [hne, if_false, Schema.buildHash_of_string?_eq_none htrim]

/-- An address with a surrogate cannot be encoded. -/
theorem takeUrl_of_string?_eq_none (h : text.string? = none) :
    ∃ fault, text.trim.encode = .error fault ∧ ∀ attributes doc,
      takeUrl attributes text doc = (.error (.escape (.unencodable fault)), []) := by
  obtain ⟨fault, hfault⟩ := CodeText.exists_encode_eq_error_iff.2 (string?_trim_eq_none h)
  exact ⟨fault, hfault, fun attributes doc => by simp only [takeUrl, hfault]⟩

end Metalink
