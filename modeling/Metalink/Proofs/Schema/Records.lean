import Mathlib.Tactic.Common
import Metalink.Schema.Records

/-!
# Records and the rules for them

A record is built from data and checked on the way.  Here a record is taken apart into the
fields that it is built from, and the rules that it can break are read off its values: it is
built again exactly if it breaks none of them.

Main results:

- `buildHash_ofString`: building a hash of a text of characters is building it from its fields.
- `buildHash_eq_ok_iff`: a hash is built of every text of characters that is not empty, and of
  no other text.
- `hashOfFields_fields_iff`: a hash must have a value.
- `mirrorOfFields_fields_iff`: a mirror must have an address, and a preference in range.
- `verificationOfFields_fields_iff`: a verification must have compared something.
-/

namespace Metalink

open Metalink.Schema

/-! ## Fields -/

/-- A text that may be missing. -/
def Schema.Value.ofText? : Option String → Value
  | none => .null
  | some s => .text s

/-- The fields of a hash. -/
def Hash.fields (hash : Hash) : Fields :=
  [("type", .text hash.type), ("value", .text hash.value)]

/-- The fields of a mirror. -/
def Mirror.fields (mirror : Mirror) : Fields :=
  [("url", .text mirror.url), ("protocol", .ofText? mirror.protocol),
    ("type", .ofText? mirror.type), ("location", .ofText? mirror.location),
    ("preference", .int mirror.preference)]

/-- The fields of a verification; the time it took has a value without being there. -/
def Verification.fields (v : Verification) : Fields :=
  [("algorithm", .int v.algorithm.rank), ("hash_type", .text v.hashType),
    ("expected_hash", .text v.expected), ("calculated_hash", .text v.calculated),
    ("candidates_tried", .int v.tried)]

namespace Schema

/-! ## Checks of single values -/

/-- A text of characters must not be empty. -/
@[simp]
theorem checkNonEmptyText_ofString (s : String) :
    checkNonEmptyText s = if s = "" then .broken .stringTooShort else .ok s := by
  rw [checkNonEmptyText, CodeText.string?_ofString]

/-- A text that is no text of characters is refused for that reason alone. -/
theorem checkNonEmptyText_of_string?_eq_none {text : CodeText} (h : text.string? = none) :
    checkNonEmptyText text = .broken .stringUnicode := by
  rw [checkNonEmptyText, h]

theorem checkOptional_ofText? (s : Option String) :
    checkOptional checkText (.ofText? s) = .ok s := by
  cases s <;> rfl

theorem checkNumbered_rank (a : Algorithm) :
    checkNumbered Algorithm.ofRank? (.int a.rank) = .ok a := by
  cases a <;> rfl

/-! ## Records -/

/-- A hash is built from a text of characters as it is from its fields. -/
theorem buildHash_ofString (type value : String) :
    buildHash type value = hashOfFields (Hash.mk type value).fields := by
  have htype : required (Hash.mk type value).fields "type" checkText = .ok type := rfl
  have hvalue : required (Hash.mk type value).fields "value" checkNonEmpty =
      (checkNonEmptyText value).under "value" := rfl
  rw [buildHash, hashOfFields, htype, hvalue]
  cases (checkNonEmptyText value).under "value" <;> rfl

/-- A hash that is built has the text as its value, which consists of characters. -/
theorem buildHash_eq_ok_iff {type : String} {text : CodeText} {hash : Hash} :
    buildHash type text = .ok hash ↔ ∃ value : String,
      text = value ∧ value ≠ "" ∧ hash = ⟨type, value⟩ := by
  cases hstring : text.string? with
  | none =>
    have hnot : ∀ value : String, text ≠ value := by
      rintro value rfl
      simp at hstring
    simp [buildHash, checkNonEmptyText_of_string?_eq_none hstring, hnot, Checked.broken,
      Checked.under, Except.map]
  | some s =>
    rw [CodeText.string?_eq_some_iff] at hstring
    subst hstring
    by_cases hempty : s = ""
    · simp [buildHash, hempty, Checked.broken, Checked.under, Except.map]
    · simp [buildHash, hempty, Checked.under, Except.map, eq_comm]

/-- A hash is built from its fields exactly if it has a value. -/
theorem hashOfFields_fields_iff (hash : Hash) :
    hashOfFields hash.fields = .ok hash ↔ hash.value ≠ "" := by
  rw [← buildHash_ofString, buildHash_eq_ok_iff]
  constructor
  · rintro ⟨value, hvalue, hne, -⟩
    rwa [CodeText.ofString_inj.1 hvalue]
  · intro hne
    exact ⟨hash.value, rfl, hne, rfl⟩

/-- A hash is not built of a text that is no text of characters, and that is all that is wrong
with it. -/
theorem buildHash_of_string?_eq_none {type : String} {text : CodeText}
    (h : text.string? = none) :
    buildHash type text = .error [⟨["value"], .stringUnicode⟩] := by
  rw [buildHash, checkNonEmptyText_of_string?_eq_none h]
  rfl

/-- A mirror is built from its fields exactly if it has an address and its preference is in
range. -/
theorem mirrorOfFields_fields_iff (mirror : Mirror) :
    mirrorOfFields mirror.fields = .ok mirror ↔
      mirror.url ≠ "" ∧ Mirror.minPreference ≤ mirror.preference ∧
        mirror.preference ≤ Mirror.maxPreference := by
  have hurl : required mirror.fields "url" checkNonEmpty =
      (checkNonEmpty (.text mirror.url)).under "url" := rfl
  have hprotocol : defaulted mirror.fields "protocol" none (checkOptional checkText) =
      .ok mirror.protocol := congrArg (Checked.under "protocol") (checkOptional_ofText? _)
  have htype : defaulted mirror.fields "type" none (checkOptional checkText) =
      .ok mirror.type := congrArg (Checked.under "type") (checkOptional_ofText? _)
  have hlocation : defaulted mirror.fields "location" none (checkOptional checkText) =
      .ok mirror.location := congrArg (Checked.under "location") (checkOptional_ofText? _)
  have hpreference : defaulted mirror.fields "preference" Mirror.minPreference
      (checkBetween Mirror.minPreference Mirror.maxPreference) =
        (checkBetween Mirror.minPreference Mirror.maxPreference
          (.int mirror.preference)).under "preference" := rfl
  simp only [mirrorOfFields, hurl, hprotocol, htype, hlocation, hpreference, checkNonEmpty,
    checkText, checkBetween, checkInteger]
  by_cases hempty : mirror.url = ""
  · split_ifs <;> simp [hempty, Checked.broken, Checked.under, Checked.both, Checked.taking,
      Except.map]
  · split_ifs with hhigh hlow
    · have hrange : ¬ mirror.preference ≤ Mirror.maxPreference := Int.not_le.2 hhigh
      simp [hempty, hrange, Checked.broken, Checked.under, Checked.both, Checked.taking,
        Except.map]
    · have hrange : ¬ Mirror.minPreference ≤ mirror.preference := Int.not_le.2 hlow
      simp [hempty, hrange, Checked.broken, Checked.under, Checked.both, Checked.taking,
        Except.map]
    · simp [hempty, Int.not_lt.1 hhigh, Int.not_lt.1 hlow, Checked.under, Checked.both,
        Checked.taking, Except.map]

/-- A verification is built from its fields exactly if some hash was compared. -/
theorem verificationOfFields_fields_iff (v : Verification) :
    verificationOfFields v.fields = .ok v ↔ 1 ≤ v.tried := by
  have halgorithm : required v.fields "algorithm" (checkNumbered Algorithm.ofRank?) =
      .ok v.algorithm := congrArg (Checked.under "algorithm") (checkNumbered_rank _)
  have htype : required v.fields "hash_type" checkText = .ok v.hashType := rfl
  have hexpected : required v.fields "expected_hash" checkText = .ok v.expected := rfl
  have hcalculated : required v.fields "calculated_hash" checkText = .ok v.calculated := rfl
  have htried : required v.fields "candidates_tried" (checkAtLeast 1) =
      (checkAtLeast 1 (.int v.tried)).under "candidates_tried" := rfl
  have hduration : defaulted v.fields "duration_ms" () checkAmount = .ok () := rfl
  simp only [verificationOfFields, halgorithm, htype, hexpected, hcalculated, htried, hduration,
    checkAtLeast, checkInteger]
  by_cases hone : 1 ≤ v.tried
  · simp [hone, Checked.under, Checked.both, Checked.taking, Except.map]
  · simp [hone, Checked.broken, Checked.under, Checked.both, Checked.taking, Except.map]

end Schema

end Metalink
