import Mathlib.Tactic.Common
import Metalink.Proofs.Reader.Outcome
import Metalink.Proofs.Xml.DeclaredEncoding
import Metalink.Proofs.Xml.TextBuffer

/-!
# What breaks the reading off

Three things that an element is offered are no fault of it but break the reading off: a numeral
with more digits than are evaluated, an address that cannot be encoded, and a value that no hash
is built of.  Which offers do so depends on nothing but the element and its text.  The last two
need a surrogate, and no source delivers any: a source escapes for the sake of a numeral, or
before it delivers anything.

Main results:

- `take_eq_escape_iff`: the offers that break the reading off, and the failure of each.
- `takeAll_trouble_eq_some_iff`: offers come to trouble exactly if one does after valid ones.
- `parse_eq_escape_iff`: reading a source escapes exactly if an overlong offer is reached or
  the source itself escapes.
-/

namespace Metalink

open Metalink.Text

/-! ## Offers that break the reading off -/

namespace Offer

/-- What should be a numeral in an offer: the text of a size, or the preference of a url
whose text is not too short. -/
def numeral? (offer : Offer) : Option String :=
  if offer.owner.name = "size" then offer.text.string?
  else if offer.owner.name = "url" then
    offer.text.string?.bind fun text =>
      if IsShort text then none else findAttribute "preference" offer.owner.attributes
  else none

/-- An offer holds a numeral of so many digits, which are more than are evaluated. -/
def IsOverlong (digits : Nat) (offer : Offer) : Prop :=
  maxDigits < digits ∧ ∃ text, offer.numeral? = some text ∧ ∃ numeral : Numeral,
    numeral.IsSpelledBy (trim text).toList ∧ numeral.digits.length = digits

/-- An offer is overlong exactly if reading its numeral fails for the number of digits. -/
theorem isOverlong_iff {digits : Nat} {offer : Offer} :
    offer.IsOverlong digits ↔
      ∃ text, offer.numeral? = some text ∧ readInteger (trim text) = .tooLong digits := by
  simp only [IsOverlong, readInteger_eq_tooLong_iff]
  exact ⟨fun ⟨hlong, text, htext, hspelled⟩ => ⟨text, htext, hlong, hspelled⟩,
    fun ⟨text, htext, hlong, hspelled⟩ => ⟨hlong, text, htext, hspelled⟩⟩

/-- The failures with which offers escape: a numeral is too long, an address cannot be encoded,
or a hash with a type refuses a value that is no text of characters. -/
inductive Escapes (offer : Offer) : Escape → Prop where
  | numeral {digits : Nat} (h : offer.IsOverlong digits) : Escapes offer (.tooManyDigits digits)
  | address {fault : Unencodable} (hname : offer.owner.name = "url")
      (h : offer.text.trim.encode = .error fault) : Escapes offer (.unencodable fault)
  | hash (hname : offer.owner.name = "hash")
      (htype : (findAttribute "type" offer.owner.attributes).isSome = true)
      (h : offer.text.string? = none) : Escapes offer (.refused [⟨["value"], .stringUnicode⟩])

/-- An offer of characters escapes for the sake of a numeral only. -/
theorem escapes_ofString_iff {owner : Owner} {text : String} {escape : Escape} :
    (ofString owner text).Escapes escape ↔
      ∃ digits, (ofString owner text).IsOverlong digits ∧ escape = .tooManyDigits digits := by
  constructor
  · intro h
    cases h with
    | numeral h => exact ⟨_, h, rfl⟩
    | address hname h => simp at h
    | hash hname htype h => simp at h
  · rintro ⟨digits, h, rfl⟩
    exact .numeral h

/-- Any other offer holds no numeral. -/
theorem not_isOverlong_of_string?_eq_none {offer : Offer} (h : offer.text.string? = none)
    (digits : Nat) : ¬ offer.IsOverlong digits := by
  rw [isOverlong_iff]
  rintro ⟨text, htext, -⟩
  simp [numeral?, h] at htext

end Offer

/-! ## Elements that escape -/

section Take

variable {attributes : List String} {doc : Document} {escape : Escape}

/-- A file element does not escape. -/
theorem takeFile_ne_escape {expected : String} :
    (takeFile expected attributes doc).1 ≠ .error (.escape escape) := by
  unfold takeFile
  cases findAttribute "name" attributes with
  | none => simp [Taken.atFault]
  | some name => by_cases hname : name = expected <;> simp [hname, Taken.atFault]

/-- A size of characters escapes exactly if it is too long a numeral. -/
theorem takeSize_eq_escape_iff {text : String} :
    (takeSize text doc).1 = .error (.escape escape) ↔
      ∃ digits, readInteger (trim text) = .tooLong digits ∧ escape = .tooManyDigits digits := by
  rw [takeSize_ofString, takeNumeral]
  by_cases hempty : trim text = ""
  · have hread : readInteger "" = .notNumeral := by decide
    simp [hempty, hread, Taken.atFault]
  · simp only [hempty, if_false]
    cases readInteger (trim text) <;> simp [Taken.atFault, eq_comm]

/-- A hash of characters does not escape. -/
theorem takeHash_ne_escape {text : String} :
    (takeHash attributes text doc).1 ≠ .error (.escape escape) := by
  rw [takeHash_ofString]
  cases findAttribute "type" attributes with
  | none => simp [Taken.atFault]
  | some type => by_cases hempty : trim text = "" <;> simp [hempty, Taken.atFault]

/-- A preference escapes exactly if it is too long a numeral. -/
theorem readPreference_eq_escape_iff :
    readPreference attributes = .error (.escape escape) ↔
      ∃ raw, findAttribute "preference" attributes = some raw ∧
        ∃ digits, readInteger (trim raw) = .tooLong digits ∧ escape = .tooManyDigits digits := by
  unfold readPreference
  cases findAttribute "preference" attributes with
  | none => simp
  | some raw =>
    simp only [Option.some.injEq, exists_eq_left']
    cases readInteger (trim raw) with
    | notNumeral => simp
    | tooLong digits => simp [eq_comm]
    | value n =>
      by_cases hrange : Mirror.minPreference ≤ n ∧ n ≤ Mirror.maxPreference <;>
        simp [hrange]

/-- An address of characters escapes exactly if it is not too short and its preference does. -/
theorem takeUrl_eq_escape_iff {text : String} :
    (takeUrl attributes text doc).1 = .error (.escape escape) ↔
      ¬ IsShort text ∧ ∃ raw, findAttribute "preference" attributes = some raw ∧
        ∃ digits, readInteger (trim raw) = .tooLong digits ∧ escape = .tooManyDigits digits := by
  rw [← readPreference_eq_escape_iff, takeUrl_ofString]
  unfold takeAddress IsShort
  by_cases hshort : (trim text).utf8ByteSize ≤ Mirror.minUrlBytes
  · simp [hshort]
  · cases readPreference attributes <;> simp [hshort]

end Take

namespace Offer

variable {expected : String} {doc : Document} {escape : Escape}

/-- The texts of characters that break the reading off, and the failure of each. -/
theorem take_ofString_eq_escape_iff {owner : Owner} {text : String} :
    ((ofString owner text).take expected doc).1 = .error (.escape escape) ↔
      (ofString owner text).Escapes escape := by
  rcases owner with ⟨name, attributes⟩
  simp only [escapes_ofString_iff, isOverlong_iff]
  by_cases hfile : name = "file"
  · subst hfile
    simp [take, Role.ofName?, numeral?, Role.take, takeFile_ne_escape]
  by_cases hsize : name = "size"
  · subst hsize
    simp [take, Role.ofName?, numeral?, Role.take, takeSize_eq_escape_iff]
  by_cases hhash : name = "hash"
  · subst hhash
    simp [take, Role.ofName?, numeral?, Role.take, takeHash_ne_escape]
  by_cases hurl : name = "url"
  · subst hurl
    have htake : (ofString ⟨"url", attributes⟩ text).take expected doc =
        takeUrl attributes text doc := rfl
    have hnumeral : (ofString ⟨"url", attributes⟩ text).numeral? =
        if IsShort text then none else findAttribute "preference" attributes := by
      simp [numeral?]
    rw [htake, hnumeral, takeUrl_eq_escape_iff]
    by_cases hshort : IsShort text
    · simp [hshort]
    · simp only [hshort, not_false_eq_true, true_and, if_false]
      constructor
      · rintro ⟨raw, hraw, digits, hread, hescape⟩
        exact ⟨digits, ⟨raw, hraw, hread⟩, hescape⟩
      · rintro ⟨digits, ⟨raw, hraw, hread⟩, hescape⟩
        exact ⟨raw, hraw, digits, hread, hescape⟩
  · -- An element without a role takes everything.
    simp [take, Role.ofName?, numeral?, hfile, hsize, hhash, hurl]

/-- The same for every other text. -/
theorem take_eq_escape_iff_of_string?_eq_none {offer : Offer} (h : offer.text.string? = none) :
    (offer.take expected doc).1 = .error (.escape escape) ↔ offer.Escapes escape := by
  have hescapes : offer.Escapes escape ↔
      (offer.owner.name = "url" ∧ ∃ fault, offer.text.trim.encode = .error fault ∧
          escape = .unencodable fault) ∨
        offer.owner.name = "hash" ∧ (findAttribute "type" offer.owner.attributes).isSome = true ∧
          escape = .refused [⟨["value"], .stringUnicode⟩] := by
    constructor
    · intro hescapes
      cases hescapes with
      | numeral hlong => exact absurd hlong (not_isOverlong_of_string?_eq_none h _)
      | address hname hfault => exact .inl ⟨hname, _, hfault, rfl⟩
      | hash hname htype _ => exact .inr ⟨hname, htype, rfl⟩
    · rintro (⟨hname, fault, hfault, rfl⟩ | ⟨hname, htype, rfl⟩)
      · exact .address hname hfault
      · exact .hash hname htype h
  rw [hescapes]
  rcases offer with ⟨⟨name, attributes⟩, text⟩
  by_cases hfile : name = "file"
  · subst hfile
    simp [take, Role.ofName?, Role.take, takeFile_ne_escape]
  by_cases hsize : name = "size"
  · subst hsize
    simp [take, Role.ofName?, Role.take, takeSize_of_string?_eq_none h, Taken.atFault]
  by_cases hhash : name = "hash"
  · subst hhash
    cases htype : findAttribute "type" attributes <;>
      simp [take, Role.ofName?, Role.take, takeHash_of_string?_eq_none h, Taken.atFault, htype,
        eq_comm]
  by_cases hurl : name = "url"
  · subst hurl
    obtain ⟨fault, hfault, htake⟩ := takeUrl_of_string?_eq_none h
    have htake : take expected ⟨⟨"url", attributes⟩, text⟩ doc =
        (.error (.escape (.unencodable fault)), []) := htake attributes doc
    simp [htake, hfault, eq_comm (a := escape)]
  · -- An element without a role takes everything.
    simp [take, Role.ofName?, hfile, hsize, hhash, hurl]

/-- An offer breaks the reading off exactly if it escapes, whatever was read before. -/
theorem take_eq_escape_iff {offer : Offer} :
    (offer.take expected doc).1 = .error (.escape escape) ↔ offer.Escapes escape := by
  rcases offer with ⟨owner, text⟩
  rcases text.eq_ofString_or_string?_eq_none with ⟨s, rfl⟩ | hnone
  · exact take_ofString_eq_escape_iff
  · exact take_eq_escape_iff_of_string?_eq_none hnone

end Offer

/-! ## The first trouble -/

/-- Offers come to trouble exactly if one of them does after valid ones. -/
theorem takeAll_trouble_eq_some_iff {expected : String} {offers : List Offer}
    {doc : Document} {trouble : Trouble} :
    (takeAll expected offers doc).trouble = some trouble ↔
      ∃ first offer rest, offers = first ++ offer :: rest ∧
        (∀ x ∈ first, x.IsValid expected) ∧
          (offer.take expected (takeAll expected first doc).document).1 = .error trouble := by
  constructor
  · intro h
    -- Valid offers are taken, whatever the document; the first other one is the one in question.
    induction offers generalizing doc with
    | nil => cases h
    | cons head offers ih =>
      by_cases hvalid : head.IsValid expected
      · obtain ⟨log, htake⟩ := hvalid.exists_take doc
        have hrest : (takeAll expected offers (head.addTo expected doc)).trouble =
            some trouble := by simpa [takeAll, htake] using h
        obtain ⟨first, offer, rest, rfl, hfirst, herror⟩ := ih hrest
        refine ⟨head :: first, offer, rest, rfl, List.forall_mem_cons.2 ⟨hvalid, hfirst⟩, ?_⟩
        simpa [takeAll, htake] using herror
      · obtain ⟨found, log, htake⟩ := Offer.exists_take_of_not_isValid hvalid doc
        refine ⟨[], head, offers, rfl, by simp, ?_⟩
        simpa [takeAll, htake] using h
  · rintro ⟨first, offer, rest, rfl, hfirst, herror⟩
    rw [(takeAll_append_of_trouble_eq_none (takeAll_trouble_eq_none_iff.2 hfirst) _).1]
    rcases htake : offer.take expected (takeAll expected first doc).document with ⟨result, log⟩
    rw [htake] at herror
    obtain rfl : result = .error trouble := herror
    simp [takeAll, htake]

/-! ## Sources -/

/-- Events of characters offer texts of characters. -/
theorem exists_eq_ofString_of_mem_offersOf {frames : List Frame} {events : List Event}
    (h : ∀ text : CodeText, .text text ∈ events → ∃ s : String, text = s) {offer : Offer}
    (hoffer : offer ∈ offersOf frames events) : ∃ s : String, offer.text = s := by
  induction events generalizing frames with
  | nil => cases hoffer
  | cons event rest ih =>
    rcases List.mem_append.1 hoffer with hhead | hrest
    · cases event with
      | opened name attributes => cases hhead
      | text text =>
        obtain ⟨s, rfl⟩ := h text List.mem_cons_self
        cases frames with
        | nil => cases hhead
        | cons frame frames =>
          obtain rfl : offer = .ofString frame.owner s := by simpa [Event.offer?] using hhead
          exact ⟨s, rfl⟩
      | closed name =>
        -- An element without text offers the empty one.
        cases frames with
        | nil => cases hhead
        | cons frame frames =>
          rw [Event.offer?] at hhead
          split at hhead
          · cases hhead
          · obtain rfl : offer = .ofString frame.owner "" := by simpa using hhead
            exact ⟨"", rfl⟩
    · exact ih (fun text htext => h text (List.mem_cons_of_mem _ htext)) hrest

/-- Reading a source comes to a numeral of so many digits, which are more than are evaluated,
before any element is at fault. -/
def Xml.Source.ReachesOverlong (source : Xml.Source) (expected : String) (digits : Nat) : Prop :=
  ∃ first offer rest, offersOf [] source.tokenize.events = first ++ offer :: rest ∧
    (∀ x ∈ first, x.IsValid expected) ∧ offer.IsOverlong digits

/-- What a source offers breaks the reading off for the sake of a numeral only. -/
theorem Xml.Source.trouble_intake_eq_escape_iff {source : Xml.Source} {expected : String}
    {escape : Escape} :
    (source.intake expected).trouble = some (.escape escape) ↔
      ∃ digits, source.ReachesOverlong expected digits ∧ escape = .tooManyDigits digits := by
  -- Only offers of characters are made.
  have hplain : ∀ offer ∈ offersOf [] source.tokenize.events,
      (offer.Escapes escape ↔
        ∃ digits, offer.IsOverlong digits ∧ escape = .tooManyDigits digits) := by
    intro offer hoffer
    obtain ⟨text, htext⟩ := exists_eq_ofString_of_mem_offersOf
      (fun _ htext => source.exists_eq_ofString htext) hoffer
    rcases offer with ⟨owner, _⟩
    subst htext
    exact Offer.escapes_ofString_iff
  simp only [ReachesOverlong, intake, takeAll_trouble_eq_some_iff, Offer.take_eq_escape_iff]
  constructor
  · rintro ⟨first, offer, rest, hoffers, hfirst, hescapes⟩
    obtain ⟨digits, hlong, hdigits⟩ := (hplain offer (by simp [hoffers])).1 hescapes
    exact ⟨digits, ⟨first, offer, rest, hoffers, hfirst, hlong⟩, hdigits⟩
  · rintro ⟨digits, ⟨first, offer, rest, hoffers, hfirst, hlong⟩, hdigits⟩
    exact ⟨first, offer, rest, hoffers, hfirst,
      (hplain offer (by simp [hoffers])).2 ⟨digits, hlong, hdigits⟩⟩

/-- Reading a source escapes exactly if it comes to a numeral that is too long, or the source
declares an encoding that cannot be had, or is a text that cannot be encoded. -/
theorem parse_eq_escape_iff {source : Xml.Source} {expected : String} (h : expected ≠ "")
    {escape : Escape} :
    (parse source expected).1 = .error (.escape escape) ↔
      (∃ digits, source.ReachesOverlong expected digits ∧ escape = .tooManyDigits digits) ∨
        source.LacksEncoding escape ∨
          ∃ fault, source.IsUnencodable fault ∧ escape = .unencodable fault := by
  rw [parse_eq h, ← Xml.Source.trouble_intake_eq_escape_iff, ← Xml.Source.tokenize_escaped_iff]
  constructor
  · intro hescape
    unfold Intake.outcome at hescape
    split at hescape
    · next htrouble =>
      cases hescape
      exact .inl htrouble
    · next hfailure _ =>
      cases hescape
      exact .inr (Xml.Verdict.failure?_eq_escape_iff.1 hfailure)
    · cases hescape
    · cases hescape
  · rintro (htrouble | hverdict)
    · simp [Intake.outcome, htrouble]
    · -- Nothing is offered that could come to trouble before.
      have hevents := Xml.Source.events_of_escaped hverdict
      have htrouble : (source.intake expected).trouble = none := by
        rw [Xml.Source.intake, hevents]
        rfl
      simp [Intake.outcome, htrouble, hverdict, Xml.Verdict.failure?]

end Metalink
