import Mathlib.Data.List.Induction
import Mathlib.Tactic.Common
import Metalink.Proofs.Reader.Characters
import Metalink.Proofs.Reader.Offer
import Metalink.Proofs.Text.Numeral

/-!
# Offers that are accepted

Whether an offer is accepted depends on the element and its text alone, never on what has
been read before.  An accepted offer adds the same to every document, so that a document
can be read off the offers that it was built from.

Main results:

- `take_eq_ok_iff`: an offer is accepted exactly if it is valid, and adds what it holds.
- `takeAll_trouble_eq_none_iff`: offers are all taken exactly if all are valid.
- `takeAll_document_eq_gather`: valid offers come to the document that is gathered from
  them.
-/

namespace Metalink

open Metalink.Text

/-! ## What elements accept -/

/-- A file element accepts its content exactly if it names the expected file. -/
theorem takeFile_eq_ok_iff {expected : String} {attributes : List String}
    {doc next : Document} :
    (takeFile expected attributes doc).1 = .ok next ↔
      findAttribute "name" attributes = some expected ∧
        next = { doc with filename := some expected } := by
  unfold takeFile
  cases findAttribute "name" attributes with
  | none => simp [Taken.atFault]
  | some name =>
    by_cases hname : name = expected
    · subst hname
      simp [eq_comm]
    · simp [hname, Taken.atFault]

/-- A size element accepts exactly the texts that denote an integer. -/
theorem takeSize_eq_ok_iff {text : String} {doc next : Document} :
    (takeSize text doc).1 = .ok next ↔
      ∃ n, integer? (trim text) = some n ∧ next = { doc with size := some n } := by
  rw [takeSize_ofString, takeNumeral]
  by_cases hempty : trim text = ""
  · have hnone : integer? "" = none := by decide
    simp [hempty, hnone, Taken.atFault]
  · simp only [hempty, if_false, integer?]
    cases readInteger (trim text) <;> simp [Taken.atFault, eq_comm]

/-- A text that denotes an integer is taken as the size. -/
theorem takeSize_of_denotes {text : String} {n : Int} (h : Denotes (trim text) n)
    (doc : Document) : takeSize text doc = (.ok { doc with size := some n }, []) := by
  have hread := readInteger_eq_value_iff.2 h
  have hempty : trim text ≠ "" := by
    intro hempty
    have hnone : readInteger "" = .notNumeral := by decide
    rw [hempty, hnone] at hread
    cases hread
  rw [takeSize_ofString]
  simp only [takeNumeral, hempty, if_false, hread]

/-- A hash element accepts every text that is not blank, if it has a type. -/
theorem takeHash_eq_ok_iff {attributes : List String} {text : String}
    {doc next : Document} :
    (takeHash attributes text doc).1 = .ok next ↔
      ∃ type, findAttribute "type" attributes = some type ∧ ¬ AllBlank text ∧
        next = { doc with hashes := doc.hashes ++ [⟨type, trim text⟩] } := by
  rw [takeHash_ofString, ← trim_eq_empty_iff]
  cases findAttribute "type" attributes with
  | none => simp [Taken.atFault]
  | some type =>
    by_cases hempty : trim text = ""
    · simp [hempty, Taken.atFault]
    · simp [hempty, eq_comm]

/-- The preference that a url element gives, in range or not: the least one unless an
integer is given. -/
def givenPreference (attributes : List String) : Int :=
  ((findAttribute "preference" attributes).bind fun raw => integer? (trim raw)).getD
    Mirror.minPreference

/-- A preference that is given must be an integer in range. -/
def HasPreference (attributes : List String) : Prop :=
  ∀ raw, findAttribute "preference" attributes = some raw →
    ∃ n, Denotes (trim raw) n ∧ Mirror.minPreference ≤ n ∧ n ≤ Mirror.maxPreference

/-- A preference is read exactly if none is given or one that is an integer in range. -/
theorem readPreference_eq_ok_iff {attributes : List String} {n : Int} :
    readPreference attributes = .ok n ↔
      HasPreference attributes ∧ n = givenPreference attributes := by
  unfold readPreference HasPreference givenPreference
  cases findAttribute "preference" attributes with
  | none => simp [eq_comm]
  | some raw =>
    simp only [Option.some.injEq, forall_eq', Option.bind_some, ← readInteger_eq_value_iff,
      integer?]
    cases readInteger (trim raw) with
    | notNumeral => simp
    | tooLong digits => simp
    | value m =>
      by_cases hrange : Mirror.minPreference ≤ m ∧ m ≤ Mirror.maxPreference
      · simp [hrange, eq_comm]
      · simp only [hrange, if_false, reduceCtorEq, IntegerText.value.injEq, exists_eq_left',
          false_and]

/-- The mirror that a url element gives with a text. -/
def givenMirror (attributes : List String) (text : String) : Mirror where
  url := trim text
  protocol := findAttribute "protocol" attributes
  type := findAttribute "type" attributes
  location := findAttribute "location" attributes
  preference := givenPreference attributes

/-- A text is too short to be an address. -/
def IsShort (text : String) : Prop :=
  (trim text).utf8ByteSize ≤ Mirror.minUrlBytes

instance (text : String) : Decidable (IsShort text) :=
  inferInstanceAs (Decidable (_ ≤ _))

/-- A url element passes over a text that is too short, and accepts another one exactly if
the preference that is given is an integer in range. -/
theorem takeUrl_eq_ok_iff {attributes : List String} {text : String} {doc next : Document} :
    (takeUrl attributes text doc).1 = .ok next ↔
      if IsShort text then next = doc
      else HasPreference attributes ∧
        next = { doc with mirrors := doc.mirrors ++ [givenMirror attributes text] } := by
  rw [takeUrl_ofString]
  unfold takeAddress IsShort givenMirror
  by_cases hshort : (trim text).utf8ByteSize ≤ Mirror.minUrlBytes
  · simp only [hshort, if_true, Except.ok.injEq]
    exact eq_comm
  · simp only [hshort, if_false]
    cases hread : readPreference attributes with
    | ok n =>
      obtain ⟨hvalid, rfl⟩ := readPreference_eq_ok_iff.1 hread
      simp [hvalid, eq_comm]
    | error trouble =>
      have hinvalid : ¬ HasPreference attributes := by
        intro hvalid
        have hok := readPreference_eq_ok_iff.2 ⟨hvalid, rfl⟩
        rw [hread] at hok
        cases hok
      simp [hinvalid]

/-! ## Valid offers -/

namespace Offer

/-- An offer is valid: the element that it is made to, if it carries content, can take the
text. -/
@[mk_iff]
structure IsValid (expected : String) (offer : Offer) : Prop where
  file : offer.owner.name = "file" →
    findAttribute "name" offer.owner.attributes = some expected
  size : offer.owner.name = "size" → offer.text.Is fun text => IsInteger (trim text)
  hash : offer.owner.name = "hash" →
    (findAttribute "type" offer.owner.attributes).isSome = true ∧
      offer.text.Is fun text => ¬ AllBlank text
  url : offer.owner.name = "url" →
    offer.text.Is fun text => IsShort text ∨ HasPreference offer.owner.attributes

/-- What it takes for a text of characters to be valid. -/
theorem isValid_ofString_iff {expected : String} {owner : Owner} {text : String} :
    (ofString owner text).IsValid expected ↔
      (owner.name = "file" → findAttribute "name" owner.attributes = some expected) ∧
        (owner.name = "size" → IsInteger (trim text)) ∧
        (owner.name = "hash" →
          (findAttribute "type" owner.attributes).isSome = true ∧ ¬ AllBlank text) ∧
        (owner.name = "url" → IsShort text ∨ HasPreference owner.attributes) := by
  simp only [isValid_iff, CodeText.is_ofString]

/-- The size that an offer gives. -/
def size? (offer : Offer) : Option Int :=
  if offer.owner.name = "size" then offer.text.string?.bind fun text => integer? (trim text)
  else none

/-- The hash that an offer gives. -/
def hash? (offer : Offer) : Option Hash :=
  if offer.owner.name = "hash" then
    (findAttribute "type" offer.owner.attributes).bind fun type =>
      offer.text.string?.map fun text => ⟨type, trim text⟩
  else none

/-- The mirror that an offer gives. -/
def mirror? (offer : Offer) : Option Mirror :=
  if offer.owner.name = "url" then
    offer.text.string?.bind fun text =>
      if IsShort text then none else some (givenMirror offer.owner.attributes text)
  else none

/-- A document with what an offer gives. -/
def addTo (expected : String) (offer : Offer) (doc : Document) : Document where
  filename := if offer.owner.name = "file" then some expected else doc.filename
  size := offer.size?.or doc.size
  hashes := doc.hashes ++ offer.hash?.toList
  mirrors := doc.mirrors ++ offer.mirror?.toList

/-- A text of characters is accepted exactly if it is valid, and adds what it gives. -/
theorem take_ofString_eq_ok_iff {expected : String} {owner : Owner} {text : String}
    {doc next : Document} :
    (take expected ⟨owner, text⟩ doc).1 = .ok next ↔
      IsValid expected ⟨owner, text⟩ ∧ next = addTo expected ⟨owner, text⟩ doc := by
  rcases owner with ⟨name, attributes⟩
  unfold take Role.ofName?
  by_cases hfile : name = "file"
  · simp [hfile, Role.take, takeFile_eq_ok_iff, isValid_iff, addTo, size?, hash?, mirror?]
  by_cases hsize : name = "size"
  · cases hread : integer? (trim text) <;>
      simp [hsize, hread, Role.take, takeSize_eq_ok_iff, isValid_iff, ← integer?_isSome_iff,
        addTo, size?, hash?, mirror?]
  by_cases hhash : name = "hash"
  · cases htype : findAttribute "type" attributes <;>
      simp [hhash, htype, Role.take, takeHash_eq_ok_iff, isValid_iff, addTo, size?, hash?,
        mirror?]
  by_cases hurl : name = "url"
  · by_cases hshort : IsShort text <;>
      simp [hurl, hshort, Role.take, takeUrl_eq_ok_iff, isValid_iff, addTo, size?, hash?,
        mirror?]
  · -- An element without a role accepts everything and adds nothing.
    simpa [hfile, hsize, hhash, hurl, isValid_iff, addTo, size?, hash?, mirror?] using eq_comm

/-- Any other text is accepted exactly where it does not matter, and adds nothing. -/
theorem take_eq_ok_iff_of_string?_eq_none {expected : String} {offer : Offer}
    {doc next : Document} (h : offer.text.string? = none) :
    (offer.take expected doc).1 = .ok next ↔
      offer.IsValid expected ∧ next = offer.addTo expected doc := by
  rcases offer with ⟨⟨name, attributes⟩, text⟩
  have hnot := CodeText.not_is_of_string?_eq_none h
  unfold take Role.ofName?
  by_cases hfile : name = "file"
  · simp [hfile, Role.take, takeFile_eq_ok_iff, isValid_iff, addTo, size?, hash?, mirror?]
  by_cases hsize : name = "size"
  · simp [hsize, hnot, Role.take, takeSize_of_string?_eq_none h, Taken.atFault, isValid_iff]
  by_cases hhash : name = "hash"
  · cases htype : findAttribute "type" attributes <;>
      simp [hhash, htype, hnot, Role.take, takeHash_of_string?_eq_none h, Taken.atFault,
        isValid_iff]
  by_cases hurl : name = "url"
  · obtain ⟨fault, -, htake⟩ := takeUrl_of_string?_eq_none h
    simp [hurl, hnot, Role.take, htake, isValid_iff]
  · simpa [hfile, hsize, hhash, hurl, isValid_iff, addTo, size?, hash?, mirror?] using eq_comm

/-- Offers are accepted exactly if they are valid, and add what they give. -/
theorem take_eq_ok_iff {expected : String} {offer : Offer} {doc next : Document} :
    (offer.take expected doc).1 = .ok next ↔
      offer.IsValid expected ∧ next = offer.addTo expected doc := by
  rcases offer with ⟨owner, text⟩
  rcases text.eq_ofString_or_string?_eq_none with ⟨s, rfl⟩ | hnone
  · exact take_ofString_eq_ok_iff
  · exact take_eq_ok_iff_of_string?_eq_none hnone

/-- A valid offer is taken into every document. -/
theorem IsValid.exists_take {expected : String} {offer : Offer} (h : offer.IsValid expected)
    (doc : Document) : ∃ log, offer.take expected doc = (.ok (offer.addTo expected doc), log) :=
  ⟨_, Prod.ext (take_eq_ok_iff.2 ⟨h, rfl⟩) rfl⟩

/-- Any other offer comes to trouble, whatever had been read. -/
theorem exists_take_of_not_isValid {expected : String} {offer : Offer}
    (h : ¬ offer.IsValid expected) (doc : Document) :
    ∃ trouble log, offer.take expected doc = (.error trouble, log) := by
  rcases htake : offer.take expected doc with ⟨result, log⟩
  cases result with
  | error trouble => exact ⟨trouble, log, rfl⟩
  | ok next =>
    have hok : (offer.take expected doc).1 = .ok next := by rw [htake]
    exact absurd (take_eq_ok_iff.1 hok).1 h

end Offer

/-! ## Valid sequences of offers -/

/-- Offers are all taken exactly if all are valid. -/
theorem takeAll_trouble_eq_none_iff {expected : String} {offers : List Offer}
    {doc : Document} :
    (takeAll expected offers doc).trouble = none ↔ ∀ offer ∈ offers, offer.IsValid expected := by
  induction offers generalizing doc with
  | nil => simp [takeAll]
  | cons offer rest ih =>
    rw [takeAll, List.forall_mem_cons]
    by_cases hvalid : offer.IsValid expected
    · obtain ⟨log, htake⟩ := hvalid.exists_take doc
      simp only [htake, hvalid, true_and]
      exact ih
    · obtain ⟨trouble, log, htake⟩ := Offer.exists_take_of_not_isValid hvalid doc
      simp [htake, hvalid]

/-- The document that offers give together: the last size, and all hashes and mirrors in
order. -/
def gather (expected : String) (offers : List Offer) : Document where
  filename := if ∃ offer ∈ offers, offer.owner.name = "file" then some expected else none
  size := (offers.filterMap Offer.size?).getLast?
  hashes := offers.filterMap Offer.hash?
  mirrors := offers.filterMap Offer.mirror?

/-- What offers give together grows by what the last one gives. -/
theorem gather_concat (expected : String) (offers : List Offer) (offer : Offer) :
    gather expected (offers ++ [offer]) = offer.addTo expected (gather expected offers) := by
  unfold gather Offer.addTo
  congr 1
  · by_cases hfile : offer.owner.name = "file" <;> simp [hfile, or_and_right, exists_or]
  · cases hsize : offer.size? <;> simp [hsize]
  · cases hhash : offer.hash? <;> simp [hhash]
  · cases hmirror : offer.mirror? <;> simp [hmirror]

/-- Valid offers come to the document that is gathered from them. -/
theorem takeAll_document_eq_gather {expected : String} {offers : List Offer}
    (h : ∀ offer ∈ offers, offer.IsValid expected) :
    (takeAll expected offers .empty).document = gather expected offers := by
  induction offers using List.reverseRecOn with
  | nil => simp [takeAll, gather, Document.empty]
  | append_singleton offers offer ih =>
    have hfirst : ∀ x ∈ offers, x.IsValid expected :=
      fun x hx => h x (List.mem_append_left _ hx)
    obtain ⟨log, htake⟩ := (h offer (by simp)).exists_take
      (takeAll expected offers .empty).document
    have hnone : (takeAll expected offers .empty).trouble = none :=
      takeAll_trouble_eq_none_iff.2 hfirst
    rw [takeAll_append, gather_concat, ← ih hfirst]
    rcases hintake : takeAll expected offers .empty with ⟨next, trouble, logs⟩
    rw [hintake] at hnone htake
    obtain rfl : trouble = none := hnone
    dsimp only at htake
    simp [takeAll, htake]

end Metalink
