import Mathlib.Tactic.Common
import Metalink.Proofs.Reader.Interruption
import Metalink.Proofs.Schema.Records

/-!
# What gets into a document

A reader checks what it takes before it builds a record of it, and the record checks its
fields once more.  The two checks are written down apart.  Here the first one is shown to be
the stricter one of texts of characters, whatever events a reader is given and in whatever
order: what is in a document has passed it, so that a record is refused only where a text has a
surrogate.

Main results:

- `Document.IsSound.addTo`: a valid offer leaves a sound document sound.
- `document_step`: an event leaves the document alone or adds what a valid offer gives.
- `refused_step_iff`: an event at which a record is refused is a text with a surrogate in a
  hash with a type.
- `reachable_documents_are_sound`: every document that a reader comes to is sound, and every
  record that the next event adds to it is built from its fields.
- `surrogate_is_refused`: a hash that is refused.
-/

namespace Metalink

open Metalink.Text

/-! ## Sound documents -/

/-- A hash has a value, with no white space around it. -/
structure Hash.IsSound (hash : Hash) : Prop where
  nonempty : hash.value ≠ ""
  trimmed : IsTrimmed hash.value

/-- A mirror has an address of more than four bytes, with no white space around it, and a
preference from 0 to 100. -/
structure Mirror.IsSound (mirror : Mirror) : Prop where
  trimmed : IsTrimmed mirror.url
  long : 4 < mirror.url.utf8ByteSize
  least : 0 ≤ mirror.preference
  greatest : mirror.preference ≤ 100

/-- A document names no file but the expected one, and all of its hashes and mirrors are
sound. -/
structure Document.IsSound (expected : String) (doc : Document) : Prop where
  filename : doc.filename = none ∨ doc.filename = some expected
  hashes : ∀ hash ∈ doc.hashes, hash.IsSound
  mirrors : ∀ mirror ∈ doc.mirrors, mirror.IsSound

/-- The empty document is sound. -/
theorem Document.isSound_empty (expected : String) : Document.empty.IsSound expected where
  filename := .inl rfl
  hashes _ hhash := by cases hhash
  mirrors _ hmirror := by cases hmirror

/-- A sound hash is built from its fields. -/
theorem Hash.IsSound.hashOfFields_eq {hash : Hash} (h : hash.IsSound) :
    Schema.hashOfFields hash.fields = .ok hash :=
  (Schema.hashOfFields_fields_iff hash).2 h.nonempty

/-- A sound mirror is built from its fields. -/
theorem Mirror.IsSound.mirrorOfFields_eq {mirror : Mirror} (h : mirror.IsSound) :
    Schema.mirrorOfFields mirror.fields = .ok mirror := by
  rw [Schema.mirrorOfFields_fields_iff]
  refine ⟨?_, h.least, h.greatest⟩
  intro hempty
  have hlong := h.long
  rw [hempty] at hlong
  exact absurd hlong (by decide)

/-! ## What valid offers give -/

/-- A preference that an accepted url element gives is in range. -/
theorem HasPreference.givenPreference_mem {attributes : List String}
    (h : HasPreference attributes) :
    0 ≤ givenPreference attributes ∧ givenPreference attributes ≤ 100 := by
  unfold givenPreference
  cases hraw : findAttribute "preference" attributes with
  | none => decide
  | some raw =>
    obtain ⟨n, hdenotes, hleast, hgreatest⟩ := h raw hraw
    rw [Option.bind_some, integer?_eq_some_iff.2 hdenotes]
    exact ⟨hleast, hgreatest⟩

namespace Offer

variable {expected : String} {offer : Offer}

/-- A hash that a valid offer gives is sound. -/
theorem IsValid.isSound_hash (h : offer.IsValid expected) {hash : Hash}
    (hgives : offer.hash? = some hash) : hash.IsSound := by
  unfold hash? at hgives
  split at hgives
  · next hname =>
    obtain ⟨type, -, hgives⟩ := Option.bind_eq_some_iff.1 hgives
    obtain ⟨text, htext, rfl⟩ := Option.map_eq_some_iff.1 hgives
    have hblank : offer.text.Is fun text => ¬ AllBlank text := (h.hash hname).2
    rw [CodeText.string?_eq_some_iff.1 htext, CodeText.is_ofString] at hblank
    exact ⟨fun hempty => hblank ((trim_eq_empty_iff _).1 hempty), isTrimmed_trim _⟩
  · cases hgives

/-- A mirror that a valid offer gives is sound. -/
theorem IsValid.isSound_mirror (h : offer.IsValid expected) {mirror : Mirror}
    (hgives : offer.mirror? = some mirror) : mirror.IsSound := by
  unfold mirror? at hgives
  split at hgives
  · next hname =>
    obtain ⟨text, htext, hgives⟩ := Option.bind_eq_some_iff.1 hgives
    have hurl : offer.text.Is fun text => IsShort text ∨ HasPreference offer.owner.attributes :=
      h.url hname
    rw [CodeText.string?_eq_some_iff.1 htext, CodeText.is_ofString] at hurl
    by_cases hshort : IsShort text
    · rw [if_pos hshort] at hgives
      cases hgives
    · rw [if_neg hshort] at hgives
      cases hgives
      have hpreference := (hurl.resolve_left hshort).givenPreference_mem
      exact ⟨isTrimmed_trim _, Nat.not_le.1 hshort, hpreference.1, hpreference.2⟩
  · cases hgives

end Offer

/-- A valid offer leaves a sound document sound. -/
theorem Document.IsSound.addTo {expected : String} {doc : Document} (h : doc.IsSound expected)
    {offer : Offer} (hvalid : offer.IsValid expected) :
    (offer.addTo expected doc).IsSound expected where
  filename := by
    unfold Offer.addTo
    split
    · exact .inr rfl
    · exact h.filename
  hashes hash hmem := by
    rcases List.mem_append.1 hmem with hold | hnew
    · exact h.hashes hash hold
    · exact hvalid.isSound_hash (Option.mem_toList.1 hnew)
  mirrors mirror hmem := by
    rcases List.mem_append.1 hmem with hold | hnew
    · exact h.mirrors mirror hold
    · exact hvalid.isSound_mirror (Option.mem_toList.1 hnew)

/-! ## Events -/

namespace Reader

/-- An event leaves the document alone, or adds what a valid offer gives. -/
theorem document_step (reader : Reader) (event : Event) :
    (reader.step event).reader.document = reader.document ∨
      ∃ offer : Offer, offer.IsValid reader.expected ∧
        (reader.step event).reader.document = offer.addTo reader.expected reader.document := by
  by_cases hfault : reader.fault = none
  · rw [step_eq_accept hfault]
    cases event.offer? reader.frames with
    | none => exact .inl rfl
    | some offer =>
      by_cases hvalid : offer.IsValid reader.expected
      · obtain ⟨log, htake⟩ := hvalid.exists_take reader.document
        refine .inr ⟨offer, hvalid, ?_⟩
        simp only [accept, htake]
      · obtain ⟨trouble, log, htake⟩ := Offer.exists_take_of_not_isValid hvalid reader.document
        refine .inl ?_
        simp only [accept, htake]
  · rw [step_of_fault (Option.isSome_iff_ne_none.2 hfault)]
    exact .inl rfl

/-- What is in the document of a reader is sound for the name that it expects. -/
def IsSound (reader : Reader) : Prop :=
  reader.document.IsSound reader.expected

theorem isSound_start (expected : String) : (start expected).IsSound :=
  Document.isSound_empty expected

/-- An event leaves a sound reader sound. -/
theorem IsSound.step {reader : Reader} (h : reader.IsSound) (event : Event) :
    (reader.step event).reader.IsSound := by
  unfold IsSound
  rw [expected_step]
  rcases document_step reader event with hsame | ⟨offer, hvalid, hadded⟩
  · rw [hsame]
    exact h
  · rw [hadded]
    exact h.addTo hvalid

/-- So do any events, also where one of them finds a fault or breaks off. -/
theorem IsSound.afterEach {reader : Reader} (h : reader.IsSound) (events : List Event) :
    (reader.afterEach events).IsSound := by
  induction events generalizing reader with
  | nil => exact h
  | cons event rest ih => exact ih (h.step event)

theorem expected_afterEach (reader : Reader) (events : List Event) :
    (reader.afterEach events).expected = reader.expected := by
  induction events generalizing reader with
  | nil => rfl
  | cons event rest ih => exact (ih _).trans (expected_step reader event)

/-- Every record that an event adds to a document is built from its fields. -/
theorem built_of_step (reader : Reader) (event : Event) :
    ∃ hashes mirrors,
      (reader.step event).reader.document.hashes = reader.document.hashes ++ hashes ∧
        (reader.step event).reader.document.mirrors = reader.document.mirrors ++ mirrors ∧
        (∀ hash ∈ hashes, Schema.hashOfFields hash.fields = .ok hash) ∧
        ∀ mirror ∈ mirrors, Schema.mirrorOfFields mirror.fields = .ok mirror := by
  rcases document_step reader event with hsame | ⟨offer, hvalid, hadded⟩
  · refine ⟨[], [], ?_, ?_, ?_, ?_⟩ <;> simp [hsame]
  · refine ⟨offer.hash?.toList, offer.mirror?.toList, by rw [hadded]; rfl, by rw [hadded]; rfl,
      ?_, ?_⟩
    · intro hash hhash
      exact (hvalid.isSound_hash (Option.mem_toList.1 hhash)).hashOfFields_eq
    · intro mirror hmirror
      exact (hvalid.isSound_mirror (Option.mem_toList.1 hmirror)).mirrorOfFields_eq

/-- A record is refused exactly if no fault was found before and a text with a surrogate stands
in a hash with a type. -/
theorem refused_step_iff {reader : Reader} {event : Event}
    {violations : List Schema.Violation} :
    (reader.step event).escape = some (.refused violations) ↔
      reader.fault = none ∧ ∃ text, event = .text text ∧ text.string? = none ∧
        violations = [⟨["value"], .stringUnicode⟩] ∧
        ∃ frame ∈ reader.frames.head?, frame.name = "hash" ∧
          (findAttribute "type" frame.attributes).isSome = true := by
  constructor
  · intro h
    obtain ⟨hfault, -⟩ := escape_step_eq_some_iff.1 h
    obtain ⟨text, rfl, frame, hframe, hbreaks, -⟩ := exists_breaks_of_escape h
    cases hbreaks with
    | hash hname htype hnone =>
      exact ⟨hfault, text, rfl, hnone, rfl, frame, hframe, hname,
        Option.isSome_iff_exists.2 ⟨_, htype⟩⟩
  · rintro ⟨hfault, text, rfl, hnone, rfl, frame, hframe, hname, htype⟩
    obtain ⟨rest, hframes⟩ := List.head?_eq_some_iff.1 hframe
    refine escape_step_eq_some_iff.2 ⟨hfault, ⟨frame.owner, text⟩, ?_, .hash hname htype hnone⟩
    rw [hframes]
    rfl

/-- Whatever events a reader is given, complete or not, its document names no file but the
expected one, and every hash and every mirror in it is sound.  Each record that the next event
adds passes the checks of its own fields, and the only record that is ever refused is that of a
hash with a type whose text has a surrogate. -/
theorem reachable_documents_are_sound (expected : String) (events : List Event) :
    let reader := (start expected).afterEach events
    reader.document.IsSound expected ∧
      (∀ event, ∃ hashes mirrors,
        (reader.step event).reader.document.hashes = reader.document.hashes ++ hashes ∧
          (reader.step event).reader.document.mirrors = reader.document.mirrors ++ mirrors ∧
          (∀ hash ∈ hashes, Schema.hashOfFields hash.fields = .ok hash) ∧
          ∀ mirror ∈ mirrors, Schema.mirrorOfFields mirror.fields = .ok mirror) ∧
      ∀ event violations, (reader.step event).escape = some (.refused violations) ↔
        reader.fault = none ∧ ∃ text, event = .text text ∧ text.string? = none ∧
          violations = [⟨["value"], .stringUnicode⟩] ∧
          ∃ frame ∈ reader.frames.head?, frame.name = "hash" ∧
            (findAttribute "type" frame.attributes).isSome = true := by
  intro reader
  have hexpected : reader.expected = expected := expected_afterEach (start expected) events
  have hsound : reader.IsSound := (isSound_start expected).afterEach events
  unfold IsSound at hsound
  rw [hexpected] at hsound
  exact ⟨hsound, built_of_step reader, fun _ _ => refused_step_iff⟩

/-- A text with a surrogate in a hash with a type passes the checks of the reader, and the record
is refused all the same. -/
theorem surrogate_is_refused :
    let reader := (start "f.rpm").afterEach [.opened "hash" ["type", "md5"]]
    (reader.step (.text ⟨[.surrogate 0]⟩)).escape =
      some (.refused [⟨["value"], .stringUnicode⟩]) := by
  decide

end Reader

end Metalink
