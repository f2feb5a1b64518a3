import Mathlib.Tactic.Common
import Metalink.Proofs.Reader.Grammar
import Metalink.Proofs.Reader.Outcome
import Metalink.Proofs.Xml.TextBuffer

/-!
# Elements that hold nothing but text

The content of an element without child elements is one text for whoever writes the
document.  It is read as one text if it fits into the buffer, however it was put together.
If it does not fit it may be read as several, each of which is taken for the whole content.

Main results:

- `Element.offersOf_events`: an element is offered its texts one by one, wherever it stands.
- `Element.contents_eq_singleton`: texts that fit into the buffer together are one.
- `leaf_is_read_whole`: what this means for the hashes and the size of a document.
- `parted_leaf_is_refused`: a source in which the content of a hash is read as two texts.
-/

namespace Metalink

open Metalink.Text

/-! ## Texts in a row -/

namespace Node

theorem eventsOf_map_text (texts : List String) :
    eventsOf (texts.map text) = texts.map Event.ofString := by
  induction texts with
  | nil => rfl
  | cons s texts ih => simpa [eventsOf, events] using ih

theorem offersIn_map_text (owner : Owner) (texts : List String) :
    offersIn owner (texts.map text) = texts.map (Offer.ofString owner) := by
  induction texts with
  | nil => rfl
  | cons s texts ih => simpa [offersIn, offers] using ih

theorem filterMap_text?_map_text (texts : List String) :
    (texts.map text).filterMap text? = texts := by
  induction texts with
  | nil => rfl
  | cons s texts ih => simpa [text?] using ih

end Node

/-! ## Elements among events -/

namespace Element

variable (element : Element)

/-- The events of an element that holds nothing but texts. -/
def events : List Event :=
  .opened element.owner.name element.owner.attributes ::
    (element.texts.map Event.ofString ++ [.closed element.owner.name])

/-- The texts of an element as one. -/
def content : String := String.join element.texts

/-- An element is offered its texts one by one, wherever it stands. -/
theorem offersOf_events (frames : List Frame) (rest : List Event) :
    offersOf frames (element.events ++ rest) = element.offers ++ offersOf frames rest := by
  rcases element with ⟨⟨name, attributes⟩, texts⟩
  have hwalk := Node.offersOf_events_element name attributes (texts.map Node.text)
    ⟨name, attributes⟩ frames rest
  have hoffers := Node.offers_filterMap_text? ⟨name, attributes⟩ (texts.map Node.text)
  rw [Node.filterMap_text?_map_text] at hoffers
  rw [Node.events, Node.eventsOf_map_text, Node.offers, Node.offersIn_map_text,
    ← hoffers] at hwalk
  exact hwalk

variable {element}

/-- Texts that fit into the buffer together are one, if they follow one another in the events
of a source. -/
theorem contents_eq_singleton (happart : (element.texts.map Event.ofString).IsChain Xml.Apart)
    (hsize : element.content.utf8ByteSize ≤ Xml.bufferSize) :
    element.contents = [element.content] := by
  have hlength := Xml.length_le_one_of_isChain_apart happart hsize
  unfold contents content
  match htexts : element.texts with
  | [] => rfl
  | [s] => simp
  | s :: t :: texts => simp [htexts] at hlength

/-- The texts of a leaf in a source do not fit into the buffer together. -/
theorem isChain_texts {source : Xml.Source} {before after : List Event}
    (h : source.tokenize.events = before ++ (element.events ++ after)) :
    (element.texts.map Event.ofString).IsChain Xml.Apart := by
  have hchain := source.isChain_apart_tokenize
  rw [h, events] at hchain
  have hinside := hchain.right_of_append.left_of_append.tail
  exact hinside.left_of_append

end Element

/-! ## Leaves of sources -/

/-- What a source offers, by what comes before a leaf, to the leaf and after it. -/
theorem offersOf_around_leaf {source : Xml.Source} {before after : List Event} {leaf : Element}
    (h : source.tokenize.events = before ++ (leaf.events ++ after)) :
    offersOf [] source.tokenize.events =
      offersOf [] before ++ (leaf.offers ++ offersOf (framesAfter [] before) after) := by
  rw [h, offersOf_append, Element.offersOf_events]

/-- A hash element that is offered its content as a whole adds one hash to a document that is
accepted. -/
theorem hashes_around_leaf {source : Xml.Source} {before after : List Event} {leaf : Element}
    (h : source.tokenize.events = before ++ (leaf.events ++ after))
    (hwhole : leaf.offers = [⟨leaf.owner, leaf.content⟩]) (hname : leaf.owner.name = "hash")
    {expected : String} {doc : Document} (hparse : (parse source expected).1 = .ok doc) :
    ∃ type, findAttribute "type" leaf.owner.attributes = some type ∧
      doc.hashes = (offersOf [] before).filterMap Offer.hash? ++
        ⟨type, trim leaf.content⟩ ::
          (offersOf (framesAfter [] before) after).filterMap Offer.hash? := by
  obtain ⟨-, -, hvalid, rfl⟩ := parse_eq_ok_iff.1 hparse
  rw [offersOf_around_leaf h, hwhole] at hvalid ⊢
  have hleaf := (hvalid ⟨leaf.owner, leaf.content⟩ (by simp)).hash hname
  obtain ⟨type, htype⟩ := Option.isSome_iff_exists.1 hleaf.1
  have hhash : Offer.hash? ⟨leaf.owner, leaf.content⟩ = some ⟨type, trim leaf.content⟩ := by
    simp [Offer.hash?, hname, htype]
  exact ⟨type, htype, by simp [gather, hhash]⟩

/-- A size element that is offered its content as a whole sets the size that the content
denotes. -/
theorem run_size_leaf {before : List Event} {leaf : Element}
    (hwhole : leaf.offers = [⟨leaf.owner, leaf.content⟩]) (hname : leaf.owner.name = "size")
    {n : Int} (hdenotes : Denotes (trim leaf.content) n) {expected : String}
    (hprior : ((Reader.start expected).run before).reader.fault = none ∧
      ((Reader.start expected).run before).escape = none) :
    let next := (Reader.start expected).run (before ++ leaf.events)
    (next.reader.fault = none ∧ next.escape = none) ∧
      next.reader.document =
        { ((Reader.start expected).run before).reader.document with size := some n } := by
  intro next
  let offer : Offer := ⟨leaf.owner, leaf.content⟩
  have hoffers : offersOf [] (before ++ leaf.events) = offersOf [] before ++ [offer] := by
    have hleaf := leaf.offersOf_events (framesAfter [] before) []
    rw [List.append_nil, hwhole] at hleaf
    rw [offersOf_append, hleaf]
    rfl
  have hbefore : ((Reader.start expected).run before).Shows
      (takeAll expected (offersOf [] before) .empty) (framesAfter [] before) :=
    (Reader.start expected).run_shows_takeAll rfl before
  have hnext : next.Shows (takeAll expected (offersOf [] before ++ [offer]) .empty)
      (framesAfter [] (before ++ leaf.events)) :=
    hoffers ▸ (Reader.start expected).run_shows_takeAll rfl (before ++ leaf.events)
  have htake : ∀ doc, takeAll expected [offer] doc =
      ⟨{ doc with size := some n }, none, []⟩ := by
    intro doc
    simp [takeAll, offer, Offer.take, hname, Role.ofName?, Role.take,
      takeSize_of_denotes hdenotes]
  have hsplit := takeAll_append_of_trouble_eq_none (hbefore.accepted_iff.1 hprior) [offer]
  refine ⟨hnext.accepted_iff.2 ?_, ?_⟩
  · rw [hsplit.1, htake]
  · rw [hnext.document, hbefore.document, hsplit.2, htake]

/-- The texts of a leaf are offered to it one by one, and two that follow one another do not
fit into the buffer together.  A leaf whose content fits is therefore offered it as a whole.
If it is a hash, then a document that is accepted has one hash for it, with all of the content;
if it is a size, and the content denotes an integer, then the size is set to this integer. -/
theorem leaf_is_read_whole (source : Xml.Source) (before after : List Event) (leaf : Element)
    (h : source.tokenize.events = before ++ (leaf.events ++ after)) :
    offersOf [] source.tokenize.events =
        offersOf [] before ++ (leaf.offers ++ offersOf (framesAfter [] before) after) ∧
      (leaf.texts.map Event.ofString).IsChain Xml.Apart ∧
      (leaf.content.utf8ByteSize ≤ Xml.bufferSize →
        leaf.offers = [⟨leaf.owner, leaf.content⟩] ∧
        (leaf.owner.name = "hash" → ∀ expected doc, (parse source expected).1 = .ok doc →
          ∃ type, findAttribute "type" leaf.owner.attributes = some type ∧
            doc.hashes = (offersOf [] before).filterMap Offer.hash? ++
              ⟨type, trim leaf.content⟩ ::
                (offersOf (framesAfter [] before) after).filterMap Offer.hash?) ∧
        (leaf.owner.name = "size" → ∀ expected n, Denotes (trim leaf.content) n →
          let prior := (Reader.start expected).run before
          let next := (Reader.start expected).run (before ++ leaf.events)
          prior.reader.fault = none ∧ prior.escape = none →
            (next.reader.fault = none ∧ next.escape = none) ∧
              next.reader.document = { prior.reader.document with size := some n })) := by
  have happart := Element.isChain_texts h
  refine ⟨offersOf_around_leaf h, happart, fun hsize => ?_⟩
  have hwhole : leaf.offers = [⟨leaf.owner, leaf.content⟩] := by
    rw [Element.offers, Element.contents_eq_singleton happart hsize]
    rfl
  refine ⟨hwhole, ?_, ?_⟩
  · intro hname expected doc hparse
    exact hashes_around_leaf h hwhole hname hparse
  · intro hname expected n hdenotes prior next hprior
    exact run_size_leaf hwhole hname hdenotes hprior

/-- A hash whose content is interrupted by a comment and a reference is read as one. -/
theorem interrupted_hash_is_read_whole :
    let source : Xml.Source := .text "<hash type=\"md5\"> 0a<!-- -->&#49;b\n</hash>"
    ∃ doc, (parse source "f.rpm").1 = .ok doc ∧ doc.hashes = [⟨"md5", "0a1b"⟩] := by
  intro source
  let leaf : Element := ⟨⟨"hash", ["type", "md5"]⟩, [" 0a1b\n"]⟩
  have htokens : source.tokenize = ⟨leaf.events, .wellFormed⟩ := by decide +kernel
  have hevents : source.tokenize.events = [] ++ (leaf.events ++ []) := by
    rw [htokens, List.append_nil, List.nil_append]
  have hparse : (parse source "f.rpm").1 =
      .ok (gather "f.rpm" (offersOf [] source.tokenize.events)) := by
    refine parse_eq_ok_iff.2 ⟨by decide, by rw [htokens], ?_, rfl⟩
    rw [hevents, List.nil_append, Element.offersOf_events]
    intro offer hoffer
    obtain rfl : offer = ⟨leaf.owner, " 0a1b\n"⟩ := List.mem_singleton.1 hoffer
    have hblank : ¬ AllBlank " 0a1b\n" := fun h => absurd (h 'a' (by decide)) (by decide)
    exact Offer.isValid_ofString_iff.2
      ⟨by simp [leaf], by simp [leaf], fun _ => ⟨rfl, hblank⟩, by simp [leaf]⟩
  obtain ⟨-, -, hwhole⟩ := leaf_is_read_whole source [] [] leaf hevents
  obtain ⟨-, hhash, -⟩ := hwhole (by decide)
  obtain ⟨type, htype, hhashes⟩ := hhash rfl "f.rpm" _ hparse
  obtain rfl : "md5" = type := Option.some.inj htype
  have htrim : trim leaf.content = "0a1b" := by decide +kernel
  exact ⟨_, hparse, by rw [hhashes, htrim]; rfl⟩

/-- A source is a hash element whose content comes as some text and a line end. -/
def Xml.Tokenized.isPartedHash : Xml.Tokenized → Bool
  | ⟨[.opened name attributes, .text _, .text second, .closed last], verdict⟩ =>
    name == "hash" && attributes == ["type", "md5"] && second == ("\n" : String) &&
      last == "hash" && verdict == .wellFormed
  | _ => false

/-- A source that is read as a parted hash holds one text of characters before the line break. -/
theorem Xml.Source.exists_of_isPartedHash {source : Xml.Source}
    (h : source.tokenize.isPartedHash = true) :
    ∃ s : String, source.tokenize =
      ⟨Element.events ⟨⟨"hash", ["type", "md5"]⟩, [s, "\n"]⟩, .wellFormed⟩ := by
  unfold Tokenized.isPartedHash at h
  split at h
  · next name attributes first second last verdict htokens =>
    simp only [Bool.and_eq_true, beq_iff_eq] at h
    obtain ⟨⟨⟨⟨rfl, rfl⟩, rfl⟩, rfl⟩, rfl⟩ := h
    have hfirst : .text first ∈ source.tokenize.events := by simp [htokens]
    obtain ⟨s, rfl⟩ := source.exists_eq_ofString hfirst
    exact ⟨s, htokens⟩
  · cases h

/-- A hash element that is offered a blank text after another text is refused. -/
theorem parse_of_blank_rest {source : Xml.Source} {expected : String} (h : expected ≠ "")
    {s : String} (htokens : source.tokenize =
      ⟨Element.events ⟨⟨"hash", ["type", "md5"]⟩, [s, "\n"]⟩, .wellFormed⟩) :
    (parse source expected).1 = .error (.error (.content .missingHashValue)) := by
  have htype : findAttribute "type" ["type", "md5"] = some "md5" := by decide
  have hline : trim "\n" = "" := by decide
  have htrouble : (source.intake expected).trouble = some (.fault .missingHashValue) := by
    rw [Xml.Source.intake, htokens]
    by_cases hblank : trim s = "" <;>
      simp [Element.events, offersOf, Event.offer?, Event.frames, Frame.owner, takeAll,
        Offer.take, Role.ofName?, Role.take, takeHash_ofString, Taken.atFault, htype, hblank,
        hline]
  rw [parse_eq h, Intake.outcome, htrouble, htokens]
  rfl

/-- A hash element whose content is one byte longer than the buffer: its line end is read as
another text, and as a hash without a value.  All else is as it should be. -/
theorem parted_leaf_is_refused :
    let content : Bytes := "<hash type=\"md5\">".toUTF8.toList ++
      (List.replicate 2048 [0xF0, 0x90, 0x80, 0x80]).flatten ++ "\n</hash>".toUTF8.toList
    let source : Xml.Source := .bytes content
    source.tokenize.verdict = .wellFormed ∧
      (∃ s, source.tokenize.events =
        Element.events ⟨⟨"hash", ["type", "md5"]⟩, [s, "\n"]⟩) ∧
      (parse source "f.rpm").1 = .error (.error (.content .missingHashValue)) := by
  intro content source
  have hparted : source.tokenize.isPartedHash = true := by decide +kernel
  obtain ⟨s, htokens⟩ := Xml.Source.exists_of_isPartedHash hparted
  exact ⟨by rw [htokens], ⟨s, by rw [htokens]⟩, parse_of_blank_rest (by decide) htokens⟩

end Metalink
