import Mathlib.Logic.Relation
import Mathlib.Tactic.Common
import Metalink.Proofs.Reader.Elements

/-!
# Indentation

Blank text between elements, or in one that holds no text of its own, lays a document out for
a reader's eye.  It is offered to elements like any other text, and may take the place of the
empty text that an element is offered when it is closed; a file element that is offered it is
judged earlier.  What a document comes to depends on none of this: every element is offered
something at last, and blank text tells nothing to an element that is neither a size nor a hash.

Main results:

- `Alike.accepted_iff`, `Alike.gather_eq`: events that open the same elements, and offer the
  same apart from indentation, are accepted together and come to the same.
- `Reindents.alike`: blank texts that are put in or taken away leave all that.
- `indentation_does_not_decide`: whether a document is accepted, and what is read then, does not
  depend on its indentation.
-/

namespace Metalink

open Metalink.Text

instance (s : String) : Decidable (AllBlank s) :=
  decidable_of_iff (s.toList.all isBlank = true) List.all_eq_true

/-! ## Blank offers -/

/-- Blank text has no meaning to an element: it is neither a size nor a hash. -/
def Owner.IgnoresBlank (owner : Owner) : Prop :=
  owner.name ≠ "size" ∧ owner.name ≠ "hash"

instance (owner : Owner) : Decidable owner.IgnoresBlank :=
  inferInstanceAs (Decidable (_ ∧ _))

namespace Offer

/-- A blank text is offered to an element to which it has no meaning. -/
def IsIndentation (offer : Offer) : Prop :=
  offer.owner.IgnoresBlank ∧ offer.text.Is AllBlank

instance (offer : Offer) : Decidable offer.IsIndentation :=
  inferInstanceAs (Decidable (_ ∧ _))

/-- A blank text is indentation wherever it has no meaning. -/
theorem isIndentation_ofString {owner : Owner} {s : String} (h : owner.IgnoresBlank)
    (hblank : AllBlank s) : (ofString owner s).IsIndentation :=
  ⟨h, CodeText.is_ofString.2 hblank⟩

/-- White space is too short for an address. -/
theorem isShort_of_allBlank {s : String} (h : AllBlank s) : IsShort s := by
  rw [IsShort, (trim_eq_empty_iff s).2 h]
  decide

variable {offer : Offer}

/-- Indentation is refused by nothing but a file element that does not name the expected
file. -/
theorem IsIndentation.isValid_iff (h : offer.IsIndentation) {expected : String} :
    offer.IsValid expected ↔ (offer.owner.name = "file" →
      findAttribute "name" offer.owner.attributes = some expected) := by
  constructor
  · exact IsValid.file
  · intro hfile
    obtain ⟨s, htext, hblank⟩ := h.2
    exact ⟨hfile, fun hsize => absurd hsize h.1.1, fun hhash => absurd hhash h.1.2,
      fun _ => ⟨s, htext, .inl (isShort_of_allBlank hblank)⟩⟩

theorem IsIndentation.size?_eq_none (h : offer.IsIndentation) : offer.size? = none :=
  if_neg h.1.1

theorem IsIndentation.hash?_eq_none (h : offer.IsIndentation) : offer.hash? = none :=
  if_neg h.1.2

theorem IsIndentation.mirror?_eq_none (h : offer.IsIndentation) : offer.mirror? = none := by
  obtain ⟨s, htext, hblank⟩ := h.2
  simp [mirror?, htext, isShort_of_allBlank hblank]

end Offer

/-- The offers that are more than indentation. -/
def substance (offers : List Offer) : List Offer :=
  offers.filter fun offer => ¬ offer.IsIndentation

section Substance

variable {offers : List Offer}

theorem substance_append (first rest : List Offer) :
    substance (first ++ rest) = substance first ++ substance rest :=
  List.filter_append ..

theorem substance_cons_of_isIndentation {offer : Offer} (h : offer.IsIndentation) :
    substance (offer :: offers) = substance offers :=
  List.filter_cons_of_neg (by simpa using h)

theorem mem_substance_iff {offer : Offer} :
    offer ∈ substance offers ↔ offer ∈ offers ∧ ¬ offer.IsIndentation := by
  simp [substance]

/-- What indentation does not give is given by the substance. -/
theorem filterMap_substance {β : Type} {give : Offer → Option β}
    (h : ∀ offer : Offer, offer.IsIndentation → give offer = none) :
    (substance offers).filterMap give = offers.filterMap give := by
  rw [substance, List.filterMap_filter]
  congr 1
  funext offer
  by_cases hindentation : offer.IsIndentation <;> simp [hindentation, h]

end Substance

/-! ## Complete events -/

/-- All file elements that events open name the expected file. -/
def FilesNamed (expected : String) (events : List Event) : Prop :=
  ∀ owner : Owner, .opened owner.name owner.attributes ∈ events → owner.name = "file" →
    findAttribute "name" owner.attributes = some expected

section Complete

variable {events : List Event} (hcomplete : framesAfter [] events = [])
include hcomplete

/-- The offers of complete events are valid exactly if those are that are more than
indentation, and all file elements name the expected file. -/
theorem valid_iff_of_complete (expected : String) :
    (∀ offer ∈ offersOf [] events, offer.IsValid expected) ↔
      (∀ offer ∈ substance (offersOf [] events), offer.IsValid expected) ∧
        FilesNamed expected events := by
  constructor
  · intro hvalid
    refine ⟨fun offer hoffer => hvalid offer (mem_substance_iff.1 hoffer).1, ?_⟩
    intro owner hopened hfile
    obtain ⟨offer, hoffer, rfl⟩ := (exists_offer_iff_opened_of_closed hcomplete owner).2 hopened
    exact (hvalid offer hoffer).file hfile
  · rintro ⟨hsubstance, hfiles⟩ offer hoffer
    by_cases hindentation : offer.IsIndentation
    · have hopened := (exists_offer_iff_opened_of_closed hcomplete _).1 ⟨offer, hoffer, rfl⟩
      exact hindentation.isValid_iff.2 (hfiles offer.owner hopened)
    · exact hsubstance offer (mem_substance_iff.2 ⟨hoffer, hindentation⟩)

/-- In complete events a file element is offered something exactly if one is opened. -/
theorem exists_file_iff_of_complete :
    (∃ offer ∈ offersOf [] events, offer.owner.name = "file") ↔
      ∃ owner : Owner, .opened owner.name owner.attributes ∈ events ∧ owner.name = "file" := by
  constructor
  · rintro ⟨offer, hoffer, hfile⟩
    have hopened := (exists_offer_iff_opened_of_closed hcomplete _).1 ⟨offer, hoffer, rfl⟩
    exact ⟨offer.owner, hopened, hfile⟩
  · rintro ⟨owner, hopened, hfile⟩
    obtain ⟨offer, hoffer, rfl⟩ := (exists_offer_iff_opened_of_closed hcomplete owner).2 hopened
    exact ⟨offer, hoffer, hfile⟩

end Complete

/-! ## Events that differ in indentation -/

/-- Events leave as many elements open as others, open the same elements, and offer the same
apart from indentation. -/
structure Alike (first second : List Event) : Prop where
  depth : (framesAfter [] first).length = (framesAfter [] second).length
  opened : ∀ name attributes, .opened name attributes ∈ first ↔ .opened name attributes ∈ second
  offers : substance (offersOf [] first) = substance (offersOf [] second)

namespace Alike

variable {first second third : List Event}

theorem refl (events : List Event) : Alike events events :=
  ⟨rfl, fun _ _ => Iff.rfl, rfl⟩

theorem symm (h : Alike first second) : Alike second first :=
  ⟨h.depth.symm, fun name attributes => (h.opened name attributes).symm, h.offers.symm⟩

theorem trans (h : Alike first second) (hnext : Alike second third) : Alike first third :=
  ⟨h.depth.trans hnext.depth,
    fun name attributes => (h.opened name attributes).trans (hnext.opened name attributes),
    h.offers.trans hnext.offers⟩

/-- Complete events are alike to complete ones only. -/
theorem complete (h : Alike first second) (hcomplete : framesAfter [] first = []) :
    framesAfter [] second = [] :=
  List.length_eq_zero_iff.1 (h.depth ▸ List.length_eq_zero_iff.2 hcomplete)

/-- The offers of the one are valid exactly if those of the other are. -/
theorem accepted_iff (h : Alike first second) (hcomplete : framesAfter [] first = [])
    (expected : String) :
    (∀ offer ∈ offersOf [] first, offer.IsValid expected) ↔
      ∀ offer ∈ offersOf [] second, offer.IsValid expected := by
  rw [valid_iff_of_complete hcomplete, valid_iff_of_complete (h.complete hcomplete), h.offers]
  simp only [FilesNamed, h.opened]

/-- The offers of both give the same document. -/
theorem gather_eq (h : Alike first second) (hcomplete : framesAfter [] first = [])
    (expected : String) :
    gather expected (offersOf [] first) = gather expected (offersOf [] second) := by
  have hgive : ∀ {β : Type} {give : Offer → Option β},
      (∀ offer : Offer, offer.IsIndentation → give offer = none) →
      (offersOf [] first).filterMap give = (offersOf [] second).filterMap give := by
    intro β give hnone
    rw [← filterMap_substance hnone, h.offers, filterMap_substance hnone]
  have hfile : (∃ offer ∈ offersOf [] first, offer.owner.name = "file") ↔
      ∃ offer ∈ offersOf [] second, offer.owner.name = "file" := by
    rw [exists_file_iff_of_complete hcomplete, exists_file_iff_of_complete (h.complete hcomplete)]
    simp only [h.opened]
  simp only [gather, hfile, hgive fun _ => Offer.IsIndentation.size?_eq_none,
    hgive fun _ => Offer.IsIndentation.hash?_eq_none,
    hgive fun _ => Offer.IsIndentation.mirror?_eq_none]

end Alike

/-! ## Putting in blank texts -/

/-- How many elements events leave open depends on how many are open before. -/
theorem length_framesAfter_congr {frames others : List Frame}
    (h : frames.length = others.length) (events : List Event) :
    (framesAfter frames events).length = (framesAfter others events).length := by
  induction events generalizing frames others with
  | nil => exact h
  | cons event rest ih =>
    refine ih ?_
    cases event with
    | opened name attributes => exact congrArg (· + 1) h
    | text s | closed name => cases frames <;> cases others <;> simp_all [Event.frames]

/-- That an element had text before makes no difference but for the empty text that it may be
offered when it is closed. -/
theorem substance_offersOf_marked {frame : Frame} (hframe : frame.owner.IgnoresBlank)
    (inner around : List Frame) (events : List Event) :
    substance (offersOf (inner ++ { frame with hadText := true } :: around) events) =
      substance (offersOf (inner ++ frame :: around) events) := by
  -- `inner` are the elements that were opened in it and are still open, as for
  -- `exists_offer_of_frame`.
  induction events generalizing inner with
  | nil => rfl
  | cons event rest ih =>
    cases event with
    | opened name attributes => exact ih (⟨name, attributes, false⟩ :: inner)
    | text s =>
      cases inner with
      | nil => rfl
      | cons innermost inner =>
        have hrest := ih ({ innermost with hadText := true } :: inner)
        simp only [offersOf, substance_append]
        exact congrArg (substance _ ++ ·) hrest
    | closed name =>
      cases inner with
      | nil =>
        simp only [List.nil_append, offersOf, Event.offer?, Event.frames, if_true,
          Option.toList_none]
        split
        · rfl
        · exact (substance_cons_of_isIndentation
            (Offer.isIndentation_ofString hframe (by decide))).symm
      | cons innermost inner =>
        have hrest := ih inner
        simp only [offersOf, substance_append]
        exact congrArg (substance _ ++ ·) hrest

/-- A blank text is put in at a place where no element is open, or none to which it has a
meaning. -/
inductive Indents : List Event → List Event → Prop
  | putIn (front : List Event) (s : String) (back : List Event) (hblank : AllBlank s)
      (hplace : ∀ frame ∈ (framesAfter [] front).head?, frame.owner.IgnoresBlank) :
      Indents (front ++ back) (front ++ .text s :: back)

/-- Any number of blank texts are put in or taken away at such places. -/
def Reindents : List Event → List Event → Prop :=
  Relation.EqvGen Indents

/-- A blank text that is put in leaves the open elements, and all that is offered but
indentation. -/
theorem Indents.alike {first second : List Event} (h : Indents first second) :
    Alike first second := by
  obtain ⟨front, s, back, hblank, hplace⟩ := h
  have hdepth : (Event.frames (.text s) (framesAfter [] front)).length =
      (framesAfter [] front).length := by
    cases framesAfter [] front <;> rfl
  refine ⟨?_, fun name attributes => by simp, ?_⟩
  · rw [framesAfter_append, framesAfter_append]
    exact length_framesAfter_congr hdepth.symm back
  · rw [offersOf_append, offersOf_append, substance_append, substance_append]
    congr 1
    cases hframes : framesAfter [] front with
    | nil => rfl
    | cons frame around =>
      have howner : frame.owner.IgnoresBlank := hplace frame (by rw [hframes]; rfl)
      have hmarked := substance_offersOf_marked howner [] around back
      have hindentation := Offer.isIndentation_ofString howner hblank
      exact hmarked.symm.trans (substance_cons_of_isIndentation hindentation).symm

/-- Any changes of the indentation leave events alike. -/
theorem Reindents.alike {first second : List Event} (h : Reindents first second) :
    Alike first second := by
  induction h with
  | rel first second h => exact h.alike
  | refl events => exact .refl events
  | symm first second _ ih => exact ih.symm
  | trans first second third _ _ ih hnext => exact ih.trans hnext

/-- Complete events leave no element open.  Whatever blank texts are put in or taken away
between them, save in sizes and hashes, a fresh reader accepts both or neither, and then comes
to the same document.  The fault that it finds may be another one. -/
theorem indentation_does_not_decide (expected : String) {events other : List Event}
    (hcomplete : framesAfter [] events = []) (hother : Reindents events other) :
    let first := (Reader.start expected).run events
    let second := (Reader.start expected).run other
    (first.reader.fault = none ∧ first.escape = none ↔
        second.reader.fault = none ∧ second.escape = none) ∧
      (first.reader.fault = none ∧ first.escape = none →
        first.reader.document = second.reader.document) := by
  intro first second
  have halike := hother.alike
  have hfirst : first.Shows (takeAll expected (offersOf [] events) .empty)
      (framesAfter [] events) := (Reader.start expected).run_shows_takeAll rfl events
  have hsecond : second.Shows (takeAll expected (offersOf [] other) .empty)
      (framesAfter [] other) := (Reader.start expected).run_shows_takeAll rfl other
  have hiff := halike.accepted_iff hcomplete expected
  rw [hfirst.accepted_iff, hsecond.accepted_iff, takeAll_trouble_eq_none_iff,
    takeAll_trouble_eq_none_iff]
  refine ⟨hiff, fun hvalid => ?_⟩
  rw [hfirst.document, hsecond.document, takeAll_document_eq_gather hvalid,
    takeAll_document_eq_gather (hiff.1 hvalid), halike.gather_eq hcomplete]

/-- A mirror is read as it is, and the file is read for what it is, on one line or on several. -/
theorem indented_file_is_accepted :
    let events : List Event := [.opened "file" ["name", "f.rpm"], .opened "url" [],
      .text "http://a/", .closed "url", .closed "file"]
    let other : List Event := [.opened "file" ["name", "f.rpm"], .text "\n  ", .opened "url" [],
      .text "http://a/", .closed "url", .closed "file"]
    framesAfter [] events = [] ∧ Reindents events other ∧
      let second := (Reader.start "f.rpm").run other
      second.reader.fault = none ∧ second.escape = none ∧
        second.reader.document =
          ⟨some "f.rpm", none, [], [⟨"http://a/", none, none, none, 0⟩]⟩ := by
  intro events other
  have hcomplete : framesAfter [] events = [] := rfl
  have hindents : Indents events other :=
    .putIn [.opened "file" ["name", "f.rpm"]] _ _ (by decide) (by decide)
  have hother : Reindents events other := .rel _ _ hindents
  obtain ⟨hiff, hdocument⟩ := indentation_does_not_decide "f.rpm" hcomplete hother
  have haccepted : ((Reader.start "f.rpm").run events).reader.fault = none ∧
      ((Reader.start "f.rpm").run events).escape = none := by decide +kernel
  have hread : ((Reader.start "f.rpm").run events).reader.document =
      ⟨some "f.rpm", none, [], [⟨"http://a/", none, none, none, 0⟩]⟩ := by decide +kernel
  have hsecond := hiff.1 haccepted
  exact ⟨hcomplete, hother, hsecond.1, hsecond.2, (hdocument haccepted).symm.trans hread⟩

end Metalink
