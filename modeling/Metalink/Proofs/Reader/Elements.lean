import Mathlib.Tactic.Common
import Metalink.Proofs.Reader.Outcome
import Metalink.Proofs.Xml.Content

/-!
# The elements of a source

Every element of a well-formed source is opened and closed, and is offered something on the
way: its texts, or the empty text when it is closed.  So nothing that stands in an accepted
source has escaped the reader.

Main results:

- `Xml.Source.framesAfter_tokenize`: a well-formed source leaves no element open.
- `exists_offer_iff_opened`: the elements of a well-formed source are those that are offered
  something.
- `exists_offer_of_opened`: an element that does not stay open is offered something, whatever
  is open around it.
-/

namespace Metalink

/-! ## Open elements -/

/-- The names of the elements that events leave open, innermost first. -/
def namesAfter (events : List Event) : List String :=
  (framesAfter [] events).map Frame.name

theorem namesAfter_concat_text (events : List Event) (s : String) :
    namesAfter (events ++ [.text s]) = namesAfter events := by
  simp only [namesAfter, framesAfter_append]
  cases framesAfter [] events <;> rfl

theorem namesAfter_concat_opened (events : List Event) (name : String)
    (attributes : List String) :
    namesAfter (events ++ [.opened name attributes]) = name :: namesAfter events := by
  simp only [namesAfter, framesAfter_append]
  rfl

theorem namesAfter_concat_closed (events : List Event) (name : String) :
    namesAfter (events ++ [.closed name]) = (namesAfter events).tail := by
  simp only [namesAfter, framesAfter_append]
  cases framesAfter [] events <;> rfl

namespace Xml

theorem Output.namesAfter_flush (out : Output) :
    namesAfter out.flush.delivered = namesAfter out.delivered := by
  unfold flush delivered
  split
  · rfl
  · rw [List.reverse_cons, namesAfter_concat_text]

theorem Output.delivered_addTag (out : Output) (tag : Event) :
    (out.addTag tag).delivered = out.flush.delivered ++ [tag] :=
  List.reverse_cons

theorem Output.namesAfter_addPiece (out : Output) (piece : List Char) :
    namesAfter (out.addPiece piece).delivered = namesAfter out.delivered := by
  have hflush := out.namesAfter_flush
  simp only [addPiece]
  split <;> split <;> simp_all [delivered, namesAfter_concat_text]

/-- Among the events of a document, the elements that are open are those that its tags leave
open. -/
theorem keeps_namesAfter :
    Keeps fun names out => namesAfter out.delivered = names.map String.ofList where
  piece piece h := (Output.namesAfter_addPiece _ piece).trans h
  opened name attributes h := by
    rw [Output.delivered_addTag, namesAfter_concat_opened, Output.namesAfter_flush, h]
    rfl
  closed name h := by
    rw [Output.delivered_addTag, namesAfter_concat_closed, Output.namesAfter_flush, h]
    rfl

/-- A well-formed source leaves no element open. -/
theorem Source.framesAfter_tokenize {source : Source}
    (h : source.tokenize.verdict = .wellFormed) :
    framesAfter [] source.tokenize.events = [] := by
  obtain ⟨names, out, hevents, hnames, hnil⟩ := source.tokenize_keeps keeps_namesAfter rfl
  obtain rfl := hnil h
  rw [hevents]
  exact List.map_eq_nil_iff.1 hnames

end Xml

/-! ## Elements that are offered something -/

/-- An element that had no text yet and does not stay open is offered something, whatever is
opened in it before. -/
theorem exists_offer_of_frame {owner : Owner} {around : List Frame} (inner : List Frame)
    (events : List Event)
    (h : (framesAfter (inner ++ ⟨owner.name, owner.attributes, false⟩ :: around) events).length ≤
      around.length) :
    ∃ offer ∈ offersOf (inner ++ ⟨owner.name, owner.attributes, false⟩ :: around) events,
      offer.owner = owner := by
  -- `inner` are the elements that were opened in it and are still open: a text or an end tag
  -- gets to the element itself only once there are none.
  induction events generalizing inner with
  | nil =>
    simp only [framesAfter, List.foldl_nil, List.length_append, List.length_cons] at h
    omega
  | cons event events ih =>
    rw [offersOf]
    cases event with
    | opened name attributes =>
      obtain ⟨offer, hoffer, howner⟩ := ih (⟨name, attributes, false⟩ :: inner) h
      exact ⟨offer, List.mem_append_right _ hoffer, howner⟩
    | text s =>
      cases inner with
      | nil => exact ⟨⟨owner, s⟩, List.mem_append_left _ List.mem_cons_self, rfl⟩
      | cons frame inner =>
        obtain ⟨offer, hoffer, howner⟩ := ih ({ frame with hadText := true } :: inner) h
        exact ⟨offer, List.mem_append_right _ hoffer, howner⟩
    | closed name =>
      cases inner with
      | nil => exact ⟨⟨owner, ""⟩, List.mem_append_left _ List.mem_cons_self, rfl⟩
      | cons frame inner =>
        obtain ⟨offer, hoffer, howner⟩ := ih inner h
        exact ⟨offer, List.mem_append_right _ hoffer, howner⟩

/-- If all is closed in the end, each element that is opened is offered something. -/
theorem exists_offer_of_opened {events : List Event} {owner : Owner}
    (hclosed : framesAfter [] events = [])
    (h : .opened owner.name owner.attributes ∈ events) :
    ∃ offer ∈ offersOf [] events, offer.owner = owner := by
  obtain ⟨first, rest, rfl⟩ := List.append_of_mem h
  rw [framesAfter_append] at hclosed
  have hlength : (framesAfter ([] ++ ⟨owner.name, owner.attributes, false⟩ ::
      framesAfter [] first) rest).length ≤ (framesAfter [] first).length := by
    change framesAfter (⟨owner.name, owner.attributes, false⟩ :: framesAfter [] first) rest = []
      at hclosed
    simp [hclosed]
  obtain ⟨offer, hoffer, howner⟩ := exists_offer_of_frame [] rest hlength
  rw [offersOf_append]
  exact ⟨offer, List.mem_append_right _ hoffer, howner⟩

/-- Something is offered only to elements that were open before or are opened. -/
theorem opened_of_mem_offersOf {events : List Event} {frames : List Frame} {offer : Offer}
    (h : offer ∈ offersOf frames events) :
    (∃ frame ∈ frames, frame.owner = offer.owner) ∨
      .opened offer.owner.name offer.owner.attributes ∈ events := by
  induction events generalizing frames with
  | nil => cases h
  | cons event events ih =>
    rw [offersOf, List.mem_append, Option.mem_toList] at h
    rcases h with hevent | hrest
    · obtain ⟨frame, hframe, howner⟩ := Event.exists_frame_of_offer? hevent
      exact .inl ⟨frame, List.mem_of_mem_head? hframe, howner.symm⟩
    · rcases ih hrest with ⟨frame, hframe, howner⟩ | hopened
      · cases event with
        | opened name attributes =>
          rcases List.mem_cons.1 hframe with rfl | hframe
          · exact .inr (howner ▸ List.mem_cons_self)
          · exact .inl ⟨frame, hframe, howner⟩
        | text s =>
          cases frames with
          | nil => cases hframe
          | cons innermost frames =>
            rcases List.mem_cons.1 hframe with rfl | hframe
            · exact .inl ⟨innermost, List.mem_cons_self, howner⟩
            · exact .inl ⟨frame, List.mem_cons_of_mem _ hframe, howner⟩
        | closed name =>
          cases frames with
          | nil => cases hframe
          | cons innermost frames => exact .inl ⟨frame, List.mem_cons_of_mem _ hframe, howner⟩
      · exact .inr (List.mem_cons_of_mem _ hopened)

/-- Where no element stays open, the elements are those that are offered something. -/
theorem exists_offer_iff_opened_of_closed {events : List Event}
    (hclosed : framesAfter [] events = []) (owner : Owner) :
    (∃ offer ∈ offersOf [] events, offer.owner = owner) ↔
      .opened owner.name owner.attributes ∈ events := by
  constructor
  · rintro ⟨offer, hoffer, rfl⟩
    exact (opened_of_mem_offersOf hoffer).resolve_left fun ⟨frame, hframe, _⟩ => by cases hframe
  · exact exists_offer_of_opened hclosed

/-- The elements of a well-formed source are those that are offered something. -/
theorem exists_offer_iff_opened {source : Xml.Source}
    (h : source.tokenize.verdict = .wellFormed) (owner : Owner) :
    (∃ offer ∈ offersOf [] source.tokenize.events, offer.owner = owner) ↔
      .opened owner.name owner.attributes ∈ source.tokenize.events :=
  exists_offer_iff_opened_of_closed (Xml.Source.framesAfter_tokenize h) owner

end Metalink
