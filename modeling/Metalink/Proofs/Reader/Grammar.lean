import Mathlib.Tactic.Common
import Metalink.Proofs.Reader.Validity
import Metalink.Proofs.Reader.Walk

/-!
# The grammar of metalinks

A tree is accepted exactly if each of its elements is valid by itself, wherever it stands
and whatever stands around it.  The document is then read off the elements and the runs of
text in them, in the order of the tree.

Main results:

- `mem_offersIn_iff`: a tree offers to each of its elements the runs of text that stand in
  it directly, or the empty text if there are none, and offers nothing else.
- `filterMap_offersIn`: what valid offers give comes from the runs of text alone.
- `run_events_accepts_iff`: the exact condition under which the events of a tree are
  accepted, and the document that they come to.
-/

namespace Metalink

open Metalink.Text

/-! ## Elements and runs of text -/

/-- An element with the runs of text that stand in it directly. -/
structure Element where
  owner : Owner
  texts : List String
deriving DecidableEq, Repr

namespace Element

/-- What is read as the content of an element: its texts, or the empty text if it has
none. -/
def contents (element : Element) : List String :=
  if element.texts = [] then [""] else element.texts

/-- What is offered to an element. -/
def offers (element : Element) : List Offer :=
  element.contents.map (Offer.ofString element.owner)

end Element

namespace Node

/-- The text that a node is, if it is one. -/
def text? : Node → Option String
  | text s => some s
  | element _ _ _ => none

mutual

/-- The elements of a tree, each before those in it. -/
def elements : Node → List Element
  | text _ => []
  | element name attributes children =>
    ⟨⟨name, attributes⟩, children.filterMap text?⟩ :: elementsIn children

/-- The elements in the content of an element. -/
def elementsIn : List Node → List Element
  | [] => []
  | node :: rest => node.elements ++ elementsIn rest

end

mutual

/-- The runs of text in a node that stands in an element, each with the element that it
stands in directly. -/
def runs (owner : Owner) : Node → List Offer
  | text s => [⟨owner, s⟩]
  | element name attributes children => runsIn ⟨name, attributes⟩ children

/-- The runs of text in the content of an element. -/
def runsIn (owner : Owner) : List Node → List Offer
  | [] => []
  | node :: rest => node.runs owner ++ runsIn owner rest

end

theorem any_isText_eq_false_iff {children : List Node} :
    children.any isText = false ↔ children.filterMap text? = [] := by
  rw [List.filterMap_eq_nil_iff, List.any_eq_false]
  constructor
  · intro h node hnode
    cases node with
    | text s => exact absurd rfl (h _ hnode)
    | element name attributes inner => rfl
  · intro h node hnode
    cases node with
    | text s => cases h _ hnode
    | element name attributes inner => simp [isText]

/-! ## What is offered to elements -/

/-- An element is offered the texts among its nodes, and the empty text at the end if no
text is among them. -/
theorem offers_filterMap_text? (owner : Owner) (children : List Node) :
    Element.offers ⟨owner, children.filterMap text?⟩ =
      (children.filterMap text?).map (Offer.ofString owner) ++
        if children.any isText then [] else [.ofString owner ""] := by
  cases hany : children.any isText with
  | false => simp [Element.offers, Element.contents, any_isText_eq_false_iff.1 hany]
  | true =>
    have hne : children.filterMap text? ≠ [] := by
      rw [ne_eq, ← any_isText_eq_false_iff, hany]
      decide
    simp only [Element.offers, Element.contents, if_neg hne, if_true, List.append_nil]

mutual

/-- An element makes the offers to itself and to the elements in it. -/
theorem mem_offers_element_iff (name : String) (attributes : List String)
    (children : List Node) (owner : Owner) (offer : Offer) :
    offer ∈ (element name attributes children).offers owner ↔
      ∃ e ∈ (element name attributes children).elements, offer ∈ e.offers := by
  have hinner := mem_offersIn_iff children ⟨name, attributes⟩ offer
  simp only [offers, elements, List.mem_append, hinner, List.mem_cons, exists_eq_or_imp,
    offers_filterMap_text?]
  exact or_right_comm
termination_by (sizeOf children, 1)

/-- The content of an element offers its own texts to the element, and makes the offers
to the elements in it. -/
theorem mem_offersIn_iff (children : List Node) (owner : Owner) (offer : Offer) :
    offer ∈ offersIn owner children ↔
      offer ∈ (children.filterMap text?).map (Offer.ofString owner) ∨
        ∃ e ∈ elementsIn children, offer ∈ e.offers := by
  match children with
  | [] => simp [offersIn, elementsIn]
  | text s :: tail =>
    have htail := mem_offersIn_iff tail owner offer
    simp only [offersIn, offers, elementsIn, elements, text?, List.filterMap_cons,
      List.map_cons, List.mem_append, List.mem_cons, List.not_mem_nil, or_false, htail,
      List.nil_append, or_assoc]
  | element name attributes inner :: tail =>
    have htail := mem_offersIn_iff tail owner offer
    have hhead := mem_offers_element_iff name attributes inner owner offer
    simp only [offersIn, elementsIn, text?, List.filterMap_cons, List.mem_append, hhead,
      htail, or_and_right, exists_or]
    exact or_left_comm
termination_by (sizeOf children, 0)

end

/-! ## What runs of text give -/

mutual

/-- If the empty text gives nothing where it is accepted, then what is given by offers
that are accepted is given by runs of text. -/
theorem filterMap_offers {α : Type} {give : Offer → Option α} {Accepted : Offer → Prop}
    (hempty : ∀ owner, Accepted (.ofString owner "") → give (.ofString owner "") = none)
    (name : String) (attributes : List String) (children : List Node) (owner : Owner)
    (h : ∀ offer ∈ (element name attributes children).offers owner, Accepted offer) :
    ((element name attributes children).offers owner).filterMap give =
      ((element name attributes children).runs owner).filterMap give := by
  rw [offers, List.forall_mem_append] at h
  rw [offers, runs, List.filterMap_append,
    filterMap_offersIn hempty children ⟨name, attributes⟩ h.1]
  cases hany : children.any isText with
  | true => simp
  | false =>
    have hlast := h.2 (.ofString ⟨name, attributes⟩ "") (by simp [hany])
    simp [hempty _ hlast]
termination_by (sizeOf children, 1)

/-- The same of the offers of several nodes. -/
theorem filterMap_offersIn {α : Type} {give : Offer → Option α} {Accepted : Offer → Prop}
    (hempty : ∀ owner, Accepted (.ofString owner "") → give (.ofString owner "") = none)
    (children : List Node) (owner : Owner)
    (h : ∀ offer ∈ offersIn owner children, Accepted offer) :
    (offersIn owner children).filterMap give = (runsIn owner children).filterMap give := by
  match children with
  | [] => rfl
  | text s :: tail =>
    rw [offersIn, List.forall_mem_append] at h
    rw [offersIn, runsIn, List.filterMap_append, List.filterMap_append,
      filterMap_offersIn hempty tail owner h.2]
    rfl
  | element name attributes inner :: tail =>
    rw [offersIn, List.forall_mem_append] at h
    rw [offersIn, runsIn, List.filterMap_append, List.filterMap_append,
      filterMap_offersIn hempty tail owner h.2,
      filterMap_offers hempty name attributes inner owner h.1]
termination_by (sizeOf children, 0)

end

end Node

/-! ## Valid elements -/

/-- An element is valid: what stands in it directly can be taken, if it carries content.  A file
element names the expected file, each text of a size denotes an integer, a hash has a type and no
blank text, and a url has only texts that are too short or, if it gives a preference, an integer
in range. -/
structure Element.IsValid (expected : String) (element : Element) : Prop where
  file : element.owner.name = "file" →
    findAttribute "name" element.owner.attributes = some expected
  size : element.owner.name = "size" →
    ∀ text ∈ element.contents, IsInteger (trim text)
  hash : element.owner.name = "hash" →
    (findAttribute "type" element.owner.attributes).isSome = true ∧
      ∀ text ∈ element.contents, ¬ AllBlank text
  url : element.owner.name = "url" →
    (∀ text ∈ element.texts, IsShort text) ∨ HasPreference element.owner.attributes

namespace Element

theorem contents_ne_nil (element : Element) : element.contents ≠ [] := by
  unfold contents
  split
  · exact List.cons_ne_nil _ _
  · assumption

/-- The empty text, which is too short, does not count among the texts that are. -/
theorem forall_contents_isShort_iff {element : Element} :
    (∀ text ∈ element.contents, IsShort text) ↔ ∀ text ∈ element.texts, IsShort text := by
  unfold contents
  split
  · next hnil =>
    have hshort : IsShort "" := by decide
    simp [hnil, hshort]
  · rfl

/-- An element is valid exactly if it is offered nothing but what it accepts. -/
theorem isValid_iff_forall_offers {expected : String} {element : Element} :
    element.IsValid expected ↔ ∀ offer ∈ element.offers, offer.IsValid expected := by
  simp only [offers, List.forall_mem_map, Offer.isValid_ofString_iff]
  constructor
  · intro h text htext
    refine ⟨h.file, fun hname => h.size hname text htext,
      fun hname => ⟨(h.hash hname).1, (h.hash hname).2 text htext⟩, fun hname => ?_⟩
    have hurl := h.url hname
    rw [← forall_contents_isShort_iff] at hurl
    exact hurl.imp_left fun hshort => hshort text htext
  · intro h
    -- Some text is there to tell of the attributes.
    obtain ⟨first, hfirst⟩ := List.exists_mem_of_ne_nil _ element.contents_ne_nil
    obtain ⟨hfile, -, hhash, -⟩ := h first hfirst
    refine ⟨hfile, fun hname text htext => (h text htext).2.1 hname,
      fun hname => ⟨(hhash hname).1, fun text htext => ((h text htext).2.2.1 hname).2⟩,
      fun hname => ?_⟩
    rw [← forall_contents_isShort_iff]
    by_cases hpreference : HasPreference element.owner.attributes
    · exact .inr hpreference
    · exact .inl fun text htext => ((h text htext).2.2.2 hname).resolve_right hpreference

end Element

/-! ## Acceptance -/

theorem Offer.size?_empty (owner : Owner) : Offer.size? (.ofString owner "") = none := by
  have hnone : integer? (trim "") = none := by decide
  simp [size?, hnone]

theorem Offer.mirror?_empty (owner : Owner) : Offer.mirror? (.ofString owner "") = none := by
  have hshort : IsShort "" := by decide
  simp [mirror?, hshort]

/-- The empty text gives no hash where it is valid. -/
theorem Offer.IsValid.hash?_empty {expected : String} {owner : Owner}
    (h : Offer.IsValid expected (.ofString owner "")) :
    Offer.hash? (.ofString owner "") = none := by
  have hblank : AllBlank "" := by simp [AllBlank]
  exact if_neg fun hname => ((Offer.isValid_ofString_iff.1 h).2.2.1 hname).2 hblank

/-- A file element is offered something exactly if there is one. -/
theorem Node.exists_offers_file_iff (name : String) (attributes : List String)
    (children : List Node) (owner : Owner) :
    (∃ offer ∈ (element name attributes children).offers owner, offer.owner.name = "file") ↔
      ∃ e ∈ (element name attributes children).elements, e.owner.name = "file" := by
  simp only [mem_offers_element_iff, Element.offers, List.mem_map]
  constructor
  · rintro ⟨_, ⟨e, he, text, -, rfl⟩, hname⟩
    exact ⟨e, he, hname⟩
  · rintro ⟨e, he, hname⟩
    obtain ⟨text, htext⟩ := List.exists_mem_of_ne_nil _ e.contents_ne_nil
    exact ⟨⟨e.owner, text⟩, ⟨e, he, text, htext, rfl⟩, hname⟩

/-- The document that a tree describes: the expected file if the tree has a file element,
the size of the last run of text in a size element, and the hashes and mirrors of all runs
of text in hash and url elements, in the order of the tree. -/
def described (expected : String) (elements : List Element) (runs : List Offer) :
    Document where
  filename := if ∃ e ∈ elements, e.owner.name = "file" then some expected else none
  size := (runs.filterMap Offer.size?).getLast?
  hashes := runs.filterMap Offer.hash?
  mirrors := runs.filterMap Offer.mirror?

/-- The elements of a tree are valid exactly if all offers of the tree are. -/
theorem Node.forall_elements_isValid_iff (expected name : String) (attributes : List String)
    (children : List Node) (owner : Owner) :
    (∀ e ∈ (element name attributes children).elements, e.IsValid expected) ↔
      ∀ offer ∈ (element name attributes children).offers owner, offer.IsValid expected := by
  simp only [mem_offers_element_iff, Element.isValid_iff_forall_offers]
  exact ⟨fun h offer ⟨e, he, hoffer⟩ => h e he offer hoffer,
    fun h e he offer hoffer => h offer ⟨e, he, hoffer⟩⟩

/-- What is gathered from the valid offers of a tree is what the tree describes. -/
theorem Node.gather_offers_eq_described {expected name : String} {attributes : List String}
    {children : List Node} {owner : Owner}
    (h : ∀ offer ∈ (element name attributes children).offers owner, offer.IsValid expected) :
    gather expected ((element name attributes children).offers owner) =
      described expected (element name attributes children).elements
        (runsIn ⟨name, attributes⟩ children) := by
  have hsizes := filterMap_offers (fun owner _ => Offer.size?_empty owner) name attributes
    children owner h
  have hhashes := filterMap_offers (fun _ hvalid => hvalid.hash?_empty) name attributes
    children owner h
  have hmirrors := filterMap_offers (fun owner _ => Offer.mirror?_empty owner) name attributes
    children owner h
  simp only [gather, described, exists_offers_file_iff, hsizes, hhashes, hmirrors, runs]

/-- The events of a tree are accepted, with neither a fault nor a failure that escapes,
exactly if every element of the tree is valid, and then they come to the document that the
tree describes. -/
theorem run_events_accepts_iff (expected : String) (root : Owner) (children : List Node)
    (doc : Document) :
    let tree := Node.element root.name root.attributes children
    let reaction := (Reader.start expected).run tree.events
    ((reaction.reader.fault = none ∧ reaction.escape = none) ∧
        reaction.reader.document = doc) ↔
      (∀ e ∈ tree.elements, e.IsValid expected) ∧
        doc = described expected tree.elements (Node.runsIn root children) := by
  intro tree reaction
  have hshows := Reader.run_shows_takeAll (.start expected) rfl tree.events
  have hoffers : offersOf [] tree.events = tree.offers root := by
    simpa [offersOf] using
      Node.offersOf_events_element root.name root.attributes children root [] []
  rw [hshows.accepted_iff, takeAll_trouble_eq_none_iff,
    Node.forall_elements_isValid_iff expected root.name root.attributes children root]
  simp only [Reader.start, hoffers]
  refine and_congr_right fun hvalid => ?_
  have hdocument : reaction.reader.document = gather expected (tree.offers root) := by
    rw [← takeAll_document_eq_gather hvalid, ← hoffers]
    exact hshows.document
  rw [hdocument, Node.gather_offers_eq_described hvalid]
  exact eq_comm

end Metalink
