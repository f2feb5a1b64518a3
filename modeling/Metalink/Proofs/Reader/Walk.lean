import Metalink.Proofs.Reader.Offer

/-!
# Walks through trees

The events of a tree and reading along the tree offer the same texts to the same
elements.  For the events this is a statement about the stack alone: when a walk through
an element is over, the stack is as it was, and the element has been offered the empty
text at its end exactly if no text stands in it directly.

Main results:

- `offersOf_eventsOf`: what a walk through the content of an element offers, for any open
  elements around it and any events after it.
- `read_eq_foldl`: reading along a tree takes the offers of the tree.
- `run_events_eq_read`: reading the events of an element and reading along it come to the
  same document and the same trouble.
-/

namespace Metalink

namespace Node

/-! ## The offers of a tree -/

mutual

/-- What a node offers that stands in an element: a text to that element, and the content
of an element to this one, with the empty text at the end if no text stands in it
directly. -/
def offers (owner : Owner) : Node → List Offer
  | text s => [⟨owner, s⟩]
  | element name attributes children =>
    offersIn ⟨name, attributes⟩ children ++
      if children.any isText then [] else [.ofString ⟨name, attributes⟩ ""]

/-- What the content of an element offers. -/
def offersIn (owner : Owner) : List Node → List Offer
  | [] => []
  | node :: rest => node.offers owner ++ offersIn owner rest

end

/-- The frame of an element. -/
def frameOf (owner : Owner) (hadText : Bool) : Frame :=
  ⟨owner.name, owner.attributes, hadText⟩

/-! ## Events -/

mutual

/-- A walk through an element offers what the element offers, whatever is open around it,
and leaves the stack as it was. -/
theorem offersOf_events_element (name : String) (attributes : List String)
    (children : List Node) (owner : Owner) (frames : List Frame) (rest : List Event) :
    offersOf frames ((element name attributes children).events ++ rest) =
      (element name attributes children).offers owner ++ offersOf frames rest := by
  have hinner := offersOf_eventsOf children ⟨name, attributes⟩ false frames
    (.closed name :: rest)
  simp only [frameOf, Bool.false_or] at hinner
  simp only [events, offers, List.cons_append, List.append_assoc, List.nil_append, offersOf,
    Event.offer?, Event.frames, Option.toList_none]
  rw [hinner]
  -- The end of the element makes an offer exactly if no text stands in it directly.
  cases children.any isText <;> simp [offersOf, Event.offer?, Event.frames, Frame.owner]
termination_by (sizeOf children, 1)

/-- A walk through the content of an element offers what the content offers, and leaves
the stack alone, except that it notes whether text has arrived. -/
theorem offersOf_eventsOf (children : List Node) (owner : Owner) (hadText : Bool)
    (frames : List Frame) (rest : List Event) :
    offersOf (frameOf owner hadText :: frames) (eventsOf children ++ rest) =
      offersIn owner children ++
        offersOf (frameOf owner (hadText || children.any isText) :: frames) rest := by
  match children with
  | [] => simp [eventsOf, offersIn]
  | text s :: tail =>
    have htail := offersOf_eventsOf tail owner true frames rest
    simp only [frameOf, eventsOf, events, offersIn, offers, isText, List.cons_append,
      List.nil_append, offersOf, Event.frames, Event.offer?, Option.toList_some, Bool.true_or,
      List.any_cons, Bool.or_true] at htail ⊢
    rw [htail]
    rfl
  | element name attributes inner :: tail =>
    rw [eventsOf, List.append_assoc, offersOf_events_element name attributes inner owner,
      offersOf_eventsOf tail owner hadText frames rest, offersIn, List.append_assoc]
    rfl
termination_by (sizeOf children, 0)

end

/-! ## Reading along a tree -/

end Node

/-- Take an offer, unless there was trouble before. -/
def TreeReading.takeOffer (expected : String) (reading : TreeReading) (offer : Offer) :
    TreeReading :=
  reading.take expected offer.owner offer.text

namespace Node

mutual

/-- Reading a node takes the offers of the node. -/
theorem read_eq_foldl (expected : String) (owner : Owner) (reading : TreeReading)
    (node : Node) :
    node.read expected owner reading =
      (node.offers owner).foldl (TreeReading.takeOffer expected) reading := by
  match node with
  | text s => rfl
  | element name attributes children =>
    rw [read, offers, List.foldl_append, readAll_eq_foldl]
    cases children.any isText <;> rfl

/-- So does reading several nodes. -/
theorem readAll_eq_foldl (expected : String) (owner : Owner) (reading : TreeReading)
    (children : List Node) :
    readAll expected owner reading children =
      (offersIn owner children).foldl (TreeReading.takeOffer expected) reading := by
  match children with
  | [] => rfl
  | node :: rest =>
    rw [readAll, offersIn, List.foldl_append, readAll_eq_foldl expected owner _ rest,
      read_eq_foldl expected owner reading node]

end

end Node

namespace TreeReading

theorem foldl_take_of_trouble (expected : String) {reading : TreeReading}
    (h : reading.trouble.isSome) (offers : List Offer) :
    offers.foldl (takeOffer expected) reading = reading := by
  induction offers with
  | nil => rfl
  | cons offer rest ih =>
    rw [List.foldl_cons, takeOffer, take, if_pos h]
    exact ih

/-- How far a tree has been read when something was taken into a document, or could not
be. -/
def ofResult (doc : Document) : Except Trouble Document → TreeReading
  | .ok next => ⟨next, none⟩
  | .error trouble => ⟨doc, some trouble⟩

/-- Before any trouble an offer decides what becomes of it. -/
theorem takeOffer_eq_ofResult (expected : String) (doc : Document) (offer : Offer) :
    takeOffer expected ⟨doc, none⟩ offer = ofResult doc (offer.take expected doc).1 := by
  unfold takeOffer take Offer.take
  cases Role.ofName? offer.owner.name with
  | none => rfl
  | some role =>
    simp only
    rcases role.take expected offer.owner.attributes offer.text doc with ⟨result, log⟩
    cases result <;> rfl

/-- Without trouble so far, what is read of offers is what taking them comes to. -/
theorem foldl_take_eq_takeAll (expected : String) (doc : Document) (offers : List Offer) :
    offers.foldl (takeOffer expected) ⟨doc, none⟩ =
      ⟨(takeAll expected offers doc).document, (takeAll expected offers doc).trouble⟩ := by
  induction offers generalizing doc with
  | nil => rfl
  | cons offer rest ih =>
    rw [List.foldl_cons, takeOffer_eq_ofResult, takeAll]
    rcases offer.take expected doc with ⟨result, log⟩
    cases result with
    | ok next => exact ih next
    | error trouble => exact foldl_take_of_trouble expected rfl rest

end TreeReading

/-! ## Both ways of reading -/

/-- Reading the events of an element with a fresh reader comes to what reading along the
element comes to: the same document, the same fault, and the same failure that escapes.
What stands around the element does not matter. -/
theorem run_events_eq_read (expected name : String) (attributes : List String)
    (children : List Node) (owner : Owner) :
    let reaction := (Reader.start expected).run (Node.element name attributes children).events
    let reading := (Node.element name attributes children).read expected owner .start
    reaction.reader.document = reading.document ∧
      reaction.reader.fault = reading.trouble.bind Trouble.fault? ∧
      reaction.escape = reading.trouble.bind Trouble.escape? := by
  intro reaction reading
  have hshows := Reader.run_shows_takeAll (.start expected) rfl
    (Node.element name attributes children).events
  have hoffers : offersOf [] (Node.element name attributes children).events =
      (Node.element name attributes children).offers owner := by
    simpa [offersOf] using
      Node.offersOf_events_element name attributes children owner [] []
  have hreading : reading =
      ⟨(takeAll expected ((Node.element name attributes children).offers owner)
          .empty).document,
        (takeAll expected ((Node.element name attributes children).offers owner)
          .empty).trouble⟩ := by
    rw [← TreeReading.foldl_take_eq_takeAll, ← Node.read_eq_foldl]
    rfl
  rw [hreading, ← hoffers]
  exact ⟨hshows.document, hshows.fault, hshows.escape⟩

end Metalink
