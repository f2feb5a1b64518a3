import Mathlib.Tactic.Common
import Metalink.Proofs.Reader.Elements
import Metalink.Proofs.Reader.Erasure
import Metalink.Proofs.Reader.Walk

/-!
# Complete elements add up

Whatever was read before and is still open around them, complete elements contribute what they
contribute to a fresh reader: they never get to a frame that they did not open themselves, and
what they give is added to what was there.

Main results:

- `step_after`: an event that stays among the elements opened since does the same on top of
  anything that was read before.
- `walks_events_element`, `walks_eventsOf`: complete elements stay among the elements that they
  open, and leave none of them open.
- `complete_elements_contribute`: what this means for a run, for events one by one, and for
  sources that are read one after the other.
-/

namespace Metalink

/-! ## Documents -/

namespace Document

/-- A document with what was read after it: a name or a size that was read again replaces the
former one, hashes and mirrors are added at the end. -/
def extend (doc next : Document) : Document where
  filename := next.filename.or doc.filename
  size := next.size.or doc.size
  hashes := doc.hashes ++ next.hashes
  mirrors := doc.mirrors ++ next.mirrors

theorem extend_empty (doc : Document) : doc.extend .empty = doc := by
  simp [extend, empty]

/-- Documents that were read one after the other. -/
def join (docs : List Document) : Document :=
  docs.foldl extend .empty

end Document

/-- What is taken after a document was read is taken in addition to it. -/
def Taken.after (doc : Document) (taken : Taken) : Taken :=
  (taken.1.map doc.extend, taken.2)

/-- A numeral is taken into an extended document as into the extension. -/
theorem takeNumeral_extend (numeral : String) (doc next : Document) :
    takeNumeral numeral (doc.extend next) = (takeNumeral numeral next).after doc := by
  unfold takeNumeral
  by_cases hempty : numeral = ""
  · simp only [hempty, if_true]
    rfl
  · simp only [hempty, if_false]
    cases Text.readInteger numeral <;> rfl

theorem takeAddress_extend (attributes : List String) (url : String) (doc next : Document) :
    takeAddress attributes url (doc.extend next) = (takeAddress attributes url next).after doc := by
  unfold takeAddress
  by_cases hshort : url.utf8ByteSize ≤ Mirror.minUrlBytes
  · simp only [hshort, if_true]
    rfl
  · simp only [hshort, if_false]
    cases readPreference attributes with
    | error trouble => rfl
    | ok preference => simp [Taken.after, Except.map, Document.extend]

/-- What becomes of content does not depend on what was read before. -/
theorem Role.take_extend (role : Role) (expected : String) (text : CodeText)
    (attributes : List String) (doc next : Document) :
    role.take expected attributes text (doc.extend next) =
      (role.take expected attributes text next).after doc := by
  cases role with
  | file =>
    simp only [take, takeFile]
    cases findAttribute "name" attributes with
    | none => rfl
    | some name => by_cases hname : name = expected <;> simp [hname] <;> rfl
  | size =>
    simp only [take, takeSize]
    cases text.trim.string? with
    | none => rfl
    | some numeral => exact takeNumeral_extend numeral doc next
  | hash =>
    simp only [take, takeHash]
    cases findAttribute "type" attributes with
    | none => rfl
    | some type =>
      by_cases hempty : text.trim = ("" : String)
      · simp only [hempty, if_true]
        rfl
      · simp only [hempty, if_false]
        cases Schema.buildHash type text.trim with
        | error violations => rfl
        | ok hash => simp [Taken.after, Except.map, Document.extend]
  | url =>
    simp only [take, takeUrl]
    cases text.trim.encode with
    | error fault => rfl
    | ok url => exact takeAddress_extend attributes url doc next

/-- So is every offer. -/
theorem Offer.take_extend (offer : Offer) (expected : String) (doc next : Document) :
    offer.take expected (doc.extend next) = (offer.take expected next).after doc := by
  unfold take
  cases Role.ofName? offer.owner.name with
  | none => rfl
  | some role => exact role.take_extend _ _ _ doc next

/-! ## Events among the elements opened since -/

namespace Event

/-- An event stays among the given open elements: it opens another one, or gets to one of them. -/
def IsWithin : Event → List Frame → Prop
  | .opened _ _, _ => True
  | _, frames => frames ≠ []

variable {event : Event} {frames : List Frame}

/-- Such an event leaves the elements around them alone. -/
theorem frames_append (h : event.IsWithin frames) (outer : List Frame) :
    event.frames (frames ++ outer) = event.frames frames ++ outer := by
  cases event with
  | opened name attributes => rfl
  | text s | closed name =>
    cases frames with
    | nil => exact absurd rfl h
    | cons frame frames => rfl

/-- An event within some elements offers the same whatever is open around them. -/
theorem offer?_append (h : event.IsWithin frames) (outer : List Frame) :
    event.offer? (frames ++ outer) = event.offer? frames := by
  cases event with
  | opened name attributes => rfl
  | text s | closed name =>
    cases frames with
    | nil => exact absurd rfl h
    | cons frame frames => rfl

end Event

/-- Events that stay among the given open elements and those that they open themselves, and the
elements that are open after them. -/
inductive Walks : List Frame → List Event → List Frame → Prop where
  | nil (frames : List Frame) : Walks frames [] frames
  | cons {event : Event} {events : List Event} {frames last : List Frame}
      (hwithin : event.IsWithin frames) (hrest : Walks (event.frames frames) events last) :
      Walks frames (event :: events) last

namespace Walks

variable {frames middle last : List Frame} {first rest : List Event}

theorem append (hfirst : Walks frames first middle) (hrest : Walks middle rest last) :
    Walks frames (first ++ rest) last := by
  induction hfirst with
  | nil => exact hrest
  | cons hwithin _ ih => exact .cons hwithin (ih hrest)

theorem framesAfter_eq (h : Walks frames first last) : framesAfter frames first = last := by
  induction h with
  | nil => rfl
  | cons _ _ ih => exact ih

end Walks

namespace Node

mutual

/-- The events of an element stay among the elements that it opens, and leave none of them
open. -/
theorem walks_events_element (name : String) (attributes : List String) (children : List Node)
    (frames : List Frame) :
    Walks frames (element name attributes children).events frames := by
  have hcontent : Walks (frameOf ⟨name, attributes⟩ false :: frames) (eventsOf children) _ :=
    walks_eventsOf children ⟨name, attributes⟩ false frames
  have hend : Walks (frameOf ⟨name, attributes⟩ (false || children.any isText) :: frames)
      [.closed name] frames := .cons (List.cons_ne_nil _ _) (.nil frames)
  rw [events]
  exact .cons trivial (hcontent.append hend)
termination_by (sizeOf children, 1)

/-- So do those of the content of an element, which is still open after them. -/
theorem walks_eventsOf (children : List Node) (owner : Owner) (hadText : Bool)
    (frames : List Frame) :
    Walks (frameOf owner hadText :: frames) (eventsOf children)
      (frameOf owner (hadText || children.any isText) :: frames) := by
  match children with
  | [] =>
    rw [List.any_nil, Bool.or_false, eventsOf]
    exact .nil _
  | text s :: tail =>
    -- The text gets to the element itself, which is marked from then on.
    have htail := walks_eventsOf tail owner true frames
    rw [Bool.true_or] at htail
    rw [List.any_cons, isText, Bool.true_or, Bool.or_true, eventsOf, events]
    exact .cons (List.cons_ne_nil _ _) htail
  | element name attributes inner :: tail =>
    have hhead := walks_events_element name attributes inner (frameOf owner hadText :: frames)
    rw [List.any_cons, isText, Bool.false_or, eventsOf]
    exact hhead.append (walks_eventsOf tail owner hadText frames)
termination_by (sizeOf children, 0)

end

/-- The events of complete elements, without text between them. -/
theorem walks_eventsOf_elements {nodes : List Node} (h : ∀ node ∈ nodes, node.isText = false)
    (frames : List Frame) : Walks frames (eventsOf nodes) frames := by
  induction nodes with
  | nil => exact .nil frames
  | cons node nodes ih =>
    rw [eventsOf]
    have hrest := ih fun other hother => h other (List.mem_cons_of_mem _ hother)
    cases node with
    | text s => cases h (.text s) List.mem_cons_self
    | element name attributes children =>
      exact (walks_events_element name attributes children frames).append hrest

end Node

/-! ## Readers on top of readers -/

/-- A reader that has read what another one had read before, among the elements that were open
there. -/
def Reader.after (prior reader : Reader) : Reader :=
  { reader with
    document := prior.document.extend reader.document
    frames := reader.frames ++ prior.frames }

/-- A reaction of a reader that has read something else before. -/
def Reaction.after (prior : Reader) (reaction : Reaction) : Reaction :=
  { reaction with reader := prior.after reaction.reader }

namespace Reader

variable {prior reader : Reader} {event : Event} {events : List Event}

/-- Without a fault every reader is a fresh one that has read something before. -/
theorem after_start (h : prior.fault = none) : prior.after (start prior.expected) = prior := by
  rcases prior with ⟨expected, document, frames, fault⟩
  obtain rfl : fault = none := h
  simp only [after, start, Document.extend_empty, List.nil_append]

/-- An offer is accepted after other documents as by itself. -/
theorem accept_after (prior reader : Reader) (offer : Offer) :
    (prior.after reader).accept offer = (reader.accept offer).after prior := by
  simp only [accept, after, Offer.take_extend, Taken.after, Reaction.after]
  rcases offer.take reader.expected reader.document with ⟨result, log⟩
  cases result <;> rfl

/-- An event that stays among the elements opened since does the same on top of anything that
was read before; so does every event where no element was open. -/
theorem step_after (hnone : reader.fault = none)
    (h : event.IsWithin reader.frames ∨ prior.frames = []) :
    (prior.after reader).step event = (reader.step event).after prior := by
  have hframes : event.frames (reader.frames ++ prior.frames) =
      event.frames reader.frames ++ prior.frames := by
    rcases h with hwithin | hnil
    · exact Event.frames_append hwithin _
    · simp only [hnil, List.append_nil]
  have hoffer : event.offer? (reader.frames ++ prior.frames) = event.offer? reader.frames := by
    rcases h with hwithin | hnil
    · exact Event.offer?_append hwithin _
    · rw [hnil, List.append_nil]
  have hmoved : { prior.after reader with frames := event.frames (prior.after reader).frames } =
      prior.after { reader with frames := event.frames reader.frames } := by
    simp only [after, hframes]
  have hnone' : (prior.after reader).fault = none := hnone
  rw [step_eq_accept hnone', step_eq_accept hnone, hmoved]
  simp only [after, hoffer]
  cases event.offer? reader.frames with
  | none => rfl
  | some offer =>
    exact accept_after prior { reader with frames := event.frames reader.frames } offer

/-! ## Runs -/

/-- The reactions to events that are delivered one by one.  An event at which a numeral is too
long does not keep the next one from being delivered. -/
def reactions (reader : Reader) : List Event → List Reaction
  | [] => []
  | event :: rest => reader.step event :: (reader.step event).reader.reactions rest

/-- No event of a sequence gets to an element that was open before: the reader is at fault, or
nothing was open, or the events stay among the elements opened since. -/
def IsApart (prior reader : Reader) (events : List Event) : Prop :=
  reader.fault.isSome ∨ prior.frames = [] ∨ ∃ last, Walks reader.frames events last

/-- The first of such events does the same on top of what was read before, and the others are
such events again. -/
theorem IsApart.step (h : prior.IsApart reader (event :: events)) :
    (prior.after reader).step event = (reader.step event).after prior ∧
      prior.IsApart (reader.step event).reader events := by
  by_cases hfault : reader.fault = none
  · rcases h with hsome | hnil | ⟨last, hwalks⟩
    · rw [hfault] at hsome
      cases hsome
    · exact ⟨step_after hfault (.inr hnil), .inr (.inl hnil)⟩
    · -- The walk goes on with the elements that the event leaves open.
      cases hwalks with
      | cons hwithin hrest =>
        refine ⟨step_after hfault (.inl hwithin), .inr (.inr ⟨last, ?_⟩)⟩
        rw [frames_step hfault]
        exact hrest
  · -- At fault both stay as they are.
    have hsome : reader.fault.isSome := Option.isSome_iff_ne_none.2 hfault
    have hsome' : (prior.after reader).fault.isSome := hsome
    rw [step_of_fault hsome, step_of_fault hsome']
    exact ⟨rfl, .inl hsome⟩

/-- A run apart from all that was read before goes as by itself. -/
theorem run_after (h : prior.IsApart reader events) :
    (prior.after reader).run events = (reader.run events).after prior := by
  induction events generalizing reader with
  | nil => rfl
  | cons event rest ih =>
    obtain ⟨hstep, hapart⟩ := h.step
    have hrest := ih hapart
    rw [run, run, hstep]
    generalize reader.step event = reaction at hrest ⊢
    rcases reaction with ⟨next, log, escape⟩
    cases escape with
    | some digits => rfl
    | none => simp only [Reaction.after, hrest]

/-- So does every single reaction. -/
theorem reactions_after (h : prior.IsApart reader events) :
    (prior.after reader).reactions events =
      (reader.reactions events).map (Reaction.after prior) := by
  induction events generalizing reader with
  | nil => rfl
  | cons event rest ih =>
    obtain ⟨hstep, hapart⟩ := h.step
    have hrest := ih hapart
    rw [reactions, reactions, List.map_cons, hstep]
    exact congrArg ((reader.step event).after prior :: ·) hrest

/-- A run without a fault and without a numeral that is too long ends with the elements open
that its events leave open. -/
theorem frames_run (hnone : reader.fault = none) (hfault : (reader.run events).reader.fault = none)
    (hescape : (reader.run events).escape = none) :
    (reader.run events).reader.frames = framesAfter reader.frames events := by
  have hshows := reader.run_shows_takeAll hnone events
  exact hshows.frames (hshows.accepted_iff.1 ⟨hfault, hescape⟩)

/-! ## Sources one after the other -/

/-- A source does the same on top of anything that was read before and left nothing open. -/
theorem parse_after (h : prior.frames = []) (reader : Reader) (source : Xml.Source) :
    (prior.after reader).parse source =
      ⟨(reader.parse source).outcome.map prior.document.extend,
        prior.after (reader.parse source).reader, (reader.parse source).log⟩ := by
  have hapart : prior.IsApart reader source.tokenize.events := .inr (.inl h)
  have hrun := run_after hapart
  unfold parse parseTokenized
  rw [hrun]
  generalize reader.run source.tokenize.events = reaction
  rcases reaction with ⟨last, log, escape⟩
  cases escape with
  | some digits => rfl
  | none =>
    cases source.tokenize.verdict with
    | malformed problem position => rfl
    | escaped escape => rfl
    | wellFormed =>
      rcases last with ⟨expected, document, frames, fault⟩
      cases fault <;> rfl

/-- What a fresh reader is left with by a source that is accepted. -/
theorem parse_start {source : Xml.Source} {expected : String} {doc : Document}
    (h : (Metalink.parse source expected).1 = .ok doc) :
    ((start expected).parse source).outcome = .ok doc ∧
      ((start expected).parse source).reader = ⟨expected, doc, [], none⟩ := by
  obtain ⟨hname, hverdict, -, -⟩ := parse_eq_ok_iff.1 h
  have houtcome : ((start expected).parse source).outcome = .ok doc := by
    simpa only [Metalink.parse, ofName?, if_neg hname] using h
  refine ⟨houtcome, ?_⟩
  have hexpected := (start expected).expected_run source.tokenize.events
  have hframes : ((start expected).run source.tokenize.events).reader.fault = none →
      ((start expected).run source.tokenize.events).escape = none →
      ((start expected).run source.tokenize.events).reader.frames = [] := fun hfault hescape =>
    (frames_run rfl hfault hescape).trans (Xml.Source.framesAfter_tokenize hverdict)
  unfold parse parseTokenized at houtcome ⊢
  rw [hverdict] at houtcome ⊢
  generalize (start expected).run source.tokenize.events = reaction at *
  rcases reaction with ⟨⟨name, document, frames, fault⟩, log, escape⟩
  obtain rfl : name = expected := hexpected
  cases escape with
  | some digits => cases houtcome
  | none =>
    cases fault with
    | some fault => cases houtcome
    | none =>
      obtain rfl : frames = [] := hframes rfl rfl
      cases houtcome
      rfl

/-- A source that is accepted adds its document to what was read before. -/
theorem parse_of_accepted (prior : Reader) {source : Xml.Source} {doc : Document}
    (hnone : prior.fault = none) (hclosed : prior.frames = [])
    (h : (Metalink.parse source prior.expected).1 = .ok doc) :
    (prior.parse source).outcome = .ok (prior.document.extend doc) ∧
      (prior.parse source).reader = { prior with document := prior.document.extend doc } := by
  obtain ⟨houtcome, hreader⟩ := parse_start h
  have hparse := parse_after hclosed (start prior.expected) source
  rw [after_start hnone, houtcome, hreader] at hparse
  rw [hparse]
  refine ⟨rfl, ?_⟩
  simp only [after, hnone, hclosed, List.nil_append]

/-- Documents that are accepted one by one are read on end. -/
theorem answerAll_of_accepted {expected : String} {sources : List Xml.Source}
    {docs : List Document} (read : Document)
    (h : List.Forall₂ (fun source doc => (Metalink.parse source expected).1 = .ok doc)
      sources docs) :
    (Reader.mk expected read [] none).answerAll (sources.map .source) =
      ⟨expected, docs.foldl Document.extend read, [], none⟩ := by
  induction h generalizing read with
  | nil => rfl
  | @cons source doc sources docs hsource _ ih =>
    have hnext := (parse_of_accepted ⟨expected, read, [], none⟩ rfl rfl hsource).2
    rw [List.map_cons, answerAll, List.foldl_cons, answer, hnext]
    exact ih (read.extend doc)

/-! ## Complete elements -/

/-- Complete elements, without text between them, contribute what they contribute to a fresh
reader that expects the same file, whatever a reader without a fault has read before and whatever
is open there.  They come to the same fault, the same numeral that is too long and the same
records, for the whole run and for each event of those that are delivered one by one.  If they
come to no fault and no such numeral, the open elements are exactly those that were open before,
and what the fresh reader has read is added to what was there.  So documents that are accepted
and read one after the other by one reader come to the join of what they come to by themselves. -/
theorem complete_elements_contribute (reader : Reader) (nodes : List Node)
    (hnone : reader.fault = none) (helements : ∀ node ∈ nodes, node.isText = false) :
    let events := Node.eventsOf nodes
    let reaction := reader.run events
    let fresh := (start reader.expected).run events
    (reaction.reader.fault = fresh.reader.fault ∧ reaction.escape = fresh.escape ∧
        reaction.log = fresh.log) ∧
      reader.reactions events =
        ((start reader.expected).reactions events).map (Reaction.after reader) ∧
      (fresh.reader.fault = none → fresh.escape = none →
        reaction.reader =
          { reader with document := reader.document.extend fresh.reader.document }) ∧
      ∀ sources docs source doc,
        List.Forall₂ (fun source doc => (Metalink.parse source reader.expected).1 = .ok doc)
          sources docs →
        (Metalink.parse source reader.expected).1 = .ok doc →
        (((start reader.expected).answerAll (sources.map .source)).parse source).outcome =
          .ok (Document.join (docs ++ [doc])) := by
  intro events reaction fresh
  have hwalks : Walks [] events [] := Node.walks_eventsOf_elements helements []
  have hapart : reader.IsApart (start reader.expected) events := .inr (.inr ⟨[], hwalks⟩)
  have hreaction := run_after hapart
  have hreactions := reactions_after hapart
  rw [after_start hnone] at hreaction hreactions
  change reaction = fresh.after reader at hreaction
  refine ⟨⟨by rw [hreaction]; rfl, by rw [hreaction]; rfl, by rw [hreaction]; rfl⟩, hreactions,
    ?_, ?_⟩
  · -- Without trouble nothing stays open of what the elements opened.
    intro hfault hescape
    have hframes : fresh.reader.frames = [] :=
      (frames_run rfl hfault hescape).trans hwalks.framesAfter_eq
    have hexpected : fresh.reader.expected = reader.expected := expected_run _ _
    rw [hreaction]
    simp only [Reaction.after, after, hframes, hexpected, hfault, hnone, List.nil_append]
  · intro sources docs source doc hsources hsource
    have hprior := answerAll_of_accepted .empty hsources
    have hlast := (parse_of_accepted ⟨reader.expected, Document.join docs, [], none⟩ rfl rfl
      hsource).1
    rw [start, hprior, Document.join, List.foldl_append]
    exact hlast

/-- A hash and a size in the middle of a file element: the hash is added, the size is replaced,
and the file element is open as before, with its attributes and the mark of its text. -/
theorem hash_and_size_contribute :
    let frames : List Frame := [⟨"file", ["name", "f.rpm"], true⟩, ⟨"metalink", ["odd"], false⟩]
    let reader : Reader := ⟨"f.rpm", ⟨some "f.rpm", some 3, [⟨"md5", "00"⟩], []⟩, frames, none⟩
    let nodes : List Node :=
      [.element "hash" ["type", "sha-1"] [.text " ab ", .element "note" [] []],
        .element "size" [] [.text "5"]]
    (reader.run (Node.eventsOf nodes)).reader =
      ⟨"f.rpm", ⟨some "f.rpm", some 5, [⟨"md5", "00"⟩, ⟨"sha-1", "ab"⟩], []⟩, frames, none⟩ := by
  intro frames reader nodes
  have h := complete_elements_contribute reader nodes rfl (by decide)
  exact h.2.2.1 (by decide) (by decide)

end Reader

end Metalink
