import Mathlib.Tactic.Common
import Metalink.Reader.Tree

/-!
# What events offer to elements

A reader keeps a stack of open elements and builds a document.  The two have little to
do with each other: which text is offered to which element depends on the stack and on
the events alone, and what becomes of an offer depends on the document alone.  This
module takes a run apart into the offers that its events make and the taking of offers.

Main results:

- `step_eq_accept`: an event moves the stack, and makes at most one offer.
- `run_shows_takeAll`: whatever the events and the open elements, a run comes to the
  document, the first trouble and the records of taking all offers in turn; without
  trouble it ends with the open elements that the events leave.
- `takeAll_append`: taking offers goes on after offers without trouble, and only then.
-/

namespace Metalink

/-! ## Trouble -/

/-- The fault that trouble is, if it is one. -/
def Trouble.fault? : Trouble → Option ContentFault
  | .fault f => some f
  | .escape _ => none

/-- The failure that escapes with trouble, if one does. -/
def Trouble.escape? : Trouble → Option Escape
  | .fault _ => none
  | .escape e => some e

/-! ## Offers -/

/-- An open element as far as its text is concerned. -/
def Frame.owner (frame : Frame) : Owner :=
  ⟨frame.name, frame.attributes⟩

/-- A run of text, offered to the element that it stands in. -/
structure Offer where
  owner : Owner
  text : CodeText
deriving DecidableEq, Repr

namespace Offer

/-- A text of characters, offered to an element. -/
abbrev ofString (owner : Owner) (text : String) : Offer :=
  ⟨owner, text⟩

/-- Take an offer into a document.  Elements without a role take nothing. -/
def take (expected : String) (offer : Offer) (doc : Document) : Taken :=
  match Role.ofName? offer.owner.name with
  | none => (.ok doc, [])
  | some role => role.take expected offer.owner.attributes offer.text doc

/-- The report of trouble with an offer.  A failure that escapes is not reported. -/
def report (offer : Offer) : Trouble → Log
  | .fault fault => Reader.faultRecord ⟨offer.owner.name, offer.owner.attributes, true⟩ fault
  | .escape _ => []

end Offer

namespace Event

/-- The open elements after an event. -/
def frames : Event → List Frame → List Frame
  | .opened name attributes, frames => ⟨name, attributes, false⟩ :: frames
  | .text _, frame :: frames => { frame with hadText := true } :: frames
  | .closed _, _ :: frames => frames
  | _, [] => []

/-- What an event offers: a text to the innermost element, and the empty text to an
element that is closed without having had any. -/
def offer? : Event → List Frame → Option Offer
  | .text t, frame :: _ => some ⟨frame.owner, t⟩
  | .closed _, frame :: _ =>
    if frame.hadText then none else some (.ofString frame.owner "")
  | _, _ => none

/-- What an event offers is offered to the innermost element. -/
theorem exists_frame_of_offer? {event : Event} {frames : List Frame} {offer : Offer}
    (h : event.offer? frames = some offer) :
    ∃ frame ∈ frames.head?, offer.owner = frame.owner := by
  cases event with
  | opened name attributes => cases h
  | text text =>
    cases frames with
    | nil => cases h
    | cons frame rest =>
      obtain rfl := Option.some.inj h
      exact ⟨frame, rfl, rfl⟩
  | closed name =>
    cases frames with
    | nil => cases h
    | cons frame rest =>
      rw [Event.offer?] at h
      split at h
      · cases h
      · obtain rfl := Option.some.inj h
        exact ⟨frame, rfl, rfl⟩

end Event

/-- The open elements after events. -/
def framesAfter (frames : List Frame) (events : List Event) : List Frame :=
  events.foldl (fun frames event => event.frames frames) frames

/-- What events offer, in order. -/
def offersOf : List Frame → List Event → List Offer
  | _, [] => []
  | frames, event :: rest => (event.offer? frames).toList ++ offersOf (event.frames frames) rest

theorem framesAfter_append (frames : List Frame) (first rest : List Event) :
    framesAfter frames (first ++ rest) = framesAfter (framesAfter frames first) rest :=
  List.foldl_append

theorem offersOf_append (frames : List Frame) (first rest : List Event) :
    offersOf frames (first ++ rest) =
      offersOf frames first ++ offersOf (framesAfter frames first) rest := by
  induction first generalizing frames with
  | nil => rfl
  | cons event first ih =>
    rw [List.cons_append, offersOf, offersOf, ih, List.append_assoc]
    rfl

/-! ## Taking offers -/

/-- What taking offers comes to. -/
structure Intake where
  document : Document
  trouble : Option Trouble
  log : Log

/-- Take offers in turn, up to the first trouble. -/
def takeAll (expected : String) : List Offer → Document → Intake
  | [], doc => ⟨doc, none, []⟩
  | offer :: rest, doc =>
    match offer.take expected doc with
    | (.ok next, log) =>
      let intake := takeAll expected rest next
      { intake with log := log ++ intake.log }
    | (.error trouble, log) => ⟨doc, some trouble, log ++ offer.report trouble⟩

/-- Trouble among the first offers stands, and otherwise taking goes on with the
others. -/
theorem takeAll_append (expected : String) (first rest : List Offer) (doc : Document) :
    takeAll expected (first ++ rest) doc =
      match takeAll expected first doc with
      | ⟨next, none, log⟩ =>
        { takeAll expected rest next with log := log ++ (takeAll expected rest next).log }
      | intake => intake := by
  induction first generalizing doc with
  | nil => simp [takeAll]
  | cons offer offers ih =>
    rw [List.cons_append, takeAll, takeAll]
    rcases htake : offer.take expected doc with ⟨result, log⟩
    cases result with
    | error trouble => rfl
    | ok next =>
      simp only [ih next]
      rcases takeAll expected offers next with ⟨last, trouble, logs⟩
      cases trouble with
      | none => simp
      | some trouble => rfl

/-- After offers without trouble the others are taken into the document that these left. -/
theorem takeAll_append_of_trouble_eq_none {expected : String} {first : List Offer}
    {doc : Document} (h : (takeAll expected first doc).trouble = none) (rest : List Offer) :
    (takeAll expected (first ++ rest) doc).trouble =
        (takeAll expected rest (takeAll expected first doc).document).trouble ∧
      (takeAll expected (first ++ rest) doc).document =
        (takeAll expected rest (takeAll expected first doc).document).document := by
  rw [takeAll_append]
  generalize takeAll expected first doc = intake at h ⊢
  rcases intake with ⟨next, trouble, log⟩
  obtain rfl : trouble = none := h
  exact ⟨rfl, rfl⟩

/-! ## Reactions to offers -/

namespace Reader

/-- React to an offer. -/
def accept (reader : Reader) (offer : Offer) : Reaction :=
  match offer.take reader.expected reader.document with
  | (.ok document, log) => ⟨{ reader with document }, log, none⟩
  | (.error trouble, log) =>
    ⟨{ reader with fault := trouble.fault? }, log ++ offer.report trouble, trouble.escape?⟩

/-- A dispatch is an offer to the element as far as its text is concerned. -/
theorem dispatch_eq_accept {reader : Reader} (h : reader.fault = none) (frame : Frame)
    (text : CodeText) : reader.dispatch frame text = reader.accept ⟨frame.owner, text⟩ := by
  unfold dispatch accept Offer.take
  simp only [Frame.owner]
  cases hrole : Role.ofName? frame.name with
  | none => rfl
  | some role =>
    simp only
    rcases role.take reader.expected frame.attributes text reader.document with ⟨result, log⟩
    cases result with
    | ok document => rfl
    | error trouble =>
      cases trouble with
      | fault fault => rfl
      | escape escape =>
        cases reader
        simp_all [Trouble.fault?, Trouble.escape?, Offer.report]

/-- An event moves the stack and makes at most one offer. -/
theorem step_eq_accept {reader : Reader} (h : reader.fault = none) (event : Event) :
    reader.step event =
      match event.offer? reader.frames with
      | none => { reader with frames := event.frames reader.frames }.still
      | some offer => { reader with frames := event.frames reader.frames }.accept offer := by
  rcases reader with ⟨expected, document, frames, fault⟩
  subst h
  cases event with
  | opened name attributes => rfl
  | text text =>
    cases frames with
    | nil => rfl
    | cons frame rest => exact dispatch_eq_accept rfl _ _
  | closed name =>
    cases frames with
    | nil => rfl
    | cons frame rest =>
      rcases frame with ⟨name, attributes, hadText⟩
      cases hadText with
      | true => rfl
      | false => exact dispatch_eq_accept rfl _ _

/-- The name of the file that must be described stays the same. -/
theorem expected_step (reader : Reader) (event : Event) :
    (reader.step event).reader.expected = reader.expected := by
  by_cases hfault : reader.fault = none
  · rw [step_eq_accept hfault]
    cases event.offer? reader.frames with
    | none => rfl
    | some offer =>
      simp only [accept]
      rcases offer.take reader.expected reader.document with ⟨result, log⟩
      cases result <;> rfl
  · rw [step_of_fault (Option.isSome_iff_ne_none.2 hfault)]
    rfl

theorem expected_run (reader : Reader) (events : List Event) :
    (reader.run events).reader.expected = reader.expected := by
  induction events generalizing reader with
  | nil => rfl
  | cons event rest ih =>
    have hstep := expected_step reader event
    rw [run]
    rcases hreaction : reader.step event with ⟨next, log, escape⟩
    rw [hreaction] at hstep
    cases escape with
    | some escape => exact hstep
    | none => exact (ih next).trans hstep

end Reader

/-! ## Runs -/

/-- A reaction comes to what taking offers comes to, and leaves the given elements open
unless there is trouble. -/
structure Reaction.Shows (reaction : Reaction) (intake : Intake) (frames : List Frame) :
    Prop where
  document : reaction.reader.document = intake.document
  fault : reaction.reader.fault = intake.trouble.bind Trouble.fault?
  escape : reaction.escape = intake.trouble.bind Trouble.escape?
  log : reaction.log = intake.log
  frames : intake.trouble = none → reaction.reader.frames = frames

/-- A reaction is without a fault and without a failure that escapes exactly if there is no
trouble with the offers. -/
theorem Reaction.Shows.accepted_iff {reaction : Reaction} {intake : Intake}
    {frames : List Frame} (h : reaction.Shows intake frames) :
    reaction.reader.fault = none ∧ reaction.escape = none ↔ intake.trouble = none := by
  rw [h.fault, h.escape]
  cases intake.trouble with
  | none => simp
  | some trouble => cases trouble <;> simp [Trouble.fault?, Trouble.escape?]

namespace Reader

/-- A run takes the offers that its events make, and ends with the elements open that
they leave. -/
theorem run_shows_takeAll (reader : Reader) (h : reader.fault = none) (events : List Event) :
    (reader.run events).Shows
      (takeAll reader.expected (offersOf reader.frames events) reader.document)
      (framesAfter reader.frames events) := by
  induction events generalizing reader with
  | nil => exact ⟨rfl, h, rfl, rfl, fun _ => rfl⟩
  | cons event rest ih =>
    rw [run, step_eq_accept h, offersOf, framesAfter, List.foldl_cons]
    cases event.offer? reader.frames with
    | none =>
      -- Only the stack has moved.
      exact ih { reader with frames := event.frames reader.frames } h
    | some offer =>
      simp only [accept, Option.toList_some, List.singleton_append, takeAll]
      rcases offer.take reader.expected reader.document with ⟨result, log⟩
      cases result with
      | ok document =>
        have hrest := ih ⟨reader.expected, document, event.frames reader.frames, reader.fault⟩ h
        exact ⟨hrest.document, hrest.fault, hrest.escape, congrArg (log ++ ·) hrest.log,
          hrest.frames⟩
      | error trouble =>
        cases trouble with
        | fault f =>
          -- The rest of the events finds the reader at fault.
          simp only [Trouble.escape?, Trouble.fault?]
          rw [run_of_fault rfl]
          exact ⟨rfl, rfl, rfl, by simp [still], fun hnone => by cases hnone⟩
        | escape e => exact ⟨rfl, rfl, rfl, rfl, fun hnone => by cases hnone⟩

end Reader

end Metalink
