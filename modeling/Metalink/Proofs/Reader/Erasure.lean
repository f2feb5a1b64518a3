import Mathlib.Tactic.Common
import Metalink.Proofs.Reader.Latch

/-!
# Elements without a role

Elements without a role take no content, and a reader that never saw them comes to the same.
Erasing them from a sequence of events takes away their tags and the texts for which they are
the innermost element; the texts after them still get to the element around them, since its
frame has kept its place among the frames that are left.

Main results:

- `step_of_isHidden`, `step_visible`: an erased event does nothing that shows, and every other
  one does the same without the frames of erased elements.
- `run_erase`: running the rest comes to the same, in everything that shows.
- `erasure_does_not_show`: so it is with events that are delivered one by one, and what is read
  depends on nothing but the rest.
-/

namespace Metalink

/-! ## What shows -/

/-- An open element has a role. -/
def Frame.HasRole (frame : Frame) : Prop :=
  (Role.ofName? frame.name).isSome = true

instance (frame : Frame) : Decidable frame.HasRole :=
  inferInstanceAs (Decidable (_ = _))

/-- The open elements that have a role. -/
def visible (frames : List Frame) : List Frame :=
  frames.filter fun frame => frame.HasRole

/-- A reader without the elements that have no role. -/
def Reader.visible (reader : Reader) : Reader :=
  { reader with frames := Metalink.visible reader.frames }

/-- A reaction of which no element shows that has no role. -/
def Reaction.visible (reaction : Reaction) : Reaction :=
  { reaction with reader := reaction.reader.visible }

section Frames

variable {frame : Frame} {frames : List Frame}

theorem visible_cons_of_hasRole (h : frame.HasRole) :
    visible (frame :: frames) = frame :: visible frames :=
  List.filter_cons_of_pos (by simpa using h)

theorem visible_cons_of_not_hasRole (h : ¬ frame.HasRole) :
    visible (frame :: frames) = visible frames :=
  List.filter_cons_of_neg (by simpa using h)

/-- An element that does not show has no role. -/
theorem Frame.ofName?_eq_none (h : ¬ frame.HasRole) : Role.ofName? frame.name = none := by
  simpa [HasRole] using h

end Frames

/-! ## Erasing -/

namespace Event

/-- An event belongs to an element without a role: it opens one, or gets to one that is the
innermost open element. -/
def IsHidden : Event → List Frame → Prop
  | .opened name attributes, _ => ¬ Frame.HasRole ⟨name, attributes, false⟩
  | _, frames => ∃ frame ∈ frames.head?, ¬ frame.HasRole

instance (event : Event) (frames : List Frame) : Decidable (event.IsHidden frames) := by
  cases event <;> unfold IsHidden <;> infer_instance

variable {event : Event} {frames : List Frame}

/-- An event that belongs to an element without a role moves no element that shows. -/
theorem visible_frames_of_isHidden (h : event.IsHidden frames) :
    visible (event.frames frames) = visible frames := by
  cases event with
  | opened name attributes => exact visible_cons_of_not_hasRole h
  | text s =>
    obtain ⟨frame, hhead, hrole⟩ := h
    obtain ⟨rest, rfl⟩ := List.head?_eq_some_iff.1 hhead
    have hmarked : ¬ Frame.HasRole { frame with hadText := true } := hrole
    rw [Event.frames, visible_cons_of_not_hasRole hmarked, visible_cons_of_not_hasRole hrole]
  | closed name =>
    obtain ⟨frame, hhead, hrole⟩ := h
    obtain ⟨rest, rfl⟩ := List.head?_eq_some_iff.1 hhead
    rw [Event.frames, visible_cons_of_not_hasRole hrole]

/-- What it offers is offered to an element without a role. -/
theorem ofName?_of_isHidden (h : event.IsHidden frames) {offer : Offer}
    (hoffer : event.offer? frames = some offer) : Role.ofName? offer.owner.name = none := by
  obtain ⟨frame, hhead, howner⟩ := exists_frame_of_offer? hoffer
  rw [howner]
  cases event with
  | opened name attributes => cases hoffer
  | text s | closed name =>
    obtain ⟨innermost, hinnermost, hrole⟩ := h
    obtain rfl : frame = innermost := Option.some.inj (hhead.symm.trans hinnermost)
    exact Frame.ofName?_eq_none hrole

/-- Every other event does to the elements that show what it does to all. -/
theorem frames_visible (h : ¬ event.IsHidden frames) :
    event.frames (visible frames) = visible (event.frames frames) := by
  cases event with
  | opened name attributes => exact (visible_cons_of_hasRole (not_not.1 h)).symm
  | text s | closed name =>
    cases frames with
    | nil => rfl
    | cons frame rest =>
      have hrole : frame.HasRole := not_not.1 fun hnot => h ⟨frame, rfl, hnot⟩
      have hmarked : Frame.HasRole { frame with hadText := true } := hrole
      simp only [Event.frames, visible_cons_of_hasRole hrole, visible_cons_of_hasRole hmarked]

/-- An event that shows offers the same with only the visible elements open. -/
theorem offer?_visible (h : ¬ event.IsHidden frames) :
    event.offer? (visible frames) = event.offer? frames := by
  cases event with
  | opened name attributes => rfl
  | text s | closed name =>
    cases frames with
    | nil => rfl
    | cons frame rest =>
      have hrole : frame.HasRole := not_not.1 fun hnot => h ⟨frame, rfl, hnot⟩
      simp only [visible_cons_of_hasRole hrole, Event.offer?]

end Event

/-- The events that do not belong to elements without a role, given the open elements. -/
def erase : List Frame → List Event → List Event
  | _, [] => []
  | frames, event :: rest =>
    if event.IsHidden frames then erase (event.frames frames) rest
    else event :: erase (event.frames frames) rest

namespace Reader

variable {reader : Reader} {event : Event}

/-! ## One event -/

/-- An element without a role takes nothing and does nothing. -/
theorem accept_of_ofName?_eq_none {offer : Offer} (h : Role.ofName? offer.owner.name = none)
    (reader : Reader) : reader.accept offer = reader.still := by
  simp only [accept, Offer.take, h, still]

/-- What an offer comes to does not depend on the open elements. -/
theorem accept_visible (reader : Reader) (offer : Offer) :
    reader.visible.accept offer = (reader.accept offer).visible := by
  simp only [accept, Reader.visible]
  rcases offer.take reader.expected reader.document with ⟨result, log⟩
  cases result <;> rfl

/-- A reader without a fault leaves open what an event leaves open. -/
theorem frames_step (h : reader.fault = none) (event : Event) :
    (reader.step event).reader.frames = event.frames reader.frames := by
  rw [step_eq_accept h]
  cases event.offer? reader.frames with
  | none => rfl
  | some offer =>
    simp only [accept]
    rcases offer.take reader.expected reader.document with ⟨result, log⟩
    cases result <;> rfl

/-- An event that belongs to an element without a role does nothing that shows. -/
theorem step_of_isHidden (h : reader.fault = none) (hhidden : event.IsHidden reader.frames) :
    (reader.step event).visible = reader.visible.still := by
  have hmoved : (still { reader with frames := event.frames reader.frames }).visible =
      reader.visible.still := by
    simp only [still, Reaction.visible, Reader.visible, Event.visible_frames_of_isHidden hhidden]
  rw [step_eq_accept h]
  cases hoffer : event.offer? reader.frames with
  | none => exact hmoved
  | some offer =>
    simp only [accept_of_ofName?_eq_none (Event.ofName?_of_isHidden hhidden hoffer)]
    exact hmoved

/-- Every other event does the same where elements without a role do not show. -/
theorem step_visible (h : reader.fault = none) (hshown : ¬ event.IsHidden reader.frames) :
    reader.visible.step event = (reader.step event).visible := by
  have hfault : reader.visible.fault = none := h
  have hmoved : { reader.visible with frames := event.frames reader.visible.frames } =
      Reader.visible { reader with frames := event.frames reader.frames } := by
    simp only [Reader.visible, Event.frames_visible hshown]
  have hoffer : event.offer? reader.visible.frames = event.offer? reader.frames :=
    Event.offer?_visible hshown
  rw [step_eq_accept hfault, step_eq_accept h, hoffer, hmoved]
  cases event.offer? reader.frames with
  | none => rfl
  | some offer => exact accept_visible _ offer

/-! ## Runs -/

/-- Running the events that are left of a sequence comes to what the whole sequence comes to,
with the elements that have no role taken away. -/
theorem run_erase (reader : Reader) (events : List Event) :
    reader.visible.run (erase reader.frames events) = (reader.run events).visible := by
  induction events generalizing reader with
  | nil => rfl
  | cons event rest ih =>
    by_cases hfault : reader.fault = none
    · have hframes := frames_step hfault event
      rw [erase, run]
      by_cases hhidden : event.IsHidden reader.frames
      · have hstep := step_of_isHidden hfault hhidden
        rw [if_pos hhidden, ← hframes]
        rcases hreaction : reader.step event with ⟨next, log, escape⟩
        rw [hreaction, still] at hstep
        obtain ⟨hnext, rfl, rfl⟩ : next.visible = reader.visible ∧ log = [] ∧ escape = none := by
          simpa [Reaction.visible] using hstep
        rw [← hnext, ih next]
        rfl
      · have hstep := step_visible hfault hhidden
        rw [if_neg hhidden, run, hstep, ← hframes]
        rcases reader.step event with ⟨next, log, escape⟩
        cases escape with
        | some digits => rfl
        | none => simp only [Reaction.visible, ih next]
    · have hsome : reader.fault.isSome := Option.isSome_iff_ne_none.2 hfault
      have hvisible : reader.visible.fault.isSome := hsome
      rw [run_of_fault hsome, run_of_fault hvisible]
      rfl

/-! ## Events one by one -/

/-- The records of events that are delivered one by one.  An event at which a numeral is too
long does not keep the next one from being delivered. -/
def logEach (reader : Reader) : List Event → Log
  | [] => []
  | event :: rest => (reader.step event).log ++ (reader.step event).reader.logEach rest

theorem logEach_of_fault (h : reader.fault.isSome) (events : List Event) :
    reader.logEach events = [] := by
  induction events with
  | nil => rfl
  | cons event rest ih => simpa [logEach, step_of_fault h, still] using ih

theorem afterEach_of_fault (h : reader.fault.isSome) (events : List Event) :
    reader.afterEach events = reader := by
  induction events with
  | nil => rfl
  | cons event rest ih =>
    rw [afterEach, List.foldl_cons, step_of_fault h]
    exact ih

/-- Where only visible events are delivered, a reader with only visible elements comes to the
same. -/
theorem afterEach_erase (reader : Reader) (events : List Event) :
    reader.visible.afterEach (erase reader.frames events) = (reader.afterEach events).visible ∧
      reader.visible.logEach (erase reader.frames events) = reader.logEach events := by
  induction events generalizing reader with
  | nil => exact ⟨rfl, rfl⟩
  | cons event rest ih =>
    by_cases hfault : reader.fault = none
    · have hframes := frames_step hfault event
      obtain ⟨hreader, hlog⟩ := ih (reader.step event).reader
      rw [hframes] at hreader hlog
      rw [erase]
      by_cases hhidden : event.IsHidden reader.frames
      · have hstep := step_of_isHidden hfault hhidden
        have hnext : (reader.step event).reader.visible = reader.visible :=
          congrArg Reaction.reader hstep
        have hnothing : (reader.step event).log = [] := congrArg Reaction.log hstep
        rw [hnext] at hreader hlog
        rw [if_pos hhidden, hreader, hlog, logEach, hnothing]
        exact ⟨rfl, rfl⟩
      · have hstep := step_visible hfault hhidden
        rw [if_neg hhidden, logEach, hstep]
        refine ⟨?_, congrArg ((reader.step event).log ++ ·) hlog⟩
        rw [afterEach, List.foldl_cons, hstep]
        exact hreader
    · have hsome : reader.fault.isSome := Option.isSome_iff_ne_none.2 hfault
      have hvisible : reader.visible.fault.isSome := hsome
      rw [afterEach_of_fault hsome, afterEach_of_fault hvisible, logEach_of_fault hsome,
        logEach_of_fault hvisible]
      exact ⟨rfl, rfl⟩

/-- Erasing the elements without a role from any events, complete or not, changes nothing of what
a fresh reader comes to but that these elements are not open: the document, the fault, the
records, the numeral that was too long, and the frames of all other open elements are the same.
This holds for a run that such a numeral breaks off, and for events that are delivered one by
one in spite of it.  So whatever elements without a role are put in, renamed or taken away, as
long as the same events are left the same is read. -/
theorem erasure_does_not_show (expected : String) (events : List Event) :
    (start expected).run (erase [] events) = ((start expected).run events).visible ∧
      (start expected).afterEach (erase [] events) =
        ((start expected).afterEach events).visible ∧
      (start expected).logEach (erase [] events) = (start expected).logEach events ∧
      ∀ other, erase [] other = erase [] events →
        ((start expected).run other).visible = ((start expected).run events).visible := by
  have hrun : ∀ list, (start expected).run (erase [] list) =
      ((start expected).run list).visible := fun list => run_erase (start expected) list
  obtain ⟨hreader, hlog⟩ := afterEach_erase (start expected) events
  refine ⟨hrun events, hreader, hlog, ?_⟩
  intro other hsame
  rw [← hrun, ← hrun, hsame]

end Reader

end Metalink
