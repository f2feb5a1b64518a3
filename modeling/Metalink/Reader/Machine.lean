import Metalink.Event
import Metalink.Reader.Element

/-!
# Reading events

A document arrives as a sequence of events: elements are opened and closed, and text
stands in the innermost open one.  Text is taken as soon as it arrives; an element
that had no text of its own is taken with empty text when it is closed.

Main statements: after the first fault nothing changes any more, and the event at
fault itself changes nothing but the fault.
-/

namespace Metalink

/-! ## States -/

/-- An open element: its name, its attributes as a flat list, and whether text of its own has
arrived. -/
structure Frame where
  name : String
  attributes : List String
  hadText : Bool
deriving DecidableEq, Repr

/-- How far a document has been read: the name of the file that it must describe, what has been
read, the open elements with the innermost one first, and the first fault. -/
structure Reader where
  expected : String
  document : Document
  frames : List Frame
  fault : Option ContentFault
deriving DecidableEq, Repr

/-- What became of an event: how far the document has now been read, what was noted, and the
failure that escaped, if one did. -/
structure Reaction where
  reader : Reader
  log : Log
  escape : Option Escape
deriving DecidableEq, Repr

namespace Reader

/-- Nothing has been read. -/
def start (expected : String) : Reader := ⟨expected, .empty, [], none⟩

/-- The name of the innermost open element. -/
def current? (reader : Reader) : Option String :=
  reader.frames.head?.map Frame.name

/-- Nothing happens. -/
def still (reader : Reader) : Reaction := ⟨reader, [], none⟩

/-- The report of a fault. -/
def faultRecord (frame : Frame) (fault : ContentFault) : Log :=
  .error ("Metalink parser error in <" ++ frame.name ++ ">: " ++ fault.message)

/-- Take a run of text in an element.  Elements without a role take none. -/
def dispatch (reader : Reader) (frame : Frame) (text : CodeText) : Reaction :=
  match Role.ofName? frame.name with
  | none => reader.still
  | some role =>
    match role.take reader.expected frame.attributes text reader.document with
    | (.ok document, log) => ⟨{ reader with document }, log, none⟩
    | (.error (.fault fault), log) =>
      ⟨{ reader with fault := some fault }, log ++ faultRecord frame fault, none⟩
    | (.error (.escape escape), log) => ⟨reader, log, some escape⟩

/-- React to one event. -/
def step (reader : Reader) (event : Event) : Reaction :=
  if reader.fault.isSome then reader.still
  else
    match event, reader.frames with
    | .opened name attributes, frames =>
      { reader with frames := ⟨name, attributes, false⟩ :: frames }.still
    | .text _, [] => reader.still
    | .text text, frame :: frames =>
      { reader with frames := { frame with hadText := true } :: frames }.dispatch frame text
    | .closed _, [] => reader.still
    | .closed _, frame :: frames =>
      let reader := { reader with frames }
      if frame.hadText then reader.still else reader.dispatch frame ("" : String)

/-- React to events in turn, up to a failure that escapes. -/
def run (reader : Reader) : List Event → Reaction
  | [] => reader.still
  | event :: rest =>
    match reader.step event with
    | ⟨next, log, some escape⟩ => ⟨next, log, some escape⟩
    | ⟨next, log, none⟩ =>
      match next.run rest with
      | ⟨last, logs, escape⟩ => ⟨last, log ++ logs, escape⟩

/-! ## Runs -/

/-- After a fault an event changes nothing. -/
theorem step_of_fault {reader : Reader} (h : reader.fault.isSome) (event : Event) :
    reader.step event = reader.still := by
  simp [step, h]

/-- After a fault no events change anything. -/
theorem run_of_fault {reader : Reader} (h : reader.fault.isSome) (events : List Event) :
    reader.run events = reader.still := by
  induction events with
  | nil => rfl
  | cons event rest ih => simp [run, step_of_fault h, still, ih]

end Reader

end Metalink
