import Mathlib.Tactic.Common
import Metalink.Proofs.Reader.Latch
import Metalink.Proofs.Reader.Lookup
import Metalink.Proofs.Reader.Escape

/-!
# What interrupts a reader

A reader reacts to every event, in whatever order events come: nothing need be open for a text or an
end tag, tags need not match, and a list of attributes may end with a name that no value follows.
Only a text interrupts it: one that is, or comes with, a numeral that is too long, and one with a
surrogate that stands in a url, or in a hash with a type.  This module says at which events that
happens, and that the reader is then left as it was, but for the mark that the innermost element had
text.

Main results:

- `escape_step_eq_some_iff`: an event interrupts a reader exactly if its offer escapes.
- `step_of_escapes`: what is left of a reader that is interrupted.
- `dispatch_congr`: a reader sees of attributes only what is found by name, so that a name without
  a value does not show.
- `interrupted_only_by_texts`: what can happen to a reader at any event.
- `surrogate_interrupts`: an address interrupts a reader without any numeral.
-/

namespace Metalink

open Metalink.Text

/-- A text is a numeral of so many digits, which are more than are evaluated. -/
def Text.WritesOverlong (digits : Nat) (text : String) : Prop :=
  maxDigits < digits ∧ ∃ numeral : Numeral,
    numeral.IsSpelledBy text.toList ∧ numeral.digits.length = digits

/-- The failures with which a text breaks off an element that it stands in: the text of a size is
too long a numeral, or the preference of a url is one, with an address that is not too short; the
address of a url cannot be encoded; or the text of a hash with a type is refused for a surrogate. -/
inductive Frame.Breaks (frame : Frame) : CodeText → Escape → Prop where
  | size {text : String} {digits : Nat} (hname : frame.name = "size")
      (hlong : WritesOverlong digits (trim text)) : Breaks frame text (.tooManyDigits digits)
  | preference {text raw : String} {digits : Nat} (hname : frame.name = "url")
      (htext : 4 < (trim text).utf8ByteSize)
      (hraw : findAttribute "preference" frame.attributes = some raw)
      (hlong : WritesOverlong digits (trim raw)) : Breaks frame text (.tooManyDigits digits)
  | address {text : CodeText} {fault : Unencodable} (hname : frame.name = "url")
      (hfault : text.trim.encode = .error fault) : Breaks frame text (.unencodable fault)
  | hash {text : CodeText} {type : String} (hname : frame.name = "hash")
      (htype : findAttribute "type" frame.attributes = some type)
      (hnone : text.string? = none) : Breaks frame text (.refused [⟨["value"], .stringUnicode⟩])

/-! ## Attributes -/

/-- A reader sees of the attributes of an element only what is found by name. -/
theorem Reader.dispatch_congr {attributes other : List String}
    (h : ∀ name, findAttribute name attributes = findAttribute name other) (reader : Reader)
    (name : String) (text : CodeText) (hadText : Bool) :
    reader.dispatch ⟨name, attributes, hadText⟩ text =
      reader.dispatch ⟨name, other, hadText⟩ text := by
  simp only [dispatch, Role.take_congr fun name _ => h name, faultRecord]

/-! ## Offers that interrupt -/

namespace Offer

variable {escape : Escape}

/-- No numeral is expected in an empty text. -/
theorem not_isOverlong_empty (owner : Owner) (digits : Nat) :
    ¬ (ofString owner "").IsOverlong digits := by
  have hread : readInteger (trim "") = .notNumeral := by decide
  have hshort : IsShort "" := by decide
  rw [isOverlong_iff]
  rintro ⟨text, htext, hlong⟩
  unfold numeral? at htext
  split at htext
  · obtain rfl : "" = text := by simpa using htext
    rw [hread] at hlong
    cases hlong
  · simp [hshort] at htext

/-- What an end tag offers is the empty text, if anything, and that breaks nothing off. -/
theorem not_escapes_of_closed {name : String} {frames : List Frame} {offer : Offer}
    (h : (Event.closed name).offer? frames = some offer) : ¬ offer.Escapes escape := by
  cases frames with
  | nil => cases h
  | cons frame rest =>
    rw [Event.offer?] at h
    split at h
    · cases h
    · obtain rfl := Option.some.inj h
      rw [escapes_ofString_iff]
      rintro ⟨digits, hlong, -⟩
      exact not_isOverlong_empty _ digits hlong

/-- The texts of characters that are overlong in an element. -/
theorem isOverlong_text_iff (owner : Owner) (text : String) (digits : Nat) :
    (ofString owner text).IsOverlong digits ↔
      owner.name = "size" ∧ WritesOverlong digits (trim text) ∨
        owner.name = "url" ∧ 4 < (trim text).utf8ByteSize ∧
          ∃ raw, findAttribute "preference" owner.attributes = some raw ∧
            WritesOverlong digits (trim raw) := by
  have hshort : 4 < (trim text).utf8ByteSize ↔ ¬ IsShort text := Nat.not_le.symm
  simp only [isOverlong_iff, WritesOverlong, ← readInteger_eq_tooLong_iff, hshort, numeral?,
    CodeText.string?_ofString, Option.bind_some]
  by_cases hsize : owner.name = "size"
  · simp [hsize]
  · by_cases hurl : owner.name = "url"
    · by_cases htext : IsShort text <;> simp [hurl, htext]
    · simp [hsize, hurl]

/-- What an element is offered escapes exactly if it breaks off the element. -/
theorem escapes_iff_breaks (frame : Frame) (text : CodeText) :
    (⟨frame.owner, text⟩ : Offer).Escapes escape ↔ frame.Breaks text escape := by
  constructor
  · intro h
    cases h with
    | numeral hlong =>
      rcases text.eq_ofString_or_string?_eq_none with ⟨s, rfl⟩ | hnone
      · rcases (isOverlong_text_iff _ _ _).1 hlong with ⟨hname, h⟩ | ⟨hname, htext, raw, hraw, h⟩
        · exact .size hname h
        · exact .preference hname htext hraw h
      · exact absurd hlong (not_isOverlong_of_string?_eq_none hnone _)
    | address hname hfault => exact .address hname hfault
    | hash hname htype hnone =>
      obtain ⟨type, htype⟩ := Option.isSome_iff_exists.1 htype
      exact .hash hname htype hnone
  · intro h
    cases h with
    | size hname hlong =>
      exact .numeral ((isOverlong_text_iff _ _ _).2 (.inl ⟨hname, hlong⟩))
    | preference hname htext hraw hlong =>
      exact .numeral ((isOverlong_text_iff _ _ _).2 (.inr ⟨hname, htext, _, hraw, hlong⟩))
    | address hname hfault => exact .address hname hfault
    | hash hname htype hnone =>
      exact .hash hname (Option.isSome_iff_exists.2 ⟨_, htype⟩) hnone

end Offer

/-! ## Interruptions -/

namespace Reader

variable {reader : Reader} {event : Event} {escape : Escape}

/-- A reader that is interrupted is the same but for its open elements. -/
theorem step_of_escapes {offer : Offer} (hnone : reader.fault = none)
    (hoffer : event.offer? reader.frames = some offer) (hescapes : offer.Escapes escape) :
    reader.step event =
      ⟨{ reader with frames := event.frames reader.frames },
        (Trouble.escape escape).note offer.owner.attributes, some escape⟩ := by
  have hresult : (offer.take reader.expected reader.document).1 = .error (.escape escape) :=
    Offer.take_eq_escape_iff.2 hescapes
  have htake := Offer.take_of_error hresult reader.document
  rw [step_eq_accept hnone, hoffer]
  simp only [accept, htake, Offer.report, Trouble.fault?, Trouble.escape?, List.append_nil, hnone]

/-- An event interrupts a reader exactly if no fault was found before and what it offers
escapes. -/
theorem escape_step_eq_some_iff :
    (reader.step event).escape = some escape ↔
      reader.fault = none ∧ ∃ offer, event.offer? reader.frames = some offer ∧
        offer.Escapes escape := by
  constructor
  · intro hescape
    have hnone : reader.fault = none := by
      by_contra hfault
      rw [step_of_fault (Option.isSome_iff_ne_none.2 hfault)] at hescape
      cases hescape
    rw [step_eq_accept hnone] at hescape
    cases hoffer : event.offer? reader.frames with
    | none =>
      rw [hoffer] at hescape
      cases hescape
    | some offer =>
      simp only [hoffer, accept] at hescape
      refine ⟨hnone, offer, rfl, ?_⟩
      suffices hresult : (offer.take reader.expected reader.document).1 =
          .error (.escape escape) from Offer.take_eq_escape_iff.1 hresult
      rcases htake : offer.take reader.expected reader.document with ⟨result, log⟩
      rw [htake] at hescape
      cases result with
      | ok document => cases hescape
      | error trouble =>
        cases trouble with
        | fault fault => cases hescape
        | escape found =>
          cases hescape
          rfl
  · rintro ⟨hnone, offer, hoffer, hescapes⟩
    rw [step_of_escapes hnone hoffer hescapes]

/-- Nothing but a text interrupts a reader, and then only in an element that it breaks off. -/
theorem exists_breaks_of_escape (h : (reader.step event).escape = some escape) :
    ∃ text, event = .text text ∧ ∃ frame ∈ reader.frames.head?, frame.Breaks text escape ∧
      reader.step event = ⟨{ reader with frames := event.frames reader.frames },
        (Trouble.escape escape).note frame.attributes, some escape⟩ := by
  obtain ⟨hnone, offer, hoffer, hescapes⟩ := escape_step_eq_some_iff.1 h
  have hstep := step_of_escapes hnone hoffer hescapes
  cases event with
  | opened name attributes => cases hoffer
  | closed name => exact absurd hescapes (Offer.not_escapes_of_closed hoffer)
  | text text =>
    refine ⟨text, rfl, ?_⟩
    cases hframes : reader.frames with
    | nil =>
      rw [hframes] at hoffer
      cases hoffer
    | cons frame rest =>
      rw [hframes] at hoffer
      obtain rfl := Option.some.inj hoffer
      exact ⟨frame, rfl, (Offer.escapes_iff_breaks frame text).1 hescapes, hframes ▸ hstep⟩

/-- The open elements stay the same when text arrives, but for the mark that there was some. -/
theorem owners_frames_text (text : CodeText) (frames : List Frame) :
    ((Event.text text).frames frames).map Frame.owner = frames.map Frame.owner := by
  cases frames <;> rfl

/-- What can happen to a reader at an event.  Neither opening an element nor closing one ever
interrupts it, and a text does exactly if there was no fault before and the text breaks off the
innermost element.  Then everything is as before but for the mark that this element had text, and
nothing is noted, except that a refused hash may have a type to note.  With nothing open, texts and
end tags do nothing at all; and a name without a value at the end of the attributes makes no
difference to any text. -/
structure InterruptedByTextsOnly (reader : Reader) : Prop where
  opened : ∀ name attributes, (reader.step (.opened name attributes)).escape = none
  closed : ∀ name, (reader.step (.closed name)).escape = none
  text : ∀ text escape, (reader.step (.text text)).escape = some escape ↔
    reader.fault = none ∧ ∃ frame ∈ reader.frames.head?, frame.Breaks text escape
  kept : ∀ event escape, (reader.step event).escape = some escape →
    (reader.step event).reader.document = reader.document ∧
      (reader.step event).reader.fault = reader.fault ∧
      (reader.step event).reader.expected = reader.expected ∧
      (reader.step event).reader.frames.map Frame.owner = reader.frames.map Frame.owner
  silent : ∀ event escape, (reader.step event).escape = some escape →
    (∀ violations, escape ≠ .refused violations) → (reader.step event).log = []
  noted : ∀ event violations, (reader.step event).escape = some (.refused violations) →
    ∃ frame ∈ reader.frames.head?, frame.name = "hash" ∧ ∃ type,
      findAttribute "type" frame.attributes = some type ∧
        (reader.step event).log = noteHashType type
  idle : reader.frames = [] → ∀ text name,
    reader.step (.text text) = reader.still ∧ reader.step (.closed name) = reader.still
  unpaired : ∀ name attributes key hadText text, attributes.length % 2 = 0 →
    reader.dispatch ⟨name, attributes ++ [key], hadText⟩ text =
      reader.dispatch ⟨name, attributes, hadText⟩ text

/-- Whatever a reader has read and whatever is open, only texts that break off the innermost
element interrupt it, and it is then as it was before. -/
theorem interrupted_only_by_texts (reader : Reader) : reader.InterruptedByTextsOnly where
  opened name attributes := by
    rw [Option.eq_none_iff_forall_ne_some]
    intro escape hescape
    obtain ⟨text, htext, -⟩ := exists_breaks_of_escape hescape
    cases htext
  closed name := by
    rw [Option.eq_none_iff_forall_ne_some]
    intro escape hescape
    obtain ⟨text, htext, -⟩ := exists_breaks_of_escape hescape
    cases htext
  text text escape := by
    rw [escape_step_eq_some_iff]
    refine and_congr_right fun _ => ?_
    cases reader.frames with
    | nil => simp [Event.offer?]
    | cons frame rest =>
      simp only [Event.offer?, Option.some.injEq, exists_eq_left', List.head?_cons,
        Option.mem_some_iff, Offer.escapes_iff_breaks]
  kept event escape hescape := by
    obtain ⟨text, rfl, frame, -, -, hstep⟩ := exists_breaks_of_escape hescape
    rw [hstep]
    exact ⟨rfl, rfl, rfl, owners_frames_text text reader.frames⟩
  silent event escape hescape hother := by
    obtain ⟨text, -, frame, -, -, hstep⟩ := exists_breaks_of_escape hescape
    rw [hstep]
    cases escape with
    | refused violations => exact absurd rfl (hother violations)
    | _ => rfl
  noted event violations hescape := by
    obtain ⟨text, -, frame, hframe, hbreaks, hstep⟩ := exists_breaks_of_escape hescape
    cases hbreaks with
    | hash hname htype hnone =>
      refine ⟨frame, hframe, hname, _, htype, ?_⟩
      rw [hstep]
      simp [Trouble.note, htype]
  idle hframes text name := by
    unfold step
    rw [hframes]
    split <;> exact ⟨rfl, rfl⟩
  unpaired name attributes key hadText text heven :=
    dispatch_congr (fun name => findAttribute_append_singleton heven name key) reader _ _ _

/-- An address with a surrogate interrupts a reader, although no numeral is anywhere: the open
element is no size and has no preference. -/
theorem surrogate_interrupts :
    let reader := (start "f.rpm").afterEach [.opened "url" []]
    reader.frames.head? = some ⟨"url", [], false⟩ ∧
      findAttribute "preference" [] = none ∧
      (reader.step (.text ⟨[.surrogate 0]⟩)).escape = some (.unencodable ⟨0, 0, 1⟩) := by
  decide

end Reader

end Metalink
