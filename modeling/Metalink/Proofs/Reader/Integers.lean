import Mathlib.Tactic.Common
import Metalink.Proofs.Reader.Validity
import Metalink.Proofs.Text.PlaceValue

/-!
# Sizes and preferences

Two elements have integers: the text of a size is one, and the preference of a url.  Where the text
does not have more digits than are evaluated, it falls in exactly one case, and the reaction of the
reader says in which: an integer is taken as what is written in base ten, and what is none is
refused.

Main results:

- `sizeIsRead`: the three cases of the text of a size.
- `preferenceIsRead`: the three cases of the preference of a url.
- `integers_are_read_exactly`: both, and what follows for the decimal texts of integers.
-/

namespace Metalink

open Metalink.Text

/-! ## Sizes and urls -/

section Take

variable {text raw : String} {attributes : List String} {n : Int}

/-- Nothing is written in white space. -/
theorem Text.not_writes_of_allBlank (h : AllBlank text) (n : Int) : ¬ Writes (trim text) n := by
  rintro ⟨numeral, hspelled, -⟩
  rw [(trim_eq_empty_iff text).2 h] at hspelled
  exact hspelled.ne_nil rfl

/-- The text of a size falls in one of three cases. -/
theorem size_cases (text : String) :
    AllBlank text ∨ (∃ n, Writes (trim text) n) ∨
      ¬ AllBlank text ∧ ∀ n, ¬ Writes (trim text) n := by
  rw [← not_exists]
  tauto

/-- White space is no size. -/
theorem takeSize_of_allBlank (h : AllBlank text) (doc : Document) :
    takeSize text doc = Taken.atFault .missingSize := by
  rw [takeSize_ofString, takeNumeral, if_pos ((trim_eq_empty_iff text).2 h)]

/-- The integer that is written in base ten is the size, whatever sign and zeros it has. -/
theorem takeSize_of_writes (hcount : digitCount text ≤ maxDigits) (h : Writes (trim text) n)
    (doc : Document) : takeSize text doc = (.ok { doc with size := some n }, []) := by
  have hdenotes := (denotes_iff_writes ((digitCount_trim_le text).trans hcount)).2 h
  exact takeSize_of_denotes hdenotes doc

/-- A text that is not blank and writes no integer is a bad size. -/
theorem takeSize_of_not_writes (hblank : ¬ AllBlank text) (h : ∀ n, ¬ Writes (trim text) n)
    (doc : Document) : takeSize text doc = Taken.atFault (.badSize (trim text)) := by
  have hread := readInteger_eq_notNumeral_iff_not_writes.2 h
  rw [takeSize_ofString, takeNumeral, if_neg (mt (trim_eq_empty_iff text).1 hblank), hread]

/-- The mirror that a url element gives. -/
def mirrorOf (attributes : List String) (text : String) (preference : Int) : Mirror :=
  ⟨trim text, findAttribute "protocol" attributes, findAttribute "type" attributes,
    findAttribute "location" attributes, preference⟩

theorem mirrorOf_inj {m : Int} : mirrorOf attributes text n = mirrorOf attributes text m ↔ n = m :=
  ⟨congrArg Mirror.preference, congrArg _⟩

section Preference

variable (hlong : Mirror.minUrlBytes < (trim text).utf8ByteSize)
  (hraw : findAttribute "preference" attributes = some raw)

include hraw

/-- The integer that is written in base ten is the preference, if it is in range. -/
theorem readPreference_of_writes (hcount : digitCount raw ≤ maxDigits) (h : Writes (trim raw) n) :
    readPreference attributes =
      if 0 ≤ n ∧ n ≤ 100 then .ok n else .error (.fault (.preferenceOutOfRange n)) := by
  have hread := (readInteger_eq_value_iff_writes ((digitCount_trim_le raw).trans hcount)).2 h
  simp only [readPreference, hraw, hread]
  rfl

include hlong

/-- With a preference in range, an address that is not too short gives a mirror. -/
theorem takeUrl_of_mem_range (hcount : digitCount raw ≤ maxDigits) (h : Writes (trim raw) n)
    (hrange : 0 ≤ n ∧ n ≤ 100) (doc : Document) :
    takeUrl attributes text doc =
      (.ok { doc with mirrors := doc.mirrors ++ [mirrorOf attributes text n] }, []) := by
  rw [takeUrl_ofString]
  simp only [takeAddress, Nat.not_le.2 hlong, if_false, readPreference_of_writes hraw hcount h,
    if_pos hrange, mirrorOf]

/-- Of a preference out of range the integer is reported. -/
theorem takeUrl_of_out_of_range (hcount : digitCount raw ≤ maxDigits) (h : Writes (trim raw) n)
    (hrange : ¬ (0 ≤ n ∧ n ≤ 100)) (doc : Document) :
    takeUrl attributes text doc = Taken.atFault (.preferenceOutOfRange n) := by
  rw [takeUrl_ofString]
  simp only [takeAddress, Nat.not_le.2 hlong, if_false, readPreference_of_writes hraw hcount h,
    if_neg hrange, Taken.atFault]

/-- A preference that writes no integer is bad. -/
theorem takeUrl_of_not_writes (h : ∀ n, ¬ Writes (trim raw) n) (doc : Document) :
    takeUrl attributes text doc = Taken.atFault (.badPreference raw) := by
  have hread := readInteger_eq_notNumeral_iff_not_writes.2 h
  rw [takeUrl_ofString]
  simp only [takeAddress, Nat.not_le.2 hlong, if_false, readPreference, hraw, hread, Taken.atFault]

end Preference

end Take

namespace Reader

/-! ## Reactions to a text -/

/-- The reaction to a text that is taken: the document is now this one, and nothing is noted. -/
def taking (reader : Reader) (text : CodeText) (document : Document) : Reaction :=
  ⟨{ reader with frames := (Event.text text).frames reader.frames, document }, [], none⟩

/-- The reaction to a text that is refused: the fault is reported and stays, and the document is as
it was. -/
def refusing (reader : Reader) (frame : Frame) (text : CodeText) (fault : ContentFault) :
    Reaction :=
  ⟨{ reader with frames := (Event.text text).frames reader.frames, fault := some fault },
    faultRecord frame fault, none⟩

variable {reader : Reader} {frame : Frame} {text : CodeText}

@[simp]
theorem taking_inj {document other : Document} :
    reader.taking text document = reader.taking text other ↔ document = other := by
  simp [taking]

@[simp]
theorem refusing_inj {fault other : ContentFault} :
    reader.refusing frame text fault = reader.refusing frame text other ↔ fault = other := by
  constructor
  · intro heq
    exact Option.some.inj (congrArg (·.reader.fault) heq)
  · exact congrArg _

section Step

variable (hnone : reader.fault = none) (hopen : reader.frames.head? = some frame)

include hnone

/-- No text is both taken and refused. -/
theorem taking_ne_refusing (document : Document) (fault : ContentFault) :
    reader.taking text document ≠ reader.refusing frame text fault := by
  intro heq
  have hfault : reader.fault = some fault := congrArg (·.reader.fault) heq
  rw [hnone] at hfault
  cases hfault

include hopen

/-- A text in an open element is offered to the innermost one. -/
theorem step_text (text : CodeText) :
    reader.step (.text text) =
      { reader with frames := (Event.text text).frames reader.frames }.accept
        ⟨frame.owner, text⟩ := by
  have hoffer : (Event.text text).offer? reader.frames = some ⟨frame.owner, text⟩ := by
    cases hframes : reader.frames with
    | nil => simp [hframes] at hopen
    | cons first rest =>
      rw [hframes, List.head?_cons, Option.some.injEq] at hopen
      rw [hopen]
      rfl
  rw [step_eq_accept hnone, hoffer]

/-- A text that is taken leaves its document behind. -/
theorem step_text_of_ok {document : Document}
    (htake : Offer.take reader.expected ⟨frame.owner, text⟩ reader.document =
      (.ok document, [])) :
    reader.step (.text text) = reader.taking text document := by
  rw [step_text hnone hopen, accept, htake]
  rfl

/-- A text that is refused leaves the fault behind. -/
theorem step_text_of_atFault {fault : ContentFault}
    (htake : Offer.take reader.expected ⟨frame.owner, text⟩ reader.document = Taken.atFault fault) :
    reader.step (.text text) = reader.refusing frame text fault := by
  rw [step_text hnone hopen, accept, htake]
  rfl

end Step

/-! ## The text of a size -/

/-- A text that is offered to a size element is taken as a size. -/
theorem offer_take_size (hname : frame.name = "size") (text : CodeText) :
    Offer.take reader.expected ⟨frame.owner, text⟩ reader.document =
      takeSize text reader.document := by
  simp [Offer.take, Frame.owner, hname, Role.ofName?, Role.take]

/-- What a text in a size element comes to: it is missing where there is nothing but white space,
it is the integer that is written in base ten, of any magnitude and sign, and it is bad in every
other case.  No integer is written where there is nothing but white space. -/
structure SizeIsRead (reader : Reader) (frame : Frame) (text : String) : Prop where
  missing : reader.step (.text text) = reader.refusing frame text .missingSize ↔ AllBlank text
  taken : ∀ n, reader.step (.text text) =
    reader.taking text { reader.document with size := some n } ↔ Writes (trim text) n
  bad : reader.step (.text text) = reader.refusing frame text (.badSize (trim text)) ↔
    ¬ AllBlank text ∧ ∀ n, ¬ Writes (trim text) n
  apart : AllBlank text → ∀ n, ¬ Writes (trim text) n

/-- Every text of characters falls in one of the three cases. -/
theorem sizeIsRead {text : String} (hnone : reader.fault = none)
    (hopen : reader.frames.head? = some frame) (hname : frame.name = "size")
    (hcount : digitCount text ≤ maxDigits) : reader.SizeIsRead frame text := by
  have htake : Offer.take reader.expected ⟨frame.owner, text⟩ reader.document =
      takeSize text reader.document := offer_take_size hname text
  have hne : ∀ document fault,
      reader.taking text document ≠ reader.refusing frame text fault := taking_ne_refusing hnone
  have hapart : AllBlank text → ∀ n, ¬ Writes (trim text) n := not_writes_of_allBlank
  rcases size_cases text with hblank | ⟨n, hwrites⟩ | ⟨hblank, hnot⟩
  · have hstep := step_text_of_atFault hnone hopen (htake.trans (takeSize_of_allBlank hblank _))
    refine ⟨?_, fun m => ?_, ?_, hapart⟩ <;> simp [hstep, hblank, hapart hblank, (hne _ _).symm]
  · have hstep := step_text_of_ok hnone hopen (htake.trans (takeSize_of_writes hcount hwrites _))
    have hblank : ¬ AllBlank text := fun hblank => hapart hblank n hwrites
    have hsome : ∃ m, Writes (trim text) m := ⟨n, hwrites⟩
    refine ⟨?_, fun m => ?_, ?_, hapart⟩ <;>
      simp [hstep, hblank, hsome, hne, hwrites.eq_iff]
  · have hstep :=
      step_text_of_atFault hnone hopen (htake.trans (takeSize_of_not_writes hblank hnot _))
    refine ⟨?_, fun m => ?_, ?_, hapart⟩ <;> simp [hstep, hblank, hnot, (hne _ _).symm]

/-! ## The preference of a url -/

/-- What the preference of a url element comes to when a text arrives in it: it is the integer
that is written in base ten, if this is in range; out of range the integer itself is reported;
and it is bad in every other case, of which nothing but white space is one. -/
structure PreferenceIsRead (reader : Reader) (frame : Frame) (text raw : String) : Prop where
  taken : ∀ n, reader.step (.text text) =
    reader.taking text { reader.document with
      mirrors := reader.document.mirrors ++ [mirrorOf frame.attributes text n] } ↔
    Writes (trim raw) n ∧ 0 ≤ n ∧ n ≤ 100
  outOfRange : ∀ n,
    reader.step (.text text) = reader.refusing frame text (.preferenceOutOfRange n) ↔
      Writes (trim raw) n ∧ ¬ (0 ≤ n ∧ n ≤ 100)
  bad : reader.step (.text text) = reader.refusing frame text (.badPreference raw) ↔
    ∀ n, ¬ Writes (trim raw) n
  blank : AllBlank raw → ∀ n, ¬ Writes (trim raw) n

/-- Every preference falls in one of the three cases. -/
theorem preferenceIsRead {text raw : String} (hnone : reader.fault = none)
    (hopen : reader.frames.head? = some frame) (hname : frame.name = "url")
    (hlong : 4 < (trim text).utf8ByteSize)
    (hraw : findAttribute "preference" frame.attributes = some raw)
    (hcount : digitCount raw ≤ maxDigits) : reader.PreferenceIsRead frame text raw := by
  have htake : Offer.take reader.expected ⟨frame.owner, text⟩ reader.document =
      takeUrl frame.attributes text reader.document := by
    simp [Offer.take, Frame.owner, hname, Role.ofName?, Role.take]
  have hne : ∀ document fault,
      reader.taking text document ≠ reader.refusing frame text fault := taking_ne_refusing hnone
  have hblank : AllBlank raw → ∀ n, ¬ Writes (trim raw) n := not_writes_of_allBlank
  by_cases hwritten : ∃ n, Writes (trim raw) n
  · obtain ⟨n, hwrites⟩ := hwritten
    by_cases hrange : 0 ≤ n ∧ n ≤ 100
    · have hstep := step_text_of_ok hnone hopen
        (htake.trans (takeUrl_of_mem_range hlong hraw hcount hwrites hrange _))
      refine ⟨fun m => ?_, fun m => ?_, ?_, hblank⟩ <;> rw [hstep]
      · rw [← hwrites.eq_iff]
        simp only [taking_inj, Document.mk.injEq, List.append_cancel_left_eq, List.cons.injEq,
          mirrorOf_inj, true_and, and_true]
        exact iff_self_and.2 fun heq => heq ▸ hrange
      · rw [← hwrites.eq_iff]
        refine iff_of_false (hne _ _) ?_
        rintro ⟨rfl, hout⟩
        exact hout hrange
      · exact iff_of_false (hne _ _) fun hnot => hnot n hwrites
    · have hstep := step_text_of_atFault hnone hopen
        (htake.trans (takeUrl_of_out_of_range hlong hraw hcount hwrites hrange _))
      refine ⟨fun m => ?_, fun m => ?_, ?_, hblank⟩ <;> rw [hstep]
      · rw [← hwrites.eq_iff]
        refine iff_of_false (hne _ _).symm ?_
        rintro ⟨rfl, hin⟩
        exact hrange hin
      · rw [← hwrites.eq_iff, refusing_inj, ContentFault.preferenceOutOfRange.injEq]
        exact iff_self_and.2 fun heq => heq ▸ hrange
      · rw [refusing_inj]
        exact iff_of_false ContentFault.noConfusion fun hnot => hnot n hwrites
  · have hnot : ∀ n, ¬ Writes (trim raw) n := not_exists.1 hwritten
    have hstep :=
      step_text_of_atFault hnone hopen (htake.trans (takeUrl_of_not_writes hlong hraw hnot _))
    refine ⟨fun m => ?_, fun m => ?_, ?_, hblank⟩ <;> simp [hstep, hnot, (hne _ _).symm]

/-! ## Integers -/

/-- What an element with an integer comes to when a text arrives in it.  The text of a size falls
in one of its three cases, and is bad if it is none of characters; so does the preference of a
url with an address that is not too short.  The decimal text of an integer is taken as this size,
whatever white space is around it and whatever zeros are before its digits, and in the same way
as this preference, unless it is out of range. -/
structure ReadsIntegersExactly (reader : Reader) (frame : Frame) : Prop where
  size : ∀ text, frame.name = "size" → digitCount text ≤ maxDigits →
    reader.SizeIsRead frame text
  surrogates : ∀ text : CodeText, frame.name = "size" → text.string? = none →
    reader.step (.text text) = reader.refusing frame text (.badSize text.trim)
  preference : ∀ text raw, frame.name = "url" → 4 < (trim text).utf8ByteSize →
    findAttribute "preference" frame.attributes = some raw → digitCount raw ≤ maxDigits →
      reader.PreferenceIsRead frame text raw
  decimalSize : ∀ before zeros n after, frame.name = "size" → AllBlank before → AllBlank after →
    zeros + (toString n.natAbs).length ≤ maxDigits →
      reader.step (.text (padded before zeros n after)) =
        reader.taking (padded before zeros n after) { reader.document with size := some n }
  decimalPreference : ∀ text before zeros n after, frame.name = "url" →
    4 < (trim text).utf8ByteSize →
    findAttribute "preference" frame.attributes = some (padded before zeros n after) →
    AllBlank before → AllBlank after → zeros + (toString n.natAbs).length ≤ maxDigits →
      reader.step (.text text) =
        if 0 ≤ n ∧ n ≤ 100 then
          reader.taking text { reader.document with
            mirrors := reader.document.mirrors ++ [mirrorOf frame.attributes text n] }
        else reader.refusing frame text (.preferenceOutOfRange n)

/-- Sizes and preferences are the integers that are written, and no text falls in two cases. -/
theorem integers_are_read_exactly (hnone : reader.fault = none)
    (hopen : reader.frames.head? = some frame) : reader.ReadsIntegersExactly frame where
  size text hname hcount := sizeIsRead hnone hopen hname hcount
  surrogates text hname htext := by
    have htake : Offer.take reader.expected ⟨frame.owner, text⟩ reader.document =
        takeSize text reader.document := offer_take_size hname text
    exact step_text_of_atFault hnone hopen
      (htake.trans (takeSize_of_string?_eq_none htext reader.document))
  preference text raw hname hlong hraw hcount :=
    preferenceIsRead hnone hopen hname hlong hraw hcount
  decimalSize before zeros n after hname hbefore hafter hlimit := by
    have hcount := (digitCount_padded hbefore hafter zeros n).trans_le hlimit
    exact ((sizeIsRead hnone hopen hname hcount).taken n).2
      (writes_trim_padded hbefore hafter zeros n)
  decimalPreference text before zeros n after hname hlong hraw hbefore hafter hlimit := by
    have hcount := (digitCount_padded hbefore hafter zeros n).trans_le hlimit
    have hwrites := writes_trim_padded hbefore hafter zeros n
    have hread := preferenceIsRead hnone hopen hname hlong hraw hcount
    split
    · next hrange => exact (hread.taken n).2 ⟨hwrites, hrange⟩
    · next hrange => exact (hread.outOfRange n).2 ⟨hwrites, hrange⟩

/-- A preference may have a plus sign and zeros before its digits, and zero may have a minus
sign. -/
theorem signed_preferences_are_read :
    let reader (raw : String) : Reader :=
      ⟨"f.rpm", .empty, [⟨"url", ["preference", raw], false⟩], none⟩
    let mirror (preference : Int) : Mirror := ⟨"http://a/f.rpm", none, none, none, preference⟩
    (reader " +050 ").step (.text ("http://a/f.rpm" : String)) =
        (reader " +050 ").taking ("http://a/f.rpm" : String) ⟨none, none, [], [mirror 50]⟩ ∧
      (reader "-0").step (.text ("http://a/f.rpm" : String)) =
        (reader "-0").taking ("http://a/f.rpm" : String) ⟨none, none, [], [mirror 0]⟩ := by
  intro reader mirror
  have hplus : Writes (trim " +050 ") 50 :=
    (readInteger_eq_value_iff_writes (by decide)).1 (by decide)
  have hminus : Writes (trim "-0") 0 :=
    (readInteger_eq_value_iff_writes (by decide)).1 (by decide)
  have hpreference : ∀ raw, digitCount raw ≤ maxDigits →
      (reader raw).PreferenceIsRead ⟨"url", ["preference", raw], false⟩ "http://a/f.rpm" raw :=
    fun raw => (integers_are_read_exactly rfl rfl).preference _ raw rfl (by decide) rfl
  constructor
  · exact ((hpreference " +050 " (by decide)).taken 50).2 ⟨hplus, by decide, by decide⟩
  · exact ((hpreference "-0" (by decide)).taken 0).2 ⟨hminus, by decide, by decide⟩

end Reader

end Metalink
