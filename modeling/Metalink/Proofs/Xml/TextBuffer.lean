import Mathlib.Data.List.Chain
import Mathlib.Tactic.Common
import Metalink.Proofs.Xml.Content

/-!
# Texts that follow one another

Text is delivered in several events only where it does not fit into the buffer.  Whatever
pieces a document is made of, two texts that are delivered one right after the other are
together longer than what can be collected, so that a text of no more than that is always
delivered as a whole.

Main results:

- `length_le_one_of_isChain_apart`: texts in a row that together fit into the buffer are at
  most one.
- `IsTight.addPiece` and `IsTight.addTag`: what the output keeps to.
- `IsTight.exists_texts_between_tags`: the texts that are delivered come to the pieces, whatever
  these are.
- `Source.isChain_apart_tokenize`: what follows for the events of every document.
- `Source.exists_eq_ofString`: every text that a document delivers is one of characters.
-/

namespace Metalink.Xml

/-- Where two events are texts of characters, they do not fit into the buffer together. -/
def Apart (first second : Event) : Prop :=
  ∀ s t : String, first = .ofString s → second = .ofString t →
    bufferSize < s.utf8ByteSize + t.utf8ByteSize

/-! ## Counting bytes -/

/-- Counting characters one by one counts the bytes of their text. -/
theorem foldl_utf8Size (start : Nat) (cs : List Char) :
    cs.foldl (fun n c => n + c.utf8Size) start =
      start + (String.ofList cs).utf8ByteSize := by
  induction cs generalizing start with
  | nil => simp
  | cons c cs ih =>
    rw [List.foldl_cons, ih, String.ofList_cons, String.utf8ByteSize_append,
      String.utf8ByteSize_singleton, Nat.add_assoc]

/-- The bytes of characters are those of their text. -/
theorem bytesOf_eq (cs : List Char) : bytesOf cs = (String.ofList cs).utf8ByteSize := by
  rw [bytesOf, foldl_utf8Size, Nat.zero_add]

/-! ## Texts in a row -/

/-- Texts in a row that fit into the buffer together are no more than one. -/
theorem length_le_one_of_isChain_apart {texts : List String}
    (h : (texts.map Event.ofString).IsChain Apart)
    (hsize : (String.join texts).utf8ByteSize ≤ bufferSize) : texts.length ≤ 1 := by
  match texts with
  | [] => exact Nat.zero_le 1
  | [_] => exact Nat.le_refl 1
  | s :: t :: rest =>
    have hapart : bufferSize < s.utf8ByteSize + t.utf8ByteSize :=
      (List.isChain_cons_cons.1 h).1 s t rfl rfl
    simp only [String.join_cons, String.utf8ByteSize_append] at hsize
    omega

/-! ## What the output keeps to -/

namespace Output

/-- The texts of an output, whose events are in reverse order, follow one another only where they
had to be parted, and so does the collected text after the last one; and what is counted is what
is collected. -/
structure IsTight (out : Output) : Prop where
  used_eq : out.used = (String.ofList out.pending.reverse).utf8ByteSize
  apart : out.events.IsChain fun later earlier => Apart earlier later
  last : ∀ s, out.events.head? = some (.ofString s) → bufferSize < s.utf8ByteSize + out.used

theorem isTight_empty : IsTight .empty :=
  ⟨rfl, List.isChain_nil, fun _ h => by cases h⟩

/-- A text can be delivered after a tight output if it does not fit together with the text
before it. -/
theorem isChain_cons_text {events : List Event} {t : String}
    (h : events.IsChain fun later earlier => Apart earlier later)
    (hlast : ∀ s, events.head? = some (.ofString s) →
      bufferSize < s.utf8ByteSize + t.utf8ByteSize) :
    (.ofString t :: events).IsChain fun later earlier => Apart earlier later := by
  refine h.cons fun event hevent s u hs hu => ?_
  obtain rfl : t = u := by simpa using hu
  exact hlast s (hs ▸ hevent)

namespace IsTight

variable {out : Output}

/-- Delivering the collected text keeps texts apart. -/
theorem isChain_flush (h : out.IsTight) :
    out.flush.events.IsChain fun later earlier => Apart earlier later := by
  unfold flush
  split
  · exact h.apart
  · exact isChain_cons_text h.apart fun s hs => h.used_eq ▸ h.last s hs

/-- A piece that does not fit makes what was collected before it an event of its own, and
a piece that is longer than the buffer is one by itself. -/
theorem addPiece (h : out.IsTight) (piece : List Char) : (out.addPiece piece).IsTight := by
  have hbytes := bytesOf_eq piece
  unfold Output.addPiece
  simp only [hbytes]
  by_cases hfits : bufferSize < out.used + (String.ofList piece).utf8ByteSize
  · rw [if_pos hfits]
    by_cases hlong : bufferSize < (String.ofList piece).utf8ByteSize
    · rw [if_pos hlong]
      refine ⟨rfl, isChain_cons_text h.isChain_flush fun s _ => by omega, fun s hs => ?_⟩
      obtain rfl : String.ofList piece = s := by simpa using hs
      omega
    · rw [if_neg hlong]
      -- Something was collected, for otherwise the piece would have fitted.
      have hused : out.used ≠ 0 := by omega
      have hflush : out.flush =
          ⟨.text (String.ofList out.pending.reverse) :: out.events, [], 0⟩ := if_neg hused
      refine ⟨by simp [hflush], h.isChain_flush, fun s hs => ?_⟩
      simp only [hflush, List.head?_cons, Option.some.injEq, Event.text.injEq,
        CodeText.ofString_inj] at hs ⊢
      rw [← hs, ← h.used_eq]
      omega
  · rw [if_neg hfits, if_neg (by omega)]
    refine ⟨?_, h.apart, fun s hs => ?_⟩
    · simp [h.used_eq]
    · have hlast := h.last s hs
      dsimp only
      omega

/-- A tag leaves an output tight. -/
theorem addTag (h : out.IsTight) {tag : Event} (htag : ∀ text, tag ≠ .text text) :
    (out.addTag tag).IsTight := by
  have hpending : out.flush.used = (String.ofList out.flush.pending.reverse).utf8ByteSize := by
    unfold flush
    split
    · exact h.used_eq
    · rfl
  refine ⟨hpending, ?_, fun s hs => absurd (Option.some.inj hs) (htag s)⟩
  exact List.IsChain.cons h.isChain_flush fun event _ s t _ ht => absurd ht (htag t)

/-- The texts of a tight output do not fit together. -/
theorem isChain_delivered (h : out.IsTight) : out.delivered.IsChain Apart :=
  List.isChain_reverse.2 h.apart

end IsTight

end Output

/-! ## Pieces between tags -/

namespace Output

/-- The text that has been collected. -/
def collected (out : Output) : String := String.ofList out.pending.reverse

/-- Take pieces of text in turn. -/
def addPieces (out : Output) (pieces : List (List Char)) : Output :=
  pieces.foldl addPiece out

namespace IsTight

variable {out : Output}

theorem collected_eq_empty (h : out.IsTight) (hused : out.used = 0) : out.collected = "" := by
  have hsize := h.used_eq
  rw [hused] at hsize
  exact String.utf8ByteSize_eq_zero_iff.1 hsize.symm

/-- Delivering what is collected loses nothing. -/
theorem exists_texts_flush (h : out.IsTight) :
    ∃ texts, out.flush.delivered = out.delivered ++ texts.map Event.ofString ∧
      String.join texts = out.collected ∧ out.flush.collected = "" := by
  unfold flush
  split
  · next hused =>
    have hempty := h.collected_eq_empty hused
    exact ⟨[], by simp, hempty.symm, hempty⟩
  · exact ⟨[out.collected], by simp [delivered, collected], by simp, rfl⟩

/-- A piece goes to the end of the text that is collected, after what is delivered for it. -/
theorem exists_texts_addPiece (h : out.IsTight) (piece : List Char) :
    ∃ texts, (out.addPiece piece).delivered = out.delivered ++ texts.map Event.ofString ∧
      String.join texts ++ (out.addPiece piece).collected =
        out.collected ++ String.ofList piece := by
  unfold Output.addPiece
  simp only
  by_cases hfits : bufferSize < out.used + bytesOf piece
  · obtain ⟨texts, hdelivered, hjoin, hcollected⟩ := h.exists_texts_flush
    rw [if_pos hfits]
    by_cases hlong : bufferSize < bytesOf piece
    · rw [if_pos hlong]
      refine ⟨texts ++ [String.ofList piece], ?_, ?_⟩
      · rw [List.map_append, ← List.append_assoc, ← hdelivered]
        exact List.reverse_cons
      · simp [hjoin, collected]
    · rw [if_neg hlong]
      refine ⟨texts, hdelivered, ?_⟩
      simp only [collected, List.reverse_append, List.reverse_reverse,
        String.ofList_append] at hcollected ⊢
      rw [hjoin, hcollected, String.empty_append, collected]
  · rw [if_neg hfits, if_neg (by omega)]
    exact ⟨[], by simp [delivered], by simp [collected]⟩

/-- Collecting pieces delivers some texts and keeps the rest, and loses nothing. -/
theorem exists_texts_addPieces (h : out.IsTight) (pieces : List (List Char)) :
    (out.addPieces pieces).IsTight ∧
      ∃ texts, (out.addPieces pieces).delivered = out.delivered ++ texts.map Event.ofString ∧
        String.join texts ++ (out.addPieces pieces).collected =
          out.collected ++ String.ofList pieces.flatten := by
  induction pieces generalizing out with
  | nil => exact ⟨h, [], by simp [addPieces], by simp [addPieces]⟩
  | cons piece pieces ih =>
    obtain ⟨first, hfirst, hpiece⟩ := h.exists_texts_addPiece piece
    obtain ⟨htight, rest, hrest, hpieces⟩ := ih (h.addPiece piece)
    refine ⟨htight, first ++ rest, ?_, ?_⟩
    · change ((out.addPiece piece).addPieces pieces).delivered = _
      rw [hrest, hfirst, List.map_append, List.append_assoc]
    · change _ ++ ((out.addPiece piece).addPieces pieces).collected = _
      rw [String.join_append, String.append_assoc, hpieces, ← String.append_assoc, hpiece,
        List.flatten_cons, String.ofList_append, String.append_assoc]

/-- Pieces that stand between two tags are delivered as texts that come to the same as the
pieces, and of which no two that follow one another fit into the buffer together. -/
theorem exists_texts_between_tags (h : out.IsTight) (hempty : out.collected = "")
    (pieces : List (List Char)) (tag : Event) :
    ∃ texts, ((out.addPieces pieces).addTag tag).delivered =
        out.delivered ++ (texts.map Event.ofString ++ [tag]) ∧
      String.join texts = String.ofList pieces.flatten ∧
      (texts.map Event.ofString).IsChain Apart := by
  obtain ⟨htight, first, hfirst, hpieces⟩ := h.exists_texts_addPieces pieces
  obtain ⟨last, hlast, hcollected, -⟩ := htight.exists_texts_flush
  have hdelivered : (out.addPieces pieces).flush.delivered =
      out.delivered ++ (first ++ last).map Event.ofString := by
    rw [hlast, hfirst, List.map_append, List.append_assoc]
  refine ⟨first ++ last, ?_, ?_, ?_⟩
  · rw [← List.append_assoc, ← hdelivered]
    exact List.reverse_cons
  · rw [String.join_append, hcollected, hpieces, hempty, String.empty_append]
  · have hchain : (out.addPieces pieces).flush.delivered.IsChain Apart :=
      List.isChain_reverse.2 htight.isChain_flush
    rw [hdelivered] at hchain
    exact hchain.right_of_append

/-- Pieces that fit into the buffer together are delivered as one text. -/
theorem delivered_between_tags (h : out.IsTight) (hempty : out.collected = "")
    {pieces : List (List Char)} (hpieces : pieces.flatten ≠ [])
    (hsize : (String.ofList pieces.flatten).utf8ByteSize ≤ bufferSize) (tag : Event) :
    ((out.addPieces pieces).addTag tag).delivered =
      out.delivered ++ [.text (String.ofList pieces.flatten), tag] := by
  obtain ⟨texts, hdelivered, hjoin, hapart⟩ := h.exists_texts_between_tags hempty pieces tag
  have hlength := length_le_one_of_isChain_apart hapart (hjoin ▸ hsize)
  have htexts : texts = [String.ofList pieces.flatten] := by
    match texts with
    | [] => exact absurd (String.ofList_eq_empty_iff.1 hjoin.symm) hpieces
    | [s] => simpa using hjoin
    | s :: t :: rest => simp at hlength
  rw [hdelivered, htexts]
  rfl

end IsTight

end Output

/-! ## Texts of documents -/

/-- All texts that are delivered are texts of characters. -/
def Output.IsPlain (out : Output) : Prop :=
  ∀ text : CodeText, .text text ∈ out.events → ∃ s : String, text = s

namespace Output.IsPlain

variable {out : Output}

/-- One more text of characters leaves an output plain. -/
theorem addText (h : out.IsPlain) (s : String) (pending : List Char) (used : Nat) :
    IsPlain ⟨.ofString s :: out.events, pending, used⟩ := by
  intro text htext
  rcases List.mem_cons.1 htext with heq | hmem
  · exact ⟨s, Event.text.inj heq⟩
  · exact h text hmem

theorem flush (h : out.IsPlain) : out.flush.IsPlain := by
  unfold Output.flush
  split
  · exact h
  · exact h.addText _ _ _

theorem addPiece (h : out.IsPlain) (piece : List Char) : (out.addPiece piece).IsPlain := by
  unfold Output.addPiece
  simp only
  split <;> split
  · exact h.flush.addText _ _ _
  · exact h.addText _ _ _
  · exact h.flush
  · exact h

/-- So does one more tag. -/
theorem addTag (h : out.IsPlain) {tag : Event} (htag : ∀ text, tag ≠ .text text) :
    (out.addTag tag).IsPlain := by
  intro text htext
  rcases List.mem_cons.1 htext with heq | hmem
  · exact absurd heq.symm (htag text)
  · exact h.flush text hmem

end Output.IsPlain

/-- A document delivers texts of characters, whatever it consists of. -/
theorem Source.exists_eq_ofString (source : Source) {text : CodeText}
    (h : .text text ∈ source.tokenize.events) : ∃ s : String, text = s := by
  have hkeeps : Keeps fun _ out => out.IsPlain :=
    { piece := fun piece h => h.addPiece piece
      opened := fun _ _ h => h.addTag fun s hs => by cases hs
      closed := fun _ h => h.addTag fun s hs => by cases hs }
  have hempty : Output.empty.IsPlain := fun _ htext => by cases htext
  obtain ⟨names, out, hevents, hplain, -⟩ := source.tokenize_keeps hkeeps hempty
  rw [hevents] at h
  exact hplain text (List.mem_reverse.1 h)

/-- In the events of a document, texts that follow one another do not fit into the buffer
together. -/
theorem Source.isChain_apart_tokenize (source : Source) :
    source.tokenize.events.IsChain Apart := by
  have hkeeps : Keeps fun _ out => out.IsTight :=
    { piece := fun piece h => h.addPiece piece
      opened := fun _ _ h => h.addTag fun s hs => by cases hs
      closed := fun _ h => h.addTag fun s hs => by cases hs }
  obtain ⟨names, out, hevents, htight, -⟩ := source.tokenize_keeps hkeeps Output.isTight_empty
  exact hevents ▸ htight.isChain_delivered

end Metalink.Xml
