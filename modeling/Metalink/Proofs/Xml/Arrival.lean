import Mathlib.Tactic.Common
import Metalink.Proofs.Xml.Runs

/-!
# How a text arrives

The pieces that a text is cut into are collected up to the next tag.  What is delivered in front
of the tag joins to the text.  It is one text if it fits into the buffer, or if it was not cut;
a text that does not fit and that was cut arrives in parts.

Main results:

- `exists_texts_addPieces_le`: only a single piece is delivered beyond the size of the buffer.
- `exists_arrivesAs`: how a text arrives, by the place where it begins.
-/

namespace Metalink.Xml

open Glyph

/-- How a text that begins at a place may arrive: whole, if it fits into the buffer or lies in
one portion, and in parts, if it does not fit and leaves the first portion. -/
structure ArrivesAs (place : Nat) (text : String) (texts : List String) : Prop where
  join : String.join texts = text
  whole : text.utf8ByteSize ≤ bufferSize ∨ InOnePortion place text.toList →
    texts = if text = "" then [] else [text]
  parted : bufferSize < text.utf8ByteSize → LeavesFirstPortion place text.toList → 2 ≤ texts.length

namespace Output

variable {out : Output}

theorem collected_addTag (h : out.IsTight) (tag : Event) : (out.addTag tag).collected = "" := by
  obtain ⟨-, -, -, hcollected⟩ := h.exists_texts_flush
  exact hcollected

theorem used_eq_zero (h : out.IsTight) (hempty : out.collected = "") : out.used = 0 := by
  rw [h.used_eq]
  exact String.utf8ByteSize_eq_zero_iff.2 hempty

/-- Without text in front of it only the tag is delivered. -/
theorem delivered_tag (h : out.IsTight) (hempty : out.collected = "") (tag : Event) :
    (out.addTag tag).delivered = out.delivered ++ [tag] := by
  simp [addTag, flush, used_eq_zero h hempty, delivered]

/-- A single piece is delivered as one text, however long it is. -/
theorem delivered_single (h : out.IsTight) (hempty : out.collected = "") {piece : List Char}
    (hpiece : piece ≠ []) (tag : Event) :
    ((out.addPiece piece).addTag tag).delivered =
      out.delivered ++ [.text (String.ofList piece), tag] := by
  have hused := used_eq_zero h hempty
  have hpending : out.pending = [] := by simpa [collected] using hempty
  have hbytes : bytesOf piece ≠ 0 := by
    rw [bytesOf_eq, ne_eq, String.utf8ByteSize_eq_zero_iff]
    simpa using hpiece
  by_cases hlong : bufferSize < bytesOf piece
  · simp [addPiece, hused, hlong, addTag, flush, delivered]
  · simp [addPiece, hused, hlong, hpending, hbytes, addTag, flush, delivered]

/-- Nothing is collected beyond the size of the buffer. -/
theorem used_addPiece_le (out : Output) (piece : List Char) :
    (out.addPiece piece).used ≤ bufferSize := by
  unfold addPiece
  simp only
  by_cases hlong : bufferSize < bytesOf piece
  · rw [if_pos hlong]
    exact Nat.zero_le _
  · rw [if_neg hlong]
    by_cases hfits : bufferSize < out.used + bytesOf piece
    · have hflush : out.flush.used = 0 := by
        unfold flush
        split <;> simp_all
      simp only [if_pos hfits, hflush]
      omega
    · simp only [if_neg hfits]
      omega

/-- A text that is delivered before a tag fits into the buffer. -/
theorem exists_texts_flush_le (h : out.IsTight) (hused : out.used ≤ bufferSize) :
    ∃ texts : List String, out.flush.delivered = out.delivered ++ texts.map Event.ofString ∧
      ∀ s ∈ texts, s.utf8ByteSize ≤ bufferSize := by
  unfold flush
  split
  · exact ⟨[], by simp, nofun⟩
  · refine ⟨[String.ofList out.pending.reverse], by simp [delivered], ?_⟩
    rw [List.forall_mem_singleton, ← h.used_eq]
    exact hused

/-- A text that is longer than the buffer is delivered only if it is a piece. -/
theorem exists_texts_addPieces_le (h : out.IsTight) (hused : out.used ≤ bufferSize)
    (pieces : List (List Char)) :
    (out.addPieces pieces).used ≤ bufferSize ∧
      ∃ texts : List String,
        (out.addPieces pieces).delivered = out.delivered ++ texts.map Event.ofString ∧
        ∀ s ∈ texts, s.utf8ByteSize ≤ bufferSize ∨ s.toList ∈ pieces := by
  induction pieces generalizing out with
  | nil => exact ⟨hused, [], by simp [addPieces], nofun⟩
  | cons piece pieces ih =>
    have hfirst : ∃ texts : List String,
        (out.addPiece piece).delivered = out.delivered ++ texts.map Event.ofString ∧
        ∀ s ∈ texts, s.utf8ByteSize ≤ bufferSize ∨ s = String.ofList piece := by
      obtain ⟨flushed, hflush, hfits⟩ := exists_texts_flush_le h hused
      by_cases hlong : bufferSize < bytesOf piece
      · have hroom : bufferSize < out.used + bytesOf piece := Nat.lt_add_left _ hlong
        refine ⟨flushed ++ [String.ofList piece], ?_, ?_⟩
        · rw [List.map_append, ← List.append_assoc, ← hflush]
          simp [addPiece, hroom, hlong, delivered]
        · intro s hs
          rcases List.mem_append.1 hs with hs | hs
          · exact .inl (hfits s hs)
          · exact .inr (List.mem_singleton.1 hs)
      · by_cases hroom : bufferSize < out.used + bytesOf piece
        · refine ⟨flushed, ?_, fun s hs => .inl (hfits s hs)⟩
          rw [← hflush]
          simp [addPiece, hroom, hlong, delivered]
        · exact ⟨[], by simp [addPiece, hroom, hlong, delivered], nofun⟩
    obtain ⟨first, hfirst, hfirsts⟩ := hfirst
    obtain ⟨hlast, rest, hrest, hrests⟩ := ih (h.addPiece piece) (used_addPiece_le out piece)
    refine ⟨hlast, first ++ rest, ?_, ?_⟩
    · change ((out.addPiece piece).addPieces pieces).delivered = _
      rw [hrest, hfirst, List.map_append, List.append_assoc]
    · intro s hs
      rcases List.mem_append.1 hs with hs | hs
      · refine (hfirsts s hs).imp_right ?_
        rintro rfl
        simp
      · exact (hrests s hs).imp_right (List.mem_cons_of_mem piece)

/-- Pieces that are not empty come to more than each of them, unless there is only one. -/
theorem length_le_one_of_flatten_mem {pieces : List (List Char)}
    (hnonempty : ∀ piece ∈ pieces, piece ≠ []) (h : pieces.flatten ∈ pieces) :
    pieces.length ≤ 1 := by
  obtain ⟨before, after, hsplit⟩ := List.append_of_mem h
  have hnil : ∀ {others : List (List Char)}, others.flatten = [] →
      (∀ piece ∈ others, piece ∈ pieces) → others = [] := by
    intro others hflatten hmem
    refine List.eq_nil_iff_forall_not_mem.2 fun piece hpiece => ?_
    exact hnonempty piece (hmem piece hpiece) (List.flatten_eq_nil_iff.1 hflatten piece hpiece)
  have hlength := congrArg (List.length ∘ List.flatten) hsplit
  simp only [Function.comp_apply, List.flatten_append, List.flatten_cons, List.length_append]
    at hlength
  have hbefore : before.flatten = [] := List.length_eq_zero_iff.1 (by omega)
  have hafter : after.flatten = [] := List.length_eq_zero_iff.1 (by omega)
  rw [hsplit, hnil hbefore fun piece hpiece => hsplit ▸ List.mem_append_left _ hpiece,
    hnil hafter fun piece hpiece =>
      hsplit ▸ List.mem_append_right _ (List.mem_cons_of_mem _ hpiece)]
  exact Nat.le_refl 1

/-- What is delivered determines the texts. -/
theorem texts_eq_of_append_eq {before : List Event} {texts others : List String} {tag : Event}
    (h : before ++ (texts.map Event.ofString ++ [tag]) =
      before ++ (others.map Event.ofString ++ [tag])) :
    texts = others := by
  have hmap := List.append_cancel_right (List.append_cancel_left h)
  exact List.map_injective_iff.2 (fun _ _ => Event.ofString_inj.1) hmap

/-- Between two tags, too, a text that is longer than the buffer is delivered only if it is a
piece. -/
theorem exists_texts_between_tags_le (h : out.IsTight) (hused : out.used ≤ bufferSize)
    (pieces : List (List Char)) (tag : Event) :
    ∃ texts : List String,
      ((out.addPieces pieces).addTag tag).delivered =
        out.delivered ++ (texts.map Event.ofString ++ [tag]) ∧
      ∀ s ∈ texts, s.utf8ByteSize ≤ bufferSize ∨ s.toList ∈ pieces := by
  obtain ⟨hlast, first, hfirst, hpieces⟩ := exists_texts_addPieces_le h hused pieces
  obtain ⟨last, hflush, hfits⟩ :=
    exists_texts_flush_le (h.exists_texts_addPieces pieces).1 hlast
  refine ⟨first ++ last, ?_, ?_⟩
  · have hdelivered : (out.addPieces pieces).flush.delivered =
        out.delivered ++ (first ++ last).map Event.ofString := by
      rw [hflush, hfirst, List.map_append, List.append_assoc]
    rw [← List.append_assoc, ← hdelivered]
    exact List.reverse_cons
  · intro s hs
    rcases List.mem_append.1 hs with hs | hs
    · exact hpieces s hs
    · exact .inl (hfits s hs)

/-- The pieces that a text is cut into arrive as the text before the next tag. -/
theorem exists_arrivesAs (h : out.IsTight) (hempty : out.collected = "") {place : Nat}
    {text : String} {pieces : List (List Char)} (hcut : IsCutInto place text.toList pieces)
    (tag : Event) :
    ∃ texts, ArrivesAs place text texts ∧
      ((out.addPieces pieces).addTag tag).delivered =
        out.delivered ++ (texts.map Event.ofString ++ [tag]) := by
  obtain ⟨texts, hdelivered, hjoin, -⟩ := h.exists_texts_between_tags hempty pieces tag
  rw [hcut.flatten, String.ofList_toList] at hjoin
  refine ⟨texts, ⟨hjoin, fun hwhole => ?_, fun hlong hleaves => ?_⟩, hdelivered⟩
  · by_cases htext : text = ""
    · obtain rfl : pieces = [] := hcut.eq_nil_iff.2 (by rw [htext]; rfl)
      rw [if_pos htext]
      exact texts_eq_of_append_eq (hdelivered.symm.trans (delivered_tag h hempty tag))
    rw [if_neg htext]
    rcases hwhole with hfits | hone
    · have hpieces : pieces.flatten ≠ [] := by simpa [hcut.flatten] using htext
      have hsize : (String.ofList pieces.flatten).utf8ByteSize ≤ bufferSize := by
        rw [hcut.flatten, String.ofList_toList]
        exact hfits
      have hone := h.delivered_between_tags hempty hpieces hsize tag
      rw [hcut.flatten, String.ofList_toList] at hone
      exact texts_eq_of_append_eq (hdelivered.symm.trans hone)
    · have hlength := hcut.whole hone
      match pieces with
      | [] => exact absurd (String.toList_eq_nil_iff.1 (hcut.eq_nil_iff.1 rfl)) htext
      | [piece] =>
        obtain rfl : piece = text.toList := by simpa using hcut.flatten
        have hsingle := delivered_single h hempty (hcut.nonempty _ List.mem_cons_self) tag
        rw [String.ofList_toList] at hsingle
        exact texts_eq_of_append_eq (hdelivered.symm.trans hsingle)
      | first :: second :: rest => simp at hlength
  · have hused : out.used ≤ bufferSize := by
      rw [used_eq_zero h hempty]
      exact Nat.zero_le _
    obtain ⟨others, hothers, hbound⟩ := exists_texts_between_tags_le h hused pieces tag
    obtain rfl := texts_eq_of_append_eq (hdelivered.symm.trans hothers)
    match texts with
    | [] =>
      have hnone : text = "" := hjoin.symm
      rw [hnone] at hlong
      exact absurd hlong (by decide)
    | [s] =>
      -- The text would be delivered as a single piece, but it was cut.
      obtain rfl : s = text := by simpa using hjoin
      have hpiece := (hbound s List.mem_cons_self).resolve_left (Nat.not_le.2 hlong)
      have hlength := length_le_one_of_flatten_mem hcut.nonempty (hcut.flatten.symm ▸ hpiece)
      exact absurd (hcut.parted hleaves) (by omega)
    | s :: t :: rest => exact Nat.le_add_left 2 rest.length

end Output

end Metalink.Xml
