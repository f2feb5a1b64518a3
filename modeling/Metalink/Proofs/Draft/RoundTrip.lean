import Mathlib.Tactic.Common
import Metalink.Proofs.Draft.Layout
import Metalink.Proofs.Reader.Indentation
import Metalink.Proofs.Reader.Leaf
import Metalink.Proofs.Reader.Outcome

/-!
# Reading a draft back

What is offered to the elements of a draft is, apart from indentation, one text for each size,
hash and mirror, in order.  Each is valid, and gives what was drafted.  So a plain draft reads
back as its document, unless a text in it is delivered in parts: a text that is longer than the
buffer, and that a portion of the document ends in, counts as several.

Main results:

- `Provide.leaves`, `Provide.around`: what elements offer, apart from indentation.
- `filterMap_leaves`: what is given is what the leaves of a draft were made for.
- `isUndivided_of_le`: when all texts of a draft arrive whole.
- `parse_text`: reading undoes writing.
- `two_le_length_hashes`, `long_hash_is_divided`: a hash that is not read back.
-/

namespace Metalink

open Metalink.Text Metalink.Xml

/-! ## What passages offer -/

/-- What is offered to an element that holds nothing but text. -/
def Leaf.offer (leaf : Leaf) : Offer :=
  .ofString ⟨leaf.name, flatPairs leaf.attributes⟩ leaf.text

section Frame

variable {frame : Frame} (hframe : frame.owner.IgnoresBlank) (around : List Frame)
include hframe

/-- Blank text in front of a tag is indentation. -/
theorem substance_offersOf_blank {line : String} (hline : AllBlank line) (rest : List Event) :
    substance (offersOf (frame :: around)
        ((if line = "" then [] else [Event.ofString line]) ++ rest)) =
      substance (offersOf (frame :: around) rest) := by
  split
  · rfl
  · have hindentation := Offer.isIndentation_ofString hframe hline
    exact (substance_cons_of_isIndentation hindentation).trans
      (substance_offersOf_marked hframe [] around rest)

/-- Closing an element that ignores blank text offers nothing but indentation. -/
theorem substance_offersOf_closed (name : String) (rest : List Event) :
    substance (offersOf (frame :: around) (.closed name :: rest)) =
      substance (offersOf around rest) := by
  simp only [offersOf, Event.offer?, Event.frames]
  split
  · rfl
  · exact substance_cons_of_isIndentation (Offer.isIndentation_ofString hframe (by decide))

end Frame

/-- Passages in an element that ignores blank text offer, apart from indentation, what is
given. -/
def Provide (passages : List Passage) (offers : List Offer) : Prop :=
  ∀ (frame : Frame) (around : List Frame) (rest : List Event), frame.owner.IgnoresBlank →
    substance (offersOf (frame :: around) (passages.flatMap Passage.events ++ rest)) =
      substance offers ++ substance (offersOf (frame :: around) rest)

namespace Provide

theorem append {first rest : List Passage} {offers others : List Offer}
    (hfirst : Provide first offers) (hrest : Provide rest others) :
    Provide (first ++ rest) (offers ++ others) := by
  intro frame around events hframe
  rw [List.flatMap_append, List.append_assoc, hfirst frame around _ hframe,
    hrest frame around _ hframe, substance_append, List.append_assoc]

variable {line : String} (hline : AllBlank line)
include hline

/-- A leaf provides one offer. -/
theorem leaf (leaf : Leaf) : Provide (leaf.passages line) [leaf.offer] := by
  intro frame around rest hframe
  have hoffers : offersOf (frame :: around) (.opened leaf.name leaf.offer.owner.attributes ::
      ((if leaf.text = "" then [] else [.text leaf.text]) ++ .closed leaf.name :: rest)) =
      leaf.offer :: offersOf (frame :: around) rest := by
    split <;> simp_all [offersOf, Event.offer?, Event.frames, Frame.owner, Leaf.offer]
  have hevents : (leaf.passages line).flatMap Passage.events ++ rest =
      (if line = "" then [] else [.text line]) ++ .opened leaf.name leaf.offer.owner.attributes ::
        ((if leaf.text = "" then [] else [.text leaf.text]) ++ .closed leaf.name :: rest) := by
    simp [Leaf.passages, Passage.events, Tag.event, Leaf.offer]
  rw [hevents, substance_offersOf_blank hframe around hline, hoffers, ← substance_append]
  rfl

/-- Leaves provide one offer each. -/
theorem leaves (leaves : List Leaf) :
    Provide (leaves.flatMap (Leaf.passages line)) (leaves.map Leaf.offer) := by
  induction leaves with
  | nil => exact fun _ _ _ _ => rfl
  | cons first rest ih => exact (Provide.leaf hline first).append ih

/-- An element around others provides what they do, if blank text has no meaning to it. -/
theorem around {name : String} {attributes : List (String × String)} {inner : List Passage}
    {offers : List Offer} (h : Provide inner offers) (hname : name ≠ "size" ∧ name ≠ "hash") :
    Provide (Draft.around line name attributes inner) offers := by
  intro frame around rest hframe
  let opened : Frame := ⟨name, flatPairs attributes, false⟩
  have hopened : opened.owner.IgnoresBlank := hname
  have hevents : (Draft.around line name attributes inner).flatMap Passage.events ++ rest =
      (if line = "" then [] else [.text line]) ++ .opened name opened.attributes ::
        (inner.flatMap Passage.events ++
          ((if line = "" then [] else [.text line]) ++ .closed name :: rest)) := by
    simp [Draft.around, Passage.events, Tag.event, opened]
  rw [hevents, substance_offersOf_blank hframe around hline]
  change substance (offersOf (opened :: frame :: around) _) = _
  rw [h opened _ _ hopened, substance_offersOf_blank hopened _ hline,
    substance_offersOf_closed hopened]

end Provide

namespace Draft

/-- The body of a draft provides the offers of its leaves. -/
theorem provide_body (draft : Draft) : Provide draft.body (draft.leaves.map Leaf.offer) := by
  have hline : ∀ line ∈ indents, AllBlank line := by decide
  have hdescription : Provide draft.description (draft.leaves.map Leaf.offer) := by
    rw [leaves, List.map_append, List.map_append]
    exact (Provide.leaves (hline _ (by decide)) _).append
      (((Provide.leaves (hline _ (by decide)) _).around (hline _ (by decide)) (by decide)).append
        ((Provide.leaves (hline _ (by decide)) _).around (hline _ (by decide)) (by decide)))
  exact (hdescription.around (hline _ (by decide)) (by decide)).around (hline _ (by decide))
    (by decide)

/-- What a draft offers to its elements is, apart from indentation, what stands in those that
hold text. -/
theorem substance_offersOf_passages (draft : Draft) :
    substance (offersOf [] (draft.passages.flatMap Passage.events)) =
      substance (draft.leaves.map Leaf.offer) := by
  let root : Frame := ⟨"metalink", ["version", "3.0", "xmlns", "http://www.metalinker.org/"], false⟩
  have hroot : root.owner.IgnoresBlank := by decide
  have hline : AllBlank "\n" := by decide
  have hevents : draft.passages.flatMap Passage.events =
      .opened root.name root.attributes :: (draft.body.flatMap Passage.events ++
        ((if "\n" = "" then [] else [.text "\n"]) ++ [.closed root.name])) := by
    simp [passages, Passage.events, Tag.event, flatPairs, root]
  rw [hevents]
  change substance (offersOf [root] _) = _
  rw [draft.provide_body root [] _ hroot, substance_offersOf_blank hroot [] hline,
    substance_offersOf_closed hroot]
  exact List.append_nil _

/-! ## The file element -/

theorem opened_mem_iff {passages : List Passage} {name : String} {attributes : List String} :
    .opened name attributes ∈ passages.flatMap Passage.events ↔
      .opened name attributes ∈ passages.map fun p => p.tag.event := by
  have htext : ∀ p : Passage, .opened name attributes ∈ p.events ↔
      p.tag.event = .opened name attributes := by
    intro p
    rw [Passage.events]
    split <;> simp [eq_comm]
  simp [List.mem_flatMap, htext]

/-- The only file element of a draft names its file. -/
theorem opened_file_iff (draft : Draft) (attributes : List String) :
    .opened "file" attributes ∈ draft.passages.flatMap Passage.events ↔
      attributes = ["name", draft.filename] := by
  rw [opened_mem_iff]
  simp [passages, body, around, description, Leaf.passages, Tag.event, sizeLeaf, Hash.leaf,
    MirrorDraft.leaf, flatPairs, List.map_flatMap, List.mem_flatMap]

end Draft

/-! ## What leaves give -/

/-- The text of an integer denotes it, with nothing to trim. -/
theorem denotes_trim_toString {n : Int} (h : (toString n.natAbs).length ≤ maxDigits) :
    Denotes (trim (toString n)) n := by
  rw [trim_eq_self (isTrimmed_toString n)]
  exact denotes_toString h

section Size

variable {n : Int} (h : (toString n.natAbs).length ≤ maxDigits)
include h

theorem size?_sizeLeaf : (sizeLeaf n).offer.size? = some n := by
  have hread : integer? (trim (toString n)) = some n :=
    integer?_eq_some_iff.2 (denotes_trim_toString h)
  simpa [Offer.size?, Leaf.offer, sizeLeaf] using hread

/-- It is valid, as an integer is written in it. -/
theorem isValid_sizeLeaf (expected : String) : (sizeLeaf n).offer.IsValid expected where
  file := by simp [Leaf.offer, sizeLeaf]
  size _ := CodeText.is_ofString.2 ⟨n, denotes_trim_toString h⟩
  hash := by simp [Leaf.offer, sizeLeaf]
  url := by simp [Leaf.offer, sizeLeaf]

end Size

namespace Hash.IsPlain

variable {h : Hash} (hplain : h.IsPlain)
include hplain

theorem hash?_leaf : h.leaf.offer.hash? = some h := by
  simp [Offer.hash?, Leaf.offer, Hash.leaf, flatPairs, findAttribute, trim_eq_self hplain.trimmed]

/-- It is valid, as the value is not blank. -/
theorem isValid_leaf (expected : String) : h.leaf.offer.IsValid expected where
  file := by simp [Leaf.offer, Hash.leaf]
  size := by simp [Leaf.offer, Hash.leaf]
  hash _ := by
    refine ⟨rfl, CodeText.is_ofString.2 fun hblank => hplain.nonempty ?_⟩
    rw [← trim_eq_self hplain.trimmed]
    exact (trim_eq_empty_iff _).2 hblank
  url := by simp [Leaf.offer, Hash.leaf]

end Hash.IsPlain

namespace MirrorDraft

/-- What is said about a mirror under a name is found as its attribute. -/
theorem findAttribute_leaf (m : MirrorDraft) (name : String) :
    findAttribute name m.leaf.offer.owner.attributes =
      m.notes.findSome? fun note => if note.name = name then some note.value else none := by
  rcases m with ⟨url, notes⟩
  simp only [leaf, Leaf.offer, flatPairs]
  induction notes with
  | nil => rfl
  | cons note notes ih =>
    rw [List.findSome?_cons, ← ih]
    by_cases hname : note.name = name <;> simp [findAttribute, hname]

/-- The preference of a mirror is the decimal text of the one that is noted. -/
theorem findAttribute_preference (m : MirrorDraft) :
    findAttribute "preference" m.leaf.offer.owner.attributes =
      (m.notes.findSome? MirrorNote.preference?).map toString := by
  rw [findAttribute_leaf, List.map_findSome?]
  congr 1
  funext note
  cases note <;> rfl

namespace IsPlain

variable {m : MirrorDraft} (hplain : m.IsPlain)
include hplain

/-- A preference that is drafted is in range, and is read from its text. -/
theorem denotes_preference {n : Int} (h : m.notes.findSome? MirrorNote.preference? = some n) :
    Denotes (trim (toString n)) n ∧ Mirror.minPreference ≤ n ∧ n ≤ Mirror.maxPreference := by
  obtain ⟨note, hnote, hgive⟩ := List.exists_of_findSome?_eq_some h
  have hrange := hplain.notes note hnote
  cases note with
  | protocol text | type text | location text => cases hgive
  | preference value =>
    obtain rfl : value = n := Option.some.inj hgive
    have hmost : value.natAbs < 101 := by
      have hleast : 0 ≤ value := hrange.1
      have hgreatest : value ≤ 100 := hrange.2
      omega
    have hshort : ∀ k < 101, (toString k).length ≤ maxDigits := by decide
    exact ⟨denotes_trim_toString (hshort _ hmost), hrange⟩

theorem hasPreference : HasPreference m.leaf.offer.owner.attributes := by
  intro raw hraw
  rw [findAttribute_preference, Option.map_eq_some_iff] at hraw
  obtain ⟨n, hn, rfl⟩ := hraw
  exact ⟨n, hplain.denotes_preference hn⟩

/-- It is read back as it was noted. -/
theorem givenPreference_eq :
    givenPreference m.leaf.offer.owner.attributes = m.mirror.preference := by
  rw [givenPreference, findAttribute_preference, MirrorDraft.mirror]
  cases h : m.notes.findSome? MirrorNote.preference? with
  | none => rfl
  | some n => rw [Option.map_some, Option.bind_some,
      integer?_eq_some_iff.2 (hplain.denotes_preference h).1]

/-- The element of a mirror gives the mirror. -/
theorem mirror?_leaf : m.leaf.offer.mirror? = some m.mirror := by
  have hstring : m.leaf.offer.text.string? = some m.url := CodeText.string?_ofString m.url
  have htrim : trim m.url = m.url := trim_eq_self hplain.trimmed
  have hlong : ¬ IsShort m.url := by
    rw [IsShort, htrim]
    exact Nat.not_le.2 hplain.long
  have hnotes (name : String) (give : MirrorNote → Option String)
      (h : ∀ note, (if note.name = name then some note.value else none) = give note) :
      findAttribute name m.leaf.offer.owner.attributes = m.notes.findSome? give := by
    rw [findAttribute_leaf, funext h]
  have hprotocol := hnotes "protocol" MirrorNote.protocol? (by intro note; cases note <;> rfl)
  have htype := hnotes "type" MirrorNote.type? (by intro note; cases note <;> rfl)
  have hlocation := hnotes "location" MirrorNote.location? (by intro note; cases note <;> rfl)
  have hname : m.leaf.offer.owner.name = "url" := rfl
  rw [Offer.mirror?, if_pos hname, hstring, Option.bind_some, if_neg hlong, givenMirror, htrim,
    hprotocol, htype, hlocation, hplain.givenPreference_eq]
  rfl

/-- It is valid, as the address is long enough and the preference is in range. -/
theorem isValid_leaf (expected : String) : m.leaf.offer.IsValid expected where
  file := by simp [Leaf.offer, MirrorDraft.leaf]
  size := by simp [Leaf.offer, MirrorDraft.leaf]
  hash := by simp [Leaf.offer, MirrorDraft.leaf]
  url _ := CodeText.is_ofString.2 (.inr hplain.hasPreference)

end IsPlain

end MirrorDraft

/-! ## What a draft gives -/

namespace Draft

variable {draft : Draft}

/-- What the leaves of a draft give is what its sizes, hashes and mirrors give. -/
theorem filterMap_leaves {β : Type} {give : Offer → Option β} (size : Int → Option β)
    (hash : Hash → Option β) (mirror : MirrorDraft → Option β)
    (hsize : ∀ n ∈ draft.size, give (sizeLeaf n).offer = size n)
    (hhash : ∀ h ∈ draft.hashes, give h.leaf.offer = hash h)
    (hmirror : ∀ m ∈ draft.mirrors, give m.leaf.offer = mirror m) :
    (draft.leaves.map Leaf.offer).filterMap give =
      draft.size.toList.filterMap size ++
        (draft.hashes.filterMap hash ++ draft.mirrors.filterMap mirror) := by
  have hsizes : draft.size.toList.filterMap (give ∘ Leaf.offer ∘ sizeLeaf) =
      draft.size.toList.filterMap size :=
    List.filterMap_congr fun n hn => hsize n (Option.mem_toList.1 hn)
  have hhashes : draft.hashes.filterMap (give ∘ Leaf.offer ∘ Hash.leaf) =
      draft.hashes.filterMap hash := List.filterMap_congr hhash
  have hmirrors : draft.mirrors.filterMap (give ∘ Leaf.offer ∘ MirrorDraft.leaf) =
      draft.mirrors.filterMap mirror := List.filterMap_congr hmirror
  simp only [leaves, List.map_append, List.map_map, List.filterMap_append, List.filterMap_map,
    hsizes, hhashes, hmirrors]

section Gather

variable (hplain : draft.IsPlain)
include hplain

/-- The leaves of a draft give its size. -/
theorem filterMap_size? :
    (draft.leaves.map Leaf.offer).filterMap Offer.size? = draft.size.toList := by
  rw [filterMap_leaves some (fun _ => none) (fun _ => none)
    (fun n hn => size?_sizeLeaf (hplain.size n hn)) (fun _ _ => rfl) (fun _ _ => rfl)]
  simp

theorem filterMap_hash? :
    (draft.leaves.map Leaf.offer).filterMap Offer.hash? = draft.hashes := by
  rw [filterMap_leaves (fun _ => none) some (fun _ => none) (fun _ _ => rfl)
    (fun h hh => (hplain.hashes h hh).hash?_leaf) (fun _ _ => rfl)]
  simp

theorem filterMap_mirror? :
    (draft.leaves.map Leaf.offer).filterMap Offer.mirror? =
      draft.mirrors.map MirrorDraft.mirror := by
  rw [filterMap_leaves (fun _ => none) (fun _ => none) (fun m => some m.mirror)
    (fun _ _ => rfl) (fun _ _ => rfl) (fun m hm => (hplain.mirrors m hm).mirror?_leaf)]
  simp

/-- All that is offered to the leaves of a plain draft is valid. -/
theorem isValid_of_mem_leaves (expected : String) :
    ∀ offer ∈ draft.leaves.map Leaf.offer, offer.IsValid expected := by
  simp only [leaves, List.map_append, List.map_map, List.forall_mem_append, List.forall_mem_map]
  refine ⟨fun n hn => ?_, fun h hh => ?_, fun m hm => ?_⟩
  · exact isValid_sizeLeaf (hplain.size n (Option.mem_toList.1 hn)) expected
  · exact (hplain.hashes h hh).isValid_leaf expected
  · exact (hplain.mirrors m hm).isValid_leaf expected

end Gather

/-- The events of a draft whose texts arrive whole. -/
def events (draft : Draft) : List Event :=
  draft.passages.flatMap Passage.events

section Complete

variable (hplain : draft.IsPlain) (hcomplete : framesAfter [] draft.events = [])
include hplain hcomplete

/-- All that a draft offers is valid. -/
theorem valid_offersOf_events :
    ∀ offer ∈ offersOf [] draft.events, offer.IsValid draft.filename := by
  refine (valid_iff_of_complete hcomplete _).2 ⟨?_, ?_⟩
  · intro offer hoffer
    rw [events, substance_offersOf_passages, mem_substance_iff] at hoffer
    exact isValid_of_mem_leaves hplain _ offer hoffer.1
  · rintro ⟨name, attributes⟩ hopened rfl
    obtain rfl := (draft.opened_file_iff attributes).1 hopened
    rfl

/-- What a draft offers to its elements comes to its document. -/
theorem gather_offersOf_events :
    gather draft.filename (offersOf [] draft.events) = draft.document := by
  have hgive {β : Type} {give : Offer → Option β}
      (hnone : ∀ offer : Offer, offer.IsIndentation → give offer = none) :
      (offersOf [] draft.events).filterMap give =
        (draft.leaves.map Leaf.offer).filterMap give := by
    rw [← filterMap_substance hnone, events, substance_offersOf_passages,
      filterMap_substance hnone]
  have hfile : ∃ offer ∈ offersOf [] draft.events, offer.owner.name = "file" :=
    (exists_file_iff_of_complete hcomplete).2
      ⟨⟨"file", _⟩, (draft.opened_file_iff _).2 rfl, rfl⟩
  rw [gather, if_pos hfile, hgive fun _ => Offer.IsIndentation.size?_eq_none,
    hgive fun _ => Offer.IsIndentation.hash?_eq_none,
    hgive fun _ => Offer.IsIndentation.mirror?_eq_none, filterMap_size? hplain,
    filterMap_hash? hplain, filterMap_mirror? hplain, document]
  cases draft.size <;> rfl

end Complete

/-! ## Reading back -/

/-- Every text of a draft that is longer than the buffer lies in one portion of what is
written, where the first tag stands after the declaration and the end of its line. -/
def IsUndivided (draft : Draft) : Prop :=
  Undivided 39 draft.passages

/-- A plain draft is undivided if it is shorter than a portion, or if its texts fit into the
buffer. -/
theorem isUndivided_of_le (hplain : draft.IsPlain)
    (h : draft.text.utf8ByteSize < portionSize ∨
      ∀ leaf ∈ draft.leaves, leaf.text.utf8ByteSize ≤ bufferSize) : draft.IsUndivided := by
  refine undivided_of_forall fun p hp => ?_
  rcases draft.text_of_mem_passages p hp with hshort | ⟨leaf, hleaf, htext⟩
  · exact .inl hshort
  rcases h with hdraft | hleaves
  · have hline : '\n' ∉ p.text.toList := by
      intro hmem
      rw [htext] at hmem
      exact absurd ((isWritable_of_mem_leaves hplain leaf hleaf).text _ hmem) (by decide)
    rw [← Glyph.width_toList, toList_text, documentChars, Glyph.width_append, width_declaration,
      Glyph.width_cons, ← Nat.add_assoc] at hdraft
    exact .inr ⟨hline, hdraft⟩
  · exact .inl (htext ▸ hleaves leaf hleaf)

/-- Reading undoes writing. -/
theorem parse_text (draft : Draft) (hplain : draft.IsPlain) (hundivided : draft.IsUndivided) :
    (parse (.text draft.text) draft.filename).1 = .ok draft.document ∧
      ∀ record ∈ (parse (.text draft.text) draft.filename).2, record.level ≠ .error := by
  obtain ⟨events, harrive, htokens⟩ := tokenize_written draft.toList_text
    (isWritable_of_mem_passages hplain) draft.nested_passages (by simp [passages])
  obtain rfl : events = draft.events := harrive.eq_events hundivided
  have hcomplete := Source.framesAfter_tokenize (congrArg Tokenized.verdict htokens)
  rw [htokens] at hcomplete
  have hparse : (parse (.text draft.text) draft.filename).1 = .ok draft.document := by
    refine parse_eq_ok_iff.2 ⟨hplain.named, congrArg Tokenized.verdict htokens, ?_, ?_⟩
    · rw [htokens]
      exact valid_offersOf_events hplain hcomplete
    · rw [htokens]
      exact (gather_offersOf_events hplain hcomplete).symm
  refine ⟨hparse, fun record hrecord => ?_⟩
  rw [level_of_mem_parse hparse hrecord]
  decide

/-- A release with a size, two hashes and a mirror is read back. -/
theorem release_is_read_back :
    let draft : Draft := ⟨"f.rpm", some 1024, [⟨"md5", "0a1b"⟩, ⟨"sha-256", "né 2"⟩],
      [⟨"http://a/", [.location "de", .preference 90]⟩]⟩
    draft.IsPlain ∧ draft.IsUndivided ∧
      (parse (.text draft.text) "f.rpm").1 = .ok ⟨some "f.rpm", some 1024,
        [⟨"md5", "0a1b"⟩, ⟨"sha-256", "né 2"⟩], [⟨"http://a/", none, none, some "de", 90⟩]⟩ := by
  intro draft
  have hplain : draft.IsPlain := by decide
  have hundivided : draft.IsUndivided := isUndivided_of_le hplain (.inr (by decide))
  exact ⟨hplain, hundivided, (parse_text draft hplain hundivided).1⟩

end Draft

/-! ## A text that is divided -/

/-- An accepted document has a hash for every text of a hash element. -/
theorem length_texts_le_length_hashes {source : Source} {before after : List Event}
    {leaf : Element} (h : source.tokenize.events = before ++ (leaf.events ++ after))
    (hname : leaf.owner.name = "hash") {expected : String} {doc : Document}
    (hparse : (parse source expected).1 = .ok doc) : leaf.texts.length ≤ doc.hashes.length := by
  obtain ⟨-, -, hvalid, rfl⟩ := parse_eq_ok_iff.1 hparse
  rw [offersOf_around_leaf h] at hvalid ⊢
  have hgive : ∀ offer ∈ leaf.offers, offer.hash?.isSome = true := by
    intro offer hoffer
    have hmem := List.mem_append_right (offersOf [] before)
      (List.mem_append_left (offersOf (framesAfter [] before) after) hoffer)
    obtain ⟨text, -, rfl⟩ := List.mem_map.1 hoffer
    obtain ⟨type, htype⟩ := Option.isSome_iff_exists.1 ((hvalid _ hmem).hash hname).1
    simp [Offer.hash?, hname, htype]
  have hlength := List.filterMap_length_eq_length.2 hgive
  have htexts : leaf.texts.length ≤ leaf.offers.length := by
    rw [Element.offers, List.length_map, Element.contents]
    split <;> simp_all
  simp only [gather, List.filterMap_append, List.length_append, hlength]
  omega

namespace Draft

/-- A hash that is longer than the buffer, begins in the first portion and leaves it is read as
more than one. -/
theorem two_le_length_hashes {draft : Draft} (hplain : draft.IsPlain) {front back : List Passage}
    {line value : String} {attributes : List (String × String)}
    (hpassages : draft.passages =
      front ++ ⟨line, .opening "hash" attributes⟩ :: ⟨value, .closing "hash"⟩ :: back)
    (hlong : bufferSize < value.utf8ByteSize)
    (hleaves : LeavesFirstPortion
      (39 + Glyph.width (written (front ++ [⟨line, .opening "hash" attributes⟩]))) value.toList)
    {expected : String} {doc : Document}
    (hparse : (parse (.text draft.text) expected).1 = .ok doc) : 2 ≤ doc.hashes.length := by
  obtain ⟨events, harrive, htokens⟩ := tokenize_written draft.toList_text
    (isWritable_of_mem_passages hplain) draft.nested_passages (by simp [passages])
  rw [hpassages] at harrive
  obtain ⟨before, texts, after, htexts, rfl⟩ := harrive.exists_leaf
  let leaf : Element := ⟨⟨"hash", flatPairs attributes⟩, texts⟩
  have hevents : (Source.text draft.text).tokenize.events = before ++ (leaf.events ++ after) := by
    rw [htokens]
    simp [leaf, Element.events, Tag.event]
  exact (htexts.parted hlong hleaves).trans (length_texts_le_length_hashes hevents rfl hparse)

theorem width_replicate (n : Nat) (c : Char) :
    Glyph.width (List.replicate n c) = n * c.utf8Size := by
  induction n with
  | zero => simp
  | succ n ih => rw [List.replicate_succ, Glyph.width_cons, ih, Nat.succ_mul, Nat.add_comm]

/-- A letter any number of times is plain. -/
theorem isPlain_replicate {n : Nat} (hn : n ≠ 0) :
    Hash.IsPlain ⟨"md5", String.ofList (List.replicate n 'a')⟩ := by
  have hmem : ∀ c ∈ (String.ofList (List.replicate n 'a')).toList, c = 'a' := by
    rw [String.toList_ofList]
    exact fun c => List.eq_of_mem_replicate
  have hblank : ∀ c ∈ (String.ofList (List.replicate n 'a')).toList, isBlank c = false := by
    intro c hc
    rw [hmem c hc]
    decide
  refine ⟨(by decide : Xml.IsPlain "md5"), fun c hc => ?_, ⟨?_, ?_⟩, ?_⟩
  · rw [hmem c hc]
    decide
  · exact fun c hc => hblank c (List.mem_of_head? hc)
  · exact fun c hc => hblank c (List.mem_of_getLast? hc)
  · simpa using hn

/-- A text of as many letters as a portion has bytes leaves the first portion. -/
theorem leavesFirstPortion_replicate {place : Nat} (hpositive : 0 < place)
    (hfirst : place < portionSize) :
    LeavesFirstPortion place (List.replicate portionSize 'a') := by
  have hsize : Char.utf8Size 'a' = 1 := rfl
  rw [LeavesFirstPortion, width_replicate, hsize]
  exact ⟨⟨'a', rfl, by decide, by decide, by omega⟩, by omega⟩

/-- A hash of as many bytes as a portion has reads as two, though the draft is plain. -/
theorem long_hash_is_divided :
    let draft : Draft :=
      ⟨"f.rpm", none, [⟨"md5", String.ofList (List.replicate portionSize 'a')⟩], []⟩
    draft.IsPlain ∧ (parse (.text draft.text) draft.filename).1 ≠ .ok draft.document := by
  have hhash := isPlain_replicate (n := portionSize) (by decide)
  obtain ⟨value, hvalue⟩ : ∃ value, String.ofList (List.replicate portionSize 'a') = value :=
    ⟨_, rfl⟩
  have hchars : value.toList = List.replicate portionSize 'a' := by
    rw [← hvalue, String.toList_ofList]
  rw [hvalue] at hhash ⊢
  intro draft
  have hplain : draft.IsPlain :=
    ⟨(by decide : "f.rpm" ≠ ""), (by decide : Xml.IsPlain "f.rpm"), nofun,
      List.forall_mem_singleton.2 hhash, nofun⟩
  refine ⟨hplain, fun hparse => ?_⟩
  let front : List Passage :=
    [⟨"", .opening "metalink" [("version", "3.0"), ("xmlns", "http://www.metalinker.org/")]⟩,
      ⟨"\n  ", .opening "files" []⟩, ⟨"\n    ", .opening "file" [("name", "f.rpm")]⟩,
      ⟨"\n      ", .opening "verification" []⟩]
  let opening : Passage := ⟨"\n        ", .opening "hash" [("type", "md5")]⟩
  let back : List Passage :=
    [⟨"\n      ", .closing "verification"⟩, ⟨"\n      ", .opening "resources" []⟩,
      ⟨"\n      ", .closing "resources"⟩, ⟨"\n    ", .closing "file"⟩,
      ⟨"\n  ", .closing "files"⟩, ⟨"\n", .closing "metalink"⟩]
  have hpassages : draft.passages = front ++ opening :: ⟨value, .closing "hash"⟩ :: back := rfl
  have hfirst : 39 + Glyph.width (written (front ++ [opening])) < portionSize := by
    decide +kernel
  have hleaves :
      LeavesFirstPortion (39 + Glyph.width (written (front ++ [opening]))) value.toList := by
    rw [hchars]
    exact leavesFirstPortion_replicate (by omega) hfirst
  have hlong : bufferSize < value.utf8ByteSize := by
    rw [← Glyph.width_toList, hchars, width_replicate]
    decide
  have htwo : 2 ≤ draft.document.hashes.length :=
    two_le_length_hashes hplain hpassages hlong hleaves hparse
  exact absurd htwo (Nat.lt_irrefl 1)

end Draft

end Metalink
