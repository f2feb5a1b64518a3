import Mathlib.Tactic.Common
import Metalink.Draft
import Metalink.Proofs.Text.Numeral
import Metalink.Proofs.Xml.Passages
import Metalink.Reader.Element

/-!
# The layout of a draft

A draft is written line by line, which is the same as element by element: a size, a hash or a
mirror is an element that holds nothing but text, and the others stand around these, with blank
text in front of every tag.  If the draft holds no character that has a meaning in markup, then
its elements can be written, and are nested.

Main results:

- `toList_text`: a draft is written as its passages.
- `isWritable_of_mem_passages`: the passages of a plain draft can be written.
- `text_of_mem_passages`: a text of a draft is short, or stands in a size, a hash or a mirror.
- `nested_passages`: the passages of a draft are nested.
-/

namespace Metalink

open Metalink.Text Metalink.Xml

/-! ## Plain drafts -/

/-- What is said about a mirror has no meaning in markup, and a preference is in range. -/
def MirrorNote.IsPlain : MirrorNote → Prop
  | protocol text | type text | location text => Xml.IsPlain text
  | preference value => Mirror.minPreference ≤ value ∧ value ≤ Mirror.maxPreference

/-- The address of a mirror has no meaning in markup, neither starts nor ends with white space,
and is not too short; nothing is said twice about it. -/
@[mk_iff]
structure MirrorDraft.IsPlain (m : MirrorDraft) : Prop where
  url : Xml.IsPlain m.url
  trimmed : IsTrimmed m.url
  long : Mirror.minUrlBytes < m.url.utf8ByteSize
  notes : ∀ note ∈ m.notes, note.IsPlain
  nodup : (m.notes.map MirrorNote.name).Nodup

/-- A hash has no meaning in markup, and its value is there, with no white space around it. -/
@[mk_iff]
structure Hash.IsPlain (h : Hash) : Prop where
  type : Xml.IsPlain h.type
  value : Xml.IsPlain h.value
  trimmed : IsTrimmed h.value
  nonempty : h.value ≠ ""

/-- Nothing in a draft has a meaning in markup, and nothing of it is lost in reading. -/
@[mk_iff]
structure Draft.IsPlain (draft : Draft) : Prop where
  named : draft.filename ≠ ""
  filename : Xml.IsPlain draft.filename
  size : ∀ n ∈ draft.size, (toString n.natAbs).length ≤ maxDigits
  hashes : ∀ h ∈ draft.hashes, h.IsPlain
  mirrors : ∀ m ∈ draft.mirrors, m.IsPlain

instance (s : String) : Decidable (IsTrimmed s) :=
  have (o : Option Char) : Decidable (∀ c, o = some c → isBlank c = false) :=
    o.decidableForallMem
  inferInstanceAs (Decidable (_ ∧ _))

instance (note : MirrorNote) : Decidable note.IsPlain :=
  match note with
  | .protocol text | .type text | .location text => inferInstanceAs (Decidable (Xml.IsPlain text))
  | .preference _ => inferInstanceAs (Decidable (_ ∧ _))

instance (m : MirrorDraft) : Decidable m.IsPlain :=
  decidable_of_iff _ m.isPlain_iff.symm

instance (h : Hash) : Decidable h.IsPlain :=
  decidable_of_iff _ h.isPlain_iff.symm

instance (draft : Draft) : Decidable draft.IsPlain :=
  decidable_of_iff _ draft.isPlain_iff.symm

/-! ## Elements of a draft -/

/-- An element that holds nothing but text. -/
structure Leaf where
  name : String
  attributes : List (String × String)
  text : String
deriving DecidableEq, Repr

namespace Leaf

/-- The tags of an element with the text in it, and some text in front. -/
def passages (line : String) (leaf : Leaf) : List Passage :=
  [⟨line, .opening leaf.name leaf.attributes⟩, ⟨leaf.text, .closing leaf.name⟩]

/-- An element that holds nothing but text can be written. -/
structure IsWritable (leaf : Leaf) : Prop where
  tag : (Tag.opening leaf.name leaf.attributes).IsWritable
  text : Xml.IsPlain leaf.text

end Leaf

/-- The element for a size. -/
def sizeLeaf (n : Int) : Leaf := ⟨"size", [], toString n⟩

/-- The element for a hash. -/
def Hash.leaf (h : Hash) : Leaf := ⟨"hash", [("type", h.type)], h.value⟩

/-- The element for a mirror. -/
def MirrorDraft.leaf (m : MirrorDraft) : Leaf :=
  ⟨"url", m.notes.map fun note => (note.name, note.value), m.url⟩

namespace Draft

/-- The tags of an element around others, each with some text in front. -/
def around (line name : String) (attributes : List (String × String))
    (inner : List Passage) : List Passage :=
  ⟨line, .opening name attributes⟩ :: (inner ++ [⟨line, .closing name⟩])

/-- The elements of a draft that hold text. -/
def leaves (draft : Draft) : List Leaf :=
  draft.size.toList.map sizeLeaf ++ (draft.hashes.map Hash.leaf ++
    draft.mirrors.map MirrorDraft.leaf)

/-- What stands in the file element. -/
def description (draft : Draft) : List Passage :=
  (draft.size.toList.map sizeLeaf).flatMap (Leaf.passages "\n      ") ++
    (around "\n      " "verification" []
        ((draft.hashes.map Hash.leaf).flatMap (Leaf.passages "\n        ")) ++
      around "\n      " "resources" []
        ((draft.mirrors.map MirrorDraft.leaf).flatMap (Leaf.passages "\n        ")))

/-- What stands in the document element. -/
def body (draft : Draft) : List Passage :=
  around "\n  " "files" [] (around "\n    " "file" [("name", draft.filename)] draft.description)

/-- The tags of a draft, with the texts in front of them. -/
def passages (draft : Draft) : List Passage :=
  ⟨"", .opening "metalink" [("version", "3.0"), ("xmlns", "http://www.metalinker.org/")]⟩ ::
    (draft.body ++ [⟨"\n", .closing "metalink"⟩])

/-! ## Lines and passages -/

/-- The characters of lines after another one. -/
def lineChars (lines : List String) : List Char :=
  lines.flatMap fun line => '\n' :: line.toList

/-- Joined lines are the first one and every other one after a line break. -/
theorem toList_intercalate_lines (first : String) (lines : List String) :
    (String.intercalate "\n" (first :: lines)).toList = first.toList ++ lineChars lines := by
  have hline : "\n".toList = ['\n'] := rfl
  rw [String.toList_intercalate, hline, List.map_cons]
  induction lines generalizing first with
  | nil => simp [lineChars]
  | cons line lines ih =>
    rw [List.map_cons, List.intercalate_cons_cons, ih]
    simp [lineChars]

theorem lineChars_append (first rest : List String) :
    lineChars (first ++ rest) = lineChars first ++ lineChars rest :=
  List.flatMap_append

/-- Lines that are each written as a leaf. -/
theorem lineChars_map {α : Type} {line : α → String} {leaf : α → Leaf} {indent : String}
    (h : ∀ a, '\n' :: (line a).toList = written ((leaf a).passages indent)) (items : List α) :
    lineChars (items.map line) = written ((items.map leaf).flatMap (Leaf.passages indent)) := by
  induction items with
  | nil => rfl
  | cons item items ih =>
    rw [List.map_cons, List.map_cons, List.flatMap_cons, written_append, ← ih, ← h]
    rfl

theorem toList_attributeText (name value : String) :
    (attributeText name value).toList = attributeChars (name, value) := by
  simp [attributeText, attributeChars]

/-- The line of the size is an element with its text. -/
theorem cons_toList_sizeLine (n : Int) :
    '\n' :: (sizeLine n).toList = written ((sizeLeaf n).passages "\n      ") := by
  simp [sizeLine, sizeLeaf, Leaf.passages, written, Passage.chars, Tag.chars]

theorem cons_toList_hashLine (h : Hash) :
    '\n' :: (hashLine h).toList = written (h.leaf.passages "\n        ") := by
  simp [hashLine, toList_attributeText, Hash.leaf, Leaf.passages, written, Passage.chars, Tag.chars]

theorem cons_toList_mirrorLine (m : MirrorDraft) :
    '\n' :: (mirrorLine m).toList = written (m.leaf.passages "\n        ") := by
  simp [mirrorLine, toList_attributeText, MirrorDraft.leaf, Leaf.passages, written, Passage.chars,
    Tag.chars, List.flatMap_map]

/-- The lines for what stands in the file element. -/
def descriptionLines (draft : Draft) : List String :=
  draft.size.toList.map sizeLine ++ ["      <verification>"] ++ draft.hashes.map hashLine ++
    ["      </verification>"] ++ ["      <resources>"] ++ draft.mirrors.map mirrorLine ++
    ["      </resources>"]

theorem lines_eq (draft : Draft) :
    draft.lines = opening draft.filename ++
      (draft.descriptionLines ++ ["    </file>", "  </files>", "</metalink>"]) := by
  simp only [lines, descriptionLines, List.append_assoc]

/-- The lines of the description are its passages. -/
theorem lineChars_descriptionLines (draft : Draft) :
    lineChars draft.descriptionLines = written draft.description := by
  unfold descriptionLines
  simp only [description, around, lineChars_append, lineChars_map cons_toList_sizeLine,
    lineChars_map cons_toList_hashLine, lineChars_map cons_toList_mirrorLine, written_append,
    written_cons]
  simp [lineChars, written, Passage.chars, Tag.chars]

/-- The lines in front of what stands in the file element. -/
theorem lineChars_opening (filename : String) :
    lineChars (opening filename).tail =
      '\n' :: written [⟨"", .opening "metalink"
          [("version", "3.0"), ("xmlns", "http://www.metalinker.org/")]⟩,
        ⟨"\n  ", .opening "files" []⟩, ⟨"\n    ", .opening "file" [("name", filename)]⟩] := by
  simp [opening, lineChars, toList_attributeText, written, Passage.chars, Tag.chars,
    attributeChars]

/-- The lines after what stands in the file element. -/
theorem lineChars_closing :
    lineChars ["    </file>", "  </files>", "</metalink>"] =
      written [⟨"\n    ", .closing "file"⟩, ⟨"\n  ", .closing "files"⟩,
        ⟨"\n", .closing "metalink"⟩] := by
  simp [lineChars, written, Passage.chars, Tag.chars]

/-- A draft is written as its passages. -/
theorem toList_text (draft : Draft) : draft.text.toList = documentChars draft.passages := by
  have hfirst (rest : List String) :
      (String.intercalate "\n" (opening draft.filename ++ rest)).toList =
        declaration ++ lineChars ((opening draft.filename).tail ++ rest) :=
    toList_intercalate_lines _ _
  simp only [text, lines_eq, hfirst, lineChars_append, lineChars_opening,
    lineChars_descriptionLines, lineChars_closing, documentChars]
  congr 1
  have hnil : written [] = [] := rfl
  simp only [passages, body, around, List.cons_append, List.append_assoc, written_cons,
    written_append, hnil, List.nil_append, List.append_nil]

/-! ## Passages that can be written -/

theorem isPlain_toString (n : Int) : Xml.IsPlain (toString n) := by
  intro c hc
  rcases isDigit_or_eq_minus hc with hdigit | rfl
  · have hrange : 48 ≤ c.toNat ∧ c.toNat ≤ 57 := Char.isDigit_iff_toNat.1 hdigit
    have hplain : ∀ n < 58, 48 ≤ n → isPlainChar (Char.ofNat n) = true := by decide
    have hc := hplain c.toNat (by omega) hrange.1
    rwa [Char.ofNat_toNat] at hc
  · decide

/-- What holds of all passages around others holds of the two tags and of these. -/
theorem forall_mem_around {P : Passage → Prop} {line name : String}
    {attributes : List (String × String)} {inner : List Passage} :
    (∀ p ∈ around line name attributes inner, P p) ↔
      P ⟨line, .opening name attributes⟩ ∧ (∀ p ∈ inner, P p) ∧ P ⟨line, .closing name⟩ := by
  rw [around, List.forall_mem_cons, List.forall_mem_append, List.forall_mem_singleton]

/-- What holds of all passages of leaves holds of the two tags of each. -/
theorem forall_mem_leaves {P : Passage → Prop} {line : String} {leaves : List Leaf} :
    (∀ p ∈ leaves.flatMap (Leaf.passages line), P p) ↔
      ∀ leaf ∈ leaves, P ⟨line, .opening leaf.name leaf.attributes⟩ ∧
        P ⟨leaf.text, .closing leaf.name⟩ := by
  rw [List.forall_mem_flatMap]
  refine forall₂_congr fun leaf _ => ?_
  rw [Leaf.passages, List.forall_mem_cons, List.forall_mem_singleton]

section Writable

variable {line : String} (hline : ∀ c ∈ line.toList, isTextChar c = true)
include hline

/-- Passages within tags that can be written can be written. -/
theorem isWritable_around {name : String} {attributes : List (String × String)}
    (htag : (Tag.opening name attributes).IsWritable) {inner : List Passage}
    (hinner : ∀ p ∈ inner, p.IsWritable) :
    ∀ p ∈ around line name attributes inner, p.IsWritable :=
  forall_mem_around.2 ⟨⟨hline, htag⟩, hinner, ⟨hline, htag.1⟩⟩

theorem isWritable_leaves {leaves : List Leaf} (h : ∀ leaf ∈ leaves, leaf.IsWritable) :
    ∀ p ∈ leaves.flatMap (Leaf.passages line), p.IsWritable := by
  refine forall_mem_leaves.2 fun leaf hleaf => ?_
  obtain ⟨htag, htext⟩ := h leaf hleaf
  exact ⟨⟨hline, htag⟩, fun c hc => isTextChar_iff.2 (.inl (htext c hc)), htag.1⟩

end Writable

/-- The names in the markup of a draft. -/
theorem isName_of_mem : ∀ name ∈ ["metalink", "files", "file", "name", "size", "verification",
    "hash", "resources", "url", "protocol", "type", "location", "preference"], IsName name := by
  decide

theorem isName_note (note : MirrorNote) : IsName note.name :=
  isName_of_mem _ (by cases note <;> simp [MirrorNote.name])

theorem isWritable_opening {name : String} (h : IsName name) :
    (Tag.opening name []).IsWritable :=
  ⟨h, by simp, by simp⟩

theorem isWritable_sizeLeaf (n : Int) : (sizeLeaf n).IsWritable where
  tag := isWritable_opening (isName_of_mem _ (by simp [sizeLeaf]))
  text := isPlain_toString n

theorem isWritable_hash {h : Hash} (hplain : h.IsPlain) : h.leaf.IsWritable where
  tag := by
    refine ⟨isName_of_mem _ (by simp [Hash.leaf]), ?_, by simp [Hash.leaf]⟩
    rw [Hash.leaf, List.forall_mem_singleton]
    exact ⟨isName_of_mem _ (by simp), hplain.type⟩
  text := hplain.value

theorem isWritable_mirror {m : MirrorDraft} (hplain : m.IsPlain) : m.leaf.IsWritable where
  tag := by
    refine ⟨isName_of_mem _ (by simp [MirrorDraft.leaf]), ?_, ?_⟩
    · rw [MirrorDraft.leaf, List.forall_mem_map]
      intro note hnote
      refine ⟨isName_note note, ?_⟩
      have htext := hplain.notes note hnote
      cases note with
      | protocol text | type text | location text => exact htext
      | preference value => exact isPlain_toString value
    · rw [MirrorDraft.leaf, List.map_map]
      exact hplain.nodup
  text := hplain.url

/-- All leaves of a plain draft can be written. -/
theorem isWritable_of_mem_leaves {draft : Draft} (hplain : draft.IsPlain) :
    ∀ leaf ∈ draft.leaves, leaf.IsWritable := by
  simp only [leaves, List.forall_mem_append, List.forall_mem_map]
  exact ⟨fun n _ => isWritable_sizeLeaf n, fun h hh => isWritable_hash (hplain.hashes h hh),
    fun m hm => isWritable_mirror (hplain.mirrors m hm)⟩

/-- The texts that lay out a draft, in front of its tags. -/
def indents : List String :=
  ["", "\n", "\n  ", "\n    ", "\n      ", "\n        "]

/-- The passages of a plain draft can be written. -/
theorem isWritable_of_mem_passages {draft : Draft} (hplain : draft.IsPlain) :
    ∀ p ∈ draft.passages, p.IsWritable := by
  have hline : ∀ line ∈ indents, ∀ c ∈ line.toList, isTextChar c = true := by
    have hall : ∀ line ∈ indents, line.toList.all isTextChar = true := by decide
    exact fun line h => List.all_eq_true.1 (hall line h)
  have hleaves := isWritable_of_mem_leaves hplain
  rw [leaves, List.forall_mem_append, List.forall_mem_append] at hleaves
  obtain ⟨hsizes, hhashes, hmirrors⟩ := hleaves
  have hdescription : ∀ p ∈ draft.description, p.IsWritable := by
    rw [description, List.forall_mem_append, List.forall_mem_append]
    exact ⟨isWritable_leaves (hline _ (by decide)) hsizes,
      isWritable_around (hline _ (by decide)) (isWritable_opening (isName_of_mem _ (by decide)))
        (isWritable_leaves (hline _ (by decide)) hhashes),
      isWritable_around (hline _ (by decide)) (isWritable_opening (isName_of_mem _ (by decide)))
        (isWritable_leaves (hline _ (by decide)) hmirrors)⟩
  have hfile : (Tag.opening "file" [("name", draft.filename)]).IsWritable :=
    ⟨isName_of_mem _ (by decide),
      List.forall_mem_singleton.2 ⟨isName_of_mem _ (by simp), hplain.filename⟩, by simp⟩
  have hbody : ∀ p ∈ draft.body, p.IsWritable :=
    isWritable_around (hline _ (by decide)) (isWritable_opening (isName_of_mem _ (by decide)))
      (isWritable_around (hline _ (by decide)) hfile hdescription)
  rw [passages, List.forall_mem_cons, List.forall_mem_append, List.forall_mem_singleton]
  exact ⟨⟨hline _ (by decide), by decide, by decide, by decide⟩, hbody,
    ⟨hline _ (by decide), isName_of_mem _ (by decide)⟩⟩

/-- The texts of a draft are those of its leaves, and short ones that lay it out. -/
theorem text_of_mem_passages (draft : Draft) :
    ∀ p ∈ draft.passages, p.text.utf8ByteSize ≤ bufferSize ∨
      ∃ leaf ∈ draft.leaves, p.text = leaf.text := by
  let P (p : Passage) : Prop :=
    p.text.utf8ByteSize ≤ bufferSize ∨ ∃ leaf ∈ draft.leaves, p.text = leaf.text
  have hshort : ∀ line ∈ indents, line.utf8ByteSize ≤ bufferSize := by decide
  have hline {line : String} (h : line ∈ indents) (tag : Tag) : P ⟨line, tag⟩ :=
    .inl (hshort line h)
  have hleaves {among : List Leaf} (hamong : among ⊆ draft.leaves) {line : String}
      (h : line ∈ indents) : ∀ p ∈ among.flatMap (Leaf.passages line), P p :=
    forall_mem_leaves.2 fun leaf hleaf => ⟨hline h _, .inr ⟨leaf, hamong hleaf, rfl⟩⟩
  have hdescription : ∀ p ∈ draft.description, P p := by
    rw [description, List.forall_mem_append, List.forall_mem_append, forall_mem_around,
      forall_mem_around]
    have hindent : "\n      " ∈ indents := by decide
    have hdeeper : "\n        " ∈ indents := by decide
    exact ⟨hleaves (by simp [leaves]) hindent,
      ⟨hline hindent _, hleaves (by simp [leaves]) hdeeper, hline hindent _⟩,
      ⟨hline hindent _, hleaves (by simp [leaves]) hdeeper, hline hindent _⟩⟩
  rw [passages, List.forall_mem_cons, List.forall_mem_append, List.forall_mem_singleton, body,
    forall_mem_around, forall_mem_around]
  exact ⟨hline (by decide) _, ⟨hline (by decide) _, ⟨hline (by decide) _, hdescription,
    hline (by decide) _⟩, hline (by decide) _⟩, hline (by decide) _⟩

/-! ## Passages that are nested -/

/-- Passages that leave the elements open that were open before. -/
def IsBalanced (inner : List Passage) : Prop :=
  ∀ names rest, names ≠ [] → Nested names rest → Nested names (inner ++ rest)

namespace IsBalanced

theorem append {first rest : List Passage} (hfirst : IsBalanced first) (hrest : IsBalanced rest) :
    IsBalanced (first ++ rest) := by
  intro names others hne h
  rw [List.append_assoc]
  exact hfirst names _ hne (hrest names others hne h)

theorem around {inner : List Passage} (h : IsBalanced inner) (line name : String)
    (attributes : List (String × String)) :
    IsBalanced (Draft.around line name attributes inner) := by
  intro names rest hne hrest
  have hinner := h (name :: names) _ (List.cons_ne_nil _ _) (.closing line name hne hrest)
  have hall := Nested.opening line name attributes hinner
  simpa [Draft.around] using hall

theorem leaves (line : String) (leaves : List Leaf) :
    IsBalanced (leaves.flatMap (Leaf.passages line)) := by
  induction leaves with
  | nil => exact fun _ _ _ hrest => hrest
  | cons leaf leaves ih =>
    have hleaf : IsBalanced (leaf.passages line) := fun names rest hne hrest =>
      .opening line leaf.name leaf.attributes (.closing leaf.text leaf.name hne hrest)
    exact hleaf.append ih

end IsBalanced

/-- The body of a draft is balanced. -/
theorem isBalanced_body (draft : Draft) : IsBalanced draft.body := by
  have hdescription : IsBalanced draft.description :=
    (IsBalanced.leaves _ _).append
      (((IsBalanced.leaves _ _).around _ _ _).append ((IsBalanced.leaves _ _).around _ _ _))
  exact (hdescription.around _ _ _).around _ _ _

/-- The passages of a draft are nested. -/
theorem nested_passages (draft : Draft) : Nested [] draft.passages := by
  have hlast : Nested ["metalink"] [⟨"\n", .closing "metalink"⟩] := .last ..
  exact .opening _ _ _ (draft.isBalanced_body _ _ (List.cons_ne_nil _ _) hlast)

end Draft

end Metalink
