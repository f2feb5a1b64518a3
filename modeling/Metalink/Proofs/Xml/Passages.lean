import Mathlib.Tactic.Common
import Metalink.Proofs.Xml.Arrival
import Metalink.Xml.Source

/-!
# Reading what was written

A document is written as passages: tags, each with the text in front of it.  If the tags are
nested, the document is well-formed and reads as the events of its passages; only a text that is
longer than the buffer, and that a portion ends in, may arrive in parts.

Main results:

- `Scope.read_opening`, `Scope.read_closing`, `Scope.read_last`: what a tag leads to.
- `Scope.read_passages`: nested passages are read up to the end of the document element.
- `tokenize_written`: the events of a document that is written.
-/

namespace Metalink.Xml

open Glyph

/-! ## Passages -/

/-- A tag with the text in front of it. -/
structure Passage where
  text : String
  tag : Tag
deriving DecidableEq, Repr

namespace Passage

/-- The characters of a passage. -/
def chars (passage : Passage) : List Char :=
  passage.text.toList ++ passage.tag.chars

/-- A passage can be written. -/
structure IsWritable (passage : Passage) : Prop where
  text : ∀ c ∈ passage.text.toList, isTextChar c = true
  tag : passage.tag.IsWritable

end Passage

/-- The characters of passages. -/
def written (passages : List Passage) : List Char :=
  passages.flatMap Passage.chars

theorem written_cons (passage : Passage) (passages : List Passage) :
    written (passage :: passages) = passage.chars ++ written passages :=
  List.flatMap_cons

theorem written_append (first rest : List Passage) :
    written (first ++ rest) = written first ++ written rest :=
  List.flatMap_append

/-- Every tag begins with an angle bracket. -/
theorem Tag.exists_chars (tag : Tag) : ∃ more, tag.chars = '<' :: more := by
  cases tag <;> exact ⟨_, rfl⟩

theorem Tag.event_ne_text (tag : Tag) (text : CodeText) : tag.event ≠ .text text := by
  cases tag <;> nofun

/-- Passages that go on in open elements, innermost first, to the end of the outermost one. -/
inductive Nested : List String → List Passage → Prop
  | opening (text name : String) (attributes : List (String × String)) {names : List String}
      {rest : List Passage} (h : Nested (name :: names) rest) :
      Nested names (⟨text, .opening name attributes⟩ :: rest)
  | closing (text name : String) {names : List String} {rest : List Passage} (hne : names ≠ [])
      (h : Nested names rest) : Nested (name :: names) (⟨text, .closing name⟩ :: rest)
  | last (text name : String) : Nested [name] [⟨text, .closing name⟩]

/-! ## Passages as they are read -/

/-- How passages from a place on arrive as events. -/
inductive Arrive : Nat → List Passage → List Event → Prop
  | nil (place : Nat) : Arrive place [] []
  | cons {place : Nat} {passage : Passage} {rest : List Passage} {texts : List String}
      {events : List Event} (htexts : ArrivesAs place passage.text texts)
      (hrest : Arrive (place + width passage.chars) rest events) :
      Arrive place (passage :: rest) (texts.map Event.ofString ++ passage.tag.event :: events)

/-- The events of a passage with a text that arrives whole. -/
def Passage.events (passage : Passage) : List Event :=
  (if passage.text = "" then [] else [.text passage.text]) ++ [passage.tag.event]

/-- Among passages from a place on, every text that is longer than the buffer lies in one
portion. -/
def Undivided : Nat → List Passage → Prop
  | _, [] => True
  | place, passage :: rest =>
    (passage.text.utf8ByteSize ≤ bufferSize ∨ InOnePortion place passage.text.toList) ∧
      Undivided (place + width passage.chars) rest

/-- Texts that are longer than the buffer are undivided if each is on one line and the passages
end within the first portion. -/
theorem undivided_of_forall {place : Nat} {passages : List Passage}
    (h : ∀ p ∈ passages, p.text.utf8ByteSize ≤ bufferSize ∨
      '\n' ∉ p.text.toList ∧ place + width (written passages) < portionSize) :
    Undivided place passages := by
  induction passages generalizing place with
  | nil => trivial
  | cons passage rest ih =>
    rw [written_cons, width_append, ← Nat.add_assoc] at h
    obtain ⟨hfirst, hrest⟩ := List.forall_mem_cons.1 h
    refine ⟨hfirst.imp_right fun ⟨hline, hend⟩ => ⟨hline, ?_⟩, ih hrest⟩
    rw [Passage.chars, width_append] at hend
    rw [Nat.div_eq_of_lt (by omega), Nat.div_eq_of_lt (by omega)]

/-- Passages that no portion divides arrive with their texts whole. -/
theorem Arrive.eq_events {place : Nat} {passages : List Passage} {events : List Event}
    (h : Arrive place passages events) (hundivided : Undivided place passages) :
    events = passages.flatMap Passage.events := by
  induction h with
  | nil place => rfl
  | @cons place passage rest texts events htexts _ ih =>
    obtain ⟨hwhole, hrest⟩ := hundivided
    rw [htexts.whole hwhole, ih hrest, List.flatMap_cons, Passage.events]
    split <;> simp

/-- The events of passages begin with the texts and the tag of the first one. -/
theorem Arrive.exists_cons {place : Nat} {passage : Passage} {rest : List Passage}
    {events : List Event} (h : Arrive place (passage :: rest) events) :
    ∃ texts after, ArrivesAs place passage.text texts ∧
      Arrive (place + width passage.chars) rest after ∧
      events = texts.map Event.ofString ++ passage.tag.event :: after := by
  cases h with
  | cons htexts hrest => exact ⟨_, _, htexts, hrest, rfl⟩

/-- An element that holds nothing but text arrives as its tags and the texts between them. -/
theorem Arrive.exists_leaf {place : Nat} {front back : List Passage} {line text name : String}
    {attributes : List (String × String)} {events : List Event}
    (h : Arrive place
      (front ++ ⟨line, .opening name attributes⟩ :: ⟨text, .closing name⟩ :: back) events) :
    ∃ before texts after,
      ArrivesAs (place + width (written (front ++ [⟨line, .opening name attributes⟩]))) text
        texts ∧
      events = before ++ (Tag.event (.opening name attributes) ::
        (texts.map Event.ofString ++ .closed name :: after)) := by
  induction front generalizing place events with
  | nil =>
    obtain ⟨first, events, -, hrest, rfl⟩ := h.exists_cons
    obtain ⟨texts, after, htexts, -, rfl⟩ := hrest.exists_cons
    refine ⟨first.map Event.ofString, texts, after, ?_, rfl⟩
    simpa [written] using htexts
  | cons passage front ih =>
    obtain ⟨first, events, -, hrest, rfl⟩ := h.exists_cons
    obtain ⟨before, texts, after, htexts, rfl⟩ := ih hrest
    refine ⟨first.map Event.ofString ++ passage.tag.event :: before, texts, after, ?_, by simp⟩
    rwa [List.cons_append, written_cons, width_append, ← Nat.add_assoc]

/-! ## Reading passages -/

/-- Nothing is collected, and no entity has been read. -/
structure Progress.IsReady (progress : Progress) : Prop where
  tight : progress.output.IsTight
  collected : progress.output.collected = ""
  expanded : progress.tally.expanded = 0

/-- A tag and the texts in front of it have been delivered. -/
structure Progress.Passes (progress : Progress) (texts : List String) (tag : Tag)
    (next : Progress) : Prop where
  ready : next.IsReady
  delivered : next.output.delivered =
    progress.output.delivered ++ (texts.map Event.ofString ++ [tag.event])

namespace Scope

theorem rowAt_less (place : Nat) (cs : List Char) :
    rowAt place ('<' :: cs) = ⟨'<', place⟩ :: rowAt (place + 1) cs := rfl

variable {stop : Nat} (inside : EntityReader) (elements : List (List Char))

/-- At an angle bracket markup is scanned. -/
theorem scanToken_less (place : Nat) {cs : List Glyph} {scanned : Scanned Token}
    (h : scanMarkup (.whole stop) cs = scanned) :
    scanToken (.whole stop) ⟨'<', place⟩ cs = scanned := h

/-- An opening tag opens its element. -/
theorem read_opening (place : Nat) {progress : Progress} (htally : progress.tally.expanded = 0)
    {name : String} {attributes : List (String × String)}
    (h : (Tag.opening name attributes).IsWritable) (rest : List Char) :
    ∃ tally : Tally, tally.expanded = 0 ∧
      (undeclared stop).read inside progress elements false
          (rowAt place ((Tag.opening name attributes).chars ++ rest)) =
        (undeclared stop).read inside
          ⟨progress.output.addTag (Tag.opening name attributes).event, tally⟩
          (name.toList :: elements) false
          (rowAt (place + width (Tag.opening name attributes).chars) rest) := by
  obtain ⟨hname, hattributes, hnodup⟩ := h
  obtain ⟨raws, hraws, hscan⟩ := scanMarkup_opening stop place hname hattributes rest
  obtain ⟨tally, hexpanded, hread⟩ := read_undeclared htally (scanToken_less place hscan)
  have hcharge : Charge.document ≠ .entity := nofun
  obtain ⟨next, hnext, hvalues⟩ := Doctype.attributesOf_spelled [] hcharge hexpanded name.toList
    place hraws hnodup
  have hattributes : (undeclared stop).dtd.attributesOf (undeclared stop).opened
      ((undeclared stop).charge false) tally name.toList place raws = .ok ⟨_, next⟩ := hvalues
  have hrow : (Tag.opening name attributes).chars ++ rest =
      '<' :: (name.toList ++ (attributes.flatMap attributeChars ++ '>' :: rest)) := by
    simp [Tag.chars]
  refine ⟨next, hnext, ?_⟩
  rw [hrow, rowAt_less, hread]
  simp only [step, startStep, hattributes, flatAttributes_toList, Progress.addTag, Tag.event,
    String.ofList_toList, Bool.false_eq_true, if_false]

/-- A closing tag closes its element, and ends the document if it is the outermost one. -/
theorem read_closing (place : Nat) {progress : Progress}
    (htally : progress.tally.expanded = 0) {name : String} (h : (Tag.closing name).IsWritable)
    (rest : List Char) :
    ∃ tally : Tally, tally.expanded = 0 ∧
      (undeclared stop).read inside progress (name.toList :: elements) false
          (rowAt place ((Tag.closing name).chars ++ rest)) =
        let after := rowAt (place + width (Tag.closing name).chars) rest
        let progress : Progress := ⟨progress.output.addTag (Tag.closing name).event, tally⟩
        if elements.isEmpty then (progress, .closed after)
        else (undeclared stop).read inside progress elements false after := by
  have hscan := scanMarkup_closing stop place h rest
  obtain ⟨tally, hexpanded, hread⟩ := read_undeclared htally (scanToken_less place hscan)
  have hrow : (Tag.closing name).chars ++ rest = '<' :: '/' :: (name.toList ++ '>' :: rest) := by
    simp [Tag.chars]
  refine ⟨tally, hexpanded, ?_⟩
  rw [hrow, rowAt_less, hread]
  have hopened : (undeclared stop).opened.isEmpty = true := rfl
  simp only [step, endStep, if_true, close, Progress.addTag, Tag.event, String.ofList_toList,
    hopened, Bool.true_and]
  cases elements.isEmpty <;> rfl

/-- The text in front of a tag is read up to the tag, and arrives with it. -/
theorem read_before (place : Nat) {progress : Progress} (hready : progress.IsReady)
    {passage : Passage} (h : passage.IsWritable) (rest : List Char)
    (hstop : place + width passage.chars ≤ stop) :
    ∃ texts, ArrivesAs place passage.text texts ∧ ∃ mid : Progress, mid.tally.expanded = 0 ∧
      (∀ tally : Tally, tally.expanded = 0 →
        progress.Passes texts passage.tag ⟨mid.output.addTag passage.tag.event, tally⟩) ∧
      (undeclared stop).read inside progress elements false (rowAt place (passage.chars ++ rest)) =
        (undeclared stop).read inside mid elements false
          (rowAt (place + width passage.text.toList) (passage.tag.chars ++ rest)) := by
  obtain ⟨more, hmore⟩ := passage.tag.exists_chars
  have hroom : place + width passage.text.toList + 1 ≤ stop := by
    have hless : Char.utf8Size '<' = 1 := rfl
    rw [Passage.chars, width_append, hmore, width_cons, hless] at hstop
    omega
  obtain ⟨pieces, tally, hcut, hexpanded, hread⟩ :=
    read_text place progress hready.expanded h.text hroom
  obtain ⟨texts, harrives, hdelivered⟩ :=
    Output.exists_arrivesAs hready.tight hready.collected hcut passage.tag.event
  have hpieces := (hready.tight.exists_texts_addPieces pieces).1
  refine ⟨texts, harrives, ⟨progress.output.addPieces pieces, tally⟩, hexpanded, ?_, ?_⟩
  · intro next hnext
    exact ⟨⟨hpieces.addTag passage.tag.event_ne_text, Output.collected_addTag hpieces _, hnext⟩,
      hdelivered⟩
  · rw [Passage.chars, List.append_assoc, hmore]
    exact hread

/-- A passage with an opening tag is read, and its element is opened. -/
theorem read_opening_passage (place : Nat) {progress : Progress} (hready : progress.IsReady)
    {text name : String} {attributes : List (String × String)}
    (h : Passage.IsWritable ⟨text, .opening name attributes⟩) (rest : List Char)
    (hstop : place + width (Passage.chars ⟨text, .opening name attributes⟩) ≤ stop) :
    ∃ texts, ArrivesAs place text texts ∧ ∃ next,
      progress.Passes texts (.opening name attributes) next ∧
      (undeclared stop).read inside progress elements false
          (rowAt place (Passage.chars ⟨text, .opening name attributes⟩ ++ rest)) =
        (undeclared stop).read inside next (name.toList :: elements) false
          (rowAt (place + width (Passage.chars ⟨text, .opening name attributes⟩)) rest) := by
  obtain ⟨texts, harrives, mid, hmid, hpasses, hbefore⟩ :=
    read_before inside elements place hready h rest hstop
  obtain ⟨tally, hexpanded, htag⟩ :=
    read_opening inside elements (place + width text.toList) hmid h.tag rest
  refine ⟨texts, harrives, _, hpasses tally hexpanded, ?_⟩
  rw [hbefore, htag, Passage.chars, width_append, Nat.add_assoc]

/-- A passage with a closing tag is read, and its element is closed. -/
theorem read_closing_passage (place : Nat) {progress : Progress} (hready : progress.IsReady)
    {text name : String} (h : Passage.IsWritable ⟨text, .closing name⟩) (rest : List Char)
    (hstop : place + width (Passage.chars ⟨text, .closing name⟩) ≤ stop) :
    ∃ texts, ArrivesAs place text texts ∧ ∃ next, progress.Passes texts (.closing name) next ∧
      (undeclared stop).read inside progress (name.toList :: elements) false
          (rowAt place (Passage.chars ⟨text, .closing name⟩ ++ rest)) =
        let after := rowAt (place + width (Passage.chars ⟨text, .closing name⟩)) rest
        if elements.isEmpty then (next, .closed after)
        else (undeclared stop).read inside next elements false after := by
  obtain ⟨texts, harrives, mid, hmid, hpasses, hbefore⟩ :=
    read_before inside (name.toList :: elements) place hready h rest hstop
  obtain ⟨tally, hexpanded, htag⟩ :=
    read_closing inside elements (place + width text.toList) hmid h.tag rest
  refine ⟨texts, harrives, _, hpasses tally hexpanded, ?_⟩
  rw [hbefore, htag, Passage.chars, width_append, Nat.add_assoc]

/-- Nested passages are read up to the end of the document element. -/
theorem read_passages {names : List String} {passages : List Passage}
    (hnested : Nested names passages) (hwritable : ∀ p ∈ passages, p.IsWritable) (place : Nat)
    {progress : Progress} (hready : progress.IsReady) (rest : List Char)
    (hstop : place + width (written passages) ≤ stop) :
    ∃ events, Arrive place passages events ∧ ∃ last : Progress,
      last.output.delivered = progress.output.delivered ++ events ∧
      (undeclared stop).read inside progress (names.map String.toList) false
          (rowAt place (written passages ++ rest)) =
        (last, .closed (rowAt (place + width (written passages)) rest)) := by
  induction hnested generalizing place progress with
  | @opening text name attributes names passages _ ih =>
    obtain ⟨hpassage, hpassages⟩ := List.forall_mem_cons.1 hwritable
    rw [written_cons, width_append, ← Nat.add_assoc] at hstop
    obtain ⟨texts, harrives, next, hpasses, hread⟩ := read_opening_passage inside
      (names.map String.toList) place hready hpassage (written passages ++ rest)
      (Nat.le_of_add_right_le hstop)
    obtain ⟨events, harrive, last, hdelivered, hrest⟩ := ih hpassages _ hpasses.ready hstop
    refine ⟨_, .cons harrives harrive, last, ?_, ?_⟩
    · rw [hdelivered, hpasses.delivered, List.append_assoc, List.append_assoc]
      rfl
    · rw [written_cons, List.append_assoc, hread, width_append, ← Nat.add_assoc]
      exact hrest
  | @closing text name names passages hne _ ih =>
    obtain ⟨hpassage, hpassages⟩ := List.forall_mem_cons.1 hwritable
    rw [written_cons, width_append, ← Nat.add_assoc] at hstop
    obtain ⟨texts, harrives, next, hpasses, hread⟩ := read_closing_passage inside
      (names.map String.toList) place hready hpassage (written passages ++ rest)
      (Nat.le_of_add_right_le hstop)
    obtain ⟨events, harrive, last, hdelivered, hrest⟩ := ih hpassages _ hpasses.ready hstop
    refine ⟨_, .cons harrives harrive, last, ?_, ?_⟩
    · rw [hdelivered, hpasses.delivered, List.append_assoc, List.append_assoc]
      rfl
    · have hopen : (names.map String.toList).isEmpty = false := by simpa using hne
      rw [written_cons, List.append_assoc, List.map_cons, hread, hopen, width_append,
        ← Nat.add_assoc]
      exact hrest
  | last text name =>
    have hpassage := hwritable _ List.mem_cons_self
    have hchars : written [⟨text, .closing name⟩] = Passage.chars ⟨text, .closing name⟩ :=
      List.append_nil _
    rw [hchars] at hstop
    obtain ⟨texts, harrives, next, hpasses, hread⟩ :=
      read_closing_passage inside [] place hready hpassage rest hstop
    refine ⟨_, .cons harrives (.nil _), next, hpasses.delivered, ?_⟩
    rw [hchars]
    exact hread

end Scope

/-! ## Documents -/

/-- The declaration that a document begins with. -/
def declaration : List Char :=
  "<?xml version=\"1.0\" encoding=\"utf-8\"?>".toList

/-- The characters of a document that consists of passages. -/
def documentChars (passages : List Passage) : List Char :=
  declaration ++ '\n' :: written passages

/-- Plain characters may stand in a document. -/
theorem isMarkupChar_of_isPlainChar {c : Char} (h : isPlainChar c = true) :
    isMarkupChar c = true :=
  (isPlainChar_iff.1 h).1

theorem isMarkupChar_of_isTextChar {c : Char} (h : isTextChar c = true) :
    isMarkupChar c = true := by
  rcases isTextChar_iff.1 h with hplain | rfl
  · exact isMarkupChar_of_isPlainChar hplain
  · decide

theorem isMarkupChar_of_isNameChar {c : Char} (h : isNameChar c = true) :
    isMarkupChar c = true := by
  unfold isMarkupChar
  split
  · next hcontrol =>
    have hnone : ∀ n < 0x20, isNameChar (Char.ofNat n) = false := by decide
    have hfalse := hnone c.toNat hcontrol
    rw [Char.ofNat_toNat, h] at hfalse
    cases hfalse
  · simp only [Bool.and_eq_true, bne_iff_ne]
    constructor
    · rintro rfl
      exact absurd h (by decide)
    · rintro rfl
      exact absurd h (by decide)

theorem IsName.all_isMarkupChar {s : String} (h : IsName s) :
    s.toList.all isMarkupChar = true :=
  List.all_eq_true.2 fun c hc => isMarkupChar_of_isNameChar (h.2 c hc)

theorem IsPlain.all_isMarkupChar {s : String} (h : IsPlain s) :
    s.toList.all isMarkupChar = true :=
  List.all_eq_true.2 fun c hc => isMarkupChar_of_isPlainChar (h c hc)

/-- So may tags that can be written. -/
theorem all_isMarkupChar_chars {tag : Tag} (h : tag.IsWritable) :
    tag.chars.all isMarkupChar = true := by
  have hopen : isMarkupChar '<' = true := rfl
  have hslash : isMarkupChar '/' = true := rfl
  have hclose : isMarkupChar '>' = true := rfl
  have hspace : isMarkupChar ' ' = true := rfl
  have hequals : isMarkupChar '=' = true := rfl
  have hquote : isMarkupChar '"' = true := rfl
  cases tag with
  | opening name attributes =>
    obtain ⟨hname, hattributes, -⟩ := h
    have hvalues : (attributes.flatMap attributeChars).all isMarkupChar = true := by
      rw [List.all_flatMap, List.all_eq_true]
      intro a ha
      obtain ⟨haname, havalue⟩ := hattributes a ha
      simp [attributeChars, haname.all_isMarkupChar, havalue.all_isMarkupChar, hspace, hequals,
        hquote]
    simp [Tag.chars, hname.all_isMarkupChar, hvalues, hopen, hclose]
  | closing name =>
    have hname : IsName name := h
    simp [Tag.chars, hname.all_isMarkupChar, hopen, hslash, hclose]

/-- So may a whole document of passages that can be written. -/
theorem all_isMarkupChar_documentChars {passages : List Passage}
    (h : ∀ p ∈ passages, p.IsWritable) : (documentChars passages).all isMarkupChar = true := by
  have hdeclaration : declaration.all isMarkupChar = true := by decide
  have hline : isMarkupChar '\n' = true := rfl
  have hwritten : (written passages).all isMarkupChar = true := by
    rw [written, List.all_flatMap, List.all_eq_true]
    intro p hp
    have htext : p.text.toList.all isMarkupChar = true :=
      List.all_eq_true.2 fun c hc => isMarkupChar_of_isTextChar ((h p hp).text c hc)
    rw [Passage.chars, List.all_append, htext, all_isMarkupChar_chars (h p hp).tag]
    rfl
  rw [documentChars, List.all_append, hdeclaration, List.all_cons, hline, hwritten]
  rfl

/-! ## Reading documents -/

/-- What the declaration says. -/
def declared : List Glyph :=
  rowAt 5 " version=\"1.0\" encoding=\"utf-8\"".toList

/-- The declaration is found at the front of a document. -/
theorem splitDeclaration_declaration (stop : Nat) (rest : List Char) :
    splitDeclaration (.whole stop) (rowAt 0 (declaration ++ '\n' :: rest)) =
      .ok (some (declared, 38)) :=
  rfl

/-- It declares UTF-8, and not that the document stands alone. -/
theorem ofGlyphs_declared (stop : Nat) :
    Declaration.ofGlyphs ((Lexicon.whole stop).upTo 36) declared =
      .ok ⟨some ("utf-8".toList, 30), false⟩ :=
  rfl

/-- The document element ends the prolog. -/
theorem readProlog_element (stop : Nat) (dtd : Doctype) (tally : Tally) (place : Nat) {c : Char}
    (hc : isNameStart c = true) (rest : List Char) :
    readProlog (.whole stop) .before dtd tally (rowAt place ('<' :: c :: rest)) =
      .ok ⟨dtd, tally, rowAt place ('<' :: c :: rest)⟩ := by
  have hmark : c ≠ '!' := ne_of_isNameStart hc (by decide)
  have hask : c ≠ '?' := ne_of_isNameStart hc (by decide)
  have hangle : scanAngle (.whole stop) (rowAt (place + 1) (c :: rest)) =
      .ok (.element, rowAt (place + 1) (c :: rest)) := by
    rw [rowAt]
    unfold scanAngle
    split
    · next heq => cases heq
    · next heq => exact absurd (congrArg Glyph.char (List.cons.inj heq).1) hmark
    · next heq => exact absurd (congrArg Glyph.char (List.cons.inj heq).1) hask
    · next heq =>
      obtain ⟨rfl, rfl⟩ := List.cons.inj heq
      simp [opensElement, hc]
  have hscan : scanProlog (.whole stop) ⟨'<', place⟩ (rowAt (place + 1) (c :: rest)) =
      .ok (.element, rowAt (place + 1) (c :: rest)) := hangle
  rw [Scope.rowAt_less, readProlog.eq_def]
  simp only
  split
  · next o herror => cases hscan.symm.trans herror
  · next token after hok =>
    cases hscan.symm.trans hok
    rfl

/-- The prolog of a document that is written ends with its first tag. -/
theorem readProlog_written (stop : Nat) {c : Char} (hc : isNameStart c = true)
    (rest : List Char) :
    ∃ tally : Tally, tally.expanded = 0 ∧
      readProlog (.whole stop) .before (.empty false) ⟨38, 0, 0⟩
          (rowAt 38 ('\n' :: '<' :: c :: rest)) =
        .ok ⟨.empty false, tally, rowAt 39 ('<' :: c :: rest)⟩ := by
  have hscan : scanProlog (.whole stop) ⟨'\n', 38⟩ (rowAt 39 ('<' :: c :: rest)) =
      .ok (.space, rowAt 39 ('<' :: c :: rest)) := rfl
  have htolerable : (Tally.reach ⟨38, 0, 0⟩ 39).isTolerable = true := by decide
  refine ⟨Tally.reach ⟨38, 0, 0⟩ 39, rfl, ?_⟩
  rw [← readProlog_element stop (.empty false) (Tally.reach ⟨38, 0, 0⟩ 39) 39 hc rest]
  change readProlog (.whole stop) .before (.empty false) ⟨38, 0, 0⟩
    (⟨'\n', 38⟩ :: rowAt 39 ('<' :: c :: rest)) = _
  rw [readProlog.eq_def]
  simp only
  split
  · next o herror => cases hscan.symm.trans herror
  · next token after hok =>
    cases hscan.symm.trans hok
    rfl

theorem width_declaration : width declaration = 38 := by decide

/-- A written document is decoded as it was written. -/
theorem decode_documentChars {passages : List Passage}
    (hwritable : ∀ p ∈ passages, p.IsWritable) :
    Encoding.utf8.decode 0 (utf8Bytes (documentChars passages)) =
      ⟨rowAt 0 (documentChars passages), .done, width (documentChars passages)⟩ := by
  have hdecode := decode_utf8Bytes 0 (List.all_eq_true.1 (all_isMarkupChar_documentChars hwritable))
  rwa [Nat.zero_add] at hdecode

/-- So is what follows its declaration. -/
theorem decode_afterDeclaration {passages : List Passage}
    (hwritable : ∀ p ∈ passages, p.IsWritable) :
    Encoding.utf8.decode 38 (utf8Bytes ('\n' :: written passages)) =
      ⟨rowAt 38 ('\n' :: written passages), .done, width (documentChars passages)⟩ := by
  have hall := all_isMarkupChar_documentChars hwritable
  rw [documentChars, List.all_append, Bool.and_eq_true] at hall
  have hdecode := decode_utf8Bytes 38 (List.all_eq_true.1 hall.2)
  rwa [← width_declaration, ← width_append] at hdecode

/-- A document element begins with an opening tag. -/
theorem exists_written_eq {passages : List Passage} (hwritable : ∀ p ∈ passages, p.IsWritable)
    (hnested : Nested [] passages) (hfirst : ∀ p ∈ passages.head?, p.text = "") :
    ∃ c rest, isNameStart c = true ∧ written passages = '<' :: c :: rest := by
  cases hnested with
  | @opening text name attributes _ rest _ =>
    have hname : IsName name := (hwritable _ List.mem_cons_self).tag.1
    obtain ⟨c, cs, hcs, hc, -⟩ := hname.exists_cons
    obtain rfl : text = "" := hfirst _ rfl
    exact ⟨c, _, hc, by rw [written_cons, Passage.chars, Tag.chars, hcs]; rfl⟩

theorem Progress.isReady_empty {tally : Tally} (h : tally.expanded = 0) :
    Progress.IsReady ⟨.empty, tally⟩ :=
  ⟨Output.isTight_empty, rfl, h⟩

/-- What stands after the declaration is read to its end. -/
theorem readBody_written {passages : List Passage} (hwritable : ∀ p ∈ passages, p.IsWritable)
    (hnested : Nested [] passages) (hfirst : ∀ p ∈ passages.head?, p.text = "") {lead : Bytes}
    (hlead : lead.length = 38) :
    ∃ events, Arrive 39 passages events ∧
      readBody .utf8 false lead (utf8Bytes ('\n' :: written passages)) =
        ⟨events, .wellFormed⟩ := by
  obtain ⟨stop, hwidth⟩ : ∃ stop, width (documentChars passages) = stop := ⟨_, rfl⟩
  have hdecode := decode_afterDeclaration hwritable
  obtain ⟨c, rest, hc, hwritten⟩ := exists_written_eq hwritable hnested hfirst
  obtain ⟨tally, hexpanded, hprolog⟩ := readProlog_written stop hc rest
  rw [← hwritten] at hprolog
  have hstop : 39 + width (written passages) ≤ stop := by
    rw [← hwidth, documentChars, width_append, width_declaration, width_cons]
    exact le_of_eq (Nat.add_assoc 38 1 _)
  obtain ⟨events, harrive, last, hdelivered, hread⟩ := Scope.read_passages
    (readEntity (.empty false) (Doctype.empty false).depth []) hnested hwritable 39
    (Progress.isReady_empty hexpanded) [] hstop
  refine ⟨events, harrive, ?_⟩
  rw [List.append_nil] at hread
  have hcontent : readContent (.whole stop) (.empty false) tally (rowAt 39 (written passages)) =
      (last, .closed []) := hread
  have hepilog : readEpilog (.whole stop) last.tally 0 [] = .ok () := by
    rw [readEpilog.eq_def]
    rfl
  have hend : ∀ document, readEnd (.whole stop) document last.tally [] = .wellFormed := by
    intro document
    rw [readEnd, hepilog]
  have hevents : last.output.delivered = events := hdelivered
  -- The scanner of the whole document is what reading makes of the decoded characters.
  rw [hwidth] at hdecode
  simp only [Lexicon.whole] at hprolog hcontent hend
  simp only [readBody, hlead, hdecode, hprolog, hcontent, hend, hevents]

/-- A document that is written is well-formed, and its passages arrive as its events. -/
theorem tokenize_written {s : String} {passages : List Passage}
    (hs : s.toList = documentChars passages) (hwritable : ∀ p ∈ passages, p.IsWritable)
    (hnested : Nested [] passages) (hfirst : ∀ p ∈ passages.head?, p.text = "") :
    ∃ events, Arrive 39 passages events ∧
      (Source.text s).tokenize = ⟨events, .wellFormed⟩ := by
  have hbytes : (Source.text s).toBytes = .ok (utf8Bytes (documentChars passages)) := by
    rw [Source.toBytes, CodeText.encode_ofString, Except.map, toList_toUTF8, hs]
  have hsignature : Signature.ofBytes (utf8Bytes (documentChars passages)) = .found .utf8 0 := rfl
  have htake : (utf8Bytes (documentChars passages)).take 38 = utf8Bytes declaration := rfl
  have hdrop : (utf8Bytes (documentChars passages)).drop 38 =
      utf8Bytes ('\n' :: written passages) := rfl
  have hlead : (utf8Bytes declaration).length = 38 := by rw [length_utf8Bytes, width_declaration]
  obtain ⟨events, harrive, hbody⟩ := readBody_written hwritable hnested hfirst hlead
  obtain ⟨stop, hwidth⟩ : ∃ stop, width (documentChars passages) = stop := ⟨_, rfl⟩
  have hdecode := decode_documentChars hwritable
  have hsplit := splitDeclaration_declaration stop (written passages)
  have hdeclared : Declaration.ofGlyphs
      ((Lexicon.whole stop).upTo (38 - 2 * Encoding.utf8.unitSize)) declared =
      .ok ⟨some ("utf-8".toList, 30), false⟩ := ofGlyphs_declared stop
  refine ⟨events, harrive, ?_⟩
  rw [hwidth] at hdecode
  rw [← documentChars] at hsplit
  simp only [Lexicon.whole] at hsplit hdeclared
  simp only [Source.tokenize, hbytes, readBytes, hsignature]
  simp only [readRecognised, List.drop_zero, hdecode, hsplit, hdeclared, Source.declares,
    Bool.not_false, if_true, htake, hdrop]
  exact hbody

end Metalink.Xml
