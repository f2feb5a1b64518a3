import Mathlib.Tactic.Common
import Metalink.Event
import Metalink.Proofs.Xml.Utf8
import Metalink.Text.Blank
import Metalink.Xml.Content

/-!
# Reading tags

A tag that is written in plain characters reads as what was written: its name, and the names
and values of its attributes in their order.

Main results:

- `scanName_append`: a name reads up to the first character that no name may hold.
- `scanPieces_value`: a value reads as runs and spaces that spell it.
- `scanMarkup_opening`, `scanMarkup_closing`: what a tag scans as.
- `attributesOf_spelled`: attributes that are spelled have the values that were written.
-/

namespace Metalink.Xml

open Glyph

/-! ## Tags as written -/

/-- A character has no meaning in markup, and reads as it is written in a value too. -/
def isPlainChar (c : Char) : Bool :=
  isMarkupChar c && c != '<' && c != '>' && c != '&' && c != '"' && c != '\t' && c != '\n' &&
    c != '\r'

/-- A text of which no character has a meaning in markup. -/
def IsPlain (s : String) : Prop :=
  ∀ c ∈ s.toList, isPlainChar c = true

instance (s : String) : Decidable (IsPlain s) :=
  decidable_of_iff (s.toList.all isPlainChar = true) List.all_eq_true

/-- A text may be the name of an element or an attribute. -/
def IsName (s : String) : Prop :=
  s.toList.head?.any isNameStart = true ∧ ∀ c ∈ s.toList, isNameChar c = true

instance (s : String) : Decidable (IsName s) :=
  decidable_of_iff (s.toList.head?.any isNameStart = true ∧ s.toList.all isNameChar = true)
    (and_congr_right' List.all_eq_true)

/-- A tag. -/
inductive Tag where
  | opening (name : String) (attributes : List (String × String))
  | closing (name : String)
deriving DecidableEq, Repr

/-- The characters of an attribute, with the space in front of it. -/
def attributeChars (a : String × String) : List Char :=
  ' ' :: (a.1.toList ++ '=' :: '"' :: (a.2.toList ++ ['"']))

/-- Attributes as one flat list, in which names and values take turns. -/
def flatPairs (attributes : List (String × String)) : List String :=
  attributes.flatMap fun a => [a.1, a.2]

namespace Tag

/-- The characters of a tag. -/
def chars : Tag → List Char
  | opening name attributes =>
    '<' :: (name.toList ++ (attributes.flatMap attributeChars ++ ['>']))
  | closing name => '<' :: '/' :: (name.toList ++ ['>'])

/-- The event of a tag. -/
def event : Tag → Event
  | opening name attributes => .opened name (flatPairs attributes)
  | closing name => .closed name

/-- A tag can be written: it has a name, and its attributes have names of their own and plain
values. -/
def IsWritable : Tag → Prop
  | opening name attributes =>
    IsName name ∧ (∀ a ∈ attributes, IsName a.1 ∧ IsPlain a.2) ∧ (attributes.map Prod.fst).Nodup
  | closing name => IsName name

end Tag

/-! ## Runs of characters in a row -/

section Row

variable {p : Char → Bool} {cs : List Char} {next : Char}

/-- Skipping characters of a row leads to the first other one. -/
theorem dropWhile_rowAt (hcs : ∀ c ∈ cs, p c = true) (hnext : p next = false) (place : Nat)
    (rest : List Char) :
    (rowAt place (cs ++ next :: rest)).dropWhile (fun g => p g.char) =
      rowAt (place + width cs) (next :: rest) := by
  induction cs generalizing place with
  | nil => simp [rowAt, hnext]
  | cons c cs ih =>
    obtain ⟨hc, hcs⟩ := List.forall_mem_cons.1 hcs
    simp only [List.cons_append, rowAt, List.dropWhile_cons, hc, if_true, ih hcs, width_cons,
      Nat.add_assoc]

/-- Taking characters of a row ends before the first other one. -/
theorem takeWhile_rowAt (hcs : ∀ c ∈ cs, p c = true) (hnext : p next = false) (place : Nat)
    (rest : List Char) :
    (rowAt place (cs ++ next :: rest)).takeWhile (fun g => p g.char) = rowAt place cs := by
  induction cs generalizing place with
  | nil => simp [rowAt, hnext]
  | cons c cs ih =>
    obtain ⟨hc, hcs⟩ := List.forall_mem_cons.1 hcs
    simp only [List.cons_append, rowAt, List.takeWhile_cons, hc, if_true, ih hcs]

end Row

/-! ## Names -/

/-- The document itself in UTF-8, all of which can be decoded. -/
def Lexicon.whole (stop : Nat) : Lexicon := ⟨.done, .utf8, stop, true⟩

section Names

variable (stop place : Nat)

@[simp]
theorem nameStart_whole : (Lexicon.whole stop).nameStart = isNameStart := by
  funext c
  simp [Lexicon.nameStart, Lexicon.whole, Encoding.latinNames]

@[simp]
theorem nameChar_whole : (Lexicon.whole stop).nameChar = isNameChar := by
  funext c
  simp [Lexicon.nameChar, Lexicon.whole, Encoding.latinNames]

/-- A name starts with a character that may start one. -/
theorem IsName.exists_cons {s : String} (h : IsName s) :
    ∃ c cs, s.toList = c :: cs ∧ isNameStart c = true ∧ ∀ d ∈ cs, isNameChar d = true := by
  obtain ⟨hstart, hchars⟩ := h
  cases hs : s.toList with
  | nil => simp [hs] at hstart
  | cons c cs =>
    rw [hs] at hstart hchars
    exact ⟨c, cs, rfl, by simpa using hstart, fun d hd => hchars d (List.mem_cons_of_mem c hd)⟩

/-- A name reads up to the first character that no name may hold. -/
theorem scanName_append {s : String} (h : IsName s) (next : Char)
    (hnext : isNameChar next = false) (rest : List Char) :
    scanName (.whole stop) (rowAt place (s.toList ++ next :: rest)) =
      .ok (s.toList, rowAt (place + width s.toList) (next :: rest)) := by
  obtain ⟨c, cs, hs, hstart, hcs⟩ := h.exists_cons
  have hafter := dropWhile_rowAt hcs hnext (place + c.utf8Size) rest
  have hrun := takeWhile_rowAt hcs hnext (place + c.utf8Size) rest
  rw [Nat.add_assoc] at hafter
  rw [hs]
  simp only [List.cons_append, rowAt, scanName, nameStart_whole, hstart, if_true, afterName,
    nameRun, nameChar_whole, hafter, hrun, chars_rowAt, width_cons]

end Names

/-! ## Values -/

/-- The characters that a piece of a value stands for, unless it is a reference. -/
def Piece.spelled : Piece → List Char
  | run chars _ => chars
  | space _ _ => [' ']
  | reference _ _ _ => []

/-- Pieces of a value spell some characters, without a reference. -/
structure Spells (pieces : List Piece) (value : List Char) : Prop where
  noReference : ∀ piece ∈ pieces, ∀ ref place size, piece ≠ .reference ref place size
  spelled : pieces.flatMap Piece.spelled = value

theorem spells_nil : Spells [] [] :=
  ⟨fun _ h => (List.not_mem_nil h).elim, rfl⟩

/-- A piece that is no reference is spelled before the others. -/
theorem Spells.cons {piece : Piece} {pieces : List Piece} {value : List Char}
    (h : Spells pieces value) (hpiece : ∀ ref place size, piece ≠ .reference ref place size) :
    Spells (piece :: pieces) (piece.spelled ++ value) :=
  ⟨List.forall_mem_cons.2 ⟨hpiece, h.noReference⟩, congrArg (piece.spelled ++ ·) h.spelled⟩

/-- Plain characters are those that may stand in a document and are no markup, no quote and no
other white space than a space. -/
theorem isPlainChar_iff {c : Char} :
    isPlainChar c = true ↔ isMarkupChar c = true ∧ c ≠ '<' ∧ c ≠ '>' ∧ c ≠ '&' ∧ c ≠ '"' ∧
      c ≠ '\t' ∧ c ≠ '\n' ∧ c ≠ '\r' := by
  simp [isPlainChar, and_assoc]

/-- A plain character stands for itself in a value, or is a space. -/
theorem isValueChar_eq_false_iff {c : Char} (h : isPlainChar c = true) :
    isValueChar (some '"') c = false ↔ c = ' ' := by
  obtain ⟨-, hlt, -, hamp, hquote, htab, hline, hreturn⟩ := isPlainChar_iff.1 h
  simp [isValueChar, isSpace, hlt, hamp, hquote, htab, hline, hreturn]

/-- A space in front of a value is a piece by itself. -/
theorem scanPieces_space (stop place : Nat) (before : List Piece) (rest : List Char) :
    scanPieces (.whole stop) (some '"') before (rowAt place (' ' :: rest)) =
      scanPieces (.whole stop) (some '"')
        (.space true ((Lexicon.whole stop).placeAfter ⟨' ', place⟩ - place) :: before)
        (rowAt (place + 1) rest) := by
  rw [rowAt, scanPieces.eq_def]
  simp [isSpace]
  rfl

/-- Characters that stand for themselves are a piece up to the first that does not. -/
theorem scanPieces_run (stop place : Nat) (before : List Piece) {c next : Char}
    {cs : List Char} (rest : List Char) (hc : isValueChar (some '"') c = true)
    (hcs : ∀ d ∈ cs, isValueChar (some '"') d = true)
    (hnext : isValueChar (some '"') next = false) (hlt : next ≠ '<') :
    scanPieces (.whole stop) (some '"') before (rowAt place (c :: (cs ++ next :: rest))) =
      scanPieces (.whole stop) (some '"')
        (.run (c :: cs) (place + width (c :: cs) - place) :: before)
        (rowAt (place + width (c :: cs)) (next :: rest)) := by
  have hafter := dropWhile_rowAt hcs hnext (place + c.utf8Size) rest
  have hrun := takeWhile_rowAt hcs hnext (place + c.utf8Size) rest
  rw [Nat.add_assoc, ← width_cons] at hafter
  simp only [isValueChar, Bool.and_eq_true, bne_iff_ne, ne_eq, Bool.not_eq_true'] at hc
  obtain ⟨⟨⟨hquote, hless⟩, hamp⟩, hspace⟩ := hc
  have hreturn : c ≠ '\r' := by
    rintro rfl
    exact absurd hspace (by decide)
  rw [rowAt, scanPieces.eq_def]
  simp only [hquote, hless, hamp, hreturn, hspace, afterRun, runPiece, hafter, hrun, chars_rowAt,
    if_false, false_and, Bool.false_eq_true]
  -- The run is not cut off by an angle bracket.
  split
  · next heq => exact absurd (congrArg Glyph.char (List.cons.inj heq).1) hlt
  · rfl

/-- A plain value begins with characters that stand for themselves, up to its first space. -/
theorem exists_run {value : List Char} (h : ∀ c ∈ value, isPlainChar c = true) :
    ∃ run left, value = run ++ left ∧ (∀ c ∈ run, isValueChar (some '"') c = true) ∧
      ∀ c ∈ left.head?, c = ' ' := by
  refine ⟨value.takeWhile (isValueChar (some '"')), value.dropWhile (isValueChar (some '"')),
    List.takeWhile_append_dropWhile.symm, fun c hc => ?_, fun c hc => ?_⟩
  · exact List.all_eq_true.1 List.all_takeWhile c hc
  · have hmem : c ∈ value := (List.dropWhile_suffix _).subset (List.mem_of_mem_head? hc)
    exact (isValueChar_eq_false_iff (h c hmem)).1 (Text.head?_dropWhile hc)

/-- A plain value reads as runs and spaces that spell it, up to its closing quote. -/
theorem scanPieces_value (stop place : Nat) (before : List Piece) {value : List Char}
    (h : ∀ c ∈ value, isPlainChar c = true) (rest : List Char) :
    ∃ pieces, Spells pieces value ∧
      scanPieces (.whole stop) (some '"') before (rowAt place (value ++ '"' :: rest)) =
        (before.reverse ++ pieces, .ok (rowAt (place + width value + 1) rest)) := by
  match value with
  | [] =>
    refine ⟨[], spells_nil, ?_⟩
    rw [List.nil_append, rowAt, scanPieces.eq_def, List.append_nil]
    rfl
  | c :: value =>
    obtain ⟨hc, hvalue⟩ := List.forall_mem_cons.1 h
    by_cases hspace : c = ' '
    · subst hspace
      let piece : Piece := .space true ((Lexicon.whole stop).placeAfter ⟨' ', place⟩ - place)
      obtain ⟨pieces, hspells, hscan⟩ :=
        scanPieces_value stop (place + 1) (piece :: before) hvalue rest
      refine ⟨piece :: pieces, hspells.cons (by simp [piece]), ?_⟩
      have hwidth : place + 1 + width value = place + width (' ' :: value) := by
        rw [width_cons, Nat.add_assoc]
        rfl
      rw [List.cons_append, scanPieces_space, hscan, hwidth, List.reverse_cons,
        List.append_assoc, List.singleton_append]
    · -- The run ends at the first space, or else at the quote.
      obtain ⟨run, left, hsplit, hrun, hhead⟩ := exists_run hvalue
      have hfirst : isValueChar (some '"') c = true := by
        rw [← Bool.not_eq_false, isValueChar_eq_false_iff hc]
        exact hspace
      obtain ⟨next, more, hmore, hnext, hlt⟩ : ∃ next more, left ++ '"' :: rest = next :: more ∧
          isValueChar (some '"') next = false ∧ next ≠ '<' := by
        cases left with
        | nil => exact ⟨'"', rest, rfl, by decide, by decide⟩
        | cons d left =>
          obtain rfl : d = ' ' := hhead d rfl
          exact ⟨' ', left ++ '"' :: rest, rfl, by decide, by decide⟩
      let piece : Piece := .run (c :: run) (place + width (c :: run) - place)
      have hleft : ∀ d ∈ left, isPlainChar d = true :=
        fun d hd => hvalue d (hsplit ▸ List.mem_append_right run hd)
      have hshorter : left.length ≤ value.length := by simp [hsplit]
      obtain ⟨pieces, hspells, hscan⟩ :=
        scanPieces_value stop (place + width (c :: run)) (piece :: before) hleft rest
      subst hsplit
      refine ⟨piece :: pieces, hspells.cons (by simp [piece]), ?_⟩
      have hwidth : place + width (c :: run) + width left = place + width (c :: (run ++ left)) := by
        simp only [width_cons, width_append, Nat.add_assoc]
      have hstep := scanPieces_run stop place before more hfirst hrun hnext hlt
      rw [← hmore, hscan, hwidth] at hstep
      rw [List.cons_append, List.append_assoc, hstep, List.reverse_cons, List.append_assoc,
        List.singleton_append]
termination_by value.length

/-! ## Tags -/

/-- An attribute as it was scanned spells an attribute that is written. -/
structure RawAttribute.Is (raw : RawAttribute) (a : String × String) : Prop where
  name : raw.name = a.1.toList
  value : Spells raw.value a.2.toList

/-- A character that starts a name may also go on with one. -/
theorem isNameChar_of_isNameStart {c : Char} (h : isNameStart c = true) : isNameChar c = true := by
  unfold isNameStart at h
  unfold isNameChar
  split at h
  · next hnarrow =>
    rw [if_pos hnarrow]
    simp only [Bool.or_eq_true] at h ⊢
    tauto
  · next hwide => rw [if_neg hwide, h, Bool.true_or]

/-- No name starts with a character of markup. -/
theorem ne_of_isNameStart {c d : Char} (h : isNameStart c = true) (hd : isNameChar d = false) :
    c ≠ d := by
  rintro rfl
  rw [isNameChar_of_isNameStart h] at hd
  cases hd

theorem isSpace_eq_false_of_isNameStart {c : Char} (h : isNameStart c = true) :
    isSpace c = false := by
  simp [isSpace, ne_of_isNameStart h (d := ' ') (by decide),
    ne_of_isNameStart h (d := '\t') (by decide), ne_of_isNameStart h (d := '\n') (by decide),
    ne_of_isNameStart h (d := '\r') (by decide)]

section Scan

variable (stop place : Nat)

theorem skipSpace_rowAt {c : Char} (h : isSpace c = false) (rest : List Char) :
    skipSpace (rowAt place (c :: rest)) = rowAt place (c :: rest) := by
  simp [skipSpace, rowAt, h]

/-- An equals sign and a quote are scanned as written. -/
theorem scanEquals_written (rest : List Char) :
    scanEquals (.whole stop) (rowAt place ('=' :: '"' :: rest)) =
      .ok ('"', rowAt (place + 2) rest) := by
  simp [scanEquals, scanChar, skipSpace, rowAt, isSpace]
  rfl

/-- The rest of a document begins where it is placed. -/
theorem placeOf_rowAt {cs : List Char} (h : cs ≠ []) (lex : Lexicon) :
    lex.placeOf (rowAt place cs) = place := by
  cases cs with
  | nil => exact absurd rfl h
  | cons c cs => rfl

/-- An attribute takes its name, its value and four more bytes. -/
theorem width_attributeChars (a : String × String) :
    width (attributeChars a) = width a.1.toList + width a.2.toList + 4 := by
  have hspace : Char.utf8Size ' ' = 1 := rfl
  have hequals : Char.utf8Size '=' = 1 := rfl
  have hquote : Char.utf8Size '"' = 1 := rfl
  simp only [attributeChars, width_cons, width_append, width_nil, hspace, hequals, hquote]
  omega

/-- An attribute reads as it was written, up to its closing quote. -/
theorem scanAttribute_written {a : String × String} (hname : IsName a.1) (hvalue : IsPlain a.2)
    (rest : List Char) :
    ∃ raw : RawAttribute, raw.Is a ∧
      scanAttribute (.whole stop)
          (rowAt place (a.1.toList ++ '=' :: '"' :: (a.2.toList ++ '"' :: rest))) =
        .ok (raw, rowAt (place + width a.1.toList + width a.2.toList + 3) rest) := by
  obtain ⟨pieces, hspells, hpieces⟩ :=
    scanPieces_value stop (place + width a.1.toList + 2) [] hvalue rest
  have hscan := scanName_append stop place hname '=' (by decide)
    ('"' :: (a.2.toList ++ '"' :: rest))
  have hend : place + width a.1.toList + 2 + width a.2.toList + 1 =
      place + width a.1.toList + width a.2.toList + 3 := by omega
  have hplace : (Lexicon.whole stop).placeOf
      (rowAt place (a.1.toList ++ '=' :: '"' :: (a.2.toList ++ '"' :: rest))) = place :=
    placeOf_rowAt place (by simp) _
  rw [hend] at hpieces
  refine ⟨⟨a.1.toList, pieces, place⟩, ⟨rfl, hspells⟩, ?_⟩
  simp only [scanAttribute, hscan, scanEquals_written, hpieces, List.reverse_nil,
    List.nil_append, hplace]

/-- A space and an attribute after it are one step of the attributes of a tag. -/
theorem scanAttributes_cons {lex : Lexicon} (name : List Char) (before : List RawAttribute)
    {s : String} (hs : IsName s) {more : List Char} {raw : RawAttribute} {after : List Glyph}
    (hscan : scanAttribute lex (rowAt (place + 1) (s.toList ++ more)) = .ok (raw, after)) :
    scanAttributes lex name before (rowAt place (' ' :: (s.toList ++ more))) =
      scanAttributes lex name (raw :: before) after := by
  obtain ⟨c, cs, hcs, hc, -⟩ := hs.exists_cons
  rw [hcs, List.cons_append] at hscan ⊢
  have hclose : c ≠ '>' := ne_of_isNameStart hc (by decide)
  have hslash : c ≠ '/' := ne_of_isNameStart hc (by decide)
  have hskip : skipSpace (rowAt (place + 1) (c :: (cs ++ more))) =
      rowAt (place + 1) (c :: (cs ++ more)) :=
    skipSpace_rowAt _ (isSpace_eq_false_of_isNameStart hc) _
  rw [rowAt, scanAttributes.eq_def]
  simp only [isSpace, beq_self_eq_true, Bool.true_or, if_true]
  split
  · next hnil => cases hskip.symm.trans hnil
  · next d others hcons =>
    obtain ⟨rfl, rfl⟩ := List.cons.inj (hskip.symm.trans hcons)
    rw [if_neg (by simp [hclose, hslash])]
    split
    · next o herror => cases hscan.symm.trans herror
    · next a next hok =>
      cases hscan.symm.trans hok
      rfl

/-- The attributes of a tag read as they were written, up to the end of the tag. -/
theorem scanAttributes_written (name : List Char) (before : List RawAttribute)
    {attributes : List (String × String)} (h : ∀ a ∈ attributes, IsName a.1 ∧ IsPlain a.2)
    (rest : List Char) :
    ∃ raws, List.Forall₂ RawAttribute.Is raws attributes ∧
      scanAttributes (.whole stop) name before
          (rowAt place (attributes.flatMap attributeChars ++ '>' :: rest)) =
        .ok (.startTag name (before.reverse ++ raws) false,
          rowAt (place + width (attributes.flatMap attributeChars) + 1) rest) := by
  induction attributes generalizing place before with
  | nil =>
    refine ⟨[], .nil, ?_⟩
    rw [List.flatMap_nil, List.nil_append, List.append_nil, rowAt, scanAttributes.eq_def]
    simp [isSpace, scanTagEnd]
    rfl
  | cons a attributes ih =>
    obtain ⟨⟨hname, hvalue⟩, hrest⟩ := List.forall_mem_cons.1 h
    obtain ⟨raw, hraw, hscan⟩ := scanAttribute_written stop (place + 1) hname hvalue
      (attributes.flatMap attributeChars ++ '>' :: rest)
    obtain ⟨raws, hraws, hscans⟩ := ih (place + width (attributeChars a)) (raw :: before) hrest
    have hend : place + 1 + width a.1.toList + width a.2.toList + 3 =
        place + width (attributeChars a) := by
      rw [width_attributeChars]
      omega
    rw [hend] at hscan
    have hstep := scanAttributes_cons place name before hname hscan
    rw [hscans, List.reverse_cons, List.append_assoc, Nat.add_assoc place, ← width_append] at hstep
    refine ⟨raw :: raws, .cons hraw hraws, ?_⟩
    simpa [attributeChars] using hstep

/-- An opening tag reads as it was written. -/
theorem scanMarkup_opening {name : String} (hname : IsName name)
    {attributes : List (String × String)} (h : ∀ a ∈ attributes, IsName a.1 ∧ IsPlain a.2)
    (rest : List Char) :
    ∃ raws, List.Forall₂ RawAttribute.Is raws attributes ∧
      scanMarkup (.whole stop)
          (rowAt (place + 1) (name.toList ++ (attributes.flatMap attributeChars ++ '>' :: rest))) =
        .ok (.startTag name.toList raws false,
          rowAt (place + width (Tag.opening name attributes).chars) rest) := by
  obtain ⟨raws, hraws, hscans⟩ := scanAttributes_written stop (place + 1 + width name.toList)
    name.toList [] h rest
  obtain ⟨next, more, hmore, hnext⟩ : ∃ next more,
      attributes.flatMap attributeChars ++ '>' :: rest = next :: more ∧
        isNameChar next = false := by
    cases attributes with
    | nil => exact ⟨'>', rest, rfl, by decide⟩
    | cons a attributes => exact ⟨' ', _, rfl, by decide⟩
  have hscan := scanName_append stop (place + 1) hname next hnext more
  rw [← hmore] at hscan
  have hmarkup : scanMarkup (.whole stop)
      (rowAt (place + 1) (name.toList ++ (attributes.flatMap attributeChars ++ '>' :: rest))) =
    scanStartTag (.whole stop)
      (rowAt (place + 1) (name.toList ++ (attributes.flatMap attributeChars ++ '>' :: rest))) := by
    obtain ⟨c, cs, hcs, hc, -⟩ := hname.exists_cons
    have hmark : c ≠ '!' := ne_of_isNameStart hc (by decide)
    have hask : c ≠ '?' := ne_of_isNameStart hc (by decide)
    have hslash : c ≠ '/' := ne_of_isNameStart hc (by decide)
    rw [hcs, List.cons_append, rowAt]
    unfold scanMarkup
    split <;> simp_all
  refine ⟨raws, hraws, ?_⟩
  rw [hmarkup, scanStartTag, hscan]
  have hend : place + 1 + width name.toList + width (attributes.flatMap attributeChars) + 1 =
      place + width (Tag.opening name attributes).chars := by
    have hopen : Char.utf8Size '<' = 1 := rfl
    have hclose : Char.utf8Size '>' = 1 := rfl
    simp only [Tag.chars, width_cons, width_append, width_nil, hopen, hclose]
    omega
  simp only [hscans, hend, List.reverse_nil, List.nil_append]

/-- A closing tag reads as it was written. -/
theorem scanMarkup_closing {name : String} (hname : IsName name) (rest : List Char) :
    scanMarkup (.whole stop) (rowAt (place + 1) ('/' :: (name.toList ++ '>' :: rest))) =
      .ok (.endTag name.toList (place + 2),
        rowAt (place + width (Tag.closing name).chars) rest) := by
  have hscan := scanName_append stop (place + 2) hname '>' (by decide) rest
  have hne : name.toList ++ '>' :: rest ≠ [] := by simp
  have hplace := placeOf_rowAt (place + 2) hne (.whole stop)
  have hend : place + 2 + width name.toList + 1 = place + width (Tag.closing name).chars := by
    have hopen : Char.utf8Size '<' = 1 := rfl
    have hslash : Char.utf8Size '/' = 1 := rfl
    have hclose : Char.utf8Size '>' = 1 := rfl
    simp only [Tag.chars, width_cons, width_append, width_nil, hopen, hslash, hclose]
    omega
  rw [← hend]
  change scanEndTag (.whole stop) (rowAt (place + 2) (name.toList ++ '>' :: rest)) = _
  rw [scanEndTag, hscan]
  simp only [hplace, skipSpace_rowAt _ (c := '>') (by decide)]
  rfl

end Scan

/-! ## Values of attributes -/

/-- What does not belong to an entity can always be counted. -/
theorem Charge.exists_add {charge : Charge} (h : charge ≠ .entity) (size : Nat) {tally : Tally}
    (htally : tally.expanded = 0) :
    ∃ next : Tally, next.expanded = 0 ∧ charge.add size tally = .ok next := by
  cases charge with
  | free => exact ⟨tally, htally, rfl⟩
  | document =>
    refine ⟨tally.reread size, htally, ?_⟩
    have htolerable : (tally.reread size).isTolerable = true :=
      Tally.isTolerable_of_expanded_eq_zero htally
    rw [Charge.add, Tally.check, if_pos htolerable]
  | entity => exact absurd rfl h

namespace Doctype

/-- Pieces that spell some characters make up these characters, where all spaces count. -/
theorem addPieces_spelled (dtd : Doctype) (opened : List (List Char)) {charge : Charge}
    (h : charge ≠ .entity)
    (inside : List Char → List Glyph → Composition → Except Problem Composition)
    {pieces : List Piece} {value : List Char} (hspells : Spells pieces value)
    (made : Composition) (hmade : made.tally.expanded = 0) :
    ∃ tally : Tally, tally.expanded = 0 ∧
      dtd.addPieces true opened charge inside made pieces =
        .ok ⟨value.reverse ++ made.value, tally⟩ := by
  induction pieces generalizing made value with
  | nil =>
    obtain rfl : [] = value := hspells.spelled
    exact ⟨made.tally, hmade, rfl⟩
  | cons piece pieces ih =>
    obtain ⟨hpiece, hpieces⟩ := List.forall_mem_cons.1 hspells.noReference
    obtain ⟨charged, hcharged, hadd⟩ := Charge.exists_add h piece.size hmade
    have hstep : dtd.addPiece true opened inside { made with tally := charged } piece =
        .ok ⟨piece.spelled.reverse ++ made.value, charged⟩ := by
      cases piece with
      | run chars size => rfl
      | space isPlain size => rfl
      | reference ref place size => exact absurd rfl (hpiece ref place size)
    obtain ⟨tally, htally, hrest⟩ := ih ⟨hpieces, rfl⟩
      ⟨piece.spelled.reverse ++ made.value, charged⟩ hcharged
    refine ⟨tally, htally, ?_⟩
    rw [addPieces, hadd]
    simp only [hstep, hrest, ← hspells.spelled, List.flatMap_cons, List.reverse_append,
      List.append_assoc]

/-- In a document that declares nothing a value is what its pieces spell. -/
theorem valueOf_spelled (opened : List (List Char)) {charge : Charge} (h : charge ≠ .entity)
    {tally : Tally} (htally : tally.expanded = 0) (element : List Char) {raw : RawAttribute}
    {a : String × String} (hraw : raw.Is a) :
    ∃ next : Tally, next.expanded = 0 ∧
      (empty false).valueOf opened charge tally element raw = .ok (a.2.toList, next) := by
  have hcharge : (if isNormal raw.value then Charge.free else charge) ≠ .entity := by
    split
    · nofun
    · exact h
  obtain ⟨next, hnext, hadd⟩ := (empty false).addPieces_spelled opened hcharge
    ((empty false).addEntity true (empty false).depth opened) hraw.value ⟨[], tally⟩ htally
  refine ⟨next, hnext, ?_⟩
  have htext : (empty false).isText element raw.name = true := rfl
  rw [valueOf, htext, composed, hadd]
  simp [Composition.finished]

/-- Attributes with names of their own have the values that were written. -/
theorem writtenAttributes_spelled (opened : List (List Char)) {charge : Charge}
    (h : charge ≠ .entity) (element : List Char) (tag : Nat) {raws : List RawAttribute}
    {attributes : List (String × String)} (hraws : List.Forall₂ RawAttribute.Is raws attributes)
    (before : Attributes) (hbefore : before.tally.expanded = 0)
    (hnew : ∀ a ∈ attributes, ∀ p ∈ before.values, p.1 ≠ a.1.toList)
    (hnodup : (attributes.map Prod.fst).Nodup) :
    ∃ tally : Tally, tally.expanded = 0 ∧
      (empty false).writtenAttributes opened charge element tag before raws =
        .ok ⟨before.values.reverse ++ attributes.map fun a => (a.1.toList, a.2.toList), tally⟩ := by
  induction hraws generalizing before with
  | nil => exact ⟨before.tally, hbefore, by simp [writtenAttributes]⟩
  | cons hraw hraws ih =>
    next raw a raws attributes =>
    obtain ⟨next, hnext, hvalue⟩ := valueOf_spelled opened h hbefore element hraw
    obtain ⟨hfresh, hrest⟩ := List.nodup_cons.1 hnodup
    have hdistinct : (before.values.any fun p => p.1 == raw.name) = false := by
      rw [List.any_eq_false]
      intro p hp
      simpa [hraw.name] using hnew a List.mem_cons_self p hp
    have hnew' : ∀ b ∈ attributes, ∀ p ∈ (raw.name, a.2.toList) :: before.values,
        p.1 ≠ b.1.toList := by
      intro b hb p hp
      rcases List.mem_cons.1 hp with rfl | hp
      · intro heq
        have hname : a.1 = b.1 := String.toList_inj.1 (hraw.name.symm.trans heq)
        exact hfresh (hname ▸ List.mem_map_of_mem hb)
      · exact hnew b (List.mem_cons_of_mem a hb) p hp
    obtain ⟨tally, htally, hwritten⟩ :=
      ih ⟨(raw.name, a.2.toList) :: before.values, next⟩ hnext hnew' hrest
    refine ⟨tally, htally, ?_⟩
    rw [writtenAttributes, hdistinct, if_neg (by decide), hvalue]
    simp only [hwritten]
    rw [hraw.name, List.reverse_cons, List.append_assoc, List.singleton_append, List.map_cons]

/-- Nothing is added to the attributes that are written where none is declared. -/
theorem attributesOf_spelled (opened : List (List Char)) {charge : Charge}
    (h : charge ≠ .entity) {tally : Tally} (htally : tally.expanded = 0) (element : List Char)
    (tag : Nat) {raws : List RawAttribute} {attributes : List (String × String)}
    (hraws : List.Forall₂ RawAttribute.Is raws attributes)
    (hnodup : (attributes.map Prod.fst).Nodup) :
    ∃ next : Tally, next.expanded = 0 ∧
      (empty false).attributesOf opened charge tally element tag raws =
        .ok ⟨attributes.map fun a => (a.1.toList, a.2.toList), next⟩ := by
  obtain ⟨next, hnext, hwritten⟩ := writtenAttributes_spelled opened h element tag hraws
    ⟨[], tally⟩ htally (fun _ _ _ hp => (List.not_mem_nil hp).elim) hnodup
  refine ⟨next, hnext, ?_⟩
  rw [attributesOf, hwritten]
  simp [defaults, empty]

end Doctype

/-- Attributes are flattened alike as characters and as texts. -/
theorem flatAttributes_toList (attributes : List (String × String)) :
    flatAttributes (attributes.map fun a => (a.1.toList, a.2.toList)) = flatPairs attributes := by
  simp [flatAttributes, flatPairs, List.flatMap_map]

end Metalink.Xml
