import Mathlib.Tactic.Common
import Metalink.Proofs.Xml.Tags
import Metalink.Proofs.Xml.TextBuffer

/-!
# Reading text between tags

Text is read in runs that end with a line or with a portion of the document.  What matters is
that the runs come to the text, and that a text that lies in one portion and on one line is one
run; a run that begins well within a portion does not reach beyond it.

Main results:

- `fits_runEnd`: every character of a text fits into some run.
- `scanText_append`: a run of text ends with its line, with its portion or with the text.
- `Scope.read_text`: what a text is cut into, and that reading goes on after it.
-/

namespace Metalink.Xml

open Glyph

/-! ## Characters of text -/

/-- A character that text between tags may hold. -/
def isTextChar (c : Char) : Bool :=
  isPlainChar c || c == '\n'

/-- The characters of text are the plain ones and the line break. -/
theorem isTextChar_iff {c : Char} :
    isTextChar c = true ↔ isPlainChar c = true ∨ c = '\n' := by
  simp [isTextChar]

/-- A text lies on one line and, with the character after it, in one portion. -/
def InOnePortion (place : Nat) (s : List Char) : Prop :=
  '\n' ∉ s ∧ place / portionSize = (place + width s) / portionSize

/-- A text begins with a character that the first portion has room for, and does not end in
this portion. -/
def LeavesFirstPortion (place : Nat) (s : List Char) : Prop :=
  (∃ c ∈ s.head?, c ≠ ']' ∧ c ≠ '\n' ∧ place + c.utf8Size ≤ portionSize) ∧
    portionSize < place + width s

/-! ## Bounds of runs -/

theorem limit_whole (stop : Nat) : (Lexicon.whole stop).limit = stop :=
  Nat.add_zero stop

/-- A portion of a whole document ends at the next multiple of its length, or with the
document. -/
theorem portionEnd_whole (stop place : Nat) :
    (Lexicon.whole stop).portionEnd place = min stop ((place / portionSize + 1) * portionSize) := by
  rw [Lexicon.portionEnd, limit_whole]
  rfl

theorem utf8Size_closeBracket : Char.utf8Size ']' = 1 := rfl

section Fits

variable (stop place : Nat) {bound : Nat} {c : Char} {cs : List Char}

/-- A character fits up to a bound if the text up to the next tag does. -/
theorem fits_of_le (more : List Char) (h : place + width (c :: cs) + 1 ≤ bound) :
    (Lexicon.whole stop).fits bound ⟨c, place⟩ (rowAt (place + c.utf8Size) (cs ++ '<' :: more)) =
      true := by
  rw [width_cons] at h
  unfold Lexicon.fits
  split
  · next hbracket =>
    obtain rfl : c = ']' := by simpa using hbracket
    rw [utf8Size_closeBracket] at h ⊢
    split
    · next heq =>
      -- The second bracket belongs to the text, since the tag begins with another character.
      cases cs with
      | nil => cases heq
      | cons d cs =>
        have hd := d.utf8Size_pos
        rw [width_cons] at h
        refine decide_eq_true ?_
        change place + 3 * 1 ≤ bound
        omega
    · refine decide_eq_true ?_
      change place + 2 * 1 ≤ bound
      omega
  · refine decide_eq_true ?_
    change place + c.utf8Size ≤ bound
    omega

/-- A character fits up to a bound that leaves room for every character. -/
theorem fits_of_room {rest : List Glyph} (h : place + 4 ≤ bound) :
    (Lexicon.whole stop).fits bound ⟨c, place⟩ rest = true := by
  have hsize := c.utf8Size_le_four
  unfold Lexicon.fits
  split
  · split
    · refine decide_eq_true ?_
      change place + 3 * 1 ≤ bound
      omega
    · refine decide_eq_true ?_
      change place + 2 * 1 ≤ bound
      omega
  · refine decide_eq_true ?_
    change place + c.utf8Size ≤ bound
    omega

/-- A character that is no bracket fits up to its end. -/
theorem fits_of_ne_bracket {rest : List Glyph} (hc : c ≠ ']')
    (h : place + c.utf8Size ≤ bound) :
    (Lexicon.whole stop).fits bound ⟨c, place⟩ rest = true := by
  unfold Lexicon.fits
  split
  · next hbracket => exact absurd (by simpa using hbracket) hc
  · exact decide_eq_true h

/-- A character that fits up to a bound does not reach beyond it. -/
theorem le_of_fits {rest : List Glyph}
    (h : (Lexicon.whole stop).fits bound ⟨c, place⟩ rest = true) : place + c.utf8Size ≤ bound := by
  unfold Lexicon.fits at h
  split at h
  · next hbracket =>
    obtain rfl : c = ']' := by simpa using hbracket
    rw [utf8Size_closeBracket]
    split at h
    · have hle : place + 3 * 1 ≤ bound := of_decide_eq_true h
      omega
    · have hle : place + 2 * 1 ≤ bound := of_decide_eq_true h
      omega
  · exact of_decide_eq_true h

/-- Every character of a text fits into some run. -/
theorem fits_runEnd (more : List Char) (h : place + width (c :: cs) + 1 ≤ stop) :
    (Lexicon.whole stop).fits
      ((Lexicon.whole stop).runEnd ⟨c, place⟩ (rowAt (place + c.utf8Size) (cs ++ '<' :: more)))
      ⟨c, place⟩ (rowAt (place + c.utf8Size) (cs ++ '<' :: more)) = true := by
  unfold Lexicon.runEnd
  simp only
  split
  · next hfits => exact hfits
  · have hlt : place < (Lexicon.whole stop).portionEnd place := by
      refine Lexicon.lt_portionEnd ?_
      rw [limit_whole]
      omega
    rw [limit_whole]
    rcases Nat.le_total stop ((Lexicon.whole stop).portionEnd place + portionSize) with hle | hle
    · rw [Nat.min_eq_left hle]
      exact fits_of_le stop place more h
    · rw [Nat.min_eq_right hle]
      refine fits_of_room stop place ?_
      unfold portionSize
      omega

/-- A run ends with its portion if its first character has room there. -/
theorem runEnd_eq_portionEnd {rest : List Glyph}
    (h : (Lexicon.whole stop).fits ((Lexicon.whole stop).portionEnd place) ⟨c, place⟩ rest =
      true) :
    (Lexicon.whole stop).runEnd ⟨c, place⟩ rest = (Lexicon.whole stop).portionEnd place :=
  if_pos h

end Fits

/-! ## Runs -/

section TextChar

variable {c : Char} (h : isTextChar c = true)
include h

theorem ne_less_of_isTextChar : c ≠ '<' := by
  rintro rfl
  exact absurd h (by decide)

theorem ne_ampersand_of_isTextChar : c ≠ '&' := by
  rintro rfl
  exact absurd h (by decide)

/-- Of the characters of text only the line break ends a line. -/
theorem endsLine_of_isTextChar (stop : Nat) :
    (Lexicon.whole stop).endsLine c = true ↔ c = '\n' := by
  have hreturn : c ≠ '\r' := by
    rintro rfl
    exact absurd h (by decide)
  simp [Lexicon.endsLine, hreturn]

end TextChar

/-- Text holds no mark that ends a section. -/
theorem startWith_eq_false (place : Nat) {s : List Char} (h : ∀ c ∈ s, isTextChar c = true)
    (more : List Char) : startWith (rowAt place (s ++ '<' :: more)) [']', '>'] = false := by
  match s with
  | [] => rfl
  | [c] =>
    cases more <;> simp [startWith, rowAt, chars]
  | c :: d :: s =>
    have hd : d ≠ '>' := by
      rintro rfl
      exact absurd (h '>' (by simp)) (by decide)
    simp [startWith, rowAt, chars, hd]

/-- A run of text ends with its line, with the bound that it has or with the text. -/
theorem scanText_append (stop bound place : Nat) (before : List Char) {s : List Char}
    (h : ∀ c ∈ s, isTextChar c = true) (more : List Char) :
    ∃ taken left, s = taken ++ left ∧
      scanText (.whole stop) bound before (rowAt place (s ++ '<' :: more)) =
        .ok (.text (before.reverse ++ taken), rowAt (place + width taken) (left ++ '<' :: more)) ∧
      ('\n' ∉ s → place + width s + 1 ≤ bound → left = []) ∧
      (place ≤ bound → place + width taken ≤ bound) := by
  induction s generalizing place before with
  | nil =>
    refine ⟨[], [], rfl, ?_, fun _ _ => rfl, fun hle => hle⟩
    rw [List.nil_append, rowAt, scanText]
    simp
    rfl
  | cons c s ih =>
    obtain ⟨hc, hs⟩ := List.forall_mem_cons.1 h
    have hless : (c == '<') = false := beq_false_of_ne (ne_less_of_isTextChar hc)
    have hamp : (c == '&') = false := beq_false_of_ne (ne_ampersand_of_isTextChar hc)
    rw [List.cons_append, rowAt, scanText]
    simp only [hless, hamp, Bool.false_or, startWith_eq_false _ hs, Bool.and_false]
    split
    · -- The run ends before this character.
      next hends =>
      refine ⟨[], c :: s, rfl, by rw [List.append_nil]; rfl, fun hline hle => ?_, fun hle => hle⟩
      have hfits := fits_of_le stop place more hle
      rw [hfits, Bool.not_true, Bool.or_false, endsLine_of_isTextChar hc] at hends
      exact absurd (hends ▸ List.mem_cons_self) hline
    · next hgoes =>
      obtain ⟨taken, left, rfl, hscan, hwhole, hbound⟩ :=
        ih (place + c.utf8Size) (c :: before) hs
      simp only [Bool.or_eq_true, not_or, Bool.not_eq_true', Bool.not_eq_false] at hgoes
      refine ⟨c :: taken, left, rfl, ?_, fun hline hle => ?_, fun _ => ?_⟩
      · rw [if_neg (by decide), hscan]
        simp [Nat.add_assoc]
      · rw [width_cons, ← Nat.add_assoc] at hle
        exact hwhole (fun hmem => hline (List.mem_cons_of_mem c hmem)) hle
      · rw [width_cons, ← Nat.add_assoc]
        exact hbound (le_of_fits stop place hgoes.2)

/-- A text in one portion ends before the portion does. -/
theorem lt_of_inOnePortion {place : Nat} {s : List Char} (h : InOnePortion place s) :
    place + width s < (place / portionSize + 1) * portionSize := by
  rw [← Nat.div_lt_iff_lt_mul (by decide), ← h.2]
  exact Nat.lt_succ_self _

/-- A run of text reads up to its end.  It is all of a text that lies in one portion, and not
all of one that leaves the first portion. -/
theorem scanToken_text {stop place : Nat} {c : Char} {s : List Char} (hc : isTextChar c = true)
    (hline : c ≠ '\n') (hs : ∀ d ∈ s, isTextChar d = true) {more : List Char}
    (hstop : place + width (c :: s) + 1 ≤ stop) :
    ∃ taken left, s = taken ++ left ∧
      scanToken (.whole stop) ⟨c, place⟩ (rowAt (place + c.utf8Size) (s ++ '<' :: more)) =
        .ok (.text (c :: taken), rowAt (place + width (c :: taken)) (left ++ '<' :: more)) ∧
      (InOnePortion place (c :: s) → left = []) ∧
        (LeavesFirstPortion place (c :: s) → left ≠ []) := by
  let bound := (Lexicon.whole stop).runEnd ⟨c, place⟩
    (rowAt (place + c.utf8Size) (s ++ '<' :: more))
  obtain ⟨taken, left, hsplit, hscan, hwhole, hbound⟩ :=
    scanText_append stop bound (place + c.utf8Size) [c] hs more
  have hfits := fits_runEnd stop place more hstop
  have hend := portionEnd_whole stop place
  refine ⟨taken, left, hsplit, ?_, fun hone => ?_, fun hleaves => ?_⟩
  · have hless : c ≠ '<' := ne_less_of_isTextChar hc
    have hamp : c ≠ '&' := ne_ampersand_of_isTextChar hc
    have hends : ¬ (Lexicon.whole stop).endsLine c = true :=
      fun hends => hline ((endsLine_of_isTextChar hc stop).1 hends)
    rw [width_cons, ← Nat.add_assoc]
    simp only [scanToken, hless, hamp, hends, if_false, scanRun, hfits, startWith_eq_false _ hs,
      Bool.not_true, Bool.and_false, Bool.false_eq_true]
    exact hscan
  · have hle : place + width (c :: s) + 1 ≤ (Lexicon.whole stop).portionEnd place := by
      have hlt := lt_of_inOnePortion hone
      rw [hend]
      omega
    have hrun : bound = (Lexicon.whole stop).portionEnd place :=
      runEnd_eq_portionEnd stop place (fits_of_le stop place more hle)
    refine hwhole (fun hmem => hone.1 (List.mem_cons_of_mem c hmem)) ?_
    rwa [hrun, Nat.add_assoc place, ← width_cons]
  · obtain ⟨hfirst, hlong⟩ := hleaves
    obtain ⟨first, hhead, hbracket, -, hroom⟩ := hfirst
    obtain rfl : c = first := Option.some.inj hhead
    rintro rfl
    have hzero : place / portionSize = 0 := Nat.div_eq_of_lt (by have := c.utf8Size_pos; omega)
    have hportion : (Lexicon.whole stop).portionEnd place = portionSize := by
      rw [hend, hzero]
      omega
    have hrun : bound = (Lexicon.whole stop).portionEnd place := by
      refine runEnd_eq_portionEnd stop place ?_
      exact fits_of_ne_bracket stop place hbracket (hportion ▸ hroom)
    have hle := hbound (by omega)
    rw [List.append_nil] at hsplit
    rw [← hsplit, hrun, hportion, Nat.add_assoc, ← width_cons] at hle
    omega

/-! ## Texts -/

/-- The document itself, with nothing declared. -/
def Scope.undeclared (stop : Nat) : Scope := ⟨.whole stop, .empty false, []⟩

/-- What a text that begins at a place is cut into. -/
structure IsCutInto (place : Nat) (s : List Char) (pieces : List (List Char)) : Prop where
  flatten : pieces.flatten = s
  nonempty : ∀ piece ∈ pieces, piece ≠ []
  whole : InOnePortion place s → pieces.length ≤ 1
  parted : LeavesFirstPortion place s → 2 ≤ pieces.length

theorem isCutInto_nil (place : Nat) : IsCutInto place [] [] where
  flatten := rfl
  nonempty := nofun
  whole _ := Nat.zero_le 1
  parted hleaves := by
    obtain ⟨⟨c, hc, -⟩, -⟩ := hleaves
    cases hc

theorem IsCutInto.eq_nil_iff {place : Nat} {s : List Char} {pieces : List (List Char)}
    (h : IsCutInto place s pieces) : pieces = [] ↔ s = [] := by
  constructor
  · rintro rfl
    exact h.flatten.symm
  · rintro rfl
    refine List.eq_nil_iff_forall_not_mem.2 fun piece hpiece => ?_
    exact h.nonempty piece hpiece (List.flatten_eq_nil_iff.1 h.flatten piece hpiece)

namespace Scope

/-- Reading goes on after a token that was counted. -/
theorem read_of_scanNext {scope : Scope} {inside : EntityReader} {progress : Progress}
    {elements : List (List Char)} {inCdata : Bool} {g : Glyph} {rest after : List Glyph}
    {token : Token} {tally : Tally} (hscan : scanNext scope.lex inCdata g rest = .ok (token, after))
    (hcount : scope.count progress.tally g.place (scope.lex.placeOf after) = .ok tally) :
    scope.read inside progress elements inCdata (g :: rest) =
      match scope.step inside { progress with tally := tally } elements inCdata token g.place
        after with
      | .stop progress ending => (progress, ending)
      | .go progress elements inCdata => scope.read inside progress elements inCdata after := by
  rw [read.eq_def]
  simp only
  split
  · next o herror => cases hscan.symm.trans herror
  · next token' after' hok =>
    cases hscan.symm.trans hok
    cases hstep : scope.step inside { progress with tally := tally } elements inCdata token
      g.place after <;> simp only [hcount, hstep]

/-- Every part of a document without entities is counted. -/
theorem count_undeclared (stop : Nat) {tally : Tally} (h : tally.expanded = 0)
    (start place : Nat) :
    (undeclared stop).count tally start place = .ok (tally.reach place) := by
  have htolerable : (tally.reach place).isTolerable = true :=
    Tally.isTolerable_of_expanded_eq_zero h
  exact if_pos htolerable

variable {stop : Nat} {inside : EntityReader} {elements : List (List Char)}

/-- Reading goes on after a token of a document without entities. -/
theorem read_undeclared {progress : Progress} (htally : progress.tally.expanded = 0)
    {g : Glyph} {rest after : List Glyph} {token : Token}
    (hscan : scanToken (.whole stop) g rest = .ok (token, after)) :
    ∃ tally : Tally, tally.expanded = 0 ∧
      (undeclared stop).read inside progress elements false (g :: rest) =
        match (undeclared stop).step inside ⟨progress.output, tally⟩ elements false token g.place
          after with
        | .stop progress ending => (progress, ending)
        | .go progress elements inCdata =>
          (undeclared stop).read inside progress elements inCdata after :=
  ⟨progress.tally.reach ((Lexicon.whole stop).placeOf after), htally,
    read_of_scanNext hscan (count_undeclared stop htally g.place _)⟩

/-- The first token of a text that is not empty is a part of it, and goes on to the rest. -/
theorem read_first_run (place : Nat) {progress : Progress} (htally : progress.tally.expanded = 0)
    {c : Char} {s : List Char} (hc : isTextChar c = true) (hs : ∀ d ∈ s, isTextChar d = true)
    {more : List Char} (hstop : place + width (c :: s) + 1 ≤ stop) :
    ∃ taken left tally, s = taken ++ left ∧ tally.expanded = 0 ∧
      (undeclared stop).read inside progress elements false (rowAt place (c :: s ++ '<' :: more)) =
        (undeclared stop).read inside ⟨progress.output.addPiece (c :: taken), tally⟩ elements false
          (rowAt (place + width (c :: taken)) (left ++ '<' :: more)) ∧
      (InOnePortion place (c :: s) → left = []) ∧
        (LeavesFirstPortion place (c :: s) → left ≠ []) := by
  by_cases hline : c = '\n'
  · subst hline
    have hscan : scanToken (.whole stop) ⟨'\n', place⟩ (rowAt (place + 1) (s ++ '<' :: more)) =
        .ok (.lineEnd, rowAt (place + 1) (s ++ '<' :: more)) := rfl
    obtain ⟨tally, hexpanded, hread⟩ := read_undeclared htally hscan
    exact ⟨[], s, tally, rfl, hexpanded, hread, fun hone => absurd List.mem_cons_self hone.1,
      fun ⟨⟨_, hfirst, _, hne, _⟩, _⟩ => absurd (Option.some.inj hfirst).symm hne⟩
  · obtain ⟨taken, left, hsplit, hscan, hwhole, hparted⟩ := scanToken_text hc hline hs hstop
    obtain ⟨tally, hexpanded, hread⟩ := read_undeclared htally hscan
    exact ⟨taken, left, tally, hsplit, hexpanded, hread, hwhole, hparted⟩

/-- Text up to the next tag is taken in pieces. -/
theorem read_text (place : Nat) (progress : Progress) (htally : progress.tally.expanded = 0)
    {s : List Char} (h : ∀ c ∈ s, isTextChar c = true) {more : List Char}
    (hstop : place + width s + 1 ≤ stop) :
    ∃ pieces tally, IsCutInto place s pieces ∧ tally.expanded = 0 ∧
      (undeclared stop).read inside progress elements false (rowAt place (s ++ '<' :: more)) =
        (undeclared stop).read inside ⟨progress.output.addPieces pieces, tally⟩ elements false
          (rowAt (place + width s) ('<' :: more)) := by
  match s with
  | [] => exact ⟨[], progress.tally, isCutInto_nil place, htally, rfl⟩
  | c :: s =>
    obtain ⟨hc, hs⟩ := List.forall_mem_cons.1 h
    obtain ⟨taken, left, tally, hsplit, hexpanded, hread, hwhole, hparted⟩ :=
      read_first_run place htally hc hs hstop
    have hleft : ∀ d ∈ left, isTextChar d = true :=
      fun d hd => hs d (hsplit ▸ List.mem_append_right taken hd)
    have hshorter : left.length ≤ s.length := by simp [hsplit]
    have hwidth : place + width (c :: s) = place + width (c :: taken) + width left := by
      rw [hsplit, ← List.cons_append, width_append, Nat.add_assoc]
    obtain ⟨pieces, last, hcut, hlast, hrest⟩ := read_text (place + width (c :: taken))
      ⟨progress.output.addPiece (c :: taken), tally⟩ hexpanded hleft (hwidth ▸ hstop)
    refine ⟨(c :: taken) :: pieces, last, ⟨?_, ?_, fun hone => ?_, fun hleaves => ?_⟩, hlast, ?_⟩
    · rw [List.flatten_cons, hcut.flatten, List.cons_append, ← hsplit]
    · exact List.forall_mem_cons.2 ⟨nofun, hcut.nonempty⟩
    · rw [List.length_cons, hcut.eq_nil_iff.2 (hwhole hone), List.length_nil]
    · have hpieces : pieces ≠ [] := fun hnil => hparted hleaves (hcut.eq_nil_iff.1 hnil)
      have hpositive := List.length_pos_iff.2 hpieces
      rw [List.length_cons]
      omega
    · rw [hread, hrest, hwidth]
      rfl
termination_by s.length

end Scope

end Metalink.Xml
