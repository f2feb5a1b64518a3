import Mathlib.Tactic.Common
import Metalink.Xml.Source

/-!
# What reading content keeps

Reading content does three things to its output: it adds pieces of text, it opens elements
and it closes them, innermost first.  A relation between the open elements and the output
that these three keep is therefore kept by reading as a whole, through the texts of all
entities, and holds in the end with no element left open if the document is well-formed.

Main results:

- `Scope.read_keeps`: the relation is kept by reading the content of a document or of the
  text of an entity.
- `Source.tokenize_keeps`: it holds of the events of every document.
-/

namespace Metalink.Xml

/-! ## Relations that are kept -/

/-- A relation between the names of the open elements and an output is kept by all that is done
to the output: text is added anywhere, an element is opened within all others, or the innermost
one is closed. -/
structure Keeps (R : List (List Char) → Output → Prop) : Prop where
  piece : ∀ {names out} (piece : List Char), R names out → R names (out.addPiece piece)
  opened : ∀ {names out} (name : List Char) (attributes : List String), R names out →
    R (name :: names) (out.addTag (.opened (String.ofList name) attributes))
  closed : ∀ {names out} (name : List Char), R (name :: names) out →
    R names (out.addTag (.closed (String.ofList name)))

variable {R : List (List Char) → Output → Prop}

/-- Reading that ends properly leaves the given elements open, and reading that ends with a
fault some elements. -/
def Ending.Leaves (R : List (List Char) → Output → Prop) (names : List (List Char))
    (progress : Progress) : Ending → Prop
  | .fault _ => ∃ others, R others progress.output
  | .closed _ => R names progress.output
  | .finished => R names progress.output

/-- A step leaves the elements of the text that is read open within some others. -/
def ContentStep.Leaves (R : List (List Char) → Output → Prop) (around : List (List Char)) :
    ContentStep → Prop
  | .go progress elements _ => R (elements ++ around) progress.output
  | .stop progress ending => ending.Leaves R around progress

/-- A run that is collected in pieces keeps the relation. -/
theorem Keeps.addRunFrom (h : Keeps R) {names : List (List Char)} {out : Output}
    (hout : R names out) (piece : List Char) (bytes : Nat) (run : List Char) :
    R names (out.addRunFrom piece bytes run) := by
  induction run generalizing out piece bytes with
  | nil => exact h.piece _ hout
  | cons c rest ih =>
    rw [Output.addRunFrom]
    split
    · exact ih (h.piece _ hout) _ _
    · exact ih hout _ _

/-- So does a run that is collected or delivered at once. -/
theorem Keeps.addRun (h : Keeps R) {names : List (List Char)} {progress : Progress}
    (hout : R names progress.output) (whole : Bool) (run : List Char) :
    R names (progress.addRun whole run).output := by
  cases whole with
  | true => exact h.piece run hout
  | false => exact h.addRunFrom hout [] 0 run

/-! ## Steps -/

/-- The text of an entity is read within the elements that are open where it stands. -/
def EntityReader.Keeps (R : List (List Char) → Output → Prop) (inside : EntityReader) : Prop :=
  ∀ names name text (progress : Progress), R names progress.output →
    (inside name text progress).2.Leaves R names (inside name text progress).1

namespace Scope

variable {around : List (List Char)}

/-- Where nothing is left to read, the text of an entity has no element open. -/
theorem leaves_atEnd (scope : Scope) {elements : List (List Char)} {progress : Progress}
    (hout : R (elements ++ around) progress.output) (place : Nat) :
    (scope.atEnd elements place).Leaves R around progress := by
  unfold atEnd
  split
  · exact ⟨_, hout⟩
  · split
    · next hempty =>
      obtain rfl := List.isEmpty_iff.1 hempty
      exact hout
    · exact ⟨_, hout⟩

/-- An obstacle leaves the relation as it was. -/
theorem leaves_ending {elements : List (List Char)} {progress : Progress}
    (hout : R elements progress.output) (obstacle : Obstacle) (inCdata : Bool) (place : Nat) :
    (obstacle.ending inCdata place).Leaves R around progress := by
  unfold Obstacle.ending
  split <;> exact ⟨_, hout⟩

/-- So does the end of the input. -/
theorem leaves_exhausted (scope : Scope) {elements : List (List Char)} {progress : Progress}
    (hout : R (elements ++ around) progress.output) (inCdata : Bool) :
    (scope.exhausted elements inCdata).Leaves R around progress := by
  unfold exhausted
  split
  · exact scope.leaves_atEnd hout _
  · exact leaves_ending hout _ _ _

/-- Closing an element keeps it. -/
theorem leaves_close (h : Keeps R) (scope : Scope) {progress : Progress} {name : List Char}
    {elements : List (List Char)} (hout : R (name :: elements ++ around) progress.output)
    (rest : List Glyph) : (scope.close progress name elements rest).Leaves R around := by
  have hclosed : R (elements ++ around)
      (progress.addTag (.closed (String.ofList name))).output := h.closed name hout
  unfold close
  split
  · next hempty =>
    simp only [Bool.and_eq_true, List.isEmpty_iff] at hempty
    obtain rfl := hempty.2
    exact hclosed
  · exact hclosed

theorem leaves_startStep (h : Keeps R) (scope : Scope) {progress : Progress}
    {elements : List (List Char)} (hout : R (elements ++ around) progress.output)
    (name : List Char) (raws : List RawAttribute) (isEmpty : Bool) (place : Nat)
    (rest : List Glyph) :
    (scope.startStep progress elements name raws isEmpty place rest).Leaves R around := by
  unfold startStep
  split
  · exact ⟨_, hout⟩
  · next attributes tally hattributes =>
    have hopened := h.opened name (flatAttributes attributes) hout
    dsimp only
    split
    · exact scope.leaves_close h hopened rest
    · exact hopened

theorem leaves_endStep (h : Keeps R) (scope : Scope) {progress : Progress}
    {elements : List (List Char)} (hout : R (elements ++ around) progress.output)
    (name : List Char) (namePlace place : Nat) (rest : List Glyph) :
    (scope.endStep progress elements name namePlace place rest).Leaves R around := by
  cases elements with
  | nil => exact ⟨_, hout⟩
  | cons innermost others =>
    rw [endStep]
    split
    · next hname => exact scope.leaves_close h (hname ▸ hout) rest
    · exact ⟨_, hout⟩

/-- So does a reference, if the texts of entities do. -/
theorem leaves_referenceStep (h : Keeps R) (scope : Scope) {inside : EntityReader}
    (hinside : inside.Keeps R) {progress : Progress} {elements : List (List Char)}
    (hout : R (elements ++ around) progress.output) (ref : Reference) (place : Nat) :
    (scope.referenceStep inside progress elements ref place).Leaves R around := by
  unfold referenceStep
  split
  · exact ⟨_, hout⟩
  · exact h.piece _ hout
  · next name =>
    split
    · exact h.piece _ hout
    · exact hout
    · exact hout
    · exact ⟨_, hout⟩
    · next text _ =>
      have hread := hinside (elements ++ around) name text progress hout
      generalize inside name text progress = result at hread ⊢
      rcases result with ⟨after, ending⟩
      cases ending <;> exact hread

/-- So does every token. -/
theorem leaves_step (h : Keeps R) (scope : Scope) {inside : EntityReader}
    (hinside : inside.Keeps R) {progress : Progress} {elements : List (List Char)}
    (hout : R (elements ++ around) progress.output) (inCdata : Bool) (token : Token)
    (place : Nat) (rest : List Glyph) :
    (scope.step inside progress elements inCdata token place rest).Leaves R around := by
  cases token with
  | text run => exact h.addRun hout _ run
  | trailing run => exact scope.leaves_atEnd (h.addRun hout _ run) _
  | lineEnd => exact h.piece ['\n'] hout
  | trailingLineEnd =>
    have hline : R (elements ++ around) (progress.addChar '\n').output := h.piece ['\n'] hout
    exact scope.leaves_atEnd hline place
  | reference ref => exact scope.leaves_referenceStep h hinside hout ref place
  | startTag name raws isEmpty =>
    exact scope.leaves_startStep h hout name raws isEmpty place rest
  | endTag name namePlace => exact scope.leaves_endStep h hout name namePlace place rest
  | cdata => exact hout
  | cdataEnd => exact hout
  | ignored => exact hout
  | declaration => exact ⟨_, hout⟩

/-! ## Reading -/

/-- Reading a text keeps what its steps keep.  The elements that are opened in the text are
open within those around it. -/
theorem read_keeps (h : Keeps R) (scope : Scope) {inside : EntityReader}
    (hinside : inside.Keeps R) (progress : Progress) (elements : List (List Char))
    (inCdata : Bool) (cs : List Glyph) (hout : R (elements ++ around) progress.output) :
    (scope.read inside progress elements inCdata cs).2.Leaves R around
      (scope.read inside progress elements inCdata cs).1 := by
  -- The recursion is on the characters that are left: every token takes at least one, and
  -- what a step leaves open is what the next one starts with.
  fun_induction Scope.read scope inside progress elements inCdata cs with
  | case1 progress elements inCdata => exact scope.leaves_exhausted hout inCdata
  | case2 => exact leaves_ending hout _ _ _
  | case3 => exact ⟨_, hout⟩
  | case4 progress elements inCdata g rest token after hscan tally hcount counted next ending
      hstep =>
    have hcounted : R (elements ++ around) counted.output := hout
    have hleaves := scope.leaves_step h hinside hcounted inCdata token g.place after
    rw [hstep] at hleaves
    exact hleaves
  | case5 progress elements inCdata g rest token after hscan tally hcount counted next
      nextElements nextCdata hstep ih =>
    have hcounted : R (elements ++ around) counted.output := hout
    have hleaves := scope.leaves_step h hinside hcounted inCdata token g.place after
    rw [hstep] at hleaves
    exact ih hleaves

end Scope

/-- Reading the text of an entity keeps the relation. -/
theorem readEntity_keeps (h : Keeps R) (dtd : Doctype) (depth : Nat)
    (opened : List (List Char)) : (readEntity dtd depth opened).Keeps R := by
  induction depth generalizing opened with
  | zero => exact fun _ _ _ _ hout => ⟨_, hout⟩
  | succ depth ih =>
    intro names name text progress hout
    exact Scope.read_keeps h _ (ih (name :: opened)) progress [] false text hout

/-- So does reading content from the start. -/
theorem readContent_keeps (h : Keeps R) (hempty : R [] .empty) (lex : Lexicon)
    (dtd : Doctype) (tally : Tally) (cs : List Glyph) :
    (readContent lex dtd tally cs).2.Leaves R [] (readContent lex dtd tally cs).1 :=
  Scope.read_keeps h _ (readEntity_keeps h dtd dtd.depth []) _ [] false cs hempty

/-! ## Documents -/

/-- What is kept holds of what was delivered of a document, with all elements closed if it
is well-formed. -/
def Tokenized.Keeps (R : List (List Char) → Output → Prop) (tokenized : Tokenized) : Prop :=
  ∃ names out, tokenized.events = out.delivered ∧ R names out ∧
    (tokenized.verdict = .wellFormed → names = [])

/-- A document without events keeps what holds of the empty output. -/
theorem Tokenized.keeps_of_events_eq_nil (hempty : R [] .empty) {tokenized : Tokenized}
    (h : tokenized.events = []) : tokenized.Keeps R :=
  ⟨[], .empty, h, hempty, fun _ => rfl⟩

/-- The events of a document from its declaration on keep the relation. -/
theorem readBody_keeps (h : Keeps R) (hempty : R [] .empty) (encoding : Encoding)
    (standalone : Bool) (lead body : Bytes) :
    (readBody encoding standalone lead body).Keeps R := by
  unfold readBody
  simp only
  split
  · exact Tokenized.keeps_of_events_eq_nil hempty rfl
  · next dtd tally content hprolog =>
    have hread := readContent_keeps h hempty
      ⟨(encoding.decode lead.length body).tail, encoding,
        (encoding.decode lead.length body).stop, true⟩ dtd tally content
    split
    · next progress fault heq =>
      rw [heq] at hread
      obtain ⟨names, hnames⟩ := hread
      exact ⟨names, progress.output, rfl, hnames, fun hverdict => by cases hverdict⟩
    · next progress heq =>
      rw [heq] at hread
      exact ⟨[], progress.output, rfl, hread, fun _ => rfl⟩
    · next progress rest heq =>
      rw [heq] at hread
      exact ⟨[], progress.output, rfl, hread, fun _ => rfl⟩

/-- So do those of a document in a recognised encoding. -/
theorem readRecognised_keeps (h : Keeps R) (hempty : R [] .empty) (declares : Bool)
    (bytes : Bytes) (encoding : Encoding) (mark : Nat) :
    (readRecognised declares bytes encoding mark).Keeps R := by
  unfold readRecognised
  simp only
  split
  · exact Tokenized.keeps_of_events_eq_nil hempty rfl
  · exact readBody_keeps h hempty _ _ _ _
  · split
    · exact Tokenized.keeps_of_events_eq_nil hempty rfl
    · split
      · exact readBody_keeps h hempty _ _ _ _
      · split
        · exact readBody_keeps h hempty _ _ _ _
        · split
          · exact readBody_keeps h hempty _ _ _ _
          · exact Tokenized.keeps_of_events_eq_nil hempty rfl
          · exact Tokenized.keeps_of_events_eq_nil hempty rfl

/-- So do those of any bytes. -/
theorem readBytes_keeps (h : Keeps R) (hempty : R [] .empty) (declares : Bool) (bytes : Bytes) :
    (readBytes declares bytes).Keeps R := by
  unfold readBytes
  split
  · exact Tokenized.keeps_of_events_eq_nil hempty rfl
  · exact Tokenized.keeps_of_events_eq_nil hempty rfl
  · exact readRecognised_keeps h hempty _ _ _ _

/-- What is kept by all that is done to an output holds of every document. -/
theorem Source.tokenize_keeps (h : Keeps R) (hempty : R [] .empty) (source : Source) :
    source.tokenize.Keeps R := by
  unfold tokenize
  split
  · exact Tokenized.keeps_of_events_eq_nil hempty rfl
  · exact readBytes_keeps h hempty _ _

end Metalink.Xml
