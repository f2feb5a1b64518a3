import Mathlib.Tactic.Common
import Metalink.Proofs.Reader.Latch
import Metalink.Proofs.Reader.Escape

/-!
# Problems before faults

A source can be at fault in two ways: it may not be well-formed, and its elements may not be
what they should be.  The faults of elements come up first, while events are read, and yet a
problem with the source is what is reported.  The fault is not lost: the reader keeps it.
What is reported of a malformed source is therefore the same whatever it should describe.

Main results:

- `fault_parse_eq_some_iff`: the fault that a reader keeps is that of the first refused offer.
- `parse_malformed_iff`: when a source is reported as malformed.
- `problems_precede_faults`: what is reported, what is kept, and that names do not show in it.
-/

namespace Metalink

/-! ## The first refused offer -/

namespace Xml.Source

/-- The first offer of a source that is not valid is refused with a fault. -/
def ReachesFault (source : Source) (expected : String) (fault : ContentFault) : Prop :=
  ∃ first offer rest, offersOf [] source.tokenize.events = first ++ offer :: rest ∧
    (∀ x ∈ first, x.IsValid expected) ∧
      ∀ doc, (offer.take expected doc).1 = .error (.fault fault)

/-- A source reaches a fault exactly if taking its offers comes to it. -/
theorem reachesFault_iff {source : Source} {expected : String} {fault : ContentFault} :
    source.ReachesFault expected fault ↔
      (source.intake expected).trouble = some (.fault fault) := by
  rw [intake, takeAll_trouble_eq_some_iff]
  constructor
  · rintro ⟨first, offer, rest, hoffers, hvalid, hrefused⟩
    exact ⟨first, offer, rest, hoffers, hvalid, hrefused _⟩
  · rintro ⟨first, offer, rest, hoffers, hvalid, hrefused⟩
    refine ⟨first, offer, rest, hoffers, hvalid, fun doc => ?_⟩
    rw [Offer.take_of_error hrefused doc]

/-- Reading a source for some name comes to nothing that escapes: no numeral is too long, the
encoding can be had, and a text can be encoded. -/
structure IsReadable (source : Source) (expected : String) : Prop where
  evaluated : ∀ digits, ¬ source.ReachesOverlong expected digits
  encoded : ∀ escape, ¬ source.LacksEncoding escape
  encodable : ∀ fault, ¬ source.IsUnencodable fault

/-- Nothing that a readable source offers escapes. -/
theorem IsReadable.trouble_ne {source : Source} {expected : String}
    (h : source.IsReadable expected) (escape : Escape) :
    (source.intake expected).trouble ≠ some (.escape escape) := by
  rw [Ne, trouble_intake_eq_escape_iff]
  rintro ⟨digits, hreaches, -⟩
  exact h.evaluated digits hreaches

theorem IsReadable.verdict_ne {source : Source} {expected : String}
    (h : source.IsReadable expected) (escape : Escape) :
    source.tokenize.verdict ≠ .escaped escape := by
  rw [Ne, tokenize_escaped_iff]
  rintro (hlacks | ⟨fault, hfault, -⟩)
  · exact h.encoded escape hlacks
  · exact h.encodable fault hfault

end Xml.Source

/-! ## What a fresh reader comes to -/

namespace Reader

theorem reader_parse (reader : Reader) (source : Xml.Source) :
    (reader.parse source).reader = (reader.run source.tokenize.events).reader := by
  simp only [parse, parseTokenized]
  cases (reader.run source.tokenize.events).escape with
  | some escape => rfl
  | none => cases source.tokenize.verdict <;> rfl

/-- The fault that a reader keeps is that of the first refused offer, however the source comes
out. -/
theorem fault_parse_eq_some_iff {source : Xml.Source} {expected : String}
    {fault : ContentFault} :
    ((start expected).parse source).reader.fault = some fault ↔
      source.ReachesFault expected fault := by
  have hshows := (start expected).run_shows_takeAll rfl source.tokenize.events
  have hfault : ((start expected).parse source).reader.fault =
      (source.intake expected).trouble.bind Trouble.fault? := by
    rw [reader_parse]
    exact hshows.fault
  rw [hfault, Xml.Source.reachesFault_iff]
  cases (source.intake expected).trouble with
  | none => simp
  | some trouble => cases trouble <;> simp [Trouble.fault?]

theorem outcome_parse_start {source : Xml.Source} {expected : String} :
    ((start expected).parse source).outcome =
      (source.intake expected).outcome source.tokenize.verdict :=
  parse_outcome rfl source

/-- What is reported of a malformed source is its problem, and nothing else is reported in this
way. -/
theorem parse_malformed_iff {source : Xml.Source} {expected : String}
    (h : source.IsReadable expected) {reason : String} {line column : Option Int} :
    ((start expected).parse source).outcome = .error (.error (.malformed reason line column)) ↔
      ∃ problem position, source.tokenize.verdict = .malformed problem position ∧
        reason = problem.message ∧ line = some position.line ∧
          column = some position.column := by
  rw [outcome_parse_start]
  have htrouble := h.trouble_ne
  have hverdict := h.verdict_ne
  generalize source.intake expected = intake at htrouble ⊢
  rcases intake with ⟨document, trouble, log⟩
  cases hcase : source.tokenize.verdict with
  | escaped escape => exact absurd hcase (hverdict escape)
  | wellFormed =>
    cases trouble with
    | none => simp [Intake.outcome, Xml.Verdict.failure?]
    | some trouble => cases trouble <;> simp [Intake.outcome, Xml.Verdict.failure?]
  | malformed problem position =>
    have houtcome : Intake.outcome ⟨document, trouble, log⟩ (.malformed problem position) =
        .error (.error (.malformed problem.message (some position.line)
          (some position.column))) := by
      cases trouble with
      | none => rfl
      | some trouble =>
        cases trouble with
        | fault fault => rfl
        | escape escape => exact absurd rfl (htrouble escape)
    rw [houtcome]
    constructor
    · intro heq
      cases heq
      exact ⟨problem, position, rfl, rfl, rfl, rfl⟩
    · rintro ⟨_, _, heq, rfl, rfl, rfl⟩
      cases heq
      rfl

/-- A readable source that is not malformed comes to the first fault, or else to the document
that is gathered from all that it offers. -/
theorem outcome_parse_of_wellFormed {source : Xml.Source} {expected : String}
    (h : source.IsReadable expected) (hverdict : source.tokenize.verdict = .wellFormed) :
    (∀ fault, source.ReachesFault expected fault →
        ((start expected).parse source).outcome = .error (.error (.content fault))) ∧
      ((∀ fault, ¬ source.ReachesFault expected fault) →
        ((start expected).parse source).outcome =
          .ok (gather expected (offersOf [] source.tokenize.events))) := by
  rw [outcome_parse_start, hverdict]
  constructor
  · intro fault hfault
    rw [Xml.Source.reachesFault_iff] at hfault
    simp [Intake.outcome, hfault, Xml.Verdict.failure?]
  · intro hnone
    have htrouble : (source.intake expected).trouble = none := by
      cases hcase : (source.intake expected).trouble with
      | none => rfl
      | some trouble =>
        cases trouble with
        | fault fault => exact absurd (Xml.Source.reachesFault_iff.2 hcase) (hnone fault)
        | escape escape => exact absurd hcase (h.trouble_ne escape)
    have hdocument : (source.intake expected).document =
        gather expected (offersOf [] source.tokenize.events) :=
      takeAll_document_eq_gather (takeAll_trouble_eq_none_iff.1 htrouble)
    simp [Intake.outcome, htrouble, hdocument, Xml.Verdict.failure?]

end Reader

/-! ## Precedence -/

/-- A readable source is reported as malformed exactly if it is, with its problem and the place
of it, and whatever stands in its elements.  Otherwise it comes to the first fault, or else to
the document of all that it offers.  In every case the reader keeps the first fault.  For two
names for which a source is readable, it is reported as malformed in the same way or for
neither. -/
theorem problems_precede_faults (source : Xml.Source) (expected : String)
    (hname : expected ≠ "") (h : source.IsReadable expected) :
    let run := (Reader.start expected).parse source
    parse source expected = (run.outcome, run.log) ∧
      (∀ reason line column,
        run.outcome = .error (.error (.malformed reason line column)) ↔
          ∃ problem position, source.tokenize.verdict = .malformed problem position ∧
            reason = problem.message ∧ line = some position.line ∧
              column = some position.column) ∧
      ((∀ problem position, source.tokenize.verdict ≠ .malformed problem position) →
        (∀ fault, source.ReachesFault expected fault →
          run.outcome = .error (.error (.content fault))) ∧
        ((∀ fault, ¬ source.ReachesFault expected fault) →
          run.outcome = .ok (gather expected (offersOf [] source.tokenize.events)))) ∧
      (∀ fault, run.reader.fault = some fault ↔ source.ReachesFault expected fault) ∧
      ∀ other, other ≠ "" → source.IsReadable other → ∀ reason line column,
        ((parse source expected).1 = .error (.error (.malformed reason line column)) ↔
          (parse source other).1 = .error (.error (.malformed reason line column))) := by
  intro run
  have hparse : ∀ name, name ≠ "" → parse source name =
      (((Reader.start name).parse source).outcome, ((Reader.start name).parse source).log) := by
    intro name hne
    simp only [parse, Reader.ofName?, if_neg hne]
  refine ⟨hparse expected hname, ?_, ?_, ?_, ?_⟩
  · intro reason line column
    exact Reader.parse_malformed_iff h
  · intro hmalformed
    have hverdict : source.tokenize.verdict = .wellFormed := by
      cases hcase : source.tokenize.verdict with
      | wellFormed => rfl
      | malformed problem position => exact absurd hcase (hmalformed problem position)
      | escaped escape => exact absurd hcase (h.verdict_ne escape)
    exact Reader.outcome_parse_of_wellFormed h hverdict
  · intro fault
    exact Reader.fault_parse_eq_some_iff
  · intro other hother hreadable reason line column
    rw [hparse expected hname, hparse other hother, Reader.parse_malformed_iff h,
      Reader.parse_malformed_iff hreadable]

/-- A file element that names another file than expected, in a source with an end tag that does
not match: the end tag is reported, for the name that is refused and for the other one. -/
theorem mismatched_tag_precedes_name :
    let source : Xml.Source := .text "<file name=\"x\">t<hash></file>"
    let report : Except Failure Document :=
      .error (.error (.malformed "mismatched tag" (some 1) (some 24)))
    (source.IsReadable "f.rpm" ∧ source.IsReadable "x") ∧
      ((Reader.start "f.rpm").parse source).outcome = report ∧
      ((Reader.start "f.rpm").parse source).reader.fault =
        some (.unexpectedFile "f.rpm" "x") ∧
      (parse source "x").1 = report := by
  intro source report
  have htokens : source.tokenize =
      ⟨[.opened "file" ["name", "x"], .ofString "t", .opened "hash" []],
        .malformed .mismatchedTag ⟨1, 24⟩⟩ := by decide +kernel
  have hrefused : (source.intake "f.rpm").trouble =
      some (.fault (.unexpectedFile "f.rpm" "x")) := by
    rw [Xml.Source.intake, htokens]
    decide +kernel
  have htaken : (source.intake "x").trouble = none := by
    rw [Xml.Source.intake, htokens]
    decide +kernel
  have hverdict : ∀ escape, source.tokenize.verdict ≠ .escaped escape := by
    rw [htokens]
    exact nofun
  have hreadable : ∀ name, (∀ escape, (source.intake name).trouble ≠ some (.escape escape)) →
      source.IsReadable name := fun name htrouble =>
    { evaluated := fun digits hreaches =>
        htrouble _ (Xml.Source.trouble_intake_eq_escape_iff.2 ⟨digits, hreaches, rfl⟩)
      encoded := fun escape hlacks =>
        hverdict escape (Xml.Source.tokenize_escaped_iff.2 (.inl hlacks))
      encodable := fun fault hfault =>
        hverdict _ (Xml.Source.tokenize_escaped_iff.2 (.inr ⟨fault, hfault, rfl⟩)) }
  have hfirst : source.IsReadable "f.rpm" := hreadable _ (by simp [hrefused])
  have hother : source.IsReadable "x" := hreadable _ (by simp [htaken])
  obtain ⟨hparse, hmalformed, -, hkept, hnames⟩ :=
    problems_precede_faults source "f.rpm" (by decide) hfirst
  have hreport := (hmalformed "mismatched tag" (some 1) (some 24)).2
    ⟨.mismatchedTag, ⟨1, 24⟩, by rw [htokens], rfl, rfl, rfl⟩
  refine ⟨⟨hfirst, hother⟩, hreport, (hkept _).2 (Xml.Source.reachesFault_iff.2 hrefused), ?_⟩
  refine (hnames "x" (by decide) hother _ _ _).1 ?_
  rw [hparse]
  exact hreport

end Metalink
