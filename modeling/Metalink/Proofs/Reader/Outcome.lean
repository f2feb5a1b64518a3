import Mathlib.Tactic.Common
import Metalink.Proofs.Reader.Validity
import Metalink.Reader.Parse

/-!
# What reading a source comes to

Two things settle what reading a source comes to: the first trouble with what its events
offer to elements, and how the source itself came out.  A failure that escapes breaks the
reading off; otherwise a source that does not come out well fails for that reason, and
a fault counts only if it does.

Main results:

- `parse_eq`: what reading a source comes to, by the trouble and the verdict.
- `parse_eq_ok_iff`: the exact condition under which a source is accepted, and the document.
- `level_of_mem_parse`: no error is noted of a source that is accepted.
- `parse_of_fault`: a reader that is at fault beforehand accepts no source.
- `isA_parse_of_parse_eq_error`: what is reported of a source is an error of parsing.
-/

namespace Metalink

/-- Why a source is not read to a proper end, whatever stands in its elements. -/
def Xml.Verdict.failure? : Xml.Verdict → Option Failure
  | .wellFormed => none
  | .malformed problem position =>
    some (.error (.malformed problem.message (some position.line) (some position.column)))
  | .escaped escape => some (.escape escape)

theorem Xml.Verdict.failure?_eq_none_iff {verdict : Xml.Verdict} :
    verdict.failure? = none ↔ verdict = .wellFormed := by
  cases verdict <;> simp [failure?]

/-- A document escapes exactly if its encoding cannot be had. -/
theorem Xml.Verdict.failure?_eq_escape_iff {verdict : Xml.Verdict} {escape : Escape} :
    verdict.failure? = some (.escape escape) ↔ verdict = .escaped escape := by
  cases verdict <;> simp [failure?]

/-- What reading comes to, by what became of the offers and by how the source came out. -/
def Intake.outcome (intake : Intake) (verdict : Xml.Verdict) : Except Failure Document :=
  match intake.trouble, verdict.failure? with
  | some (.escape escape), _ => .error (.escape escape)
  | _, some failure => .error failure
  | some (.fault fault), none => .error (.error (.content fault))
  | none, none => .ok intake.document

namespace Reader

/-- A reader without a fault takes the offers of a source. -/
theorem parse_outcome {reader : Reader} (h : reader.fault = none) (source : Xml.Source) :
    (reader.parse source).outcome =
      (takeAll reader.expected (offersOf reader.frames source.tokenize.events)
        reader.document).outcome source.tokenize.verdict := by
  have hshows := reader.run_shows_takeAll h source.tokenize.events
  have hescape := hshows.escape
  have hfault := hshows.fault
  have hdocument := hshows.document
  simp only [parse, parseTokenized, Intake.outcome]
  cases htrouble : (takeAll reader.expected (offersOf reader.frames source.tokenize.events)
      reader.document).trouble with
  | none =>
    simp only [htrouble, Option.bind_none] at hescape hfault
    cases source.tokenize.verdict <;>
      simp [hescape, hfault, hdocument, result, Xml.Verdict.failure?]
  | some trouble =>
    cases trouble <;> simp only [htrouble, Option.bind_some, Trouble.fault?, Trouble.escape?]
      at hescape hfault <;> cases source.tokenize.verdict <;>
      simp [hescape, hfault, result, Xml.Verdict.failure?]

/-- A reader that is at fault beforehand accepts no source, and stays as it is. -/
theorem parse_of_fault {reader : Reader} {fault : ContentFault}
    (h : reader.fault = some fault) (source : Xml.Source) :
    (reader.parse source).reader = reader ∧ (reader.parse source).outcome =
      .error (source.tokenize.verdict.failure?.getD (.error (.content fault))) := by
  have hsome : reader.fault.isSome := by rw [h]; rfl
  simp only [parse, parseTokenized, run_of_fault hsome, still]
  cases source.tokenize.verdict <;> simp [Xml.Verdict.failure?, result, h]

end Reader

/-- What a fresh reader makes of the offers of a source. -/
def Xml.Source.intake (source : Xml.Source) (expected : String) : Intake :=
  takeAll expected (offersOf [] source.tokenize.events) .empty

/-- What reading a source comes to. -/
theorem parse_eq {expected : String} (h : expected ≠ "") (source : Xml.Source) :
    (parse source expected).1 =
      (source.intake expected).outcome source.tokenize.verdict := by
  simp only [parse, Reader.ofName?, if_neg h]
  have hstart : (Reader.start expected).fault = none := rfl
  exact Reader.parse_outcome hstart source

/-- A source is accepted exactly if it is well-formed and all that it offers is valid, and
then comes to the document that is gathered from the offers. -/
theorem parse_eq_ok_iff {source : Xml.Source} {expected : String} {doc : Document} :
    (parse source expected).1 = .ok doc ↔
      expected ≠ "" ∧ source.tokenize.verdict = .wellFormed ∧
        (∀ offer ∈ offersOf [] source.tokenize.events, offer.IsValid expected) ∧
        doc = gather expected (offersOf [] source.tokenize.events) := by
  by_cases hname : expected = ""
  · simp [parse, Reader.ofName?, hname]
  · rw [parse_eq hname, ← takeAll_trouble_eq_none_iff, ← Xml.Verdict.failure?_eq_none_iff]
    constructor
    · intro h
      unfold Intake.outcome at h
      split at h
      · cases h
      · cases h
      · cases h
      · next htrouble hverdict =>
        cases h
        exact ⟨hname, hverdict, htrouble,
          takeAll_document_eq_gather (takeAll_trouble_eq_none_iff.1 htrouble)⟩
    · rintro ⟨-, hverdict, htrouble, rfl⟩
      have hdocument := takeAll_document_eq_gather (takeAll_trouble_eq_none_iff.1 htrouble)
      simp [Intake.outcome, Xml.Source.intake, hverdict, htrouble, hdocument]

/-- Once a file has been read, its content is all that matters. -/
theorem parseFile_of_readFile {storage : Storage} {path : Path} {content : Bytes}
    (h : storage.readFile path = .ok content) (expected : String) :
    parseFile storage path expected = parse (.bytes content) expected := by
  simp only [parseFile, h]

/-! ## What is noted -/

theorem level_of_mem_debug {message : String} {record : LogRecord}
    (h : record ∈ Log.debug message) : record.level = .debug := by
  obtain rfl := List.mem_singleton.1 h
  rfl

/-- What is noted of content is there for tracing only. -/
theorem Role.level_of_mem_take {role : Role} {expected : String} {text : CodeText}
    {attributes : List String} {doc : Document} {record : LogRecord}
    (h : record ∈ (role.take expected attributes text doc).2) : record.level = .debug := by
  cases role <;> simp only [Role.take, takeFile, takeSize, takeNumeral, takeHash, noteHashType,
    takeUrl, takeAddress, Taken.atFault] at h
    <;> (repeat' split at h) <;> first | exact level_of_mem_debug h | cases h

/-- What is noted of an offer is for debugging. -/
theorem Offer.level_of_mem_take {offer : Offer} {expected : String} {doc : Document}
    {record : LogRecord} (h : record ∈ (offer.take expected doc).2) : record.level = .debug := by
  unfold Offer.take at h
  split at h
  · cases h
  · exact Role.level_of_mem_take h

/-- Offers that are all taken are noted for tracing only. -/
theorem level_of_mem_takeAll {expected : String} {offers : List Offer} {doc : Document}
    (hnone : (takeAll expected offers doc).trouble = none) {record : LogRecord}
    (h : record ∈ (takeAll expected offers doc).log) : record.level = .debug := by
  induction offers generalizing doc with
  | nil => cases h
  | cons offer rest ih =>
    have hoffer : record ∈ (offer.take expected doc).2 → record.level = .debug :=
      Offer.level_of_mem_take
    rw [takeAll] at hnone h
    rcases htake : offer.take expected doc with ⟨result, log⟩
    rw [htake] at hnone h hoffer
    cases result with
    | error trouble => cases hnone
    | ok next =>
      rcases List.mem_append.1 h with h | h
      · exact hoffer h
      · exact ih hnone h

/-- Nothing but records for tracing is noted of a source that is accepted. -/
theorem level_of_mem_parse {source : Xml.Source} {expected : String} {doc : Document}
    (hparse : (parse source expected).1 = .ok doc) {record : LogRecord}
    (h : record ∈ (parse source expected).2) : record.level = .debug := by
  obtain ⟨hname, hverdict, hvalid, -⟩ := parse_eq_ok_iff.1 hparse
  have htrouble : (takeAll expected (offersOf [] source.tokenize.events) .empty).trouble = none :=
    takeAll_trouble_eq_none_iff.2 hvalid
  have hshows : ((Reader.start expected).run source.tokenize.events).Shows
      (takeAll expected (offersOf [] source.tokenize.events) .empty)
      (framesAfter [] source.tokenize.events) := (Reader.start expected).run_shows_takeAll rfl _
  have hescape := (hshows.accepted_iff.2 htrouble).2
  refine level_of_mem_takeAll htrouble ?_
  rw [← hshows.log]
  simpa only [parse, Reader.ofName?, if_neg hname, Reader.parse, Reader.parseTokenized, hescape,
    hverdict] using h

/-! ## Errors of parsing -/

/-- Every fault of an element is an error of parsing. -/
theorem ContentFault.isA_parse (fault : ContentFault) : fault.kind.isA .parse = true := by
  cases fault <;> rfl

theorem Xml.Verdict.isA_parse_of_failure? {verdict : Xml.Verdict} {e : Error}
    (h : verdict.failure? = some (.error e)) : e.kind.isA .parse = true := by
  cases verdict <;> cases h
  rfl

/-- What is reported of a source is an error of parsing, whatever the source and the name. -/
theorem isA_parse_of_parse_eq_error {source : Xml.Source} {expected : String} {e : Error}
    (h : (parse source expected).1 = .error (.error e)) : e.kind.isA .parse = true := by
  by_cases hname : expected = ""
  · simp only [parse, Reader.ofName?, if_pos hname] at h
    cases h
    rfl
  · rw [parse_eq hname] at h
    unfold Intake.outcome at h
    split at h
    · cases h
    · next hfailure _ =>
      cases h
      exact Xml.Verdict.isA_parse_of_failure? hfailure
    · next fault _ _ =>
      cases h
      exact fault.isA_parse
    · cases h

end Metalink
