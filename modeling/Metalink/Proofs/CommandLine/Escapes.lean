import Mathlib.Tactic.Common
import Metalink.CommandLine.Run
import Metalink.Proofs.Reader.Escape

/-!
# What escapes the commands

A metalink that is not accepted is reported by the commands, if the failure is an error of
parsing.  Three failures are not: a numeral that is too long, a declared encoding that cannot
be had, and a text that cannot be encoded.  They pass through the commands, which come to the
first two only, as they read bytes.

Main results:

- `runVerify_ending_of_parseFile` and `runDescribe_ending_of_parseFile`: how a command ends
  that cannot read its metalink.
- `escapes_iff_overlong_or_uncoded`: the exact condition under which a failure is not
  reported.
- `unknown_encoding_escapes`: a metalink with which the commands do not report anything.
-/

namespace Metalink.CommandLine

/-! ## Commands that cannot read their metalink -/

/-- How a command ends that fails: errors are reported and everything else escapes. -/
def endingOf : Failure → Ending
  | .error _ => .failed
  | .escape e => .escaped e

/-- A command that fails ends as its failure says. -/
theorem ending_failing (name : String) (logged : List Line) (failure : Failure) :
    (Outcome.failing name logged failure).ending = endingOf failure := by
  cases failure <;> rfl

variable {workplace : Workplace} {metalink : Path} {failure : Failure}

/-- Verifying ends with the failure of a metalink that cannot be read. -/
theorem runVerify_ending_of_parseFile {file : Path} {name : Option String}
    (h : (parseFile workplace.storage metalink (expectedName file name)).1 = .error failure)
    (settings : Settings) :
    (runVerify workplace settings metalink file name).ending = endingOf failure := by
  dsimp only [runVerify]
  generalize parseFile workplace.storage metalink (expectedName file name) = result at h ⊢
  rcases result with ⟨outcome, log⟩
  obtain rfl : outcome = .error failure := h
  exact ending_failing _ _ failure

/-- So does describing. -/
theorem runDescribe_ending_of_parseFile {name : String}
    (h : (parseFile workplace.storage metalink name).1 = .error failure) :
    (runDescribe workplace metalink name).ending = endingOf failure := by
  unfold runDescribe
  generalize parseFile workplace.storage metalink name = result at h ⊢
  rcases result with ⟨outcome, log⟩
  obtain rfl : outcome = .error failure := h
  exact ending_failing _ _ failure

/-! ## Failures that are not reported -/

/-- What is reported of a source is an error of parsing.  Anything else is a numeral that is
too long, reached before any fault, a declared encoding that cannot be had, or a text with a
surrogate, and these always escape.  Commands report the errors and let the others pass. -/
theorem escapes_iff_overlong_or_uncoded (source : Xml.Source) (expected : String)
    (h : expected ≠ "") :
    (∀ e, (parse source expected).1 = .error (.error e) → e.kind.isA .parse = true) ∧
      (∀ escape, (parse source expected).1 = .error (.escape escape) ↔
        (∃ digits, source.ReachesOverlong expected digits ∧ escape = .tooManyDigits digits) ∨
          source.LacksEncoding escape ∨
            ∃ fault, source.IsUnencodable fault ∧ escape = .unencodable fault) ∧
      ∀ (workplace : Workplace) (metalink : Path) (content : Bytes) (failure : Failure),
        source = .bytes content → workplace.storage.readFile metalink = .ok content →
          (parse source expected).1 = .error failure →
            (runDescribe workplace metalink expected).ending = endingOf failure ∧
              ∀ settings file name, expectedName file name = expected →
                (runVerify workplace settings metalink file name).ending =
                  endingOf failure := by
  refine ⟨fun e => isA_parse_of_parse_eq_error, fun escape => parse_eq_escape_iff h, ?_⟩
  rintro workplace metalink content failure rfl hread hfailure
  have hfile : (parseFile workplace.storage metalink expected).1 = .error failure := by
    rw [parseFile_of_readFile hread, hfailure]
  refine ⟨runDescribe_ending_of_parseFile hfile, ?_⟩
  rintro settings file name rfl
  exact runVerify_ending_of_parseFile hfile settings

/-- A size that is no integer is an error of parsing, and commands report it. -/
theorem bad_size_is_reported :
    let content : Bytes := "<size>x</size>".toUTF8.toList
    (parse (.bytes content) "f.rpm").1 =
        .error (.error (.content (.badSize ("x" : String)))) ∧
      (Error.content (.badSize ("x" : String))).kind.isA .parse = true ∧
      ∀ (workplace : Workplace) (metalink : Path),
        workplace.storage.readFile metalink = .ok content →
          (runDescribe workplace metalink "f.rpm").ending = .failed := by
  intro content
  have htokens : (Xml.Source.bytes content).tokenize =
      ⟨[.opened "size" [], .ofString "x", .closed "size"], .wellFormed⟩ := by decide +kernel
  have hfailure : (parse (.bytes content) "f.rpm").1 =
      .error (.error (.content (.badSize ("x" : String)))) := by
    rw [parse_eq (by decide), Xml.Source.intake, htokens]
    decide +kernel
  obtain ⟨hreported, -, hcommands⟩ :=
    escapes_iff_overlong_or_uncoded (.bytes content) "f.rpm" (by decide)
  exact ⟨hfailure, hreported _ hfailure, fun workplace metalink hread =>
    (hcommands workplace metalink content _ rfl hread hfailure).1⟩

/-- A metalink that declares an encoding of an unknown name is neither accepted nor reported:
the failure is no error, and passes through the commands. -/
theorem unknown_encoding_escapes :
    let content : Bytes := "<?xml version=\"1.0\" encoding=\"x\"?><a/>".toUTF8.toList
    (parse (.bytes content) "f.rpm").1 = .error (.escape (.unknownEncoding "x")) ∧
      ∀ (workplace : Workplace) (metalink : Path),
        workplace.storage.readFile metalink = .ok content →
          (runDescribe workplace metalink "f.rpm").ending = .escaped (.unknownEncoding "x") := by
  intro content
  have htokens : (Xml.Source.bytes content).tokenize =
      ⟨[], .escaped (.unknownEncoding "x")⟩ := by decide +kernel
  have hfailure : (parse (.bytes content) "f.rpm").1 =
      .error (.escape (.unknownEncoding "x")) := by
    rw [parse_eq (by decide), Xml.Source.intake, htokens]
    rfl
  refine ⟨hfailure, fun workplace metalink hread => ?_⟩
  exact runDescribe_ending_of_parseFile (parseFile_of_readFile hread "f.rpm" ▸ hfailure)

end Metalink.CommandLine
