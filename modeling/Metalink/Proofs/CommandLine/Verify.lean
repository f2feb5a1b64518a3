import Metalink.CommandLine.Run
import Metalink.Proofs.Reader.Outcome
import Metalink.Proofs.Verification.Content

/-!
# Accepting a file

The command for verifying puts everything together: the name that is expected, reading the
metalink, the choice of an algorithm, reading the file in pieces, and the comparison with
the hashes.  This module says when the command succeeds in terms of the metalink and the
content of the file.  The size of the pieces may be any that memory has room for; the settings
admit greater ones, with which a file that is otherwise accepted is not.

Main results:

- `runVerify_succeeded_iff`: the command succeeds exactly if the verification of the document
  does.
- `runVerify_accepts_iff`: the exact condition under which a file is accepted, and what becomes
  of a file for whose pieces there is no room; everything that a run leaves behind is the same
  for any two sizes that there is room for.
- `great_size_escapes`: a file that is accepted but for the size of its pieces.
-/

namespace Metalink.CommandLine

open Metalink.Digest

/-! ## Engines -/

/-- The memory has room for pieces of the size that settings give. -/
def Workplace.HasRoom (workplace : Workplace) (settings : Settings) : Prop :=
  settings.chunkSize.val ≤ workplace.host.memory.room

namespace Workplace

variable (workplace : Workplace) (settings : Settings)

/-- The size of pieces that settings give is none that reads nothing. -/
theorem chunkSize_engine_ne_zero : (workplace.engine settings).chunkSize ≠ 0 :=
  settings.chunkSize.property.ne'

/-- Every stream can be read in pieces of the size exactly if there is room for them. -/
theorem isReadable_engine_iff (stream : Stream) :
    stream.IsReadable (workplace.engine settings).host.memory
        (workplace.engine settings).chunkSize ↔ workplace.HasRoom settings :=
  Stream.isReadable_iff_of_pos settings.chunkSize.property

variable {workplace settings}

/-- Settings with room for their pieces do not show in digests. -/
theorem digest_engine_eq (h : workplace.HasRoom settings) {other : Settings}
    (hother : workplace.HasRoom other) :
    (workplace.engine settings).digest = (workplace.engine other).digest :=
  Engine.digest_congr (workplace.chunkSize_engine_ne_zero settings)
    (workplace.chunkSize_engine_ne_zero other)
    (fun stream => (workplace.isReadable_engine_iff settings stream).2 h)
    (fun stream => (workplace.isReadable_engine_iff other stream).2 hother) rfl rfl rfl

/-- Without room for the pieces no opened file is digested by a function that is permitted. -/
theorem exists_escape_of_not_hasRoom (h : ¬ workplace.HasRoom settings) {file : Path}
    {stream : Stream} (hopen : workplace.storage.openFile file = .ok stream) {a : Algorithm}
    (hpermitted : ¬ (a = .md5 ∧ workplace.fips = true)) :
    ∃ escape, ((workplace.engine settings).digest file a.canonicalName).1 =
      .error (.escape escape) := by
  have hopen' : (workplace.engine settings).storage.openFile file = .ok stream := hopen
  have hread := mt (workplace.isReadable_engine_iff settings stream).1 h
  have hfunction : ((workplace.engine settings).function a.canonicalName).1 =
      .ok (.fixed a.function) := Engine.function_canonicalName_eq_ok_iff.2 ⟨hpermitted, rfl⟩
  obtain ⟨escape, -, hescape⟩ := Engine.digestStream_of_not_isReadable hread hfunction file
  refine ⟨escape, ?_⟩
  simp only [Engine.digest, hopen', hescape]

end Workplace

/-! ## The command for verifying -/

/-- A file could be accepted with a metalink, by a hash of some algorithm: the metalink can be
read, under the name that is given or else that of the file; no hash has an empty type, some hash
has the algorithm and none a stronger one, and the algorithm is permitted; the file can be opened
and read to its end; and some well-formed hash of the algorithm denotes the digest of the whole
file. -/
structure Accepts (workplace : Workplace) (metalink file : Path) (name : Option String)
    (doc : Document) (a : Algorithm) (stream : Stream) : Prop where
  parsed : (parseFile workplace.storage metalink (expectedName file name)).1 = .ok doc
  named : ¬ HasUnnamed doc.hashes
  strongest : IsStrongest a doc.hashes
  permitted : ¬ (a = .md5 ∧ workplace.fips = true)
  opened : workplace.storage.openFile file = .ok stream
  complete : stream.fault = none
  denoted : ∃ h ∈ doc.hashes, h.algorithm? = some a ∧ h.IsWellFormed a ∧
    h.Denotes (a.function.digest stream.content)

/-- The verification of a document succeeds exactly if there is room for the pieces and a
candidate of the strongest algorithm matches the digest of the whole file. -/
theorem Workplace.verify_engine_eq_ok_iff (workplace : Workplace) (settings : Settings)
    (file : Path) (hashes : List Hash) (v : Verification) :
    (verify (workplace.engine settings).digest file hashes).outcome = .ok v ↔
      workplace.HasRoom settings ∧ ¬ HasUnnamed hashes ∧
        ∃ a, IsStrongest a hashes ∧ ¬ (a = .md5 ∧ workplace.fips = true) ∧
          ∃ stream, workplace.storage.openFile file = .ok stream ∧ stream.fault = none ∧
            firstMatch file a hashes (a.function.digest stream.content) = .ok v := by
  rw [verify_digest_eq_ok_iff]
  simp only [Stream.seen_of_ne_zero (workplace.chunkSize_engine_ne_zero settings),
    workplace.isReadable_engine_iff settings]
  constructor
  · rintro ⟨hnamed, a, hstrongest, hpermitted, stream, hopened, hroom, hcomplete, hv⟩
    exact ⟨hroom, hnamed, a, hstrongest, hpermitted, stream, hopened, hcomplete, hv⟩
  · rintro ⟨hroom, hnamed, a, hstrongest, hpermitted, stream, hopened, hcomplete, hv⟩
    exact ⟨hnamed, a, hstrongest, hpermitted, stream, hopened, hroom, hcomplete, hv⟩

/-- The command succeeds exactly if the metalink can be read and the verification of its
document succeeds, and then prints what was found. -/
theorem runVerify_succeeded_iff (workplace : Workplace) (settings : Settings)
    (metalink file : Path) (name : Option String) (printed : String) :
    (runVerify workplace settings metalink file name).ending = .succeeded ∧
        (runVerify workplace settings metalink file name).printed = printed ↔
      ∃ doc, (parseFile workplace.storage metalink (expectedName file name)).1 = .ok doc ∧
        ∃ v, (verify (workplace.engine settings).digest file doc.hashes).outcome = .ok v ∧
          Report.passed (expectedName file name) v = printed := by
  dsimp only [runVerify]
  rcases parseFile workplace.storage metalink (expectedName file name) with ⟨result, log⟩
  cases result with
  | error failure => cases failure <;> simp [Outcome.failing]
  | ok doc =>
    simp only [Except.ok.injEq, exists_eq_left']
    cases (verify (workplace.engine settings).digest file doc.hashes).outcome with
    | error failure => cases failure <;> simp [Outcome.failing]
    | ok v => simp

/-- A verification that escapes lets the command escape. -/
theorem runVerify_escaped {workplace : Workplace} {settings : Settings} {metalink file : Path}
    {name : Option String} {doc : Document} {escape : Escape}
    (hparsed : (parseFile workplace.storage metalink (expectedName file name)).1 = .ok doc)
    (h : (verify (workplace.engine settings).digest file doc.hashes).outcome =
      .error (.escape escape)) :
    (runVerify workplace settings metalink file name).ending = .escaped escape := by
  dsimp only [runVerify]
  generalize parseFile workplace.storage metalink (expectedName file name) = result at hparsed ⊢
  rcases result with ⟨outcome, log⟩
  obtain rfl : outcome = .ok doc := hparsed
  simp only [h, Outcome.failing]

/-- The exit code zero is that of a run that succeeds. -/
theorem Ending.exitCode_eq_zero_iff (ending : Ending) :
    ending.exitCode = 0 ↔ ending = .succeeded := by
  cases ending <;> simp [exitCode]

namespace Accepts

variable {workplace : Workplace} {settings : Settings} {metalink file : Path}
  {name : Option String} {doc : Document} {a : Algorithm} {stream : Stream}

/-- With room for the pieces the command succeeds, and prints the first hash that matches. -/
theorem succeeded (h : Accepts workplace metalink file name doc a stream)
    (hroom : workplace.HasRoom settings) :
    ∃ v, firstMatch file a doc.hashes (a.function.digest stream.content) = .ok v ∧
      (runVerify workplace settings metalink file name).ending = .succeeded ∧
        (runVerify workplace settings metalink file name).printed =
          Report.passed (expectedName file name) v := by
  obtain ⟨v, hv⟩ := exists_firstMatch_iff.2 h.denoted
  have hverify := (workplace.verify_engine_eq_ok_iff settings file doc.hashes v).2
    ⟨hroom, h.named, a, h.strongest, h.permitted, stream, h.opened, h.complete, hv⟩
  exact ⟨v, hv, (runVerify_succeeded_iff workplace settings metalink file name _).2
    ⟨doc, h.parsed, v, hverify, rfl⟩⟩

/-- Without room for them it fails, and nothing is reported. -/
theorem escaped (h : Accepts workplace metalink file name doc a stream)
    (hroom : ¬ workplace.HasRoom settings) :
    ∃ escape, (runVerify workplace settings metalink file name).ending = .escaped escape := by
  obtain ⟨escape, hescape⟩ := Workplace.exists_escape_of_not_hasRoom hroom h.opened h.permitted
  obtain ⟨hash, hmem, halgorithm, hgood, -⟩ := h.denoted
  have hselect := (selectBest_eq_ok_iff doc.hashes a).2 ⟨h.named, h.strongest⟩
  have hsome := wellFormed_ne_nil_iff.2 ⟨hash, hmem, halgorithm, hgood⟩
  exact ⟨escape, runVerify_escaped h.parsed
    (outcome_verify_of_digester_error hselect hsome hescape)⟩

end Accepts

/-- The command ends with the exit code zero exactly if there is room for the pieces and the file
is accepted.  It then prints the first hash that matches, with the digest of the whole file.
Without room for the pieces a file that is accepted otherwise makes the command fail, and this is
not reported.  All that the command leaves behind is the same for any settings with room for
their pieces, and so for any two sizes of them. -/
theorem runVerify_accepts_iff (workplace : Workplace) (settings : Settings)
    (metalink file : Path) (name : Option String) :
    let outcome := runVerify workplace settings metalink file name
    (outcome.ending.exitCode = 0 ↔ workplace.HasRoom settings ∧
        ∃ doc a stream, Accepts workplace metalink file name doc a stream) ∧
      (∀ doc a stream, Accepts workplace metalink file name doc a stream →
        (workplace.HasRoom settings →
          ∃ v, firstMatch file a doc.hashes (a.function.digest stream.content) = .ok v ∧
            outcome.printed = Report.passed (expectedName file name) v) ∧
        (¬ workplace.HasRoom settings → ∃ escape, outcome.ending = .escaped escape)) ∧
      ∀ other : Settings, workplace.HasRoom settings → workplace.HasRoom other →
        runVerify workplace other metalink file name = outcome := by
  intro outcome
  refine ⟨?_, ?_, ?_⟩
  · rw [Ending.exitCode_eq_zero_iff]
    constructor
    · intro hending
      obtain ⟨doc, hparsed, v, hverify, -⟩ :=
        (runVerify_succeeded_iff workplace settings metalink file name _).1 ⟨hending, rfl⟩
      obtain ⟨hroom, hnamed, a, hstrongest, hpermitted, stream, hopened, hcomplete, hv⟩ :=
        (workplace.verify_engine_eq_ok_iff settings file doc.hashes v).1 hverify
      exact ⟨hroom, doc, a, stream, hparsed, hnamed, hstrongest, hpermitted, hopened, hcomplete,
        exists_firstMatch_iff.1 ⟨v, hv⟩⟩
    · rintro ⟨hroom, doc, a, stream, h⟩
      obtain ⟨v, -, hending, -⟩ := h.succeeded hroom
      exact hending
  · intro doc a stream h
    refine ⟨fun hroom => ?_, h.escaped⟩
    obtain ⟨v, hv, -, hprinted⟩ := h.succeeded hroom
    exact ⟨v, hv, hprinted⟩
  · intro other hroom hother
    simp only [outcome, runVerify, Workplace.digest_engine_eq hother hroom]

/-- A file that its metalink has the digest of is not accepted with a size of pieces that is too
great to be the size of anything, and the failure passes through the command. -/
theorem great_size_escapes :
    let metalink : Path := ⟨.here, ["m"]⟩
    let file : Path := ⟨.here, ["f"]⟩
    let content : Bytes :=
      "<hash type=\"md5\">900150983cd24fb0d6963f7d28e17f72</hash>".toUTF8.toList
    let stream : Stream := .whole [0x61, 0x62, 0x63]
    let storage : Storage := fun path => .ok (if path = metalink then .whole content else stream)
    let workplace : Workplace := ⟨⟨[], ⟨0, 0, 0, 0, 0, 0, 0, 0⟩, .fresh⟩, false, storage, .standard⟩
    let settings : Settings :=
      { Settings.standard with chunkSize := ⟨9223372036854775808, by decide⟩ }
    let doc : Document := ⟨none, none, [⟨"md5", "900150983cd24fb0d6963f7d28e17f72"⟩], []⟩
    Accepts workplace metalink file none doc .md5 stream ∧
      (runVerify workplace settings metalink file none).ending = .escaped .sizeOutOfRange := by
  intro metalink file content stream storage workplace settings doc
  have htokens : (Xml.Source.bytes content).tokenize =
      ⟨[.opened "hash" ["type", "md5"], .text "900150983cd24fb0d6963f7d28e17f72",
        .closed "hash"], .wellFormed⟩ := by decide +kernel
  have hread : storage.readFile metalink = .ok content := by decide +kernel
  have hparsed : (parseFile storage metalink "f").1 = .ok doc := by
    rw [parseFile_of_readFile hread, parse_eq (by decide), Xml.Source.intake, htokens]
    decide +kernel
  have hverify : (verify (workplace.engine settings).digest file doc.hashes).outcome =
      .error (.escape .sizeOutOfRange) := by decide +kernel
  refine ⟨⟨hparsed, by decide, ?_, by decide, by decide, rfl, ?_⟩,
    runVerify_escaped hparsed hverify⟩
  · exact ((selectBest_eq_ok_iff doc.hashes .md5).1 (by decide)).2
  · exact ⟨_, List.mem_cons_self, by decide, by decide, by decide +kernel⟩

end Metalink.CommandLine
