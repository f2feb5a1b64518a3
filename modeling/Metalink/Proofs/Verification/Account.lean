import Mathlib.Data.List.Forall2
import Mathlib.Tactic.Common
import Metalink.Proofs.Verification.Consistency

/-!
# The log of a verification

A verifier writes a record for every candidate that does not match, and one at the end.  It counts
the candidates as well, but the counters are handed along by the walk and come out with the result,
whereas the records stay behind.  Here the two are shown to tell the same story, however malformed
and mismatching candidates alternate.

The walk is taken apart candidate by candidate: `Walks` says what each of them does to the counters
and to the log, and how a walk can end.  Everything else is read off this relation.

Main results:

- `walks_compareAll`: the walk through all hashes is one through the candidates.
- `Walks.exists_notes`: the notes are on the candidates from the first one on, in order.
- `Walks.of_ok`, `Walks.of_error`, `Walks.of_answer_error`: what is in the log after each ending.
- `verify_log_is_faithful`: what the log of every verification tells.
-/

namespace Metalink

open Metalink.Digest

/-! ## Records -/

/-- The record that a step is, if the verifier wrote it. -/
def VerifyStep.record? : VerifyStep → Option LogRecord
  | wrote record => some record
  | called _ _ _ => none

/-- A record says that a malformed candidate is passed over. -/
def LogRecord.IsSkip (record : LogRecord) : Prop :=
  record.level = .debug ∧ "Skipping malformed".toList <+: record.message.toList

instance (record : LogRecord) : Decidable record.IsSkip :=
  inferInstanceAs (Decidable (_ ∧ _))

namespace Log

/-- The warnings in a log. -/
def warnings (log : Log) : Log := log.filter fun record => record.level = .warning

/-- The reports of errors in a log. -/
def errors (log : Log) : Log := log.filter fun record => record.level = .error

/-- The records in a log that say that a candidate is passed over. -/
def skips (log : Log) : Log := log.filter LogRecord.IsSkip

/-- The records in a log that are about one candidate that does not match. -/
def notes (log : Log) : Log := log.filter fun record => record.level = .warning ∨ record.IsSkip

end Log

namespace VerifyRun

/-- The records that the verifier itself wrote, in order. -/
def records (run : VerifyRun) : Log :=
  run.steps.filterMap VerifyStep.record?

@[simp]
theorem records_afterRecord (level : LogLevel) (message : String) (run : VerifyRun) :
    (run.afterRecord level message).records = ⟨level, message⟩ :: run.records :=
  rfl

@[simp]
theorem records_failed (error : Error) : (failed error).records = [] :=
  rfl

/-- A match writes one record. -/
theorem records_matched (job : VerifyJob) (hash : Hash) (digest : Bytes) (tried : Nat) :
    (job.matched hash digest tried).records =
      [⟨.debug, "Metalink hash verified for " ++ job.path.name ++ " (" ++ hash.type ++ ")"⟩] :=
  rfl

/-- The digester was called in the course of a run, and failed. -/
def DigesterFailed (run : VerifyRun) (digester : Digester) : Prop :=
  ∃ call ∈ run.calls, ∃ failure, (digester call.1 call.2).1 = .error failure

end VerifyRun

/-! ## Notes on candidates -/

/-- What is noted of a candidate that does not match, with what the digester answers. -/
inductive IsNoteOn (a : Algorithm) (answer : Except Failure Bytes) : Hash → LogRecord → Prop where
  | skipped (h : Hash) (hbad : ¬ h.IsWellFormed a) :
      IsNoteOn a answer h ⟨.debug, VerifyJob.skipMessage h⟩
  | mismatched (h : Hash) (digest : Bytes) (hgood : h.IsWellFormed a)
      (hanswer : answer = .ok digest) (hother : ¬ h.Denotes digest) :
      IsNoteOn a answer h ⟨.warning, VerifyJob.mismatchMessage h digest⟩

/-- The note on a malformed candidate says that it is passed over. -/
theorem isSkip_skipMessage (h : Hash) : LogRecord.IsSkip ⟨.debug, VerifyJob.skipMessage h⟩ := by
  refine ⟨rfl, ?_⟩
  have hsplit : "Skipping malformed ".toList = "Skipping malformed".toList ++ [' '] := by decide
  unfold VerifyJob.skipMessage
  generalize Text.quoted h.value = value
  rw [String.toList_append, String.toList_append, String.toList_append, hsplit]
  simp only [List.append_assoc]
  exact List.prefix_append _ _

theorem not_isSkip_selected (a : Algorithm) (name : String) :
    ¬ LogRecord.IsSkip ⟨.debug, "Selected " ++ a.canonicalName ++ " for verifying " ++ name⟩ := by
  rintro ⟨-, hprefix⟩
  have hskip : "Skipping malformed".toList = 'S' :: 'k' :: "ipping malformed".toList := by decide
  have hselected : "Selected ".toList = 'S' :: 'e' :: "lected ".toList := by decide
  simp [hskip, hselected, String.toList_append] at hprefix

theorem not_isSkip_verified (job : VerifyJob) (h : Hash) :
    ¬ LogRecord.IsSkip
      ⟨.debug, "Metalink hash verified for " ++ job.path.name ++ " (" ++ h.type ++ ")"⟩ := by
  rintro ⟨-, hprefix⟩
  have hskip : "Skipping malformed".toList = 'S' :: "kipping malformed".toList := by decide
  have hverified : "Metalink hash verified for ".toList =
      'M' :: "etalink hash verified for ".toList := by decide
  simp [hskip, hverified, String.toList_append] at hprefix

/-- Bytes that are written alike are the same. -/
theorem Hex.encode_injective : Function.Injective Hex.encode := by
  intro bytes other h
  have hchars := congrArg (Hex.decodeChars ∘ String.toList) h
  simpa [Hex.encode, Hex.decodeChars_encodeChars] using hchars

/-- Of two digests that differ, one published and one calculated, the texts differ as well. -/
theorem Hash.IsWellFormed.lower_ne_encode {a : Algorithm} {h : Hash} {digest : Bytes}
    (hgood : h.IsWellFormed a) (hother : ¬ h.Denotes digest) :
    Text.lower h.value ≠ Hex.encode digest := by
  obtain ⟨expected, hdenotes⟩ := hgood.exists_denotes
  intro heq
  have hsame : Hex.encode expected = Hex.encode digest := (hgood.encode_eq hdenotes).1.trans heq
  rw [Hex.encode_injective hsame] at hdenotes
  exact hother hdenotes

/-! ## The walk through the candidates -/

namespace VerifyJob

/-- A walk through candidates with what the digester answers.  The numbers are how many
candidates were compared and how many passed over before; the log and the outcome are those of
the walk.  A candidate is no digest of the algorithm, denotes another digest than that of the
file or the same one, or is well-formed while the file cannot be digested. -/
inductive Walks (job : VerifyJob) (answer : Except Failure Bytes) :
    Nat → Nat → List Hash → Log → Except Failure Verification → Prop where
  | exhausted (tried skipped : Nat) :
      job.Walks answer tried skipped [] (job.mismatch tried skipped).records
        (job.mismatch tried skipped).outcome
  | passed {tried skipped : Nat} {rest : List Hash} {log : Log}
      {outcome : Except Failure Verification} (h : Hash) (hbad : ¬ h.IsWellFormed job.algorithm)
      (hrest : job.Walks answer tried (skipped + 1) rest log outcome) :
      job.Walks answer tried skipped (h :: rest) (⟨.debug, skipMessage h⟩ :: log) outcome
  | differed {tried skipped : Nat} {rest : List Hash} {log : Log}
      {outcome : Except Failure Verification} (h : Hash) (digest : Bytes)
      (hgood : h.IsWellFormed job.algorithm) (hanswer : answer = .ok digest)
      (hother : ¬ h.Denotes digest)
      (hrest : job.Walks answer (tried + 1) skipped rest log outcome) :
      job.Walks answer tried skipped (h :: rest) (⟨.warning, mismatchMessage h digest⟩ :: log)
        outcome
  | matched {tried skipped : Nat} (h : Hash) (rest : List Hash) (digest : Bytes)
      (hgood : h.IsWellFormed job.algorithm) (hanswer : answer = .ok digest)
      (hdenotes : h.Denotes digest) :
      job.Walks answer tried skipped (h :: rest) (job.matched h digest (tried + 1)).records
        (job.matched h digest (tried + 1)).outcome
  | failed {tried skipped : Nat} (h : Hash) (rest : List Hash) (failure : Failure)
      (hgood : h.IsWellFormed job.algorithm) (hanswer : answer = .error failure) :
      job.Walks answer tried skipped (h :: rest) [] (.error failure)

section Walk

variable (job : VerifyJob)

/-- What the digester answers, or has answered. -/
def answer : Option Bytes → Except Failure Bytes
  | some digest => .ok digest
  | none => (job.digester job.path job.algorithm.canonicalName).1

/-- The walk through all hashes is a walk through the candidates. -/
theorem walks_compareAll (known : Option Bytes) (tried skipped : Nat) (hashes : List Hash) :
    job.Walks (job.answer known) tried skipped (candidates job.algorithm hashes)
      (job.compareAll known tried skipped hashes).records
      (job.compareAll known tried skipped hashes).outcome := by
  induction hashes using candidate_induction job.algorithm generalizing known tried skipped with
  | nil => exact .exhausted tried skipped
  | other h rest hne ih =>
    rw [candidates_cons_of_ne hne, compareAll_cons_of_ne job known tried skipped rest hne]
    exact ih known tried skipped
  | malformed h rest heq hbad ih =>
    rw [candidates_cons_of_eq heq,
      compareAll_cons_of_malformed job known tried skipped rest heq hbad]
    exact .passed h hbad (ih known tried (skipped + 1))
  | wellFormed h rest heq hgood ih =>
    obtain ⟨expected, hdenotes⟩ := hgood.exists_denotes
    rw [candidates_cons_of_eq heq]
    -- Once there is a digest, it is the same whether it was at hand or is calculated now.
    have hknown : ∀ digest, job.Walks (.ok digest) tried skipped
        (h :: candidates job.algorithm rest)
        (job.compareAll (some digest) tried skipped (h :: rest)).records
        (job.compareAll (some digest) tried skipped (h :: rest)).outcome := by
      intro digest
      rw [compareAll_cons_of_known job tried skipped rest heq hgood hdenotes]
      by_cases hmatch : expected = digest
      · subst hmatch
        rw [if_pos rfl]
        exact .matched h _ expected hgood rfl hdenotes
      · have hother : ¬ h.Denotes digest := fun hd =>
          hmatch (Except.ok.inj (hdenotes.symm.trans hd))
        rw [if_neg hmatch]
        exact .differed h digest hgood rfl hother (ih (some digest) (tried + 1) skipped)
    cases known with
    | some digest => exact hknown digest
    | none =>
      rw [compareAll_cons_of_unknown job tried skipped rest heq hgood, answer]
      rcases job.digester job.path job.algorithm.canonicalName with ⟨result, log⟩
      cases result with
      | error failure => exact .failed h _ failure hgood rfl
      | ok digest => exact hknown digest

end Walk

/-! ## What a walk leaves in the log -/

namespace Walks

variable {job : VerifyJob} {answer : Except Failure Bytes} {tried skipped : Nat}
  {hashes : List Hash} {log : Log} {outcome : Except Failure Verification}

/-- The notes are on the candidates from the first one on, one on each, in their order. -/
theorem exists_notes (h : job.Walks answer tried skipped hashes log outcome) :
    ∃ about, about <+: hashes ∧ List.Forall₂ (IsNoteOn job.algorithm answer) about log.notes := by
  induction h with
  | exhausted tried skipped =>
    refine ⟨[], List.nil_prefix, ?_⟩
    simp [Log.notes, mismatch, LogRecord.IsSkip]
  | passed h hbad _ ih =>
    obtain ⟨about, hprefix, hnotes⟩ := ih
    refine ⟨h :: about, List.cons_prefix_cons.2 ⟨rfl, hprefix⟩, ?_⟩
    rw [Log.notes, List.filter_cons_of_pos (by simpa using isSkip_skipMessage h)]
    exact .cons (.skipped h hbad) hnotes
  | differed h digest hgood hanswer hother _ ih =>
    obtain ⟨about, hprefix, hnotes⟩ := ih
    refine ⟨h :: about, List.cons_prefix_cons.2 ⟨rfl, hprefix⟩, ?_⟩
    rw [Log.notes, List.filter_cons_of_pos (by simp)]
    exact .cons (.mismatched h digest hgood hanswer hother) hnotes
  | matched h rest digest hgood hanswer hdenotes =>
    refine ⟨[], List.nil_prefix, ?_⟩
    have hskip := not_isSkip_verified job h
    rw [VerifyRun.records_matched]
    simp [Log.notes, hskip]
  | failed h rest failure hgood hanswer => exact ⟨[], List.nil_prefix, .nil⟩

/-- After a match there are as many warnings as candidates were compared before it, and no error is
reported. -/
theorem of_ok (h : job.Walks answer tried skipped hashes log outcome) {v : Verification}
    (hok : outcome = .ok v) :
    v.tried = tried + log.warnings.length + 1 ∧ log.errors = [] := by
  induction h with
  | exhausted tried skipped => cases hok
  | passed h hbad _ ih =>
    obtain ⟨htried, herrors⟩ := ih hok
    simpa [Log.warnings, Log.errors] using And.intro htried herrors
  | differed h digest hgood hanswer hother _ ih =>
    obtain ⟨htried, herrors⟩ := ih hok
    refine ⟨?_, by simpa [Log.errors] using herrors⟩
    rw [htried]
    simp [Log.warnings]
    omega
  | matched h rest digest hgood hanswer hdenotes =>
    cases hok
    rw [VerifyRun.records_matched]
    simp [Log.warnings, Log.errors]
  | failed h rest failure hgood hanswer => cases hok

/-- A walk that fails has met with a failure of the digester, or has come to its end: then the
counters are the numbers of warnings and of candidates passed over, and one error is reported, at
the end. -/
theorem of_error (h : job.Walks answer tried skipped hashes log outcome) {failure : Failure}
    (herror : outcome = .error failure) :
    (answer = .error failure ∧ ∃ x ∈ hashes, x.IsWellFormed job.algorithm) ∨
      (failure = mismatchFailure job.path job.algorithm (tried + log.warnings.length)
          (skipped + log.skips.length) ∧
        ∃ record, log.errors = [record] ∧ log.getLast? = some record) := by
  induction h with
  | exhausted tried skipped =>
    cases herror
    refine .inr ⟨?_, _, rfl, rfl⟩
    simp [Log.warnings, Log.skips, mismatch, LogRecord.IsSkip, mismatchFailure]
  | passed h hbad _ ih =>
    rcases ih herror with ⟨hfailed, x, hx, hgood⟩ | ⟨hfailure, record, herrors, hlast⟩
    · exact .inl ⟨hfailed, x, List.mem_cons_of_mem _ hx, hgood⟩
    · refine .inr ⟨?_, record, by simpa [Log.errors] using herrors, ?_⟩
      · rw [hfailure]
        simp [Log.warnings, Log.skips, isSkip_skipMessage, mismatchFailure]
        omega
      · rw [List.getLast?_cons, hlast, Option.getD_some]
  | differed h digest hgood hanswer hother _ ih =>
    rcases ih herror with ⟨hfailed, x, hx, hgood⟩ | ⟨hfailure, record, herrors, hlast⟩
    · exact .inl ⟨hfailed, x, List.mem_cons_of_mem _ hx, hgood⟩
    · refine .inr ⟨?_, record, by simpa [Log.errors] using herrors, ?_⟩
      · rw [hfailure]
        simp [Log.warnings, Log.skips, LogRecord.IsSkip, mismatchFailure]
        omega
      · rw [List.getLast?_cons, hlast, Option.getD_some]
  | matched h rest digest hgood hanswer hdenotes => cases herror
  | failed h rest failure hgood hanswer =>
    cases herror
    exact .inl ⟨hanswer, h, List.mem_cons_self, hgood⟩

/-- A walk in which the digester fails leaves no warning, and no report of an error if it came to
the digester. -/
theorem of_answer_error (h : job.Walks answer tried skipped hashes log outcome)
    {failure : Failure} (hanswer : answer = .error failure)
    (hreached : ∃ x ∈ hashes, x.IsWellFormed job.algorithm) :
    log.warnings = [] ∧ log.errors = [] := by
  induction h with
  | exhausted tried skipped =>
    obtain ⟨x, hx, -⟩ := hreached
    cases hx
  | @passed _ _ rest _ _ h hbad _ ih =>
    have hrest : ∃ x ∈ rest, x.IsWellFormed job.algorithm := by
      obtain ⟨x, hx, hgood⟩ := hreached
      rcases List.mem_cons.1 hx with rfl | hx
      · exact absurd hgood hbad
      · exact ⟨x, hx, hgood⟩
    simpa [Log.warnings, Log.errors] using ih hrest
  | differed h digest hgood hok => cases hok.symm.trans hanswer
  | matched h rest digest hgood hok => cases hok.symm.trans hanswer
  | failed h rest failure hgood _ => exact ⟨rfl, rfl⟩

/-- A warning shows the digest that a candidate denotes and the one that was calculated, as texts
that differ. -/
theorem differs_of_mem_warnings (h : job.Walks answer tried skipped hashes log outcome)
    {record : LogRecord} (hmem : record ∈ log.warnings) :
    ∃ x ∈ hashes, ∃ digest, record.message = mismatchMessage x digest ∧
      Text.lower x.value ≠ Hex.encode digest := by
  obtain ⟨hlog, hlevel⟩ := List.mem_filter.1 hmem
  have hlevel : record.level = .warning := of_decide_eq_true hlevel
  have hnote : record ∈ log.notes := List.mem_filter.2 ⟨hlog, by simp [hlevel]⟩
  obtain ⟨about, hprefix, hnotes⟩ := h.exists_notes
  obtain ⟨i, hi, hget⟩ := List.getElem_of_mem hnote
  have hi' : i < about.length := hnotes.length_eq.symm ▸ hi
  have hon := hnotes.get hi' hi
  rw [List.get_eq_getElem, List.get_eq_getElem, hget] at hon
  refine ⟨about[i], hprefix.subset (List.getElem_mem hi'), ?_⟩
  generalize about[i] = x at hon
  cases hon with
  | skipped hbad => cases hlevel
  | mismatched digest hgood hanswer hother => exact ⟨digest, rfl, hgood.lower_ne_encode hother⟩

end Walks

end VerifyJob

/-! ## Verifications -/

/-- The log of a verification is an account of it, as far as the verifier itself has written it.
If no algorithm is selected, nothing is logged at all.  A result has a warning for every
candidate compared but the one that matched; a mismatch has a warning for every one compared, a
note for every one passed over, and one report at the end; and a failure of the digester is left
for others to report.  Warnings and notes are on the candidates from the first one on, in
document order, and a warning shows two texts that differ. -/
structure VerifyRun.IsAccount (run : VerifyRun) (digester : Digester) (path : Path)
    (hashes : List Hash) : Prop where
  selection : ∀ e, selectBest hashes = .error e → run.log = []
  verified : ∀ v, run.outcome = .ok v →
    (run.records.warnings.length : Int) = v.tried - 1 ∧ run.records.errors = []
  mismatched : ∀ file algorithm tried skipped, ¬ run.DigesterFailed digester →
    run.outcome = .error (.error (.checksumMismatch file algorithm tried skipped)) →
      (run.records.warnings.length : Int) = tried ∧ (run.records.skips.length : Int) = skipped ∧
        ∃ record, run.records.errors = [record] ∧ run.records.getLast? = some record
  digesterFailed : run.DigesterFailed digester →
    run.records.warnings = [] ∧ run.records.errors = []
  ordered : ∀ a, selectBest hashes = .ok a →
    ∃ about, about <+: candidates a hashes ∧
      List.Forall₂ (IsNoteOn a (digester path a.canonicalName).1) about run.records.notes
  distinct : ∀ record ∈ run.records.warnings, ∃ h ∈ hashes, ∃ digest,
    record.message = h.type ++ " mismatch: expected " ++ Text.lower h.value ++ ", got " ++
        Hex.encode digest ∧
      Text.lower h.value ≠ Hex.encode digest

/-- Once an algorithm is selected, a verification comes to what comparing its candidates does. -/
theorem verify_of_selectBest {digester : Digester} {path : Path} {hashes : List Hash}
    {a : Algorithm} (h : selectBest hashes = .ok a) :
    ((verify digester path hashes).outcome, (verify digester path hashes).calls) =
      comparison digester path a hashes := by
  rw [← VerifyJob.compareAll_start ⟨digester, path, a⟩ hashes, verify, h]
  rfl

/-- Where an algorithm is selected, the digester fails exactly if some candidate is well-formed and
the file cannot be digested. -/
theorem digesterFailed_iff {digester : Digester} {path : Path} {hashes : List Hash}
    {a : Algorithm} (h : selectBest hashes = .ok a) :
    (verify digester path hashes).DigesterFailed digester ↔
      (∃ x ∈ candidates a hashes, x.IsWellFormed a) ∧
        ∃ failure, (digester path a.canonicalName).1 = .error failure := by
  have hcalls : (verify digester path hashes).calls = (comparison digester path a hashes).2 :=
    congrArg Prod.snd (verify_of_selectBest h)
  have hsome : wellFormed a hashes ≠ [] ↔ ∃ x ∈ candidates a hashes, x.IsWellFormed a := by
    simp [wellFormed]
  rw [← hsome, VerifyRun.DigesterFailed, hcalls, comparison]
  by_cases hnone : wellFormed a hashes = []
  · simp [hnone]
  · rw [if_neg hnone]
    cases hanswer : (digester path a.canonicalName).1 <;> simp [hnone, hanswer]

/-- The log of a verification in which an algorithm was selected: one record more than that of the
walk. -/
theorem isAccount_of_selectBest {digester : Digester} {path : Path} {hashes : List Hash}
    {a : Algorithm} (hselect : selectBest hashes = .ok a) :
    (verify digester path hashes).IsAccount digester path hashes := by
  let job : VerifyJob := ⟨digester, path, a⟩
  let walk := job.compareAll none 0 0 hashes
  have hwalk : job.Walks (digester path a.canonicalName).1 0 0 (candidates a hashes)
      walk.records walk.outcome := job.walks_compareAll none 0 0 hashes
  have hrun : verify digester path hashes = walk.afterRecord .debug
      ("Selected " ++ a.canonicalName ++ " for verifying " ++ path.name) := by
    rw [verify, hselect]
  have hwarnings : (verify digester path hashes).records.warnings = walk.records.warnings := by
    rw [hrun]
    rfl
  have herrors : (verify digester path hashes).records.errors = walk.records.errors := by
    rw [hrun]
    rfl
  have hselected := not_isSkip_selected a path.name
  exact
    { selection := fun e he => by cases hselect.symm.trans he
      verified := by
        intro v hv
        rw [hrun, VerifyRun.outcome_afterRecord] at hv
        obtain ⟨htried, hnone⟩ := hwalk.of_ok hv
        rw [hwarnings, herrors, htried]
        exact ⟨by omega, hnone⟩
      mismatched := by
        intro file algorithm tried skipped hdigester hmismatch
        rw [digesterFailed_iff hselect] at hdigester
        rw [hrun, VerifyRun.outcome_afterRecord] at hmismatch
        rcases hwalk.of_error hmismatch with ⟨hanswer, hreached⟩ | ⟨hfailure, record, hone, hlast⟩
        · exact absurd ⟨hreached, _, hanswer⟩ hdigester
        · cases hfailure
          refine ⟨?_, ?_, record, ?_, ?_⟩
          · rw [hwarnings]
            omega
          · simp [hrun, Log.skips, hselected]
          · rw [herrors, hone]
          · rw [hrun, VerifyRun.records_afterRecord, List.getLast?_cons, hlast, Option.getD_some]
      digesterFailed := by
        intro hdigester
        obtain ⟨hreached, failure, hanswer⟩ := (digesterFailed_iff hselect).1 hdigester
        rw [hwarnings, herrors]
        exact hwalk.of_answer_error hanswer hreached
      ordered := by
        intro b hb
        obtain rfl : a = b := Except.ok.inj (hselect.symm.trans hb)
        obtain ⟨about, hprefix, hnotes⟩ := hwalk.exists_notes
        refine ⟨about, hprefix, ?_⟩
        simpa [hrun, Log.notes, hselected] using hnotes
      distinct := by
        intro record hrecord
        rw [hwarnings] at hrecord
        obtain ⟨x, hx, digest, hmessage, hdiffer⟩ := hwalk.differs_of_mem_warnings hrecord
        exact ⟨x, List.mem_of_mem_filter hx, digest, hmessage, hdiffer⟩ }

/-- What the verifier writes tells faithfully what it did, whatever the hashes and the digester:
how many candidates were compared and passed over, in which order, and how it ended. -/
theorem verify_log_is_faithful (digester : Digester) (path : Path) (hashes : List Hash) :
    (verify digester path hashes).IsAccount digester path hashes := by
  cases hselect : selectBest hashes with
  | ok a => exact isAccount_of_selectBest hselect
  | error e =>
    have hrun : verify digester path hashes = .failed e := by rw [verify, hselect]
    rw [hrun]
    exact
      { selection := fun _ _ => rfl
        verified := fun v hv => by cases hv
        mismatched := by
          intro file algorithm tried skipped _ hmismatch
          cases hmismatch
          simp [selectBest_eq_error_iff] at hselect
        digesterFailed := by
          rintro ⟨_, hcall, _⟩
          cases hcall
        ordered := fun a ha => by cases hselect.symm.trans ha
        distinct := fun record hrecord => by cases hrecord }

end Metalink
