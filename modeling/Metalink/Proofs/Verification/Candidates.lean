import Metalink.Proofs.Text.Hex
import Metalink.Proofs.Verification.Selection

/-!
# Comparing candidates

A verification walks through all hashes of a document with a digest that is calculated
late and two counters.  What it comes to can be said without any of these: the
candidates are the hashes of the best algorithm, those of them that are well-formed
count, and the first of these that denotes the digest of the file decides.

Main results:

- `candidate_induction`: the cases that every hash falls under.
- `compareAll_candidates`: nothing but candidates counts.
- `outcome_compareAll_known`: with the digest at hand, the walk finds the first
  well-formed candidate that denotes it, and both counters are right.
- `compareAll_of_wellFormed_eq_nil`, `compareAll_of_wellFormed_ne_nil`: the digester is
  called for the first well-formed candidate, and not at all if there is none.
- `compareAll_start`: the walk comes to what is declared of the candidates.
- `verify_eq_declared`: a verification comes to what is declared of it.
-/

namespace Metalink

open Metalink.Digest

/-! ## Candidates -/

/-- The hashes made with one algorithm, in document order. -/
def candidates (a : Algorithm) (hashes : List Hash) : List Hash :=
  hashes.filter fun h => h.algorithm? = some a

/-- A hash has a value that is a digest of an algorithm, right or wrong. -/
def Hash.IsWellFormed (h : Hash) (a : Algorithm) : Prop :=
  Hex.isDigest h.value a.digestLength = true

instance (h : Hash) (a : Algorithm) : Decidable (h.IsWellFormed a) :=
  inferInstanceAs (Decidable (_ = _))

/-- The well-formed hashes made with one algorithm, in document order. -/
def wellFormed (a : Algorithm) (hashes : List Hash) : List Hash :=
  (candidates a hashes).filter fun h => h.IsWellFormed a

/-- The value of a hash is the text of some bytes. -/
def Hash.Denotes (h : Hash) (digest : Bytes) : Prop :=
  Hex.decode h.value = .ok digest

instance (h : Hash) (digest : Bytes) : Decidable (h.Denotes digest) :=
  inferInstanceAs (Decidable (_ = _))

/-! ## What is declared of a verification -/

/-- The failure of a file that no candidate matches. -/
def mismatchFailure (path : Path) (a : Algorithm) (tried skipped : Int) : Failure :=
  .error (.checksumMismatch path.text a.canonicalName tried skipped)

/-- What the candidates of an algorithm come to under the digest of a file: the first
well-formed one that denotes the digest matches, and those up to it were tried. -/
def firstMatch (path : Path) (a : Algorithm) (hashes : List Hash) (digest : Bytes) :
    Except Failure Verification :=
  match (wellFormed a hashes).find? fun h => h.Denotes digest with
  | some h =>
    .ok ⟨a, h.type, h.value, Hex.encode digest,
      ((wellFormed a hashes).findIdx fun h => h.Denotes digest) + 1⟩
  | none =>
    .error (mismatchFailure path a (wellFormed a hashes).length
      ((candidates a hashes).length - (wellFormed a hashes).length))

/-- What comparing the candidates of an algorithm must come to, and the calls of the
digester that it makes: one if some candidate is well-formed, none otherwise. -/
def comparison (digester : Digester) (path : Path) (a : Algorithm) (hashes : List Hash) :
    Except Failure Verification × List (Path × String) :=
  if wellFormed a hashes = [] then
    (.error (mismatchFailure path a 0 (candidates a hashes).length), [])
  else
    match (digester path a.canonicalName).1 with
    | .error failure => (.error failure, [(path, a.canonicalName)])
    | .ok digest => (firstMatch path a hashes digest, [(path, a.canonicalName)])

/-- What a verification must come to, and the calls of the digester that it makes: an
error if a type is empty or none is supported, and else what the candidates of the
strongest algorithm come to. -/
def declared (digester : Digester) (path : Path) (hashes : List Hash) :
    Except Failure Verification × List (Path × String) :=
  if HasUnnamed hashes then (.error (.error .emptyHashType), [])
  else
    match strongest? hashes with
    | none => (.error (.error .noUsableHash), [])
    | some a => comparison digester path a hashes

/-! ## Selections of candidates -/

section Lists

variable {a : Algorithm} {h : Hash} {hashes : List Hash}

theorem candidates_cons_of_ne (hne : h.algorithm? ≠ some a) :
    candidates a (h :: hashes) = candidates a hashes :=
  List.filter_cons_of_neg (by simpa using hne)

theorem candidates_cons_of_eq (heq : h.algorithm? = some a) :
    candidates a (h :: hashes) = h :: candidates a hashes :=
  List.filter_cons_of_pos (by simpa using heq)

theorem wellFormed_cons_of_ne (hne : h.algorithm? ≠ some a) :
    wellFormed a (h :: hashes) = wellFormed a hashes := by
  rw [wellFormed, candidates_cons_of_ne hne, wellFormed]

/-- A malformed candidate is left out of the well-formed ones. -/
theorem wellFormed_cons_of_malformed (heq : h.algorithm? = some a) (hbad : ¬ h.IsWellFormed a) :
    wellFormed a (h :: hashes) = wellFormed a hashes := by
  rw [wellFormed, candidates_cons_of_eq heq, wellFormed]
  exact List.filter_cons_of_neg (by simpa using hbad)

theorem wellFormed_cons_of_wellFormed (heq : h.algorithm? = some a) (hgood : h.IsWellFormed a) :
    wellFormed a (h :: hashes) = h :: wellFormed a hashes := by
  rw [wellFormed, candidates_cons_of_eq heq, wellFormed]
  exact List.filter_cons_of_pos (by simpa using hgood)

/-- A well-formed hash denotes a digest. -/
theorem Hash.IsWellFormed.exists_denotes (hgood : h.IsWellFormed a) :
    ∃ digest, h.Denotes digest := by
  obtain ⟨digest, hdecode, -⟩ := Hex.exists_decode_of_isDigest hgood
  exact ⟨digest, hdecode⟩

/-- Induction on hashes by what they are to an algorithm: made with another one, malformed,
or well-formed. -/
theorem candidate_induction (a : Algorithm) {motive : List Hash → Prop} (nil : motive [])
    (other : ∀ h rest, h.algorithm? ≠ some a → motive rest → motive (h :: rest))
    (malformed : ∀ h rest, h.algorithm? = some a → ¬ h.IsWellFormed a → motive rest →
      motive (h :: rest))
    (wellFormed : ∀ h rest, h.algorithm? = some a → h.IsWellFormed a → motive rest →
      motive (h :: rest))
    (hashes : List Hash) : motive hashes := by
  induction hashes with
  | nil => exact nil
  | cons h rest ih =>
    by_cases heq : h.algorithm? = some a
    · by_cases hgood : h.IsWellFormed a
      · exact wellFormed h rest heq hgood ih
      · exact malformed h rest heq hgood ih
    · exact other h rest heq ih

end Lists

/-! ## Runs with a step in front -/

namespace VerifyRun

@[simp]
theorem outcome_afterRecord (level : LogLevel) (message : String) (run : VerifyRun) :
    (run.afterRecord level message).outcome = run.outcome :=
  rfl

@[simp]
theorem calls_afterRecord (level : LogLevel) (message : String) (run : VerifyRun) :
    (run.afterRecord level message).calls = run.calls :=
  rfl

@[simp]
theorem calls_after_called (path : Path) (algorithm : String) (log : Log) (run : VerifyRun) :
    (run.after (.called path algorithm log)).calls = (path, algorithm) :: run.calls :=
  rfl

end VerifyRun

/-! ## One hash -/

namespace VerifyJob

variable (job : VerifyJob) (known : Option Bytes) (tried skipped : Nat) {h : Hash}
  (rest : List Hash)

/-- A hash that is no candidate is passed over without a trace. -/
theorem compareAll_cons_of_ne (hne : h.algorithm? ≠ some job.algorithm) :
    job.compareAll known tried skipped (h :: rest) = job.compareAll known tried skipped rest := by
  have htype : HashType.ofName h.type ≠ .supported job.algorithm :=
    fun heq => hne ((Hash.algorithm?_eq_some_iff _ _).2 heq)
  rw [compareAll, if_pos htype]

/-- A malformed candidate is noted and counted. -/
theorem compareAll_cons_of_malformed (heq : h.algorithm? = some job.algorithm)
    (hbad : ¬ h.IsWellFormed job.algorithm) :
    job.compareAll known tried skipped (h :: rest) =
      .afterRecord .debug (skipMessage h) (job.compareAll known tried (skipped + 1) rest) := by
  have htype : HashType.ofName h.type = .supported job.algorithm :=
    (Hash.algorithm?_eq_some_iff _ _).1 heq
  have hvalue : Hex.isDigest h.value job.algorithm.digestLength = false :=
    Bool.eq_false_of_not_eq_true hbad
  rw [compareAll, if_neg (not_not_intro htype), if_pos hvalue]

/-- With the digest of the file at hand, a well-formed candidate either matches, or is
warned of and counted. -/
theorem compareAll_cons_of_known {digest expected : Bytes}
    (heq : h.algorithm? = some job.algorithm) (hgood : h.IsWellFormed job.algorithm)
    (hdenotes : h.Denotes expected) :
    job.compareAll (some digest) tried skipped (h :: rest) =
      if expected = digest then job.matched h digest (tried + 1)
      else .afterRecord .warning (mismatchMessage h digest)
        (job.compareAll (some digest) (tried + 1) skipped rest) := by
  have htype : HashType.ofName h.type = .supported job.algorithm :=
    (Hash.algorithm?_eq_some_iff _ _).1 heq
  have hvalue : ¬ Hex.isDigest h.value job.algorithm.digestLength = false := by
    rw [Bool.not_eq_false]
    exact hgood
  rw [compareAll, if_neg (not_not_intro htype), if_neg hvalue, hdenotes]
  rfl

/-- The first well-formed candidate has the file digested, and is then compared like any
other. -/
theorem compareAll_cons_of_unknown (heq : h.algorithm? = some job.algorithm)
    (hgood : h.IsWellFormed job.algorithm) :
    job.compareAll none tried skipped (h :: rest) =
      match job.digester job.path job.algorithm.canonicalName with
      | (.error failure, log) =>
        ⟨.error failure, [.called job.path job.algorithm.canonicalName log]⟩
      | (.ok digest, log) =>
        .after (.called job.path job.algorithm.canonicalName log)
          (job.compareAll (some digest) tried skipped (h :: rest)) := by
  obtain ⟨expected, hdenotes⟩ := hgood.exists_denotes
  have htype : HashType.ofName h.type = .supported job.algorithm :=
    (Hash.algorithm?_eq_some_iff _ _).1 heq
  have hvalue : ¬ Hex.isDigest h.value job.algorithm.digestLength = false := by
    rw [Bool.not_eq_false]
    exact hgood
  rw [compareAll, if_neg (not_not_intro htype), if_neg hvalue, hdenotes]
  cases hdigest : job.digester job.path job.algorithm.canonicalName with
  | mk result log =>
    cases result with
    | error failure => rfl
    | ok digest =>
      simp only [compareAll_cons_of_known job tried skipped rest heq hgood hdenotes, compareOne]

/-! ## The walk -/

/-- The walk passes over everything that is no candidate, without leaving a trace. -/
theorem compareAll_candidates (hashes : List Hash) :
    job.compareAll known tried skipped (candidates job.algorithm hashes) =
      job.compareAll known tried skipped hashes := by
  induction hashes using candidate_induction job.algorithm generalizing known tried skipped with
  | nil => rfl
  | other h rest hne ih =>
    rw [candidates_cons_of_ne hne, compareAll_cons_of_ne job _ tried skipped rest hne, ih]
  | malformed h rest heq hbad ih =>
    simp only [candidates_cons_of_eq heq, compareAll_cons_of_malformed job _ tried skipped _ heq
      hbad, ih]
  | wellFormed h rest heq hgood ih =>
    obtain ⟨expected, hdenotes⟩ := hgood.exists_denotes
    rw [candidates_cons_of_eq heq]
    -- Whether the digest is at hand or calculated first, the rest is walked with it.
    have hknown : ∀ digest, job.compareAll (some digest) tried skipped
        (h :: candidates job.algorithm rest) =
          job.compareAll (some digest) tried skipped (h :: rest) := by
      intro digest
      simp only [compareAll_cons_of_known job tried skipped _ heq hgood hdenotes, ih]
    cases known with
    | some digest => exact hknown digest
    | none => simp only [compareAll_cons_of_unknown job tried skipped _ heq hgood, hknown]

/-- With the digest of the file at hand, the first well-formed candidate that denotes it
matches.  The counters go on from the candidates seen before: they count the well-formed
ones up to the match, or all candidates if there is none. -/
theorem outcome_compareAll_known (digest : Bytes) (hashes : List Hash) :
    (job.compareAll (some digest) tried skipped hashes).outcome =
      match (wellFormed job.algorithm hashes).find? fun h => h.Denotes digest with
      | some h =>
        .ok ⟨job.algorithm, h.type, h.value, Hex.encode digest,
          tried + ((wellFormed job.algorithm hashes).findIdx fun h => h.Denotes digest) + 1⟩
      | none =>
        .error (mismatchFailure job.path job.algorithm
          (tried + (wellFormed job.algorithm hashes).length)
          (skipped + ((candidates job.algorithm hashes).length -
            (wellFormed job.algorithm hashes).length))) := by
  -- The counters must be general: they have grown when the rest is looked at.
  induction hashes using candidate_induction job.algorithm generalizing tried skipped with
  | nil => simp [compareAll, mismatch, VerifyRun.failed, wellFormed, candidates, mismatchFailure]
  | other h rest hne ih =>
    rw [compareAll_cons_of_ne job _ tried skipped rest hne, ih, wellFormed_cons_of_ne hne,
      candidates_cons_of_ne hne]
  | malformed h rest heq hbad ih =>
    rw [compareAll_cons_of_malformed job _ tried skipped rest heq hbad,
      VerifyRun.outcome_afterRecord, ih, wellFormed_cons_of_malformed heq hbad,
      candidates_cons_of_eq heq]
    cases (wellFormed job.algorithm rest).find? fun h => h.Denotes digest with
    | some found => rfl
    | none => simp [mismatchFailure]; omega
  | wellFormed h rest heq hgood ih =>
    obtain ⟨expected, hdenotes⟩ := hgood.exists_denotes
    rw [compareAll_cons_of_known job tried skipped rest heq hgood hdenotes,
      wellFormed_cons_of_wellFormed heq hgood, candidates_cons_of_eq heq]
    by_cases hmatch : expected = digest
    · subst hmatch
      simp [matched, List.find?_cons_of_pos, List.findIdx_cons, hdenotes]
    · have hother : ¬ h.Denotes digest := by
        intro hd
        rw [Hash.Denotes, hdenotes] at hd
        exact hmatch (Except.ok.inj hd)
      rw [if_neg hmatch, VerifyRun.outcome_afterRecord, ih]
      simp only [List.find?_cons, List.findIdx_cons, hother, decide_false, cond_false,
        List.length_cons]
      cases (wellFormed job.algorithm rest).find? fun h => h.Denotes digest with
      | some found => simp; omega
      | none => simp [mismatchFailure]; omega

/-- Once the digest is known, the digester is not called any more. -/
theorem calls_compareAll_known (digest : Bytes) (hashes : List Hash) :
    (job.compareAll (some digest) tried skipped hashes).calls = [] := by
  induction hashes using candidate_induction job.algorithm generalizing tried skipped with
  | nil => rfl
  | other h rest hne ih => rw [compareAll_cons_of_ne job _ tried skipped rest hne, ih]
  | malformed h rest heq hbad ih =>
    rw [compareAll_cons_of_malformed job _ tried skipped rest heq hbad,
      VerifyRun.calls_afterRecord, ih]
  | wellFormed h rest heq hgood ih =>
    obtain ⟨expected, hdenotes⟩ := hgood.exists_denotes
    rw [compareAll_cons_of_known job tried skipped rest heq hgood hdenotes]
    by_cases hmatch : expected = digest
    · rw [if_pos hmatch]
      rfl
    · rw [if_neg hmatch, VerifyRun.calls_afterRecord, ih]

/-- Without a well-formed candidate there is nothing to digest the file for, and all
candidates are skipped. -/
theorem compareAll_of_wellFormed_eq_nil {hashes : List Hash}
    (hnone : wellFormed job.algorithm hashes = []) :
    (job.compareAll none tried skipped hashes).outcome =
        .error (mismatchFailure job.path job.algorithm tried
          (skipped + (candidates job.algorithm hashes).length)) ∧
      (job.compareAll none tried skipped hashes).calls = [] := by
  induction hashes using candidate_induction job.algorithm generalizing skipped with
  | nil =>
    exact ⟨by simp [compareAll, mismatch, VerifyRun.failed, candidates, mismatchFailure], rfl⟩
  | other h rest hne ih =>
    rw [wellFormed_cons_of_ne hne] at hnone
    rw [compareAll_cons_of_ne job _ tried skipped rest hne, candidates_cons_of_ne hne]
    exact ih skipped hnone
  | malformed h rest heq hbad ih =>
    rw [wellFormed_cons_of_malformed heq hbad] at hnone
    rw [compareAll_cons_of_malformed job _ tried skipped rest heq hbad,
      VerifyRun.outcome_afterRecord, VerifyRun.calls_afterRecord, (ih (skipped + 1) hnone).1,
      candidates_cons_of_eq heq]
    refine ⟨?_, (ih (skipped + 1) hnone).2⟩
    simp [mismatchFailure]
    omega
  | wellFormed h rest heq hgood ih =>
    rw [wellFormed_cons_of_wellFormed heq hgood] at hnone
    cases hnone

/-- The first well-formed candidate has the file digested.  A failure of the digester is
that of the walk; with a digest the walk goes on, as if it had been at hand from the
beginning. -/
theorem compareAll_of_wellFormed_ne_nil {hashes : List Hash}
    (hsome : wellFormed job.algorithm hashes ≠ []) :
    (job.compareAll none tried skipped hashes).outcome =
        (match (job.digester job.path job.algorithm.canonicalName).1 with
        | .error failure => .error failure
        | .ok digest => (job.compareAll (some digest) tried skipped hashes).outcome) ∧
      (job.compareAll none tried skipped hashes).calls =
        [(job.path, job.algorithm.canonicalName)] := by
  induction hashes using candidate_induction job.algorithm generalizing skipped with
  | nil => exact absurd rfl hsome
  | other h rest hne ih =>
    rw [wellFormed_cons_of_ne hne] at hsome
    simp only [compareAll_cons_of_ne job _ tried skipped rest hne]
    exact ih skipped hsome
  | malformed h rest heq hbad ih =>
    rw [wellFormed_cons_of_malformed heq hbad] at hsome
    simp only [compareAll_cons_of_malformed job _ tried skipped rest heq hbad,
      VerifyRun.outcome_afterRecord, VerifyRun.calls_afterRecord]
    exact ih (skipped + 1) hsome
  | wellFormed h rest heq hgood ih =>
    rw [compareAll_cons_of_unknown job tried skipped rest heq hgood]
    rcases job.digester job.path job.algorithm.canonicalName with ⟨result, log⟩
    cases result with
    | error failure => exact ⟨rfl, rfl⟩
    | ok digest =>
      refine ⟨rfl, ?_⟩
      rw [VerifyRun.calls_after_called, calls_compareAll_known]

/-- From the start, the walk comes to what is declared of the candidates. -/
theorem compareAll_start (hashes : List Hash) :
    ((job.compareAll none 0 0 hashes).outcome, (job.compareAll none 0 0 hashes).calls) =
      comparison job.digester job.path job.algorithm hashes := by
  unfold comparison
  by_cases hnone : wellFormed job.algorithm hashes = []
  · obtain ⟨houtcome, hcalls⟩ := job.compareAll_of_wellFormed_eq_nil 0 0 hnone
    rw [if_pos hnone, houtcome, hcalls]
    simp
  · obtain ⟨houtcome, hcalls⟩ := job.compareAll_of_wellFormed_ne_nil 0 0 hnone
    rw [if_neg hnone, houtcome, hcalls]
    cases (job.digester job.path job.algorithm.canonicalName).1 with
    | error failure => rfl
    | ok digest =>
      simp only [job.outcome_compareAll_known 0 0 digest hashes, firstMatch]
      simp

end VerifyJob

/-! ## Verifications -/

/-- A verification comes to what is declared of it, with the declared calls of the
digester, whatever the hashes, their order and the digester. -/
theorem verify_eq_declared (digester : Digester) (path : Path) (hashes : List Hash) :
    ((verify digester path hashes).outcome, (verify digester path hashes).calls) =
      declared digester path hashes := by
  unfold verify declared
  rw [selectBest_eq]
  by_cases hunnamed : HasUnnamed hashes
  · rw [if_pos hunnamed, if_pos hunnamed]
    rfl
  · rw [if_neg hunnamed, if_neg hunnamed]
    cases strongest? hashes with
    | none => rfl
    | some a => exact (⟨digester, path, a⟩ : VerifyJob).compareAll_start hashes

end Metalink
