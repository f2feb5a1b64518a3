import Mathlib.Tactic.Common
import Metalink.Proofs.Digest.Engine
import Metalink.Proofs.Verification.Acceptance

/-!
# FIPS compliance

Under FIPS compliance the engine refuses MD5, by whatever letter case it is asked for.  The
refusal lies deep: a file is opened before, and a verification comes to the engine only for the
strongest algorithm and only if a hash of it is well-formed.  Everything that does not get there
is the same in both modes.

Main results:

- `digest_withFips_of_ne_md5`: for other names the mode does not show.
- `compareAll_congr`, `verify_congr_digester`: a verification depends on the digester through
  one answer at most.
- `fips_forbids_md5_only`: where the modes differ, and what compliance makes of it.
-/

namespace Metalink

open Metalink.Digest Metalink.Text

/-! ## The engine -/

namespace Digest.Engine

/-- The engine with FIPS compliance on or off. -/
def withFips (engine : Engine) (fips : Bool) : Engine := { engine with fips }

variable {engine : Engine} {path : Path} {name : String}

/-- Compliance changes nothing about any other function than MD5. -/
theorem function_withFips_of_ne_md5 (h : lower name ≠ "md5") (fips : Bool) :
    (engine.withFips fips).function name = engine.function name := by
  simp only [function, withFips, h, false_and, if_false]

/-- Under compliance MD5 is forbidden, however it is written. -/
theorem function_withFips_true_of_md5 (h : lower name = "md5") :
    (engine.withFips true).function name =
      (.error (.forbiddenDigest name), .error "Digest init failed: md5 is disabled in FIPS mode") :=
  if_pos ⟨h, rfl⟩

/-- A file that cannot be opened fails alike in both modes. -/
theorem digest_withFips_of_openFile_eq_error {fault : ReadFault}
    (h : engine.storage.openFile path = .error fault) (fips : Bool) :
    (engine.withFips fips).digest path name = engine.digest path name := by
  have hopen : (engine.withFips fips).storage.openFile path = .error fault := h
  rw [digest, digest, hopen, h]
  cases fault <;> rfl

/-- For every name but that of MD5 the mode does not show, neither in the digest nor in the
records. -/
theorem digest_withFips_of_ne_md5 (h : lower name ≠ "md5") (fips : Bool) :
    (engine.withFips fips).digest path name = engine.digest path name := by
  cases hopen : engine.storage.openFile path with
  | error fault => exact digest_withFips_of_openFile_eq_error hopen fips
  | ok stream =>
    have hopen' : (engine.withFips fips).storage.openFile path = .ok stream := hopen
    simp only [digest, hopen, hopen', digestStream, function_withFips_of_ne_md5 h]
    rfl

/-- MD5 is refused once the file has been opened, whatever the file holds. -/
theorem digest_withFips_true_of_md5 (h : lower name = "md5") {stream : Stream}
    (hopen : engine.storage.openFile path = .ok stream) :
    ((engine.withFips true).digest path name).1 = .error (.error (.forbiddenDigest name)) := by
  have hopen' : (engine.withFips true).storage.openFile path = .ok stream := hopen
  simp only [digest, hopen', digestStream, function_withFips_true_of_md5 h]

/-- Under compliance there is no digest by MD5. -/
theorem digest_withFips_true_ne_ok (h : lower name = "md5") (bytes : Bytes) :
    ((engine.withFips true).digest path name).1 ≠ .ok bytes := by
  rw [Ne, digest_eq_ok_iff, function_withFips_true_of_md5 h]
  rintro ⟨-, stream, f, -, -, hfunction, -⟩
  cases hfunction

/-- Without FIPS compliance nothing is forbidden. -/
theorem digest_withFips_false_ne_forbidden (other : String) :
    ((engine.withFips false).digest path name).1 ≠ .error (.error (.forbiddenDigest other)) := by
  have hfunction : ∀ e, ((engine.withFips false).function name).1 = .error e →
      e = .unsupportedDigest name := by
    intro e he
    simp only [function, withFips, Bool.false_eq_true, and_false, if_false] at he
    cases hname : engine.host.library.find? name with
    | some f => simp [hname] at he
    | none => simpa [hname, eq_comm] using he
  unfold digest
  cases (engine.withFips false).storage.openFile path with
  | error fault => cases fault <;> simp
  | ok stream =>
    simp only [digestStream]
    rcases hresult : (engine.withFips false).function name with ⟨result, log⟩
    cases result with
    | error e => simp [hfunction e (by rw [hresult])]
    | ok f =>
      simp only
      rcases stream.read (engine.withFips false).host.memory (engine.withFips false).chunkSize with
        escape | ⟨pieces, _ | fault⟩
      · simp
      · cases hdigest : f.digestPieces? pieces <;> simp [hdigest]
      · simp

end Digest.Engine

/-! ## Verifications with two digesters -/

section Digesters

variable {digester other : Digester} {path : Path} {a : Algorithm} {hashes : List Hash}

/-- Comparing candidates depends on the digester through its answer for the algorithm alone,
and not even on this one without a well-formed candidate. -/
theorem VerifyJob.compareAll_congr
    (h : wellFormed a hashes ≠ [] →
      digester path a.canonicalName = other path a.canonicalName)
    (known : Option Bytes) (tried skipped : Nat) :
    compareAll ⟨digester, path, a⟩ known tried skipped hashes =
      compareAll ⟨other, path, a⟩ known tried skipped hashes := by
  induction hashes using candidate_induction a generalizing known tried skipped with
  | nil => rfl
  | other k rest hne ih =>
    rw [wellFormed_cons_of_ne hne] at h
    rw [compareAll_cons_of_ne _ known tried skipped rest hne,
      compareAll_cons_of_ne _ known tried skipped rest hne]
    exact ih h known tried skipped
  | malformed k rest heq hbad ih =>
    rw [wellFormed_cons_of_malformed heq hbad] at h
    rw [compareAll_cons_of_malformed _ known tried skipped rest heq hbad,
      compareAll_cons_of_malformed _ known tried skipped rest heq hbad,
      ih h known tried (skipped + 1)]
  | wellFormed k rest heq hgood ih =>
    have hne : Metalink.wellFormed a (k :: rest) ≠ [] := by
      rw [wellFormed_cons_of_wellFormed heq hgood]
      exact List.cons_ne_nil _ _
    have hanswer := h hne
    obtain ⟨expected, hdenotes⟩ := hgood.exists_denotes
    have hknown : ∀ digest, compareAll ⟨digester, path, a⟩ (some digest) tried skipped (k :: rest) =
        compareAll ⟨other, path, a⟩ (some digest) tried skipped (k :: rest) := by
      intro digest
      rw [compareAll_cons_of_known _ tried skipped rest heq hgood hdenotes,
        compareAll_cons_of_known _ tried skipped rest heq hgood hdenotes,
        ih (fun _ => hanswer) (some digest) (tried + 1) skipped]
      rfl
    cases known with
    | some digest => exact hknown digest
    | none =>
      rw [compareAll_cons_of_unknown _ tried skipped rest heq hgood,
        compareAll_cons_of_unknown _ tried skipped rest heq hgood]
      simp only [hanswer, hknown]

/-- A verification is the same with two digesters that agree on the strongest algorithm, if one
of its candidates is well-formed. -/
theorem verify_congr_digester
    (h : ∀ a, selectBest hashes = .ok a → wellFormed a hashes ≠ [] →
      digester path a.canonicalName = other path a.canonicalName) :
    verify digester path hashes = verify other path hashes := by
  unfold verify
  cases hselect : selectBest hashes with
  | error e => rfl
  | ok a => simp only [VerifyJob.compareAll_congr (h a hselect)]

/-- The failure of a verification of the strongest algorithm is that of the digester, or that
nothing matches. -/
theorem failure_of_verify (hselect : selectBest hashes = .ok a) {failure : Failure}
    (h : (verify digester path hashes).outcome = .error failure) :
    (digester path a.canonicalName).1 = .error failure ∨
      ∃ tried skipped, failure = mismatchFailure path a tried skipped := by
  have hwalk : ((⟨digester, path, a⟩ : VerifyJob).compareAll none 0 0 hashes).outcome =
      (comparison digester path a hashes).1 :=
    congrArg Prod.fst (VerifyJob.compareAll_start ⟨digester, path, a⟩ hashes)
  simp only [verify, hselect, VerifyRun.outcome_afterRecord, hwalk, comparison] at h
  split at h
  · exact .inr ⟨_, _, (Except.error.inj h).symm⟩
  · cases hanswer : (digester path a.canonicalName).1 with
    | error found =>
      simp only [hanswer, Except.error.injEq] at h
      exact .inl (by rw [h])
    | ok digest =>
      simp only [hanswer, firstMatch] at h
      split at h
      · cases h
      · exact .inr ⟨_, _, (Except.error.inj h).symm⟩

end Digesters

/-! ## Compliance -/

/-- A verification gets as far as to ask for MD5: it is the strongest algorithm, a hash of it is
well-formed, and the file can be opened. -/
structure ReachesMd5 (engine : Engine) (path : Path) (hashes : List Hash) : Prop where
  strongest : selectBest hashes = .ok .md5
  candidate : ∃ h ∈ hashes, h.algorithm? = some .md5 ∧ h.IsWellFormed .md5
  opened : ∃ stream, engine.storage.openFile path = .ok stream

/-- Only MD5 has its name. -/
theorem lower_canonicalName_eq_md5_iff {a : Algorithm} :
    lower a.canonicalName = "md5" ↔ a = .md5 := by
  cases a <;> decide

namespace ReachesMd5

variable {engine : Engine} {path : Path} {hashes : List Hash}

/-- A verification that gets to MD5 ends there under compliance. -/
theorem outcome_true (h : ReachesMd5 engine path hashes) :
    (verify (engine.withFips true).digest path hashes).outcome =
      .error (.error (.forbiddenDigest "md5")) := by
  obtain ⟨stream, hopen⟩ := h.opened
  exact outcome_verify_of_digester_error h.strongest (wellFormed_ne_nil_iff.2 h.candidate)
    (Engine.digest_withFips_true_of_md5 (lower_canonicalName_eq_md5_iff.2 rfl) hopen)

/-- Without compliance it comes to something else. -/
theorem outcome_false (h : ReachesMd5 engine path hashes) :
    (verify (engine.withFips false).digest path hashes).outcome ≠
      .error (.error (.forbiddenDigest "md5")) := by
  intro hfailure
  rcases failure_of_verify h.strongest hfailure with hdigest | ⟨tried, skipped, hmismatch⟩
  · exact Engine.digest_withFips_false_ne_forbidden "md5" hdigest
  · cases hmismatch

end ReachesMd5

/-- A verification that does not get to MD5 is the same in both modes, step by step. -/
theorem verify_withFips_of_not_reachesMd5 {engine : Engine} {path : Path} {hashes : List Hash}
    (h : ¬ ReachesMd5 engine path hashes) :
    verify (engine.withFips true).digest path hashes =
      verify (engine.withFips false).digest path hashes := by
  refine verify_congr_digester fun a hselect hsome => ?_
  by_cases hmd5 : a = .md5
  · subst hmd5
    cases hopen : engine.storage.openFile path with
    | ok stream => exact absurd ⟨hselect, wellFormed_ne_nil_iff.1 hsome, stream, hopen⟩ h
    | error fault =>
      rw [Engine.digest_withFips_of_openFile_eq_error hopen,
        Engine.digest_withFips_of_openFile_eq_error hopen]
  · have hname : lower a.canonicalName ≠ "md5" := mt lower_canonicalName_eq_md5_iff.1 hmd5
    rw [Engine.digest_withFips_of_ne_md5 hname, Engine.digest_withFips_of_ne_md5 hname]

/-- Under FIPS compliance there is no MD5 digest, by any spelling of its name: a file that cannot
be opened fails as it does otherwise, and for one that can be opened the digest is refused.  All
other names give the same in both modes.  Two verifications of one file with one document come
out differently in the two modes exactly if they get as far as to ask for MD5, and then the one
under compliance ends with the refusal; otherwise they are the same in everything that they do. -/
theorem fips_forbids_md5_only (engine : Engine) :
    let on := engine.withFips true
    let off := engine.withFips false
    (∀ path name,
      (lower name = "md5" →
        (∀ bytes, (on.digest path name).1 ≠ .ok bytes) ∧
        (∀ fault, engine.storage.openFile path = .error fault →
          on.digest path name = off.digest path name) ∧
        ∀ stream, engine.storage.openFile path = .ok stream →
          (on.digest path name).1 = .error (.error (.forbiddenDigest name))) ∧
      (lower name ≠ "md5" → on.digest path name = off.digest path name)) ∧
    ∀ path hashes,
      ((verify on.digest path hashes).outcome ≠ (verify off.digest path hashes).outcome ↔
        ReachesMd5 engine path hashes) ∧
      (ReachesMd5 engine path hashes →
        (verify on.digest path hashes).outcome = .error (.error (.forbiddenDigest "md5"))) ∧
      (¬ ReachesMd5 engine path hashes →
        verify on.digest path hashes = verify off.digest path hashes) := by
  intro on off
  refine ⟨fun path name => ⟨fun hmd5 => ⟨?_, ?_, ?_⟩, ?_⟩, fun path hashes => ⟨?_, ?_, ?_⟩⟩
  · exact Engine.digest_withFips_true_ne_ok hmd5
  · intro fault hopen
    exact (Engine.digest_withFips_of_openFile_eq_error hopen true).trans
      (Engine.digest_withFips_of_openFile_eq_error hopen false).symm
  · intro stream hopen
    exact Engine.digest_withFips_true_of_md5 hmd5 hopen
  · intro hname
    exact (Engine.digest_withFips_of_ne_md5 hname true).trans
      (Engine.digest_withFips_of_ne_md5 hname false).symm
  · constructor
    · intro hdiffer
      by_contra hreaches
      exact hdiffer (congrArg VerifyRun.outcome (verify_withFips_of_not_reachesMd5 hreaches))
    · intro hreaches
      rw [hreaches.outcome_true]
      exact hreaches.outcome_false.symm
  · exact ReachesMd5.outcome_true
  · exact verify_withFips_of_not_reachesMd5

end Metalink
