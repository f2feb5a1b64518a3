import Metalink.Proofs.Verification.Candidates

/-!
# When a verification succeeds

A verification succeeds with the digest of the file under the strongest algorithm, and only
if some well-formed hash of that algorithm denotes it.  Hashes of weaker algorithms do not
come into it.

Main results:

- `exists_firstMatch_iff`: some candidate matches exactly if some well-formed hash of the
  algorithm denotes the digest, wherever it stands.
- `verify_eq_ok_iff`: when a verification succeeds, and with what.
-/

namespace Metalink

open Metalink.Digest

theorem mem_wellFormed_iff {a : Algorithm} {h : Hash} {hashes : List Hash} :
    h ∈ wellFormed a hashes ↔ h ∈ hashes ∧ h.algorithm? = some a ∧ h.IsWellFormed a := by
  simp [wellFormed, candidates, and_comm]

/-- Some candidate is well-formed exactly if some well-formed hash has the algorithm. -/
theorem wellFormed_ne_nil_iff {a : Algorithm} {hashes : List Hash} :
    wellFormed a hashes ≠ [] ↔ ∃ h ∈ hashes, h.algorithm? = some a ∧ h.IsWellFormed a := by
  simp [wellFormed, candidates, List.filter_eq_nil_iff, and_comm]

/-- Some candidate matches exactly if some well-formed hash of the algorithm denotes the
digest. -/
theorem exists_firstMatch_iff {path : Path} {a : Algorithm} {hashes : List Hash}
    {digest : Bytes} :
    (∃ v, firstMatch path a hashes digest = .ok v) ↔
      ∃ h ∈ hashes, h.algorithm? = some a ∧ h.IsWellFormed a ∧ h.Denotes digest := by
  have hfind : ((wellFormed a hashes).find? fun h => h.Denotes digest).isSome ↔
      ∃ h ∈ hashes, h.algorithm? = some a ∧ h.IsWellFormed a ∧ h.Denotes digest := by
    simp [mem_wellFormed_iff, and_assoc]
  rw [← hfind, firstMatch]
  cases (wellFormed a hashes).find? fun h => h.Denotes digest <;> simp

/-- Comparing candidates succeeds exactly if there is a digest and a candidate matches it. -/
theorem comparison_eq_ok_iff {digester : Digester} {path : Path} {a : Algorithm}
    {hashes : List Hash} {v : Verification} :
    (comparison digester path a hashes).1 = .ok v ↔
      ∃ digest, (digester path a.canonicalName).1 = .ok digest ∧
        firstMatch path a hashes digest = .ok v := by
  unfold comparison
  by_cases hnone : wellFormed a hashes = []
  · -- Nothing is digested, but nothing could match either.
    have hnomatch : ∀ digest, firstMatch path a hashes digest ≠ .ok v := by
      intro digest
      simp [firstMatch, hnone]
    simp [hnone, hnomatch]
  · rw [if_neg hnone]
    cases (digester path a.canonicalName).1 <;> simp

/-- A verification succeeds exactly if every hash has a type name and a candidate of the
strongest algorithm matches the digest of the file. -/
theorem verify_eq_ok_iff {digester : Digester} {path : Path} {hashes : List Hash}
    {v : Verification} :
    (verify digester path hashes).outcome = .ok v ↔
      ¬ HasUnnamed hashes ∧ ∃ a, IsStrongest a hashes ∧
        ∃ digest, (digester path a.canonicalName).1 = .ok digest ∧
          firstMatch path a hashes digest = .ok v := by
  unfold verify
  cases hselect : selectBest hashes with
  | error e =>
    have hnone : ∀ a, ¬ (¬ HasUnnamed hashes ∧ IsStrongest a hashes) := by
      intro a ha
      rw [← selectBest_eq_ok_iff, hselect] at ha
      cases ha
    constructor
    · intro h
      cases h
    · rintro ⟨hnamed, a, hstrongest, -⟩
      exact absurd ⟨hnamed, hstrongest⟩ (hnone a)
  | ok a =>
    obtain ⟨hnamed, hstrongest⟩ := (selectBest_eq_ok_iff hashes a).1 hselect
    have hwalk : ((⟨digester, path, a⟩ : VerifyJob).compareAll none 0 0 hashes).outcome =
        (comparison digester path a hashes).1 :=
      congrArg Prod.fst (VerifyJob.compareAll_start ⟨digester, path, a⟩ hashes)
    simp only [VerifyRun.outcome_afterRecord, hwalk, comparison_eq_ok_iff]
    constructor
    · intro h
      exact ⟨hnamed, a, hstrongest, h⟩
    · rintro ⟨-, b, hb, h⟩
      obtain rfl : b = a := hb.unique hstrongest
      exact h

/-- A failure of the digester is that of a verification that comes to it. -/
theorem outcome_verify_of_digester_error {digester : Digester} {path : Path} {a : Algorithm}
    {hashes : List Hash} (hselect : selectBest hashes = .ok a) (hsome : wellFormed a hashes ≠ [])
    {failure : Failure} (herror : (digester path a.canonicalName).1 = .error failure) :
    (verify digester path hashes).outcome = .error failure := by
  have hwalk := (VerifyJob.compareAll_of_wellFormed_ne_nil ⟨digester, path, a⟩ 0 0 hsome).1
  simp only [herror] at hwalk
  simp only [verify, hselect, VerifyRun.outcome_afterRecord, hwalk]

end Metalink
