import Metalink.Proofs.Verification.Candidates

/-!
# Checked hashes are decoded

Before a hash is decoded it is checked to be the digest of the right number of bytes.  The check
looks for a length and for digits, the decoder for emptiness, parity and values of digits.  They
agree on every text and every length, so that no hash which passes the check is refused by the
decoder.

Main results:

- `isDigest_iff_exists_decode`: the check holds exactly if the decoder gives that many bytes.
- `Hash.isWellFormed_iff_exists_denotes`: the same of a hash and an algorithm.
- `hex_failure_of_compareAll`: comparing candidates fails on a hexadecimal digest only if the
  digester does.
- `check_agrees_with_decoder`: check and decoder agree, in themselves and in every verification.
-/

namespace Metalink

open Metalink.Digest

/-! ## The check and the decoder -/

namespace Hex

/-- What decodes to some number of bytes is a digest of that many. -/
theorem isDigest_of_decode {text : String} {bytes : List UInt8} (h : decode text = .ok bytes) :
    isDigest text bytes.length = true := by
  obtain ⟨hnonempty, hchars⟩ := (decode_eq_ok_iff _ _).1 h
  have hdigits : text.toList.all isDigit = true :=
    ((decodeChars_isSome_iff _).1 (Option.isSome_of_eq_some hchars)).2
  have htwice := length_of_decodeChars hchars
  -- Two digits make a byte, so a text that is not empty gives at least one.
  have hpos := List.length_pos_of_ne_nil hnonempty
  simp only [isDigest, Bool.and_eq_true, Bool.not_eq_true', List.isEmpty_eq_false_iff,
    decide_eq_true_eq, beq_iff_eq]
  exact ⟨⟨⟨hnonempty, by omega⟩, hdigits⟩, by omega⟩

/-- A text is the digest of some number of bytes exactly if it decodes to that many. -/
theorem isDigest_iff_exists_decode (text : String) (length : Int) :
    isDigest text length = true ↔
      ∃ bytes, decode text = .ok bytes ∧ (bytes.length : Int) = length := by
  constructor
  · exact exists_decode_of_isDigest
  · rintro ⟨bytes, hdecode, rfl⟩
    exact isDigest_of_decode hdecode

/-- No text is a digest of two lengths. -/
theorem length_unique_of_isDigest {text : String} {m n : Int} (hm : isDigest text m = true)
    (hn : isDigest text n = true) : m = n := by
  obtain ⟨bytes, hbytes, rfl⟩ := exists_decode_of_isDigest hm
  obtain ⟨others, hothers, rfl⟩ := exists_decode_of_isDigest hn
  rw [hbytes] at hothers
  rw [Except.ok.inj hothers]

end Hex

/-- A hash is well-formed exactly if its value decodes to a digest of the algorithm's length. -/
theorem Hash.isWellFormed_iff_exists_denotes (h : Hash) (a : Algorithm) :
    h.IsWellFormed a ↔ ∃ digest, h.Denotes digest ∧ digest.length = a.digestLength := by
  have hiff := Hex.isDigest_iff_exists_decode h.value a.digestLength
  simp only [Int.ofNat_inj] at hiff
  exact hiff

/-! ## Verifications -/

namespace VerifyJob

variable (job : VerifyJob) {known : Option Bytes} {tried skipped : Nat} {hashes : List Hash}
  {fault : Hex.Fault}

/-- With the digest of the file at hand, no comparison fails on a hexadecimal digest. -/
theorem outcome_compareAll_known_ne_hex (digest : Bytes) :
    (job.compareAll (some digest) tried skipped hashes).outcome ≠
      .error (.error (.hex fault)) := by
  intro hfailure
  rw [outcome_compareAll_known] at hfailure
  -- It is a match or a mismatch.
  split at hfailure <;> cases hfailure

/-- Comparing candidates fails on a hexadecimal digest only if the digester does. -/
theorem hex_failure_of_compareAll
    (h : (job.compareAll known tried skipped hashes).outcome = .error (.error (.hex fault))) :
    (job.digester job.path job.algorithm.canonicalName).1 = .error (.error (.hex fault)) := by
  cases known with
  | some digest => exact absurd h (job.outcome_compareAll_known_ne_hex digest)
  | none =>
    by_cases hnone : wellFormed job.algorithm hashes = []
    · rw [(job.compareAll_of_wellFormed_eq_nil tried skipped hnone).1] at h
      cases h
    · rw [(job.compareAll_of_wellFormed_ne_nil tried skipped hnone).1] at h
      cases hdigest : (job.digester job.path job.algorithm.canonicalName).1 with
      | error failure =>
        rw [hdigest] at h
        exact congrArg _ (Except.error.inj h)
      | ok digest =>
        rw [hdigest] at h
        exact absurd h (job.outcome_compareAll_known_ne_hex digest)

end VerifyJob

/-- A verification fails on a hexadecimal digest only if the digester does. -/
theorem hex_failure_of_verify {digester : Digester} {path : Path} {hashes : List Hash}
    {fault : Hex.Fault} (h : (verify digester path hashes).outcome = .error (.error (.hex fault))) :
    ∃ a, IsStrongest a hashes ∧
      (digester path a.canonicalName).1 = .error (.error (.hex fault)) := by
  unfold verify at h
  cases hselect : selectBest hashes with
  | error e =>
    rw [hselect] at h
    obtain rfl : e = .hex fault := Failure.error.inj (Except.error.inj h)
    rcases (selectBest_eq_error_iff hashes _).1 hselect with ⟨-, heq⟩ | ⟨-, -, heq⟩ <;> cases heq
  | ok a =>
    rw [hselect] at h
    exact ⟨a, ((selectBest_eq_ok_iff hashes a).1 hselect).2,
      (⟨digester, path, a⟩ : VerifyJob).hex_failure_of_compareAll h⟩

/-- The check of a hexadecimal digest and the decoder agree.  A text passes the check for a
length, whatever integer it is, exactly if it decodes to that many bytes, so for one length at
most.  A hash passes the check for an algorithm exactly if it decodes to a digest of the
algorithm's length, and the decoder never breaks a verification off: a failure on a hexadecimal
digest is the digester's own. -/
theorem check_agrees_with_decoder :
    (∀ text (length : Int), Hex.isDigest text length = true ↔
        ∃ bytes, Hex.decode text = .ok bytes ∧ (bytes.length : Int) = length) ∧
      (∀ text m n, Hex.isDigest text m = true → Hex.isDigest text n = true → m = n) ∧
      (∀ (h : Hash) (a : Algorithm), h.IsWellFormed a ↔
        ∃ digest, h.Denotes digest ∧ digest.length = a.digestLength) ∧
      (∀ (job : VerifyJob) known tried skipped hashes fault,
        (job.compareAll known tried skipped hashes).outcome = .error (.error (.hex fault)) →
          (job.digester job.path job.algorithm.canonicalName).1 =
            .error (.error (.hex fault))) ∧
      ∀ digester path hashes fault,
        (verify digester path hashes).outcome = .error (.error (.hex fault)) →
          ∃ a, IsStrongest a hashes ∧
            (digester path a.canonicalName).1 = .error (.error (.hex fault)) := by
  refine ⟨Hex.isDigest_iff_exists_decode, fun _ _ _ => Hex.length_unique_of_isDigest,
    Hash.isWellFormed_iff_exists_denotes, ?_, ?_⟩
  · intro job known tried skipped hashes fault
    exact job.hex_failure_of_compareAll
  · intro digester path hashes fault
    exact hex_failure_of_verify

end Metalink
