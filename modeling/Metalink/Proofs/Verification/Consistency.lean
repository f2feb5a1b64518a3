import Mathlib.Tactic.Common
import Metalink.Proofs.Schema.Records
import Metalink.Proofs.Verification.Content

/-!
# Results agree with themselves

A verification compares decoded bytes, and reports texts: the digest as it was published, and the
one that was calculated, written anew.  Whatever a digester gives, the two are the same text up to
the case of letters, because only a hash of the right length can match, and writing bytes undoes
reading them.  The rest of a result is about that hash as well.

Main results:

- `tried_of_firstMatch`: at least one hash was compared, and no more than there are.
- `Hash.IsWellFormed.encode_eq`: what a matching hash says is what the digest is written as.
- `verify_result_is_consistent`: what every result of a verification keeps to.
-/

namespace Metalink

open Metalink.Digest Metalink.Text

/-- What a verification says is about one hash of the document: its digest, well-formed for the
algorithm that its type stands for, is the one that was calculated. -/
structure Verification.IsConsistent (v : Verification) (doc : Document) : Prop where
  valid : v.isValid = true
  calculated : v.calculated = lower v.expected
  digits : ∀ c ∈ v.calculated.toList, Hex.IsLowerDigit c
  length : v.calculated.length = 2 * v.algorithm.digestLength
  type : HashType.ofName v.hashType = .supported v.algorithm
  declared : ⟨v.hashType, v.expected⟩ ∈ doc.hashes
  tried_pos : 1 ≤ v.tried
  tried_le : v.tried ≤ (doc.hashesOf v.algorithm).length

/-- The hash that matches has been compared, and so have only hashes of the algorithm. -/
theorem tried_of_firstMatch {path : Path} {a : Algorithm} {hashes : List Hash} {digest : Bytes}
    {v : Verification} (h : firstMatch path a hashes digest = .ok v) :
    1 ≤ v.tried ∧ v.tried ≤ (candidates a hashes).length := by
  obtain ⟨hash, hfind, rfl⟩ := firstMatch_eq_ok_iff.1 h
  have hdenotes := List.find?_some hfind
  have hindex : ((wellFormed a hashes).findIdx fun hash => hash.Denotes digest) <
      (wellFormed a hashes).length :=
    List.findIdx_lt_length_of_exists ⟨hash, List.mem_of_find?_eq_some hfind, hdenotes⟩
  have hfew : (wellFormed a hashes).length ≤ (candidates a hashes).length :=
    List.length_filter_le _ _
  constructor <;> dsimp only <;> omega

/-- A well-formed hash that denotes a digest is, in lower case, what the digest is written as, and
the digest has the length that the algorithm gives. -/
theorem Hash.IsWellFormed.encode_eq {a : Algorithm} {hash : Hash} {digest : Bytes}
    (hgood : hash.IsWellFormed a) (hdenotes : hash.Denotes digest) :
    Hex.encode digest = lower hash.value ∧ digest.length = a.digestLength := by
  obtain ⟨bytes, hdecode, hlength⟩ := Hex.exists_decode_of_isDigest hgood
  obtain rfl : bytes = digest := Except.ok.inj (hdecode.symm.trans hdenotes)
  have hchars := ((Hex.decode_eq_ok_iff _ _).1 hdecode).2
  exact ⟨(Hex.lower_eq_encode hchars).symm, Int.ofNat.inj hlength⟩

/-- Every result of a verification is consistent, whatever the hashes and whatever the digester
gives: the published digest is the calculated one up to the case of letters, both have the length
of the algorithm that the type stands for, the two come from one hash of the document, and the
number of hashes compared is at least one and no more than there are of the algorithm.  So the
rules for results never refuse one. -/
theorem verify_result_is_consistent {digester : Digester} {path : Path} {doc : Document}
    {v : Verification} (h : (verify digester path doc.hashes).outcome = .ok v) :
    v.IsConsistent doc ∧ Schema.verificationOfFields v.fields = .ok v := by
  obtain ⟨-, a, -, digest, -, hmatch⟩ := verify_eq_ok_iff.1 h
  obtain ⟨rfl, hcalculated, hash, hmem, hdenotes, htype, hexpected⟩ :=
    exists_hash_of_firstMatch hmatch
  obtain ⟨hdeclared, halgorithm, hgood⟩ := mem_wellFormed_iff.1 hmem
  obtain ⟨hencode, hlength⟩ := hgood.encode_eq hdenotes
  obtain ⟨hpos, hle⟩ := tried_of_firstMatch hmatch
  have hlower : v.calculated = lower v.expected := by rw [hcalculated, hencode, hexpected]
  refine ⟨?_, (Schema.verificationOfFields_fields_iff v).2 hpos⟩
  exact
    { valid := by
        rw [Verification.isValid, ← hlower, hcalculated, Hex.lower_encode]
        exact beq_self_eq_true _
      calculated := hlower
      digits := by
        intro c hc
        rw [hcalculated] at hc
        exact Hex.isLowerDigit_of_mem_encode hc
      length := by rw [hcalculated, Hex.length_encode, hlength]
      type := by rw [htype, (Hash.algorithm?_eq_some_iff _ _).1 halgorithm]
      declared := by rw [htype, hexpected]; exact hdeclared
      tried_pos := hpos
      tried_le := hle }

/-- A digest in mixed case, after a malformed hash, one of another file and a weaker one. -/
theorem mixed_case_result_is_consistent :
    let digester : Digester := fun _ _ => (.ok (List.replicate 20 0xAB), [])
    let doc : Document := { Document.empty with
      hashes := [⟨"sha1", "abc"⟩, ⟨"md5", "900150983CD24FB0D6963F7D28E17F72"⟩,
        ⟨"sha-1", "0000000000000000000000000000000000000000"⟩,
        ⟨"sha-1", "abABabABabABabABabABabABabABabABabABabAB"⟩] }
    let v : Verification := ⟨.sha1, "sha-1", "abABabABabABabABabABabABabABabABabABabAB",
      "abababababababababababababababababababab", 2⟩
    (verify digester ⟨.here, ["f"]⟩ doc.hashes).outcome = .ok v ∧ v.IsConsistent doc ∧
      Schema.verificationOfFields v.fields = .ok v := by
  intro digester doc v
  have hok : (verify digester ⟨.here, ["f"]⟩ doc.hashes).outcome = .ok v := by decide +kernel
  have hconsistent := verify_result_is_consistent hok
  exact ⟨hok, hconsistent⟩

end Metalink
