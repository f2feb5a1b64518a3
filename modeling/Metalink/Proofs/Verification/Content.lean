import Mathlib.Tactic.Common
import Metalink.Proofs.Digest.Engine
import Metalink.Proofs.Verification.Acceptance

/-!
# What a verified file holds

A verification with the digest engine joins two things that are far apart: the loop that reads
a file in pieces, which stops at the first empty piece, and the comparison of hashes, which
takes the digest for that of the file.  A hash that was found to match denotes the digest of
the whole file for every size of pieces but zero.  Nothing refuses that size, and with it
every file passes for an empty one.

Main results:

- `verify_digest_eq_ok_iff`: when a verification with the engine succeeds, and with what.
- `verified_hash_denotes_content`: what the hash that matched says about the file.
- `zero_size_verifies_other_content`: a file that is verified with the hash of another one.
-/

namespace Metalink

open Metalink.Digest

/-- What matches is the first well-formed hash of the algorithm that denotes the digest. -/
theorem firstMatch_eq_ok_iff {path : Path} {a : Algorithm} {hashes : List Hash} {digest : Bytes}
    {v : Verification} :
    firstMatch path a hashes digest = .ok v ↔
      ∃ hash, ((wellFormed a hashes).find? fun hash => hash.Denotes digest) = some hash ∧
        v = ⟨a, hash.type, hash.value, Hex.encode digest,
          ((wellFormed a hashes).findIdx fun hash => hash.Denotes digest) + 1⟩ := by
  unfold firstMatch
  cases (wellFormed a hashes).find? fun hash => hash.Denotes digest with
  | none => simp
  | some hash => simp [eq_comm]

/-- What matches is a well-formed hash of the algorithm that denotes the digest. -/
theorem exists_hash_of_firstMatch {path : Path} {a : Algorithm} {hashes : List Hash}
    {digest : Bytes} {v : Verification} (h : firstMatch path a hashes digest = .ok v) :
    v.algorithm = a ∧ v.calculated = Hex.encode digest ∧
      ∃ hash ∈ wellFormed a hashes, hash.Denotes digest ∧ v.hashType = hash.type ∧
        v.expected = hash.value := by
  obtain ⟨hash, hfind, rfl⟩ := firstMatch_eq_ok_iff.1 h
  have hdenotes : hash.Denotes digest := by simpa using List.find?_some hfind
  exact ⟨rfl, rfl, hash, List.mem_of_find?_eq_some hfind, hdenotes, rfl, rfl⟩

/-- A verification with the engine succeeds exactly if a candidate of the strongest algorithm
matches the digest of what is seen of the file, the algorithm is permitted, and the file can be
read in pieces of the size. -/
theorem verify_digest_eq_ok_iff (engine : Engine) (path : Path) (hashes : List Hash)
    (v : Verification) :
    (verify engine.digest path hashes).outcome = .ok v ↔
      ¬ HasUnnamed hashes ∧ ∃ a, IsStrongest a hashes ∧ ¬ (a = .md5 ∧ engine.fips = true) ∧
        ∃ stream, engine.storage.openFile path = .ok stream ∧
          stream.IsReadable engine.host.memory engine.chunkSize ∧ stream.fault = none ∧
            firstMatch path a hashes
              (a.function.digest (stream.seen engine.chunkSize).content) = .ok v := by
  simp only [verify_eq_ok_iff, Engine.digest_eq_ok_iff, Engine.function_canonicalName_eq_ok_iff,
    LibraryFunction.fixed.injEq]
  constructor
  · rintro ⟨hnamed, a, hstrongest, digest,
      ⟨stream, f, hopen, hread, hfault, ⟨hpermitted, rfl⟩, rfl⟩, hmatch⟩
    exact ⟨hnamed, a, hstrongest, hpermitted, stream, hopen, hread, hfault, hmatch⟩
  · rintro ⟨hnamed, a, hstrongest, hpermitted, stream, hopen, hread, hfault, hmatch⟩
    exact ⟨hnamed, a, hstrongest, _,
      ⟨stream, _, hopen, hread, hfault, ⟨hpermitted, rfl⟩, rfl⟩, hmatch⟩

/-- The hash that a file was found to match denotes the digest of its whole content, unless
the size of the pieces is zero.  With that size it denotes the digest of no content at all. -/
theorem verified_hash_denotes_content (engine : Engine) (path : Path) (stream : Stream)
    (hopen : engine.storage.openFile path = .ok stream) (hashes : List Hash)
    (v : Verification) (h : (verify engine.digest path hashes).outcome = .ok v) :
    (engine.chunkSize ≠ 0 →
        Hex.decode v.expected = .ok (v.algorithm.function.digest stream.content)) ∧
      (engine.chunkSize = 0 → Hex.decode v.expected = .ok (v.algorithm.function.digest [])) := by
  obtain ⟨-, a, -, -, found, hfound, -, -, hmatch⟩ :=
    (verify_digest_eq_ok_iff engine path hashes v).1 h
  obtain rfl : found = stream := by
    rw [hopen] at hfound
    exact (Except.ok.inj hfound).symm
  obtain ⟨halgorithm, -, hash, -, hdenotes, -, hexpected⟩ := exists_hash_of_firstMatch hmatch
  have hdecode : Hex.decode v.expected =
      .ok (v.algorithm.function.digest (found.seen engine.chunkSize).content) := by
    rw [hexpected, halgorithm]
    exact hdenotes
  constructor
  · intro hsize
    rwa [Stream.seen_of_ne_zero hsize] at hdecode
  · intro hsize
    rw [hsize, Stream.seen_zero] at hdecode
    exact hdecode

/-- A file that arrives in two portions and is read in pieces of two bytes, with a hash of an
empty file in front of its own. -/
theorem second_hash_denotes_content :
    let stream : Stream := ⟨[[0x61], [0x62, 0x63]], none⟩
    let engine : Engine := ⟨2, false, fun _ => .ok stream, .standard⟩
    let hashes : List Hash := [⟨"md5", "d41d8cd98f00b204e9800998ecf8427e"⟩,
      ⟨"md5", "900150983CD24FB0D6963F7D28E17F72"⟩]
    let v : Verification := ⟨.md5, "md5", "900150983CD24FB0D6963F7D28E17F72",
      "900150983cd24fb0d6963f7d28e17f72", 2⟩
    (verify engine.digest ⟨.here, ["f"]⟩ hashes).outcome = .ok v ∧ engine.chunkSize ≠ 0 ∧
      Hex.decode v.expected = .ok (HashFunction.md5.digest [0x61, 0x62, 0x63]) := by
  intro stream engine hashes v
  have hok : (verify engine.digest ⟨.here, ["f"]⟩ hashes).outcome = .ok v := by decide +kernel
  have hsize : engine.chunkSize ≠ 0 := by decide
  have hdenotes := (verified_hash_denotes_content engine ⟨.here, ["f"]⟩ stream (by decide)
    hashes v hok).1 hsize
  exact ⟨hok, hsize, hdenotes⟩

/-- Read in pieces of size zero, a file that is not empty is verified with the hash of an
empty one, which does not denote its digest. -/
theorem zero_size_verifies_other_content :
    let content : Bytes := [0x61, 0x62, 0x63]
    let engine : Engine := ⟨0, false, fun _ => .ok (.whole content), .standard⟩
    let v : Verification := ⟨.md5, "md5", "d41d8cd98f00b204e9800998ecf8427e",
      "d41d8cd98f00b204e9800998ecf8427e", 1⟩
    engine.storage.openFile ⟨.here, ["f"]⟩ = .ok (.whole content) ∧
      (verify engine.digest ⟨.here, ["f"]⟩
        [⟨"md5", "d41d8cd98f00b204e9800998ecf8427e"⟩]).outcome = .ok v ∧
      Hex.decode v.expected ≠ .ok (v.algorithm.function.digest content) := by
  decide +kernel

end Metalink
