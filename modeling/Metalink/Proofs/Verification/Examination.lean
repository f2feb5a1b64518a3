import Mathlib.Tactic.Common
import Metalink.Proofs.Verification.Account

/-!
# What is usable

Types of hashes are resolved in three places: where the best algorithm is selected, where a
verification looks for its candidates, and where the hashes of one algorithm are listed.  An empty
type is an error in the first place, cannot be met in the second, and is passed over in the third.
Apart from that the three agree, and every hash is in exactly one of the lists.

The hashes that a verification examines do not show in its result.  `examine` therefore notes them
on the way; without these notes it is the verification itself.

Main results:

- `run_examine`: noting what is examined changes nothing.
- `examined_examineAll`: the candidates are examined up to the first one that ends the walk.
- `covers_candidates`: what is examined, and what a mismatch accounts for.
- `isStrongest_iff_hashesOf`: the strongest algorithm in terms of the lists.
- `isDivided`: the lists divide the hashes among them.
- `usable_hashes_agree`: how selection, candidates and lists agree.
-/

namespace Metalink

open Metalink.Digest

/-! ## Noting what is examined -/

/-- A run, and the hashes that were examined in the course of it, in order. -/
structure Examination where
  run : VerifyRun
  examined : List Hash

namespace VerifyJob

/-- Compare a decoded hash with the digest of the file as `compareOne` does. -/
def examineOne (job : VerifyJob) (expected : Bytes) (hash : Hash) (digest : Bytes) (tried : Nat)
    (goOn : Nat → Examination) : Examination where
  run := job.compareOne expected hash digest tried fun tried => (goOn tried).run
  examined := if expected = digest then [hash] else hash :: (goOn (tried + 1)).examined

/-- Walk through hashes as `compareAll` does.  A hash is examined once its type has turned out to be
that of the algorithm. -/
def examineAll (job : VerifyJob) : (known : Option Bytes) → (tried skipped : Nat) → List Hash →
    Examination
  | _, tried, skipped, [] => ⟨job.mismatch tried skipped, []⟩
  | known, tried, skipped, hash :: rest =>
    if HashType.ofName hash.type ≠ .supported job.algorithm then
      job.examineAll known tried skipped rest
    else if Hex.isDigest hash.value job.algorithm.digestLength = false then
      let others := job.examineAll known tried (skipped + 1) rest
      ⟨.afterRecord .debug (skipMessage hash) others.run, hash :: others.examined⟩
    else
      match Hex.decode hash.value with
      | .error fault => ⟨.failed (.hex fault), [hash]⟩
      | .ok expected =>
        match known with
        | some digest => job.examineOne expected hash digest tried fun tried =>
            job.examineAll known tried skipped rest
        | none =>
          match job.digester job.path job.algorithm.canonicalName with
          | (.error failure, log) =>
            ⟨⟨.error failure, [.called job.path job.algorithm.canonicalName log]⟩, [hash]⟩
          | (.ok digest, log) =>
            let others := job.examineOne expected hash digest tried fun tried =>
              job.examineAll (some digest) tried skipped rest
            ⟨.after (.called job.path job.algorithm.canonicalName log) others.run, others.examined⟩

/-- Noting what is examined does not change the walk. -/
theorem run_examineAll (job : VerifyJob) (known : Option Bytes) (tried skipped : Nat)
    (hashes : List Hash) :
    (job.examineAll known tried skipped hashes).run =
      job.compareAll known tried skipped hashes := by
  induction hashes generalizing known tried skipped with
  | nil => rfl
  | cons hash rest ih =>
    rw [examineAll, compareAll]
    split
    · exact ih known tried skipped
    · split
      · simp only [ih]
      · cases Hex.decode hash.value with
        | error fault => rfl
        | ok expected =>
          cases known with
          | some digest => simp only [examineOne, ih]
          | none =>
            rcases job.digester job.path job.algorithm.canonicalName with ⟨result, log⟩
            cases result with
            | error failure => rfl
            | ok digest => simp only [examineOne, ih]

end VerifyJob

/-- Verify a file as `verify` does, and note the hashes that are examined. -/
def examine (digester : Digester) (path : Path) (hashes : List Hash) : Examination :=
  match selectBest hashes with
  | .error e => ⟨.failed e, []⟩
  | .ok algorithm =>
    let walk := VerifyJob.examineAll ⟨digester, path, algorithm⟩ none 0 0 hashes
    ⟨.afterRecord .debug
      ("Selected " ++ algorithm.canonicalName ++ " for verifying " ++ path.name) walk.run,
      walk.examined⟩

/-- Noting what is examined does not change a verification. -/
theorem run_examine (digester : Digester) (path : Path) (hashes : List Hash) :
    (examine digester path hashes).run = verify digester path hashes := by
  unfold examine verify
  cases selectBest hashes with
  | error e => rfl
  | ok algorithm => simp only [VerifyJob.run_examineAll]

/-! ## What is examined -/

/-- A candidate ends the walk: it is well-formed, and denotes the digest of the file if there is
one. -/
def Hash.Ends (a : Algorithm) (answer : Except Failure Bytes) (h : Hash) : Prop :=
  h.IsWellFormed a ∧ ∀ digest ∈ answer.toOption, h.Denotes digest

instance (a : Algorithm) (answer : Except Failure Bytes) (h : Hash) :
    Decidable (h.Ends a answer) :=
  inferInstanceAs (Decidable (_ ∧ ∀ digest ∈ _, _))

/-- The candidates up to the first one that ends the walk. -/
def examinedOf (a : Algorithm) (answer : Except Failure Bytes) (hashes : List Hash) : List Hash :=
  (candidates a hashes).take (((candidates a hashes).findIdx fun h => h.Ends a answer) + 1)

/-- A hash of another algorithm is not examined. -/
theorem examinedOf_cons_of_ne {a : Algorithm} {h : Hash} (hne : h.algorithm? ≠ some a)
    (answer : Except Failure Bytes) (rest : List Hash) :
    examinedOf a answer (h :: rest) = examinedOf a answer rest := by
  rw [examinedOf, candidates_cons_of_ne hne, examinedOf]

/-- A candidate is examined, and the others after it unless it ends the walk. -/
theorem examinedOf_cons_of_eq {a : Algorithm} {h : Hash} (heq : h.algorithm? = some a)
    (answer : Except Failure Bytes) (rest : List Hash) :
    examinedOf a answer (h :: rest) =
      h :: if h.Ends a answer then [] else examinedOf a answer rest := by
  rw [examinedOf, candidates_cons_of_eq heq, List.findIdx_cons]
  by_cases hends : h.Ends a answer
  · simp [hends]
  · simp [hends, examinedOf]

namespace VerifyJob

/-- The walk examines the candidates from the first one on, up to one that ends it. -/
theorem examined_examineAll (job : VerifyJob) (known : Option Bytes) (tried skipped : Nat)
    (hashes : List Hash) :
    (job.examineAll known tried skipped hashes).examined =
      examinedOf job.algorithm (job.answer known) hashes := by
  induction hashes using candidate_induction job.algorithm generalizing known tried skipped with
  | nil => rfl
  | other h rest hne ih =>
    have htype : HashType.ofName h.type ≠ .supported job.algorithm :=
      fun heq => hne ((Hash.algorithm?_eq_some_iff _ _).2 heq)
    rw [examineAll, if_pos htype, ih, examinedOf_cons_of_ne hne]
  | malformed h rest heq hbad ih =>
    have htype : HashType.ofName h.type = .supported job.algorithm :=
      (Hash.algorithm?_eq_some_iff _ _).1 heq
    have hvalue : Hex.isDigest h.value job.algorithm.digestLength = false :=
      Bool.eq_false_of_not_eq_true hbad
    have hgoesOn : ¬ h.Ends job.algorithm (job.answer known) := fun hends => hbad hends.1
    rw [examineAll, if_neg (not_not_intro htype), if_pos hvalue, examinedOf_cons_of_eq heq,
      if_neg hgoesOn]
    exact congrArg (h :: ·) (ih known tried (skipped + 1))
  | wellFormed h rest heq hgood ih =>
    obtain ⟨expected, hdenotes⟩ := hgood.exists_denotes
    have htype : HashType.ofName h.type = .supported job.algorithm :=
      (Hash.algorithm?_eq_some_iff _ _).1 heq
    have hvalue : ¬ Hex.isDigest h.value job.algorithm.digestLength = false := by
      rw [Bool.not_eq_false]
      exact hgood
    -- With a digest, the candidate ends the walk exactly if the two are the same.
    have hone : ∀ digest goOn, (∀ tried, (goOn tried).examined =
          examinedOf job.algorithm (.ok digest) rest) →
        (job.examineOne expected h digest tried goOn).examined =
          examinedOf job.algorithm (.ok digest) (h :: rest) := by
      intro digest goOn hgoOn
      have hends : h.Ends job.algorithm (.ok digest) ↔ expected = digest := by
        have hdecode : Hex.decode h.value = .ok expected := hdenotes
        simp [Hash.Ends, hgood, Except.toOption, Hash.Denotes, hdecode]
      rw [examineOne, examinedOf_cons_of_eq heq, hgoOn]
      simp only [hends]
      split <;> rfl
    rw [examineAll, if_neg (not_not_intro htype), if_neg hvalue, hdenotes]
    cases known with
    | some digest => exact hone digest _ fun tried => ih (some digest) tried skipped
    | none =>
      dsimp only
      rw [answer]
      rcases job.digester job.path job.algorithm.canonicalName with ⟨result, log⟩
      cases result with
      | error failure =>
        have hends : h.Ends job.algorithm (.error failure) := by
          simp [Hash.Ends, hgood, Except.toOption]
        rw [examinedOf_cons_of_eq heq, if_pos hends]
      | ok digest => exact hone digest _ fun tried => ih (some digest) tried skipped

end VerifyJob

/-- The hashes that a verification with an algorithm examines, among those that are usable: these
from the first one on, in document order, and all of them unless one matches or the digester
fails.  A mismatch accounts for all of them. -/
structure Examination.Covers (examination : Examination) (digester : Digester)
    (usable : List Hash) : Prop where
  initial : examination.examined <+: usable
  complete : examination.examined = usable ∨ (∃ v, examination.run.outcome = .ok v) ∨
    examination.run.DigesterFailed digester
  counted : ∀ file algorithm tried skipped, ¬ examination.run.DigesterFailed digester →
    examination.run.outcome = .error (.error (.checksumMismatch file algorithm tried skipped)) →
      tried + skipped = usable.length

/-- What is usable under the strongest algorithm is examined from the first hash on, and a mismatch
accounts for all of it. -/
theorem covers_candidates {digester : Digester} {path : Path} {hashes : List Hash}
    {a : Algorithm} (hselect : selectBest hashes = .ok a) :
    (examine digester path hashes).Covers digester (candidates a hashes) := by
  have hexamined : (examine digester path hashes).examined =
      examinedOf a (digester path a.canonicalName).1 hashes := by
    rw [examine, hselect]
    exact VerifyJob.examined_examineAll ⟨digester, path, a⟩ none 0 0 hashes
  have houtcome : (verify digester path hashes).outcome = (comparison digester path a hashes).1 :=
    congrArg Prod.fst (verify_of_selectBest hselect)
  refine ⟨?_, ?_, ?_⟩
  · rw [hexamined]
    exact List.take_prefix _ _
  · rw [hexamined, run_examine, digesterFailed_iff hselect, houtcome]
    by_cases hends : ∃ x ∈ candidates a hashes, x.Ends a (digester path a.canonicalName).1
    · obtain ⟨x, hx, hgood, hdenotes⟩ := hends
      refine .inr ?_
      cases hanswer : (digester path a.canonicalName).1 with
      | error failure => exact .inr ⟨⟨x, hx, hgood⟩, failure, rfl⟩
      | ok digest =>
        obtain ⟨hmem, halgorithm⟩ : x ∈ hashes ∧ x.algorithm? = some a := by
          simpa [candidates] using hx
        have hmatch : x.Denotes digest := hdenotes digest (by rw [hanswer]; rfl)
        obtain ⟨v, hv⟩ : ∃ v, firstMatch path a hashes digest = .ok v :=
          exists_firstMatch_iff.2 ⟨x, hmem, halgorithm, hgood, hmatch⟩
        exact .inl ⟨v, comparison_eq_ok_iff.2 ⟨digest, hanswer, hv⟩⟩
    · have hnone : (candidates a hashes).findIdx (fun x => x.Ends a
          (digester path a.canonicalName).1) = (candidates a hashes).length := by
        rw [List.findIdx_eq_length]
        simpa using hends
      refine .inl ?_
      rw [examinedOf, hnone, List.take_of_length_le (Nat.le_succ _)]
  · rw [run_examine, digesterFailed_iff hselect, houtcome]
    intro file algorithm tried skipped hdigester hmismatch
    have hle : (wellFormed a hashes).length ≤ (candidates a hashes).length :=
      List.length_filter_le _ _
    unfold comparison at hmismatch
    split at hmismatch
    · cases hmismatch
      omega
    · next hsome =>
      split at hmismatch
      · next failure hanswer =>
        have hreached : ∃ x ∈ candidates a hashes, x.IsWellFormed a := by
          simpa [wellFormed] using hsome
        exact absurd ⟨hreached, failure, hanswer⟩ hdigester
      · unfold firstMatch at hmismatch
        split at hmismatch
        · cases hmismatch
        · cases hmismatch
          omega

/-! ## Listing the hashes of an algorithm -/

namespace Document

variable (doc : Document)

/-- The hashes that were made with no supported algorithm, in document order. -/
def unsupported : List Hash :=
  doc.hashes.filter fun h => h.algorithm? = none

theorem mem_hashesOf_iff {a : Algorithm} {h : Hash} :
    h ∈ doc.hashesOf a ↔ h ∈ doc.hashes ∧ h.algorithm? = some a := by
  simp [hashesOf]

theorem hashesOf_eq_nil_iff {a : Algorithm} :
    doc.hashesOf a = [] ↔ ∀ h ∈ doc.hashes, h.algorithm? ≠ some a := by
  simp [hashesOf]

/-- The strongest algorithm is the one that has hashes while no stronger one has. -/
theorem isStrongest_iff_hashesOf {a : Algorithm} :
    IsStrongest a doc.hashes ↔
      doc.hashesOf a ≠ [] ∧ ∀ b, a.rank < b.rank → doc.hashesOf b = [] := by
  simp only [ne_eq, hashesOf_eq_nil_iff]
  constructor
  · rintro ⟨⟨h, hh, ha⟩, hgreatest⟩
    refine ⟨fun hnone => hnone h hh ha, ?_⟩
    intro b hlt x hx hb
    exact absurd (hgreatest x hx b hb) (Nat.not_le.2 hlt)
  · rintro ⟨hsome, hstronger⟩
    refine ⟨by simpa using hsome, ?_⟩
    intro x hx b hb
    exact Nat.not_lt.1 fun hlt => hstronger b hlt x hx hb

/-- The lists of hashes by algorithm and the list of all others divide the hashes of a document
among them: each is in document order, none has a hash of another one, and together they are all. -/
structure IsDivided : Prop where
  supported : ∀ a, (doc.hashesOf a).Sublist doc.hashes
  unsupported : doc.unsupported.Sublist doc.hashes
  apart : ∀ a b, a ≠ b → (doc.hashesOf a).Disjoint (doc.hashesOf b)
  others : ∀ a, (doc.hashesOf a).Disjoint doc.unsupported
  total : (Algorithm.all.flatMap doc.hashesOf ++ doc.unsupported).Perm doc.hashes

/-- The lists by algorithm divide the usable hashes among them. -/
theorem isDivided : doc.IsDivided where
  supported _ := List.filter_sublist
  unsupported := List.filter_sublist
  apart := by
    intro a b hne h ha hb
    rw [mem_hashesOf_iff] at ha hb
    exact hne (Option.some.inj (ha.2.symm.trans hb.2))
  others := by
    intro a h ha hnone
    rw [mem_hashesOf_iff] at ha
    have hnone : h.algorithm? = none := by simpa using (List.mem_filter.1 hnone).2
    exact absurd (ha.2.symm.trans hnone) (by simp)
  total := by
    rw [List.perm_iff_count]
    intro h
    have hcount : ∀ p : Hash → Bool,
        (doc.hashes.filter p).count h = if p h then doc.hashes.count h else 0 := by
      intro p
      split
      · next hp => exact List.count_filter hp
      · next hp => exact List.count_eq_zero.2 fun hmem => hp (List.mem_filter.1 hmem).2
    -- Only the list of its own algorithm has the hash, or the list of all others.
    simp only [Algorithm.all, hashesOf, Document.unsupported, List.flatMap_cons, List.flatMap_nil,
      List.count_append, List.count_nil, hcount]
    cases h.algorithm? with
    | none => simp
    | some a => cases a <;> simp

end Document

/-! ## Agreement -/

theorem algorithm?_of_type_eq_empty {h : Hash} (hempty : h.type = "") : h.algorithm? = none := by
  rw [Hash.algorithm?, (HashType.ofName_eq_unnamed_iff _).2 hempty]
  rfl

/-- What is usable is the same for a selection, for a verification and in the lists by algorithm.
If every hash has a type name, the algorithm selected is the strongest whose list is not empty, none
is selected if all lists are empty, and a verification examines the list of the one selected.  The
lists divide all hashes among them in any case; a hash without a type name makes every selection
fail, and is in no list of an algorithm. -/
theorem usable_hashes_agree (digester : Digester) (path : Path) (doc : Document) :
    (¬ HasUnnamed doc.hashes →
      (∀ a, selectBest doc.hashes = .ok a ↔
        doc.hashesOf a ≠ [] ∧ ∀ b, a.rank < b.rank → doc.hashesOf b = []) ∧
      (selectBest doc.hashes = .error .noUsableHash ↔ ∀ a, doc.hashesOf a = []) ∧
      (examine digester path doc.hashes).run = verify digester path doc.hashes ∧
      ∀ a, selectBest doc.hashes = .ok a →
        (examine digester path doc.hashes).Covers digester (doc.hashesOf a)) ∧
    doc.IsDivided ∧
    (HasUnnamed doc.hashes →
      selectBest doc.hashes = .error .emptyHashType ∧
        ∀ h ∈ doc.hashes, h.type = "" → ∀ a, h ∉ doc.hashesOf a) := by
  refine ⟨?_, doc.isDivided, ?_⟩
  · intro hnamed
    refine ⟨?_, ?_, run_examine _ _ _, fun a hselect => covers_candidates hselect⟩
    · intro a
      rw [selectBest_eq_ok_iff, ← Document.isStrongest_iff_hashesOf]
      exact and_iff_right hnamed
    · have hnone : (∀ h ∈ doc.hashes, h.algorithm? = none) ↔ ∀ a, doc.hashesOf a = [] := by
        simp only [Document.hashesOf_eq_nil_iff, Option.eq_none_iff_forall_ne_some]
        exact ⟨fun h a x hx => h x hx a, fun h x hx a => h a x hx⟩
      simp [selectBest_eq_error_iff, hnamed, hnone]
  · intro hunnamed
    refine ⟨(selectBest_eq_error_iff _ _).2 (.inl ⟨hunnamed, rfl⟩), ?_⟩
    intro h _ hempty a hmem
    have halgorithm := ((Document.mem_hashesOf_iff doc).1 hmem).2
    rw [algorithm?_of_type_eq_empty hempty] at halgorithm
    cases halgorithm

end Metalink
