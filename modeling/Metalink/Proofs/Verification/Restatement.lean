import Mathlib.Data.Set.Insert
import Mathlib.Logic.Relation
import Mathlib.Tactic.Common
import Metalink.Proofs.Verification.Acceptance

/-!
# Saying the same in other words

Whether a file is accepted does not depend on how its hashes are written down.  Of the hashes
of the strongest algorithm only the set of digests counts that they denote: their order, their
number, the case of their digits, the spelling of their types and malformed ones among them
show in the counters and the records of a run, but not in its verdict.  One more hash of that
algorithm can turn a rejection into an acceptance, never the reverse.

Main results:

- `failureKind?_verify`: the verdict as a function of the set of digests.
- `saysSame_of_restatement`: what a change of wording leaves alone, by the kind of change.
- `verdict_depends_on_denoted`: equal sets of digests come to equal verdicts, and so does any
  sequence of changes of wording.
-/

namespace Metalink

open Metalink.Digest

/-! ## Verdicts -/

/-- The kind of a failure: that of an error, or what escapes. -/
def Failure.kind : Failure → ErrorKind ⊕ Escape
  | .error e => .inl e.kind
  | .escape e => .inr e

namespace VerifyRun

/-- The file is accepted. -/
def IsAccepted (run : VerifyRun) : Prop :=
  ∃ v, run.outcome = .ok v

/-- The kind of failure of a run that does not accept the file. -/
def failureKind? (run : VerifyRun) : Option (ErrorKind ⊕ Escape) :=
  match run.outcome with
  | .ok _ => none
  | .error failure => some failure.kind

/-- A run without a kind of failure is one that is accepted. -/
theorem failureKind?_eq_none_iff (run : VerifyRun) : run.failureKind? = none ↔ run.IsAccepted := by
  unfold failureKind? IsAccepted
  cases run.outcome <;> simp

/-- Two runs accept the file or both do not, and then with failures of one kind. -/
structure SameVerdict (run other : VerifyRun) : Prop where
  accepted : run.IsAccepted ↔ other.IsAccepted
  kind : ∀ f g, run.outcome = .error f → other.outcome = .error g → f.kind = g.kind

/-- Runs with one kind of failure have the same verdict. -/
theorem sameVerdict_of_failureKind?_eq {run other : VerifyRun}
    (h : run.failureKind? = other.failureKind?) : run.SameVerdict other := by
  constructor
  · rw [← failureKind?_eq_none_iff, h, failureKind?_eq_none_iff]
  · intro f g hf hg
    simpa [failureKind?, hf, hg] using h

end VerifyRun

/-! ## The digests that count -/

/-- The digests that the well-formed hashes of an algorithm denote. -/
def denoted (a : Algorithm) (hashes : List Hash) : Set Bytes :=
  { digest | ∃ h ∈ wellFormed a hashes, h.Denotes digest }

section Denoted

variable {a : Algorithm} {h : Hash} {hashes : List Hash} {digest : Bytes}

theorem mem_denoted_iff :
    digest ∈ denoted a hashes ↔
      ∃ h ∈ hashes, h.algorithm? = some a ∧ h.IsWellFormed a ∧ h.Denotes digest := by
  simp only [denoted, Set.mem_ofPred_eq, mem_wellFormed_iff, and_assoc]

theorem denoted_eq_empty_iff : denoted a hashes = ∅ ↔ wellFormed a hashes = [] := by
  constructor
  · intro hempty
    rw [List.eq_nil_iff_forall_not_mem]
    intro h hh
    obtain ⟨digest, hdenotes⟩ := (mem_wellFormed_iff.1 hh).2.2.exists_denotes
    have hmem : digest ∈ denoted a hashes := ⟨h, hh, hdenotes⟩
    rw [hempty] at hmem
    exact hmem
  · intro hnil
    simp [denoted, hnil]

/-- Some hash matches a digest exactly if it is denoted. -/
theorem exists_firstMatch_iff_mem_denoted (path : Path) :
    (∃ v, firstMatch path a hashes digest = .ok v) ↔ digest ∈ denoted a hashes := by
  rw [exists_firstMatch_iff, mem_denoted_iff]

/-- Where no candidate matches, the failure is a mismatch. -/
theorem kind_of_firstMatch {path : Path} {failure : Failure}
    (hfailure : firstMatch path a hashes digest = .error failure) :
    failure.kind = .inl .checksumMismatch := by
  unfold firstMatch at hfailure
  cases hfind : (wellFormed a hashes).find? fun h => h.Denotes digest with
  | some h =>
    rw [hfind] at hfailure
    cases hfailure
  | none =>
    rw [hfind] at hfailure
    cases hfailure
    rfl

open Classical in
/-- The verdict is determined by the set of digests that the hashes of the strongest algorithm
denote, and by what the digester says of the file under that algorithm. -/
theorem failureKind?_verify (hstrongest : IsStrongest a hashes) (digester : Digester)
    (path : Path) :
    (verify digester path hashes).failureKind? =
      if HasUnnamed hashes then some (.inl .invalidParameter)
      else if denoted a hashes = ∅ then some (.inl .checksumMismatch)
      else
        match (digester path a.canonicalName).1 with
        | .error failure => some failure.kind
        | .ok digest =>
          if digest ∈ denoted a hashes then none else some (.inl .checksumMismatch) := by
  have houtcome : (verify digester path hashes).outcome = (declared digester path hashes).1 :=
    congrArg Prod.fst (verify_eq_declared digester path hashes)
  rw [VerifyRun.failureKind?, houtcome, declared]
  by_cases hunnamed : HasUnnamed hashes
  · rw [if_pos hunnamed, if_pos hunnamed]
    rfl
  rw [if_neg hunnamed, if_neg hunnamed, (strongest?_eq_some_iff _ _).2 hstrongest]
  simp only [comparison, denoted_eq_empty_iff]
  by_cases hnone : wellFormed a hashes = []
  · rw [if_pos hnone, if_pos hnone]
    rfl
  rw [if_neg hnone, if_neg hnone]
  cases (digester path a.canonicalName).1 with
  | error failure => rfl
  | ok digest =>
    simp only [← exists_firstMatch_iff_mem_denoted path]
    cases hmatch : firstMatch path a hashes digest with
    | ok v => simp
    | error failure => simp [kind_of_firstMatch hmatch]

end Denoted

/-! ## Changes of wording -/

/-- One change in the wording of hashes, of which some have the given algorithm: they come in
another order, a hash is given once more, a value is written in another letter case, a type is
spelled in another way, or a malformed hash of the algorithm comes in, or goes while another one
of the algorithm stays. -/
inductive Restatement (a : Algorithm) : List Hash → List Hash → Prop where
  | reorder {hashes other : List Hash} (hperm : hashes.Perm other) : Restatement a hashes other
  | duplicate (front : List Hash) (h : Hash) (back : List Hash) (hmem : h ∈ front ++ back) :
      Restatement a (front ++ back) (front ++ h :: back)
  | recase (front : List Hash) (h : Hash) (value : String) (back : List Hash)
      (hcase : Hex.SameLetters h.value value) :
      Restatement a (front ++ h :: back) (front ++ ⟨h.type, value⟩ :: back)
  | respell (front : List Hash) (h : Hash) (type : String) (back : List Hash)
      (htype : HashType.ofName h.type = HashType.ofName type) :
      Restatement a (front ++ h :: back) (front ++ ⟨type, h.value⟩ :: back)
  | addMalformed (front : List Hash) (h : Hash) (back : List Hash)
      (halgorithm : h.algorithm? = some a) (hbad : ¬ h.IsWellFormed a) :
      Restatement a (front ++ back) (front ++ h :: back)
  | dropMalformed (front : List Hash) (h : Hash) (back : List Hash)
      (halgorithm : h.algorithm? = some a) (hbad : ¬ h.IsWellFormed a)
      (hleft : ∃ k ∈ front ++ back, k.algorithm? = some a) :
      Restatement a (front ++ h :: back) (front ++ back)

/-- Two hashes have types that stand for the same, and values that denote the same. -/
structure Hash.Alike (h k : Hash) : Prop where
  type : HashType.ofName h.type = HashType.ofName k.type
  wellFormed : ∀ a, h.IsWellFormed a ↔ k.IsWellFormed a
  denotes : ∀ digest, h.Denotes digest ↔ k.Denotes digest

namespace Hash.Alike

variable {h k : Hash}

theorem refl (h : Hash) : h.Alike h :=
  ⟨rfl, fun _ => Iff.rfl, fun _ => Iff.rfl⟩

theorem symm (halike : h.Alike k) : k.Alike h :=
  ⟨halike.type.symm, fun a => (halike.wellFormed a).symm,
    fun digest => (halike.denotes digest).symm⟩

theorem algorithm?_eq (halike : h.Alike k) : h.algorithm? = k.algorithm? := by
  unfold Hash.algorithm?
  rw [halike.type]

/-- Hashes are alike if only the letter case of their values differs. -/
theorem of_sameLetters {type value other : String} (hcase : Hex.SameLetters value other) :
    Hash.Alike ⟨type, value⟩ ⟨type, other⟩ where
  type := rfl
  wellFormed a := by
    unfold IsWellFormed
    rw [hcase.isDigest_eq]
  denotes _ := hcase.decode_eq_ok_iff

/-- Hashes are alike if only the spelling of their types differs. -/
theorem of_ofName_eq {type other value : String}
    (htype : HashType.ofName type = HashType.ofName other) :
    Hash.Alike ⟨type, value⟩ ⟨other, value⟩ :=
  ⟨htype, fun _ => Iff.rfl, fun _ => Iff.rfl⟩

end Hash.Alike

theorem mem_middle_iff {α : Type} {x y : α} {front back : List α} :
    x ∈ front ++ y :: back ↔ x = y ∨ x ∈ front ++ back := by
  rw [List.perm_middle.mem_iff, List.mem_cons]

/-- Every hash has one like it among others. -/
def Covers (hashes other : List Hash) : Prop :=
  ∀ h ∈ hashes, ∃ k ∈ other, h.Alike k

/-- A list covers all that it contains. -/
theorem covers_of_subset {hashes other : List Hash} (hsubset : hashes ⊆ other) :
    Covers hashes other :=
  fun h hh => ⟨h, hsubset hh, .refl h⟩

/-- A list covers another one in which a hash is replaced by one that is alike. -/
theorem covers_of_alike {h k : Hash} (halike : h.Alike k) (front back : List Hash) :
    Covers (front ++ h :: back) (front ++ k :: back) := by
  intro x hx
  rcases mem_middle_iff.1 hx with rfl | hrest
  · exact ⟨k, mem_middle_iff.2 (.inl rfl), halike⟩
  · exact ⟨x, mem_middle_iff.2 (.inr hrest), .refl x⟩

/-- Hashes say the same as others, of which an algorithm is the strongest: all have a type or
some in both have none, the strongest algorithm is the same, and so are the digests that are
denoted. -/
structure SaysSame (a : Algorithm) (hashes other : List Hash) : Prop where
  unnamed : HasUnnamed hashes ↔ HasUnnamed other
  strongest : IsStrongest a other
  denoted : denoted a hashes = denoted a other

section Same

variable {a : Algorithm} {hashes other : List Hash}

/-- A list that covers another one has a hash without a type if that one has. -/
theorem Covers.hasUnnamed (hcovers : Covers hashes other) (hunnamed : HasUnnamed hashes) :
    HasUnnamed other := by
  obtain ⟨h, hh, hempty⟩ := hunnamed
  obtain ⟨k, hk, halike⟩ := hcovers h hh
  refine ⟨k, hk, ?_⟩
  rw [← HashType.ofName_eq_unnamed_iff] at hempty ⊢
  rw [← halike.type, hempty]

/-- It denotes all digests that the other one denotes. -/
theorem Covers.denoted_subset (hcovers : Covers hashes other) :
    Metalink.denoted a hashes ⊆ Metalink.denoted a other := by
  intro digest hdigest
  obtain ⟨h, hh, halgorithm, hgood, hdenotes⟩ := mem_denoted_iff.1 hdigest
  obtain ⟨k, hk, halike⟩ := hcovers h hh
  rw [mem_denoted_iff]
  exact ⟨k, hk, halike.algorithm?_eq ▸ halgorithm, (halike.wellFormed a).1 hgood,
    (halike.denotes digest).1 hdenotes⟩

/-- Hashes that cover each other say the same. -/
theorem saysSame_of_covers (hstrongest : IsStrongest a hashes) (hthere : Covers hashes other)
    (hback : Covers other hashes) : SaysSame a hashes other where
  unnamed := ⟨hthere.hasUnnamed, hback.hasUnnamed⟩
  strongest := by
    constructor
    · obtain ⟨h, hh, halgorithm⟩ := hstrongest.announced
      obtain ⟨k, hk, halike⟩ := hthere h hh
      exact ⟨k, hk, halike.algorithm?_eq ▸ halgorithm⟩
    · intro k hk b hb
      obtain ⟨h, hh, halike⟩ := hback k hk
      exact hstrongest.greatest h hh b (halike.algorithm?_eq ▸ hb)
  denoted := Set.Subset.antisymm hthere.denoted_subset hback.denoted_subset

/-! ## One more hash of the strongest algorithm -/

variable {front back : List Hash} {h : Hash}

/-- One more hash adds what it denotes. -/
theorem denoted_insert :
    denoted a (front ++ h :: back) = denoted a [h] ∪ denoted a (front ++ back) := by
  ext digest
  simp only [Set.mem_union, mem_denoted_iff, mem_middle_iff, List.mem_singleton, or_and_right,
    exists_or]

theorem denoted_singleton_eq_empty (hbad : ¬ h.IsWellFormed a) : denoted a [h] = ∅ := by
  rw [Set.eq_empty_iff_forall_notMem]
  intro digest hdigest
  obtain ⟨k, hk, -, hgood, -⟩ := mem_denoted_iff.1 hdigest
  rw [List.mem_singleton.1 hk] at hgood
  exact hbad hgood

/-- A hash of an algorithm is none without a type. -/
theorem hasUnnamed_insert_iff (halgorithm : h.algorithm? = some a) :
    HasUnnamed (front ++ h :: back) ↔ HasUnnamed (front ++ back) := by
  have hnamed : h.type ≠ "" := by
    intro hempty
    rw [Hash.algorithm?_eq_some_iff, (HashType.ofName_eq_unnamed_iff _).2 hempty] at halgorithm
    cases halgorithm
  simp only [HasUnnamed, mem_middle_iff, or_and_right, exists_or, exists_eq_left, hnamed,
    false_or]

/-- One more hash of the strongest algorithm leaves it the strongest. -/
theorem isStrongest_insert (halgorithm : h.algorithm? = some a)
    (hstrongest : IsStrongest a (front ++ back)) : IsStrongest a (front ++ h :: back) := by
  constructor
  · exact ⟨h, mem_middle_iff.2 (.inl rfl), halgorithm⟩
  · intro k hk b hb
    rcases mem_middle_iff.1 hk with rfl | hrest
    · rw [halgorithm] at hb
      cases hb
      exact le_rfl
    · exact hstrongest.greatest k hrest b hb

/-- So does one less, if another one is left. -/
theorem isStrongest_delete (hleft : ∃ k ∈ front ++ back, k.algorithm? = some a)
    (hstrongest : IsStrongest a (front ++ h :: back)) : IsStrongest a (front ++ back) := by
  refine ⟨hleft, ?_⟩
  intro k hk b hb
  exact hstrongest.greatest k (mem_middle_iff.2 (.inr hk)) b hb

/-! ## Wording does not count -/

/-- One change of wording leaves what is said as it was. -/
theorem saysSame_of_restatement (hstrongest : IsStrongest a hashes)
    (hchange : Restatement a hashes other) : SaysSame a hashes other := by
  cases hchange with
  | reorder hperm =>
    exact saysSame_of_covers hstrongest (covers_of_subset hperm.subset)
      (covers_of_subset hperm.symm.subset)
  | duplicate front h back hmem =>
    refine saysSame_of_covers hstrongest (covers_of_subset ?_) (covers_of_subset ?_)
    · intro k hk
      exact mem_middle_iff.2 (.inr hk)
    · intro k hk
      rcases mem_middle_iff.1 hk with rfl | hrest
      · exact hmem
      · exact hrest
  | recase front h value back hcase =>
    have halike : h.Alike ⟨h.type, value⟩ := .of_sameLetters hcase
    exact saysSame_of_covers hstrongest (covers_of_alike halike front back)
      (covers_of_alike halike.symm front back)
  | respell front h type back htype =>
    have halike : h.Alike ⟨type, h.value⟩ := .of_ofName_eq htype
    exact saysSame_of_covers hstrongest (covers_of_alike halike front back)
      (covers_of_alike halike.symm front back)
  | addMalformed front h back halgorithm hbad =>
    refine ⟨(hasUnnamed_insert_iff halgorithm).symm, isStrongest_insert halgorithm hstrongest, ?_⟩
    rw [denoted_insert, denoted_singleton_eq_empty hbad, Set.empty_union]
  | dropMalformed front h back halgorithm hbad hleft =>
    refine ⟨hasUnnamed_insert_iff halgorithm, isStrongest_delete hleft hstrongest, ?_⟩
    rw [denoted_insert, denoted_singleton_eq_empty hbad, Set.empty_union]

/-- Any sequence of changes of wording does so. -/
theorem saysSame_of_restatements (hstrongest : IsStrongest a hashes)
    (hchanges : Relation.ReflTransGen (Restatement a) hashes other) :
    SaysSame a hashes other := by
  induction hchanges with
  | refl => exact ⟨Iff.rfl, hstrongest, rfl⟩
  | tail _ hchange ih =>
    have hstep := saysSame_of_restatement ih.strongest hchange
    exact ⟨ih.unnamed.trans hstep.unnamed, hstep.strongest, ih.denoted.trans hstep.denoted⟩

/-- Hashes that say the same come to the same verdict. -/
theorem SaysSame.sameVerdict (hsame : SaysSame a hashes other)
    (hstrongest : IsStrongest a hashes) (digester : Digester) (path : Path) :
    (verify digester path hashes).SameVerdict (verify digester path other) := by
  apply VerifyRun.sameVerdict_of_failureKind?_eq
  rw [failureKind?_verify hstrongest, failureKind?_verify hsame.strongest, hsame.denoted]
  simp only [hsame.unnamed]

/-- A file is accepted exactly if its digest is denoted by the strongest algorithm, and no type
is empty. -/
theorem isAccepted_iff (hstrongest : IsStrongest a hashes) (digester : Digester) (path : Path) :
    (verify digester path hashes).IsAccepted ↔
      ¬ HasUnnamed hashes ∧
        ∃ digest ∈ denoted a hashes, (digester path a.canonicalName).1 = .ok digest := by
  rw [← VerifyRun.failureKind?_eq_none_iff, failureKind?_verify hstrongest]
  by_cases hunnamed : HasUnnamed hashes
  · simp [hunnamed]
  by_cases hempty : denoted a hashes = ∅
  · simp [hunnamed, hempty]
  simp only [hunnamed, hempty, if_false, not_false_eq_true, true_and]
  cases (digester path a.canonicalName).1 <;> simp

end Same

/-- The verdict on a file depends on its hashes only through the strongest algorithm and the set
of digests that are denoted under it.  So no change of wording shows in it, nor does any
sequence of them; and one more hash of that algorithm turns no acceptance into a rejection. -/
theorem verdict_depends_on_denoted (digester : Digester) (path : Path) (a : Algorithm)
    (hashes : List Hash) (hstrongest : IsStrongest a hashes) :
    (∀ other, ¬ HasUnnamed hashes → ¬ HasUnnamed other → IsStrongest a other →
        denoted a hashes = denoted a other →
        (verify digester path hashes).SameVerdict (verify digester path other)) ∧
      (∀ other, Relation.ReflTransGen (Restatement a) hashes other →
        (verify digester path hashes).SameVerdict (verify digester path other)) ∧
      ∀ front h back, hashes = front ++ back → h.algorithm? = some a →
        (verify digester path hashes).IsAccepted →
          (verify digester path (front ++ h :: back)).IsAccepted := by
  refine ⟨?_, ?_, ?_⟩
  · intro other hnamed hother hstrongest' hdenoted
    have hsame : SaysSame a hashes other :=
      ⟨iff_of_false hnamed hother, hstrongest', hdenoted⟩
    exact hsame.sameVerdict hstrongest digester path
  · intro other hchanges
    exact (saysSame_of_restatements hstrongest hchanges).sameVerdict hstrongest digester path
  · rintro front h back rfl halgorithm haccepted
    obtain ⟨hnamed, digest, hdigest, hdigester⟩ :=
      (isAccepted_iff hstrongest digester path).1 haccepted
    rw [isAccepted_iff (isStrongest_insert halgorithm hstrongest),
      hasUnnamed_insert_iff halgorithm, denoted_insert]
    exact ⟨hnamed, digest, Set.mem_union_right _ hdigest, hdigester⟩

/-- A hash in capitals beside a malformed one: written in small letters, under the other spelling
of its type and alone; given twice, with a weaker one; and joined by one of other bytes. -/
theorem reworded_hashes_same_verdict :
    let capital := "AAAAAAAAAAAAAAAAAAAAAAAAAAAAAAAAAAAAAAAA"
    let small := "aaaaaaaaaaaaaaaaaaaaaaaaaaaaaaaaaaaaaaaa"
    let hashes : List Hash := [⟨"sha1", capital⟩, ⟨"sha1", "x"⟩]
    let reworded : List Hash := [⟨"sha-1", small⟩]
    let repeated : List Hash := [⟨"md5", "0"⟩, ⟨"sha1", small⟩, ⟨"sha-1", capital⟩]
    let joined : List Hash := [⟨"sha1", capital⟩, ⟨"sha1", "x"⟩,
      ⟨"sha1", "bbbbbbbbbbbbbbbbbbbbbbbbbbbbbbbbbbbbbbbb"⟩]
    let fixed : Digester := fun _ _ => (.ok (List.replicate 20 0xaa), [])
    IsStrongest .sha1 hashes ∧
      (∀ digester path,
        (verify digester path hashes).SameVerdict (verify digester path reworded)) ∧
      (∀ digester path,
        (verify digester path hashes).SameVerdict (verify digester path repeated)) ∧
      ∀ path, (verify fixed path hashes).IsAccepted ∧ (verify fixed path joined).IsAccepted := by
  intro capital small hashes reworded repeated joined fixed
  have hstrongest : IsStrongest .sha1 hashes :=
    (strongest?_eq_some_iff hashes .sha1).1 (by decide)
  have hdenoted : denoted .sha1 hashes = denoted .sha1 repeated := by
    have hfirst : wellFormed .sha1 hashes = [⟨"sha1", capital⟩] := by decide
    have hsecond : wellFormed .sha1 repeated = [⟨"sha1", small⟩, ⟨"sha-1", capital⟩] := by decide
    have hcase : Hex.SameLetters small capital := by decide
    ext digest
    simp [denoted, hfirst, hsecond, Hash.Denotes, hcase.decode_eq_ok_iff]
  refine ⟨hstrongest, ?_, ?_, ?_⟩
  · intro digester path
    obtain ⟨-, hwording, -⟩ := verdict_depends_on_denoted digester path .sha1 hashes hstrongest
    apply hwording
    refine .head (.recase [] ⟨"sha1", capital⟩ small [⟨"sha1", "x"⟩] (by decide)) ?_
    refine .head (.respell [] ⟨"sha1", small⟩ "sha-1" [⟨"sha1", "x"⟩] (by decide)) ?_
    exact .single (.dropMalformed reworded ⟨"sha1", "x"⟩ [] (by decide) (by decide)
      ⟨⟨"sha-1", small⟩, List.mem_singleton_self _, by decide⟩)
  · intro digester path
    obtain ⟨hset, -, -⟩ := verdict_depends_on_denoted digester path .sha1 hashes hstrongest
    exact hset repeated (by decide) (by decide)
      ((strongest?_eq_some_iff repeated .sha1).1 (by decide)) hdenoted
  · intro path
    have haccepted : (verify fixed path hashes).IsAccepted :=
      (isAccepted_iff hstrongest fixed path).2
        ⟨by decide, List.replicate 20 0xaa, ⟨⟨"sha1", capital⟩, by decide, by decide⟩, rfl⟩
    obtain ⟨-, -, hmore⟩ := verdict_depends_on_denoted fixed path .sha1 hashes hstrongest
    exact ⟨haccepted, hmore hashes ⟨"sha1", "bbbbbbbbbbbbbbbbbbbbbbbbbbbbbbbbbbbbbbbb"⟩ []
      (List.append_nil _).symm (by decide) haccepted⟩

end Metalink
