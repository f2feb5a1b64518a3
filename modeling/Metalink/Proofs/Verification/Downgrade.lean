import Mathlib.Logic.Relation
import Mathlib.Tactic.Common
import Metalink.Proofs.Verification.Candidates

/-!
# No downgrade

Hashes that are weaker than the strongest ones have no say in a verification, whoever puts them
there and wherever they stand.  Any number of changes among them leave the whole run as it was:
what is selected, what is compared, what the digester is asked for, and what is written.

The argument goes through the hashes that count.  One change leaves them alone, and therefore
any sequence of changes does; and a run with all hashes is the run with those that count.

Main results:

- `weighty_eq_of_weakEdit`: one change among weak hashes, by the kind of change.
- `verify_weighty`: only the hashes that count matter to a run.
- `verify_eq_of_weakEdits`: changes among weak hashes do not show.
-/

namespace Metalink

open Metalink.Digest

/-! ## Weak hashes -/

/-- A hash is weak beside an algorithm: it has a type, which is not supported or is that of a
weaker algorithm. -/
def Hash.IsWeak (a : Algorithm) (h : Hash) : Prop :=
  h.type ≠ "" ∧ ∀ b ∈ h.algorithm?, b.rank < a.rank

instance (a : Algorithm) (h : Hash) : Decidable (h.IsWeak a) :=
  inferInstanceAs (Decidable (_ ∧ _))

/-- One change among the hashes that are weak beside an algorithm, at any place.  All other
hashes stay, in their order. -/
inductive WeakEdit (a : Algorithm) : List Hash → List Hash → Prop where
  | insert (front : List Hash) (h : Hash) (back : List Hash) (hweak : h.IsWeak a) :
      WeakEdit a (front ++ back) (front ++ h :: back)
  | delete (front : List Hash) (h : Hash) (back : List Hash) (hweak : h.IsWeak a) :
      WeakEdit a (front ++ h :: back) (front ++ back)
  | rewrite (front : List Hash) (h k : Hash) (back : List Hash) (hh : h.IsWeak a)
      (hk : k.IsWeak a) : WeakEdit a (front ++ h :: back) (front ++ k :: back)
  | exchange (front : List Hash) (h : Hash) (middle : List Hash) (k : Hash) (back : List Hash)
      (hh : h.IsWeak a) (hk : k.IsWeak a) :
      WeakEdit a (front ++ h :: (middle ++ k :: back)) (front ++ k :: (middle ++ h :: back))

/-! ## Hashes that count -/

/-- The hashes that count beside an algorithm, in document order. -/
def weighty (a : Algorithm) (hashes : List Hash) : List Hash :=
  hashes.filter fun h => ¬ h.IsWeak a

section Weighty

variable {a : Algorithm} {h : Hash} {hashes other : List Hash}

theorem weighty_append (front back : List Hash) :
    weighty a (front ++ back) = weighty a front ++ weighty a back :=
  List.filter_append front back

theorem weighty_cons_of_isWeak (hweak : h.IsWeak a) (rest : List Hash) :
    weighty a (h :: rest) = weighty a rest :=
  List.filter_cons_of_neg (by simpa using hweak)

theorem mem_weighty_iff : h ∈ weighty a hashes ↔ h ∈ hashes ∧ ¬ h.IsWeak a := by
  simp [weighty]

/-- One change among weak hashes leaves the hashes that count as they are. -/
theorem weighty_eq_of_weakEdit (hedit : WeakEdit a hashes other) :
    weighty a other = weighty a hashes := by
  cases hedit with
  | insert front h back hweak =>
    rw [weighty_append, weighty_append, weighty_cons_of_isWeak hweak]
  | delete front h back hweak =>
    rw [weighty_append, weighty_append, weighty_cons_of_isWeak hweak]
  | rewrite front h k back hh hk =>
    rw [weighty_append, weighty_append, weighty_cons_of_isWeak hh, weighty_cons_of_isWeak hk]
  | exchange front h middle k back hh hk =>
    simp only [weighty_append, weighty_cons_of_isWeak hh, weighty_cons_of_isWeak hk]

/-- Any sequence of changes among weak hashes does so. -/
theorem weighty_eq_of_weakEdits (hedits : Relation.ReflTransGen (WeakEdit a) hashes other) :
    weighty a other = weighty a hashes := by
  induction hedits with
  | refl => rfl
  | tail _ hedit ih => rw [weighty_eq_of_weakEdit hedit, ih]

/-! ## What the hashes that count determine -/

theorem not_isWeak_of_unnamed (hunnamed : h.type = "") : ¬ h.IsWeak a :=
  fun hweak => hweak.1 hunnamed

theorem not_isWeak_of_algorithm (heq : h.algorithm? = some a) : ¬ h.IsWeak a :=
  fun hweak => absurd (hweak.2 a heq) (lt_irrefl a.rank)

/-- Leaving weak hashes out leaves those without a type. -/
theorem hasUnnamed_weighty_iff : HasUnnamed (weighty a hashes) ↔ HasUnnamed hashes := by
  constructor
  · rintro ⟨h, hh, hunnamed⟩
    exact ⟨h, (mem_weighty_iff.1 hh).1, hunnamed⟩
  · rintro ⟨h, hh, hunnamed⟩
    exact ⟨h, mem_weighty_iff.2 ⟨hh, not_isWeak_of_unnamed hunnamed⟩, hunnamed⟩

/-- It leaves the strongest algorithm as it is. -/
theorem isStrongest_weighty_iff : IsStrongest a (weighty a hashes) ↔ IsStrongest a hashes := by
  constructor
  · rintro ⟨⟨h, hh, heq⟩, hgreatest⟩
    refine ⟨⟨h, (mem_weighty_iff.1 hh).1, heq⟩, ?_⟩
    intro k hk b hb
    by_cases hweak : k.IsWeak a
    · exact le_of_lt (hweak.2 b hb)
    · exact hgreatest k (mem_weighty_iff.2 ⟨hk, hweak⟩) b hb
  · rintro ⟨⟨h, hh, heq⟩, hgreatest⟩
    refine ⟨⟨h, mem_weighty_iff.2 ⟨hh, not_isWeak_of_algorithm heq⟩, heq⟩, ?_⟩
    intro k hk b hb
    exact hgreatest k (mem_weighty_iff.1 hk).1 b hb

/-- It leaves all candidates. -/
theorem candidates_weighty : candidates a (weighty a hashes) = candidates a hashes := by
  unfold candidates weighty
  rw [List.filter_filter]
  apply List.filter_congr
  intro h _
  by_cases heq : h.algorithm? = some a
  · simp [heq, not_isWeak_of_algorithm heq]
  · simp [heq]

end Weighty

/-! ## Runs -/

/-- A run depends on the hashes through nothing but whether all have a type, which algorithm is
the strongest, and what its candidates are. -/
theorem verify_congr {a : Algorithm} {hashes other : List Hash} (digester : Digester)
    (path : Path) (hunnamed : HasUnnamed hashes ↔ HasUnnamed other)
    (hhashes : IsStrongest a hashes) (hother : IsStrongest a other)
    (hcandidates : candidates a hashes = candidates a other) :
    verify digester path hashes = verify digester path other := by
  have hselect : selectBest hashes = selectBest other := by
    rw [selectBest_eq, selectBest_eq, (strongest?_eq_some_iff _ _).2 hhashes,
      (strongest?_eq_some_iff _ _).2 hother]
    simp only [hunnamed]
  unfold verify
  rw [hselect]
  cases hbest : selectBest other with
  | error e => rfl
  | ok b =>
    obtain rfl : b = a := ((selectBest_eq_ok_iff _ _).1 hbest).2.unique hother
    have hwalk : (⟨digester, path, b⟩ : VerifyJob).compareAll none 0 0 hashes =
        (⟨digester, path, b⟩ : VerifyJob).compareAll none 0 0 other := by
      rw [← VerifyJob.compareAll_candidates, ← VerifyJob.compareAll_candidates _ _ _ _ other,
        hcandidates]
    simp only [hwalk]

/-- A run is the run with the hashes that count beside the strongest algorithm. -/
theorem verify_weighty {a : Algorithm} {hashes : List Hash} (h : IsStrongest a hashes)
    (digester : Digester) (path : Path) :
    verify digester path (weighty a hashes) = verify digester path hashes :=
  verify_congr digester path hasUnnamed_weighty_iff (isStrongest_weighty_iff.2 h) h
    candidates_weighty

/-- Changes among the hashes that are weak beside the strongest algorithm, as many as there may
be, leave a verification as it was: its outcome with everything in it, the calls of the digester
and all records, in their order. -/
theorem verify_eq_of_weakEdits (digester : Digester) (path : Path) (a : Algorithm)
    (hashes other : List Hash) (hstrongest : IsStrongest a hashes)
    (hedits : Relation.ReflTransGen (WeakEdit a) hashes other) :
    verify digester path other = verify digester path hashes := by
  have hsame : weighty a other = weighty a hashes := weighty_eq_of_weakEdits hedits
  have hother : IsStrongest a other := by
    rw [← isStrongest_weighty_iff, hsame]
    exact isStrongest_weighty_iff.2 hstrongest
  calc
    verify digester path other = verify digester path (weighty a other) :=
      (verify_weighty hother digester path).symm
    _ = verify digester path (weighty a hashes) := by rw [hsame]
    _ = verify digester path hashes := verify_weighty hstrongest digester path

/-- Two hashes of one strength, with weak ones around them that are deleted, rewritten, inserted
and exchanged. -/
theorem weak_hashes_do_not_show :
    let hashes : List Hash := [⟨"md5", "0"⟩, ⟨"sha256", "x"⟩, ⟨"sha3", "1"⟩, ⟨"sha-256", "y"⟩]
    let other : List Hash := [⟨"sha256", "x"⟩, ⟨"md5", "2"⟩, ⟨"sha-256", "y"⟩, ⟨"sha1", "3"⟩]
    IsStrongest .sha256 hashes ∧ Relation.ReflTransGen (WeakEdit .sha256) hashes other ∧
      ∀ digester path, verify digester path other = verify digester path hashes := by
  intro hashes other
  have hstrongest : IsStrongest .sha256 hashes :=
    (strongest?_eq_some_iff hashes .sha256).1 (by decide)
  have hedits : Relation.ReflTransGen (WeakEdit .sha256) hashes other := by
    refine .head (.delete [] ⟨"md5", "0"⟩ _ (by decide)) ?_
    refine .head (.rewrite [⟨"sha256", "x"⟩] ⟨"sha3", "1"⟩ ⟨"sha1", "3"⟩ _ (by decide)
      (by decide)) ?_
    refine .head (.insert [⟨"sha256", "x"⟩, ⟨"sha1", "3"⟩, ⟨"sha-256", "y"⟩] ⟨"md5", "2"⟩ []
      (by decide)) ?_
    exact .single (.exchange [⟨"sha256", "x"⟩] ⟨"sha1", "3"⟩ [⟨"sha-256", "y"⟩] ⟨"md5", "2"⟩ []
      (by decide) (by decide))
  refine ⟨hstrongest, hedits, ?_⟩
  intro digester path
  exact verify_eq_of_weakEdits digester path .sha256 hashes other hstrongest hedits

end Metalink
