import Mathlib.Data.List.Sort
import Mathlib.Tactic.Common
import Metalink.Document

/-!
# The order of mirrors

Mirrors are put in order by insertion from the back.  This is the insertion sort of the library
for a relation that is total and transitive but lets different mirrors tie, so order alone does
not determine the result.  What does is order together with stability: the mirrors of each single
preference stay as they are.

Main results:

- `byPreference_eq_insertionSort`: the order of mirrors is an insertion sort.
- `withPreference_byPreference`: it keeps the mirrors of every preference in document order.
- `eq_of_withPreference_eq`: a descending list is determined by its mirrors of each preference.
- `byPreference_is_the_stable_order`: the order of mirrors is the only descending and stable one,
  and depends on nothing but the mirrors of each preference.
-/

namespace Metalink

/-! ## Lists of mirrors -/

/-- A mirror is preferred to another one at least as much as the other to it. -/
def Mirror.NotBelow (a b : Mirror) : Prop :=
  b.preference ≤ a.preference

namespace Mirror.NotBelow

instance : DecidableRel Mirror.NotBelow := fun a b =>
  inferInstanceAs (Decidable (b.preference ≤ a.preference))

instance : Std.Total Mirror.NotBelow where
  total a b := Int.le_total b.preference a.preference

instance : IsTrans Mirror Mirror.NotBelow where
  trans _ _ _ hab hbc := Int.le_trans hbc hab

end Mirror.NotBelow

/-- The mirrors of one preference, in the order of the list. -/
def withPreference (p : Int) (mirrors : List Mirror) : List Mirror :=
  mirrors.filter fun m => m.preference = p

/-- The mirrors of another list, none lost or made up, in an order in which preferences never
increase and equal ones keep their places. -/
structure IsStableOrderOf (ordered mirrors : List Mirror) : Prop where
  perm : ordered.Perm mirrors
  descending : ordered.Pairwise Mirror.NotBelow
  stable : ∀ p, withPreference p ordered = withPreference p mirrors

section Lists

variable {m : Mirror} {mirrors others : List Mirror} {p : Int}

theorem mem_withPreference : m ∈ withPreference p mirrors ↔ m ∈ mirrors ∧ m.preference = p := by
  simp [withPreference]

theorem withPreference_cons_self :
    withPreference m.preference (m :: mirrors) = m :: withPreference m.preference mirrors :=
  List.filter_cons_of_pos (by simp)

theorem withPreference_cons_of_ne (h : m.preference ≠ p) :
    withPreference p (m :: mirrors) = withPreference p mirrors :=
  List.filter_cons_of_neg (by simpa using h)

/-- Mirrors of one preference are in order, however they stand. -/
theorem pairwise_withPreference (p : Int) (mirrors : List Mirror) :
    (withPreference p mirrors).Pairwise Mirror.NotBelow := by
  refine List.pairwise_of_forall_mem_list ?_
  intro a ha b hb
  exact ((mem_withPreference.1 hb).2.trans (mem_withPreference.1 ha).2.symm).le

/-- Lists with the same mirrors of each preference have the same mirrors. -/
theorem mem_iff_of_withPreference_eq
    (h : ∀ p, withPreference p mirrors = withPreference p others) (m : Mirror) :
    m ∈ mirrors ↔ m ∈ others := by
  have hgroup := congrArg (m ∈ ·) (h m.preference)
  simpa [mem_withPreference] using hgroup

/-- The mirror in front is determined by the mirrors of each preference: it is preferred to all
others, and is the first one with its preference. -/
theorem head_eq_of_withPreference_eq {n : Mirror}
    (hm : (m :: mirrors).Pairwise Mirror.NotBelow) (hn : (n :: others).Pairwise Mirror.NotBelow)
    (h : ∀ p, withPreference p (m :: mirrors) = withPreference p (n :: others)) : m = n := by
  have hnm : n.preference ≤ m.preference := by
    rcases List.mem_cons.1 ((mem_iff_of_withPreference_eq h n).2 List.mem_cons_self) with
      rfl | hmem
    · exact le_rfl
    · exact List.rel_of_pairwise_cons hm hmem
  have hmn : m.preference ≤ n.preference := by
    rcases List.mem_cons.1 ((mem_iff_of_withPreference_eq h m).1 List.mem_cons_self) with
      rfl | hmem
    · exact le_rfl
    · exact List.rel_of_pairwise_cons hn hmem
  have hsame : n.preference = m.preference := le_antisymm hnm hmn
  have hgroup := h m.preference
  rw [withPreference_cons_self, ← hsame, withPreference_cons_self] at hgroup
  exact (List.cons.inj hgroup).1

/-- A descending list is determined by its mirrors of each preference. -/
theorem eq_of_withPreference_eq (hmirrors : mirrors.Pairwise Mirror.NotBelow)
    (hothers : others.Pairwise Mirror.NotBelow)
    (h : ∀ p, withPreference p mirrors = withPreference p others) : mirrors = others := by
  induction mirrors generalizing others with
  | nil =>
    refine (List.eq_nil_iff_forall_not_mem.2 ?_).symm
    intro m hm
    exact List.not_mem_nil ((mem_iff_of_withPreference_eq h m).2 hm)
  | cons m rest ih =>
    cases others with
    | nil => exact absurd ((mem_iff_of_withPreference_eq h m).1 List.mem_cons_self) List.not_mem_nil
    | cons n after =>
      obtain rfl := head_eq_of_withPreference_eq hmirrors hothers h
      have hrest : ∀ p, withPreference p rest = withPreference p after := by
        intro p
        have hgroup := h p
        by_cases hp : m.preference = p
        · subst hp
          rw [withPreference_cons_self, withPreference_cons_self] at hgroup
          exact (List.cons.inj hgroup).2
        · rwa [withPreference_cons_of_ne hp, withPreference_cons_of_ne hp] at hgroup
      rw [ih hmirrors.of_cons hothers.of_cons hrest]

end Lists

/-! ## The mirrors of a document -/

namespace Document

/-- Inserting by preference is inserting into an ordered list. -/
theorem insertByPreference_eq_orderedInsert (m : Mirror) (mirrors : List Mirror) :
    insertByPreference m mirrors = mirrors.orderedInsert Mirror.NotBelow m := by
  induction mirrors with
  | nil => rfl
  | cons x rest ih =>
    rw [insertByPreference, List.orderedInsert_cons, ih]
    rfl

/-- The order of mirrors is an insertion sort. -/
theorem byPreference_eq_insertionSort (doc : Document) :
    doc.byPreference = doc.mirrors.insertionSort Mirror.NotBelow := by
  have hinsert : insertByPreference = List.orderedInsert Mirror.NotBelow := by
    funext m mirrors
    exact insertByPreference_eq_orderedInsert m mirrors
  rw [byPreference, hinsert]
  rfl

/-- Ordering loses no mirror and makes none up. -/
theorem byPreference_perm (doc : Document) : doc.byPreference.Perm doc.mirrors := by
  rw [byPreference_eq_insertionSort]
  exact List.perm_insertionSort _ _

/-- The order by preference never increases. -/
theorem pairwise_byPreference (doc : Document) :
    doc.byPreference.Pairwise Mirror.NotBelow := by
  rw [byPreference_eq_insertionSort]
  exact List.pairwise_insertionSort _ _

/-- Mirrors with equal preference stay in document order. -/
theorem withPreference_byPreference (doc : Document) (p : Int) :
    withPreference p doc.byPreference = withPreference p doc.mirrors := by
  have hsublist : (withPreference p doc.mirrors).Sublist doc.byPreference := by
    rw [byPreference_eq_insertionSort]
    exact List.sublist_insertionSort (pairwise_withPreference p _) List.filter_sublist
  have hgroup : (withPreference p doc.mirrors).Sublist (withPreference p doc.byPreference) := by
    simpa only [withPreference, List.filter_filter, Bool.and_self] using
      hsublist.filter fun m => decide (m.preference = p)
  -- The one list has as many mirrors as the other, so none is missing.
  exact (hgroup.eq_of_length ((doc.byPreference_perm.filter _).length_eq).symm).symm

/-- The order by preference is a stable one. -/
theorem isStableOrderOf_byPreference (doc : Document) :
    IsStableOrderOf doc.byPreference doc.mirrors where
  perm := doc.byPreference_perm
  descending := doc.pairwise_byPreference
  stable := doc.withPreference_byPreference

/-- The order of mirrors is the only list of the document's mirrors in which preferences never
increase and equal ones stay in document order.  Ordering it again changes nothing, and two
documents have the same order exactly if they have the same mirrors of each preference, however
these are mixed.  The order is a list of its own, and the document is what it was. -/
theorem byPreference_is_the_stable_order (doc : Document) :
    (∀ ordered, IsStableOrderOf ordered doc.mirrors ↔ ordered = doc.byPreference) ∧
      ({ doc with mirrors := doc.byPreference } : Document).byPreference = doc.byPreference ∧
      ∀ other : Document, other.byPreference = doc.byPreference ↔
        ∀ p, withPreference p other.mirrors = withPreference p doc.mirrors := by
  have hsame : ∀ other : Document,
      (∀ p, withPreference p other.mirrors = withPreference p doc.mirrors) →
        other.byPreference = doc.byPreference := by
    intro other h
    refine eq_of_withPreference_eq other.pairwise_byPreference doc.pairwise_byPreference ?_
    intro p
    rw [withPreference_byPreference, withPreference_byPreference, h]
  refine ⟨fun ordered => ⟨fun h => ?_, ?_⟩, ?_, fun other => ⟨fun h p => ?_, hsame other⟩⟩
  · refine eq_of_withPreference_eq h.descending doc.pairwise_byPreference ?_
    intro p
    rw [h.stable, withPreference_byPreference]
  · rintro rfl
    exact doc.isStableOrderOf_byPreference
  · exact hsame _ doc.withPreference_byPreference
  · rw [← withPreference_byPreference, h, withPreference_byPreference]

end Document

end Metalink
