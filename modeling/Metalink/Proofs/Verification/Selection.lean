import Mathlib.Data.List.MinMax
import Mathlib.Tactic.Common
import Metalink.Verification

/-!
# The best algorithm

A verification looks for the strongest algorithm in one pass over the hashes.  Here the
pass is compared with its meaning: a hash without a type name is an error wherever it
stands, and otherwise the pass finds the greatest rank among the algorithms that the
hashes are announced with.

Main results:

- `selectBest_eq`: the selection is the maximum, unless some type is empty or none is
  supported.
- `strongest?_eq_some_iff`: the maximum is an algorithm that some hash has and that no
  hash exceeds.
- `selectBest_eq_ok_iff`, `selectBest_eq_error_iff`: when a selection succeeds or fails, and with
  what.
-/

namespace Metalink

/-! ## Resolving type names -/

theorem HashType.ofName_eq_unnamed_iff (name : String) :
    HashType.ofName name = .unnamed ↔ name = "" := by
  unfold HashType.ofName
  by_cases hname : name = ""
  · simp [hname]
  · cases Algorithm.ofName? name <;> simp [hname]

/-- The algorithm of a hash is the one that its type stands for. -/
theorem Hash.algorithm?_eq_some_iff (h : Hash) (a : Algorithm) :
    h.algorithm? = some a ↔ HashType.ofName h.type = .supported a := by
  unfold Hash.algorithm?
  cases HashType.ofName h.type <;> simp [HashType.algorithm?]

/-- No two algorithms have one rank. -/
theorem Algorithm.rank_injective : Function.Injective Algorithm.rank := by
  intro a b h
  cases a <;> cases b <;> first | rfl | cases h

/-! ## The maximum -/

/-- Some hash has an empty type. -/
def HasUnnamed (hashes : List Hash) : Prop :=
  ∃ h ∈ hashes, h.type = ""

instance (hashes : List Hash) : Decidable (HasUnnamed hashes) :=
  inferInstanceAs (Decidable (∃ h ∈ hashes, _))

/-- The supported algorithms that hashes are announced with, in document order. -/
def announced (hashes : List Hash) : List Algorithm :=
  hashes.filterMap Hash.algorithm?

/-- The announced algorithm of the greatest rank, if any is supported. -/
def strongest? (hashes : List Hash) : Option Algorithm :=
  (announced hashes).argmax Algorithm.rank

/-- An algorithm is announced, and no announced one is stronger. -/
structure IsStrongest (a : Algorithm) (hashes : List Hash) : Prop where
  announced : ∃ h ∈ hashes, h.algorithm? = some a
  greatest : ∀ h ∈ hashes, ∀ b, h.algorithm? = some b → b.rank ≤ a.rank

/-- The maximum is the algorithm that is announced and that none exceeds. -/
theorem strongest?_eq_some_iff (hashes : List Hash) (a : Algorithm) :
    strongest? hashes = some a ↔ IsStrongest a hashes := by
  have hmem : ∀ b, b ∈ Metalink.announced hashes ↔ ∃ h ∈ hashes, h.algorithm? = some b := by
    intro b
    simp [Metalink.announced]
  unfold strongest?
  rw [List.argmax_eq_some_iff, hmem]
  constructor
  · rintro ⟨hannounced, hgreatest, -⟩
    refine ⟨hannounced, ?_⟩
    intro h hh b hb
    exact hgreatest b ((hmem b).2 ⟨h, hh, hb⟩)
  · rintro ⟨hannounced, hgreatest⟩
    refine ⟨hannounced, ?_, ?_⟩
    · intro b hb
      obtain ⟨h, hh, hb⟩ := (hmem b).1 hb
      exact hgreatest h hh b hb
    · -- Equal ranks are equal algorithms, so nothing depends on which comes first.
      intro b hb hle
      obtain ⟨h, hh, hb⟩ := (hmem b).1 hb
      have heq : b = a :=
        Algorithm.rank_injective (Nat.le_antisymm (hgreatest h hh b hb) hle)
      rw [heq]

/-- There is only one strongest algorithm. -/
theorem IsStrongest.unique {a b : Algorithm} {hashes : List Hash} (ha : IsStrongest a hashes)
    (hb : IsStrongest b hashes) : a = b := by
  rw [← strongest?_eq_some_iff] at ha hb
  exact Option.some.inj (ha.symm.trans hb)

/-- There is no strongest algorithm exactly if no hash has any. -/
theorem strongest?_eq_none_iff (hashes : List Hash) :
    strongest? hashes = none ↔ ∀ h ∈ hashes, h.algorithm? = none := by
  unfold strongest?
  rw [List.argmax_eq_none, announced, List.filterMap_eq_nil_iff]

/-! ## The pass -/

/-- The pass stops with an error at a hash without a type name, whatever stands before. -/
theorem strongestFrom_of_hasUnnamed {hashes : List Hash} (h : HasUnnamed hashes)
    (best : Option Algorithm) : strongestFrom best hashes = .error .emptyHashType := by
  induction hashes generalizing best with
  | nil =>
    obtain ⟨x, hx, -⟩ := h
    cases hx
  | cons first rest ih =>
    rw [strongestFrom]
    cases htype : HashType.ofName first.type with
    | unnamed => rfl
    | unsupported | supported =>
      have hfirst : first.type ≠ "" := by
        intro hempty
        rw [(HashType.ofName_eq_unnamed_iff _).2 hempty] at htype
        cases htype
      have hrest : HasUnnamed rest := by
        obtain ⟨x, hx, hempty⟩ := h
        rcases List.mem_cons.1 hx with rfl | hx
        · exact absurd hempty hfirst
        · exact ⟨x, hx, hempty⟩
      exact ih hrest _

/-- Where every hash has a type name, the pass keeps the maximum of what it has seen. -/
theorem strongestFrom_of_not_hasUnnamed {hashes : List Hash} (h : ¬ HasUnnamed hashes)
    (best : Option Algorithm) :
    strongestFrom best hashes =
      .ok ((announced hashes).foldl (List.argAux fun b c => c.rank < b.rank) best) := by
  induction hashes generalizing best with
  | nil => rfl
  | cons first rest ih =>
    have hfirst : first.type ≠ "" := fun hempty => h ⟨first, List.mem_cons_self, hempty⟩
    have hrest : ¬ HasUnnamed rest := by
      rintro ⟨x, hx, hempty⟩
      exact h ⟨x, List.mem_cons_of_mem _ hx, hempty⟩
    rw [strongestFrom]
    cases htype : HashType.ofName first.type with
    | unnamed => exact absurd ((HashType.ofName_eq_unnamed_iff _).1 htype) hfirst
    | unsupported =>
      have hnone : first.algorithm? = none := by simp [Hash.algorithm?, htype, HashType.algorithm?]
      rw [announced, List.filterMap_cons_none hnone]
      exact ih hrest best
    | supported a =>
      have hsome : first.algorithm? = some a := (Hash.algorithm?_eq_some_iff _ _).2 htype
      rw [announced, List.filterMap_cons_some hsome, List.foldl_cons]
      have hstep : List.argAux (fun b c : Algorithm => c.rank < b.rank) best a =
          some (stronger best a) := by
        cases best with
        | none => rfl
        | some c => simp only [List.argAux, stronger]; split_ifs <;> rfl
      rw [hstep]
      exact ih hrest _

/-- The selection is the maximum, and an error if a type is empty or none is supported. -/
theorem selectBest_eq (hashes : List Hash) :
    selectBest hashes =
      if HasUnnamed hashes then .error .emptyHashType
      else
        match strongest? hashes with
        | some a => .ok a
        | none => .error .noUsableHash := by
  unfold selectBest
  by_cases h : HasUnnamed hashes
  · rw [strongestFrom_of_hasUnnamed h, if_pos h]
  · have hmax : (announced hashes).foldl (List.argAux fun b c => c.rank < b.rank) none =
        strongest? hashes := rfl
    rw [strongestFrom_of_not_hasUnnamed h, if_neg h, hmax]
    cases strongest? hashes <;> rfl

/-- A selection succeeds with the strongest algorithm, where every hash has a type name. -/
theorem selectBest_eq_ok_iff (hashes : List Hash) (a : Algorithm) :
    selectBest hashes = .ok a ↔ ¬ HasUnnamed hashes ∧ IsStrongest a hashes := by
  rw [selectBest_eq, ← strongest?_eq_some_iff]
  by_cases h : HasUnnamed hashes
  · simp [h]
  · cases hs : strongest? hashes <;> simp [h]

/-- A selection fails in two ways: some hash has no type name, or no type is supported. -/
theorem selectBest_eq_error_iff (hashes : List Hash) (e : Error) :
    selectBest hashes = .error e ↔
      HasUnnamed hashes ∧ e = .emptyHashType ∨
        ¬ HasUnnamed hashes ∧ (∀ h ∈ hashes, h.algorithm? = none) ∧ e = .noUsableHash := by
  rw [selectBest_eq, ← strongest?_eq_none_iff]
  by_cases h : HasUnnamed hashes
  · simp [h, eq_comm]
  · cases hs : strongest? hashes <;> simp [h, eq_comm]

end Metalink
