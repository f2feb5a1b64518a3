import Mathlib.Data.List.Nodup
import Mathlib.Tactic.Common
import Metalink.Reader.Element

/-!
# Looking up attributes

The pairs of a flat list of attributes are its elements at the places `2 * i` and `2 * i + 1`.  A
name is looked up among these pairs and the first one counts, so a text is taken for a name only at
an even place with a value after it.  Elements look up five names and see nothing else of their
attributes; where these names are distinct, the order of the pairs does not matter either.

Main results:

- `findAttribute_eq_some_iff`, `findAttribute_eq_none_iff`: what is found, by the places in the
  list.
- `findAttribute_eq_of_heeded_perm`: where the names that are looked up are distinct, the order of
  the pairs does not matter, nor do all other pairs.
- `Role.take_congr`: elements depend on nothing but what is found under the five names.
-/

namespace Metalink

/-! ## Places -/

/-- The pairs are the elements at an even place and the place after it. -/
theorem getElem?_attributePairs_eq_some_iff {attributes : List String} {i : Nat}
    {key value : String} :
    (attributePairs attributes)[i]? = some (key, value) ↔
      attributes[2 * i]? = some key ∧ attributes[2 * i + 1]? = some value := by
  fun_induction attributePairs attributes generalizing i with
  | case1 first second rest ih =>
    cases i with
    | zero => simp
    | succ i => simp only [Nat.mul_succ, List.getElem?_cons_succ, ih]
  | case2 attributes hshort =>
    have hlength : attributes.length ≤ 2 * i + 1 := by
      match attributes with
      | [] | [_] => simp
      | first :: second :: rest => exact absurd rfl (hshort first second rest)
    simp [List.getElem?_eq_none hlength]

section Places

variable {name value : String} {attributes : List String}

/-- The names of the pairs stand at the even places. -/
theorem getElem?_name {i : Nat} (h : i < (attributePairs attributes).length) :
    attributes[2 * i]? = some (attributePairs attributes)[i].1 :=
  (getElem?_attributePairs_eq_some_iff.1 (List.getElem?_eq_getElem h)).1

/-- What is found is the value of the first pair with the name. -/
theorem findAttribute_eq_some_iff :
    findAttribute name attributes = some value ↔
      ∃ i, attributes[2 * i]? = some name ∧ attributes[2 * i + 1]? = some value ∧
        ∀ j < i, attributes[2 * j]? ≠ some name := by
  rw [findAttribute_eq_find, Option.map_eq_some_iff]
  constructor
  · rintro ⟨⟨key, value⟩, hfind, rfl⟩
    obtain ⟨hkey, i, hi, hpair, hbefore⟩ := List.find?_eq_some_iff_getElem.1 hfind
    obtain rfl : key = name := by simpa using hkey
    obtain ⟨hname, hvalue⟩ :=
      getElem?_attributePairs_eq_some_iff.1 (List.getElem?_eq_some_iff.2 ⟨hi, hpair⟩)
    refine ⟨i, hname, hvalue, ?_⟩
    intro j hj
    rw [getElem?_name (Nat.lt_trans hj hi)]
    simpa using hbefore j hj
  · rintro ⟨i, hname, hvalue, hbefore⟩
    obtain ⟨hi, hpair⟩ := List.getElem?_eq_some_iff.1
      (getElem?_attributePairs_eq_some_iff.2 ⟨hname, hvalue⟩)
    refine ⟨(name, value), List.find?_eq_some_iff_getElem.2 ⟨by simp, i, hi, hpair, ?_⟩, rfl⟩
    intro j hj
    have hother := hbefore j hj
    rw [getElem?_name (Nat.lt_trans hj hi)] at hother
    simpa using hother

/-- Nothing is found exactly if there is no pair with the name. -/
theorem findAttribute_eq_none_iff :
    findAttribute name attributes = none ↔
      ∀ i value, attributes[2 * i]? = some name → attributes[2 * i + 1]? ≠ some value := by
  rw [findAttribute_eq_find, Option.map_eq_none_iff, List.find?_eq_none]
  constructor
  · intro hnone i value hname hvalue
    have hpair := getElem?_attributePairs_eq_some_iff.2 ⟨hname, hvalue⟩
    simpa using hnone _ (List.mem_of_getElem? hpair)
  · rintro hnone ⟨key, value⟩ hmem hkey
    obtain rfl : key = name := by simpa using hkey
    obtain ⟨i, hpair⟩ := List.mem_iff_getElem?.1 hmem
    obtain ⟨hname, hvalue⟩ := getElem?_attributePairs_eq_some_iff.1 hpair
    exact hnone i value hname hvalue

/-- A text is not taken for a name at an odd place, nor at the last one if no value follows it. -/
theorem findAttribute_of_misplaced
    (h : ∀ i, attributes[i]? = some name → i % 2 = 1 ∨ i + 1 = attributes.length) :
    findAttribute name attributes = none := by
  rw [findAttribute_eq_none_iff]
  intro i value hname hvalue
  obtain ⟨hlt, -⟩ := List.getElem?_eq_some_iff.1 hvalue
  rcases h (2 * i) hname with hodd | hlast <;> omega

/-- A name that no value follows is not found. -/
theorem findAttribute_append_singleton (h : attributes.length % 2 = 0) (name key : String) :
    findAttribute name (attributes ++ [key]) = findAttribute name attributes := by
  fun_induction findAttribute name attributes with
  | case1 value rest => simp [findAttribute]
  | case2 other value rest hne ih =>
    have hrest : rest.length % 2 = 0 := by
      rw [List.length_cons, List.length_cons] at h
      omega
    simp [findAttribute, hne, ih hrest]
  | case3 l hshort =>
    cases l with
    | nil => rfl
    | cons first rest =>
      cases rest with
      | nil => simp at h
      | cons second rest => exact absurd rfl (hshort first second rest)

end Places

/-! ## Names that are looked up -/

/-- The names that elements look up. -/
def attributeNames : List String := ["name", "type", "protocol", "location", "preference"]

/-- The pairs with names that elements look up. -/
def heeded (attributes : List String) : List (String × String) :=
  (attributePairs attributes).filter fun p => p.1 ∈ attributeNames

section Heeded

variable {name value : String} {attributes other : List String}

/-- A name that elements look up is looked up among the pairs with such names. -/
theorem findAttribute_eq_find_heeded (hname : name ∈ attributeNames) :
    findAttribute name attributes =
      ((heeded attributes).find? fun p => p.1 = name).map Prod.snd := by
  rw [findAttribute_eq_find, heeded, List.find?_filter]
  congr 2
  funext p
  by_cases hp : p.1 = name <;> simp [hp, hname]

/-- Where names are distinct, what is found is what is paired with the name. -/
theorem findAttribute_eq_some_iff_mem (hdistinct : ((heeded attributes).map Prod.fst).Nodup)
    (hname : name ∈ attributeNames) :
    findAttribute name attributes = some value ↔ (name, value) ∈ heeded attributes := by
  rw [findAttribute_eq_find_heeded hname, Option.map_eq_some_iff]
  constructor
  · rintro ⟨⟨key, value⟩, hfind, rfl⟩
    obtain rfl : key = name := by simpa using List.find?_some hfind
    exact List.mem_of_find?_eq_some hfind
  · intro hmem
    obtain ⟨pair, hfind⟩ : ∃ pair, (heeded attributes).find? (fun p => p.1 = name) = some pair :=
      Option.isSome_iff_exists.1 (List.find?_isSome.2 ⟨(name, value), hmem, by simp⟩)
    have hkey : pair.1 = name := by simpa using List.find?_some hfind
    have hpair : pair = (name, value) :=
      List.inj_on_of_nodup_map hdistinct (List.mem_of_find?_eq_some hfind) hmem hkey
    exact ⟨pair, hfind, congrArg Prod.snd hpair⟩

/-- Where names are distinct, their order does not matter to what is found. -/
theorem findAttribute_eq_of_heeded_perm (hdistinct : ((heeded attributes).map Prod.fst).Nodup)
    (hperm : (heeded attributes).Perm (heeded other)) (hname : name ∈ attributeNames) :
    findAttribute name attributes = findAttribute name other := by
  have hdistinct' : ((heeded other).map Prod.fst).Nodup :=
    (hperm.map Prod.fst).nodup_iff.1 hdistinct
  ext value
  rw [findAttribute_eq_some_iff_mem hdistinct hname,
    findAttribute_eq_some_iff_mem hdistinct' hname, hperm.mem_iff]

/-- Where one name stands twice, it does. -/
example : (heeded ["name", "a", "name", "b"]).Perm (heeded ["name", "b", "name", "a"]) ∧
    findAttribute "name" ["name", "a", "name", "b"] ≠
      findAttribute "name" ["name", "b", "name", "a"] := by decide

/-- Elements see of their attributes only what is found under the names that they look up. -/
theorem Role.take_congr
    (h : ∀ name ∈ attributeNames, findAttribute name attributes = findAttribute name other)
    (role : Role) (expected : String) (text : CodeText) (doc : Document) :
    role.take expected attributes text doc = role.take expected other text doc := by
  have hname := h "name" (by decide)
  have htype := h "type" (by decide)
  have hprotocol := h "protocol" (by decide)
  have hlocation := h "location" (by decide)
  have hpreference := h "preference" (by decide)
  cases role <;> simp only [take, takeFile, takeHash, takeUrl, takeAddress, readPreference, hname,
    htype, hprotocol, hlocation, hpreference]

end Heeded

end Metalink
