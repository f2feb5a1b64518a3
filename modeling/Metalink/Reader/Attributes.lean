/-!
# Attributes

The attributes of an element come as one flat list in which names and values take
turns.  Main statement: looking up a name is looking it up among the pairs, where the
first one counts; a name without a value after it is not found.
-/

namespace Metalink

/-- The value that follows the first occurrence of a name at an even place. -/
def findAttribute (name : String) : List String → Option String
  | key :: value :: rest => if key = name then some value else findAttribute name rest
  | _ => none

/-- The complete pairs of a flat list. -/
def attributePairs : List String → List (String × String)
  | key :: value :: rest => (key, value) :: attributePairs rest
  | _ => []

/-- Looking up in a flat list is looking up among its pairs. -/
theorem findAttribute_eq_find (name : String) (attributes : List String) :
    findAttribute name attributes =
      ((attributePairs attributes).find? fun p => p.1 = name).map Prod.snd := by
  fun_induction findAttribute name attributes with
  | case1 value rest => simp [attributePairs]
  | case2 key value rest h ih => simp [attributePairs, h, ih]
  | case3 l h => cases l with
    | nil => rfl
    | cons a t => cases t with
      | nil => rfl
      | cons b r => exact absurd rfl (h a b r)

end Metalink
