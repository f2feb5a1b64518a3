/-!
# White space

The white space of Unicode, with the four separators of ASCII, and texts without it
at either end.

Main results:

- `isTrimmed_trim`: a trimmed text neither starts nor ends with white space.
- `trim_eq_empty_iff`: nothing is left of a text exactly if it is all white space.
-/

namespace Metalink.Text

/-- Whether a character is white space. -/
def isBlank (c : Char) : Bool :=
  let n := c.toNat
  (9 ≤ n && n ≤ 13) || (28 ≤ n && n ≤ 32) || n == 0x85 || n == 0xA0 || n == 0x1680 ||
    (0x2000 ≤ n && n ≤ 0x200A) || n == 0x2028 || n == 0x2029 || n == 0x202F ||
    n == 0x205F || n == 0x3000

/-- Remove from both ends what is of a class. -/
def trimBoth {α : Type} (p : α → Bool) (cs : List α) : List α :=
  ((cs.dropWhile p).reverse.dropWhile p).reverse

/-- A text without the white space at its ends. -/
def trim (s : String) : String :=
  String.ofList (trimBoth isBlank s.toList)

/-- Whether the text holds nothing but white space. -/
def AllBlank (s : String) : Prop :=
  ∀ c ∈ s.toList, isBlank c = true

/-- A text neither starts nor ends with white space. -/
def IsTrimmed (s : String) : Prop :=
  (∀ c, s.toList.head? = some c → isBlank c = false) ∧
    ∀ c, s.toList.getLast? = some c → isBlank c = false

/-! ## Trimming -/

section Trimming

variable {α : Type} {p : α → Bool} {cs : List α} {c : α}

/-- What is dropped in front ends before a character outside the class. -/
theorem head?_dropWhile {l : List α} (h : (l.dropWhile p).head? = some c) : p c = false := by
  have hd := List.head?_dropWhile_not p l
  rw [h] at hd
  exact hd

/-- Nothing is dropped in front of a character outside the class. -/
theorem dropWhile_eq_self (h : ∀ c, cs.head? = some c → p c = false) : cs.dropWhile p = cs := by
  cases cs with
  | nil => rfl
  | cons c rest => simp [h c rfl]

/-- Everything is dropped exactly if all characters are of the class. -/
theorem dropWhile_eq_nil : cs.dropWhile p = [] ↔ ∀ c ∈ cs, p c = true := by
  induction cs with
  | nil => simp
  | cons c rest ih =>
    cases hc : p c with
    | true => simp [hc, ih]
    | false => simp [hc]

/-- What is trimmed on both sides starts with no character of the class. -/
theorem head?_trimBoth (h : (trimBoth p cs).head? = some c) : p c = false := by
  obtain ⟨dropped, hd⟩ := List.dropWhile_suffix (l := (cs.dropWhile p).reverse) p
  have hx : cs.dropWhile p = trimBoth p cs ++ dropped.reverse := by
    rw [← List.reverse_reverse (cs.dropWhile p), ← hd, List.reverse_append, trimBoth]
  apply head?_dropWhile (l := cs)
  rw [hx, List.head?_append, h]
  rfl

/-- What is trimmed on both sides ends with no character of the class. -/
theorem getLast?_trimBoth (h : (trimBoth p cs).getLast? = some c) : p c = false := by
  rw [trimBoth, List.getLast?_reverse] at h
  exact head?_dropWhile h

/-- Trimming leaves a text alone that has nothing to trim. -/
theorem trimBoth_eq_self (first : ∀ c, cs.head? = some c → p c = false)
    (last : ∀ c, cs.getLast? = some c → p c = false) : trimBoth p cs = cs := by
  rw [trimBoth, dropWhile_eq_self first, dropWhile_eq_self, List.reverse_reverse]
  rw [List.head?_reverse]
  exact last

/-- Trimming removes nothing that is not of the class. -/
theorem mem_trimBoth (h : c ∈ cs) (hc : p c = false) : c ∈ trimBoth p cs := by
  have hdrop : ∀ {l : List α}, c ∈ l → c ∈ l.dropWhile p := by
    intro l hl
    rw [← List.takeWhile_append_dropWhile (p := p) (l := l), List.mem_append] at hl
    refine hl.resolve_left fun hfront => ?_
    have hall := List.all_takeWhile (p := p) (l := l)
    have hp := List.all_eq_true.1 hall c hfront
    rw [hc] at hp
    cases hp
  rw [trimBoth, List.mem_reverse]
  exact hdrop (List.mem_reverse.2 (hdrop h))

/-- Trimming commutes with a change of every member. -/
theorem trimBoth_map {β : Type} (p : α → Bool) (f : β → α) (cs : List β) :
    trimBoth p (cs.map f) = (trimBoth (p ∘ f) cs).map f := by
  simp only [trimBoth, List.dropWhile_map, ← List.map_reverse]

end Trimming

/-- A trimmed text is trimmed. -/
theorem isTrimmed_trim (s : String) : IsTrimmed (trim s) := by
  simp only [IsTrimmed, trim, String.toList_ofList]
  exact ⟨fun _ h => head?_trimBoth h, fun _ h => getLast?_trimBoth h⟩

/-- Trimming changes nothing in a trimmed text. -/
theorem trim_eq_self {s : String} (h : IsTrimmed s) : trim s = s := by
  rw [trim, trimBoth_eq_self h.1 h.2, String.ofList_toList]

/-- Nothing is left of a text exactly if it holds nothing but white space. -/
theorem trim_eq_empty_iff (s : String) : trim s = "" ↔ AllBlank s := by
  constructor
  · intro h c hc
    have hl : trimBoth isBlank s.toList = [] := by
      have := congrArg String.toList h
      simpa [trim] using this
    have hd : s.toList.dropWhile isBlank = [] := by
      rw [trimBoth, List.reverse_eq_nil_iff, dropWhile_eq_nil] at hl
      cases hx : s.toList.dropWhile isBlank with
      | nil => rfl
      | cons x rest =>
        have hb := hl x (by simp [hx])
        have hn : isBlank x = false := head?_dropWhile (l := s.toList) (by rw [hx]; rfl)
        rw [hn] at hb
        cases hb
    exact dropWhile_eq_nil.1 hd c hc
  · intro h
    have hd : s.toList.dropWhile isBlank = [] := dropWhile_eq_nil.2 h
    simp [trim, trimBoth, hd]

end Metalink.Text
