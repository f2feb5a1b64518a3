import Metalink.Text.Blank
import Metalink.Text.Quoted

/-!
# Texts of code points

A text that is handed over is a list of code points, and not all of these are
characters: a surrogate is half of a character in another form of writing, and stands
for nothing by itself.  A text with a surrogate cannot be encoded, and encoding it
fails at the first run of surrogates.

Main results:

- `CodeText.encode_eq_ok_iff`: the texts that are encoded are those of characters.
- `CodeText.exists_eq_ofString_iff`: these are the texts without surrogates.
- `CodeText.string?_trim`: white space at the ends of a text does not decide this.
-/

namespace Metalink

/-! ## Code points -/

/-- The code points from U+D800 to U+DFFF, by their place among them. -/
abbrev Surrogate := Fin 2048

/-- What a text consists of. -/
inductive CodePoint where
  | char (c : Char)
  | surrogate (s : Surrogate)
deriving DecidableEq, Repr

namespace CodePoint

/-- Whether a code point is half of a character. -/
def isSurrogate : CodePoint → Bool
  | char _ => false
  | surrogate _ => true

/-- Whether a code point is white space. -/
def isBlank : CodePoint → Bool
  | char c => Text.isBlank c
  | surrogate _ => false

/-- A code point as a message shows it: a surrogate is written by number. -/
def shown : CodePoint → List Char
  | char c => [c]
  | surrogate s => '\\' :: 'u' :: Text.hexDigits 4 (0xD800 + s.val)

end CodePoint

/-! ## Texts -/

/-- A text of code points. -/
structure CodeText where
  points : List CodePoint
deriving DecidableEq, Repr

/-- Why a text cannot be encoded: the first surrogate in it, its place, and how many
surrogates stand there in a row. -/
structure Unencodable where
  first : Surrogate
  place : Nat
  count : Nat
deriving DecidableEq, Repr

/-- The wording for a text that cannot be encoded. -/
def Unencodable.message (fault : Unencodable) : String :=
  let span :=
    if fault.count = 1 then
      "character '" ++ String.ofList (CodePoint.surrogate fault.first).shown ++
        "' in position " ++ toString fault.place
    else
      "characters in position " ++ toString fault.place ++ "-" ++
        toString (fault.place + fault.count - 1)
  "'utf-8' codec can't encode " ++ span ++ ": surrogates not allowed"

namespace CodeText

/-- A text of characters. -/
@[coe]
def ofString (s : String) : CodeText := ⟨s.toList.map .char⟩

instance : Coe String CodeText := ⟨ofString⟩

/-- Encode code points from a place on.  The encoding of characters is that of the text
that they make. -/
def encodePoints : Nat → List CodePoint → Except Unencodable (List Char)
  | _, [] => .ok []
  | place, .char c :: rest => (encodePoints (place + 1) rest).map (c :: ·)
  | place, .surrogate s :: rest =>
    .error ⟨s, place, (rest.takeWhile CodePoint.isSurrogate).length + 1⟩

/-- Encode a text. -/
def encode (text : CodeText) : Except Unencodable String :=
  (encodePoints 0 text.points).map String.ofList

/-- A text as characters, unless it holds a surrogate. -/
def string? (text : CodeText) : Option String :=
  text.encode.toOption

/-- A text without the white space at its ends. -/
def trim (text : CodeText) : CodeText :=
  ⟨Text.trimBoth CodePoint.isBlank text.points⟩

/-- A text as a message shows it. -/
def shown (text : CodeText) : String :=
  String.ofList (text.points.flatMap CodePoint.shown)

/-- A text consists of characters, and has a property as such. -/
def Is (p : String → Prop) (text : CodeText) : Prop :=
  ∃ s : String, text = s ∧ p s

/-! ## Encoding -/

/-- Characters are encoded as they are, wherever they stand. -/
theorem encodePoints_map_char (place : Nat) (cs : List Char) :
    encodePoints place (cs.map .char) = .ok cs := by
  induction cs generalizing place with
  | nil => rfl
  | cons c rest ih => rw [List.map_cons, encodePoints, ih, Except.map]

/-- Nothing but characters is encoded. -/
theorem eq_map_char_of_encodePoints {place : Nat} {points : List CodePoint} {cs : List Char}
    (h : encodePoints place points = .ok cs) : points = cs.map .char := by
  induction points generalizing place cs with
  | nil =>
    obtain rfl := Except.ok.inj h
    rfl
  | cons p rest ih =>
    cases p with
    | surrogate s => cases h
    | char c =>
      rw [encodePoints] at h
      cases hrest : encodePoints (place + 1) rest with
      | error fault =>
        rw [hrest] at h
        cases h
      | ok tail =>
        rw [hrest] at h
        obtain rfl := Except.ok.inj h
        rw [ih hrest, List.map_cons]

/-- A text of characters is encoded as itself. -/
@[simp]
theorem encode_ofString (s : String) : (s : CodeText).encode = .ok s := by
  rw [encode, ofString, encodePoints_map_char, Except.map, String.ofList_toList]

/-- No other text is encoded. -/
theorem encode_eq_ok_iff {text : CodeText} {s : String} : text.encode = .ok s ↔ text = s := by
  constructor
  · intro h
    rw [encode] at h
    cases hpoints : encodePoints 0 text.points with
    | error fault =>
      rw [hpoints] at h
      cases h
    | ok cs =>
      rw [hpoints] at h
      obtain rfl := Except.ok.inj h
      rw [ofString, String.toList_ofList, ← eq_map_char_of_encodePoints hpoints]
  · rintro rfl
    exact encode_ofString s

/-- Texts of characters are told apart by their characters. -/
@[simp]
theorem ofString_inj {s t : String} : (s : CodeText) = (t : CodeText) ↔ s = t := by
  rw [← encode_eq_ok_iff, encode_ofString, Except.ok.injEq]

@[simp]
theorem string?_ofString (s : String) : (s : CodeText).string? = some s := by
  rw [string?, encode_ofString]
  rfl

/-- No other text is any. -/
theorem string?_eq_some_iff {text : CodeText} {s : String} : text.string? = some s ↔ text = s := by
  rw [← encode_eq_ok_iff, string?]
  cases text.encode <;> simp [Except.toOption]

/-- Every text is one of characters or cannot be encoded. -/
theorem eq_ofString_or_string?_eq_none (text : CodeText) :
    (∃ s : String, text = s) ∨ text.string? = none := by
  cases h : text.string? with
  | some s => exact .inl ⟨s, string?_eq_some_iff.1 h⟩
  | none => exact .inr rfl

/-- Encoding fails exactly for the texts that are none of characters. -/
theorem exists_encode_eq_error_iff {text : CodeText} :
    (∃ fault, text.encode = .error fault) ↔ text.string? = none := by
  rw [string?]
  cases text.encode <;> simp [Except.toOption]

/-! ## Properties of characters -/

@[simp]
theorem is_ofString {p : String → Prop} {s : String} : Is p s ↔ p s := by
  simp [Is]

/-- A text that is none of characters has no property of characters. -/
theorem not_is_of_string?_eq_none {text : CodeText} (h : text.string? = none)
    (p : String → Prop) : ¬ text.Is p := by
  rintro ⟨s, rfl, -⟩
  rw [string?_ofString] at h
  cases h

instance {p : String → Prop} [DecidablePred p] (text : CodeText) : Decidable (text.Is p) :=
  match h : text.string? with
  | some s => decidable_of_iff (p s) (by rw [string?_eq_some_iff.1 h, is_ofString])
  | none => .isFalse (not_is_of_string?_eq_none h p)

/-! ## White space -/

/-- A text of characters is trimmed as such. -/
@[simp]
theorem trim_ofString (s : String) : (s : CodeText).trim = (Text.trim s : CodeText) := by
  rw [trim, ofString, ofString, Text.trimBoth_map, Text.trim, String.toList_ofList]
  rfl

/-- Code points that are characters are a list of characters. -/
theorem exists_eq_map_char {points : List CodePoint} (h : ∀ p ∈ points, ∃ c, p = .char c) :
    ∃ cs : List Char, points = cs.map .char := by
  induction points with
  | nil => exact ⟨[], rfl⟩
  | cons p rest ih =>
    obtain ⟨c, rfl⟩ := h p List.mem_cons_self
    obtain ⟨cs, rfl⟩ := ih fun q hq => h q (List.mem_cons_of_mem _ hq)
    exact ⟨c :: cs, rfl⟩

/-- A text is one of characters exactly if it holds nothing else. -/
theorem exists_eq_ofString_iff {text : CodeText} :
    (∃ s : String, text = s) ↔ ∀ p ∈ text.points, ∃ c, p = .char c := by
  constructor
  · rintro ⟨s, rfl⟩ p hp
    obtain ⟨c, -, rfl⟩ := List.mem_map.1 hp
    exact ⟨c, rfl⟩
  · intro h
    obtain ⟨cs, hcs⟩ := exists_eq_map_char h
    exact ⟨String.ofList cs, by rw [ofString, String.toList_ofList, ← hcs]⟩

/-- White space consists of characters, so that a text without it is one of characters exactly
if the text is. -/
theorem string?_trim (text : CodeText) : text.trim.string? = text.string?.map Text.trim := by
  cases hstring : text.string? with
  | some s =>
    rw [string?_eq_some_iff] at hstring
    rw [hstring, trim_ofString, string?_ofString, Option.map_some]
  | none =>
    rw [Option.map_none, Option.eq_none_iff_forall_ne_some]
    intro u htrim
    rw [string?_eq_some_iff] at htrim
    have hchars := exists_eq_ofString_iff.1 ⟨u, htrim⟩
    obtain ⟨s, hs⟩ : ∃ s : String, text = s := by
      refine exists_eq_ofString_iff.2 fun p hp => ?_
      cases p with
      | char c => exact ⟨c, rfl⟩
      | surrogate s => exact hchars _ (Text.mem_trimBoth hp rfl)
    rw [hs, string?_ofString] at hstring
    cases hstring

end CodeText

end Metalink
