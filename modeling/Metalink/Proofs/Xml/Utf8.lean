import Mathlib.Tactic.Common
import Metalink.Xml.Encoding

/-!
# Reading UTF-8

What is encoded in UTF-8 decodes to the same characters, each of which has its place.

Main results:

- `Glyph.chars_rowAt`: characters that are placed one after another.
- `decodeUtf8_encodeChar`: decoding takes the bytes of a character for this character.
- `decode_utf8Bytes`: the bytes of a text decode to the text, to their very end.
-/

namespace Metalink.Xml

/-! ## Rows of characters -/

namespace Glyph

/-- Characters one after another in UTF-8, from a place on. -/
def rowAt (place : Nat) : List Char → List Glyph
  | [] => []
  | c :: rest => ⟨c, place⟩ :: rowAt (place + c.utf8Size) rest

/-- The number of bytes of characters in UTF-8. -/
def width (cs : List Char) : Nat :=
  (String.ofList cs).utf8ByteSize

@[simp]
theorem width_nil : width [] = 0 := rfl

@[simp]
theorem width_cons (c : Char) (cs : List Char) :
    width (c :: cs) = c.utf8Size + width cs := by
  simp [width, String.ofList_cons]

@[simp]
theorem width_append (first rest : List Char) :
    width (first ++ rest) = width first + width rest := by
  simp [width, String.ofList_append]

/-- The width of a text is the number of its bytes. -/
theorem width_toList (s : String) : width s.toList = s.utf8ByteSize := by
  rw [width, String.ofList_toList]

/-- Placing after others is placing from where they end. -/
theorem rowFrom_eq_append (place : Nat) (before : List Glyph) (text : List Char) :
    rowFrom place before text = before.reverse ++ rowAt place text := by
  induction text generalizing place before with
  | nil => simp [rowFrom, rowAt]
  | cons c rest ih => simp [rowFrom, rowAt, ih]

/-- Placing a text keeps its characters. -/
theorem chars_rowAt (place : Nat) (text : List Char) : chars (rowAt place text) = text := by
  have hrow := chars_rowFrom place [] text
  rw [rowFrom_eq_append] at hrow
  simpa [chars] using hrow

end Glyph

/-! ## Bytes of characters -/

/-- The bytes of characters in UTF-8. -/
def utf8Bytes (cs : List Char) : Bytes :=
  cs.flatMap String.utf8EncodeChar

/-- A text has as many bytes as its width says. -/
theorem length_utf8Bytes (cs : List Char) : (utf8Bytes cs).length = Glyph.width cs := by
  induction cs with
  | nil => rfl
  | cons c cs ih =>
    rw [utf8Bytes, List.flatMap_cons, List.length_append, String.length_utf8EncodeChar,
      Glyph.width_cons, ← ih, utf8Bytes]

/-- The bytes of an array come out in order. -/
theorem toList_loop_eq (bytes : ByteArray) (i : Nat) (before : List UInt8) :
    ByteArray.toList.loop bytes i before = before.reverse ++ bytes.data.toList.drop i := by
  fun_induction ByteArray.toList.loop bytes i before with
  | case1 i before h ih =>
    have hi : i < bytes.data.toList.length := by simpa using h
    rw [ih, List.drop_eq_getElem_cons hi]
    simp [ByteArray.get!, h]
  | case2 i before h =>
    have hend : bytes.data.toList.length ≤ i := by simpa using Nat.le_of_not_lt h
    rw [List.drop_eq_nil_of_le hend, List.append_nil]

/-- The bytes of a text are those of its characters. -/
theorem toList_toUTF8 (s : String) : s.toUTF8.toList = utf8Bytes s.toList := by
  have hdata := congrArg ByteArray.data (String.toByteArray_ofList (l := s.toList))
  rw [String.ofList_toList] at hdata
  rw [ByteArray.toList, toList_loop_eq]
  simp [String.toUTF8, hdata, List.utf8Encode, utf8Bytes]

/-! ## Characters of several bytes -/

theorem toNat_ofNat_of_lt {n : Nat} (h : n < 256) : (UInt8.ofNat n).toNat = n := by
  rw [UInt8.toNat_ofNat']
  omega

theorem bne_eq_decide_toNat (a b : UInt8) : (a != b) = decide (a.toNat ≠ b.toNat) := by
  by_cases h : a = b
  · simp [h]
  · have hne : a.toNat ≠ b.toNat := fun heq => h (UInt8.toNat_inj.1 heq)
    simp [h, hne]

/-- Two bytes are put together to the character that they encode. -/
theorem pair?_encode {v : Nat} (hlow : 0x80 ≤ v) (hhigh : v < 0x800) :
    pair? (UInt8.ofNat (v / 64 % 32 + 192)) (UInt8.ofNat (v % 64 + 128)) =
      some (Char.ofNat v) := by
  have h0 := toNat_ofNat_of_lt (n := v / 64 % 32 + 192) (by omega)
  have h1 := toNat_ofNat_of_lt (n := v % 64 + 128) (by omega)
  have hv : (v / 64 % 32 + 192 - 192) * 64 + (v % 64 + 128 - 128) = v := by omega
  simp only [pair?, isContinuation, UInt8.le_iff_toNat_le, UInt8.lt_iff_toNat_lt, h0, h1, hv]
  simp
  omega

theorem triple?_encode {v : Nat} (hlow : 0x800 ≤ v) (hhigh : v < 0x10000)
    (hvalid : v.isValidChar) (hmarkup : isMarkupChar (Char.ofNat v) = true) :
    triple? (UInt8.ofNat (v / 4096 % 16 + 224)) (UInt8.ofNat (v / 64 % 64 + 128))
      (UInt8.ofNat (v % 64 + 128)) = some (Char.ofNat v) := by
  have h0 := toNat_ofNat_of_lt (n := v / 4096 % 16 + 224) (by omega)
  have h1 := toNat_ofNat_of_lt (n := v / 64 % 64 + 128) (by omega)
  have h2 := toNat_ofNat_of_lt (n := v % 64 + 128) (by omega)
  have hv : (v / 4096 % 16 + 224 - 224) * 4096 + (v / 64 % 64 + 128 - 128) * 64 +
      (v % 64 + 128 - 128) = v := by omega
  have hsurrogate : v < 0xD800 ∨ 0xDFFF < v := by
    rcases hvalid with h | h <;> omega
  simp only [triple?, isContinuation, UInt8.le_iff_toNat_le, UInt8.lt_iff_toNat_lt,
    bne_eq_decide_toNat, h0, h1, h2, hv, hmarkup]
  simp
  omega

theorem quadruple?_encode {v : Nat} (hlow : 0x10000 ≤ v) (hhigh : v < 0x110000) :
    quadruple? (UInt8.ofNat (v / 262144 % 8 + 240)) (UInt8.ofNat (v / 4096 % 64 + 128))
      (UInt8.ofNat (v / 64 % 64 + 128)) (UInt8.ofNat (v % 64 + 128)) = some (Char.ofNat v) := by
  have h0 := toNat_ofNat_of_lt (n := v / 262144 % 8 + 240) (by omega)
  have h1 := toNat_ofNat_of_lt (n := v / 4096 % 64 + 128) (by omega)
  have h2 := toNat_ofNat_of_lt (n := v / 64 % 64 + 128) (by omega)
  have h3 := toNat_ofNat_of_lt (n := v % 64 + 128) (by omega)
  have hv : (v / 262144 % 8 + 240 - 240) * 262144 + (v / 4096 % 64 + 128 - 128) * 4096 +
      (v / 64 % 64 + 128 - 128) * 64 + (v % 64 + 128 - 128) = v := by omega
  simp only [quadruple?, isContinuation, UInt8.le_iff_toNat_le, UInt8.lt_iff_toNat_lt,
    bne_eq_decide_toNat, h0, h1, h2, h3, hv]
  simp
  omega

/-! ## Decoding -/

section Decode

variable (place : Nat) (before : List Glyph) (rest : Bytes)

/-- A byte of ASCII is decoded by itself. -/
theorem decodeUtf8_single {b : UInt8} (hb : b.toNat < 0x80)
    (hmarkup : isMarkupChar (Char.ofNat b.toNat) = true) :
    decodeUtf8 place before (b :: rest) =
      decodeUtf8 (place + 1) (⟨Char.ofNat b.toNat, place⟩ :: before) rest := by
  rw [decodeUtf8.eq_def]
  simp [UInt8.lt_iff_toNat_lt, hb, hmarkup]

/-- Two bytes of a character are decoded together. -/
theorem decodeUtf8_pair {b0 b1 : UInt8} {c : Char} (hlow : 0xC0 ≤ b0.toNat)
    (hhigh : b0.toNat < 0xE0) (hpair : pair? b0 b1 = some c) :
    decodeUtf8 place before (b0 :: b1 :: rest) =
      decodeUtf8 (place + 2) (⟨c, place⟩ :: before) rest := by
  have h1 : ¬ b0.toNat < 0x80 := by omega
  have h2 : ¬ b0.toNat < 0xC0 := by omega
  rw [decodeUtf8.eq_def]
  simp [UInt8.lt_iff_toNat_lt, h1, h2, hhigh, hpair]

theorem decodeUtf8_triple {b0 b1 b2 : UInt8} {c : Char} (hlow : 0xE0 ≤ b0.toNat)
    (hhigh : b0.toNat < 0xF0) (htriple : triple? b0 b1 b2 = some c) :
    decodeUtf8 place before (b0 :: b1 :: b2 :: rest) =
      decodeUtf8 (place + 3) (⟨c, place⟩ :: before) rest := by
  have h1 : ¬ b0.toNat < 0x80 := by omega
  have h2 : ¬ b0.toNat < 0xC0 := by omega
  have h3 : ¬ b0.toNat < 0xE0 := by omega
  rw [decodeUtf8.eq_def]
  simp [UInt8.lt_iff_toNat_lt, h1, h2, h3, hhigh, htriple]

theorem decodeUtf8_quadruple {b0 b1 b2 b3 : UInt8} {c : Char} (hlow : 0xF0 ≤ b0.toNat)
    (hhigh : b0.toNat < 0xF5) (hquadruple : quadruple? b0 b1 b2 b3 = some c) :
    decodeUtf8 place before (b0 :: b1 :: b2 :: b3 :: rest) =
      decodeUtf8 (place + 4) (⟨c, place⟩ :: before) rest := by
  have h1 : ¬ b0.toNat < 0x80 := by omega
  have h2 : ¬ b0.toNat < 0xC0 := by omega
  have h3 : ¬ b0.toNat < 0xE0 := by omega
  have h4 : ¬ b0.toNat < 0xF0 := by omega
  rw [decodeUtf8.eq_def]
  simp [UInt8.lt_iff_toNat_lt, h1, h2, h3, h4, hhigh, hquadruple]

/-- Decoding takes the bytes of a character for this character. -/
theorem decodeUtf8_encodeChar {c : Char} (h : isMarkupChar c = true) :
    decodeUtf8 place before (String.utf8EncodeChar c ++ rest) =
      decodeUtf8 (place + c.utf8Size) (⟨c, place⟩ :: before) rest := by
  have hc : Char.ofNat c.val.toNat = c := Char.ofNat_toNat c
  have hvalid : c.val.toNat.isValidChar := c.valid
  have hsize : c.utf8Size = if c.val.toNat ≤ 127 then 1 else if c.val.toNat ≤ 2047 then 2
    else if c.val.toNat ≤ 65535 then 3 else 4 := rfl
  have hrange : c.val.toNat < 0x110000 := by rcases hvalid with h | h <;> omega
  rw [String.utf8EncodeChar, hsize]
  generalize c.val.toNat = v at hc hvalid hrange
  subst hc
  split
  · have hb := toNat_ofNat_of_lt (n := v) (by omega)
    have hsingle := decodeUtf8_single place before rest (b := UInt8.ofNat v)
    rw [hb] at hsingle
    exact hsingle (by omega) h
  split
  · have hb := toNat_ofNat_of_lt (n := v / 64 % 32 + 192) (by omega)
    exact decodeUtf8_pair place before rest (by omega) (by omega)
      (pair?_encode (by omega) (by omega))
  split
  · have hb := toNat_ofNat_of_lt (n := v / 4096 % 16 + 224) (by omega)
    exact decodeUtf8_triple place before rest (by omega) (by omega)
      (triple?_encode (by omega) (by omega) hvalid h)
  · have hb := toNat_ofNat_of_lt (n := v / 262144 % 8 + 240) (by omega)
    exact decodeUtf8_quadruple place before rest (by omega) (by omega)
      (quadruple?_encode (by omega) (by omega))

/-- Decoding goes on after the bytes of characters. -/
theorem decodeUtf8_utf8Bytes {cs : List Char} (h : ∀ c ∈ cs, isMarkupChar c = true) :
    decodeUtf8 place before (utf8Bytes cs ++ rest) =
      decodeUtf8 (place + Glyph.width cs) ((Glyph.rowAt place cs).reverse ++ before) rest := by
  induction cs generalizing place before with
  | nil => rfl
  | cons c cs ih =>
    obtain ⟨hc, hcs⟩ := List.forall_mem_cons.1 h
    rw [utf8Bytes, List.flatMap_cons, List.append_assoc, decodeUtf8_encodeChar _ _ _ hc]
    change decodeUtf8 _ _ (utf8Bytes cs ++ rest) = _
    rw [ih _ _ hcs]
    simp [Glyph.rowAt, Nat.add_assoc]

end Decode

/-- The bytes of characters that markup may hold decode to them, to the very end. -/
theorem decode_utf8Bytes (place : Nat) {cs : List Char}
    (h : ∀ c ∈ cs, isMarkupChar c = true) :
    Encoding.utf8.decode place (utf8Bytes cs) =
      ⟨Glyph.rowAt place cs, .done, place + Glyph.width cs⟩ := by
  have hdecode := decodeUtf8_utf8Bytes place [] [] h
  rw [List.append_nil] at hdecode
  simp [Encoding.decode, hdecode, decodeUtf8]

end Metalink.Xml
