import Metalink.Xml.Portion
import Metalink.Xml.Value

/-!
# Tokens of content

Content is made of text, tags, references, comments, processing instructions and
CDATA sections.  A token is read from the front of the input; a CDATA section is read
token by token too.

Main statements: every token takes at least one character.
-/

namespace Metalink.Xml

/-! ## Tokens -/

/-- An attribute as written in a start tag, with the place of its name. -/
structure RawAttribute where
  name : List Char
  value : List Piece
  place : Nat
deriving Repr

/-- A token of content.  Trailing characters, or a trailing line end, are those that end the
input and might have gone on.  A start tag may stand for the whole of an empty element, and an
end tag has the place of its name.  What is ignored is a comment or a processing instruction; an
XML declaration does not belong into content. -/
inductive Token where
  | text (run : List Char)
  | trailing (run : List Char)
  | lineEnd
  | trailingLineEnd
  | reference (ref : Reference)
  | startTag (name : List Char) (attributes : List RawAttribute) (isEmpty : Bool)
  | endTag (name : List Char) (place : Nat)
  | cdata
  | cdataEnd
  | ignored
  | declaration
deriving Repr

/-! ## Tags -/

/-- The end of a start tag. -/
def scanTagEnd (lex : Lexicon) (name : List Char) (attributes : List RawAttribute) :
    List Glyph → Scanned Token
  | ⟨'>', _⟩ :: rest => .ok (.startTag name attributes false, rest)
  | ⟨'/', _⟩ :: rest =>
    match scanChar lex '>' rest with
    | .error o => .error o
    | .ok (_, rest) => .ok (.startTag name attributes true, rest)
  | cs => .error (.invalid (lex.placeOf cs))

/-- The equals sign and the opening quote of an attribute, after its name. -/
def scanEquals (lex : Lexicon) (cs : List Glyph) : Scanned Char :=
  match scanChar lex '=' (skipSpace cs) with
  | .error o => .error o
  | .ok (_, rest) =>
    match skipSpace rest with
    | [] => .error lex.between
    | g :: rest =>
      if g.char == '"' || g.char == '\'' then .ok (g.char, rest) else .error (.invalid g.place)

/-- An attribute. -/
def scanAttribute (lex : Lexicon) (cs : List Glyph) : Scanned RawAttribute :=
  match scanName lex cs with
  | .error o => .error o
  | .ok (name, after) =>
    match scanEquals lex after with
    | .error o => .error o
    | .ok (quote, after) =>
      match scanPieces lex (some quote) [] after with
      | (_, .error o) => .error o
      | (value, .ok rest) => .ok (⟨name, value, lex.placeOf cs⟩, rest)

/-- What is left after the end of a tag is shorter. -/
theorem scanTagEnd_lt {lex : Lexicon} {name : List Char} {attributes : List RawAttribute}
    {cs rest : List Glyph} {token : Token}
    (h : scanTagEnd lex name attributes cs = .ok (token, rest)) : rest.length < cs.length := by
  unfold scanTagEnd at h
  split at h
  · simp at h
    simp [h]
  · split at h
    · simp at h
    · next hc =>
      simp only [Except.ok.injEq, Prod.mk.injEq] at h
      have := scanChar_lt hc
      rw [← h.2, List.length_cons]
      omega
  · simp at h

/-- What is left after an equals sign and a quote is shorter. -/
theorem scanEquals_lt {lex : Lexicon} {cs rest : List Glyph} {q : Char}
    (h : scanEquals lex cs = .ok (q, rest)) : rest.length < cs.length := by
  unfold scanEquals at h
  split at h
  · simp at h
  · next after hc =>
    have h1 := scanChar_lt hc
    have h2 := skipSpace_le cs
    have h3 := skipSpace_le after
    split at h
    · simp at h
    · next hs =>
      rw [hs, List.length_cons] at h3
      split at h
      · simp only [Except.ok.injEq, Prod.mk.injEq] at h
        rw [← h.2]
        omega
      · simp at h

/-- What is left after an attribute is shorter. -/
theorem scanAttribute_lt {lex : Lexicon} {cs rest : List Glyph} {a : RawAttribute}
    (h : scanAttribute lex cs = .ok (a, rest)) : rest.length < cs.length := by
  unfold scanAttribute at h
  split at h
  · simp at h
  · next hn =>
    split at h
    · simp at h
    · next he =>
      split at h
      · simp at h
      · next hp =>
        simp only [Except.ok.injEq, Prod.mk.injEq] at h
        have h1 := scanName_lt hn
        have h2 := scanEquals_lt he
        have h3 := scanPieces_le hp
        rw [← h.2]
        omega

/-- The attributes of a start tag and its end, after those read before in reverse
order.  Attributes are set off by white space. -/
def scanAttributes (lex : Lexicon) (name : List Char) (before : List RawAttribute)
    (cs : List Glyph) : Scanned Token :=
  match cs with
  | [] => .error lex.between
  | c :: rest =>
    if isSpace c.char then
      match _h : skipSpace rest with
      | [] => .error lex.within
      | d :: after =>
        if d.char = '>' ∨ d.char = '/' then scanTagEnd lex name before.reverse (d :: after)
        else
          match _ha : scanAttribute lex (d :: after) with
          | .error o => .error o
          | .ok (a, after) => scanAttributes lex name (a :: before) after
    else scanTagEnd lex name before.reverse (c :: rest)
termination_by cs.length
decreasing_by
  have h1 := scanAttribute_lt _ha
  have h2 := skipSpace_le rest
  rw [_h, List.length_cons] at h2
  simp only [List.length_cons] at h1 ⊢
  omega

/-- What is left after the attributes of a tag is shorter. -/
theorem scanAttributes_lt {lex : Lexicon} {name : List Char} {before : List RawAttribute}
    {cs rest : List Glyph} {token : Token}
    (h : scanAttributes lex name before cs = .ok (token, rest)) : rest.length < cs.length := by
  fun_induction scanAttributes lex name before cs with
  | case1 => simp at h
  | case2 => simp at h
  | case3 _ c tail _ d after hs _ =>
    have h1 := scanTagEnd_lt h
    have h2 := skipSpace_le tail
    rw [hs] at h2
    simp only [List.length_cons] at h1 h2 ⊢
    omega
  | case4 => simp at h
  | case5 _ c tail _ d after hs _ _ _ ha ih =>
    have h1 := ih h
    have h2 := skipSpace_le tail
    have h3 := scanAttribute_lt ha
    rw [hs] at h2
    simp only [List.length_cons] at h2 h3 ⊢
    omega
  | case6 => exact scanTagEnd_lt h

/-- A start tag, from its name on. -/
def scanStartTag (lex : Lexicon) (cs : List Glyph) : Scanned Token :=
  match scanName lex cs with
  | .error o => .error o
  | .ok (name, after) => scanAttributes lex name [] after

/-- An end tag, from its name on. -/
def scanEndTag (lex : Lexicon) (cs : List Glyph) : Scanned Token :=
  match scanName lex cs with
  | .error o => .error o
  | .ok (name, after) =>
    match scanChar lex '>' (skipSpace after) with
    | .error o => .error o
    | .ok (_, rest) => .ok (.endTag name (lex.placeOf cs), rest)

/-! ## Markup -/

/-- The characters of `word` in turn, or the obstacle at the first that differs. -/
def scanWord (lex : Lexicon) : (word : List Char) → List Glyph → Scanned Unit
  | [], cs => .ok ((), cs)
  | c :: word, cs =>
    match scanChar lex c cs with
    | .error o => .error o
    | .ok (_, rest) => scanWord lex word rest

/-- The start of a CDATA section, after its first bracket.  Nothing is looked at
before as many code units are there as the keyword takes. -/
def scanCdataStart (lex : Lexicon) (cs : List Glyph) : Scanned Token :=
  if lex.limit < lex.placeOf cs + 6 * lex.encoding.unitSize then .error .unfinished
  else
    match scanWord lex "CDATA[".toList cs with
    | .error o => .error o
    | .ok (_, rest) => .ok (.cdata, rest)

/-- Markup, after its angle bracket. -/
def scanMarkup (lex : Lexicon) : List Glyph → Scanned Token
  | ⟨'!', _⟩ :: ⟨'-', _⟩ :: rest =>
    match scanComment lex rest with
    | .error o => .error o
    | .ok (_, rest) => .ok (.ignored, rest)
  | ⟨'!', _⟩ :: ⟨'[', _⟩ :: rest => scanCdataStart lex rest
  | [⟨'!', _⟩] => .error lex.between
  | ⟨'!', _⟩ :: rest => .error (.invalid (lex.placeOf rest))
  | ⟨'?', _⟩ :: rest =>
    match scanInstruction lex rest with
    | .error o => .error o
    | .ok (.declaration, rest) => .ok (.declaration, rest)
    | .ok (_, rest) => .ok (.ignored, rest)
  | ⟨'/', _⟩ :: rest => scanEndTag lex rest
  | cs => scanStartTag lex cs

/-! ## Text -/

/-- Whether a line ends with a character. -/
def Lexicon.endsLine (lex : Lexicon) (c : Char) : Bool :=
  c == '\n' || (c == '\r' && lex.isDocument)

/-- The end of a line of which the first character is given.  A carriage return at the
end of the input might have been followed by a line feed. -/
def scanLineEnd (lex : Lexicon) (c : Char) (rest : List Glyph) : Scanned Token :=
  if c = '\n' then .ok (.lineEnd, rest)
  else if rest.isEmpty && lex.tail.ended then .ok (.trailingLineEnd, [])
  else .ok (.lineEnd, afterReturn rest)

/-- A run of text up to a bound, after the characters read before in reverse order. -/
def scanText (lex : Lexicon) (bound : Nat) (before : List Char) : List Glyph → Scanned Token
  | [] => .ok (.text before.reverse, [])
  | g :: rest =>
    if g.char == '<' || g.char == '&' || lex.endsLine g.char || !lex.fits bound g rest then
      .ok (.text before.reverse, g :: rest)
    else if g.char == ']' && Glyph.startWith rest [']', '>'] then
      .error (.invalid (lex.placeOf (rest.drop 1)))
    else scanText lex bound (g.char :: before) rest

/-- A run of text of which the first character is given.  Brackets at the very end of the
input might begin the mark that text may not hold. -/
def scanRun (lex : Lexicon) (g : Glyph) (rest : List Glyph) : Scanned Token :=
  let bound := lex.runEnd g rest
  if !lex.fits bound g rest then .ok (.trailing (g.char :: Glyph.chars rest), [])
  else if g.char == ']' && Glyph.startWith rest [']', '>'] then
    .error (.invalid (lex.placeOf (rest.drop 1)))
  else scanText lex bound [g.char] rest

/-- The token at the front of an input of which the first character is given. -/
def scanToken (lex : Lexicon) (g : Glyph) (rest : List Glyph) : Scanned Token :=
  if g.char = '<' then scanMarkup lex rest
  else if g.char = '&' then
    match scanReference lex rest with
    | .error o => .error o
    | .ok (ref, rest) => .ok (.reference ref, rest)
  else if lex.endsLine g.char then scanLineEnd lex g.char rest
  else scanRun lex g rest

/-! ## CDATA sections -/

/-- A run of a CDATA section up to a bound, after the characters read before in reverse
order.  Every closing bracket begins a new run. -/
def scanCdataText (lex : Lexicon) (bound : Nat) (before : List Char) :
    List Glyph → Scanned Token
  | [] => .ok (.text before.reverse, [])
  | g :: rest =>
    if g.char == ']' || lex.endsLine g.char || bound < lex.placeAfter g then
      .ok (.text before.reverse, g :: rest)
    else scanCdataText lex bound (g.char :: before) rest

/-- The token at the front of a part of a CDATA section of which the first character is
given. -/
def scanCdataToken (lex : Lexicon) (g : Glyph) (rest : List Glyph) : Scanned Token :=
  let bound := lex.runEnd g rest
  if !lex.fits bound g rest then .error .unfinished
  else if g.char == ']' && Glyph.startWith rest [']', '>'] then .ok (.cdataEnd, rest.drop 2)
  else if lex.endsLine g.char then
    match scanLineEnd lex g.char rest with
    | .ok (.trailingLineEnd, _) => .error .unfinished
    | scanned => scanned
  else scanCdataText lex bound [g.char] rest

/-- The token at the front of content or of a part of a CDATA section. -/
def scanNext (lex : Lexicon) (inCdata : Bool) (g : Glyph) (rest : List Glyph) :
    Scanned Token :=
  if inCdata then scanCdataToken lex g rest else scanToken lex g rest

/-! ## Lengths -/

/-- What is left after a start tag is shorter. -/
theorem scanStartTag_lt {lex : Lexicon} {cs rest : List Glyph} {token : Token}
    (h : scanStartTag lex cs = .ok (token, rest)) : rest.length < cs.length := by
  unfold scanStartTag at h
  split at h
  · simp at h
  · next hn =>
    have h1 := scanName_lt hn
    have h2 := scanAttributes_lt h
    omega

/-- What is left after an end tag is shorter. -/
theorem scanEndTag_lt {lex : Lexicon} {cs rest : List Glyph} {token : Token}
    (h : scanEndTag lex cs = .ok (token, rest)) : rest.length < cs.length := by
  unfold scanEndTag at h
  split at h
  · simp at h
  · next after hn =>
    split at h
    · simp at h
    · next hc =>
      simp only [Except.ok.injEq, Prod.mk.injEq] at h
      have h1 := scanName_lt hn
      have h2 := scanChar_lt hc
      have h3 := skipSpace_le after
      rw [← h.2]
      omega

/-- What is left after a word is no longer. -/
theorem scanWord_le {lex : Lexicon} {word : List Char} {cs rest : List Glyph} {u : Unit}
    (h : scanWord lex word cs = .ok (u, rest)) : rest.length ≤ cs.length := by
  induction word generalizing cs with
  | nil => simp [scanWord] at h; simp [h]
  | cons c word ih =>
    simp only [scanWord] at h
    split at h
    · simp at h
    · next hc =>
      have h1 := scanChar_lt hc
      have h2 := ih h
      omega

/-- What is left after the start of a CDATA section is no longer. -/
theorem scanCdataStart_le {lex : Lexicon} {cs rest : List Glyph} {token : Token}
    (h : scanCdataStart lex cs = .ok (token, rest)) : rest.length ≤ cs.length := by
  simp only [scanCdataStart] at h
  split at h
  · simp at h
  · split at h
    · simp at h
    · next hw =>
      simp only [Except.ok.injEq, Prod.mk.injEq] at h
      rw [← h.2]
      exact scanWord_le hw

/-- What is left after markup is no longer. -/
theorem scanMarkup_le {lex : Lexicon} {cs rest : List Glyph} {token : Token}
    (h : scanMarkup lex cs = .ok (token, rest)) : rest.length ≤ cs.length := by
  unfold scanMarkup at h
  split at h
  · split at h
    · simp at h
    · next hc =>
      simp only [Except.ok.injEq, Prod.mk.injEq] at h
      have := scanComment_lt hc
      rw [← h.2]
      simp only [List.length_cons]
      omega
  · have := scanCdataStart_le h
    simp only [List.length_cons]
    omega
  · simp at h
  · simp at h
  · split at h
    · simp at h
    · next hi =>
      simp only [Except.ok.injEq, Prod.mk.injEq] at h
      have := scanInstruction_lt hi
      rw [← h.2, List.length_cons]
      omega
    · next hi =>
      simp only [Except.ok.injEq, Prod.mk.injEq] at h
      have := scanInstruction_lt hi
      rw [← h.2, List.length_cons]
      omega
  · have := scanEndTag_lt h
    rw [List.length_cons]
    omega
  · have := scanStartTag_lt h
    omega

/-- What is left after the end of a line is no longer. -/
theorem scanLineEnd_le {lex : Lexicon} {c : Char} {cs rest : List Glyph} {token : Token}
    (h : scanLineEnd lex c cs = .ok (token, rest)) : rest.length ≤ cs.length := by
  have := afterReturn_le cs
  unfold scanLineEnd at h
  grind

/-- What is left after a run of text is no longer. -/
theorem scanText_le {lex : Lexicon} {bound : Nat} {before : List Char} {cs rest : List Glyph}
    {token : Token} (h : scanText lex bound before cs = .ok (token, rest)) :
    rest.length ≤ cs.length := by
  fun_induction scanText lex bound before cs with
  | case1 => simp at h; simp [h]
  | case2 => simp only [Except.ok.injEq, Prod.mk.injEq] at h; simp [← h.2]
  | case3 => simp at h
  | case4 _ _ _ _ _ ih => have := ih h; rw [List.length_cons]; omega

/-- What is left after a whole run of text is no longer than what follows its first
character. -/
theorem scanRun_le {lex : Lexicon} {g : Glyph} {cs rest : List Glyph} {token : Token}
    (h : scanRun lex g cs = .ok (token, rest)) : rest.length ≤ cs.length := by
  simp only [scanRun] at h
  split at h
  · simp only [Except.ok.injEq, Prod.mk.injEq] at h
    simp [← h.2]
  · split at h
    · simp at h
    · exact scanText_le h

/-- What is left after a token is no longer than what follows its first character. -/
theorem scanToken_le {lex : Lexicon} {g : Glyph} {cs rest : List Glyph} {token : Token}
    (h : scanToken lex g cs = .ok (token, rest)) : rest.length ≤ cs.length := by
  unfold scanToken at h
  split at h
  · exact scanMarkup_le h
  · split at h
    · split at h
      · simp at h
      · next hr =>
        simp only [Except.ok.injEq, Prod.mk.injEq] at h
        have := scanReference_lt hr
        rw [← h.2]
        omega
    · split at h
      · exact scanLineEnd_le h
      · exact scanRun_le h

/-- What is left after a run of a CDATA section is no longer. -/
theorem scanCdataText_le {lex : Lexicon} {bound : Nat} {before : List Char}
    {cs rest : List Glyph} {token : Token}
    (h : scanCdataText lex bound before cs = .ok (token, rest)) : rest.length ≤ cs.length := by
  fun_induction scanCdataText lex bound before cs with
  | case1 => simp at h; simp [h]
  | case2 => simp only [Except.ok.injEq, Prod.mk.injEq] at h; simp [← h.2]
  | case3 _ _ _ _ ih => have := ih h; rw [List.length_cons]; omega

/-- What is left after a token of a CDATA section is no longer than what follows its first
character. -/
theorem scanCdataToken_le {lex : Lexicon} {g : Glyph} {cs rest : List Glyph} {token : Token}
    (h : scanCdataToken lex g cs = .ok (token, rest)) : rest.length ≤ cs.length := by
  simp only [scanCdataToken] at h
  split at h
  · simp at h
  · split at h
    · simp only [Except.ok.injEq, Prod.mk.injEq] at h
      simp [← h.2]
    · split at h
      · split at h
        · simp at h
        · exact scanLineEnd_le h
      · exact scanCdataText_le h

/-- What is left after a token is no longer than what follows its first character, in
content and in CDATA sections. -/
theorem scanNext_le {lex : Lexicon} {inCdata : Bool} {g : Glyph} {cs rest : List Glyph}
    {token : Token} (h : scanNext lex inCdata g cs = .ok (token, rest)) :
    rest.length ≤ cs.length := by
  unfold scanNext at h
  split at h
  · exact scanCdataToken_le h
  · exact scanToken_le h

end Metalink.Xml
