import Metalink.Xml.Token

/-!
# Tokens of the prolog

Outside content, a document is made of declarations.  They consist of names,
literals and punctuation, set off by white space.

Main statements: every token takes at least one character.
-/

namespace Metalink.Xml

/-! ## Tokens -/

/-- A literal: the characters between two quotes, the place of the closing one, and whether a
part of a code unit follows it, and the input ends with it. -/
structure Literal where
  value : List Glyph
  closing : Nat
  isTorn : Bool
deriving Repr

/-- How a value in a literal is scanned. -/
def Literal.lexicon (literal : Literal) (lex : Lexicon) : Lexicon :=
  lex.upTo literal.closing

/-- A token of the prolog.  What is ignored is a comment or a processing instruction; an opening
is the start of a declaration, with its keyword; a marked name has a mark of repetition after it,
and so may a closing parenthesis; a name token does not begin like a name; a pound name follows a
number sign; and a conditional section has a start and an end. -/
inductive PrologToken where
  | space
  | ignored
  | xmlDeclaration
  | opening (keyword : List Char)
  | conditional
  | element
  | name (name : List Char)
  | markedName (name : List Char)
  | nameToken
  | poundName (name : List Char)
  | literal (literal : Literal)
  | percent
  | parameter
  | comma
  | bar
  | openBracket
  | closeBracket
  | conditionalEnd
  | openParen
  | closeParen
  | closeParenStar
  | closeParenMarked
  | closing
deriving Repr

/-- Whether a token may be the last of the input although more of it might have
followed.  It then takes a part of a code unit with it. -/
def PrologToken.mayGoOn : PrologToken → Bool
  | name _ | nameToken | poundName _ | literal _ | closeBracket | closeParen => true
  | _ => false

/-! ## Scanning -/

/-- Whether a name may end before a character. -/
def endsName (c : Char) : Bool :=
  isSpace c || c == '>' || c == ')' || c == ',' || c == '|' || c == '[' || c == '%'

/-- Whether a name after a number sign may end before a character. -/
def endsPoundName (c : Char) : Bool :=
  isSpace c || c == '>' || c == ')' || c == '|' || c == '%'

/-- Whether a literal may be followed by a character. -/
def endsLiteral (c : Char) : Bool :=
  isSpace c || c == '>' || c == '%' || c == '['

/-- A mark of repetition. -/
def isMark (c : Char) : Bool :=
  c == '*' || c == '+' || c == '?'

/-- A token at the end of the characters, which stands if the input ends there. -/
def atEnd (lex : Lexicon) (token : PrologToken) : Scanned PrologToken :=
  if lex.tail.ended then .ok (token, []) else .error lex.within

/-- A name with what follows it: at the end of the input a part of a code unit makes it
another name. -/
def tornName (lex : Lexicon) (name : List Char) (after : List Glyph) : List Char :=
  if after.isEmpty && lex.tail == .oddByte then name ++ ['\uFFFD'] else name

/-- The rest of a name, of which the first character is given. -/
def scanNameRest (lex : Lexicon) (g : Glyph) (rest : List Glyph) : Scanned PrologToken :=
  let name := tornName lex (g.char :: nameRun lex rest) (afterName lex rest)
  let isName := lex.nameStart g.char
  let token := if isName then .name name else .nameToken
  match afterName lex rest with
  | [] => atEnd lex token
  | d :: after =>
    if endsName d.char then .ok (token, d :: after)
    else if isName && isMark d.char then .ok (.markedName name, after)
    else .error (.invalid d.place)

/-- A name after a number sign. -/
def scanPoundName (lex : Lexicon) : List Glyph → Scanned PrologToken
  | [] => .error lex.within
  | g :: rest =>
    if lex.nameStart g.char then
      let token := .poundName (tornName lex (g.char :: nameRun lex rest) (afterName lex rest))
      match afterName lex rest with
      | [] => atEnd lex token
      | d :: after =>
        if endsPoundName d.char then .ok (token, d :: after) else .error (.invalid d.place)
    else .error (.invalid g.place)

/-- A literal, after its opening quote. -/
def scanLiteral (lex : Lexicon) (quote : Char) (cs : List Glyph) : Scanned PrologToken :=
  let value := cs.takeWhile fun g => g.char != quote
  match cs.dropWhile fun g => g.char != quote with
  | [] => .error lex.within
  | closing :: [] =>
    if lex.tail.ended then
      .ok (.literal ⟨value, closing.place, lex.tail == .oddByte⟩, [])
    else .error (.invalid lex.stop)
  | closing :: d :: after =>
    if endsLiteral d.char then .ok (.literal ⟨value, closing.place, false⟩, d :: after)
    else .error (.invalid d.place)

/-- A percent sign, or a reference to a parameter entity after its percent sign. -/
def scanPercent (lex : Lexicon) : List Glyph → Scanned PrologToken
  | [] => .error lex.within
  | g :: rest =>
    if isSpace g.char || g.char == '%' then .ok (.percent, g :: rest)
    else
      match scanNameSemicolon lex (g :: rest) with
      | .error o => .error o
      | .ok (_, rest) => .ok (.parameter, rest)

/-- Whether the keyword of a declaration may hold a character: one byte tells that names
may start with it. -/
def isKeywordChar (lex : Lexicon) (c : Char) : Bool :=
  lex.nameStart c && lex.encoding.isNarrow c

/-- What follows the characters of a keyword. -/
def afterKeyword (lex : Lexicon) (cs : List Glyph) : List Glyph :=
  cs.dropWhile fun g => isKeywordChar lex g.char

/-- The keyword of a declaration.  A percent sign after it must not stand alone. -/
def scanKeyword (lex : Lexicon) (cs : List Glyph) : Scanned PrologToken :=
  let token := .opening (Glyph.chars (cs.takeWhile fun g => isKeywordChar lex g.char))
  match afterKeyword lex cs with
  | [] => .error lex.between
  | g :: rest =>
    if g.char == '%' then
      match rest with
      | [] => if lex.tail.ended then .error .unfinished else .ok (token, g :: rest)
      | d :: _ =>
        if isSpace d.char || d.char == '%' then .error (.invalid g.place)
        else .ok (token, g :: rest)
    else if isSpace g.char then .ok (token, g :: rest)
    else .error (.invalid g.place)

/-- A declaration or a comment, after its exclamation mark. -/
def scanDeclaration (lex : Lexicon) : List Glyph → Scanned PrologToken
  | [] => .error lex.between
  | ⟨'-', _⟩ :: rest =>
    match scanComment lex rest with
    | .error o => .error o
    | .ok (_, rest) => .ok (.ignored, rest)
  | ⟨'[', _⟩ :: rest => .ok (.conditional, rest)
  | g :: rest =>
    if isKeywordChar lex g.char then scanKeyword lex (g :: rest) else .error (.invalid g.place)

/-- Whether a character after an angle bracket starts the document element.  A character
that one byte does not tell counts too, and may be found to be invalid later. -/
def opensElement (lex : Lexicon) (c : Char) : Bool :=
  lex.nameStart c || !lex.encoding.isNarrow c

/-- What follows an angle bracket. -/
def scanAngle (lex : Lexicon) : List Glyph → Scanned PrologToken
  | [] => if lex.tail.leads then .ok (.element, []) else .error lex.between
  | ⟨'!', _⟩ :: rest => scanDeclaration lex rest
  | ⟨'?', _⟩ :: rest =>
    match scanInstruction lex rest with
    | .error o => .error o
    | .ok (.declaration, rest) => .ok (.xmlDeclaration, rest)
    | .ok (_, rest) => .ok (.ignored, rest)
  | g :: rest =>
    if opensElement lex g.char then .ok (.element, g :: rest) else .error (.invalid g.place)

/-- What follows a closing bracket. -/
def scanCloseBracket (lex : Lexicon) : List Glyph → Scanned PrologToken
  | ⟨']', _⟩ :: ⟨'>', _⟩ :: rest => .ok (.conditionalEnd, rest)
  | [⟨']', place⟩] =>
    if lex.tail.ended then .error .unfinished else .ok (.closeBracket, [⟨']', place⟩])
  | rest => .ok (.closeBracket, rest)

/-- What follows a closing parenthesis. -/
def scanCloseParen (lex : Lexicon) : List Glyph → Scanned PrologToken
  | [] => if lex.tail.ended then .ok (.closeParen, []) else .error (.invalid lex.stop)
  | g :: rest =>
    if g.char == '*' then .ok (.closeParenStar, rest)
    else if isMark g.char then .ok (.closeParenMarked, rest)
    else if isSpace g.char || g.char == '>' || g.char == ',' || g.char == '|' ||
        g.char == ')' then
      .ok (.closeParen, g :: rest)
    else .error (.invalid g.place)

/-- A character that is a token by itself. -/
def punctuation? (c : Char) : Option PrologToken :=
  if c == ',' then some .comma
  else if c == '[' then some .openBracket
  else if c == '(' then some .openParen
  else if c == '|' then some .bar
  else if c == '>' then some .closing
  else none

/-- A token that is neither white space nor part of a name, of which the first
character is given. -/
def scanSpecial (lex : Lexicon) (g : Glyph) (rest : List Glyph) : Scanned PrologToken :=
  if g.char == '<' then scanAngle lex rest
  else if g.char == '%' then scanPercent lex rest
  else if g.char == ']' then scanCloseBracket lex rest
  else if g.char == ')' then scanCloseParen lex rest
  else if g.char == '#' then scanPoundName lex rest
  else
    match punctuation? g.char with
    | some token => .ok (token, rest)
    | none => .error (.invalid g.place)

/-- The token at the front of an input of which the first character is given. -/
def scanProlog (lex : Lexicon) (g : Glyph) (rest : List Glyph) : Scanned PrologToken :=
  if isSpace g.char then .ok (.space, skipSpace rest)
  else if lex.nameChar g.char then scanNameRest lex g rest
  else if g.char == '"' || g.char == '\'' then scanLiteral lex g.char rest
  else scanSpecial lex g rest

/-! ## Lengths -/

/-- Nothing is left where a token reaches the end. -/
theorem atEnd_le {lex : Lexicon} {token t : PrologToken} {rest : List Glyph}
    (h : atEnd lex token = .ok (t, rest)) : rest = [] := by
  unfold atEnd at h
  split at h
  · simp at h
    simp [h]
  · simp at h

/-- What is left after a name is no longer. -/
theorem scanNameRest_le {lex : Lexicon} {g : Glyph} {cs rest : List Glyph} {t : PrologToken}
    (h : scanNameRest lex g cs = .ok (t, rest)) : rest.length ≤ cs.length := by
  have hd : (afterName lex cs).length ≤ cs.length := length_dropWhile_le _ cs
  simp only [scanNameRest] at h
  split at h
  · rw [atEnd_le h]
    simp
  · next e =>
    rw [e, List.length_cons] at hd
    split at h
    · simp only [Except.ok.injEq, Prod.mk.injEq] at h
      rw [← h.2, List.length_cons]
      omega
    · split at h
      · simp only [Except.ok.injEq, Prod.mk.injEq] at h
        rw [← h.2]
        omega
      · simp at h

/-- What is left after a name with a number sign is no longer. -/
theorem scanPoundName_le {lex : Lexicon} {cs rest : List Glyph} {t : PrologToken}
    (h : scanPoundName lex cs = .ok (t, rest)) : rest.length ≤ cs.length := by
  cases cs with
  | nil => simp [scanPoundName] at h
  | cons c cs =>
    have hd : (afterName lex cs).length ≤ cs.length := length_dropWhile_le _ cs
    simp only [scanPoundName] at h
    split at h
    · split at h
      · rw [atEnd_le h]
        simp
      · next e =>
        rw [e, List.length_cons] at hd
        split at h
        · simp only [Except.ok.injEq, Prod.mk.injEq] at h
          rw [← h.2, List.length_cons, List.length_cons]
          omega
        · simp at h
    · simp at h

/-- What is left after a literal is no longer. -/
theorem scanLiteral_le {lex : Lexicon} {q : Char} {cs rest : List Glyph} {t : PrologToken}
    (h : scanLiteral lex q cs = .ok (t, rest)) : rest.length ≤ cs.length := by
  have hd := length_dropWhile_le (fun g => g.char != q) cs
  simp only [scanLiteral] at h
  split at h
  · simp at h
  · split at h
    · simp only [Except.ok.injEq, Prod.mk.injEq] at h
      simp [← h.2]
    · simp at h
  · next e =>
    rw [e, List.length_cons, List.length_cons] at hd
    split at h
    · simp only [Except.ok.injEq, Prod.mk.injEq] at h
      rw [← h.2, List.length_cons]
      omega
    · simp at h

/-- What is left after a percent sign or a parameter reference is no longer. -/
theorem scanPercent_le {lex : Lexicon} {cs rest : List Glyph} {t : PrologToken}
    (h : scanPercent lex cs = .ok (t, rest)) : rest.length ≤ cs.length := by
  unfold scanPercent at h
  split at h
  · simp at h
  · split at h
    · simp only [Except.ok.injEq, Prod.mk.injEq] at h
      simp [← h.2]
    · split at h
      · simp at h
      · next hn =>
        simp only [Except.ok.injEq, Prod.mk.injEq] at h
        have := scanNameSemicolon_lt hn
        rw [← h.2]
        omega

/-- What is left after the keyword of a declaration is no longer. -/
theorem scanKeyword_le {lex : Lexicon} {cs rest : List Glyph} {t : PrologToken}
    (h : scanKeyword lex cs = .ok (t, rest)) : rest.length ≤ cs.length := by
  have hd : (afterKeyword lex cs).length ≤ cs.length := length_dropWhile_le _ cs
  simp only [scanKeyword] at h
  split at h
  · simp at h
  · next e =>
    rw [e] at hd
    repeat' split at h
    all_goals first
      | (simp only [Except.ok.injEq, Prod.mk.injEq] at h; rw [← h.2]; exact hd)
      | simp at h

/-- What is left after the start of a declaration is no longer. -/
theorem scanDeclaration_le {lex : Lexicon} {cs rest : List Glyph} {t : PrologToken}
    (h : scanDeclaration lex cs = .ok (t, rest)) : rest.length ≤ cs.length := by
  unfold scanDeclaration at h
  split at h
  · simp at h
  · split at h
    · simp at h
    · next hc =>
      simp only [Except.ok.injEq, Prod.mk.injEq] at h
      have := scanComment_lt hc
      rw [← h.2, List.length_cons]
      omega
  · simp only [Except.ok.injEq, Prod.mk.injEq] at h
    simp [← h.2]
  · split at h
    · exact scanKeyword_le h
    · simp at h

/-- What is left after a token that starts with an angle bracket is no longer. -/
theorem scanAngle_le {lex : Lexicon} {cs rest : List Glyph} {t : PrologToken}
    (h : scanAngle lex cs = .ok (t, rest)) : rest.length ≤ cs.length := by
  unfold scanAngle at h
  split at h
  · split at h
    · simp only [Except.ok.injEq, Prod.mk.injEq] at h
      simp [← h.2]
    · simp at h
  · have := scanDeclaration_le h
    rw [List.length_cons]
    omega
  · split at h
    · simp at h
    · next hi =>
      simp only [Except.ok.injEq, Prod.mk.injEq] at h
      have := scanInstruction_lt hi
      rw [← h.2, List.length_cons]
      omega
    · next hi =>
      simp only [Except.ok.injEq, Prod.mk.injEq] at h
      have := scanInstruction_lt hi
      rw [← h.2, List.length_cons]
      omega
  · split at h
    · simp only [Except.ok.injEq, Prod.mk.injEq] at h
      simp [← h.2]
    · simp at h

/-- What is left after closing brackets is no longer. -/
theorem scanCloseBracket_le {lex : Lexicon} {cs rest : List Glyph} {t : PrologToken}
    (h : scanCloseBracket lex cs = .ok (t, rest)) : rest.length ≤ cs.length := by
  unfold scanCloseBracket at h
  split at h
  · simp only [Except.ok.injEq, Prod.mk.injEq] at h
    rw [← h.2, List.length_cons, List.length_cons]
    omega
  · split at h
    · simp at h
    · simp only [Except.ok.injEq, Prod.mk.injEq] at h
      simp [← h.2]
  · simp only [Except.ok.injEq, Prod.mk.injEq] at h
    simp [← h.2]

/-- What is left after a closing parenthesis is no longer. -/
theorem scanCloseParen_le {lex : Lexicon} {cs rest : List Glyph} {t : PrologToken}
    (h : scanCloseParen lex cs = .ok (t, rest)) : rest.length ≤ cs.length := by
  unfold scanCloseParen at h
  repeat' split at h
  all_goals first
    | (simp only [Except.ok.injEq, Prod.mk.injEq] at h; simp [← h.2])
    | simp at h

/-- What is left after a token that starts with a special character is no longer. -/
theorem scanSpecial_le {lex : Lexicon} {g : Glyph} {cs rest : List Glyph} {t : PrologToken}
    (h : scanSpecial lex g cs = .ok (t, rest)) : rest.length ≤ cs.length := by
  unfold scanSpecial at h
  split at h
  · exact scanAngle_le h
  · split at h
    · exact scanPercent_le h
    · split at h
      · exact scanCloseBracket_le h
      · split at h
        · exact scanCloseParen_le h
        · split at h
          · exact scanPoundName_le h
          · split at h
            · simp only [Except.ok.injEq, Prod.mk.injEq] at h
              simp [← h.2]
            · simp at h

/-- What is left after a token is no longer than what follows its first character. -/
theorem scanProlog_le {lex : Lexicon} {g : Glyph} {cs rest : List Glyph} {t : PrologToken}
    (h : scanProlog lex g cs = .ok (t, rest)) : rest.length ≤ cs.length := by
  unfold scanProlog at h
  split at h
  · simp only [Except.ok.injEq, Prod.mk.injEq] at h
    rw [← h.2]
    exact skipSpace_le cs
  · split at h
    · exact scanNameRest_le h
    · split at h
      · exact scanLiteral_le h
      · exact scanSpecial_le h

end Metalink.Xml
