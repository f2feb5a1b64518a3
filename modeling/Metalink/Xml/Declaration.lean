import Metalink.Xml.Scan

/-!
# The XML declaration

A document may begin by giving the version of XML, its encoding, and whether it
stands alone, in this order.
-/

namespace Metalink.Xml

/-- What an XML declaration says: the name of the encoding, with its place, and whether the
document claims to stand alone. -/
structure Declaration where
  encoding : Option (List Char × Nat)
  standalone : Bool
deriving Repr

/-- A part of the declaration: a name and a value, with their places. -/
structure Setting where
  name : List Char
  place : Nat
  value : List Char
  valuePlace : Nat
deriving Repr

/-- The result of reading a part of the declaration, or the place that is at fault. -/
abbrev Declaring (α : Type) := Except Nat α

/-- Whether a value may hold a character. -/
def isSettingChar (c : Char) : Bool :=
  isLetter c || isDecimal c || c == '.' || c == '-' || c == '_'

/-- Whether a name may hold a character. -/
def isSettingNameChar (c : Char) : Bool :=
  c.toNat < 0x80 && !isSpace c && c != '='

/-- The value of a setting after its opening quote. -/
def scanSettingValue (lex : Lexicon) (quote : Char) (name : List Char) (place : Nat)
    (cs : List Glyph) : Declaring (Setting × List Glyph) :=
  match cs.dropWhile fun g => isSettingChar g.char with
  | g :: rest =>
    if g.char = quote then
      let value := Glyph.chars (cs.takeWhile fun g => isSettingChar g.char)
      .ok (⟨name, place, value, lex.placeOf cs⟩, rest)
    else .error g.place
  | [] => .error lex.stop

/-- The next setting and the rest of the declaration, or nothing if there is only
white space left. -/
def scanSetting (lex : Lexicon) (cs : List Glyph) :
    Declaring (Option (Setting × List Glyph)) :=
  match cs with
  | [] => .ok none
  | g :: rest =>
    if !isSpace g.char then .error g.place
    else
      let start := skipSpace rest
      if start.isEmpty then .ok none
      else
        let name := Glyph.chars (start.takeWhile fun g => isSettingNameChar g.char)
        match skipSpace (start.dropWhile fun g => isSettingNameChar g.char) with
        | ⟨'=', equals⟩ :: rest =>
          if name = [] then .error equals
          else
            match skipSpace rest with
            | q :: rest =>
              if q.char == '"' || q.char == '\'' then
                match scanSettingValue lex q.char name (lex.placeOf start) rest with
                | .ok setting => .ok (some setting)
                | .error place => .error place
              else .error q.place
            | [] => .error lex.stop
        | left => .error (lex.placeOf left)

/-- The end of a declaration. -/
def endDeclaration (declaration : Declaration) (cs : List Glyph) : Declaring Declaration :=
  match skipSpace cs with
  | [] => .ok declaration
  | g :: _ => .error g.place

/-- Whether the document stands alone, which is the last thing to be said. -/
def readStandalone (encoding : Option (List Char × Nat)) (setting : Setting)
    (rest : List Glyph) : Declaring Declaration :=
  if setting.name ≠ "standalone".toList then .error setting.place
  else if setting.value = "yes".toList then endDeclaration ⟨encoding, true⟩ rest
  else if setting.value = "no".toList then endDeclaration ⟨encoding, false⟩ rest
  else .error setting.valuePlace

/-- The settings after the version. -/
def readAfterVersion (lex : Lexicon) (setting : Setting) (rest : List Glyph) :
    Declaring Declaration :=
  if setting.name = "encoding".toList then
    if (setting.value.head?.map isLetter).getD false then
      let encoding := some (setting.value, setting.valuePlace)
      match scanSetting lex rest with
      | .error place => .error place
      | .ok none => .ok ⟨encoding, false⟩
      | .ok (some (setting, rest)) => readStandalone encoding setting rest
    else .error setting.valuePlace
  else readStandalone none setting rest

/-- Read what stands between the target of the declaration and its end. -/
def Declaration.ofGlyphs (lex : Lexicon) (cs : List Glyph) : Declaring Declaration :=
  match scanSetting lex cs with
  | .error place => .error place
  | .ok none => .error (lex.placeOf cs)
  | .ok (some (version, rest)) =>
    if version.name ≠ "version".toList then .error version.place
    else
      match scanSetting lex rest with
      | .error place => .error place
      | .ok none => .ok ⟨none, false⟩
      | .ok (some (setting, rest)) => readAfterVersion lex setting rest

end Metalink.Xml
