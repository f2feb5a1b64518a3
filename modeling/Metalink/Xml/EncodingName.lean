/-!
# Names of encodings

The name of an encoding may be written in upper or lower case, and with any signs
between its words.  An encoding has proper names and further ones; in a further name a
full stop may stand for an underscore.
-/

namespace Metalink.Xml

/-- The usual form of an encoding's name: lower case, and one underscore for each
run of other characters between letters, digits and full stops. -/
def usualName (name : List Char) : List Char :=
  go false name
where
  /-- Continue after a run of separators, or directly after a letter. -/
  go (gap : Bool) : List Char → List Char
    | [] => []
    | c :: rest =>
      if c.isAlphanum || c == '.' then
        if gap then '_' :: c.toLower :: go false rest else c.toLower :: go false rest
      else go true rest

/-- The names of an encoding, or of several that are treated alike, in their usual form: those
that count as they are, and those in which full stops may stand for underscores. -/
structure NameSet where
  proper : List String
  further : List String

/-- Whether a name in its usual form is one of a set. -/
def NameSet.has (names : NameSet) (usual : List Char) : Bool :=
  let name := String.ofList usual
  names.proper.contains name || names.further.contains name ||
    names.further.contains (String.ofList (usual.map fun c => if c == '.' then '_' else c))

end Metalink.Xml
