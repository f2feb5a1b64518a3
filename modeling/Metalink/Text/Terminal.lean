/-!
# Text without control sequences

Terminals take an escape character, a bracket, parameters and a letter for a command,
such as a change of colour.  Text for other readers goes without such sequences.
-/

namespace Metalink.Text

/-- Characters that stand for parameters of a control sequence. -/
def isParameter (c : Char) : Bool :=
  c.isDigit || c == ';' || c == '?'

/-- What follows the control sequence that characters begin with, given that an escape
character and a bracket have been read. -/
def afterSequence? (cs : List Char) : Option { rest : List Char // rest.length < cs.length } :=
  match h : cs.dropWhile isParameter with
  | c :: rest =>
    if c.isAlpha then
      some ⟨rest, by
        have hl := (List.dropWhile_suffix (l := cs) isParameter).length_le
        rw [h, List.length_cons] at hl
        exact hl⟩
    else none
  | [] => none

/-- The characters without control sequences. -/
def withoutSequences : List Char → List Char
  | [] => []
  | '\x1b' :: '[' :: rest =>
    match afterSequence? rest with
    | some ⟨after, _⟩ => withoutSequences after
    | none => '\x1b' :: '[' :: withoutSequences rest
  | c :: rest => c :: withoutSequences rest
termination_by cs => cs.length
decreasing_by
  all_goals
    simp only [List.length_cons]
    omega

/-- A text without control sequences. -/
def plain (s : String) : String :=
  String.ofList (withoutSequences s.toList)

end Metalink.Text
