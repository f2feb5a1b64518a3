/-!
# File paths

A path is where it starts and the names it goes through.  Empty names and single
dots between slashes are dropped when a path is read; two dots are kept.
The written form of a path that was read reads back as the same path.
-/

namespace Metalink

/-- Where a path starts: at the working directory, at the root, or at the root written with
exactly two slashes. -/
inductive PathStart where
  | here
  | root
  | doubleRoot
deriving DecidableEq, Repr

/-- A path through named components, without empty ones and single dots. -/
structure Path where
  start : PathStart
  names : List String
deriving DecidableEq, Repr

/-- Split characters at every slash. -/
def splitSlash : List Char → List (List Char)
  | [] => [[]]
  | c :: rest =>
    match splitSlash rest with
    | [] => [[]]
    | first :: others => if c == '/' then [] :: first :: others else (c :: first) :: others

namespace Path

/-- How many slashes stand in front decides where the path starts. -/
def startOf : List Char → PathStart
  | '/' :: '/' :: '/' :: _ => .root
  | '/' :: '/' :: _ => .doubleRoot
  | '/' :: _ => .root
  | _ => .here

/-- Read a path. -/
def ofString (s : String) : Path where
  start := startOf s.toList
  names := ((splitSlash s.toList).filter fun n => n ≠ [] ∧ n ≠ ['.']).map String.ofList

/-- The last component, empty if there is none. -/
def name (p : Path) : String :=
  p.names.getLast?.getD ""

/-- The slashes in front. -/
def lead (p : Path) : String :=
  match p.start with
  | .here => ""
  | .root => "/"
  | .doubleRoot => "//"

/-- The written form: components joined by slashes, and a dot for the working
directory itself. -/
def text (p : Path) : String :=
  if p.start = .here ∧ p.names = [] then "." else p.lead ++ String.intercalate "/" p.names

instance : ToString Path := ⟨text⟩

/-- Whether some component holds the null character, which no system call takes. -/
def HasNull (p : Path) : Prop :=
  ∃ n ∈ p.names, '\x00' ∈ n.toList

instance (p : Path) : Decidable p.HasNull :=
  inferInstanceAs (Decidable (∃ n ∈ p.names, _))

end Path

end Metalink
