import Metalink.CommandLine.Grammar
import Metalink.Error
import Metalink.Path
import Metalink.Settings
import Metalink.Text.Digit

/-!
# Commands

The command line is made of general options, the name of a command, and the arguments
of that command.  There are two commands: one verifies a file against a metalink, the
other shows what a metalink says.

Arguments that make a command give it paths without null characters.
-/

namespace Metalink.CommandLine

open Metalink.Schema Metalink.Text

/-! ## Numbers -/

/-- The integer that digits of any scripts denote, given their values. -/
def ofDigitValues (negative : Bool) (values : List Nat) : Int :=
  let n : Nat := values.foldl (fun n d => 10 * n + d) 0
  if negative then -(n : Int) else n

/-- Read an integer in digits of any scripts.  White space may stand around it, a sign
in front, and single underscores within. -/
def readNumber (s : String) : Option Int :=
  match splitSign (trimNumber s.toList) with
  | (negative, digits) =>
    match (dropUnderscores digits).mapM digit? with
    | none | some [] => none
    | some values =>
      if maxDigits < values.length then none else some (ofDigitValues negative values)

/-! ## General options -/

/-- The option for more records. -/
def verboseOption : OptionRule := ⟨"--verbose", some 'v', false⟩

/-- The option for the size of pieces. -/
def chunkSizeOption : OptionRule := ⟨"--chunk-size", none, true⟩

/-- General options, which stand before the command. -/
def generalGrammar : Grammar := ⟨[chunkSizeOption, verboseOption], false⟩

/-- What the general options ask for: whether all records are wanted, and the size of pieces, if
one is given. -/
structure GeneralOptions where
  verbose : Bool
  chunkSize : Option PositiveInt
deriving DecidableEq

namespace GeneralOptions

/-- The size that an option gives. -/
def readChunkSize (value : String) : Except Misuse PositiveInt :=
  match readNumber value with
  | none => .error (.badValue chunkSizeOption.long value)
  | some n => if h : 0 < n then .ok ⟨n, h⟩ else .error (.badValue chunkSizeOption.long value)

/-- The general options among sorted arguments; the last of each counts. -/
def ofSorted (sorted : Sorted) : Except Misuse GeneralOptions :=
  let verbose := (sorted.last? verboseOption.long).isSome
  match sorted.last? chunkSizeOption.long with
  | none => .ok ⟨verbose, none⟩
  | some value => (readChunkSize value).map fun size => ⟨verbose, some size⟩

/-- The settings that general options ask for. -/
def fields (options : GeneralOptions) : Fields :=
  let size := match options.chunkSize with
    | some size => Value.int size.val
    | none => .null
  let level := if options.verbose then Value.text LogLevel.debug.label else .null
  [("chunk_size", size), ("log_level", level)]

end GeneralOptions

/-! ## Commands -/

/-- The commands. -/
inductive CommandName where
  | verify
  | describe
deriving DecidableEq, Repr

/-- The command with a given name. -/
def CommandName.ofString? (s : String) : Option CommandName :=
  if s = "verify" then some .verify else if s = "show" then some .describe else none

/-- What is asked for before the arguments of the command are looked at. -/
structure Invocation where
  options : GeneralOptions
  command : CommandName
  arguments : List String
deriving DecidableEq

/-- Take the command line apart. -/
def Invocation.ofArguments (arguments : List String) : Except Misuse Invocation :=
  match generalGrammar.sort arguments with
  | .error misuse => .error misuse
  | .ok sorted =>
    match GeneralOptions.ofSorted sorted, sorted.operands with
    | .error misuse, _ => .error misuse
    | .ok _, [] => .error .missingCommand
    | .ok options, name :: rest =>
      match CommandName.ofString? name with
      | none => .error (.unknownCommand name)
      | some command => .ok ⟨options, command, rest⟩

/-! ## Arguments of commands -/

/-- A command with its arguments.  The file that is verified has its own name as the expected
one, unless another one is given. -/
inductive Command where
  | verify (metalink file : Path) (name : Option String)
  | describe (metalink : Path) (name : String)
deriving DecidableEq, Repr

/-- Why arguments do not make a command: the command line is misused, or an argument is one that
the system does not take. -/
inductive Refusal where
  | misuse (misuse : Misuse)
  | escape (escape : Escape)
deriving DecidableEq, Repr

/-- The option for the name that a metalink must describe. -/
def nameOption : OptionRule := ⟨"--name", some 'n', true⟩

/-- Options of commands, which may stand anywhere. -/
def commandGrammar : Grammar := ⟨[nameOption], true⟩

/-- The first operand as a path, and the other operands. -/
def takePath (title : String) : List String → Except Refusal (Path × List String)
  | [] => .error (.misuse (.missingOperand title))
  | operand :: rest =>
    let path := Path.ofString operand
    if path.HasNull then .error (.escape .nullInPath) else .ok (path, rest)

/-- No operand must be left over. -/
def takeEnd : List String → Except Refusal Unit
  | [] => .ok ()
  | operand :: _ => .error (.misuse (.extraOperand operand))

/-- The name that must be given. -/
def takeName (sorted : Sorted) : Except Refusal String :=
  match sorted.last? nameOption.long with
  | some name => .ok name
  | none => .error (.misuse (.missingOption nameOption.long))

namespace Command

/-- The command for verifying, from its sorted arguments. -/
def verifyOfSorted (sorted : Sorted) : Except Refusal Command := do
  let (metalink, rest) ← takePath "METALINK" sorted.operands
  let (file, rest) ← takePath "FILE" rest
  takeEnd rest
  return .verify metalink file (sorted.last? nameOption.long)

/-- The command for showing, from its sorted arguments. -/
def describeOfSorted (sorted : Sorted) : Except Refusal Command := do
  let (metalink, rest) ← takePath "METALINK" sorted.operands
  let name ← takeName sorted
  takeEnd rest
  return .describe metalink name

/-- A command from its arguments. -/
def ofArguments (name : CommandName) (arguments : List String) : Except Refusal Command :=
  match commandGrammar.sort arguments with
  | .error misuse => .error (.misuse misuse)
  | .ok sorted =>
    match name with
    | .verify => verifyOfSorted sorted
    | .describe => describeOfSorted sorted

/-- The files that a command reads. -/
def paths : Command → List Path
  | verify metalink file _ => [metalink, file]
  | describe metalink _ => [metalink]

end Command

end Metalink.CommandLine
