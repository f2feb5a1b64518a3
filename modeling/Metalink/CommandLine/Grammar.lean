/-!
# The grammar of arguments

Arguments are options, values of options, and operands.  An option has a long name,
and may have a short one of a single letter; letters may be joined after one dash.
Two dashes alone end the options.

Operands keep their order, and every option that is found is one of the grammar.

Current gaps:

- Help and the completion of shells are left out: options that ask for these are like any
  others that the grammar does not have.
- Of how to use a command, which stands in front of a misuse, nothing is written.
-/

namespace Metalink.CommandLine

/-- How the command line can be misused. -/
inductive Misuse where
  | unknownOption (option : String)
  | missingValue (option : String)
  | unexpectedValue (option : String)
  | badValue (option value : String)
  | missingCommand
  | unknownCommand (name : String)
  | missingOption (option : String)
  | missingOperand (name : String)
  | extraOperand (operand : String)
deriving DecidableEq, Repr

/-- The wording of a misuse. -/
def Misuse.message : Misuse → String
  | unknownOption option => "No such option: " ++ option
  | missingValue option => "Option '" ++ option ++ "' requires an argument."
  | unexpectedValue option => "Option '" ++ option ++ "' does not take a value."
  | badValue option value => "Invalid value for '" ++ option ++ "': '" ++ value ++ "'."
  | missingCommand => "Missing command."
  | unknownCommand name => "No such command '" ++ name ++ "'."
  | missingOption option => "Missing option '" ++ option ++ "'."
  | missingOperand name => "Missing argument '" ++ name ++ "'."
  | extraOperand operand => "Got unexpected extra argument (" ++ operand ++ ")"

/-- An option of a command: its long name with the dashes, its short name without the dash, and
whether a value follows. -/
structure OptionRule where
  long : String
  short : Option Char
  takesValue : Bool
deriving DecidableEq, Repr

/-- The arguments that a command takes.  Options may stand after operands, or only before
them. -/
structure Grammar where
  options : List OptionRule
  mixed : Bool

/-- Arguments sorted out: the long names of the options, with the values of those that take one,
and the operands. -/
structure Sorted where
  options : List (String × String)
  operands : List String
deriving DecidableEq, Repr

namespace Sorted

/-- Nothing is given. -/
def empty : Sorted := ⟨[], []⟩

/-- One more option in front. -/
def withOption (rule : OptionRule) (value : String) (sorted : Sorted) : Sorted :=
  { sorted with options := (rule.long, value) :: sorted.options }

/-- One more operand in front. -/
def withOperand (operand : String) (sorted : Sorted) : Sorted :=
  { sorted with operands := operand :: sorted.operands }

/-- The value that an option is given last. -/
def last? (sorted : Sorted) (long : String) : Option String :=
  (sorted.options.reverse.find? fun o => o.1 == long).map Prod.snd

end Sorted

/-! ## Single arguments -/

/-- An argument as it looks: two dashes alone, an option by its long name with or without a value
attached, short names after one dash, or anything else. -/
inductive Word where
  | separator
  | named (name : String) (value : Option String)
  | letters (cs : List Char)
  | operand
deriving DecidableEq, Repr

/-- What stands in front of the first equals sign, and what after it if there is one. -/
def splitValue (s : String) : String × Option String :=
  let cs := s.toList
  match cs.dropWhile (· != '=') with
  | _ :: value => (String.ofList (cs.takeWhile (· != '=')), some (String.ofList value))
  | [] => (s, none)

/-- How an argument looks. -/
def Word.of (argument : String) : Word :=
  match argument.toList with
  | ['-', '-'] => .separator
  | '-' :: '-' :: _ => .named (splitValue argument).1 (splitValue argument).2
  | '-' :: c :: cs => .letters (c :: cs)
  | _ => .operand

/-! ## Options -/

namespace Grammar

/-- The option with a long name. -/
def long? (grammar : Grammar) (name : String) : Option OptionRule :=
  grammar.options.find? fun rule => rule.long == name

/-- The option with a short name. -/
def short? (grammar : Grammar) (letter : Char) : Option OptionRule :=
  grammar.options.find? fun rule => rule.short == some letter

/-- What letters after one dash stand for: options without values, and perhaps one
that takes a value, which is all that follows its letter. -/
structure Letters where
  flags : List OptionRule
  valued : Option (OptionRule × List Char)
deriving DecidableEq, Repr

/-- Read letters up to one whose option takes a value. -/
def readLetters (grammar : Grammar) : List Char → Except Misuse Letters
  | [] => .ok ⟨[], none⟩
  | c :: cs =>
    match grammar.short? c with
    | none => .error (.unknownOption ("-" ++ c.toString))
    | some rule =>
      if rule.takesValue then .ok ⟨[], some (rule, cs)⟩
      else
        match grammar.readLetters cs with
        | .ok letters => .ok { letters with flags := rule :: letters.flags }
        | .error misuse => .error misuse

end Grammar

/-- Flags in front of what is sorted out. -/
def Sorted.withFlags (rules : List OptionRule) (sorted : Sorted) : Sorted :=
  rules.foldr (fun rule sorted => sorted.withOption rule "") sorted

/-! ## All arguments -/

namespace Grammar

/-- Sort arguments out. -/
def sort (grammar : Grammar) : List String → Except Misuse Sorted
  | [] => .ok .empty
  | argument :: rest =>
    match Word.of argument with
    | .separator => .ok ⟨[], rest⟩
    | .operand =>
      if grammar.mixed then (grammar.sort rest).map (Sorted.withOperand argument)
      else .ok ⟨[], argument :: rest⟩
    | .named name value =>
      match grammar.long? name with
      | none => .error (.unknownOption name)
      | some rule =>
        match rule.takesValue, value, rest with
        | true, some value, rest => (grammar.sort rest).map (Sorted.withOption rule value)
        | true, none, value :: rest => (grammar.sort rest).map (Sorted.withOption rule value)
        | true, none, [] => .error (.missingValue name)
        | false, none, rest => (grammar.sort rest).map (Sorted.withOption rule "")
        | false, some _, _ => .error (.unexpectedValue name)
    | .letters cs =>
      match grammar.readLetters cs with
      | .error misuse => .error misuse
      | .ok ⟨flags, none⟩ => (grammar.sort rest).map (Sorted.withFlags flags)
      | .ok ⟨flags, some (rule, c :: cs)⟩ =>
        (grammar.sort rest).map
          (Sorted.withFlags flags ∘ Sorted.withOption rule (String.ofList (c :: cs)))
      | .ok ⟨flags, some (rule, [])⟩ =>
        match rest with
        | value :: rest =>
          (grammar.sort rest).map (Sorted.withFlags flags ∘ Sorted.withOption rule value)
        | [] => .error (.missingValue rule.long)

end Grammar

end Metalink.CommandLine
