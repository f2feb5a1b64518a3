import Metalink.Digest.Engine
import Metalink.Schema.Check

/-!
# Settings

What can be chosen about a run: the environment that it runs in, the least severity
that is logged, and the size of the pieces that files are read in.  Each is taken from
the options of the caller, else from the variables of the process, else it has a
fixed value.

An option that is given decides its setting whatever the variables say.

Current gaps:

- The names and the values of variables are texts of characters.
-/

namespace Metalink

open Metalink.Schema

/-! ## The settings -/

/-- The environments that the program runs in. -/
inductive Environment where
  | development
  | production
  | testing
deriving DecidableEq, Repr

namespace Environment

/-- All environments. -/
def all : List Environment := [development, production, testing]

/-- The written name of an environment. -/
def label : Environment → String
  | development => "development"
  | production => "production"
  | testing => "testing"

/-- The environment with a given name. -/
def ofLabel? (s : String) : Option Environment :=
  all.find? fun environment => environment.label == s

end Environment

/-- A positive integer. -/
abbrev PositiveInt := { n : Int // 0 < n }

/-- The settings of a run: the environment that the program runs in, the least severity that is
logged, and the size of the pieces that files are read in. -/
structure Settings where
  environment : Environment
  logLevel : LogLevel
  chunkSize : PositiveInt
deriving DecidableEq

namespace Settings

/-- The settings where nothing is chosen. -/
def standard : Settings := ⟨.production, .info, ⟨Digest.defaultChunkSize, by decide⟩⟩

/-- The names of the settings. -/
def names : List String := ["environment", "log_level", "chunk_size"]

/-- Settings from their fields; unknown fields do not matter. -/
def ofFields (fields : Fields) : Checked Settings :=
  (defaulted fields "environment" standard.environment (checkName Environment.ofLabel?)).map
      Settings.mk
    |> Checked.taking
        (defaulted fields "log_level" standard.logLevel (checkName LogLevel.ofLabel?))
    |> Checked.taking (defaulted fields "chunk_size" standard.chunkSize (checkAbove 0))

end Settings

/-! ## Variables of the process -/

/-- The variables of a process with their values. -/
abbrev Variables := List (String × String)

namespace Variables

/-- What the name of every variable for a setting starts with. -/
def stem : String := "mirrorcheck_"

/-- The value of the variable for a setting.  Letter case does not matter in its name,
and the last one counts. -/
def value? (vars : Variables) (name : String) : Option String :=
  (vars.reverse.find? fun v => Text.lower v.1 == stem ++ name).map Prod.snd

/-- The settings that variables give, as text. -/
def fields (vars : Variables) : Fields :=
  Settings.names.filterMap fun name =>
    (vars.value? name).map fun s => (name, Value.text s)

end Variables

/-! ## Building settings -/

/-- Data that is null. -/
def isNull : Value → Bool
  | .null => true
  | _ => false

namespace Settings

/-- Settings from fields, and from variables where a field is absent. -/
def resolve (fields : Fields) (vars : Variables) : Checked Settings :=
  ofFields (fields ++ vars.fields)

/-- Settings from options, of which those that are null do not count, and from
variables. -/
def build (options : Fields) (vars : Variables) : Checked Settings :=
  resolve (options.filter fun field => !isNull field.2) vars

end Settings

end Metalink
