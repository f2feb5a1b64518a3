import Metalink.CommandLine.Command
import Metalink.Report
import Metalink.Session
import Metalink.Verification

/-!
# Running the command line

A run ends with an exit code, and has printed a report and written lines of a log.

The name that a metalink must describe is the given one, or else that of the file.
-/

namespace Metalink.CommandLine

open Metalink.Schema

/-! ## Runs -/

/-- How a run ends: the command did what was asked for, an error was reported, the command line
was misused, the settings were refused, or something failed that is not reported. -/
inductive Ending where
  | succeeded
  | failed
  | misused (misuse : Misuse)
  | refused (violations : List Violation)
  | escaped (escape : Escape)
deriving DecidableEq, Repr

/-- The exit code of a run. -/
def Ending.exitCode : Ending → Nat
  | succeeded => 0
  | failed | refused _ | escaped _ => 1
  | misused _ => 2

/-- What a run leaves behind: how it ended, what it printed, and the lines of its log. -/
structure Outcome where
  ending : Ending
  printed : String
  logged : List Line
deriving DecidableEq, Repr

/-- A run that ends before its command is known. -/
def Outcome.silent (ending : Ending) : Outcome := ⟨ending, "", []⟩

/-- A run that fails, with a report under a name if there is one. -/
def Outcome.failing (name : String) (logged : List Line) : Failure → Outcome
  | .error e => ⟨.failed, Report.failed name e, logged⟩
  | .escape e => ⟨.escaped e, "", logged⟩

/-- What a run works with: its session, whether FIPS compliance is on, the files, and the
host. -/
structure Workplace where
  session : Session
  fips : Bool
  storage : Storage
  host : Digest.Host

namespace Workplace

/-- The engine that digests files with given settings. -/
def engine (workplace : Workplace) (settings : Settings) : Digest.Engine :=
  ⟨settings.chunkSize.val, workplace.fips, workplace.storage, workplace.host⟩

/-- Start the application in the session. -/
def start (workplace : Workplace) (settings : Settings) : Workplace :=
  { workplace with session := workplace.session.act (.start settings) }

end Workplace

/-! ## Commands -/

/-- The name that a metalink must describe: the given one, or that of the file if none
is given or the given one is empty. -/
def expectedName (file : Path) (name : Option String) : String :=
  match name with
  | some given => if given = "" then file.name else given
  | none => file.name

/-- Verify a file against a metalink. -/
def runVerify (workplace : Workplace) (settings : Settings) (metalink file : Path)
    (name : Option String) : Outcome :=
  let expected := expectedName file name
  match parseFile workplace.storage metalink expected with
  | (.error failure, log) =>
    .failing expected (workplace.session.write Logging.readerLogger log) failure
  | (.ok doc, log) =>
    let run := verify (workplace.engine settings).digest file doc.hashes
    let logged := workplace.session.write Logging.readerLogger log ++
      workplace.session.write Logging.commandLogger run.log
    match run.outcome with
    | .ok verification => ⟨.succeeded, Report.passed expected verification, logged⟩
    | .error failure => .failing expected logged failure

/-- Show what a metalink says. -/
def runDescribe (workplace : Workplace) (metalink : Path) (name : String) : Outcome :=
  match parseFile workplace.storage metalink name with
  | (.error failure, log) =>
    .failing name (workplace.session.write Logging.readerLogger log) failure
  | (.ok doc, log) =>
    ⟨.succeeded, Report.contents doc, workplace.session.write Logging.readerLogger log⟩

/-- Run a command. -/
def Command.run (command : Command) (workplace : Workplace) (settings : Settings) : Outcome :=
  match command with
  | .verify metalink file name => runVerify workplace settings metalink file name
  | .describe metalink name => runDescribe workplace metalink name

/-! ## The command line -/

/-- The settings of a run: those that are fixed beforehand, or else those that the
options and the variables of the session give. -/
def settingsFor (workplace : Workplace) (preset : Option Settings) (options : GeneralOptions) :
    Checked Settings :=
  match preset with
  | some settings => .ok settings
  | none => Settings.build options.fields workplace.session.vars

/-- Run the command line.  Settings are looked at before the arguments of the command. -/
def run (workplace : Workplace) (preset : Option Settings) (arguments : List String) :
    Outcome :=
  match Invocation.ofArguments arguments with
  | .error misuse => .silent (.misused misuse)
  | .ok invocation =>
    match settingsFor workplace preset invocation.options with
    | .error violations => .silent (.refused violations)
    | .ok settings =>
      match Command.ofArguments invocation.command invocation.arguments with
      | .error (.misuse misuse) => .silent (.misused misuse)
      | .error (.escape escape) => .silent (.escaped escape)
      | .ok command => command.run (workplace.start settings) settings

end Metalink.CommandLine
