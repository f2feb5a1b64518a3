import Metalink.CommandLine.Run
import Std.Time.Zoned

/-!
# The program

Gathers what a run works with, runs the command line, prints what it leaves behind, and
exits with its code.
-/

namespace Metalink.Program

open Metalink.CommandLine

/-- The file that lists the variables of the process, each ended by a null character. -/
def variablesFile : String := "/proc/self/environ"

/-- The file that tells whether the kernel asks for FIPS compliance. -/
def fipsFile : String := "/proc/sys/crypto/fips_enabled"

/-- A name and a value around the first equals sign. -/
def readVariable (s : String) : String × String :=
  match splitValue s with
  | (name, value) => (name, value.getD "")

/-- The variables of the process. -/
def readVariables : IO Variables := do
  try
    let content ← IO.FS.readFile variablesFile
    return (content.splitOn "\x00").map readVariable
  catch _ => return []

/-- What the kernel says about FIPS compliance. -/
def readFips : IO Digest.FipsSource := do
  try
    return ⟨none, some (← IO.FS.readFile fipsFile)⟩
  catch _ => return ⟨none, none⟩

/-- What the clock shows. -/
def readMoment : IO Moment := do
  let now ← Std.Time.DateTime.now
  return ⟨now.year.toNat, now.month.toNat, now.day.toNat, now.hour.toNat, now.minute.toNat,
    now.second.toNat, now.nanosecond.toNat / 1000000, now.offset.second.val / 60⟩

/-- Failures that are worded in one way, however the system words them. -/
def knownFaults : List SystemFault :=
  [.noSuchFile, .notDirectory, .isDirectory, .nameTooLong]

/-- A failure by its number, with the text that came with it if it is not a known one. -/
def faultOf (code : UInt32) (text : String) : SystemFault :=
  (knownFaults.find? fun fault => fault.errno = (code.toNat : Int)).getD ⟨code.toNat, text⟩

/-- A failure of the operating system. -/
def systemFault : IO.Error → SystemFault
  | .noFileOrDirectory _ code text | .interrupted _ code text | .permissionDenied _ code text
  | .resourceExhausted _ code text | .inappropriateType _ code text | .noSuchThing _ code text
  | .alreadyExists _ code text | .invalidArgument _ code text | .otherError code text
  | .resourceBusy code text | .resourceVanished code text | .unsupportedOperation code text
  | .hardwareFault code text | .unsatisfiedConstraints code text | .illegalOperation code text
  | .protocolError code text | .timeExpired code text => faultOf code text
  | .unexpectedEof => ⟨5, "Input/output error"⟩
  | .userError text => ⟨5, text⟩

/-- Open a file and read it. -/
def readEntry (path : Path) : IO (Except SystemFault Stream) := do
  try
    let content ← IO.FS.readBinFile path.text
    return .ok (.whole content.toList)
  catch e => return .error (systemFault e)

/-- The files that the command line names. -/
def namedPaths (arguments : List String) : List Path :=
  match Invocation.ofArguments arguments with
  | .error _ => []
  | .ok invocation =>
    match Command.ofArguments invocation.command invocation.arguments with
    | .error _ => []
    | .ok command => command.paths

/-- The files that the command line names, as they are when the run begins. -/
def readStorage (arguments : List String) : IO Storage := do
  let entries ← (namedPaths arguments).mapM fun path => return (path, ← readEntry path)
  return fun path => (entries.lookup path).getD (.error .noSuchFile)

/-- What a run has to say about an ending without a report. -/
def complaint : Ending → List String
  | .succeeded | .failed => []
  | .misused misuse => ["Error: " ++ misuse.message]
  | .refused violations => violations.map fun v => v.placeText ++ ": " ++ v.rule.label
  | .escaped escape => [escape.message]

end Metalink.Program

open Metalink Metalink.Program in
/-- Run the command line. -/
def main (arguments : List String) : IO UInt32 := do
  let session : Session := ⟨← readVariables, ← readMoment, .fresh⟩
  let workplace : CommandLine.Workplace :=
    ⟨session, (← readFips).enabled, ← readStorage arguments, .standard⟩
  let outcome := CommandLine.run workplace none arguments
  for line in outcome.logged do
    IO.eprint line.painted
  IO.print outcome.printed
  for line in complaint outcome.ending do
    IO.eprintln line
  return outcome.ending.exitCode.toUInt32
