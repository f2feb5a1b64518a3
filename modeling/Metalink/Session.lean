import Metalink.Logging
import Metalink.Reader.Parse

/-!
# Work in a session

A session has variables, a clock and the state of its logging.  Work that is done in
it without a logger of its own writes through that.

Settings that are refused leave logging as it was, and so does a document for which
nothing is expected.
-/

namespace Metalink

open Metalink.Schema

/-- A session as the program sees it: its variables, what its clock shows, and the state of
logging. -/
structure Session where
  vars : Variables
  moment : Moment
  logging : Logging

namespace Session

/-- The session after an action on its logging. -/
def act (session : Session) (action : Logging.Action) : Session :=
  { session with logging := session.logging.act action }

/-- The lines that a log makes under a logger. -/
def write (session : Session) (logger : String) (log : Log) : List Line :=
  session.logging.writeAll session.moment logger log

/-- Start the application with given settings, or else with those of the variables. -/
def start (session : Session) (given : Option Settings) : Checked (Settings × Session) :=
  let settings : Checked Settings :=
    match given with
    | some settings => .ok settings
    | none => Settings.resolve [] session.vars
  settings.map fun settings => (settings, session.act (.start settings))

/-- Read a metalink, and write what there is to note.  The logger is asked for once it
is known what the document must describe. -/
def parse (session : Session) (source : Xml.Source) (expected : String) :
    Except Failure Document × List Line × Session :=
  match Reader.ofName? expected with
  | .error e => (.error (.error e), [], session)
  | .ok reader =>
    let session := session.act (.use Logging.readerLogger)
    let run := reader.parse source
    (run.outcome, session.write Logging.readerLogger run.log, session)

end Session

end Metalink
