import Metalink.Settings

/-!
# Logging

Records are written to sinks.  A process starts with one sink that nobody asked for;
configuring replaces all sinks by one, and the first use of a logger configures one if
that has not been done.

While logging is configured there is exactly one sink, which is that of the last
configuration, and using a logger does not replace it.

Current gaps:

- Lines do not show where in the program a record was written.
-/

namespace Metalink

/-! ## Lines -/

/-- A way to show text on a terminal, as the codes that turn it on. -/
abbrev Style := List Nat

/-- Text as it is. -/
def Style.plain : Style := []

/-- Green text. -/
def Style.green : Style := [32]

/-- Cyan text. -/
def Style.cyan : Style := [36]

/-- The style of a severity. -/
def LogLevel.style : LogLevel → Style
  | trace => [36, 1]
  | debug => [34, 1]
  | info => [1]
  | warning => [33, 1]
  | error => [31, 1]
  | critical => [41, 1]

/-- A line of text in parts, each with its style. -/
abbrev Line := List (Style × String)

namespace Line

/-- The text of a line without its styles. -/
def text (line : Line) : String :=
  String.join (line.map Prod.snd)

/-- Whether some part of the line has a style. -/
def isColoured (line : Line) : Bool :=
  line.any fun part => !part.1.isEmpty

/-- The text of a line with the codes for its styles. -/
def painted (line : Line) : String :=
  String.join (line.map fun (style, text) =>
    if style.isEmpty then text
    else "\x1b[" ++ String.intercalate ";" (style.map toString) ++ "m" ++ text ++ "\x1b[0m")

end Line

/-! ## Time -/

/-- A moment as clocks show it, with the number of minutes that the clock is ahead of universal
time. -/
structure Moment where
  year : Nat
  month : Nat
  day : Nat
  hour : Nat
  minute : Nat
  second : Nat
  millisecond : Nat
  offset : Int
deriving DecidableEq, Repr

/-- A text with characters in front to fill a width. -/
def fillLeft (fill : Char) (width : Nat) (s : String) : String :=
  String.ofList (List.replicate (width - s.length) fill) ++ s

/-- A text with spaces after it to fill a width. -/
def fillRight (width : Nat) (s : String) : String :=
  s ++ String.ofList (List.replicate (width - s.length) ' ')

namespace Moment

/-- A number in at least so many digits. -/
def digits (width n : Nat) : String := fillLeft '0' width (toString n)

/-- Year, month and day. -/
def date (m : Moment) : String :=
  digits 4 m.year ++ "-" ++ digits 2 m.month ++ "-" ++ digits 2 m.day

/-- Hour, minute and second. -/
def clock (m : Moment) : String :=
  digits 2 m.hour ++ ":" ++ digits 2 m.minute ++ ":" ++ digits 2 m.second

/-- The distance from universal time. -/
def zone (m : Moment) : String :=
  (if m.offset < 0 then "-" else "+") ++ digits 2 (m.offset.natAbs / 60) ++ ":" ++
    digits 2 (m.offset.natAbs % 60)

end Moment

/-! ## Sinks -/

/-- How a sink writes records: as in a process in which nothing has been configured, for reading
on a terminal, or for keeping. -/
inductive LineFormat where
  | initial
  | development
  | plain
deriving DecidableEq, Repr

namespace LineFormat

/-- The format for an environment. -/
def ofEnvironment : Environment → LineFormat
  | .development => development
  | .production | .testing => plain

/-- The line for a record of a logger.  The initial format and that for development also show the
place in the program where the record was written, as `:function:line` behind the logger; this
is left out. -/
def line (format : LineFormat) (moment : Moment) (logger : String) (record : LogRecord) : Line :=
  let level := record.level.label
  let time := moment.date ++ " " ++ moment.clock ++ "." ++ Moment.digits 3 moment.millisecond
  match format with
  | initial =>
    [(.plain, time ++ " | " ++ fillRight 8 level ++ " | " ++ logger ++ " - " ++
      record.message ++ "\n")]
  | development =>
    [(.green, time), (.plain, " | "), (record.level.style, fillRight 8 level), (.plain, " | "),
      (.cyan, logger), (.plain, " - "), (record.level.style, record.message), (.plain, "\n")]
  | plain =>
    [(.plain, moment.date ++ "[T]" ++ moment.clock ++ moment.zone ++ " [" ++ level ++ "] " ++
      logger ++ ": " ++ record.message ++ "\n")]

end LineFormat

/-- A sink for records: the least severity that it takes, and how it writes. -/
structure Sink where
  level : LogLevel
  format : LineFormat
deriving DecidableEq, Repr

/-- Whether a sink takes a record. -/
def Sink.takes (sink : Sink) (record : LogRecord) : Bool :=
  sink.level.rank ≤ record.level.rank

/-! ## The state of logging -/

/-- The state of logging in a process: the sinks, and whether logging has been configured. -/
structure Logging where
  sinks : List Sink
  configured : Bool
deriving DecidableEq, Repr

namespace Logging

/-- A process that has just started. -/
def fresh : Logging := ⟨[⟨.debug, .initial⟩], false⟩

/-- Logging through one sink for a severity and an environment. -/
def through (level : LogLevel) (environment : Environment) : Logging :=
  ⟨[⟨level, .ofEnvironment environment⟩], true⟩

/-- Logging as nobody has configured it. -/
def standard : Logging := through Settings.standard.logLevel Settings.standard.environment

/-- Logging without any sink. -/
def silent : Logging := ⟨[], false⟩

/-- What is done to logging: it is configured, as settings say or otherwise, the application is
started with settings, a logger is asked for, or all sinks are removed and the configuration is
forgotten. -/
inductive Action where
  | configure (level : LogLevel) (environment : Environment)
  | setUp (settings : Settings)
  | start (settings : Settings)
  | use (logger : String)
  | reset

/-- Logging after an action. -/
def act (logging : Logging) : Action → Logging
  | .configure level environment => through level environment
  | .setUp settings | .start settings => through settings.logLevel settings.environment
  | .use _ => if logging.configured then logging else standard
  | .reset => silent

/-- Logging after several actions. -/
def run (logging : Logging) (actions : List Action) : Logging :=
  actions.foldl act logging

/-! ## Writing -/

/-- The lines that are written for a record of a logger. -/
def write (logging : Logging) (moment : Moment) (logger : String) (record : LogRecord) :
    List Line :=
  (logging.sinks.filter fun sink => sink.takes record).map fun sink =>
    sink.format.line moment logger record

/-- The lines that are written for several records of a logger. -/
def writeAll (logging : Logging) (moment : Moment) (logger : String) (log : Log) : List Line :=
  log.flatMap (logging.write moment logger)

end Logging

/-! ## Loggers -/

namespace Logging

/-- The logger of the program as a whole. -/
def programLogger : String := "mirrorcheck"

/-- The logger that reading a metalink uses. -/
def readerLogger : String := "mirrorcheck.parsing.parser"

/-- The logger of the command line. -/
def commandLogger : String := "mirrorcheck.cli"

end Logging

end Metalink
