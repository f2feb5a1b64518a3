/-!
# Log records

What an operation has to say besides its result: a list of messages, each of some
severity, in the order in which they were written.
-/

namespace Metalink

/-- Severities, from the least to the greatest. -/
inductive LogLevel where
  | trace
  | debug
  | info
  | warning
  | error
  | critical
deriving DecidableEq, Repr

namespace LogLevel

/-- All severities in increasing order. -/
def all : List LogLevel := [trace, debug, info, warning, error, critical]

/-- The rank of a severity; greater ranks are more severe. -/
def rank : LogLevel → Nat
  | trace => 5
  | debug => 10
  | info => 20
  | warning => 30
  | error => 40
  | critical => 50

/-- The written name of a severity. -/
def label : LogLevel → String
  | trace => "TRACE"
  | debug => "DEBUG"
  | info => "INFO"
  | warning => "WARNING"
  | error => "ERROR"
  | critical => "CRITICAL"

/-- The severity with a given name. -/
def ofLabel? (s : String) : Option LogLevel :=
  all.find? fun level => level.label == s

end LogLevel

/-- One message: how severe it is, and what it says. -/
structure LogRecord where
  level : LogLevel
  message : String
deriving DecidableEq, Repr

/-- The messages of a run, first to last. -/
abbrev Log := List LogRecord

namespace Log

/-- One message for tracing a run. -/
def debug (message : String) : Log := [⟨.debug, message⟩]

/-- One warning. -/
def warning (message : String) : Log := [⟨.warning, message⟩]

/-- One report of an error. -/
def error (message : String) : Log := [⟨.error, message⟩]

end Log

end Metalink
