import Metalink.Logging
import Metalink.Text.Terminal
import Metalink.Verification

/-!
# Reports

What the commands print about a verification, an error or a metalink.  Everything goes
without control sequences, whoever put them in.

Current gaps:

- The colours of the lines are left out.
-/

namespace Metalink.Report

open Metalink.Text

/-- Lines of text, each with its end. -/
def lines (ls : List String) : String :=
  String.join (ls.map fun l => plain l ++ "\n")

/-- A file matches one of its hashes. -/
def passed (name : String) (v : Verification) : String :=
  lines ["✓ " ++ name ++ ": OK", "  " ++ v.hashType ++ ": " ++ v.calculated]

/-- A file could not be verified, or a metalink could not be read. -/
def failed (name : String) (error : Error) : String :=
  lines ["✗ " ++ name ++ ": FAILED", "  " ++ error.kind.label ++ ": " ++ error.message]

/-- The line for a hash, with a mark if its type is not supported. -/
def hashLine (h : Hash) : String :=
  let mark := if h.algorithm?.isSome then "" else " (unsupported)"
  "  " ++ h.type ++ mark ++ ": " ++ h.value

/-- The line for a mirror, with what is known about it in brackets. -/
def mirrorLine (m : Mirror) : String :=
  let details := String.intercalate ", " ([m.protocol, m.type, m.location].filterMap id)
  let suffix := if details = "" then "" else " [" ++ details ++ "]"
  "  " ++ fillLeft ' ' 3 (toString m.preference) ++ " " ++ m.url ++ suffix

/-- The heading of a list. -/
def heading (title : String) (count : Nat) : String :=
  title ++ " (" ++ toString count ++ "):"

/-- What a metalink says, with the mirrors in order of preference. -/
def contents (doc : Document) : String :=
  let size := match doc.size with
    | some n => ["Size: " ++ toString n ++ " bytes"]
    | none => []
  lines (["File: " ++ doc.filename.getD "None"] ++ size ++
    [heading "Hashes" doc.hashes.length] ++ doc.hashes.map hashLine ++
    [heading "Mirrors" doc.mirrors.length] ++ doc.byPreference.map mirrorLine)

end Metalink.Report
