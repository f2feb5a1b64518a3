import Metalink.Document
import Metalink.Schema.Check
import Metalink.Verification

/-!
# Records of the domain

Hashes, mirrors, documents and verifications built from data, and the assignment of a
field afterwards.  Only documents can be changed once they are built.

Current gaps:

- Of the lists that are assigned to a field only the empty one is written out.
-/

namespace Metalink.Schema

/-! ## Building -/

/-- A hash from its type and a text, which is checked once more. -/
def buildHash (type : String) (value : CodeText) : Checked Hash :=
  ((checkNonEmptyText value).under "value").map (Hash.mk type)

/-- A hash from its fields. -/
def hashOfFields (fields : Fields) : Checked Hash :=
  Checked.both Hash.mk (required fields "type" checkText) (required fields "value" checkNonEmpty)

/-- A mirror from its fields. -/
def mirrorOfFields (fields : Fields) : Checked Mirror :=
  let text := checkOptional checkText
  (required fields "url" checkNonEmpty).map Mirror.mk
    |> Checked.taking (defaulted fields "protocol" none text)
    |> Checked.taking (defaulted fields "type" none text)
    |> Checked.taking (defaulted fields "location" none text)
    |> Checked.taking (defaulted fields "preference" Mirror.minPreference
        (checkBetween Mirror.minPreference Mirror.maxPreference))

/-- A document from its fields. -/
def documentOfFields (fields : Fields) : Checked Document :=
  (defaulted fields "filename" none (checkOptional checkText)).map Document.mk
    |> Checked.taking (defaulted fields "size" none (checkOptional checkInteger))
    |> Checked.taking (defaulted fields "hashes" [] (checkList (checkRecord hashOfFields)))
    |> Checked.taking (defaulted fields "urls" [] (checkList (checkRecord mirrorOfFields)))

/-- A verification from its fields, of which the time it took is checked only. -/
def verificationOfFields (fields : Fields) : Checked Verification :=
  (required fields "algorithm" (checkNumbered Algorithm.ofRank?)).map Verification.mk
    |> Checked.taking (required fields "hash_type" checkText)
    |> Checked.taking (required fields "expected_hash" checkText)
    |> Checked.taking (required fields "calculated_hash" checkText)
    |> Checked.taking (required fields "candidates_tried" (checkAtLeast 1))
    |> (Except.map fun v (_ : Unit) => v)
    |> Checked.taking (defaulted fields "duration_ms" () checkAmount)

/-! ## Changing -/

/-- Why a field could not be assigned: the record cannot be changed, there is no such field, or
the value is of a kind that the field cannot hold. -/
inductive AssignFault where
  | frozen (violation : Violation)
  | unknown (field : String)
  | unfit (field : String)
deriving DecidableEq, Repr

/-- The wording for a field that is not there. -/
def AssignFault.message : AssignFault → String
  | frozen v => v.rule.label
  | unknown field => "\"MetalinkContext\" object has no field \"" ++ field ++ "\""
  | unfit field => "field \"" ++ field ++ "\" cannot hold such a value"

/-- Records that cannot be changed refuse every field. -/
def assignFrozen (field : String) : AssignFault :=
  .frozen ⟨[field], .frozenInstance⟩

/-- Assign a field of a document without checking it against the rules. -/
def assignDocument (doc : Document) (field : String) (value : Value) :
    Except AssignFault Document :=
  match field, value with
  | "filename", .null => .ok { doc with filename := none }
  | "filename", .text s => .ok { doc with filename := some s }
  | "size", .null => .ok { doc with size := none }
  | "size", .int n => .ok { doc with size := some n }
  | "hashes", .list [] => .ok { doc with hashes := [] }
  | "urls", .list [] => .ok { doc with mirrors := [] }
  | "filename", _ | "size", _ | "hashes", _ | "urls", _ => .error (.unfit field)
  | _, _ => .error (.unknown field)

/-- A list of hashes from their types and values; the first at fault decides. -/
def hashesOfPairs : List (String × String) → Checked (List Hash)
  | [] => .ok []
  | (type, value) :: rest =>
    match hashOfFields [("type", .text type), ("value", .text value)] with
    | .error vs => .error vs
    | .ok h => (hashesOfPairs rest).map (h :: ·)

end Metalink.Schema
