import Metalink.Schema.Violation
import Metalink.Storage
import Metalink.Text.CodeText
import Metalink.Text.Hex

/-!
# Errors

Every way in which reading or verifying can fail, by cause.  Each error has a kind,
whose label is shown to the user, and one wording.  Failures of another nature
escape: they are not reported as errors of the metalink or of the file.

Current gaps:

- A wording is a text of characters: a surrogate in it is written by number.
- The wording of a refused record lists the rules that are broken, without sentences.
-/

namespace Metalink

/-! ## Kinds -/

/-- The kinds of errors, from general to special. -/
inductive ErrorKind where
  | any
  | parse
  | malformed
  | missingFileName
  | invalidFileName
  | missingSize
  | missingHashType
  | missingHashValue
  | invalidParameter
  | preferenceOutOfRange
  | verification
  | noUsableHash
  | checksumMismatch
  | digest
  | unsupportedDigest
  | forbiddenDigest
  | fileAccess
  | hexDecode
deriving DecidableEq, Repr

namespace ErrorKind

/-- All kinds. -/
def all : List ErrorKind :=
  [any, parse, malformed, missingFileName, invalidFileName, missingSize, missingHashType,
    missingHashValue, invalidParameter, preferenceOutOfRange, verification, noUsableHash,
    checksumMismatch, digest, unsupportedDigest, forbiddenDigest, fileAccess, hexDecode]

/-- The name under which a kind is shown. -/
def label : ErrorKind → String
  | any => "MetalinkError"
  | parse => "MetalinkParseError"
  | malformed => "MalformedMetalinkError"
  | missingFileName => "MissingFileAttributeError"
  | invalidFileName => "InvalidFileNameError"
  | missingSize => "MissingFileSizeError"
  | missingHashType => "MissingHashAttributeError"
  | missingHashValue => "MissingHashContentError"
  | invalidParameter => "InvalidParameterError"
  | preferenceOutOfRange => "PreferenceOutOfRangeError"
  | verification => "MetalinkVerificationError"
  | noUsableHash => "NoUsableHashError"
  | checksumMismatch => "ChecksumMismatchError"
  | digest => "DigestError"
  | unsupportedDigest => "UnsupportedDigestError"
  | forbiddenDigest => "DigestForbiddenError"
  | fileAccess => "FileAccessError"
  | hexDecode => "HexDecodeError"

/-- The kind with a given label. -/
def ofLabel? (s : String) : Option ErrorKind :=
  all.find? fun kind => kind.label == s

/-- The next more general kind. -/
def general : ErrorKind → ErrorKind
  | malformed | missingFileName | invalidFileName | missingSize | missingHashType
  | missingHashValue | invalidParameter | preferenceOutOfRange => parse
  | noUsableHash | checksumMismatch => verification
  | unsupportedDigest | forbiddenDigest => digest
  | _ => any

/-- Whether errors of one kind are errors of another, more general one. -/
def isA (kind family : ErrorKind) : Bool :=
  kind = family || kind.general = family || family = any

/-- Whether errors of a kind also count as bad values. -/
def isBadValue (kind : ErrorKind) : Bool :=
  kind = hexDecode

end ErrorKind

/-! ## Faults in the content of a document -/

/-- What can be wrong with an element of a well-formed document: a file without a name or
with another one than the expected one, a size that is blank or no integer, a hash without a
type or a value, and the preference of a url that is no integer or out of range. -/
inductive ContentFault where
  | missingFileName
  | unexpectedFile (expected actual : String)
  | missingSize
  | badSize (text : CodeText)
  | missingHashType
  | missingHashValue
  | badPreference (text : String)
  | preferenceOutOfRange (value : Int)
deriving DecidableEq, Repr

namespace ContentFault

/-- The kind of a fault. -/
def kind : ContentFault → ErrorKind
  | missingFileName => .missingFileName
  | unexpectedFile _ _ => .invalidFileName
  | missingSize => .missingSize
  | badSize _ => .invalidParameter
  | missingHashType => .missingHashType
  | missingHashValue => .missingHashValue
  | badPreference _ => .invalidParameter
  | preferenceOutOfRange _ => .preferenceOutOfRange

/-- The wording of a fault. -/
def message : ContentFault → String
  | missingFileName => "Missing attribute \"name\" of file element"
  | unexpectedFile expected actual =>
    "Invalid filename in metalink: expected " ++ Text.quoted expected ++ ", got " ++
      Text.quoted actual
  | missingSize => "File size is missing"
  | badSize text => "Size is invalid value: " ++ text.shown
  | missingHashType => "Hash element doesn't have attribute \"type\""
  | missingHashValue => "Hash value is not present in hash element"
  | badPreference text => "Preference is invalid value: " ++ text
  | preferenceOutOfRange value =>
    "Bad value (\"" ++ toString value ++
      "\") of \"preference\" attribute in url element (should be in range 0-100)"

end ContentFault

/-! ## Errors -/

/-- What was attempted when a file could not be read: reading a metalink, opening a file to
digest it, reading on in it, or anything else in words of its own. -/
inductive FileAttempt where
  | readDocument (reason : String)
  | openForDigest (reason : String)
  | readForDigest (reason : String)
  | other (message : String)
deriving DecidableEq, Repr

/-- An error of reading a metalink or of verifying a file.  In a malformed document the line
starts at one and the column at zero.  An error can also be stated, with its kind and its
wording, by a digest engine of the caller's own. -/
inductive Error where
  | emptyExpectedName
  | malformed (reason : String) (line column : Option Int)
  | content (fault : ContentFault)
  | emptyHashType
  | noUsableHash
  | checksumMismatch (path : String) (algorithm : String) (tried skipped : Int)
  | unsupportedDigest (algorithm : String)
  | forbiddenDigest (algorithm : String)
  | fileAccess (attempt : FileAttempt) (path : String) (errno : Option Int)
  | hex (fault : Hex.Fault)
  | stated (kind : ErrorKind) (message : String)
deriving DecidableEq, Repr

namespace Error

/-- The kind of an error. -/
def kind : Error → ErrorKind
  | emptyExpectedName => .invalidParameter
  | malformed _ _ _ => .malformed
  | content fault => fault.kind
  | emptyHashType => .invalidParameter
  | noUsableHash => .noUsableHash
  | checksumMismatch _ _ _ _ => .checksumMismatch
  | unsupportedDigest _ => .unsupportedDigest
  | forbiddenDigest _ => .forbiddenDigest
  | fileAccess _ _ _ => .fileAccess
  | hex _ => .hexDecode
  | stated kind _ => kind

/-- A number, or the word for a missing one. -/
def position : Option Int → String
  | some n => toString n
  | none => "None"

/-- The wording of a failed attempt on a path. -/
def attemptMessage (path : String) : FileAttempt → String
  | .readDocument reason => "Failed to read the metalink file " ++ path ++ ": " ++ reason
  | .openForDigest reason => "Unable to open file for validation: " ++ path ++ ": " ++ reason
  | .readForDigest reason => "Unable to read file for validation: " ++ path ++ ": " ++ reason
  | .other message => message

/-- The wording of an error. -/
def message : Error → String
  | emptyExpectedName => "Expected filename cannot be empty"
  | malformed reason none _ => reason
  | malformed reason (some line) column =>
    reason ++ " (line " ++ toString line ++ ", column " ++ position column ++ ")"
  | content fault => fault.message
  | emptyHashType => "Hash type name cannot be empty"
  | noUsableHash => "Invalid repo file: metalink has no hash of a supported type"
  | checksumMismatch path algorithm tried skipped =>
    "Checksum validation failed for " ++ path ++ ": no " ++ algorithm ++
      " digest matched (" ++ toString tried ++ " compared, " ++ toString skipped ++
      " malformed)"
  | unsupportedDigest algorithm => "Unknown message digest " ++ algorithm
  | forbiddenDigest algorithm =>
    "Digest " ++ algorithm ++ " is forbidden under FIPS compliance mode"
  | fileAccess attempt path _ => attemptMessage path attempt
  | hex fault => fault.message
  | stated _ text => text

end Error

/-! ## Failures that escape -/

/-- A failure that is not reported as an error of the metalink or of the file.  A numeral has
too many digits to be evaluated, a text cannot be encoded, or a record is refused; a document
declares an encoding that nobody knows, that may use several bytes for a character, that is
none of text, that cannot pass over what it cannot decode, that decodes nothing, or that takes
no byte from beyond ASCII; a path holds the null character; or reading a file fails over the
size of the pieces, or its digest over a missing length. -/
inductive Escape where
  | tooManyDigits (digits : Nat)
  | unencodable (fault : Unencodable)
  | refused (violations : List Schema.Violation)
  | unknownEncoding (name : String)
  | multiByteEncoding
  | notTextEncoding (name : String)
  | strictEncoding (name : String)
  | undefinedEncoding (name : String)
  | asciiBytesEncoding
  | nullInPath
  | badReadLength
  | sizeOutOfRange
  | pieceTooLong
  | outOfMemory
  | noDigestLength
deriving DecidableEq, Repr

/-- The wording of a failure that escapes. -/
def Escape.message : Escape → String
  | tooManyDigits digits =>
    "Exceeds the limit (4300 digits) for integer string conversion: value has " ++
      toString digits ++ " digits; use sys.set_int_max_str_digits() to increase the limit"
  | unencodable fault => fault.message
  | refused violations => String.intercalate "\n" (violations.map Schema.Violation.line)
  | unknownEncoding name => "unknown encoding: " ++ name
  | multiByteEncoding => "multi-byte encodings are not supported"
  | notTextEncoding name =>
    "'" ++ String.ofList (name.toList.take 400) ++
      "' is not a text encoding; use codecs.decode() to handle arbitrary codecs"
  | strictEncoding name =>
    "decoding with '" ++ name ++
      "' codec failed (UnicodeError: Unsupported error handling replace)"
  | undefinedEncoding name =>
    "decoding with '" ++ name ++ "' codec failed (UnicodeError: undefined encoding)"
  | asciiBytesEncoding =>
    "'ascii' codec can't decode byte 0x80 in position 82: ordinal not in range(128)"
  | nullInPath => "embedded null byte"
  | badReadLength => "read length must be non-negative or -1"
  | sizeOutOfRange => "cannot fit 'int' into an index-sized integer"
  | pieceTooLong => "byte string is too large"
  | outOfMemory => ""
  | noDigestLength => "digest() missing required argument 'length' (pos 1)"

/-- Why an operation did not give a result: an error that is reported as such, or a failure
that escapes. -/
inductive Failure where
  | error (error : Error)
  | escape (escape : Escape)
deriving DecidableEq, Repr

end Metalink
