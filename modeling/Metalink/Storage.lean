import Metalink.Path

/-!
# Reading files

What a program sees of the file system: opening a path either fails or gives a
stream, which yields its bytes in pieces and then ends or breaks off.

Current gaps:

- What a path leads to does not change during a run.
- The names in paths are texts of characters.
-/

namespace Metalink

/-- A byte string. -/
abbrev Bytes := List UInt8

/-- A failure reported by the operating system: its number and its text. -/
structure SystemFault where
  errno : Int
  text : String
deriving DecidableEq, Repr

namespace SystemFault

/-- A path leads to nothing. -/
def noSuchFile : SystemFault := ⟨2, "No such file or directory"⟩

/-- A path goes through a file. -/
def notDirectory : SystemFault := ⟨20, "Not a directory"⟩

/-- A directory was opened as a file. -/
def isDirectory : SystemFault := ⟨21, "Is a directory"⟩

/-- A path or one of its components is too long. -/
def nameTooLong : SystemFault := ⟨36, "File name too long"⟩

end SystemFault

/-- An opened file: the bytes it gives, in the portions in which they arrive, and the failure
that follows them in place of the end of the file, if there is one.  No read reaches beyond the
portion that it starts in. -/
structure Stream where
  portions : List Bytes
  fault : Option SystemFault
deriving DecidableEq, Repr

namespace Stream

/-- A stream that gives its bytes in one portion, and then ends. -/
def whole (content : Bytes) : Stream := ⟨[content], none⟩

/-- The bytes of all portions. -/
def content (stream : Stream) : Bytes := stream.portions.flatten

/-- Break a stream off after some bytes. -/
def breakAfter (stream : Stream) (count : Nat) (fault : SystemFault) : Stream :=
  ⟨[stream.content.take count], some fault⟩

end Stream

/-- A file system, as the answers it gives when a path is opened for reading. -/
abbrev Storage := Path → Except SystemFault Stream

/-- Why a file could not be read whole: the path holds the null character, or the system refused
to open or to read the file. -/
inductive ReadFault where
  | nullInPath
  | system (fault : SystemFault)
deriving DecidableEq, Repr

/-- Open a path, which must not hold the null character. -/
def Storage.openFile (storage : Storage) (path : Path) : Except ReadFault Stream :=
  if path.HasNull then .error .nullInPath
  else
    match storage path with
    | .ok stream => .ok stream
    | .error fault => .error (.system fault)

/-- Read a file whole. -/
def Storage.readFile (storage : Storage) (path : Path) : Except ReadFault Bytes :=
  match storage.openFile path with
  | .error fault => .error fault
  | .ok stream =>
    match stream.fault with
    | none => .ok stream.content
    | some fault => .error (.system fault)

end Metalink
