import Metalink.Storage

/-!
# A working directory

A file system in memory: the files and directories below the working directory,
each under the components that lead to it.  Directories above it exist, and nothing
else in them does.

Current gaps:

- Links, permissions and entries that are neither files nor directories are left out.
-/

namespace Metalink

/-- What stands at a place below the working directory. -/
inductive Entry where
  | file (content : Bytes)
  | directory
deriving DecidableEq, Repr

/-- The entries of a working directory, each with the components leading to it.
Directories on the way to an entry need no entry of their own. -/
abbrev FileTree := List (List String × Entry)

namespace FileTree

/-- The longest component, in bytes. -/
def maxName : Nat := 255

/-- The length in bytes at which a path as a whole is too long. -/
def maxPath : Nat := 4096

/-- What stands at a place. -/
def at? (tree : FileTree) (place : List String) : Option Entry :=
  match tree.lookup place with
  | some entry => some entry
  | none => if tree.any fun e => place.isPrefixOf e.1 then some .directory else none

/-- Walk through components.  `above` counts directories above the working one, and
`place` is where the walk stands below it, innermost component first. -/
def walk (tree : FileTree) : (above : Nat) → (place : List String) → List String →
    Except SystemFault Entry
  | above, place, [] =>
    if above = 0 ∧ place ≠ [] then
      match tree.at? place.reverse with
      | some entry => .ok entry
      | none => .error .noSuchFile
    else .ok .directory
  | above, place, name :: rest =>
    let here := if above = 0 ∧ place ≠ [] then tree.at? place.reverse else some .directory
    match here with
    | none => .error .noSuchFile
    | some (.file _) => .error .notDirectory
    | some .directory =>
      if name == ".." then
        match place with
        | [] => walk tree (above + 1) [] rest
        | _ :: parent => walk tree above parent rest
      else if maxName < name.utf8ByteSize then .error .nameTooLong
      else if above = 0 then walk tree 0 (name :: place) rest
      else .error .noSuchFile

/-- From the root, only the root itself is known. -/
def walkRoot : List String → Except SystemFault Entry
  | [] => .ok .directory
  | name :: rest =>
    if name == ".." then walkRoot rest
    else if maxName < name.utf8ByteSize then .error .nameTooLong
    else .error .noSuchFile

/-- The answers of a working directory. -/
def storage (tree : FileTree) : Storage := fun path =>
  if maxPath ≤ path.text.utf8ByteSize then .error .nameTooLong
  else
    let found :=
      match path.start with
      | .here => tree.walk 0 [] path.names
      | _ => walkRoot path.names
    match found with
    | .ok (.file content) => .ok (.whole content)
    | .ok .directory => .error .isDirectory
    | .error fault => .error fault

end FileTree

end Metalink
