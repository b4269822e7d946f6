import ClusterVault.Files.Path
import ClusterVault.Pki.Certificate
import Std.Data.ExtTreeMap

/-!
# Files and directories

A tree of directories with documents in it.

## Main definitions

- `FileFault`: why an operation is refused
- `FileSystem`: the tree, and where relative paths start
- `FileSystem.read`, `FileSystem.isDirectory`, `FileSystem.pathExists`: looking
- `FileSystem.makeDirectories`: making a directory and those it lies in
- `FileSystem.truncate`, `FileSystem.fill`, `FileSystem.write`: writing a file
- `FileSystem.remove`: removing a file

## Design notes

A file or directory is known by its *place*, the names on the way to it from the root. Writing a
file takes two steps, since it is empty in between: `truncate` makes the file or empties it, and
`fill` gives it a content.
-/

namespace ClusterVault

/-- Why an operation on a file is refused. -/
inductive FileFault where
  | missing
  | alreadyThere
  | notDirectory
  | isDirectory
  | nameTooLong
  /-- The path has a null character. -/
  | nullInName
  deriving DecidableEq, Repr

/-- The wording of a fault. -/
def FileFault.message : FileFault → String
  | missing => "No such file or directory (os error 2)"
  | alreadyThere => "File exists (os error 17)"
  | notDirectory => "Not a directory (os error 20)"
  | isDirectory => "Is a directory (os error 21)"
  | nameTooLong => "File name too long (os error 36)"
  | nullInName => "file name contained an unexpected NUL byte"

/-- What is at a place in the tree. -/
inductive FileEntry where
  | directory
  | file (content : Document) (mode : Nat)
  deriving DecidableEq, Repr

/-- The names on the way from the root. -/
abbrev Place := List String

/-- A tree of files and directories. -/
structure FileSystem where
  /-- What is at each place; the root itself is not listed. -/
  entries : Std.ExtTreeMap Place FileEntry := ∅
  /-- The place where relative paths start. -/
  workingDirectory : Place := []

namespace FileSystem

/-- What is at a place. -/
def entry? (fs : FileSystem) (place : Place) : Option FileEntry :=
  if place.isEmpty then some .directory else fs.entries[place]?

/-- Puts something at a place. -/
def put (fs : FileSystem) (place : Place) (entry : FileEntry) : FileSystem :=
  { fs with entries := fs.entries.insert place entry }

/-- The longest name of a file or directory, in bytes. -/
def longestName : Nat := 255

/-- The longest path, in bytes. -/
def longestPath : Nat := 4095

/-- Follows the parts of a path from a directory. All parts but the last must be directories; the
    last need not exist. -/
def follow (fs : FileSystem) (current : Place) : List String → Except FileFault Place
  | [] => .ok current
  | part :: rest =>
    if part.utf8ByteSize > longestName then .error .nameTooLong
    else
      let next :=
        if part = "." then current
        else if part = ".." then current.dropLast
        else current ++ [part]
      if rest.isEmpty then .ok next
      else match fs.entry? next with
        | some .directory => follow fs next rest
        | some (.file ..) => .error .notDirectory
        | none => .error .missing

/-- The place that a path names. -/
def locate (fs : FileSystem) (path : FilePath) : Except FileFault Place :=
  fs.follow (if path.absolute then [] else fs.workingDirectory) path.parts

/-- The place that the text of a path names. -/
def locateText (fs : FileSystem) (path : String) : Except FileFault Place :=
  if path.toList.contains '\x00' then .error .nullInName
  else if path.isEmpty then .error .missing
  else if path.utf8ByteSize > longestPath then .error .nameTooLong
  else fs.locate (FilePath.ofString path)

/-- Whether the text of a path says that it names a directory. -/
def asksForDirectory (path : String) : Bool := path.endsWith "/" || path.endsWith "/."

/-- What the text of a path names, or why there is nothing. -/
def lookup (fs : FileSystem) (path : String) : Except FileFault FileEntry :=
  match fs.locateText path with
  | .error fault => .error fault
  | .ok place =>
    match fs.entry? place with
    | none => .error .missing
    | some .directory => .ok .directory
    | some (.file content mode) =>
      if asksForDirectory path then .error .notDirectory else .ok (.file content mode)

/-- Whether a path names something. -/
def pathExists (fs : FileSystem) (path : String) : Bool := (fs.lookup path).toBool

/-- The content of a file. -/
def read (fs : FileSystem) (path : String) : Except FileFault Document :=
  match fs.lookup path with
  | .error fault => .error fault
  | .ok .directory => .error .isDirectory
  | .ok (.file content _) => .ok content

/-- The mode of a file. -/
def mode? (fs : FileSystem) (path : String) : Option Nat :=
  match fs.lookup path with
  | .ok (.file _ mode) => some mode
  | _ => none

/-- Makes one directory. -/
def makeDirectory (fs : FileSystem) (path : FilePath) : Except FileFault FileSystem :=
  match fs.locate path with
  | .error fault => .error fault
  | .ok place =>
    match fs.entry? place with
    | some _ => .error .alreadyThere
    | none => .ok (fs.put place .directory)

/-- Whether a path names a directory. -/
def isDirectory (fs : FileSystem) (path : FilePath) : Bool :=
  match fs.locate path with
  | .ok place => fs.entry? place = some .directory
  | .error _ => false

/-- Makes a directory and those it lies in. The number bounds how many there are. -/
def makeDirectoriesWithin : Nat → FileSystem → FilePath → FileSystem × Option FileFault
  | 0, fs, _ => (fs, none)
  | depth + 1, fs, path =>
    if path.parts.isEmpty then (fs, none)
    else match fs.makeDirectory path with
      | .ok fs => (fs, none)
      | .error .missing =>
        match makeDirectoriesWithin depth fs { path with parts := path.parts.dropLast } with
        | (fs, some fault) => (fs, some fault)
        | (fs, none) =>
          match fs.makeDirectory path with
          | .ok fs => (fs, none)
          | .error fault => (fs, if fs.isDirectory path then none else some fault)
      | .error fault => (fs, if fs.isDirectory path then none else some fault)

/-- Makes a directory and those it lies in, as far as they are missing. What was made stays even if
    the rest is refused. -/
def makeDirectories (fs : FileSystem) (path : String) : FileSystem × Option FileFault :=
  if path.toList.contains '\x00' then (fs, some .nullInName)
  else if path.utf8ByteSize > longestPath then (fs, some .nameTooLong)
  else
    let p := FilePath.ofString path
    makeDirectoriesWithin (p.parts.length + 1) fs p

/-- Makes a file or empties the one there is, whose mode stays. -/
def truncate (fs : FileSystem) (path : String) (mode : Nat) : Except FileFault FileSystem :=
  match fs.locateText path with
  | .error fault => .error fault
  | .ok place =>
    match fs.entry? place with
    | some .directory => .error .isDirectory
    | some (.file _ present) =>
      if asksForDirectory path then .error .notDirectory
      else .ok (fs.put place (.file (.text []) present))
    | none =>
      if asksForDirectory path then .error .isDirectory
      else .ok (fs.put place (.file (.text []) mode))

/-- Gives a file a content. -/
def fill (fs : FileSystem) (path : String) (content : Document) : FileSystem :=
  match fs.locateText path with
  | .error _ => fs
  | .ok place =>
    match fs.entry? place with
    | some (.file _ mode) => fs.put place (.file content mode)
    | _ => fs

/-- Writes a file. -/
def write (fs : FileSystem) (path : String) (mode : Nat) (content : Document) :
    Except FileFault FileSystem :=
  (fs.truncate path mode).map (·.fill path content)

/-- Removes a file. -/
def remove (fs : FileSystem) (path : String) : Except FileFault FileSystem :=
  match fs.locateText path with
  | .error fault => .error fault
  | .ok place =>
    match fs.entry? place with
    | none => .error .missing
    | some .directory => .error .isDirectory
    | some (.file ..) =>
      if asksForDirectory path then .error .notDirectory
      else .ok { fs with entries := fs.entries.erase place }

end FileSystem

end ClusterVault
