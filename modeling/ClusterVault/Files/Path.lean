import ClusterVault.Text.Split

/-!
# Paths

A path names a file by the directories on the way to it.

## Main definitions

- `FilePath`: a path by its parts
- `FilePath.ofString`, `FilePath.parent?`: reading a path, and the directory it lies in
- `FilePath.join`: the text of a path below a directory

## Design notes

Empty parts and the part `.` do not count, except that a leading `.` is kept. Two paths that are
equal as values name the same file, though not the other way round.
-/

namespace ClusterVault

/-- A path by its parts. -/
structure FilePath where
  /-- Whether the path starts at the root. -/
  absolute : Bool
  parts : List String
  deriving DecidableEq, Repr

namespace FilePath

/-- The path that a text writes. -/
def ofString (s : String) : FilePath :=
  let raw := (Text.splitAtChar '/' s.toList).map String.ofList
  let counts (part : String) : Bool := part ≠ "" && part ≠ "."
  if s.startsWith "/" then ⟨true, raw.filter counts⟩
  else match raw with
    | "." :: rest => ⟨false, "." :: rest.filter counts⟩
    | parts => ⟨false, parts.filter counts⟩

/-- The path of the directory that a path lies in. -/
def parent? (p : FilePath) : Option FilePath :=
  if p.parts.isEmpty then none else some { p with parts := p.parts.dropLast }

/-- The text of the path of a file in a directory. -/
def join (directory file : String) : String :=
  if directory.isEmpty || directory.endsWith "/" then directory ++ file
  else directory ++ "/" ++ file

end FilePath

end ClusterVault
