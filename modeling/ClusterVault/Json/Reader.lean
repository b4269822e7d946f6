import ClusterVault.Text.Bytes

/-!
# Reading JSON

A document is read from front to back into the type that is wanted, and the first fault decides.

## Main definitions

- `Json.Fault`: why a document is refused
- `Json.Reader`: reads the beginning of a document
- `Json.peekToken?`, `Json.take`, `Json.expect`: its steps

## Design notes

A document that is no JSON is malformed, and one that is JSON of another type is mismatched. Since
reading stops at the first fault, a mismatched document need not be JSON behind it.
-/

namespace ClusterVault.Json

/-- Why a document is refused. -/
inductive Fault where
  /-- It is no JSON. -/
  | malformed
  /-- It is not what was wanted. -/
  | mismatched
  deriving DecidableEq, Repr

/-- Reads the beginning of a document. -/
abbrev Reader (α : Type) := StateT Bytes (Except Fault) α

/-- Refuses a document that is no JSON. -/
def malformed {α : Type} : Reader α := throw .malformed

/-- Refuses a document that is not what was wanted. -/
def mismatched {α : Type} : Reader α := throw .mismatched

/-- Whether a byte is a blank. -/
def isBlank (b : UInt8) : Bool := b = 0x20 || b = 0x0a || b = 0x09 || b = 0x0d

/-- The next byte, which stays. -/
def peek? : Reader (Option UInt8) := fun s => .ok (s.head?, s)

/-- The next byte behind blanks, which stays. -/
def peekToken? : Reader (Option UInt8) := fun s =>
  let s := s.dropWhile isBlank
  .ok (s.head?, s)

/-- Takes the next byte. -/
def take : Reader UInt8
  | [] => .error .malformed
  | b :: rest => .ok (b, rest)

/-- Passes over the next byte. -/
def pass : Reader Unit := fun s => .ok ((), s.tail)

/-- Passes over given bytes. -/
def expect : Bytes → Reader Unit
  | [] => pure ()
  | b :: rest => do
    if (← take) = b then expect rest else malformed

/-- The remaining number of bytes. -/
def remaining : Reader Nat := fun s => .ok (s.length, s)

end ClusterVault.Json
