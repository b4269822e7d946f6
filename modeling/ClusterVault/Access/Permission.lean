import ClusterVault.Text.Bytes

/-!
# Permissions

A permission lets its holder read or write the keys of one range.

## Main definitions

- `Access`: what a request does to a key
- `AccessKind`: what a permission grants
- `Permission`: access to a range of keys
- `Permission.covers`: the keys of the range
- `Permission.startingWith`: the permission for all keys with a common beginning

## Design notes

Keys are ordered byte by byte. A range is half open. Two of its ends are special: an empty end
stands for the single key at the start, and an end of one zero byte for no end at all.
-/

namespace ClusterVault

/-- What a request does to a key. -/
inductive Access where
  | read
  | write
  deriving DecidableEq, Repr

/-- The verb for an access. -/
def Access.verb : Access → String
  | .read => "read"
  | .write => "write"

/-- What a permission grants. -/
inductive AccessKind where
  | read
  | write
  | readWrite
  deriving DecidableEq, Repr

/-- The names of the kinds. -/
def AccessKind.names : List (String × AccessKind) :=
  [("read", .read), ("write", .write), ("readwrite", .readWrite)]

/-- Whether a grant of this kind includes an access. -/
def AccessKind.allows : AccessKind → Access → Bool
  | .read, .read => true
  | .write, .write => true
  | .readWrite, _ => true
  | _, _ => false

/-- Access to a range of keys. -/
structure Permission where
  kind : AccessKind
  /-- The first key of the range. -/
  key : Bytes
  /-- The end of the range, which the range does not include. -/
  rangeEnd : Bytes
  deriving DecidableEq, Repr

namespace Permission

/-- Whether a key lies in the range. -/
def covers (p : Permission) (key : Bytes) : Bool :=
  match p.rangeEnd with
  | [] => key = p.key
  | [0] => p.key ≤ key
  | rangeEnd => p.key ≤ key && key < rangeEnd

/-- Whether the permission includes an access. -/
def allows (p : Permission) (access : Access) : Bool := p.kind.allows access

/-- The last byte that can be raised, raised, with everything behind it dropped. The argument is
    given back to front. -/
def raiseLast : Bytes → Option Bytes
  | [] => none
  | b :: rest => if b < 0xff then some ((b + 1) :: rest) else raiseLast rest

/-- The end of the range of all keys that begin with a byte string. -/
def endOfBeginning (beginning : Bytes) : Bytes :=
  match raiseLast beginning.reverse with
  | some reversed => reversed.reverse
  | none => [0]

/-- The permission for all keys that begin with a byte string. -/
def startingWith (beginning : Bytes) (kind : AccessKind) : Permission :=
  ⟨kind, beginning, endOfBeginning beginning⟩

end Permission

end ClusterVault
