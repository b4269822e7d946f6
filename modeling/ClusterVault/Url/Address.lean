import ClusterVault.Text.Bytes
import ClusterVault.Text.Split

/-!
# Internet addresses

Addresses of version 4 and 6, read from and written to text.

## Main definitions

- `IpAddress`: an address as its octets in network order
- `IpAddress.parse?`: the strict reading of both versions
- `IpAddress.ofLooseV4`: the generous reading of version 4 that hosts of a URL get
- `IpAddress.render`: the shortest standard text

## Design notes

The strict form of version 4 is four decimal numbers without leading zeros; that of version 6 is
groups of up to four hexadecimal digits, where one double colon stands for at least one group of
zeros and the last two groups may be an address of version 4. The generous form of version 4 also
admits octal and hexadecimal numbers and fewer than four parts, the last of which fills the octets
left over.
-/

namespace ClusterVault

/-- An address as its octets in network order: `4` of them for version 4, `16` for version 6. -/
inductive IpAddress where
  | v4 (octets : Bytes)
  | v6 (octets : Bytes)
  deriving DecidableEq, Repr, Inhabited

namespace IpAddress

/-- The octets of an address in network order. -/
def octets : IpAddress → Bytes
  | .v4 o => o
  | .v6 o => o

/-- The value of a digit below the given base, in either case. -/
def digitBelow? (base : Nat) (c : Char) : Option Nat :=
  let value? :=
    if '0' ≤ c ∧ c ≤ '9' then some (c.toNat - 0x30)
    else if 'a' ≤ c ∧ c ≤ 'f' then some (c.toNat - 0x61 + 10)
    else if 'A' ≤ c ∧ c ≤ 'F' then some (c.toNat - 0x41 + 10)
    else none
  value?.filter (· < base)

/-- The number a non-empty text of digits stands for. -/
def number? (base : Nat) (s : List Char) : Option Nat :=
  if s.isEmpty then none
  else s.foldlM (fun n c => (digitBelow? base c).map (n * base + ·)) 0

/-- The octets of four decimal numbers without leading zeros. -/
def strictV4? (s : List Char) : Option Bytes := do
  let parts := Text.splitAtChar '.' s
  guard (parts.length = 4)
  parts.mapM fun part => do
    guard (part.length ≤ 3 ∧ (part.length = 1 ∨ part.head? ≠ some '0'))
    let n ← number? 10 part
    guard (n < 256)
    pure (UInt8.ofNat n)

/-- The octets of a number of the given width, most significant first. -/
def bigEndian : (width : Nat) → Nat → Bytes
  | 0, _ => []
  | w + 1, n => bigEndian w (n / 256) ++ [UInt8.ofNat (n % 256)]

/-- The octets of one group of hexadecimal digits. -/
def group? (s : List Char) : Option Bytes := do
  guard (s.length ≤ 4)
  let n ← number? 16 s
  pure (bigEndian 2 n)

/-- The octets of groups, the last of which may be an address of version 4 if `tail` is set. -/
def groups? (tail : Bool) : List (List Char) → Option Bytes
  | [] => some []
  | [last] => if tail && last.contains '.' then strictV4? last else group? last
  | part :: parts => do
    let first ← group? part
    let rest ← groups? tail parts
    pure (first ++ rest)

/-- Splits a text at the first double colon. -/
def splitAtDoubleColon : List Char → Option (List Char × List Char)
  | ':' :: ':' :: rest => some ([], rest)
  | c :: rest => (splitAtDoubleColon rest).map fun (head, tail) => (c :: head, tail)
  | [] => none

/-- The groups of a side of a double colon; an empty side has none. -/
def sideGroups (s : List Char) : List (List Char) :=
  if s.isEmpty then [] else Text.splitAtChar ':' s

/-- The octets of an address of version 6. -/
def strictV6? (s : List Char) : Option Bytes :=
  match splitAtDoubleColon s with
  | none => do
    let octets ← groups? true (Text.splitAtChar ':' s)
    guard (octets.length = 16)
    pure octets
  | some (head, tail) => do
    let front ← groups? false (sideGroups head)
    let back ← groups? true (sideGroups tail)
    guard (front.length + back.length ≤ 14)
    pure (front ++ List.replicate (16 - front.length - back.length) 0 ++ back)

/-- The strict reading of an address of either version. -/
def parse? (s : String) : Option IpAddress :=
  match strictV4? s.toList with
  | some o => some (.v4 o)
  | none => (strictV6? s.toList).map .v6

/-- What a part of a generously written address of version 4 stands for. -/
inductive LooseNumber where
  | value (n : Nat)
  /-- A number of `32` bits or more. -/
  | tooLarge
  | invalid

/-- Reads a part: hexadecimal after `0x`, octal after `0`, decimal otherwise. -/
def LooseNumber.ofPart (s : List Char) : LooseNumber :=
  let read (base : Nat) (digits : List Char) : LooseNumber :=
    if digits.isEmpty then .value 0
    else match number? base digits with
      | none => .invalid
      | some n => if n < 0x100000000 then .value n else .tooLarge
  match s with
  | [] => .invalid
  | '0' :: 'x' :: digits => read 16 digits
  | '0' :: 'X' :: digits => read 16 digits
  | '0' :: d :: digits => read 8 (d :: digits)
  | digits => read 10 digits

/-- Whether a host is to be read as an address of version 4: its last part is a number. -/
def endsInNumber (host : List Char) : Bool :=
  let last? := match (Text.splitAtChar '.' host).reverse with
    | [] => none
    | [] :: before :: _ => some before
    | [[]] => none
    | last :: _ => some last
  match last? with
  | none => false
  | some last =>
    (!last.isEmpty && last.all Char.isDigit) ||
      match LooseNumber.ofPart last with
      | .invalid => false
      | _ => true

/-- The generous reading of an address of version 4. -/
def ofLooseV4 (host : List Char) : Option IpAddress := do
  let parts := Text.splitAtChar '.' host
  let parts := if parts.getLast? = some [] then parts.dropLast else parts
  guard (parts.length ≤ 4)
  let numbers ← parts.mapM fun part => match LooseNumber.ofPart part with
    | .value n => some n
    | _ => none
  let last ← numbers.getLast?
  let front := numbers.dropLast
  guard (last < Nat.pow 256 (4 - front.length) ∧ front.all (· < 256))
  pure (.v4 (front.map UInt8.ofNat ++ bigEndian (4 - front.length) last))

/-- The groups of an address of version 6 as numbers. -/
def groupsOf : Bytes → List Nat
  | hi :: lo :: rest => (hi.toNat * 256 + lo.toNat) :: groupsOf rest
  | _ => []

/-- The longest run of zeros at the first place that has one: its start and length. -/
def longestZeroRun (groups : List Nat) : Nat × Nat :=
  let runAt (i : Nat) : Nat := ((groups.drop i).takeWhile (· = 0)).length
  (List.range groups.length).foldl
    (fun best i => if best.2 < runAt i then (i, runAt i) else best) (0, 0)

/-- The shortest standard text of an address. -/
def render : IpAddress → String
  | .v4 o => ".".intercalate (o.map fun b => toString b.toNat)
  | .v6 o =>
    let groups := groupsOf o
    let texts := groups.map fun g => String.ofList (Nat.toDigits 16 g)
    let (start, length) := longestZeroRun groups
    if length < 2 then ":".intercalate texts
    else ":".intercalate (texts.take start) ++ "::" ++
      ":".intercalate (texts.drop (start + length))

end IpAddress

end ClusterVault
