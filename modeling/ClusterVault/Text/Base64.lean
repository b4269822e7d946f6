import ClusterVault.Text.Bytes

/-!
# Base 64

Bytes written as characters of an alphabet of 64, four characters for every three bytes.

## Main definitions

- `Base64.sextet?`: the value of a character
- `Base64.joinSextets`: the bytes that values stand for
- `Base64.decode`: the bytes that a text stands for, or its first fault
- `Base64.Fault.message`: the wording of a fault

## Design notes

A text is read in groups of four characters. The last group holds two to four characters and is
filled up with padding, and the bits of its last character that no byte uses are zero, so every byte
string has one written form only.
-/

namespace ClusterVault.Base64

/-- The character that fills up the last group. -/
def pad : UInt8 := 0x3d

/-- The value of a character. -/
def sextet? (b : UInt8) : Option Nat :=
  if 0x41 ≤ b && b ≤ 0x5a then some (b.toNat - 0x41)
  else if 0x61 ≤ b && b ≤ 0x7a then some (b.toNat - 0x61 + 26)
  else if 0x30 ≤ b && b ≤ 0x39 then some (b.toNat - 0x30 + 52)
  else if b = 0x2b then some 62
  else if b = 0x2f then some 63
  else none

/-- The bytes that values stand for. In a last group of two or three values the bits that do not
    fill a byte are dropped. -/
def joinSextets : List Nat → Bytes
  | a :: b :: c :: d :: rest =>
    UInt8.ofNat (a * 4 + b / 16) :: UInt8.ofNat (b * 16 + c / 4) :: UInt8.ofNat (c * 64 + d) ::
      joinSextets rest
  | [a, b, c] => [UInt8.ofNat (a * 4 + b / 16), UInt8.ofNat (b * 16 + c / 4)]
  | [a, b] => [UInt8.ofNat (a * 4 + b / 16)]
  | _ => []

/-- Why a text does not stand for bytes. -/
inductive Fault where
  /-- A byte that may not stand at its offset. -/
  | symbol (byte : UInt8) (offset : Nat)
  | length (n : Nat)
  /-- The last character sets bits that no byte uses. -/
  | lastSymbol (byte : UInt8) (offset : Nat)
  | padding
  deriving DecidableEq, Repr

/-- The wording of a fault. -/
def Fault.message : Fault → String
  | symbol byte offset => s!"Invalid symbol {byte.toNat}, offset {offset}."
  | length n => s!"Invalid input length: {n}"
  | lastSymbol byte offset => s!"Invalid last symbol {byte.toNat}, offset {offset}."
  | padding => "Invalid padding"

/-- The values of characters, the first of which is at an offset. -/
def values (offset : Nat) : Bytes → Except Fault (List Nat)
  | [] => .ok []
  | b :: rest =>
    match sextet? b with
    | none => .error (.symbol b offset)
    | some v => (values (offset + 1) rest).map (v :: ·)

/-- Whether the last value of a group sets bits that no byte uses. -/
def setsSpareBits : List Nat → Bool
  | [_, b] => b % 16 ≠ 0
  | [_, _, c] => c % 4 ≠ 0
  | _ => false

/-- The values of the last group, which starts at an offset. Padding must end the group, and at
    least two characters must come before it. -/
def lastValues (offset : Nat) (group : Bytes) : Except Fault (List Nat) := do
  let symbols := group.takeWhile (· ≠ pad)
  let padding := group.drop symbols.length
  let found ← values offset symbols
  if !padding.isEmpty && (symbols.length < 2 || padding.any (· ≠ pad)) then
    throw (.symbol pad (offset + symbols.length))
  if symbols.length = 1 then throw (.length (offset + 1))
  if group.length % 4 ≠ 0 then throw .padding
  match symbols.getLast? with
  | some b => if setsSpareBits found then throw (.lastSymbol b (offset + symbols.length - 1))
  | none => pure ()
  return found

/-- The last byte of a text, if it is alone in its group and no character. -/
def strayEnd? (text : Bytes) : Option UInt8 :=
  text.getLast?.filter fun b => text.length % 4 = 1 && b ≠ pad && (sextet? b).isNone

/-- The bytes that a text stands for. -/
def decode (text : Bytes) : Except Fault Bytes := do
  if let some b := strayEnd? text then throw (.symbol b (text.length - 1))
  let lastLength := if text.length % 4 = 0 then 4 else text.length % 4
  let offset := text.length - lastLength
  let first ← values 0 (text.take offset)
  let last ← lastValues offset (text.drop offset)
  return joinSextets (first ++ last)

end ClusterVault.Base64
