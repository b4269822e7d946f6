import ClusterVault.Json.Reader

/-!
# Texts in JSON

## Main definitions

- `Json.Piece`: a byte or an escape
- `Json.pieces`: the pieces of a text
- `Json.compose?`: the bytes that pieces stand for
- `Json.quoted`: reading a text

## Design notes

Cutting a text into pieces finds where it ends, whatever the pieces stand for. A text that is not
wanted is only cut into pieces, so it may hold halves of characters.
-/

namespace ClusterVault.Json

/-- The value of a hexadecimal digit. -/
def hexDigit : Reader Nat := do
  let b ← take
  if 0x30 ≤ b && b ≤ 0x39 then return b.toNat - 0x30
  else if 0x41 ≤ b && b ≤ 0x46 then return b.toNat - 0x41 + 10
  else if 0x61 ≤ b && b ≤ 0x66 then return b.toNat - 0x61 + 10
  else malformed

/-- The number that four hexadecimal digits write. -/
def fourDigits : Reader Nat := do
  let a ← hexDigit
  let b ← hexDigit
  let c ← hexDigit
  let d ← hexDigit
  return ((a * 16 + b) * 16 + c) * 16 + d

/-- A part of a text as it is written. -/
inductive Piece where
  | byte (b : UInt8)
  /-- A unit of UTF-16, escaped. -/
  | unit (u : Nat)
  deriving DecidableEq, Repr

/-- Reads what follows a backslash. -/
def escape : Reader Piece := do
  let b ← take
  if b = 0x22 || b = 0x5c || b = 0x2f then return .byte b
  else if b = 0x62 then return .byte 0x08
  else if b = 0x66 then return .byte 0x0c
  else if b = 0x6e then return .byte 0x0a
  else if b = 0x72 then return .byte 0x0d
  else if b = 0x74 then return .byte 0x09
  else if b = 0x75 then return .unit (← fourDigits)
  else malformed

/-- Reads pieces up to the quotation mark that closes a text, at most as many as the first argument
    says. -/
def piecesWithin : Nat → Reader (List Piece)
  | 0 => malformed
  | count + 1 => do
    let b ← take
    if b = 0x22 then return []
    else if b < 0x20 then malformed
    else
      let piece ← if b = 0x5c then escape else pure (.byte b)
      return piece :: (← piecesWithin count)

/-- The pieces of a text, whose opening quotation mark is next. -/
def pieces : Reader (List Piece) := do
  pass
  piecesWithin (← remaining)

/-- The bytes that pieces stand for. Two units that make up one character stand side by side. -/
def compose? : List Piece → Option Bytes
  | [] => some []
  | .byte b :: rest => (compose? rest).map (b :: ·)
  | .unit u :: rest =>
    if 0xdc00 ≤ u && u ≤ 0xdfff then none
    else if 0xd800 ≤ u && u ≤ 0xdbff then
      match rest with
      | .unit v :: rest =>
        if 0xdc00 ≤ v && v ≤ 0xdfff then
          (compose? rest).map
            (Bytes.ofString (Char.ofNat (0x10000 + (u - 0xd800) * 0x400 + (v - 0xdc00))).toString
              ++ ·)
        else none
      | _ => none
    else (compose? rest).map (Bytes.ofString (Char.ofNat u).toString ++ ·)

/-- A text whose opening quotation mark is next. -/
def quoted : Reader String := do
  match (compose? (← pieces)).bind Bytes.text? with
  | some s => pure s
  | none => malformed

end ClusterVault.Json
