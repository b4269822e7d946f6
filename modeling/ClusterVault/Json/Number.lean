import ClusterVault.Json.Reader

/-!
# Numbers in JSON

## Main definitions

- `Json.Number`: a number as it is written
- `Json.Number.isHuge`: whether it is too large to be read
- `Json.Number.integer?`: the whole number it is written as
- `Json.number`, `Json.finiteNumber`: reading a number

## Design notes

A number may be read into any numeric type, so one beyond double precision is no number at all. A
whole number is one without point and exponent, whatever its value.
-/

namespace ClusterVault.Json

/-- Passes over decimal digits and answers them. -/
def digits : Reader Bytes := fun s =>
  let found := s.takeWhile fun b => 0x30 ≤ b && b ≤ 0x39
  .ok (found, s.drop found.length)

/-- Passes over decimal digits of which there must be one. -/
def someDigits : Reader Bytes := do
  let found ← digits
  if found.isEmpty then malformed else pure found

/-- The number that decimal digits write. -/
def decimalValue (found : Bytes) : Nat :=
  found.foldl (fun n d => n * 10 + (d.toNat - 0x30)) 0

/-- A number as it is written. -/
structure Number where
  negative : Bool
  whole : Bytes
  /-- The digits behind the point, if there is one. -/
  fraction : Option Bytes
  /-- The power of ten it is multiplied by, if one is written. -/
  exponent : Option Int
  deriving DecidableEq, Repr

namespace Number

/-- The first value above the range of numbers in double precision. -/
def overflow : Nat := Nat.pow 2 1024 - Nat.pow 2 970

/-- The largest power of ten in that range. -/
def largestPower : Int := 308

/-- Whether the number lies above the range of double precision. One with few digits in front of the
    point does not, and is not multiplied out. -/
def isHuge (n : Number) : Bool :=
  let fraction := n.fraction.getD []
  let digits := n.whole ++ fraction
  let power := n.exponent.getD 0 - fraction.length
  decimalValue digits ≠ 0 && power + digits.length > largestPower &&
    (power > largestPower ||
      decimalValue digits * Nat.pow 10 power.toNat ≥ overflow * Nat.pow 10 (-power).toNat)

/-- The integer of 64 bits that the number is written as. A negative zero is not written as one. -/
def integer? (n : Number) : Option Int :=
  let size := decimalValue n.whole
  if n.fraction.isSome || n.exponent.isSome then none
  else if n.negative then if 0 < size && size ≤ 0x8000000000000000 then some (-size) else none
  else if size < 0x8000000000000000 then some size else none

end Number

/-- The digits in front of the point: there are no leading zeros. -/
def wholePart : Reader Bytes := do
  let found ← someDigits
  if found.length > 1 && found.head? = some 0x30 then malformed else pure found

/-- The digits behind the point. -/
def fractionPart? : Reader (Option Bytes) := do
  if (← peek?) = some 0x2e then
    pass
    return some (← someDigits)
  else return none

/-- The power of ten. -/
def exponentPart? : Reader (Option Int) := do
  let mark ← peek?
  if mark = some 0x65 || mark = some 0x45 then
    pass
    let sign ← peek?
    if sign = some 0x2b || sign = some 0x2d then pass
    let size := decimalValue (← someDigits)
    return some (if sign = some 0x2d then -(size : Int) else size)
  else return none

/-- A number of any size. -/
def number : Reader Number := do
  let negative := (← peek?) = some 0x2d
  if negative then pass
  let whole ← wholePart
  let fraction ← fractionPart?
  return { negative, whole, fraction, exponent := ← exponentPart? }

/-- Whether a byte begins a number. -/
def beginsNumber (b : UInt8) : Bool := b = 0x2d || (0x30 ≤ b && b ≤ 0x39)

/-- A number in the range of double precision. -/
def finiteNumber : Reader Number := do
  let n ← number
  if n.isHuge then malformed else pure n

end ClusterVault.Json
