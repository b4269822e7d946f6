/-!
# Decimal numbers

## Main definitions

- `Decimal.value`: the number that digits write
- `Decimal.natural?`, `Decimal.integer?`: reading a number, with or without a sign
-/

namespace ClusterVault.Decimal

/-- The number that decimal digits write. -/
def value (digits : List Char) : Nat :=
  digits.foldl (fun n c => n * 10 + (c.toNat - '0'.toNat)) 0

/-- Reads digits, of which there must be one. -/
def digits? (s : List Char) : Option Nat :=
  if !s.isEmpty && s.all Char.isDigit then some (value s) else none

/-- Reads a number that may be led by a plus sign. -/
def natural? : List Char → Option Nat
  | '+' :: s => digits? s
  | s => digits? s

/-- Reads a number that may be led by a sign. -/
def integer? : List Char → Option Int
  | '-' :: s => (digits? s).map fun n => -(n : Int)
  | s => (natural? s).map Int.ofNat

end ClusterVault.Decimal
