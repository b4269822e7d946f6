/-!
# Tables of numbers

Data of a standard that gives code points by the thousand is kept as text: rows of hexadecimal
numbers, with blanks between the numbers of a row and a comma between two rows.

## Main definitions

- `HexTable.rows`: the rows of a table
- `HexTable.ranges`, `HexTable.inRanges`: a table of inclusive ranges, and whether a number lies in
  one of them

## Design notes

A row of one number stands for the range of that number alone.
-/

namespace ClusterVault.HexTable

/-- The value of a hexadecimal digit, in small letters. -/
def digit? (c : Char) : Option Nat :=
  if '0' ≤ c ∧ c ≤ '9' then some (c.toNat - '0'.toNat)
  else if 'a' ≤ c ∧ c ≤ 'f' then some (c.toNat - 'a'.toNat + 10)
  else none

/-- How far a table has been read. Rows and numbers stand last first. -/
structure Progress where
  rows : List (List Nat) := []
  row : List Nat := []
  number : Option Nat := none

namespace Progress

/-- Puts the number that has been read into its row. -/
def endNumber (p : Progress) : Progress :=
  match p.number with
  | some n => { p with row := n :: p.row, number := none }
  | none => p

/-- Puts the row that has been read into the table. -/
def endRow (p : Progress) : Progress :=
  let p := p.endNumber
  { p with rows := p.row.reverse :: p.rows, row := [] }

/-- Reads a character. -/
def read (p : Progress) (c : Char) : Progress :=
  match digit? c with
  | some d => { p with number := some (p.number.getD 0 * 16 + d) }
  | none => if c = ',' then p.endRow else p.endNumber

end Progress

/-- The rows of a table. -/
def rows (table : String) : List (List Nat) :=
  (table.toList.foldl Progress.read {}).endRow.rows.reverse

/-- The ranges that a row stands for. -/
def rangeOfRow? : List Nat → Option (Nat × Nat)
  | [n] => some (n, n)
  | [first, last] => some (first, last)
  | _ => none

/-- The ranges of a table. -/
def ranges (table : String) : Array (Nat × Nat) := ((rows table).filterMap rangeOfRow?).toArray

/-- Whether a number lies in one of the ranges. -/
def inRanges (ranges : Array (Nat × Nat)) (n : Nat) : Bool :=
  ranges.any fun (first, last) => first ≤ n && n ≤ last

end ClusterVault.HexTable
