/-!
# Numbers for members

## Main definitions

- `IdSource`: a stream of random numbers
- `IdSource.fresh`: a number that is not `0` and not taken

## Design notes

A number is drawn again while it is `0` or taken. A stream that keeps giving such numbers is given
up after some draws for the least number that is free.
-/

namespace ClusterVault

/-- A stream of random numbers, and how many of them have been drawn. -/
structure IdSource where
  draw : Nat → Nat
  used : Nat := 0

namespace IdSource

/-- Whether a number may be given to a new member. -/
def isFree (taken : List Nat) (id : Nat) : Bool := id ≠ 0 && !taken.contains id

/-- The least number that may be given to a new member. -/
def leastFree (taken : List Nat) : Nat :=
  ((List.range' 1 (taken.length + 1)).find? (isFree taken)).getD 0

/-- Draws until a number is free, at most as often as the first argument says. -/
def drawFree : Nat → IdSource → List Nat → Nat × IdSource
  | 0, s, taken => (leastFree taken, s)
  | tries + 1, s, taken =>
    let id := s.draw s.used
    let s := { s with used := s.used + 1 }
    if isFree taken id then (id, s) else drawFree tries s taken

/-- How often a number is drawn before a stream is given up. -/
def patience : Nat := 1000

/-- A number that is not `0` and not taken. -/
def fresh (s : IdSource) (taken : List Nat) : Nat × IdSource := drawFree patience s taken

end IdSource

end ClusterVault
