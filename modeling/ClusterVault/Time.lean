/-!
# Instants and durations

All waiting in this library is measured on one clock that counts milliseconds.

## Main definitions

- `Instant`, `Duration`: points on the clock and distances between them, in milliseconds
- `Duration.render`: the wording of a duration
- `Instant.ofSecondsAfter?`: a point some seconds ahead, if the clock reaches that far

## Design notes

A clock starts at `0` and never runs backwards. It reaches up to `Instant.horizon`, the last whole
second that a signed 64-bit count of seconds can name when the count was running before the clock
was started.
-/

namespace ClusterVault

/-- A point on the clock, in milliseconds since it was started. -/
abbrev Instant := Nat

/-- A distance between two instants, in milliseconds. -/
abbrev Duration := Nat

namespace Duration

/-- A number of whole seconds. -/
def ofSeconds (n : Nat) : Duration := n * 1000

/-- The digits of a fraction of `1000`, without trailing zeros. -/
def fractionDigits (millis : Nat) : List Char :=
  let digits := [millis / 100 % 10, millis / 10 % 10, millis % 10]
  ((digits.reverse.dropWhile (· = 0)).reverse).map Nat.digitChar

/-- The wording of a duration: in seconds with as few decimals as it needs, in milliseconds below
    one second, and `0ns` for none at all. -/
def render (d : Duration) : String :=
  if d = 0 then "0ns"
  else if d < 1000 then s!"{d}ms"
  else if d % 1000 = 0 then s!"{d / 1000}s"
  else s!"{d / 1000}." ++ String.ofList (fractionDigits (d % 1000)) ++ "s"

end Duration

namespace Instant

/-- The end of the clock: `2 ^ 63 - 2` seconds after its start. -/
def horizon : Instant := (0x8000000000000000 - 2) * 1000

/-- The instant a number of seconds after `now`, if the clock reaches that far. -/
def ofSecondsAfter? (now : Instant) (seconds : Nat) : Option Instant :=
  let t := now + seconds * 1000
  if t ≤ horizon then some t else none

end Instant

end ClusterVault
