/-!
# Punycode

A label of a domain name that holds characters beyond ASCII travels as an ASCII text: first its
ASCII characters, then, after a dash, the places and values of the others in ascending order of
code point, as numbers of variable length.

## Main definitions

- `Punycode.encode`: the ASCII form of a label
- `Punycode.decode?`: the label an ASCII form stands for

## Design notes

Numbers are written in base `36`, least digit first, where the threshold of each digit place
depends on a bias that adapts to the numbers written so far. All loops are bounded by data: a
digit loop by the number it writes or the text it reads, the outer loops by the characters left.
-/

namespace ClusterVault.Punycode

/-- The digit with the given value: `a` to `z`, then `0` to `9`. -/
def digit (d : Nat) : Char :=
  if d < 26 then Char.ofNat (0x61 + d) else Char.ofNat (0x30 + (d - 26))

/-- The value of a digit, in either case. -/
def digitValue? (c : Char) : Option Nat :=
  if 'a' ≤ c ∧ c ≤ 'z' then some (c.toNat - 0x61)
  else if 'A' ≤ c ∧ c ≤ 'Z' then some (c.toNat - 0x41)
  else if '0' ≤ c ∧ c ≤ '9' then some (c.toNat - 0x30 + 26)
  else none

/-- The threshold of the digit at place `k` under a bias. -/
def threshold (k bias : Nat) : Nat := min 26 (max 1 (k - bias))

theorem one_le_threshold (k bias : Nat) : 1 ≤ threshold k bias := by
  unfold threshold; omega

/-- Divides `delta` by `35` until it is at most `455`, counting `36` for every division. -/
def shrink (delta k : Nat) : Nat × Nat :=
  if 455 < delta then shrink (delta / 35) (k + 36) else (delta, k)
termination_by delta
decreasing_by omega

/-- The bias after a number has been written, for `points` characters placed so far. -/
def adapt (delta points : Nat) (first : Bool) : Nat :=
  let delta := if first then delta / 700 else delta / 2
  let (delta, k) := shrink (delta + delta / points) 0
  k + 36 * delta / (delta + 38)

/-- The digits of a number from place `k` on. -/
def writeNumber (q k bias : Nat) : List Char :=
  let t := threshold k bias
  if q < t then [digit q]
  else digit (t + (q - t) % (36 - t)) :: writeNumber ((q - t) / (36 - t)) (k + 36) bias
termination_by q
decreasing_by
  have h := one_le_threshold k bias
  have : (q - threshold k bias) / (36 - threshold k bias) ≤ q - threshold k bias :=
    Nat.div_le_self _ _
  omega

/-- The state of an encoder between two code points. -/
structure Encoder where
  /-- The code point below which everything has been placed. -/
  next : Nat
  /-- How far the insertion point has moved since the last number. -/
  delta : Nat
  bias : Nat
  /-- How many characters have been placed. -/
  placed : Nat
  /-- The digits written so far, in reverse. -/
  output : List Char

/-- Places every occurrence of the code point `m` of the label. -/
def Encoder.place (m basic : Nat) (e : Encoder) (c : Char) : Encoder :=
  if c.toNat < m then { e with delta := e.delta + 1 }
  else if c.toNat = m then
    { e with
      delta := 0
      bias := adapt e.delta (e.placed + 1) (e.placed = basic)
      placed := e.placed + 1
      output := (writeNumber e.delta 36 e.bias).reverse ++ e.output }
  else e

/-- Places the code points of the list, each with all its occurrences in the label. -/
def encodePoints (label : List Char) (basic : Nat) : List Nat → Encoder → Encoder
  | [], e => e
  | m :: rest, e =>
    let e := { e with delta := e.delta + (m - e.next) * (e.placed + 1) }
    let e := label.foldl (Encoder.place m basic) e
    encodePoints label basic rest { e with delta := e.delta + 1, next := m + 1 }

/-- The ASCII form of a label. -/
def encode (label : List Char) : List Char :=
  let ascii := label.filter (·.toNat < 0x80)
  let others := (label.map (·.toNat)).filter (0x80 ≤ ·)
  let points := (others.mergeSort (· ≤ ·)).eraseDups
  let start : Encoder :=
    { next := 0x80, delta := 0, bias := 72, placed := ascii.length, output := [] }
  let lead := if ascii.isEmpty then [] else ascii ++ ['-']
  lead ++ (encodePoints label ascii.length points start).output.reverse

/-- Reads a number from place `k` on: its value and the text after it. -/
def readNumber : List Char → (k bias weight value : Nat) → Option (Nat × List Char)
  | [], _, _, _, _ => none
  | c :: rest, k, bias, weight, value =>
    match digitValue? c with
    | none => none
    | some d =>
      let t := threshold k bias
      let value := value + d * weight
      if d < t then some (value, rest)
      else readNumber rest (k + 36) bias (weight * (36 - t)) value

theorem readNumber_length {s : List Char} {k bias weight value : Nat} {r : Nat × List Char}
    (h : readNumber s k bias weight value = some r) : r.2.length < s.length := by
  induction s generalizing k weight value with
  | nil => simp [readNumber] at h
  | cons c rest ih =>
    simp only [readNumber] at h
    split at h
    · simp at h
    · split at h
      · cases h; simp
      · have := ih h
        simp only [List.length_cons]
        omega

/-- Reads the numbers of a text and inserts the characters they name. -/
def decodeLoop (s : List Char) (next position bias : Nat) (output : List Char) :
    Option (List Char) :=
  if s.isEmpty then some output
  else
    match _h : readNumber s 36 bias 1 0 with
    | none => none
    | some (value, rest) =>
      let length := output.length + 1
      let place := position + value
      let point := next + place / length
      if 0x110000 ≤ point || (0xd800 ≤ point && point < 0xe000) then none
      else
        let i := place % length
        decodeLoop rest point (i + 1) (adapt value length (position = 0))
          (output.take i ++ Char.ofNat point :: output.drop i)
termination_by s.length
decreasing_by
  exact readNumber_length _h

/-- Splits a text at its last dash; a dash in front of everything does not count. -/
def splitAtLastDash (s : List Char) : List Char × List Char :=
  match s.reverse.span (· ≠ '-') with
  | (_, []) => ([], s)
  | (_, [_]) => ([], s)
  | (tail, _ :: lead) => (lead.reverse, tail.reverse)

/-- The label an ASCII form stands for. -/
def decode? (s : List Char) : Option (List Char) :=
  let (lead, tail) := splitAtLastDash s
  if lead.any (0x80 ≤ ·.toNat) then none else decodeLoop tail 0x80 0 72 lead

end ClusterVault.Punycode
