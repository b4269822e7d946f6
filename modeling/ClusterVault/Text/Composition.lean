import ClusterVault.Text.Composition.Table
import ClusterVault.Text.HexTable

/-!
# Composed text

A letter with marks can be written as one character or as several. Composed text has one character
wherever there is one, and otherwise the marks in a fixed order.

## Main definitions

- `Composition.combiningClass`: the class of a mark, and `0` for what is no mark
- `Composition.decompose`: takes a character apart
- `Composition.reorder`: puts marks in order
- `Composition.compose`: puts characters together
- `Composition.normalize`: the composed form of a text

## Design notes

This is normalization form C of the Unicode standard, for texts without characters that the form
replaces by a single other one. Two marks of one class stay in order. A mark combines with a letter
if no mark of the same or a higher class stands between.
-/

namespace ClusterVault.Composition

/-- A character that stands for two others. -/
structure Pair where
  whole : Nat
  first : Nat
  second : Nat

/-- The pairs of `pairs`. -/
def allPairs : Array Pair :=
  ((pairs.flatMap HexTable.rows).filterMap fun
    | [whole, first, second] => some ⟨whole, first, second⟩
    | _ => none).toArray

/-- The ranges of `classes` with their classes. -/
def classRanges : Array (Nat × Nat × Nat) :=
  ((classes.flatMap HexTable.rows).filterMap fun
    | [first, last, number] => some (first, last, number)
    | _ => none).toArray

/-- The class of a mark, and `0` for what is no mark. -/
def combiningClass (c : Char) : Nat :=
  ((classRanges.find? fun (first, last, _) => first ≤ c.toNat && c.toNat ≤ last).map
    fun (_, _, number) => number).getD 0

namespace Hangul

/-- The first syllable. -/
def syllableBase : Nat := 0xac00

/-- The first leading consonant. -/
def leadBase : Nat := 0x1100

/-- The first vowel. -/
def vowelBase : Nat := 0x1161

/-- The place in front of the first trailing consonant, which stands for having none. -/
def trailBase : Nat := 0x11a7

/-- How many leading consonants there are. -/
def leadCount : Nat := 19

/-- How many vowels there are. -/
def vowelCount : Nat := 21

/-- How many trailing consonants there are, none included. -/
def trailCount : Nat := 28

/-- The letters of a syllable. -/
def letters? (c : Char) : Option (List Char) :=
  let i := c.toNat - syllableBase
  if c.toNat < syllableBase || leadCount * vowelCount * trailCount ≤ i then none
  else
    let lead := Char.ofNat (leadBase + i / (vowelCount * trailCount))
    let vowel := Char.ofNat (vowelBase + i / trailCount % vowelCount)
    if i % trailCount = 0 then some [lead, vowel]
    else some [lead, vowel, Char.ofNat (trailBase + i % trailCount)]

/-- The syllable of a leading consonant and a vowel, or of a syllable without a trailing consonant
    and such a consonant. -/
def join? (a b : Char) : Option Char :=
  let lead := a.toNat - leadBase
  let vowel := b.toNat - vowelBase
  let syllable := a.toNat - syllableBase
  let trail := b.toNat - trailBase
  if leadBase ≤ a.toNat && lead < leadCount && vowelBase ≤ b.toNat && vowel < vowelCount then
    some (Char.ofNat (syllableBase + (lead * vowelCount + vowel) * trailCount))
  else if syllableBase ≤ a.toNat && syllable < leadCount * vowelCount * trailCount &&
      syllable % trailCount = 0 && trailBase < b.toNat && trail < trailCount then
    some (Char.ofNat (a.toNat + trail))
  else none

end Hangul

/-- The two characters that a character stands for. -/
def pair? (c : Char) : Option (Char × Char) :=
  (allPairs.find? (·.whole = c.toNat)).map fun p => (Char.ofNat p.first, Char.ofNat p.second)

/-- How often the first character of a pair can itself stand for a pair. -/
def deepestPair : Nat := 4

/-- Takes a character apart, at most a number of times. -/
def decomposeWithin : Nat → Char → List Char
  | 0, c => [c]
  | n + 1, c =>
    let parts? := (pair? c).map fun (a, b) => decomposeWithin n a ++ decomposeWithin n b
    ((Hangul.letters? c).or parts?).getD [c]

/-- Takes a character apart. -/
def decompose (c : Char) : List Char := decomposeWithin deepestPair c

/-- Puts a mark behind those of the same or a lower class. The text in front stands last first. -/
def insertMark (c : Char) : List Char → List Char
  | [] => [c]
  | b :: before =>
    if combiningClass b > combiningClass c then b :: insertMark c before else c :: b :: before

/-- Puts marks in order. -/
def reorder (s : List Char) : List Char :=
  (s.foldl (fun before c =>
    if combiningClass c = 0 then c :: before else insertMark c before) []).reverse

/-- The character that stands for two others. -/
def join? (a b : Char) : Option Char :=
  match Hangul.join? a b with
  | some c => some c
  | none =>
    (allPairs.find? fun p => p.first = a.toNat && p.second = b.toNat).map (Char.ofNat ·.whole)

/-- How far a text has been put together. -/
structure Composer where
  /-- What is finished, last first. -/
  finished : List Char := []
  /-- The last letter. -/
  letter : Option Char := none
  /-- The marks behind it that have not combined with it, last first. -/
  marks : List Char := []

namespace Composer

/-- All characters, last first. -/
def text (p : Composer) : List Char := p.marks ++ p.letter.toList ++ p.finished

/-- Adds a character that does not combine. -/
def add (p : Composer) (c : Char) : Composer :=
  if combiningClass c = 0 then { finished := p.text, letter := some c }
  else { p with marks := c :: p.marks }

/-- Adds a character. -/
def take (p : Composer) (c : Char) : Composer :=
  let blocked := p.marks.head?.any (combiningClass c ≤ combiningClass ·)
  match if blocked then none else p.letter.bind (join? · c) with
  | some whole => { p with letter := some whole }
  | none => p.add c

end Composer

/-- Puts characters together. -/
def compose (s : List Char) : List Char := (s.foldl Composer.take {}).text.reverse

/-- The composed form of a text. -/
def normalize (s : List Char) : List Char := compose (reorder (s.flatMap decompose))

end ClusterVault.Composition
