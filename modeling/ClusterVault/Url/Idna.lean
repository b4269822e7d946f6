import ClusterVault.Text.Split
import ClusterVault.Url.Idna.Joining
import ClusterVault.Url.Idna.Mapping
import ClusterVault.Url.Punycode

/-!
# Internationalised domain names

A domain name is compared and transmitted in a canonical ASCII form.

## Main definitions

- `Idna.map?`: what a character is replaced by, unless a domain name may not hold it
- `Idna.toUnicode?`: a label with all its characters, if it is well formed
- `Idna.toAscii?`: the ASCII form of a domain name, if it has one

## Design notes

Every character is mapped to its canonical form, the name is cut into labels at its full stops,
and a label that still holds characters beyond ASCII is written in Punycode behind `xn--`. A label
that comes in that form must stand for one that could have been given in its stead. Labels may be
empty and of any length.
-/

namespace ClusterVault.Idna

/-- Characters of ASCII that a domain name may not hold. -/
def isForbidden (c : Char) : Bool :=
  c.toNat ≤ 0x20 || c.toNat = 0x7f ||
    ['%', '#', '/', ':', '<', '>', '?', '@', '[', '\\', ']', '^', '|'].contains c

/-- Whether a character is one of ASCII. -/
def isAscii (c : Char) : Bool := c.toNat < 0x80

/-- The ranges of `Mapping.kept`. -/
def keptRanges : Array (Nat × Nat) := HexTable.ranges Mapping.kept

/-- The ranges of `Mapping.dropped`. -/
def droppedRanges : Array (Nat × Nat) := HexTable.ranges Mapping.dropped

/-- The rows of `Mapping.shifted`. -/
def shiftedRows : List (List Nat) := HexTable.rows Mapping.shifted

/-- The rows of `Mapping.merged`. -/
def mergedRows : List (List Nat) := HexTable.rows Mapping.merged

/-- The rows of `Mapping.single`. -/
def singleRows : List (List Nat) := HexTable.rows Mapping.single

/-- The rows of `Mapping.sequences`. -/
def sequenceRows : List (List Nat) := HexTable.rows Mapping.sequences

/-- What a row of `Mapping.shifted` replaces a character by. -/
def shift? (n : Nat) : List Nat → Option (List Nat)
  | [first, last, distance, target] =>
    if first ≤ n && n ≤ last && (n - first) % distance = 0 then some [target + (n - first)]
    else none
  | _ => none

/-- What a row of `Mapping.merged` replaces a character by. -/
def merge? (n : Nat) : List Nat → Option (List Nat)
  | [first, last, target] => if first ≤ n && n ≤ last then some [target] else none
  | _ => none

/-- What a row of `Mapping.single` or `Mapping.sequences` replaces a character by. -/
def replace? (n : Nat) : List Nat → Option (List Nat)
  | first :: targets => if n = first then some targets else none
  | [] => none

/-- What a character beyond ASCII is replaced by, if it is. -/
def replacement? (n : Nat) : Option (List Nat) :=
  if HexTable.inRanges droppedRanges n then some []
  else (shiftedRows.findSome? (shift? n)).or <| (mergedRows.findSome? (merge? n)).or <|
    (singleRows.findSome? (replace? n)).or <| sequenceRows.findSome? (replace? n)

/-- What a character is replaced by, unless a domain name may not hold it. -/
def map? (c : Char) : Option (List Char) :=
  if isAscii c then some [c.toLower]
  else match replacement? c.toNat with
    | some targets => some (targets.map Char.ofNat)
    | none => if HexTable.inRanges keptRanges c.toNat then some [c] else none

/-- The canonical form of a text, if a domain name may hold all its characters. -/
def canonical? (s : List Char) : Option (List Char) :=
  (s.mapM map?).map fun parts => Composition.normalize parts.flatten

/-- What stands in front of a label in Punycode. -/
def punycodeMark : List Char := ['x', 'n', '-', '-']

/-- A label with all its characters, if it is well formed. It must be in canonical form. -/
def toUnicode? (label : List Char) : Option (List Char) := do
  let text ←
    if punycodeMark.isPrefixOf label then do
      let text ← Punycode.decode? (label.drop punycodeMark.length)
      guard (!text.all isAscii && canonical? text = some text && !text.contains '.')
      pure text
    else pure label
  guard (!text.head?.any isMark && joinersFit text)
  pure text

/-- The ASCII form of a label, if it has one. -/
def labelToAscii? (label : List Char) : Option (List Char) :=
  if label.any isForbidden then none
  else if label.all isAscii then some label
  else some (punycodeMark ++ Punycode.encode label)

/-- Whether a name can be taken as it is, letter case apart. -/
def isPlain (name : List Char) : Bool :=
  name.all isAscii &&
    !(Text.splitAtChar '.' name).any fun label => punycodeMark.isPrefixOf (label.map Char.toLower)

/-- The ASCII form of a domain name, if it has one. -/
def toAscii? (name : String) : Option (List Char) :=
  if isPlain name.toList then
    if name.toList.any isForbidden then none else some (name.toList.map Char.toLower)
  else do
    let canonical ← canonical? name.toList
    let labels ← (Text.splitAtChar '.' canonical).mapM toUnicode?
    guard (Direction.areConsistent labels)
    return ['.'].intercalate (← labels.mapM labelToAscii?)

end ClusterVault.Idna
