import ClusterVault.Text.Base64

/-!
# Armoured text

Certificates and keys are kept in text files, as blocks of base 64 between a line that opens a block
and a line that closes it.

## Main definitions

- `Pem.Block`: a block with its label
- `Pem.next?`: the first block of a list of lines, and the lines behind it
- `Pem.find?`: the content of the first block with one of the given labels

## Design notes

Text in front of a block is skipped. Inside a block the reader is strict: a block that does not
close, closes under another label or holds something other than base 64 ends the search. Lines are
read in stretches of at most `254` bytes. What ends a stretch and is not a printable character of
ASCII is dropped.

A block may begin with a header, lines with a colon up to an empty line. Behind an empty line only
the last line may be shorter than 64 characters, and none may be longer.
-/

namespace ClusterVault.Pem

/-- A block with its label. -/
structure Block where
  label : Bytes
  header : Bytes
  content : Bytes
  deriving DecidableEq, Repr

/-- The longest stretch of a line that is read at once. -/
def stretch : Nat := 254

/-- Text cut behind every line feed, and into stretches. The first argument is the stretch begun so
    far, back to front. -/
def cut (begun : Bytes) : Bytes → List Bytes
  | [] => if begun.isEmpty then [] else [begun.reverse]
  | b :: rest =>
    if b = 0x0a || begun.length + 1 = stretch then (b :: begun).reverse :: cut [] rest
    else cut (b :: begun) rest

/-- Text cut into the stretches that are read at once. -/
def lines (text : Bytes) : List Bytes := cut [] text

/-- A line without what is dropped at its end. -/
def trimEnd (line : Bytes) : Bytes :=
  (line.reverse.dropWhile fun b => b ≤ 0x20 || 0x80 ≤ b).reverse

/-- A line without the mark that tells the byte order. -/
def dropOrderMark (line : Bytes) : Bytes :=
  if line.length > 3 && line.take 3 = [0xef, 0xbb, 0xbf] then line.drop 3 else line

/-- What opens the first line of a block. -/
def opening : Bytes := Bytes.ofString "-----BEGIN "

/-- What opens the last line of a block. -/
def closing : Bytes := Bytes.ofString "-----END "

/-- What closes either line. -/
def dashes : Bytes := Bytes.ofString "-----"

/-- The label on the first line of a block. It ends at a null character. -/
def label? (line : Bytes) : Option Bytes :=
  if opening.isPrefixOf line && dashes.isSuffixOf line then
    let label := (line.drop opening.length).take (line.length - opening.length - dashes.length)
    some (label.takeWhile (· ≠ 0))
  else none

/-- Where a reader stands inside a block. -/
inductive Stage where
  /-- No line has told yet whether there is a header. -/
  | undecided
  | header
  | content
  deriving DecidableEq, Repr

/-- What a reader inside a block has collected. -/
structure Progress where
  stage : Stage := .undecided
  header : Bytes := []
  content : Bytes := []
  /-- Whether the last line was short, so that none may follow. -/
  ended : Bool := false
  /-- Whether the last stretch did not reach the end of its line. -/
  broken : Bool := false

/-- Reads the lines of a block up to the one that closes it. -/
def body? (label : Bytes) (p : Progress) : List Bytes → Option (Block × List Bytes)
  | [] => none
  | raw :: rest =>
    let p' := { p with
      stage := if p.stage = .undecided && raw.contains 0x3a then .header else p.stage
      broken := raw.length = stretch && raw.getLast? ≠ some 0x0a }
    let line := trimEnd raw
    if line.isEmpty then
      if p.broken then body? label p' rest
      else if p'.stage = .content then none
      else body? label { p' with stage := .content } rest
    else if closing.isPrefixOf line then
      if line = closing ++ label ++ dashes then
        let block := if p'.stage = .undecided then ⟨label, [], p'.header⟩
          else ⟨label, p'.header, p'.content⟩
        some (block, rest)
      else none
    else if p.ended then none
    else
      let text := (line ++ [0x0a]).takeWhile (· ≠ 0)
      if p'.stage = .content then
        if line.length > 64 then none
        else body? label
          { p' with content := p'.content ++ text, ended := line.length < 64 } rest
      else body? label { p' with header := p'.header ++ text } rest

/-- The first block, and the lines behind it. The first argument tells whether the next line may
    begin with a mark that tells the byte order. -/
def nextFrom? (first : Bool) : List Bytes → Option (Block × List Bytes)
  | [] => none
  | raw :: rest =>
    match label? (trimEnd (if first then dropOrderMark raw else raw)) with
    | some label => body? label {} rest
    | none => nextFrom? false rest

/-- The first block, and the lines behind it. -/
def next? (text : List Bytes) : Option (Block × List Bytes) := nextFrom? true text

/-- The sextets of a text in base 64 and the number of padding characters behind them. Blanks are
    skipped, and a dash ends the text. -/
def sextets? (padding : Nat) : Bytes → Option (List Nat × Nat)
  | [] => some ([], padding)
  | b :: rest =>
    if b = 0x20 || b = 0x09 || b = 0x0a || b = 0x0d then sextets? padding rest
    else if b = 0x2d then some ([], padding)
    else if b = 0x3d then if padding = 2 then none else sextets? (padding + 1) rest
    else do
      let value ← Base64.sextet? b
      if padding > 0 then none
      else
        let (values, total) ← sextets? padding rest
        return (value :: values, total)

/-- The bytes that a text in base 64 stands for. -/
def decode? (text : Bytes) : Option Bytes := do
  let (values, padding) ← sextets? 0 text
  if (values.length + padding) % 4 ≠ 0 then none
  else
    let padded := Base64.joinSextets (values ++ List.replicate padding 0)
    return padded.take (padded.length - padding)

/-- The content of the first block with one of the given labels, read from at most the given number
    of blocks. -/
def findWithin? (labels : List Bytes) : Nat → List Bytes → Option Bytes
  | 0, _ => none
  | count + 1, text => do
    let (block, rest) ← next? text
    let content ← decode? block.content
    if content.isEmpty then none
    else if labels.contains block.label then
      if block.header.isEmpty then some content else none
    else findWithin? labels count rest

/-- The content of the first block with one of the given labels. -/
def find? (labels : List String) (text : Bytes) : Option Bytes :=
  let all := lines text
  findWithin? (labels.map Bytes.ofString) (all.length + 1) all

end ClusterVault.Pem
