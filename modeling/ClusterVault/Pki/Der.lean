import ClusterVault.Text.Bytes

/-!
# Tagged elements

Certificates are nested elements, each a tag, a length and a content.

## Main definitions

- `Der.Element`: one element
- `Der.element?`: the element at the start of a byte string, and what follows it
- `Der.elements?`: a byte string cut into elements
- `Der.integer?`, `Der.identifier?`, `Der.bitString?`: contents with a form of their own

## Design notes

Lengths need not have their shortest form, and a constructed element may instead run up to an end
mark. Integers and identifiers do need their shortest form.
-/

namespace ClusterVault.Der

/-- The four kinds of tags. -/
inductive TagClass where
  | universal
  | application
  | context
  | restricted
  deriving DecidableEq, Repr

/-- A tag, whether the content is made of elements, and the content. -/
structure Element where
  tagClass : TagClass
  constructed : Bool
  tag : Nat
  content : Bytes
  deriving DecidableEq, Repr

/-- How far a content runs. -/
inductive Extent where
  | bytes (count : Nat)
  /-- Up to an end mark. -/
  | untilMark
  deriving DecidableEq, Repr

/-- The kind of tag in a first byte. -/
def tagClassOf (b : UInt8) : TagClass :=
  match b.toNat / 64 with
  | 0 => .universal
  | 1 => .application
  | 2 => .context
  | _ => .restricted

/-- A tag number in groups of seven bits, and what follows it. -/
def longTag? (value : Nat) : Bytes → Option (Nat × Bytes)
  | [] => none
  | b :: rest =>
    let value := value * 128 + b.toNat % 128
    if b < 0x80 then some (value, rest)
    else if value > 0x7fffffff / 128 then none
    else longTag? value rest

/-- The number written in base 256. -/
def number (digits : Bytes) : Nat := digits.foldl (fun n b => n * 256 + b.toNat) 0

/-- How far the content runs, and what follows the length. -/
def extent? : Bytes → Option (Extent × Bytes)
  | [] => none
  | b :: rest =>
    if b < 0x80 then some (.bytes b.toNat, rest)
    else if b = 0x80 then some (.untilMark, rest)
    else
      let width := b.toNat % 128
      if rest.length < width then none
      else if ((rest.take width).dropWhile (· = 0)).length > 8 then none
      else some (.bytes (number (rest.take width)), rest.drop width)

/-- The tag and the extent at the start of a byte string, and what follows them. -/
def header? : Bytes → Option (TagClass × Bool × Nat × Extent × Bytes)
  | [] => none
  | b :: rest => do
    let (tag, rest) ← if b.toNat % 32 = 31 then longTag? 0 rest else some (b.toNat % 32, rest)
    let (extent, rest) ← extent? rest
    return (tagClassOf b, b.toNat / 32 % 2 = 1, tag, extent, rest)

mutual

/-- The element at the start of a byte string, and what follows it. The first argument bounds the
    depth of elements that run up to an end mark. -/
def elementWithin? : Nat → Bytes → Option (Element × Bytes)
  | 0, _ => none
  | depth + 1, b => do
    let (tagClass, constructed, tag, extent, rest) ← header? b
    match extent with
    | .bytes count =>
      if rest.length < count then none
      else some (⟨tagClass, constructed, tag, rest.take count⟩, rest.drop count)
    | .untilMark =>
      if constructed then
        let (content, rest) ← markedWithin? depth rest
        return (⟨tagClass, constructed, tag, content⟩, rest)
      else none

/-- The bytes in front of an end mark, and what follows it. -/
def markedWithin? : Nat → Bytes → Option (Bytes × Bytes)
  | _, 0 :: 0 :: rest => some ([], rest)
  | 0, _ => none
  | depth + 1, b => do
    let (_, rest) ← elementWithin? depth b
    let (content, after) ← markedWithin? depth rest
    return (b.take (b.length - rest.length) ++ content, after)

end

/-- The element at the start of a byte string, and what follows it. -/
def element? (b : Bytes) : Option (Element × Bytes) := elementWithin? (b.length + 1) b

/-- A byte string cut into elements, of which there are no more than the first argument. -/
def elementsWithin? : Nat → Bytes → Option (List Element)
  | _, [] => some []
  | 0, _ => none
  | count + 1, b => do
    let (first, rest) ← element? b
    return first :: (← elementsWithin? count rest)

/-- A byte string cut into elements. -/
def elements? (b : Bytes) : Option (List Element) := elementsWithin? b.length b

namespace Element

/-- Whether the element has a tag of the common set. -/
def isUniversal (e : Element) (tag : Nat) : Bool := e.tagClass = .universal && e.tag = tag

/-- The elements of a sequence. -/
def sequence? (e : Element) : Option (List Element) :=
  if e.isUniversal 16 && e.constructed then elements? e.content else none

/-- The elements of a set. -/
def set? (e : Element) : Option (List Element) :=
  if e.isUniversal 17 && e.constructed then elements? e.content else none

/-- Whether the element has a tag whose meaning depends on its place. -/
def isContext (e : Element) (tag : Nat) : Bool := e.tagClass = .context && e.tag = tag

/-- The one element wrapped in an element whose tag depends on its place. -/
def wrapped? (e : Element) : Option Element := do
  let inner ← if e.constructed then elements? e.content else none
  match inner with
  | [single] => some single
  | _ => none

/-- The content of a primitive element with the given tag. -/
def primitive? (e : Element) (tag : Nat) : Option Bytes :=
  if e.isUniversal tag && !e.constructed then some e.content else none

/-- The content of a string, which may come in parts. The first argument bounds the depth. -/
def joinedWithin? : Nat → Element → Option Bytes
  | depth, e =>
    if !e.constructed then some e.content
    else match depth with
      | 0 => none
      | depth + 1 => do
        let parts ← elements? e.content
        return (← parts.mapM (joinedWithin? depth)).flatten

end Element

/-- Whether bytes are an integer in its shortest form. -/
def isInteger : Bytes → Bool
  | [] => false
  | [_] => true
  | a :: b :: _ => !(a = 0 && b < 0x80) && !(a = 0xff && 0x80 ≤ b)

/-- The bytes of an integer. -/
def integer? (e : Element) : Option Bytes := do
  let content ← e.primitive? 2
  if isInteger content then some content else none

/-- The numbers written in groups of seven bits; a group must not begin with zeros. -/
def arcs? : Bytes → Option (List Nat)
  | content => go none content
where
  /-- Reads on, with the number begun so far. -/
  go : Option Nat → Bytes → Option (List Nat)
    | none, [] => some []
    | some _, [] => none
    | begun, b :: rest =>
      if begun = none && b = 0x80 then none
      else
        let value := begun.getD 0 * 128 + b.toNat % 128
        if b < 0x80 then (go none rest).map (value :: ·) else go (some value) rest

/-- The numbers of an object identifier. -/
def identifier? (e : Element) : Option (List Nat) := do
  let content ← e.primitive? 6
  match ← arcs? content with
  | [] => none
  | first :: rest =>
    return if first < 40 then 0 :: first :: rest
      else if first < 80 then 1 :: (first - 40) :: rest
      else 2 :: (first - 80) :: rest

/-- The bytes of a bit string, without the count of unused bits. -/
def bitString? (e : Element) : Option Bytes := do
  let content ← if e.isUniversal 3 then e.joinedWithin? 5 else none
  match content with
  | [] => none
  | unused :: bits => if unused ≤ 7 then some bits else none

end ClusterVault.Der
