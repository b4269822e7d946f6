import ClusterVault.Calendar
import ClusterVault.Pki.Certificate
import ClusterVault.Pki.Der
import ClusterVault.Pki.Error
import ClusterVault.Pki.Pem

/-!
# Reading certificates

## Main definitions

- `Certificate.ofElements?`: the certificate that tagged elements spell out
- `Certificate.read`: the first certificate in a document

## Design notes

The signature is not checked, and statements about the use of the key are read past. The names must
be in order: every attribute has a type of string that names admit, and its content is text in that
type.
-/

namespace ClusterVault

namespace NameAttribute

/-- The tags of the strings that an attribute of a name may be, in the common set of tags. -/
def stringTags : List Nat := [3, 7, 8, 9, 10, 11, 12, 13, 14, 15, 16, 18, 19, 20, 22, 28, 29, 30]

/-- A number written in base 256 that is a character. -/
def isScalar (digits : Bytes) : Bool := (Der.number digits).isValidChar

/-- Whether bytes are characters of the given width. -/
def isWide (width : Nat) : (count : Nat) → Bytes → Bool
  | _, [] => true
  | 0, _ => false
  | count + 1, b =>
    width ≤ b.length && isScalar (b.take width) && isWide width count (b.drop width)

/-- Whether a content is text in the type of string that a tag stands for. -/
def isText (tag : Nat) (content : Bytes) : Bool :=
  if tag = 12 then content.text?.isSome
  else if tag = 30 then isWide 2 content.length content
  else if tag = 28 then isWide 4 content.length content
  else true

/-- The attribute that an element spells out. -/
def ofElement? (e : Der.Element) : Option NameAttribute := do
  match ← e.sequence? with
  | [kind, value] =>
    let kind ← Der.identifier? kind
    if value.tagClass = .universal && stringTags.contains value.tag then
      let content ←
        if value.tag = 16 then some value.content
        else if value.tag = 3 then Der.bitString? value
        else value.joinedWithin? 5
      if isText value.tag content then some ⟨kind, content⟩ else none
    else none
  | _ => none

/-- The attributes of a name. -/
def listOfElement? (e : Der.Element) : Option (List NameAttribute) := do
  let groups ← (← e.sequence?).mapM fun group => do (← group.set?).mapM ofElement?
  return groups.flatten

end NameAttribute

namespace Certificate

/-- Whether an element names an algorithm. -/
def isAlgorithm (e : Der.Element) : Bool :=
  match e.sequence? with
  | some [kind] => (Der.identifier? kind).isSome
  | some [kind, _] => (Der.identifier? kind).isSome
  | _ => false

/-- The second that an element names. A date in no usual form reads as the start of 1970. -/
def second? (e : Der.Element) : Option Int :=
  if e.isUniversal 23 then some ((Calendar.parseShort? e.content).getD 0)
  else if e.isUniversal 24 then some ((Calendar.parseLong? e.content).getD 0)
  else none

/-- The public key that an element holds. -/
def publicKey? (e : Der.Element) : Option PublicKey := do
  match ← e.sequence? with
  | [algorithm, bits] =>
    let bits ← Der.bitString? bits
    if isAlgorithm algorithm then some (.encoded bits) else none
  | _ => none

/-- Whether an element is a statement about the use of the key. -/
def isExtension (e : Der.Element) : Bool :=
  match e.sequence? with
  | some [kind, value] => (Der.identifier? kind).isSome && value.isUniversal 4
  | some [kind, critical, value] =>
    (Der.identifier? kind).isSome && (critical.primitive? 1).any (·.length = 1) &&
      value.isUniversal 4
  | _ => false

/-- Whether elements are what may stand behind the public key: two identifiers and a list of
    statements, each of them optional. -/
def isTail (es : List Der.Element) : Bool :=
  let es := match es with
    | e :: rest => if e.isContext 1 then rest else es
    | [] => es
  let es := match es with
    | e :: rest => if e.isContext 2 then rest else es
    | [] => es
  match es with
  | [] => true
  | [e] => e.isContext 3 &&
    ((e.wrapped?.bind (·.sequence?)).any fun statements => statements.all isExtension)
  | _ => false

/-- The version that the elements of a certificate begin with, and those behind it. -/
def takeVersion? : List Der.Element → Option (Nat × List Der.Element)
  | [] => none
  | e :: rest =>
    if e.isContext 0 then do
      let digits ← Der.integer? (← e.wrapped?)
      return (Der.number digits + 1, rest)
    else some (1, e :: rest)

/-- The certificate that tagged elements spell out. Bytes behind them do not count. -/
def ofElements? (bytes : Bytes) : Option Certificate := do
  let (outer, rest) ← Der.element? bytes
  match ← outer.sequence? with
  | [body, algorithm, signature] =>
    let _ ← Der.bitString? signature
    let (version, fields) ← takeVersion? (← body.sequence?)
    match fields with
    | serial :: inner :: issuer :: validity :: subject :: key :: tail =>
      let _ ← Der.integer? serial
      let issuer ← NameAttribute.listOfElement? issuer
      let subject ← NameAttribute.listOfElement? subject
      let publicKey ← publicKey? key
      match ← validity.sequence? with
      | [notBefore, notAfter] =>
        let notBefore ← second? notBefore
        let notAfter ← second? notAfter
        if isAlgorithm algorithm && isAlgorithm inner && isTail tail then
          some {
            mark := .encoded (bytes.take (bytes.length - rest.length))
            version, subject, issuer, notBefore, notAfter, publicKey
            signer := none, role := none, alternativeNames := none }
        else none
      | _ => none
    | _ => none
  | _ => none

/-- The first certificate in a document. -/
def read : Document → Except PkiError Certificate
  | .certificate c => .ok c
  | .privateKey _ => .error .rejected
  | .text content =>
    match (Pem.find? ["CERTIFICATE", "X509 CERTIFICATE"] content).bind ofElements? with
    | some c => .ok c
    | none => .error .rejected

end Certificate

/-- The private key in a document. -/
def PrivateKey.read : Document → Except PkiError PrivateKey
  | .privateKey key => .ok key
  | _ => .error .rejected

end ClusterVault
