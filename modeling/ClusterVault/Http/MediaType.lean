/-!
# Media types

The body of a request says what it is by a media type such as `application/json; charset=utf-8`.

## Main definitions

- `MediaType`: a media type without its parameters
- `MediaType.parse?`: reads a media type
- `MediaType.isJson`: whether a body of the type is JSON

## Design notes

The part of a subtype behind the last plus sign names the format that the type builds on. Parameters
are only checked for their form. The first character of a quoted value belongs to the value even if
it is a quotation mark.
-/

namespace ClusterVault

/-- A media type without its parameters, in lower case. -/
structure MediaType where
  kind : String
  subtype : String
  /-- The format that the type builds on. -/
  suffix : Option String
  deriving DecidableEq, Repr

namespace MediaType

/-- Whether a character may stand in a name. -/
def isToken (c : Char) : Bool := c.isAlphanum || "!#$%&'*+-.^_\x60|~".toList.contains c

/-- Whether a character may stand in a quoted value. -/
def isQuotable (c : Char) : Bool := 0x20 ≤ c.toNat && c.toNat < 0x7f

/-- What follows a quoted value whose first character has been passed over, from its closing
    quotation mark on. -/
def dropQuoted? (s : List Char) : Option (List Char) :=
  match s.dropWhile fun c => isQuotable c && c ≠ '"' with
  | '"' :: rest => some rest
  | _ => none

/-- What follows the value of a parameter, if it has the form of a value. -/
def dropValue? : List Char → Option (List Char)
  | '"' :: c :: rest =>
    if isQuotable c then
      (dropQuoted? rest).bind fun rest =>
        match rest.dropWhile (· = ' ') with
        | [] => some []
        | ';' :: rest => some rest
        | _ => none
    else none
  | s =>
    match s.dropWhile isToken with
    | [] => some []
    | ';' :: rest => if s.head? = some ';' then none else some rest
    | _ => none

/-- Whether a text has the form of parameters. The first argument bounds how many there are. -/
def areParameters : Nat → List Char → Bool
  | 0, _ => false
  | count + 1, s =>
    match s.dropWhile (· = ' ') with
    | [] => true
    | s =>
      match s.dropWhile isToken with
      | '=' :: rest =>
        s.head? ≠ some '=' && (dropValue? rest).any (areParameters count)
      | _ => false

/-- A subtype without the format it builds on, and the format. -/
def splitSuffix (s : List Char) : String × Option String :=
  let format := (s.reverse.takeWhile (· ≠ '+')).reverse
  let before := s.take (s.length - format.length - 1)
  if before.isEmpty then (String.ofList s, none)
  else (String.ofList before, some (String.ofList format))

/-- Reads a media type. -/
def parse? (s : String) : Option MediaType :=
  let cs := s.toList.map Char.toLower
  let kind := cs.takeWhile isToken
  match cs.drop kind.length with
  | '/' :: rest =>
    let subtype := rest.takeWhile isToken
    let tail := rest.drop subtype.length
    let hasForm := match tail with
      | [] => true
      | c :: parameters => (c = ';' || c = ' ') && areParameters cs.length parameters
    if kind.isEmpty || subtype.isEmpty || !hasForm then none
    else
      let (subtype, suffix) := splitSuffix subtype
      some ⟨String.ofList kind, subtype, suffix⟩
  | _ => none

/-- Whether a body of the type is JSON. -/
def isJson (m : MediaType) : Bool :=
  m.kind = "application" && (m.subtype = "json" || m.suffix = some "json")

end MediaType

end ClusterVault
