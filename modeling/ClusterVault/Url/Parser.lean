import ClusterVault.Url.Basic

/-!
# Reading URLs

A text is read as an absolute URL and brought into canonical form on the way: case, default ports,
dot segments and percent encoding.

## Main definitions

- `Url.parse`: the URL of a text, or why it is none
- `Url.normalizePath`: a path without dot segments

## Design notes

Control characters and spaces around the text and tabs and line ends inside it are dropped first.
The parts are then cut off from the left: scheme, slashes, user information up to the last at sign,
host, port, path up to a question mark or number sign, query, fragment.
-/

namespace ClusterVault.Url

/-- Drops what surrounds a URL and the tabs and line ends inside it. -/
def clean (s : String) : List Char :=
  let blank (c : Char) : Bool := c.toNat ≤ 0x20
  let s := s.toList.dropWhile blank
  let s := (s.reverse.dropWhile blank).reverse
  s.filter fun c => c ≠ '\t' && c ≠ '\n' && c ≠ '\r'

/-- Whether a character may stand in a scheme after its first letter. -/
def isSchemeChar (c : Char) : Bool :=
  c.isAlphanum || c = '+' || c = '-' || c = '.'

/-- Cuts off the scheme and its colon. -/
def splitScheme? (s : List Char) : Option (String × List Char) :=
  match s with
  | [] => none
  | c :: _ =>
    if !c.isAlpha then none
    else match s.span isSchemeChar with
      | (name, ':' :: rest) => some (String.ofList (name.map Char.toLower), rest)
      | _ => none

/-- Whether a character ends the part of a URL that names a server. -/
def endsAuthority (special : Bool) (c : Char) : Bool :=
  c = '/' || c = '?' || c = '#' || (special && c = '\\')

/-- Cuts a text at its last at sign, if it has one. -/
def splitAtLastAt? (s : List Char) : Option (List Char × List Char) :=
  match s.reverse.span (· ≠ '@') with
  | (_, []) => none
  | (tail, _ :: front) => some (front.reverse, tail.reverse)

/-- Cuts off what stands in front of the last at sign, if there is one. -/
def splitUserinfo (s : List Char) : Option (List Char) × List Char :=
  match splitAtLastAt? s with
  | none => (none, s)
  | some (userinfo, server) => (some userinfo, server)

/-- User name and password of the text before the at sign. -/
def readUserinfo (s : List Char) : String × Option String :=
  let enc (t : List Char) : String := String.ofList (Percent.encode Percent.userinfo t)
  match s.span (· ≠ ':') with
  | (user, []) => (enc user, none)
  | (user, [_]) => (enc user, none)
  | (user, _ :: password) => (enc user, some (enc password))

/-- The length of the host in front of a text: up to a colon outside square brackets. -/
def hostLength (bracketed : Bool) : List Char → Nat
  | [] => 0
  | c :: rest =>
    if c = ':' && !bracketed then 0
    else
      let bracketed := if c = '[' then true else if c = ']' then false else bracketed
      hostLength bracketed rest + 1

/-- Reads a port up to a character that ends it; no digits mean no port. -/
def readPort (scheme : String) (s : List Char) : Except ParseError (Option Nat × List Char) :=
  let (digits, rest) := s.span Char.isDigit
  let port := digits.foldl (fun n c => n * 10 + (c.toNat - 0x30)) 0
  let ends := match rest with
    | [] => true
    | c :: _ => c = '/' || c = '\\' || c = '?' || c = '#'
  if 65535 < port || !ends then .error .invalidPort
  else if digits.isEmpty || defaultPort? scheme = some port then .ok (none, rest)
  else .ok (some port, rest)

/-- Reads the part that names a server. -/
def readAuthority (scheme : String) (special : Bool) (s : List Char) :
    Except ParseError (Authority × List Char) := do
  let (front, after) := s.span fun c => !endsAuthority special c
  let (userinfo, server) := splitUserinfo front
  if let some [] := userinfo then
    if server.isEmpty && !after.isEmpty then throw .emptyHost
  let (username, password) := readUserinfo (userinfo.getD [])
  let length := hostLength false server
  let hostText := server.take length
  let rest := server.drop length ++ after
  if special && hostText.isEmpty then throw .emptyHost
  let host ← if special then Host.parse hostText else Host.parseOpaque hostText
  let host := if host = .domain "" then none else some host
  if host.isNone && rest.head? = some ':' then throw .emptyHost
  let (port, rest) ← match rest with
    | ':' :: digits => readPort scheme digits
    | rest => pure (none, rest)
  if host.isNone && (!username.isEmpty || password.isSome) then throw .emptyHost
  pure ({ username, password, host, port }, rest)

/-- Whether a segment stands for the directory itself. -/
def isSingleDot (segment : List Char) : Bool :=
  [".", "%2e"].contains (String.ofList (segment.map Char.toLower))

/-- Whether a segment stands for the directory above. -/
def isDoubleDot (segment : List Char) : Bool :=
  ["..", ".%2e", "%2e.", "%2e%2e"].contains (String.ofList (segment.map Char.toLower))

/-- Cuts a text into segments at its slashes. -/
def segments (special : Bool) : List Char → List (List Char)
  | [] => [[]]
  | c :: rest =>
    if c = '/' || (special && c = '\\') then [] :: segments special rest
    else match segments special rest with
      | [] => [[c]]
      | s :: ss => (c :: s) :: ss

/-- Resolves dot segments against the segments before them, given in reverse. -/
def resolveDots : (before : List (List Char)) → List (List Char) → List (List Char)
  | before, [] => before.reverse
  | before, segment :: rest =>
    if isDoubleDot segment then
      let before := before.tail
      resolveDots (if rest.isEmpty then [] :: before else before) rest
    else if isSingleDot segment then
      resolveDots (if rest.isEmpty then [] :: before else before) rest
    else resolveDots (segment :: before) rest

/-- A path, given without its first slash, in canonical form. -/
def normalizePath (special : Bool) (s : List Char) : String :=
  let resolved := resolveDots [] (segments special s)
  String.ofList (resolved.flatMap fun segment =>
    '/' :: Percent.encode Percent.path segment)

/-- Reads the path behind the part that names a server. -/
def readPath (kind : SchemeKind) (s : List Char) : String × List Char :=
  let (text, after) := s.span fun c => c ≠ '?' && c ≠ '#'
  let special := kind ≠ .other
  let path := match text with
    | [] => if special then "/" else ""
    | c :: rest =>
      if c = '/' || (special && c = '\\') then normalizePath special rest
      else normalizePath special (c :: rest)
  (path, after)

/-- Reads query and fragment. -/
def readTail (kind : SchemeKind) (s : List Char) : Option String × Option String :=
  let readFragment (t : List Char) : Option String := match t with
    | '#' :: f => some (String.ofList (Percent.encode Percent.fragment f))
    | _ => none
  match s with
  | '?' :: rest =>
    let (q, after) := rest.span (· ≠ '#')
    let set := if kind = .other then Percent.query else Percent.specialQuery
    (some (String.ofList (Percent.encode set q)), readFragment after)
  | t => (none, readFragment t)

/-- Reads a URL with a part that names a server. -/
def readWithAuthority (scheme : String) (kind : SchemeKind) (s : List Char) :
    Except ParseError Url := do
  let (authority, rest) ← readAuthority scheme (kind ≠ .other) s
  let (path, rest) := readPath kind rest
  let (query, fragment) := readTail kind rest
  pure { scheme, authority := some authority, path, query, fragment }

/-- Whether a character separates segments under every kind of scheme but the other ones. -/
def isSlash (c : Char) : Bool := c = '/' || c = '\\'

/-- Reads a URL of a file: two slashes lead a host, which may be empty. -/
def readFile (s : List Char) : Except ParseError Url := do
  let (host, rest) ← match s with
    | a :: b :: rest =>
      if isSlash a && isSlash b then
        let (name, rest) := rest.span fun c => !endsAuthority true c
        if name.isEmpty then pure (none, rest)
        else do
          let host ← Host.parse name
          pure (if host = .domain "localhost" then none else some host, rest)
      else pure (none, s)
    | s => pure (none, s)
  let (path, rest) := readPath .file rest
  let (query, fragment) := readTail .file rest
  pure { scheme := "file", authority := some { host }, path, query, fragment }

/-- The URL of a text, or why it is none. -/
def parse (s : String) : Except ParseError Url :=
  match splitScheme? (clean s) with
  | none => .error .missingScheme
  | some (scheme, rest) =>
    match schemeKind scheme with
    | .special => readWithAuthority scheme .special (rest.dropWhile isSlash)
    | .file => readFile rest
    | .other =>
      match rest with
      | '/' :: '/' :: rest => readWithAuthority scheme .other rest
      | '/' :: _ =>
        let (path, rest) := readPath .other rest
        let (query, fragment) := readTail .other rest
        .ok { scheme, authority := none, path, query, fragment }
      | rest =>
        let (text, rest) := rest.span fun c => c ≠ '?' && c ≠ '#'
        let (query, fragment) := readTail .other rest
        let path := String.ofList (Percent.encode Percent.controls text)
        .ok { scheme, authority := none, path, query, fragment }

end ClusterVault.Url
