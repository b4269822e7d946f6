import ClusterVault.Url.Address
import ClusterVault.Url.Idna
import ClusterVault.Url.Percent

/-!
# Hosts

The host of a URL is a domain name or an address.

## Main definitions

- `Host`: a host in its canonical form
- `Url.ParseError`: why a text is not a URL
- `Host.parse`: the host of a URL with a special scheme
- `Host.parseOpaque`: the host of any other URL

## Design notes

With a special scheme a host is decoded, brought into the ASCII form of a domain name and read as
an address of version 4 if its last label is a number. Elsewhere it is kept as it is written.
-/

namespace ClusterVault

/-- Why a text is not a URL. -/
inductive Url.ParseError where
  | emptyHost
  | invalidDomain
  | invalidPort
  | invalidIpv4
  | invalidIpv6
  | invalidHostCharacter
  | missingScheme
  deriving DecidableEq, Repr

/-- The wording of a parse error. -/
def Url.ParseError.message : Url.ParseError → String
  | .emptyHost => "empty host"
  | .invalidDomain => "invalid international domain name"
  | .invalidPort => "invalid port number"
  | .invalidIpv4 => "invalid IPv4 address"
  | .invalidIpv6 => "invalid IPv6 address"
  | .invalidHostCharacter => "invalid domain character"
  | .missingScheme => "relative URL without a base"

/-- A host in its canonical form. -/
inductive Host where
  | domain (name : String)
  | address (ip : IpAddress)
  deriving DecidableEq, Repr, Inhabited

namespace Host

/-- The text of a host in a URL: an address of version 6 stands in square brackets. -/
def render : Host → String
  | .domain name => name
  | .address (.v4 o) => (IpAddress.v4 o).render
  | .address (.v6 o) => "[" ++ (IpAddress.v6 o).render ++ "]"

/-- The address of version 6 between square brackets. -/
def parseBracketed (s : List Char) : Except Url.ParseError Host :=
  if s.getLast? ≠ some ']' then .error .invalidIpv6
  else match IpAddress.strictV6? (s.drop 1).dropLast with
    | some octets => .ok (.address (.v6 octets))
    | none => .error .invalidIpv6

/-- The host of a URL with a special scheme. -/
def parse (s : List Char) : Except Url.ParseError Host :=
  if s.head? = some '[' then parseBracketed s
  else
    let decoded := (Percent.decode (Bytes.ofString (String.ofList s))).lossyText
    match Idna.toAscii? decoded with
    | none => .error .invalidDomain
    | some [] => .error .emptyHost
    | some name =>
      if IpAddress.endsInNumber name then
        match IpAddress.ofLooseV4 name with
        | some ip => .ok (.address ip)
        | none => .error .invalidIpv4
      else .ok (.domain (String.ofList name))

/-- Characters that a host without a special scheme may not hold. -/
def isOpaqueForbidden (c : Char) : Bool :=
  ['\x00', '\t', '\n', '\r', ' ', '#', '/', ':', '<', '>', '?', '@', '[', '\\', ']', '^',
    '|'].contains c

/-- The host of a URL without a special scheme. -/
def parseOpaque (s : List Char) : Except Url.ParseError Host :=
  if s.head? = some '[' then parseBracketed s
  else if s.any isOpaqueForbidden then .error .invalidHostCharacter
  else .ok (.domain (String.ofList (Percent.encode Percent.controls s)))

end Host

end ClusterVault
