import ClusterVault.Url.Host

/-!
# URLs

An absolute URL in its canonical form.

## Main definitions

- `Url`: a URL by its parts
- `Url.render`: its text
- `Url.hostText?`, `Url.portOrDefault?`: what a connection needs

## Design notes

The parts hold the canonical text, so two URLs are equal exactly if their parts are. A port that
the scheme implies is not kept.
-/

namespace ClusterVault

/-- The part of a URL that names a server. -/
structure Authority where
  username : String := ""
  password : Option String := none
  /-- The host; missing if it is empty, which only some schemes admit. -/
  host : Option Host
  port : Option Nat := none
  deriving DecidableEq, Repr

/-- An absolute URL in its canonical form. -/
structure Url where
  scheme : String
  authority : Option Authority
  path : String
  query : Option String := none
  fragment : Option String := none
  deriving DecidableEq, Repr

namespace Url

/-- The kinds of schemes that the standard treats apart. -/
inductive SchemeKind where
  | special
  | file
  | other
  deriving DecidableEq, Repr

/-- The kind of a scheme. -/
def schemeKind (scheme : String) : SchemeKind :=
  if ["http", "https", "ws", "wss", "ftp"].contains scheme then .special
  else if scheme = "file" then .file
  else .other

/-- The port that a scheme implies. -/
def defaultPort? (scheme : String) : Option Nat :=
  if ["http", "ws"].contains scheme then some 80
  else if ["https", "wss"].contains scheme then some 443
  else if scheme = "ftp" then some 21
  else none

/-- The text of the part that names a server. -/
def renderAuthority (a : Authority) : String :=
  let password := match a.password with
    | some p => ":" ++ p
    | none => ""
  let user := a.username ++ password
  let user := if user.isEmpty then "" else user ++ "@"
  let host := match a.host with
    | some h => h.render
    | none => ""
  let port := match a.port with
    | some p => ":" ++ toString p
    | none => ""
  "//" ++ user ++ host ++ port

/-- The text of a URL. A path that would read as the name of a server is led by `/.`. -/
def render (u : Url) : String :=
  let authority := match u.authority with
    | some a => renderAuthority a
    | none => if u.path.startsWith "//" then "/." else ""
  let query := match u.query with
    | some q => "?" ++ q
    | none => ""
  let fragment := match u.fragment with
    | some f => "#" ++ f
    | none => ""
  u.scheme ++ ":" ++ authority ++ u.path ++ query ++ fragment

/-- The text of the host. -/
def hostText? (u : Url) : Option String :=
  (u.authority.bind (·.host)).map Host.render

/-- The port, or the one that the scheme implies. -/
def portOrDefault? (u : Url) : Option Nat :=
  (u.authority.bind (·.port)).or (defaultPort? u.scheme)

instance : ToString Url := ⟨render⟩

end Url

end ClusterVault
