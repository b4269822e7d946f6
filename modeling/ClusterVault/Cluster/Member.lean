import ClusterVault.Url.Basic

/-!
# Members

A cluster is run by members, each registered with the URLs that the others reach it at.

## Main definitions

- `Member`: an entry of the registry
- `InitialCluster`: the members a server is told of when it starts

## Design notes

A member is registered before it starts. Until then it has neither name nor client URLs.
-/

namespace ClusterVault

/-- An entry of the registry of members. -/
structure Member where
  id : Nat
  /-- Empty until the member has started. -/
  name : String
  peerUrls : List Url
  clientUrls : List Url
  deriving DecidableEq, Repr

/-- Whether the member is registered but has never started. -/
def Member.isUnstarted (m : Member) : Bool := m.name.isEmpty

/-- The members a server is told of when it starts, in order, by name. -/
structure InitialCluster where
  entries : List (String × Url) := []
  deriving DecidableEq, Repr

namespace InitialCluster

/-- No members. -/
def empty : InitialCluster := {}

/-- Replaces the URL of the first entry with a name, or adds an entry behind all others. -/
def insertInto (name : String) (url : Url) : List (String × Url) → List (String × Url)
  | [] => [(name, url)]
  | entry :: rest =>
    if entry.1 = name then (entry.1, url) :: rest else entry :: insertInto name url rest

/-- Adds a member, or replaces the URL of the member with that name. -/
def insert (c : InitialCluster) (name : String) (url : Url) : InitialCluster :=
  ⟨insertInto name url c.entries⟩

/-- The URL of the member with a name. -/
def get? (c : InitialCluster) (name : String) : Option Url := c.entries.lookup name

/-- The number of members. -/
def size (c : InitialCluster) : Nat := c.entries.length

/-- Whether there are no members. -/
def isEmpty (c : InitialCluster) : Bool := c.entries.isEmpty

/-- The members as a text. -/
def render (c : InitialCluster) : String :=
  ",".intercalate (c.entries.map fun entry => entry.1 ++ "=" ++ entry.2.render)

end InitialCluster

end ClusterVault
