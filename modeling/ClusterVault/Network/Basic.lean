import ClusterVault.Cluster.Command
import ClusterVault.Engine.Config

/-!
# Networks

Servers listen at URLs, and clusters outlive the servers that run them.

## Main definitions

- `Network`: servers, clusters, and who listens where
- `ServerNode`: one started server
- `Network.listen?`, `Network.unlisten`: taking and leaving URLs
- `Network.attach`: makes a server a member of a cluster
- `Network.close`: stops a server

## Design notes

Servers and clusters are known by their place in the lists of all that ever were, and neither is
ever taken off its list. A network also remembers which member every data directory belongs to, as
the disks of the servers would.
-/

namespace ClusterVault

/-- The number of a server on its network. -/
abbrev NodeId := Nat

/-- The number of a cluster on its network. -/
abbrev ClusterId := Nat

/-- Membership in a cluster. -/
structure Attachment where
  cluster : ClusterId
  member : Nat
  deriving DecidableEq, Repr

/-- One started server. -/
structure ServerNode where
  config : ServerConfig
  attachment : Option Attachment := none
  closed : Bool := false
  /-- When the server tries again to join a cluster, if it does. -/
  retryAt : Option Instant := none
  deriving DecidableEq, Repr

/-- Whether the server runs and is a member of a cluster. -/
def ServerNode.isAttached (n : ServerNode) : Bool := !n.closed && n.attachment.isSome

/-- The cluster of a server that runs. -/
def ServerNode.cluster (n : ServerNode) : Except EngineError ClusterId :=
  if n.closed then .error .stopped
  else match n.attachment with
    | some a => .ok a.cluster
    | none => .error (.unavailable (.notJoined n.config.name))

/-- Servers, clusters, and who listens where. -/
structure Network where
  nodes : List ServerNode := []
  clusters : List Cluster := []
  /-- The server that listens at each URL. -/
  listeners : List (Url × NodeId) := []
  /-- The domain whose servers each service name stands for. -/
  services : List (String × String) := []
  /-- The member each data directory belongs to. -/
  dataDirs : List (FilePath × Attachment) := []
  ids : IdSource
  /-- Which of several servers a service name leads to. -/
  turn : Nat := 0

/-- Sets the value under a key: in place of the one there is, or behind all others. -/
def setEntry {α β : Type} [DecidableEq α] (key : α) (value : β) : List (α × β) → List (α × β)
  | [] => [(key, value)]
  | entry :: rest =>
    if entry.1 = key then (key, value) :: rest else entry :: setEntry key value rest

namespace Network

/-- Changes a server. -/
def updateNode (net : Network) (id : NodeId) (change : ServerNode → ServerNode) : Network :=
  { net with nodes := net.nodes.modify id change }

/-- Replaces the state of a cluster. -/
def setCluster (net : Network) (id : ClusterId) (c : Cluster) : Network :=
  { net with clusters := net.clusters.set id c }

/-- The server with a number, if it has not been closed. -/
def running? (net : Network) (id : NodeId) : Option ServerNode :=
  net.nodes[id]?.filter (!·.closed)

/-- The server that runs and listens at a URL. -/
def listener? (net : Network) (url : Url) : Option NodeId :=
  (net.listeners.lookup url).filter fun id => (net.running? id).isSome

/-- Whether a running server listens at a URL. -/
def isListening (net : Network) (url : Url) : Bool := (net.listener? url).isSome

/-- Lets a service name stand for the servers of a domain. -/
def bindService (net : Network) (service domain : String) : Network :=
  { net with services := setEntry service domain net.services }

/-- Lets a server listen at URLs, none of which a running server may have. -/
def listen (net : Network) (id : NodeId) (urls : List Url) : Except EngineError Network :=
  match urls.find? net.isListening with
  | some url => .error (.alreadyExists (.listener url))
  | none => .ok { net with
      listeners := urls.foldl (fun table url => setEntry url id table) net.listeners }

/-- Lets a server listen nowhere. -/
def unlisten (net : Network) (id : NodeId) : Network :=
  { net with listeners := net.listeners.filter (·.2 ≠ id) }

/-- Makes a server a member of a cluster, and remembers that for its data directory. -/
def attach (net : Network) (id : NodeId) (dataDir : String) (a : Attachment) : Network :=
  { net with dataDirs := setEntry (FilePath.ofString dataDir) a net.dataDirs }.updateNode id
    fun n => { n with attachment := some a }

/-- The member that a data directory belongs to. -/
def remembered? (net : Network) (dataDir : String) : Option Attachment :=
  net.dataDirs.lookup (FilePath.ofString dataDir)

/-- Stops a server. It leaves its URLs; stopping it again has no effect. -/
def close (net : Network) (id : NodeId) : Network :=
  match net.running? id with
  | none => net
  | some _ => (net.updateNode id fun n => { n with closed := true }).unlisten id

/-- Whether a server has ever become a member of a cluster. -/
def isReady (net : Network) (id : NodeId) : Bool :=
  net.nodes[id]?.any (·.attachment.isSome)

end Network

end ClusterVault
