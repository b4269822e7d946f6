import ClusterVault.Network.Basic

/-!
# Starting servers

A server founds a cluster, comes back to the one its data directory belongs to, or joins one that
lists it as a member.

## Main definitions

- `Network.bootstrap`, `Network.restore`, `Network.rejoin`: the three ways
- `Network.start`: starts a server
- `Network.retry`: what a server does that waits to join

## Design notes

A server takes its URLs before it is known whether it can come up, and leaves them if it cannot. A
server that is to join but reaches no other server stays up and tries again every half second, until
it is closed, succeeds, or is refused for another reason. If it is closed and its time comes before
it has noticed either, it is open which of the two it notices (`Notice`); one that has not noticed
that it is closed tries once more.
-/

namespace ClusterVault.Network

/-- How long a server waits between two attempts to join. -/
def retryInterval : Duration := 500

/-- New members under the given names and URLs, of which the one named `own` has client URLs. -/
def foundingMembers (own : String) (clientUrls : List Url) :
    List (String × Url) → List Member → IdSource → List Member × IdSource
  | [], members, ids => (members, ids)
  | (name, url) :: rest, members, ids =>
    let (id, ids) := ids.fresh (members.map (·.id))
    let member : Member :=
      { id, name, peerUrls := [url], clientUrls := if name = own then clientUrls else [] }
    foundingMembers own clientUrls rest (members ++ [member]) ids

/-- Founds a cluster of the initial members and makes a server one of them. -/
def bootstrap (net : Network) (id : NodeId) (config : ServerConfig) :
    Except EngineError Network :=
  match config.initialCluster.get? config.name with
  | none => .error (.invalidArgument (.notListed config.name config.initialCluster))
  | some url =>
    if !config.advertisedPeerUrls.contains url then
      .error (.invalidArgument (.notAdvertised config.name url))
    else
      let (members, ids) := foundingMembers config.name config.advertisedClientUrls
        config.initialCluster.entries [] net.ids
      let member := match members.find? (·.name = config.name) with
        | some m => m.id
        | none => 0
      let founded : Cluster := { members }
      let net := { net with ids, clusters := net.clusters ++ [founded] }
      .ok (net.attach id config.dataDir ⟨net.clusters.length - 1, member⟩)

/-- Makes a server the member that its data directory belongs to, which must still be registered.
    Leases may have ended in the meantime. -/
def restore (net : Network) (now : Instant) (id : NodeId) (config : ServerConfig)
    (a : Attachment) : Network × Except EngineError Unit :=
  match net.clusters[a.cluster]? with
  | none => (net, .error (.notFound (.departed a.member config.dataDir)))
  | some cluster =>
    let cluster := cluster.expire now
    let net := net.setCluster a.cluster cluster
    if cluster.hasMember a.member then (net.attach id config.dataDir a, .ok ())
    else (net, .error (.notFound (.departed a.member config.dataDir)))

/-- The cluster of the server that listens at a URL. -/
def clusterAt? (net : Network) (url : Url) : Option ClusterId :=
  ((net.listeners.lookup url).bind (net.nodes[·]?)).bind (·.cluster.toOption)

/-- The first cluster that one of a server's peers leads to. -/
def reachableCluster? (net : Network) (config : ServerConfig) : Option ClusterId :=
  (config.initialCluster.entries.filter (·.1 ≠ config.name)).findSome? (net.clusterAt? ·.2)

/-- Makes a server the member of a peer's cluster that is registered under one of its URLs. -/
def rejoin (net : Network) (now : Instant) (id : NodeId) (config : ServerConfig) :
    Network × Except EngineError Unit :=
  let unreachable := EngineError.unavailable (.noPeerReachable config.name config.initialCluster)
  match net.reachableCluster? config with
  | none => (net, .error unreachable)
  | some k =>
    match net.clusters[k]? with
    | none => (net, .error unreachable)
    | some cluster =>
      let cluster := cluster.expire now
      match cluster.attachMember config.name config.advertisedPeerUrls
          config.advertisedClientUrls with
      | .error e => (net.setCluster k cluster, .error e)
      | .ok (member, cluster) =>
        ((net.setCluster k cluster).attach id config.dataDir ⟨k, member⟩, .ok ())

/-- Lets a server that joins come up now, or later if no peer is reachable. -/
def joinOrWait (net : Network) (now : Instant) (id : NodeId) (config : ServerConfig) :
    Network × Except EngineError Unit :=
  match net.rejoin now id config with
  | (net, .error (.unavailable _)) =>
    (net.updateNode id fun n => { n with retryAt := some (now + retryInterval) }, .ok ())
  | result => result

/-- Lets a server that has its URLs come up. -/
def comeUp (net : Network) (now : Instant) (id : NodeId) (config : ServerConfig) :
    Network × Except EngineError Unit :=
  match config.founding with
  | .existing => net.joinOrWait now id config
  | .new =>
    match net.remembered? config.dataDir with
    | some a => net.restore now id config a
    | none =>
      match net.bootstrap id config with
      | .ok net => (net, .ok ())
      | .error e => (net, .error e)

/-- Starts a server. If it cannot come up, it is closed again. -/
def start (net : Network) (files : FileSystem) (now : Instant) (config : ServerConfig) :
    Network × FileSystem × Except EngineError NodeId :=
  if config.advertisedPeerUrls.isEmpty then
    (net, files, .error (.invalidArgument (.noAdvertisedPeerUrls config.name)))
  else match files.makeDirectories config.dataDir with
    | (files, some fault) => (net, files, .error (.dataDirectory fault))
    | (files, none) =>
      let id := net.nodes.length
      let node : ServerNode := { config }
      match { net with nodes := net.nodes ++ [node] }.listen id config.urls with
      | .error e => (net, files, .error e)
      | .ok net =>
        match net.comeUp now id config with
        | (net, .ok _) => (net, files, .ok id)
        | (net, .error e) => (net.close id, files, .error e)

/-- Another attempt to join, as a server makes it whose waiting time is over. -/
def retryJoin (net : Network) (now : Instant) (id : NodeId) (config : ServerConfig) : Network :=
  match net.rejoin now id config with
  | (net, .error (.unavailable _)) =>
    net.updateNode id fun n => { n with retryAt := some (now + retryInterval) }
  | (net, _) => net.updateNode id fun n => { n with retryAt := none }

/-- What a server notices that has been closed by the time its wait is over. -/
inductive Notice where
  /-- That it has been closed. -/
  | closing
  /-- That its time has come. -/
  | timeUp
  deriving DecidableEq, Repr

/-- What a server does that waits to join: nothing before its time, and nothing once it notices that
    it has been closed. -/
def retry (net : Network) (now : Instant) (id : NodeId) (notice : Notice) : Network :=
  match net.nodes[id]? with
  | none => net
  | some n =>
    match n.retryAt with
    | none => net
    | some due =>
      if n.closed && (now < due || notice = .closing) then
        net.updateNode id fun n => { n with retryAt := none }
      else if due ≤ now then net.retryJoin now id n.config
      else net

/-- Lets every server that waits to join do so if its time has come. One that is closed at the very
    instant at which its time comes notices only the latter. -/
def retryAll (net : Network) (now : Instant) : Network :=
  (List.range net.nodes.length).foldl (fun net id => net.retry now id .timeUp) net

/-- When the next server that waits to join does something. -/
def nextRetry? (net : Network) : Option Instant :=
  (net.nodes.filterMap fun n => if n.closed then none else n.retryAt).min?

end ClusterVault.Network
