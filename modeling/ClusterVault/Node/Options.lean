import ClusterVault.Engine.Config
import ClusterVault.Node.Names

/-!
# How a node is launched

## Main definitions

- `LaunchOptions`: what a node needs to know of itself
- `Peer`: a member that a server is told of
- `LaunchOptions.serverConfig`, `LaunchOptions.clientConfig`: the settings of its server and client

## Design notes

Whatever peers a node is told of, it always lists itself under the URL that follows from its name,
and advertises that URL only.
-/

namespace ClusterVault

/-- A member that a server is told of. -/
structure Peer where
  name : String
  peerUrl : Url
  /-- `0` for a member that was inferred and not seen. -/
  id : Nat
  deriving DecidableEq, Repr

/-- What a node needs to know of itself. -/
structure LaunchOptions where
  nodeName : String
  names : ServiceNames
  /-- The certificate decides which user the node acts as. -/
  tls : TlsFiles
  dataDir : String
  /-- How long a started server may take to become a member. -/
  readinessTimeout : Duration := .ofSeconds 60
  /-- How long finding and repairing the membership may take in all. -/
  joinTimeout : Duration := .ofSeconds 10
  /-- How long each request on the registry may take. -/
  memberTimeout : Duration := .ofSeconds 10
  deriving DecidableEq, Repr

namespace LaunchOptions

/-- The number of transactions between two snapshots. -/
def snapshotInterval : Nat := 10

/-- The largest number of operations of a transaction. -/
def maxOperations : Nat := 256

/-- The URL for listening on all addresses. -/
def anyAddress (port : Nat) : Url :=
  { scheme := "https"
    authority := some { host := some (.address (.v4 [0, 0, 0, 0])), port := some port }
    path := "/" }

/-- The members a server is told of: its peers in order, and itself. -/
def initialCluster (peers : List Peer) (own : String) (ownUrl : Url) : InitialCluster :=
  (peers.foldl (fun c peer => c.insert peer.name peer.peerUrl) InitialCluster.empty).insert own
    ownUrl

/-- The settings of the node's server. -/
def serverConfig (o : LaunchOptions) (peers : List Peer) (founding : Founding) :
    Except Url.ParseError ServerConfig := do
  let peerUrl ← o.names.peerUrl o.nodeName
  let clientUrl ← o.names.clientUrl o.nodeName
  let clientTls : ListenerTls := { files := o.tls, requiresCertificate := true }
  return {
    name := o.nodeName
    dataDir := o.dataDir
    initialCluster := initialCluster peers o.nodeName peerUrl
    founding
    listenPeerUrls := [anyAddress ServiceNames.peerPort]
    listenClientUrls := [anyAddress ServiceNames.clientPort]
    advertisedPeerUrls := [peerUrl]
    advertisedClientUrls := [clientUrl]
    clientTls
    peerTls := { clientTls with skipsNameCheck := true }
    snapshotInterval
    maxOperations }

/-- The settings of the client that repairs the membership. -/
def clientConfig (o : LaunchOptions) : Except Url.ParseError ClientConfig := do
  return {
    endpoints := [← o.names.serviceUrl]
    tls := o.tls
    dialTimeout := o.memberTimeout }

end LaunchOptions

end ClusterVault
