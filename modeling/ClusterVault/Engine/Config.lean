import ClusterVault.Cluster.Member
import ClusterVault.Time

/-!
# Settings of servers and clients

## Main definitions

- `TlsFiles`, `ListenerTls`: the files a connection is secured with
- `ServerConfig`: what a server is started with
- `ClientConfig`: what a client connects with
-/

namespace ClusterVault

/-- The files a connection is secured with. -/
structure TlsFiles where
  certificate : String := ""
  key : String := ""
  /-- The certificate that those of the other side must chain to. -/
  authority : String := ""
  deriving DecidableEq, Repr

/-- How a listener secures its connections. -/
structure ListenerTls where
  files : TlsFiles := {}
  /-- Whether clients must show a certificate. -/
  requiresCertificate : Bool := false
  /-- Whether the names in a client's certificate need not match its address. -/
  skipsNameCheck : Bool := false
  deriving DecidableEq, Repr

/-- Whether a server founds a cluster or joins one. -/
inductive Founding where
  /-- Found a new cluster of the initial members. -/
  | new
  /-- Join a cluster that lists this server already. -/
  | existing
  deriving DecidableEq, Repr

/-- What a server is started with. -/
structure ServerConfig where
  /-- The name it has as a member. -/
  name : String
  /-- The directory with its log and snapshots. -/
  dataDir : String
  initialCluster : InitialCluster := {}
  founding : Founding := .new
  listenPeerUrls : List Url := []
  listenClientUrls : List Url := []
  advertisedPeerUrls : List Url := []
  advertisedClientUrls : List Url := []
  clientTls : ListenerTls := {}
  peerTls : ListenerTls := {}
  /-- The number of transactions between two snapshots. -/
  snapshotInterval : Nat := 100000
  /-- The largest number of conditions, and of operations in either list, of a transaction. -/
  maxOperations : Nat := 128
  deriving DecidableEq, Repr

/-- All URLs a server is reached at. -/
def ServerConfig.urls (c : ServerConfig) : List Url :=
  c.advertisedPeerUrls ++ c.advertisedClientUrls

/-- What a client connects with. -/
structure ClientConfig where
  /-- The servers to try. -/
  endpoints : List Url
  tls : TlsFiles
  /-- How long connecting may take. -/
  dialTimeout : Duration
  deriving DecidableEq, Repr

end ClusterVault
