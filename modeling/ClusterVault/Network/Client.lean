import ClusterVault.Network.Basic
import ClusterVault.Pki.Identity

/-!
# Reaching servers

Requests get to a server from within its own process, or over the network through a client.

## Main definitions

- `Network.serve`: a request from within the process of a server
- `Network.candidates`, `Network.route?`: the servers that a URL leads to
- `Connection`, `Network.connect`: a client
- `Network.manage`: a request on the registry of members through a client

## Design notes

A URL whose host is a service name leads to any attached server with a client URL in the domain of
the service and on the same port; any other URL leads to the attached server that listens there. A
client acts as the common name of its certificate.
-/

namespace ClusterVault

/-- A client, connected to one server as a user. -/
structure Connection where
  server : NodeId
  user : String
  deriving DecidableEq, Repr

namespace Network

/-- The answer to a request of a user from within the process of a server. -/
def serve (net : Network) (now : Instant) (id : NodeId) (user : String) (command : Command) :
    Network × Except EngineError command.Reply :=
  match net.nodes[id]? with
  | none => (net, .error .stopped)
  | some node =>
    match node.cluster with
    | .error e => (net, .error e)
    | .ok k =>
      match net.clusters[k]? with
      | none => (net, .error .stopped)
      | some cluster =>
        let (reply, cluster) := cluster.serve user now node.config.maxOperations command
        (net.setCluster k cluster, reply)

/-- Whether a host is a domain or lies in it. -/
def inDomain (domain host : String) : Bool := host = domain || host.endsWith ("." ++ domain)

/-- Whether a listener is the client side of an attached server in a domain, on a port. -/
def isCandidate (net : Network) (domain : String) (port : Option Nat) (entry : Url × NodeId) :
    Bool :=
  net.nodes[entry.2]?.any fun node =>
    node.isAttached && node.config.advertisedClientUrls.contains entry.1 &&
      entry.1.portOrDefault? = port && entry.1.hostText?.any (inDomain domain)

/-- The servers that a URL leads to. -/
def candidates (net : Network) (endpoint : Url) : List NodeId :=
  match endpoint.hostText? with
  | none => []
  | some host =>
    match net.services.lookup host with
    | some domain =>
      (net.listeners.filter (net.isCandidate domain endpoint.portOrDefault?)).map (·.2)
    | none =>
      match net.listeners.lookup endpoint with
      | none => []
      | some id => if net.nodes[id]?.any (·.isAttached) then [id] else []

/-- The server that a URL leads to. -/
def route? (net : Network) (endpoint : Url) : Option NodeId :=
  let found := net.candidates endpoint
  found[net.turn % found.length]?

/-- Connects a client to the first server that one of its endpoints leads to. -/
def connect (net : Network) (files : FileSystem) (config : ClientConfig) :
    Except EngineError Connection :=
  if config.endpoints.isEmpty then .error (.invalidArgument .noEndpoints)
  else match files.readIdentity config.tls.certificate with
    | .error e => .error (.clientCertificate e)
    | .ok user =>
      match config.endpoints.findSome? net.route? with
      | none => .error (.unavailable (.noServerReachable config.endpoints))
      | some server => .ok ⟨server, user⟩

/-- Stops the servers that run as a member of a cluster. -/
def stopMember (net : Network) (a : Attachment) : Network :=
  let stopped := net.listeners.map (·.2) |>.filter fun id =>
    net.nodes[id]?.any (·.attachment = some a)
  { stopped.foldl (fun net id => net.updateNode id fun n => { n with closed := true }) net with
    listeners := net.listeners.filter (!stopped.contains ·.2) }

/-- The answer to a request on the registry through a client. Removing a member stops the server
    that runs as it. -/
def manage (net : Network) (now : Instant) (client : Connection) (command : MemberCommand) :
    Network × Except EngineError command.Reply :=
  match net.nodes[client.server]? with
  | none => (net, .error .stopped)
  | some node =>
    let lost := EngineError.unavailable (.connectionLost node.config.name)
    match node.cluster with
    | .error _ => (net, .error lost)
    | .ok k =>
      match net.clusters[k]? with
      | none => (net, .error lost)
      | some cluster =>
        let (reply, ids, cluster) := cluster.manage client.user now net.ids command
        let net := { net.setCluster k cluster with ids }
        match command, reply with
        | .remove id, .ok members => (net.stopMember ⟨k, id⟩, .ok members)
        | .remove _, .error e => (net, .error e)
        | .list, reply => (net, reply)
        | .add _, reply => (net, reply)

end Network

end ClusterVault
