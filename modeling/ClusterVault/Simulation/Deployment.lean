import ClusterVault.Network.Client
import ClusterVault.Network.Start
import ClusterVault.Pki.Authority
import ClusterVault.Simulation.System

/-!
# Deployments in memory

A machine and some networks, on which servers run in memory and answer at once.

## Main definitions

- `Deployment`: the machine and its networks
- `Site`: the networks that a task sees
- `Deployment.backend`: how requests are answered
-/

namespace ClusterVault

/-- A machine and some networks. -/
structure Deployment where
  machine : Machine
  networks : List (String × Network) := []
  /-- The random numbers that the networks draw, by the number of the network. -/
  streams : Nat → Nat → Nat

/-- The networks that a task sees. -/
structure Site where
  /-- Where servers are started. -/
  servers : String
  /-- Where clients connect. -/
  clients : String
  deriving DecidableEq, Repr

namespace Deployment

/-- The network with a name. A name that was never used names a new network. -/
def network (d : Deployment) (name : String) : Network :=
  match d.networks.lookup name with
  | some net => net
  | none => { ids := { draw := d.streams d.networks.length } }

/-- Replaces the network with a name. -/
def setNetwork (d : Deployment) (name : String) (net : Network) : Deployment :=
  { d with networks := setEntry name net d.networks }

/-- Replaces the files of the machine. -/
def setFiles (d : Deployment) (files : FileSystem) : Deployment :=
  { d with machine := { d.machine with files } }

/-- Takes a request. -/
def issue (site : Site) (now : Instant) (d : Deployment) :
    (r : Request) → Deployment × Flight Deployment (r.Reply EngineError)
  | .connect config =>
    (d, .answered ((d.network site.clients).connect d.machine.files config))
  | .manage client command =>
    let (net, reply) := (d.network site.clients).manage now client command
    (d.setNetwork site.clients net, .answered reply)
  | .start config =>
    let (net, files, result) := (d.network site.servers).start d.machine.files now config
    ((d.setNetwork site.servers net).setFiles files,
      .answered (result.map (⟨·, config.name⟩)))
  | .ready server => (d, .upon (fun d => (d.network site.servers).isReady server.id) ())
  | .close server =>
    (d.setNetwork site.servers ((d.network site.servers).close server.id), .answered ())
  | .serve server user command =>
    let (net, reply) := (d.network site.servers).serve now server.id user command
    (d.setNetwork site.servers net, .answered reply)
  | .idle => (d, .never)

/-- Lets servers that wait to join do so if their time has come. -/
def settle (now : Instant) (d : Deployment) : Deployment :=
  { d with networks := d.networks.map fun (name, net) => (name, net.retryAll now) }

/-- When the next server that waits to join does something. -/
def nextWork (d : Deployment) : Option Instant :=
  (d.networks.filterMap fun (_, net) => net.nextRetry?).min?

/-- How requests are answered. -/
def backend : Backend Deployment Site EngineError := ⟨issue, settle, nextWork⟩

end Deployment

end ClusterVault
