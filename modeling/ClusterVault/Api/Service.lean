import ClusterVault.Api.Access
import ClusterVault.Api.Health
import ClusterVault.Api.Secrets
import ClusterVault.CommandLine.Credentials
import ClusterVault.Node.Acquire
import ClusterVault.Simulation.Deployment

/-!
# The service of a node

A node gets a store and then answers requests at three ports.

## Main definitions

- `Service`: a node that has a store
- `ServiceError`, `ServiceError.message`: why a node does not come up, and the wording
- `Service.start`: brings a node up
- `Service.answer`: answers a request
-/

namespace ClusterVault

/-- Why a node does not come up. -/
inductive ServiceError where
  | credentials (cause : PkiError)
  | store (cause : NodeError EngineError)
  /-- The store is still being waited for, and nothing will happen any more. -/
  | stuck
  deriving DecidableEq, Repr

/-- The wording of why a node does not come up. -/
def ServiceError.message : ServiceError → String
  | credentials cause => cause.message
  | store cause => s!"joining or bootstrapping store: {cause.message}"
  | stuck => "the store never answered"

/-- A node that has a store. -/
structure Service where
  settings : Settings
  nodeName : String
  store : SecretStore
  /-- Who signs the certificates of workloads, if the node does. -/
  issuer : Option Issuer
  system : System Deployment Site EngineError Unit

namespace Service

/-- All servers and clients of a service are on one network. -/
def site : Site := ⟨"", ""⟩

/-- How a node is launched under its settings. -/
def launchOptions (s : Settings) (c : Credentials) (nodeName : String) : LaunchOptions :=
  { nodeName
    names := s.names
    tls := ⟨c.certificateFile, c.keyFile, c.authorityFile⟩
    dataDir := s.dataDir }

/-- What a node does when there is no cluster to join. -/
def acquireOptions (s : Settings) : AcquireOptions :=
  { role := if s.mayBootstrap then .bootstrapper else .follower }

/-- Gets a store. -/
def acquire (s : Settings) (o : LaunchOptions) (files : FileSystem) :
    Activity EngineError (Except (NodeError EngineError) SecretStore) :=
  match Launcher.make o files with
  | .error e => .done (.error e)
  | .ok launcher => (launcher.acquire (acquireOptions s)).run

/-- Brings a node up. -/
def start (settings : Settings) (nodeName : String) (d : Deployment) :
    Except ServiceError Service := do
  let (machine, credentials) := Credentials.prepare d.machine settings nodeName
  let credentials ← credentials.mapError .credentials
  let names := settings.names
  let net := (d.network site.servers).bindService names.internal names.headless
  let world := { d with machine }.setNetwork site.servers net
  let activity := acquire settings (launchOptions settings credentials nodeName) machine.files
  match Deployment.backend.run { world } site none activity with
  | (system, .ended (.ok store)) =>
    return { settings, nodeName, store, issuer := credentials.authority.map (·.issuer), system }
  | (_, .ended (.error e)) => throw (.store e)
  | _ => throw .stuck

/-- Moves the clock of a service ahead. -/
def advanceTo (s : Service) (now : Instant) : Service :=
  { s with system := { s.system with now := max s.system.now now } }

/-- Answers a request to the secrets interface. -/
def answerSecrets (s : Service) (r : HttpRequest) : Service × Option HttpResponse :=
  match Deployment.backend.run s.system site none (SecretsApi.answer s.store r) with
  | (system, .ended response) => ({ s with system }, some response)
  | (system, _) => ({ s with system }, none)

/-- Answers a request to the access interface. -/
def answerAccess (s : Service) (r : HttpRequest) : Service × HttpResponse :=
  let machine := s.system.world.machine
  let response := AccessApi.answer s.issuer machine.clock machine.unused s.nodeName r
  let world := { s.system.world with machine := { machine with unused := machine.unused + 1 } }
  ({ s with system := { s.system with world } }, response)

/-- Answers a request at a port, unless nothing listens there. -/
def answer (s : Service) (port : Nat) (r : HttpRequest) : Service × Option HttpResponse :=
  if port = s.settings.port then s.answerSecrets r
  else if port = s.settings.backendPort then
    let (s, response) := s.answerAccess r
    (s, some response)
  else if port = s.settings.healthPort then (s, some (HealthApi.answer r))
  else (s, none)

end Service

end ClusterVault
