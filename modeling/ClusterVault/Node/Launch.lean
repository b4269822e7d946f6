import ClusterVault.Node.Repair
import ClusterVault.Secrets.Store

/-!
# Launching a node

## Main definitions

- `JoinMethod`: whether a node founds a cluster or joins one
- `Launcher`: the options of a node and the user it acts as
- `Launcher.make`: reads the certificate of a node
- `Launcher.launch`: starts the server of a node and makes it ready for use

## Design notes

When a node joins, all that fails before its server has started is a failure to join, save being
cancelled. Once the server has started it is closed before any failure is passed on.
-/

namespace ClusterVault

/-- How the server of a node comes up. -/
inductive JoinMethod where
  /-- Found a cluster with this node as the only member. -/
  | bootstrap
  /-- Join a cluster, after repairing the membership. -/
  | join
  deriving DecidableEq, Repr

/-- The options of a node and the user it acts as. -/
structure Launcher where
  options : LaunchOptions
  user : String
  deriving DecidableEq, Repr

namespace Launcher

variable {ε : Type}

/-- A launcher for a node, which acts as the common name of its certificate. -/
def make (o : LaunchOptions) (files : FileSystem) : Except (NodeError ε) Launcher :=
  match o.names.ordinal? o.nodeName with
  | none => .error (.nameWithoutOrdinal o.nodeName)
  | some _ =>
    match files.readIdentity o.tls.certificate with
    | .error e => .error (.certificate e)
    | .ok user => .ok ⟨o, user⟩

/-- What became of joining: all but being cancelled is a failure to join. -/
def joinError : NodeError ε → NodeError ε
  | .cancelled => .cancelled
  | e => .join e

/-- Finds the peers, within the bound on joining. -/
def discover (l : Launcher) : Procedure ε (List Peer) := do
  let bound := l.options.joinTimeout
  match ← Procedure.uncancelled (Activity.timeout bound (repair l.options).run) with
  | some result => Procedure.ofExcept result
  | none => throw (.timeout .discovering bound)

/-- The settings to start with. -/
def prepare (l : Launcher) : JoinMethod → Procedure ε ServerConfig
  | .bootstrap => Procedure.ofUrl (l.options.serverConfig [] .new)
  | .join =>
    tryCatch
      (do
        let peers ← l.discover
        Procedure.ofUrl (l.options.serverConfig peers .existing))
      fun e => throw (joinError e)

/-- Starts a server. -/
def startServer (method : JoinMethod) (config : ServerConfig) : Procedure ε ServerHandle := do
  match ← Procedure.uncancelled (Activity.request (.start config)) with
  | .ok server => pure server
  | .error e =>
    match method with
    | .join => throw (joinError (.engine .starting e))
    | .bootstrap => throw (.engine .starting e)

variable [EngineFault ε]

/-- Waits until a server is a member, and sets up access control. -/
def makeUsable (l : Launcher) (server : ServerHandle) : Procedure ε Unit := do
  let bound := l.options.readinessTimeout
  match ← Procedure.uncancelled (Activity.timeout bound (Activity.request (.ready server))) with
  | some _ => pure ()
  | none => throw (.notReady bound)
  Procedure.ofExcept (← Procedure.uncancelled (setUpAuth server l.user).run)

/-- Starts the server of a node and makes it ready for use. -/
def launch (l : Launcher) (method : JoinMethod) : Procedure ε SecretStore := do
  let config ← l.prepare method
  let server ← startServer method config
  (l.makeUsable server).orElse (Activity.request (.close server))
  return ⟨server, l.user⟩

end Launcher

end ClusterVault
