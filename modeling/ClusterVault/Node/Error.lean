import ClusterVault.Engine.Error
import ClusterVault.Time
import ClusterVault.Url.Host

/-!
# Failures of a node

## Main definitions

- `NodeStep`: what a node was doing
- `NodeError`, `NodeError.name`, `NodeError.message`: why it failed, and the wording
-/

namespace ClusterVault

/-- What a node was doing. -/
inductive NodeStep where
  | connecting
  | listingMembers
  | removingMember
  | addingMember
  | discovering
  | starting
  | checkingAuth
  | addingClientRole
  | grantingPermission
  | addingUser
  | grantingRole
  | enablingAuth
  | creatingLease
  | writing
  | reading
  deriving DecidableEq, Repr

/-- The wording of a step. -/
def NodeStep.phrase : NodeStep → String
  | connecting => "connecting to cluster"
  | listingMembers => "listing members"
  | removingMember => "removing member"
  | addingMember => "adding member"
  | discovering => "discovering cluster"
  | starting => "starting store"
  | checkingAuth => "checking auth status"
  | addingClientRole => "adding client role"
  | grantingPermission => "granting permission to client role"
  | addingUser => "adding user"
  | grantingRole => "granting role to user"
  | enablingAuth => "enabling authorization"
  | creatingLease => "creating lease for secrets"
  | writing => "writing transaction to store"
  | reading => "reading secret from store"

/-- Why a node failed, with servers that refuse requests with errors of type `ε`. -/
inductive NodeError (ε : Type) where
  | cancelled
  | certificate (cause : PkiError)
  | nameWithoutOrdinal (nodeName : String)
  /-- No cluster could be joined. The cause arose before the server was started. -/
  | join (cause : NodeError ε)
  | engine (step : NodeStep) (cause : ε)
  | notReady (bound : Duration)
  | secretsMissing
  | secretsExist (ids : List String)
  | timeout (step : NodeStep) (bound : Duration)
  | url (cause : Url.ParseError)
  /-- No cluster came up to be joined. -/
  | waitDeadline (bound : Duration)
  | writeFailed
  deriving DecidableEq, Repr

namespace NodeError

variable {ε : Type}

/-- The name of a failure, without what it holds. -/
def name : NodeError ε → String
  | cancelled => "Cancelled"
  | certificate _ => "Certificate"
  | nameWithoutOrdinal _ => "Config"
  | join _ => "Join"
  | engine .. => "Kv"
  | notReady _ => "NotReady"
  | secretsMissing => "SecretsMissing"
  | secretsExist _ => "SecretsExist"
  | timeout .. => "Timeout"
  | url _ => "Url"
  | waitDeadline _ => "WaitDeadline"
  | writeFailed => "WriteFailed"

/-- The wording of a failure. -/
def message [EngineFault ε] : NodeError ε → String
  | cancelled => "cancelled"
  | certificate cause => s!"reading member certificate: {cause.message}"
  | nameWithoutOrdinal name =>
    s!"invalid configuration: node name {Quoted.text name} does not end in an ordinal"
  | join cause => s!"joining existing cluster: {cause.message}"
  | engine step cause => s!"{step.phrase}: {EngineFault.message cause}"
  | notReady bound => s!"store took too long to become ready ({Duration.render bound})"
  | secretsMissing => "failed deleting secrets from store, does the secret exist?"
  | secretsExist ids =>
    "\n".intercalate (ids.map fun id => s!"secret {Quoted.text id} already exists")
  | timeout step bound => s!"{step.phrase} timed out after {Duration.render bound}"
  | url cause => cause.message
  | waitDeadline bound =>
    s!"timed out after {Duration.render bound} waiting for the bootstrapper to bootstrap a cluster"
  | writeFailed => "failed writing secrets to store"

end NodeError

end ClusterVault
